import WorkerPool.Proofs.Queue.Session

namespace WorkerPool.Queue.Session

variable {α : Type}

theorem Step.items_eq {s t : Session α} {call : Call α} {answer : Answer α}
    (step : Step s call answer t) :
    s.queue.items ++ (Exchange.mk call answer).admitted =
      (Exchange.mk call answer).removed ++ t.queue.items := by
  cases step with
  | foreign | closed | full | fetchForeign | dequeueNone | close =>
      simp [Exchange.admitted, Exchange.removed]
  | taken offer => simp [Exchange.admitted, Exchange.removed, Call.offered, offer, accept]
  | fetch t out max batch rest own split =>
      simp [Exchange.admitted, Exchange.removed, Call.held, split]
  | dequeue item rest head => simp [Exchange.admitted, Exchange.removed, head]
  | drain => simp [Exchange.admitted, Exchange.removed]

theorem Step.same {s t : Session α} {call : Call α} {answer : Answer α}
    (step : Step s call answer t) :
    t.queue.id = s.queue.id ∧ t.queue.capacity = s.queue.capacity := by
  cases step <;> exact ⟨rfl, rfl⟩

theorem Step.bound {s t : Session α} {call : Call α} {answer : Answer α}
    (step : Step s call answer t) (bound : s.queue.HasRoom 0) : t.queue.HasRoom 0 := by
  intro capacity same
  cases step with
  | taken offer own opened room =>
      have fits := room capacity same
      simpa [accept, length] using fits
  | fetch t out max batch rest own split =>
      have fits := bound capacity same
      simp only [length, split, List.length_append] at fits ⊢
      omega
  | dequeue item rest head =>
      have fits := bound capacity same
      simp only [length, head, List.length_cons] at fits ⊢
      omega
  | drain => exact Nat.zero_le capacity
  | foreign | closed | full | fetchForeign | dequeueNone | close => exact bound capacity same

theorem Step.closed_iff {s t : Session α} {call : Call α} {answer : Answer α}
    (step : Step s call answer t) :
    t.queue.closed = true ↔ s.queue.closed = true ∨ call = .close := by
  cases step with
  | foreign offer | closed offer | full offer | taken offer =>
      have other : call ≠ .close := by
        rintro rfl
        cases offer
      simp [other, accept]
  | fetchForeign | fetch | dequeueNone | dequeue | close | drain => simp

theorem Step.closing_iff {s t : Session α} {call : Call α} {answer : Answer α}
    (step : Step s call answer t) :
    (Exchange.mk call answer).closing = true ↔
      s.queue.closed = false ∧ t.queue.closed = true := by
  cases step <;> simp [Exchange.closing, accept]

theorem Step.not_taken {s t : Session α} {call : Call α} {answer : Answer α}
    (step : Step s call answer t) (closed : s.queue.closed = true) : answer ≠ .taken := by
  cases step with
  | taken offer own opened => simp [closed] at opened
  | _ => simp

theorem run_cons (s : Session α) (call : Call α) (rest : List (Call α)) :
    s.run (call :: rest) =
      (⟨call, (s.perform call).1⟩ :: ((s.perform call).2.run rest).1,
        ((s.perform call).2.run rest).2) := rfl

theorem run_keeps {P : Session α → Prop}
    (keep : ∀ {s t call answer}, Step s call answer t → P s → P t) {s : Session α} (holds : P s)
    (calls : List (Call α)) : P (s.run calls).2 := by
  induction calls generalizing s with
  | nil => exact holds
  | cons call rest ih =>
      rw [run_cons]
      exact ih (keep (s.perform_step call) holds)

theorem run_items (s : Session α) (calls : List (Call α)) :
    s.queue.items ++ (s.run calls).1.flatMap Exchange.admitted =
      (s.run calls).1.flatMap Exchange.removed ++ (s.run calls).2.queue.items := by
  induction calls generalizing s with
  | nil => simp [run]
  | cons call rest ih =>
      have first := (s.perform_step call).items_eq
      have later := ih (s.perform call).2
      rw [run_cons]
      simp only [List.flatMap_cons]
      rw [← List.append_assoc, first, List.append_assoc, later, List.append_assoc]

theorem run_closed (s : Session α) (calls : List (Call α)) :
    (s.run calls).2.queue.closed = true ↔ s.queue.closed = true ∨ .close ∈ calls := by
  induction calls generalizing s with
  | nil => simp [run]
  | cons call rest ih =>
      rw [run_cons, ih, (s.perform_step call).closed_iff, List.mem_cons, or_assoc]
      simp only [eq_comm]

theorem run_closing (s : Session α) (calls : List (Call α)) :
    (s.run calls).1.countP Exchange.closing =
      if s.queue.closed = false ∧ (s.run calls).2.queue.closed = true then 1 else 0 := by
  induction calls generalizing s with
  | nil => simp [run]
  | cons call rest ih =>
      have step := s.perform_step call
      rw [run_cons, List.countP_cons, ih]
      simp only [step.closing_iff]
      cases after : (s.perform call).2.queue.closed with
      | false =>
          have before : s.queue.closed = false := by
            simpa using mt (fun closed => step.closed_iff.mpr (.inl closed)) (by simp [after])
          simp [before]
      | true =>
          have stays := ((s.perform call).2.run_closed rest).mpr (.inl after)
          simp [stays]

theorem run_not_taken (s : Session α) (calls : List (Call α)) (closed : s.queue.closed = true) :
    ∀ e ∈ (s.run calls).1, e.answer ≠ .taken := by
  induction calls generalizing s with
  | nil => simp [run]
  | cons call rest ih =>
      have step := s.perform_step call
      rw [run_cons, List.forall_mem_cons]
      exact ⟨step.not_taken closed, ih _ (step.closed_iff.mpr (.inl closed))⟩

/-- How a queue takes the items that a call offers, all of them or none. -/
structure Admission (s : Session α) (call : Call α) (token : Option Nat) (items : List α) :
    Prop where
  foreign : ¬s.Owns token → s.perform call = (.foreign, s)
  taken_iff : s.Owns token →
    ((s.perform call).1 = .taken ↔ s.queue.closed = false ∧ s.queue.HasRoom items.length)
  grown : (s.perform call).1 = .taken → (s.perform call).2 = s.accept token items
  refused : s.Owns token → (s.perform call).1 ≠ .taken →
    s.perform call = (.refused (if s.queue.closed then .closed else .full) items, s)

theorem admission (s : Session α) {call : Call α} {token : Option Nat} {items : List α}
    (offer : call.offer? = some (token, items)) : s.Admission call token items := by
  have same := s.perform_offer offer
  rcases s.offer_cases token items with ⟨other, result⟩ | ⟨own, closed, result⟩ |
    ⟨own, opened, full, result⟩ | ⟨own, opened, room, result⟩ <;> rw [result] at same
  · constructor <;> simp [same, other]
  · constructor <;> simp [same, own, closed]
  · constructor <;> simp [same, own, opened, full]
  · constructor <;> simp [same, own, opened, room]

/-- What a queue gives to a client, always from its front. -/
structure Retrieval (s : Session α) : Prop where
  foreign : ∀ t out max, (s.consumers t).queueId ≠ s.queue.id →
    s.perform (.fetch t out max) = (.foreign, s)
  fetch : ∀ t out max, (s.consumers t).queueId = s.queue.id →
    (s.perform (.fetch t out max)).1 =
      .fetched (min max s.queue.length) (out ++ s.queue.items.take max)
  dequeue : (s.perform .tryDequeue).1 = .dequeued s.queue.items.head?
  drain : (s.perform .drain).1 = .drained s.queue.items

theorem retrieval (s : Session α) : s.Retrieval where
  foreign t out max other := by
    have theirs : s.queue.ownsConsumer (s.consumers t) = false := beq_eq_false_iff_ne.mpr other
    simp [perform, fetchWith, theirs]
  fetch t out max own := by
    have mine : s.queue.ownsConsumer (s.consumers t) = true := beq_iff_eq.mpr own
    simp only [perform, fetchWith, mine, if_true, fetch_length]
    rfl
  dequeue := by
    simp only [perform, tryDequeue]
    cases s.queue.items <;> rfl
  drain := rfl

/-- Nothing comes into the queue any more, and what is in it can still be had in order. -/
structure Final (s : Session α) (later : List (Call α)) : Prop where
  not_taken : ∀ e ∈ (s.run later).1, e.answer ≠ .taken
  order : s.queue.items = (s.run later).1.flatMap Exchange.removed ++ (s.run later).2.queue.items

theorem final (s : Session α) (closed : s.queue.closed = true) (later : List (Call α)) :
    s.Final later := by
  have untaken := s.run_not_taken later closed
  have nothing : (s.run later).1.flatMap Exchange.admitted = [] := by
    rw [List.flatMap_eq_nil_iff]
    intro e member
    have refused := untaken e member
    unfold Exchange.admitted
    split
    · contradiction
    · rfl
  have items := s.run_items later
  rw [nothing, List.append_nil] at items
  exact ⟨untaken, items⟩

structure Account (id : Nat) (capacity : Option Nat) (calls : List (Call α))
    (log : List (Exchange α)) (s : Session α) : Prop where
  answered : log.map Exchange.call = calls
  same : s.queue.id = id ∧ s.queue.capacity = capacity
  order : log.flatMap Exchange.admitted = log.flatMap Exchange.removed ++ s.queue.items
  bound : ∀ most, capacity = some most → s.queue.length ≤ most
  admission : ∀ call token items, call.offer? = some (token, items) → s.Admission call token items
  retrieval : s.Retrieval
  closed_iff : s.queue.closed = true ↔ .close ∈ calls
  closing : log.countP Exchange.closing = if s.queue.closed then 1 else 0
  final : s.queue.closed = true → ∀ later, s.Final later

theorem run_calls (s : Session α) (calls : List (Call α)) :
    (s.run calls).1.map Exchange.call = calls := by
  induction calls generalizing s with
  | nil => rfl
  | cons call rest ih => simp [run_cons, ih]

/-- A queue is first in, first out, within its capacity, and closed once. -/
theorem start_account (id : Nat) (capacity : Option Nat) (producers : Nat → ProducerToken)
    (consumers : Nat → ConsumerToken) (calls : List (Call α)) :
    Account id capacity calls ((start id capacity producers consumers).run calls).1
      ((start id capacity producers consumers).run calls).2 := by
  generalize fresh : start id capacity producers consumers = s
  have queue : s.queue = { id, capacity } := by rw [← fresh]; rfl
  have same : (s.run calls).2.queue.id = id ∧ (s.run calls).2.queue.capacity = capacity :=
    s.run_keeps (P := fun s => s.queue.id = id ∧ s.queue.capacity = capacity)
      (fun step now => by rwa [step.same.1, step.same.2]) ⟨by rw [queue], by rw [queue]⟩ calls
  have empty : s.queue.HasRoom 0 := by
    rw [queue]
    exact fun most _ => Nat.zero_le most
  have bound := s.run_keeps (P := fun s => s.queue.HasRoom 0) Step.bound empty calls
  exact
    { answered := s.run_calls calls
      same
      order := by simpa [queue] using s.run_items calls
      bound := fun most limit => bound most (same.2.trans limit)
      admission := fun _ _ _ offer => (s.run calls).2.admission offer
      retrieval := (s.run calls).2.retrieval
      closed_iff := by simpa [queue] using s.run_closed calls
      closing := by simpa [queue] using s.run_closing calls
      final := (s.run calls).2.final }

example :
    ((start 0 (some 2) (fun _ => ⟨0, 0⟩) fun _ => ⟨0, 0⟩).run
      [.enqueueBulk [1, 2, 3], .enqueueWith 0 1, .close, .enqueueBulk [2, 3, 4], .close,
        .fetch 0 [] 5]).1.map Exchange.answer =
      [.refused .full [1, 2, 3], .taken, .closed true, .refused .closed [2, 3, 4], .closed false,
        .fetched 1 [1]] := by
  rfl

end WorkerPool.Queue.Session
