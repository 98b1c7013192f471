import WorkerPool.Proofs.Queue.Session

namespace WorkerPool.Queue

variable {α : Type}

/-- How many of `count` items a queue takes that are offered one by one. -/
def places (q : Queue α) (count : Nat) : Nat :=
  if q.closed then 0
  else
    match q.capacity with
    | none => count
    | some capacity => min count (capacity - q.length)

def reason (q : Queue α) : Refusal := if q.closed then .closed else .full

def extend (q : Queue α) (items : List α) : Queue α := { q with items := q.items ++ items }

@[simp] theorem extend_nil (q : Queue α) : q.extend [] = q := by
  simp [extend]

@[simp] theorem extend_extend (q : Queue α) (front back : List α) :
    (q.extend front).extend back = q.extend (front ++ back) := by
  simp [extend]

@[simp] theorem reason_extend (q : Queue α) (items : List α) :
    (q.extend items).reason = q.reason := rfl

theorem places_le (q : Queue α) (count : Nat) : q.places count ≤ count := by
  unfold places
  split
  · exact Nat.zero_le count
  · split
    · exact Nat.le_refl count
    · exact Nat.min_le_left _ _

theorem places_eq_iff (q : Queue α) {count : Nat} (some : 0 < count) :
    q.places count = count ↔ q.closed = false ∧ q.isFull count = false := by
  unfold places isFull
  cases q.closed with
  | true => simp [Nat.ne_of_lt some]
  | false =>
      cases q.capacity with
      | none => simp
      | some capacity =>
          simp only [Bool.false_eq_true, if_false, decide_eq_false_iff_not, true_and]
          omega

theorem places_succ (q : Queue α) (item : α) (count : Nat) (first : q.places 1 = 1) :
    q.places (count + 1) = (q.extend [item]).places count + 1 := by
  unfold places at first ⊢
  cases closed : q.closed with
  | true => simp [closed] at first
  | false =>
      cases capacity : q.capacity with
      | none => simp [extend, closed, capacity]
      | some most =>
          simp only [closed, capacity, extend, length, List.length_append, List.length_singleton,
            Bool.false_eq_true, if_false] at first ⊢
          omega

theorem places_eq_zero (q : Queue α) (count : Nat) (none : q.places 1 ≠ 1) :
    q.places count = 0 := by
  unfold places at none ⊢
  cases closed : q.closed with
  | true => simp
  | false =>
      cases capacity : q.capacity with
      | none => simp [closed, capacity] at none
      | some most =>
          simp only [closed, capacity, Bool.false_eq_true, if_false] at none ⊢
          omega

theorem enqueueBulk_eq_places (q : Queue α) {batch : List α} (some : batch ≠ []) :
    q.enqueueBulk batch =
      if q.places batch.length = batch.length then .ok (q.extend batch)
      else .error ⟨q.reason, batch⟩ := by
  have fits := q.places_eq_iff (List.length_pos_iff.mpr some)
  simp only [fits]
  unfold enqueueBulk reason extend
  cases q.closed <;> cases q.isFull batch.length <;> rfl

namespace Call

def single (token : Option Nat) (item : α) : Call α :=
  match token with
  | none => .enqueue item
  | some t => .enqueueWith t item

def bulk (token : Option Nat) (batch : List α) : Call α :=
  match token with
  | none => .enqueueBulk batch
  | some t => .enqueueBulkWith t batch

theorem offer?_single (token : Option Nat) (item : α) :
    (single token item).offer? = some (token, [item]) := by
  cases token <;> rfl

theorem offer?_bulk (token : Option Nat) (batch : List α) :
    (bulk token batch).offer? = some (token, batch) := by
  cases token <;> rfl

end Call

namespace Session

theorem accept_nil (s : Session α) (token : Option Nat) : s.accept token [] = s := by
  cases token <;> simp [accept, record]

theorem accept_accept (s : Session α) (token : Option Nat) (front back : List α) :
    (s.accept token front).accept token back = s.accept token (front ++ back) := by
  cases token <;> simp [accept, record]

theorem owns_accept (s : Session α) {token : Option Nat} (own : s.Owns token) (items : List α) :
    (s.accept token items).Owns token := by
  cases token with
  | none => exact fun _ none => nomatch none
  | some t =>
      intro u same
      cases same
      simpa [accept, record, ProducerToken.record] using own t rfl

theorem offer_eq (s : Session α) {token : Option Nat} {items : List α} (own : s.Owns token)
    (some : items ≠ []) :
    s.offer token items =
      if s.queue.places items.length = items.length then (.taken, s.accept token items)
      else (.refused s.queue.reason items, s) := by
  rw [offer, if_pos ((s.owns_iff token).mpr own), s.queue.enqueueBulk_eq_places some]
  by_cases fits : s.queue.places items.length = items.length
  · rw [if_pos fits, if_pos fits]
    rfl
  · rw [if_neg fits, if_neg fits]

theorem run_singles (s : Session α) {token : Option Nat} (own : s.Owns token) (batch : List α) :
    s.run (batch.map (.single token)) =
      ((batch.take (s.queue.places batch.length)).map (fun item => ⟨.single token item, .taken⟩) ++
        (batch.drop (s.queue.places batch.length)).map
          (fun item => ⟨.single token item, .refused s.queue.reason [item]⟩),
        s.accept token (batch.take (s.queue.places batch.length))) := by
  induction batch generalizing s with
  | nil => simp [run, accept_nil]
  | cons item rest ih =>
      have first := s.perform_offer (Call.offer?_single token item)
      rw [s.offer_eq own (List.cons_ne_nil item []), List.length_singleton] at first
      rw [List.map_cons, run, first]
      by_cases fits : s.queue.places 1 = 1
      · have more := s.queue.places_succ item rest.length fits
        have later := ih _ (s.owns_accept own [item])
        have queue : (s.accept token [item]).queue = s.queue.extend [item] := rfl
        rw [queue, reason_extend, accept_accept] at later
        rw [if_pos fits, List.length_cons, more]
        simp [later]
      · have none (count : Nat) := s.queue.places_eq_zero count fits
        have later := ih s own
        rw [none] at later
        rw [if_neg fits, none]
        simp [later]

/-- What a queue does with a batch, beside what it does with the items one by one. -/
structure AsSingles (s : Session α) (token : Option Nat) (batch : List α) : Prop where
  taken_iff : (s.perform (.bulk token batch)).1 = .taken ↔
    ∀ e ∈ (s.run (batch.map (.single token))).1, e.answer = .taken
  taken : (s.perform (.bulk token batch)).1 = .taken →
    (s.perform (.bulk token batch)).2 = (s.run (batch.map (.single token))).2
  refused : (s.perform (.bulk token batch)).1 ≠ .taken →
    ∃ front item back reason, batch = front ++ item :: back ∧
      s.perform (.bulk token batch) = (.refused reason batch, s) ∧
      (s.run (batch.map (.single token))).1.map Exchange.answer =
        front.map (fun _ => .taken) ++ (item :: back).map (fun item => .refused reason [item]) ∧
      (s.run (batch.map (.single token))).2 = s.accept token front

theorem asSingles (s : Session α) {token : Option Nat} (own : s.Owns token) {batch : List α}
    (some : batch ≠ []) : s.AsSingles token batch := by
  have whole := s.perform_offer (Call.offer?_bulk token batch)
  rw [s.offer_eq own some] at whole
  have singles := s.run_singles own batch
  by_cases fits : s.queue.places batch.length = batch.length
  · rw [if_pos fits] at whole
    rw [fits, List.take_length, List.drop_length, List.map_nil, List.append_nil] at singles
    constructor <;> simp [whole, singles]
  · have less := Nat.lt_of_le_of_ne (s.queue.places_le batch.length) fits
    have more : batch.drop (s.queue.places batch.length) ≠ [] := by
      simpa [List.drop_eq_nil_iff] using less
    obtain ⟨item, back, rest⟩ := List.exists_cons_of_ne_nil more
    have split := List.take_append_drop (s.queue.places batch.length) batch
    rw [rest] at split singles
    rw [if_neg fits] at whole
    generalize batch.take (s.queue.places batch.length) = front at split singles
    have first : ⟨.single token item, .refused s.queue.reason [item]⟩ ∈
        (s.run (batch.map (.single token))).1 := by
      simp [singles]
    constructor
    · rw [whole]
      exact iff_of_false (by simp) fun all => nomatch all _ first
    · simp [whole]
    · intro _
      refine ⟨front, item, back, s.queue.reason, split.symm, whole, ?_, ?_⟩
      · rw [singles, List.map_append, List.map_map, List.map_map]
        rfl
      · rw [singles]

end Session

end WorkerPool.Queue
