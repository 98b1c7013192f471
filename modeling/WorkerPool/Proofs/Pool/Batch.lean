import WorkerPool.Proofs.Pool.Calls
import WorkerPool.Proofs.Queue.Batch

namespace WorkerPool.Pool

variable {α β : Type}

def rejection? : Verdict → Option Rejection
  | .ok _ => none
  | .error reason => some reason

@[simp] theorem rejection?_ok (token : Option ProducerToken) : rejection? (.ok token) = none := rfl

@[simp] theorem rejection?_error (reason : Rejection) :
    rejection? (.error reason) = some reason := rfl

def rejection (p : Pool β) : Rejection :=
  match p.queue.reason with
  | .full => .queueFull (p.queue.capacity.getD 0)
  | .closed => .stopped

def letIn (p : Pool β) (jobs : List (Job β)) : Pool β :=
  { p with queue := p.queue.extend jobs, stats := p.stats.schedule jobs.length }

def turnAway (p : Pool β) (tasks : Nat) (reports : List Event) : Pool β :=
  { p with stats := p.stats.reject tasks, events := p.events ++ reports }

/-- Tasks without channels submitted one by one, each through the token as the last one left it. -/
def forgetEach (p : Pool β) (token : Option ProducerToken) :
    List β → List Verdict × Option ProducerToken × Pool β
  | [] => ([], token, p)
  | body :: rest =>
    let (verdict, next) := p.forget token body
    let (verdicts, last) := next.forgetEach (Interleaving.Submission.tokenAfter token verdict) rest
    (verdict :: verdicts, last)

theorem verdict_reason (p : Pool β) :
    p.verdict (.refused p.queue.reason) = .error p.rejection := by
  unfold rejection
  cases p.queue.reason <;> rfl

theorem letIn_nil (p : Pool β) : p.letIn [] = p := by
  simp [letIn, Stats.schedule]

theorem letIn_letIn (p : Pool β) (front back : List (Job β)) :
    (p.letIn front).letIn back = p.letIn (front ++ back) := by
  simp [letIn, Stats.schedule, Nat.add_assoc]

theorem turnAway_zero (p : Pool β) : p.turnAway 0 [] = p := by
  simp [turnAway, Stats.reject]

theorem turnAway_turnAway (p : Pool β) (first second : Nat) (front back : List Event) :
    (p.turnAway first front).turnAway second back =
      p.turnAway (first + second) (front ++ back) := by
  simp [turnAway, Stats.reject, Nat.add_assoc]

theorem accepts_record (p : Pool β) (token : Option ProducerToken) (count : Nat) :
    p.accepts (token.map (·.record count)) = p.accepts token := by
  cases token <;> rfl

theorem bulk_eq_places (p : Pool β) {token : Option ProducerToken} (own : p.accepts token = true)
    {bodies : List β} (some : bodies ≠ []) :
    p.bulk token bodies =
      if p.queue.places bodies.length = bodies.length then
        (.ok (token.map (·.record bodies.length)), p.letIn (bodies.map (⟨·, none⟩)))
      else
        (.error p.rejection,
          p.turnAway bodies.length [.bulkRejected p.queue.reason bodies.length]) := by
  have jobs : bodies.map (fun body => (⟨body, none⟩ : Job β)) ≠ [] := by simpa using some
  have whole := p.queue.enqueueBulk_eq_places jobs
  rw [bulk, submitBulk, offerBulk, if_pos own, whole, List.length_map]
  by_cases fits : p.queue.places bodies.length = bodies.length
  · rw [if_pos fits, if_pos fits, letIn, List.length_map]
    rfl
  · rw [if_neg fits, if_neg fits, ← verdict_reason]
    rfl

theorem forget_eq_places (p : Pool β) {token : Option ProducerToken}
    (own : p.accepts token = true) (body : β) :
    p.forget token body =
      if p.queue.places 1 = 1 then (.ok (token.map (·.record 1)), p.letIn [⟨body, none⟩])
      else (.error p.rejection, p.turnAway 1 [.taskRejected p.queue.reason]) := by
  have single := p.queue.enqueueBulk_eq_places (List.cons_ne_nil (⟨body, none⟩ : Job β) [])
  rw [forget, submit, offer_eq_offerBulk, offerBulk, if_pos own, single, List.length_singleton]
  by_cases fits : p.queue.places 1 = 1
  · rw [if_pos fits, if_pos fits]
    rfl
  · rw [if_neg fits, if_neg fits, ← verdict_reason]
    rfl

theorem forgetEach_refused (p : Pool β) {token : Option ProducerToken}
    (own : p.accepts token = true) (none : p.queue.places 1 ≠ 1) (bodies : List β) :
    (p.forgetEach token bodies).1.map rejection? = bodies.map (fun _ => some p.rejection) ∧
      (p.forgetEach token bodies).2 = (token,
        p.turnAway bodies.length (bodies.map fun _ => .taskRejected p.queue.reason)) := by
  induction bodies generalizing p with
  | nil => simp [forgetEach, turnAway_zero]
  | cons body rest ih =>
      have first := p.forget_eq_places own body
      rw [if_neg none] at first
      obtain ⟨verdicts, last⟩ := ih (p.turnAway 1 [.taskRejected p.queue.reason]) own none
      rw [turnAway_turnAway] at last
      simp only [forgetEach, first, List.map_cons, Interleaving.Submission.tokenAfter]
      constructor
      · rw [verdicts]
        rfl
      · rw [last, List.length_cons, Nat.add_comm]
        rfl

theorem forgetEach_append (p : Pool β) {token : Option ProducerToken}
    (own : p.accepts token = true) (front back : List β)
    (fits : p.queue.places (front ++ back).length = front.length) :
    (p.forgetEach token (front ++ back)).1.map rejection? =
        front.map (fun _ => none) ++ back.map (fun _ => some p.rejection) ∧
      (p.forgetEach token (front ++ back)).2 = (token.map (·.record front.length),
        (p.letIn (front.map (⟨·, none⟩))).turnAway back.length
          (back.map fun _ => .taskRejected p.queue.reason)) := by
  induction front generalizing p token with
  | nil =>
      have same : token.map (·.record 0) = token := by simp
      rw [List.nil_append, List.length_nil, same, List.map_nil, List.map_nil, letIn_nil]
      cases back with
      | nil => simp [forgetEach, turnAway_zero]
      | cons body rest =>
          refine p.forgetEach_refused own (fun first => ?_) (body :: rest)
          have some := p.queue.places_succ ⟨body, none⟩ rest.length first
          simp [some] at fits
  | cons body rest ih =>
      have first : p.queue.places 1 = 1 := by
        by_contra none
        rw [p.queue.places_eq_zero _ none] at fits
        simp at fits
      have more : (p.letIn [⟨body, none⟩]).queue.places (rest ++ back).length = rest.length := by
        have succ := p.queue.places_succ ⟨body, none⟩ (rest ++ back).length first
        rw [List.cons_append, List.length_cons, succ, List.length_cons] at fits
        exact Nat.succ.inj fits
      have forgotten := p.forget_eq_places own body
      rw [if_pos first] at forgotten
      have mine : (p.letIn [⟨body, none⟩]).accepts (token.map (·.record 1)) = true :=
        (accepts_record _ token 1).trans own
      obtain ⟨verdicts, last⟩ := ih (p.letIn [⟨body, none⟩]) mine more
      have recorded : (token.map (·.record 1)).map (·.record rest.length) =
          token.map (·.record (rest.length + 1)) := by
        simp [Function.comp_def, Nat.add_comm]
      rw [recorded, letIn_letIn] at last
      simp only [List.cons_append, forgetEach, forgotten, List.map_cons,
        Interleaving.Submission.tokenAfter]
      constructor
      · rw [verdicts]
        rfl
      · rw [last]
        rfl

/-- What a pool does with a bulk of tasks, beside what it does with the tasks one by one. -/
structure AsSingles (p : Pool β) (token : Option ProducerToken) (bodies : List β) : Prop where
  accepted_iff : rejection? (p.bulk token bodies).1 = none ↔
    ∀ verdict ∈ (p.forgetEach token bodies).1, rejection? verdict = none
  accepted : rejection? (p.bulk token bodies).1 = none →
    p.bulk token bodies = (.ok (p.forgetEach token bodies).2.1, (p.forgetEach token bodies).2.2)
  refused : rejection? (p.bulk token bodies).1 ≠ none →
    ∃ front body back, bodies = front ++ body :: back ∧
      p.bulk token bodies = (.error p.rejection,
        p.turnAway bodies.length [.bulkRejected p.queue.reason bodies.length]) ∧
      (p.forgetEach token bodies).1.map rejection? =
        front.map (fun _ => none) ++ (body :: back).map (fun _ => some p.rejection) ∧
      (p.forgetEach token bodies).2 = (token.map (·.record front.length),
        (p.letIn (front.map (⟨·, none⟩))).turnAway (body :: back).length
          ((body :: back).map fun _ => .taskRejected p.queue.reason))

theorem asSingles (p : Pool β) {token : Option ProducerToken} (own : p.accepts token = true)
    {bodies : List β} (some : bodies ≠ []) : p.AsSingles token bodies := by
  have whole := p.bulk_eq_places own some
  have split := List.take_append_drop (p.queue.places bodies.length) bodies
  have length := List.length_take_of_le (p.queue.places_le bodies.length)
  obtain ⟨verdicts, last⟩ := p.forgetEach_append own (bodies.take (p.queue.places bodies.length))
    (bodies.drop (p.queue.places bodies.length)) (by rw [split, length])
  rw [split] at verdicts last
  have all : (∀ verdict ∈ (p.forgetEach token bodies).1, rejection? verdict = none) ↔
      ∀ reason ∈ (p.forgetEach token bodies).1.map rejection?, reason = none := by
    simp only [List.forall_mem_map]
  by_cases fits : p.queue.places bodies.length = bodies.length
  · rw [if_pos fits] at whole
    rw [fits, List.take_length, List.drop_length] at verdicts last
    constructor
    · rw [all, whole, verdicts]
      simp
    · simp [whole, last, turnAway_zero]
    · simp [whole]
  · have less := Nat.lt_of_le_of_ne (p.queue.places_le bodies.length) fits
    have more : bodies.drop (p.queue.places bodies.length) ≠ [] := by
      simpa [List.drop_eq_nil_iff] using less
    obtain ⟨body, back, rest⟩ := List.exists_cons_of_ne_nil more
    rw [rest] at split verdicts last
    rw [if_neg fits] at whole
    generalize bodies.take (p.queue.places bodies.length) = front at split verdicts last
    have first : Option.some p.rejection ∈ (p.forgetEach token bodies).1.map rejection? := by
      simp [verdicts]
    constructor
    · rw [all, whole]
      exact iff_of_false (by simp) fun none => nomatch none _ first
    · simp [whole]
    · intro _
      exact ⟨front, body, back, split.symm, whole, verdicts, last⟩

/-- A batch is taken if its items, offered one by one, would all be taken, and both then come to the
same; else it is refused as the first of them is that is refused. So it is with tasks and a pool. -/
theorem bulk_as_singles :
    (∀ (s : Queue.Session α) (token : Option Nat) (batch : List α),
      s.Owns token → batch ≠ [] → s.AsSingles token batch) ∧
    ∀ (p : Pool β) (token : Option ProducerToken) (bodies : List β),
      p.accepts token = true → bodies ≠ [] → p.AsSingles token bodies :=
  ⟨fun s _ _ own some => s.asSingles own some, fun p _ _ own some => p.asSingles own some⟩

theorem bulk_as_singles_overfull : ∃ (s : Queue.Session Nat) (p : Pool Nat),
    s.Owns (some 4) ∧ (s.perform (.bulk (some 4) [2, 3])).1 = .taken ∧
      (s.perform (.bulk (some 4) [2, 3, 5])).1 = .refused .full [2, 3, 5] ∧
      s.AsSingles (some 4) [2, 3] ∧ s.AsSingles (some 4) [2, 3, 5] ∧
      p.accepts (some ⟨0, 6⟩) = true ∧
      rejection? (p.bulk (some ⟨0, 6⟩) [7, 8]).1 = some (.queueFull 1) ∧
      p.AsSingles (some ⟨0, 6⟩) [7, 8] := by
  obtain ⟨queue, pool⟩ := @bulk_as_singles Nat Nat
  let s : Queue.Session Nat :=
    ((Queue.Session.start 0 (some 3) (fun _ => ⟨0, 0⟩) fun _ => ⟨0, 0⟩).run [.enqueue 1]).2
  have own : s.Owns (some 4) := fun _ _ => rfl
  exact ⟨s, .start { workers := .fixed 1, capacity := some 1 } 0, own, rfl, rfl,
    queue s _ _ own (by decide), queue s _ _ own (by decide), rfl, rfl,
    pool _ _ _ rfl (by decide)⟩

end WorkerPool.Pool
