import Mathlib.Algebra.BigOperators.Group.Finset.Piecewise
import WorkerPool.Proofs.Queue.Batch
import WorkerPool.Proofs.Queue.Fifo

namespace WorkerPool.Queue

variable {α : Type}

namespace Call

def producer? (call : Call α) : Option Nat := call.offer?.bind Prod.fst

def consumer? : Call α → Option Nat
  | fetch token _ _ => some token
  | _ => none

theorem producer?_of_offer {call : Call α} {token : Option Nat} {items : List α}
    (offer : call.offer? = some (token, items)) : call.producer? = token := by
  simp [producer?, offer]

theorem consumer?_of_offer {call : Call α} {token : Option Nat} {items : List α}
    (offer : call.offer? = some (token, items)) : call.consumer? = none := by
  cases call with
  | fetch => cases offer
  | _ => rfl

end Call

def Answer.turnedAway : Answer α → Bool
  | refused .. | foreign => true
  | _ => false

structure Meter (α : Type) where
  token? : Call α → Option Nat
  moved : Exchange α → List α
  maker : Session α → Nat → Nat
  count : Session α → Nat → Nat

namespace Meter

def producing : Meter α where
  token? := Call.producer?
  moved := Exchange.admitted
  maker s k := (s.producers k).queueId
  count s k := (s.producers k).enqueued

def consuming : Meter α where
  token? := Call.consumer?
  moved := Exchange.removed
  maker s k := (s.consumers k).queueId
  count s k := (s.consumers k).dequeued

/-- The items that went through a token, or through none: without one, a client can also take items
out by `tryDequeue` and `drain`. -/
def through (m : Meter α) (log : List (Exchange α)) (token : Option Nat) : List α :=
  (log.filter fun e => m.token? e.call = token).flatMap m.moved

theorem through_cons (m : Meter α) (e : Exchange α) (log : List (Exchange α))
    (token : Option Nat) :
    m.through (e :: log) token = m.through [e] token ++ m.through log token := by
  by_cases used : m.token? e.call = token <;> simp [through, used]

def Mine (m : Meter α) (s : Session α) (k : Nat) : Prop := m.maker s k = s.queue.id

instance (m : Meter α) (s : Session α) : DecidablePred (m.Mine s) := fun _ =>
  inferInstanceAs (Decidable (_ = _))

/-- What one exchange does to the tokens: the one it goes through counts the items, if it is the
queue's own, and no items go through another queue's. -/
structure Counts (m : Meter α) (s : Session α) (e : Exchange α) (t : Session α) : Prop where
  count (k : Nat) :
    m.count t k = m.count s k + if m.token? e.call = some k then (m.moved e).length else 0
  mine : m.Mine t = m.Mine s
  own (k : Nat) : m.token? e.call = some k → m.moved e ≠ [] → m.Mine s k

theorem Counts.of_still {m : Meter α} {s t : Session α} {e : Exchange α}
    (still : m.moved e = []) (count : m.count t = m.count s) (mine : m.Mine t = m.Mine s) :
    m.Counts s e t where
  count k := by simp [still, count]
  mine := mine
  own _ _ moved := absurd still moved

theorem Counts.of_none {m : Meter α} {s t : Session α} {e : Exchange α}
    (none : m.token? e.call = none) (count : m.count t = m.count s) (mine : m.Mine t = m.Mine s) :
    m.Counts s e t where
  count k := by simp [none, count]
  mine := mine
  own k token := by simp [none] at token

theorem Counts.of_token {m : Meter α} {s t : Session α} {e : Exchange α} {k : Nat}
    (used : m.token? e.call = some k) (own : m.Mine s k)
    (count : m.count t = Function.update (m.count s) k (m.count s k + (m.moved e).length))
    (mine : m.Mine t = m.Mine s) : m.Counts s e t where
  count j := by
    by_cases same : j = k
    · simp [same, used, count]
    · simp [same, Ne.symm same, used, count]
  mine := mine
  own j again _ := by
    rw [used] at again
    cases again
    exact own

theorem producing_counts {s t : Session α} {call : Call α} {answer : Answer α}
    (step : Session.Step s call answer t) : producing.Counts s ⟨call, answer⟩ t := by
  cases step with
  | @taken call token items offer own opened room =>
      have used : producing.token? call = token := Call.producer?_of_offer offer
      have moved : producing.moved ⟨call, .taken⟩ = items := by
        simp [producing, Exchange.admitted, Call.offered, offer]
      cases token with
      | none => exact .of_none used rfl rfl
      | some k =>
          refine .of_token used (own k rfl) ?_ ?_ <;> funext j <;> by_cases same : j = k
          · subst same
            rw [moved, Function.update_self]
            simp [producing, Session.accept, Session.record, ProducerToken.record]
          · simp [producing, Session.accept, Session.record, same]
          · simp [Mine, producing, Session.accept, Session.record, ProducerToken.record, same]
          · simp [Mine, producing, Session.accept, Session.record, same]
  | foreign | closed | full => exact .of_still rfl rfl rfl
  | fetchForeign | fetch | dequeueNone | dequeue | close | drain => exact .of_still rfl rfl rfl

theorem consuming_counts {s t : Session α} {call : Call α} {answer : Answer α}
    (step : Session.Step s call answer t) : consuming.Counts s ⟨call, answer⟩ t := by
  cases step with
  | fetch k out max batch rest own split =>
      have moved : consuming.moved ⟨.fetch k out max, .fetched batch.length (out ++ batch)⟩ =
          batch := by
        simp [consuming, Exchange.removed, Call.held]
      refine .of_token rfl own ?_ ?_ <;> funext j <;> by_cases same : j = k
      · subst same
        rw [moved, Function.update_self]
        simp [consuming, ConsumerToken.record]
      · simp [consuming, same]
      · simp [Mine, consuming, ConsumerToken.record, same]
      · simp [Mine, consuming, same]
  | foreign offer | closed offer | full offer | taken offer =>
      exact .of_none (Call.consumer?_of_offer offer) rfl rfl
  | fetchForeign => exact .of_still rfl rfl rfl
  | dequeueNone | dequeue | close | drain => exact .of_none rfl rfl rfl

variable {m : Meter α}
  (counts : ∀ {s t : Session α} {call answer}, Session.Step s call answer t →
    m.Counts s ⟨call, answer⟩ t)

include counts

theorem run_mine (s : Session α) (calls : List (Call α)) : m.Mine (s.run calls).2 = m.Mine s :=
  s.run_keeps (P := fun t => m.Mine t = m.Mine s) (fun step same => (counts step).mine.trans same)
    rfl calls

theorem run_count (s : Session α) (calls : List (Call α)) (k : Nat) :
    m.count (s.run calls).2 k = m.count s k + (m.through (s.run calls).1 (some k)).length := by
  induction calls generalizing s with
  | nil => simp [Session.run, through]
  | cons call rest ih =>
      have now := (counts (s.perform_step call)).count k
      rw [Session.run_cons, ih, now]
      by_cases used : m.token? call = some k <;> simp [through, used, Nat.add_assoc]

theorem step_total {s t : Session α} {call : Call α} {answer : Answer α}
    (step : Session.Step s call answer t) {tokens : Finset Nat}
    (inside : ∀ k, m.token? call = some k → k ∈ tokens) :
    ∑ k ∈ tokens with m.Mine s k, m.count t k + (m.through [⟨call, answer⟩] none).length =
      ∑ k ∈ tokens with m.Mine s k, m.count s k + (m.moved ⟨call, answer⟩).length := by
  have exact := counts step
  simp only [exact.count, Finset.sum_add_distrib, Nat.add_assoc]
  congr 1
  cases used : m.token? call with
  | none => simp [through, used]
  | some k =>
      -- Another queue's token is not among the summands, but nothing goes through it either.
      simp only [Option.some.injEq, Finset.sum_ite_eq, Finset.mem_filter, inside k used, true_and]
      by_cases still : m.moved ⟨call, answer⟩ = []
      · simp [through, used, still]
      · simp [through, used, exact.own k used still]

theorem run_total (s : Session α) (calls : List (Call α)) {tokens : Finset Nat}
    (inside : ∀ call ∈ calls, ∀ k, m.token? call = some k → k ∈ tokens) :
    ∑ k ∈ tokens with m.Mine s k, m.count (s.run calls).2 k +
        (m.through (s.run calls).1 none).length =
      ∑ k ∈ tokens with m.Mine s k, m.count s k + ((s.run calls).1.flatMap m.moved).length := by
  induction calls generalizing s with
  | nil => simp [Session.run, through]
  | cons call rest ih =>
      rw [List.forall_mem_cons] at inside
      have step := s.perform_step call
      have first := step_total counts step inside.1
      have later := ih (s.perform call).2 inside.2
      have same := (counts step).mine
      simp only [same] at later
      simp only [Session.run_cons]
      rw [m.through_cons, List.length_append, List.flatMap_cons, List.length_append]
      omega

end Meter

namespace Session

/-- All items that were moved went through the queue's tokens of one kind or through none. -/
structure Metered (m : Meter α) (calls : List (Call α)) (log : List (Exchange α)) (s : Session α) :
    Prop where
  share (k : Nat) : m.Mine s k → m.count s k = (m.through log (some k)).length
  total (tokens : Finset Nat) : (∀ call ∈ calls, ∀ k, m.token? call = some k → k ∈ tokens) →
    ∑ k ∈ tokens with m.Mine s k, m.count s k + (m.through log none).length =
      (log.flatMap m.moved).length

theorem metered {m : Meter α}
    (counts : ∀ {s t : Session α} {call answer}, Step s call answer t → m.Counts s ⟨call, answer⟩ t)
    (s : Session α) (fresh : ∀ k, m.Mine s k → m.count s k = 0) (calls : List (Call α)) :
    Metered m calls (s.run calls).1 (s.run calls).2 where
  share k mine := by
    rw [Meter.run_mine counts] at mine
    rw [Meter.run_count counts, fresh k mine, Nat.zero_add]
  total tokens inside := by
    have nothing : ∑ k ∈ tokens with m.Mine s k, m.count s k = 0 :=
      Finset.sum_eq_zero fun k member => fresh k (Finset.mem_filter.mp member).2
    simp only [Meter.run_mine counts]
    rw [Meter.run_total counts s calls inside, nothing, Nat.zero_add]

/-- A call that cannot move an item, or does not. -/
inductive Vain (s : Session α) : Call α → Prop
  | turnedAway {call : Call α} (away : (s.perform call).1.turnedAway = true) : s.Vain call
  | offerNothing {call : Call α} {token : Option Nat} (offer : call.offer? = some (token, [])) :
      s.Vain call
  | fetchNothing (t : Nat) (out : List α) : s.Vain (.fetch t out 0)
  | fetchEmpty (t : Nat) (out : List α) (max : Nat) (empty : s.queue.items = []) :
      s.Vain (.fetch t out max)

theorem fetch_still (s : Session α) (t : Nat) (out : List α) (max : Nat)
    (none : min max s.queue.length = 0) : (s.perform (.fetch t out max)).2 = s := by
  generalize result : s.perform (.fetch t out max) = after
  have step := s.perform_step (.fetch t out max)
  rw [result] at step
  obtain ⟨answer, next⟩ := after
  cases step with
  | foreign offer | closed offer | full offer | taken offer => cases offer
  | fetchForeign => rfl
  | fetch _ _ _ batch rest own split length =>
      have nothing : batch = [] := List.length_eq_zero_iff.mp (length.trans none)
      subst nothing
      rw [List.nil_append] at split
      simp [← split]

theorem Vain.still {s : Session α} {call : Call α} (vain : s.Vain call) :
    (s.perform call).2 = s := by
  cases vain with
  | turnedAway away =>
      have step := s.perform_step call
      generalize (s.perform call).1 = answer at step away
      generalize (s.perform call).2 = t at step
      cases step with
      | foreign | closed | full | fetchForeign => rfl
      | taken | fetch | dequeueNone | dequeue | close | drain => cases away
  | @offerNothing _ token offer =>
      rw [s.perform_offer offer]
      rcases s.offer_cases token [] with ⟨_, result⟩ | ⟨_, _, result⟩ | ⟨_, _, _, result⟩ |
        ⟨_, _, _, result⟩ <;> rw [result]
      exact s.accept_nil token
  | fetchNothing t out => exact s.fetch_still t out 0 (Nat.zero_min _)
  | fetchEmpty t out max empty => exact s.fetch_still t out max (by simp [length, empty])

structure TokenAccount (calls : List (Call α)) (log : List (Exchange α)) (s : Session α) :
    Prop where
  enqueued : Metered Meter.producing calls log s
  dequeued : Metered Meter.consuming calls log s
  length : (log.flatMap Exchange.removed).length + s.queue.length =
    (log.flatMap Exchange.admitted).length
  still : ∀ call, s.Vain call → (s.perform call).2 = s

/-- However a queue is used, its tokens and the calls without one account for every item. New tokens
have counted nothing; those of other queues may have. -/
theorem token_account (id : Nat) (capacity : Option Nat) (producers : Nat → ProducerToken)
    (consumers : Nat → ConsumerToken)
    (newProducers : ∀ k, (producers k).queueId = id → (producers k).enqueued = 0)
    (newConsumers : ∀ k, (consumers k).queueId = id → (consumers k).dequeued = 0)
    (calls : List (Call α)) :
    TokenAccount calls ((start id capacity producers consumers).run calls).1
      ((start id capacity producers consumers).run calls).2 where
  enqueued := metered Meter.producing_counts (start id capacity producers consumers)
    newProducers calls
  dequeued := metered Meter.consuming_counts (start id capacity producers consumers)
    newConsumers calls
  length := by
    have items := congrArg List.length ((start id capacity producers consumers).run_items calls)
    rw [List.length_append, List.length_append] at items
    exact items.symm.trans (Nat.zero_add _)
  still _ vain := vain.still

theorem token_account_three : ∃ log s,
    TokenAccount
        [.enqueueWith 0 1, .enqueueBulkWith 1 [2, 3], .enqueue 4, .enqueueBulkWith 0 [5],
          .enqueueWith 2 6, .enqueueBulkWith 1 [], .fetch 0 [7] 2, .fetch 2 [] 1, .fetch 1 [] 0,
          .tryDequeue, .enqueueBulk [8, 9], .fetch 1 [] 1, .drain, .fetch 0 [] 3,
          .enqueueBulkWith 0 [10, 11]] log s ∧
      log.map Exchange.answer =
        [.taken, .taken, .taken, .refused .full [5], .foreign, .taken, .fetched 2 [7, 1, 2],
          .foreign, .fetched 0 [], .dequeued (some 3), .taken, .fetched 1 [4], .drained [8, 9],
          .fetched 0 [], .taken] ∧
      (s.producers 0).enqueued + (s.producers 1).enqueued + 3 = 8 ∧
      (log.flatMap Exchange.admitted).length = 8 ∧
      (s.consumers 0).dequeued + (s.consumers 1).dequeued + 3 = 6 ∧
      (log.flatMap Exchange.removed).length = 6 ∧ s.queue.length = 2 ∧
      (s.producers 2).enqueued = 5 ∧ (s.consumers 2).dequeued = 6 := by
  refine ⟨_, _, token_account 0 (some 4) (fun k => if k < 2 then ⟨0, 0⟩ else ⟨9, 5⟩)
    (fun k => if k < 2 then ⟨0, 0⟩ else ⟨9, 6⟩) ?_ ?_ _, by decide, by decide, by decide,
    by decide, by decide, by decide, by decide, by decide⟩
  · intro k own
    by_cases small : k < 2
    · simp [small]
    · simp [small] at own
  · intro k own
    by_cases small : k < 2
    · simp [small]
    · simp [small] at own

end Session

end WorkerPool.Queue
