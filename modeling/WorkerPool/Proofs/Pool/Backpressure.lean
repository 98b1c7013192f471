import Mathlib.Algebra.Order.BigOperators.Group.List
import WorkerPool.Proofs.Pool.Submission

namespace WorkerPool.Pool.Interleaving

variable {β ρ : Type} {settings : PoolSettings} {queueId : Nat}

theorem Entry.taken_le {l m : Ledger β ρ} (entry : Entry l m) {c : Nat}
    (capacity : l.queue.capacity = some c) (once : l.removed = [] ∨ l.queue.closed = true)
    (before : l.removed.length + l.queue.length ≤ c) : m.removed.length + m.queue.length ≤ c := by
  cases entry with
  | accept call tasks these opened room =>
      have untouched : l.removed = [] := once.resolve_right (by simp [opened])
      have fits : l.queue.length + tasks.length ≤ c := by
        simpa [Queue.isFull, capacity] using room
      simpa [untouched, Queue.length] using fits
  | fetch i batch =>
      have shorter : (l.queue.items.drop l.settings.batchSize).length ≤ l.queue.items.length := by
        simp
      simp only [Queue.length] at before ⊢
      omega
  | remove => simpa [Queue.length] using before
  | _ => exact before

theorem Reachable.taken_le {s : State β ρ} (reached : Reachable settings queueId s)
    (manned : 0 < settings.workers.count) (roomy : settings.roomy = true) {c : Nat}
    (capacity : settings.capacity = some c) : s.removed.length + s.pool.queue.length ≤ c := by
  apply reached.invariant (P := fun s => s.removed.length + s.pool.queue.length ≤ c)
  · exact Nat.zero_le c
  · intro s a t reached step before
    have once : s.removed = [] ∨ s.pool.queue.closed = true := by
      by_cases untouched : s.removed = []
      · exact .inl untouched
      · have exited := reached.allExited_of_joined (.inl untouched)
        exact .inr (reached.stopped_of_allExited manned roomy exited).2
    exact (step.entry reached).taken_le (reached.capacity_eq.trans capacity) once before

theorem length_flatMap_le {α τ : Type} (entries : List α) (tasks : α → List τ) (most : Nat)
    (bound : ∀ entry ∈ entries, (tasks entry).length ≤ most) :
    (entries.flatMap tasks).length ≤ entries.length * most := by
  have sum := List.sum_le_card_nsmul (entries.map fun entry => (tasks entry).length) most
    (by simpa using bound)
  rwa [List.length_map, Nat.nsmul_eq_mul, ← List.length_flatMap] at sum

theorem Reachable.batched_le {s : State β ρ} (reached : Reachable settings queueId s) :
    s.batched.length ≤ settings.workers.count * settings.batchSize := by
  have each : ∀ w ∈ s.pool.workers, w.batch.length ≤ settings.batchSize := by
    intro w member
    obtain ⟨i, here⟩ := List.getElem?_of_mem member
    exact reached.batch_length i w here
  have all := length_flatMap_le _ Worker.batch settings.batchSize each
  rwa [reached.workers_length] at all

theorem Reachable.lefts_le {s : State β ρ} (reached : Reachable settings queueId s) :
    s.lefts.length ≤ settings.workers.count * settings.batchSize := by
  have each : ∀ i ∈ List.range s.pool.workers.length, (s.left i).length ≤ settings.batchSize := by
    intro i inside
    have here := List.getElem?_eq_getElem (List.mem_range.mp inside)
    have bound := reached.batch_length i _ here
    rw [s.left_eq here]
    cases s.posts i with
    | ended outcome | reported =>
        rw [State.unfinished, List.length_tail]
        omega
    | idle | waiting | busy => exact bound
  have all := length_flatMap_le _ s.left settings.batchSize each
  rwa [List.length_range, ← State.lefts.eq_def, reached.workers_length] at all

theorem Reachable.batch_of_fetch {s t : State β ρ} (reached : Reachable settings queueId s)
    {i : Nat} {w : Worker (Numbered β)} (here : s.pool.worker? i = some w)
    (step : Step s (.enter i) t ∨ Step s (.fetch i) t) : w.batch = [] := by
  have coherent := reached.coherent i w here
  rcases step with step | step
  · cases step with
    | enter i w' also stage post =>
        cases here.symm.trans also
        rw [post] at coherent
        exact coherent (.inl stage)
  · cases step with
    | fetch i w' also post =>
        rw [post] at coherent
        exact coherent.2

/-- What a pool with room for `c` tasks in its queue can hold. -/
structure Backpressure (settings : PoolSettings) (c : Nat) (s : State β ρ) : Prop where
  batch : ∀ i w, s.pool.worker? i = some w → w.batch.length ≤ settings.batchSize
  fetch : ∀ i w t, s.pool.worker? i = some w → Step s (.enter i) t ∨ Step s (.fetch i) t →
    w.batch = []
  queue : s.pool.queue.length ≤ c
  held : s.batched.length + s.pool.queue.length ≤ c + settings.workers.count * settings.batchSize
  unfinished : s.lefts.length + s.pool.queue.length ≤
    c + settings.workers.count * settings.batchSize
  unsettled : settings.roomy = true →
    s.ledger.unsettled.length ≤ c + settings.workers.count * settings.batchSize
  settled : (s.ran.map Ran.task ++ s.dropped ++ s.ledger.unsettled).Perm s.admitted.flatten

/-- Whoever submits tasks, a pool never has more of them unfinished than its queue and one batch for
each of its workers can hold. -/
theorem Reachable.backpressure {s : State β ρ} (reached : Reachable settings queueId s)
    (valid : settings.validate = .ok ()) {c : Nat} (capacity : settings.capacity = some c) :
    Backpressure settings c s where
  batch := reached.batch_length
  fetch _ _ _ := reached.batch_of_fetch
  queue := reached.length_le c (reached.capacity_eq.trans capacity)
  held := by
    have batched := reached.batched_le
    have queued := reached.length_le c (reached.capacity_eq.trans capacity)
    omega
  unfinished := by
    have lefts := reached.lefts_le
    have queued := reached.length_le c (reached.capacity_eq.trans capacity)
    omega
  unsettled := by
    intro roomy
    have lefts := reached.lefts_le
    have taken := reached.taken_le (manned_of_valid valid).1 roomy capacity
    have leaving := reached.removed_perm.length_eq
    have parts : s.ledger.unsettled.length =
        s.lefts.length + (s.joining.map Leaving.tasks).flatten.length + s.pool.queue.length := by
      change (s.lefts ++ _ ++ _).length = _
      rw [List.length_append, List.length_append]
      rfl
    rw [List.length_append] at leaving
    omega
  settled := reached.settled_perm

theorem backpressure_saturated : ∃ s : State Unit Unit,
    ({ workers := .fixed 2, batchSize := 2, capacity := some 2 } : PoolSettings).validate = .ok () ∧
      Reachable { workers := .fixed 2, batchSize := 2, capacity := some 2 } 0 s ∧
      s.ledger.unsettled.length = 2 + 2 * 2 ∧ s.refused.length = 1 ∧
      Backpressure { workers := .fixed 2, batchSize := 2, capacity := some 2 } 2 s := by
  have reached : Reachable { workers := .fixed 2, batchSize := 2, capacity := some 2 } 0
      (_ : State Unit Unit) :=
    .of_replay? [.enter 1, .offer none (.bulk [(), ()]), .enter 0, .fetch 0, .begin 0,
      .offer none (.bulk [(), ()]), .fetch 1, .begin 1, .offer none (.schedule ()),
      .offer none (.forget ()), .offer none (.schedule ())] rfl
  exact ⟨_, rfl, reached, rfl, rfl, reached.backpressure rfl rfl⟩

end WorkerPool.Pool.Interleaving
