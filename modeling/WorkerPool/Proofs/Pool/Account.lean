import Mathlib.Data.List.Perm.Basic
import WorkerPool.Proofs.Pool.Control

namespace WorkerPool.Pool.Interleaving

variable {β ρ : Type} {settings : PoolSettings} {queueId : Nat}

def State.batched (s : State β ρ) : List (Task β) := s.pool.workers.flatMap Worker.batch

/-- The leftovers of a join that no counter has heard of. -/
def Leaving.uncounted (leaving : Leaving β) : List (Task β) :=
  if leaving.counted then [] else leaving.tasks

def State.uncounted (s : State β ρ) : List (Task β) := s.joining.flatMap Leaving.uncounted

theorem length_modify {α τ : Type} (tasks : α → List τ) (change : α → α) (entries : List α)
    (i : Nat) (entry : α) (here : entries[i]? = some entry) :
    ((entries.modify i change).flatMap tasks).length + (tasks entry).length =
      (entries.flatMap tasks).length + (tasks (change entry)).length := by
  induction entries generalizing i with
  | nil => simp at here
  | cons head tail ih =>
      cases i with
      | zero =>
          simp only [List.getElem?_cons_zero, Option.some.injEq] at here
          simp only [List.modify_zero_cons, List.flatMap_cons, List.length_append, here]
          omega
      | succ n =>
          have later := ih n (by simpa using here)
          simp only [List.modify_succ_cons, List.flatMap_cons, List.length_append]
          omega

theorem length_eraseIdx {α τ : Type} (tasks : α → List τ) (entries : List α) (i : Nat) (entry : α)
    (here : entries[i]? = some entry) :
    ((entries.eraseIdx i).flatMap tasks).length + (tasks entry).length =
      (entries.flatMap tasks).length := by
  obtain ⟨inside, found⟩ := List.getElem?_eq_some_iff.mp here
  have same := (List.getElem_cons_eraseIdx_perm inside).flatMap_right tasks
  rw [← same.length_eq, List.flatMap_cons, List.length_append, found, Nat.add_comm]

theorem Reachable.counted {s : State β ρ} (reached : Reachable settings queueId s) :
    s.pool.stats.executed + s.batched.length = (s.batches.flatMap Prod.snd).length ∧
      s.pool.stats.abandoned + s.uncounted.length = s.removed.length := by
  refine reached.invariant (P := fun s =>
    s.pool.stats.executed + s.batched.length = (s.batches.flatMap Prod.snd).length ∧
      s.pool.stats.abandoned + s.uncounted.length = s.removed.length) ?_ ?_
  · have none : (State.start settings queueId : State β ρ).batched = [] := by
      apply List.flatMap_eq_nil_iff.mpr
      intro w member
      obtain ⟨i, here⟩ := List.getElem?_of_mem member
      exact (State.worker_start here).1
    rw [none]
    exact ⟨rfl, rfl⟩
  · intro s a t _ step before
    cases step with
    | offer token call =>
        rcases s.offer_cases token call with ⟨_, _, _, result⟩ | ⟨_, _, result⟩ <;>
          rwa [result]
    | tally k offer pending =>
        obtain ⟨_, _, _, result⟩ := s.pool.tally_eq offer.tasks offer.event offer.decision
        rwa [State.tally, result]
    | fetch i w here post =>
        let batch := s.pool.queue.items.take s.pool.settings.batchSize
        have batched : (s.fetch i).batched.length + w.batch.length =
            s.batched.length + (w.batch ++ batch).length :=
          length_modify Worker.batch _ s.pool.workers i w here
        have fetched : (s.fetch i).batches.flatMap Prod.snd =
            s.batches.flatMap Prod.snd ++ batch := by
          simp [State.fetch, Queue.fetch, batch]
        rw [List.length_append] at batched
        refine ⟨?_, before.2⟩
        rw [fetched, List.length_append]
        change s.pool.stats.executed + _ = _
        omega
    | report i w outcome here post =>
        obtain ⟨_, _, result⟩ := s.pool.countPanic_eq i outcome
        rwa [State.report, result]
    | count i w task here current post =>
        obtain ⟨rest, batch⟩ := List.head?_eq_some_iff.mp current
        have result := s.pool.countTask_eq i task (by rw [s.pool.current?_eq here, current])
        have batched := length_modify Worker.batch
          (fun w => { w with batch := w.batch.tail }) s.pool.workers i w here
        simp only [batch, List.length_cons, List.tail_cons] at batched
        rw [State.count, result]
        refine ⟨?_, before.2⟩
        simp only [State.batched, State.stand, Stats.execute] at before ⊢
        omega
    | check i n w here stage done post =>
        obtain ⟨_, result⟩ := s.pool.check_eq i w here
        have batched := length_modify Worker.batch
          (fun _ => w.check s.pool.signal.raised s.pool.settings.stopPolicy) s.pool.workers i w here
        rw [check_batch] at batched
        rw [State.check, result]
        refine ⟨?_, before.2⟩
        simp only [State.batched] at before ⊢
        omega
    | raise closed =>
        obtain ⟨_, result⟩ := s.pool.trigger_eq
        rwa [State.raise, result]
    | takeLeftovers exited =>
        have taken : s.takeLeftovers.uncounted = s.uncounted ++ s.pool.queue.items := by
          simp [State.takeLeftovers, State.uncounted, Leaving.uncounted, removeLeftovers,
            Queue.drain]
        refine ⟨before.1, ?_⟩
        rw [taken, List.length_append]
        change _ = (s.removed ++ s.pool.queue.items).length
        rw [List.length_append, ← before.2, Nat.add_assoc]
        rfl
    | countLeftovers k leftovers taken =>
        obtain ⟨_, result⟩ := s.pool.countLeftovers_eq leftovers
        have total :=
          length_modify Leaving.uncounted (fun _ => ⟨leftovers, true⟩) s.joining k _ taken
        rw [List.modify_eq_set] at total
        simp only [Leaving.uncounted, Bool.false_eq_true, if_false, if_true,
          List.length_nil] at total
        rw [State.countLeftovers, result]
        refine ⟨before.1, ?_⟩
        simp only [State.uncounted, Stats.abandon] at before ⊢
        omega
    | dropLeftovers k leftovers counted =>
        have total := length_eraseIdx Leaving.uncounted s.joining k _ counted
        simp only [Leaving.uncounted, if_true, List.length_nil] at total
        refine ⟨before.1, ?_⟩
        simp only [State.dropLeftovers, State.uncounted] at before ⊢
        omega
    | _ => exact before

end WorkerPool.Pool.Interleaving
