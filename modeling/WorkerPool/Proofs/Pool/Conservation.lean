import Mathlib.Data.List.Perm.Basic
import WorkerPool.Proofs.Pool.Replay
import WorkerPool.Proofs.Pool.Signal

namespace WorkerPool.Pool.Interleaving

variable {β ρ : Type} {settings : PoolSettings} {queueId : Nat}

theorem Reachable.order {s : State β ρ} (reached : Reachable settings queueId s) :
    s.admitted.flatten = s.batches.flatMap Prod.snd ++ s.removed ++ s.pool.queue.items := by
  apply reached.ledger (P := fun l =>
    l.admitted.flatten = l.batches.flatMap Prod.snd ++ l.removed ++ l.queue.items)
  · rfl
  · intro l m entry order
    cases entry with
    | accept call tasks => simp [order]
    | fetch i batch inside untouched brought =>
        -- No join has taken anything yet, so what is fetched comes right after the batches.
        subst brought
        simp [order, untouched]
    | remove => simp [order]
    | _ => exact order

theorem Reachable.fetchedBy_eq {s : State β ρ} (reached : Reachable settings queueId s) (i : Nat) :
    s.fetchedBy i = s.ranBy i ++ s.left i := by
  have kept := reached.ledger (P := fun l => ∀ i, l.fetchedBy i = l.ranBy i ++ l.left i)
  apply kept
  · intro i
    exact (State.left_start i).symm
  · intro l m entry same i
    have before := same i
    simp only [History.fetchedBy, History.ranBy] at before ⊢
    cases entry with
    | fetch j batch inside untouched brought =>
        by_cases own : j = i
        · subst own
          simp [before]
        · simp [before, own, Ne.symm own]
    | finish j task rest outcome inside current =>
        by_cases own : j = i
        · subst own
          simp [before, current]
        · simp [before, own, Ne.symm own]
    | _ => exact before

theorem Reachable.inside {s : State β ρ} (reached : Reachable settings queueId s) :
    (∀ batch ∈ s.batches, batch.1 < s.pool.workers.length) ∧
      ∀ run ∈ s.ran, run.worker < s.pool.workers.length := by
  apply reached.ledger (P := fun l =>
    (∀ batch ∈ l.batches, batch.1 < l.workers) ∧ ∀ run ∈ l.ran, run.worker < l.workers)
  · simp [State.ledger, State.holding, State.start]
  · intro l m entry before
    cases entry with
    | fetch i batch inside =>
        rw [List.forall_mem_append, List.forall_mem_singleton]
        exact ⟨⟨before.1, inside⟩, before.2⟩
    | finish i task rest outcome inside =>
        constructor
        · exact before.1
        · rw [List.forall_mem_append, List.forall_mem_singleton]
          exact ⟨before.2, inside⟩
    | _ => exact before

theorem flatMap_filter_perm {α : Type} (worker : α → Nat) (entries : List α) (workers : Nat) :
    ((List.range workers).flatMap fun i => entries.filter fun entry => worker entry = i).Perm
      (entries.filter fun entry => worker entry < workers) := by
  induction workers with
  | zero => simp
  | succ n ih =>
      have earlier : ((entries.filter fun entry => worker entry < n + 1).filter
          fun entry => worker entry < n) = entries.filter fun entry => worker entry < n := by
        rw [List.filter_filter]
        apply List.filter_congr
        intro entry _
        rw [← Bool.decide_and, decide_eq_decide]
        omega
      have last : ((entries.filter fun entry => worker entry < n + 1).filter
          fun entry => !decide (worker entry < n)) =
            entries.filter fun entry => worker entry = n := by
        rw [List.filter_filter]
        apply List.filter_congr
        intro entry _
        rw [← decide_not, ← Bool.decide_and, decide_eq_decide]
        omega
      have split := List.filter_append_perm (fun entry => decide (worker entry < n))
        (entries.filter fun entry => worker entry < n + 1)
      rw [earlier, last] at split
      rw [List.range_succ, List.flatMap_append, List.flatMap_singleton]
      exact (ih.append_right _).trans split

/-- All tasks that were admitted, by where they are. -/
def State.places (s : State β ρ) : List (Task β) :=
  s.ran.map Ran.task ++ s.lefts ++ s.removed ++ s.pool.queue.items

theorem Reachable.fetched_perm {s : State β ρ} (reached : Reachable settings queueId s) :
    ((List.range s.pool.workers.length).flatMap s.fetchedBy).Perm
      (s.batches.flatMap Prod.snd) := by
  have sorted := flatMap_filter_perm Prod.fst s.batches s.pool.workers.length
  have all : (s.batches.filter fun batch => batch.1 < s.pool.workers.length) = s.batches := by
    simpa [List.filter_eq_self] using reached.inside.1
  rw [all] at sorted
  have tasks := sorted.flatMap_right Prod.snd
  rwa [List.flatMap_assoc] at tasks

theorem Reachable.ran_perm {s : State β ρ} (reached : Reachable settings queueId s) :
    ((List.range s.pool.workers.length).flatMap s.ranBy).Perm (s.ran.map Ran.task) := by
  have sorted := flatMap_filter_perm Ran.worker s.ran s.pool.workers.length
  have all : (s.ran.filter fun run => run.worker < s.pool.workers.length) = s.ran := by
    simpa [List.filter_eq_self] using reached.inside.2
  rw [all] at sorted
  have tasks := sorted.map Ran.task
  rwa [List.map_flatMap] at tasks

theorem Reachable.places_perm {s : State β ρ} (reached : Reachable settings queueId s) :
    s.places.Perm s.admitted.flatten := by
  let all := List.range s.pool.workers.length
  have same : s.fetchedBy = fun i => s.ranBy i ++ s.left i := funext reached.fetchedBy_eq
  have held : (s.ran.map Ran.task ++ s.lefts).Perm (s.batches.flatMap Prod.snd) := by
    calc
      List.Perm _ (all.flatMap s.ranBy ++ s.lefts) := reached.ran_perm.symm.append_right _
      List.Perm _ (all.flatMap fun i => s.ranBy i ++ s.left i) :=
        List.flatMap_append_perm all s.ranBy s.left
      List.Perm _ (all.flatMap s.fetchedBy) := by rw [same]
      List.Perm _ (s.batches.flatMap Prod.snd) := reached.fetched_perm
  rw [reached.order]
  exact (held.append_right _).append_right _

theorem Reachable.removed_perm {s : State β ρ} (reached : Reachable settings queueId s) :
    s.removed.Perm (s.dropped ++ (s.joining.map Leaving.tasks).flatten) := by
  apply reached.ledger (P := fun l => l.removed.Perm (l.dropped ++ l.leaving.flatten))
  · exact .refl _
  · intro l m entry before
    cases entry with
    | remove =>
        simp only [List.flatten_append, List.flatten_singleton, ← List.append_assoc]
        exact before.append_right _
    | drop k leftovers taken =>
        obtain ⟨inside, found⟩ := List.getElem?_eq_some_iff.mp taken
        have split := (List.getElem_cons_eraseIdx_perm inside).flatten
        rw [found, List.flatten_cons] at split
        rw [List.append_assoc]
        exact before.trans (split.symm.append_left _)
    | _ => exact before

theorem Submission.tasks_numbers (call : Submission β) (first channel : Nat) :
    (call.tasks first channel).map numberOf =
      List.range' first (call.tasks first channel).length := by
  cases call with
  | schedule body | forget body => rfl
  | bulk bodies =>
      simp only [Submission.tasks, bulkTasks, List.map_map, List.length_map, List.length_zipIdx]
      exact List.zipIdx_map_snd first bodies

theorem numbers_submit {numbers : List Nat} {first : Nat} (call : Submission β) (channel : Nat)
    (before : numbers.Perm (List.range first)) :
    (numbers ++ (call.tasks first channel).map numberOf).Perm
      (List.range (first + (call.tasks first channel).length)) := by
  have split := List.range'_append_1 (s := 0) (m := first) (n := (call.tasks first channel).length)
  rw [List.range_eq_range', ← split, call.tasks_numbers, Nat.zero_add, ← List.range_eq_range']
  exact before.append_right _

theorem Reachable.numbers {s : State β ρ} (reached : Reachable settings queueId s) :
    (s.admitted.flatten.map numberOf ++ s.refused.flatten.map numberOf).Perm
      (List.range s.offered) := by
  apply reached.ledger (P := fun l =>
    (l.admitted.flatten.map numberOf ++ l.refused.flatten.map numberOf).Perm
      (List.range l.offered))
  · exact .refl _
  · intro l m entry before
    cases entry with
    | accept call tasks these =>
        have after := numbers_submit call l.channels.next before
        rw [← these, List.append_assoc] at after
        simp only [List.flatten_append, List.flatten_singleton, List.map_append, List.append_assoc]
        exact (List.perm_append_comm.append_left _).trans after
    | refuse call tasks these =>
        have after := numbers_submit call l.channels.next before
        rw [← these, List.append_assoc] at after
        simpa only [List.flatten_append, List.flatten_singleton, List.map_append] using after
    | _ => exact before

theorem Reachable.places_nodup {s : State β ρ} (reached : Reachable settings queueId s) :
    (s.places.map numberOf).Nodup := by
  have placed := reached.places_perm.map numberOf
  have distinct := reached.numbers.nodup_iff.mpr List.nodup_range
  exact placed.nodup_iff.mpr (List.nodup_append.mp distinct).1

theorem Reachable.refused_apart {s : State β ρ} (reached : Reachable settings queueId s) :
    ∀ task ∈ s.refused.flatten, numberOf task ∉ s.places.map numberOf := by
  intro task member found
  have placed := reached.places_perm.map numberOf
  have distinct := reached.numbers.nodup_iff.mpr List.nodup_range
  have apart := (List.nodup_append.mp distinct).2.2
  exact apart _ (placed.mem_iff.mp found) _ (List.mem_map_of_mem member) rfl

theorem Reachable.submissions {s : State β ρ} (reached : Reachable settings queueId s) :
    ∀ tasks ∈ s.admitted ++ s.refused,
      ∃ (call : Submission β) (first channel : Nat), tasks = call.tasks first channel := by
  apply reached.ledger (P := fun l => ∀ tasks ∈ l.admitted ++ l.refused,
    ∃ (call : Submission β) (first channel : Nat), tasks = call.tasks first channel)
  · simp [State.ledger, State.holding, State.start]
  · intro l m entry before
    rw [List.forall_mem_append] at before
    cases entry with
    | accept call tasks these =>
        rw [List.forall_mem_append, List.forall_mem_append, List.forall_mem_singleton]
        exact ⟨⟨before.1, call, _, _, these⟩, before.2⟩
    | refuse call tasks these =>
        rw [List.forall_mem_append, List.forall_mem_append, List.forall_mem_singleton]
        exact ⟨before.1, before.2, call, _, _, these⟩
    | _ => exact List.forall_mem_append.mpr before

/-- Tasks are neither lost nor doubled, and keep their order. -/
structure Conserved (s : State β ρ) : Prop where
  submissions : ∀ tasks ∈ s.admitted ++ s.refused,
    ∃ (call : Submission β) (first channel : Nat), tasks = call.tasks first channel
  order : s.admitted.flatten = s.batches.flatMap Prod.snd ++ s.removed ++ s.pool.queue.items
  workers : ∀ i, s.fetchedBy i = s.ranBy i ++ s.left i
  places : s.places.Perm s.admitted.flatten
  -- No task is in two places, or twice in one.
  once : (s.places.map numberOf).Nodup
  refused : ∀ task ∈ s.refused.flatten, numberOf task ∉ s.places.map numberOf

theorem Reachable.conserved {s : State β ρ} (reached : Reachable settings queueId s) :
    Conserved s where
  submissions := reached.submissions
  order := reached.order
  workers := reached.fetchedBy_eq
  places := reached.places_perm
  once := reached.places_nodup
  refused := reached.refused_apart

theorem conserved_midway : ∃ s : State Unit Unit,
    Reachable { workers := .fixed 2, batchSize := 2 } 0 s ∧ s.ran.length = 1 ∧
      s.lefts.length = 3 ∧ s.pool.queue.items.length = 1 ∧ s.refused.length = 1 ∧ Conserved s := by
  have reached : Reachable { workers := .fixed 2, batchSize := 2 } 0 (_ : State Unit Unit) :=
    .of_replay? [.offer none (.bulk [(), (), ()]), .enter 0, .enter 1,
      .offer none (.schedule ()), .fetch 1, .fetch 0, .offer none (.forget ()), .begin 1,
      .finish 1 (.returned ()), .report 1, .count 1, .close, .offer none (.schedule ())] rfl
  exact ⟨_, reached, rfl, rfl, rfl, rfl, reached.conserved⟩

end WorkerPool.Pool.Interleaving
