import WorkerPool.Proofs.Handover.Step

namespace WorkerPool.Handover

open Barrier (notified)
open Executor.Interleaving (Deferred)

variable {α ρ : Type} {tasks : List (List α)} {workers : Nat} {s t : State α ρ}

/-- What each of the tasks has among deferred actions, in their order. -/
def output (actions : List (Deferred α)) : Nat → List α :=
  byWorker (actions.map fun action => (action.producer, action.action))

def size (tasks : List (List α)) : Nat := (tasks.map List.length).sum

def Progress.ahead (p : Progress α) : Nat := p.rest.length

def Progress.missing : Progress α → Nat
  | told .. => 0
  | _ => 1

def State.total (s : State α ρ) (measure : Progress α → Nat) : Nat :=
  (s.progress.map measure).sum

theorem State.total_move (measure : Progress α → Nat) {k : Nat} {before : Progress α}
    (here : s.progress[k]? = some before) (now : Progress α) :
    (s.move k now).total measure + measure before = s.total measure + measure now :=
  sum_set measure here now

theorem State.total_still (measure : Progress α → Nat) {k : Nat} {before : Progress α}
    (here : s.progress[k]? = some before) (now : Progress α) (same : measure now = measure before) :
    (s.move k now).total measure = s.total measure := by
  have moved := State.total_move measure here now
  omega

theorem turn_of_notify (r : Barrier.Recorded) :
    ∃ next owed, Barrier.monitor.turn r .notify false = .leave next owed := by
  simp only [Barrier.monitor, Barrier.Recorded.turn, Barrier.reply?]
  cases r.barrier.notify with
  | ok counted => exact ⟨_, _, rfl⟩
  | error e => exact ⟨_, _, rfl⟩

theorem turn_notify {r next : Barrier.Recorded} {owed : List (Unit × Notice)}
    (turn : Barrier.monitor.turn r .notify false = .leave next owed) :
    (notified next.log).length = (notified r.log).length + 1 ∧
      (owed = [] ∨ owed = [((), .all)]) := by
  obtain ⟨answer, barrier, fits, rfl, rfl⟩ := Barrier.turn_leave turn
  refine ⟨by simp [notified], ?_⟩
  cases fits with
  | counted left =>
      cases left with
      | zero => exact .inr rfl
      | succ left => exact .inl rfl
  | refused => exact .inl rfl

theorem turn_pass {r next : Barrier.Recorded} {late : Bool} {owed : List (Unit × Notice)}
    (turn : Barrier.monitor.turn r .wait late = .leave next owed) :
    notified next.log = notified r.log ∧ next.barrier = r.barrier ∧ r.barrier.remaining = 0 ∧
      owed = [] := by
  obtain ⟨answer, barrier, fits, rfl, rfl⟩ := Barrier.turn_leave turn
  cases fits with
  | returned zero => exact ⟨by simp [notified], rfl, zero, rfl⟩

theorem Reachable.missing (reached : Reachable tasks workers s) :
    (notified s.recorded.log).length + s.total Progress.missing = tasks.length := by
  refine reached.invariant
    (P := fun s => (notified s.recorded.log).length + s.total Progress.missing = tasks.length) ?_ ?_
  · simp [State.start, State.total, Barrier.Recorded.start, notified, Progress.missing,
      Function.comp_def]
  · intro s t _ step before
    cases step with
    | begin i k actions inside free here =>
        have still := State.total_still Progress.missing here (.begun i actions) rfl
        exact (congrArg _ still).trans before
    | defer i k action rest here =>
        have still := State.total_still Progress.missing here (.begun i rest) rfl
        exact (congrArg _ still).trans before
    | notify i k next owed here turn =>
        have moved := State.total_move Progress.missing here (.told i owed)
        have count := (turn_notify turn).1
        simp only [Progress.missing] at moved
        change (notified next.log).length + (s.move k (.told i owed)).total Progress.missing = _
        omega
    | notice i k owed here =>
        have still := State.total_still Progress.missing here (.told i owed) rfl
        exact (congrArg _ still).trans before
    | pass late next comes turn =>
        rw [(turn_pass turn).1]
        exact before
    | sleep | stir | run | drain => exact before

theorem Reachable.remaining (reached : Reachable tasks workers s) :
    s.recorded.barrier.remaining = s.total Progress.missing := by
  have counts : s.recorded.Counts tasks.length := Barrier.counts_of_reachable reached.barrier
  have missing := reached.missing
  rw [counts.remaining]
  omega

theorem Reachable.all_told (reached : Reachable tasks workers s)
    (zero : s.recorded.barrier.remaining = 0) {p : Progress α} (member : p ∈ s.progress) :
    p.missing = 0 := by
  rw [reached.remaining] at zero
  exact List.sum_eq_zero_iff_forall_eq_nat.mp zero _ (List.mem_map_of_mem member)

theorem Reachable.not_refused (reached : Reachable tasks workers s) (e : Barrier.Overcounted) :
    .refused e ∉ notified s.recorded.log := by
  have counts : s.recorded.Counts tasks.length := Barrier.counts_of_reachable reached.barrier
  have missing := reached.missing
  rw [counts.answers, List.mem_map]
  rintro ⟨k, earlier, refused⟩
  have below : k < tasks.length := by
    have := List.mem_range.mp earlier
    omega
  rw [Barrier.verdict, if_pos below] at refused
  cases refused

def State.left (s : State α ρ) (k : Nat) : List α := (s.progress[k]?.map Progress.rest).getD []

theorem State.left_move {k : Nat} {before : Progress α} (here : s.progress[k]? = some before)
    (now : Progress α) : (s.move k now).left = Function.update s.left k now.rest := by
  have inside := (List.getElem?_eq_some_iff.mp here).1
  funext j
  by_cases same : j = k
  · subst same
    simp [left, move, inside]
  · simp [left, move, same, Ne.symm same]

theorem State.left_still {k : Nat} {before now : Progress α} (here : s.progress[k]? = some before)
    (same : now.rest = before.rest) : (s.move k now).left = s.left := by
  have rest : s.left k = before.rest := by simp [left, here]
  rw [left_move here, same, ← rest, Function.update_eq_self]

theorem Drain.pushed {x y : Executor.Interleaving.State α ρ} (goes : Drain x y) :
    y.pushed = x.pushed := by
  cases goes with
  | finish n action outcome => exact (x.finish_queue 0 (.all n) [] action outcome).1
  | pop | dry | begin => rfl

theorem output_append (actions : List (Deferred α)) (number k : Nat) (action : α) :
    output (actions ++ [⟨number, k, action⟩]) =
      Function.update (output actions) k (output actions k ++ [action]) := by
  rw [output, List.map_append]
  exact byWorker_append _ k action

theorem Reachable.output_left (reached : Reachable tasks workers s) (k : Nat) :
    output s.executor.pushed k ++ s.left k = tasks[k]?.getD [] := by
  refine reached.invariant
    (P := fun s => ∀ k, output s.executor.pushed k ++ s.left k = tasks[k]?.getD []) ?_ ?_ k
  · intro k
    have nothing : output (State.start tasks : State α ρ).executor.pushed k = [] := rfl
    rw [nothing, List.nil_append, State.left, State.start, List.getElem?_map, Option.map_map]
    cases tasks[k]? <;> rfl
  · intro s t _ step before
    cases step with
    | begin i k actions inside free here =>
        have still : (s.move k (.begun i actions)).left = s.left := State.left_still here rfl
        rw [still]
        exact before
    | defer i k action rest here =>
        have left : (s.move k (.begun i rest)).left = Function.update s.left k rest :=
          State.left_move here (.begun i rest)
        have head : s.left k = action :: rest := by simp [State.left, here, Progress.rest]
        intro j
        change output (s.executor.pushed ++ [⟨_, k, action⟩]) j ++
          (s.move k (.begun i rest)).left j = tasks[j]?.getD []
        rw [output_append, left, ← before j]
        by_cases same : j = k
        · subst same
          rw [Function.update_self, Function.update_self, head, List.append_assoc]
          rfl
        · rw [Function.update_of_ne same, Function.update_of_ne same]
    | notify i k next owed here turn =>
        have still : (s.move k (.told i owed)).left = s.left := State.left_still here rfl
        exact fun j => (congrArg (_ ++ · j) still).trans (before j)
    | notice i k owed here =>
        have still : (s.move k (.told i owed)).left = s.left := State.left_still here rfl
        exact fun j => (congrArg (_ ++ · j) still).trans (before j)
    | drain executor draining goes =>
        intro j
        rw [goes.pushed]
        exact before j
    | sleep | stir | pass | run => exact before

theorem Reachable.pushed_length (reached : Reachable tasks workers s) :
    s.executor.pushed.length + s.total Progress.ahead = size tasks := by
  refine reached.invariant
    (P := fun s => s.executor.pushed.length + s.total Progress.ahead = size tasks) ?_ ?_
  · simp [State.start, State.total, size, Progress.ahead, Progress.rest, Function.comp_def]
  · intro s t _ step before
    cases step with
    | begin i k actions inside free here =>
        have still := State.total_still Progress.ahead here (.begun i actions) rfl
        exact (congrArg _ still).trans before
    | defer i k action rest here =>
        have moved := State.total_move Progress.ahead here (.begun i rest)
        have longer : (s.executor.defer k action).pushed.length = s.executor.pushed.length + 1 :=
          List.length_append
        simp only [Progress.ahead, Progress.rest, List.length_cons] at moved
        change (s.executor.defer k action).pushed.length +
          (s.move k (.begun i rest)).total Progress.ahead = _
        omega
    | notify i k next owed here turn =>
        have still := State.total_still Progress.ahead here (.told i owed) rfl
        exact (congrArg _ still).trans before
    | notice i k owed here =>
        have still := State.total_still Progress.ahead here (.told i owed) rfl
        exact (congrArg _ still).trans before
    | drain executor draining goes =>
        rw [goes.pushed]
        exact before
    | sleep | stir | pass | run => exact before

theorem Progress.rest_of_told {p : Progress α} (told : p.missing = 0) : p.rest = [] := by
  cases p with
  | waiting | begun => cases told
  | told => rfl

/-- At zero the executor has been given all that the tasks had to give. -/
theorem Reachable.deferred (reached : Reachable tasks workers s)
    (zero : s.recorded.barrier.remaining = 0) :
    s.executor.pushed.length = size tasks ∧
      ∀ k, output s.executor.pushed k = tasks[k]?.getD [] := by
  have nothing (p : Progress α) (member : p ∈ s.progress) : p.rest = [] :=
    Progress.rest_of_told (reached.all_told zero member)
  constructor
  · have none : s.total Progress.ahead = 0 := by
      rw [State.total, List.sum_eq_zero_iff_forall_eq_nat, List.forall_mem_map]
      exact fun p member => congrArg List.length (nothing p member)
    rw [← reached.pushed_length, none, Nat.add_zero]
  · intro k
    have left : s.left k = [] := by
      cases here : s.progress[k]? with
      | none => simp [State.left, here]
      | some p => simp [State.left, here, nothing p (List.mem_of_getElem? here)]
    rw [← reached.output_left k, left, List.append_nil]

end WorkerPool.Handover
