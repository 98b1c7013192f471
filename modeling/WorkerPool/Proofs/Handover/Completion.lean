import WorkerPool.Proofs.Handover.Collector

namespace WorkerPool.Handover

open Barrier (notified)
open Executor.Interleaving (Call)

variable {α ρ : Type} {tasks : List (List α)} {workers : Nat} {s t : State α ρ}

/-- Deferring an action leaves its pop, its beginning and its end. -/
def Progress.effort : Progress α → Nat
  | waiting actions => 4 * actions.length + 4
  | begun _ rest => 4 * rest.length + 3
  | told _ owed => 2 * owed.length

def Collector.effort : Collector → Nat
  | arriving | woken _ => 4
  | asleep => 3
  | through => 2
  | draining => 0

def callEffort (call : Call α) : Nat :=
  match call.stage with
  | .looking => 1
  | .holding _ => 3
  | .running _ => 2

def drainEffort (x : Executor.Interleaving.State α ρ) : Nat :=
  3 * x.executor.queued.length + ((x.calls 0).map callEffort).sum

def State.effort (s : State α ρ) : Nat :=
  s.total Progress.effort + s.collector.effort + drainEffort s.executor

def State.Stirs (s t : State α ρ) : Prop :=
  s.collector = .asleep ∧ t = { s with collector := .woken true }

theorem Drain.effort_lt {x y : Executor.Interleaving.State α ρ} (goes : Drain x y) :
    drainEffort y < drainEffort x := by
  unfold drainEffort
  cases goes with
  | pop n action executor here found =>
      have queued := (Executor.next?_eq_some_iff _ _ _).mp found
      simp [Executor.Interleaving.State.pop, Executor.Interleaving.State.stand, here, queued,
        callEffort]
      omega
  | dry n here found =>
      simp [Executor.Interleaving.State.answer, Executor.Interleaving.State.stand, here, callEffort]
  | begin n action here =>
      simp [Executor.Interleaving.State.begin, Executor.Interleaving.State.stand, here, callEffort]
  | finish n action outcome here =>
      simp [Executor.Interleaving.State.finish, Executor.Drain.past,
        Executor.Interleaving.State.stand, here, callEffort]

theorem Collector.effort_wake (collector : Collector) :
    collector.wake.effort ≤ collector.effort + 1 := by
  cases collector <;> simp [wake, effort]

theorem Collector.Comes.effort {collector : Collector} {late : Bool}
    (comes : collector.Comes late) : collector.effort = 4 := by
  cases comes <;> rfl

theorem State.effort_lt {k : Nat} {before : Progress α} (here : s.progress[k]? = some before)
    (now : Progress α) (executor : Executor.Interleaving.State α ρ) (collector : Collector)
    (less : now.effort + collector.effort + drainEffort executor <
      before.effort + s.collector.effort + drainEffort s.executor) (recorded : Barrier.Recorded) :
    { s.move k now with recorded, executor, collector }.effort < s.effort := by
  have moved := State.total_move Progress.effort here now
  change (s.move k now).total Progress.effort + collector.effort + drainEffort executor <
    s.total Progress.effort + s.collector.effort + drainEffort s.executor
  omega

/-- Every step brings the end nearer, unless the collector is woken for no reason. -/
theorem Step.effort (step : Step workers s t) : t.effort < s.effort ∨ s.Stirs t := by
  cases step with
  | begin i k actions inside free here =>
      refine .inl (State.effort_lt here (.begun i actions) s.executor s.collector ?_ s.recorded)
      simp only [Progress.effort]
      omega
  | defer i k action rest here =>
      have queued : drainEffort (s.executor.defer k action) = drainEffort s.executor + 3 := by
        simp only [drainEffort, Executor.Interleaving.State.defer, Executor.queued_defer,
          List.length_append, List.length_singleton]
        omega
      refine .inl (State.effort_lt here (.begun i rest) _ s.collector ?_ s.recorded)
      simp only [Progress.effort, List.length_cons, queued]
      omega
  | notify i k next owed here turn =>
      have few : owed.length ≤ 1 := by
        rcases (turn_notify turn).2 with rfl | rfl <;> simp
      refine .inl (State.effort_lt here (.told i owed) s.executor s.collector ?_ next)
      simp only [Progress.effort, List.length_nil]
      omega
  | notice i k owed here =>
      have woken := s.collector.effort_wake
      refine .inl (State.effort_lt here (.told i owed) s.executor _ ?_ s.recorded)
      simp only [Progress.effort, List.length_cons]
      omega
  | sleep late comes turn =>
      have effort := comes.effort
      left
      change s.total Progress.effort + 3 + drainEffort s.executor < s.effort
      unfold State.effort
      omega
  | stir asleep => exact .inr ⟨asleep, rfl⟩
  | pass late next comes turn =>
      have effort := comes.effort
      left
      change s.total Progress.effort + 2 + drainEffort s.executor < s.effort
      unfold State.effort
      omega
  | run through idle =>
      left
      have looking : drainEffort (s.executor.stand 0 [⟨.all 0, .looking⟩]) =
          drainEffort s.executor + 1 := by
        simp [drainEffort, Executor.Interleaving.State.stand, idle, callEffort]
      change s.total Progress.effort + 0 + drainEffort (s.executor.stand 0 _) < s.effort
      rw [looking, State.effort, through]
      simp only [Collector.effort]
      omega
  | drain executor draining goes =>
      have less := goes.effort_lt
      left
      change s.total Progress.effort + s.collector.effort + drainEffort executor < s.effort
      unfold State.effort
      omega

def State.CanAdvance (s : State α ρ) (workers : Nat) : Prop :=
  ∃ t, Step workers s t ∧ t.effort < s.effort

theorem Step.canAdvance (step : Step workers s t)
    (calm : s.collector = .asleep → t.collector ≠ .woken true) : s.CanAdvance workers := by
  refine ⟨t, step, step.effort.resolve_right fun stirs => calm stirs.1 ?_⟩
  rw [stirs.2]

theorem Reachable.owes (reached : Reachable tasks workers s) {i : Nat}
    {owed : List (Unit × Notice)} (member : .told i owed ∈ s.progress) :
    owed = [] ∨ owed = [((), .all)] := by
  refine reached.invariant (P := fun s => ∀ i owed, .told i owed ∈ s.progress →
    owed = [] ∨ owed = [((), .all)]) ?_ ?_ i owed member
  · simp [State.start]
  · intro s t _ step before j owed' member
    cases step with
    | begin | defer =>
        rcases List.mem_or_eq_of_mem_set member with old | new
        · exact before _ _ old
        · cases new
    | notify i k next owed here turn =>
        rcases List.mem_or_eq_of_mem_set member with old | new
        · exact before _ _ old
        · cases new
          exact (turn_notify turn).2
    | notice i k owed here =>
        rcases List.mem_or_eq_of_mem_set member with old | new
        · exact before _ _ old
        · cases new
          have owes := before j _ (List.mem_of_getElem? here)
          exact .inl (by simpa using owes)
    | sleep | stir | pass | run | drain => exact before j owed' member

theorem Reachable.notices (reached : Reachable tasks workers s) {i : Nat}
    {owed : List (Unit × Notice)} (member : .told i owed ∈ s.progress) (owing : owed ≠ []) :
    s.CanAdvance workers := by
  obtain ⟨k, here⟩ := List.mem_iff_getElem?.mp member
  rw [(reached.owes member).resolve_left owing] at here
  have step : Step workers s _ := .notice i k [] here
  exact step.canAdvance fun asleep => by simp [asleep, Collector.wake]

theorem task_goes_on {i : Nat} {rest : List α} (member : .begun i rest ∈ s.progress) :
    s.CanAdvance workers := by
  obtain ⟨k, here⟩ := List.mem_iff_getElem?.mp member
  cases rest with
  | cons action rest =>
      have step : Step workers s _ := .defer i k action rest here
      exact step.canAdvance fun asleep => by simp [asleep, State.move]
  | nil =>
      obtain ⟨next, owed, turn⟩ := turn_of_notify s.recorded
      have step : Step workers s _ := .notify i k next owed here turn
      exact step.canAdvance fun asleep => by simp [asleep, State.move]

theorem Reachable.tasks_go_on (reached : Reachable tasks workers s) (manned : 0 < workers)
    (closed : s.recorded.barrier.remaining ≠ 0) : s.CanAdvance workers := by
  by_cases inside : ∃ i rest, .begun i rest ∈ s.progress
  · obtain ⟨i, rest, member⟩ := inside
    exact task_goes_on member
  by_cases owing : ∃ i owed, .told i owed ∈ s.progress ∧ owed ≠ []
  · obtain ⟨i, owed, member, owing⟩ := owing
    exact reached.notices member owing
  -- Now all workers are free, and some task has yet to begin.
  have free : s.Free 0 := by
    intro p member
    cases p with
    | waiting => simp [Progress.worker?]
    | begun i rest => exact absurd ⟨i, rest, member⟩ inside
    | told i owed =>
        have nothing : owed = [] := by
          by_contra some
          exact owing ⟨i, owed, member, some⟩
        simp [nothing, Progress.worker?]
  obtain ⟨p, member, untold⟩ : ∃ p ∈ s.progress, p.missing ≠ 0 := by
    by_contra none
    push Not at none
    exact closed (reached.remaining.trans
      (List.sum_eq_zero_iff_forall_eq_nat.mpr (List.forall_mem_map.mpr none)))
  cases p with
  | waiting actions =>
      obtain ⟨k, here⟩ := List.mem_iff_getElem?.mp member
      have step : Step workers s _ := .begin 0 k actions manned free here
      exact step.canAdvance fun asleep => by simp [asleep, State.move]
  | begun i rest => exact absurd ⟨i, rest, member⟩ inside
  | told => exact absurd rfl untold

theorem drain_goes_on {x : Executor.Interleaving.State α ρ} {n : Nat}
    {stage : Executor.Interleaving.Stage α} (here : x.calls 0 = [⟨.all n, stage⟩]) :
    ∃ y, Drain x y := by
  cases stage with
  | looking =>
      cases found : x.executor.next? with
      | none => exact ⟨_, .dry n here found⟩
      | some next => exact ⟨_, .pop n next.1 next.2 here found⟩
  | holding action => exact ⟨_, .begin n action here⟩
  | running action => exact ⟨_, .finish n action (.panicked .other) here⟩

theorem Reachable.alarm (reached : Reachable tasks workers s)
    (zero : s.recorded.barrier.remaining = 0) (asleep : s.collector = .asleep) :
    ∃ i owed, .told i owed ∈ s.progress ∧ owed ≠ [] := by
  have sleeps : .asleep () .wait ∈ s.scene.threads := by
    rw [State.scene, asleep]
    exact List.mem_cons_self
  rcases reached.barrier.called Barrier.monitor_enough sleeps with ⟨owed, member, alarm⟩ | positive
  · rw [State.scene, asleep] at member
    rcases List.mem_cons.mp member with phase | member
    · cases phase
    · obtain ⟨p, member, phase⟩ := List.mem_map.mp member
      have owing : owed ≠ [] := List.ne_nil_of_mem alarm
      cases p with
      | told i owed =>
          cases phase
          exact ⟨i, owed, member, owing⟩
      | waiting | begun =>
          cases phase
          exact absurd rfl owing
  · exact absurd zero (Nat.ne_of_gt positive)

theorem passes (zero : s.recorded.barrier.remaining = 0) {late : Bool}
    (comes : s.collector.Comes late) : s.CanAdvance workers := by
  obtain ⟨answer, turn⟩ := Barrier.turn_of_zero zero late .wait
  have step : Step workers s _ := .pass late _ comes turn
  exact step.canAdvance fun _ => by simp

theorem Reachable.collector_goes_on (reached : Reachable tasks workers s)
    (zero : s.recorded.barrier.remaining = 0) (unanswered : s.executor.answers = []) :
    s.CanAdvance workers := by
  have attended := reached.orderly.attended
  cases collector : s.collector with
  | arriving =>
      have comes : s.collector.Comes false := collector ▸ .anew
      exact passes zero comes
  | woken late =>
      have comes : s.collector.Comes late := collector ▸ .back late
      exact passes zero comes
  | asleep =>
      obtain ⟨i, owed, member, owing⟩ := reached.alarm zero collector
      exact reached.notices member owing
  | through =>
      cases attended with
      | uncalled _ idle =>
          have step : Step workers s _ := .run collector idle
          exact step.canAdvance fun _ => by simp
      | called _ _ draining => simp [collector] at draining
      | returned _ draining => simp [collector] at draining
  | draining =>
      cases attended with
      | uncalled other => exact absurd collector other
      | called n stage _ here =>
          obtain ⟨executor, goes⟩ := drain_goes_on here
          have step : Step workers s _ := .drain executor collector goes
          exact step.canAdvance fun _ => by simp [collector]
      | returned n _ _ _ answered => simp [answered] at unanswered

structure Complete (tasks : List (List α)) (workers : Nat) (s : State α ρ) : Prop where
  unrefused : ∀ e, .refused e ∉ notified s.recorded.log
  deferred : s.recorded.barrier.remaining = 0 → s.executor.pushed.length = size tasks ∧
    ∀ k, output s.executor.pushed k = tasks[k]?.getD []
  collected : s.executor.answers ≠ [] → Collected tasks s.executor
  nearer : ∀ t, Step workers s t → t.effort < s.effort ∨ s.Stirs t
  goes_on : 0 < workers ∨ s.recorded.barrier.remaining = 0 → s.executor.answers = [] →
    s.CanAdvance workers

/-- Whatever the workers and the order of the steps, no notification is refused, all output is
deferred before the barrier is at zero, and the run after the wait, which comes to its end, runs
each action once, those of one task in their order. -/
theorem Reachable.output_complete (reached : Reachable tasks workers s) :
    Complete tasks workers s where
  unrefused := reached.not_refused
  deferred := reached.deferred
  collected := reached.collected
  nearer _ step := step.effort
  goes_on able unanswered := by
    by_cases zero : s.recorded.barrier.remaining = 0
    · exact reached.collector_goes_on zero unanswered
    · exact reached.tasks_go_on (able.resolve_right zero) zero

/-- The collector comes first and is once woken for nothing; two workers defer by turns, and one of
the actions panics. -/
theorem output_complete_by_turns : ∃ s : State Nat Unit, Reachable [[1, 2], [3]] 2 s ∧
    s.executor.answers = [(0, .executed 3)] ∧
    s.executor.events = [.actionPanicked "late"] ∧
    s.executor.begun.map Prod.snd = [⟨0, 0, 1⟩, ⟨1, 1, 3⟩, ⟨2, 0, 2⟩] ∧
    notified s.recorded.log = [.left 1, .left 0] ∧ Complete [[1, 2], [3]] 2 s := by
  have replayed : ∃ s : State Nat Unit, Reachable [[1, 2], [3]] 2 s ∧
      s.executor.answers = [(0, .executed 3)] ∧
      s.executor.events = [.actionPanicked "late"] ∧
      s.executor.begun.map Prod.snd = [⟨0, 0, 1⟩, ⟨1, 1, 3⟩, ⟨2, 0, 2⟩] ∧
      notified s.recorded.log = [.left 1, .left 0] :=
    ⟨_, .head (.sleep false .anew rfl) <|
      .head (.begin 0 0 [1, 2] (by decide)
        (by simp [State.Free, State.start, Progress.worker?]) rfl) <|
      .head (.defer 0 0 1 [2] rfl) <|
      .head (.begin 1 1 [3] (by decide)
        (by simp [State.Free, State.start, State.move, Progress.worker?]) rfl) <|
      .head (.defer 1 1 3 [] rfl) <| .head (.notify 1 1 _ _ rfl rfl) <| .head (.stir rfl) <|
      .head (.sleep true (.back true) rfl) <| .head (.defer 0 0 2 [] rfl) <|
      .head (.notify 0 0 _ _ rfl rfl) <| .head (.notice 0 0 [] rfl) <|
      .head (.pass false _ (.back false) rfl) <| .head (.run rfl rfl) <|
      .head (.drain _ rfl (.pop 0 _ _ rfl rfl)) <| .head (.drain _ rfl (.begin 0 _ rfl)) <|
      .head (.drain _ rfl (.finish 0 _ (.returned ()) rfl)) <|
      .head (.drain _ rfl (.pop 1 _ _ rfl rfl)) <| .head (.drain _ rfl (.begin 1 _ rfl)) <|
      .head (.drain _ rfl (.finish 1 _ (.panicked (.text "late")) rfl)) <|
      .head (.drain _ rfl (.pop 2 _ _ rfl rfl)) <| .head (.drain _ rfl (.begin 2 _ rfl)) <|
      .head (.drain _ rfl (.finish 2 _ (.returned ()) rfl)) <|
      .head (.drain _ rfl (.dry 3 rfl rfl)) .refl,
      rfl, rfl, rfl, rfl⟩
  obtain ⟨s, reached, answers, events, begun, notifications⟩ := replayed
  exact ⟨s, reached, answers, events, begun, notifications, reached.output_complete⟩

end WorkerPool.Handover
