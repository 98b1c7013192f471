import WorkerPool.Proofs.EventLoop.Delivery
import WorkerPool.Proofs.Event

namespace WorkerPool.EventLoop.Interleaving

variable {α ρ : Type} {settings : LoopSettings}

open Event (numbers numbers_append numbers_singleton)

def State.total (s : State α ρ) (measure : LoopWorker (Item α) → Nat) : Nat :=
  (s.loop.workers.map measure).sum

theorem State.total_congr {s t : State α ρ} (measure : LoopWorker (Item α) → Nat)
    (workers : t.loop.workers = s.loop.workers) : t.total measure = s.total measure := by
  rw [State.total, workers, State.total]

theorem State.total_modify {s t : State α ρ} {measure : LoopWorker (Item α) → Nat} {i : Nat}
    {w : LoopWorker (Item α)} {f : LoopWorker (Item α) → LoopWorker (Item α)} {n : Nat}
    (here : s.loop.worker? i = some w) (adds : measure (f w) = measure w + n)
    (workers : t.loop.workers = s.loop.workers.modify i f) :
    t.total measure = s.total measure + n := by
  have sum := sum_modify measure f s.loop.workers i w here
  rw [State.total, State.total, workers]
  omega

theorem Reachable.consumed_eq {s : State α ρ} (reached : Reachable settings s) :
    s.total LoopWorker.consumed = s.finished.length := by
  apply reached.changes (P := fun s => s.total LoopWorker.consumed = s.finished.length)
  · simp [State.total, State.start, EventLoop.start, Function.comp_def]
  · intro s t change before
    cases change with
    | answered item u offer result =>
        have kept : u.total LoopWorker.consumed = u.finished.length := by
          cases offer <;> exact before
        cases result <;> exact kept
    | take i w item rest here =>
        exact (State.total_modify (n := 0) here rfl rfl).trans before
    | exit i w events here =>
        exact (State.total_modify (n := 0) here rfl rfl).trans before
    | finish i w item outcome events here =>
        rw [List.length_append, List.length_singleton, ← before]
        exact State.total_modify (n := 1) here rfl rfl
    | quiet | asleep | stop | pass => exact before

def retired (w : LoopWorker (Item α)) : Nat := if w.exited then w.consumed else 0

theorem State.Answered.loop_eq {s t : State α ρ} {item : Item α} (result : s.Answered item t) :
    t.loop.workers = s.loop.workers ∧ t.loop.events = s.loop.events := by
  cases result <;> exact ⟨rfl, rfl⟩

theorem Reachable.running_of_current {s : State α ρ} (reached : Reachable settings s) {i : Nat}
    {w : LoopWorker (Item α)} {item : Item α} (here : s.loop.worker? i = some w)
    (current : w.current = some item) : w.exited = false := by
  rw [← Bool.not_eq_true]
  intro exited
  have nothing := (reached.gone i ⟨w, here, exited⟩).1
  rw [State.current_eq here, current] at nothing
  cases nothing

theorem exit_events {s : State α ρ} {i : Nat} {w : LoopWorker (Item α)} {loop : EventLoop (Item α)}
    (here : s.loop.worker? i = some w) (result : s.loop.take i = some loop)
    (given : (loop.worker? i).bind LoopWorker.current = none) :
    loop.events = s.loop.events ++ [.loopWorkerStopped i w.consumed] := by
  have found : s.loop.workers[i]? = some w := here
  unfold EventLoop.take at result
  split at result
  · cases result
    simp [worker?, modifyWorker, found] at given
  · next there =>
      cases here.symm.trans there
      cases result
      rfl
  · cases result

theorem finish_events (l : EventLoop (Item α)) (i : Nat) (outcome : Outcome ρ) :
    ∃ added, (l.finish i outcome).events = l.events ++ added ∧
      numbers "event loop worker shutting down" added = [] := by
  cases outcome with
  | returned value => exact ⟨[], (List.append_nil _).symm, rfl⟩
  | panicked payload => exact ⟨_, rfl, by simp [numbers_singleton, Event.message]⟩

theorem Step.retires {s t : State α ρ} {a : Action α ρ} (reached : Reachable settings s)
    (step : Step s a t) : ∃ added, t.loop.events = s.loop.events ++ added ∧
      t.total retired = s.total retired +
        (numbers "event loop worker shutting down" added).sum := by
  have silent {t : State α ρ}
      (same : t.loop.workers = s.loop.workers ∧ t.loop.events = s.loop.events) :
      ∃ added, t.loop.events = s.loop.events ++ added ∧ t.total retired = s.total retired +
        (numbers "event loop worker shutting down" added).sum :=
    ⟨[], by rw [same.2, List.append_nil], State.total_congr retired same.1⟩
  cases step with
  | push caller body free =>
      rcases s.push_cases caller body with ⟨_, result⟩ | result
      · rw [result]
        exact silent ⟨rfl, rfl⟩
      · exact silent result.loop_eq
  | wake k push asleep =>
      rcases s.wake_cases k push with ⟨_, result⟩ | result
      · rw [result]
        exact silent ⟨rfl, rfl⟩
      · exact silent result.loop_eq
  | tryPush caller body free => exact silent (s.tryPush_answered body).loop_eq
  | stop | join | pass => exact silent ⟨rfl, rfl⟩
  | selfJoin i free => exact ⟨_, rfl, by simp [numbers_singleton, Event.message]; rfl⟩
  | take i w item loop here free running result given =>
      obtain ⟨rest, items, rfl⟩ := take_eq here free result given
      exact ⟨[], (List.append_nil _).symm, State.total_modify here rfl rfl⟩
  | exit i w loop here free running result given =>
      have events := exit_events here result given
      obtain ⟨_, _, rfl⟩ := exit_eq here result given
      refine ⟨_, events, State.total_modify here ?_ rfl⟩
      simp [retired, running, numbers_singleton, Event.message, Event.number]
  | finish i w item outcome here current free =>
      obtain ⟨added, events, others⟩ := finish_events s.loop i outcome
      obtain ⟨_, result⟩ := s.loop.finish_eq i outcome
      have running := reached.running_of_current here current
      refine ⟨added, events, State.total_modify here ?_ (by rw [State.finish, result]; rfl)⟩
      simp [retired, running, others]

theorem Reachable.retired_eq {s : State α ρ} (reached : Reachable settings s) :
    (numbers "event loop worker shutting down" s.loop.events).sum = s.total retired := by
  have both : Reachable settings s ∧
      (numbers "event loop worker shutting down" s.loop.events).sum = s.total retired := by
    apply reached.invariant (P := fun s => Reachable settings s ∧
      (numbers "event loop worker shutting down" s.loop.events).sum = s.total retired)
    · refine ⟨⟨[], .nil _⟩, ?_⟩
      simp [State.total, State.start, EventLoop.start, retired, numbers_singleton, Event.message,
        Function.comp_def]
    · intro s a t step before
      obtain ⟨reached, told⟩ := before
      obtain ⟨added, events, retires⟩ := step.retires reached
      refine ⟨reached.run (.cons step (.nil t)), ?_⟩
      rw [events, numbers_append, List.sum_append, told, retires]
  exact both.2

theorem State.retired_of_allExited {s : State α ρ} (exited : s.loop.allExited = true) :
    s.total retired = s.total LoopWorker.consumed := by
  apply congrArg List.sum
  apply List.map_congr_left
  intro w member
  rw [retired, if_pos (List.all_eq_true.mp exited w member)]

theorem Reachable.consumed_told {s : State α ρ} (reached : Reachable settings s)
    (valid : settings.validate = .ok ()) (exited : s.loop.allExited = true) :
    (numbers "event loop worker shutting down" s.loop.events).sum = s.accepted.length := by
  obtain ⟨passed, finished⟩ := reached.all_passed valid exited
  calc
    (numbers "event loop worker shutting down" s.loop.events).sum = s.total retired :=
      reached.retired_eq
    _ = s.total LoopWorker.consumed := State.retired_of_allExited exited
    _ = (s.finished.map Prod.fst).length := by rw [reached.consumed_eq, List.length_map]
    _ = (s.passed.map Prod.snd).length := by rw [finished.length_eq, List.length_map]
    _ = s.accepted.length := passed.length_eq

end WorkerPool.EventLoop.Interleaving
