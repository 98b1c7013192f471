import WorkerPool.Proofs.Barrier.Wakeup
import WorkerPool.Proofs.Executor.Draining

namespace WorkerPool.Handover

open Barrier (Recorded Request)
open Monitor (Phase Scene)

variable {α ρ : Type}

/-- How far a task is. Which worker runs it, and when, is left open. -/
inductive Progress (α : Type) where
  | waiting (actions : List α)
  -- With the actions that it has yet to defer.
  | begun (worker : Nat) (rest : List α)
  -- It has notified the barrier; with the notices that it still owes for this.
  | told (worker : Nat) (owed : List (Unit × Notice))
  deriving DecidableEq, Repr

namespace Progress

def rest : Progress α → List α
  | waiting actions => actions
  | begun _ rest => rest
  | told .. => []

def worker? : Progress α → Option Nat
  | waiting _ | told _ [] => none
  | begun i _ | told i (_ :: _) => some i

def phase : Progress α → Phase Unit Request
  | told _ owed => .out owed
  | _ => .out []

end Progress

/-- The thread that waits for the tasks. -/
inductive Collector where
  | arriving
  | asleep
  -- By a notice, or late, for no reason.
  | woken (late : Bool)
  | through
  | draining
  deriving DecidableEq, Repr

namespace Collector

def phase : Collector → Phase Unit Request
  | asleep => .asleep () .wait
  | woken late => .woken () .wait late
  | _ => .out []

def wake : Collector → Collector
  | asleep => woken false
  | collector => collector

inductive Comes : Collector → Bool → Prop
  | anew : Comes arriving false
  | back (late : Bool) : Comes (woken late) late

theorem phase_wake (collector : Collector) : collector.wake.phase = collector.phase.wake () := by
  cases collector <;> rfl

theorem Comes.phase {collector : Collector} {late : Bool} (comes : collector.Comes late) :
    collector.phase.Comes .wait late := by
  cases comes with
  | anew => exact .anew _
  | back => exact .back _ _ _

end Collector

structure State (α ρ : Type) where
  recorded : Recorded
  -- Tasks are its producers, by their numbers, and the collector is drainer `0`.
  executor : Executor.Interleaving.State α ρ := {}
  progress : List (Progress α)
  collector : Collector := .arriving

namespace State

def start (tasks : List (List α)) : State α ρ where
  recorded := .start tasks.length
  progress := tasks.map .waiting

def move (s : State α ρ) (k : Nat) (now : Progress α) : State α ρ :=
  { s with progress := s.progress.set k now }

def scene (s : State α ρ) : Scene Recorded Unit Request :=
  ⟨s.recorded, s.collector.phase :: s.progress.map Progress.phase⟩

def Free (s : State α ρ) (i : Nat) : Prop := ∀ p ∈ s.progress, p.worker? ≠ some i

end State

inductive Drain (x : Executor.Interleaving.State α ρ) : Executor.Interleaving.State α ρ → Prop
  | pop (n : Nat) (action : Executor.Interleaving.Deferred α)
      (executor : Executor (Executor.Interleaving.Deferred α))
      (here : x.calls 0 = [⟨.all n, .looking⟩])
      (found : x.executor.next? = some (action, executor)) :
      Drain x (x.pop 0 (.all n) [] action executor)
  | dry (n : Nat) (here : x.calls 0 = [⟨.all n, .looking⟩]) (found : x.executor.next? = none) :
      Drain x (x.answer 0 [] (.executed n))
  | begin (n : Nat) (action : Executor.Interleaving.Deferred α)
      (here : x.calls 0 = [⟨.all n, .holding action⟩]) : Drain x (x.begin 0 (.all n) [] action)
  | finish (n : Nat) (action : Executor.Interleaving.Deferred α) (outcome : Outcome ρ)
      (here : x.calls 0 = [⟨.all n, .running action⟩]) :
      Drain x (x.finish 0 (.all n) [] action outcome)

inductive Step (workers : Nat) (s : State α ρ) : State α ρ → Prop
  | begin (i k : Nat) (actions : List α) (inside : i < workers) (free : s.Free i)
      (here : s.progress[k]? = some (.waiting actions)) :
      Step workers s (s.move k (.begun i actions))
  | defer (i k : Nat) (action : α) (rest : List α)
      (here : s.progress[k]? = some (.begun i (action :: rest))) :
      Step workers s { s.move k (.begun i rest) with executor := s.executor.defer k action }
  | notify (i k : Nat) (next : Recorded) (owed : List (Unit × Notice))
      (here : s.progress[k]? = some (.begun i []))
      (turn : Barrier.monitor.turn s.recorded .notify false = .leave next owed) :
      Step workers s { s.move k (.told i owed) with recorded := next }
  | notice (i k : Nat) (owed : List (Unit × Notice))
      (here : s.progress[k]? = some (.told i (((), .all) :: owed))) :
      Step workers s { s.move k (.told i owed) with collector := s.collector.wake }
  | sleep (late : Bool) (comes : s.collector.Comes late)
      (turn : Barrier.monitor.turn s.recorded .wait late = .wait ()) :
      Step workers s { s with collector := .asleep }
  | stir (asleep : s.collector = .asleep) : Step workers s { s with collector := .woken true }
  | pass (late : Bool) (next : Recorded) (comes : s.collector.Comes late)
      (turn : Barrier.monitor.turn s.recorded .wait late = .leave next []) :
      Step workers s { s with recorded := next, collector := .through }
  | run (through : s.collector = .through) (idle : s.executor.calls 0 = []) :
      Step workers s
        { s with executor := s.executor.stand 0 [⟨.all 0, .looking⟩], collector := .draining }
  | drain (executor : Executor.Interleaving.State α ρ) (draining : s.collector = .draining)
      (goes : Drain s.executor executor) : Step workers s { s with executor }

def Reachable (tasks : List (List α)) (workers : Nat) (s : State α ρ) : Prop :=
  Relation.ReflTransGen (Step workers) (.start tasks) s

variable {tasks : List (List α)} {workers : Nat} {s t : State α ρ}

theorem Reachable.invariant {P : State α ρ → Prop} (reached : Reachable tasks workers s)
    (initial : P (.start tasks))
    (keep : ∀ {s t : State α ρ}, Reachable tasks workers s → Step workers s t → P s → P t) :
    P s := by
  induction reached with
  | refl => exact initial
  | tail before step ih => exact keep before step ih

theorem Drain.step {x y : Executor.Interleaving.State α ρ} (goes : Drain x y) :
    Executor.Interleaving.Step x y := by
  cases goes with
  | pop n action executor here found => exact .pop x 0 _ _ action executor here found
  | dry n here found => exact .dry x 0 (.all n) [] here found
  | begin n action here => exact .begin x 0 _ _ action here
  | finish n action outcome here => exact .finish x 0 _ _ action outcome here

theorem Step.executor (step : Step workers s t) :
    t.executor = s.executor ∨ Executor.Interleaving.Step s.executor t.executor := by
  cases step with
  | defer i k action rest here => exact .inr (.defer s.executor k action)
  | run through idle =>
      have free := Executor.Interleaving.State.canCall_of_idle idle
      have called := Executor.Interleaving.Step.call s.executor 0 (.all 0) (.inl rfl) free
      rw [idle] at called
      exact .inr called
  | drain executor draining goes => exact .inr goes.step
  | begin | notify | notice | sleep | stir | pass => exact .inl rfl

theorem Reachable.executor (reached : Reachable tasks workers s) :
    Executor.Interleaving.Reachable s.executor := by
  refine reached.invariant (P := fun s => Executor.Interleaving.Reachable s.executor) .refl ?_
  intro s t _ step before
  rcases step.executor with same | moved
  · exact same ▸ before
  · exact before.tail moved

theorem Progress.phase_wake (p : Progress α) : p.phase.wake () = p.phase := by
  cases p <;> rfl

theorem State.scene_thread {k : Nat} {now : Progress α} (here : s.progress[k]? = some now) :
    s.scene.threads[k + 1]? = some now.phase := by
  simp [scene, here]

theorem State.scene_move (s : State α ρ) (k : Nat) (now : Progress α) :
    (s.move k now).scene = s.scene.move (k + 1) now.phase := by
  simp [scene, move, Scene.move, List.map_set]

theorem State.scene_still {k : Nat} {before now : Progress α}
    (here : s.progress[k]? = some before) (same : now.phase = before.phase) :
    (s.move k now).scene = s.scene := by
  obtain ⟨inside, there⟩ := List.getElem?_eq_some_iff.mp (scene_thread here)
  rw [scene_move, Scene.move, same, ← there, List.set_getElem_self]

theorem State.scene_wake (s : State α ρ) :
    { s with collector := s.collector.wake }.scene = s.scene.wakeAll () := by
  simp [scene, Scene.wakeAll, Collector.phase_wake, Function.comp_def, Progress.phase_wake]

theorem Step.scene (step : Step workers s t) :
    t.scene = s.scene ∨ Barrier.monitor.Step s.scene t.scene := by
  cases step with
  | begin i k actions inside free here => exact .inl (State.scene_still here rfl)
  | defer i k action rest here => exact .inl (State.scene_still here rfl)
  | notify i k next owed here turn =>
      have left : Barrier.monitor.Step s.scene _ :=
        .leave (k + 1) (.out []) Request.notify false next owed (State.scene_thread here) (.anew _)
          turn
      have moved : (s.move k (.told i owed)).scene = s.scene.move (k + 1) (.out owed) :=
        s.scene_move k _
      rw [← moved] at left
      exact .inr left
  | notice i k owed here =>
      have noticed : Barrier.monitor.Step s.scene _ :=
        .notifyAll (k + 1) () owed (State.scene_thread here)
      have moved : (s.move k (.told i owed)).scene = s.scene.move (k + 1) (.out owed) :=
        s.scene_move k _
      rw [← moved, ← State.scene_wake] at noticed
      exact .inr noticed
  | sleep late comes turn =>
      exact .inr (.wait 0 s.collector.phase .wait late () rfl comes.phase turn)
  | stir asleep =>
      have here : s.scene.threads[0]? = some (.asleep () .wait) :=
        congrArg (fun collector : Collector => some collector.phase) asleep
      exact .inr (.timeout 0 () Request.wait rfl here)
  | pass late next comes turn =>
      exact .inr (.leave 0 s.collector.phase .wait late next [] rfl comes.phase turn)
  | run through idle =>
      left
      simp only [State.scene, through]
      rfl
  | drain executor draining goes => exact .inl rfl

theorem State.scene_start (tasks : List (List α)) :
    (start tasks : State α ρ).scene = .start (.start tasks.length) (tasks.length + 1) := by
  have outside : (tasks.map Progress.waiting).map Progress.phase =
      List.replicate tasks.length (.out []) := by
    rw [List.map_map]
    exact List.map_const'
  rw [scene, start, outside]
  rfl

theorem Reachable.barrier (reached : Reachable tasks workers s) :
    Barrier.monitor.Reachable (.start tasks.length) (tasks.length + 1) s.scene := by
  refine reached.invariant
    (P := fun s => Barrier.monitor.Reachable (.start tasks.length) (tasks.length + 1) s.scene) ?_ ?_
  · rw [State.scene_start]
    exact .start
  · intro s t _ step before
    rcases step.scene with same | moved
    · exact same ▸ before
    · exact .step before moved

end WorkerPool.Handover
