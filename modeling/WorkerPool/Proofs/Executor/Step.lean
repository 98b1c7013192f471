import Mathlib.Logic.Function.Basic
import Mathlib.Logic.Relation
import WorkerPool.Executor

namespace WorkerPool.Executor.Interleaving

/-- Actions are numbered as they are deferred, so two actions that do the same are told apart. -/
structure Deferred (α : Type) where
  number : Nat
  producer : Nat
  action : α
  deriving DecidableEq, Repr

/-- How far a call is with its current action. -/
inductive Stage (α : Type) where
  | looking
  -- The action is out of the queue; its body has not begun.
  | holding (action : Deferred α)
  | running (action : Deferred α)
  deriving DecidableEq, Repr

structure Call (α : Type) where
  drain : Drain
  stage : Stage α := .looking
  deriving DecidableEq, Repr

namespace Call

variable {α : Type}

def held (call : Call α) : List (Deferred α) :=
  match call.stage with
  | .holding action => [action]
  | _ => []

def current (call : Call α) : List (Deferred α) :=
  match call.stage with
  | .running action => [action]
  | _ => []

end Call

variable {α ρ : Type}

/-- What has happened so far. Nothing in the executor depends on it, apart from the numbers of new
actions. -/
structure History (α ρ : Type) where
  pushed : List (Deferred α) := []
  popped : List (Nat × Deferred α) := []
  begun : List (Nat × Deferred α) := []
  ended : List ((Nat × Deferred α) × Outcome ρ) := []
  answers : List (Nat × Drain.Result) := []

structure State (α ρ : Type) extends History α ρ where
  executor : Executor (Deferred α) := {}
  calls : Nat → List (Call α) := fun _ => []
  events : List Event := []

namespace State

def defer (s : State α ρ) (producer : Nat) (action : α) : State α ρ :=
  let action := Deferred.mk s.pushed.length producer action
  { s with executor := s.executor.defer action, pushed := s.pushed ++ [action] }

def stand (s : State α ρ) (i : Nat) (calls : List (Call α)) : State α ρ :=
  { s with calls := Function.update s.calls i calls }

def answer (s : State α ρ) (i : Nat) (below : List (Call α)) (result : Drain.Result) :
    State α ρ :=
  { s.stand i below with answers := s.answers ++ [(i, result)] }

def pop (s : State α ρ) (i : Nat) (drain : Drain) (below : List (Call α)) (action : Deferred α)
    (executor : Executor (Deferred α)) : State α ρ :=
  { s.stand i (⟨drain, .holding action⟩ :: below) with
    executor
    popped := s.popped ++ [(i, action)] }

def begin (s : State α ρ) (i : Nat) (drain : Drain) (below : List (Call α))
    (action : Deferred α) : State α ρ :=
  { s.stand i (⟨drain, .running action⟩ :: below) with begun := s.begun ++ [(i, action)] }

def finish (s : State α ρ) (i : Nat) (drain : Drain) (below : List (Call α))
    (action : Deferred α) (outcome : Outcome ρ) : State α ρ :=
  let s :=
    { s with
      ended := s.ended ++ [((i, action), outcome)]
      events := s.events ++ (report? outcome).toList }
  match drain.past with
  | .inl drain => s.stand i (⟨drain, .looking⟩ :: below)
  | .inr result => s.answer i below result

/-- A drainer makes one call at a time, and another only from within an action. -/
def CanCall (s : State α ρ) (i : Nat) : Prop :=
  ∀ call ∈ (s.calls i).head?, ∃ action, call.stage = .running action

theorem canCall_of_idle {s : State α ρ} {i : Nat} (idle : s.calls i = []) : s.CanCall i := by
  simp [CanCall, idle]

def Returned (s : State α ρ) : Prop := ∀ i, s.calls i = []

end State

inductive Step : State α ρ → State α ρ → Prop
  | defer (s : State α ρ) (producer : Nat) (action : α) : Step s (s.defer producer action)
  | call (s : State α ρ) (i : Nat) (drain : Drain) (fresh : drain = .all 0 ∨ drain = .one)
      (free : s.CanCall i) :
      Step s (s.stand i (⟨drain, .looking⟩ :: s.calls i))
  | pop (s : State α ρ) (i : Nat) (drain : Drain) (below : List (Call α)) (action : Deferred α)
      (executor : Executor (Deferred α)) (here : s.calls i = ⟨drain, .looking⟩ :: below)
      (found : s.executor.next? = some (action, executor)) :
      Step s (s.pop i drain below action executor)
  | dry (s : State α ρ) (i : Nat) (drain : Drain) (below : List (Call α))
      (here : s.calls i = ⟨drain, .looking⟩ :: below) (found : s.executor.next? = none) :
      Step s (s.answer i below drain.dry)
  | begin (s : State α ρ) (i : Nat) (drain : Drain) (below : List (Call α))
      (action : Deferred α) (here : s.calls i = ⟨drain, .holding action⟩ :: below) :
      Step s (s.begin i drain below action)
  | finish (s : State α ρ) (i : Nat) (drain : Drain) (below : List (Call α))
      (action : Deferred α) (outcome : Outcome ρ)
      (here : s.calls i = ⟨drain, .running action⟩ :: below) :
      Step s (s.finish i drain below action outcome)

def Reachable (s : State α ρ) : Prop := Relation.ReflTransGen Step {} s

theorem Reachable.invariant {P : State α ρ → Prop} {s : State α ρ} (reached : Reachable s)
    (initial : P {}) (keep : ∀ {s t}, Step s t → P s → P t) : P s := by
  induction reached with
  | refl => exact initial
  | tail _ step ih => exact keep step ih

end WorkerPool.Executor.Interleaving
