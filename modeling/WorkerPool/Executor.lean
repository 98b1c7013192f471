import WorkerPool.Event
import WorkerPool.Task
import WorkerPool.Text.Shape

namespace WorkerPool

open Text

structure Executor (α : Type) where
  queued : List α := []
  deriving Repr

namespace Executor

variable {α : Type}

def defer (x : Executor α) (action : α) : Executor α := ⟨x.queued ++ [action]⟩

def next? (x : Executor α) : Option (α × Executor α) :=
  match x.queued with
  | [] => none
  | action :: rest => some (action, ⟨rest⟩)

def length (x : Executor α) : Nat := x.queued.length

def isEmpty (x : Executor α) : Bool := x.queued.isEmpty

def shape (x : Executor α) : Shape := .record "AsyncExecutor" [("queued", .nat x.length)] false

@[simp] theorem queued_defer (x : Executor α) (action : α) :
    (x.defer action).queued = x.queued ++ [action] := rfl

theorem next?_eq_some_iff (x next : Executor α) (action : α) :
    x.next? = some (action, next) ↔ x.queued = action :: next.queued := by
  cases queued : x.queued <;> simp [next?, queued]
  intro _
  exact ⟨fun h => h ▸ rfl, fun h => congrArg Executor.mk h⟩

theorem next?_eq_none_iff (x : Executor α) : x.next? = none ↔ x.queued = [] := by
  cases queued : x.queued <;> simp [next?, queued]

/-- A call that runs all the actions there are, or one. -/
inductive Drain where
  | all (executed : Nat)
  | one
  deriving DecidableEq, Repr

inductive Drain.Result where
  | executed (count : Nat)
  | found (any : Bool)
  deriving DecidableEq, Repr

namespace Drain

def dry : Drain → Result
  | all executed => .executed executed
  | one => .found false

def past : Drain → Drain ⊕ Result
  | all executed => .inl (all (executed + 1))
  | one => .inr (.found true)

end Drain

def report? {ρ : Type} : Outcome ρ → Option Event
  | .returned _ => none
  | .panicked payload => some (.actionPanicked payload.message)

end Executor

end WorkerPool
