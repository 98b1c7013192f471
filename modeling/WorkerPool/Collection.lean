import WorkerPool.Report
import WorkerPool.Text.Shape

namespace WorkerPool

open Text

structure Collection (α : Type) where
  capacity : Nat
  items : List α := []
  addingCompleted : Bool := false
  deriving Repr

namespace Collection

variable {α : Type}

inductive Refusal where
  | full
  | completed
  deriving DecidableEq, Repr

structure Refused (β : Type) where
  reason : Refusal
  item : β
  deriving DecidableEq, Repr

def Refusal.report : Refusal → Report
  | .full => ⟨"Full(..)", "pushing into a full collection", none⟩
  | .completed => ⟨"Completed(..)", "pushing into a completed collection", none⟩

def length (c : Collection α) : Nat := c.items.length

def isEmpty (c : Collection α) : Bool := c.items.isEmpty

def isFull (c : Collection α) : Bool := c.capacity ≤ c.length

def isCompleted (c : Collection α) : Bool := c.addingCompleted && c.isEmpty

def addWaits (c : Collection α) : Bool := c.isFull && !c.addingCompleted

def takeWaits (c : Collection α) : Bool := c.isEmpty && !c.addingCompleted

def tryAdd (c : Collection α) (item : α) : Except (Refused α) (Collection α) :=
  if c.addingCompleted then .error ⟨.completed, item⟩
  else if c.isFull then .error ⟨.full, item⟩
  else .ok { c with items := c.items ++ [item] }

/-- Nothing while the add has to wait. -/
def add (c : Collection α) (item : α) : Option (Except (Refused α) (Collection α)) :=
  if c.addWaits then none
  else if c.addingCompleted then some (.error ⟨.completed, item⟩)
  else some (.ok { c with items := c.items ++ [item] })

def take (c : Collection α) : Option (Option α × Collection α) :=
  match c.items with
  | item :: rest => some (some item, { c with items := rest })
  | [] => if c.addingCompleted then some (none, c) else none

def tryTake (c : Collection α) : Option α × Collection α :=
  match c.items with
  | item :: rest => (some item, { c with items := rest })
  | [] => (none, c)

def complete (c : Collection α) : Bool × Collection α :=
  (!c.addingCompleted, { c with addingCompleted := true })

def shape (c : Collection α) : Shape :=
  .record "BlockingCollection" [
    ("len", .nat c.length),
    ("capacity", .nat c.capacity),
    ("adding_completed", .bool c.addingCompleted)] false

theorem tryAdd_ok_iff (c next : Collection α) (item : α) :
    c.tryAdd item = .ok next ↔
      c.addingCompleted = false ∧ c.isFull = false ∧
        next = { c with items := c.items ++ [item] } := by
  unfold tryAdd
  cases c.addingCompleted <;> cases c.isFull <;> simp [eq_comm]

theorem add_eq_tryAdd (c : Collection α) (item : α) (free : c.addWaits = false) :
    c.add item = some (c.tryAdd item) := by
  unfold add tryAdd
  cases completed : c.addingCompleted <;> cases full : c.isFull <;>
    simp_all [addWaits]

theorem take_eq_tryTake (c : Collection α) (filled : c.takeWaits = false) :
    c.take = some c.tryTake := by
  unfold take tryTake
  cases items : c.items <;> simp_all [takeWaits, isEmpty]

theorem add_eq_none_iff (c : Collection α) (item : α) :
    c.add item = none ↔ c.addWaits = true := by
  unfold add
  cases c.addWaits <;> cases c.addingCompleted <;> simp

end Collection

end WorkerPool
