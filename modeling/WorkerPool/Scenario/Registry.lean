
namespace WorkerPool.Scenario

abbrev Names := List (String × Nat)

namespace Names

def find? (names : Names) (name : String) : Option Nat := names.lookup name

def erase (names : Names) (name : String) : Names := names.filter (·.1 != name)

def insert (names : Names) (name : String) (place : Nat) : Names :=
  let others := names.erase name
  others.filter (·.1 < name) ++ (name, place) :: others.filter (name < ·.1)

end Names

/-- An object keeps its place when its name passes to another. -/
structure Registry (α : Type) where
  cells : Array α := #[]
  names : Names := []

namespace Registry

variable {α : Type}

def next (r : Registry α) : Nat := r.cells.size

def add (r : Registry α) (name : String) (a : α) : Registry α :=
  ⟨r.cells.push a, r.names.insert name r.next⟩

def get? (r : Registry α) (place : Nat) : Option α := r.cells[place]?

def find? (r : Registry α) (name : String) : Option (Nat × α) := do
  let place ← r.names.find? name
  let a ← r.get? place
  return (place, a)

def set (r : Registry α) (place : Nat) (a : α) : Registry α :=
  { r with cells := r.cells.setIfInBounds place a }

def addName (r : Registry α) (name : String) (place : Nat) : Registry α :=
  { r with names := r.names.insert name place }

def forget (r : Registry α) (name : String) : Registry α :=
  { r with names := r.names.erase name }

end Registry

end WorkerPool.Scenario
