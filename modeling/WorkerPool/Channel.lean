import WorkerPool.Task
import WorkerPool.Text.Shape

namespace WorkerPool

open Text

inductive Slot (ρ : Type) where
  | pending
  | ready (outcome : Except TaskFailure ρ)
  | abandoned
  | taken

namespace Slot

variable {ρ : Type}

def isReady : Slot ρ → Bool
  | .pending => false
  | _ => true

def settle (_ : Slot ρ) (outcome : Except TaskFailure ρ) : Slot ρ := .ready outcome

def abandon : Slot ρ → Slot ρ
  | .pending => .abandoned
  | slot => slot

/-- Nothing while the promise is open; an outcome is given out once. -/
def read : Slot ρ → Option (Except TaskFailure ρ) × Slot ρ
  | .pending => (none, .pending)
  | .ready outcome => (some outcome, .taken)
  | .abandoned => (some (.error .abandoned), .abandoned)
  | .taken => (some (.error .alreadyRetrieved), .taken)

@[simp] theorem read_settle (slot : Slot ρ) (outcome : Except TaskFailure ρ) :
    (slot.settle outcome).read = (some outcome, .taken) := rfl

theorem read_isSome_iff (slot : Slot ρ) : slot.read.1.isSome ↔ slot.isReady = true := by
  cases slot <;> simp [read, isReady]

theorem isReady_read (slot : Slot ρ) : slot.read.2.isReady = slot.isReady := by
  cases slot <;> rfl

def shape (slot : Slot ρ) : Shape :=
  .record "ResultChannel" [("ready", .bool slot.isReady)] false

def promiseShape : Shape := .record "Promise" [("settled", .bool false)] false

end Slot

structure Channels (ρ : Type) where
  slots : Array (Slot ρ) := #[]

namespace Channels

variable {ρ : Type}

def slot (cs : Channels ρ) (c : Nat) : Slot ρ := cs.slots.getD c .abandoned

def next (cs : Channels ρ) : Nat := cs.slots.size

def create (cs : Channels ρ) : Channels ρ := ⟨cs.slots.push .pending⟩

def update (cs : Channels ρ) (c : Nat) (f : Slot ρ → Slot ρ) : Channels ρ := ⟨cs.slots.modify c f⟩

def settle (cs : Channels ρ) (c : Nat) (outcome : Except TaskFailure ρ) : Channels ρ :=
  cs.update c (·.settle outcome)

def abandon (cs : Channels ρ) (c : Nat) : Channels ρ := cs.update c Slot.abandon

def read (cs : Channels ρ) (c : Nat) : Option (Except TaskFailure ρ) × Channels ρ :=
  ((cs.slot c).read.1, cs.update c fun slot => slot.read.2)

end Channels

end WorkerPool
