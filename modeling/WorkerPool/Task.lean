import WorkerPool.Report
import WorkerPool.Text.Quoted

namespace WorkerPool

inductive Payload where
  | text (message : String)
  | other
  deriving DecidableEq, Repr

def Payload.message : Payload → String
  | .text message => message
  | .other => "non-string panic payload"

/-- What a panic throws: a payload that is dropped without more ado, or one whose destructor panics
in its turn. -/
inductive Thrown where
  | quiet (payload : Payload)
  | loud (raises : Thrown)
  deriving DecidableEq, Repr

namespace Thrown

def payload : Thrown → Payload
  | quiet payload => payload
  | loud _ => .other

def message (thrown : Thrown) : String := thrown.payload.message

def dropped : Thrown → Option Thrown
  | quiet _ => none
  | loud raises => some raises

/-- What a payload raises as it is dropped is another panic. -/
theorem dropped_ne (thrown : Thrown) : thrown.dropped ≠ some thrown := by
  induction thrown with
  | quiet => exact nofun
  | loud raises ih =>
      intro same
      have inner : raises = loud raises := Option.some.inj same
      exact ih (congrArg dropped inner)

end Thrown

inductive TaskFailure where
  | panicked (message : String)
  | abandoned
  | alreadyRetrieved
  deriving DecidableEq, Repr

def TaskFailure.report : TaskFailure → Report
  | .panicked message =>
    ⟨"Panicked(" ++ Text.quoted message ++ ")", "Task panicked: " ++ message, none⟩
  | .abandoned => ⟨"Abandoned", "Task was abandoned before producing a result", none⟩
  | .alreadyRetrieved => ⟨"AlreadyRetrieved", "Task result was already retrieved", none⟩

inductive Ending (ρ : Type) where
  | returned (value : ρ)
  | threw (thrown : Thrown)
  deriving DecidableEq, Repr

namespace Ending

variable {ρ : Type}

def thrown? : Ending ρ → Option Thrown
  | returned _ => none
  | threw thrown => some thrown

/-- A body run for a promise: what the channel gets, and the panic that gets past the promise. The
panic of the body is caught, but the payload is dropped after that. -/
def complete : Ending ρ → Except TaskFailure ρ × Option Thrown
  | returned value => (.ok value, none)
  | threw thrown => (.error (.panicked thrown.message), thrown.dropped)

end Ending

/-- An ending with nothing to be heard of after it. -/
inductive Outcome (ρ : Type) where
  | returned (value : ρ)
  | panicked (payload : Payload)
  deriving DecidableEq, Repr

namespace Outcome

variable {ρ : Type}

def ending : Outcome ρ → Ending ρ
  | returned value => .returned value
  | panicked payload => .threw (.quiet payload)

def result : Outcome ρ → Except TaskFailure ρ
  | returned value => .ok value
  | panicked payload => .error (.panicked payload.message)

@[simp] theorem complete_ending (outcome : Outcome ρ) :
    outcome.ending.complete = (outcome.result, none) := by
  cases outcome <;> rfl

end Outcome

end WorkerPool
