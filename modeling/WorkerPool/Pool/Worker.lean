import WorkerPool.Queue.Basic
import WorkerPool.Settings
import WorkerPool.Task

namespace WorkerPool

structure Job (β : Type) where
  body : β
  channel : Option Nat := none
  deriving DecidableEq, Repr

namespace Job

variable {β ρ : Type}

/-- The panic that running a task hands to its worker. -/
def run (job : Job β) (ending : Ending ρ) : Option Thrown :=
  match job.channel with
  | some _ => ending.complete.2
  | none => ending.thrown?

theorem run_ending (job : Job β) (outcome : Outcome ρ) :
    job.run outcome.ending =
      match job.channel, outcome with
      | none, .panicked payload => some (.quiet payload)
      | _, _ => none := by
  unfold run
  cases job.channel <;> cases outcome <;> rfl

end Job

inductive Stage where
  | fetching
  -- The last fetch brought `fetched` tasks.
  | running (fetched : Nat)
  | exited
  deriving DecidableEq, Repr

structure Worker (β : Type) where
  id : Nat
  token : ConsumerToken
  -- Tasks that were fetched and have not ended, the one under way first.
  batch : List (Job β) := []
  -- The signal was seen raised, so an empty fetch from now on is the last.
  draining : Bool := false
  stage : Stage := .fetching
  deriving Repr

namespace Worker

variable {β : Type}

def check (w : Worker β) (raised : Bool) (policy : StopPolicy) : Worker β :=
  match w.stage with
  | .running fetched =>
    if w.draining && fetched == 0 then { w with stage := .exited }
    else if !raised then { w with stage := .fetching }
    else
      match policy with
      | .abandon => { w with stage := .exited }
      | .drain => { w with draining := true, stage := .fetching }
  | _ => w

def hasExited (w : Worker β) : Bool := w.stage == .exited

end Worker

end WorkerPool
