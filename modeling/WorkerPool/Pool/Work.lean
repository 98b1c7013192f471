import WorkerPool.Channel
import WorkerPool.Pool.Basic

namespace WorkerPool.Pool

variable {β ρ : Type}

def fetchWaits (p : Pool β) : Bool := p.queue.fetchWaits p.settings.batchSize

/-- The next batch of a worker, empty after a timeout or on a closed queue. -/
def fetch (p : Pool β) (i : Nat) : Pool β :=
  let (batch, queue) := p.queue.fetch p.settings.batchSize
  { p with queue }.modifyWorker i fun w =>
    { w with
      batch := w.batch ++ batch
      token := w.token.record batch.length
      stage := .running batch.length }

def current? (p : Pool β) (i : Nat) : Option (Job β) := (p.worker? i).bind (·.batch.head?)

def settleTask (p : Pool β) (i : Nat) (outcome : Outcome ρ) (cs : Channels ρ) : Channels ρ :=
  match (p.current? i).bind (·.channel) with
  | some c => cs.settle c outcome.ending.complete.1
  | none => cs

def countPanic (p : Pool β) (i : Nat) (outcome : Outcome ρ) : Pool β :=
  match (p.current? i).bind (·.run outcome.ending) with
  | some thrown => { p with stats := p.stats.panic }.emit (.taskPanicked i thrown.message)
  | none => p

def countTask (p : Pool β) (i : Nat) : Pool β :=
  match p.current? i with
  | some _ =>
    { p with stats := p.stats.execute }.modifyWorker i fun w => { w with batch := w.batch.tail }
  | none => p

def finish (p : Pool β) (i : Nat) (outcome : Outcome ρ) (cs : Channels ρ) : Pool β × Channels ρ :=
  ((p.countPanic i outcome).countTask i, p.settleTask i outcome cs)

def check (p : Pool β) (i : Nat) : Pool β :=
  match p.worker? i with
  | some w =>
    let next := w.check p.signal.raised p.settings.stopPolicy
    let p := p.modifyWorker i fun _ => next
    if next.hasExited && !w.hasExited then p.emit (.workerStopped i w.token.dequeued) else p
  | none => p

end WorkerPool.Pool
