import WorkerPool.Channel
import WorkerPool.Pool.Basic

namespace WorkerPool.Pool

variable {β ρ : Type}

def close (p : Pool β) : Pool β := { p with queue := p.queue.close.2 }

def trigger (p : Pool β) : Pool β :=
  let (first, signal) := p.signal.trigger
  let p := { p with signal }
  if first then p.emit (.poolStopping p.queue.length) else p

def stop (p : Pool β) : Pool β := p.close.trigger

def selfJoin (p : Pool β) : Pool β := p.emit .selfJoin

def tellFallen (p : Pool β) : Pool β :=
  { p with
    fallen := []
    events := p.events ++ p.fallen.map fun (i, payload) => .workerFailed i payload.message }

def removeLeftovers (p : Pool β) : List (Job β) × Pool β :=
  let (leftovers, queue) := p.queue.drain
  (leftovers, { p.tellFallen with queue })

def countLeftovers (p : Pool β) (leftovers : List (Job β)) : Pool β :=
  if leftovers.isEmpty then p
  else
    let count := leftovers.length
    { p with stats := p.stats.abandon count }.emit (.leftoversDropped count)

def dropTasks (leftovers : List (Job β)) (cs : Channels ρ) : Channels ρ :=
  (leftovers.filterMap (·.channel)).foldl Channels.abandon cs

def abandonQueued (p : Pool β) (cs : Channels ρ) : Pool β × Channels ρ :=
  let (leftovers, p) := p.removeLeftovers
  (p.countLeftovers leftovers, dropTasks leftovers cs)

/-- Any other join; nothing while a worker has not left. -/
def join (p : Pool β) (cs : Channels ρ) : Option (Pool β × Channels ρ) :=
  if p.allExited then some (p.abandonQueued cs) else none

end WorkerPool.Pool
