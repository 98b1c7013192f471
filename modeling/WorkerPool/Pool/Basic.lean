import WorkerPool.Event
import WorkerPool.Obstacle
import WorkerPool.Pool.Stats
import WorkerPool.Pool.Worker
import WorkerPool.Signal

namespace WorkerPool

open Text

structure Pool (β : Type) where
  settings : PoolSettings
  queue : Queue (Job β)
  signal : Signal := {}
  stats : Stats := {}
  workers : List (Worker β) := []
  -- Workers whose threads a panic has ended, and what it left behind, until a join tells of it.
  fallen : List (Nat × Payload) := []
  events : List Event := []
  deriving Repr

namespace Pool

variable {β : Type}

/-- A pool whose workers have started, on a queue with the given id. Workers that find no room for
a batch have left by then. -/
def start (settings : PoolSettings) (queueId : Nat) : Pool β :=
  let queue : Queue (Job β) := { id := queueId, capacity := settings.capacity }
  let ids := List.range settings.workers.count
  let stage := if settings.roomy then .fetching else .exited
  { settings, queue
    workers := ids.map fun id => { id, token := queue.consumer, stage }
    fallen :=
      match settings.batchObstacle? with
      | some obstacle => ids.map (·, .text obstacle.message)
      | none => []
    events :=
      .poolStarted settings.workers settings.batchSize settings.fetchTimeout settings.stopPolicy
        :: if settings.roomy then ids.map .workerStarted else [] }

def emit (p : Pool β) (e : Event) : Pool β := { p with events := p.events ++ [e] }

def worker? (p : Pool β) (i : Nat) : Option (Worker β) := p.workers[i]?

def modifyWorker (p : Pool β) (i : Nat) (f : Worker β → Worker β) : Pool β :=
  { p with workers := p.workers.modify i f }

def allExited (p : Pool β) : Bool := p.workers.all (·.hasExited)

def handleShape (p : Pool β) : Shape :=
  .record "PoolHandle" [("queue", p.queue.shape), ("stopped", .bool p.signal.raised)] false

def shape (p : Pool β) : Shape :=
  .record "ThreadPool" [("workers", .atom p.settings.workers.text), ("handle", p.handleShape)] false

def callableShape (p : Pool β) : Shape := .record "Callable" [("pool", p.handleShape)] true

end Pool

end WorkerPool
