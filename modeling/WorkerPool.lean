import WorkerPool.Proofs.Channel.OneShot
import WorkerPool.Proofs.Collection.Wakeup
import WorkerPool.Proofs.EventLoop.Delivery
import WorkerPool.Proofs.Forest.Independence
import WorkerPool.Proofs.Pool.Abandonment
import WorkerPool.Proofs.Pool.Calls
import WorkerPool.Proofs.Pool.Draining
import WorkerPool.Proofs.Pool.Drop
import WorkerPool.Proofs.Pool.Statistics
import WorkerPool.Proofs.Queue.Fifo
import WorkerPool.Proofs.Queue.Wakeup
import WorkerPool.Scenario.Run
import WorkerPool.Proofs.Event
import WorkerPool.Proofs.Pool.Log
import WorkerPool.Proofs.EventLoop.Log
import WorkerPool.Proofs.Log
import WorkerPool.Proofs.Pool.Containment
import WorkerPool.Proofs.Scenario.Births
import WorkerPool.Proofs.Scenario.Tokens
import WorkerPool.Proofs.Pools.Naming
import WorkerPool.Proofs.Pools.World
import WorkerPool.Proofs.Pools.Places
import WorkerPool.Proofs.Pools.Seating
import WorkerPool.Proofs.Pools.Isolation
import WorkerPool.Proofs.Release
import WorkerPool.Proofs.Executor.Draining
import WorkerPool.Proofs.Submission
import WorkerPool.Proofs.Collection.Session
import WorkerPool.Proofs.Collection.Fifo
import WorkerPool.Proofs.Pool.Exit
import WorkerPool.Proofs.LevelOrder
import WorkerPool.Proofs.Executor.Script
import WorkerPool.Proofs.Executor.Reentrance
import WorkerPool.Proofs.Forest.Sprout
import WorkerPool.Proofs.Forest.OneWorker
import WorkerPool.Proofs.Forest.Deferred
import WorkerPool.Proofs.Forest.BreadthFirst
import WorkerPool.Proofs.Pool.Backpressure
import WorkerPool.Proofs.Queue.Batch
import WorkerPool.Proofs.Pool.Batch
import WorkerPool.Proofs.Queue.Tokens
import WorkerPool.Proofs.Shutdown
import WorkerPool.Proofs.Queue.Removal
import WorkerPool.Proofs.Handover.Completion
