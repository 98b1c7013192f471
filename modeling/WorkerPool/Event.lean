import WorkerPool.Settings
import WorkerPool.Queue.Basic

namespace WorkerPool

inductive Event where
  | poolStarted (workers : WorkerCount) (batchSize : Nat) (timeout : Duration)
      (policy : StopPolicy)
  | poolStopping (queued : Nat)
  | workerStarted (worker : Nat)
  | workerStopped (worker dequeued : Nat)
  | taskRejected (reason : Queue.Refusal)
  | bulkRejected (reason : Queue.Refusal) (count : Nat)
  | taskForeign
  | bulkForeign (count : Nat)
  | taskPanicked (worker : Nat) (message : String)
  | workerFailed (worker : Nat) (message : String)
  | leftoversDropped (count : Nat)
  | selfJoin
  | actionPanicked (message : String)
  | loopStarted (workers : WorkerCount) (capacity : Nat)
  | loopWorkerStopped (worker consumed : Nat)
  | consumerPanicked (worker : Nat) (message : String)
  | loopSelfJoin
  deriving DecidableEq, Repr

namespace Event

inductive Level where
  | debug
  | info
  | warn
  | error
  deriving DecidableEq, Repr

def Level.text : Level → String
  | .debug => "DEBUG"
  | .info => "INFO"
  | .warn => "WARN"
  | .error => "ERROR"

def level : Event → Level
  | poolStarted .. | poolStopping .. => .info
  | taskPanicked .. | workerFailed .. | actionPanicked .. | consumerPanicked .. => .error
  | leftoversDropped .. | selfJoin | loopSelfJoin => .warn
  | _ => .debug

def message : Event → String
  | poolStarted .. => "thread pool started"
  | poolStopping .. => "thread pool stopping"
  | workerStarted .. => "worker started"
  | workerStopped .. => "worker shutting down"
  | taskRejected .. => "task rejected"
  | bulkRejected .. => "bulk submission rejected"
  | taskForeign => "task rejected: foreign producer token"
  | bulkForeign .. => "bulk submission rejected: foreign producer token"
  | taskPanicked .. => "detached task panicked"
  | workerFailed .. => "worker thread terminated abnormally"
  | leftoversDropped .. => "dropping tasks left in the queue at shutdown"
  | selfJoin => "join called from a worker of the same pool; ignoring it"
  | actionPanicked .. => "deferred action panicked"
  | loopStarted .. => "event loop started"
  | loopWorkerStopped .. => "event loop worker shutting down"
  | consumerPanicked .. => "event loop consumer panicked"
  | loopSelfJoin => "join called from an event loop worker; ignoring it"

def timeoutMillis (d : Duration) : Nat := d.millis % Nat.pow 2 64

def fields : Event → List (String × String)
  | poolStarted workers batchSize timeout policy => [
      ("workers", workers.text), ("batch_size", toString batchSize),
      ("timeout_ms", toString (timeoutMillis timeout)), ("policy", policy.name)]
  | poolStopping queued => [("queued", toString queued)]
  | workerStarted worker => [("worker", toString worker)]
  | workerStopped worker dequeued =>
    [("worker", toString worker), ("dequeued", toString dequeued)]
  | taskRejected reason => [("reason", reason.message)]
  | bulkRejected reason count => [("reason", reason.message), ("count", toString count)]
  | bulkForeign count | leftoversDropped count => [("count", toString count)]
  | taskPanicked worker message | workerFailed worker message
  | consumerPanicked worker message =>
    [("worker", toString worker), ("panic", message)]
  | actionPanicked message => [("panic", message)]
  | loopStarted workers capacity =>
    [("workers", workers.text), ("capacity", toString capacity)]
  | loopWorkerStopped worker consumed =>
    [("worker", toString worker), ("consumed", toString consumed)]
  | taskForeign | selfJoin | loopSelfJoin => []

def workerFields : List String := ["worker", "dequeued", "consumed"]

def line (anonymous : Bool) (e : Event) : String :=
  let shown := e.fields.filter fun (key, _) => !(anonymous && workerFields.contains key)
  e.level.text ++ " " ++ e.message
    ++ String.join (shown.map fun (key, value) => " " ++ key ++ "=" ++ value)

end Event

end WorkerPool
