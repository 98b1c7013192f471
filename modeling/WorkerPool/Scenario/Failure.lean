import WorkerPool.Barrier
import WorkerPool.Collection
import WorkerPool.Pool.Submission
import WorkerPool.Scenario.Value

namespace WorkerPool.Scenario

inductive Failure where
  | schedule (e : Rejection)
  | task (e : TaskFailure)
  | settings (e : SettingsError)
  | pool (e : SettingsError)
  | eventLoop (e : SettingsError)
  | overcounted (e : Barrier.Overcounted)
  | push (refused : Collection.Refused Value)
  | enqueue (refused : Queue.Refused Value)
  | enqueueBulk (refused : Queue.Refused (List Value))

namespace Failure

def report : Failure → Report
  | .schedule e => e.report
  | .task e => e.report
  | .settings e => e.report
  | .pool e => e.poolReport
  | .eventLoop e => e.loopReport
  | .overcounted e => e.report
  | .push refused => refused.reason.report
  | .enqueue refused => refused.reason.report
  | .enqueueBulk refused => refused.reason.report

def extras : Failure → List (String × Value)
  | .push refused => [("item", refused.item)]
  | .enqueue refused => [("closed", .bool (refused.reason == .closed)), ("item", refused.item)]
  | .enqueueBulk refused =>
    [("closed", .bool (refused.reason == .closed)), ("items", .list refused.item)]
  | _ => []

def answer (f : Failure) : Value :=
  let source := match f.report.source with
    | some text => [("source", Value.str text)]
    | none => []
  .object ([("err", .str f.report.name), ("msg", .str f.report.message)] ++ source ++ f.extras)

def settingsError : String → SettingsError
  | "ZeroBatchSize" => .zeroBatchSize
  | "ZeroCapacity" => .zeroCapacity
  | "ZeroTimeout" => .zeroTimeout
  | _ => .zeroWorkers

def ofFields (v : Value) : Failure :=
  let cause := settingsError (v.textAt "of")
  match v.textAt "e" with
  | "QueueFull" => .schedule (.queueFull (v.natAt "n"))
  | "ShutDown" => .schedule .stopped
  | "ForeignToken" => .schedule .foreignToken
  | "Abandoned" => .task .abandoned
  | "AlreadyRetrieved" => .task .alreadyRetrieved
  | "Config" => .settings cause
  | "PoolError" => .pool cause
  | "EventLoopError" => .eventLoop cause
  | "Overcounted" => .overcounted ⟨v.natAt "n"⟩
  | "PushFull" => .push ⟨.full, v.field "v"⟩
  | "PushCompleted" => .push ⟨.completed, v.field "v"⟩
  | "EnqueueFull" => .enqueue ⟨.full, v.field "v"⟩
  | "EnqueueClosed" => .enqueue ⟨.closed, v.field "v"⟩
  | _ => .task (.panicked (v.textAt "msg"))

end Failure

end WorkerPool.Scenario
