import WorkerPool.Channel
import WorkerPool.Executor
import WorkerPool.Pool.Stats
import WorkerPool.Scenario.Failure

namespace WorkerPool.Scenario

namespace Value

def ok : Value := .str "ok"

def gone : Value := .str "gone"

def wouldBlock : Value := .str "would_block"

def unknownOp : Value := .str "unknown_op"

def panicked (message : String) : Value := .object [("panic", .str message)]

def some (v : Value) : Value := .object [("some", v)]

def optional : Option Value → Value
  | none => .str "none"
  | Option.some v => some v

def limit : Option Nat → Value
  | none => .null
  | Option.some n => .nat n

def result : Except TaskFailure Value → Value
  | .ok v => .object [("ok", v)]
  | .error e => (Failure.task e).answer

def polled : Option (Except TaskFailure Value) → Value
  | none => .str "pending"
  | Option.some outcome => result outcome

def drained : Executor.Drain.Result → Value
  | .executed count => .nat count
  | .found any => .bool any

/-- From inside a task, how many tasks were scheduled is left out: a submitter counts a task
only after it is queued. -/
def stats (inBody : Bool) (s : Stats) : Value :=
  let scheduled := if inBody then [] else [("scheduled", Value.nat s.scheduled)]
  .object (scheduled ++ [
    ("rejected", .nat s.rejected), ("executed", .nat s.executed),
    ("panicked", .nat s.panicked), ("abandoned", .nat s.abandoned)])

def shape (pretty : Bool) (s : Text.Shape) : Value := .str (s.render pretty)

end Value

end WorkerPool.Scenario
