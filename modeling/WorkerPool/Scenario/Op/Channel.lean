import WorkerPool.Scenario.Function
import WorkerPool.Scenario.Settings

namespace WorkerPool.Scenario

inductive ChannelOp where
  | create (channel : String)
  | fulfill (channel : String) (value : Value)
  | fail (channel : String) (error : TaskFailure)
  | complete (channel : String) (work : Work)
  | dropPromise (channel : String)
  | dropChannel (channel : String)
  | showPromise (channel : String) (pretty : Bool)
  | isReady (channel : String)
  | describe (channel : String) (pretty : Bool)
  | tryTake (channel : String)
  | waitTimeout (channel : String) (timeout : Duration)
  | wait (channel : String)

namespace ChannelOp

def errorOf (v : Value) : TaskFailure :=
  match v.textAt "e" with
  | "Abandoned" => .abandoned
  | "AlreadyRetrieved" => .alreadyRetrieved
  | _ => .panicked (v.textAt "msg")

def ofFields (verb : String) (v : Value) : Option ChannelOp :=
  let channel := v.textAt "c"
  let pretty := v.boolAt "pretty"
  match verb with
  | "new" => some (.create channel)
  | "fulfill" => some (.fulfill channel (v.field "v"))
  | "fail" => some (.fail channel (errorOf v))
  | "complete" => some (.complete channel (.ofFields v))
  | "drop_promise" => some (.dropPromise channel)
  | "drop_channel" => some (.dropChannel channel)
  | "debug_promise" => some (.showPromise channel pretty)
  | "is_ready" => some (.isReady channel)
  | "debug" => some (.describe channel pretty)
  | "try_take" => some (.tryTake channel)
  | "wait_timeout" => some (.waitTimeout channel (v.durationAt "timeout"))
  | "wait" => some (.wait channel)
  | _ => none

end ChannelOp

end WorkerPool.Scenario
