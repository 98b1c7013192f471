import WorkerPool.Scenario.Settings

namespace WorkerPool.Scenario

inductive LoopOp where
  | create (loop : String) (settings : LoopSettings)
  | push (loop : String) (item : Value)
  | tryPush (loop : String) (item : Value)
  | stop (loop : String)
  | join (loop : String)
  | stopJoin (loop : String)
  | drop (loop : String)
  | length (loop : String)
  | isEmpty (loop : String)
  | isStopped (loop : String)
  | workerCount (loop : String)
  | capacity (loop : String)
  | describe (loop : String) (pretty : Bool)

def LoopOp.ofFields (m : Machine) (verb : String) (v : Value) : Option LoopOp :=
  let name := v.textAt "l"
  match verb with
  | "new" => some (.create name (m.loopSettingsOf v))
  | "push" => some (.push name (v.field "v"))
  | "try_push" => some (.tryPush name (v.field "v"))
  | "stop" => some (.stop name)
  | "join" => some (.join name)
  | "stop_join" => some (.stopJoin name)
  | "drop" => some (.drop name)
  | "len" => some (.length name)
  | "is_empty" => some (.isEmpty name)
  | "is_stopped" => some (.isStopped name)
  | "worker_count" => some (.workerCount name)
  | "capacity" => some (.capacity name)
  | "debug" => some (.describe name (v.boolAt "pretty"))
  | _ => none

end WorkerPool.Scenario
