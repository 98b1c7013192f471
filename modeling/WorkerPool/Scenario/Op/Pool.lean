import WorkerPool.Scenario.Function
import WorkerPool.Scenario.Settings

namespace WorkerPool.Scenario

inductive PoolOp where
  | create (pool : String) (settings : PoolSettings)
  | schedule (pool channel : String) (token : Option String) (work : Work)
  | forget (pool : String) (token : Option String) (body : List Value)
  | bulk (pool : String) (token : Option String) (bodies : List (List Value))
  | producer (pool token : String)
  | stats (pool : String)
  | queued (pool : String)
  | isStopped (pool : String)
  | workerCount (pool : String)
  | settings (pool : String) (pretty : Bool)
  | describe (pool : String) (pretty : Bool)
  | showHandle (pool : String) (pretty : Bool)
  | stop (pool : String)
  | join (pool : String)
  | stopJoin (pool : String)
  | drop (pool : String)
  | bind (pool callable : String) (function : Function)
  | absent

namespace PoolOp

def ofFields (m : Machine) (verb : String) (v : Value) : Option PoolOp :=
  let pool := v.textAt "p"
  let token := v.text? "t"
  let pretty := v.boolAt "pretty"
  match verb with
  | "new" => some (.create pool (m.poolSettingsOf v))
  | "schedule" => some (.schedule pool (v.textAt "c") token (.ofFields v))
  | "forget" => some (.forget pool token (v.listAt "body"))
  | "bulk" => some (.bulk pool token ((v.listAt "bodies").map Value.asList))
  | "token" => some (.producer pool (v.textAt "as"))
  | "stats" => some (.stats pool)
  | "queued" => some (.queued pool)
  | "is_stopped" => some (.isStopped pool)
  | "worker_count" => some (.workerCount pool)
  | "config" => some (.settings pool pretty)
  | "debug" => some (.describe pool pretty)
  | "debug_handle" => some (.showHandle pool pretty)
  | "stop" => some (.stop pool)
  | "join" => some (.join pool)
  | "stop_join" => some (.stopJoin pool)
  | "drop" => some (.drop pool)
  | "bind" => some (.bind pool (v.textAt "f") (.ofName (v.textAt "fn")))
  | _ => none

/-- Handles submit and look on; the rest needs the pool itself. -/
def handleCan : PoolOp → Bool
  | workerCount _ | settings .. | describe .. | stop _ | join _ | stopJoin _ | drop _ => false
  | _ => true

def throughHandle (op : PoolOp) : PoolOp := if op.handleCan then op else .absent

end PoolOp

inductive CallOp where
  | call (callable channel : String) (argument : Value)
  | forget (callable : String) (argument : Value)
  | clone (callable copy : String)
  | pool (callable : String)
  | describe (callable : String) (pretty : Bool)

def CallOp.ofFields (verb : String) (v : Value) : Option CallOp :=
  let callable := v.textAt "f"
  match verb with
  | "call" => some (.call callable (v.textAt "c") (v.field "args"))
  | "forget" => some (.forget callable (v.field "args"))
  | "clone" => some (.clone callable (v.textAt "to"))
  | "pool" => some (.pool callable)
  | "debug" => some (.describe callable (v.boolAt "pretty"))
  | _ => none

end WorkerPool.Scenario
