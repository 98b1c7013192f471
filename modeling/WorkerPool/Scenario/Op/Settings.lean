import WorkerPool.Scenario.Failure
import WorkerPool.Scenario.Settings

namespace WorkerPool.Scenario

inductive SettingsOp where
  | checkPool (settings : PoolSettings) (pretty : Bool)
  | checkLoop (settings : LoopSettings) (pretty : Bool)
  | constants
  | showError (failure : Failure)

def SettingsOp.ofFields (m : Machine) (verb : String) (v : Value) : Option SettingsOp :=
  match verb with
  | "check" => some (.checkPool (m.poolSettings (v.settingsAt "cfg")) (v.boolAt "pretty"))
  | "loop" => some (.checkLoop (m.loopSettings (v.settingsAt "cfg")) (v.boolAt "pretty"))
  | "consts" => some .constants
  | _ => none

end WorkerPool.Scenario
