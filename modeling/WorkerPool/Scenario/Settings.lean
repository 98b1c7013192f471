import WorkerPool.Settings
import WorkerPool.Scenario.Value

namespace WorkerPool.Scenario

/-- What a scenario is run on and with. -/
structure Machine where
  processors : Nat := 1
  itemBytes : Nat := 32

namespace Value

def asDuration : Value → Duration
  | .int n => .ofMillis n.toNat
  | .str _ => .longest
  | v => .ofParts (v.natAt "s") (v.natAt "ns")

def durationAt (v : Value) (key : String) : Duration := (v.field key).asDuration

def settingsAt (v : Value) (key : String) : List (String × Value) :=
  (v.listAt key).map fun setting =>
    match setting.asList with
    | name :: value :: _ => (name.asText, value)
    | [name] => (name.asText, .null)
    | [] => ("", .null)

end Value

namespace Machine

def poolSetting (m : Machine) (c : PoolSettings) (name : String) (value : Value) : PoolSettings :=
  match name with
  | "with_workers" => { c with workers := .requested m.processors value.asNat }
  | "workers" => { c with workers := .fixed value.asNat }
  | "with_batch_size" => { c with batchSize := value.asNat }
  | "with_dequeue_timeout" => { c with fetchTimeout := value.asDuration }
  | "with_capacity" => { c with capacity := some value.asNat }
  | "capacity_none" => { c with capacity := none }
  | "with_shutdown_policy" =>
    { c with stopPolicy := if value.asText = "Abandon" then .abandon else .drain }
  | "with_thread_name" => { c with threadName := value.asText }
  | _ => c

def loopSetting (m : Machine) (c : LoopSettings) (name : String) (value : Value) : LoopSettings :=
  match name with
  | "with_workers" => { c with workers := .requested m.processors value.asNat }
  | "workers" => { c with workers := .fixed value.asNat }
  | "with_capacity" => { c with capacity := value.asNat }
  | "with_thread_name" => { c with threadName := value.asText }
  | _ => c

def poolSettings (m : Machine) (settings : List (String × Value)) : PoolSettings :=
  settings.foldl (fun c (name, value) => m.poolSetting c name value)
    { workers := .automatic m.processors }

def loopSettings (m : Machine) (settings : List (String × Value)) : LoopSettings :=
  settings.foldl (fun c (name, value) => m.loopSetting c name value)
    { workers := .automatic m.processors }

def poolSettingsOf (m : Machine) (v : Value) : PoolSettings :=
  match v.field? "cfg" with
  | some _ => m.poolSettings (v.settingsAt "cfg")
  | none => { workers := .requested m.processors (v.natAt "workers") }

def loopSettingsOf (m : Machine) (v : Value) : LoopSettings :=
  match v.field? "cfg" with
  | some _ => m.loopSettings (v.settingsAt "cfg")
  | none => { workers := .requested m.processors (v.natAt "workers") }

end Machine

end WorkerPool.Scenario
