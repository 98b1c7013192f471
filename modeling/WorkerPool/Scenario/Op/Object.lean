import WorkerPool.Scenario.Settings

namespace WorkerPool.Scenario

inductive BarrierOp where
  | create (barrier : String) (count : Nat)
  | notify (barrier : String)
  | remaining (barrier : String)
  | expected (barrier : String)
  | wait (barrier : String)
  | waitTimeout (barrier : String) (timeout : Duration)

def BarrierOp.ofFields (verb : String) (v : Value) : Option BarrierOp :=
  let barrier := v.textAt "b"
  match verb with
  | "new" => some (.create barrier (v.natAt "n"))
  | "notify" => some (.notify barrier)
  | "remaining" => some (.remaining barrier)
  | "expected" => some (.expected barrier)
  | "wait" => some (.wait barrier)
  | "wait_timeout" => some (.waitTimeout barrier (v.durationAt "timeout"))
  | _ => none

inductive ExecutorOp where
  | create (executor : String)
  | defer (executor : String) (body : List Value)
  | run (executor : String)
  | runOne (executor : String)
  | length (executor : String)
  | isEmpty (executor : String)
  | describe (executor : String) (pretty : Bool)

def ExecutorOp.ofFields (verb : String) (v : Value) : Option ExecutorOp :=
  let executor := v.textAt "x"
  match verb with
  | "new" => some (.create executor)
  | "defer" => some (.defer executor (v.listAt "body"))
  | "run" => some (.run executor)
  | "run_one" => some (.runOne executor)
  | "len" => some (.length executor)
  | "is_empty" => some (.isEmpty executor)
  | "debug" => some (.describe executor (v.boolAt "pretty"))
  | _ => none

inductive SignalOp where
  | create (signal : String)
  | clone (signal copy : String)
  | trigger (signal : String)
  | isTriggered (signal : String)
  | describe (signal : String) (pretty : Bool)

def SignalOp.ofFields (verb : String) (v : Value) : Option SignalOp :=
  let signal := v.textAt "s"
  match verb with
  | "new" => some (.create signal)
  | "clone" => some (.clone signal (v.textAt "to"))
  | "trigger" => some (.trigger signal)
  | "is_triggered" => some (.isTriggered signal)
  | "debug" => some (.describe signal (v.boolAt "pretty"))
  | _ => none

inductive TaskOp where
  | run (body : List Value)
  | describe
  | drop

def TaskOp.ofFields (verb : String) (v : Value) : Option TaskOp :=
  match verb with
  | "run" => some (.run (v.listAt "body"))
  | "debug" => some .describe
  | "drop" => some .drop
  | _ => none

inductive CollectionOp where
  | create (collection : String) (capacity : Nat)
  | add (collection : String) (item : Value)
  | tryAdd (collection : String) (item : Value)
  | take (collection : String)
  | tryTake (collection : String)
  | complete (collection : String)
  | isAddingCompleted (collection : String)
  | isCompleted (collection : String)
  | length (collection : String)
  | isEmpty (collection : String)
  | capacity (collection : String)
  | describe (collection : String) (pretty : Bool)

def CollectionOp.ofFields (verb : String) (v : Value) : Option CollectionOp :=
  let collection := v.textAt "c"
  match verb with
  | "new" => some (.create collection (v.natAt "cap"))
  | "add" => some (.add collection (v.field "v"))
  | "try_add" => some (.tryAdd collection (v.field "v"))
  | "take" => some (.take collection)
  | "try_take" => some (.tryTake collection)
  | "complete" => some (.complete collection)
  | "is_adding_completed" => some (.isAddingCompleted collection)
  | "is_completed" => some (.isCompleted collection)
  | "len" => some (.length collection)
  | "is_empty" => some (.isEmpty collection)
  | "capacity" => some (.capacity collection)
  | "debug" => some (.describe collection (v.boolAt "pretty"))
  | _ => none

end WorkerPool.Scenario
