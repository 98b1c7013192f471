import WorkerPool.Scenario.Op.Channel
import WorkerPool.Scenario.Op.EventLoop
import WorkerPool.Scenario.Op.Object
import WorkerPool.Scenario.Op.Pool
import WorkerPool.Scenario.Op.Queue
import WorkerPool.Scenario.Op.Settings

namespace WorkerPool.Scenario

inductive Op where
  | log (v : Value)
  | readLog
  | release (gate : Option String)
  | blockedGates
  | nap (length : Duration)
  | iterate (count : Nat) (counter : String) (ops : List Value)
  | parallel (threads : List (List Value)) (quiet : Bool)
  -- Each operation of `run` blocks on a thread of its own while `during` is performed.
  | blocked (run during : List Value) (gap : Duration) (sorted : Bool)
  | settings (op : SettingsOp)
  | queue (op : QueueOp)
  | channel (op : ChannelOp)
  | barrier (op : BarrierOp)
  | executor (op : ExecutorOp)
  | signal (op : SignalOp)
  | task (op : TaskOp)
  | pool (op : PoolOp)
  | call (op : CallOp)
  | collection (op : CollectionOp)
  | eventLoop (op : LoopOp)
  | unknown

namespace Op

def iterateOf (v : Value) : Op :=
  .iterate (v.natAt "n") ((v.text? "var").getD "$i") (v.listAt "do")

def blockedOf (v : Value) : Op :=
  .blocked (v.listAt "run") (v.listAt "then") (.ofMillis (v.natAt "gap")) (v.boolAt "sort")

def poolOf (m : Machine) (verb : String) (v : Value) : Option PoolOp :=
  let op := PoolOp.ofFields m verb v
  if v.textAt "via" = "handle" then op.map .throughHandle else op

def longestNap : Nat := 50

def ofFamily (m : Machine) (family verb : String) (v : Value) : Option Op :=
  match family with
  | "config" => (SettingsOp.ofFields m verb v).map .settings
  | "queue" => (QueueOp.ofFields verb v).map .queue
  | "chan" => (ChannelOp.ofFields verb v).map .channel
  | "barrier" => (BarrierOp.ofFields verb v).map .barrier
  | "exec" => (ExecutorOp.ofFields verb v).map .executor
  | "signal" => (SignalOp.ofFields verb v).map .signal
  | "task" => (TaskOp.ofFields verb v).map .task
  | "pool" => (poolOf m verb v).map .pool
  | "call" => (CallOp.ofFields verb v).map .call
  | "coll" => (CollectionOp.ofFields verb v).map .collection
  | "loop" => (LoopOp.ofFields m verb v).map .eventLoop
  | _ => none

def name (v : Value) : String := v.textAt "op"

def ofValue (m : Machine) (v : Value) : Op :=
  match name v with
  | "log" => .log (v.field "v")
  | "read_log" => .readLog
  | "release" => .release (v.text? "g")
  | "blocked_gates" => .blockedGates
  | "nap" => .nap (.ofMillis (min (v.natAt "ms") longestNap))
  | "repeat" => iterateOf v
  | "parallel" => .parallel ((v.listAt "threads").map Value.asList) (v.boolAt "quiet")
  | "blocked" => blockedOf v
  | "error.show" => .settings (.showError (.ofFields v))
  | full =>
    match full.splitOn "." with
    | [family, verb] => (ofFamily m family verb v).getD .unknown
    | _ => .unknown

end Op

inductive BodyStep where
  | log (v : Value)
  | panic (payload : Payload)
  | gate (name : String)
  | result (v : Value)
  | threadName
  | perform (name : String) (op : Op)

namespace BodyStep

def payloadOf (v : Value) : Payload :=
  match v.textAt "as" with
  | "int" => .other
  | _ => .text (v.textAt "msg")

def ofValue (m : Machine) (v : Value) : BodyStep :=
  match Op.name v with
  | "log" => .log (v.field "v")
  | "panic" => .panic (payloadOf v)
  | "gate" => .gate (v.textAt "g")
  | "ret" => .result (v.field "v")
  | "thread_name" => .threadName
  | name => .perform name (.ofValue m v)

end BodyStep

end WorkerPool.Scenario
