import WorkerPool.Scenario.Settings

namespace WorkerPool.Scenario

inductive QueueOp where
  | create (queue : String) (capacity : Option Nat)
  | producer (queue token : String)
  | consumer (queue token : String)
  | enqueued (token : String)
  | dequeued (token : String)
  | showProducer (token : String) (pretty : Bool)
  | showConsumer (token : String) (pretty : Bool)
  | enqueue (queue : String) (token : Option String) (item : Value)
  | enqueueBulk (queue : String) (token : Option String) (batch : List Value)
  | dequeue (queue : String) (token : Option String) (max : Nat) (timeout : Duration)
      (out : List Value)
  | tryDequeue (queue : String)
  | close (queue : String)
  | isClosed (queue : String)
  | drain (queue : String)
  | length (queue : String)
  | isEmpty (queue : String)
  | capacity (queue : String)
  | owns (queue token : String)
  | describe (queue : String) (pretty : Bool)

namespace QueueOp

def capacityOf (v : Value) : Option Nat :=
  match v.textAt "how", v.field "cap" with
  | "bounded", cap => some cap.asNat
  | "unbounded", _ => none
  | "default", _ => none
  | _, .int n => some n.toNat
  | _, _ => none

def ofFields (verb : String) (v : Value) : Option QueueOp :=
  let queue := v.textAt "q"
  let token := v.textAt "t"
  let pretty := v.boolAt "pretty"
  match verb with
  | "new" => some (.create queue (capacityOf v))
  | "producer" => some (.producer queue token)
  | "consumer" => some (.consumer queue token)
  | "enqueued" => some (.enqueued token)
  | "dequeued" => some (.dequeued token)
  | "debug_producer" => some (.showProducer token pretty)
  | "debug_consumer" => some (.showConsumer token pretty)
  | "enqueue" => some (.enqueue queue (v.text? "t") (v.field "v"))
  | "enqueue_bulk" => some (.enqueueBulk queue (v.text? "t") (v.listAt "vs"))
  | "dequeue" =>
    some (.dequeue queue (v.text? "t") (v.natAt "max") (v.durationAt "timeout") (v.listAt "out"))
  | "try_dequeue" => some (.tryDequeue queue)
  | "close" => some (.close queue)
  | "is_closed" => some (.isClosed queue)
  | "drain" => some (.drain queue)
  | "len" => some (.length queue)
  | "is_empty" => some (.isEmpty queue)
  | "capacity" => some (.capacity queue)
  | "owns" => some (.owns queue token)
  | "debug" => some (.describe queue pretty)
  | _ => none

end QueueOp

end WorkerPool.Scenario
