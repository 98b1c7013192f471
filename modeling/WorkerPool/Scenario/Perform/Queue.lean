import WorkerPool.Scenario.Perform.Basic

namespace WorkerPool.Scenario

open Value (ok)

namespace World

def createQueue (w : World) (name : String) (capacity : Option Nat) : World :=
  let id := w.queuesMade + 1
  { w with queuesMade := id, queues := w.queues.add name { id, capacity } }

def producer? (w : World) : Option String → Option (Option (Nat × ProducerToken))
  | none => some none
  | some name => (w.producers.find? name).map some

def setProducer (w : World) (place : Nat) (t : ProducerToken) : World :=
  { w with producers := w.producers.set place t }

def foreign (w : World) (e : ForeignToken) : World × Reply := w.done (.panicked e.message)

def enqueue (w : World) (queue : String) (token : Option String) (item : Value) :
    World × Reply :=
  w.orGone do
    let (place, q) ← w.queues.find? queue
    match ← w.producer? token with
    | none =>
      match q.enqueue item with
      | .ok q => some ({ w with queues := w.queues.set place q }.done ok)
      | .error refused => some (w.done (Failure.enqueue refused).answer)
    | some (t, producer) =>
      match q.enqueueWith producer item with
      | .ok (.ok (q, producer)) =>
        some (({ w with queues := w.queues.set place q }.setProducer t producer).done ok)
      | .ok (.error refused) => some (w.done (Failure.enqueue refused).answer)
      | .error e => some (w.foreign e)

def enqueueBulk (w : World) (queue : String) (token : Option String) (batch : List Value) :
    World × Reply :=
  w.orGone do
    let (place, q) ← w.queues.find? queue
    match ← w.producer? token with
    | none =>
      match q.enqueueBulk batch with
      | .ok q => some ({ w with queues := w.queues.set place q }.done ok)
      | .error refused => some (w.done (Failure.enqueueBulk refused).answer)
    | some (t, producer) =>
      match q.enqueueBulkWith producer batch with
      | .ok (.ok (q, producer)) =>
        some (({ w with queues := w.queues.set place q }.setProducer t producer).done ok)
      | .ok (.error refused) => some (w.done (Failure.enqueueBulk refused).answer)
      | .error e => some (w.foreign e)

def dequeue (w : World) (queue : String) (token : Option String) (max : Nat)
    (timeout : Duration) (out : List Value) : World × Reply :=
  w.orGone do
    let (place, q) ← w.queues.find? queue
    match token with
    | none => some (w, .wait (.items place none max out) (some timeout))
    | some name =>
      let (t, consumer) ← w.consumers.find? name
      if q.ownsConsumer consumer then
        some (w, .wait (.items place (some t) max out) (some timeout))
      else some (w.foreign ⟨⟩)

def performQueue (w : World) : QueueOp → World × Reply
  | .create queue capacity => (w.createQueue queue capacity).done ok
  | .producer queue token => w.orGone do
      let (_, q) ← w.queues.find? queue
      some ({ w with producers := w.producers.add token q.producer }.done ok)
  | .consumer queue token => w.orGone do
      let (_, q) ← w.queues.find? queue
      some ({ w with consumers := w.consumers.add token q.consumer }.done ok)
  | .enqueued token => w.view w.producers token fun t => .nat t.enqueued
  | .dequeued token => w.view w.consumers token fun t => .nat t.dequeued
  | .showProducer token pretty => w.view w.producers token fun t => .shape pretty t.shape
  | .showConsumer token pretty => w.view w.consumers token fun t => .shape pretty t.shape
  | .enqueue queue token item => w.enqueue queue token item
  | .enqueueBulk queue token batch => w.enqueueBulk queue token batch
  | .dequeue queue token max timeout out => w.dequeue queue token max timeout out
  | .tryDequeue queue => w.orGone do
      let (place, q) ← w.queues.find? queue
      match q.tryDequeue with
      | some (item, q) => some ({ w with queues := w.queues.set place q }.done (.some item))
      | none => some (w.done (.optional none))
  | .close queue => w.orGone do
      let (place, q) ← w.queues.find? queue
      let (first, q) := q.close
      some ({ w with queues := w.queues.set place q }.done (.bool first))
  | .isClosed queue => w.view w.queues queue fun q => .bool q.closed
  | .drain queue => w.orGone do
      let (place, q) ← w.queues.find? queue
      let (items, q) := q.drain
      some ({ w with queues := w.queues.set place q }.done (.list items))
  | .length queue => w.view w.queues queue fun q => .nat q.length
  | .isEmpty queue => w.view w.queues queue fun q => .bool q.isEmpty
  | .capacity queue => w.view w.queues queue fun q => .limit q.capacity
  | .owns queue token => w.orGone do
      let (_, q) ← w.queues.find? queue
      let (_, t) ← w.producers.find? token
      some (w.done (.bool (q.owns t)))
  | .describe queue pretty => w.view w.queues queue fun q => .shape pretty q.shape

end World

end WorkerPool.Scenario
