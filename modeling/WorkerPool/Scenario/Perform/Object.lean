import WorkerPool.Obstacle
import WorkerPool.Scenario.Perform.Basic

namespace WorkerPool.Scenario

open Value (ok)

namespace World

def performBarrier (w : World) : BarrierOp → World × Reply
  | .create name count => { w with barriers := w.barriers.add name (.ofCount count) }.done ok
  | .notify name => w.orGone do
      let (place, b) ← w.barriers.find? name
      match b.notify with
      | .ok (left, b) => some ({ w with barriers := w.barriers.set place b }.done (.nat left))
      | .error e => some (w.done (Failure.overcounted e).answer)
  | .remaining name => w.view w.barriers name fun b => .nat b.remaining
  | .expected name => w.view w.barriers name fun b => .nat b.expected
  | .wait name => w.orGone do
      let (place, _) ← w.barriers.find? name
      some (w, .wait (.barrier place false) none)
  | .waitTimeout name timeout => w.orGone do
      let (place, _) ← w.barriers.find? name
      some (w, .wait (.barrier place true) (some timeout))

def performExecutor (w : World) : ExecutorOp → World × Reply
  | .create name => { w with executors := w.executors.add name {} }.done ok
  | .defer name body => w.orGone do
      let (place, x) ← w.executors.find? name
      some ({ w with executors := w.executors.set place (x.defer body) }.done ok)
  | .run name => w.orGone do
      let (place, _) ← w.executors.find? name
      some (w, .enter [.draining place (.all 0)] .proceed)
  | .runOne name => w.orGone do
      let (place, _) ← w.executors.find? name
      some (w, .enter [.draining place .one] .proceed)
  | .length name => w.view w.executors name fun x => .nat x.length
  | .isEmpty name => w.view w.executors name fun x => .bool x.isEmpty
  | .describe name pretty => w.view w.executors name fun x => .shape pretty x.shape

def performSignal (w : World) : SignalOp → World × Reply
  | .create name => { w with signals := w.signals.add name {} }.done ok
  | .clone name copy => w.orGone do
      let (place, _) ← w.signals.find? name
      some ({ w with signals := w.signals.addName copy place }.done ok)
  | .trigger name => w.orGone do
      let (place, s) ← w.signals.find? name
      let (first, s) := s.trigger
      some ({ w with signals := w.signals.set place s }.done (.bool first))
  | .isTriggered name => w.view w.signals name fun s => .bool s.raised
  | .describe name pretty => w.view w.signals name fun s => .shape pretty s.shape

def performTask (w : World) : TaskOp → World × Reply
  | .run body => (w, .start (.body body) .guarded)
  | .describe => w.done (.str "Task \x7b .. \x7d")
  | .drop => w.done ok

def setCollection (w : World) (place : Nat) (c : Collection Value) : World :=
  { w with collections := w.collections.set place c }

def performCollection (w : World) : CollectionOp → World × Reply
  | .create name capacity =>
    match Obstacle.ofTable capacity w.machine.itemBytes with
    | some obstacle => w.done (.panicked obstacle.message)
    | none => { w with collections := w.collections.add name { capacity } }.done ok
  | .add name item => w.orGone do
      let (place, _) ← w.collections.find? name
      some (w, .wait (.room place item) none)
  | .tryAdd name item => w.orGone do
      let (place, c) ← w.collections.find? name
      match c.tryAdd item with
      | .ok c => some ((w.setCollection place c).done ok)
      | .error refused => some (w.done (Failure.push refused).answer)
  | .take name => w.orGone do
      let (place, _) ← w.collections.find? name
      some (w, .wait (.item place) none)
  | .tryTake name => w.orGone do
      let (place, c) ← w.collections.find? name
      let (item, c) := c.tryTake
      some ((w.setCollection place c).done (.optional item))
  | .complete name => w.orGone do
      let (place, c) ← w.collections.find? name
      let (first, c) := c.complete
      some ((w.setCollection place c).done (.bool first))
  | .isAddingCompleted name => w.view w.collections name fun c => .bool c.addingCompleted
  | .isCompleted name => w.view w.collections name fun c => .bool c.isCompleted
  | .length name => w.view w.collections name fun c => .nat c.length
  | .isEmpty name => w.view w.collections name fun c => .bool c.isEmpty
  | .capacity name => w.view w.collections name fun c => .nat c.capacity
  | .describe name pretty => w.view w.collections name fun c => .shape pretty c.shape

end World

end WorkerPool.Scenario
