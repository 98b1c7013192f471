import WorkerPool.Obstacle
import WorkerPool.Scenario.Perform.Settings

namespace WorkerPool.Scenario

open Value (ok)

namespace World

def spawnLoopWorkers (w : World) (place : Nat) (settings : LoopSettings) : World :=
  (List.range settings.workers.count).foldl (fun w i =>
    w.spawn {
      role := .loopWorker place i
      name := workerName settings.threadName i
      status := .working }) w

def joinLoop (w : World) (t : Thread) (place : Nat) : World × Reply :=
  if t.role.consumesFor place then (w.modifyLoop place EventLoop.selfJoin).done ok
  else (w, .wait (.loopExit place) none)

def stopLoop (w : World) (place : Nat) : World := w.modifyLoop place EventLoop.stop

def startLoop (w : World) (t : Thread) (name : String) (settings : LoopSettings) :
    World × Reply :=
  let place := w.loops.next
  let old := w.loops.find? name
  let w := { w with loops := w.loops.add name (.start settings) }
  let w := w.spawnLoopWorkers place settings
  match old with
  | some (old, _) => (w.stopLoop old).joinLoop t old
  | none => w.done ok

def createLoop (w : World) (t : Thread) (name : String) (settings : LoopSettings) :
    World × Reply :=
  match settings.validate with
  | .error e => w.done (Failure.eventLoop e).answer
  | .ok () =>
    match settings.obstacle? w.machine.itemBytes with
    | some obstacle => w.done (.panicked obstacle.message)
    | none => w.startLoop t name settings

def performLoop (w : World) (t : Thread) : LoopOp → World × Reply
  | .create name settings => w.createLoop t name settings
  | .push name item => w.orGone do
      let (place, _) ← w.loops.find? name
      some (w, .wait (.loopRoom place item) none)
  | .tryPush name item => w.orGone do
      let (place, l) ← w.loops.find? name
      match l.tryPush item with
      | .ok l => some ((w.setLoop place l).done ok)
      | .error refused => some (w.done (Failure.push refused).answer)
  | .stop name => w.orGone do
      let (place, _) ← w.loops.find? name
      some ((w.stopLoop place).done ok)
  | .join name => w.orGone do
      let (place, _) ← w.loops.find? name
      some (w.joinLoop t place)
  | .stopJoin name => w.orGone do
      let (place, _) ← w.loops.find? name
      some (((w.stopLoop place).joinLoop t place).1.joinLoop t place)
  | .drop name => w.orGone do
      let (place, _) ← w.loops.find? name
      let w := { w with loops := w.loops.forget name }
      some ((w.stopLoop place).joinLoop t place)
  | .length name => w.view w.loops name fun l => .nat l.collection.length
  | .isEmpty name => w.view w.loops name fun l => .bool l.collection.isEmpty
  | .isStopped name => w.view w.loops name fun l => .bool l.collection.addingCompleted
  | .workerCount name => w.view w.loops name fun l => SettingsOp.workers l.settings.workers
  | .capacity name => w.view w.loops name fun l => .nat l.settings.capacity
  | .describe name pretty => w.view w.loops name fun l => .shape pretty l.shape

end World

end WorkerPool.Scenario
