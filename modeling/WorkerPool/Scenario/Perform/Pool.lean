import WorkerPool.Obstacle
import WorkerPool.Scenario.Perform.Channel
import WorkerPool.Scenario.Perform.Queue
import WorkerPool.Scenario.Perform.Settings

namespace WorkerPool.Scenario

open Value (ok)

def admitted : Pool.Verdict → Value
  | .ok _ => .bool true
  | .error _ => .bool false

namespace World

def spawnPoolWorkers (w : World) (place : Nat) (settings : PoolSettings) : World :=
  (List.range settings.workers.count).foldl (fun w i =>
    w.spawn {
      role := .poolWorker place i
      name := workerName settings.threadName i
      status := .working }) w

def joinPool (w : World) (t : Thread) (place : Nat) : World × Reply :=
  if t.role.worksFor place then (w.modifyPool place Pool.selfJoin).done ok
  else (w, .wait (.poolExit place) none)

def stopPool (w : World) (place : Nat) : World := w.modifyPool place Pool.stop

def startPool (w : World) (t : Thread) (name : String) (settings : PoolSettings) (id : Nat) :
    World × Reply :=
  let place := w.pools.next
  let old := w.owners.find? name
  let w := { w with
    pools := w.pools.add name (.start settings id)
    owners := w.owners.insert name place }
  let w := w.spawnPoolWorkers place settings
  match old with
  | some old => (w.stopPool old).joinPool t old
  | none => w.done ok

/-- The queue is made before the workers, so it is made even if they cannot be. -/
def createPool (w : World) (t : Thread) (name : String) (settings : PoolSettings) :
    World × Reply :=
  match settings.validate with
  | .error e => w.done (Failure.pool e).answer
  | .ok () =>
    let id := w.queuesMade + 1
    let w := { w with queuesMade := id }
    match settings.obstacle? with
    | some obstacle => w.done (.panicked obstacle.message)
    | none => w.startPool t name settings id

def tokenFor (work : Work) (token : Option (Nat × ProducerToken)) :
    Option (Nat × ProducerToken) :=
  match work with
  | .body _ => token
  | .call .. => none

def recordToken (w : World) (token : Option (Nat × ProducerToken)) (answer : Pool.Verdict) :
    World :=
  match token, answer with
  | some (place, _), .ok (some t) => w.setProducer place t
  | _, _ => w

def schedule (w : World) (place : Nat) (p : Pool Work) (token : Option (Nat × ProducerToken))
    (channel : String) (work : Work) : World × Reply :=
  let c := w.channels.next
  let (answer, p, channels) := p.schedule (token.map (·.2)) work w.channels
  let w := { w.setPool place p with channels }.recordToken token answer
  match answer with
  | .ok _ =>
    let w := w.dropPromise channel
    { w with readers := w.readers.insert channel c }.done ok
  | .error e => w.done (Failure.schedule e).answer

def forget (w : World) (place : Nat) (p : Pool Work) (token : Option (Nat × ProducerToken))
    (work : Work) : World × Reply :=
  let (answer, p) := p.forget (token.map (·.2)) work
  ((w.setPool place p).recordToken token answer).done (admitted answer)

def bulk (w : World) (place : Nat) (p : Pool Work) (token : Option (Nat × ProducerToken))
    (bodies : List (List Value)) : World × Reply :=
  let (answer, p) := p.bulk (token.map (·.2)) (bodies.map .body)
  ((w.setPool place p).recordToken token answer).done (admitted answer)

def viewOwned (w : World) (name : String) (f : Pool Work → Value) : World × Reply :=
  w.orGone do
    let place ← w.owners.find? name
    let p ← w.pools.get? place
    some (w.done (f p))

def performPool (w : World) (t : Thread) : PoolOp → World × Reply
  | .create name settings => w.createPool t name settings
  | .schedule name channel token work => w.orGone do
      let (place, p) ← w.pools.find? name
      let token ← w.producer? token
      some (w.schedule place p (tokenFor work token) channel work)
  | .forget name token body => w.orGone do
      let (place, p) ← w.pools.find? name
      let token ← w.producer? token
      some (w.forget place p token (.body body))
  | .bulk name token bodies => w.orGone do
      let (place, p) ← w.pools.find? name
      let token ← w.producer? token
      some (w.bulk place p token bodies)
  | .producer name token => w.orGone do
      let (_, p) ← w.pools.find? name
      some ({ w with producers := w.producers.add token p.queue.producer }.done ok)
  | .stats name => w.view w.pools name fun p => .stats t.inBody p.stats
  | .queued name => w.view w.pools name fun p => .nat p.queue.length
  | .isStopped name => w.view w.pools name fun p => .bool p.signal.raised
  | .workerCount name => w.viewOwned name fun p => SettingsOp.workers p.settings.workers
  | .settings name pretty => w.viewOwned name fun p => .shape pretty p.settings.shape
  | .describe name pretty => w.viewOwned name fun p => .shape pretty p.shape
  | .showHandle name pretty => w.view w.pools name fun p => .shape pretty p.handleShape
  | .stop name => w.orGone do
      let place ← w.owners.find? name
      some ((w.stopPool place).done ok)
  | .join name => w.orGone do
      let place ← w.owners.find? name
      some (w.joinPool t place)
  | .stopJoin name => w.orGone do
      let place ← w.owners.find? name
      let w := (w.stopPool place).stopPool place
      some ((w.joinPool t place).1.joinPool t place)
  | .drop name => w.orGone do
      let place ← w.owners.find? name
      let w := { w with owners := w.owners.erase name }
      some ((w.stopPool place).joinPool t place)
  | .bind name callable function => w.orGone do
      let (place, _) ← w.pools.find? name
      some ({ w with callables := w.callables.add callable ⟨place, function⟩ }.done ok)
  | .absent => w.done .gone

def performCall (w : World) : CallOp → World × Reply
  | .call name channel argument => w.orGone do
      let (_, f) ← w.callables.find? name
      let p ← w.pools.get? f.pool
      some (w.schedule f.pool p none channel (.call f.function argument))
  | .forget name argument => w.orGone do
      let (_, f) ← w.callables.find? name
      let p ← w.pools.get? f.pool
      some (w.forget f.pool p none (.call f.function argument))
  | .clone name copy => w.orGone do
      let (_, f) ← w.callables.find? name
      some ({ w with callables := w.callables.add copy f }.done ok)
  | .pool name => w.orGone do
      let (_, f) ← w.callables.find? name
      let p ← w.pools.get? f.pool
      some (w.done (.object [
        ("queued", .nat p.queue.length),
        ("stopped", .bool p.signal.raised),
        ("stats", .stats false p.stats)]))
  | .describe name pretty => w.orGone do
      let (_, f) ← w.callables.find? name
      let p ← w.pools.get? f.pool
      some (w.done (.shape pretty p.callableShape))

end World

end WorkerPool.Scenario
