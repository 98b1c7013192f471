import WorkerPool.Scenario.Perform.Any

namespace WorkerPool.Scenario

open Value (ok gone)

namespace World

def isFinished (w : World) (place : Nat) : Bool := w.threads[place]?.all Thread.isFinished

def isOver (w : World) : Wait → Bool
  | .items queue _ max _ => (w.queues.get? queue).all fun q => !q.fetchWaits max
  | .outcome c _ => (w.channels.slot c).isReady
  | .barrier place _ => (w.barriers.get? place).all Barrier.isOpen
  | .room place _ => (w.collections.get? place).all fun c => !c.addWaits
  | .item place => (w.collections.get? place).all fun c => !c.takeWaits
  | .loopRoom place _ => (w.loops.get? place).all fun l => !l.collection.addWaits
  | .poolExit place => (w.pools.get? place).all Pool.allExited
  | .loopExit place => (w.loops.get? place).all EventLoop.allExited
  | .gate name => w.gates.isOpen name
  | .helpers places => places.all w.isFinished
  | .nap | .pause | .rest => false

def consumer (w : World) (q : Queue Value) (token : Option Nat) : ConsumerToken :=
  (token.bind w.consumers.get?).getD q.consumer

def setConsumer (w : World) (token : Option Nat) (t : ConsumerToken) : World :=
  match token with
  | some place => { w with consumers := w.consumers.set place t }
  | none => w

def resumeFetch (w : World) (queue : Nat) (token : Option Nat) (max : Nat) (out : List Value) :
    World × Value :=
  match w.queues.get? queue with
  | none => (w, gone)
  | some q =>
    match q.fetchWith (w.consumer q token) out max with
    | .ok fetched =>
      ({ w with queues := w.queues.set queue fetched.queue }.setConsumer token fetched.token,
        .object [("n", .nat fetched.count), ("out", .list fetched.out)])
    | .error e => (w, .panicked e.message)

def resumeAdd (w : World) (place : Nat) (item : Value) : World × Value :=
  match (w.collections.get? place).bind (·.add item) with
  | some (.ok c) => (w.setCollection place c, ok)
  | some (.error refused) => (w, (Failure.push refused).answer)
  | none => (w, gone)

def resumeTake (w : World) (place : Nat) : World × Value :=
  match (w.collections.get? place).bind Collection.take with
  | some (item, c) => (w.setCollection place c, .optional item)
  | none => (w, gone)

def resumePush (w : World) (place : Nat) (item : Value) : World × Value :=
  match (w.loops.get? place).bind (·.push item) with
  | some (.ok l) => (w.setLoop place l, ok)
  | some (.error refused) => (w, (Failure.push refused).answer)
  | none => (w, gone)

def resumeJoin (w : World) (place : Nat) : World :=
  match (w.pools.get? place).bind (·.join w.channels) with
  | some (p, channels) => { w.setPool place p with channels }
  | none => w

def replying (result : World × Value) : World × Control := (result.1, .reply result.2)

/-- The end of a wait: what was waited for is there, or the time is up. -/
def resume (w : World) : Wait → World × Control
  | .items queue token max out => replying (w.resumeFetch queue token max out)
  | .outcome c _ =>
    let (outcome, channels) := w.channels.read c
    ({ w with channels }, .reply (.polled outcome))
  | .barrier place true =>
    (w, .reply (.bool ((w.barriers.get? place).all Barrier.isOpen)))
  | .barrier _ false => (w, .reply ok)
  | .room place item => replying (w.resumeAdd place item)
  | .item place => replying (w.resumeTake place)
  | .loopRoom place item => replying (w.resumePush place item)
  | .poolExit place => (w.resumeJoin place, .reply ok)
  | .loopExit _ => (w, .reply ok)
  | .nap => (w, .reply ok)
  | .gate _ | .helpers _ | .pause | .rest => (w, .proceed)

end World

end WorkerPool.Scenario
