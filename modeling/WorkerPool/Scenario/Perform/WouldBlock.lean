import WorkerPool.Scenario.World

namespace WorkerPool.Scenario

namespace World

def isLong (d : Duration) : Bool := Nat.pow 10 9 < d.nanos

def pending (w : World) (name : String) : Bool :=
  (w.readers.find? name).any fun c => !(w.channels.slot c).isReady

def barrierClosed (w : World) (name : String) : Bool :=
  (w.barriers.find? name).any fun (_, b) => !b.isOpen

def poolGated (w : World) (name : String) : Bool :=
  (w.owners.find? name).any w.poolAtGate

def loopGated (w : World) (name : String) : Bool :=
  (w.loops.find? name).any fun (place, _) => w.loopAtGate place

def poolRunning (w : World) (name : String) : Bool :=
  ((w.owners.find? name).bind w.pools.get?).any fun p => !p.signal.raised

def loopRunning (w : World) (name : String) : Bool :=
  (w.loops.find? name).any fun (_, l) => !l.collection.addingCompleted

def hasConsumer (w : World) (token : Option String) : Bool :=
  token.all fun name => (w.consumers.find? name).isSome

/-- Whether an operation, begun by the main script with all workers at rest, would never end. -/
def wouldBlock (w : World) : Op → Bool
  | .queue (.dequeue queue token max timeout _) =>
    isLong timeout && w.hasConsumer token
      && (w.queues.find? queue).any fun (_, q) => q.fetchWaits max
  | .channel (.wait name) => w.pending name
  | .channel (.waitTimeout name timeout) => isLong timeout && w.pending name
  | .barrier (.wait name) => w.barrierClosed name
  | .barrier (.waitTimeout name timeout) => isLong timeout && w.barrierClosed name
  | .collection (.add name _) => (w.collections.find? name).any fun (_, c) => c.addWaits
  | .collection (.take name) => (w.collections.find? name).any fun (_, c) => c.takeWaits
  | .eventLoop (.push name _) => (w.loops.find? name).any fun (_, l) => l.collection.addWaits
  | .pool (.join name) => w.poolRunning name || w.poolGated name
  | .pool (.stopJoin name) => w.poolGated name
  | .pool (.drop name) => w.poolGated name
  | .eventLoop (.join name) => w.loopRunning name || w.loopGated name
  | .eventLoop (.stopJoin name) => w.loopGated name
  | .eventLoop (.drop name) => w.loopGated name
  | _ => false

end World

end WorkerPool.Scenario
