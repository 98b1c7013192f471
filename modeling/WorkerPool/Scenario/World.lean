import WorkerPool.EventLoop.Basic
import WorkerPool.Executor
import WorkerPool.Pool.Shutdown
import WorkerPool.Pool.Submission
import WorkerPool.Pool.Work
import WorkerPool.Scenario.Registry
import WorkerPool.Scenario.Thread

namespace WorkerPool.Scenario

structure Gates where
  opened : List String := []
  all : Bool := false

def Gates.isOpen (g : Gates) (name : String) : Bool := g.all || g.opened.contains name

structure Callable where
  pool : Nat
  function : Function

structure World where
  machine : Machine := {}
  clock : Nat := 0
  log : Array Value := #[]
  gates : Gates := {}
  queuesMade : Nat := 0
  queues : Registry (Queue Value) := {}
  producers : Registry ProducerToken := {}
  consumers : Registry ConsumerToken := {}
  channels : Channels Value := {}
  promises : Names := []
  readers : Names := []
  barriers : Registry Barrier := {}
  executors : Registry (Executor (List Value)) := {}
  signals : Registry Signal := {}
  collections : Registry (Collection Value) := {}
  pools : Registry (Pool Work) := {}
  -- Pools that were not dropped; the others answer through handles.
  owners : Names := []
  callables : Registry Callable := {}
  loops : Registry (EventLoop Value) := {}
  events : List Event := []
  threads : Array Thread := #[]
  current : Nat := 0

namespace World

def write (w : World) (v : Value) : World := { w with log := w.log.push v }

def emit (w : World) (e : Event) : World := { w with events := w.events ++ [e] }

def spawn (w : World) (t : Thread) : World := { w with threads := w.threads.push t }

def setThread (w : World) (i : Nat) (t : Thread) : World :=
  { w with threads := w.threads.setIfInBounds i t }

def setPool (w : World) (place : Nat) (p : Pool Work) : World :=
  { w with pools := w.pools.set place p }

def modifyPool (w : World) (place : Nat) (f : Pool Work → Pool Work) : World :=
  match w.pools.get? place with
  | some p => w.setPool place (f p)
  | none => w

def setLoop (w : World) (place : Nat) (l : EventLoop Value) : World :=
  { w with loops := w.loops.set place l }

def modifyLoop (w : World) (place : Nat) (f : EventLoop Value → EventLoop Value) : World :=
  match w.loops.get? place with
  | some l => w.setLoop place (f l)
  | none => w

def closedGate? (w : World) (t : Thread) : Option String :=
  t.gate?.filter fun name => !w.gates.isOpen name

def waitingGates (w : World) : List String :=
  (w.threads.toList.filterMap w.closedGate?).mergeSort (· ≤ ·)

def poolAtGate (w : World) (place : Nat) : Bool :=
  w.threads.any fun t => t.role.worksFor place && (w.closedGate? t).isSome

def loopAtGate (w : World) (place : Nat) : Bool :=
  w.threads.any fun t => t.role.consumesFor place && (w.closedGate? t).isSome

end World

end WorkerPool.Scenario
