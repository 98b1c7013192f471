import WorkerPool.Scenario.Step

namespace WorkerPool.Scenario

namespace World

def hasItems (w : World) (loop : Nat) : Bool :=
  (w.loops.get? loop).all fun l => !l.collection.takeWaits

def hasTasks (w : World) (pool worker : Nat) : Bool :=
  match w.pools.get? pool with
  | none => true
  | some p =>
    (p.worker? worker).map Worker.stage != some .fetching || !p.fetchWaits

def canStep (w : World) (t : Thread) : Bool :=
  match t.status with
  | .running _ => true
  | .waiting wait deadline => w.isOver wait || deadline.any (· ≤ w.clock)
  | .working =>
    match t.role with
    | .poolWorker pool worker => w.hasTasks pool worker
    | .loopWorker loop _ => w.hasItems loop
    | _ => true
  | .finished _ => false

def canStepAt (w : World) (i : Nat) : Bool := w.threads[i]?.any w.canStep

def next? (w : World) : Option Nat :=
  if w.canStepAt w.current then some w.current else w.threads.findIdx? w.canStep

def awaitsRest (t : Thread) : Bool :=
  match t.status with
  | .waiting .rest _ => true
  | _ => false

/-- The thread that has waited for rest, once nobody waits for a time to pass: who does, works for
a task. -/
def rested? (w : World) : Option Nat :=
  if w.threads.any (·.deadline?.isSome) then none
  else w.threads.findIdx? awaitsRest

def nextDeadline? (w : World) : Option Nat := (w.threads.toList.filterMap Thread.deadline?).min?

def advance (w : World) : Option World :=
  match w.next?, w.rested?, w.nextDeadline? with
  | some i, _, _ => some (w.step i)
  | none, some i, _ => some (w.step i)
  | none, none, some moment => some { w with clock := moment }
  | none, none, none => none

def run : Nat → World → World
  | 0, w => w
  | fuel + 1, w =>
    match w.advance with
    | some w => run fuel w
    | none => w

end World

namespace Value

mutual

def largest : Value → Nat
  | .int n => n.natAbs
  | .list items => largestItem items
  | .object fields => largestField fields
  | _ => 0

def largestItem : List Value → Nat
  | [] => 0
  | item :: rest => max (largest item) (largestItem rest)

def largestField : List (String × Value) → Nat
  | [] => 0
  | (_, value) :: rest => max (largest value) (largestField rest)

end

mutual

/-- A bound on the steps that a value leads to as an operation: every number in it may say how
often the rest is done, and every text may be put for a number up to `reach`. -/
def steps (reach : Nat) : Value → Nat
  | .int n => n.natAbs + 2
  | .str _ => reach + 2
  | .list items => stepsItems reach items
  | .object fields => 32 * stepsFields reach fields
  | _ => 2

def stepsItems (reach : Nat) : List Value → Nat
  | [] => 2
  | item :: rest => steps reach item + stepsItems reach rest

def stepsFields (reach : Nat) : List (String × Value) → Nat
  | [] => 1
  | (_, value) :: rest => steps reach value * stepsFields reach rest

end

end Value

def mainThread (ops : List Value) : Thread where
  role := .main
  name := "main"
  status := .running .proceed
  stack := [.script ops [], .closing none]

def World.start (m : Machine) (ops : List Value) : World :=
  { machine := m, threads := #[mainThread ops] }

def World.after (m : Machine) (ops : List Value) : World :=
  let script := Value.list ops
  (World.start m ops).run (32 * script.steps (script.largest + m.processors + 1))

namespace World

def answers (w : World) : List Value := (w.threads[0]?.map Thread.answers).getD []

def finalLog (w : World) (sorted : Bool) : List Value :=
  if sorted then Value.sorted w.log.toList else w.log.toList

def finalStats (w : World) : Value :=
  .object (w.pools.names.filterMap fun (name, place) =>
    (w.pools.get? place).map fun p => (name, Value.stats false p.stats))

def finalOutcomes (w : World) : Value :=
  .object (w.readers.map fun (name, c) => (name, .polled (w.channels.read c).1))

def allEvents (w : World) : List Event :=
  w.events ++ w.pools.cells.toList.flatMap Pool.events
    ++ w.loops.cells.toList.flatMap EventLoop.events

def trace (w : World) (anonymous : Bool) : List Value :=
  ((w.allEvents.map (Event.line anonymous)).mergeSort (· ≤ ·)).map .str

end World

/-- The answer to a whole scenario. -/
def answer (scenario : Value) (m : Machine := {}) : Value :=
  let w := World.after m (scenario.listAt "ops")
  let trace := match scenario.text? "trace" with
    | some mode => [("trace", Value.list (w.trace (mode == "anon")))]
    | none => []
  .object ([
    ("steps", .list w.answers),
    ("log", .list (w.finalLog (scenario.boolAt "sort_log"))),
    ("pools", w.finalStats),
    ("channels", w.finalOutcomes)] ++ trace)

end WorkerPool.Scenario
