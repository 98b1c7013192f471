import WorkerPool.Scenario.Perform.Channel
import WorkerPool.Scenario.Perform.EventLoop
import WorkerPool.Scenario.Perform.Object
import WorkerPool.Scenario.Perform.Pool

namespace WorkerPool.Scenario

open Value (ok)

namespace World

def helper (ops : List Value) : Thread where
  role := .helper
  name := ""
  status := .running .proceed
  stack := [.script ops []]

def spawnHelpers (w : World) (lists : List (List Value)) : World × List Nat :=
  (lists.foldl (fun w ops => w.spawn (helper ops)) w,
    (List.range lists.length).map (w.threads.size + ·))

def perform (w : World) (t : Thread) : Op → World × Reply
  | .log v => (w.write v).done ok
  | .readLog => { w with log := #[] }.done (.list w.log.toList)
  | .release none => { w with gates := { w.gates with all := true } }.done ok
  | .release (some g) =>
    { w with gates := { w.gates with opened := g :: w.gates.opened } }.done ok
  | .blockedGates => w.done (.list (w.waitingGates.map .str))
  | .nap length => (w, .wait .nap (some length))
  | .iterate count counter ops =>
    (w, .enter [.iterate 0 count counter ops [] .null] .proceed)
  | .parallel threads quiet =>
    let (w, places) := w.spawnHelpers threads
    (w, .enter [.gather places quiet] .proceed)
  | .blocked run during gap sorted =>
    let (w, places) := w.spawnHelpers (run.map ([·]))
    (w, .enter [.settling places during gap sorted] .proceed)
  | .settings op => w.done op.answer
  | .queue op => w.performQueue op
  | .channel op => w.performChannel op
  | .barrier op => w.performBarrier op
  | .executor op => w.performExecutor op
  | .signal op => w.performSignal op
  | .task op => w.performTask op
  | .pool op => w.performPool t op
  | .call op => w.performCall op
  | .collection op => w.performCollection op
  | .eventLoop op => w.performLoop t op
  | .unknown => w.done .unknownOp

end World

end WorkerPool.Scenario
