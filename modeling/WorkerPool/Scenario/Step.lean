import WorkerPool.Scenario.Perform.WouldBlock
import WorkerPool.Scenario.Waiting

namespace WorkerPool.Scenario

open Value (ok)

namespace Thread

def run (t : Thread) (stack : List Frame) (control : Control) : Thread :=
  { t with stack, status := .running control }

def await (t : Thread) (wait : Wait) (deadline : Option Nat) : Thread :=
  { t with status := .waiting wait deadline }

/-- On to the next operation, which in the main script waits until the world is at rest. -/
def next (t : Thread) (stack : List Frame) : Thread :=
  let t := t.run stack .proceed
  if t.isMainScript then t.await .rest none else t

end Thread

namespace World

def deadline (w : World) (timeout : Duration) : Option Nat :=
  if timeout.nanos < Nat.pow 2 63 * Nat.pow 10 9 then some (w.clock + timeout.nanos) else none

def pause (w : World) (t : Thread) (stack : List Frame) (length : Duration) : Thread :=
  { t with stack }.await .pause (w.deadline length)

def proceedBody (w : World) (t : Thread) (below : List Frame) (steps : List Value)
    (result : Value) : World × Thread :=
  match steps with
  | [] => (w, t.run below (.ended (.returned result)))
  | step :: rest =>
    let stack := .body rest "" result :: below
    match BodyStep.ofValue w.machine step with
    | .log v => (w.write v, t.run stack .proceed)
    | .panic payload => (w, t.run below (.ended (.panicked payload)))
    | .gate name =>
      if t.role.isWorker then (w, { t with stack }.await (.gate name) none)
      else (w, t.run stack .proceed)
    | .result v => (w, t.run (.body rest "" v :: below) .proceed)
    | .threadName => (w.write (.str t.name), t.run stack .proceed)
    | .perform name op => (w, t.run (.body rest name result :: below) (.perform op))

def proceedIterate (w : World) (t : Thread) (below : List Frame) (round count : Nat)
    (counter : String) (ops pending : List Value) (last : Value) : Thread :=
  match pending with
  | op :: rest =>
    t.run (.iterate round count counter ops rest last :: below) (.perform (.ofValue w.machine op))
  | [] =>
    if round < count then
      let pending := ops.map (Value.substitute counter (.nat round))
      t.run (.iterate (round + 1) count counter ops pending last :: below) .proceed
    else t.run below (.reply (.object [("last", last)]))

def answersOf (w : World) (places : List Nat) : List (List Value) :=
  places.map fun i => (w.threads[i]?.map Thread.answers).getD []

def gather (w : World) (t : Thread) (below : List Frame) (places : List Nat) (quiet : Bool) :
    Thread :=
  if places.all w.isFinished then
    let answers := Value.list ((w.answersOf places).map .list)
    t.run below (.reply (if quiet then ok else answers))
  else t.await (.helpers places) none

def rendezvousAnswer (w : World) (places : List Nat) (early : Nat) (answers : List Value)
    (sorted : Bool) : Value :=
  let run := (w.answersOf places).flatten
  .object [
    ("finished_early", .nat early),
    ("run", .list (if sorted then Value.sorted run else run)),
    ("then", .list answers)]

def proceedRendezvous (w : World) (t : Thread) (below : List Frame) (places : List Nat)
    (early : Option Nat) (during answers : List Value) (gap : Duration) (sorted : Bool) :
    Thread :=
  match early, during with
  | none, _ =>
    let early := places.countP w.isFinished
    t.run (.rendezvous places (some early) during answers gap sorted :: below) .proceed
  | some _, op :: rest =>
    t.run (.rendezvous places early rest answers gap sorted :: below)
      (.perform (.ofValue w.machine op))
  | some early, [] =>
    if places.all w.isFinished then
      t.run below (.reply (w.rendezvousAnswer places early answers sorted))
    else t.await (.helpers places) none

def drainNext (w : World) (t : Thread) (below : List Frame) (executor : Nat)
    (drain : Executor.Drain) : World × Thread :=
  match (w.executors.get? executor).bind Executor.next? with
  | some (body, x) =>
    ({ w with executors := w.executors.set executor x },
      t.run (.body body "" .null :: .draining executor drain :: below) .proceed)
  | none => (w, t.run below (.reply (.drained drain.dry)))

/-- At the end gates are opened while tasks wait at any, then all is dropped in order. -/
def close (w : World) (t : Thread) (answers : List Value) : World × Thread :=
  match w.waitingGates, w.owners, w.loops.names with
  | gate :: _, _, _ =>
    ({ w with gates := { w.gates with opened := gate :: w.gates.opened } }, t.await .rest none)
  | [], (name, place) :: _, _ =>
    ({ w with owners := w.owners.erase name }.stopPool place, t.await (.poolExit place) none)
  | [], [], (name, place) :: _ =>
    ({ w with loops := w.loops.forget name }.stopLoop place, t.await (.loopExit place) none)
  | [], [], [] => (w, { t with stack := [], status := .finished answers })

def proceed (w : World) (t : Thread) : World × Thread :=
  match t.stack with
  | [] => (w, { t with status := .finished [] })
  | .script [] answers :: below => (w, t.run below (.reply (.list answers)))
  | .script (op :: rest) answers :: below =>
    (w, t.run (.script rest answers :: below) (.perform (.ofValue w.machine op)))
  | .body steps _ result :: below => w.proceedBody t below steps result
  | .iterate round count counter ops pending last :: below =>
    (w, w.proceedIterate t below round count counter ops pending last)
  | .gather places quiet :: below => (w, w.gather t below places quiet)
  | .settling places during gap sorted :: below =>
    (w, w.pause t (.rendezvous places none during [] gap sorted :: below) (.ofMillis 12))
  | .rendezvous places early during answers gap sorted :: below =>
    (w, w.proceedRendezvous t below places early during answers gap sorted)
  | .draining executor drain :: below => w.drainNext t below executor drain
  | .closing answers :: _ => w.close t (answers.getD [])
  | _ :: _ => (w, t.run t.stack (.ended (.returned .null)))

def accept (w : World) (t : Thread) (answer : Value) : World × Thread :=
  match t.stack with
  | [] => (w, { t with status := .finished answer.asList })
  | .script rest answers :: below => (w, t.next (.script rest (answers ++ [answer]) :: below))
  | .body rest name result :: below =>
    (w.write (.list [.str name, answer]), t.run (.body rest "" result :: below) .proceed)
  | .iterate round count counter ops pending _ :: below =>
    (w, t.next (.iterate round count counter ops pending answer :: below))
  | .rendezvous places early during answers gap sorted :: below =>
    let stack := .rendezvous places early during (answers ++ [answer]) gap sorted :: below
    (w, if gap = .zero then t.run stack .proceed else w.pause t stack gap)
  | .closing none :: below => (w, t.run (.closing (some answer.asList) :: below) .proceed)
  | stack => (w, t.run stack .proceed)

def reportAction (w : World) (outcome : Outcome Value) : World :=
  { w with events := w.events ++ (Executor.report? outcome).toList }

def drainOn (t : Thread) (below : List Frame) (executor : Nat) (drain : Executor.Drain) : Thread :=
  match drain.past with
  | .inl drain => t.run (.draining executor drain :: below) .proceed
  | .inr result => t.run below (.reply (.drained result))

def guardedAnswer (outcome : Outcome Value) : Value :=
  match outcome.ending.thrown? with
  | some thrown => .panicked thrown.message
  | none => ok

def finishTask (w : World) (pool worker : Nat) (outcome : Outcome Value) : World :=
  match w.pools.get? pool with
  | some p =>
    let (p, channels) := p.finish worker outcome w.channels
    { w.setPool pool p with channels }
  | none => w

def conclude (w : World) (t : Thread) (outcome : Outcome Value) : World × Thread :=
  match t.stack with
  | .completion c :: below =>
    ({ w with channels := w.channels.settle c outcome.ending.complete.1 }, t.run below (.reply ok))
  | .guarded :: below => (w, t.run below (.reply (guardedAnswer outcome)))
  | .draining executor drain :: below =>
    (w.reportAction outcome, drainOn t below executor drain)
  | .poolTask pool worker :: below =>
    (w.finishTask pool worker outcome, { t with stack := below, status := .working })
  | .loopItem l worker :: below =>
    (w.modifyLoop l (·.finish worker outcome), { t with stack := below, status := .working })
  | stack => (w, t.run stack (.reply .null))

def startItem (w : World) (t : Thread) (l worker : Nat) (item : Value) : World × Thread :=
  match item with
  | .object _ => (w, t.run [.body (item.listAt "body") "" .null, .loopItem l worker] .proceed)
  | _ => (w.write item, t.run [.loopItem l worker] (.ended (.returned .null)))

def startTask (t : Thread) (pool worker : Nat) (work : Work) : Thread :=
  match work with
  | .body ops => t.run [.body ops "" .null, .poolTask pool worker] .proceed
  | .call f argument => t.run [.poolTask pool worker] (.ended (f.apply argument))

def stepPoolWorker (w : World) (t : Thread) (pool worker : Nat) : World × Thread :=
  match w.pools.get? pool with
  | none => (w, { t with status := .finished [] })
  | some p =>
    match (p.worker? worker).map Worker.stage with
    | some .fetching => (w.setPool pool (p.fetch worker), t)
    | some (.running _) =>
      match p.current? worker with
      | some job => (w, startTask t pool worker job.body)
      | none => (w.setPool pool (p.check worker), t)
    | _ => (w, { t with status := .finished [] })

def stepLoopWorker (w : World) (t : Thread) (loop worker : Nat) : World × Thread :=
  match (w.loops.get? loop).bind (·.take worker) with
  | none => (w, { t with status := .finished [] })
  | some l =>
    let w := w.setLoop loop l
    match (l.worker? worker).bind (·.current) with
    | some item => w.startItem t loop worker item
    | none => (w, { t with status := .finished [] })

def stepWorker (w : World) (t : Thread) : World × Thread :=
  match t.role with
  | .poolWorker pool worker => w.stepPoolWorker t pool worker
  | .loopWorker loop worker => w.stepLoopWorker t loop worker
  | _ => (w, { t with status := .finished [] })

def stepPerform (w : World) (t : Thread) (op : Op) : World × Thread :=
  if t.isMainScript && w.wouldBlock op then (w, t.run t.stack (.reply .wouldBlock))
  else
    match w.perform t op with
    | (w, .answer v) => (w, t.run t.stack (.reply v))
    | (w, .wait wait timeout) => (w, t.await wait (timeout.bind w.deadline))
    | (w, .enter frames control) => (w, t.run (frames ++ t.stack) control)

def stepThread (w : World) (t : Thread) : World × Thread :=
  match t.status with
  | .running .proceed => w.proceed t
  | .running (.perform op) => w.stepPerform t op
  | .running (.reply answer) => w.accept t answer
  | .running (.ended outcome) => w.conclude t outcome
  | .waiting wait _ =>
    let (w, control) := w.resume wait
    (w, t.run t.stack control)
  | .working => w.stepWorker t
  | .finished _ => (w, t)

def step (w : World) (i : Nat) : World :=
  match w.threads[i]? with
  | some t =>
    let (w, t) := w.stepThread t
    { w.setThread i t with current := i }
  | none => w

end World

end WorkerPool.Scenario
