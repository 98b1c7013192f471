import WorkerPool.Pool.Shutdown
import WorkerPool.Pool.Submission
import WorkerPool.Pool.Work
import Mathlib.Logic.Function.Basic

/-! A pool among its callers and its workers, at one moment of a run. A call that other threads can
overtake half way is cut where they can. -/

namespace WorkerPool.Pool.Interleaving

/-- Tasks are numbered as they are offered, so two tasks with one body are told apart. -/
structure Numbered (β : Type) where
  number : Nat
  body : β
  deriving DecidableEq, Repr

abbrev Task (β : Type) := Job (Numbered β)

variable {β ρ : Type}

def numberOf (task : Task β) : Nat := task.body.number

def bulkTasks (first : Nat) (bodies : List β) : List (Task β) :=
  (bodies.zipIdx first).map fun (body, number) => ⟨⟨number, body⟩, none⟩

/-- A call that submits tasks, by whatever entry. -/
inductive Submission (β : Type) where
  | schedule (body : β)
  | forget (body : β)
  | bulk (bodies : List β)
  deriving Repr

namespace Submission

def size : Submission β → Nat
  | .schedule _ | .forget _ => 1
  | .bulk bodies => bodies.length

def tasks (first channel : Nat) : Submission β → List (Task β)
  | schedule body => [⟨⟨first, body⟩, some channel⟩]
  | forget body => [⟨⟨first, body⟩, none⟩]
  | bulk bodies => bulkTasks first bodies

def offer (p : Pool (Numbered β)) (token : Option ProducerToken) (first channel : Nat) :
    Submission β → Decision × Pool (Numbered β)
  | schedule body => p.offer token ⟨⟨first, body⟩, some channel⟩
  | forget body => p.offer token ⟨⟨first, body⟩, none⟩
  | bulk bodies => p.offerBulk token (bulkTasks first bodies)

def event? (decision : Decision) : Submission β → Option Event
  | bulk bodies => decision.bulkEvent? bodies.length
  | _ => decision.taskEvent?

def openChannel (cs : Channels ρ) : Submission β → Channels ρ
  | schedule _ => cs.create
  | _ => cs

end Submission

/-- How far a worker is within its stage. -/
inductive Post (ρ : Type) where
  | idle
  -- In a fetch, asleep or not.
  | waiting
  -- In the body of its current task.
  | busy
  -- The body is over and its promise kept; no counter has heard of it.
  | ended (outcome : Outcome ρ)
  -- A panic is counted; the task itself is not.
  | reported
  deriving DecidableEq, Repr

/-- An offer that the queue has decided and the counters have not heard of. -/
structure Decided where
  tasks : Nat
  event : Option Event
  decision : Decision

/-- A join between taking the leftovers out of the queue and dropping them. -/
structure Leaving (β : Type) where
  tasks : List (Task β)
  counted : Bool := false
  deriving Inhabited

structure Ran (β ρ : Type) where
  worker : Nat
  task : Task β
  outcome : Outcome ρ

/-- What has happened so far. Nothing in the pool depends on it, apart from the numbers of new
tasks. -/
structure History (β ρ : Type) where
  offered : Nat := 0
  -- The tasks of each admitted submission, in the order of admission.
  admitted : List (List (Task β)) := []
  refused : List (List (Task β)) := []
  -- What each fetch brought to which worker, in the order of the fetches.
  batches : List (Nat × List (Task β)) := []
  ran : List (Ran β ρ) := []
  removed : List (Task β) := []
  dropped : List (Task β) := []
  -- Channels whose outcome was given out.
  retrieved : List Nat := []
  -- Joins that have returned after the workers had left.
  returned : Nat := 0
  -- Joins that have found the workers gone before any stop had closed the queue.
  early : Nat := 0

namespace History

def fetchedBy (h : History β ρ) (i : Nat) : List (Task β) :=
  (h.batches.filter fun batch => batch.1 = i).flatMap Prod.snd

def ranBy (h : History β ρ) (i : Nat) : List (Task β) :=
  (h.ran.filter fun run => run.worker = i).map Ran.task

end History

structure State (β ρ : Type) extends History β ρ where
  pool : Pool (Numbered β)
  channels : Channels ρ := {}
  posts : Nat → Post ρ := fun _ => .idle
  -- Calls of stop that have closed the queue and have yet to raise the signal.
  stopping : Nat := 0
  decided : List Decided := []
  -- Some join holds the list of the workers and waits for them to leave.
  awaiting : Bool := false
  joining : List (Leaving β) := []

namespace State

def start (settings : PoolSettings) (queueId : Nat) : State β ρ where
  pool := Pool.start settings queueId

def offer (s : State β ρ) (token : Option ProducerToken) (call : Submission β) : State β ρ :=
  let tasks := call.tasks s.offered s.channels.next
  let (decision, pool) := call.offer s.pool token s.offered s.channels.next
  let s :=
    { s with
      pool
      offered := s.offered + tasks.length
      decided := s.decided ++ [Decided.mk tasks.length (call.event? decision) decision] }
  match decision with
  | .admitted _ =>
    { s with admitted := s.admitted ++ [tasks], channels := call.openChannel s.channels }
  | _ => { s with refused := s.refused ++ [tasks] }

def tally (s : State β ρ) (k : Nat) (offer : Decided) : State β ρ :=
  { s with
    pool := s.pool.tally offer.tasks offer.event offer.decision
    decided := s.decided.eraseIdx k }

def stand (s : State β ρ) (i : Nat) (post : Post ρ) : State β ρ :=
  { s with posts := Function.update s.posts i post }

def fetch (s : State β ρ) (i : Nat) : State β ρ :=
  { s.stand i .idle with
    pool := s.pool.fetch i
    batches := s.batches ++ [(i, (s.pool.queue.fetch s.pool.settings.batchSize).1)] }

def finish (s : State β ρ) (i : Nat) (task : Task β) (outcome : Outcome ρ) : State β ρ :=
  { s.stand i (.ended outcome) with
    channels := s.pool.settleTask i outcome s.channels
    ran := s.ran ++ [⟨i, task, outcome⟩] }

def report (s : State β ρ) (i : Nat) (outcome : Outcome ρ) : State β ρ :=
  { s.stand i .reported with pool := s.pool.countPanic i outcome }

def count (s : State β ρ) (i : Nat) : State β ρ :=
  { s.stand i .idle with pool := s.pool.countTask i }

def check (s : State β ρ) (i : Nat) : State β ρ := { s with pool := s.pool.check i }

def close (s : State β ρ) : State β ρ :=
  { s with pool := s.pool.close, stopping := s.stopping + 1 }

def raise (s : State β ρ) : State β ρ :=
  { s with pool := s.pool.trigger, stopping := s.stopping - 1 }

def await (s : State β ρ) : State β ρ := { s with awaiting := true }

def takeLeftovers (s : State β ρ) : State β ρ :=
  let (leftovers, pool) := s.pool.removeLeftovers
  { s with
    pool
    awaiting := false
    joining := s.joining ++ [{ tasks := leftovers }]
    removed := s.removed ++ leftovers
    early := if s.pool.queue.closed then s.early else s.early + 1 }

def countLeftovers (s : State β ρ) (k : Nat) (leftovers : List (Task β)) : State β ρ :=
  { s with
    pool := s.pool.countLeftovers leftovers
    joining := s.joining.set k ⟨leftovers, true⟩ }

def dropLeftovers (s : State β ρ) (k : Nat) (leftovers : List (Task β)) : State β ρ :=
  { s with
    channels := dropTasks leftovers s.channels
    joining := s.joining.eraseIdx k
    dropped := s.dropped ++ leftovers
    returned := s.returned + 1 }

def selfJoin (s : State β ρ) : State β ρ := { s with pool := s.pool.selfJoin }

def read (s : State β ρ) (c : Nat) : State β ρ :=
  { s with
    channels := (s.channels.read c).2
    retrieved := match s.channels.slot c with
      | .ready _ => s.retrieved ++ [c]
      | _ => s.retrieved }

/-- The tasks of a batch whose bodies are not over, given the worker's post. -/
def unfinished (w : Worker (Numbered β)) : Post ρ → List (Task β)
  | .ended _ | .reported => w.batch.tail
  | _ => w.batch

def left (s : State β ρ) (i : Nat) : List (Task β) :=
  match s.pool.worker? i with
  | some w => unfinished w (s.posts i)
  | none => []

def lefts (s : State β ρ) : List (Task β) := (List.range s.pool.workers.length).flatMap s.left

end State

end WorkerPool.Pool.Interleaving
