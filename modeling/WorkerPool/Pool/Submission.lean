import WorkerPool.Channel
import WorkerPool.Pool.Basic

namespace WorkerPool

inductive Rejection where
  | queueFull (capacity : Nat)
  | stopped
  | foreignToken
  deriving DecidableEq, Repr

def Rejection.report : Rejection → Report
  | .queueFull n =>
    let capacity := toString n
    ⟨"QueueFull(" ++ capacity ++ ")", "Task queue is full (capacity " ++ capacity ++ ")", none⟩
  | .stopped => ⟨"ShutDown", "Thread pool has been stopped", none⟩
  | .foreignToken => ⟨"ForeignToken", "Producer token belongs to a different pool", none⟩

namespace Pool

variable {β ρ : Type}

/-- What came of an offer to the queue, with the token as it stands after it. -/
inductive Decision where
  | admitted (token : Option ProducerToken)
  | refused (reason : Queue.Refusal)
  | foreign
  deriving DecidableEq, Repr

namespace Decision

def taskEvent? : Decision → Option Event
  | .admitted _ => none
  | .refused reason => some (.taskRejected reason)
  | .foreign => some .taskForeign

def bulkEvent? (count : Nat) : Decision → Option Event
  | .admitted _ => none
  | .refused reason => some (.bulkRejected reason count)
  | .foreign => some (.bulkForeign count)

end Decision

def accepts (p : Pool β) (token : Option ProducerToken) : Bool := token.all p.queue.owns

def offer (p : Pool β) (token : Option ProducerToken) (job : Job β) : Decision × Pool β :=
  if p.accepts token then
    match p.queue.enqueue job with
    | .ok queue => (.admitted (token.map (·.record 1)), { p with queue })
    | .error refused => (.refused refused.reason, p)
  else (.foreign, p)

def offerBulk (p : Pool β) (token : Option ProducerToken) (jobs : List (Job β)) :
    Decision × Pool β :=
  if p.accepts token then
    match p.queue.enqueueBulk jobs with
    | .ok queue => (.admitted (token.map (·.record jobs.length)), { p with queue })
    | .error refused => (.refused refused.reason, p)
  else (.foreign, p)

def tally (p : Pool β) (tasks : Nat) (event : Option Event) : Decision → Pool β
  | .admitted _ => { p with stats := p.stats.schedule tasks }
  | .refused _ | .foreign =>
    { p with stats := p.stats.reject tasks, events := p.events ++ event.toList }

abbrev Verdict := Except Rejection (Option ProducerToken)

def verdict (p : Pool β) : Decision → Verdict
  | .admitted token => .ok token
  | .refused .full => .error (.queueFull (p.queue.capacity.getD 0))
  | .refused .closed => .error .stopped
  | .foreign => .error .foreignToken

def submit (p : Pool β) (token : Option ProducerToken) (job : Job β) : Verdict × Pool β :=
  let (decision, p) := p.offer token job
  (p.verdict decision, p.tally 1 decision.taskEvent? decision)

def submitBulk (p : Pool β) (token : Option ProducerToken) (jobs : List (Job β)) :
    Verdict × Pool β :=
  let (decision, p) := p.offerBulk token jobs
  (p.verdict decision, p.tally jobs.length (decision.bulkEvent? jobs.length) decision)

/-- A task with a result channel, which exists only if the task was admitted. -/
def schedule (p : Pool β) (token : Option ProducerToken) (body : β) (cs : Channels ρ) :
    Verdict × Pool β × Channels ρ :=
  match p.submit token ⟨body, some cs.next⟩ with
  | (.ok token, p) => (.ok token, p, cs.create)
  | (.error rejection, p) => (.error rejection, p, cs)

def forget (p : Pool β) (token : Option ProducerToken) (body : β) : Verdict × Pool β :=
  p.submit token ⟨body, none⟩

def bulk (p : Pool β) (token : Option ProducerToken) (bodies : List β) : Verdict × Pool β :=
  p.submitBulk token (bodies.map (⟨·, none⟩))

end Pool

end WorkerPool
