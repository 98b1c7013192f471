import Mathlib.Data.List.InsertIdx
import WorkerPool.Proofs.Channel
import WorkerPool.Proofs.Pool.Effect
import WorkerPool.Proofs.Pool.Replay

namespace WorkerPool

/-- Where the channels of a pool are, and what the id of its queue is. -/
structure Naming where
  place : Nat → Nat
  id : Nat

variable {β ρ : Type} (n : Naming)

def Job.named (j : Job β) : Job β := { j with channel := j.channel.map n.place }

def ProducerToken.named (t : ProducerToken) : ProducerToken := { t with queueId := n.id }

def Worker.named (w : Worker β) : Worker β :=
  { w with token := { w.token with queueId := n.id }, batch := w.batch.map (Job.named n) }

def Queue.named (q : Queue (Job β)) : Queue (Job β) :=
  { q with id := n.id, items := q.items.map (Job.named n) }

theorem Queue.isFull_named (q : Queue (Job β)) (incoming : Nat) :
    (q.named n).isFull incoming = q.isFull incoming := by
  have size : (q.named n).length = q.length := List.length_map (Job.named n)
  unfold isFull
  rw [size]
  rfl

theorem Queue.enqueueBulk_named (q : Queue (Job β)) (batch : List (Job β)) :
    (q.named n).enqueueBulk (batch.map (Job.named n)) =
      ((q.enqueueBulk batch).map (named n)).mapError fun refused =>
        ⟨refused.reason, batch.map (Job.named n)⟩ := by
  have full := isFull_named n q batch.length
  have closed : (q.named n).closed = q.closed := rfl
  simp only [enqueueBulk, List.length_map, full, closed]
  split
  · rfl
  · split
    · rfl
    · simp [Except.map, Except.mapError, named]

theorem Worker.check_named (w : Worker β) (raised : Bool) (policy : StopPolicy) :
    (w.named n).check raised policy = (w.check raised policy).named n := by
  obtain ⟨id, token, batch, draining, stage⟩ := w
  cases stage with
  | running fetched =>
      by_cases last : (draining && fetched == 0) = true
      · simp [check, named, last]
      · cases raised <;> cases policy <;> simp [check, named, last]
  | fetching | exited => rfl

namespace Pool

def named (p : Pool β) : Pool β :=
  { p with queue := p.queue.named n, workers := p.workers.map (Worker.named n) }

def Decision.named : Decision → Decision
  | .admitted token => .admitted (token.map (ProducerToken.named n))
  | decision => decision

theorem accepts_named (p : Pool β) (token : Option ProducerToken) :
    (p.named n).accepts (token.map (ProducerToken.named n)) = true := by
  cases token with
  | none => rfl
  | some t => exact beq_self_eq_true n.id

theorem offerBulk_named (p : Pool β) {token : Option ProducerToken} (own : p.accepts token = true)
    (jobs : List (Job β)) :
    (p.named n).offerBulk (token.map (ProducerToken.named n)) (jobs.map (Job.named n)) =
      ((p.offerBulk token jobs).1.named n, (p.offerBulk token jobs).2.named n) := by
  have result := p.queue.enqueueBulk_named n jobs
  have queue : (p.named n).queue = p.queue.named n := rfl
  simp only [offerBulk, accepts_named, own, if_true]
  rw [queue, result]
  cases p.queue.enqueueBulk jobs with
  | ok queue =>
      simp [Except.map, Except.mapError, named, Decision.named, ProducerToken.named,
        ProducerToken.record, Function.comp_def]
  | error refused => rfl

theorem offerBulk_foreign (p : Pool β) {token : Option ProducerToken}
    (foreign : p.accepts token = false) (jobs : List (Job β)) :
    p.offerBulk token jobs = (.foreign, p) := by
  simp [offerBulk, foreign]

/-- The token of the pool under its other name, or of another pool on both sides. -/
inductive Presented (p : Pool β) : Option ProducerToken → Option ProducerToken → Prop
  | own {token : Option ProducerToken} (accepted : p.accepts token = true) :
      Presented p token (token.map (ProducerToken.named n))
  | foreign {token other : Option ProducerToken} (here : p.accepts token = false)
      (there : (p.named n).accepts other = false) : Presented p token other

theorem Presented.offerBulk {p : Pool β} {token other : Option ProducerToken}
    (presented : Presented n p token other) (jobs : List (Job β)) :
    (p.named n).offerBulk other (jobs.map (Job.named n)) =
      ((p.offerBulk token jobs).1.named n, (p.offerBulk token jobs).2.named n) := by
  cases presented with
  | own accepted => exact p.offerBulk_named n accepted jobs
  | foreign here there =>
      rw [offerBulk_foreign _ there, offerBulk_foreign _ here]
      rfl

theorem offerBulk_refused {p q : Pool β} {token : Option ProducerToken} {jobs others : List (Job β)}
    {decision : Decision} (same : jobs.length = others.length)
    (refused : ∀ t, decision ≠ .admitted t) (result : p.offerBulk token jobs = (decision, q)) :
    p.offerBulk token others = (decision, p) := by
  unfold offerBulk Queue.enqueueBulk at result ⊢
  rw [same] at result
  split
  · next accepted =>
      rw [if_pos accepted] at result
      split at result
      · next queue given =>
          cases result
          exact absurd rfl (refused _)
      · next reason given =>
          cases result
          split at given
          · next closed => 
              cases given
              simp [closed]
          · next opened =>
              split at given
              · next full =>
                  cases given
                  simp [opened, full]
              · cases given
  · next other =>
      rw [if_neg other] at result
      cases result
      rfl

theorem tally_named (p : Pool β) (tasks : Nat) (event : Option Event) (decision : Decision) :
    (p.named n).tally tasks event (decision.named n) = (p.tally tasks event decision).named n := by
  cases decision <;> rfl

theorem worker?_named (p : Pool β) (i : Nat) :
    (p.named n).worker? i = (p.worker? i).map (Worker.named n) := by
  simp [worker?, named]

theorem current?_named (p : Pool β) (i : Nat) :
    (p.named n).current? i = (p.current? i).map (Job.named n) := by
  rw [current?, worker?_named, current?]
  cases p.worker? i <;> simp [Worker.named]

theorem allExited_named (p : Pool β) : (p.named n).allExited = p.allExited := by
  simp [allExited, named, Worker.named, Worker.hasExited, Function.comp_def]

theorem modify_named (workers : List (Worker β)) (i : Nat) {f g : Worker β → Worker β}
    (same : ∀ w, f (w.named n) = (g w).named n) :
    (workers.map (Worker.named n)).modify i f = (workers.modify i g).map (Worker.named n) := by
  apply List.ext_getElem?
  intro k
  rw [List.getElem?_modify, List.getElem?_map, List.getElem?_map, List.getElem?_modify]
  cases workers[k]? with
  | none => rfl
  | some w => by_cases here : i = k <;> simp [here, same]

theorem fetch_named (p : Pool β) (i : Nat) : (p.named n).fetch i = (p.fetch i).named n := by
  simp only [fetch, modifyWorker, Queue.fetch, named, Queue.named, List.map_drop, ← List.map_take,
    List.length_map]
  congr 1
  apply modify_named
  intro w
  simp [Worker.named, ConsumerToken.record]

theorem countPanic_named (p : Pool β) (i : Nat) (outcome : Outcome ρ) :
    (p.named n).countPanic i outcome = (p.countPanic i outcome).named n := by
  unfold countPanic
  rw [current?_named]
  cases p.current? i with
  | none => rfl
  | some job =>
      obtain ⟨body, channel⟩ := job
      cases channel <;> cases outcome <;> rfl

theorem countTask_named (p : Pool β) (i : Nat) :
    (p.named n).countTask i = (p.countTask i).named n := by
  unfold countTask
  rw [current?_named]
  cases p.current? i with
  | none => rfl
  | some job =>
      simp only [Option.map_some, modifyWorker, named]
      congr 1
      apply modify_named
      intro w
      simp [Worker.named]

theorem check_named (p : Pool β) (i : Nat) : (p.named n).check i = (p.check i).named n := by
  unfold check
  rw [worker?_named]
  cases p.worker? i with
  | none => rfl
  | some w =>
      have next : (w.named n).check (p.named n).signal.raised (p.named n).settings.stopPolicy =
          (w.check p.signal.raised p.settings.stopPolicy).named n := w.check_named n _ _
      have exited (v : Worker β) : (v.named n).hasExited = v.hasExited := rfl
      have dequeued : (w.named n).token.dequeued = w.token.dequeued := rfl
      have changed := modify_named n p.workers i
        (f := fun _ => (w.check p.signal.raised p.settings.stopPolicy).named n)
        (g := fun _ => w.check p.signal.raised p.settings.stopPolicy) fun _ => rfl
      simp only [Option.map_some, next, exited, dequeued]
      split
      · simp only [modifyWorker, named, emit, changed]
      · simp only [modifyWorker, named, changed]

theorem trigger_named (p : Pool β) : (p.named n).trigger = p.trigger.named n := by
  cases raised : p.signal.raised <;>
    simp [trigger, Signal.trigger, named, Queue.named, Queue.length, emit, raised]

theorem countLeftovers_named (p : Pool β) (leftovers : List (Job β)) :
    (p.named n).countLeftovers (leftovers.map (Job.named n)) =
      (p.countLeftovers leftovers).named n := by
  unfold countLeftovers
  rw [List.isEmpty_map, List.length_map]
  split <;> rfl

namespace Interleaving

theorem named_tasks (call : Submission β) (first channel : Nat) :
    call.tasks first (n.place channel) = (call.tasks first channel).map (Job.named n) := by
  cases call with
  | schedule body | forget body => rfl
  | bulk bodies => simp [Submission.tasks, bulkTasks, Job.named, Function.comp_def]

def Ran.named (run : Ran β ρ) : Ran β ρ := { run with task := run.task.named n }

def Decided.named (offer : Decided) : Decided := { offer with decision := offer.decision.named n }

def Leaving.named (join : Leaving β) : Leaving β :=
  { join with tasks := join.tasks.map (Job.named n) }

namespace State

/-- The state with other names, on other channels, and with another record of what was refused. -/
def named (cs : Channels ρ) (refused : List (List (Task β))) (s : State β ρ) : State β ρ :=
  { s with
    refused
    channels := cs
    pool := s.pool.named n
    admitted := s.admitted.map (List.map (Job.named n))
    batches := s.batches.map fun batch => (batch.1, batch.2.map (Job.named n))
    ran := s.ran.map (Ran.named n)
    removed := s.removed.map (Job.named n)
    dropped := s.dropped.map (Job.named n)
    retrieved := s.retrieved.map n.place
    decided := s.decided.map (Decided.named n)
    joining := s.joining.map (Leaving.named n) }

def channelsAfter (s : State β ρ) : Action β ρ → Channels ρ
  | .finish i outcome => s.pool.settleTask i outcome s.channels
  | .dropLeftovers k => dropTasks ((s.joining[k]?.map Leaving.tasks).getD []) s.channels
  | .read c => (s.channels.read c).2
  | _ => s.channels

variable (cs : Channels ρ) (refused : List (List (Task β))) (s : State β ρ)

theorem step?_named (a : Action β ρ) (plain : (∀ token call, a ≠ .offer token call) ∧
    ∀ c, a ≠ .read c) :
    (s.named n cs refused).step? a =
      (s.step? a).map (named n ((s.named n cs refused).channelsAfter a) refused) := by
  have worker (i : Nat) : (s.named n cs refused).pool.worker? i =
      (s.pool.worker? i).map (Worker.named n) := s.pool.worker?_named n i
  cases a with
  | offer token call => exact absurd rfl (plain.1 token call)
  | read c => exact absurd rfl (plain.2 c)
  | tally k =>
      have pending : (s.named n cs refused).decided[k]? = s.decided[k]?.map (Decided.named n) :=
        List.getElem?_map
      simp only [step?, pending]
      cases s.decided[k]? with
      | none => rfl
      | some offer =>
          simp [tally, named, channelsAfter, Decided.named, tally_named, List.eraseIdx_map]
  | enter i =>
      simp only [step?, worker]
      rcases s.pool.worker? i with _ | ⟨_, _, _, _, stage⟩
      · rfl
      · cases stage <;> cases post : s.posts i <;>
          simp [named, Worker.named, channelsAfter, stand, post]
  | fetch i =>
      have brought : ((s.pool.named n).queue.fetch (s.pool.named n).settings.batchSize).1 =
          (s.pool.queue.fetch s.pool.settings.batchSize).1.map (Job.named n) :=
        List.map_take.symm
      simp only [step?, worker]
      cases s.pool.worker? i with
      | none => rfl
      | some w =>
          cases post : s.posts i <;>
            simp [named, channelsAfter, stand, State.fetch, fetch_named, post, brought]
  | begin i =>
      simp only [step?, worker]
      rcases s.pool.worker? i with _ | ⟨_, _, batch, _, stage⟩
      · rfl
      · cases batch <;> cases stage <;> cases post : s.posts i <;>
          simp [named, Worker.named, channelsAfter, stand, post]
  | finish i outcome =>
      simp only [step?, worker]
      rcases s.pool.worker? i with _ | ⟨_, _, batch, _, _⟩
      · rfl
      · cases batch <;> cases post : s.posts i <;>
          simp [named, Worker.named, channelsAfter, stand, State.finish, post, Ran.named]
  | report i =>
      simp only [step?, worker]
      cases s.pool.worker? i with
      | none => rfl
      | some w =>
          cases post : s.posts i <;>
            simp [named, channelsAfter, stand, State.report, post, countPanic_named]
  | count i =>
      simp only [step?, worker]
      rcases s.pool.worker? i with _ | ⟨_, _, batch, _, _⟩
      · rfl
      · cases batch <;> cases post : s.posts i <;>
          simp [named, Worker.named, channelsAfter, stand, State.count, post, countTask_named]
  | check i =>
      simp only [step?, worker]
      rcases s.pool.worker? i with _ | ⟨_, _, batch, _, stage⟩
      · rfl
      · cases batch <;> cases stage <;> cases post : s.posts i <;>
          simp [named, Worker.named, channelsAfter, State.check, post, check_named]
  | close => rfl
  | raise =>
      simp only [step?]
      change (if 0 < s.stopping then _ else _) = _
      split
      · simp [named, channelsAfter, State.raise, trigger_named]
      · rfl
  | await =>
      simp only [step?]
      change (if s.awaiting = true then _ else _) = _
      split <;> rfl
  | takeLeftovers =>
      have exited : (s.named n cs refused).pool.allExited = s.pool.allExited :=
        s.pool.allExited_named n
      simp only [step?, exited]
      change (if (s.awaiting && s.pool.allExited) = true then _ else _) = _
      split
      · simp [named, channelsAfter, State.takeLeftovers, removeLeftovers, tellFallen, Queue.drain,
          Pool.named, Queue.named, Leaving.named]
        rfl
      · rfl
  | countLeftovers k =>
      have joining : (s.named n cs refused).joining[k]? = s.joining[k]?.map (Leaving.named n) :=
        List.getElem?_map
      simp only [step?, joining]
      rcases s.joining[k]? with _ | ⟨tasks, counted⟩
      · rfl
      · cases counted <;>
          simp [named, channelsAfter, State.countLeftovers, countLeftovers_named, Leaving.named,
            List.map_set]
  | dropLeftovers k =>
      have joining : (s.named n cs refused).joining[k]? = s.joining[k]?.map (Leaving.named n) :=
        List.getElem?_map
      simp only [step?, joining, channelsAfter]
      rcases s.joining[k]? with _ | ⟨tasks, counted⟩
      · rfl
      · cases counted <;>
          simp [named, State.dropLeftovers, Leaving.named, List.eraseIdx_map]
  | selfJoin i =>
      simp only [step?, worker]
      rcases s.pool.worker? i with _ | ⟨_, _, _, _, stage⟩
      · rfl
      · cases stage <;> rfl

theorem read_named {c : Nat} (same : cs.slot (n.place c) = s.channels.slot c) :
    (s.named n cs refused).read (n.place c) =
      (s.read c).named n ((s.named n cs refused).channelsAfter (.read (n.place c))) refused := by
  simp only [State.read, named, channelsAfter]
  rw [same]
  cases s.channels.slot c <;> simp

variable {s}

theorem offer_admitted {token t : Option ProducerToken} {call : Submission β}
    {pool : Pool (Numbered β)}
    (result : s.pool.offerBulk token (call.tasks s.offered s.channels.next) = (.admitted t, pool)) :
    s.offer token call =
      { s with
        pool
        offered := s.offered + (call.tasks s.offered s.channels.next).length
        decided := s.decided ++ [⟨(call.tasks s.offered s.channels.next).length,
          call.event? (.admitted t), .admitted t⟩]
        admitted := s.admitted ++ [call.tasks s.offered s.channels.next]
        channels := call.openChannel s.channels } := by
  simp only [State.offer, Submission.offer_eq, result]

theorem offer_turnedDown {token : Option ProducerToken} {call : Submission β} {decision : Decision}
    {pool : Pool (Numbered β)} (other : ∀ t, decision ≠ .admitted t)
    (result : s.pool.offerBulk token (call.tasks s.offered s.channels.next) = (decision, pool)) :
    s.offer token call =
      { s with
        pool
        offered := s.offered + (call.tasks s.offered s.channels.next).length
        decided := s.decided ++ [⟨(call.tasks s.offered s.channels.next).length,
          call.event? decision, decision⟩]
        refused := s.refused ++ [call.tasks s.offered s.channels.next] } := by
  cases decision with
  | admitted t => exact absurd rfl (other t)
  | refused | foreign => simp only [State.offer, Submission.offer_eq, result]

theorem event?_named (call : Submission β) (decision : Decision) :
    call.event? (decision.named n) = call.event? decision := by
  cases call <;> cases decision <;> rfl

theorem offer_named_turnedDown {token other : Option ProducerToken}
    (presented : Presented n s.pool token other) (call : Submission β) {decision : Decision}
    {pool : Pool (Numbered β)} (turned : ∀ t, decision ≠ .admitted t)
    (result : s.pool.offerBulk token (call.tasks s.offered s.channels.next) = (decision, pool)) :
    (s.named n cs refused).offer other call =
      (s.offer token call).named n cs (refused ++ [call.tasks s.offered cs.next]) := by
  have decided := presented.offerBulk n (call.tasks s.offered s.channels.next)
  have plain : decision.named n = decision := by
    cases decision with
    | admitted t => exact absurd rfl (turned t)
    | refused | foreign => rfl
  have count : ((call.tasks s.offered s.channels.next).map (Job.named n)).length =
      (call.tasks s.offered cs.next).length := by
    cases call <;> simp [Submission.tasks]
  rw [result, plain] at decided
  have given : (s.named n cs refused).pool.offerBulk other (call.tasks s.offered cs.next) = _ :=
    offerBulk_refused count turned decided
  rw [offer_turnedDown turned given, offer_turnedDown turned (offerBulk_refused rfl turned result)]
  rw [List.length_map] at count
  simp [named, Decided.named, plain, count]

theorem offer_named {token other : Option ProducerToken}
    (presented : Presented n s.pool token other) (call : Submission β)
    (opens : s.channels.next < (s.offer token call).channels.next →
      n.place s.channels.next = cs.next) :
    ∃ channels unheard, (s.named n cs refused).offer other call =
        (s.offer token call).named n channels unheard ∧
      (((s.offer token call).channels = call.openChannel s.channels ∧
          channels = call.openChannel cs) ∨
        ((s.offer token call).channels = s.channels ∧ channels = cs)) := by
  have decided := presented.offerBulk n (call.tasks s.offered s.channels.next)
  rcases result : s.pool.offerBulk token (call.tasks s.offered s.channels.next) with
    ⟨decision, pool⟩
  rw [result] at decided
  have refusal (turned : ∀ t, decision ≠ .admitted t) :=
    offer_named_turnedDown n cs refused presented call turned result
  cases decision with
  | admitted t =>
      have tasks : call.tasks s.offered cs.next =
          (call.tasks s.offered s.channels.next).map (Job.named n) := by
        cases call with
        | schedule body =>
            rw [offer_admitted result] at opens
            rw [← opens (by simp [Submission.openChannel]), named_tasks]
        | forget body => rfl
        | bulk bodies => simp [Submission.tasks, bulkTasks, Job.named, Function.comp_def]
      have given : (s.named n cs refused).pool.offerBulk other (call.tasks s.offered cs.next) = _ :=
        tasks ▸ decided
      refine ⟨call.openChannel cs, refused, ?_, .inl ⟨?_, rfl⟩⟩
      · have heard := event?_named n call (.admitted t)
        simp only [Decision.named] at heard
        rw [offer_admitted given, offer_admitted result]
        simp [named, Decided.named, Decision.named, tasks, heard]
      · rw [offer_admitted result]
  | refused reason =>
      refine ⟨cs, _, refusal (by simp), .inr ⟨?_, rfl⟩⟩
      rw [offer_turnedDown (by simp) result]
  | foreign =>
      refine ⟨cs, _, refusal (by simp), .inr ⟨?_, rfl⟩⟩
      rw [offer_turnedDown (by simp) result]

end State

end Interleaving

end Pool

end WorkerPool
