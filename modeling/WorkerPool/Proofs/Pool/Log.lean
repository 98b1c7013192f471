import WorkerPool.Proofs.Event
import WorkerPool.Proofs.Pool.Statistics

namespace WorkerPool.Pool.Interleaving

variable {β ρ : Type} {settings : PoolSettings} {queueId : Nat}

open Event (numbers numbers_append numbers_singleton refusals refusals_append)

inductive Written (s : State β ρ) : Action β ρ → Stats → Signal → List Event → Prop
  | nothing (a : Action β ρ) (other : ∀ i, a ≠ .check i) : Written s a s.pool.stats s.pool.signal []
  | selfJoin (i : Nat) : Written s (.selfJoin i) s.pool.stats s.pool.signal [.selfJoin]
  | tellFallen (fallen : List (Nat × Payload)) :
      Written s .takeLeftovers s.pool.stats s.pool.signal
        (fallen.map fun (i, payload) => .workerFailed i payload.message)
  | accept (k : Nat) (offer : Decided) (token : Option ProducerToken)
      (pending : s.decided[k]? = some offer) (admitted : offer.decision = .admitted token) :
      Written s (.tally k) (s.pool.stats.schedule offer.tasks) s.pool.signal []
  | reject (k : Nat) (offer : Decided) (pending : s.decided[k]? = some offer)
      (refused : ∀ token, offer.decision ≠ .admitted token) :
      Written s (.tally k) (s.pool.stats.reject offer.tasks) s.pool.signal offer.event.toList
  | panic (i : Nat) (message : String) :
      Written s (.report i) s.pool.stats.panic s.pool.signal [.taskPanicked i message]
  | execute (i : Nat) : Written s (.count i) s.pool.stats.execute s.pool.signal []
  | stay (i : Nat) (w : Worker (Numbered β)) (here : s.pool.worker? i = some w)
      (stays : (w.check s.pool.signal.raised s.pool.settings.stopPolicy).hasExited = false) :
      Written s (.check i) s.pool.stats s.pool.signal []
  | leave (i : Nat) (w : Worker (Numbered β)) (here : s.pool.worker? i = some w)
      (leaves : (w.check s.pool.signal.raised s.pool.settings.stopPolicy).hasExited = true) :
      Written s (.check i) s.pool.stats s.pool.signal [.workerStopped i w.token.dequeued]
  | raise (first : s.pool.signal.raised = false) :
      Written s .raise s.pool.stats ⟨true⟩ [.poolStopping s.pool.queue.length]
  | abandon (k : Nat) (leftovers : List (Task β)) :
      Written s (.countLeftovers k) (s.pool.stats.abandon leftovers.length) s.pool.signal
        [.leftoversDropped leftovers.length]

theorem Step.written {s t : State β ρ} {a : Action β ρ} (step : Step s a t) :
    ∃ added, t.pool.events = s.pool.events ++ added ∧
      Written s a t.pool.stats t.pool.signal added := by
  have silent {t : State β ρ} (other : ∀ i, a ≠ .check i) (events : t.pool.events = s.pool.events)
      (stats : t.pool.stats = s.pool.stats) (signal : t.pool.signal = s.pool.signal) :
      ∃ added, t.pool.events = s.pool.events ++ added ∧
        Written s a t.pool.stats t.pool.signal added := by
    refine ⟨[], by rw [events, List.append_nil], ?_⟩
    rw [stats, signal]
    exact .nothing a other
  cases step with
  | offer token call =>
      rcases s.offer_cases token call with ⟨_, _, _, result⟩ | ⟨_, _, result⟩
      all_goals
        rw [result]
        exact silent (by simp) rfl rfl rfl
  | tally k offer pending =>
      cases decision : offer.decision with
      | admitted token =>
          simp only [State.tally, Pool.tally, decision]
          exact ⟨[], (List.append_nil _).symm, .accept k offer token pending decision⟩
      | refused | foreign =>
          simp only [State.tally, Pool.tally, decision]
          exact ⟨_, rfl, .reject k offer pending (by simp [decision])⟩
  | report i w outcome here post =>
      simp only [State.report, countPanic]
      split
      · exact ⟨_, rfl, .panic i _⟩
      · exact silent (by simp) rfl rfl rfl
  | count i w task here head post =>
      have current : s.pool.current? i = some task := by rw [s.pool.current?_eq here, head]
      rw [State.count, s.pool.countTask_eq i task current]
      exact ⟨[], (List.append_nil _).symm, .execute i⟩
  | check i n w here stage done post =>
      have running : w.hasExited = false := by simp [Worker.hasExited, stage]
      cases leaves : (w.check s.pool.signal.raised s.pool.settings.stopPolicy).hasExited with
      | true =>
          simp only [State.check, Pool.check, here, leaves, running]
          exact ⟨_, rfl, .leave i w here leaves⟩
      | false =>
          simp only [State.check, Pool.check, here, leaves]
          exact ⟨[], (List.append_nil _).symm, .stay i w here leaves⟩
  | raise closed =>
      cases raised : s.pool.signal.raised with
      | true =>
          have same : (⟨true⟩ : Signal) = s.pool.signal := by rw [← raised]
          simp only [State.raise, trigger, Signal.trigger, raised, same]
          exact silent (by simp) rfl rfl rfl
      | false =>
          simp only [State.raise, trigger, Signal.trigger, raised]
          exact ⟨_, rfl, .raise raised⟩
  | countLeftovers k leftovers taken =>
      cases leftovers with
      | nil => exact silent (by simp) rfl rfl rfl
      | cons task rest => exact ⟨_, rfl, .abandon k (task :: rest)⟩
  | takeLeftovers => exact ⟨_, rfl, .tellFallen s.pool.fallen⟩
  | selfJoin i => exact ⟨_, rfl, .selfJoin i⟩
  | _ => exact silent (by simp) rfl rfl rfl

inductive Refuses : Event → Nat → Prop
  | task (reason : Queue.Refusal) : Refuses (.taskRejected reason) 1
  | bulk (reason : Queue.Refusal) (count : Nat) : Refuses (.bulkRejected reason count) count
  | foreignTask : Refuses .taskForeign 1
  | foreignBulk (count : Nat) : Refuses (.bulkForeign count) count

/-- A refusal is reported for as many tasks as were refused. -/
def Decided.Told (offer : Decided) : Prop :=
  (∀ token, offer.decision ≠ .admitted token) →
    ∃ event, offer.event = some event ∧ Refuses event offer.tasks

theorem Submission.told (call : Submission β) (first channel : Nat) (decision : Decision) :
    Decided.Told ⟨(call.tasks first channel).length, call.event? decision, decision⟩ := by
  intro refused
  cases decision with
  | admitted token => exact absurd rfl (refused token)
  | refused reason =>
      cases call with
      | schedule | forget => exact ⟨_, rfl, .task reason⟩
      | bulk bodies => exact ⟨_, rfl, by rw [tasks, bulkTasks_length]; exact .bulk reason _⟩
  | foreign =>
      cases call with
      | schedule | forget => exact ⟨_, rfl, .foreignTask⟩
      | bulk bodies => exact ⟨_, rfl, by rw [tasks, bulkTasks_length]; exact .foreignBulk _⟩

theorem Reachable.told {s : State β ρ} (reached : Reachable settings queueId s) :
    ∀ offer ∈ s.decided, offer.Told := by
  apply reached.invariant (P := fun s => ∀ offer ∈ s.decided, offer.Told)
  · intro offer member
    cases member
  · intro s a t _ step before
    have others := step.offers_eq
    cases step with
    | offer token call =>
        have told := call.told s.offered s.channels.next
        rcases s.offer_cases token call with ⟨_, _, _, result⟩ | ⟨_, _, result⟩
        all_goals
          rw [result, List.forall_mem_append, List.forall_mem_singleton]
          exact ⟨before, told _⟩
    | tally k offer pending =>
        intro other member
        exact before other (List.mem_of_mem_eraseIdx member)
    | _ =>
        rw [(others (by simp) (by simp)).1]
        exact before

structure Records (log : List Event) (stats : Stats) (signal : Signal) : Prop where
  rejected : refusals log = stats.rejected
  panicked : (numbers "detached task panicked" log).length = stats.panicked
  abandoned : (numbers "dropping tasks left in the queue at shutdown" log).sum = stats.abandoned
  stopping : (numbers "thread pool stopping" log).length = signal.raised.toNat

theorem Refuses.tells {event : Event} {count : Nat} (refuses : Refuses event count) :
    refusals [event] = count ∧
      numbers "detached task panicked" [event] = [] ∧
      numbers "dropping tasks left in the queue at shutdown" [event] = [] ∧
      numbers "thread pool stopping" [event] = [] ∧
      numbers "worker shutting down" [event] = [] := by
  cases refuses <;> simp [refusals, numbers_singleton, Event.message, Event.number]

theorem numbers_failed (message : String) (fallen : List (Nat × Payload))
    (other : message ≠ "worker thread terminated abnormally") :
    numbers message (fallen.map fun (i, payload) => .workerFailed i payload.message) = [] := by
  apply Event.numbers_eq_nil
  intro e member same
  obtain ⟨_, _, rfl⟩ := List.mem_map.mp member
  exact other same.symm

theorem Written.records {s : State β ρ} {a : Action β ρ} {stats : Stats} {signal : Signal}
    {added : List Event} (written : Written s a stats signal added)
    (told : ∀ offer ∈ s.decided, offer.Told)
    (before : Records s.pool.events s.pool.stats s.pool.signal) :
    Records (s.pool.events ++ added) stats signal := by
  obtain ⟨rejected, panicked, abandoned, stopping⟩ := before
  cases written with
  | nothing | accept | execute | stay =>
      rw [List.append_nil]
      exact ⟨rejected, panicked, abandoned, stopping⟩
  | reject k offer pending refused =>
      obtain ⟨event, report, refuses⟩ := told offer (List.mem_of_getElem? pending) refused
      obtain ⟨count, noPanic, noDrop, noStop, _⟩ := refuses.tells
      rw [report, Option.toList_some]
      constructor
      · rw [refusals_append, count, rejected, Stats.reject]
      · rwa [numbers_append, noPanic, List.append_nil]
      · rwa [numbers_append, noDrop, List.append_nil]
      · rwa [numbers_append, noStop, List.append_nil]
  | tellFallen fallen =>
      have none := fun message other => numbers_failed message fallen other
      constructor
      · rw [refusals_append, rejected, refusals, none _ (by decide), none _ (by decide),
          none _ (by decide), none _ (by decide)]
        rfl
      · rwa [numbers_append, none _ (by decide), List.append_nil]
      · rwa [numbers_append, none _ (by decide), List.append_nil]
      · rwa [numbers_append, none _ (by decide), List.append_nil]
  | selfJoin | leave | panic | raise | abandon =>
      constructor <;>
        simp_all [refusals, numbers_singleton, Event.message, Event.number, Stats.panic,
          Stats.abandon]

theorem numbers_start (message : String) (pool : message ≠ "thread pool started")
    (worker : message ≠ "worker started") :
    numbers message (State.start settings queueId : State β ρ).pool.events = [] := by
  apply Event.numbers_eq_nil
  intro e member same
  rcases List.mem_cons.mp member with rfl | member
  · exact pool same.symm
  · split at member
    · obtain ⟨i, _, rfl⟩ := List.mem_map.mp member
      exact worker same.symm
    · cases member

theorem Reachable.records {s : State β ρ} (reached : Reachable settings queueId s) :
    Records s.pool.events s.pool.stats s.pool.signal := by
  apply reached.invariant (P := fun s => Records s.pool.events s.pool.stats s.pool.signal)
  · constructor
    · simp only [refusals, ne_eq, String.reduceEq, not_false_eq_true, numbers_start]
      rfl
    · rw [numbers_start _ (by decide) (by decide)]
      rfl
    · rw [numbers_start _ (by decide) (by decide)]
      rfl
    · rw [numbers_start _ (by decide) (by decide)]
      rfl
  · intro s a t reached step before
    obtain ⟨added, events, written⟩ := step.written
    rw [events]
    exact written.records reached.told before

def dequeued (w : Worker (Numbered β)) (_ : Post ρ) : Nat := w.token.dequeued

def retired (w : Worker (Numbered β)) (_ : Post ρ) : Nat :=
  if w.hasExited then w.token.dequeued else 0

theorem check_token (w : Worker (Numbered β)) (raised : Bool) (policy : StopPolicy) :
    (w.check raised policy).token = w.token := by
  unfold Worker.check
  split
  · split
    · rfl
    · split
      · rfl
      · cases policy <;> rfl
  · rfl

theorem State.total_start (measure : Worker (Numbered β) → Post ρ → Nat)
    (fresh : ∀ i stage, measure { id := i, token := { queueId }, stage } .idle = 0) :
    (State.start settings queueId : State β ρ).total measure = 0 := by
  apply Finset.sum_eq_zero
  intro i _
  unfold State.leftTo
  split
  · next w here =>
      obtain ⟨id, _, rfl⟩ := List.mem_map.mp (List.mem_of_getElem? here)
      exact fresh id _
  · rfl

theorem Stride.token_eq {s : State β ρ} {i : Nat} {a : Action β ρ} {w w' : Worker (Numbered β)}
    {post post' : Post ρ} (stride : Stride s i a w post w' post') (fetches : a ≠ .fetch i) :
    w'.token = w.token := by
  cases stride with
  | elsewhere | enter | begin | finish | report | count => rfl
  | fetch => exact absurd rfl fetches
  | check => exact check_token _ _ _

theorem Stride.retired_eq {s : State β ρ} {i : Nat} {a : Action β ρ} {w w' : Worker (Numbered β)}
    {post post' : Post ρ} (stride : Stride s i a w post w' post') (coherent : Coherent w post)
    (checks : a ≠ .check i) : retired w' post' = retired w post := by
  cases stride with
  | elsewhere | enter | begin | finish | report | count => rfl
  | fetch => simp [retired, Worker.hasExited, coherent.1]
  | check => exact absurd rfl checks

theorem Step.total_eq {s t : State β ρ} {a : Action β ρ} (step : Step s a t)
    (measure : Worker (Numbered β) → Post ρ → Nat)
    (same : ∀ i w w' post', s.pool.worker? i = some w → Stride s i a w (s.posts i) w' post' →
      measure w' post' = measure w (s.posts i)) : t.total measure = s.total measure := by
  rcases step.workers with ⟨_, workers, posts⟩ | ⟨i, w, f, post, one⟩
  · exact s.total_congr measure workers posts
  · have modified := State.total_modify one.here one.workers one.posts measure
    rw [same i w (f w) post one.here one.stride] at modified
    exact Nat.add_right_cancel modified

theorem Step.batches_eq {s t : State β ρ} {a : Action β ρ} (step : Step s a t)
    (fetches : ∀ i, a ≠ .fetch i) : t.batches = s.batches := by
  cases step with
  | offer token call =>
      rcases s.offer_cases token call with ⟨_, _, _, result⟩ | ⟨_, _, result⟩ <;> rw [result]
  | fetch i => exact absurd rfl (fetches i)
  | _ => rfl

theorem Step.dequeued_eq {s t : State β ρ} {a : Action β ρ} (step : Step s a t)
    (fetches : ∀ i, a ≠ .fetch i) : t.total dequeued = s.total dequeued := by
  apply step.total_eq
  intro i w w' post' _ stride
  exact congrArg ConsumerToken.dequeued (stride.token_eq (fetches i))

theorem Step.retired_eq {s t : State β ρ} {a : Action β ρ} (reached : Reachable settings queueId s)
    (step : Step s a t) (checks : ∀ i, a ≠ .check i) : t.total retired = s.total retired := by
  apply step.total_eq
  intro i w w' post' here stride
  exact stride.retired_eq (reached.coherent i w here) (checks i)

theorem Reachable.dequeued_eq {s : State β ρ} (reached : Reachable settings queueId s) :
    s.total dequeued = (s.batches.flatMap Prod.snd).length := by
  apply reached.invariant (P := fun s => s.total dequeued = (s.batches.flatMap Prod.snd).length)
  · exact State.total_start dequeued fun _ _ => rfl
  · intro s a t _ step before
    have tokens := step.dequeued_eq
    have batches := step.batches_eq
    cases step with
    | fetch i w here post =>
        let batch := s.pool.queue.items.take s.pool.settings.batchSize
        have modified := State.total_modify (t := s.fetch i) here rfl rfl dequeued
        change _ + w.token.dequeued = _ + (w.token.dequeued + batch.length) at modified
        have fetched : (s.fetch i).batches.flatMap Prod.snd =
            s.batches.flatMap Prod.snd ++ batch := by
          simp [State.fetch, Queue.fetch, batch]
        rw [fetched, List.length_append]
        omega
    | _ =>
        rw [batches (by simp), tokens (by simp)]
        exact before

theorem Written.retires {s : State β ρ} {a : Action β ρ} {stats : Stats} {signal : Signal}
    {added : List Event} (written : Written s a stats signal added)
    (told : ∀ offer ∈ s.decided, offer.Told) :
    ((∀ i, a ≠ .check i) ∧ numbers "worker shutting down" added = []) ∨
      ∃ i w, a = .check i ∧ s.pool.worker? i = some w ∧
        (numbers "worker shutting down" added).sum =
          retired (w.check s.pool.signal.raised s.pool.settings.stopPolicy) (s.posts i) := by
  cases written with
  | stay i w here stays => exact .inr ⟨i, w, rfl, here, by simp [retired, stays]⟩
  | leave i w here leaves =>
      refine .inr ⟨i, w, rfl, here, ?_⟩
      simp [retired, leaves, check_token, numbers_singleton, Event.message, Event.number]
  | nothing a other => exact .inl ⟨other, rfl⟩
  | reject k offer pending refused =>
      obtain ⟨event, report, refuses⟩ := told offer (List.mem_of_getElem? pending) refused
      rw [report]
      exact .inl ⟨by simp, refuses.tells.2.2.2.2⟩
  | accept | execute => exact .inl ⟨by simp, rfl⟩
  | tellFallen fallen => exact .inl ⟨by simp, numbers_failed _ fallen (by decide)⟩
  | selfJoin | panic | raise | abandon =>
      exact .inl ⟨by simp, by simp [numbers_singleton, Event.message]⟩

theorem Reachable.retired_eq {s : State β ρ} (reached : Reachable settings queueId s) :
    (Event.numbers "worker shutting down" s.pool.events).sum = s.total retired := by
  apply reached.invariant
    (P := fun s => (Event.numbers "worker shutting down" s.pool.events).sum = s.total retired)
  · rw [numbers_start _ (by decide) (by decide), State.total_start retired fun _ _ => ite_self 0]
    rfl
  · intro s a t reached step before
    obtain ⟨added, events, written⟩ := step.written
    rw [events, Event.numbers_append, List.sum_append, before]
    rcases written.retires reached.told with ⟨other, none⟩ | ⟨i, w, rfl, here, sum⟩
    · rw [none, step.retired_eq reached other]
      rfl
    · cases step with
      | check i n v there stage done post =>
          cases here.symm.trans there
          obtain ⟨_, result⟩ := s.pool.check_eq i w here
          have workers : (s.check i).pool.workers = s.pool.workers.modify i
              fun _ => w.check s.pool.signal.raised s.pool.settings.stopPolicy := by
            rw [State.check, result]
          have modified := State.total_modify here workers (Function.update_eq_self i s.posts).symm
            retired
          have running : retired w (s.posts i) = 0 := by simp [retired, Worker.hasExited, stage]
          rw [running, Nat.add_zero] at modified
          rw [modified, sum]

/-- The end of a run: the workers have left, a join has returned, a stop was made, and no call is
between a counter and its line. -/
structure Finished (s : State β ρ) : Prop where
  exited : s.pool.allExited = true
  returned : 0 < s.returned
  closed : s.pool.queue.closed = true
  stopping : s.stopping = 0
  decided : s.decided = []
  joining : s.joining = []

/-- What the log of a pool tells at the end of its run. -/
structure LogAgrees (s : State β ρ) : Prop where
  executed : (numbers "worker shutting down" s.pool.events).sum = s.pool.stats.executed
  rejected : refusals s.pool.events = s.pool.stats.rejected
  panicked : (numbers "detached task panicked" s.pool.events).length = s.pool.stats.panicked
  abandoned : (numbers "dropping tasks left in the queue at shutdown" s.pool.events).sum =
    s.pool.stats.abandoned
  stopping : (numbers "thread pool stopping" s.pool.events).length = 1

theorem State.retired_of_allExited {s : State β ρ} (exited : s.pool.allExited = true) :
    s.total retired = s.total dequeued := by
  apply Finset.sum_congr rfl
  intro i _
  cases here : s.pool.worker? i with
  | none => simp [State.leftTo, here]
  | some w =>
      have gone : w.hasExited = true := by
        rw [Worker.hasExited, (Pool.allExited_iff _).mp exited i w here]
        rfl
      simp [State.leftTo, here, retired, dequeued, gone]

theorem Reachable.logAgrees {s : State β ρ} (reached : Reachable settings queueId s)
    (finished : Finished s) : LogAgrees s := by
  obtain ⟨rejected, panicked, abandoned, stopping⟩ := reached.records
  have raised := reached.raised_of_closed finished.closed finished.stopping
  refine ⟨?_, rejected, panicked, abandoned, by rw [stopping, raised]; rfl⟩
  calc
    (Event.numbers "worker shutting down" s.pool.events).sum = s.total retired := reached.retired_eq
    _ = s.total dequeued := State.retired_of_allExited finished.exited
    _ = (s.batches.flatMap Prod.snd).length := reached.dequeued_eq
    _ = s.pool.stats.executed := (reached.executed_of_allExited finished.exited).symm

end WorkerPool.Pool.Interleaving
