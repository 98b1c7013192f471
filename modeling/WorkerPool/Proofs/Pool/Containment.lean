import WorkerPool.Proofs.Pool.Resolution
import WorkerPool.Proofs.Pool.Unwinding

namespace WorkerPool.Pool.Interleaving

variable {β ρ : Type} {settings : PoolSettings} {queueId : Nat}

def Amended (extra : List Event) (p q : Pool (Numbered β)) : Prop :=
  ∃ front back, p.events = front ++ back ∧ q = { p with
    stats := { p.stats with panicked := p.stats.panicked + extra.length }
    events := front ++ extra ++ back }

namespace Amended

variable {extra : List Event} {p q : Pool (Numbered β)}

theorem refl (p : Pool (Numbered β)) : Amended [] p p :=
  ⟨p.events, [], by simp, by simp⟩

theorem eq_of_nil (amended : Amended [] p q) : q = p := by
  obtain ⟨front, back, log, rfl⟩ := amended
  simp [← log]

theorem same (amended : Amended extra p q) : q.settings = p.settings ∧ q.queue = p.queue ∧
    q.signal = p.signal ∧ q.workers = p.workers := by
  obtain ⟨front, back, log, rfl⟩ := amended
  exact ⟨rfl, rfl, rfl, rfl⟩

theorem emit (amended : Amended extra p q) (e : Event) : Amended extra (p.emit e) (q.emit e) := by
  obtain ⟨front, back, log, rfl⟩ := amended
  exact ⟨front, back ++ [e], by simp [Pool.emit, log], by simp [Pool.emit]⟩

theorem offerBulk (amended : Amended extra p q) (token : Option ProducerToken)
    (tasks : List (Task β)) :
    (q.offerBulk token tasks).1 = (p.offerBulk token tasks).1 ∧
      Amended extra (p.offerBulk token tasks).2 (q.offerBulk token tasks).2 := by
  obtain ⟨front, back, log, rfl⟩ := amended
  unfold Pool.offerBulk Pool.accepts
  dsimp only
  split
  · split
    · exact ⟨rfl, front, back, log, rfl⟩
    · exact ⟨rfl, front, back, log, rfl⟩
  · exact ⟨rfl, front, back, log, rfl⟩

theorem tally (amended : Amended extra p q) (tasks : Nat) (event : Option Event)
    (decision : Decision) :
    Amended extra (p.tally tasks event decision) (q.tally tasks event decision) := by
  obtain ⟨front, back, log, rfl⟩ := amended
  cases decision with
  | admitted token => exact ⟨front, back, log, rfl⟩
  | refused | foreign =>
      exact ⟨front, back ++ event.toList, by simp [Pool.tally, log],
        by simp [Pool.tally, Stats.reject]⟩

theorem fetch (amended : Amended extra p q) (i : Nat) : Amended extra (p.fetch i) (q.fetch i) := by
  obtain ⟨front, back, log, rfl⟩ := amended
  exact ⟨front, back, log, rfl⟩

theorem current?_eq (amended : Amended extra p q) (i : Nat) : q.current? i = p.current? i := by
  simp only [Pool.current?, Pool.worker?, amended.same.2.2.2]

theorem countPanic (amended : Amended extra p q) (i : Nat) (outcome : Outcome ρ) :
    Amended extra (p.countPanic i outcome) (q.countPanic i outcome) := by
  have current := amended.current?_eq i
  have counted :
      Amended extra { p with stats := p.stats.panic } { q with stats := q.stats.panic } := by
    obtain ⟨front, back, log, rfl⟩ := amended
    exact ⟨front, back, log, by simp [Stats.panic, Nat.add_right_comm]⟩
  unfold Pool.countPanic
  rw [current]
  split
  · exact counted.emit _
  · exact amended

theorem countTask (amended : Amended extra p q) (i : Nat) :
    Amended extra (p.countTask i) (q.countTask i) := by
  have current := amended.current?_eq i
  unfold Pool.countTask
  rw [current]
  split
  · obtain ⟨front, back, log, rfl⟩ := amended
    exact ⟨front, back, log, rfl⟩
  · exact amended

theorem modifyWorker (amended : Amended extra p q) (i : Nat)
    (f : Worker (Numbered β) → Worker (Numbered β)) :
    Amended extra (p.modifyWorker i f) (q.modifyWorker i f) := by
  obtain ⟨front, back, log, rfl⟩ := amended
  exact ⟨front, back, log, rfl⟩

theorem check (amended : Amended extra p q) (i : Nat) : Amended extra (p.check i) (q.check i) := by
  obtain ⟨settings, _, signal, workers⟩ := amended.same
  simp only [Pool.check, Pool.worker?, workers, settings, signal]
  split
  · split
    · exact (amended.modifyWorker i _).emit _
    · exact amended.modifyWorker i _
  · exact amended

theorem close (amended : Amended extra p q) : Amended extra p.close q.close := by
  obtain ⟨front, back, log, rfl⟩ := amended
  exact ⟨front, back, log, rfl⟩

theorem trigger (amended : Amended extra p q) : Amended extra p.trigger q.trigger := by
  have raised : Amended extra { p with signal := ⟨true⟩ } { q with signal := ⟨true⟩ } := by
    obtain ⟨front, back, log, rfl⟩ := amended
    exact ⟨front, back, log, rfl⟩
  obtain ⟨_, queue, signal, _⟩ := amended.same
  have length : q.queue.length = p.queue.length := by rw [queue]
  cases up : p.signal.raised with
  | true =>
      simp only [Pool.trigger, Signal.trigger, signal, up]
      exact raised
  | false =>
      simp only [Pool.trigger, Signal.trigger, signal, up, length]
      exact raised.emit _

theorem removeLeftovers (amended : Amended extra p q) :
    q.removeLeftovers.1 = p.removeLeftovers.1 ∧
      Amended extra p.removeLeftovers.2 q.removeLeftovers.2 := by
  obtain ⟨front, back, log, rfl⟩ := amended
  refine ⟨rfl, front,
    back ++ p.fallen.map fun fallen => .workerFailed fallen.1 fallen.2.message, ?_, ?_⟩
  · simp [Pool.removeLeftovers, Pool.tellFallen, log]
  · simp [Pool.removeLeftovers, Pool.tellFallen, Queue.drain]

theorem countLeftovers (amended : Amended extra p q) (leftovers : List (Task β)) :
    Amended extra (p.countLeftovers leftovers) (q.countLeftovers leftovers) := by
  have counted (n : Nat) :
      Amended extra { p with stats := p.stats.abandon n }
        { q with stats := q.stats.abandon n } := by
    obtain ⟨front, back, log, rfl⟩ := amended
    exact ⟨front, back, log, rfl⟩
  unfold Pool.countLeftovers
  split
  · exact amended
  · exact (counted _).emit _

end Amended

structure Differ (task : Task β) (value : ρ) (payload : Payload) (cs ds : Channels ρ) : Prop where
  next : ds.next = cs.next
  own : ∀ c, task.channel = some c → cs.slot c = .ready (.ok value) ∧
    ds.slot c = .ready (.error (.panicked payload.message))
  others : ∀ c, task.channel ≠ some c → ds.slot c = cs.slot c

namespace Differ

variable {task : Task β} {value : ρ} {payload : Payload} {cs ds : Channels ρ}

theorem keepPromise_both (known : ∀ c, task.channel = some c → c < cs.next) :
    Differ task value payload (Interleaving.keepPromise task (.returned value) cs)
      (Interleaving.keepPromise task (.panicked payload) cs) := by
  constructor
  · rw [keepPromise_next, keepPromise_next]
  · intro c channel
    rw [keepPromise_slot _ _ _ _ known, keepPromise_slot _ _ _ _ known, if_pos channel,
      if_pos channel]
    exact ⟨rfl, rfl⟩
  · intro c foreign
    rw [keepPromise_slot _ _ _ _ known, keepPromise_slot _ _ _ _ known, if_neg foreign,
      if_neg foreign]

theorem openChannel (differ : Differ task value payload cs ds) (call : Submission β) :
    Differ task value payload (call.openChannel cs) (call.openChannel ds) := by
  cases call with
  | forget | bulk => exact differ
  | schedule body =>
      constructor
      · simp [Submission.openChannel, differ.next]
      · intro c channel
        obtain ⟨mine, theirs⟩ := differ.own c channel
        have inside := cs.inside_of_slot (c := c) (by simp [mine])
        simp [Submission.openChannel, Channels.slot_create, differ.next, Nat.ne_of_lt inside, mine,
          theirs]
      · intro c other
        simp only [Submission.openChannel, Channels.slot_create, differ.next, differ.others c other]

theorem keepPromise (differ : Differ task value payload cs ds) (other : Task β)
    (outcome : Outcome ρ) (known : ∀ c, other.channel = some c → c < cs.next)
    (apart : ∀ c, task.channel = some c → other.channel ≠ some c) :
    Differ task value payload (keepPromise other outcome cs) (keepPromise other outcome ds) := by
  have slot := keepPromise_slot other outcome cs
  have slot' := keepPromise_slot other outcome ds
  constructor
  · rw [keepPromise_next, keepPromise_next, differ.next]
  · intro c channel
    rw [slot c known, slot' c (differ.next ▸ known), if_neg (apart c channel),
      if_neg (apart c channel)]
    exact differ.own c channel
  · intro c foreign
    rw [slot c known, slot' c (differ.next ▸ known), differ.others c foreign]

theorem dropTasks (differ : Differ task value payload cs ds) (leftovers : List (Task β)) :
    Differ task value payload (dropTasks leftovers cs) (dropTasks leftovers ds) := by
  constructor
  · rw [dropTasks_next, dropTasks_next, differ.next]
  · intro c channel
    obtain ⟨mine, theirs⟩ := differ.own c channel
    simp [dropTasks_slot, mine, theirs, Slot.abandon]
  · intro c foreign
    rw [dropTasks_slot, dropTasks_slot, differ.others c foreign]

theorem read (differ : Differ task value payload cs ds) (d : Nat) (unread : task.channel ≠ some d) :
    ds.slot d = cs.slot d ∧ Differ task value payload (cs.read d).2 (ds.read d).2 := by
  refine ⟨differ.others d unread, ?_, ?_, ?_⟩
  · rw [Channels.next_read, Channels.next_read, differ.next]
  · intro c channel
    have apart : c ≠ d := fun same => unread (same ▸ channel)
    rw [Channels.slot_read, Channels.slot_read, if_neg apart, if_neg apart]
    exact differ.own c channel
  · intro c foreign
    rw [Channels.slot_read, Channels.slot_read, differ.others c foreign]

end Differ

def news (i : Nat) (task : Task β) (payload : Payload) : List Event :=
  match task.channel with
  | some _ => []
  | none => [.taskPanicked i payload.message]

inductive Heard (i : Nat) (task : Task β) (value : ρ) (payload : Payload) (p : Pool (Numbered β))
    (posts : Nat → Post ρ) : (Nat → Post ρ) → List Event → Prop
  | waiting (post : posts i = .ended (.returned value)) (current : p.current? i = some task) :
      Heard i task value payload p posts
        (Function.update posts i (.ended (.panicked payload))) []
  | passed : Heard i task value payload p posts posts (news i task payload)

/-- What the two runs have in common at one moment, and in what they differ. -/
inductive Contained (i : Nat) (task : Task β) (value : ρ) (payload : Payload) (s : State β ρ) :
    State β ρ → Prop
  | intro (pool : Pool (Numbered β)) (channels : Channels ρ) (posts : Nat → Post ρ)
      (past later : List (Ran β ρ)) (extra : List Event) (amended : Amended extra s.pool pool)
      (heard : Heard i task value payload s.pool s.posts posts extra)
      (differ : Differ task value payload s.channels channels)
      (ran : s.ran = past ++ ⟨i, task, .returned value⟩ :: later) :
      Contained i task value payload s
        { s with
          pool, channels, posts
          ran := past ++ ⟨i, task, .panicked payload⟩ :: later }

namespace Heard

variable {i j : Nat} {task : Task β} {value : ρ} {payload : Payload} {p q : Pool (Numbered β)}
  {posts posts' : Nat → Post ρ} {extra : List Event}

theorem congr (heard : Heard i task value payload p posts posts' extra)
    (workers : q.workers = p.workers) : Heard i task value payload q posts posts' extra := by
  cases heard with
  | waiting post current =>
      exact .waiting post (by rwa [Pool.current?, Pool.worker?, workers])
  | passed => exact .passed

theorem move (heard : Heard i task value payload p posts posts' extra)
    {f : Worker (Numbered β) → Worker (Numbered β)} (workers : q.workers = p.workers.modify j f)
    {before : Post ρ} (post : posts j = before)
    (silent : j = i → ∀ outcome, before ≠ .ended outcome) :
    posts' j = before ∧ ∀ after, Heard i task value payload q (Function.update posts j after)
      (Function.update posts' j after) extra := by
  cases heard with
  | passed => exact ⟨post, fun _ => .passed⟩
  | waiting mine current =>
      have apart : j ≠ i := by
        intro same
        exact silent same _ (post.symm.trans (same ▸ mine))
      refine ⟨by rwa [Function.update_of_ne apart], fun after => ?_⟩
      rw [Function.update_comm apart.symm]
      refine .waiting (by rwa [Function.update_of_ne apart.symm]) ?_
      simpa [Pool.current?, Pool.worker?, workers, apart] using current

end Heard

theorem countPanic_returned (p : Pool (Numbered β)) (i : Nat) (value : ρ) :
    p.countPanic i (.returned value) = p := by
  unfold Pool.countPanic
  cases p.current? i with
  | none => rfl
  | some task => simp [task.run_ending]

theorem Amended.news (p : Pool (Numbered β)) {i : Nat} {task : Task β}
    (current : p.current? i = some task) (payload : Payload) :
    Amended (news i task payload) p (p.countPanic i (.panicked payload : Outcome ρ)) := by
  cases channel : task.channel with
  | some c =>
      simpa [Interleaving.news, Pool.countPanic, current, task.run_ending, channel]
        using Amended.refl p
  | none =>
      refine ⟨p.events, [], by simp, ?_⟩
      simp [Interleaving.news, Pool.countPanic, current, task.run_ending, channel, Pool.emit,
        Stats.panic, Thrown.message, Thrown.payload]

namespace Contained

variable {s u : State β ρ} {i : Nat} {task : Task β} {value : ρ} {payload : Payload}

theorem offer (contained : Contained i task value payload s u) (token : Option ProducerToken)
    (call : Submission β) :
    ∃ v, Step u (.offer token call) v ∧
      Contained i task value payload (s.offer token call) v := by
  obtain ⟨pool, channels, posts, past, later, extra, amended, heard, differ, ran⟩ := contained
  obtain ⟨decision, offered⟩ := amended.offerBulk token (call.tasks s.offered s.channels.next)
  have unmoved := (s.offer_workers token call).1
  refine ⟨_, .offer _ token call, ?_⟩
  simp only [State.offer, call.offer_eq, differ.next] at unmoved ⊢
  rw [decision]
  cases answer : (s.pool.offerBulk token (call.tasks s.offered s.channels.next)).1 with
  | admitted token' =>
      simp only [answer] at unmoved ⊢
      exact .intro _ _ _ past later extra offered (heard.congr unmoved)
        (differ.openChannel call) ran
  | refused | foreign =>
      simp only [answer] at unmoved ⊢
      exact .intro _ _ _ past later extra offered (heard.congr unmoved) differ ran

theorem finish (reached : Reachable settings queueId s)
    (contained : Contained i task value payload s u) {j : Nat} {w : Worker (Numbered β)}
    {other : Task β} (outcome : Outcome ρ) (here : s.pool.worker? j = some w)
    (current : w.batch.head? = some other) (post : s.posts j = .busy) :
    ∃ v, Step u (.finish j outcome) v ∧
      Contained i task value payload (s.finish j other outcome) v := by
  obtain ⟨pool, channels, posts, past, later, extra, amended, heard, differ, ran⟩ := contained
  have running := s.unsettled_of_busy here current post
  have there : s.pool.current? j = some other := by rw [s.pool.current?_eq here, current]
  have there' : pool.current? j = some other := by rw [amended.current?_eq, there]
  have pending := reached.resolved.unsettled other running
  have apart : ∀ c, task.channel = some c → other.channel ≠ some c := by
    intro c mine theirs
    have ready := (differ.own c mine).1
    cases ready.symm.trans (pending c theirs)
  have known : ∀ c, other.channel = some c → c < s.channels.next := by
    intro c theirs
    exact reached.owned.inside_of_unsettled running theirs
  have settled := differ.keepPromise other outcome known apart
  rw [← settleTask_eq s.pool there, ← settleTask_eq pool there'] at settled
  obtain ⟨post', moved⟩ := heard.move (q := s.pool) (f := id) (by simp) post fun _ => by simp
  have worker : pool.worker? j = some w := by rwa [Pool.worker?, amended.same.2.2.2]
  refine ⟨_, .finish _ j w other outcome worker current post', ?_⟩
  have longer (first : Ran β ρ) : past ++ first :: later ++ [Ran.mk j other outcome] =
      past ++ first :: (later ++ [Ran.mk j other outcome]) := by
    rw [List.append_assoc, List.cons_append]
  simp only [State.finish, longer]
  exact .intro _ _ _ past _ extra amended (moved _) settled (by rw [← longer, ← ran])

theorem report (contained : Contained i task value payload s u) {j : Nat}
    {w : Worker (Numbered β)} {outcome : Outcome ρ} (here : s.pool.worker? j = some w)
    (post : s.posts j = .ended outcome) :
    ∃ v, Step u (.report j) v ∧ Contained i task value payload (s.report j outcome) v := by
  obtain ⟨pool, channels, posts, past, later, extra, amended, heard, differ, ran⟩ := contained
  have reported := amended.countPanic j outcome
  obtain ⟨_, _, counted⟩ := s.pool.countPanic_eq j outcome
  have kept : (s.pool.countPanic j outcome).workers = s.pool.workers := by rw [counted]
  have there : pool.worker? j = some w := by rwa [Pool.worker?, amended.same.2.2.2]
  -- The report of the task's own end is the one step that is not the same in both.
  cases heard with
  | passed =>
      exact ⟨_, .report _ j w outcome there post,
        .intro _ _ _ past later _ reported .passed differ ran⟩
  | waiting mine current =>
      by_cases same : j = i
      · subst same
        cases post.symm.trans mine
        refine ⟨_, .report _ j w (.panicked payload) there (Function.update_self ..), ?_⟩
        cases amended.eq_of_nil
        have nothing := countPanic_returned s.pool j value
        simp only [State.report, State.stand, nothing, Function.update_idem]
        exact .intro _ _ _ past later _ (.news s.pool current payload) .passed differ ran
      · obtain ⟨post', moved⟩ := (Heard.waiting mine current).move
          (q := s.pool.countPanic j outcome) (f := id) (by simp [kept]) post
          (fun mine => absurd mine same)
        exact ⟨_, .report _ j w outcome there post',
          .intro _ _ _ past later _ reported (moved _) differ ran⟩

theorem takeLeftovers (contained : Contained i task value payload s u)
    (held : s.awaiting = true) (exited : s.pool.allExited = true) :
    ∃ v, Step u .takeLeftovers v ∧ Contained i task value payload s.takeLeftovers v := by
  obtain ⟨pool, channels, posts, past, later, extra, amended, heard, differ, ran⟩ := contained
  obtain ⟨left, removed⟩ := amended.removeLeftovers
  have ⟨_, queue, _, workers⟩ := amended.same
  have gone : pool.allExited = true := by rwa [Pool.allExited, workers]
  refine ⟨_, .takeLeftovers _ held gone, ?_⟩
  change Contained i task value payload s.takeLeftovers
    { s with
      pool := pool.removeLeftovers.2
      channels, posts
      ran := past ++ ⟨i, task, .panicked payload⟩ :: later
      awaiting := false
      joining := s.joining ++ [{ tasks := pool.removeLeftovers.1 }]
      removed := s.removed ++ pool.removeLeftovers.1
      early := if pool.queue.closed then s.early else s.early + 1 }
  rw [left, queue]
  exact .intro _ _ _ past later extra removed (heard.congr rfl) differ ran

end Contained

theorem Step.contained {s t u : State β ρ} {a : Action β ρ} {i : Nat} {task : Task β} {value : ρ}
    {payload : Payload} (reached : Reachable settings queueId s) (step : Step s a t)
    (contained : Contained i task value payload s u)
    (unread : ∀ c, task.channel = some c → a ≠ .read c) :
    ∃ v, Step u a v ∧ Contained i task value payload t v := by
  have both := contained
  obtain ⟨pool, channels, posts, past, later, extra, amended, heard, differ, ran⟩ := contained
  obtain ⟨settings_eq, queue, signal, workers⟩ := amended.same
  cases step with
  | offer token call => exact both.offer token call
  | tally k offer pending =>
      have tallied := amended.tally offer.tasks offer.event offer.decision
      obtain ⟨_, _, _, result⟩ := s.pool.tally_eq offer.tasks offer.event offer.decision
      exact ⟨_, .tally _ k offer pending,
        .intro _ _ _ past later extra tallied (heard.congr (by rw [State.tally, result])) differ
          ran⟩
  | enter j w here stage post =>
      obtain ⟨post', moved⟩ := heard.move (q := s.pool) (f := id) (by simp) post fun _ => by simp
      refine ⟨_, .enter _ j w (by rwa [Pool.worker?, workers]) stage post', ?_⟩
      exact .intro _ _ _ past later extra amended (moved _) differ ran
  | fetch j w here post =>
      obtain ⟨post', moved⟩ := heard.move (q := s.pool.fetch j) rfl post fun _ => by simp
      refine ⟨_, .fetch _ j w (by rwa [Pool.worker?, workers]) post', ?_⟩
      simp only [State.fetch, queue, settings_eq]
      exact .intro _ _ _ past later extra (amended.fetch j) (moved _) differ ran
  | begin j n w here stage more post =>
      obtain ⟨post', moved⟩ := heard.move (q := s.pool) (f := id) (by simp) post fun _ => by simp
      refine ⟨_, .begin _ j n w (by rwa [Pool.worker?, workers]) stage more post', ?_⟩
      exact .intro _ _ _ past later extra amended (moved _) differ ran
  | finish j w other outcome here current post =>
      exact both.finish reached outcome here current post
  | report j w outcome here post => exact both.report here post
  | count j w other here current post =>
      have counted := s.pool.countTask_eq j other (by rw [s.pool.current?_eq here, current])
      obtain ⟨post', moved⟩ := heard.move (q := s.pool.countTask j) (by rw [counted]) post
        fun _ => by simp
      refine ⟨_, .count _ j w other (by rwa [Pool.worker?, workers]) current post', ?_⟩
      exact .intro _ _ _ past later extra (amended.countTask j) (moved _) differ ran
  | check j n w here stage done post =>
      obtain ⟨_, checked⟩ := s.pool.check_eq j w here
      obtain ⟨post', moved⟩ := heard.move (q := s.pool.check j) (by rw [checked]) post
        fun _ => by simp
      refine ⟨_, .check _ j n w (by rwa [Pool.worker?, workers]) stage done post', ?_⟩
      have same := moved .idle
      rw [← post, Function.update_eq_self, post, ← post', Function.update_eq_self] at same
      exact .intro _ _ _ past later extra (amended.check j) same differ ran
  | close =>
      exact ⟨_, .close _,
        .intro _ _ _ past later extra amended.close (heard.congr rfl) differ ran⟩
  | raise closed =>
      obtain ⟨_, result⟩ := s.pool.trigger_eq
      exact ⟨_, .raise _ closed, .intro _ _ _ past later extra amended.trigger
        (heard.congr (by rw [State.raise, result])) differ ran⟩
  | await free =>
      exact ⟨_, .await _ free, .intro _ _ _ past later extra amended heard differ ran⟩
  | takeLeftovers held exited => exact both.takeLeftovers held exited
  | countLeftovers k leftovers taken =>
      obtain ⟨_, result⟩ := s.pool.countLeftovers_eq leftovers
      exact ⟨_, .countLeftovers _ k leftovers taken, .intro _ _ _ past later extra
        (amended.countLeftovers leftovers) (heard.congr (by rw [State.countLeftovers, result]))
        differ ran⟩
  | dropLeftovers k leftovers counted =>
      exact ⟨_, .dropLeftovers _ k leftovers counted,
        .intro _ _ _ past later extra amended heard (differ.dropTasks leftovers) ran⟩
  | selfJoin j n w here stage =>
      exact ⟨_, .selfJoin _ j n w (by rwa [Pool.worker?, workers]) stage,
        .intro _ _ _ past later extra (amended.emit _) (heard.congr rfl) differ ran⟩
  | read c =>
      obtain ⟨slot, read⟩ := differ.read c fun mine => unread c mine rfl
      refine ⟨_, .read _ c, ?_⟩
      simp only [State.read, slot]
      exact .intro _ _ _ past later extra amended heard read ran

theorem Step.unique {s t u : State β ρ} {a : Action β ρ} (first : Step s a t)
    (second : Step s a u) : t = u :=
  Option.some.inj ((step_iff_step?.mp first).symm.trans (step_iff_step?.mp second))

theorem Run.unique {s t u : State β ρ} {actions : List (Action β ρ)} (first : Run s actions t)
    (second : Run s actions u) : t = u :=
  Option.some.inj ((run_iff_replay?.mp first).symm.trans (run_iff_replay?.mp second))

/-- Two runs with the same actions, whose states are related at every step. -/
inductive Lockstep (R : State β ρ → State β ρ → Prop) :
    State β ρ → State β ρ → List (Action β ρ) → State β ρ → State β ρ → Prop
  | nil {s s' : State β ρ} (related : R s s') : Lockstep R s s' [] s s'
  | cons {s s' u u' t t' : State β ρ} {a : Action β ρ} {rest : List (Action β ρ)}
      (related : R s s') (first : Step s a u) (second : Step s' a u')
      (tail : Lockstep R u u' rest t t') : Lockstep R s s' (a :: rest) t t'

theorem Lockstep.runs {R : State β ρ → State β ρ → Prop} {s s' t t' : State β ρ}
    {actions : List (Action β ρ)} (lockstep : Lockstep R s s' actions t t') :
    Run s actions t ∧ Run s' actions t' ∧ R t t' := by
  induction lockstep with
  | nil related => exact ⟨.nil _, .nil _, related⟩
  | cons _ first second _ ih => exact ⟨.cons first ih.1, .cons second ih.2.1, ih.2.2⟩

theorem Run.contained {s u t : State β ρ} {actions : List (Action β ρ)} {i : Nat} {task : Task β}
    {value : ρ} {payload : Payload} (reached : Reachable settings queueId s)
    (run : Run s actions t) (contained : Contained i task value payload s u)
    (unread : ∀ c, task.channel = some c → .read c ∉ actions) :
    ∃ v, Lockstep (Contained i task value payload) s u actions t v := by
  induction run generalizing u with
  | nil s => exact ⟨u, .nil contained⟩
  | cons first _ ih =>
      obtain ⟨v, second, next⟩ := first.contained reached contained fun c channel same =>
        unread c channel (same ▸ List.mem_cons_self)
      obtain ⟨w, tail⟩ := ih (reached.step first) next fun c channel later =>
        unread c channel (List.mem_cons_of_mem _ later)
      exact ⟨w, .cons contained first second tail⟩

theorem Step.panicking {r s : State β ρ} {i : Nat} {value : ρ}
    (reached : Reachable settings queueId r) (step : Step r (.finish i (.returned value)) s) :
    ∃ task, r.pool.current? i = some task ∧ ∀ payload, ∃ s',
      Step r (.finish i (.panicked payload)) s' ∧ Contained i task value payload s s' := by
  cases step with
  | finish i w task _ here current post =>
      have there : r.pool.current? i = some task := by rw [r.pool.current?_eq here, current]
      have running := r.unsettled_of_busy here current post
      refine ⟨task, there, fun payload => ⟨_, .finish r i w task _ here current post, ?_⟩⟩
      have known : ∀ c, task.channel = some c → c < r.channels.next := fun c channel =>
        reached.owned.inside_of_unsettled running channel
      have heard : Heard i task value payload r.pool
          (Function.update r.posts i (.ended (.returned value)))
          (Function.update r.posts i (.ended (.panicked payload))) [] := by
        rw [← Function.update_idem (.ended (.returned value)) (.ended (.panicked payload)) r.posts]
        exact .waiting (Function.update_self ..) there
      rw [State.finish, State.finish, settleTask_eq _ there, settleTask_eq _ there]
      exact .intro _ _ _ r.ran [] [] (.refl r.pool) heard (.keepPromise_both known) rfl

theorem Step.leaves {s t : State β ρ} {a : Action β ρ} (reached : Reachable settings queueId s)
    (step : Step s a t) {i : Nat} {w w' : Worker (Numbered β)} (here : s.pool.worker? i = some w)
    (after : t.pool.worker? i = some w') (running : w.stage ≠ .exited)
    (exited : w'.stage = .exited) :
    a = .check i ∧ w.batch = [] ∧ s.pool.signal.raised = true := by
  obtain ⟨v, there, stride⟩ := step.stride after
  cases here.symm.trans there
  have roomy := reached.roomy_of_stays here running
  have informed := stride.informed (reached.informed roomy i w here) (.inr exited)
  generalize s.posts i = post, t.posts i = post' at stride
  cases stride with
  | elsewhere | enter | begin | finish | report | count => exact absurd exited running
  | fetch => cases exited
  | check w n stage done => exact ⟨rfl, done, informed⟩

/-- A panic stays with its task: had the task returned, all else would have gone the same way, at
every step; and a worker leaves at the end of a batch, or as a payload panics that it drops. -/
theorem Reachable.containment {r : State β ρ} (reached : Reachable settings queueId r) :
    (∀ i value s, Step r (.finish i (.returned value)) s →
      ∃ task, r.pool.current? i = some task ∧ ∀ payload, ∃ s',
        Step r (.finish i (.panicked payload)) s' ∧ ∀ actions t, Run s actions t →
          (∀ c, task.channel = some c → .read c ∉ actions) →
            ∃ t', Lockstep (Contained i task value payload) s s' actions t t') ∧
    (∀ a s, Step r a s → ∀ i w w', r.pool.worker? i = some w → s.pool.worker? i = some w' →
      w.stage ≠ .exited → w'.stage = .exited →
        a = .check i ∧ w.batch = [] ∧ r.pool.signal.raised = true) ∧
    ∀ i task thrown s, Throw r i task thrown s → Confined r i task thrown s ∧
      ∀ payload, thrown = .quiet payload →
        Run r [.finish i (.panicked payload), .report i, .count i] s := by
  refine ⟨?_, ?_, ?_⟩
  · intro i value s step
    obtain ⟨task, current, panics⟩ := step.panicking reached
    refine ⟨task, current, fun payload => ?_⟩
    obtain ⟨s', second, contained⟩ := panics payload
    refine ⟨s', second, fun actions t run unread => ?_⟩
    exact run.contained (reached.step step) contained unread
  · intro a s step i w w' here after running exited
    exact step.leaves reached here after running exited
  · rintro i task thrown s throw
    refine ⟨throw.confined reached, ?_⟩
    rintro payload rfl
    exact throw.ordinary

theorem containment_detached : ∃ (r s s' t t' : State Unit Nat) (task : Task Unit)
    (actions : List (Action Unit Nat)),
    Reachable { workers := .fixed 1, batchSize := 2, stopPolicy := .abandon } 0 r ∧
      Step r (.finish 0 (.returned 5)) s ∧ Step r (.finish 0 (.panicked .other)) s' ∧
      r.pool.current? 0 = some task ∧ task.channel = none ∧
      Lockstep (Contained 0 task 5 .other) s s' actions t t' ∧
      t.pool.stats = ⟨0, 0, 2, 0, 0⟩ ∧ t'.pool.stats = ⟨0, 0, 2, 1, 0⟩ ∧
      t'.channels.slots.toList = [.ready (.ok 7)] ∧
      actions.getLast? = some (.check 0) ∧ t'.pool.allExited = true := by
  obtain ⟨r, s, u, t, v, reached, first, second, one, other, alone, stats, stats', slots, gone⟩ :
      ∃ (r s u t v : State Unit Nat),
        Reachable { workers := .fixed 1, batchSize := 2, stopPolicy := .abandon } 0 r ∧
        Step r (.finish 0 (.returned 5)) s ∧ Step r (.finish 0 (.panicked .other)) u ∧
        Run s [.report 0, .count 0, .begin 0, .close, .finish 0 (.returned 7), .raise, .report 0,
          .count 0, .check 0] t ∧
        Run u [.report 0, .count 0, .begin 0, .close, .finish 0 (.returned 7), .raise, .report 0,
          .count 0, .check 0] v ∧
        r.pool.current? 0 = some ⟨⟨0, ()⟩, none⟩ ∧
        t.pool.stats = ⟨0, 0, 2, 0, 0⟩ ∧ v.pool.stats = ⟨0, 0, 2, 1, 0⟩ ∧
        v.channels.slots.toList = [.ready (.ok 7)] ∧ v.pool.allExited = true :=
    ⟨_, _, _, _, _,
      .of_replay? [.offer none (.forget ()), .offer none (.schedule ()), .enter 0, .fetch 0,
        .begin 0] rfl,
      .of_step? rfl, .of_step? rfl, .of_replay? _ rfl, .of_replay? _ rfl, rfl, rfl, rfl, rfl, rfl⟩
  obtain ⟨task, current, panics⟩ := reached.containment.1 0 5 s first
  obtain ⟨s', step, along⟩ := panics .other
  cases alone.symm.trans current
  obtain ⟨t', lockstep⟩ := along _ t one (by simp)
  cases step.unique second
  cases lockstep.runs.2.1.unique other
  exact ⟨r, s, u, t, v, _, _, reached, first, second, alone, rfl, lockstep, stats, stats', slots,
    rfl, gone⟩

/-- The first task of a batch throws what panics as it is dropped. Its worker is gone while the pool
is open, and the second task is lost, which is run if the first one returns. -/
theorem worker_lost_to_payload : ∃ (r s t u : State Unit Nat) (task : Task Unit),
    Reachable { workers := .fixed 1, batchSize := 2 } 0 r ∧ r.pool.current? 0 = some task ∧
      Step r (.finish 0 (.returned 5)) s ∧
      Run s [.report 0, .count 0, .begin 0, .finish 0 (.returned 7), .report 0, .count 0] t ∧
      t.channels.slots.toList = [.ready (.ok 7)] ∧ t.pool.stats = ⟨0, 0, 2, 0, 0⟩ ∧
      t.pool.allExited = false ∧
      Throw r 0 task (.loud (.quiet .other)) u ∧
      u.channels.slots.toList = [.abandoned] ∧ u.pool.stats = ⟨0, 0, 0, 1, 0⟩ ∧
      u.pool.allExited = true ∧ u.pool.queue.closed = false ∧ u.pool.signal.raised = false := by
  have reached : Reachable { workers := .fixed 1, batchSize := 2 } 0 (_ : State Unit Nat) :=
    .of_replay? [.offer none (.forget ()), .offer none (.schedule ()), .enter 0, .fetch 0,
      .begin 0] rfl
  exact ⟨_, _, _, _, _, reached, rfl, .of_step? rfl, .of_replay? _ rfl, rfl, rfl, rfl,
    .intro _ rfl rfl rfl, rfl, rfl, rfl, rfl, rfl⟩

end WorkerPool.Pool.Interleaving
