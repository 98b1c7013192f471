import WorkerPool.Proofs.Pool.Abandonment
import WorkerPool.Proofs.Pool.Calls
import WorkerPool.Proofs.Pool.Draining

namespace WorkerPool.Pool.Interleaving

variable {β ρ : Type} {settings : PoolSettings} {queueId : Nat}

def Action.ofJoin : Action β ρ → Bool
  | await | takeLeftovers | countLeftovers _ | dropLeftovers _ => true
  | _ => false

def Action.ofPool : Action β ρ → Bool
  | close | raise | selfJoin _ => true
  | a => a.ofJoin

/-- The thread that drops a pool. -/
inductive Dropper where
  | outsider
  | worker (i : Nat)
  deriving DecidableEq, Repr

/-- A drop is a stop and a join, and a worker's join joins nothing. -/
def Dropper.steps : Dropper → List (Action β ρ)
  | outsider => [.close, .raise, .await, .takeLeftovers, .countLeftovers 0, .dropLeftovers 0]
  | worker i => [.close, .raise, .selfJoin i]

def Dropper.CanDrop (s : State β ρ) : Dropper → Prop
  | outsider => True
  | worker i => ∃ w, s.pool.worker? i = some w ∧ s.posts i = .busy

inductive Phase (β ρ : Type) where
  | held
  | dropping (dropper : Dropper) (rest : List (Action β ρ))

structure Lifetime (β ρ : Type) where
  state : State β ρ
  phase : Phase β ρ := .held

namespace Lifetime

inductive Step : Lifetime β ρ → Lifetime β ρ → Prop
  | use {s t : State β ρ} {a : Action β ρ} (step : Interleaving.Step s a t) :
      Step ⟨s, .held⟩ ⟨t, .held⟩
  -- No call of stop or join is under way, since each would hold the pool.
  | begin (s : State β ρ) (dropper : Dropper)
      (idle : s.stopping = 0 ∧ s.awaiting = false ∧ s.joining = []) (able : dropper.CanDrop s) :
      Step ⟨s, .held⟩ ⟨s, .dropping dropper dropper.steps⟩
  | drop {s t : State β ρ} {a : Action β ρ} {dropper : Dropper} {rest : List (Action β ρ)}
      (step : Interleaving.Step s a t) :
      Step ⟨s, .dropping dropper (a :: rest)⟩ ⟨t, .dropping dropper rest⟩
  -- Everybody else goes on, but a worker is held up by its own drop.
  | others {s t : State β ρ} {a : Action β ρ} {dropper : Dropper} {rest : List (Action β ρ)}
      (step : Interleaving.Step s a t) (handle : a.ofPool = false)
      (free : ∀ i, dropper = .worker i → rest = [] ∨ a.worker? ≠ some i) :
      Step ⟨s, .dropping dropper rest⟩ ⟨t, .dropping dropper rest⟩

inductive Reachable (settings : PoolSettings) (queueId : Nat) : Lifetime β ρ → Prop
  | start : Reachable settings queueId ⟨State.start settings queueId, .held⟩
  | step {l m : Lifetime β ρ} (reached : Reachable settings queueId l) (step : Step l m) :
      Reachable settings queueId m

theorem Reachable.state {l : Lifetime β ρ} (reached : l.Reachable settings queueId) :
    Interleaving.Reachable settings queueId l.state := by
  induction reached with
  | start => exact .start
  | step _ step ih =>
      cases step with
      | use step | drop step | others step => exact ih.step step
      | begin => exact ih

theorem Reachable.use {s t : State β ρ} {actions : List (Action β ρ)}
    (reached : Reachable settings queueId ⟨s, .held⟩) (run : Run s actions t) :
    Reachable settings queueId ⟨t, .held⟩ := by
  induction run with
  | nil => exact reached
  | cons first _ ih => exact ih (reached.step (.use first))

theorem Reachable.drop {s t : State β ρ} (actions rest : List (Action β ρ)) {dropper : Dropper}
    (reached : Reachable settings queueId ⟨s, .dropping dropper (actions ++ rest)⟩)
    (run : Run s actions t) : Reachable settings queueId ⟨t, .dropping dropper rest⟩ := by
  induction run with
  | nil => exact reached
  | cons first _ ih => exact ih (reached.step (.drop first))

theorem Reachable.outlive {s t : State β ρ} (actions : List (Action β ρ)) {dropper : Dropper}
    (reached : Reachable settings queueId ⟨s, .dropping dropper []⟩)
    (handles : ∀ a ∈ actions, a.ofPool = false) (run : Run s actions t) :
    Reachable settings queueId ⟨t, .dropping dropper []⟩ := by
  induction run with
  | nil => exact reached
  | cons first _ ih =>
      rw [List.forall_mem_cons] at handles
      exact ih (reached.step (.others first handles.1 fun _ _ => .inl rfl)) handles.2

end Lifetime

theorem outsider_run (s : State β ρ) (free : s.awaiting = false) (idle : s.joining = [])
    {pool : Pool (Numbered β)} {channels : Channels ρ}
    (joined : s.pool.stop.join s.channels = some (pool, channels)) :
    ∃ t, Run s Dropper.outsider.steps t ∧ t.pool = pool ∧ t.channels = channels := by
  have stop : Run s [.close, .raise] s.close.raise :=
    .cons (.close s) (.cons (.raise _ (Nat.succ_pos _)) (.nil _))
  obtain ⟨t, join, _, after⟩ := join_run s.close.raise free joined
  have first : s.close.raise.joining.length = 0 := by
    change s.joining.length = 0
    rw [idle, List.length_nil]
  rw [first] at join
  exact ⟨t, stop.append join, after⟩

theorem worker_run {s : State β ρ} (reached : Reachable settings queueId s) {i : Nat}
    (able : (Dropper.worker i).CanDrop s) :
    ∃ t, Run s (Dropper.worker i).steps t ∧ t.pool = s.pool.stop.selfJoin ∧
      t.channels = s.channels := by
  obtain ⟨w, here, busy⟩ := able
  have coherent := reached.coherent i w here
  rw [busy] at coherent
  obtain ⟨n, stage⟩ := coherent.1
  obtain ⟨_, result⟩ := s.pool.close.trigger_eq
  have there : s.pool.close.trigger.worker? i = some w := by
    rw [result]
    exact here
  exact ⟨_, .cons (.close s) (.cons (.raise _ (Nat.succ_pos _))
    (.cons (.selfJoin _ i n w there stage) (.nil _))), rfl, rfl⟩

def State.joins (s : State β ρ) : List (Task β) × List (Leaving β) × Nat × Nat :=
  (s.removed, s.joining, s.returned, s.early)

theorem Step.joins_eq {s t : State β ρ} {a : Action β ρ} (step : Step s a t)
    (other : a.ofJoin = false) : t.joins = s.joins := by
  cases step with
  | offer token call =>
      rcases s.offer_cases token call with ⟨_, _, _, result⟩ | ⟨_, _, result⟩ <;>
        simp [result, State.joins]
  | await | takeLeftovers | countLeftovers | dropLeftovers => cases other
  | _ => rfl

theorem Action.ofJoin_of_ofPool {a : Action β ρ} (handle : a.ofPool = false) :
    a.ofJoin = false := by
  cases a <;> first | rfl | cases handle

theorem Dropper.ofJoin_worker (i : Nat) (a : Action β ρ) (member : a ∈ (worker i).steps) :
    a.ofJoin = false := by
  simp only [steps, List.mem_cons, List.not_mem_nil, or_false] at member
  rcases member with rfl | rfl | rfl <;> rfl

def JoinLeft (s : State β ρ) : List (Action β ρ) → Prop
  | [] => s.joining = [] ∧ s.early < s.returned
  | .countLeftovers _ :: _ | .dropLeftovers _ :: _ => s.joining.length = 1 ∧ s.early ≤ s.returned
  | .close :: _ => s.joining = []
  | _ => s.joining = [] ∧ s.pool.queue.closed = true

theorem JoinLeft.congr {s t : State β ρ} {rest : List (Action β ρ)} (left : JoinLeft s rest)
    (joins : t.joins = s.joins)
    (closed : s.pool.queue.closed = true → t.pool.queue.closed = true) : JoinLeft t rest := by
  simp only [State.joins, Prod.mk.injEq] at joins
  obtain ⟨_, joining, returned, early⟩ := joins
  unfold JoinLeft at left ⊢
  rw [joining, returned, early]
  split <;> simp_all

theorem Step.joinLeft {s t : State β ρ} {a : Action β ρ} {rest : List (Action β ρ)}
    (reached : Reachable settings queueId s) (step : Step s a t)
    (part : (a :: rest) <:+ Dropper.outsider.steps) (left : JoinLeft s (a :: rest)) :
    JoinLeft t rest := by
  simp only [Dropper.steps, List.suffix_cons_iff, List.cons.injEq, List.suffix_nil,
    List.cons_ne_nil, or_false] at part
  rcases part with ⟨rfl, rfl⟩ | ⟨rfl, rfl⟩ | ⟨rfl, rfl⟩ | ⟨rfl, rfl⟩ | ⟨rfl, rfl⟩ | ⟨rfl, rfl⟩
  · cases step
    exact ⟨left, rfl⟩
  · exact left.congr (step.joins_eq rfl) (step.entry reached).closed
  · cases step
    exact left
  · cases step with
    | takeLeftovers held exited =>
        obtain ⟨none, closed⟩ : s.joining = [] ∧ s.pool.queue.closed = true := left
        have before := reached.early_le
        simpa [JoinLeft, State.takeLeftovers, none, closed] using before
  · cases step with
    | countLeftovers _ leftovers taken =>
        have one : s.joining.length = 1 ∧ s.early ≤ s.returned := left
        simpa [JoinLeft, State.countLeftovers] using one
  · cases step with
    | dropLeftovers _ leftovers counted =>
        obtain ⟨one, punctual⟩ : s.joining.length = 1 ∧ s.early ≤ s.returned := left
        obtain ⟨leaving, one⟩ := List.length_eq_one_iff.mp one
        simpa [JoinLeft, State.dropLeftovers, one, Nat.lt_succ_iff] using punctual

namespace Lifetime

/-- How far the join of a drop is; a worker's joins nothing, and nobody else can join by then. -/
def JoinsOf (s : State β ρ) (rest : List (Action β ρ)) : Dropper → Prop
  | .outsider => JoinLeft s rest
  | .worker _ => ¬s.Joined

theorem JoinsOf.congr {s t : State β ρ} {rest : List (Action β ρ)} {dropper : Dropper}
    (joins : JoinsOf s rest dropper) (same : t.joins = s.joins)
    (closed : s.pool.queue.closed = true → t.pool.queue.closed = true) :
    JoinsOf t rest dropper := by
  cases dropper with
  | outsider => exact JoinLeft.congr joins same closed
  | worker i =>
      simp only [State.joins, Prod.mk.injEq] at same
      obtain ⟨removed, joining, returned, _⟩ := same
      unfold JoinsOf State.Joined at joins ⊢
      rwa [removed, joining, returned]

theorem Reachable.joins {l : Lifetime β ρ} (reached : l.Reachable settings queueId)
    {dropper : Dropper} {rest : List (Action β ρ)} (drop : l.phase = .dropping dropper rest) :
    rest <:+ dropper.steps ∧ JoinsOf l.state rest dropper := by
  induction reached generalizing dropper rest with
  | start => cases drop
  | step reached step ih =>
      cases step with
      | use => cases drop
      | begin s dropper idle able =>
          cases drop
          refine ⟨List.suffix_refl _, ?_⟩
          cases dropper with
          | outsider => exact idle.2.2
          | worker i =>
              obtain ⟨w, here, busy⟩ := able
              intro joined
              have exited := reached.state.allExited_of_joined joined
              have gone := (Pool.allExited_iff _).mp exited i w here
              have post := (reached.state.idle_of_exited here gone).2
              cases busy.symm.trans post
      | drop step =>
          cases drop
          obtain ⟨part, joins⟩ := ih rfl
          refine ⟨(List.suffix_cons _ _).trans part, ?_⟩
          cases dropper with
          | outsider => exact step.joinLeft reached.state part joins
          | worker i =>
              have alone := Dropper.ofJoin_worker i _ (part.subset List.mem_cons_self)
              have none : JoinsOf _ _ (.worker i) := joins
              exact none.congr (step.joins_eq alone) (step.entry reached.state).closed
      | others step handle =>
          cases drop
          obtain ⟨part, joins⟩ := ih rfl
          exact ⟨part, joins.congr (step.joins_eq (Action.ofJoin_of_ofPool handle))
            (step.entry reached.state).closed⟩

theorem Reachable.roomy_of_worker {l : Lifetime β ρ} (reached : l.Reachable settings queueId)
    {i : Nat} {rest : List (Action β ρ)} (drop : l.phase = .dropping (.worker i) rest) :
    settings.roomy = true := by
  induction reached generalizing rest with
  | start => cases drop
  | step reached step ih =>
      cases step with
      | use => cases drop
      | begin s dropper idle able =>
          cases drop
          obtain ⟨w, here, busy⟩ := able
          apply reached.state.roomy_of_stays here
          intro gone
          cases busy.symm.trans (reached.state.idle_of_exited here gone).2
      | drop | others =>
          cases drop
          exact ih rfl

end Lifetime

structure Accounted (s : State β ρ) : Prop where
  empty : s.pool.queue.items = []
  settled : ∀ c < s.channels.next, s.channels.slot c ≠ .pending
  total : s.pool.stats.executed + s.pool.stats.abandoned = s.admitted.flatten.length

/-- Every task that was admitted was fetched and run, or dropped, or is still queued. -/
structure Remaining (s : State β ρ) : Prop where
  order : s.admitted.flatten = s.batches.flatMap Prod.snd ++ s.removed ++ s.pool.queue.items
  dropped : s.dropped.Perm s.removed
  whole : s.early = 0 → s.dropped = s.removed
  executed : s.pool.stats.executed = (s.batches.flatMap Prod.snd).length
  abandoned : s.pool.stats.abandoned = s.dropped.length
  pending : ∀ c < s.channels.next, s.channels.slot c = .pending ↔
    ∃ task ∈ s.pool.queue.items, task.channel = some c

theorem Reachable.remaining {s : State β ρ} (reached : Reachable settings queueId s)
    (exited : s.pool.allExited = true) (alone : s.joining = []) : Remaining s := by
  have dropped := reached.dropped_perm alone
  have abandoned := reached.counted.2
  rw [State.uncounted, alone, List.flatMap_nil, List.length_nil, Nat.add_zero] at abandoned
  refine ⟨reached.order, dropped, fun punctual => reached.dropped_eq punctual alone,
    reached.executed_of_allExited exited, by rw [dropped.length_eq, abandoned], ?_⟩
  intro c inside
  have unsettled : s.ledger.unsettled = s.pool.queue.items := by
    change s.lefts ++ (s.joining.map Leaving.tasks).flatten ++ s.pool.queue.items = _
    rw [reached.lefts_of_allExited exited, alone]
    rfl
  have opened : c ∈ s.admitted.flatten.filterMap Job.channel := by
    rw [reached.channels_eq]
    exact List.mem_range.mpr inside
  obtain ⟨task, member, channel⟩ := List.mem_filterMap.mp opened
  constructor
  · intro pending
    have waiting := (reached.pending_iff member channel).mp pending
    rw [unsettled] at waiting
    exact ⟨task, waiting, channel⟩
  · rintro ⟨other, queued, same⟩
    rw [← unsettled] at queued
    exact reached.resolved.unsettled other queued c same

theorem Remaining.total {s : State β ρ} (remaining : Remaining s) :
    s.pool.stats.executed + s.pool.stats.abandoned + s.pool.queue.length =
      s.admitted.flatten.length := by
  rw [remaining.order, remaining.executed, remaining.abandoned, remaining.dropped.length_eq,
    List.length_append, List.length_append]
  rfl

theorem Remaining.accounted {s : State β ρ} (remaining : Remaining s)
    (empty : s.pool.queue.items = []) : Accounted s where
  empty := empty
  settled := by
    intro c inside pending
    obtain ⟨task, queued, _⟩ := (remaining.pending c inside).mp pending
    rw [empty] at queued
    cases queued
  total := by
    have total := remaining.total
    rwa [Queue.length, empty, List.length_nil, Nat.add_zero] at total

namespace Lifetime

theorem Reachable.joining_nil {l : Lifetime β ρ} (reached : l.Reachable settings queueId)
    {dropper : Dropper} (returned : l.phase = .dropping dropper []) : l.state.joining = [] := by
  have joins := (reached.joins returned).2
  cases dropper with
  | outsider => exact joins.1
  | worker i =>
      by_contra some
      exact joins (.inr (.inl some))

/-- Once a dropped pool's workers are gone, what no worker fetched and no join dropped is still
queued. That is nothing if an outsider dropped the pool or the pool drains, but a worker's drop
drops no task. -/
theorem Reachable.after_drop {l : Lifetime β ρ} (reached : l.Reachable settings queueId)
    (valid : settings.validate = .ok ()) {dropper : Dropper}
    (returned : l.phase = .dropping dropper []) (exited : l.state.pool.allExited = true) :
    Remaining l.state ∧
      (settings.stopPolicy = .drain ∨ dropper = .outsider → Accounted l.state) ∧
      ∀ i, dropper = .worker i → l.state.dropped = [] := by
  have alone := reached.joining_nil returned
  have joins := (reached.joins returned).2
  have remaining := reached.state.remaining exited alone
  have late : dropper = .outsider → l.state.pool.queue.items = [] := by
    rintro rfl
    exact (reached.state.empty_of_late (Nat.lt_add_right _ joins.2)).2
  refine ⟨remaining, ?_, ?_⟩
  · intro drained
    apply remaining.accounted
    cases dropper with
    | outsider => exact late rfl
    | worker i =>
        have drains : settings.stopPolicy = .drain := drained.resolve_right (by simp)
        have roomy := reached.roomy_of_worker returned
        exact reached.state.empty_of_allExited valid roomy drains exited
  · rintro i rfl
    have none : l.state.removed = [] := by
      by_contra removed
      exact joins (.inl removed)
    have dropped := remaining.dropped
    rwa [none, List.perm_nil] at dropped

theorem after_drop_by_worker : ∃ l : Lifetime Unit Unit,
    ({ workers := .fixed 1, batchSize := 1 } : PoolSettings).validate = .ok () ∧
      l.Reachable { workers := .fixed 1, batchSize := 1 } 0 ∧
      l.phase = .dropping (.worker 0) [] ∧ l.state.pool.allExited = true ∧
      l.state.ran.length = 2 ∧ l.state.refused.length = 1 ∧ Accounted l.state := by
  have used : Reachable { workers := .fixed 1, batchSize := 1 } 0
      ⟨(_ : State Unit Unit), .held⟩ :=
    Reachable.start.use (.of_replay? [.offer none (.schedule ()), .offer none (.schedule ()),
      .tally 0, .tally 0, .enter 0, .fetch 0, .begin 0] rfl)
  have begun := used.step (.begin _ (.worker 0) ⟨rfl, rfl, rfl⟩ ⟨_, rfl, rfl⟩)
  have dropped := begun.drop [.close, .raise, .selfJoin 0] [] (.of_replay? _ rfl)
  have left := dropped.outlive [.offer none (.schedule ()), .tally 0,
    .finish 0 (.returned ()), .report 0, .count 0, .check 0, .enter 0, .fetch 0, .begin 0,
    .finish 0 (.returned ()), .report 0, .count 0, .check 0, .enter 0, .fetch 0, .check 0]
    (by simp [Action.ofPool, Action.ofJoin]) (.of_replay? _ rfl)
  exact ⟨_, rfl, left, rfl, rfl, rfl, rfl, (left.after_drop rfl rfl rfl).2.1 (.inl rfl)⟩

/-- A worker drops a pool that abandons while a task is queued: the task is not run and not dropped
and its channel stays as it is, with no worker and no pool left. -/
theorem leftovers_of_drop_by_worker : ∃ l : Lifetime Unit Unit,
    ({ workers := .fixed 1, batchSize := 1, stopPolicy := .abandon } : PoolSettings).validate =
        .ok () ∧
      l.Reachable { workers := .fixed 1, batchSize := 1, stopPolicy := .abandon } 0 ∧
      l.phase = .dropping (.worker 0) [] ∧ l.state.pool.allExited = true ∧
      l.state.pool.queue.length = 1 ∧ l.state.channels.slot 1 = .pending ∧
      l.state.pool.stats.executed + l.state.pool.stats.abandoned = 1 ∧
      l.state.admitted.flatten.length = 2 ∧ ¬Accounted l.state := by
  have used : Reachable { workers := .fixed 1, batchSize := 1, stopPolicy := .abandon } 0
      ⟨(_ : State Unit Unit), .held⟩ :=
    Reachable.start.use (.of_replay? [.offer none (.schedule ()), .offer none (.schedule ()),
      .tally 0, .tally 0, .enter 0, .fetch 0, .begin 0] rfl)
  have begun := used.step (.begin _ (.worker 0) ⟨rfl, rfl, rfl⟩ ⟨_, rfl, rfl⟩)
  have dropped := begun.drop [.close, .raise, .selfJoin 0] [] (.of_replay? _ rfl)
  have left := dropped.outlive [.finish 0 (.returned ()), .report 0, .count 0, .check 0]
    (by simp [Action.ofPool, Action.ofJoin]) (.of_replay? _ rfl)
  exact ⟨_, rfl, left, rfl, rfl, rfl, rfl, rfl, rfl, fun accounted => nomatch accounted.empty⟩

end Lifetime

end WorkerPool.Pool.Interleaving
