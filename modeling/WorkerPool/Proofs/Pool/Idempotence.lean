import WorkerPool.Proofs.Pool.Statistics
import WorkerPool.Proofs.Pool.Submission

namespace WorkerPool.Pool

variable {β ρ : Type}

theorem close_of_closed (p : Pool β) (closed : p.queue.closed = true) : p.close = p := by
  simp [close, Queue.close, ← closed]

theorem trigger_of_raised (p : Pool β) (raised : p.signal.raised = true) : p.trigger = p := by
  simp [trigger, Signal.trigger, ← raised]

theorem stop_of_stopped (p : Pool β) (closed : p.queue.closed = true)
    (raised : p.signal.raised = true) : p.stop = p := by
  rw [stop, p.close_of_closed closed, p.trigger_of_raised raised]

theorem removeLeftovers_of_empty (p : Pool β) (empty : p.queue.items = [])
    (told : p.fallen = []) : p.removeLeftovers = ([], p) := by
  rw [removeLeftovers, Queue.drain, tellFallen, empty, ← empty, told, List.map_nil, List.append_nil,
    ← told]

theorem join_of_empty (p : Pool β) (cs : Channels ρ) (exited : p.allExited = true)
    (empty : p.queue.items = []) (told : p.fallen = []) : p.join cs = some (p, cs) := by
  rw [join, if_pos exited, abandonQueued, p.removeLeftovers_of_empty empty told]
  rfl

namespace Interleaving

variable {settings : PoolSettings} {queueId : Nat}

def lateRefusal (queueId : Nat) (token : Option ProducerToken) : Rejection :=
  if token.any (·.queueId ≠ queueId) then .foreignToken else .stopped

theorem refusal?_of_closed (queue : Queue (Task β)) (token : Option ProducerToken) (size : Nat)
    (closed : queue.closed = true) :
    refusal? settings queueId queue token size = some (lateRefusal queueId token) := by
  unfold refusal? lateRefusal
  by_cases foreign : token.any (·.queueId ≠ queueId) = true
  · rw [if_pos foreign, if_pos foreign]
  · rw [if_neg foreign, if_neg foreign, if_pos closed]

theorem Reachable.offer_late {s : State β ρ} (reached : Reachable settings queueId s)
    (closed : s.pool.queue.closed = true) (token : Option ProducerToken) (call : Submission β) :
    s.offer token call = { s with
      offered := s.offered + call.size
      decided := s.decided ++ [⟨call.size, call.event? (lateRefusal queueId token).decision,
        (lateRefusal queueId token).decision⟩]
      refused := s.refused ++ [call.tasks s.offered s.channels.next] } := by
  have due := reached.offer_due token (call.tasks s.offered s.channels.next)
  rw [refusal?_of_closed s.pool.queue token _ closed] at due
  simp only [State.offer, call.offer_eq, due.1, call.tasks_length]
  cases lateRefusal queueId token <;> rfl

def Action.offered : Action β ρ → Nat
  | offer _ call => call.size
  | _ => 0

def Action.read? : Action β ρ → Option Nat
  | read c => some c
  | _ => none

/-- What was so before some steps is so after them, but for tasks that are refused and outcomes
that are read. -/
structure Kept (s : State β ρ) (later : List (Action β ρ)) (t : State β ρ) : Prop where
  pool : ∃ scheduled rejected events, t.pool = { s.pool with
    stats := { s.pool.stats with scheduled, rejected }
    events := s.pool.events ++ events }
  posts : t.posts = s.posts
  history : t.toHistory = { s.toHistory with
    offered := t.offered
    refused := t.refused
    retrieved := t.retrieved
    returned := t.returned }
  channels : t.channels =
    (later.filterMap Action.read?).foldl (fun cs c => (cs.read c).2) s.channels
  scheduled : t.pool.stats.scheduled + (t.decided.map Decided.admits).sum =
    s.pool.stats.scheduled + (s.decided.map Decided.admits).sum
  rejected : t.pool.stats.rejected + (t.decided.map Decided.refuses).sum =
    s.pool.stats.rejected + (s.decided.map Decided.refuses).sum + (later.map Action.offered).sum

theorem Kept.refl (s : State β ρ) : Kept s [] s where
  pool := ⟨s.pool.stats.scheduled, s.pool.stats.rejected, [], by rw [List.append_nil]⟩
  posts := rfl
  history := rfl
  channels := rfl
  scheduled := rfl
  rejected := rfl

theorem Kept.of_same {s t : State β ρ} {a : Action β ρ} (pool : t.pool = s.pool)
    (decided : t.decided = s.decided) (nothing : a.offered = 0) (posts : t.posts = s.posts)
    (history : t.toHistory = { s.toHistory with
      offered := t.offered, refused := t.refused, retrieved := t.retrieved,
      returned := t.returned })
    (channels : t.channels =
      ([a].filterMap Action.read?).foldl (fun cs c => (cs.read c).2) s.channels) :
    Kept s [a] t where
  pool := ⟨s.pool.stats.scheduled, s.pool.stats.rejected, [], by rw [pool, List.append_nil]⟩
  posts := posts
  history := history
  channels := channels
  scheduled := by rw [pool, decided]
  rejected := by rw [pool, decided, List.map_singleton, nothing]; rfl

theorem Kept.trans {s u t : State β ρ} {front back : List (Action β ρ)} (first : Kept s front u)
    (second : Kept u back t) : Kept s (front ++ back) t where
  pool := by
    obtain ⟨_, _, early, middle⟩ := first.pool
    obtain ⟨_, _, late, last⟩ := second.pool
    rw [last, middle]
    exact ⟨_, _, early ++ late, by rw [List.append_assoc]⟩
  posts := second.posts.trans first.posts
  history := by rw [second.history, first.history]
  channels := by
    rw [second.channels, first.channels, List.filterMap_append, List.foldl_append]
  scheduled := second.scheduled.trans first.scheduled
  rejected := by
    rw [second.rejected, first.rejected, List.map_append, List.sum_append, Nat.add_assoc]

theorem Decided.tally_eq (offer : Decided) (p : Pool (Numbered β)) :
    ∃ events, p.tally offer.tasks offer.event offer.decision = { p with
      stats := { p.stats with
        scheduled := p.stats.scheduled + offer.admits
        rejected := p.stats.rejected + offer.refuses }
      events := p.events ++ events } := by
  obtain ⟨tasks, event, decision⟩ := offer
  cases decision with
  | admitted token =>
      refine ⟨[], ?_⟩
      rw [List.append_nil]
      rfl
  | refused | foreign => exact ⟨event.toList, rfl⟩

/-- Stop and a join have returned, and the joins that have yet to return hold nothing. -/
structure Final (settings : PoolSettings) (queueId : Nat) (s : State β ρ) : Prop where
  reached : Reachable settings queueId s
  raised : s.pool.signal.raised = true
  closed : s.pool.queue.closed = true
  empty : s.pool.queue.items = []
  exited : s.pool.allExited = true
  told : s.pool.fallen = []
  settled : ∀ leaving ∈ s.joining, leaving.tasks = []

theorem Reachable.final {s : State β ρ} (reached : Reachable settings queueId s)
    (raised : s.pool.signal.raised = true) (late : s.early < s.returned)
    (settled : ∀ leaving ∈ s.joining, leaving.tasks = []) : Final settings queueId s := by
  have joined : s.Joined := .inr (.inr (Nat.zero_lt_of_lt late))
  have ⟨closed, empty⟩ := reached.empty_of_late (Nat.lt_add_right _ late)
  exact ⟨reached, raised, closed, empty, reached.allExited_of_joined joined,
    reached.fallen_nil joined, settled⟩

namespace Final

variable {s t : State β ρ} {a : Action β ρ}

theorem caller (final : Final settings queueId s) (step : Step s a t) : a.worker? = none := by
  rcases step.workers with ⟨caller, _⟩ | ⟨i, w, f, post, one⟩
  · exact caller
  · have gone := (Pool.allExited_iff _).mp final.exited i w one.here
    exact absurd one.mine (one.stride.exited (final.reached.coherent i w one.here) gone).1

theorem nothing_at (final : Final settings queueId s) {k : Nat} {leaving : Leaving β}
    (here : s.joining[k]? = some leaving) : leaving.tasks = [] :=
  final.settled leaving (List.mem_of_getElem? here)

theorem kept_step (final : Final settings queueId s) (step : Step s a t) : Kept s [a] t := by
  have caller := final.caller step
  cases step with
  | offer token call =>
      have admits : (Decided.mk call.size (call.event? (lateRefusal queueId token).decision)
          (lateRefusal queueId token).decision).admits = 0 := by
        cases lateRefusal queueId token <;> rfl
      have refuses : (Decided.mk call.size (call.event? (lateRefusal queueId token).decision)
          (lateRefusal queueId token).decision).refuses = call.size := by
        cases lateRefusal queueId token <;> rfl
      rw [final.reached.offer_late final.closed]
      refine ⟨(Kept.refl s).pool, rfl, rfl, rfl, ?_, ?_⟩
      · simp [admits]
      · simp [refuses, Action.offered, Nat.add_assoc]
  | tally k offer pending =>
      have admits := sum_eraseIdx Decided.admits s.decided k offer pending
      have refuses := sum_eraseIdx Decided.refuses s.decided k offer pending
      obtain ⟨events, result⟩ := offer.tally_eq s.pool
      refine ⟨⟨_, _, events, result⟩, rfl, rfl, rfl, ?_, ?_⟩
      · simp only [State.tally, result]
        omega
      · simp only [State.tally, result, Action.offered, List.map_singleton, List.sum_singleton]
        omega
  | close =>
      exact .of_same (s.pool.close_of_closed final.closed) rfl rfl rfl rfl rfl
  | raise closed =>
      exact .of_same (s.pool.trigger_of_raised final.raised) rfl rfl rfl rfl rfl
  | await free => exact .of_same rfl rfl rfl rfl rfl rfl
  | takeLeftovers held exited =>
      have nothing := s.pool.removeLeftovers_of_empty final.empty final.told
      refine .of_same ?_ rfl rfl rfl ?_ rfl <;> simp [State.takeLeftovers, nothing, final.closed]
  | countLeftovers k leftovers taken =>
      have nothing := final.nothing_at taken
      cases nothing
      exact .of_same rfl rfl rfl rfl rfl rfl
  | dropLeftovers k leftovers counted =>
      have nothing := final.nothing_at counted
      cases nothing
      refine .of_same rfl rfl rfl rfl ?_ rfl
      simp [State.dropLeftovers]
  | selfJoin i n w here stage =>
      cases stage.symm.trans ((Pool.allExited_iff _).mp final.exited i w here)
  | read c => exact .of_same rfl rfl rfl rfl rfl rfl
  | _ => cases caller

theorem settled_step (final : Final settings queueId s) (step : Step s a t) :
    ∀ leaving ∈ t.joining, leaving.tasks = [] := by
  have settled := final.settled
  cases step with
  | offer token call => rwa [final.reached.offer_late final.closed]
  | takeLeftovers held exited =>
      have nothing := s.pool.removeLeftovers_of_empty final.empty final.told
      simp only [State.takeLeftovers, nothing]
      rw [List.forall_mem_append, List.forall_mem_singleton]
      exact ⟨settled, rfl⟩
  | countLeftovers k leftovers taken =>
      have nothing := final.nothing_at taken
      intro leaving member
      rcases List.mem_or_eq_of_mem_set member with old | rfl
      · exact settled leaving old
      · exact nothing
  | dropLeftovers k leftovers counted =>
      exact fun leaving member => settled leaving (List.mem_of_mem_eraseIdx member)
  | _ => exact settled

theorem step (final : Final settings queueId s) (step : Step s a t) :
    Final settings queueId t where
  reached := final.reached.step step
  raised := step.raised final.reached final.raised
  closed := (step.entry final.reached).closed final.closed
  empty := (step.entry final.reached).emptied final.closed final.empty
  exited := step.allExited final.reached final.exited
  told := by
    obtain ⟨_, _, _, same⟩ := (final.kept_step step).pool
    rw [same]
    exact final.told
  settled := final.settled_step step

theorem refused (final : Final settings queueId s) (token : Option ProducerToken)
    (call : Submission β) : Refused s token call (lateRefusal queueId token) :=
  final.reached.refused (refusal?_of_closed s.pool.queue token call.size final.closed)

end Final

/-- What the calls after a stop and a join have come to. -/
structure StaysFinal (queueId : Nat) (s : State β ρ) (later : List (Action β ρ))
    (t : State β ρ) : Prop where
  kept : Kept s later t
  callers : ∀ a ∈ later, a.worker? = none
  joins : ∀ leaving ∈ t.joining, leaving.tasks = []
  stop : t.pool.stop = t.pool
  join : t.pool.join t.channels = some (t.pool, t.channels)
  refused : ∀ token call, Refused t token call (lateRefusal queueId token)

theorem Final.stays {s t : State β ρ} {later : List (Action β ρ)}
    (final : Final settings queueId s) (run : Run s later t) :
    StaysFinal queueId s later t := by
  induction run with
  | nil s =>
      exact ⟨.refl s, List.forall_mem_nil _, final.settled,
        s.pool.stop_of_stopped final.closed final.raised,
        s.pool.join_of_empty s.channels final.exited final.empty final.told, final.refused⟩
  | cons first _ ih =>
      have rest := ih (final.step first)
      exact ⟨(final.kept_step first).trans rest.kept,
        List.forall_mem_cons.mpr ⟨final.caller first, rest.callers⟩, rest.joins, rest.stop,
        rest.join, rest.refused⟩

end Interleaving

end WorkerPool.Pool
