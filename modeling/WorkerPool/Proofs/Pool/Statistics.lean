import Mathlib.Algebra.BigOperators.Group.Finset.Piecewise
import Mathlib.Algebra.GroupWithZero.Nat
import WorkerPool.Proofs.Pool.Abandonment

namespace WorkerPool.Pool.Interleaving

variable {β ρ : Type} {settings : PoolSettings} {queueId : Nat}

def State.total (s : State β ρ) (measure : Worker (Numbered β) → Post ρ → Nat) : Nat :=
  ∑ i ∈ Finset.range s.pool.workers.length, s.leftTo measure i

theorem State.total_congr {s t : State β ρ} (measure : Worker (Numbered β) → Post ρ → Nat)
    (workers : t.pool.workers = s.pool.workers) (posts : t.posts = s.posts) :
    t.total measure = s.total measure := by
  simp only [State.total, State.leftTo, Pool.worker?, workers, posts]

theorem State.total_modify {s t : State β ρ} {i : Nat} {w : Worker (Numbered β)}
    {f : Worker (Numbered β) → Worker (Numbered β)} {post : Post ρ}
    (here : s.pool.worker? i = some w) (workers : t.pool.workers = s.pool.workers.modify i f)
    (posts : t.posts = Function.update s.posts i post)
    (measure : Worker (Numbered β) → Post ρ → Nat) :
    t.total measure + measure w (s.posts i) = s.total measure + measure (f w) post := by
  have found : s.pool.workers[i]? = some w := here
  have inside : i ∈ Finset.range s.pool.workers.length :=
    Finset.mem_range.mpr (List.getElem?_eq_some_iff.mp found).1
  have changed : t.leftTo measure = Function.update (s.leftTo measure) i (measure (f w) post) := by
    funext j
    by_cases same : j = i
    · subst same
      simp [State.leftTo, Pool.worker?, workers, posts, found]
    · have other : i ≠ j := Ne.symm same
      simp [State.leftTo, Pool.worker?, workers, posts, same, other]
  have mine : s.leftTo measure i = measure w (s.posts i) := by
    simp [State.leftTo, Pool.worker?, found]
  have length : t.pool.workers.length = s.pool.workers.length := by
    rw [workers, List.length_modify]
  have split := Finset.sum_erase_add _ (s.leftTo measure) inside
  rw [mine] at split
  rw [State.total, length, changed, Finset.sum_update_of_mem inside,
    Finset.sdiff_singleton_eq_erase, State.total]
  omega

/-- The ways in which a step can move the counters. -/
inductive Tick (s : State β ρ) : Action β ρ → Stats → Prop
  | still (a : Action β ρ) : Tick s a s.pool.stats
  | schedule (k : Nat) (offer : Decided) (token : Option ProducerToken)
      (pending : s.decided[k]? = some offer) (admitted : offer.decision = .admitted token) :
      Tick s (.tally k) (s.pool.stats.schedule offer.tasks)
  | reject (k : Nat) (offer : Decided) (pending : s.decided[k]? = some offer)
      (refused : ∀ token, offer.decision ≠ .admitted token) :
      Tick s (.tally k) (s.pool.stats.reject offer.tasks)
  | panic (i : Nat) (task : Task β) (payload : Payload) (current : s.pool.current? i = some task)
      (alone : task.channel = none) (post : s.posts i = .ended (.panicked payload)) :
      Tick s (.report i) s.pool.stats.panic
  | execute (i : Nat) (task : Task β) (current : s.pool.current? i = some task)
      (post : s.posts i = .reported) : Tick s (.count i) s.pool.stats.execute
  | abandon (k : Nat) (leftovers : List (Task β))
      (taken : s.joining[k]? = some ⟨leftovers, false⟩) :
      Tick s (.countLeftovers k) (s.pool.stats.abandon leftovers.length)

def silent (task : Task β) (outcome : Outcome ρ) : Bool :=
  match task.channel, outcome with
  | none, .panicked _ => true
  | _, _ => false

theorem countPanic_stats (p : Pool (Numbered β)) {i : Nat} {task : Task β}
    (current : p.current? i = some task) (outcome : Outcome ρ) :
    (p.countPanic i outcome).stats = if silent task outcome then p.stats.panic else p.stats := by
  cases channel : task.channel <;> cases outcome <;>
    simp [countPanic, current, task.run_ending, silent, channel, emit]

theorem Reachable.current_of_ended {s : State β ρ} (reached : Reachable settings queueId s)
    {i : Nat} {w : Worker (Numbered β)} (here : s.pool.worker? i = some w) {outcome : Outcome ρ}
    (post : s.posts i = .ended outcome) : ∃ task, w.batch.head? = some task := by
  have coherent := reached.coherent i w here
  rw [post] at coherent
  obtain ⟨task, rest, batch⟩ := List.exists_cons_of_ne_nil coherent.2
  exact ⟨task, by rw [batch, List.head?_cons]⟩

theorem Step.tick {s t : State β ρ} {a : Action β ρ} (reached : Reachable settings queueId s)
    (step : Step s a t) : Tick s a t.pool.stats := by
  cases step with
  | offer token call =>
      rcases s.offer_cases token call with ⟨_, _, _, result⟩ | ⟨_, _, result⟩ <;>
        exact result ▸ .still _
  | tally k offer pending =>
      cases decision : offer.decision with
      | admitted token =>
          simp only [State.tally, decision]
          exact .schedule k offer token pending decision
      | refused | foreign =>
          simp only [State.tally, decision]
          exact .reject k offer pending (by simp [decision])
  | report i w outcome here post =>
      obtain ⟨task, head⟩ := reached.current_of_ended here post
      have current : s.pool.current? i = some task := by rw [s.pool.current?_eq here, head]
      simp only [State.report, countPanic_stats _ current]
      cases channel : task.channel <;> cases outcome <;> simp only [silent, channel]
      case none.panicked payload => exact .panic i task payload current channel post
      all_goals exact .still _
  | count i w task here head post =>
      have current : s.pool.current? i = some task := by rw [s.pool.current?_eq here, head]
      rw [State.count, s.pool.countTask_eq i task current]
      exact .execute i task current post
  | check i w n here =>
      obtain ⟨_, result⟩ := s.pool.check_eq i _ here
      rw [State.check, result]
      exact .still _
  | raise closed =>
      obtain ⟨_, result⟩ := s.pool.trigger_eq
      rw [State.raise, result]
      exact .still _
  | countLeftovers k leftovers taken =>
      obtain ⟨_, result⟩ := s.pool.countLeftovers_eq leftovers
      rw [State.countLeftovers, result]
      exact .abandon k leftovers taken
  | _ => exact .still _

structure AtMost (a b : Stats) : Prop where
  scheduled : a.scheduled ≤ b.scheduled
  rejected : a.rejected ≤ b.rejected
  executed : a.executed ≤ b.executed
  panicked : a.panicked ≤ b.panicked
  abandoned : a.abandoned ≤ b.abandoned

theorem AtMost.refl (a : Stats) : AtMost a a := by
  constructor <;> exact Nat.le_refl _

theorem AtMost.trans {a b c : Stats} (first : AtMost a b) (second : AtMost b c) : AtMost a c where
  scheduled := first.scheduled.trans second.scheduled
  rejected := first.rejected.trans second.rejected
  executed := first.executed.trans second.executed
  panicked := first.panicked.trans second.panicked
  abandoned := first.abandoned.trans second.abandoned

theorem Tick.atMost {s : State β ρ} {a : Action β ρ} {stats : Stats} (tick : Tick s a stats) :
    AtMost s.pool.stats stats := by
  cases tick <;> constructor <;> first | exact Nat.le_refl _ | exact Nat.le_add_right _ _

theorem Run.atMost {s t : State β ρ} {actions : List (Action β ρ)} (run : Run s actions t)
    (reached : Reachable settings queueId s) : AtMost s.pool.stats t.pool.stats := by
  induction run with
  | nil => exact .refl _
  | cons first _ ih => exact (first.tick reached).atMost.trans (ih (reached.step first))

def Decided.admits (offer : Decided) : Nat :=
  match offer.decision with
  | .admitted _ => offer.tasks
  | _ => 0

def Decided.refuses (offer : Decided) : Nat :=
  match offer.decision with
  | .admitted _ => 0
  | _ => offer.tasks

theorem sum_eraseIdx {α : Type} (measure : α → Nat) (entries : List α) (k : Nat) (entry : α)
    (here : entries[k]? = some entry) :
    ((entries.eraseIdx k).map measure).sum + measure entry = (entries.map measure).sum := by
  obtain ⟨inside, found⟩ := List.getElem?_eq_some_iff.mp here
  have same := ((List.getElem_cons_eraseIdx_perm inside).map measure).sum_nat
  rw [found, List.map_cons, List.sum_cons] at same
  omega

theorem Step.offers_eq {s t : State β ρ} {a : Action β ρ} (step : Step s a t)
    (offers : ∀ token call, a ≠ .offer token call) (tallies : ∀ k, a ≠ .tally k) :
    t.decided = s.decided ∧ t.admitted = s.admitted ∧ t.refused = s.refused ∧
      t.pool.stats.scheduled = s.pool.stats.scheduled ∧
      t.pool.stats.rejected = s.pool.stats.rejected := by
  cases step with
  | offer token call => exact absurd rfl (offers token call)
  | tally k => exact absurd rfl (tallies k)
  | report i w outcome =>
      obtain ⟨_, _, result⟩ := s.pool.countPanic_eq i outcome
      simp [State.report, State.stand, result]
  | count i w task here head =>
      have current : s.pool.current? i = some task := by rw [s.pool.current?_eq here, head]
      simp [State.count, State.stand, s.pool.countTask_eq i task current, Stats.execute]
  | check i n w here =>
      obtain ⟨_, result⟩ := s.pool.check_eq i _ here
      simp [State.check, result]
  | raise =>
      obtain ⟨_, result⟩ := s.pool.trigger_eq
      simp [State.raise, result]
  | countLeftovers k leftovers =>
      obtain ⟨_, result⟩ := s.pool.countLeftovers_eq leftovers
      simp [State.countLeftovers, result, Stats.abandon]
  | _ => exact ⟨rfl, rfl, rfl, rfl, rfl⟩

theorem Reachable.tallied {s : State β ρ} (reached : Reachable settings queueId s) :
    s.pool.stats.scheduled + (s.decided.map Decided.admits).sum = s.admitted.flatten.length ∧
      s.pool.stats.rejected + (s.decided.map Decided.refuses).sum = s.refused.flatten.length := by
  apply reached.invariant (P := fun s =>
    s.pool.stats.scheduled + (s.decided.map Decided.admits).sum = s.admitted.flatten.length ∧
      s.pool.stats.rejected + (s.decided.map Decided.refuses).sum = s.refused.flatten.length)
  · exact ⟨rfl, rfl⟩
  · intro s a t _ step before
    have others := step.offers_eq
    cases step with
    | offer token call =>
        rcases s.offer_cases token call with ⟨_, _, decision, result⟩ | ⟨decision, refused, result⟩
        · rw [result]
          simp only [List.map_append, List.sum_append, List.map_singleton, List.sum_singleton,
            List.flatten_append, List.flatten_singleton, List.length_append, Decided.admits,
            Decided.refuses]
          omega
        · have counts (tasks : Nat) (event : Option Event) :
              (Decided.mk tasks event decision).admits = 0 ∧
                (Decided.mk tasks event decision).refuses = tasks := by
            cases decision with
            | admitted token => exact absurd rfl (refused token)
            | refused | foreign => exact ⟨rfl, rfl⟩
          rw [result]
          simp only [List.map_append, List.sum_append, List.map_singleton, List.sum_singleton,
            List.flatten_append, List.flatten_singleton, List.length_append, counts]
          omega
    | tally k offer pending =>
        have admits := sum_eraseIdx Decided.admits s.decided k offer pending
        have refuses := sum_eraseIdx Decided.refuses s.decided k offer pending
        cases decision : offer.decision <;>
          simp only [Decided.admits, Decided.refuses, decision] at admits refuses <;>
          simp only [State.tally, Pool.tally, decision, Stats.schedule, Stats.reject] <;>
          omega
    | _ =>
        obtain ⟨decided, admitted, refused, scheduled, rejected⟩ := others (by simp) (by simp)
        rwa [decided, admitted, refused, scheduled, rejected]

def Post.unheard : Post ρ → Bool
  | .ended _ | .reported => true
  | _ => false

def unexecuted (_ : Worker (Numbered β)) (post : Post ρ) : Nat := post.unheard.toNat

def unreported (w : Worker (Numbered β)) : Post ρ → Nat
  | .ended outcome => if w.batch.head?.any (silent · outcome) then 1 else 0
  | _ => 0

theorem Stride.unheard_eq {s : State β ρ} {i : Nat} {a : Action β ρ} {w w' : Worker (Numbered β)}
    {post post' : Post ρ} (stride : Stride s i a w post w' post')
    (finishes : ∀ outcome, a ≠ .finish i outcome) (reports : a ≠ .report i)
    (counts : a ≠ .count i) :
    unexecuted w' post' = unexecuted w post ∧ unreported w' post' = unreported w post := by
  cases stride with
  | elsewhere | enter | fetch | begin | check => exact ⟨rfl, rfl⟩
  | finish w task outcome => exact absurd rfl (finishes outcome)
  | report => exact absurd rfl reports
  | count => exact absurd rfl counts

theorem Step.unheard_eq {s t : State β ρ} {a : Action β ρ} (step : Step s a t)
    (finishes : ∀ i outcome, a ≠ .finish i outcome) (reports : ∀ i, a ≠ .report i)
    (counts : ∀ i, a ≠ .count i) :
    t.total unexecuted = s.total unexecuted ∧ t.total unreported = s.total unreported := by
  rcases step.workers with ⟨_, workers, posts⟩ | ⟨i, w, f, post, one⟩
  · exact ⟨s.total_congr unexecuted workers posts, s.total_congr unreported workers posts⟩
  · have same := one.stride.unheard_eq (finishes i) (reports i) (counts i)
    have executed := State.total_modify one.here one.workers one.posts unexecuted
    have reported := State.total_modify one.here one.workers one.posts unreported
    omega

theorem Step.ends_eq {s t : State β ρ} {a : Action β ρ} (step : Step s a t)
    (finishes : ∀ i outcome, a ≠ .finish i outcome) (reports : ∀ i, a ≠ .report i)
    (counts : ∀ i, a ≠ .count i) :
    t.ran = s.ran ∧ t.pool.stats.executed = s.pool.stats.executed ∧
      t.pool.stats.panicked = s.pool.stats.panicked := by
  cases step with
  | offer token call =>
      rcases s.offer_cases token call with ⟨_, _, _, result⟩ | ⟨_, _, result⟩ <;> simp [result]
  | tally k offer =>
      obtain ⟨_, _, _, result⟩ := s.pool.tally_eq offer.tasks offer.event offer.decision
      simp [State.tally, result]
  | finish i w task outcome => exact absurd rfl (finishes i outcome)
  | report i => exact absurd rfl (reports i)
  | count i => exact absurd rfl (counts i)
  | check i n w here =>
      obtain ⟨_, result⟩ := s.pool.check_eq i _ here
      simp [State.check, result]
  | raise =>
      obtain ⟨_, result⟩ := s.pool.trigger_eq
      simp [State.raise, result]
  | countLeftovers k leftovers =>
      obtain ⟨_, result⟩ := s.pool.countLeftovers_eq leftovers
      simp [State.countLeftovers, result, Stats.abandon]
  | _ => exact ⟨rfl, rfl, rfl⟩

def Ran.silent (run : Ran β ρ) : Bool := Interleaving.silent run.task run.outcome

theorem Reachable.heard {s : State β ρ} (reached : Reachable settings queueId s) :
    s.pool.stats.executed + s.total unexecuted = s.ran.length ∧
      s.pool.stats.panicked + s.total unreported = s.ran.countP Ran.silent := by
  apply reached.invariant (P := fun s =>
    s.pool.stats.executed + s.total unexecuted = s.ran.length ∧
      s.pool.stats.panicked + s.total unreported = s.ran.countP Ran.silent)
  · have nothing (measure : Worker (Numbered β) → Post ρ → Nat)
        (idle : ∀ w, measure w .idle = 0) :
        (State.start settings queueId : State β ρ).total measure = 0 := by
      apply Finset.sum_eq_zero
      intro i _
      unfold State.leftTo
      split
      · exact idle _
      · rfl
    rw [nothing unexecuted fun _ => rfl, nothing unreported fun _ => rfl]
    exact ⟨rfl, rfl⟩
  · intro s a t reached step before
    have others := step.unheard_eq
    have same := step.ends_eq
    -- The end of a body, its report and its count move these sums, and no other step does.
    cases step with
    | finish i w task outcome here current post =>
        have modified : (s.finish i task outcome).pool.workers = s.pool.workers.modify i id := by
          simp [State.finish, State.stand]
        have executed := State.total_modify here modified rfl unexecuted
        have reported := State.total_modify here modified rfl unreported
        have ran : (s.finish i task outcome).ran = s.ran ++ [⟨i, task, outcome⟩] := rfl
        simp only [unexecuted, unreported, post, id, current, Option.any_some, Post.unheard,
          Bool.toNat_true, Bool.toNat_false] at executed reported
        rw [ran, List.length_append, List.length_singleton, List.countP_append,
          List.countP_singleton, Ran.silent]
        change s.pool.stats.executed + _ = _ ∧ s.pool.stats.panicked + _ = _
        cases unheard : silent task outcome <;>
          simp only [unheard, Bool.false_eq_true, if_false, if_true] at reported ⊢ <;> omega
    | report i w outcome here post =>
        obtain ⟨task, head⟩ := reached.current_of_ended here post
        have current : s.pool.current? i = some task := by rw [s.pool.current?_eq here, head]
        obtain ⟨_, _, result⟩ := s.pool.countPanic_eq i outcome
        have modified : (s.report i outcome).pool.workers = s.pool.workers.modify i id := by
          simp [State.report, State.stand, result]
        have executed := State.total_modify here modified rfl unexecuted
        have reported := State.total_modify here modified rfl unreported
        simp only [unexecuted, unreported, post, head, Option.any_some, Post.unheard,
          Bool.toNat_true] at executed reported
        have ran : (s.report i outcome).ran = s.ran := rfl
        have stats : (s.report i outcome).pool.stats =
            if silent task outcome then s.pool.stats.panic else s.pool.stats :=
          countPanic_stats s.pool current outcome
        rw [ran, stats]
        cases unheard : silent task outcome <;>
          simp only [unheard, Bool.false_eq_true, if_false, if_true, Stats.panic] at reported ⊢ <;>
          omega
    | count i w task here head post =>
        have current : s.pool.current? i = some task := by rw [s.pool.current?_eq here, head]
        have result := s.pool.countTask_eq i task current
        have modified : (s.count i).pool.workers = s.pool.workers.modify i
            fun w => { w with batch := w.batch.tail } := by
          rw [State.count, result]
        have executed := State.total_modify here modified rfl unexecuted
        have reported := State.total_modify here modified rfl unreported
        simp only [unexecuted, unreported, post, Post.unheard, Bool.toNat_true,
          Bool.toNat_false] at executed reported
        have stats : (s.count i).pool.stats = s.pool.stats.execute := by rw [State.count, result]
        have ran : (s.count i).ran = s.ran := rfl
        rw [stats, ran]
        simp only [Stats.execute]
        omega
    | _ =>
        obtain ⟨executed, reported⟩ := others (by simp) (by simp) (by simp)
        obtain ⟨ran, counted, panicked⟩ := same (by simp) (by simp) (by simp)
        rwa [ran, counted, panicked, executed, reported]

/-- Nobody is between what it has done and the counter of it. -/
structure State.Quiet (s : State β ρ) : Prop where
  offers : s.decided = []
  workers : ∀ i < s.pool.workers.length, (s.posts i).unheard = false
  joins : ∀ leaving ∈ s.joining, leaving.counted = true

theorem State.Quiet.heard {s : State β ρ} (quiet : s.Quiet) :
    s.total unexecuted = 0 ∧ s.total unreported = 0 := by
  constructor <;> apply Finset.sum_eq_zero <;> intro i inside <;> unfold State.leftTo
  all_goals
    have heard := quiet.workers i (Finset.mem_range.mp inside)
    split
    · cases post : s.posts i <;> simp_all [Post.unheard, unexecuted, unreported]
    · rfl

theorem State.Quiet.uncounted {s : State β ρ} (quiet : s.Quiet) : s.uncounted = [] := by
  apply List.flatMap_eq_nil_iff.mpr
  intro leaving member
  rw [Leaving.uncounted, if_pos (quiet.joins leaving member)]

/-- The counters tell what has become of the tasks that were offered. -/
structure Exact (s : State β ρ) : Prop where
  scheduled : s.pool.stats.scheduled = s.admitted.flatten.length
  rejected : s.pool.stats.rejected = s.refused.flatten.length
  offered : s.pool.stats.scheduled + s.pool.stats.rejected = s.offered
  executed : s.pool.stats.executed = s.ran.length
  abandoned : s.pool.stats.abandoned =
    s.dropped.length + (s.joining.map Leaving.tasks).flatten.length
  panicked : s.pool.stats.panicked = s.ran.countP Ran.silent
  balance : s.pool.stats.scheduled = s.pool.stats.executed + s.pool.stats.abandoned +
    s.pool.queue.length + s.batched.length

theorem Reachable.offered_eq {s : State β ρ} (reached : Reachable settings queueId s) :
    s.admitted.flatten.length + s.refused.flatten.length = s.offered := by
  have numbers := reached.numbers.length_eq
  rwa [List.length_append, List.length_map, List.length_map, List.length_range] at numbers

theorem Reachable.exact_of_quiet {s : State β ρ} (reached : Reachable settings queueId s)
    (quiet : s.Quiet) : Exact s := by
  obtain ⟨scheduled, rejected⟩ := reached.tallied
  obtain ⟨executed, panicked⟩ := reached.heard
  obtain ⟨fetched, taken⟩ := reached.counted
  simp only [quiet.offers, List.map_nil, List.sum_nil, Nat.add_zero] at scheduled rejected
  simp only [quiet.heard, Nat.add_zero] at executed panicked
  simp only [quiet.uncounted, List.length_nil, Nat.add_zero] at taken
  have offered := reached.offered_eq
  have dropped := reached.removed_perm.length_eq
  have order := congrArg List.length reached.order
  rw [List.length_append] at dropped
  rw [List.length_append, List.length_append] at order
  refine ⟨scheduled, rejected, ?_, executed, ?_, panicked, ?_⟩
  · rw [scheduled, rejected, offered]
  · rw [taken, dropped]
  · unfold Queue.length
    omega

/-- Whenever nobody is behind with a counter, all counters are exact, each is moved by its own kind
of step alone, and none ever goes back. -/
theorem Reachable.statistics {s : State β ρ} (reached : Reachable settings queueId s) :
    (s.Quiet → Exact s) ∧ (∀ a t, Step s a t → Tick s a t.pool.stats) ∧
      ∀ actions t, Run s actions t → AtMost s.pool.stats t.pool.stats :=
  ⟨reached.exact_of_quiet, fun _ _ step => step.tick reached, fun _ _ run => run.atMost reached⟩

theorem statistics_before_drop : ∃ s : State Unit Unit,
    Reachable { workers := .fixed 1, batchSize := 2, capacity := some 3, stopPolicy := .abandon } 0
        s ∧
      s.Quiet ∧ s.pool.stats = ⟨3, 6, 2, 1, 1⟩ ∧ Exact s := by
  have reached : Reachable
      { workers := .fixed 1, batchSize := 2, capacity := some 3, stopPolicy := .abandon } 0
      (_ : State Unit Unit) :=
    .of_replay? [.offer none (.bulk [(), (), (), ()]), .offer none (.schedule ()), .tally 1,
      .offer none (.forget ()), .offer (some { queueId := 7 }) (.schedule ()), .tally 2, .tally 0,
      .enter 0, .fetch 0, .begin 0, .offer none (.forget ()), .finish 0 (.panicked .other),
      .report 0, .count 0, .tally 0, .begin 0, .finish 0 (.panicked (.text "late")), .close,
      .report 0, .count 0, .raise, .offer none (.bulk [()]), .check 0, .tally 0, .tally 0,
      .await, .takeLeftovers, .countLeftovers 0] rfl
  refine ⟨_, reached, ?quiet, rfl, reached.statistics.1 ?quiet⟩
  exact ⟨rfl, by decide, by decide⟩

end WorkerPool.Pool.Interleaving
