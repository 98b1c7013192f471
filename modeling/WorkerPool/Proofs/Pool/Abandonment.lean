import Mathlib.Algebra.Order.BigOperators.Group.Finset
import WorkerPool.Proofs.Pool.Account
import WorkerPool.Proofs.Pool.Resolution

namespace WorkerPool.Pool.Interleaving

variable {β ρ : Type} {settings : PoolSettings} {queueId : Nat}

def Action.entered? : Action β ρ → Option Nat
  | enter i => some i
  | _ => none

def Action.started? : Action β ρ → Option Nat
  | begin i => some i
  | _ => none

theorem Action.worker?_of_entered? {a : Action β ρ} {i : Nat} (entered : a.entered? = some i) :
    a.worker? = some i := by
  cases a <;> first | exact entered | cases entered

theorem Action.worker?_of_started? {a : Action β ρ} {i : Nat} (started : a.started? = some i) :
    a.worker? = some i := by
  cases a <;> first | exact started | cases started

/-- How many fetches a worker can still begin once the signal is raised. -/
def entersLeft (w : Worker (Numbered β)) : Post ρ → Nat
  | .idle => if w.stage = .fetching then 1 else 0
  | _ => 0

def startsLeft (size : Nat) (w : Worker (Numbered β)) : Post ρ → Nat
  | .idle => if w.stage = .fetching then size else w.batch.length
  | .waiting => size
  | _ => w.batch.length - 1

def State.leftTo (s : State β ρ) (left : Worker (Numbered β) → Post ρ → Nat) (i : Nat) : Nat :=
  match s.pool.worker? i with
  | some w => left w (s.posts i)
  | none => 0

theorem Step.leftTo {s t : State β ρ} {a : Action β ρ} (step : Step s a t)
    (f : Worker (Numbered β) → Post ρ → Nat) (i : Nat) :
    (a.worker? ≠ some i ∧ s.leftTo f i = 0 ∧ t.leftTo f i = 0) ∨
      ∃ w w', s.pool.worker? i = some w ∧ Stride s i a w (s.posts i) w' (t.posts i) ∧
        s.leftTo f i = f w (s.posts i) ∧ t.leftTo f i = f w' (t.posts i) := by
  cases here : t.pool.worker? i with
  | none =>
      have outside := List.getElem?_eq_none_iff.mp here
      have nobody : s.pool.worker? i = none := by
        apply List.getElem?_eq_none_iff.mpr
        rwa [← step.workers_length]
      refine .inl ⟨fun mine => Nat.not_lt_of_le outside (step.inside mine), ?_, ?_⟩
      · simp [State.leftTo, nobody]
      · simp [State.leftTo, here]
  | some w' =>
      obtain ⟨w, before, stride⟩ := step.stride here
      exact .inr ⟨w, w', before, stride, by simp [State.leftTo, before],
        by simp [State.leftTo, here]⟩

theorem check_abandon {w : Worker (Numbered β)} {n : Nat} (stage : w.stage = .running n) :
    (w.check true .abandon).stage = .exited := by
  simp only [Worker.check, stage]
  split <;> rfl

theorem Stride.enters {s : State β ρ} {i : Nat} {a : Action β ρ} {w w' : Worker (Numbered β)}
    {post post' : Post ρ} (stride : Stride s i a w post w' post') (coherent : Coherent w post)
    (raised : s.pool.signal.raised = true) (abandons : s.pool.settings.stopPolicy = .abandon) :
    (if a.entered? = some i then 1 else 0) + entersLeft w' post' ≤ entersLeft w post := by
  cases stride with
  | elsewhere _ _ _ other =>
      rw [if_neg fun entered => other (Action.worker?_of_entered? entered), Nat.zero_add]
  | enter w stage => simp [Action.entered?, entersLeft, stage]
  | fetch | begin | finish | report => simp [Action.entered?, entersLeft]
  | count w =>
      obtain ⟨⟨n, stage⟩, _⟩ := coherent
      simp [Action.entered?, entersLeft, stage]
  | check w n stage done =>
      rw [raised, abandons]
      simp [Action.entered?, entersLeft, check_abandon stage]

theorem Stride.starts {s : State β ρ} {i : Nat} {a : Action β ρ} {w w' : Worker (Numbered β)}
    {post post' : Post ρ} (stride : Stride s i a w post w' post') (coherent : Coherent w post)
    (raised : s.pool.signal.raised = true) (abandons : s.pool.settings.stopPolicy = .abandon) :
    (if a.started? = some i then 1 else 0) + startsLeft s.pool.settings.batchSize w' post' ≤
      startsLeft s.pool.settings.batchSize w post := by
  cases stride with
  | elsewhere _ _ _ other =>
      rw [if_neg fun started => other (Action.worker?_of_started? started), Nat.zero_add]
  | enter w stage => simp [Action.started?, startsLeft, stage]
  | fetch w batch brought => simp [Action.started?, startsLeft, coherent.2, brought]
  | begin w n stage more =>
      have some : 1 + (w.batch.length - 1) ≤ w.batch.length := by
        have := List.length_pos_of_ne_nil more
        omega
      simpa [Action.started?, startsLeft, stage] using some
  | finish | report => simp [Action.started?, startsLeft]
  | count w =>
      obtain ⟨⟨n, stage⟩, _⟩ := coherent
      simp [Action.started?, startsLeft, stage]
  | check w n stage done =>
      rw [raised, abandons]
      simp [Action.started?, startsLeft, check_abandon stage, check_batch, done]

theorem Run.count_le {s t : State β ρ} {actions : List (Action β ρ)} (run : Run s actions t)
    (pick : Action β ρ → Option Nat) (own : ∀ {a i}, pick a = some i → a.worker? = some i)
    (left : Worker (Numbered β) → Post ρ → Nat)
    (spends : ∀ {s i a w w' post post'}, Stride s i a w post w' post' → Coherent w post →
      s.pool.settings = settings → s.pool.signal.raised = true →
      (if pick a = some i then 1 else 0) + left w' post' ≤ left w post)
    (reached : Reachable settings queueId s) (raised : s.pool.signal.raised = true) (i : Nat) :
    (actions.filterMap pick).count i + t.leftTo left i ≤ s.leftTo left i := by
  refine run.countP_le (P := fun s => Reachable settings queueId s ∧ s.pool.signal.raised = true)
    (f := fun s => s.leftTo left i) pick (· == i) ?_ ?_ ⟨reached, raised⟩
  · rintro s a t step ⟨reached, raised⟩
    exact ⟨reached.step step, step.raised reached raised⟩
  · rintro s a t step ⟨reached, raised⟩
    have picked : (pick a).toList.countP (· == i) = if pick a = some i then 1 else 0 := by
      cases pick a <;> simp [List.countP_singleton]
    rw [picked]
    rcases step.leftTo left i with ⟨other, before, after⟩ | ⟨w, w', here, stride, before, after⟩
    · rw [if_neg fun picked => other (own picked), before, after]
    · rw [before, after]
      exact spends stride (reached.coherent i w here) reached.settings_eq raised

theorem Run.inside {s t : State β ρ} {actions : List (Action β ρ)} (run : Run s actions t)
    {i : Nat} {a : Action β ρ} (member : a ∈ actions) (mine : a.worker? = some i) :
    i < s.pool.workers.length := by
  induction run with
  | nil => cases member
  | cons first _ ih =>
      rw [← first.workers_length]
      rcases List.mem_cons.mp member with rfl | later
      · exact first.inside mine
      · exact ih later

theorem Stride.batch_length {s : State β ρ} {i : Nat} {a : Action β ρ}
    {w w' : Worker (Numbered β)} {post post' : Post ρ} (stride : Stride s i a w post w' post')
    (coherent : Coherent w post) (bound : w.batch.length ≤ s.pool.settings.batchSize) :
    w'.batch.length ≤ s.pool.settings.batchSize := by
  cases stride with
  | elsewhere | enter | begin | finish | report => exact bound
  | fetch w batch brought =>
      rw [brought, coherent.2]
      exact List.length_take_le _ _
  | count w =>
      rw [List.length_tail]
      omega
  | check => rwa [check_batch]

theorem Reachable.batch_length {s : State β ρ} (reached : Reachable settings queueId s) :
    ∀ i w, s.pool.worker? i = some w → w.batch.length ≤ settings.batchSize := by
  apply reached.everyWorker (P := fun _ w _ => w.batch.length ≤ settings.batchSize)
  · intro w fresh
    rw [fresh.1]
    exact Nat.zero_le _
  · intro s t a i w w' reached _ here stride bound
    rw [← reached.settings_eq] at bound ⊢
    exact stride.batch_length (reached.coherent i w here) bound

theorem State.leftTo_le {s : State β ρ} {left : Worker (Numbered β) → Post ρ → Nat} {most : Nat}
    (bound : ∀ i w, s.pool.worker? i = some w → left w (s.posts i) ≤ most) (i : Nat) :
    s.leftTo left i ≤ most := by
  unfold State.leftTo
  split
  · next w here => exact bound i w here
  · exact Nat.zero_le most

theorem entersLeft_le (w : Worker (Numbered β)) (post : Post ρ) : entersLeft w post ≤ 1 := by
  cases post with
  | idle =>
      simp only [entersLeft]
      split <;> omega
  | _ => exact Nat.zero_le 1

theorem startsLeft_le {size : Nat} {w : Worker (Numbered β)} (bound : w.batch.length ≤ size)
    (post : Post ρ) : startsLeft size w post ≤ size := by
  cases post with
  | idle =>
      simp only [startsLeft]
      split <;> omega
  | waiting => exact Nat.le_refl size
  | _ => exact (Nat.sub_le _ _).trans bound

theorem Run.enters_le {s t : State β ρ} {actions : List (Action β ρ)} (run : Run s actions t)
    (reached : Reachable settings queueId s) (raised : s.pool.signal.raised = true)
    (abandons : settings.stopPolicy = .abandon) (i : Nat) :
    (actions.filterMap Action.entered?).count i ≤ 1 := by
  have spent := run.count_le Action.entered? Action.worker?_of_entered? entersLeft
    (fun stride coherent same raised => stride.enters coherent raised (by rw [same, abandons]))
    reached raised i
  have most := s.leftTo_le (fun i w _ => entersLeft_le w (s.posts i)) i
  omega

theorem Run.starts_le {s t : State β ρ} {actions : List (Action β ρ)} (run : Run s actions t)
    (reached : Reachable settings queueId s) (raised : s.pool.signal.raised = true)
    (abandons : settings.stopPolicy = .abandon) (i : Nat) :
    (actions.filterMap Action.started?).count i ≤ settings.batchSize := by
  have spent := run.count_le Action.started? Action.worker?_of_started?
    (startsLeft settings.batchSize)
    (fun stride coherent same raised => by
      have spent := stride.starts coherent raised (by rw [same, abandons])
      rwa [same] at spent)
    reached raised i
  have most := s.leftTo_le
    (fun i w here => startsLeft_le (reached.batch_length i w here) (s.posts i)) i
  omega

theorem length_le_of_count {entries : List Nat} {places most : Nat}
    (inside : ∀ i ∈ entries, i < places) (count : ∀ i, entries.count i ≤ most) :
    entries.length ≤ places * most := by
  have covered : entries.toFinset ⊆ Finset.range places := fun i member =>
    Finset.mem_range.mpr (inside i (List.mem_toFinset.mp member))
  calc
    entries.length = ∑ i ∈ entries.toFinset, entries.count i :=
      (List.sum_toFinset_count_eq_length entries).symm
    _ ≤ entries.toFinset.card • most := Finset.sum_le_card_nsmul _ _ _ fun i _ => count i
    _ ≤ places * most := by
      have card : entries.toFinset.card ≤ places := by
        simpa using Finset.card_le_card covered
      rw [Nat.nsmul_eq_mul]
      exact Nat.mul_le_mul_right most card

def Whole (l : Ledger β ρ) : Prop :=
  (l.dropped = [] ∨ l.dropped = l.removed) ∧ ∀ tasks ∈ l.leaving, tasks = [] ∨ tasks = l.removed

theorem Entry.whole {l m : Ledger β ρ} (entry : Entry l m)
    (split : l.removed.Perm (l.dropped ++ l.leaving.flatten))
    (once : l.removed = [] ∨ l.queue.items = []) (whole : Whole l) : Whole m := by
  obtain ⟨dropped, leaving⟩ := whole
  cases entry with
  | remove =>
      rcases once with untouched | empty
      · rw [untouched] at split
        obtain ⟨nothing, left⟩ := List.append_eq_nil_iff.mp split.nil_eq.symm
        have all := List.flatten_eq_nil_iff.mp left
        constructor
        · exact .inl nothing
        · rw [List.forall_mem_append, List.forall_mem_singleton, untouched, List.nil_append]
          exact ⟨fun tasks member => .inl (all tasks member), .inr rfl⟩
      · constructor
        · rwa [empty, List.append_nil]
        · rw [List.forall_mem_append, List.forall_mem_singleton, empty, List.append_nil]
          exact ⟨leaving, .inl rfl⟩
  | drop k leftovers taken =>
      have member := List.mem_of_getElem? taken
      constructor
      · rcases dropped with first | already
        · rw [first, List.nil_append]
          exact leaving leftovers member
        · -- All that joins took was dropped before, so nothing is left to this one.
          have total := split.length_eq
          rw [already, List.length_append] at total
          have left : l.leaving.flatten = [] := List.length_eq_zero_iff.mp (by omega)
          have nothing := List.flatten_eq_nil_iff.mp left leftovers member
          rw [already, nothing, List.append_nil]
          exact .inr rfl
      · intro tasks later
        exact leaving tasks (List.mem_of_mem_eraseIdx later)
  | _ => exact ⟨dropped, leaving⟩

theorem Reachable.whole {s : State β ρ} (reached : Reachable settings queueId s) :
    s.early = 0 → Whole s.ledger := by
  apply reached.invariant (P := fun s => s.early = 0 → Whole s.ledger)
  · exact fun _ => ⟨.inl rfl, fun tasks member => nomatch member⟩
  · intro s a t reached step before later
    have punctual : s.early = 0 := Nat.le_zero.mp (later ▸ (step.entry reached).early_le)
    have once : s.removed = [] ∨ s.pool.queue.items = [] := by
      by_cases untouched : s.removed = []
      · exact .inl untouched
      · exact .inr (reached.empty_of_joined punctual (.inl untouched)).2
    exact (step.entry reached).whole reached.removed_perm once (before punctual)

theorem Reachable.dropped_perm {s : State β ρ} (reached : Reachable settings queueId s)
    (alone : s.joining = []) : s.dropped.Perm s.removed := by
  have split := reached.removed_perm
  rw [alone, List.map_nil, List.flatten_nil, List.append_nil] at split
  exact split.symm

theorem Reachable.dropped_eq {s : State β ρ} (reached : Reachable settings queueId s)
    (punctual : s.early = 0) (alone : s.joining = []) : s.dropped = s.removed := by
  rcases (reached.whole punctual).1 with nothing | everything
  · have none : s.dropped = [] := nothing
    have dropped := reached.dropped_perm alone
    rw [none] at dropped
    rw [none, dropped.symm.eq_nil]
  · exact everything

theorem Reachable.executed_of_allExited {s : State β ρ} (reached : Reachable settings queueId s)
    (exited : s.pool.allExited = true) :
    s.pool.stats.executed = (s.batches.flatMap Prod.snd).length := by
  have none : s.batched = [] := by
    apply List.flatMap_eq_nil_iff.mpr
    intro w member
    obtain ⟨i, here⟩ := List.getElem?_of_mem member
    exact (reached.idle_of_exited here ((Pool.allExited_iff _).mp exited i w here)).1
  have executed := reached.counted.1
  rwa [none, List.length_nil, Nat.add_zero] at executed

/-- What a join has left of a pool. -/
structure Abandoned (s : State β ρ) : Prop where
  suffix : s.admitted.flatten = s.batches.flatMap Prod.snd ++ s.removed
  dropped : s.dropped.Perm s.removed
  whole : s.early = 0 → s.dropped = s.removed
  abandoned : s.pool.stats.abandoned = s.dropped.length
  channels : ∀ task ∈ s.dropped, ∀ c, task.channel = some c →
    (s.channels.read c).1 = some (.error .abandoned)
  executed : s.pool.stats.executed + s.pool.stats.abandoned = s.admitted.flatten.length

theorem Reachable.abandoned_of_returned {s : State β ρ} (reached : Reachable settings queueId s)
    (late : s.early < s.returned) (alone : s.joining = []) : Abandoned s := by
  have exited := reached.allExited_of_joined (.inr (.inr (Nat.zero_lt_of_lt late)))
  have empty := (reached.empty_of_late (Nat.lt_add_right _ late)).2
  have executed := reached.executed_of_allExited exited
  have dropped := reached.dropped_perm alone
  have suffix : s.admitted.flatten = s.batches.flatMap Prod.snd ++ s.removed := by
    rw [reached.order, empty, List.append_nil]
  have abandoned : s.pool.stats.abandoned = s.dropped.length := by
    have counted := reached.counted.2
    rw [State.uncounted, alone, List.flatMap_nil, List.length_nil, Nat.add_zero] at counted
    rw [dropped.length_eq, counted]
  have channels : ∀ task ∈ s.dropped, ∀ c, task.channel = some c →
      (s.channels.read c).1 = some (.error .abandoned) := by
    intro task member c channel
    have slot : s.channels.slot c = .abandoned := reached.resolved.dropped task member c channel
    rw [Channels.read, slot]
    rfl
  have total : s.pool.stats.executed + s.pool.stats.abandoned = s.admitted.flatten.length := by
    rw [suffix, List.length_append, executed, abandoned, dropped.length_eq]
  have whole := fun punctual => reached.dropped_eq punctual alone
  exact ⟨suffix, dropped, whole, abandoned, channels, total⟩

/-- After the signal each worker of a pool that abandons begins one more fetch at most and starts
one more batch of tasks at most, and what no worker has fetched a join drops. -/
theorem Reachable.abandonment {s : State β ρ} (reached : Reachable settings queueId s)
    (abandons : settings.stopPolicy = .abandon) :
    (s.pool.signal.raised = true → ∀ actions t, Run s actions t →
      (∀ i, (actions.filterMap Action.entered?).count i ≤ 1 ∧
        (actions.filterMap Action.started?).count i ≤ settings.batchSize) ∧
      (actions.filterMap Action.started?).length ≤ settings.workers.count * settings.batchSize) ∧
    (s.early < s.returned → s.joining = [] → Abandoned s) := by
  constructor
  · intro raised actions t run
    have enters := run.enters_le reached raised abandons
    have starts := run.starts_le reached raised abandons
    have inside : ∀ i ∈ actions.filterMap Action.started?, i < settings.workers.count := by
      intro i member
      obtain ⟨a, later, started⟩ := List.mem_filterMap.mp member
      rw [← reached.workers_length]
      exact run.inside later (Action.worker?_of_started? started)
    exact ⟨fun i => ⟨enters i, starts i⟩, length_le_of_count inside starts⟩
  · exact reached.abandoned_of_returned

theorem abandonment_after_raise : ∃ (s t : State Unit Unit) (actions : List (Action Unit Unit)),
    Reachable { workers := .fixed 2, batchSize := 2, stopPolicy := .abandon } 0 s ∧
      s.pool.signal.raised = true ∧ Run s actions t ∧
      (actions.filterMap Action.started?).length = 3 ∧
      (actions.filterMap Action.started?).length ≤ 2 * 2 ∧
      t.early < t.returned ∧ t.joining = [] ∧ t.dropped.length = 2 ∧ Abandoned t := by
  obtain ⟨s, t, actions, reached, raised, run, started, returned, alone, dropped⟩ :
      ∃ (s t : State Unit Unit) (actions : List (Action Unit Unit)),
        Reachable { workers := .fixed 2, batchSize := 2, stopPolicy := .abandon } 0 s ∧
        s.pool.signal.raised = true ∧ Run s actions t ∧
        (actions.filterMap Action.started?).length = 3 ∧
        t.early < t.returned ∧ t.joining = [] ∧ t.dropped.length = 2 :=
    ⟨_, _, _,
      .of_replay? [.offer none (.bulk [(), ()]), .enter 0, .fetch 0, .begin 0, .enter 1,
        .offer none (.bulk [(), (), ()]), .offer none (.schedule ()), .close, .raise] rfl, rfl,
      .of_replay? [.fetch 1, .begin 1, .finish 1 (.returned ()), .report 1, .count 1, .begin 1,
        .finish 0 (.panicked .other), .report 0, .count 0, .begin 0, .finish 0 (.returned ()),
        .finish 1 (.returned ()), .report 0, .report 1, .count 1, .count 0, .check 0, .check 1,
        .await, .takeLeftovers, .countLeftovers 0, .dropLeftovers 0] rfl, rfl, by decide, rfl, rfl⟩
  have after := reached.abandonment rfl
  have last := (reached.run run).abandonment rfl
  exact ⟨s, t, actions, reached, raised, run, started, (after.1 raised actions t run).2,
    returned, alone, dropped, last.2 returned alone⟩

end WorkerPool.Pool.Interleaving
