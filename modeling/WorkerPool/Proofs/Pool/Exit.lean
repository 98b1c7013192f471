import WorkerPool.Proofs.Pool.Log

namespace WorkerPool.Pool.Interleaving

variable {β ρ : Type} {settings : PoolSettings} {queueId : Nat}

def State.fetched (s : State β ρ) : Action β ρ → List (Nat × List (Task β))
  | .fetch i => [(i, s.pool.queue.items.take s.pool.settings.batchSize)]
  | _ => []

theorem State.fetched_elsewhere (s : State β ρ) {a : Action β ρ} {i : Nat}
    (other : a.worker? ≠ some i) :
    (s.fetched a).countP (fun batch => batch.1 = i && batch.2.isEmpty) = 0 := by
  cases a with
  | fetch j =>
      have apart : j ≠ i := fun same => other (congrArg some same)
      simp [State.fetched, apart]
  | _ => rfl

theorem Step.batches {s t : State β ρ} {a : Action β ρ} (step : Step s a t) :
    t.batches = s.batches ++ s.fetched a := by
  by_cases fetches : ∃ i, a = .fetch i
  · obtain ⟨i, rfl⟩ := fetches
    cases step
    rfl
  · have none : s.fetched a = [] := by
      cases a <;> first | rfl | exact absurd ⟨_, rfl⟩ fetches
    rw [step.batches_eq fun i same => fetches ⟨i, same⟩, none, List.append_nil]

theorem Run.batches {s t : State β ρ} {actions : List (Action β ρ)} (run : Run s actions t) :
    ∃ later, t.batches = s.batches ++ later := by
  apply run.preserves (P := fun t => ∃ later, t.batches = s.batches ++ later)
  · rintro u a v step ⟨later, before⟩
    exact ⟨later ++ u.fetched a, by rw [step.batches, before, List.append_assoc]⟩
  · exact ⟨[], (List.append_nil _).symm⟩

theorem Step.queue_length {s t : State β ρ} {a : Action β ρ} (step : Step s a t)
    (closed : s.pool.queue.closed = true) :
    t.pool.queue.length + ((s.fetched a).flatMap Prod.snd).length ≤ s.pool.queue.length := by
  cases step with
  | offer token call =>
      rcases s.offer_cases token call with ⟨opened, _⟩ | ⟨_, _, result⟩
      · simp [closed] at opened
      · simp [result, State.fetched]
  | tally k offer =>
      obtain ⟨_, _, _, result⟩ := s.pool.tally_eq offer.tasks offer.event offer.decision
      simp [State.tally, result, State.fetched]
  | fetch i w here post =>
      change (s.pool.queue.items.drop _).length + _ ≤ s.pool.queue.items.length
      simp only [State.fetched, List.flatMap_singleton, List.length_drop, List.length_take]
      omega
  | report i w outcome =>
      obtain ⟨_, _, result⟩ := s.pool.countPanic_eq i outcome
      simp [State.report, State.stand, result, State.fetched]
  | count i w task here current =>
      have result := s.pool.countTask_eq i task (by rw [s.pool.current?_eq here, current])
      simp [State.count, State.stand, result, State.fetched]
  | check i n w here =>
      obtain ⟨_, result⟩ := s.pool.check_eq i w here
      simp [State.check, result, State.fetched]
  | raise =>
      obtain ⟨_, result⟩ := s.pool.trigger_eq
      simp [State.raise, result, State.fetched]
  | countLeftovers k leftovers =>
      obtain ⟨_, result⟩ := s.pool.countLeftovers_eq leftovers
      simp [State.countLeftovers, result, State.fetched]
  | takeLeftovers => exact Nat.zero_le _
  | enter | begin | finish | close | await | dropLeftovers | selfJoin | read => exact Nat.le_refl _

/-- How many fetches that bring nothing a worker still ends once the signal is raised. -/
def emptiesLeft (w : Worker (Numbered β)) : Nat :=
  match w.stage with
  | .fetching => if w.draining then 1 else 2
  | .running n => if w.draining && n == 0 then 0 else 1
  | .exited => 0

def emptiesAhead (w : Worker (Numbered β)) : Post ρ → Nat
  | .waiting => emptiesLeft w - 1
  | _ => emptiesLeft w

def Post.spent : Post ρ → Nat
  | .idle => 0
  | .waiting | .busy => 1
  | .ended _ => 2
  | .reported => 3

/-- How many steps a worker still takes if its batch is the last that brings anything: four for a
task, two for a fetch, and one to look at the signal. -/
def stepsLeft (w : Worker (Numbered β)) (post : Post ρ) : Nat :=
  4 * w.batch.length + 3 * emptiesLeft w + (match w.stage with | .running _ => 1 | _ => 0) -
    post.spent

theorem emptiesLeft_le (w : Worker (Numbered β)) : emptiesLeft w ≤ 2 := by
  unfold emptiesLeft
  split <;> (try split) <;> omega

theorem emptiesAhead_le (w : Worker (Numbered β)) (post : Post ρ) : emptiesAhead w post ≤ 2 := by
  have most := emptiesLeft_le w
  cases post <;> simp only [emptiesAhead] <;> omega

theorem stepsLeft_le (w : Worker (Numbered β)) (post : Post ρ) :
    stepsLeft w post ≤ 4 * w.batch.length + 6 := by
  unfold stepsLeft
  cases stage : w.stage with
  | fetching =>
      have most := emptiesLeft_le w
      simp only
      omega
  | running n =>
      have most : emptiesLeft w ≤ 1 := by
        simp only [emptiesLeft, stage]
        split <;> omega
      simp only
      omega
  | exited =>
      simp only [emptiesLeft, stage]
      omega

theorem emptiesLeft_pos {w : Worker (Numbered β)} (stage : w.stage = .fetching) :
    0 < emptiesLeft w := by
  simp only [emptiesLeft, stage]
  split <;> omega

theorem check_left {w : Worker (Numbered β)} {n : Nat} (stage : w.stage = .running n)
    (done : w.batch = []) :
    emptiesLeft (w.check true .drain) = emptiesLeft w ∧
      1 + stepsLeft (w.check true .drain) (.idle : Post ρ) ≤ stepsLeft w (.idle : Post ρ) := by
  by_cases last : (w.draining && n == 0) = true
  · simp [Worker.check, stage, last, emptiesLeft, stepsLeft, done, Post.spent]
  · simp [Worker.check, stage, last, emptiesLeft, stepsLeft, done, Post.spent]

theorem Stride.empties {s : State β ρ} {i : Nat} {a : Action β ρ} {w w' : Worker (Numbered β)}
    {post post' : Post ρ} (stride : Stride s i a w post w' post') (coherent : Coherent w post)
    (raised : s.pool.signal.raised = true) (drains : s.pool.settings.stopPolicy = .drain) :
    ((s.fetched a).countP fun batch => batch.1 = i && batch.2.isEmpty) + emptiesLeft w' ≤
      emptiesLeft w := by
  cases stride with
  | elsewhere a w post other => rw [s.fetched_elsewhere other, Nat.zero_add]
  | fetch w batch brought =>
      have stage := coherent.1
      rw [State.fetched, ← brought]
      cases batch <;> cases draining : w.draining <;> simp [emptiesLeft, stage, draining]
  | check w n stage done =>
      rw [raised, drains, (check_left (ρ := ρ) stage done).1]
      simp [State.fetched]
  | enter | begin | finish | report | count => simp [State.fetched, emptiesLeft]

theorem Stride.enters_drain {s : State β ρ} {i : Nat} {a : Action β ρ}
    {w w' : Worker (Numbered β)} {post post' : Post ρ} (stride : Stride s i a w post w' post')
    (mine : a.worker? = some i) (coherent : Coherent w post)
    (raised : s.pool.signal.raised = true) (drains : s.pool.settings.stopPolicy = .drain) :
    a.entered?.toList.length + emptiesAhead w' post' ≤
      emptiesAhead w post + ((s.fetched a).flatMap Prod.snd).length := by
  cases stride with
  | elsewhere a w post other => exact absurd mine other
  | enter w stage =>
      have left := emptiesLeft_pos stage
      simp only [Action.entered?, Option.toList_some, List.length_singleton, emptiesAhead]
      omega
  | fetch w batch brought =>
      have stage := coherent.1
      rw [State.fetched, ← brought]
      cases batch <;> cases draining : w.draining <;>
        simp [Action.entered?, emptiesAhead, emptiesLeft, stage, draining]
  | check w n stage done =>
      rw [raised, drains]
      simp [Action.entered?, emptiesAhead, (check_left (ρ := ρ) stage done).1]
  | begin | finish | report | count => simp [Action.entered?, emptiesAhead, emptiesLeft]

theorem Stride.steps {s : State β ρ} {i : Nat} {a : Action β ρ} {w w' : Worker (Numbered β)}
    {post post' : Post ρ} (stride : Stride s i a w post w' post') (coherent : Coherent w post)
    (raised : s.pool.signal.raised = true) (drains : s.pool.settings.stopPolicy = .drain) :
    a.worker?.toList.count i + stepsLeft w' post' ≤
      stepsLeft w post + 7 * ((s.fetched a).flatMap Prod.snd).length := by
  have own : [i].count i = 1 := by simp
  cases stride with
  | elsewhere a w post other =>
      have none : a.worker?.toList.count i = 0 := by
        rw [List.count_eq_zero, Option.mem_toList]
        exact other
      omega
  | enter w stage =>
      have left := emptiesLeft_pos stage
      simp only [Action.worker?, Option.toList_some, own, stepsLeft, stage, Post.spent]
      omega
  | fetch w batch brought =>
      rw [State.fetched, ← brought]
      cases batch <;> cases draining : w.draining <;>
        simp [Action.worker?, stepsLeft, emptiesLeft, coherent.1, coherent.2, draining, Post.spent]
      all_goals omega
  | begin w n stage more =>
      have some := List.length_pos_of_ne_nil more
      simp only [Action.worker?, Option.toList_some, own, stepsLeft, Post.spent]
      omega
  | finish | report =>
      have some := List.length_pos_of_ne_nil coherent.2
      simp only [Action.worker?, Option.toList_some, own, stepsLeft, Post.spent]
      omega
  | count w =>
      have some := List.length_pos_of_ne_nil coherent.2
      simp only [Action.worker?, Option.toList_some, own, stepsLeft, Post.spent, emptiesLeft,
        List.length_tail]
      omega
  | check w n stage done =>
      have spent := (check_left (ρ := ρ) stage done).2
      rw [raised, drains]
      simp only [Action.worker?, Option.toList_some, own]
      omega

section

variable {s t : State β ρ} {a : Action β ρ} {actions : List (Action β ρ)}

/-- The moment a pool that drains is told to stop, or later. -/
structure Stopping (settings : PoolSettings) (queueId : Nat) (s : State β ρ) : Prop where
  reached : Reachable settings queueId s
  raised : s.pool.signal.raised = true
  drains : settings.stopPolicy = .drain

theorem Stopping.step (stopping : Stopping settings queueId s) (step : Step s a t) :
    Stopping settings queueId t :=
  ⟨stopping.reached.step step, step.raised stopping.reached stopping.raised, stopping.drains⟩

theorem Stopping.closed (stopping : Stopping settings queueId s) : s.pool.queue.closed = true :=
  stopping.reached.closed (.inl stopping.raised)

theorem Stopping.policy (stopping : Stopping settings queueId s) :
    s.pool.settings.stopPolicy = .drain := by
  rw [stopping.reached.settings_eq, stopping.drains]

theorem Stopping.admitted (stopping : Stopping settings queueId s) (step : Step s a t) :
    t.admitted = s.admitted := by
  by_cases offers : ∃ token call, a = .offer token call
  · obtain ⟨token, call, rfl⟩ := offers
    cases step
    rcases s.offer_cases token call with ⟨opened, _⟩ | ⟨_, _, result⟩
    · simp [stopping.closed] at opened
    · rw [result]
  · cases step <;> first | rfl | exact absurd ⟨_, _, rfl⟩ offers

theorem Stopping.filled_le (stopping : Stopping settings queueId s) (step : Step s a t) :
    (t.batches.countP fun batch => !batch.2.isEmpty) + t.pool.queue.length ≤
      (s.batches.countP fun batch => !batch.2.isEmpty) + s.pool.queue.length := by
  have shorter := step.queue_length stopping.closed
  have brought : ((s.fetched a).countP fun batch => !batch.2.isEmpty) ≤
      ((s.fetched a).flatMap Prod.snd).length := by
    cases a with
    | fetch i =>
        simp only [State.fetched, List.flatMap_singleton, List.countP_singleton]
        cases s.pool.queue.items.take s.pool.settings.batchSize <;> simp
    | _ => exact Nat.le_refl 0
  rw [step.batches, List.countP_append]
  omega

theorem Stopping.leftTo_empties (stopping : Stopping settings queueId s) (step : Step s a t)
    (i : Nat) :
    (t.batches.countP fun batch => batch.1 = i && batch.2.isEmpty) +
        t.leftTo (fun w _ => emptiesLeft w) i ≤
      (s.batches.countP fun batch => batch.1 = i && batch.2.isEmpty) +
        s.leftTo (fun w _ => emptiesLeft w) i := by
  rw [step.batches, List.countP_append, Nat.add_assoc]
  apply Nat.add_le_add_left
  rcases step.leftTo (fun w _ => emptiesLeft w) i with
    ⟨other, before, after⟩ | ⟨w, w', here, stride, before, after⟩
  · rw [s.fetched_elsewhere other, before, after]
  · rw [before, after]
    exact stride.empties (stopping.reached.coherent i w here) stopping.raised stopping.policy

theorem Stopping.leftTo_steps (stopping : Stopping settings queueId s) (step : Step s a t)
    (i : Nat) :
    a.worker?.toList.countP (· == i) + (t.leftTo stepsLeft i + 7 * t.pool.queue.length) ≤
      s.leftTo stepsLeft i + 7 * s.pool.queue.length := by
  have shorter := step.queue_length stopping.closed
  rcases step.leftTo stepsLeft i with
    ⟨other, before, after⟩ | ⟨w, w', here, stride, before, after⟩
  · have elsewhere : a.worker?.toList.count i = 0 := by
      rwa [List.count_eq_zero, Option.mem_toList]
    rw [List.count] at elsewhere
    omega
  · have spent := stride.steps (stopping.reached.coherent i w here) stopping.raised
      stopping.policy
    rw [List.count] at spent
    omega

theorem Stopping.total_enters (stopping : Stopping settings queueId s) (step : Step s a t) :
    a.entered?.toList.countP (fun _ => true) +
        (t.total emptiesAhead + t.pool.queue.length) ≤
      s.total emptiesAhead + s.pool.queue.length := by
  have shorter := step.queue_length stopping.closed
  rw [List.countP_true]
  rcases step.workers with ⟨caller, workers, posts⟩ | ⟨i, w, f, post, one⟩
  · have none : a.entered? = none := by
      cases a <;> first | rfl | cases caller
    rw [s.total_congr emptiesAhead workers posts, none]
    simp only [Option.toList_none, List.length_nil]
    omega
  · have modified := State.total_modify one.here one.workers one.posts emptiesAhead
    have spent := one.stride.enters_drain one.mine (stopping.reached.coherent i w one.here)
      stopping.raised stopping.policy
    omega

theorem Reachable.goes_on (reached : Reachable settings queueId s) {i : Nat}
    {w : Worker (Numbered β)} (here : s.pool.worker? i = some w) (stays : w.stage ≠ .exited) :
    ∃ a t, a.worker? = some i ∧ Step s a t := by
  have coherent := reached.coherent i w here
  cases post : s.posts i with
  | idle =>
      cases stage : w.stage with
      | fetching => exact ⟨_, _, rfl, .enter s i w here stage post⟩
      | running n =>
          by_cases done : w.batch = []
          · exact ⟨_, _, rfl, .check s i n w here stage done post⟩
          · exact ⟨_, _, rfl, .begin s i n w here stage done post⟩
      | exited => exact absurd stage stays
  | waiting => exact ⟨_, _, rfl, .fetch s i w here post⟩
  | busy =>
      rw [post] at coherent
      obtain ⟨task, rest, batch⟩ := List.exists_cons_of_ne_nil coherent.2
      exact ⟨_, _, rfl, .finish s i w task (.panicked .other) here (by rw [batch]; rfl) post⟩
  | ended outcome => exact ⟨_, _, rfl, .report s i w outcome here post⟩
  | reported =>
      rw [post] at coherent
      obtain ⟨task, rest, batch⟩ := List.exists_cons_of_ne_nil coherent.2
      exact ⟨_, _, rfl, .count s i w task here (by rw [batch]; rfl) post⟩

theorem Run.stopping (run : Run s actions t) (stopping : Stopping settings queueId s) :
    Stopping settings queueId t :=
  run.preserves (P := Stopping settings queueId) (fun step before => before.step step) stopping

theorem Run.admitted_eq (run : Run s actions t) (stopping : Stopping settings queueId s) :
    t.admitted = s.admitted := by
  have kept := run.preserves
    (P := fun u => Stopping settings queueId u ∧ u.admitted = s.admitted)
    (fun step before => ⟨before.1.step step, (before.1.admitted step).trans before.2⟩)
  exact (kept ⟨stopping, rfl⟩).2

theorem Run.measure_le (run : Run s actions t) (stopping : Stopping settings queueId s)
    (measure : State β ρ → Nat)
    (falls : ∀ {s a t}, Stopping settings queueId s → Step s a t → measure t ≤ measure s) :
    measure t ≤ measure s := by
  have kept := run.countP_le (P := Stopping settings queueId) (f := measure)
    (fun _ => none) (fun _ => true) (fun step before => before.step step)
    (fun step before => by simpa using falls before step) stopping
  exact (Nat.le_add_left _ _).trans kept

theorem Run.fetches_le (run : Run s actions t) (stopping : Stopping settings queueId s)
    {later : List (Nat × List (Task β))} (after : t.batches = s.batches ++ later) :
    (later.countP fun batch => !batch.2.isEmpty) ≤ s.pool.queue.length ∧
      ∀ i, (later.countP fun batch => batch.1 = i && batch.2.isEmpty) ≤ 2 := by
  constructor
  · have fewer := run.measure_le stopping
      (fun u => (u.batches.countP fun batch => !batch.2.isEmpty) + u.pool.queue.length)
      (fun before step => before.filled_le step)
    rw [after, List.countP_append] at fewer
    omega
  · intro i
    have fewer := run.measure_le stopping
      (fun u => (u.batches.countP fun batch => batch.1 = i && batch.2.isEmpty) +
        u.leftTo (fun w _ => emptiesLeft w) i)
      (fun before step => before.leftTo_empties step i)
    have most : s.leftTo (fun w _ => emptiesLeft w) i ≤ 2 :=
      s.leftTo_le (fun _ w _ => emptiesLeft_le w) i
    rw [after, List.countP_append] at fewer
    omega

theorem Run.enters_drain_le (run : Run s actions t) (stopping : Stopping settings queueId s) :
    (actions.filterMap Action.entered?).length ≤
      s.pool.queue.length + 2 * s.pool.workers.length := by
  have spent := run.countP_le (P := Stopping settings queueId)
    (f := fun u => u.total emptiesAhead + u.pool.queue.length) Action.entered?
    (fun _ => true) (fun step before => before.step step)
    (fun step before => before.total_enters step) stopping
  have most : s.total emptiesAhead ≤ 2 * s.pool.workers.length := by
    have each := Finset.sum_le_card_nsmul (Finset.range s.pool.workers.length)
      (s.leftTo emptiesAhead) 2
      (fun i _ => s.leftTo_le (fun i w _ => emptiesAhead_le w (s.posts i)) i)
    simpa [State.total, Nat.mul_comm] using each
  rw [List.countP_true] at spent
  omega

theorem Run.steps_le (run : Run s actions t) (stopping : Stopping settings queueId s) {i : Nat}
    {w : Worker (Numbered β)} (here : s.pool.worker? i = some w) :
    (actions.filterMap Action.worker?).count i ≤
      7 * s.pool.queue.length + 4 * w.batch.length + 6 := by
  have spent := run.countP_le (P := Stopping settings queueId)
    (f := fun u => u.leftTo stepsLeft i + 7 * u.pool.queue.length) Action.worker?
    (· == i) (fun step before => before.step step)
    (fun step before => before.leftTo_steps step i) stopping
  have most : s.leftTo stepsLeft i ≤ 4 * w.batch.length + 6 := by
    simp only [State.leftTo, here]
    exact stepsLeft_le w _
  rw [List.count]
  omega

theorem Run.exited_of_steps (run : Run s actions t) (stopping : Stopping settings queueId s)
    {i : Nat} {w w' : Worker (Numbered β)} (before : s.pool.worker? i = some w)
    (after : t.pool.worker? i = some w')
    (taken : 7 * s.pool.queue.length + 4 * w.batch.length + 6 ≤
      (actions.filterMap Action.worker?).count i) : w'.stage = .exited := by
  by_contra stays
  obtain ⟨a, u, mine, step⟩ := (run.stopping stopping).reached.goes_on after stays
  have most := (run.append (.cons step (.nil u))).steps_le stopping before
  rw [List.filterMap_append, List.filterMap_cons_some mine, List.filterMap_nil, List.count_append,
    List.count_singleton_self] at most
  omega

end

structure Leaves (s : State β ρ) (actions : List (Action β ρ)) (t : State β ρ) : Prop where
  admitted : t.admitted = s.admitted
  awake : t.pool.fetchWaits = false
  -- Fetches under way at the start are among these.
  fetches : ∃ later, t.batches = s.batches ++ later ∧
    (later.countP fun batch => !batch.2.isEmpty) ≤ s.pool.queue.length ∧
    ∀ i, (later.countP fun batch => batch.1 = i && batch.2.isEmpty) ≤ 2
  enters : (actions.filterMap Action.entered?).length ≤
    s.pool.queue.length + 2 * s.pool.workers.length
  steps : ∀ i w, s.pool.worker? i = some w →
    (actions.filterMap Action.worker?).count i ≤ 7 * s.pool.queue.length + 4 * w.batch.length + 6
  left : ∀ i w w', s.pool.worker? i = some w → t.pool.worker? i = some w' →
    7 * s.pool.queue.length + 4 * w.batch.length + 6 ≤
      (actions.filterMap Action.worker?).count i → w'.stage = .exited
  goes_on : ∀ i w, t.pool.worker? i = some w → w.stage ≠ .exited →
    ∃ a u, a.worker? = some i ∧ Step t a u
  unrun : ∀ i w, t.pool.worker? i = some w → w.stage = .exited → w.batch = [] ∧ t.posts i = .idle

theorem Run.leaves {s t : State β ρ} {actions : List (Action β ρ)} (run : Run s actions t)
    (stopping : Stopping settings queueId s) : Leaves s actions t where
  admitted := run.admitted_eq stopping
  awake := by simp [fetchWaits, Queue.fetchWaits, (run.stopping stopping).closed]
  fetches := by
    obtain ⟨later, after⟩ := run.batches
    exact ⟨later, after, run.fetches_le stopping after⟩
  enters := run.enters_drain_le stopping
  steps _ _ := run.steps_le stopping
  left _ _ _ := run.exited_of_steps stopping
  goes_on _ _ := (run.stopping stopping).reached.goes_on
  unrun _ _ := (run.stopping stopping).reached.idle_of_exited

/-- From the signal on, the workers of a pool that drains begin no more fetches than tasks are
queued and two for each of them, and every worker leaves after a bounded number of its own steps. -/
theorem Reachable.shutdown {s : State β ρ} (reached : Reachable settings queueId s)
    (raised : s.pool.signal.raised = true) (drains : settings.stopPolicy = .drain) :
    ∀ actions t, Run s actions t → Leaves s actions t :=
  fun _ _ run => run.leaves ⟨reached, raised, drains⟩

theorem shutdown_after_raise : ∃ (s t : State Unit Unit) (actions : List (Action Unit Unit)),
    Reachable { workers := .fixed 2, batchSize := 2 } 0 s ∧ s.pool.signal.raised = true ∧
      s.pool.queue.length = 1 ∧ Run s actions t ∧ t.pool.allExited = true ∧
      (actions.filterMap Action.entered?).length = 2 ∧ Leaves s actions t := by
  obtain ⟨s, t, actions, reached, raised, queued, run, exited, entered⟩ :
      ∃ (s t : State Unit Unit) (actions : List (Action Unit Unit)),
        Reachable { workers := .fixed 2, batchSize := 2 } 0 s ∧ s.pool.signal.raised = true ∧
          s.pool.queue.length = 1 ∧ Run s actions t ∧ t.pool.allExited = true ∧
          (actions.filterMap Action.entered?).length = 2 :=
    ⟨_, _, _,
      .of_replay? [.offer none (.bulk [(), (), ()]), .enter 0, .fetch 0, .begin 0, .enter 1, .close,
        .raise] rfl, rfl, rfl,
      .of_replay? [.offer none (.forget ()), .fetch 1, .begin 1, .finish 0 (.panicked .other),
        .report 0, .count 0, .begin 0, .finish 0 (.returned ()), .report 0, .count 0, .check 0,
        .enter 0, .fetch 0, .finish 1 (.returned ()), .report 1, .check 0, .count 1, .check 1,
        .enter 1, .fetch 1, .check 1] rfl, rfl, by decide⟩
  exact ⟨s, t, actions, reached, raised, queued, run, exited, entered,
    reached.shutdown raised rfl actions t run⟩

end WorkerPool.Pool.Interleaving
