import WorkerPool.Proofs.Forest.Bounds

namespace WorkerPool.Pool.Interleaving.Forest

variable {ε ρ : Type} {settings : PoolSettings} {queueId : Nat} {roots : Roots ε ρ}

theorem Reachable.run {g h : Grove ε ρ} (reached : Reachable settings queueId roots g)
    (run : Run g h) : Reachable settings queueId roots h :=
  Run.append reached run

theorem Run.one {g h : Grove ε ρ} (step : Step g h) : Run g h := .cons step (.nil h)

/-- A run that leaves all tasks where they are. -/
structure Aside (g h : Grove ε ρ) : Prop where
  run : Run g h
  waiting : h.waiting = g.waiting
  left : h.state.left = g.state.left
  items : h.state.pool.queue.items = g.state.pool.queue.items
  closed : h.state.pool.queue.closed = g.state.pool.queue.closed
  ran : h.state.ran = g.state.ran

theorem Aside.refl (g : Grove ε ρ) : Aside g g := ⟨.nil g, rfl, rfl, rfl, rfl, rfl⟩

theorem Aside.trans {g h k : Grove ε ρ} (first : Aside g h) (second : Aside h k) : Aside g k where
  run := first.run.append second.run
  waiting := second.waiting.trans first.waiting
  left := second.left.trans first.left
  items := second.items.trans first.items
  closed := second.closed.trans first.closed
  ran := second.ran.trans first.ran

theorem Aside.background {g : Grove ε ρ} {t : State (Located ε ρ) ρ}
    {a : Action (Located ε ρ) ρ} (step : Interleaving.Step g.state a t)
    (allowed : Forest.background g.state.pool.queue.closed a = true) (fetches : ∀ i, a ≠ .fetch i)
    (takes : a ≠ .takeLeftovers) : Aside g { g with state := t } := by
  obtain ⟨offers, _, finishes, closes⟩ := background_only allowed
  have unmoved := step.unmoved offers
  exact ⟨.one (.background g t a allowed step), rfl, step.left_eq fetches finishes,
    unmoved.items fetches takes, unmoved.closed closes, unmoved.ran finishes⟩

theorem aside_count {g : Grove ε ρ} {i : Nat} {w : Worker (Numbered (Located ε ρ))}
    (here : g.state.pool.worker? i = some w) (more : w.batch ≠ [])
    (post : g.state.posts i = .reported) :
    ∃ h, Aside g h ∧ h.state.posts i = .idle := by
  obtain ⟨task, rest, batch⟩ := List.exists_cons_of_ne_nil more
  have current : w.batch.head? = some task := by rw [batch]; rfl
  have step := Interleaving.Step.count g.state i w task here current post
  exact ⟨_, .background step rfl (by simp) (by simp), by simp [State.count, State.stand]⟩

theorem aside_report {g : Grove ε ρ} {i : Nat} {outcome : Outcome ρ}
    {w : Worker (Numbered (Located ε ρ))} (here : g.state.pool.worker? i = some w)
    (more : w.batch ≠ []) (post : g.state.posts i = .ended outcome) :
    ∃ h, Aside g h ∧ h.state.posts i = .idle := by
  have step := Interleaving.Step.report g.state i w outcome here post
  have first := Aside.background step rfl (by simp) (by simp)
  obtain ⟨_, _, result⟩ := g.state.pool.countPanic_eq i outcome
  have still : (g.state.report i outcome).pool.worker? i = some w := by
    simp only [State.report, State.stand, result]
    exact here
  have reported : (g.state.report i outcome).posts i = .reported := by
    simp [State.report, State.stand]
  obtain ⟨h, second, idle⟩ := aside_count (g := { g with state := g.state.report i outcome })
    still more reported
  exact ⟨h, first.trans second, idle⟩

theorem aside_ready {g : Grove ε ρ} (reached : Interleaving.Reachable settings queueId g.state)
    {i : Nat} {w : Worker (Numbered (Located ε ρ))} (here : g.state.pool.worker? i = some w) :
    ∃ h, Aside g h ∧ (h.state.posts i = .idle ∨ h.state.posts i = .waiting ∨
      h.state.posts i = .busy) := by
  have coherent := reached.coherent i w here
  cases post : g.state.posts i with
  | idle => exact ⟨g, .refl g, .inl post⟩
  | waiting => exact ⟨g, .refl g, .inr (.inl post)⟩
  | busy => exact ⟨g, .refl g, .inr (.inr post)⟩
  | ended outcome =>
      rw [post] at coherent
      obtain ⟨h, aside, idle⟩ := aside_report here coherent.2 post
      exact ⟨h, aside, .inl idle⟩
  | reported =>
      rw [post] at coherent
      obtain ⟨h, aside, idle⟩ := aside_count here coherent.2 post
      exact ⟨h, aside, .inl idle⟩

theorem State.here_of_held {s : State (Located ε ρ) ρ} {i : Nat} (held : s.left i ≠ []) :
    ∃ w, s.pool.worker? i = some w := by
  cases here : s.pool.worker? i with
  | none => simp [State.left, here] at held
  | some w => exact ⟨w, rfl⟩

theorem aside_begin {g : Grove ε ρ} (reached : Reachable settings queueId roots g) {i : Nat}
    (held : g.state.left i ≠ []) : ∃ h, Aside g h ∧ h.state.posts i = .busy := by
  obtain ⟨_, before⟩ := State.here_of_held held
  obtain ⟨h, aside, ready⟩ := aside_ready reached.pool before
  rw [← aside.left] at held
  obtain ⟨w, here⟩ := State.here_of_held held
  have coherent := (reached.run aside.run).pool.coherent i w here
  rw [h.state.left_eq here] at held
  rcases ready with post | post | post
  · rw [post] at held coherent
    obtain ⟨task, rest, batch⟩ := List.exists_cons_of_ne_nil held
    have current : w.batch.head? = some task := congrArg List.head? batch
    cases stage : w.stage with
    | fetching => exact absurd (coherent (.inl stage)) held
    | exited => exact absurd (coherent (.inr stage)) held
    | running n =>
        have step := Step.begin h i n w task here stage current post
        have inner := Interleaving.Step.begin h.state i n w here stage held post
        have left : (h.begin i task).state.left = h.state.left :=
          inner.left_eq (by simp) (by simp)
        exact ⟨_, aside.trans ⟨.one step, rfl, left, rfl, rfl, rfl⟩,
          by simp [Grove.begin, State.stand]⟩
  · rw [post] at held coherent
    exact absurd coherent.2 held
  · exact ⟨h, aside, post⟩

structure Forward (g h : Grove ε ρ) : Prop where
  run : Run g h
  waiting : h.waiting = g.waiting
  closed : h.state.pool.queue.closed = g.state.pool.queue.closed
  ran : h.state.ran.length = g.state.ran.length + 1

theorem State.offer_closed (s : State (Located ε ρ) ρ) (token : Option ProducerToken)
    (call : Submission (Located ε ρ)) :
    (s.offer token call).pool.queue.closed = s.pool.queue.closed ∧
      (s.offer token call).ran = s.ran := by
  rcases s.offer_cases token call with ⟨_, _, _, result⟩ | ⟨_, _, result⟩ <;> simp [result]

theorem body_ends {i : Nat} {w : Worker (Numbered (Located ε ρ))} {task : Task (Located ε ρ)}
    (current : w.batch.head? = some task) :
    (script : Script ε ρ) → ∀ {g : Grove ε ρ} {k : Nat}, g.state.pool.worker? i = some w →
      g.state.posts i = .busy → g.cursors i = ⟨k, script⟩ → ∃ h, Forward g h
  | .ret value, g, k, here, post, cursor => by
      have inner := Interleaving.Step.finish g.state i w task (.returned value) here current post
      have step := Step.finish g _ i (.returned value) (by rw [cursor]; rfl) inner
      exact ⟨_, .one step, rfl, rfl, by simp [State.finish]⟩
  | .panic payload, g, k, here, post, cursor => by
      have inner := Interleaving.Step.finish g.state i w task (.panicked payload) here current post
      have step := Step.finish g _ i (.panicked payload) (by rw [cursor]; rfl) inner
      exact ⟨_, .one step, rfl, rfl, by simp [State.finish]⟩
  | .log entry next, g, k, here, post, cursor => by
      have step := Step.log g i k entry next w task here current post cursor
      obtain ⟨h, forward⟩ := body_ends current next (g := g.write i entry ⟨k, next⟩) (k := k)
        here post (by simp [Grove.write])
      exact ⟨h, .cons step forward.run, forward.waiting, forward.closed, forward.ran⟩
  | .submit call next, g, k, here, post, cursor => by
      have step := Step.submit g none i k w task call next here current post cursor rfl
      generalize locate task.body.body.place k call = children at step
      obtain ⟨workers, posts⟩ := g.state.offer_workers none children
      obtain ⟨closed, ran⟩ := State.offer_closed g.state none children
      obtain ⟨h, forward⟩ := body_ends current next
        (g := g.submit none i children ⟨k + call.size, next⟩) (k := k + call.size)
        (by rw [Grove.submit, Pool.worker?, workers]; exact here)
        (by rw [Grove.submit, posts]; exact post) (by simp [Grove.submit])
      exact ⟨h, .cons step forward.run, forward.waiting, forward.closed.trans closed,
        forward.ran.trans (congrArg (·.length + 1) ran)⟩

theorem forward_of_held {g : Grove ε ρ} (reached : Reachable settings queueId roots g) {i : Nat}
    (held : g.state.left i ≠ []) : ∃ h, Forward g h := by
  obtain ⟨h, aside, post⟩ := aside_begin reached held
  rw [← aside.left] at held
  obtain ⟨w, here⟩ := State.here_of_held held
  have coherent := (reached.run aside.run).pool.coherent i w here
  rw [post] at coherent
  obtain ⟨task, rest, batch⟩ := List.exists_cons_of_ne_nil coherent.2
  have current : w.batch.head? = some task := congrArg List.head? batch
  obtain ⟨k, forward⟩ := body_ends current (h.cursors i).script here post rfl
  exact ⟨k, aside.run.append forward.run, forward.waiting.trans aside.waiting,
    forward.closed.trans aside.closed, forward.ran.trans (congrArg (·.length + 1) aside.ran)⟩

theorem State.here_of_inside {s : State (Located ε ρ) ρ}
    (reached : Interleaving.Reachable settings queueId s) {i : Nat}
    (inside : i < settings.workers.count) : ∃ w, s.pool.worker? i = some w :=
  ⟨_, List.getElem?_eq_getElem (reached.workers_length.symm ▸ inside)⟩

theorem check_fetching {s : State (Located ε ρ) ρ}
    (reached : Interleaving.Reachable settings queueId s) (opened : s.pool.queue.closed = false)
    {i n : Nat} {w : Worker (Numbered (Located ε ρ))} (here : s.pool.worker? i = some w)
    (stage : w.stage = .running n) :
    (w.check s.pool.signal.raised s.pool.settings.stopPolicy).stage = .fetching := by
  have quiet : s.pool.signal.raised = false := by
    by_contra raised
    have closed := reached.closed (.inl (by simpa using raised))
    simp [opened] at closed
  have working : w.draining = false := by
    by_contra draining
    have roomy := reached.roomy_of_stays here (by simp [stage])
    have raised := reached.informed roomy i w here (.inl (by simpa using draining))
    simp [quiet] at raised
  simp [Worker.check, stage, quiet, working]

theorem aside_enter {g : Grove ε ρ} {i : Nat} {w : Worker (Numbered (Located ε ρ))}
    (here : g.state.pool.worker? i = some w) (stage : w.stage = .fetching)
    (post : g.state.posts i = .idle) : ∃ h, Aside g h ∧ h.state.posts i = .waiting :=
  ⟨_, .background (.enter g.state i w here stage post) rfl (by simp) (by simp),
    by simp [State.stand]⟩

theorem aside_wait {g : Grove ε ρ} (reached : Reachable settings queueId roots g)
    (roomy : settings.roomy = true) (opened : g.state.pool.queue.closed = false) {i : Nat}
    (inside : i < settings.workers.count)
    (free : g.state.left i = []) : ∃ h, Aside g h ∧ h.state.posts i = .waiting := by
  obtain ⟨_, before⟩ := State.here_of_inside reached.pool inside
  obtain ⟨h, aside, ready⟩ := aside_ready reached.pool before
  have later := (reached.run aside.run).pool
  obtain ⟨w, here⟩ := State.here_of_inside later inside
  have coherent := later.coherent i w here
  rw [← aside.left, h.state.left_eq here] at free
  rw [← aside.closed] at opened
  rcases ready with post | post | post
  · rw [post] at free
    cases stage : w.stage with
    | fetching =>
        obtain ⟨k, enter, waiting⟩ := aside_enter here stage post
        exact ⟨k, aside.trans enter, waiting⟩
    | exited =>
        have closed := later.closed (.inl (later.raised_of_exited roomy here stage))
        simp [opened] at closed
    | running n =>
        have step := Interleaving.Step.check h.state i n w here stage free post
        obtain ⟨_, result⟩ := h.state.pool.check_eq i w here
        have found : h.state.pool.workers[i]? = some w := here
        have checked : (h.state.check i).pool.worker? i =
            some (w.check h.state.pool.signal.raised h.state.pool.settings.stopPolicy) := by
          simp [State.check, result, Pool.worker?, found]
        obtain ⟨k, enter, waiting⟩ := aside_enter (g := { h with state := h.state.check i })
          checked (check_fetching later opened here stage) post
        exact ⟨k, (aside.trans (.background step rfl (by simp) (by simp))).trans enter, waiting⟩
  · exact ⟨h, aside, post⟩
  · rw [post] at free coherent
    exact absurd free coherent.2

/-- As long as something is queued or held, some task can be brought to its end. -/
theorem can_go_on {g : Grove ε ρ} (reached : Reachable settings queueId roots g)
    (valid : settings.validate = .ok ()) (roomy : settings.roomy = true)
    (opened : g.state.pool.queue.closed = false)
    (more : ¬(g.state.pool.queue.items = [] ∧ g.state.lefts = [])) : ∃ h, Forward g h := by
  obtain ⟨manned, batches⟩ := manned_of_valid valid
  by_cases held : ∃ i, g.state.left i ≠ []
  · obtain ⟨i, held⟩ := held
    exact forward_of_held reached held
  · have free : ∀ i, g.state.left i = [] := by simpa using held
    have items : g.state.pool.queue.items ≠ [] := fun none =>
      more ⟨none, List.flatMap_eq_nil_iff.mpr fun i _ => free i⟩
    obtain ⟨h, aside, post⟩ := aside_wait reached roomy opened manned (free 0)
    have later := reached.run aside.run
    obtain ⟨w, here⟩ := State.here_of_inside later.pool manned
    have inner := Interleaving.Step.fetch h.state 0 w here post
    have step := Step.background h _ _ rfl inner
    have left : (h.state.fetch 0).left = Function.update h.state.left 0 _ :=
      State.left_modify here rfl rfl
    have brought : (h.state.fetch 0).left 0 ≠ [] := by
      rw [left, later.pool.settings_eq]
      simp [State.unfinished, aside.items, items, Nat.ne_of_gt batches]
    obtain ⟨k, forward⟩ := forward_of_held (later.run (.one step)) brought
    exact ⟨k, aside.run.append (.cons step forward.run), forward.waiting.trans aside.waiting,
      forward.closed.trans aside.closed, forward.ran.trans (congrArg (·.length + 1) aside.ran)⟩

theorem submits_all (g : Grove ε ρ) : ∃ h, Run g h ∧ h.waiting = [] ∧
    h.state.pool.queue.closed = g.state.pool.queue.closed := by
  generalize waiting : g.waiting = calls
  induction calls generalizing g with
  | nil => exact ⟨g, .nil g, waiting, rfl⟩
  | cons call rest ih =>
      have step := Step.root g none 0 call (by rw [waiting]; rfl) rfl
      obtain ⟨h, run, done, closed⟩ := ih (g.root none 0 call) (by simp [Grove.root, waiting])
      exact ⟨h, .cons step run, done, closed.trans (State.offer_closed g.state none call).1⟩

theorem runs_all {g : Grove ε ρ} (reached : Reachable settings queueId roots g)
    (valid : settings.validate = .ok ()) (roomy : settings.roomy = true)
    (unbounded : settings.capacity = none) (opened : g.state.pool.queue.closed = false)
    (submitted : g.waiting = []) :
    ∃ h, Run g h ∧ h.Empty := by
  generalize count : size roots - g.state.ran.length = n
  induction n generalizing g with
  | zero =>
      have bounded := reached.bounded unbounded
      have all : g.state.ran.length = size roots := by
        have runs := bounded.runs
        omega
      obtain ⟨queue, batches⟩ := (bounded.empty_iff submitted).mpr all
      exact ⟨g, .nil g, submitted, queue, batches⟩
  | succ n ih =>
      by_cases done : g.state.pool.queue.items = [] ∧ g.state.lefts = []
      · exact ⟨g, .nil g, submitted, done.1, done.2⟩
      · obtain ⟨h, forward⟩ := can_go_on reached valid roomy opened done
        have ran := forward.ran
        obtain ⟨k, run, empty⟩ := ih (reached.run forward.run) (forward.closed.trans opened)
          (forward.waiting.trans submitted) (by omega)
        exact ⟨k, forward.run.append run, empty⟩

/-- Whatever has happened so far, a pool that was not stopped can finish its forest. -/
theorem Reachable.can_finish {g : Grove ε ρ} (reached : Reachable settings queueId roots g)
    (valid : settings.validate = .ok ()) (roomy : settings.roomy = true)
    (unbounded : settings.capacity = none)
    (opened : g.state.pool.queue.closed = false) : ∃ h, Run g h ∧ h.Empty := by
  obtain ⟨h, first, submitted, closed⟩ := submits_all g
  obtain ⟨k, second, empty⟩ :=
    runs_all (reached.run first) valid roomy unbounded (closed.trans opened) submitted
  exact ⟨k, first.append second, empty⟩

end WorkerPool.Pool.Interleaving.Forest
