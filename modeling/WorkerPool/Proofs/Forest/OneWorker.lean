import WorkerPool.Proofs.Forest.Progress
import WorkerPool.Proofs.Forest.Sprout
import WorkerPool.Proofs.Pool.Exit

namespace WorkerPool.Pool.Interleaving.Forest

variable {ε ρ : Type}

namespace Grove

def inHandAhead (g : Grove ε ρ) : List (Sprout ε ρ) :=
  match g.state.left 0 with
  | [] => []
  | task :: rest =>
    (if (g.state.posts 0).inBody then
      ⟨task.body.body.place, task.channel.isSome, (g.cursors 0).submitted, (g.cursors 0).script⟩
    else .ofTask task) :: rest.map .ofTask

def queuedAhead (g : Grove ε ρ) : List (Sprout ε ρ) :=
  g.state.pool.queue.items.map .ofTask

/-- The rest of the batch, then the queue. -/
def ahead (g : Grove ε ρ) : List (Sprout ε ρ) := g.inHandAhead ++ g.queuedAhead

def progress (g : Grove ε ρ) : Progress ε ρ where
  ran := g.state.ran.map nodeOf
  log := g.log
  ahead := g.ahead

theorem inHandAhead_congr {g h : Grove ε ρ} (left : h.state.left = g.state.left)
    (inBody : (h.state.posts 0).inBody = (g.state.posts 0).inBody)
    (cursor : h.cursors 0 = g.cursors 0) : h.inHandAhead = g.inHandAhead := by
  rw [inHandAhead, inHandAhead, left, inBody, cursor]

theorem inHandAhead_idle {g : Grove ε ρ} (out : (g.state.posts 0).inBody = false) :
    g.inHandAhead = (g.state.left 0).map .ofTask := by
  rw [inHandAhead, out]
  cases g.state.left 0 <;> rfl

theorem ahead_busy {g : Grove ε ρ} {w : Worker (Numbered (Located ε ρ))}
    {task : Task (Located ε ρ)} {k : Nat} {script : Script ε ρ}
    (here : g.state.pool.worker? 0 = some w) (current : w.batch.head? = some task)
    (post : g.state.posts 0 = .busy) (cursor : g.cursors 0 = ⟨k, script⟩) :
    g.ahead = ⟨task.body.body.place, task.channel.isSome, k, script⟩ ::
      (w.batch.tail.map .ofTask ++ g.queuedAhead) := by
  rw [ahead, inHandAhead, State.left_of_current here current (.inl post), post, cursor]
  rfl

theorem begin_ahead {g : Grove ε ρ} {n : Nat} {w : Worker (Numbered (Located ε ρ))}
    {task : Task (Located ε ρ)} (here : g.state.pool.worker? 0 = some w)
    (stage : w.stage = .running n) (current : w.batch.head? = some task)
    (post : g.state.posts 0 = .idle) : (g.begin 0 task).ahead = g.ahead := by
  have more : w.batch ≠ [] := fun none => by simp [none] at current
  have step := Interleaving.Step.begin g.state 0 n w here stage more post
  have left : (g.begin 0 task).state.left = g.state.left := step.left_eq (by simp) (by simp)
  have held := State.left_of_current here current (.inr post)
  have before : g.inHandAhead = .ofTask task :: w.batch.tail.map .ofTask := by
    rw [inHandAhead_idle (by rw [post]; rfl), held]
    rfl
  have after : (g.begin 0 task).inHandAhead = .ofTask task :: w.batch.tail.map .ofTask := by
    rw [inHandAhead, left, held]
    simp [begin, State.stand, Post.inBody, Sprout.ofTask]
  rw [ahead, ahead, after, before]
  rfl

theorem finish_ahead {g : Grove ε ρ} {outcome : Outcome ρ}
    {w : Worker (Numbered (Located ε ρ))} {task : Task (Located ε ρ)}
    (here : g.state.pool.worker? 0 = some w) :
    ahead { g with state := g.state.finish 0 task outcome } =
      w.batch.tail.map .ofTask ++ g.queuedAhead := by
  have workers : (g.state.finish 0 task outcome).pool.workers =
      g.state.pool.workers.modify 0 id := by simp [State.finish, State.stand]
  have left : (g.state.finish 0 task outcome).left =
      Function.update g.state.left 0 w.batch.tail := State.left_modify here workers rfl
  have out : ((g.state.finish 0 task outcome).posts 0).inBody = false := by
    simp [State.finish, State.stand, Post.inBody]
  have hand := inHandAhead_idle (g := { g with state := g.state.finish 0 task outcome }) out
  rw [left, Function.update_self] at hand
  rw [ahead, hand]
  rfl

end Grove

variable {settings : PoolSettings} {queueId : Nat} {roots : Roots ε ρ}

theorem here_zero {s : State (Located ε ρ) ρ}
    (reached : Interleaving.Reachable settings queueId s) (single : settings.workers.count = 1)
    {i : Nat} {w : Worker (Numbered (Located ε ρ))} (here : s.pool.worker? i = some w) : i = 0 := by
  have inside := State.inside_of_here here
  rw [reached.workers_length, single] at inside
  exact Nat.lt_one_iff.mp inside

theorem offer_queued {g : Grove ε ρ} {token : Option ProducerToken}
    (own : g.state.pool.accepts token = true) (opened : g.state.pool.queue.closed = false)
    (unbounded : g.state.pool.queue.capacity = none) (place : List Nat) (k : Nat)
    (call : Submission (Script ε ρ)) :
    (g.state.offer token (locate place k call)).pool.queue.items.map .ofTask =
      g.queuedAhead ++ callSprouts place k call := by
  obtain ⟨decision, result⟩ :=
    g.state.offer_accepted token (locate place k call) own opened unbounded
  rw [result]
  change (g.state.pool.queue.items ++ (locate place k call).tasks _ _).map _ = _
  rw [List.map_append, ofTask_tasks]
  rfl

theorem fetch_ahead {g : Grove ε ρ} {w : Worker (Numbered (Located ε ρ))}
    (here : g.state.pool.worker? 0 = some w) (post : g.state.posts 0 = .waiting) :
    Grove.ahead { g with state := g.state.fetch 0 } = g.ahead := by
  have left : (g.state.fetch 0).left = Function.update g.state.left 0 _ :=
    State.left_modify here rfl rfl
  have held : g.state.left 0 = w.batch := by
    rw [g.state.left_eq here, post]
    rfl
  have before : g.inHandAhead = w.batch.map .ofTask := by
    rw [Grove.inHandAhead_idle (by rw [post]; rfl), held]
  have idle : ((g.state.fetch 0).posts 0).inBody = false := by
    simp [State.fetch, State.stand, Post.inBody]
  have after : Grove.inHandAhead { g with state := g.state.fetch 0 } =
      (w.batch ++ g.state.pool.queue.items.take g.state.pool.settings.batchSize).map .ofTask := by
    rw [Grove.inHandAhead_idle idle, left, Function.update_self]
    rfl
  change Grove.inHandAhead { g with state := g.state.fetch 0 } ++
    (g.state.pool.queue.items.drop g.state.pool.settings.batchSize).map .ofTask =
      g.inHandAhead ++ g.queuedAhead
  rw [after, before, List.map_append, List.append_assoc, ← List.map_append, List.take_append_drop]
  rfl

theorem background_ahead {g : Grove ε ρ} {t : State (Located ε ρ) ρ}
    {a : Action (Located ε ρ) ρ} (step : Interleaving.Step g.state a t)
    (reached : Interleaving.Reachable settings queueId g.state) (sound : g.Sound)
    (single : settings.workers.count = 1)
    (allowed : background g.state.pool.queue.closed a = true) :
    Grove.ahead { g with state := t } = g.ahead := by
  obtain ⟨_, begins, finishes, _⟩ := background_only allowed
  by_cases fetches : ∃ i, a = .fetch i
  · obtain ⟨i, rfl⟩ := fetches
    cases step with
    | fetch i w here post =>
        obtain rfl := here_zero reached single here
        exact fetch_ahead here post
  · have fetches : ∀ i, a ≠ .fetch i := fun i same => fetches ⟨i, same⟩
    have hand : Grove.inHandAhead { g with state := t } = g.inHandAhead :=
      Grove.inHandAhead_congr (step.left_eq fetches finishes) (step.inBody_eq begins finishes 0) rfl
    have items := background_items step sound allowed fetches
    rw [Grove.ahead, Grove.ahead, hand, Grove.queuedAhead, Grove.queuedAhead, items]

theorem write_advance {g : Grove ε ρ} {k : Nat} {entry : ε} {next : Script ε ρ}
    {w : Worker (Numbered (Located ε ρ))} {task : Task (Located ε ρ)}
    (here : g.state.pool.worker? 0 = some w) (current : w.batch.head? = some task)
    (post : g.state.posts 0 = .busy) (cursor : g.cursors 0 = ⟨k, .log entry next⟩) :
    Advance 1 g.progress (g.write 0 entry ⟨k, next⟩).progress := by
  have before := Grove.ahead_busy here current post cursor
  have moved : (g.write 0 entry ⟨k, next⟩).cursors 0 = ⟨k, next⟩ := by simp [Grove.write]
  have after := Grove.ahead_busy (g := g.write 0 entry ⟨k, next⟩) here current post moved
  rw [Grove.progress, Grove.progress, before, after]
  exact .log _ _ _ _ _ _ entry next

theorem submit_advance {g : Grove ε ρ} {token : Option ProducerToken} {k : Nat}
    {call : Submission (Script ε ρ)} {next : Script ε ρ}
    {w : Worker (Numbered (Located ε ρ))} {task : Task (Located ε ρ)}
    (here : g.state.pool.worker? 0 = some w) (current : w.batch.head? = some task)
    (post : g.state.posts 0 = .busy) (cursor : g.cursors 0 = ⟨k, .submit call next⟩)
    (own : g.state.pool.accepts token = true) (opened : g.state.pool.queue.closed = false)
    (unbounded : g.state.pool.queue.capacity = none) :
    Advance 1 g.progress (g.submit token 0 (locate task.body.body.place k call)
      ⟨k + call.size, next⟩).progress := by
  have offered := offer_queued own opened unbounded task.body.body.place k call
  generalize locate task.body.body.place k call = children at offered
  obtain ⟨workers, posts⟩ := g.state.offer_workers token children
  have before := Grove.ahead_busy here current post cursor
  have moved : (g.submit token 0 children ⟨k + call.size, next⟩).cursors 0 =
      ⟨k + call.size, next⟩ := by simp [Grove.submit]
  have after := Grove.ahead_busy (by rw [Grove.submit, Pool.worker?, workers]; exact here) current
    (by rw [Grove.submit, posts]; exact post) moved
  have queue : (g.submit token 0 children ⟨k + call.size, next⟩).queuedAhead =
      g.queuedAhead ++ callSprouts task.body.body.place k call := offered
  have ran : (g.submit token 0 children ⟨k + call.size, next⟩).state.ran = g.state.ran :=
    (State.offer_closed g.state token children).2
  rw [queue, ← List.append_assoc] at after
  rw [Grove.progress, Grove.progress, before, after, ran]
  exact .submit _ _ _ _ _ _ call next

theorem finish_advance {g : Grove ε ρ} {outcome : Outcome ρ}
    {w : Worker (Numbered (Located ε ρ))} {task : Task (Located ε ρ)}
    (here : g.state.pool.worker? 0 = some w) (current : w.batch.head? = some task)
    (post : g.state.posts 0 = .busy) (ends : (g.cursors 0).script.outcome? = some outcome) :
    Advance taskWork g.progress
      (Grove.progress { g with state := g.state.finish 0 task outcome }) := by
  have before := Grove.ahead_busy here current post rfl
  have ran : (g.state.finish 0 task outcome).ran = g.state.ran ++ [⟨0, task, outcome⟩] := rfl
  rw [Grove.progress, Grove.progress, before, Grove.finish_ahead here, ran, List.map_append]
  exact .finish _ _ _ _ outcome ends

theorem background_progress {g : Grove ε ρ} {t : State (Located ε ρ) ρ}
    {a : Action (Located ε ρ) ρ} (step : Interleaving.Step g.state a t)
    (reached : Interleaving.Reachable settings queueId g.state) (sound : g.Sound)
    (single : settings.workers.count = 1)
    (allowed : background g.state.pool.queue.closed a = true) :
    Grove.progress { g with state := t } = g.progress := by
  have ran := (step.unmoved (background_only allowed).1).ran (background_only allowed).2.2.1
  rw [Grove.progress, Grove.progress, background_ahead step reached sound single allowed, ran]

def Grove.seat (g : Grove ε ρ) : Option (Worker (Numbered (Located ε ρ))) × Post ρ × Cursor ε ρ :=
  (g.state.pool.worker? 0, g.state.posts 0, g.cursors 0)

/-- How many steps a worker is from its next body, if there is one for it. -/
def phase (w : Worker (Numbered (Located ε ρ))) : Post ρ → Nat
  | .busy => 0
  | .waiting => 2
  | .reported => 5
  | .ended _ => 6
  | .idle =>
    match w.stage with
    | .running _ => if w.batch.isEmpty then 4 else 1
    | _ => 3

theorem phase_congr {g h : Grove ε ρ} (same : h.seat = g.seat) :
    h.state.leftTo phase 0 = g.state.leftTo phase 0 := by
  rw [Grove.seat, Grove.seat, Prod.mk.injEq, Prod.mk.injEq] at same
  simp only [State.leftTo, same]

theorem phase_lt_taskWork (w : Worker (Numbered (Located ε ρ))) (post : Post ρ) :
    phase w post < taskWork := by
  unfold phase taskWork
  split <;> (try split) <;> (try split) <;> omega

/-- The only worker of a pool without bounds, once all calls from outside are made. -/
structure Solo (settings : PoolSettings) (queueId : Nat) (roots : Roots ε ρ) (g : Grove ε ρ) :
    Prop where
  reached : Reachable settings queueId roots g
  valid : settings.validate = .ok ()
  roomy : settings.roomy = true
  single : settings.workers.count = 1
  unbounded : settings.capacity = none
  admitted : g.waiting = []

namespace Solo

variable {g : Grove ε ρ}

theorem manned (solo : Solo settings queueId roots g) : 0 < settings.workers.count :=
  (manned_of_valid solo.valid).1

theorem sound (solo : Solo settings queueId roots g) : g.Sound :=
  solo.reached.sound solo.unbounded

theorem capacity (solo : Solo settings queueId roots g) :
    g.state.pool.queue.capacity = none :=
  solo.reached.pool.capacity_eq.trans solo.unbounded

theorem lefts (solo : Solo settings queueId roots g) : g.state.lefts = g.state.left 0 := by
  rw [State.lefts, solo.reached.pool.workers_length, solo.single]
  simp

theorem empty_iff (solo : Solo settings queueId roots g) : g.Empty ↔ g.ahead = [] := by
  have hand : g.inHandAhead = [] ↔ g.state.left 0 = [] := by
    rw [Grove.inHandAhead]
    cases g.state.left 0 <;> simp
  rw [Grove.ahead, List.append_eq_nil_iff, hand, Grove.queuedAhead, List.map_eq_nil_iff,
    ← solo.lefts]
  exact ⟨fun empty => ⟨empty.batches, empty.queue⟩,
    fun none => ⟨solo.admitted, none.2, none.1⟩⟩

theorem opened (solo : Solo settings queueId roots g) (more : ¬g.Empty) :
    g.state.pool.queue.closed = false := by
  by_contra closed
  obtain ⟨waiting, none⟩ := solo.sound.closed (by simpa using closed)
  have parts := List.append_eq_nil_iff.mp none
  exact more ⟨waiting, parts.2, (List.append_eq_nil_iff.mp parts.1).1⟩

theorem queued_of_waiting (solo : Solo settings queueId roots g) (more : ¬g.Empty)
    {w : Worker (Numbered (Located ε ρ))} (here : g.state.pool.worker? 0 = some w)
    (post : g.state.posts 0 = .waiting) : g.state.pool.queue.items ≠ [] := by
  intro none
  have coherent := solo.reached.pool.coherent 0 w here
  rw [post] at coherent
  have free : g.state.left 0 = [] := by
    rw [g.state.left_eq here, post]
    exact coherent.2
  exact more ⟨solo.admitted, none, solo.lefts.trans free⟩

theorem phase_lt (solo : Solo settings queueId roots g) (more : ¬g.Empty)
    {t : State (Located ε ρ) ρ} {a : Action (Located ε ρ) ρ}
    (step : Interleaving.Step g.state a t) (mine : a.worker? = some 0)
    (finishes : ∀ i outcome, a ≠ .finish i outcome) :
    t.leftTo phase 0 < g.state.leftTo phase 0 := by
  rcases step.leftTo phase 0 with ⟨other, _⟩ | ⟨w, w', here, stride, before, after⟩
  · exact absurd mine other
  rw [before, after]
  have coherent := solo.reached.pool.coherent 0 w here
  have queued := solo.queued_of_waiting more here
  generalize g.state.posts 0 = post at stride coherent queued
  generalize t.posts 0 = post' at stride
  cases stride with
  | elsewhere _ _ _ other => exact absurd mine other
  | enter w stage => simp [phase, stage]
  | fetch w batch brought =>
      have some := (manned_of_valid solo.valid).2
      rw [← solo.reached.pool.settings_eq] at some
      have filled : batch ≠ [] := by
        rw [brought]
        simp [queued rfl, Nat.ne_of_gt some]
      simp [phase, filled]
  | begin w n stage some => simp [phase, stage, some]
  | finish w task outcome => exact absurd rfl (finishes 0 outcome)
  | report => simp [phase]
  | count w =>
      obtain ⟨⟨n, stage⟩, _⟩ := coherent
      simp only [phase, stage]
      split <;> omega
  | check w n stage done =>
      have fetching := check_fetching solo.reached.pool (solo.opened more) here stage
      simp [phase, stage, done, fetching]

/-- A step serves the head of the queue, and brings the worker closer to the end, unless it is a
caller's. -/
theorem served (solo : Solo settings queueId roots g) {h : Grove ε ρ} (step : Step g h) :
    ∃ n, Advance n g.progress h.progress ∧
      (¬g.Empty → n = 0 ∧ h.seat = g.seat ∨
        h.state.leftTo phase 0 < g.state.leftTo phase 0 + n) := by
  have pool := solo.reached.pool
  cases step with
  | root token k call next => simp [solo.admitted] at next
  | begin i n w task here stage current post =>
      obtain rfl := here_zero pool solo.single here
      have some : w.batch ≠ [] := fun none => by simp [none] at current
      have inner := Interleaving.Step.begin g.state 0 n w here stage some post
      rw [Grove.progress, Grove.progress, Grove.begin_ahead here stage current post]
      exact ⟨0, .stay _, fun more => .inr (solo.phase_lt more inner rfl (by simp))⟩
  | log i submitted entry next w task here current post cursor =>
      obtain rfl := here_zero pool solo.single here
      exact ⟨1, write_advance here current post cursor, fun _ => .inr (Nat.lt_succ_self _)⟩
  | submit token i submitted w task call next here current post cursor own =>
      obtain rfl := here_zero pool solo.single here
      have held := State.left_of_current here current (.inl post)
      have opened := solo.sound.opened_of_held (held ▸ List.mem_cons_self)
      refine ⟨1, submit_advance here current post cursor own opened solo.capacity,
        fun _ => .inr (Nat.lt_succ_of_le (Nat.le_of_eq ?_))⟩
      obtain ⟨workers, posts⟩ :=
        g.state.offer_workers token (locate task.body.body.place submitted call)
      simp only [State.leftTo, Grove.submit, Pool.worker?, workers, posts]
  | finish t i outcome ends step =>
      cases step with
      | finish i w task outcome here current post =>
          obtain rfl := here_zero pool solo.single here
          have short := State.leftTo_le (s := g.state.finish 0 task outcome)
            (fun i w _ => Nat.le_of_lt_succ (phase_lt_taskWork w _)) 0
          exact ⟨taskWork, finish_advance here current post ends,
            fun _ => .inr ((Nat.lt_succ_of_le short).trans_le (Nat.le_add_left _ _))⟩
  | close empty => exact ⟨0, .stay _, fun more => absurd empty more⟩
  | background t a allowed step =>
      rw [background_progress step pool solo.sound solo.single allowed]
      refine ⟨0, .stay _, fun more => ?_⟩
      rcases step.workers with ⟨_, workers, posts⟩ | ⟨i, w, f, post, one⟩
      · exact .inl ⟨rfl, by simp only [Grove.seat, Pool.worker?, workers, posts]⟩
      · obtain rfl := here_zero pool solo.single one.here
        exact .inr (solo.phase_lt more step one.mine (background_only allowed).2.2.1)

theorem step (solo : Solo settings queueId roots g) {h : Grove ε ρ} (step : Step g h) :
    Solo settings queueId roots h where
  reached := solo.reached.run (.one step)
  valid := solo.valid
  roomy := solo.roomy
  single := solo.single
  unbounded := solo.unbounded
  admitted := by
    cases step with
    | root token k call next => simp [solo.admitted] at next
    | begin | log | submit | finish | close | background => exact solo.admitted

theorem run (solo : Solo settings queueId roots g) {h : Grove ε ρ} (run : Run g h) :
    Solo settings queueId roots h ∧ h.progress.nodes = g.progress.nodes ∧
      h.progress.entries = g.progress.entries := by
  induction run with
  | nil => exact ⟨solo, rfl, rfl⟩
  | cons first _ ih =>
      obtain ⟨later, nodes, entries⟩ := ih (solo.step first)
      obtain ⟨_, advance, _⟩ := solo.served first
      exact ⟨later, nodes.trans advance.nodes, entries.trans advance.entries⟩

theorem empty_step (solo : Solo settings queueId roots g) (empty : g.Empty) {h : Grove ε ρ}
    (step : Step g h) : h.Empty := by
  obtain ⟨n, advance, _⟩ := solo.served step
  have none := solo.empty_iff.mp empty
  apply (solo.step step).empty_iff.mpr
  change h.progress.ahead = []
  generalize before : g.progress = p at advance
  generalize h.progress = q at advance ⊢
  have ahead : p.ahead = [] := before ▸ none
  cases advance with
  | stay => exact ahead
  | log | submit | finish => cases ahead

theorem ended (solo : Solo settings queueId roots g) {h : Grove ε ρ} (run : Run g h)
    (empty : h.Empty) :
    h.state.ran.map Grove.nodeOf = g.progress.nodes ∧ h.log = g.progress.entries := by
  obtain ⟨later, nodes, entries⟩ := solo.run run
  rw [← nodes, ← entries, Progress.nodes, Progress.entries]
  change _ = _ ++ ((growth ε ρ).levelOrder h.ahead).map _ ∧
    _ = _ ++ ((growth ε ρ).levelOrder h.ahead).flatMap _
  rw [later.empty_iff.mp empty, Growth.levelOrder_nil]
  exact ⟨(List.append_nil _).symm, (List.append_nil _).symm⟩

theorem once (solo : Solo settings queueId roots g) :
    (↑g.progress.nodes : Multiset (Node ρ)) = (total roots).2 := by
  have finishes : ∃ h, Run g h ∧ h.Empty := by
    by_cases empty : g.Empty
    · exact ⟨g, .nil g, empty⟩
    · exact solo.reached.can_finish solo.valid solo.roomy solo.unbounded (solo.opened empty)
  obtain ⟨h, run, empty⟩ := finishes
  have balance := (solo.reached.run run).balance solo.unbounded
  rw [empty.pending, add_zero] at balance
  rw [← (solo.ended run empty).1]
  exact congrArg Prod.snd balance

theorem body_goes_on {w : Worker (Numbered (Located ε ρ))} {task : Task (Located ε ρ)}
    (here : g.state.pool.worker? 0 = some w) (current : w.batch.head? = some task)
    (post : g.state.posts 0 = .busy) : ∃ h, Step g h ∧ h.seat ≠ g.seat := by
  cases cursor : g.cursors 0 with
  | mk k script =>
    have other {h : Grove ε ρ}
        (fewer : (h.cursors 0).script.acts < script.acts ∨ (h.state.posts 0).inBody = false) :
        h.seat ≠ g.seat := by
      intro same
      rw [Grove.seat, Grove.seat, Prod.mk.injEq, Prod.mk.injEq, cursor, post] at same
      rcases fewer with fewer | out
      · simp [same.2.2] at fewer
      · simp [same.2.1, Post.inBody] at out
    have finished {outcome : Outcome ρ} (ends : script.outcome? = some outcome) :
        ∃ h, Step g h ∧ h.seat ≠ g.seat := by
      have inner := Interleaving.Step.finish g.state 0 w task outcome here current post
      refine ⟨_, .finish g _ 0 outcome (by rw [cursor]; exact ends) inner, other (.inr ?_)⟩
      simp [State.finish, State.stand, Post.inBody]
    cases script with
    | ret | panic => exact finished rfl
    | log entry next =>
        refine ⟨_, .log g 0 k entry next w task here current post cursor, other (.inl ?_)⟩
        simp [Grove.write, Script.acts]
    | submit call next =>
        refine ⟨_, .submit g none 0 k w task call next here current post cursor rfl,
          other (.inl ?_)⟩
        simp [Grove.submit, Script.acts]

theorem goes_on (solo : Solo settings queueId roots g) (more : ¬g.Empty) :
    ∃ h, Step g h ∧ h.seat ≠ g.seat := by
  have pool := solo.reached.pool
  obtain ⟨w, here⟩ := State.here_of_inside pool solo.manned
  have stays : w.stage ≠ .exited := fun exited => by
    have closed := pool.closed (.inl (pool.raised_of_exited solo.roomy here exited))
    simp [solo.opened more] at closed
  obtain ⟨a, t, mine, step⟩ := pool.goes_on here stays
  have moved {h : Grove ε ρ} (finishes : ∀ i outcome, a ≠ .finish i outcome) (after : h.state = t) :
      h.seat ≠ g.seat := fun same => by
    subst after
    exact (solo.phase_lt more step mine finishes).ne (phase_congr same)
  cases a with
  | begin i =>
      cases step with
      | begin i n w here stage some post =>
          obtain ⟨task, rest, batch⟩ := List.exists_cons_of_ne_nil some
          have current : w.batch.head? = Option.some task := congrArg List.head? batch
          exact ⟨_, .begin g i n w task here stage current post, moved (by simp) rfl⟩
  | finish i outcome =>
      cases step with
      | finish i w task outcome here current post =>
          obtain rfl := here_zero pool solo.single here
          exact body_goes_on here current post
  | enter | fetch | report | count | check =>
      exact ⟨_, .background g t _ rfl step, moved (by simp) rfl⟩
  | _ => cases mine

end Solo

def Grove.effort (g : Grove ε ρ) : Nat := g.progress.work + g.state.leftTo phase 0

/-- A run without end in which the worker goes on sooner or later if there is anything to do. -/
structure Fair (run : Nat → Grove ε ρ) : Prop where
  steps : ∀ n, Step (run n) (run (n + 1)) ∨ run (n + 1) = run n
  goes_on : ∀ n, ¬(run n).Empty → ∃ m, n ≤ m ∧ (run (m + 1)).seat ≠ (run m).seat

theorem Solo.effort {g h : Grove ε ρ} (solo : Solo settings queueId roots g) (more : ¬g.Empty)
    (step : Step g h) : h.effort < g.effort ∨ h.seat = g.seat ∧ h.effort = g.effort := by
  obtain ⟨n, advance, spent⟩ := solo.served step
  have work := advance.work
  rw [Grove.effort, Grove.effort]
  rcases spent more with ⟨rfl, same⟩ | closer
  · have still := phase_congr same
    exact .inr ⟨same, by omega⟩
  · exact .inl (by omega)

theorem Solo.exists_fair {g : Grove ε ρ} (solo : Solo settings queueId roots g) :
    ∃ run : Nat → Grove ε ρ, run 0 = g ∧ Fair run := by
  have next (h : { h // Solo settings queueId roots h }) :
      ∃ k : { k // Solo settings queueId roots k }, (h.1.Empty → k = h) ∧
        (¬h.1.Empty → Step h.1 k.1 ∧ k.1.seat ≠ h.1.seat) := by
    by_cases empty : h.1.Empty
    · exact ⟨h, fun _ => rfl, fun more => absurd empty more⟩
    · obtain ⟨k, step, moved⟩ := h.2.goes_on empty
      exact ⟨⟨k, h.2.step step⟩, fun none => absurd none empty, fun _ => ⟨step, moved⟩⟩
  -- The run in which nobody but the worker goes on.
  choose next stays moves using next
  have after (n : Nat) : next^[n + 1] ⟨g, solo⟩ = next (next^[n] ⟨g, solo⟩) :=
    Function.iterate_succ_apply' next n _
  refine ⟨fun n => (next^[n] ⟨g, solo⟩).1, rfl, fun n => ?_, fun n more => ⟨n, le_refl n, ?_⟩⟩
  · rw [after]
    by_cases empty : (next^[n] ⟨g, solo⟩).1.Empty
    · exact .inr (congrArg Subtype.val (stays _ empty))
    · exact .inl (moves _ empty).1
  · rw [after]
    exact (moves _ more).2

theorem Fair.solo {run : Nat → Grove ε ρ} (fair : Fair run)
    (solo : Solo settings queueId roots (run 0)) (n : Nat) :
    Solo settings queueId roots (run n) := by
  induction n with
  | zero => exact solo
  | succ n ih =>
      rcases fair.steps n with step | same
      · exact ih.step step
      · exact same ▸ ih

theorem Fair.rests {run : Nat → Grove ε ρ} (fair : Fair run)
    (solo : Solo settings queueId roots (run 0)) : ∃ n, ∀ m, n ≤ m → (run m).Empty := by
  have still := fair.solo solo
  have reaches : ∃ n, (run n).Empty := by
    by_contra never
    have more : ∀ n, ¬(run n).Empty := fun n empty => never ⟨n, empty⟩
    have falls : Antitone fun n => (run n).effort := antitone_nat_of_succ_le fun n => by
      rcases fair.steps n with step | same
      · rcases (still n).effort (more n) step with less | ⟨_, equal⟩
        · exact less.le
        · exact equal.le
      · exact (congrArg Grove.effort same).le
    -- The effort would have no least value.
    have least : ∀ effort n, (run n).effort ≠ effort := by
      intro effort
      induction effort using Nat.strong_induction_on with
      | _ effort ih =>
          rintro n rfl
          obtain ⟨m, later, moved⟩ := fair.goes_on n (more n)
          have less : (run (m + 1)).effort < (run m).effort := by
            rcases fair.steps m with step | same
            · exact ((still m).effort (more m) step).resolve_right fun idle => moved idle.1
            · exact absurd (congrArg Grove.seat same) moved
          exact ih _ (less.trans_le (falls later)) (m + 1) rfl
    exact least _ 0 rfl
  obtain ⟨n, empty⟩ := reaches
  refine ⟨n, fun m later => ?_⟩
  induction m, later using Nat.le_induction with
  | base => exact empty
  | succ m _ ih =>
      rcases fair.steps m with step | same
      · exact (still m).empty_step ih step
      · rwa [same]

end WorkerPool.Pool.Interleaving.Forest
