import WorkerPool.Proofs.Pool.Round

namespace WorkerPool.Pool.Interleaving

variable {β ρ : Type} {settings : PoolSettings} {queueId : Nat}

/-- The stages a worker can be in at a post, and whether it then has a batch. -/
def Coherent (w : Worker (Numbered β)) : Post ρ → Prop
  | .idle => w.stage = .fetching ∨ w.stage = .exited → w.batch = []
  | .waiting => w.stage = .fetching ∧ w.batch = []
  | _ => (∃ n, w.stage = .running n) ∧ w.batch ≠ []

theorem check_batch (w : Worker (Numbered β)) (raised : Bool) (policy : StopPolicy) :
    (w.check raised policy).batch = w.batch := by
  unfold Worker.check
  split
  · split
    · rfl
    · split
      · rfl
      · cases policy <;> rfl
  · rfl

theorem Stride.coherent {s : State β ρ} {i : Nat} {a : Action β ρ} {w w' : Worker (Numbered β)}
    {post post' : Post ρ} (stride : Stride s i a w post w' post') (coherent : Coherent w post) :
    Coherent w' post' := by
  cases stride with
  | elsewhere => exact coherent
  | enter w stage => exact ⟨stage, coherent (.inl stage)⟩
  | fetch w batch brought => simp [Coherent]
  | begin w n stage more => exact ⟨⟨n, stage⟩, more⟩
  | finish | report => exact coherent
  | count w =>
      obtain ⟨⟨n, stage⟩, _⟩ := coherent
      simp [Coherent, stage]
  | check w n stage done =>
      intro _
      rw [check_batch, done]

theorem Stride.exited {s : State β ρ} {i : Nat} {a : Action β ρ} {w w' : Worker (Numbered β)}
    {post post' : Post ρ} (stride : Stride s i a w post w' post') (coherent : Coherent w post)
    (exited : w.stage = .exited) : a.worker? ≠ some i ∧ w' = w := by
  cases stride with
  | elsewhere _ _ _ other => exact ⟨other, rfl⟩
  | enter w stage | begin w n stage | check w n stage => simp [exited] at stage
  | fetch => simp [Coherent, exited] at coherent
  | finish | report | count =>
      obtain ⟨⟨n, stage⟩, _⟩ := coherent
      simp [exited] at stage

theorem State.worker_start {i : Nat} {w : Worker (Numbered β)}
    (here : (State.start settings queueId : State β ρ).pool.worker? i = some w) :
    w.batch = [] ∧ w.draining = false ∧
      w.stage = if settings.roomy then .fetching else .exited := by
  obtain ⟨id, _, rfl⟩ := List.mem_map.mp (List.mem_of_getElem? here)
  exact ⟨rfl, rfl, rfl⟩

/-- What holds of a worker that starts, and is kept by whatever a step does to a worker, holds of
every worker. -/
theorem Reachable.everyWorker {P : State β ρ → Worker (Numbered β) → Post ρ → Prop} {s : State β ρ}
    (reached : Reachable settings queueId s)
    (initial : ∀ w : Worker (Numbered β), w.batch = [] ∧ w.draining = false ∧
      (w.stage = if settings.roomy then .fetching else .exited) →
        P (State.start settings queueId) w .idle)
    (keep : ∀ {s t a i w w'}, Reachable settings queueId s → Step s a t →
      s.pool.worker? i = some w → Stride s i a w (s.posts i) w' (t.posts i) →
      P s w (s.posts i) → P t w' (t.posts i)) :
    ∀ i w, s.pool.worker? i = some w → P s w (s.posts i) := by
  apply reached.invariant (P := fun s => ∀ i w, s.pool.worker? i = some w → P s w (s.posts i))
  · intro i w here
    exact initial w (State.worker_start here)
  · intro s a t reached step before i w' after
    obtain ⟨w, here, stride⟩ := step.stride after
    exact keep reached step here stride (before i w here)

theorem Reachable.coherent {s : State β ρ} (reached : Reachable settings queueId s) :
    ∀ i w, s.pool.worker? i = some w → Coherent w (s.posts i) := by
  apply reached.everyWorker (P := fun _ => Coherent)
  · intro w fresh _
    exact fresh.1
  · intro s t a i w w' _ _ _ stride before
    exact stride.coherent before

theorem Reachable.idle_of_exited {s : State β ρ} (reached : Reachable settings queueId s) {i : Nat}
    {w : Worker (Numbered β)} (here : s.pool.worker? i = some w) (exited : w.stage = .exited) :
    w.batch = [] ∧ s.posts i = .idle := by
  have coherent := reached.coherent i w here
  cases post : s.posts i with
  | idle =>
      rw [post] at coherent
      exact ⟨coherent (.inr exited), rfl⟩
  | waiting | busy | ended outcome | reported => simp [Coherent, post, exited] at coherent

theorem Reachable.exited_of_cramped {s : State β ρ} (reached : Reachable settings queueId s)
    (cramped : settings.roomy = false) : ∀ i w, s.pool.worker? i = some w → w.stage = .exited := by
  apply reached.everyWorker (P := fun _ w _ => w.stage = .exited)
  · intro w fresh
    simpa [cramped] using fresh.2.2
  · intro s t a i w w' reached _ here stride exited
    rw [(stride.exited (reached.coherent i w here) exited).2]
    exact exited

theorem Reachable.roomy_of_stays {s : State β ρ} (reached : Reachable settings queueId s) {i : Nat}
    {w : Worker (Numbered β)} (here : s.pool.worker? i = some w) (stays : w.stage ≠ .exited) :
    settings.roomy = true := by
  by_contra cramped
  exact stays (reached.exited_of_cramped (by simpa using cramped) i w here)

theorem Step.allExited {s t : State β ρ} {a : Action β ρ} (reached : Reachable settings queueId s)
    (step : Step s a t) (exited : s.pool.allExited = true) : t.pool.allExited = true := by
  rw [Pool.allExited_iff] at exited ⊢
  intro i w' after
  obtain ⟨w, here, stride⟩ := step.stride after
  have same := (stride.exited (reached.coherent i w here) (exited i w here)).2
  rw [same]
  exact exited i w here

theorem Reachable.workers_length {s : State β ρ} (reached : Reachable settings queueId s) :
    s.pool.workers.length = settings.workers.count :=
  reached.invariant (P := fun s => s.pool.workers.length = settings.workers.count)
    (by simp [State.start, Pool.start]) fun _ step same => step.workers_length.trans same

theorem Reachable.worker_zero {s : State β ρ} (reached : Reachable settings queueId s)
    (manned : 0 < settings.workers.count) : ∃ w, s.pool.worker? 0 = some w := by
  have first : 0 < s.pool.workers.length := by rwa [reached.workers_length]
  exact ⟨_, List.getElem?_eq_getElem first⟩

def State.Joined (s : State β ρ) : Prop := s.removed ≠ [] ∨ s.joining ≠ [] ∨ 0 < s.returned

theorem Step.joined {s t : State β ρ} {a : Action β ρ} (step : Step s a t) (joined : t.Joined) :
    s.Joined ∨ a = .takeLeftovers ∧ s.pool.allExited = true := by
  cases step with
  | offer token call =>
      rcases s.offer_cases token call with ⟨_, _, _, result⟩ | ⟨_, _, result⟩ <;>
        exact .inl (by rwa [result] at joined)
  | takeLeftovers held exited => exact .inr ⟨rfl, exited⟩
  | countLeftovers k leftovers taken =>
      exact .inl (.inr (.inl fun none => by simp [none] at taken))
  | dropLeftovers k leftovers counted =>
      exact .inl (.inr (.inl fun none => by simp [none] at counted))
  | _ => exact .inl joined

theorem Reachable.allExited_of_joined {s : State β ρ} (reached : Reachable settings queueId s) :
    s.Joined → s.pool.allExited = true := by
  apply reached.invariant (P := fun s => s.Joined → s.pool.allExited = true)
  · simp [State.Joined, State.start]
  · intro s a t reached step before joined
    apply step.allExited reached
    rcases step.joined joined with earlier | ⟨_, exited⟩
    · exact before earlier
    · exact exited

theorem Step.fallen_eq {s t : State β ρ} {a : Action β ρ} (step : Step s a t)
    (other : a ≠ .takeLeftovers) : t.pool.fallen = s.pool.fallen := by
  cases step with
  | takeLeftovers => exact absurd rfl other
  | offer token call =>
      rcases s.offer_cases token call with ⟨_, _, _, result⟩ | ⟨_, _, result⟩ <;> rw [result]
  | tally k offer pending =>
      obtain ⟨_, _, _, result⟩ := s.pool.tally_eq offer.tasks offer.event offer.decision
      rw [State.tally, result]
  | report i w outcome here post =>
      obtain ⟨_, _, result⟩ := s.pool.countPanic_eq i outcome
      rw [State.report, result]
  | count i w task here current post =>
      have result := s.pool.countTask_eq i task (by rw [s.pool.current?_eq here, current])
      rw [State.count, result]
  | check i n w here stage done post =>
      obtain ⟨_, result⟩ := s.pool.check_eq i w here
      rw [State.check, result]
  | raise closed =>
      obtain ⟨_, result⟩ := s.pool.trigger_eq
      rw [State.raise, result]
  | countLeftovers k leftovers taken =>
      obtain ⟨_, result⟩ := s.pool.countLeftovers_eq leftovers
      rw [State.countLeftovers, result]
  | _ => rfl

theorem Reachable.fallen_nil {s : State β ρ} (reached : Reachable settings queueId s) :
    s.Joined → s.pool.fallen = [] := by
  apply reached.invariant (P := fun s => s.Joined → s.pool.fallen = [])
  · simp [State.Joined, State.start]
  · intro s a t _ step before joined
    by_cases taken : a = .takeLeftovers
    · subst taken
      cases step
      rfl
    · rw [step.fallen_eq taken]
      exact before ((step.joined joined).resolve_right fun first => taken first.1)

theorem Reachable.removed_of_fetch {s : State β ρ} (reached : Reachable settings queueId s)
    {i : Nat} {w : Worker (Numbered β)} (here : s.pool.worker? i = some w)
    (post : s.posts i = .waiting) : s.removed = [] := by
  by_contra removed
  have exited := reached.allExited_of_joined (.inl removed)
  have gone := (Pool.allExited_iff _).mp exited i w here
  have coherent := reached.coherent i w here
  rw [post] at coherent
  simp [Coherent, gone] at coherent

end WorkerPool.Pool.Interleaving
