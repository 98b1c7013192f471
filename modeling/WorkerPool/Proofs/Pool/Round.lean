import WorkerPool.Proofs.Pool.Effect
import WorkerPool.Proofs.Pool.Step

namespace WorkerPool.Pool.Interleaving

variable {β ρ : Type}

/-- What an action does to worker `i` and to its post. -/
inductive Stride (s : State β ρ) (i : Nat) :
    Action β ρ → Worker (Numbered β) → Post ρ → Worker (Numbered β) → Post ρ → Prop
  | elsewhere (a : Action β ρ) (w : Worker (Numbered β)) (post : Post ρ)
      (other : a.worker? ≠ some i) : Stride s i a w post w post
  | enter (w : Worker (Numbered β)) (stage : w.stage = .fetching) :
      Stride s i (.enter i) w .idle w .waiting
  | fetch (w : Worker (Numbered β)) (batch : List (Task β))
      (brought : batch = s.pool.queue.items.take s.pool.settings.batchSize) :
      Stride s i (.fetch i) w .waiting
        { w with
          batch := w.batch ++ batch
          token := w.token.record batch.length
          stage := .running batch.length } .idle
  | begin (w : Worker (Numbered β)) (n : Nat) (stage : w.stage = .running n) (more : w.batch ≠ []) :
      Stride s i (.begin i) w .idle w .busy
  | finish (w : Worker (Numbered β)) (task : Task β) (outcome : Outcome ρ)
      (current : w.batch.head? = some task) :
      Stride s i (.finish i outcome) w .busy w (.ended outcome)
  | report (w : Worker (Numbered β)) (outcome : Outcome ρ) :
      Stride s i (.report i) w (.ended outcome) w .reported
  | count (w : Worker (Numbered β)) :
      Stride s i (.count i) w .reported { w with batch := w.batch.tail } .idle
  | check (w : Worker (Numbered β)) (n : Nat) (stage : w.stage = .running n) (done : w.batch = []) :
      Stride s i (.check i) w .idle (w.check s.pool.signal.raised s.pool.settings.stopPolicy) .idle

structure WorkerStep (s : State β ρ) (a : Action β ρ) (t : State β ρ) (i : Nat)
    (w : Worker (Numbered β)) (f : Worker (Numbered β) → Worker (Numbered β)) (post : Post ρ) :
    Prop where
  mine : a.worker? = some i
  here : s.pool.worker? i = some w
  workers : t.pool.workers = s.pool.workers.modify i f
  posts : t.posts = Function.update s.posts i post
  stride : Stride s i a w (s.posts i) (f w) post

theorem State.offer_workers (s : State β ρ) (token : Option ProducerToken)
    (call : Submission β) : (s.offer token call).pool.workers = s.pool.workers ∧
      (s.offer token call).posts = s.posts := by
  rcases s.offer_cases token call with ⟨_, _, _, result⟩ | ⟨_, _, result⟩ <;> simp [result]

/-- Every step is a caller's, which leaves all workers as they are, or one worker's, which leaves
all others as they are. -/
theorem Step.workers {s t : State β ρ} {a : Action β ρ} (step : Step s a t) :
    (a.worker? = none ∧ t.pool.workers = s.pool.workers ∧ t.posts = s.posts) ∨
      ∃ i w f post, WorkerStep s a t i w f post := by
  cases step with
  | offer token call => exact .inl ⟨rfl, s.offer_workers token call⟩
  | tally k offer pending =>
      obtain ⟨_, _, _, result⟩ := s.pool.tally_eq offer.tasks offer.event offer.decision
      exact .inl ⟨rfl, by simp [State.tally, result]⟩
  | raise closed =>
      obtain ⟨_, result⟩ := s.pool.trigger_eq
      exact .inl ⟨rfl, by simp [State.raise, result]⟩
  | countLeftovers k leftovers taken =>
      obtain ⟨_, result⟩ := s.pool.countLeftovers_eq leftovers
      exact .inl ⟨rfl, by simp [State.countLeftovers, result]⟩
  | close | await | takeLeftovers | dropLeftovers | selfJoin | read => exact .inl ⟨rfl, rfl, rfl⟩
  | enter i w here stage post =>
      exact .inr ⟨i, w, id, .waiting, rfl, here, by simp [State.stand], rfl, post ▸ .enter w stage⟩
  | fetch i w here post =>
      exact .inr ⟨i, w, _, .idle, rfl, here, rfl, rfl, post ▸ .fetch w _ rfl⟩
  | begin i n w here stage more post =>
      exact .inr ⟨i, w, id, .busy, rfl, here, by simp [State.stand], rfl,
        post ▸ .begin w n stage more⟩
  | finish i w task outcome here current post =>
      exact .inr ⟨i, w, id, .ended outcome, rfl, here, by simp [State.finish, State.stand], rfl,
        post ▸ .finish w task outcome current⟩
  | report i w outcome here post =>
      obtain ⟨_, _, result⟩ := s.pool.countPanic_eq i outcome
      exact .inr ⟨i, w, id, .reported, rfl, here, by simp [State.report, State.stand, result], rfl,
        post ▸ .report w outcome⟩
  | count i w task here current post =>
      have result := s.pool.countTask_eq i task (by rw [s.pool.current?_eq here, current])
      exact .inr ⟨i, w, fun w => { w with batch := w.batch.tail }, .idle, rfl, here,
        by rw [State.count, result], rfl, post ▸ .count w⟩
  | check i n w here stage done post =>
      obtain ⟨_, result⟩ := s.pool.check_eq i w here
      exact .inr ⟨i, w, fun _ => w.check s.pool.signal.raised s.pool.settings.stopPolicy, .idle,
        rfl, here, by rw [State.check, result], by simp [State.check, ← post],
        by rw [post]; exact .check w n stage done⟩

theorem Step.workers_length {s t : State β ρ} {a : Action β ρ} (step : Step s a t) :
    t.pool.workers.length = s.pool.workers.length := by
  rcases step.workers with ⟨_, workers, _⟩ | ⟨i, w, f, post, one⟩
  · rw [workers]
  · rw [one.workers, List.length_modify]

theorem Step.inside {s t : State β ρ} {a : Action β ρ} (step : Step s a t) {i : Nat}
    (mine : a.worker? = some i) : i < t.pool.workers.length := by
  rw [step.workers_length]
  rcases step.workers with ⟨caller, _⟩ | ⟨j, w, f, post, one⟩
  · simp [caller] at mine
  · cases one.mine.symm.trans mine
    exact (List.getElem?_eq_some_iff.mp one.here).1

theorem Step.stride {s t : State β ρ} {a : Action β ρ} (step : Step s a t) {j : Nat}
    {w' : Worker (Numbered β)} (after : t.pool.worker? j = some w') :
    ∃ w, s.pool.worker? j = some w ∧ Stride s j a w (s.posts j) w' (t.posts j) := by
  rcases step.workers with ⟨caller, workers, posts⟩ | ⟨i, w, f, post, one⟩
  · refine ⟨w', by rwa [Pool.worker?, ← workers], ?_⟩
    rw [posts]
    exact .elsewhere a w' _ (by simp [caller])
  · by_cases same : i = j
    · subst same
      have here : s.pool.workers[i]? = some w := one.here
      have changed : f w = w' := by
        simpa [Pool.worker?, one.workers, here] using after
      refine ⟨w, one.here, ?_⟩
      simpa [one.posts, changed] using one.stride
    · refine ⟨w', by simpa [Pool.worker?, one.workers, same] using after, ?_⟩
      rw [one.posts, Function.update_of_ne (Ne.symm same)]
      exact .elsewhere a w' _ (by simp [one.mine, same])

end WorkerPool.Pool.Interleaving
