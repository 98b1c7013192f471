import WorkerPool.Proofs.Pool.Account
import WorkerPool.Proofs.Pool.Conservation

namespace WorkerPool.Pool.Interleaving

variable {β ρ : Type} {settings : PoolSettings} {queueId : Nat}

/-- A worker that was draining before it fetched nothing leaves an empty queue behind. -/
def Exhausted (items : List (Task β)) (w : Worker (Numbered β)) : Prop :=
  (w.draining = true ∧ w.stage = .running 0) ∨ w.stage = .exited → items = []

theorem check_exhausted {w : Worker (Numbered β)} {items : List (Task β)} (raised : Bool)
    (exhausted : Exhausted items w) : Exhausted items (w.check raised .drain) := by
  unfold Worker.check
  split
  · next n stage =>
      split
      · next last =>
          have empty : w.draining = true ∧ n = 0 := by simpa using last
          exact fun _ => exhausted (.inl ⟨empty.1, by rw [stage, empty.2]⟩)
      · split <;> simp [Exhausted]
  · exact exhausted

theorem Stride.exhausted {s : State β ρ} {i : Nat} {a : Action β ρ} {w w' : Worker (Numbered β)}
    {post post' : Post ρ} (stride : Stride s i a w post w' post')
    (drains : s.pool.settings.stopPolicy = .drain) (batches : 0 < s.pool.settings.batchSize)
    (coherent : Coherent w post) (exhausted : Exhausted s.pool.queue.items w) :
    Exhausted s.pool.queue.items w' := by
  cases stride with
  | elsewhere | enter | begin | finish | report | count => exact exhausted
  | fetch w batch brought =>
      intro seen
      have nothing : batch = [] := by
        simpa using (seen.resolve_right (by simp)).2
      rw [brought] at nothing
      exact (List.take_eq_nil_iff.mp nothing).resolve_left (Nat.ne_of_gt batches)
  | check w n stage done =>
      rw [drains]
      exact check_exhausted _ exhausted

theorem Reachable.exhausted {s : State β ρ} (reached : Reachable settings queueId s)
    (valid : settings.validate = .ok ()) (roomy : settings.roomy = true)
    (drains : settings.stopPolicy = .drain) :
    ∀ i w, s.pool.worker? i = some w → Exhausted s.pool.queue.items w := by
  apply reached.everyWorker (P := fun s w _ => Exhausted s.pool.queue.items w)
  · intro w fresh
    simp [Exhausted, fresh.2.2, roomy]
  · intro s t a i w w' reached step here stride before seen
    have policy : s.pool.settings.stopPolicy = .drain := by rw [reached.settings_eq, drains]
    have batches : 0 < s.pool.settings.batchSize := by
      rw [reached.settings_eq]
      exact (manned_of_valid valid).2
    have empty := stride.exhausted policy batches (reached.coherent i w here) before seen
    -- The queue stays empty: a worker that drains or has left has seen the signal, so it is closed.
    have raised := stride.informed (reached.informed roomy i w here) (seen.imp And.left id)
    have closed := reached.closed (.inl raised)
    exact (step.entry reached).emptied closed empty

theorem Reachable.empty_of_allExited {s : State β ρ} (reached : Reachable settings queueId s)
    (valid : settings.validate = .ok ()) (roomy : settings.roomy = true)
    (drains : settings.stopPolicy = .drain) (exited : s.pool.allExited = true) :
    s.pool.queue.items = [] := by
  obtain ⟨w, here⟩ := reached.worker_zero (manned_of_valid valid).1
  have gone := (Pool.allExited_iff _).mp exited 0 w here
  exact reached.exhausted valid roomy drains 0 w here (.inr gone)

theorem Step.removed {s t : State β ρ} {a : Action β ρ} (step : Step s a t) :
    t.removed = s.removed ∨ a = .takeLeftovers ∧
      s.pool.allExited = true ∧ t.removed = s.removed ++ s.pool.queue.items := by
  cases step with
  | offer token call =>
      rcases s.offer_cases token call with ⟨_, _, _, result⟩ | ⟨_, _, result⟩ <;>
        exact .inl (by rw [result])
  | takeLeftovers _ exited => exact .inr ⟨rfl, exited, rfl⟩
  | _ => exact .inl rfl

/-- What a pool that drains has come to when its workers are gone. -/
structure Drained (s : State β ρ) : Prop where
  closed : s.pool.queue.closed = true
  empty : s.pool.queue.items = []
  idle : ∀ i w, s.pool.worker? i = some w → w.batch = [] ∧ s.posts i = .idle
  ran : (s.ran.map Ran.task).Perm s.admitted.flatten
  once : ((s.ran.map Ran.task).map numberOf).Nodup

end WorkerPool.Pool.Interleaving
