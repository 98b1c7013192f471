import WorkerPool.Proofs.Pool.Effect
import WorkerPool.Proofs.Pool.Step

namespace WorkerPool

namespace Queue

variable {α : Type}

theorem enqueue_id {q next : Queue α} {item : α} (accepted : q.enqueue item = .ok next) :
    next.id = q.id := by
  obtain ⟨_, _, rfl⟩ := (q.enqueue_ok_iff next item).mp accepted
  rfl

theorem enqueueBulk_id {q next : Queue α} {batch : List α}
    (accepted : q.enqueueBulk batch = .ok next) : next.id = q.id := by
  obtain ⟨_, _, rfl⟩ := (q.enqueueBulk_ok_iff next batch).mp accepted
  rfl

theorem enqueueWith_ids {q next : Queue α} {t after : ProducerToken} {item : α}
    (accepted : q.enqueueWith t item = .ok (.ok (next, after))) :
    next.id = q.id ∧ after.queueId = t.queueId := by
  unfold enqueueWith at accepted
  split at accepted
  · cases result : q.enqueue item with
    | ok queue =>
        simp only [result, Except.map, Except.ok.injEq, Prod.mk.injEq] at accepted
        obtain ⟨rfl, rfl⟩ := accepted
        exact ⟨enqueue_id result, rfl⟩
    | error refused => simp [result, Except.map] at accepted
  · cases accepted

theorem enqueueBulkWith_ids {q next : Queue α} {t after : ProducerToken} {batch : List α}
    (accepted : q.enqueueBulkWith t batch = .ok (.ok (next, after))) :
    next.id = q.id ∧ after.queueId = t.queueId := by
  unfold enqueueBulkWith at accepted
  split at accepted
  · cases result : q.enqueueBulk batch with
    | ok queue =>
        simp only [result, Except.map, Except.ok.injEq, Prod.mk.injEq] at accepted
        obtain ⟨rfl, rfl⟩ := accepted
        exact ⟨enqueueBulk_id result, rfl⟩
    | error refused => simp [result, Except.map] at accepted
  · cases accepted

end Queue

namespace Pool

variable {β ρ : Type}

theorem offerBulk_id (p : Pool β) (token : Option ProducerToken) (jobs : List (Job β)) :
    (p.offerBulk token jobs).2.queue.id = p.queue.id := by
  rcases p.offerBulk_cases token jobs with ⟨_, _, result⟩ | ⟨_, _, result⟩ <;> rw [result]

theorem tally_id (p : Pool β) (tasks : Nat) (event : Option Event) (decision : Decision) :
    (p.tally tasks event decision).queue.id = p.queue.id := by
  obtain ⟨_, _, _, result⟩ := p.tally_eq tasks event decision
  rw [result]

theorem submitBulk_id (p : Pool β) (token : Option ProducerToken) (jobs : List (Job β)) :
    (p.submitBulk token jobs).2.queue.id = p.queue.id :=
  ((p.offerBulk token jobs).2.tally_id _ _ _).trans (p.offerBulk_id token jobs)

theorem submit_id (p : Pool β) (token : Option ProducerToken) (job : Job β) :
    (p.submit token job).2.queue.id = p.queue.id := by
  rw [submit, p.offer_eq_offerBulk]
  exact ((p.offerBulk token [job]).2.tally_id _ _ _).trans (p.offerBulk_id token [job])

theorem finish_id (p : Pool β) (i : Nat) (outcome : Outcome ρ) (cs : Channels ρ) :
    (p.finish i outcome cs).1.queue.id = p.queue.id := by
  obtain ⟨_, _, counted⟩ := p.countPanic_eq i outcome
  simp only [finish, countTask, counted]
  split <;> rfl

theorem check_id (p : Pool β) (i : Nat) : (p.check i).queue.id = p.queue.id := by
  cases here : p.worker? i with
  | none => simp only [check, here]
  | some w =>
      obtain ⟨_, result⟩ := p.check_eq i w here
      rw [result]

theorem trigger_id (p : Pool β) : p.trigger.queue.id = p.queue.id := by
  obtain ⟨_, result⟩ := p.trigger_eq
  rw [result]

theorem join_id (p q : Pool β) (cs ds : Channels ρ) (joined : p.join cs = some (q, ds)) :
    q.queue.id = p.queue.id := by
  unfold join at joined
  split at joined
  · cases joined
    obtain ⟨_, result⟩ := p.removeLeftovers.2.countLeftovers_eq p.removeLeftovers.1
    change (p.removeLeftovers.2.countLeftovers p.removeLeftovers.1).queue.id = _
    rw [result]
    rfl
  · cases joined

theorem submitBulk_token (p : Pool β) (token : Option ProducerToken) (jobs : List (Job β))
    {t : ProducerToken} (accepted : (p.submitBulk token jobs).1 = .ok (some t)) :
    ∃ given, token = some given ∧ t.queueId = given.queueId := by
  rcases p.offerBulk_cases token jobs with ⟨_, _, result⟩ | ⟨decision, refused, result⟩
  · simp only [submitBulk, result, verdict, Except.ok.injEq, Option.map_eq_some_iff] at accepted
    obtain ⟨given, rfl, rfl⟩ := accepted
    exact ⟨given, rfl, rfl⟩
  · simp only [submitBulk, result] at accepted
    cases decision with
    | admitted token => exact absurd rfl (refused token)
    | refused reason => cases reason <;> cases accepted
    | foreign => cases accepted

theorem submit_token (p : Pool β) (token : Option ProducerToken) (job : Job β)
    {t : ProducerToken} (accepted : (p.submit token job).1 = .ok (some t)) :
    ∃ given, token = some given ∧ t.queueId = given.queueId := by
  apply p.submitBulk_token token [job]
  rw [← accepted, submit, submitBulk, p.offer_eq_offerBulk]

theorem countTask_id (p : Pool β) (i : Nat) : (p.countTask i).queue.id = p.queue.id := by
  unfold countTask
  split <;> rfl

namespace Interleaving

theorem Step.queueId_eq {s t : State β ρ} {a : Action β ρ} (step : Step s a t) :
    t.pool.queue.id = s.pool.queue.id := by
  cases step with
  | offer token call =>
      rcases s.offer_cases token call with ⟨_, _, _, result⟩ | ⟨_, _, result⟩ <;> rw [result]
  | tally k offer => exact s.pool.tally_id _ _ _
  | report i w outcome =>
      obtain ⟨_, _, result⟩ := s.pool.countPanic_eq i outcome
      simp only [State.report, result]
  | count i => exact s.pool.countTask_id i
  | check i => exact s.pool.check_id i
  | raise => exact s.pool.trigger_id
  | countLeftovers k leftovers =>
      obtain ⟨_, result⟩ := s.pool.countLeftovers_eq leftovers
      simp only [State.countLeftovers, result]
  | _ => rfl

theorem Reachable.queueId_eq {settings : PoolSettings} {queueId : Nat} {s : State β ρ}
    (reached : Reachable settings queueId s) : s.pool.queue.id = queueId := by
  obtain ⟨actions, run⟩ := reached
  exact run.preserves (P := fun s => s.pool.queue.id = queueId)
    (fun step same => step.queueId_eq.trans same) rfl

end Interleaving

end Pool

end WorkerPool
