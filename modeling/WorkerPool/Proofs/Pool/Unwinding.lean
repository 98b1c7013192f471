import WorkerPool.Pool.Unwinding
import WorkerPool.Proofs.Pool.Control

namespace WorkerPool.Pool

variable {β ρ : Type}

theorem conclude_eq (p : Pool β) {i : Nat} {job : Job β} (current : p.current? i = some job)
    (ending : Ending ρ) (cs : Channels ρ) :
    ∃ f stats fallen events, (p.conclude i ending cs).1 =
        { p with workers := p.workers.modify i f, stats, fallen, events } ∧
      ∀ w : Worker β, (f w).stage =
        if ((job.run ending).bind Thrown.dropped).isSome then .exited else w.stage := by
  obtain ⟨w, here, _⟩ := Option.bind_eq_some_iff.mp current
  unfold conclude
  cases caught : job.run ending with
  | none =>
      simp only [current, caught, p.countTask_eq i job current]
      exact ⟨_, _, _, _, rfl, fun w => rfl⟩
  | some thrown =>
      let q := { p with stats := p.stats.panic }.emit (.taskPanicked i thrown.message)
      have still : q.current? i = some job := current
      cases dropped : thrown.dropped with
      | none =>
          simp only [current, caught, dropped]
          rw [q.countTask_eq i job still]
          exact ⟨_, _, _, _, rfl, fun w => by simp [dropped]⟩
      | some last =>
          have there : q.worker? i = some w := here
          simp only [current, caught, dropped]
          rw [fall, there]
          exact ⟨_, _, _, _, rfl, fun w => by simp [dropped]⟩

namespace Interleaving

variable {settings : PoolSettings} {queueId : Nat}

/-- The body of the current task throws, and its worker goes on or is gone. -/
def State.conclude (s : State β ρ) (i : Nat) (task : Task β) (thrown : Thrown) : State β ρ :=
  let (pool, channels) := s.pool.conclude i (.threw thrown : Ending ρ) s.channels
  { s.stand i .idle with
    pool, channels
    ran := s.ran ++ [⟨i, task, .panicked thrown.payload⟩] }

inductive Throw (s : State β ρ) (i : Nat) (task : Task β) (thrown : Thrown) : State β ρ → Prop
  | intro (w : Worker (Numbered β)) (here : s.pool.worker? i = some w)
      (current : w.batch.head? = some task) (post : s.posts i = .busy) :
      Throw s i task thrown (s.conclude i task thrown)

/-- A payload that is dropped without more ado makes it the end of an ordinary task. -/
theorem Throw.ordinary {s t : State β ρ} {i : Nat} {task : Task β} {payload : Payload}
    (throw : Throw s i task (.quiet payload) t) :
    Run s [.finish i (.panicked payload), .report i, .count i] t := by
  obtain ⟨w, here, current, post⟩ := throw
  have plain := s.pool.conclude_ending i (.panicked payload : Outcome ρ) s.channels
  obtain ⟨_, _, counted⟩ := s.pool.countPanic_eq i (.panicked payload : Outcome ρ)
  have there : (s.pool.countPanic i (.panicked payload : Outcome ρ)).worker? i = some w := by
    rw [counted]
    exact here
  have finish := Step.finish s i w task (.panicked payload) here current post
  have report := Step.report (s.finish i task (.panicked payload)) i w (.panicked payload) here
    (by simp [State.finish, State.stand])
  have count := Step.count ((s.finish i task (.panicked payload)).report i (.panicked payload)) i w
    task there current (by simp [State.report, State.stand])
  -- What is one step here, promise, report and count, is three steps there.
  have same : ((s.finish i task (.panicked payload)).report i (.panicked payload)).count i =
      s.conclude i task (.quiet payload) := by
    simp only [State.conclude, State.count, State.report, State.finish, State.stand,
      Function.update_idem]
    rw [show (Ending.threw (.quiet payload) : Ending ρ) =
      (Outcome.panicked payload).ending from rfl, plain]
    rfl
  exact .cons finish (.cons report (.cons count (same ▸ .nil _)))

/-- What a task that throws leaves as it was, and when its worker is gone. -/
structure Confined (s : State β ρ) (i : Nat) (task : Task β) (thrown : Thrown) (t : State β ρ) :
    Prop where
  queue : t.pool.queue = s.pool.queue
  signal : t.pool.signal = s.pool.signal
  others : ∀ j ≠ i, t.pool.worker? j = s.pool.worker? j ∧ t.posts j = s.posts j
  gone : ∀ w, t.pool.worker? i = some w →
    (w.stage = .exited ↔
      ((task.run (.threw thrown : Ending ρ)).bind Thrown.dropped).isSome = true)

theorem Throw.confined {s t : State β ρ} {i : Nat} {task : Task β} {thrown : Thrown}
    (reached : Reachable settings queueId s) (throw : Throw s i task thrown t) :
    Confined s i task thrown t := by
  obtain ⟨w, here, current, post⟩ := throw
  obtain ⟨f, _, _, _, result, stage⟩ := s.pool.conclude_eq
    (by rw [s.pool.current?_eq here, current]) (.threw thrown : Ending ρ) s.channels
  have pool : (s.conclude i task thrown).pool =
      (s.pool.conclude i (.threw thrown : Ending ρ) s.channels).1 := rfl
  rw [result] at pool
  refine ⟨by rw [pool], by rw [pool], fun j other => ?_, fun w' after => ?_⟩
  · constructor
    · simp [pool, Pool.worker?, Ne.symm other]
    · simp [State.conclude, State.stand, other]
  · have found : s.pool.workers[i]? = some w := here
    have changed : f w = w' := by
      simpa [pool, Pool.worker?, found] using after
    have coherent := reached.coherent i w here
    rw [post] at coherent
    obtain ⟨⟨n, running⟩, _⟩ := coherent
    rw [← changed, stage w, running]
    split <;> simp_all

end Interleaving

end WorkerPool.Pool
