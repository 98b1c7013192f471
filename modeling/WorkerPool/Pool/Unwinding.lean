import WorkerPool.Pool.Shutdown
import WorkerPool.Pool.Work

namespace WorkerPool.Pool

variable {β ρ : Type}

/-- A panic gets out of a worker's loop: the rest of its batch is dropped, promises and all, and the
task that panicked is not counted. -/
def fall (p : Pool β) (i : Nat) (last : Thrown) (cs : Channels ρ) : Pool β × Channels ρ :=
  match p.worker? i with
  | some w =>
    let p := p.modifyWorker i fun w => { w with batch := [], stage := .exited }
    -- A join goes through the workers in the order of their ids.
    let (before, after) := p.fallen.span (·.1 < i)
    ({ p with fallen := before ++ (i, last.payload) :: after }, dropTasks w.batch.tail cs)
  | none => (p, cs)

/-- The end of a worker's current task, whatever the body has thrown. The worker catches the panic
of a task, but drops its payload after that. -/
def conclude (p : Pool β) (i : Nat) (ending : Ending ρ) (cs : Channels ρ) :
    Pool β × Channels ρ :=
  match p.current? i with
  | none => (p, cs)
  | some job =>
    let cs := match job.channel with
      | some c => cs.settle c ending.complete.1
      | none => cs
    match job.run ending with
    | none => (p.countTask i, cs)
    | some thrown =>
      let p := { p with stats := p.stats.panic }.emit (.taskPanicked i thrown.message)
      match thrown.dropped with
      | none => (p.countTask i, cs)
      | some last => p.fall i last cs

theorem conclude_ending (p : Pool β) (i : Nat) (outcome : Outcome ρ) (cs : Channels ρ) :
    p.conclude i outcome.ending cs = p.finish i outcome cs := by
  unfold conclude finish settleTask countPanic
  cases current : p.current? i with
  | none => simp [countTask, current]
  | some job =>
      simp only [Option.bind_some, job.run_ending, Outcome.complete_ending]
      cases job.channel <;> cases outcome <;> rfl

end WorkerPool.Pool
