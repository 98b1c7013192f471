import WorkerPool.Proofs.EventLoop.Log
import WorkerPool.Proofs.Pool.Log

namespace WorkerPool

open Pool.Interleaving (Finished LogAgrees)

/-- At the end of a run, however many threads have submitted, stopped and joined, the log of a pool
tells what its counters tell, and that of an event loop how many items it has accepted. -/
theorem log_agrees {β ρ α σ : Type} {settings : PoolSettings} {queueId : Nat}
    {loopSettings : LoopSettings} (loopValid : loopSettings.validate = .ok ()) :
    (∀ s : Pool.Interleaving.State β ρ, Pool.Interleaving.Reachable settings queueId s →
      Finished s → LogAgrees s) ∧
    ∀ s : EventLoop.Interleaving.State α σ, EventLoop.Interleaving.Reachable loopSettings s →
      s.loop.allExited = true →
        (Event.numbers "event loop worker shutting down" s.loop.events).sum =
          s.accepted.length := by
  constructor
  · intro s reached finished
    exact reached.logAgrees finished
  · intro s reached exited
    exact reached.consumed_told loopValid exited

/-- Refusals of all four kinds, a panic with a channel and one without, two stops and a leftover;
and a loop that is stopped by its own consumer. -/
theorem log_agrees_abandoning :
    ∃ (s : Pool.Interleaving.State Unit Unit) (t : EventLoop.Interleaving.State Nat Unit),
      ({ workers := .fixed 1, capacity := 1 } : LoopSettings).validate = .ok () ∧
      Pool.Interleaving.Reachable
        { workers := .fixed 1, batchSize := 2, capacity := some 3, stopPolicy := .abandon } 0 s ∧
      Finished s ∧ s.pool.stats = ⟨3, 9, 2, 1, 1⟩ ∧ LogAgrees s ∧
      EventLoop.Interleaving.Reachable { workers := .fixed 1, capacity := 1 } t ∧
      t.loop.allExited = true ∧ t.accepted.length = 2 ∧
      (Event.numbers "event loop worker shutting down" t.loop.events).sum = t.accepted.length := by
  have loopValid : ({ workers := .fixed 1, capacity := 1 } : LoopSettings).validate = .ok () := rfl
  have agrees := @log_agrees Unit Unit Nat Unit
    { workers := .fixed 1, batchSize := 2, capacity := some 3, stopPolicy := .abandon } 0 _
    loopValid
  have reached : Pool.Interleaving.Reachable
      { workers := .fixed 1, batchSize := 2, capacity := some 3, stopPolicy := .abandon } 0
      (_ : Pool.Interleaving.State Unit Unit) :=
    .of_replay? [.offer none (.bulk [(), (), (), ()]), .offer none (.schedule ()), .tally 1,
      .offer none (.forget ()), .offer (some { queueId := 7 }) (.schedule ()), .tally 2, .tally 0,
      .offer (some { queueId := 7 }) (.bulk [(), ()]), .enter 0, .fetch 0, .begin 0,
      .offer none (.forget ()), .finish 0 (.panicked .other), .tally 1, .tally 0, .report 0,
      .count 0, .tally 0, .begin 0, .finish 0 (.panicked (.text "late")), .close, .close, .report 0,
      .count 0, .raise, .offer none (.schedule ()), .offer none (.forget ()), .check 0, .raise,
      .tally 0, .tally 0, .await, .takeLeftovers, .countLeftovers 0, .dropLeftovers 0] rfl
  have loopReached : EventLoop.Interleaving.Reachable { workers := .fixed 1, capacity := 1 }
      (_ : EventLoop.Interleaving.State Nat Unit) :=
    EventLoop.Interleaving.reentrant_reachable.run <|
      .cons (.finish _ 0 _ _ (.panicked .other) rfl rfl ⟨rfl, by decide⟩) <|
      .cons (.wake _ 0 _ rfl) <|
      .cons (.take _ 0 _ _ _ rfl rfl rfl rfl rfl) <|
      .cons (.pass _ 0 _ _ rfl rfl rfl) <|
      .cons (.finish _ 0 _ _ (.returned ()) rfl rfl ⟨rfl, by decide⟩) <|
      .cons (.exit _ 0 _ _ rfl rfl rfl rfl rfl) <| .nil _
  refine ⟨_, _, loopValid, reached, ?finished, rfl, agrees.1 _ reached ?finished, loopReached,
    rfl, rfl, agrees.2 _ loopReached rfl⟩
  exact ⟨rfl, by decide, rfl, rfl, rfl, rfl⟩

end WorkerPool
