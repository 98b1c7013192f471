import WorkerPool.Proofs.Pool.Submission
import WorkerPool.Proofs.Scenario.Identities

namespace WorkerPool

namespace Scenario.World

variable {w : World} {callable name : String} {k place : Nat} {p : Pool Work} {f : Function}

theorem performCall_schedule (t : Thread)
    (bound : w.callables.find? callable = some (k, ⟨place, f⟩))
    (here : w.pools.find? name = some (place, p)) (channel : String) (argument : Value) :
    w.performCall (.call callable channel argument) =
      w.performPool t (.schedule name channel none (.call f argument)) := by
  have found := Registry.get?_of_find? here
  simp [performCall, performPool, bound, here, found, producer?, tokenFor]

theorem performCall_forget (bound : w.callables.find? callable = some (k, ⟨place, f⟩))
    (here : w.pools.find? name = some (place, p)) (argument : Value) :
    w.performCall (.forget callable argument) = w.forget place p none (.call f argument) := by
  have found := Registry.get?_of_find? here
  simp [performCall, bound, found, orGone]

end Scenario.World

open Pool.Interleaving
open Scenario (World Thread Function Work)

/-- Tasks are accepted together or refused together, for the first reason there is, whatever the way
they come to a pool and whether or not it was dropped; a function bound to a pool is one more way to
schedule a task there. -/
theorem submissions_decided {α β ρ : Type} {settings : PoolSettings} {queueId : Nat}
    (valid : settings.validate = .ok ()) :
    (∀ (l : Lifetime β ρ) (request : Request α β), l.Reachable settings queueId →
      (match refusal? settings queueId l.state.pool.queue request.token
          request.submission.size with
        | some reason => Refused l.state request.token request.submission reason
        | none => Accepted l.state request.token request.submission) ∧
      (∀ n, (request.submit l.state).answer = .rejected (.queueFull n) →
        settings.capacity = some n ∧ 1 ≤ n ∧ l.state.pool.queue.length = n) ∧
      ∃ t, Run l.state
          [.offer request.token request.submission, .tally l.state.decided.length] t ∧
        Lifetime.Reachable settings queueId ⟨t, l.phase⟩ ∧
        t.pool = (request.submit l.state).pool ∧
        t.channels = (request.submit l.state).channels) ∧
    ∀ (w : World) (t : Thread) (callable name channel : String) (k place : Nat) (p : Pool Work)
      (f : Function) (argument : Scenario.Value),
      w.callables.find? callable = some (k, ⟨place, f⟩) → w.pools.find? name = some (place, p) →
        w.performCall (.call callable channel argument) =
            w.performPool t (.schedule name channel none (.call f argument)) ∧
          w.performCall (.forget callable argument) =
            w.forget place p none (.call f argument) := by
  constructor
  · intro l request reached
    exact reached.submitted valid request
  · intro w t callable name channel k place p f argument bound here
    exact ⟨World.performCall_schedule t bound here channel argument,
      World.performCall_forget bound here argument⟩

theorem submissions_decided_full : ∃ (l m : Lifetime Nat Unit) (w : World) (p : Pool Work),
    ({ workers := .fixed 1, capacity := some 1 } : PoolSettings).validate = .ok () ∧
      l.Reachable { workers := .fixed 1, capacity := some 1 } 0 ∧
      m.Reachable { workers := .fixed 1, capacity := some 1 } 0 ∧
      m.phase = .dropping (.worker 0) [] ∧
      ((Request.call (· + 1) 4).submit l.state).answer = .rejected (.queueFull 1) ∧
      l.state.pool.queue.length = 1 ∧
      Refused m.state (some ⟨7, 0⟩) (.bulk [5, 6]) .foreignToken ∧
      Refused m.state none (.schedule 5) .stopped ∧
      w.callables.find? "total" = some (0, ⟨0, .sum⟩) ∧ w.pools.find? "pool" = some (0, p) ∧
      w.performCall (.call "total" "channel" (.list [.int 2])) =
        w.performPool (Scenario.mainThread [])
          (.schedule "pool" "channel" none (.call .sum (.list [.int 2]))) := by
  have valid : ({ workers := .fixed 1, capacity := some 1 } : PoolSettings).validate = .ok () := rfl
  have decided := @submissions_decided Nat Nat Unit _ 0 valid
  have used : Lifetime.Reachable { workers := .fixed 1, capacity := some 1 } 0
      ⟨(_ : State Nat Unit), .held⟩ :=
    Lifetime.Reachable.start.use (.of_replay? [.offer none (.schedule 3), .tally 0, .enter 0,
      .fetch 0, .begin 0, .offer none (.schedule 3), .tally 0] rfl)
  have dropped := (used.step (.begin _ (.worker 0) ⟨rfl, rfl, rfl⟩ ⟨_, rfl, rfl⟩)).drop
    [.close, .raise, .selfJoin 0] [] (.of_replay? _ rfl)
  have full := (decided.1 _ (.call (· + 1) 4) used).2.1 1 rfl
  have call := decided.2
    { pools := ({} : Scenario.Registry (Pool Work)).add "pool" (.start { workers := .fixed 1 } 1)
      callables := ({} : Scenario.Registry Scenario.Callable).add "total" ⟨0, .sum⟩ }
    (Scenario.mainThread []) "total" "pool" "channel" 0 0 _ .sum (.list [.int 2]) rfl rfl
  exact ⟨_, _, _, _, valid, used, dropped, rfl, rfl, full.2.2,
    (decided.1 _ (.bulkWithToken ⟨7, 0⟩ [5, 6]) dropped).1,
    (decided.1 _ (.schedule 5) dropped).1, rfl, rfl, call.1⟩

end WorkerPool
