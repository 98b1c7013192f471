import WorkerPool.Proofs.Pool.Idempotence
import WorkerPool.Proofs.Pool.Leftovers
import WorkerPool.Proofs.Pool.SelfJoin
import WorkerPool.Scenario.Perform.Pool

namespace WorkerPool

open Pool.Interleaving
open Scenario (World Thread Work)

theorem Scenario.World.performPool_selfJoin {w : World} {t : Thread} {name : String} {place : Nat}
    {p : Pool Work} (owned : w.owners.find? name = some place)
    (here : w.pools.get? place = some p) (own : t.role.worksFor place = true) :
    w.performPool t (.join name) =
      ({ w with pools := w.pools.set place { p with events := p.events ++ [.selfJoin] } },
        .answer Scenario.Value.ok) := by
  simp [performPool, owned, joinPool, own, modifyPool, here, orGone, setPool, done, Pool.selfJoin,
    Pool.emit]

/-- Once a stop and a join have returned, each task that was left behind has been counted once and
its channel abandoned once, and further calls change nothing but what they are refused; a join that
a worker of the pool calls never does anything. -/
theorem shutdown_idempotent {β ρ : Type} {settings : PoolSettings} {queueId : Nat} :
    (∀ (actions : List (Pool.Interleaving.Action β ρ)) (s : State β ρ),
      Run (State.start settings queueId) actions s → s.pool.signal.raised = true →
        s.early < s.returned → (∀ leaving ∈ s.joining, leaving.tasks = []) →
          LeftOnce settings queueId actions s ∧
            ∀ later t, Run s later t → StaysFinal queueId s later t) ∧
    (∀ s : State β ρ, SelfJoinHarmless s) ∧
    ∀ (w : World) (t : Thread) (name : String) (place : Nat) (p : Pool Work),
      w.owners.find? name = some place → w.pools.get? place = some p →
        t.role.worksFor place = true →
          w.performPool t (.join name) =
            ({ w with pools := w.pools.set place { p with events := p.events ++ [.selfJoin] } },
              .answer Scenario.Value.ok) := by
  refine ⟨?_, selfJoinHarmless, ?_⟩
  · intro actions s run raised late settled
    have reached : Reachable settings queueId s := ⟨actions, run⟩
    have final := reached.final raised late settled
    exact ⟨leftOnce run late settled, fun _ _ later => final.stays later⟩
  · intro w t name place p owned here own
    exact World.performPool_selfJoin owned here own

/-- Two joins at once, of which the second returns first, after a task has joined its own pool;
then one more stop and join, and two submissions, one of them with another pool's token. -/
theorem shutdown_idempotent_twice : ∃ (s t : State Unit Nat)
    (actions later : List (Pool.Interleaving.Action Unit Nat)) (w : World),
    Run (.start { workers := .fixed 1, batchSize := 1, stopPolicy := .abandon } 0) actions s ∧
      s.pool.signal.raised = true ∧ s.early = 0 ∧ s.returned = 2 ∧ s.joining.length = 0 ∧
      s.dropped.length = 2 ∧ s.pool.stats = ⟨3, 0, 1, 0, 2⟩ ∧
      s.channels.slots.toList = [.ready (.ok 5), .abandoned, .abandoned] ∧
      LeftOnce { workers := .fixed 1, batchSize := 1, stopPolicy := .abandon } 0 actions s ∧
      StaysFinal 0 s later t ∧ Refused t (some ⟨7, 0⟩) (.forget ()) .foreignToken ∧
      Refused t none (.schedule ()) .stopped ∧ Run s later t ∧ t.pool.stats = ⟨3, 3, 1, 0, 2⟩ ∧
      SelfJoinHarmless s ∧ w.owners.find? "pool" = some 0 ∧
      (w.performPool { role := .poolWorker 0 0, name := "worker-0", status := .working }
        (.join "pool")).2 = .answer Scenario.Value.ok := by
  have idempotent := @shutdown_idempotent Unit Nat
    { workers := .fixed 1, batchSize := 1, stopPolicy := .abandon } 0
  have run : Run
      (.start { workers := .fixed 1, batchSize := 1, stopPolicy := .abandon } 0 : State Unit Nat) _
      (_ : State Unit Nat) :=
    .of_replay? [.offer none (.schedule ()), .tally 0, .enter 0, .offer none (.schedule ()),
      .tally 0, .fetch 0, .begin 0, .offer none (.schedule ()), .tally 0, .close, .selfJoin 0,
      .raise, .await, .finish 0 (.returned 5), .report 0, .count 0, .check 0, .takeLeftovers,
      .await, .takeLeftovers, .countLeftovers 1, .dropLeftovers 1, .countLeftovers 0,
      .dropLeftovers 0] rfl
  have once := idempotent.1 _ _ run rfl (by decide) (List.forall_mem_nil _)
  have stays := once.2
    [.offer (some ⟨7, 0⟩) (.bulk [(), ()]), .close, .await, .takeLeftovers, .tally 0, .raise,
      .offer none (.schedule ()), .countLeftovers 0, .await, .dropLeftovers 0, .tally 0] _
    (.of_replay? _ rfl)
  have own := idempotent.2.2
    { pools := ({} : Scenario.Registry (Pool Work)).add "pool" (.start { workers := .fixed 1 } 1)
      owners := Scenario.Names.insert [] "pool" 0 }
    { role := .poolWorker 0 0, name := "worker-0", status := .working } "pool" 0 _ rfl rfl rfl
  exact ⟨_, _, _, _, _, run, rfl, rfl, rfl, rfl, rfl, rfl, rfl, once.1, stays,
    stays.refused _ _, stays.refused _ _, .of_replay? _ rfl, rfl, idempotent.2.1 _, rfl,
    congrArg Prod.snd own⟩

end WorkerPool
