import WorkerPool.Proofs.Forest.Deferred
import WorkerPool.Proofs.Forest.Independence
import WorkerPool.Proofs.Forest.OneWorker

namespace WorkerPool.Pool.Interleaving.Forest

variable {ε ρ : Type} {settings : PoolSettings} {queueId : Nat} {roots : Roots ε ρ}

/-- The worker has the forest before it, after some tasks that submit nothing more. -/
structure Planted (settings : PoolSettings) (queueId : Nat) (roots : Roots ε ρ)
    (occupied forest : List (Sprout ε ρ)) (g : Grove ε ρ) : Prop
    extends Solo settings queueId roots g where
  ahead : g.ahead = occupied ++ forest
  childless : ∀ sprout ∈ occupied, sprout.children = []

/-- How the tasks that are before the worker are run, when it takes them in this order. -/
structure InOrder (roots : Roots ε ρ) (order : List (Sprout ε ρ)) (g : Grove ε ρ) : Prop where
  ran : ∀ h, Run g h →
    h.state.ran.map Grove.nodeOf <+: g.state.ran.map Grove.nodeOf ++ order.map Sprout.node
  log : ∀ h, Run g h → h.log <+: g.log ++ order.flatMap Sprout.entries
  ended : ∀ h, Run g h → h.Empty →
    h.state.ran.map Grove.nodeOf = g.state.ran.map Grove.nodeOf ++ order.map Sprout.node ∧
      h.log = g.log ++ order.flatMap Sprout.entries
  once : (↑(g.state.ran.map Grove.nodeOf ++ order.map Sprout.node) : Multiset (Node ρ)) =
      (total roots).2 ∧
    ((g.state.ran.map Grove.nodeOf ++ order.map Sprout.node).map Node.place).Nodup
  goes_on : ∀ h, Run g h → ¬h.Empty → ∃ k, Step h k ∧ k.seat ≠ h.seat
  fair : ∃ run : Nat → Grove ε ρ, run 0 = g ∧ Fair run
  rests : ∀ run : Nat → Grove ε ρ, run 0 = g → Fair run → ∃ n, ∀ m, n ≤ m → (run m).Empty

theorem Planted.inOrder {occupied forest : List (Sprout ε ρ)} {g : Grove ε ρ}
    (planted : Planted settings queueId roots occupied forest g) :
    InOrder roots (occupied ++ (growth ε ρ).levelOrder forest) g := by
  have solo := planted.toSolo
  have order : (growth ε ρ).levelOrder g.ahead =
      occupied ++ (growth ε ρ).levelOrder forest := by
    rw [planted.ahead, Growth.levelOrder_append _ planted.childless]
  rw [← order]
  have once := solo.once
  refine ⟨fun h run => ?_, fun h run => ?_, fun h run empty => solo.ended run empty, ⟨once, ?_⟩,
    fun h run more => (solo.run run).1.goes_on more, solo.exists_fair,
    fun run first fair => fair.rests (first ▸ solo)⟩
  · change _ <+: g.progress.nodes
    rw [← (solo.run run).2.1]
    exact List.prefix_append _ _
  · change _ <+: g.progress.entries
    rw [← (solo.run run).2.2]
    exact List.prefix_append _ _
  · have places := places_nodup roots
    rwa [← once] at places

end WorkerPool.Pool.Interleaving.Forest
