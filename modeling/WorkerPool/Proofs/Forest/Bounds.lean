import WorkerPool.Proofs.Forest.Conservation

namespace WorkerPool.Pool.Interleaving.Forest

variable {ε ρ : Type} {settings : PoolSettings} {queueId : Nat} {roots : Roots ε ρ}

theorem length_le_card (tasks : List (Task (Located ε ρ))) :
    tasks.length ≤ (tasks.map taskYield).sum.2.card := by
  induction tasks with
  | nil => simp
  | cons task rest ih =>
      have one := task.body.body.script.yield_pos task.body.body.place task.channel.isSome 0
      simp only [List.map_cons, List.sum_cons, List.length_cons, Prod.snd_add, Multiset.card_add,
        taskYield] at ih ⊢
      omega

theorem Cursor.length_le_card (cursor : Cursor ε ρ) (tasks : List (Task (Located ε ρ))) :
    tasks.length ≤ (cursor.yield tasks).2.card := by
  cases tasks with
  | nil => simp
  | cons task rest =>
      have one := cursor.script.yield_pos task.body.body.place task.channel.isSome cursor.submitted
      have others := Forest.length_le_card rest
      simp only [Cursor.yield, List.length_cons, Prod.snd_add, Multiset.card_add]
      omega

namespace Grove

theorem inHand_card (g : Grove ε ρ) (i : Nat) :
    (g.state.left i).length ≤ (g.inHand i).2.card := by
  unfold inHand
  split
  · exact (g.cursors i).length_le_card _
  · exact length_le_card _

theorem inHand_nil {g : Grove ε ρ} {i : Nat} (none : g.state.left i = []) : g.inHand i = 0 := by
  rw [inHand, none]
  split <;> rfl

theorem inHands_card (g : Grove ε ρ) : g.state.lefts.length ≤ g.inHands.2.card := by
  unfold State.lefts inHands
  induction g.state.pool.workers.length with
  | zero => simp
  | succ n ih =>
      have last := g.inHand_card n
      simp only [List.range_succ, List.flatMap_append, List.flatMap_singleton, List.length_append,
        Finset.sum_range_succ, Prod.snd_add, Multiset.card_add]
      omega

theorem pending_card (g : Grove ε ρ) :
    g.state.lefts.length + g.state.pool.queue.items.length ≤ g.pending.2.card := by
  have hands := g.inHands_card
  have queue := length_le_card g.state.pool.queue.items
  simp only [pending, Prod.snd_add, Multiset.card_add]
  omega

theorem Empty.pending {g : Grove ε ρ} (empty : g.Empty) : g.pending = 0 := by
  have hands : g.inHands = 0 := by
    refine Finset.sum_eq_zero fun i member => inHand_nil ?_
    exact List.flatMap_eq_nil_iff.mp empty.batches i
      (List.mem_range.mpr (Finset.mem_range.mp member))
  rw [Grove.pending, empty.waiting, empty.queue, hands]
  rfl

end Grove

/-- What holds at every moment of a run. -/
structure Bounded (roots : Roots ε ρ) (g : Grove ε ρ) : Prop where
  runs : g.state.ran.length ≤ size roots
  fetches : (g.state.batches.filter fun batch => !batch.2.isEmpty).length ≤ size roots
  empty_iff : g.waiting = [] → ((g.state.pool.queue.items = [] ∧ g.state.lefts = []) ↔
    g.state.ran.length = size roots)

theorem Reachable.size_eq {g : Grove ε ρ} (reached : Reachable settings queueId roots g)
    (unbounded : settings.capacity = none) :
    g.state.ran.length + g.pending.2.card = size roots := by
  have balance := congrArg (fun all => all.2.card) (reached.balance unbounded)
  simpa [Grove.done, size] using balance

theorem filter_length_le {τ : Type} (batches : List (Nat × List τ)) :
    (batches.filter fun batch => !batch.2.isEmpty).length ≤ (batches.flatMap Prod.snd).length := by
  induction batches with
  | nil => simp
  | cons batch rest ih =>
      rw [List.flatMap_cons, List.length_append, List.filter_cons]
      cases batch.2 with
      | nil => simpa using ih
      | cons first others =>
          simp only [List.isEmpty_cons, Bool.not_false, if_true, List.length_cons]
          omega

theorem Reachable.bounded {g : Grove ε ρ} (reached : Reachable settings queueId roots g)
    (unbounded : settings.capacity = none) : Bounded roots g := by
  have size := reached.size_eq unbounded
  have held := g.pending_card
  have order := congrArg List.length reached.pool.order
  have places := reached.pool.places_perm.length_eq
  simp only [State.places, List.length_append, List.length_map] at order places
  have fetched := filter_length_le g.state.batches
  refine ⟨by omega, by omega, fun waiting => ⟨?_, ?_⟩⟩
  · rintro ⟨queue, batches⟩
    have none := Grove.Empty.pending ⟨waiting, queue, batches⟩
    rw [none] at size
    simpa using size
  · intro all
    exact ⟨List.length_eq_zero_iff.mp (by omega), List.length_eq_zero_iff.mp (by omega)⟩

end WorkerPool.Pool.Interleaving.Forest
