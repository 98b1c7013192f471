import WorkerPool.Proofs.Barrier.Wakeup
import WorkerPool.Proofs.Channel.Wakeup

namespace WorkerPool

/-- Who sleeps on a settled channel is about to be called by its promise, and a read that gives up
takes the outcome or leaves it where it is. -/
structure OneShot.Released {ρ : Type} (s : Monitor.Scene (Recorded ρ) Unit (Request ρ)) : Prop where
  owed : s.shared.pair.slot ≠ .pending → ∀ request, .asleep () request ∈ s.threads →
    (∃ owed, .out owed ∈ s.threads ∧ ((), .all) ∈ owed) ∧
      s.owed () .all = 1 ∧ s.shared.uses.length = 1
  done : s.shared.pair.slot ≠ .pending →
    (s.owed () .all = 0 → ∀ request, .asleep () request ∉ s.threads) ∧
      ∀ request late on, monitor.turn s.shared request late ≠ .wait on
  late : ∃ next, monitor.turn s.shared (.waitTimeout true) true = .leave next [] ∧
    next.uses = s.shared.uses ∧
    ((∃ outcome, s.shared.pair.slot.read.1 = some outcome ∧
        next.given = s.shared.given ++ [outcome]) ∨
      s.shared.pair.slot = .pending ∧ next.pair.slot = .pending ∧ next.given = s.shared.given)
  kept : ∀ how ∈ s.shared.uses, ∀ n,
    s.shared.given ++ outcomes s.shared.pair.slot n = outcomes how.slot (s.shared.given.length + n)

/-- Who sleeps on a barrier at zero is about to be called by the notification that brought it
there. -/
structure Barrier.Released (s : Monitor.Scene Recorded Unit Request) : Prop where
  owed : s.shared.barrier.remaining = 0 → ∀ request, .asleep () request ∈ s.threads →
    (∃ owed, .out owed ∈ s.threads ∧ ((), .all) ∈ owed) ∧
      s.owed () .all = 1 ∧ (notified s.shared.log).count (.left 0) = 1
  done : s.shared.barrier.remaining = 0 →
    (s.owed () .all = 0 → ∀ request, .asleep () request ∉ s.threads) ∧
      ∀ request late on, monitor.turn s.shared request late ≠ .wait on

theorem OneShot.released {ρ : Type} {count : Nat}
    {s : Monitor.Scene (OneShot.Recorded ρ) Unit (OneShot.Request ρ)}
    (reached : OneShot.monitor.Reachable {} count s) : OneShot.Released s := by
  have sound := OneShot.sound_of_reachable reached
  have owed (settled : s.shared.pair.slot ≠ .pending) (request : OneShot.Request ρ)
      (asleep : .asleep () request ∈ s.threads) :=
    reached.last_notice OneShot.monitor_enough asleep (fun _ => settled)
      (OneShot.owed_le_uses reached) sound.uses_length_le
  refine ⟨owed, fun settled => ⟨?_, ?_⟩, s.shared.late_read, ?_⟩
  · intro none request asleep
    have one := (owed settled request asleep).2.1
    omega
  · intro request late on turn
    exact settled (OneShot.turn_wait turn)
  · intro how member
    cases sound with
    | fresh _ _ unused => simp [unused] at member
    | settled other once _ _ kept =>
        rw [once, List.mem_singleton] at member
        exact member ▸ kept

theorem Barrier.released {n count : Nat}
    {s : Monitor.Scene Barrier.Recorded Unit Barrier.Request}
    (reached : Barrier.monitor.Reachable (.start n) count s) : Barrier.Released s := by
  have owed (zero : s.shared.barrier.remaining = 0) (request : Barrier.Request)
      (asleep : .asleep () request ∈ s.threads) :=
    reached.last_notice Barrier.monitor_enough asleep (fun _ => by simp [zero])
      (Barrier.owed_le_last reached) (Barrier.last_le_one reached)
  refine ⟨owed, fun zero => ⟨?_, ?_⟩⟩
  · intro none request asleep
    have one := (owed zero request asleep).2.1
    omega
  · intro request late on turn
    obtain ⟨_, answered⟩ := Barrier.turn_of_zero zero late request
    cases answered.symm.trans turn

/-- Nobody is left asleep on a channel that is settled or on a barrier at zero: whoever sleeps there
is about to be called. -/
theorem waiters_released {ρ : Type} {n readers threads : Nat}
    {s : Monitor.Scene (OneShot.Recorded ρ) Unit (OneShot.Request ρ)}
    {b : Monitor.Scene Barrier.Recorded Unit Barrier.Request}
    (reached : OneShot.monitor.Reachable {} readers s)
    (counted : Barrier.monitor.Reachable (.start n) threads b) :
    OneShot.Released s ∧ Barrier.Released b :=
  ⟨OneShot.released reached, Barrier.released counted⟩

theorem waiters_released_unnotified :
    ∃ (s : Monitor.Scene (OneShot.Recorded Nat) Unit (OneShot.Request Nat))
      (b : Monitor.Scene Barrier.Recorded Unit Barrier.Request),
      OneShot.monitor.Reachable {} 2 s ∧ Barrier.monitor.Reachable (.start 1) 2 b ∧
      s.shared.pair.slot ≠ .pending ∧ .asleep () .wait ∈ s.threads ∧
      b.shared.barrier.remaining = 0 ∧ .asleep () .wait ∈ b.threads ∧
      OneShot.Released s ∧ Barrier.Released b := by
  have kept : OneShot.monitor.Reachable {} 2
      (⟨_, [.asleep () .wait, .out [((), .all)]]⟩ :
        Monitor.Scene (OneShot.Recorded Nat) Unit (OneShot.Request Nat)) :=
    .step (.step .start
      (.wait 0 (.out []) OneShot.Request.wait false () rfl (.anew _) rfl))
      (.leave 1 (.out []) (OneShot.Request.fulfill 7) false _ _ rfl (.anew _) rfl)
  have opened : Barrier.monitor.Reachable (.start 1) 2
      (⟨_, [.asleep () .wait, .out [((), .all)]]⟩ :
        Monitor.Scene Barrier.Recorded Unit Barrier.Request) :=
    .step (.step .start
      (.wait 0 (.out []) Barrier.Request.wait false () rfl (.anew _) rfl))
      (.leave 1 (.out []) Barrier.Request.notify false _ _ rfl (.anew _) rfl)
  have both := waiters_released kept opened
  exact ⟨_, _, kept, opened, nofun, by simp, rfl, by simp, both.1, both.2⟩

end WorkerPool
