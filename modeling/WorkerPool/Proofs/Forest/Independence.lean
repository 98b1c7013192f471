import WorkerPool.Proofs.Forest.Progress
import WorkerPool.Proofs.Forest.Replay

namespace WorkerPool.Pool.Interleaving.Forest

variable {ε ρ : Type} {settings : PoolSettings} {queueId : Nat} {roots : Roots ε ρ}

structure Grove.Ended (g : Grove ε ρ) : Prop where
  closed : g.state.pool.queue.closed = true
  exited : g.state.pool.allExited = true
  quiet : g.state.Quiet

theorem Reachable.empty_of_closed {g : Grove ε ρ} (reached : Reachable settings queueId roots g)
    (unbounded : settings.capacity = none) (closed : g.state.pool.queue.closed = true) :
    g.Empty := by
  obtain ⟨waiting, none⟩ := (reached.sound unbounded).closed closed
  have parts := List.append_eq_nil_iff.mp none
  exact ⟨waiting, parts.2, (List.append_eq_nil_iff.mp parts.1).1⟩

theorem Grove.nodeOf_silent (run : Ran (Located ε ρ) ρ) : (nodeOf run).silent = run.silent := by
  unfold Node.silent nodeOf Ran.silent silent
  cases run.task.channel <;> cases run.outcome <;> rfl

def Grove.Answers (g : Grove ε ρ) (place : List Nat) (result : Except TaskFailure ρ) : Prop :=
  ∃ run ∈ g.state.ran, run.task.body.body.place = place ∧ ∃ c, run.task.channel = some c ∧
    g.state.channels.slot c = (if c ∈ g.state.retrieved then .taken else .ready result) ∧
    run.outcome.result = result

/-- Everything that a forest comes to has come about. -/
structure Complete (roots : Roots ε ρ) (g : Grove ε ρ) : Prop where
  ran : (↑(g.state.ran.map Grove.nodeOf) : Multiset (Node ρ)) = (total roots).2
  once : (g.state.ran.map fun run => run.task.body.body.place).Nodup
  log : (↑g.log : Multiset ε) = (total roots).1
  channels : ∀ c < g.state.channels.next, ∃ run ∈ g.state.ran, run.task.channel = some c
  answers : ∀ place result, g.Answers place result ↔
    ∃ node ∈ (total roots).2, node.place = place ∧ node.answered = true ∧
      node.outcome.result = result
  stats : g.state.pool.stats = {
    scheduled := size roots
    executed := size roots
    panicked := (total roots).2.countP (·.silent) }

theorem Reachable.complete {g : Grove ε ρ} (reached : Reachable settings queueId roots g)
    (unbounded : settings.capacity = none) (ended : g.Ended) : Complete roots g := by
  have empty := reached.empty_of_closed unbounded ended.closed
  have balance := reached.balance unbounded
  rw [empty.pending, add_zero] at balance
  have ran : (↑(g.state.ran.map Grove.nodeOf) : Multiset (Node ρ)) = (total roots).2 :=
    congrArg Prod.snd balance
  have runs := ((reached.bounded unbounded).empty_iff empty.waiting).mp
    ⟨empty.queue, empty.batches⟩
  have sound := reached.sound unbounded
  have placed := reached.pool.places_perm
  simp only [State.places, empty.batches, sound.removed, empty.queue, List.append_nil] at placed
  refine ⟨ran, ?_, congrArg Prod.fst balance, ?_, fun place result => ⟨?_, ?_⟩, ?_⟩
  · have places := places_nodup roots
    rw [← ran] at places
    simpa [Grove.nodeOf, Function.comp_def] using places
  · intro c inside
    have opened : c ∈ g.state.admitted.flatten.filterMap Job.channel := by
      rw [reached.pool.channels_eq]
      exact List.mem_range.mpr inside
    obtain ⟨task, member, channel⟩ := List.mem_filterMap.mp opened
    obtain ⟨run, ended, rfl⟩ := List.mem_map.mp (placed.mem_iff.mpr member)
    exact ⟨run, ended, channel⟩
  · rintro ⟨run, member, here, c, channel, _, same⟩
    refine ⟨Grove.nodeOf run, ?_, here, by simp [Grove.nodeOf, channel], same⟩
    rw [← ran]
    exact List.mem_map_of_mem member
  · rintro ⟨node, member, here, answered, same⟩
    rw [← ran] at member
    obtain ⟨run, ended, rfl⟩ := List.mem_map.mp member
    obtain ⟨c, channel⟩ := Option.isSome_iff_exists.mp answered
    have slot := reached.pool.resolved.ran run ended c channel
    exact ⟨run, ended, here, c, channel, same ▸ slot, same⟩
  · have counted := reached.pool.exact_of_quiet ended.quiet
    have scheduled : g.state.pool.stats.scheduled = size roots := by
      rw [counted.scheduled, ← placed.length_eq, List.length_map, runs]
    have rejected : g.state.pool.stats.rejected = 0 := by
      rw [counted.rejected, sound.refused]
      rfl
    have executed : g.state.pool.stats.executed = size roots := counted.executed.trans runs
    have abandoned : g.state.pool.stats.abandoned = 0 := by
      have taken := reached.pool.removed_perm.length_eq
      rw [sound.removed, List.length_append] at taken
      rw [counted.abandoned]
      exact taken.symm
    have panicked : g.state.pool.stats.panicked = (total roots).2.countP (·.silent) := by
      rw [counted.panicked, ← ran, Multiset.coe_countP, List.countP_map]
      refine List.countP_congr fun run _ => ?_
      rw [Function.comp_apply, Grove.nodeOf_silent, decide_eq_true_eq]
    cases stats : g.state.pool.stats with
    | mk => simp_all

/-- Two pools have done the same, as far as anybody outside can tell. -/
structure Alike (g h : Grove ε ρ) : Prop where
  ran : (g.state.ran.map Grove.nodeOf).Perm (h.state.ran.map Grove.nodeOf)
  log : g.log.Perm h.log
  answers : ∀ place result, g.Answers place result ↔ h.Answers place result
  stats : g.state.pool.stats = h.state.pool.stats

theorem Complete.alike {g h : Grove ε ρ} (first : Complete roots g) (second : Complete roots h) :
    Alike g h where
  ran := Multiset.coe_eq_coe.mp (first.ran.trans second.ran.symm)
  log := Multiset.coe_eq_coe.mp (first.log.trans second.log.symm)
  answers place result := (first.answers place result).trans (second.answers place result).symm
  stats := first.stats.trans second.stats.symm

/-- What running a forest comes to is up to the forest alone. However far a run has come, it has run
no more tasks and made no more fetches with something in them than there are tasks, and it can go on
to the end if its workers have room. -/
theorem Reachable.schedule_independent {settings₁ settings₂ : PoolSettings}
    {queueId₁ queueId₂ : Nat} {g₁ g₂ : Grove ε ρ} (valid₁ : settings₁.validate = .ok ())
    (valid₂ : settings₂.validate = .ok ()) (unbounded₁ : settings₁.capacity = none)
    (unbounded₂ : settings₂.capacity = none) (reached₁ : Reachable settings₁ queueId₁ roots g₁)
    (reached₂ : Reachable settings₂ queueId₂ roots g₂) :
    (Bounded roots g₁ ∧ Bounded roots g₂) ∧
      ((settings₁.roomy = true → g₁.state.pool.queue.closed = false → ∃ h, Run g₁ h ∧ h.Empty) ∧
        (settings₂.roomy = true → g₂.state.pool.queue.closed = false →
          ∃ h, Run g₂ h ∧ h.Empty)) ∧
      (g₁.Ended → g₂.Ended → Complete roots g₁ ∧ Complete roots g₂ ∧ Alike g₁ g₂) := by
  refine ⟨⟨reached₁.bounded unbounded₁, reached₂.bounded unbounded₂⟩,
    ⟨fun roomy => reached₁.can_finish valid₁ roomy unbounded₁,
      fun roomy => reached₂.can_finish valid₂ roomy unbounded₂⟩, ?_⟩
  intro ended₁ ended₂
  have first := reached₁.complete unbounded₁ ended₁
  have second := reached₂.complete unbounded₂ ended₂
  exact ⟨first, second, first.alike second⟩

def family : Roots String Nat :=
  [.schedule (.log "parent" (.submit (.forget (.panic .other)) (.ret 1)))]

def fetching (i : Nat) : List (Move String Nat) := [.background (.enter i), .background (.fetch i)]

def running (i acts : Nat) : List (Move String Nat) :=
  List.replicate acts (.body i) ++ [.background (.report i), .background (.count i)]

/-- One worker that fetches a task at a time and abandons, and two that share the tasks and
drain. -/
theorem schedule_independent_family : ∃ g₁ g₂ : Grove String Nat,
    ({ workers := .fixed 1, batchSize := 1, stopPolicy := .abandon } : PoolSettings).validate =
        .ok () ∧
      ({ workers := .fixed 2, batchSize := 3 } : PoolSettings).validate = .ok () ∧
      Reachable { workers := .fixed 1, batchSize := 1, stopPolicy := .abandon } 0 family g₁ ∧
      Reachable { workers := .fixed 2, batchSize := 3 } 1 family g₂ ∧
      g₁.Ended ∧ g₂.Ended ∧ size family = 2 ∧ g₁.state.pool.stats = ⟨2, 0, 2, 1, 0⟩ ∧
      Alike g₁ g₂ := by
  have first : Reachable { workers := .fixed 1, batchSize := 1, stopPolicy := .abandon } 0 family
      (_ : Grove String Nat) :=
    .of_replay? (List.flatten [[.root 0], fetching 0, [.begin 0], running 0 3,
      [.background (.check 0)], fetching 0, [.begin 0], running 0 1,
      [.close, .background .raise, .background (.check 0), .background (.tally 0),
        .background (.tally 0)]]) rfl
  have second : Reachable { workers := .fixed 2, batchSize := 3 } 1 family (_ : Grove String Nat) :=
    .of_replay? (List.flatten [[.root 0], fetching 1, [.begin 1, .body 1, .body 1], fetching 0,
      [.begin 0], running 1 1, running 0 1, [.close, .background .raise, .background (.check 0),
        .background (.check 1), .background (.tally 1)], fetching 1, fetching 0,
      [.background (.check 1), .background (.check 0), .background (.tally 0)]]) rfl
  refine ⟨_, _, rfl, rfl, first, second, ?first, ?second, rfl, rfl,
    ((first.schedule_independent rfl rfl rfl rfl second).2.2 ?first ?second).2.2⟩
  · exact ⟨rfl, rfl, rfl, by decide, by decide⟩
  · exact ⟨rfl, rfl, rfl, by decide, by decide⟩

end WorkerPool.Pool.Interleaving.Forest
