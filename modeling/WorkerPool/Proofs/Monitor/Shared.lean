import Mathlib.Logic.Relation
import WorkerPool.Proofs.Monitor.Scene

namespace WorkerPool.Monitor

variable {σ κ ω : Type} [DecidableEq κ] {m : Monitor σ κ ω}

theorem Step.shared {s t : Scene σ κ ω} (step : m.Step s t) :
    t.shared = s.shared ∨
      ∃ call late owed, m.turn s.shared call late = .leave t.shared owed := by
  cases step with
  | leave i phase call late next owed here comes turn => exact .inr ⟨call, late, owed, turn⟩
  | _ => exact .inl rfl

abbrev Steps (m : Monitor σ κ ω) : Scene σ κ ω → Scene σ κ ω → Prop :=
  Relation.ReflTransGen m.Step

theorem Steps.shared {P : σ → Prop} {s t : Scene σ κ ω} (steps : m.Steps s t)
    (keep : ∀ {before call late next owed},
      m.turn before call late = .leave next owed → P before → P next)
    (holds : P s.shared) : P t.shared := by
  induction steps with
  | refl => exact holds
  | tail _ step ih =>
      rcases step.shared with same | ⟨call, late, owed, turn⟩
      · exact same ▸ ih
      · exact keep turn ih

theorem Reachable.steps {shared : σ} {count : Nat} {s : Scene σ κ ω}
    (reached : m.Reachable shared count s) : m.Steps (.start shared count) s := by
  induction reached with
  | start => exact .refl
  | step _ step ih => exact ih.tail step

theorem Scene.wakeAll_owed (s : Scene σ κ ω) (there on : κ) (notice : Notice) :
    (s.wakeAll there).owed on notice = s.owed on notice := by
  simp [wakeAll, owed, total, List.foldr_map]

/-- No more notices are owed than turns have made for a number in the shared state. -/
theorem Reachable.owed_le {shared : σ} {count : Nat} {s : Scene σ κ ω}
    (reached : m.Reachable shared count s) (on : κ) (notice : Notice) (made : σ → Nat)
    (makes : ∀ {before call late next owed}, m.turn before call late = .leave next owed →
      made before + owed.count (on, notice) ≤ made next) :
    s.owed on notice ≤ made s.shared := by
  induction reached with
  | start =>
      have nothing : (Scene.start shared count : Scene σ κ ω).owed on notice = 0 :=
        Scene.total_start shared count _ rfl
      rw [nothing]
      exact Nat.zero_le _
  | @step s t reached step ih =>
      cases step with
      | wait i phase call late there here comes turn =>
          have moved := (Scene.move_counts here (.asleep there call) on).2.2 notice
          rw [(comes.still on).2] at moved
          exact Nat.le_trans (Nat.le_of_eq moved) ih
      | leave i phase call late next owed here comes turn =>
          have moved := (Scene.move_counts here (.out owed) on).2.2 notice
          rw [(comes.still on).2] at moved
          have more := makes turn
          change (s.move i (.out owed)).owed on notice ≤ made next
          simp only [Phase.owing] at moved
          omega
      | notifyOne i there owed j call here sleeper =>
          have still := Scene.asleep_after_move here sleeper (.out owed)
          have given := (Scene.given_counts here on).2.2 notice
          have moved := (Scene.move_counts still (.woken there call false) on).2.2 notice
          change ((s.move i (.out owed)).move j (.woken there call false)).owed on notice ≤
            made s.shared
          simp only [Phase.owing] at moved
          omega
      | notifyNone i there owed here nobody =>
          have given := (Scene.given_counts here on).2.2 notice
          change (s.move i (.out owed)).owed on notice ≤ made s.shared
          omega
      | notifyAll i there owed here =>
          have given := (Scene.given_counts here on).2.2 notice
          change ((s.move i (.out owed)).wakeAll there).owed on notice ≤ made s.shared
          rw [Scene.wakeAll_owed]
          omega
      | timeout i there call timed here =>
          have moved := (Scene.move_counts here (.woken there call true) on).2.2 notice
          exact Nat.le_trans (Nat.le_of_eq moved) ih

end WorkerPool.Monitor
