import WorkerPool.Proofs.Forest.Step

namespace WorkerPool.Pool.Interleaving.Forest

variable {ε ρ : Type} {settings : PoolSettings} {queueId : Nat} {roots : Roots ε ρ}

inductive Move (ε ρ : Type) where
  | root (k : Nat)
  | begin (worker : Nat)
  | body (worker : Nat)
  | close
  | background (a : Action (Located ε ρ) ρ)

namespace Grove

def step? (g : Grove ε ρ) : Move ε ρ → Option (Grove ε ρ)
  | .root k =>
    match g.waiting[k]? with
    | some call => some (g.root none k call)
    | none => none
  | .begin i =>
    match g.state.pool.worker? i, g.state.posts i with
    | some ⟨_, _, task :: _, _, .running _⟩, .idle => some (g.begin i task)
    | _, _ => none
  | .body i =>
    match g.state.pool.worker? i, g.state.posts i, g.cursors i with
    | some ⟨_, _, _ :: _, _, _⟩, .busy, ⟨k, .log entry next⟩ => some (g.write i entry ⟨k, next⟩)
    | some ⟨_, _, task :: _, _, _⟩, .busy, ⟨k, .submit call next⟩ =>
      some (g.submit none i (locate task.body.body.place k call) ⟨k + call.size, next⟩)
    | some ⟨_, _, task :: _, _, _⟩, .busy, ⟨_, .ret value⟩ =>
      some { g with state := g.state.finish i task (.returned value) }
    | some ⟨_, _, task :: _, _, _⟩, .busy, ⟨_, .panic payload⟩ =>
      some { g with state := g.state.finish i task (.panicked payload) }
    | _, _, _ => none
  | .close =>
    match g.waiting, g.state.pool.queue.items, g.state.lefts with
    | [], [], [] => some { g with state := g.state.close }
    | _, _, _ => none
  | .background a =>
    match Forest.background g.state.pool.queue.closed a, g.state.step? a with
    | true, some t => some { g with state := t }
    | _, _ => none

def replay? (g : Grove ε ρ) : List (Move ε ρ) → Option (Grove ε ρ)
  | [] => some g
  | move :: rest =>
    match g.step? move with
    | some h => h.replay? rest
    | none => none

end Grove

theorem Step.of_step? {g h : Grove ε ρ} {move : Move ε ρ} (made : g.step? move = some h) :
    Step g h := by
  cases move with
  | root k =>
      simp only [Grove.step?] at made
      split at made <;> cases made
      exact .root g none k _ ‹_› rfl
  | begin i =>
      simp only [Grove.step?] at made
      split at made <;> cases made
      exact .begin g i _ _ _ ‹_› rfl rfl ‹_›
  | body i =>
      simp only [Grove.step?] at made
      split at made <;> cases made
      · exact .log g i _ _ _ _ _ ‹_› rfl ‹_› ‹_›
      · exact .submit g none i _ _ _ _ _ ‹_› rfl ‹_› ‹_› rfl
      · next here post cursor =>
          exact .finish g _ i _ (by rw [cursor]; rfl) (.finish g.state i _ _ _ here rfl post)
      · next here post cursor =>
          exact .finish g _ i _ (by rw [cursor]; rfl) (.finish g.state i _ _ _ here rfl post)
  | close =>
      simp only [Grove.step?] at made
      split at made <;> cases made
      exact .close g ⟨‹_›, ‹_›, ‹_›⟩
  | background a =>
      simp only [Grove.step?] at made
      split at made <;> cases made
      exact .background g _ a ‹_› (.of_step? ‹_›)

theorem Run.of_replay? {g h : Grove ε ρ} (moves : List (Move ε ρ))
    (replayed : g.replay? moves = some h) : Run g h := by
  induction moves generalizing g with
  | nil =>
      cases replayed
      exact .nil _
  | cons move rest ih =>
      simp only [Grove.replay?] at replayed
      split at replayed
      · next made => exact .cons (.of_step? made) (ih replayed)
      · cases replayed

theorem Reachable.of_replay? {g : Grove ε ρ} (moves : List (Move ε ρ))
    (replayed : (Grove.start settings queueId roots).replay? moves = some g) :
    Reachable settings queueId roots g :=
  Run.of_replay? moves replayed

end WorkerPool.Pool.Interleaving.Forest
