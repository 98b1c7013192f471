import WorkerPool.Proofs.Pool.Step

namespace WorkerPool.Pool.Interleaving

variable {β ρ : Type}

def State.step? (s : State β ρ) : Action β ρ → Option (State β ρ)
  | .offer token call => some (s.offer token call)
  | .tally k =>
    match s.decided[k]? with
    | some offer => some (s.tally k offer)
    | none => none
  | .enter i =>
    match s.pool.worker? i, s.posts i with
    | some ⟨_, _, _, _, .fetching⟩, .idle => some (s.stand i .waiting)
    | _, _ => none
  | .fetch i =>
    match s.pool.worker? i, s.posts i with
    | some _, .waiting => some (s.fetch i)
    | _, _ => none
  | .begin i =>
    match s.pool.worker? i, s.posts i with
    | some ⟨_, _, _ :: _, _, .running _⟩, .idle => some (s.stand i .busy)
    | _, _ => none
  | .finish i outcome =>
    match s.pool.worker? i, s.posts i with
    | some ⟨_, _, task :: _, _, _⟩, .busy => some (s.finish i task outcome)
    | _, _ => none
  | .report i =>
    match s.pool.worker? i, s.posts i with
    | some _, .ended outcome => some (s.report i outcome)
    | _, _ => none
  | .count i =>
    match s.pool.worker? i, s.posts i with
    | some ⟨_, _, _ :: _, _, _⟩, .reported => some (s.count i)
    | _, _ => none
  | .check i =>
    match s.pool.worker? i, s.posts i with
    | some ⟨_, _, [], _, .running _⟩, .idle => some (s.check i)
    | _, _ => none
  | .close => some s.close
  | .raise => if 0 < s.stopping then some s.raise else none
  | .await => if s.awaiting then none else some s.await
  | .takeLeftovers => if s.awaiting && s.pool.allExited then some s.takeLeftovers else none
  | .countLeftovers k =>
    match s.joining[k]? with
    | some ⟨leftovers, false⟩ => some (s.countLeftovers k leftovers)
    | _ => none
  | .dropLeftovers k =>
    match s.joining[k]? with
    | some ⟨leftovers, true⟩ => some (s.dropLeftovers k leftovers)
    | _ => none
  | .selfJoin i =>
    match s.pool.worker? i with
    | some ⟨_, _, _, _, .running _⟩ => some s.selfJoin
    | _ => none
  | .read c => some (s.read c)

def State.replay? (s : State β ρ) : List (Action β ρ) → Option (State β ρ)
  | [] => some s
  | a :: rest =>
    match s.step? a with
    | some u => u.replay? rest
    | none => none

theorem Step.of_step? {s t : State β ρ} {a : Action β ρ} (taken : s.step? a = some t) :
    Step s a t := by
  cases a with
  | offer | close | read =>
      cases taken
      constructor
  | tally k =>
      simp only [State.step?] at taken
      split at taken <;> cases taken
      exact .tally s k _ ‹_›
  | enter i =>
      simp only [State.step?] at taken
      split at taken <;> cases taken
      exact .enter s i _ ‹_› rfl ‹_›
  | fetch i =>
      simp only [State.step?] at taken
      split at taken <;> cases taken
      exact .fetch s i _ ‹_› ‹_›
  | begin i =>
      simp only [State.step?] at taken
      split at taken <;> cases taken
      exact .begin s i _ _ ‹_› rfl (List.cons_ne_nil _ _) ‹_›
  | finish i outcome =>
      simp only [State.step?] at taken
      split at taken <;> cases taken
      exact .finish s i _ _ outcome ‹_› rfl ‹_›
  | report i =>
      simp only [State.step?] at taken
      split at taken <;> cases taken
      exact .report s i _ _ ‹_› ‹_›
  | count i =>
      simp only [State.step?] at taken
      split at taken <;> cases taken
      exact .count s i _ _ ‹_› rfl ‹_›
  | check i =>
      simp only [State.step?] at taken
      split at taken <;> cases taken
      exact .check s i _ _ ‹_› rfl rfl ‹_›
  | raise =>
      simp only [State.step?] at taken
      split at taken <;> cases taken
      exact .raise s ‹_›
  | await =>
      simp only [State.step?] at taken
      split at taken <;> cases taken
      next free => exact .await s (by simpa using free)
  | takeLeftovers =>
      simp only [State.step?] at taken
      split at taken <;> cases taken
      next gone =>
        rw [Bool.and_eq_true] at gone
        exact .takeLeftovers s gone.1 gone.2
  | countLeftovers k =>
      simp only [State.step?] at taken
      split at taken <;> cases taken
      exact .countLeftovers s k _ ‹_›
  | dropLeftovers k =>
      simp only [State.step?] at taken
      split at taken <;> cases taken
      exact .dropLeftovers s k _ ‹_›
  | selfJoin i =>
      simp only [State.step?] at taken
      split at taken <;> cases taken
      exact .selfJoin s i _ _ ‹_› rfl

theorem Step.step?_eq {s t : State β ρ} {a : Action β ρ} (step : Step s a t) :
    s.step? a = some t := by
  cases step with
  | offer | close | read => rfl
  | tally k offer pending => simp [State.step?, pending]
  | enter i w here stage post =>
      obtain ⟨_, _, _, _, _⟩ := w
      cases stage
      simp [State.step?, here, post]
  | fetch i w here post => simp [State.step?, here, post]
  | begin i n w here stage more post =>
      obtain ⟨_, _, _ | _, _, _⟩ := w
      · exact absurd rfl more
      · cases stage
        simp [State.step?, here, post]
  | finish i w task outcome here current post =>
      obtain ⟨_, _, _ | _, _, _⟩ := w <;> cases current
      simp [State.step?, here, post]
  | report i w outcome here post => simp [State.step?, here, post]
  | count i w task here current post =>
      obtain ⟨_, _, _ | _, _, _⟩ := w <;> cases current
      simp [State.step?, here, post]
  | check i n w here stage done post =>
      obtain ⟨_, _, _, _, _⟩ := w
      cases stage
      cases done
      simp [State.step?, here, post]
  | raise closed => simp [State.step?, closed]
  | await free => simp [State.step?, free]
  | takeLeftovers held exited => simp [State.step?, held, exited]
  | countLeftovers k leftovers taken => simp [State.step?, taken]
  | dropLeftovers k leftovers counted => simp [State.step?, counted]
  | selfJoin i n w here stage =>
      obtain ⟨_, _, _, _, _⟩ := w
      cases stage
      simp [State.step?, here]

/-- The steps are those that can be computed, so an action leads to at most one state. -/
theorem step_iff_step? {s t : State β ρ} {a : Action β ρ} : Step s a t ↔ s.step? a = some t :=
  ⟨Step.step?_eq, Step.of_step?⟩

theorem run_iff_replay? {s t : State β ρ} {actions : List (Action β ρ)} :
    Run s actions t ↔ s.replay? actions = some t := by
  constructor
  · intro run
    induction run with
    | nil => rfl
    | cons first _ ih => simp only [State.replay?, first.step?_eq, ih]
  · intro replayed
    induction actions generalizing s with
    | nil =>
        cases replayed
        exact .nil _
    | cons a rest ih =>
        simp only [State.replay?] at replayed
        split at replayed
        · next taken => exact .cons (.of_step? taken) (ih replayed)
        · cases replayed

theorem Run.of_replay? {s t : State β ρ} (actions : List (Action β ρ))
    (replayed : s.replay? actions = some t) : Run s actions t :=
  run_iff_replay?.mpr replayed

theorem Reachable.of_replay? {settings : PoolSettings} {queueId : Nat} {s : State β ρ}
    (actions : List (Action β ρ))
    (replayed : (State.start settings queueId).replay? actions = some s) :
    Reachable settings queueId s :=
  ⟨actions, .of_replay? actions replayed⟩

end WorkerPool.Pool.Interleaving
