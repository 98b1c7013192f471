import Mathlib.Data.List.Basic

/-! Threads that share a state under a lock and wait on condition variables.

A thread gives its notices after it has let go of the lock, one at a time, so that other threads
can come in between. -/

namespace WorkerPool

inductive Notice where
  | one
  | all
  deriving DecidableEq, Repr

/-- What a call does while its thread has the lock. -/
inductive Turn (σ κ : Type) where
  | wait (on : κ)
  | leave (next : σ) (owed : List (κ × Notice))

structure Monitor (σ κ ω : Type) where
  turn : σ → ω → Bool → Turn σ κ
  timed : Bool

namespace Monitor

variable {σ κ ω : Type}

inductive Phase (κ ω : Type) where
  | out (owed : List (κ × Notice))
  | asleep (on : κ) (call : ω)
  | woken (on : κ) (call : ω) (late : Bool)

namespace Phase

inductive Comes : Phase κ ω → ω → Bool → Prop
  | anew (call : ω) : Comes (out []) call false
  | back (on : κ) (call : ω) (late : Bool) : Comes (woken on call late) call late

variable [DecidableEq κ]

def wake (on : κ) : Phase κ ω → Phase κ ω
  | asleep here call => if here = on then woken here call false else asleep here call
  | phase => phase

def sleeping (on : κ) : Phase κ ω → Nat
  | asleep here _ => if here = on then 1 else 0
  | _ => 0

def waking (on : κ) : Phase κ ω → Nat
  | woken here _ _ => if here = on then 1 else 0
  | _ => 0

def owing (on : κ) (notice : Notice) : Phase κ ω → Nat
  | out owed => owed.count (on, notice)
  | _ => 0

@[simp] theorem sleeping_wake_self (on : κ) (phase : Phase κ ω) :
    (phase.wake on).sleeping on = 0 := by
  cases phase with
  | asleep here call => by_cases same : here = on <;> simp [wake, same, sleeping]
  | out | woken => rfl

theorem sleeping_wake (on : κ) {other : κ} (apart : other ≠ on) (phase : Phase κ ω) :
    (phase.wake on).sleeping other = phase.sleeping other := by
  cases phase with
  | asleep here call =>
      by_cases same : here = on
      · simp [wake, same, sleeping, apart.symm]
      · simp [wake, same]
  | out | woken => rfl

theorem waking_wake (on : κ) {other : κ} (apart : other ≠ on) (phase : Phase κ ω) :
    (phase.wake on).waking other = phase.waking other := by
  cases phase with
  | asleep here call =>
      by_cases same : here = on
      · simp [wake, same, waking, apart.symm]
      · simp [wake, same]
  | out | woken => rfl

@[simp] theorem owing_wake (on other : κ) (notice : Notice) (phase : Phase κ ω) :
    (phase.wake on).owing other notice = phase.owing other notice := by
  cases phase with
  | asleep here call => by_cases same : here = on <;> simp [wake, same, owing]
  | out | woken => rfl

theorem Comes.still {phase : Phase κ ω} {call : ω} {late : Bool}
    (comes : phase.Comes call late) (on : κ) :
    phase.sleeping on = 0 ∧ ∀ notice, phase.owing on notice = 0 := by
  cases comes <;> simp [Phase.sleeping, Phase.owing]

theorem Comes.waking {phase : Phase κ ω} {call : ω} {late : Bool}
    (comes : phase.Comes call late) (on : κ) :
    phase.waking on = 0 ∨ phase = .woken on call late ∧ phase.waking on = 1 := by
  cases comes with
  | anew => exact .inl rfl
  | back there => by_cases same : there = on <;> simp [Phase.waking, same]

end Phase

/-- The shared state and where each thread is. -/
structure Scene (σ κ ω : Type) where
  shared : σ
  threads : List (Phase κ ω)

namespace Scene

def start (shared : σ) (count : Nat) : Scene σ κ ω := ⟨shared, List.replicate count (.out [])⟩

def move (s : Scene σ κ ω) (i : Nat) (phase : Phase κ ω) : Scene σ κ ω :=
  { s with threads := s.threads.set i phase }

def total (s : Scene σ κ ω) (measure : Phase κ ω → Nat) : Nat :=
  s.threads.foldr (fun phase sum => measure phase + sum) 0

theorem total_move {s : Scene σ κ ω} {i : Nat} {before : Phase κ ω}
    (here : s.threads[i]? = some before) (after : Phase κ ω) (measure : Phase κ ω → Nat) :
    (s.move i after).total measure + measure before = s.total measure + measure after := by
  obtain ⟨shared, threads⟩ := s
  simp only [total, move] at here ⊢
  induction threads generalizing i with
  | nil => simp at here
  | cons head tail ih =>
      cases i with
      | zero =>
          obtain rfl : head = before := by simpa using here
          simp only [List.set_cons_zero, List.foldr_cons]
          omega
      | succ n =>
          have later := ih (by simpa using here)
          simp only [List.set_cons_succ, List.foldr_cons]
          omega

theorem total_pos_iff (s : Scene σ κ ω) (measure : Phase κ ω → Nat) :
    0 < s.total measure ↔ ∃ phase ∈ s.threads, 0 < measure phase := by
  obtain ⟨shared, threads⟩ := s
  simp only [total]
  induction threads with
  | nil => simp
  | cons head tail ih =>
      rw [List.foldr_cons, Nat.add_pos_iff_pos_or_pos, ih]
      simp

theorem total_start (shared : σ) (count : Nat) (measure : Phase κ ω → Nat)
    (nothing : measure (.out []) = 0) : (start shared count).total measure = 0 := by
  apply Nat.eq_zero_of_not_pos
  rw [total_pos_iff]
  rintro ⟨phase, member, counted⟩
  rw [List.eq_of_mem_replicate member, nothing] at counted
  exact Nat.lt_irrefl 0 counted

variable [DecidableEq κ]

def wakeAll (s : Scene σ κ ω) (on : κ) : Scene σ κ ω :=
  { s with threads := s.threads.map (Phase.wake on) }

def sleepers (s : Scene σ κ ω) (on : κ) : Nat := s.total (Phase.sleeping on)

def woken (s : Scene σ κ ω) (on : κ) : Nat := s.total (Phase.waking on)

def owed (s : Scene σ κ ω) (on : κ) (notice : Notice) : Nat := s.total (Phase.owing on notice)

/-- The threads that someone will wake one by one, or that are awake already. -/
def alerts (s : Scene σ κ ω) (on : κ) : Nat := s.owed on .one + s.woken on

theorem move_counts {s : Scene σ κ ω} {i : Nat} {before : Phase κ ω}
    (here : s.threads[i]? = some before) (after : Phase κ ω) (on : κ) :
    (s.move i after).sleepers on + before.sleeping on = s.sleepers on + after.sleeping on ∧
      (s.move i after).woken on + before.waking on = s.woken on + after.waking on ∧
      ∀ notice, (s.move i after).owed on notice + before.owing on notice =
        s.owed on notice + after.owing on notice :=
  ⟨total_move here after _, total_move here after _, fun _ => total_move here after _⟩

theorem given_counts {s : Scene σ κ ω} {i : Nat} {first : κ × Notice} {owed : List (κ × Notice)}
    (here : s.threads[i]? = some (.out (first :: owed))) (on : κ) :
    (s.move i (.out owed)).sleepers on = s.sleepers on ∧
      (s.move i (.out owed)).woken on = s.woken on ∧
      ∀ notice, (s.move i (.out owed)).owed on notice + (if first = (on, notice) then 1 else 0) =
        s.owed on notice := by
  obtain ⟨sleepers, woken, counts⟩ := move_counts here (.out owed) on
  refine ⟨sleepers, woken, fun notice => ?_⟩
  have count := counts notice
  simp only [Phase.owing, List.count_cons, beq_iff_eq] at count
  omega

omit [DecidableEq κ] in
theorem asleep_after_move {s : Scene σ κ ω} {i j : Nat} {owed : List (κ × Notice)} {on : κ}
    {call : ω} (here : s.threads[i]? = some (.out owed))
    (sleeper : s.threads[j]? = some (.asleep on call)) (after : Phase κ ω) :
    (s.move i after).threads[j]? = some (.asleep on call) := by
  have apart : i ≠ j := by
    rintro rfl
    simp [here] at sleeper
  simpa [move, apart] using sleeper

theorem wakeAll_sleepers_self (s : Scene σ κ ω) (on : κ) : (s.wakeAll on).sleepers on = 0 := by
  apply Nat.eq_zero_of_not_pos
  rw [sleepers, total_pos_iff]
  rintro ⟨phase, member, counted⟩
  obtain ⟨before, _, rfl⟩ := List.mem_map.mp member
  simp at counted

theorem wakeAll_counts (s : Scene σ κ ω) {there on : κ} (apart : on ≠ there) :
    (s.wakeAll there).sleepers on = s.sleepers on ∧ (s.wakeAll there).woken on = s.woken on ∧
      ∀ notice, (s.wakeAll there).owed on notice = s.owed on notice := by
  simp [wakeAll, sleepers, woken, owed, total, List.foldr_map, Phase.sleeping_wake there apart,
    Phase.waking_wake there apart]

theorem sleepers_pos_iff (s : Scene σ κ ω) (on : κ) :
    0 < s.sleepers on ↔ ∃ call, .asleep on call ∈ s.threads := by
  simp only [sleepers, total_pos_iff]
  constructor
  · rintro ⟨phase, member, counted⟩
    cases phase with
    | asleep here call =>
        by_cases same : here = on
        · exact ⟨call, same ▸ member⟩
        · simp [Phase.sleeping, same] at counted
    | out | woken => simp [Phase.sleeping] at counted
  · rintro ⟨call, member⟩
    exact ⟨_, member, by simp [Phase.sleeping]⟩

theorem woken_pos_iff (s : Scene σ κ ω) (on : κ) :
    0 < s.woken on ↔ ∃ call late, .woken on call late ∈ s.threads := by
  simp only [woken, total_pos_iff]
  constructor
  · rintro ⟨phase, member, counted⟩
    cases phase with
    | woken here call late =>
        by_cases same : here = on
        · exact ⟨call, late, same ▸ member⟩
        · simp [Phase.waking, same] at counted
    | out | asleep => simp [Phase.waking] at counted
  · rintro ⟨call, late, member⟩
    exact ⟨_, member, by simp [Phase.waking]⟩

theorem owed_pos_iff (s : Scene σ κ ω) (on : κ) (notice : Notice) :
    0 < s.owed on notice ↔ ∃ owed, .out owed ∈ s.threads ∧ (on, notice) ∈ owed := by
  simp only [owed, total_pos_iff]
  constructor
  · rintro ⟨phase, member, counted⟩
    cases phase with
    | out owed => exact ⟨owed, member, List.count_pos_iff.mp counted⟩
    | asleep | woken => simp [Phase.owing] at counted
  · rintro ⟨owed, member, counted⟩
    exact ⟨_, member, List.count_pos_iff.mpr counted⟩

def AtRest (s : Scene σ κ ω) : Prop :=
  ∀ phase ∈ s.threads, phase = .out [] ∨ ∃ on call, phase = .asleep on call

theorem AtRest.counts {s : Scene σ κ ω} (rest : s.AtRest) (on : κ) :
    s.woken on = 0 ∧ ∀ notice, s.owed on notice = 0 := by
  constructor
  · apply Nat.eq_zero_of_not_pos
    rw [s.woken_pos_iff]
    rintro ⟨call, late, member⟩
    rcases rest _ member with same | ⟨_, _, same⟩ <;> cases same
  · intro notice
    apply Nat.eq_zero_of_not_pos
    rw [s.owed_pos_iff]
    rintro ⟨owed, member, owing⟩
    rcases rest _ member with same | ⟨_, _, same⟩ <;> cases same
    cases owing

end Scene

variable [DecidableEq κ]

inductive Step (m : Monitor σ κ ω) (s : Scene σ κ ω) : Scene σ κ ω → Prop
  | wait (i : Nat) (phase : Phase κ ω) (call : ω) (late : Bool) (on : κ)
      (here : s.threads[i]? = some phase) (comes : phase.Comes call late)
      (turn : m.turn s.shared call late = .wait on) : Step m s (s.move i (.asleep on call))
  | leave (i : Nat) (phase : Phase κ ω) (call : ω) (late : Bool) (next : σ)
      (owed : List (κ × Notice)) (here : s.threads[i]? = some phase)
      (comes : phase.Comes call late) (turn : m.turn s.shared call late = .leave next owed) :
      Step m s { s.move i (.out owed) with shared := next }
  | notifyOne (i : Nat) (on : κ) (owed : List (κ × Notice)) (j : Nat) (call : ω)
      (here : s.threads[i]? = some (.out ((on, .one) :: owed)))
      (sleeper : s.threads[j]? = some (.asleep on call)) :
      Step m s ((s.move i (.out owed)).move j (.woken on call false))
  | notifyNone (i : Nat) (on : κ) (owed : List (κ × Notice))
      (here : s.threads[i]? = some (.out ((on, .one) :: owed))) (nobody : s.sleepers on = 0) :
      Step m s (s.move i (.out owed))
  | notifyAll (i : Nat) (on : κ) (owed : List (κ × Notice))
      (here : s.threads[i]? = some (.out ((on, .all) :: owed))) :
      Step m s ((s.move i (.out owed)).wakeAll on)
  | timeout (i : Nat) (on : κ) (call : ω) (timed : m.timed = true)
      (here : s.threads[i]? = some (.asleep on call)) : Step m s (s.move i (.woken on call true))

inductive Reachable (m : Monitor σ κ ω) (shared : σ) (count : Nat) : Scene σ κ ω → Prop
  | start : Reachable m shared count (.start shared count)
  | step {s t : Scene σ κ ω} (reached : Reachable m shared count s) (step : m.Step s t) :
      Reachable m shared count t

end Monitor

end WorkerPool
