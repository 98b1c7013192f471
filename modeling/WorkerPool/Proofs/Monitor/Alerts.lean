import WorkerPool.Proofs.Monitor.Scene

namespace WorkerPool.Monitor

variable {σ κ ω : Type} [DecidableEq κ]

def WaitsOn (m : Monitor σ κ ω) (call : ω) (on : κ) : Prop :=
  ∃ shared late, m.turn shared call late = .wait on

/-- How many alerts are enough for those that sleep while the state is as it is. -/
structure Enough (m : Monitor σ κ ω) (enough : σ → κ → Nat → Prop) : Prop where
  more : ∀ {shared on n}, enough shared on n → enough shared on (n + 1)
  wait : ∀ {shared call late on}, m.turn shared call late = .wait on → enough shared on 0
  fixed : ∀ {shared call late on other},
    m.WaitsOn call on → m.turn shared call late = .wait other → other = on
  leave : ∀ {shared call late next owed on n},
    m.turn shared call late = .leave next owed → (on, .all) ∉ owed →
      enough shared on n → enough next on (n + owed.count (on, .one))
  back : ∀ {shared call late next owed on n},
    m.WaitsOn call on → m.turn shared call late = .leave next owed → (on, .all) ∉ owed →
      enough shared on (n + 1) → enough next on (n + owed.count (on, .one))

/-- Whoever sleeps will be woken, unless there is nothing to be woken for. -/
def Guarded (enough : σ → κ → Nat → Prop) (s : Scene σ κ ω) (on : κ) : Prop :=
  0 < s.sleepers on → 0 < s.owed on .all ∨ enough s.shared on (s.alerts on)

variable {m : Monitor σ κ ω} {enough : σ → κ → Nat → Prop}

theorem Enough.mono (laws : m.Enough enough) {shared : σ} {on : κ} {n k : Nat} (le : n ≤ k)
    (now : enough shared on n) : enough shared on k := by
  induction le with
  | refl => exact now
  | step _ ih => exact laws.more ih

def Placed (m : Monitor σ κ ω) : Phase κ ω → Prop
  | .asleep on call | .woken on call _ => m.WaitsOn call on
  | .out _ => True

omit [DecidableEq κ] in
theorem placed_out (owed : List (κ × Notice)) : m.Placed (.out owed) := trivial

theorem Placed.wake {phase : Phase κ ω} (placed : m.Placed phase) (on : κ) :
    m.Placed (phase.wake on) := by
  cases phase with
  | asleep here call =>
      rw [Phase.wake]
      by_cases same : here = on
      · rw [if_pos same]
        exact placed
      · rw [if_neg same]
        exact placed
  | out | woken => exact placed

omit [DecidableEq κ] in
theorem move_placed {s : Scene σ κ ω} (placed : ∀ phase ∈ s.threads, m.Placed phase) (i : Nat)
    {after : Phase κ ω} (new : m.Placed after) :
    ∀ phase ∈ (s.move i after).threads, m.Placed phase := by
  intro phase member
  rcases List.mem_or_eq_of_mem_set member with old | rfl
  · exact placed phase old
  · exact new

theorem Step.placed {s t : Scene σ κ ω} (step : m.Step s t)
    (placed : ∀ phase ∈ s.threads, m.Placed phase) : ∀ phase ∈ t.threads, m.Placed phase := by
  cases step with
  | wait i phase call late on here comes turn =>
      have waits : m.Placed (.asleep on call) := ⟨_, _, turn⟩
      exact move_placed placed i waits
  | leave i _ _ _ _ owed => exact move_placed placed i (placed_out owed)
  | notifyOne i on owed j call here sleeper =>
      have waits : m.Placed (.asleep on call) := placed _ (List.mem_of_getElem? sleeper)
      exact move_placed (move_placed placed i (placed_out owed)) j waits
  | notifyNone i _ owed => exact move_placed placed i (placed_out owed)
  | notifyAll i on owed =>
      intro phase member
      obtain ⟨before, old, rfl⟩ := List.mem_map.mp member
      exact (move_placed placed i (placed_out owed) before old).wake on
  | timeout i on call timed here =>
      have waits : m.Placed (.asleep on call) := placed _ (List.mem_of_getElem? here)
      exact move_placed placed i waits

theorem Guarded.keep (laws : m.Enough enough) {s t : Scene σ κ ω} {on : κ}
    (guarded : Guarded enough s on) (shared : t.shared = s.shared)
    (sleepers : t.sleepers on ≤ s.sleepers on) (all : s.owed on .all ≤ t.owed on .all)
    (alerts : s.alerts on ≤ t.alerts on) : Guarded enough t on := by
  intro asleep
  rcases guarded (Nat.lt_of_lt_of_le asleep sleepers) with owed | now
  · exact .inl (Nat.lt_of_lt_of_le owed all)
  · exact .inr (shared ▸ laws.mono alerts now)

theorem wait_guarded (laws : m.Enough enough) {s : Scene σ κ ω} {i : Nat} {phase : Phase κ ω}
    {call : ω} {late : Bool} {there on : κ} (here : s.threads[i]? = some phase)
    (comes : phase.Comes call late) (turn : m.turn s.shared call late = .wait there)
    (placed : m.Placed phase) (before : Guarded enough s on) :
    Guarded enough (s.move i (.asleep there call)) on := by
  by_cases same : there = on
  · subst same
    exact fun _ => .inr (laws.mono (Nat.zero_le _) (laws.wait turn))
  -- A thread that was woken elsewhere sleeps elsewhere again.
  have unused : phase.waking on = 0 := by
    rcases comes.waking on with unused | ⟨rfl, -⟩
    · exact unused
    · exact absurd (laws.fixed placed turn) same
  obtain ⟨sleepers, woken, owed⟩ := Scene.move_counts here (.asleep there call) on
  simp only [comes.still on, unused, Nat.add_zero] at sleepers woken owed
  simp only [Phase.sleeping, Phase.waking, Phase.owing, same, if_false] at sleepers woken owed
  have alerts : s.alerts on = (s.move i (.asleep there call)).alerts on := by
    rw [Scene.alerts, Scene.alerts, owed, woken]
    rfl
  exact before.keep laws rfl (Nat.le_of_eq sleepers) (Nat.le_of_eq (owed .all).symm)
    (Nat.le_of_eq alerts)

theorem leave_guarded (laws : m.Enough enough) {s : Scene σ κ ω} {i : Nat} {phase : Phase κ ω}
    {call : ω} {late : Bool} {next : σ} {notices : List (κ × Notice)} {on : κ}
    (here : s.threads[i]? = some phase) (comes : phase.Comes call late)
    (turn : m.turn s.shared call late = .leave next notices) (placed : m.Placed phase)
    (before : Guarded enough s on) :
    Guarded enough { s.move i (.out notices) with shared := next } on := by
  obtain ⟨sleepers, woken, owed⟩ := Scene.move_counts here (.out notices) on
  simp only [comes.still on, Nat.add_zero] at sleepers owed
  have all : (s.move i (.out notices)).owed on .all =
      s.owed on .all + notices.count (on, .all) := owed .all
  have one : (s.move i (.out notices)).owed on .one =
      s.owed on .one + notices.count (on, .one) := owed .one
  intro asleep
  change 0 < (s.move i (.out notices)).sleepers on at asleep
  change 0 < (s.move i (.out notices)).owed on .all ∨
    enough next on ((s.move i (.out notices)).owed on .one + (s.move i (.out notices)).woken on)
  by_cases alarm : (on, Notice.all) ∈ notices
  · have counted := List.count_pos_iff.mpr alarm
    exact .inl (by omega)
  simp only [Phase.sleeping] at sleepers
  rcases before (by omega) with guard | now
  · exact .inl (by omega)
  right
  -- A thread that was woken here is one alert less, and its call is one that waits here.
  rcases comes.waking on with unused | ⟨rfl, used⟩
  · rw [unused] at woken
    refine laws.mono ?_ (laws.leave turn alarm now)
    simp only [Scene.alerts, Phase.waking] at woken ⊢
    omega
  · rw [used] at woken
    simp only [Phase.waking] at woken
    have before : s.alerts on = (s.owed on .one + (s.move i (.out notices)).woken on) + 1 := by
      unfold Scene.alerts
      omega
    rw [before] at now
    refine laws.mono ?_ (laws.back placed turn alarm now)
    omega

theorem notifyOne_guarded (laws : m.Enough enough) {s : Scene σ κ ω} {i j : Nat} {there on : κ}
    {notices : List (κ × Notice)} {call : ω}
    (here : s.threads[i]? = some (.out ((there, .one) :: notices)))
    (sleeper : s.threads[j]? = some (.asleep there call)) (before : Guarded enough s on) :
    Guarded enough ((s.move i (.out notices)).move j (.woken there call false)) on := by
  have still := Scene.asleep_after_move here sleeper (.out notices)
  obtain ⟨sleepers, woken, owed⟩ := Scene.given_counts here on
  obtain ⟨sleepers', woken', owed'⟩ := Scene.move_counts still (.woken there call false) on
  have all := owed .all
  have one := owed .one
  have all' := owed' .all
  have one' := owed' .one
  simp only [Phase.sleeping, Phase.waking, Phase.owing, Prod.mk.injEq, reduceCtorEq, and_false,
    and_true, if_false] at sleepers' woken' all one all' one'
  -- The alert that is given moves from the owed ones to the woken.
  refine before.keep laws rfl (by omega) (by omega) ?_
  unfold Scene.alerts
  omega

theorem notifyNone_guarded (laws : m.Enough enough) {s : Scene σ κ ω} {i : Nat} {there on : κ}
    {notices : List (κ × Notice)} (here : s.threads[i]? = some (.out ((there, .one) :: notices)))
    (nobody : s.sleepers there = 0) (before : Guarded enough s on) :
    Guarded enough (s.move i (.out notices)) on := by
  obtain ⟨sleepers, woken, owed⟩ := Scene.given_counts here on
  by_cases same : there = on
  · subst same
    exact fun asleep => by omega
  have all := owed .all
  have one := owed .one
  simp only [Prod.mk.injEq, same, false_and, if_false, Nat.add_zero] at all one
  refine before.keep laws rfl (Nat.le_of_eq sleepers) (Nat.le_of_eq all.symm) ?_
  unfold Scene.alerts
  omega

theorem notifyAll_guarded (laws : m.Enough enough) {s : Scene σ κ ω} {i : Nat} {there on : κ}
    {notices : List (κ × Notice)} (here : s.threads[i]? = some (.out ((there, .all) :: notices)))
    (before : Guarded enough s on) :
    Guarded enough ((s.move i (.out notices)).wakeAll there) on := by
  by_cases same : on = there
  · subst same
    exact fun asleep => by simp [Scene.wakeAll_sleepers_self] at asleep
  obtain ⟨sleepers, woken, owed⟩ := Scene.given_counts here on
  obtain ⟨sleepers', woken', owed'⟩ := (s.move i (.out notices)).wakeAll_counts same
  have all := owed .all
  have one := owed .one
  simp only [Prod.mk.injEq, Ne.symm same, false_and, if_false, Nat.add_zero] at all one
  have alerts : s.alerts on = ((s.move i (.out notices)).wakeAll there).alerts on := by
    rw [Scene.alerts, Scene.alerts, owed', one, woken', woken]
  exact before.keep laws rfl (by omega) (by rw [owed']; omega) (Nat.le_of_eq alerts)

theorem timeout_guarded (laws : m.Enough enough) {s : Scene σ κ ω} {i : Nat} {there on : κ}
    {call : ω} (here : s.threads[i]? = some (.asleep there call)) (before : Guarded enough s on) :
    Guarded enough (s.move i (.woken there call true)) on := by
  obtain ⟨sleepers, woken, owed⟩ := Scene.move_counts here (.woken there call true) on
  have all := owed .all
  have one := owed .one
  simp only [Phase.sleeping, Phase.waking, Phase.owing] at sleepers woken all one
  refine before.keep laws rfl (by omega) (by omega) ?_
  unfold Scene.alerts
  omega

theorem Step.guarded (laws : m.Enough enough) {s t : Scene σ κ ω} (step : m.Step s t)
    (placed : ∀ phase ∈ s.threads, m.Placed phase) {on : κ} (before : Guarded enough s on) :
    Guarded enough t on := by
  cases step with
  | wait i phase call late there here comes turn =>
      exact wait_guarded laws here comes turn (placed phase (List.mem_of_getElem? here)) before
  | leave i phase call late next notices here comes turn =>
      exact leave_guarded laws here comes turn (placed phase (List.mem_of_getElem? here)) before
  | notifyOne i there notices j call here sleeper =>
      exact notifyOne_guarded laws here sleeper before
  | notifyNone i there notices here nobody => exact notifyNone_guarded laws here nobody before
  | notifyAll i there notices here => exact notifyAll_guarded laws here before
  | timeout i there call timed here => exact timeout_guarded laws here before

omit [DecidableEq κ] in
theorem start_placed (shared : σ) (count : Nat) :
    ∀ phase ∈ (Scene.start shared count : Scene σ κ ω).threads, m.Placed phase := by
  intro phase member
  obtain rfl := List.eq_of_mem_replicate member
  exact placed_out []

theorem start_guarded (shared : σ) (count : Nat) (on : κ) :
    Guarded enough (Scene.start shared count : Scene σ κ ω) on := by
  intro asleep
  have nobody : (Scene.start shared count : Scene σ κ ω).sleepers on = 0 :=
    Scene.total_start shared count _ rfl
  omega

theorem Reachable.placed {shared : σ} {count : Nat} {s : Scene σ κ ω}
    (reached : m.Reachable shared count s) : ∀ phase ∈ s.threads, m.Placed phase := by
  induction reached with
  | start => exact start_placed shared count
  | step _ step ih => exact step.placed ih

theorem Reachable.guarded (laws : m.Enough enough) {shared : σ} {count : Nat} {s : Scene σ κ ω}
    (reached : m.Reachable shared count s) (on : κ) : Guarded enough s on := by
  induction reached with
  | start => exact start_guarded shared count on
  | step reached step ih => exact step.guarded laws reached.placed ih

theorem Reachable.called (laws : m.Enough enough) {shared : σ} {count : Nat} {s : Scene σ κ ω}
    (reached : m.Reachable shared count s) {on : κ} {call : ω}
    (asleep : .asleep on call ∈ s.threads) :
    (∃ owed, .out owed ∈ s.threads ∧ (on, .all) ∈ owed) ∨
      enough s.shared on (s.owed on .one + s.woken on) := by
  have sleeps := (s.sleepers_pos_iff on).mpr ⟨call, asleep⟩
  rw [← s.owed_pos_iff on .all]
  exact reached.guarded laws on sleeps

theorem Reachable.last_notice (laws : m.Enough enough) {shared : σ} {count : Nat}
    {s : Scene σ κ ω} (reached : m.Reachable shared count s) {on : κ} {call : ω}
    (asleep : .asleep on call ∈ s.threads) (needed : ∀ n, ¬enough s.shared on n) {made : Nat}
    (few : s.owed on .all ≤ made) (once : made ≤ 1) :
    (∃ owed, .out owed ∈ s.threads ∧ (on, .all) ∈ owed) ∧ s.owed on .all = 1 ∧ made = 1 := by
  rcases reached.called laws asleep with alarm | now
  · have some := (s.owed_pos_iff on .all).mpr alarm
    refine ⟨alarm, ?_, ?_⟩ <;> omega
  · exact absurd now (needed _)

/-- Nobody sleeps for ever while there is something to be woken for. -/
theorem Reachable.at_rest (laws : m.Enough enough) {shared : σ} {count : Nat} {s : Scene σ κ ω}
    (reached : m.Reachable shared count s) (rest : s.AtRest) {on : κ} {call : ω}
    (asleep : .asleep on call ∈ s.threads) : enough s.shared on 0 := by
  obtain ⟨woken, owed⟩ := rest.counts on
  rcases reached.called laws asleep with alarm | now
  · have alarms := (s.owed_pos_iff on .all).mpr alarm
    rw [owed] at alarms
    exact absurd alarms (Nat.lt_irrefl 0)
  · rwa [owed, woken] at now

end WorkerPool.Monitor
