import WorkerPool.Barrier
import WorkerPool.Proofs.Monitor.Shared

namespace WorkerPool.Barrier

inductive Request where
  | notify
  | wait
  | waitTimeout (bounded : Bool)
  deriving DecidableEq, Repr

inductive Answer where
  | left (remaining : Nat)
  | refused (e : Overcounted)
  | returned
  | reached (zero : Bool)
  deriving DecidableEq, Repr

structure Exchange where
  request : Request
  answer : Answer
  deriving DecidableEq, Repr

/-- The answer to a call that has the lock, `late` if its wait has timed out; none if it is to
wait. -/
def reply? (b : Barrier) (late : Bool) : Request → Option (Answer × Barrier)
  | .notify =>
    match b.notify with
    | .ok (left, next) => some (.left left, next)
    | .error e => some (.refused e, b)
  | .wait => if b.isOpen then some (.returned, b) else none
  | .waitTimeout bounded =>
    if b.isOpen || (bounded && late) then some (.reached b.isOpen, b) else none

def notices : Answer → List (Unit × Notice)
  | .left 0 => [((), .all)]
  | _ => []

structure Recorded where
  barrier : Barrier
  log : List Exchange := []

def Recorded.start (n : Nat) : Recorded := ⟨.ofCount n, []⟩

def Recorded.turn (r : Recorded) (late : Bool) (request : Request) : Turn Recorded Unit :=
  match r.barrier.reply? late request with
  | some (answer, next) => .leave ⟨next, r.log ++ [⟨request, answer⟩]⟩ (notices answer)
  | none => .wait ()

def monitor : Monitor Recorded Unit Request where
  turn r request late := r.turn late request
  timed := true

inductive Exchange.Fits (b : Barrier) : Exchange → Barrier → Prop
  | counted (left : Nat) (closed : b.remaining = left + 1) :
      Fits b ⟨.notify, .left left⟩ { b with remaining := left }
  | refused (zero : b.remaining = 0) : Fits b ⟨.notify, .refused ⟨b.expected⟩⟩ b
  | returned (zero : b.remaining = 0) : Fits b ⟨.wait, .returned⟩ b
  | reached (bounded zero : Bool) (seen : zero = true ↔ b.remaining = 0) :
      Fits b ⟨.waitTimeout bounded, .reached zero⟩ b

theorem isOpen_iff (b : Barrier) : b.isOpen = true ↔ b.remaining = 0 := by
  simp [isOpen]

theorem reply?_fits {b next : Barrier} {late : Bool} {request : Request} {answer : Answer}
    (replied : b.reply? late request = some (answer, next)) :
    Exchange.Fits b ⟨request, answer⟩ next := by
  cases request with
  | notify =>
      simp only [reply?] at replied
      cases result : b.notify with
      | ok counted =>
          obtain ⟨left, after⟩ := counted
          obtain ⟨closed, rfl⟩ := (b.notify_ok_iff after left).mp result
          rw [result] at replied
          cases replied
          exact .counted left closed
      | error e =>
          obtain ⟨opened, rfl⟩ := (b.notify_error_iff e).mp result
          rw [result] at replied
          cases replied
          exact .refused (b.isOpen_iff.mp opened)
  | wait =>
      simp only [reply?] at replied
      split at replied
      · next opened =>
          cases replied
          exact .returned (b.isOpen_iff.mp opened)
      · cases replied
  | waitTimeout bounded =>
      simp only [reply?] at replied
      split at replied
      · cases replied
        exact .reached bounded _ b.isOpen_iff
      · cases replied

theorem reply?_eq_none {b : Barrier} {late : Bool} {request : Request}
    (waits : b.reply? late request = none) : b.isOpen = false := by
  cases request with
  | notify =>
      simp only [reply?] at waits
      split at waits <;> cases waits
  | wait =>
      simp only [reply?] at waits
      split at waits
      · cases waits
      · next closed => exact Bool.eq_false_iff.mpr closed
  | waitTimeout bounded =>
      simp only [reply?] at waits
      split at waits
      · cases waits
      · next closed =>
          rw [Bool.or_eq_true, not_or] at closed
          exact Bool.eq_false_iff.mpr closed.1

theorem turn_leave {r next : Recorded} {late : Bool} {request : Request}
    {owed : List (Unit × Notice)} (turn : monitor.turn r request late = .leave next owed) :
    ∃ answer barrier, Exchange.Fits r.barrier ⟨request, answer⟩ barrier ∧
      next = ⟨barrier, r.log ++ [⟨request, answer⟩]⟩ ∧ owed = notices answer := by
  simp only [monitor, Recorded.turn] at turn
  split at turn
  · next answer barrier replied =>
      cases turn
      exact ⟨answer, barrier, reply?_fits replied, rfl, rfl⟩
  · cases turn

theorem turn_wait {r : Recorded} {late : Bool} {request : Request} {on : Unit}
    (turn : monitor.turn r request late = .wait on) : r.barrier.isOpen = false := by
  simp only [monitor, Recorded.turn] at turn
  split at turn
  · cases turn
  · next waits => exact reply?_eq_none waits

def notified (log : List Exchange) : List Answer :=
  (log.filter fun e => e.request = .notify).map Exchange.answer

@[simp] theorem notified_append (front back : List Exchange) :
    notified (front ++ back) = notified front ++ notified back := by
  simp [notified]

def verdict (n k : Nat) : Answer := if k < n then .left (n - (k + 1)) else .refused ⟨n⟩

structure Recorded.Counts (n : Nat) (r : Recorded) : Prop where
  expected : r.barrier.expected = n
  remaining : r.barrier.remaining = n - min (notified r.log).length n
  answers : notified r.log = (List.range (notified r.log).length).map (verdict n)

theorem Recorded.Counts.start (n : Nat) : (Recorded.start n).Counts n :=
  ⟨rfl, rfl, rfl⟩

theorem Recorded.Counts.remaining_pos_iff {n : Nat} {r : Recorded} (counts : r.Counts n) :
    0 < r.barrier.remaining ↔ (notified r.log).length < n := by
  rw [counts.remaining]
  omega

theorem Recorded.Counts.notified {n : Nat} {r : Recorded} (counts : r.Counts n) {answer : Answer}
    (answered : verdict n (notified r.log).length = answer) {barrier : Barrier}
    (expected : barrier.expected = n)
    (remaining : barrier.remaining = n - min ((Barrier.notified r.log).length + 1) n) :
    Recorded.Counts n ⟨barrier, r.log ++ [⟨.notify, answer⟩]⟩ := by
  have notifications : Barrier.notified (r.log ++ [⟨.notify, answer⟩]) =
      Barrier.notified r.log ++ [answer] := notified_append _ _
  refine ⟨expected, ?_, ?_⟩
  · rw [notifications, List.length_append, List.length_singleton]
    exact remaining
  · rw [notifications, List.length_append, List.length_singleton, List.range_succ, List.map_append,
      ← counts.answers, List.map_singleton, answered]

theorem Recorded.Counts.waited {n : Nat} {r : Recorded} (counts : r.Counts n) {e : Exchange}
    (waits : e.request ≠ .notify) : Recorded.Counts n ⟨r.barrier, r.log ++ [e]⟩ := by
  have same : Barrier.notified (r.log ++ [e]) = Barrier.notified r.log := by
    simp [Barrier.notified, waits]
  refine ⟨counts.expected, ?_, ?_⟩
  · rw [same]
    exact counts.remaining
  · rw [same]
    exact counts.answers

theorem Recorded.Counts.leave {n : Nat} {r next : Recorded} {late : Bool} {request : Request}
    {owed : List (Unit × Notice)} (counts : r.Counts n)
    (turn : monitor.turn r request late = .leave next owed) : next.Counts n := by
  obtain ⟨answer, barrier, fits, rfl, -⟩ := turn_leave turn
  have before := counts.remaining
  cases fits with
  | counted left closed =>
      have below := counts.remaining_pos_iff.mp (closed ▸ Nat.succ_pos left)
      refine counts.notified ?_ counts.expected ?_
      · rw [verdict, if_pos below]
        congr 1
        omega
      · change left = _
        omega
  | refused zero =>
      have enough : ¬(Barrier.notified r.log).length < n := by
        rw [← counts.remaining_pos_iff]
        omega
      refine counts.notified ?_ counts.expected ?_
      · rw [verdict, if_neg enough, counts.expected]
      · omega
  | returned | reached => exact counts.waited (by simp)

theorem verdicts_count_zero (n k : Nat) :
    ((List.range k).map (verdict n)).count (.left 0) = if 0 < n ∧ n ≤ k then 1 else 0 := by
  induction k with
  | zero =>
      have none : ¬(0 < n ∧ n ≤ 0) := by omega
      rw [if_neg none, List.range_zero, List.map_nil, List.count_nil]
  | succ k ih =>
      have last : verdict n k = .left 0 ↔ n = k + 1 := by
        unfold verdict
        split
        · rw [Answer.left.injEq]
          omega
        · simp only [reduceCtorEq, false_iff]
          omega
      rw [List.range_succ, List.map_append, List.count_append, ih, List.map_singleton,
        List.count_singleton]
      by_cases this : n = k + 1
      · have earlier : ¬(0 < n ∧ n ≤ k) := by omega
        have now : 0 < n ∧ n ≤ k + 1 := by omega
        rw [if_neg earlier, if_pos now, last.mpr this]
        rfl
      · have other : (verdict n k == .left 0) = false := by
          rw [beq_eq_false_iff_ne]
          exact mt last.mp this
        have same : (0 < n ∧ n ≤ k) ↔ (0 < n ∧ n ≤ k + 1) := by omega
        rw [other, if_neg Bool.false_ne_true, Nat.add_zero, if_congr same rfl rfl]

theorem reply?_of_zero {b : Barrier} (zero : b.remaining = 0) (late : Bool) (request : Request) :
    b.reply? late request = some (match request with
      | .notify => .refused ⟨b.expected⟩
      | .wait => .returned
      | .waitTimeout _ => .reached true, b) := by
  have opened := b.isOpen_iff.mpr zero
  cases request with
  | notify => rw [reply?, (b.notify_error_iff ⟨b.expected⟩).mpr ⟨opened, rfl⟩]
  | wait => rw [reply?, if_pos opened]
  | waitTimeout bounded => rw [reply?, opened, Bool.true_or, if_pos rfl]

theorem turn_of_zero {r : Recorded} (zero : r.barrier.remaining = 0) (late : Bool)
    (request : Request) :
    ∃ answer, monitor.turn r request late =
      .leave { r with log := r.log ++ [⟨request, answer⟩] } [] := by
  simp only [monitor, Recorded.turn, reply?_of_zero zero]
  cases request <;> exact ⟨_, rfl⟩

theorem zero_stays {s t : Monitor.Scene Recorded Unit Request} (steps : monitor.Steps s t)
    (zero : s.shared.barrier.remaining = 0) : t.shared.barrier.remaining = 0 := by
  refine steps.shared (P := fun r => r.barrier.remaining = 0) ?_ zero
  intro before call late next owed turn zero
  obtain ⟨_, now⟩ := turn_of_zero zero late call
  rw [now] at turn
  cases turn
  exact zero

/-- A notification counts down while it can, and whoever waits is told how the count stands. -/
structure Countdown (n : Nat) (s : Monitor.Scene Recorded Unit Request) : Prop where
  answers : notified s.shared.log = (List.range (notified s.shared.log).length).map (verdict n)
  remaining : s.shared.barrier.remaining = n - min (notified s.shared.log).length n
  last : 0 < n → n ≤ (notified s.shared.log).length →
    (notified s.shared.log).count (.left 0) = 1
  next : ∀ t e, monitor.Step s t → t.shared.log = s.shared.log ++ [e] →
    e.Fits s.shared.barrier t.shared.barrier
  zero : s.shared.barrier.remaining = 0 → ∀ t, monitor.Steps s t →
    t.shared.barrier.remaining = 0 ∧ ∀ request late, ∃ answer,
      monitor.turn t.shared request late =
        .leave { t.shared with log := t.shared.log ++ [⟨request, answer⟩] } []

theorem step_fits {s t : Monitor.Scene Recorded Unit Request} (step : monitor.Step s t)
    {e : Exchange} (logged : t.shared.log = s.shared.log ++ [e]) :
    e.Fits s.shared.barrier t.shared.barrier := by
  rcases step.shared with same | ⟨call, late, owed, turn⟩
  · simp [same] at logged
  · obtain ⟨answer, barrier, fits, after, -⟩ := turn_leave turn
    rw [after] at logged ⊢
    rw [List.append_cancel_left_eq, List.singleton_inj] at logged
    exact logged ▸ fits

theorem counts_of_reachable {n count : Nat} {s : Monitor.Scene Recorded Unit Request}
    (reached : monitor.Reachable (.start n) count s) : s.shared.Counts n :=
  reached.steps.shared (P := Recorded.Counts n) (fun turn counts => counts.leave turn) (.start n)

/-- Notifications count a barrier down to zero, where it stays; the others are refused, and nobody
is told of zero before it is reached or of a wait in vain after it. -/
theorem counted_down {n count : Nat} {s : Monitor.Scene Recorded Unit Request}
    (reached : monitor.Reachable (.start n) count s) : Countdown n s := by
  have counts := counts_of_reachable reached
  refine ⟨counts.answers, counts.remaining, ?_, fun _ _ step => step_fits step, ?_⟩
  · intro expected enough
    rw [counts.answers, verdicts_count_zero, if_pos ⟨expected, enough⟩]
  · intro zero t steps
    have still := zero_stays steps zero
    exact ⟨still, fun request late => turn_of_zero still late request⟩

def overrun : List Exchange :=
  [⟨.notify, .left 1⟩, ⟨.waitTimeout true, .reached false⟩, ⟨.notify, .left 0⟩,
    ⟨.notify, .refused ⟨2⟩⟩]

theorem counted_down_overrun : ∃ s : Monitor.Scene Recorded Unit Request,
    monitor.Reachable (.start 2) 3 s ∧ s.shared = ⟨⟨2, 0⟩, overrun⟩ ∧
      .asleep () .wait ∈ s.threads ∧ Countdown 2 s := by
  have waiting : monitor.Reachable (.start 2) 3 ⟨.start 2,
      [.asleep () .wait, .asleep () (.waitTimeout true), .out []]⟩ :=
    .step (.step .start
      (.wait 0 (.out []) Request.wait false () rfl (.anew _) rfl))
      (.wait 1 (.out []) (Request.waitTimeout true) false () rfl (.anew _) rfl)
  have expired : monitor.Reachable (.start 2) 3 ⟨⟨⟨2, 1⟩, overrun.take 2⟩,
      [.asleep () .wait, .out [], .out []]⟩ :=
    .step (.step (.step waiting
      (.leave 2 (.out []) Request.notify false _ _ rfl (.anew _) rfl))
      (.timeout 1 () (.waitTimeout true) rfl rfl))
      (.leave 1 (.woken () (.waitTimeout true) true) (Request.waitTimeout true) true _ _ rfl
        (.back _ _ _) rfl)
  have overcounted : monitor.Reachable (.start 2) 3 ⟨⟨⟨2, 0⟩, overrun⟩,
      [.asleep () .wait, .out [], .out [((), .all)]]⟩ :=
    .step (.step expired
      (.leave 2 (.out []) Request.notify false _ _ rfl (.anew _) rfl))
      (.leave 1 (.out []) Request.notify false _ _ rfl (.anew _) rfl)
  exact ⟨_, overcounted, rfl, by simp, counted_down overcounted⟩

end WorkerPool.Barrier
