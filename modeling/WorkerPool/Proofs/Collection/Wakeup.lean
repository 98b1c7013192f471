import WorkerPool.Collection
import WorkerPool.Proofs.Monitor.Alerts

namespace WorkerPool.Collection

variable {α : Type}

inductive Condition where
  | notFull
  | notEmpty
  deriving DecidableEq, Repr

inductive Request (α : Type) where
  | add (item : α)
  | tryAdd (item : α)
  | take
  | tryTake
  | complete
  deriving DecidableEq, Repr

inductive Request.WaitsFor : Request α → Condition → Prop
  | add (item : α) : WaitsFor (.add item) .notFull
  | take : WaitsFor .take .notEmpty

def turn (c : Collection α) : Request α → Turn (Collection α) Condition
  | .add item =>
    match c.add item with
    | none => .wait .notFull
    | some (.ok next) => .leave next [(.notEmpty, .one)]
    | some (.error _) => .leave c []
  | .tryAdd item =>
    match c.tryAdd item with
    | .ok next => .leave next [(.notEmpty, .one)]
    | .error _ => .leave c []
  | .take =>
    match c.take with
    | none => .wait .notEmpty
    | some (some _, next) => .leave next [(.notFull, .one)]
    | some (none, next) => .leave next []
  | .tryTake =>
    match c.tryTake with
    | (some _, next) => .leave next [(.notFull, .one)]
    | (none, next) => .leave next []
  | .complete => .leave c.complete.2 [(.notEmpty, .all), (.notFull, .all)]

def monitor : Monitor (Collection α) Condition (Request α) where
  turn c request _ := c.turn request
  timed := false

/-- How many could go on that wait for it. -/
def demand (c : Collection α) : Condition → Nat
  | .notFull => c.capacity - c.length
  | .notEmpty => c.length

def Attended (c : Collection α) (on : Condition) (alerts : Nat) : Prop :=
  c.addingCompleted = false ∧ c.demand on ≤ alerts

/-- What a turn can leave behind, and what it owes for it. -/
inductive Leaves (c : Collection α) :
    Request α → Collection α → List (Condition × Notice) → Prop
  | same (request : Request α)
      (blocking : ∀ on, request.WaitsFor on → c.addingCompleted = true) : Leaves c request c []
  | added (request : Request α) (item : α) (adds : request = .add item ∨ request = .tryAdd item) :
      Leaves c request { c with items := c.items ++ [item] } [(.notEmpty, .one)]
  | took (request : Request α) (item : α) (rest : List α)
      (takes : request = .take ∨ request = .tryTake) (head : c.items = item :: rest) :
      Leaves c request { c with items := rest } [(.notFull, .one)]
  | completed : Leaves c .complete { c with addingCompleted := true }
      [(.notEmpty, .all), (.notFull, .all)]

theorem turn_leaves {c next : Collection α} {request : Request α} {late : Bool}
    {owed : List (Condition × Notice)} (turn : monitor.turn c request late = .leave next owed) :
    Leaves c request next owed := by
  cases request with
  | add item =>
      simp only [monitor, Collection.turn] at turn
      cases result : c.add item with
      | none =>
          rw [result] at turn
          cases turn
      | some answer =>
          have free : c.addWaits = false := by
            simpa using mt (c.add_eq_none_iff item).mpr (by simp [result])
          rw [result] at turn
          rw [c.add_eq_tryAdd item free, Option.some.injEq] at result
          cases answer with
          | ok taken =>
              obtain ⟨-, -, rfl⟩ := (c.tryAdd_ok_iff taken item).mp result
              cases turn
              exact .added _ item (.inl rfl)
          | error refused =>
              cases turn
              refine .same _ fun _ _ => ?_
              by_contra opened
              have full : c.isFull = false := by simpa [addWaits, opened] using free
              simp [tryAdd, opened, full] at result
  | tryAdd item =>
      simp only [monitor, Collection.turn] at turn
      cases result : c.tryAdd item with
      | ok taken =>
          obtain ⟨-, -, rfl⟩ := (c.tryAdd_ok_iff taken item).mp result
          rw [result] at turn
          cases turn
          exact .added _ item (.inr rfl)
      | error refused =>
          rw [result] at turn
          cases turn
          exact .same _ fun _ waits => by cases waits
  | take =>
      simp only [monitor, Collection.turn, take] at turn
      cases items : c.items with
      | nil =>
          cases completed : c.addingCompleted with
          | false =>
              simp only [items, completed, Bool.false_eq_true, if_false] at turn
              cases turn
          | true =>
              simp only [items, completed, if_true] at turn
              cases turn
              exact .same _ fun _ _ => completed
      | cons item rest =>
          simp only [items] at turn
          cases turn
          exact .took _ item rest (.inl rfl) items
  | tryTake =>
      simp only [monitor, Collection.turn, tryTake] at turn
      cases items : c.items with
      | nil =>
          simp only [items] at turn
          cases turn
          exact .same _ fun _ waits => by cases waits
      | cons item rest =>
          simp only [items] at turn
          cases turn
          exact .took _ item rest (.inr rfl) items
  | complete =>
      cases turn
      exact .completed

theorem turn_wait {c : Collection α} {request : Request α} {late : Bool} {on : Condition}
    (turn : monitor.turn c request late = .wait on) :
    request.WaitsFor on ∧ c.Attended on 0 := by
  cases request with
  | add item =>
      simp only [monitor, Collection.turn] at turn
      split at turn
      · rename_i waits
        cases turn
        rw [add_eq_none_iff] at waits
        obtain ⟨full, opened⟩ : c.capacity ≤ c.length ∧ c.addingCompleted = false := by
          simpa [addWaits, isFull] using waits
        exact ⟨.add item, opened, Nat.le_of_eq (Nat.sub_eq_zero_of_le full)⟩
      all_goals cases turn
  | take =>
      simp only [monitor, Collection.turn, take] at turn
      cases items : c.items with
      | nil =>
          cases completed : c.addingCompleted with
          | false =>
              simp only [items, completed, Bool.false_eq_true, if_false] at turn
              cases turn
              exact ⟨.take, completed, by simp [demand, length, items]⟩
          | true =>
              simp only [items, completed, if_true] at turn
              cases turn
      | cons item rest =>
          simp only [items] at turn
          cases turn
  | tryAdd | tryTake =>
      simp only [monitor, Collection.turn] at turn
      split at turn <;> cases turn
  | complete => cases turn

theorem Leaves.attended {c next : Collection α} {request : Request α}
    {owed : List (Condition × Notice)} (leaves : Leaves c request next owed) {on : Condition}
    (alarm : (on, Notice.all) ∉ owed) {n : Nat} (before : c.Attended on n) :
    next.Attended on (n + owed.count (on, .one)) := by
  obtain ⟨opened, enough⟩ := before
  cases leaves with
  | same => exact ⟨opened, enough⟩
  | added =>
      refine ⟨opened, ?_⟩
      cases on <;> simp [demand, length] at enough ⊢ <;> omega
  | took _ item rest takes head =>
      refine ⟨opened, ?_⟩
      cases on <;> simp [demand, length, head] at enough ⊢ <;> omega
  | completed => cases on <;> simp at alarm

theorem Leaves.attended_back {c next : Collection α} {request : Request α}
    {owed : List (Condition × Notice)} (leaves : Leaves c request next owed) {on : Condition}
    (waited : request.WaitsFor on) {n : Nat} (before : c.Attended on (n + 1)) :
    next.Attended on (n + owed.count (on, .one)) := by
  obtain ⟨opened, enough⟩ := before
  cases leaves with
  | same _ blocking =>
      have completed := blocking on waited
      simp [opened] at completed
  | added _ item adds =>
      refine ⟨opened, ?_⟩
      cases waited with
      | add =>
          simp [demand, length] at enough ⊢
          omega
      | take => simp at adds
  | took _ item rest takes head =>
      refine ⟨opened, ?_⟩
      cases waited with
      | add => simp at takes
      | take => simpa [demand, length, head] using enough
  | completed => cases waited

theorem monitor_enough : (monitor : Monitor (Collection α) Condition (Request α)).Enough
    Attended where
  more now := ⟨now.1, Nat.le_succ_of_le now.2⟩
  wait turn := (turn_wait turn).2
  fixed waits turn := by
    obtain ⟨_, _, asked⟩ := waits
    have first := (turn_wait asked).1
    have second := (turn_wait turn).1
    cases first <;> cases second <;> rfl
  leave turn alarm before := (turn_leaves turn).attended alarm before
  back waits turn _ before := by
    obtain ⟨_, _, asked⟩ := waits
    exact (turn_leaves turn).attended_back (turn_wait asked).1 before

/-- Who waits is called by a completion, or as many as could go on are on their way; nobody waits
for ever for what is there. -/
theorem demand_is_met {c : Collection α} {count : Nat}
    {s : Monitor.Scene (Collection α) Condition (Request α)}
    (reached : monitor.Reachable c count s) :
    (∀ on request, .asleep on request ∈ s.threads →
      (∃ owed, .out owed ∈ s.threads ∧ (on, .all) ∈ owed) ∨
        s.shared.addingCompleted = false ∧
          s.shared.demand on ≤ s.owed on .one + s.woken on) ∧
      (s.AtRest →
        (∀ request, .asleep .notFull request ∈ s.threads →
          s.shared.addingCompleted = false ∧ s.shared.capacity ≤ s.shared.length) ∧
        ∀ request, .asleep .notEmpty request ∈ s.threads →
          s.shared.addingCompleted = false ∧ s.shared.items = []) := by
  refine ⟨fun on request asleep => reached.called monitor_enough asleep,
    fun rest => ⟨fun request asleep => ?_, fun request asleep => ?_⟩⟩
  · obtain ⟨opened, none⟩ := reached.at_rest monitor_enough rest asleep
    exact ⟨opened, Nat.le_of_sub_eq_zero (Nat.le_zero.mp none)⟩
  · obtain ⟨opened, none⟩ := reached.at_rest monitor_enough rest asleep
    exact ⟨opened, List.length_eq_zero_iff.mp (Nat.le_zero.mp none)⟩

def blocked : Monitor.Scene (Collection Nat) Condition (Request Nat) :=
  ⟨{ capacity := 1, items := [5] }, [.asleep .notFull (.add 6), .out []]⟩

def roomy : Monitor.Scene (Collection Nat) Condition (Request Nat) :=
  ⟨{ capacity := 1 }, [.asleep .notFull (.add 6), .out [(.notFull, .one)]]⟩

theorem blocked_reachable : monitor.Reachable { capacity := 1, items := [5] } 2 blocked :=
  .step .start (.wait 0 (.out []) (Request.add 6) false Condition.notFull rfl (.anew _) rfl)

theorem roomy_reachable : monitor.Reachable { capacity := 1, items := [5] } 2 roomy :=
  .step blocked_reachable (.leave 1 (.out []) Request.take false _ _ rfl (.anew _) rfl)

theorem demand_is_met_roomy :
    (blocked.shared.addingCompleted = false ∧
        blocked.shared.capacity ≤ blocked.shared.length) ∧
      ((∃ owed, .out owed ∈ roomy.threads ∧ (Condition.notFull, .all) ∈ owed) ∨
        roomy.shared.addingCompleted = false ∧
          roomy.shared.demand .notFull ≤ roomy.owed .notFull .one + roomy.woken .notFull) := by
  have first : .asleep .notFull (Request.add 6) ∈ blocked.threads := by simp [blocked]
  have second : .asleep .notFull (Request.add 6) ∈ roomy.threads := by simp [roomy]
  have rest : blocked.AtRest := by simp [Monitor.Scene.AtRest, blocked]
  exact ⟨((demand_is_met blocked_reachable).2 rest).1 _ first,
    (demand_is_met roomy_reachable).1 _ _ second⟩

end WorkerPool.Collection
