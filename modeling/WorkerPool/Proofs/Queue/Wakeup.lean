import WorkerPool.Proofs.Monitor.Alerts
import WorkerPool.Queue.Basic

namespace WorkerPool.Queue

variable {α : Type}

/-- What threads ask of a queue. A token changes nothing of what is done under the lock. -/
inductive Request (α : Type) where
  | enqueue (item : α)
  | enqueueBulk (batch : List α)
  | fetch (max : Nat)
  | tryDequeue
  | drain
  | close
  deriving DecidableEq, Repr

def notify (notice : Notice) : List (Unit × Notice) := [((), notice)]

def batchNotices : Nat → List (Unit × Notice)
  | 0 => []
  | 1 => notify .one
  | _ => notify .all

def turn (q : Queue α) (late : Bool) : Request α → Turn (Queue α) Unit
  | .enqueue item =>
    match q.enqueue item with
    | .ok next => .leave next (notify .one)
    | .error _ => .leave q []
  | .enqueueBulk batch =>
    match q.enqueueBulk batch with
    | .ok next => .leave next (batchNotices batch.length)
    | .error _ => .leave q []
  | .fetch max =>
    if q.fetchWaits max && !late then .wait ()
    else
      let (batch, next) := q.fetch max
      -- Who leaves something behind passes the wakeup on.
      .leave next (if !next.isEmpty && 0 < batch.length then notify .one else [])
  | .tryDequeue =>
    match q.tryDequeue with
    | some (_, next) => .leave next []
    | none => .leave q []
  | .drain => .leave q.drain.2 []
  | .close => .leave q.close.2 (notify .all)

def monitor : Monitor (Queue α) Unit (Request α) where
  turn q request late := q.turn late request
  timed := true

/-- The queue is open, and someone comes for what is in it. -/
def Attended (q : Queue α) (alerts : Nat) : Prop :=
  q.closed = false ∧ (q.items ≠ [] → 0 < alerts)

/-- What a turn can leave behind, and what it owes for it. -/
inductive Leaves (q : Queue α) : Request α → Queue α → List (Unit × Notice) → Prop
  | enqueued (item : α) (opened : q.closed = false) :
      Leaves q (.enqueue item) { q with items := q.items ++ [item] } (notify .one)
  | enqueuedBulk (batch : List α) (opened : q.closed = false) :
      Leaves q (.enqueueBulk batch) { q with items := q.items ++ batch } (batchNotices batch.length)
  | fetched (max : Nat) (owed : List (Unit × Notice))
      (pass : 0 < max → q.items.drop max ≠ [] → owed = notify .one) :
      Leaves q (.fetch max) { q with items := q.items.drop max } owed
  | removed (request : Request α) (rest : List α) (fewer : q.items = [] → rest = [])
      (other : ∀ max, request ≠ .fetch max) : Leaves q request { q with items := rest } []
  | closed : Leaves q .close { q with closed := true } (notify .all)

theorem turn_leaves {q next : Queue α} {request : Request α} {late : Bool}
    {owed : List (Unit × Notice)} (turn : monitor.turn q request late = .leave next owed) :
    Leaves q request next owed := by
  cases request with
  | enqueue item =>
      simp only [monitor, Queue.turn] at turn
      cases result : q.enqueue item with
      | ok taken =>
          obtain ⟨opened, -, rfl⟩ := (q.enqueue_ok_iff taken item).mp result
          rw [result] at turn
          cases turn
          exact .enqueued item opened
      | error refused =>
          rw [result] at turn
          cases turn
          exact .removed _ q.items (fun empty => empty) (by simp)
  | enqueueBulk batch =>
      simp only [monitor, Queue.turn] at turn
      cases result : q.enqueueBulk batch with
      | ok taken =>
          obtain ⟨opened, -, rfl⟩ := (q.enqueueBulk_ok_iff taken batch).mp result
          rw [result] at turn
          cases turn
          exact .enqueuedBulk batch opened
      | error refused =>
          rw [result] at turn
          cases turn
          exact .removed _ q.items (fun empty => empty) (by simp)
  | fetch max =>
      simp only [monitor, Queue.turn] at turn
      split at turn
      · cases turn
      · cases turn
        refine .fetched max _ fun positive behind => ?_
        have more : max < q.items.length := by
          simpa using behind
        have got : 0 < (q.fetch max).1.length := by
          rw [fetch_length, length]
          omega
        have filled : (q.fetch max).2.isEmpty = false := by
          simpa [isEmpty, fetch] using more
        exact if_pos (by rw [filled, decide_eq_true got]; rfl)
  | tryDequeue =>
      simp only [monitor, Queue.turn, Queue.tryDequeue] at turn
      cases items : q.items with
      | nil =>
          simp only [items] at turn
          cases turn
          exact .removed _ q.items (fun empty => empty) (by simp)
      | cons item rest =>
          simp only [items] at turn
          cases turn
          exact .removed _ rest (by simp [items]) (by simp)
  | drain =>
      cases turn
      exact .removed _ [] (fun _ => rfl) (by simp)
  | close =>
      cases turn
      exact .closed

theorem turn_wait {q : Queue α} {request : Request α} {late : Bool} {on : Unit}
    (turn : monitor.turn q request late = .wait on) :
    ∃ max, request = .fetch max ∧ 0 < max ∧ q.closed = false ∧ q.items = [] := by
  cases request with
  | fetch max =>
      simp only [monitor, Queue.turn] at turn
      split at turn
      · rename_i waits
        simp [fetchWaits, isEmpty] at waits
        exact ⟨max, rfl, Nat.pos_of_ne_zero waits.1.1.1, waits.1.2, waits.1.1.2⟩
      · cases turn
  | enqueue | enqueueBulk | tryDequeue =>
      simp only [monitor, Queue.turn] at turn
      split at turn <;> cases turn
  | drain | close => cases turn

theorem Leaves.attended {q next : Queue α} {request : Request α} {owed : List (Unit × Notice)}
    (leaves : Leaves q request next owed) (alarm : ((), Notice.all) ∉ owed) {n : Nat}
    (before : q.Attended n) : next.Attended (n + owed.count ((), .one)) := by
  obtain ⟨opened, come⟩ := before
  cases leaves with
  | enqueued item => exact ⟨opened, fun _ => Nat.succ_pos n⟩
  | enqueuedBulk batch =>
      refine ⟨opened, fun filled => ?_⟩
      match batch, filled, alarm with
      | [], filled, _ => exact come (by simpa using filled)
      | [_], _, _ => exact Nat.succ_pos n
      | _ :: _ :: _, _, alarm => simp [batchNotices, notify] at alarm
  | fetched max =>
      refine ⟨opened, fun filled => Nat.lt_add_right _ (come ?_)⟩
      intro empty
      simp [empty] at filled
  | removed _ rest fewer => exact ⟨opened, fun filled => come fun empty => filled (fewer empty)⟩
  | closed => simp [notify] at alarm

theorem Leaves.attended_back {q next : Queue α} {max : Nat} {owed : List (Unit × Notice)}
    (leaves : Leaves q (.fetch max) next owed) (positive : 0 < max) {n : Nat}
    (before : q.Attended (n + 1)) : next.Attended (n + owed.count ((), .one)) := by
  cases leaves with
  | fetched _ _ pass =>
      refine ⟨before.1, fun behind => ?_⟩
      rw [pass positive behind]
      exact Nat.succ_pos n
  | removed _ _ _ other => exact absurd rfl (other max)

theorem monitor_enough : (monitor : Monitor (Queue α) Unit (Request α)).Enough
    fun q _ n => q.Attended n where
  more now := ⟨now.1, fun filled => Nat.lt_succ_of_lt (now.2 filled)⟩
  wait turn := by
    obtain ⟨_, _, _, opened, empty⟩ := turn_wait turn
    exact ⟨opened, fun filled => absurd empty filled⟩
  fixed _ _ := rfl
  leave turn alarm before := (turn_leaves turn).attended alarm before
  back waits turn _ before := by
    obtain ⟨_, _, asked⟩ := waits
    obtain ⟨max, rfl, positive, _, _⟩ := turn_wait asked
    exact (turn_leaves turn).attended_back positive before

/-- While a consumer sleeps, someone owes a notice or comes for what there is, and it does not sleep
for ever. -/
theorem no_lost_wakeup {q : Queue α} {count : Nat} {s : Monitor.Scene (Queue α) Unit (Request α)}
    (reached : monitor.Reachable q count s) {request : Request α}
    (asleep : .asleep () request ∈ s.threads) :
    (s.shared.items ≠ [] ∨ s.shared.closed = true →
      (∃ owed notice, .out owed ∈ s.threads ∧ ((), notice) ∈ owed) ∨
        ∃ max late, .woken () (.fetch max) late ∈ s.threads) ∧
      (s.AtRest → s.shared.items = [] ∧ s.shared.closed = false) := by
  constructor
  · intro awaited
    rcases reached.called monitor_enough asleep with ⟨owed, member, owing⟩ | ⟨opened, come⟩
    · exact .inl ⟨owed, .all, member, owing⟩
    have alerts : 0 < s.owed () .one + s.woken () := by
      rcases awaited with filled | closed
      · exact come filled
      · simp [opened] at closed
    rcases Nat.add_pos_iff_pos_or_pos.mp alerts with owed | woken
    · obtain ⟨owed, member, owing⟩ := (s.owed_pos_iff () .one).mp owed
      exact .inl ⟨owed, .one, member, owing⟩
    · obtain ⟨woken, late, member⟩ := (s.woken_pos_iff ()).mp woken
      obtain ⟨_, _, asked⟩ : monitor.WaitsOn woken () := reached.placed _ member
      obtain ⟨max, rfl, _⟩ := turn_wait asked
      exact .inr ⟨max, late, member⟩
  · intro rest
    obtain ⟨opened, come⟩ := reached.at_rest monitor_enough rest asleep
    refine ⟨?_, opened⟩
    by_contra filled
    exact absurd (come filled) (Nat.lt_irrefl 0)

def waiting : Monitor.Scene (Queue Nat) Unit (Request Nat) :=
  ⟨{ id := 0 }, [.asleep () (.fetch 3), .out []]⟩

def delivered : Monitor.Scene (Queue Nat) Unit (Request Nat) :=
  ⟨{ id := 0, items := [7] }, [.asleep () (.fetch 3), .out (notify .one)]⟩

theorem waiting_reachable : monitor.Reachable { id := 0 } 2 waiting :=
  .step .start (.wait 0 (.out []) (Request.fetch 3) false () rfl (.anew _) rfl)

theorem delivered_reachable : monitor.Reachable { id := 0 } 2 delivered :=
  .step waiting_reachable (.leave 1 (.out []) (Request.enqueue 7) false _ _ rfl (.anew _) rfl)

theorem no_lost_wakeup_delivered :
    (waiting.shared.items = [] ∧ waiting.shared.closed = false) ∧
      ((∃ owed notice, .out owed ∈ delivered.threads ∧ ((), notice) ∈ owed) ∨
        ∃ max late, .woken () (.fetch max) late ∈ delivered.threads) := by
  have first : .asleep () (Request.fetch 3) ∈ waiting.threads := by simp [waiting]
  have second : .asleep () (Request.fetch 3) ∈ delivered.threads := by simp [delivered]
  have rest : waiting.AtRest := by simp [Monitor.Scene.AtRest, waiting]
  have filled : delivered.shared.items ≠ [] := by simp [delivered]
  exact ⟨(no_lost_wakeup waiting_reachable first).2 rest,
    (no_lost_wakeup delivered_reachable second).1 (.inl filled)⟩

end WorkerPool.Queue
