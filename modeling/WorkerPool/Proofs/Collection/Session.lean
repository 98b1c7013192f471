import WorkerPool.Proofs.Collection.Wakeup
import WorkerPool.Proofs.Monitor.Shared

namespace WorkerPool.Collection

variable {α : Type}

inductive Answer (α : Type) where
  | added
  | refused (refused : Refused α)
  | taken (item : Option α)
  | completed (first : Bool)
  deriving DecidableEq, Repr

def takeIn (c : Collection α) : Except (Refused α) (Collection α) → Answer α × Collection α
  | .ok next => (.added, next)
  | .error refused => (.refused refused, c)

def reply? (c : Collection α) : Request α → Option (Answer α × Collection α)
  | .add item => (c.add item).map c.takeIn
  | .tryAdd item => some (c.takeIn (c.tryAdd item))
  | .take => c.take.map fun (item, next) => (.taken item, next)
  | .tryTake => some (.taken c.tryTake.1, c.tryTake.2)
  | .complete => some (.completed c.complete.1, c.complete.2)

structure Exchange (α : Type) where
  client : Nat
  request : Request α
  answer : Answer α
  deriving DecidableEq, Repr

namespace Request

def item? : Request α → Option α
  | add item | tryAdd item => some item
  | _ => none

def completes : Request α → Bool
  | complete => true
  | _ => false

end Request

namespace Exchange

def accepted (e : Exchange α) : List α :=
  match e.answer with
  | .added => e.request.item?.toList
  | _ => []

def removed (e : Exchange α) : List α :=
  match e.answer with
  | .taken item => item.toList
  | _ => []

def completing (e : Exchange α) : Bool :=
  match e.answer with
  | .completed first => first
  | _ => false

end Exchange

def accepted (log : List (Exchange α)) : List α := log.flatMap Exchange.accepted

def removed (log : List (Exchange α)) : List α := log.flatMap Exchange.removed

def held (log : List (Exchange α)) : List α := (accepted log).drop (removed log).length

def ended (log : List (Exchange α)) : Bool := log.any (·.request.completes)

/-- The answer that a bounded first-in first-out collection owes to a call after these answers; none
while the call has to wait. -/
def due? (capacity : Nat) (log : List (Exchange α)) : Request α → Option (Answer α)
  | .add item =>
    if ended log then some (.refused ⟨.completed, item⟩)
    else if (held log).length < capacity then some .added
    else none
  | .tryAdd item =>
    if ended log then some (.refused ⟨.completed, item⟩)
    else if (held log).length < capacity then some .added
    else some (.refused ⟨.full, item⟩)
  | .take =>
    match held log with
    | item :: _ => some (.taken (some item))
    | [] => if ended log then some (.taken none) else none
  | .tryTake => some (.taken (held log).head?)
  | .complete => some (.completed !ended log)

structure Session (α : Type) where
  collection : Collection α
  blocked : Nat → Option (Request α) := fun _ => none
  log : List (Exchange α) := []

namespace Session

def start (capacity : Nat) : Session α where
  collection := { capacity }

/-- A client has its turn with a call: it is answered, or it is blocked until its next turn. -/
def perform (s : Session α) (client : Nat) (request : Request α) : Session α :=
  match s.collection.reply? request with
  | some (answer, next) =>
    { collection := next
      blocked := Function.update s.blocked client none
      log := s.log ++ [⟨client, request, answer⟩] }
  | none => { s with blocked := Function.update s.blocked client (some request) }

inductive Step (s : Session α) : Session α → Prop
  | perform (client : Nat) (request : Request α)
      (turn : s.blocked client = none ∨ s.blocked client = some request) :
      Step s (s.perform client request)

abbrev Steps : Session α → Session α → Prop := Relation.ReflTransGen Step

def Reachable (capacity : Nat) (s : Session α) : Prop := Steps (start capacity) s

end Session

def ofLog (capacity : Nat) (log : List (Exchange α)) : Collection α where
  capacity
  items := held log
  addingCompleted := ended log

def InOrder (log : List (Exchange α)) : Prop := accepted log = removed log ++ held log

theorem accepted_append (log : List (Exchange α)) (e : Exchange α) :
    accepted (log ++ [e]) = accepted log ++ e.accepted := by
  simp [accepted]

theorem removed_append (log : List (Exchange α)) (e : Exchange α) :
    removed (log ++ [e]) = removed log ++ e.removed := by
  simp [removed]

theorem ended_append (log : List (Exchange α)) (e : Exchange α) :
    ended (log ++ [e]) = (ended log || e.request.completes) := by
  simp [ended]

theorem InOrder.held_append {log : List (Exchange α)} (order : InOrder log) {e : Exchange α}
    {rest : List α} (next : held log ++ e.accepted = e.removed ++ rest) :
    held (log ++ [e]) = rest := by
  rw [held, accepted_append, removed_append, order, List.append_assoc, next, ← List.append_assoc]
  exact List.drop_left

theorem InOrder.append {log : List (Exchange α)} (order : InOrder log) {e : Exchange α}
    {rest : List α} (next : held log ++ e.accepted = e.removed ++ rest) :
    InOrder (log ++ [e]) := by
  rw [InOrder, order.held_append next, accepted_append, removed_append, order, List.append_assoc,
    next, List.append_assoc]

theorem reply?_tryAdd (c : Collection α) (item : α) :
    c.reply? (.tryAdd item) = some (
      if c.addingCompleted then (.refused ⟨.completed, item⟩, c)
      else if c.length < c.capacity then (.added, { c with items := c.items ++ [item] })
      else (.refused ⟨.full, item⟩, c)) := by
  simp only [reply?, tryAdd, isFull]
  cases c.addingCompleted <;> by_cases room : c.length < c.capacity <;>
    simp [takeIn, room, Nat.not_le.mpr, Nat.le_of_not_lt]

theorem reply?_tryTake (c : Collection α) :
    c.reply? .tryTake = some (.taken c.items.head?, { c with items := c.items.tail }) := by
  obtain ⟨capacity, items, completed⟩ := c
  cases items <;> rfl

theorem reply?_add (c : Collection α) (item : α) :
    c.reply? (.add item) =
      if c.addWaits then none else c.reply? (.tryAdd item) := by
  cases waits : c.addWaits with
  | true => simp [reply?, (c.add_eq_none_iff item).mpr waits]
  | false => simp [reply?, c.add_eq_tryAdd item waits]

theorem reply?_take (c : Collection α) :
    c.reply? .take = if c.takeWaits then none else c.reply? .tryTake := by
  cases waits : c.takeWaits with
  | true =>
      simp only [takeWaits, isEmpty, Bool.and_eq_true, List.isEmpty_iff, Bool.not_eq_true'] at waits
      simp [reply?, take, waits]
  | false => simp [reply?, c.take_eq_tryTake waits]

theorem reply?_cases {c : Collection α} {request : Request α} {reply : Answer α × Collection α}
    (replied : c.reply? request = some reply) :
    (∃ item, request.item? = some item ∧ c.reply? (.tryAdd item) = some reply) ∨
      ((request = .take ∨ request = .tryTake) ∧ c.reply? .tryTake = some reply) ∨
      request = .complete := by
  cases request with
  | add item =>
      rw [reply?_add] at replied
      split at replied
      · cases replied
      · exact .inl ⟨item, rfl, replied⟩
  | tryAdd item => exact .inl ⟨item, rfl, replied⟩
  | take =>
      rw [reply?_take] at replied
      split at replied
      · cases replied
      · exact .inr (.inl ⟨.inl rfl, replied⟩)
  | tryTake => exact .inr (.inl ⟨.inr rfl, replied⟩)
  | complete => exact .inr (.inr rfl)

end WorkerPool.Collection
