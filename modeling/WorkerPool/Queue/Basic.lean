import WorkerPool.Queue.Token
import WorkerPool.Report

namespace WorkerPool

open Text

structure Queue (α : Type) where
  id : Nat
  capacity : Option Nat := none
  items : List α := []
  closed : Bool := false
  deriving Repr

namespace Queue

variable {α : Type}

inductive Refusal where
  | full
  | closed
  deriving DecidableEq, Repr

structure Refused (β : Type) where
  reason : Refusal
  item : β
  deriving DecidableEq, Repr

def Refusal.message : Refusal → String
  | .full => "enqueueing into a full queue"
  | .closed => "enqueueing into a closed queue"

def Refusal.report : Refusal → Report
  | .full => ⟨"Full(..)", Refusal.message .full, none⟩
  | .closed => ⟨"Closed(..)", Refusal.message .closed, none⟩

def length (q : Queue α) : Nat := q.items.length

def isEmpty (q : Queue α) : Bool := q.items.isEmpty

def isFull (q : Queue α) (incoming : Nat) : Bool :=
  match q.capacity with
  | none => false
  | some capacity => capacity < q.length + incoming

def enqueue (q : Queue α) (item : α) : Except (Refused α) (Queue α) :=
  if q.closed then .error ⟨.closed, item⟩
  else if q.isFull 1 then .error ⟨.full, item⟩
  else .ok { q with items := q.items ++ [item] }

def enqueueBulk (q : Queue α) (batch : List α) : Except (Refused (List α)) (Queue α) :=
  if q.closed then .error ⟨.closed, batch⟩
  else if q.isFull batch.length then .error ⟨.full, batch⟩
  else .ok { q with items := q.items ++ batch }

def producer (q : Queue α) : ProducerToken := { queueId := q.id }

def consumer (q : Queue α) : ConsumerToken := { queueId := q.id }

def owns (q : Queue α) (t : ProducerToken) : Bool := t.queueId == q.id

def ownsConsumer (q : Queue α) (t : ConsumerToken) : Bool := t.queueId == q.id

def enqueueWith (q : Queue α) (t : ProducerToken) (item : α) :
    Except ForeignToken (Except (Refused α) (Queue α × ProducerToken)) :=
  if q.owns t then .ok ((q.enqueue item).map fun next => (next, t.record 1))
  else .error ⟨⟩

def enqueueBulkWith (q : Queue α) (t : ProducerToken) (batch : List α) :
    Except ForeignToken (Except (Refused (List α)) (Queue α × ProducerToken)) :=
  if q.owns t then .ok ((q.enqueueBulk batch).map fun next => (next, t.record batch.length))
  else .error ⟨⟩

def fetch (q : Queue α) (max : Nat) : List α × Queue α :=
  (q.items.take max, { q with items := q.items.drop max })

/-- A fetch waits while there is nothing to take and something may still come. -/
def fetchWaits (q : Queue α) (max : Nat) : Bool :=
  max ≠ 0 && q.isEmpty && !q.closed

structure Fetched (α : Type) where
  count : Nat
  out : List α
  queue : Queue α
  token : ConsumerToken
  deriving Repr

def fetchWith (q : Queue α) (t : ConsumerToken) (out : List α) (max : Nat) :
    Except ForeignToken (Fetched α) :=
  if q.ownsConsumer t then
    let (batch, rest) := q.fetch max
    .ok ⟨batch.length, out ++ batch, rest, t.record batch.length⟩
  else .error ⟨⟩

def tryDequeue (q : Queue α) : Option (α × Queue α) :=
  match q.items with
  | [] => none
  | item :: rest => some (item, { q with items := rest })

def drain (q : Queue α) : List α × Queue α := (q.items, { q with items := [] })

def close (q : Queue α) : Bool × Queue α := (!q.closed, { q with closed := true })

def shape (q : Queue α) : Shape :=
  .record "TaskQueue" [
    ("id", .nat q.id),
    ("len", .nat q.length),
    ("closed", .bool q.closed),
    ("capacity", .option (q.capacity.map .nat))] false

theorem enqueue_ok_iff (q next : Queue α) (item : α) :
    q.enqueue item = .ok next ↔
      q.closed = false ∧ q.isFull 1 = false ∧ next = { q with items := q.items ++ [item] } := by
  unfold enqueue
  cases closed : q.closed <;> cases full : q.isFull 1 <;> simp [eq_comm]

theorem enqueueBulk_ok_iff (q next : Queue α) (batch : List α) :
    q.enqueueBulk batch = .ok next ↔
      q.closed = false ∧ q.isFull batch.length = false ∧
        next = { q with items := q.items ++ batch } := by
  unfold enqueueBulk
  cases closed : q.closed <;> cases full : q.isFull batch.length <;> simp [eq_comm]

theorem enqueueBulk_error_iff (q : Queue α) (batch : List α) (refused : Refused (List α)) :
    q.enqueueBulk batch = .error refused ↔
      (q.closed = true ∧ refused = ⟨.closed, batch⟩) ∨
        (q.closed = false ∧ q.isFull batch.length = true ∧ refused = ⟨.full, batch⟩) := by
  unfold enqueueBulk
  cases closed : q.closed <;> cases full : q.isFull batch.length <;> simp [eq_comm]

@[simp] theorem enqueueBulk_singleton (q : Queue α) (item : α) :
    q.enqueueBulk [item] = (q.enqueue item).mapError fun refused => ⟨refused.reason, [item]⟩ := by
  unfold enqueueBulk enqueue
  rw [List.length_singleton]
  cases q.closed <;> cases q.isFull 1 <;> rfl

theorem fetch_append (q : Queue α) (max : Nat) :
    (q.fetch max).1 ++ (q.fetch max).2.items = q.items := List.take_append_drop max q.items

@[simp] theorem fetch_length (q : Queue α) (max : Nat) :
    (q.fetch max).1.length = min max q.length := List.length_take

@[simp] theorem close_closed (q : Queue α) : q.close.2.closed = true := rfl

@[simp] theorem close_items (q : Queue α) : q.close.2.items = q.items := rfl

end Queue

end WorkerPool
