import WorkerPool.Text.Shape

namespace WorkerPool

open Text

structure ProducerToken where
  queueId : Nat
  enqueued : Nat := 0
  deriving DecidableEq, Repr

structure ConsumerToken where
  queueId : Nat
  dequeued : Nat := 0
  deriving DecidableEq, Repr

namespace ProducerToken

def record (t : ProducerToken) (count : Nat) : ProducerToken :=
  { t with enqueued := t.enqueued + count }

def shape (t : ProducerToken) : Shape :=
  .record "ProducerToken" [("queue_id", .nat t.queueId), ("enqueued", .nat t.enqueued)] false

@[simp] theorem record_zero (t : ProducerToken) : t.record 0 = t := rfl

@[simp] theorem record_record (t : ProducerToken) (first second : Nat) :
    (t.record first).record second = t.record (first + second) := by
  simp [record, Nat.add_assoc]

end ProducerToken

namespace ConsumerToken

def record (t : ConsumerToken) (count : Nat) : ConsumerToken :=
  { t with dequeued := t.dequeued + count }

def shape (t : ConsumerToken) : Shape :=
  .record "ConsumerToken" [("queue_id", .nat t.queueId), ("dequeued", .nat t.dequeued)] false

@[simp] theorem record_zero (t : ConsumerToken) : t.record 0 = t := rfl

@[simp] theorem record_record (t : ConsumerToken) (first second : Nat) :
    (t.record first).record second = t.record (first + second) := by
  simp [record, Nat.add_assoc]

end ConsumerToken

structure ForeignToken where
  deriving DecidableEq, Repr

def ForeignToken.message (_ : ForeignToken) : String :=
  "affinity token used with a queue it was not created for"

end WorkerPool
