import Mathlib.Algebra.GroupWithZero.Nat
import WorkerPool.Event

namespace WorkerPool.Event

def number : Event → Nat
  | poolStopping n | workerStopped _ n | bulkRejected _ n | bulkForeign n | leftoversDropped n
  | loopWorkerStopped _ n => n
  | _ => 0

def numberFields : List String := ["queued", "dequeued", "count", "consumed"]

theorem number_shown (e : Event) (field text : String) (named : field ∈ numberFields)
    (shown : (field, text) ∈ e.fields) : text = toString e.number := by
  simp only [numberFields, List.mem_cons, List.not_mem_nil, or_false] at named
  cases e <;>
    simp only [fields, List.mem_cons, List.not_mem_nil, or_false, Prod.mk.injEq] at shown <;>
    grind [number]

/-- The numbers in the lines of a log that have the message, one for each line. -/
def numbers (message : String) (log : List Event) : List Nat :=
  (log.filter fun e => e.message = message).map number

@[simp] theorem numbers_nil (message : String) : numbers message [] = [] := rfl

@[simp] theorem numbers_append (message : String) (log more : List Event) :
    numbers message (log ++ more) = numbers message log ++ numbers message more := by
  simp [numbers]

theorem numbers_singleton (message : String) (e : Event) :
    numbers message [e] = if e.message = message then [e.number] else [] := by
  by_cases same : e.message = message <;> simp [numbers, same]

theorem numbers_eq_nil (message : String) (log : List Event)
    (others : ∀ e ∈ log, e.message ≠ message) : numbers message log = [] := by
  rw [numbers, List.map_eq_nil_iff, List.filter_eq_nil_iff]
  intro e member
  simpa using others e member

def refusals (log : List Event) : Nat :=
  (numbers "task rejected" log).length +
    (numbers "task rejected: foreign producer token" log).length +
    ((numbers "bulk submission rejected" log).sum +
      (numbers "bulk submission rejected: foreign producer token" log).sum)

theorem refusals_append (log more : List Event) :
    refusals (log ++ more) = refusals log + refusals more := by
  simp only [refusals, numbers_append, List.length_append, List.sum_append]
  omega

end WorkerPool.Event
