import WorkerPool.Report

namespace WorkerPool

structure Barrier where
  expected : Nat
  remaining : Nat
  deriving DecidableEq, Repr

namespace Barrier

def ofCount (n : Nat) : Barrier := ⟨n, n⟩

structure Overcounted where
  expected : Nat
  deriving DecidableEq, Repr

def Overcounted.report (e : Overcounted) : Report :=
  ⟨"Overcounted \x7b expected: " ++ toString e.expected ++ " \x7d",
    "Barrier notified more than " ++ toString e.expected ++ " times", none⟩

def isOpen (b : Barrier) : Bool := b.remaining == 0

def notify (b : Barrier) : Except Overcounted (Nat × Barrier) :=
  match b.remaining with
  | 0 => .error ⟨b.expected⟩
  | left + 1 => .ok (left, { b with remaining := left })

theorem notify_ok_iff (b next : Barrier) (left : Nat) :
    b.notify = .ok (left, next) ↔
      b.remaining = left + 1 ∧ next = { b with remaining := left } := by
  cases remaining : b.remaining <;> simp [notify, remaining, eq_comm]
  intro same
  simp [same]

theorem notify_error_iff (b : Barrier) (e : Overcounted) :
    b.notify = .error e ↔ b.isOpen = true ∧ e = ⟨b.expected⟩ := by
  cases remaining : b.remaining <;> simp [notify, isOpen, remaining, eq_comm]

end Barrier

end WorkerPool
