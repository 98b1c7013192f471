import WorkerPool.Proofs.Barrier.Countdown
import WorkerPool.Proofs.Monitor.Alerts

namespace WorkerPool.Barrier

theorem turn_closed {r next : Recorded} {request : Request} {late : Bool}
    {owed : List (Unit × Notice)} (turn : monitor.turn r request late = .leave next owed)
    (alarm : ((), Notice.all) ∉ owed) (closed : 0 < r.barrier.remaining) :
    0 < next.barrier.remaining := by
  obtain ⟨answer, barrier, fits, rfl, rfl⟩ := turn_leave turn
  cases fits with
  | counted left =>
      cases left with
      | zero => simp [notices] at alarm
      | succ left => exact Nat.succ_pos left
  | refused | returned | reached => exact closed

theorem monitor_enough : monitor.Enough fun r _ _ => 0 < r.barrier.remaining where
  more now := now
  wait turn := by
    have closed := turn_wait turn
    rw [isOpen, beq_eq_false_iff_ne] at closed
    exact Nat.pos_of_ne_zero closed
  fixed _ _ := rfl
  leave turn alarm closed := turn_closed turn alarm closed
  back _ turn alarm closed := turn_closed turn alarm closed

theorem owed_le_last {n count : Nat} {s : Monitor.Scene Recorded Unit Request}
    (reached : monitor.Reachable (.start n) count s) :
    s.owed () .all ≤ (notified s.shared.log).count (.left 0) := by
  refine reached.owed_le () .all (fun r => (notified r.log).count (.left 0)) fun turn => ?_
  obtain ⟨answer, barrier, fits, rfl, rfl⟩ := turn_leave turn
  rw [notified_append, List.count_append]
  apply Nat.add_le_add_left
  cases fits with
  | counted left =>
      cases left with
      | zero => exact Nat.le_refl 1
      | succ left => exact Nat.zero_le _
  | refused | returned | reached => exact Nat.zero_le _

theorem last_le_one {n count : Nat} {s : Monitor.Scene Recorded Unit Request}
    (reached : monitor.Reachable (.start n) count s) :
    (notified s.shared.log).count (.left 0) ≤ 1 := by
  rw [(counts_of_reachable reached).answers, verdicts_count_zero]
  split <;> simp

end WorkerPool.Barrier
