import Mathlib.Algebra.GroupWithZero.Nat
import WorkerPool.Proofs.Queue.Session
import WorkerPool.Proofs.Queue.Wakeup

namespace WorkerPool.Queue

variable {α : Type}

/-- What a client with one token and one vector does, who offers nothing. -/
inductive Errand where
  | fetch (max : Nat)
  | tryDequeue
  | drain
  | close
  deriving DecidableEq, Repr

def Errand.call (t : Nat) (out : List α) : Errand → Call α
  | fetch max => .fetch t out max
  | tryDequeue => .tryDequeue
  | drain => .drain
  | close => .close

namespace Answer

def vector (out : List α) : Answer α → List α
  | .fetched _ out => out
  | _ => out

@[simp] theorem vector_dequeued (out : List α) (item : Option α) :
    (Answer.dequeued item).vector out = out := rfl

def count? : Answer α → Option Nat
  | .fetched count _ => some count
  | _ => none

end Answer

structure Visit (α : Type) where
  log : List (Errand × Answer α)
  out : List α
  session : Session α

/-- The turn of a fetch while nobody else does anything: if it is to wait, its time runs out. -/
def fetchTurn (q : Queue α) (max : Nat) : Turn (Queue α) Unit :=
  match monitor.turn q (.fetch max) false with
  | .wait _ => monitor.turn q (.fetch max) true
  | turn => turn

theorem fetchTurn_eq (q : Queue α) (max : Nat) :
    ∃ owed, q.fetchTurn max = .leave (q.fetch max).2 owed := by
  have late : ∃ owed, monitor.turn q (.fetch max) true = .leave (q.fetch max).2 owed := by
    simp only [monitor, Queue.turn, Bool.not_true, Bool.and_false, Bool.false_eq_true, if_false]
    exact ⟨_, rfl⟩
  cases waits : q.fetchWaits max with
  | true =>
      have now : monitor.turn q (.fetch max) false = .wait () := by
        simp [monitor, Queue.turn, waits]
      simpa only [fetchTurn, now] using late
  | false =>
      have now : ∃ owed, monitor.turn q (.fetch max) false = .leave (q.fetch max).2 owed := by
        simp only [monitor, Queue.turn, waits, Bool.false_and, Bool.false_eq_true, if_false]
        exact ⟨_, rfl⟩
      obtain ⟨owed, now⟩ := now
      exact ⟨owed, by simp only [fetchTurn, now]⟩

namespace Session

def visit (s : Session α) (t : Nat) (out : List α) : List Errand → Visit α
  | [] => ⟨[], out, s⟩
  | errand :: rest =>
    let (answer, next) := s.perform (errand.call t out)
    let later := next.visit t (answer.vector out) rest
    ⟨(errand, answer) :: later.log, later.out, later.session⟩

theorem visit_cons (s : Session α) (t : Nat) (out : List α) (errand : Errand)
    (rest : List Errand) {answer : Answer α} {next : Session α}
    (performed : s.perform (errand.call t out) = (answer, next)) :
    s.visit t out (errand :: rest) =
      ⟨(errand, answer) :: (next.visit t (answer.vector out) rest).log,
        (next.visit t (answer.vector out) rest).out,
        (next.visit t (answer.vector out) rest).session⟩ := by
  rw [visit, performed]

def takeOut (s : Session α) (t : Nat) (max : Nat) : Session α :=
  { s with
    queue := { s.queue with items := s.queue.items.drop max }
    consumers :=
      Function.update s.consumers t ((s.consumers t).record (min max s.queue.length)) }

theorem takeOut_zero (s : Session α) (t : Nat) : s.takeOut t 0 = s := by
  simp [takeOut]

theorem takeOut_length (s : Session α) (t max : Nat) :
    (s.takeOut t max).queue.length = s.queue.length - max := List.length_drop

theorem takeOut_takeOut (s : Session α) (t first second : Nat) :
    (s.takeOut t first).takeOut t second = s.takeOut t (first + second) := by
  have sum : min first s.queue.length + min second (s.queue.length - first) =
      min (first + second) s.queue.length := by omega
  have count : ((s.takeOut t first).consumers t).record (min second (s.queue.length - first)) =
      (s.consumers t).record (min (first + second) s.queue.length) := by
    simp [takeOut, sum]
  rw [takeOut, takeOut_length, count]
  simp [takeOut, List.drop_drop]

variable {s : Session α} {t : Nat}

theorem takeOut_own (own : (s.consumers t).queueId = s.queue.id) (max : Nat) :
    ((s.takeOut t max).consumers t).queueId = (s.takeOut t max).queue.id := by
  simpa [takeOut, ConsumerToken.record] using own

theorem perform_fetch (own : (s.consumers t).queueId = s.queue.id) (out : List α) (max : Nat) :
    s.perform (.fetch t out max) =
      (.fetched (min max s.queue.length) (out ++ s.queue.items.take max), s.takeOut t max) := by
  have mine : s.queue.ownsConsumer (s.consumers t) = true := beq_iff_eq.mpr own
  simp only [perform, fetchWith, mine, if_true, fetch_length]
  rfl

theorem visit_fetches (own : (s.consumers t).queueId = s.queue.id) (out : List α)
    (limits : List Nat) :
    (∃ counts : List Nat,
      (s.visit t out (limits.map .fetch)).log.map (·.2.count?) = counts.map some ∧
        counts.sum = min limits.sum s.queue.length) ∧
      (s.visit t out (limits.map .fetch)).out = out ++ s.queue.items.take limits.sum ∧
      (s.visit t out (limits.map .fetch)).session = s.takeOut t limits.sum := by
  induction limits generalizing s out with
  | nil =>
      refine ⟨⟨[], rfl, (Nat.zero_min _).symm⟩, ?_, s.takeOut_zero t |>.symm⟩
      exact (List.append_nil out).symm
  | cons limit rest ih =>
      -- The rest starts with what the first fetch has left, and adds to its vector.
      obtain ⟨⟨counts, answered, sum⟩, vector, session⟩ :=
        ih (takeOut_own own limit) (out ++ s.queue.items.take limit)
      rw [List.map_cons, s.visit_cons t out (.fetch limit) _ (perform_fetch own out limit),
        List.sum_cons]
      refine ⟨⟨min limit s.queue.length :: counts, ?_, ?_⟩, ?_, ?_⟩
      · exact congrArg (some _ :: ·) answered
      · rw [takeOut_length] at sum
        rw [List.sum_cons, sum]
        omega
      · refine vector.trans ?_
        rw [List.take_add, List.append_assoc]
        rfl
      · exact session.trans (s.takeOut_takeOut t limit rest.sum)

theorem visit_dequeues (s : Session α) (t : Nat) (out : List α) (n : Nat) :
    s.visit t out (List.replicate n .tryDequeue) =
      { log := ((s.queue.items.take n).map fun item => (.tryDequeue, .dequeued (some item))) ++
          List.replicate (n - s.queue.length) (.tryDequeue, .dequeued none)
        out
        session := { s with queue := { s.queue with items := s.queue.items.drop n } } } := by
  induction n generalizing s with
  | zero => simp [visit]
  | succ n ih =>
      rw [List.replicate_succ]
      cases items : s.queue.items with
      | nil =>
          have performed : s.perform (Errand.tryDequeue.call t out) = (.dequeued none, s) := by
            simp [Errand.call, perform, tryDequeue, items]
          rw [s.visit_cons t out _ _ performed, Answer.vector_dequeued, ih]
          simp [items, length, List.replicate_succ]
      | cons item rest =>
          have performed : s.perform (Errand.tryDequeue.call t out) =
              (.dequeued (some item), { s with queue := { s.queue with items := rest } }) := by
            simp [Errand.call, perform, tryDequeue, items]
          rw [s.visit_cons t out _ _ performed, Answer.vector_dequeued, ih]
          simp [items, length]

def shut (s : Session α) (closing : Bool) : Session α :=
  { s with queue := { s.queue with closed := s.queue.closed || closing } }

theorem shut_false (s : Session α) : s.shut false = s := by
  simp [shut]

theorem shut_shut (s : Session α) (first second : Bool) :
    (s.shut first).shut second = s.shut (first || second) := by
  simp [shut, Bool.or_assoc]

theorem perform_shut (s : Session α) (closing : Bool) (t : Nat) (out : List α) {errand : Errand}
    (other : errand ≠ .close) :
    (s.shut closing).perform (errand.call t out) =
      ((s.perform (errand.call t out)).1, (s.perform (errand.call t out)).2.shut closing) := by
  cases errand with
  | fetch max =>
      by_cases own : (s.consumers t).queueId = s.queue.id
      · have shutOwn : ((s.shut closing).consumers t).queueId = (s.shut closing).queue.id := own
        rw [Errand.call, perform_fetch own, perform_fetch shutOwn]
        rfl
      · have theirs : s.queue.ownsConsumer (s.consumers t) = false := beq_eq_false_iff_ne.mpr own
        have shutTheirs : (s.shut closing).queue.ownsConsumer ((s.shut closing).consumers t) =
            false := theirs
        simp [Errand.call, perform, fetchWith, theirs, shutTheirs]
  | tryDequeue =>
      cases items : s.queue.items <;> simp [Errand.call, perform, tryDequeue, shut, items]
  | drain => rfl
  | close => exact absurd rfl other

theorem visit_shut (s : Session α) (closing : Bool) (t : Nat) (out : List α)
    {errands : List Errand} (others : .close ∉ errands) :
    (s.shut closing).visit t out errands =
      ⟨(s.visit t out errands).log, (s.visit t out errands).out,
        (s.visit t out errands).session.shut closing⟩ := by
  induction errands generalizing s out with
  | nil => rfl
  | cons errand rest ih =>
      rw [List.mem_cons, not_or] at others
      have performed := s.perform_shut closing t out (Ne.symm others.1)
      rw [visit_cons _ t out _ _ performed, ih _ _ others.2]
      rfl

theorem visit_closing (s : Session α) (t : Nat) (out : List α) (errands : List Errand) :
    (s.visit t out errands).log.filter (·.1 ≠ .close) =
        (s.visit t out (errands.filter (· ≠ .close))).log ∧
      (s.visit t out errands).out = (s.visit t out (errands.filter (· ≠ .close))).out ∧
      (s.visit t out errands).session =
        (s.visit t out (errands.filter (· ≠ .close))).session.shut (.close ∈ errands) := by
  induction errands generalizing s out with
  | nil => exact ⟨rfl, rfl, (shut_false s).symm⟩
  | cons errand rest ih =>
      by_cases closes : errand = .close
      · subst closes
        have performed : s.perform (Errand.close.call t out) =
            (.closed s.queue.close.1, s.shut true) := by
          simp [Errand.call, perform, close, shut]
        have others : .close ∉ rest.filter (· ≠ .close) := by simp
        have later := ih (s.shut true) out
        rw [s.visit_shut true t out others] at later
        obtain ⟨log, vector, session⟩ := later
        rw [s.visit_cons t out _ _ performed, List.filter_cons_of_neg (by simp)]
        refine ⟨?_, vector, session.trans ?_⟩
        · rw [List.filter_cons_of_neg (by simp)]
          exact log
        · rw [shut_shut]
          simp
      · generalize performed : s.perform (errand.call t out) = result
        obtain ⟨answer, next⟩ := result
        obtain ⟨log, vector, session⟩ := ih next (answer.vector out)
        rw [List.filter_cons_of_pos (by simpa using closes), s.visit_cons t out _ _ performed,
          s.visit_cons t out _ _ performed]
        refine ⟨?_, vector, ?_⟩
        · rw [List.filter_cons_of_pos (by simpa using closes), log]
        · simpa [Ne.symm closes] using session

/-- What a client that is alone with a queue gets out of it. -/
structure Removal (s : Session α) (t : Nat) (out : List α) : Prop where
  split (limits : List Nat) :
    (s.visit t out (limits.map .fetch)).out =
        out ++ s.queue.items.take (min limits.sum s.queue.length) ∧
      ∃ counts : List Nat,
        (s.visit t out (limits.map .fetch)).log.map (·.2.count?) = counts.map some ∧
          s.perform (.fetch t out limits.sum) =
            (.fetched counts.sum (s.visit t out (limits.map .fetch)).out,
              (s.visit t out (limits.map .fetch)).session)
  all (max : Nat) : s.queue.length ≤ max →
    (s.perform (.fetch t out max)).1 = .fetched s.queue.length (out ++ s.queue.items) ∧
      (s.perform .drain).1 = .drained s.queue.items ∧
      (s.perform (.fetch t out max)).2.queue = (s.perform .drain).2.queue
  each : s.visit t out (List.replicate (s.queue.length + 1) .tryDequeue) =
    { log := s.queue.items.map (fun item => (.tryDequeue, .dequeued (some item))) ++
        [(.tryDequeue, .dequeued none)]
      out
      session := (s.perform .drain).2 }
  closing (errands : List Errand) :
    (s.visit t out errands).log.filter (·.1 ≠ .close) =
        (s.visit t out (errands.filter (· ≠ .close))).log ∧
      (s.visit t out errands).out = (s.visit t out (errands.filter (· ≠ .close))).out ∧
      (s.visit t out errands).session =
        (s.visit t out (errands.filter (· ≠ .close))).session.shut (.close ∈ errands)
  returns (max : Nat) :
    ∃ owed, s.queue.fetchTurn max = .leave (s.perform (.fetch t out max)).2.queue owed

/-- However a client removes items, it gets those at the front, in their order, and leaves the
others. -/
theorem removals_agree (own : (s.consumers t).queueId = s.queue.id) (out : List α) :
    s.Removal t out where
  split limits := by
    obtain ⟨⟨counts, answered, sum⟩, vector, session⟩ := visit_fetches own out limits
    have whole : out ++ s.queue.items.take (min limits.sum s.queue.length) =
        out ++ s.queue.items.take limits.sum := by
      rw [length, ← List.take_take, List.take_length]
    exact ⟨vector.trans whole.symm, counts, answered,
      by rw [perform_fetch own, vector, session, sum]⟩
  all max enough := by
    rw [perform_fetch own out max, Nat.min_eq_right enough, List.take_of_length_le enough]
    refine ⟨rfl, rfl, ?_⟩
    simp only [takeOut, List.drop_eq_nil_of_le enough]
    rfl
  each := by
    have enough : s.queue.items.length ≤ s.queue.length + 1 := Nat.le_succ _
    rw [s.visit_dequeues t out, List.take_of_length_le enough, Nat.add_sub_cancel_left,
      List.drop_eq_nil_of_le enough]
    rfl
  closing := s.visit_closing t out
  returns max := by
    rw [perform_fetch own out max]
    exact s.queue.fetchTurn_eq max

theorem removals_agree_closed : ∃ s : Session Nat,
    (s.consumers 1).queueId = s.queue.id ∧ s.queue.items = [1, 2, 3, 4, 5] ∧ s.Removal 1 [9] ∧
      s.perform (.fetch 1 [9] (2 + 0 + 1 + 7)) =
        (.fetched (2 + 0 + 1 + 2) [9, 1, 2, 3, 4, 5], s.takeOut 1 10) ∧
      ((s.takeOut 1 10).consumers 1).dequeued = 5 ∧
      (s.visit 1 [9] [.fetch 2, .close, .fetch 0, .fetch 1, .close, .fetch 7]).log.map Prod.snd =
        [.fetched 2 [9, 1, 2], .closed true, .fetched 0 [9, 1, 2], .fetched 1 [9, 1, 2, 3],
          .closed false, .fetched 2 [9, 1, 2, 3, 4, 5]] := by
  let s : Session Nat :=
    ((start 0 (some 6) (fun _ => ⟨0, 0⟩) fun _ => ⟨0, 0⟩).run [.enqueueBulk [1, 2, 3, 4, 5]]).2
  have own : (s.consumers 1).queueId = s.queue.id := rfl
  exact ⟨s, own, rfl, removals_agree own [9], rfl, rfl, rfl⟩

end Session

end WorkerPool.Queue
