import WorkerPool.Proofs.Channel.OneShot
import WorkerPool.Proofs.Monitor.Alerts
import WorkerPool.Proofs.Monitor.Shared

namespace WorkerPool.OneShot

variable {ρ : Type}

inductive Request (ρ : Type) where
  | fulfill (value : ρ)
  | fail (failure : TaskFailure)
  | complete (outcome : Outcome ρ)
  -- The destructor of the promise, which also runs at the end of each of its uses.
  | destroy
  | tryTake
  | wait
  | waitTimeout (bounded : Bool)

structure Recorded (ρ : Type) where
  pair : Pair ρ := {}
  uses : List (Settlement ρ) := []
  -- The outcomes that reads were given, in the order in which they had the lock.
  given : List (Except TaskFailure ρ) := []

def Settlement.apply : Settlement ρ → Pair ρ → Pair ρ
  | kept outcome, p => p.settle outcome
  | broken, p => p.dropPromise

namespace Recorded

def use (r : Recorded ρ) (how : Settlement ρ) : Turn (Recorded ρ) Unit :=
  if r.pair.connected then
    .leave { r with pair := how.apply r.pair, uses := r.uses ++ [how] } [((), .all)]
  else .leave r []

def read (r : Recorded ρ) (sleep : Option Wait) : Turn (Recorded ρ) Unit :=
  match r.pair.look .free sleep with
  | (.read outcome, pair) => .leave { r with pair, given := r.given ++ outcome.toList } []
  | _ => .wait ()

def turn (r : Recorded ρ) (late : Bool) : Request ρ → Turn (Recorded ρ) Unit
  | .fulfill value => r.use (.kept (.ok value))
  | .fail failure => r.use (.kept (.error failure))
  | .complete outcome => r.use (.kept outcome.result)
  | .destroy => r.use .broken
  | .tryTake => r.read none
  | .wait => r.read (some .final)
  | .waitTimeout true => r.read (if late then none else some .timed)
  | .waitTimeout false => r.read (some .untimed)

end Recorded

def monitor : Monitor (Recorded ρ) Unit (Request ρ) where
  turn r request late := r.turn late request
  timed := true

inductive Leaves (r : Recorded ρ) : Recorded ρ → List (Unit × Notice) → Prop
  | late (spent : r.pair.connected = false) : Leaves r r []
  | used (how : Settlement ρ) (connected : r.pair.connected = true) :
      Leaves r { r with pair := how.apply r.pair, uses := r.uses ++ [how] } [((), .all)]
  | given (outcome : Except TaskFailure ρ) (found : r.pair.slot.read.1 = some outcome) :
      Leaves r { r with
        pair := { r.pair with slot := r.pair.slot.read.2, reader := .free }
        given := r.given ++ [outcome] } []
  | nothing (pending : r.pair.slot = .pending) :
      Leaves r { r with pair := { r.pair with reader := .free } } []

theorem Pair.look_of_pending {p : Pair ρ} (pending : p.slot = .pending) (after : Reader) :
    p.look after none = (.read none, { p with reader := after }) ∧
      ∀ wait, (p.look after (some wait)).1 = .asleep := by
  obtain ⟨slot, connected, writer, reader⟩ := p
  obtain rfl : slot = .pending := pending
  exact ⟨rfl, fun _ => rfl⟩

theorem isReady_eq_false_iff (slot : Slot ρ) : slot.isReady = false ↔ slot = .pending := by
  cases slot <;> simp [Slot.isReady]

theorem Recorded.read_of_ready {r : Recorded ρ} (ready : r.pair.slot.isReady = true)
    (sleep : Option Wait) : ∃ outcome, r.pair.slot.read.1 = some outcome ∧
      r.read sleep = .leave { r with
        pair := { r.pair with slot := r.pair.slot.read.2, reader := .free }
        given := r.given ++ [outcome] } [] := by
  obtain ⟨outcome, found⟩ := Option.isSome_iff_exists.mp (r.pair.slot.read_isSome_iff.mpr ready)
  refine ⟨outcome, found, ?_⟩
  rw [Recorded.read, Pair.look_of_ready ready, found]
  rfl

theorem Recorded.read_of_pending {r : Recorded ρ} (pending : r.pair.slot = .pending) :
    r.read none = .leave { r with pair := { r.pair with reader := .free } } [] ∧
      ∀ wait, r.read (some wait) = .wait () := by
  obtain ⟨nothing, sleeps⟩ := Pair.look_of_pending pending .free
  refine ⟨?_, fun wait => ?_⟩
  · rw [Recorded.read, nothing]
    simp
  · have asleep := sleeps wait
    rw [Recorded.read]
    split
    · next read => cases asleep.symm.trans (congrArg Prod.fst read)
    · rfl

theorem Recorded.use_leaves {r next : Recorded ρ} {how : Settlement ρ}
    {owed : List (Unit × Notice)} (turn : r.use how = .leave next owed) : Leaves r next owed := by
  unfold Recorded.use at turn
  split at turn
  · next connected =>
      cases turn
      exact .used how connected
  · next spent =>
      cases turn
      exact .late (Bool.eq_false_iff.mpr spent)

theorem Recorded.read_leaves {r next : Recorded ρ} {sleep : Option Wait}
    {owed : List (Unit × Notice)} (turn : r.read sleep = .leave next owed) :
    Leaves r next owed := by
  cases ready : r.pair.slot.isReady with
  | true =>
      obtain ⟨outcome, found, now⟩ := Recorded.read_of_ready ready sleep
      rw [now] at turn
      cases turn
      exact .given outcome found
  | false =>
      have pending := (isReady_eq_false_iff _).mp ready
      obtain ⟨nothing, sleeps⟩ := Recorded.read_of_pending pending
      cases sleep with
      | none =>
          rw [nothing] at turn
          cases turn
          exact .nothing pending
      | some wait =>
          rw [sleeps] at turn
          cases turn

theorem turn_leaves {r next : Recorded ρ} {request : Request ρ} {late : Bool}
    {owed : List (Unit × Notice)} (turn : monitor.turn r request late = .leave next owed) :
    Leaves r next owed := by
  cases request with
  | fulfill | fail | complete | destroy => exact Recorded.use_leaves turn
  | tryTake | wait => exact Recorded.read_leaves turn
  | waitTimeout bounded => cases bounded <;> exact Recorded.read_leaves turn

theorem Recorded.pending_of_wait {r : Recorded ρ} {sleep : Option Wait} {on : Unit}
    (turn : r.read sleep = .wait on) : r.pair.slot = .pending := by
  cases ready : r.pair.slot.isReady with
  | true =>
      obtain ⟨_, _, now⟩ := Recorded.read_of_ready ready sleep
      rw [now] at turn
      cases turn
  | false => exact (isReady_eq_false_iff _).mp ready

theorem turn_wait {r : Recorded ρ} {request : Request ρ} {late : Bool} {on : Unit}
    (turn : monitor.turn r request late = .wait on) : r.pair.slot = .pending := by
  cases request with
  | fulfill | fail | complete | destroy =>
      simp only [monitor, Recorded.turn, Recorded.use] at turn
      split at turn <;> cases turn
  | tryTake | wait => exact Recorded.pending_of_wait turn
  | waitTimeout bounded => cases bounded <;> exact Recorded.pending_of_wait turn

theorem Recorded.late_read (r : Recorded ρ) :
    ∃ next, monitor.turn r (.waitTimeout true) true = .leave next [] ∧
      next.uses = r.uses ∧
      ((∃ outcome, r.pair.slot.read.1 = some outcome ∧ next.given = r.given ++ [outcome]) ∨
        r.pair.slot = .pending ∧ next.pair.slot = .pending ∧ next.given = r.given) := by
  cases ready : r.pair.slot.isReady with
  | true =>
      obtain ⟨outcome, found, turn⟩ := r.read_of_ready ready none
      exact ⟨_, turn, rfl, .inl ⟨outcome, found, rfl⟩⟩
  | false =>
      have pending := (isReady_eq_false_iff _).mp ready
      exact ⟨_, (r.read_of_pending pending).1, rfl, .inr ⟨pending, pending, rfl⟩⟩

theorem Leaves.pending {r next : Recorded ρ} {owed : List (Unit × Notice)}
    (leaves : Leaves r next owed) (alarm : ((), Notice.all) ∉ owed)
    (pending : r.pair.slot = .pending) : next.pair.slot = .pending := by
  cases leaves with
  | late | nothing => exact pending
  | used => simp at alarm
  | given outcome found =>
      rw [pending] at found
      cases found

theorem monitor_enough : (monitor : Monitor (Recorded ρ) Unit (Request ρ)).Enough
    fun r _ _ => r.pair.slot = .pending where
  more now := now
  wait turn := turn_wait turn
  fixed _ _ := rfl
  leave turn alarm pending := (turn_leaves turn).pending alarm pending
  back _ turn alarm pending := (turn_leaves turn).pending alarm pending

theorem owed_le_uses {count : Nat} {s : Monitor.Scene (Recorded ρ) Unit (Request ρ)}
    (reached : monitor.Reachable {} count s) : s.owed () .all ≤ s.shared.uses.length := by
  refine reached.owed_le () .all (fun r => r.uses.length) fun turn => ?_
  cases turn_leaves turn with
  | late | given | nothing => exact Nat.le_refl _
  | used how => simp

inductive Recorded.Sound (r : Recorded ρ) : Prop
  | fresh (pending : r.pair.slot = .pending) (connected : r.pair.connected = true)
      (unused : r.uses = []) (nothing : r.given = [])
  | settled (how : Settlement ρ) (once : r.uses = [how]) (spent : r.pair.connected = false)
      (ready : r.pair.slot.isReady = true)
      (kept : ∀ n, r.given ++ outcomes r.pair.slot n = outcomes how.slot (r.given.length + n))

theorem Settlement.apply_fresh (how : Settlement ρ) {p : Pair ρ} (pending : p.slot = .pending)
    (connected : p.connected = true) :
    (how.apply p).slot = how.slot ∧ (how.apply p).connected = false := by
  cases how with
  | kept outcome => simp [apply, Pair.settle, connected, Slot.settle, Settlement.slot]
  | broken => simp [apply, Pair.dropPromise, connected, pending, Slot.abandon, Settlement.slot]

theorem Settlement.isReady_slot (how : Settlement ρ) : how.slot.isReady = true := by
  cases how <;> rfl

theorem Recorded.Sound.leaves {r next : Recorded ρ} {owed : List (Unit × Notice)} (sound : r.Sound)
    (leaves : Leaves r next owed) : next.Sound := by
  cases leaves with
  | late spent => exact sound
  | used how connected =>
      cases sound with
      | fresh pending _ unused nothing =>
          obtain ⟨slot, spent⟩ := how.apply_fresh pending connected
          refine .settled how (by rw [unused, List.nil_append]) spent ?_ fun n => ?_
          · rw [slot]
            exact how.isReady_slot
          · rw [slot, nothing, List.nil_append, List.length_nil, Nat.zero_add]
      | settled _ _ spent => cases connected.symm.trans spent
  | given outcome found =>
      cases sound with
      | fresh pending =>
          rw [pending] at found
          cases found
      | settled how once spent ready kept =>
          refine .settled how once spent (r.pair.slot.isReady_read.trans ready) fun n => ?_
          have now := kept (n + 1)
          rw [outcomes_read found] at now
          rw [List.append_assoc, List.singleton_append, now, List.length_append,
            List.length_singleton, Nat.add_assoc, Nat.add_comm 1 n]
  | nothing pending =>
      cases sound with
      | fresh pending connected unused nothing => exact .fresh pending connected unused nothing
      | settled how once spent ready kept => exact .settled how once spent ready kept

theorem Recorded.Sound.uses_length_le {r : Recorded ρ} (sound : r.Sound) : r.uses.length ≤ 1 := by
  cases sound with
  | fresh _ _ unused => simp [unused]
  | settled how once => simp [once]

theorem sound_of_reachable {count : Nat} {s : Monitor.Scene (Recorded ρ) Unit (Request ρ)}
    (reached : monitor.Reachable {} count s) : s.shared.Sound :=
  reached.steps.shared (P := Recorded.Sound) (fun turn sound => sound.leaves (turn_leaves turn))
    (.fresh rfl rfl rfl rfl)

end WorkerPool.OneShot
