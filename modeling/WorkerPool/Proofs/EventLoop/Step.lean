import Mathlib.Logic.Function.Basic
import WorkerPool.EventLoop.Basic

namespace WorkerPool.EventLoop.Interleaving

/-- Items are numbered as they are offered, so two items that are equal are told apart. -/
structure Item (α : Type) where
  number : Nat
  body : α
  deriving DecidableEq, Repr

inductive Caller where
  | outside
  | consumer (worker : Nat)
  deriving DecidableEq, Repr

structure Blocked (α : Type) where
  caller : Caller
  item : Item α
  deriving DecidableEq, Repr

structure Refusal (α : Type) where
  item : Item α
  answer : Collection.Refused (Item α)
  deriving DecidableEq, Repr

variable {α ρ : Type}

/-- What has happened so far. Nothing in the loop depends on it, apart from the numbers of new
items. -/
structure History (α ρ : Type) where
  offered : Nat := 0
  accepted : List (Item α) := []
  refused : List (Refusal α) := []
  -- Which worker took which item, in the order of the takes.
  taken : List (Nat × Item α) := []
  passed : List (Nat × Item α) := []
  -- The calls of the consumer that are over, in the order of their ends.
  finished : List ((Nat × Item α) × Outcome ρ) := []
  -- Joins from outside that have returned.
  returned : Nat := 0

structure State (α ρ : Type) extends History α ρ where
  loop : EventLoop (Item α)
  consuming : Nat → Bool := fun _ => false
  blocked : List (Blocked α) := []

namespace State

def start (settings : LoopSettings) : State α ρ where
  loop := EventLoop.start settings

/-- A caller makes one call at a time, and a consumer only while it is at work. There are as many
threads outside as it takes. -/
def CanCall (s : State α ρ) : Caller → Prop
  | .outside => True
  | .consumer i => s.consuming i = true ∧ ∀ push ∈ s.blocked, push.caller ≠ .consumer i

def answer (s : State α ρ) (item : Item α) :
    Except (Collection.Refused (Item α)) (EventLoop (Item α)) → State α ρ
  | .ok loop => { s with loop, accepted := s.accepted ++ [item] }
  | .error refused => { s with refused := s.refused ++ [⟨item, refused⟩] }

def push (s : State α ρ) (caller : Caller) (body : α) : State α ρ :=
  let item := Item.mk s.offered body
  let s := { s with offered := s.offered + 1 }
  match s.loop.push item with
  | some result => s.answer item result
  | none => { s with blocked := s.blocked ++ [⟨caller, item⟩] }

def wake (s : State α ρ) (k : Nat) (push : Blocked α) : State α ρ :=
  match s.loop.push push.item with
  | some result => { s with blocked := s.blocked.eraseIdx k }.answer push.item result
  | none => s

def tryPush (s : State α ρ) (body : α) : State α ρ :=
  let item := Item.mk s.offered body
  { s with offered := s.offered + 1 }.answer item (s.loop.tryPush item)

def stop (s : State α ρ) : State α ρ := { s with loop := s.loop.stop }

def selfJoin (s : State α ρ) : State α ρ := { s with loop := s.loop.selfJoin }

def take (s : State α ρ) (i : Nat) (item : Item α) (loop : EventLoop (Item α)) : State α ρ :=
  { s with loop, taken := s.taken ++ [(i, item)] }

def pass (s : State α ρ) (i : Nat) (item : Item α) : State α ρ :=
  { s with
    consuming := Function.update s.consuming i true
    passed := s.passed ++ [(i, item)] }

def finish (s : State α ρ) (i : Nat) (item : Item α) (outcome : Outcome ρ) : State α ρ :=
  { s with
    loop := s.loop.finish i outcome
    consuming := Function.update s.consuming i false
    finished := s.finished ++ [((i, item), outcome)] }

end State

inductive Action (α ρ : Type) where
  | push (caller : Caller) (body : α)
  | wake (k : Nat)
  | tryPush (caller : Caller) (body : α)
  | stop (caller : Caller)
  | selfJoin (worker : Nat)
  | join
  | take (worker : Nat)
  | pass (worker : Nat)
  | finish (worker : Nat) (outcome : Outcome ρ)
  deriving Repr

/-- A take is a step once it no longer has to wait; it gives the worker an item or ends it. -/
inductive Step : State α ρ → Action α ρ → State α ρ → Prop
  | push (s : State α ρ) (caller : Caller) (body : α) (free : s.CanCall caller) :
      Step s (.push caller body) (s.push caller body)
  | wake (s : State α ρ) (k : Nat) (push : Blocked α) (asleep : s.blocked[k]? = some push) :
      Step s (.wake k) (s.wake k push)
  | tryPush (s : State α ρ) (caller : Caller) (body : α) (free : s.CanCall caller) :
      Step s (.tryPush caller body) (s.tryPush body)
  | stop (s : State α ρ) (caller : Caller) (free : s.CanCall caller) : Step s (.stop caller) s.stop
  | selfJoin (s : State α ρ) (i : Nat) (free : s.CanCall (.consumer i)) :
      Step s (.selfJoin i) s.selfJoin
  | join (s : State α ρ) (exited : s.loop.allExited = true) :
      Step s .join { s with returned := s.returned + 1 }
  | take (s : State α ρ) (i : Nat) (w : LoopWorker (Item α)) (item : Item α)
      (loop : EventLoop (Item α)) (here : s.loop.worker? i = some w) (free : w.current = none)
      (running : w.exited = false) (result : s.loop.take i = some loop)
      (given : (loop.worker? i).bind LoopWorker.current = some item) :
      Step s (.take i) (s.take i item loop)
  | exit (s : State α ρ) (i : Nat) (w : LoopWorker (Item α)) (loop : EventLoop (Item α))
      (here : s.loop.worker? i = some w) (free : w.current = none) (running : w.exited = false)
      (result : s.loop.take i = some loop)
      (given : (loop.worker? i).bind LoopWorker.current = none) :
      Step s (.take i) { s with loop }
  | pass (s : State α ρ) (i : Nat) (w : LoopWorker (Item α)) (item : Item α)
      (here : s.loop.worker? i = some w) (current : w.current = some item)
      (held : s.consuming i = false) :
      Step s (.pass i) (s.pass i item)
  | finish (s : State α ρ) (i : Nat) (w : LoopWorker (Item α)) (item : Item α)
      (outcome : Outcome ρ) (here : s.loop.worker? i = some w) (current : w.current = some item)
      (free : s.CanCall (.consumer i)) :
      Step s (.finish i outcome) (s.finish i item outcome)

inductive Run : State α ρ → List (Action α ρ) → State α ρ → Prop
  | nil (s : State α ρ) : Run s [] s
  | cons {s u t : State α ρ} {a : Action α ρ} {rest : List (Action α ρ)} (first : Step s a u)
      (tail : Run u rest t) : Run s (a :: rest) t

def Reachable (settings : LoopSettings) (s : State α ρ) : Prop :=
  ∃ actions, Run (State.start settings) actions s

theorem Run.append {s u t : State α ρ} {front back : List (Action α ρ)} (first : Run s front u)
    (second : Run u back t) : Run s (front ++ back) t := by
  induction first with
  | nil => exact second
  | cons step _ ih => exact .cons step (ih second)

theorem Run.preserves {P : State α ρ → Prop} {s t : State α ρ} {actions : List (Action α ρ)}
    (run : Run s actions t) (keep : ∀ {s a t}, Step s a t → P s → P t) (holds : P s) : P t := by
  induction run with
  | nil => exact holds
  | cons step _ ih => exact ih (keep step holds)

variable {settings : LoopSettings}

theorem Reachable.run {s t : State α ρ} {actions : List (Action α ρ)}
    (reached : Reachable settings s) (run : Run s actions t) : Reachable settings t := by
  obtain ⟨before, past⟩ := reached
  exact ⟨before ++ actions, past.append run⟩

theorem Reachable.invariant {P : State α ρ → Prop} {s : State α ρ} (reached : Reachable settings s)
    (initial : P (State.start settings)) (keep : ∀ {s a t}, Step s a t → P s → P t) : P s := by
  obtain ⟨_, run⟩ := reached
  exact run.preserves keep initial

end WorkerPool.EventLoop.Interleaving
