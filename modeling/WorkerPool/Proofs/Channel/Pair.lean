import WorkerPool.Channel

namespace WorkerPool.OneShot

variable {ρ : Type}

/-- The side that writes, before, during and after the one call that uses up the promise. -/
inductive Writer where
  | idle
  | busy
  | gone
  deriving DecidableEq, Repr

inductive Wait where
  | final
  | timed
  | untimed
  deriving DecidableEq, Repr

inductive Reader where
  | free
  | asleep (wait : Wait)
  | gone
  deriving DecidableEq, Repr

def Wait.after : Wait → Reader
  | .final => .gone
  | _ => .free

structure Pair (ρ : Type) where
  slot : Slot ρ := .pending
  connected : Bool := true
  writer : Writer := .idle
  reader : Reader := .free

/-- What a promise comes to. -/
inductive Settlement (ρ : Type) where
  | kept (outcome : Except TaskFailure ρ)
  | broken

inductive Act (ρ : Type) where
  | fulfill (value : ρ)
  | fail (failure : TaskFailure)
  | begin
  | complete (ending : Ending ρ)
  | drop
  | isReady
  | tryTake
  | waitTimeout (bounded : Bool)
  | wait
  -- A reader that sleeps is woken, for a reason or for none, and looks again.
  | wake
  | timeout

inductive Answer (ρ : Type) where
  | begun
  | returned
  | raised (thrown : Thrown)
  | ready (now : Bool)
  | read (outcome : Option (Except TaskFailure ρ))
  -- The read blocks.
  | asleep

def Act.settles? : Act ρ → Option (Settlement ρ)
  | fulfill value => some (.kept (.ok value))
  | fail failure => some (.kept (.error failure))
  | complete ending => some (.kept ending.complete.1)
  | drop => some .broken
  | _ => none

def Act.close : Act ρ → Answer ρ
  | complete ending =>
    match ending.complete.2 with
    | none => .returned
    | some thrown => .raised thrown
  | _ => .returned

def Act.reads : Act ρ → Bool
  | tryTake | waitTimeout _ | wait | wake | timeout => true
  | _ => false

namespace Pair

def settle (p : Pair ρ) (outcome : Except TaskFailure ρ) : Pair ρ :=
  if p.connected then { p with slot := p.slot.settle outcome, connected := false } else p

def dropPromise (p : Pair ρ) : Pair ρ :=
  if p.connected then { p with slot := p.slot.abandon, connected := false } else p

/-- A call that uses up the promise drops it at its end, settled or not. -/
def spend (p : Pair ρ) (before : Writer) (how : Settlement ρ) (close : Answer ρ) :
    Option (Answer ρ × Pair ρ) :=
  if p.writer = before then
    let settled := match how with
      | .kept outcome => p.settle outcome
      | .broken => p
    some (close, { settled.dropPromise with writer := .gone })
  else none

/-- A reader with the lock: it takes what there is, or sleeps if it may, or leaves without. -/
def look (p : Pair ρ) (after : Reader) (sleep : Option Wait) : Answer ρ × Pair ρ :=
  let (outcome, slot) := p.slot.read
  match outcome, sleep with
  | none, some wait => (.asleep, { p with slot, reader := .asleep wait })
  | outcome, _ => (.read outcome, { p with slot, reader := after })

def perform (p : Pair ρ) : Act ρ → Option (Answer ρ × Pair ρ)
  | .fulfill value => p.spend .idle (.kept (.ok value)) .returned
  | .fail failure => p.spend .idle (.kept (.error failure)) .returned
  | .begin => if p.writer = .idle then some (.begun, { p with writer := .busy }) else none
  | .complete ending => p.spend .busy (.kept ending.complete.1) (Act.complete ending).close
  | .drop => p.spend .idle .broken .returned
  | .isReady => if p.reader = .free then some (.ready p.slot.isReady, p) else none
  | .tryTake => if p.reader = .free then some (p.look .free none) else none
  | .waitTimeout bounded =>
    if p.reader = .free then some (p.look .free (some (if bounded then .timed else .untimed)))
    else none
  | .wait => if p.reader = .free then some (p.look .gone (some .final)) else none
  | .wake =>
    match p.reader with
    | .asleep wait => some (p.look wait.after (some wait))
    | _ => none
  | .timeout => if p.reader = .asleep .timed then some (p.look .free none) else none

end Pair

structure Exchange (ρ : Type) where
  act : Act ρ
  answer : Answer ρ

inductive Run : Pair ρ → List (Exchange ρ) → Pair ρ → Prop
  | nil (p : Pair ρ) : Run p [] p
  | cons {p q r : Pair ρ} {act : Act ρ} {answer : Answer ρ} {rest : List (Exchange ρ)}
      (first : p.perform act = some (answer, q)) (tail : Run q rest r) :
      Run p (⟨act, answer⟩ :: rest) r

end WorkerPool.OneShot
