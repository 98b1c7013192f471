import WorkerPool.Executor
import WorkerPool.Scenario.Op.Basic

namespace WorkerPool.Scenario

inductive Role where
  | main
  | poolWorker (pool worker : Nat)
  | loopWorker (loop worker : Nat)
  | helper
  deriving DecidableEq, Repr

namespace Role

def isWorker : Role → Bool
  | .poolWorker .. | .loopWorker .. => true
  | _ => false

def worksFor : Role → Nat → Bool
  | .poolWorker pool _, p => pool == p
  | _, _ => false

def consumesFor : Role → Nat → Bool
  | .loopWorker loop _, l => loop == l
  | _, _ => false

end Role

/-- What a thread waits for. -/
inductive Wait where
  | items (queue : Nat) (token : Option Nat) (max : Nat) (out : List Value)
  | outcome (channel : Nat) (last : Bool)
  | barrier (place : Nat) (timed : Bool)
  | room (collection : Nat) (item : Value)
  | item (collection : Nat)
  | loopRoom (loop : Nat) (item : Value)
  | poolExit (pool : Nat)
  | loopExit (loop : Nat)
  | gate (name : String)
  | helpers (threads : List Nat)
  | nap
  | pause
  | rest

/-- What a running thread does next. -/
inductive Control where
  | proceed
  | perform (op : Op)
  | reply (answer : Value)
  | ended (outcome : Outcome Value)

/-- What a thread goes back to, the innermost frame first. -/
inductive Frame where
  | script (rest answers : List Value)
  | body (rest : List Value) (name : String) (result : Value)
  | iterate (round count : Nat) (counter : String) (ops pending : List Value) (last : Value)
  | gather (threads : List Nat) (quiet : Bool)
  | settling (threads : List Nat) (during : List Value) (gap : Duration) (sorted : Bool)
  | rendezvous (threads : List Nat) (early : Option Nat) (during answers : List Value)
      (gap : Duration) (sorted : Bool)
  | completion (channel : Nat)
  | guarded
  | draining (executor : Nat) (drain : Executor.Drain)
  | poolTask (pool worker : Nat)
  | loopItem (loop worker : Nat)
  | closing (answers : Option (List Value))

namespace Frame

def isScript : Frame → Bool
  | .script .. | .iterate .. | .closing .. => true
  | _ => false

def isBody : Frame → Bool
  | .body .. => true
  | _ => false

end Frame

inductive Status where
  | running (control : Control)
  | waiting (wait : Wait) (deadline : Option Nat)
  | working
  | finished (answers : List Value)

structure Thread where
  role : Role
  name : String
  status : Status
  stack : List Frame := []

namespace Thread

def isFinished (t : Thread) : Bool :=
  match t.status with
  | .finished _ => true
  | _ => false

def answers (t : Thread) : List Value :=
  match t.status with
  | .finished answers => answers
  | _ => []

def gate? (t : Thread) : Option String :=
  match t.status with
  | .waiting (.gate name) _ => some name
  | _ => none

def deadline? (t : Thread) : Option Nat :=
  match t.status with
  | .waiting _ deadline => deadline
  | _ => none

/-- The main script itself: operations that would block for ever are not begun there, and the
world comes to rest after each. -/
def isMainScript (t : Thread) : Bool := t.role == .main && t.stack.all Frame.isScript

def inBody (t : Thread) : Bool := t.stack.any Frame.isBody

end Thread

end WorkerPool.Scenario
