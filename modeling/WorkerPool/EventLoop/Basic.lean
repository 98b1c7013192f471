import WorkerPool.Collection
import WorkerPool.Event
import WorkerPool.Task

namespace WorkerPool

open Text

structure LoopWorker (α : Type) where
  id : Nat
  consumed : Nat := 0
  current : Option α := none
  exited : Bool := false
  deriving Repr

structure EventLoop (α : Type) where
  settings : LoopSettings
  collection : Collection α
  workers : List (LoopWorker α) := []
  events : List Event := []
  deriving Repr

namespace EventLoop

variable {α : Type}

def start (settings : LoopSettings) : EventLoop α where
  settings
  collection := { capacity := settings.capacity }
  workers := (List.range settings.workers.count).map ({ id := · })
  events := [.loopStarted settings.workers settings.capacity]

def emit (l : EventLoop α) (e : Event) : EventLoop α := { l with events := l.events ++ [e] }

def worker? (l : EventLoop α) (i : Nat) : Option (LoopWorker α) := l.workers[i]?

def modifyWorker (l : EventLoop α) (i : Nat) (f : LoopWorker α → LoopWorker α) : EventLoop α :=
  { l with workers := l.workers.modify i f }

def push (l : EventLoop α) (item : α) :
    Option (Except (Collection.Refused α) (EventLoop α)) :=
  (l.collection.add item).map fun result =>
    result.map fun collection => { l with collection }

def tryPush (l : EventLoop α) (item : α) : Except (Collection.Refused α) (EventLoop α) :=
  (l.collection.tryAdd item).map fun collection => { l with collection }

def stop (l : EventLoop α) : EventLoop α := { l with collection := l.collection.complete.2 }

def selfJoin (l : EventLoop α) : EventLoop α := l.emit .loopSelfJoin

/-- A worker's take: an item for the consumer, or the end of the worker; nothing while it waits. -/
def take (l : EventLoop α) (i : Nat) : Option (EventLoop α) :=
  match l.collection.take, l.worker? i with
  | some (some item, collection), _ =>
    some ({ l with collection }.modifyWorker i fun w => { w with current := some item })
  | some (none, _), some w =>
    some ((l.modifyWorker i fun w => { w with exited := true }).emit
      (.loopWorkerStopped i w.consumed))
  | _, _ => none

def finish {ρ : Type} (l : EventLoop α) (i : Nat) (outcome : Outcome ρ) : EventLoop α :=
  let l := l.modifyWorker i fun w => { w with current := none, consumed := w.consumed + 1 }
  match outcome with
  | .returned _ => l
  | .panicked payload => l.emit (.consumerPanicked i payload.message)

def allExited (l : EventLoop α) : Bool := l.workers.all (·.exited)

def shape (l : EventLoop α) : Shape :=
  .record "EventLoop" [
    ("workers", .atom l.settings.workers.text), ("collection", l.collection.shape)] false

end EventLoop

end WorkerPool
