import WorkerPool.Duration
import WorkerPool.Report
import WorkerPool.Text.Quoted
import WorkerPool.Text.Shape

namespace WorkerPool

open Text

inductive StopPolicy where
  | drain
  | abandon
  deriving DecidableEq, Repr, Inhabited

def StopPolicy.name : StopPolicy → String
  | .drain => "Drain"
  | .abandon => "Abandon"

/-- A number of workers, or one left to a machine with so many processors. -/
inductive WorkerCount where
  | automatic (processors : Nat)
  | fixed (count : Nat)
  deriving DecidableEq, Repr, Inhabited

namespace WorkerCount

def count : WorkerCount → Nat
  | .automatic processors => processors + 1
  | .fixed n => n

def requested (processors n : Nat) : WorkerCount :=
  if n = 0 then .automatic processors else .fixed n

def text : WorkerCount → String
  | .automatic _ => "default"
  | .fixed n => toString n

end WorkerCount

def workerName (threadName : String) (worker : Nat) : String := threadName ++ "-" ++ toString worker

inductive SettingsError where
  | zeroWorkers
  | zeroBatchSize
  | zeroCapacity
  | zeroTimeout
  deriving DecidableEq, Repr

namespace SettingsError

def name : SettingsError → String
  | .zeroWorkers => "ZeroWorkers"
  | .zeroBatchSize => "ZeroBatchSize"
  | .zeroCapacity => "ZeroCapacity"
  | .zeroTimeout => "ZeroTimeout"

def message : SettingsError → String
  | .zeroWorkers => "Worker count must be greater than zero"
  | .zeroBatchSize => "Batch size must be greater than zero"
  | .zeroCapacity => "Queue capacity must be greater than zero"
  | .zeroTimeout => "Dequeue timeout must be greater than zero"

def report (e : SettingsError) : Report := ⟨e.name, e.message, none⟩

def poolReport (e : SettingsError) : Report where
  name := "Config(" ++ e.name ++ ")"
  message := "Invalid pool configuration: " ++ e.message
  source := some e.message

def loopReport (e : SettingsError) : Report where
  name := "Config(" ++ e.name ++ ")"
  message := "Invalid event loop configuration: " ++ e.message
  source := some e.message

end SettingsError

namespace BatchSize

def light : Nat := 10
def sparse : Nat := 100
def balanced : Nat := 250
def heavy : Nat := 500
def heavier : Nat := 2000

end BatchSize

structure PoolSettings where
  workers : WorkerCount
  batchSize : Nat := BatchSize.heavy
  fetchTimeout : Duration := .ofMillis 1000
  capacity : Option Nat := none
  stopPolicy : StopPolicy := .drain
  threadName : String := "taskpool-worker"
  deriving DecidableEq, Repr, Inhabited

namespace PoolSettings

/-- The first setting that no pool can have, in the order the settings are listed here. -/
def validate (c : PoolSettings) : Except SettingsError Unit :=
  if c.workers.count = 0 then .error .zeroWorkers
  else if c.batchSize = 0 then .error .zeroBatchSize
  else if c.capacity = some 0 then .error .zeroCapacity
  else if c.fetchTimeout = .zero then .error .zeroTimeout
  else .ok ()

def shape (c : PoolSettings) : Shape :=
  .record "PoolConfig" [
    ("workers", .atom c.workers.text),
    ("batch_size", .nat c.batchSize),
    ("dequeue_timeout", .atom c.fetchTimeout.text),
    ("capacity", .option (c.capacity.map .nat)),
    ("shutdown_policy", .atom c.stopPolicy.name),
    ("thread_name", .atom (quoted c.threadName))] false

end PoolSettings

structure LoopSettings where
  workers : WorkerCount
  capacity : Nat := 100
  threadName : String := "taskpool-event-loop"
  deriving DecidableEq, Repr, Inhabited

namespace LoopSettings

def validate (c : LoopSettings) : Except SettingsError Unit :=
  if c.workers.count = 0 then .error .zeroWorkers
  else if c.capacity = 0 then .error .zeroCapacity
  else .ok ()

def shape (c : LoopSettings) : Shape :=
  .record "EventLoopConfig" [
    ("workers", .atom c.workers.text),
    ("capacity", .nat c.capacity),
    ("thread_name", .atom (quoted c.threadName))] false

end LoopSettings

end WorkerPool
