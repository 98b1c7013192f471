import WorkerPool.Settings

namespace WorkerPool

inductive Obstacle where
  | tableTooLarge
  | nullInName (position : Nat) (name : List UInt8)
  deriving DecidableEq, Repr

namespace Obstacle

def message : Obstacle → String
  | .tableTooLarge => "capacity overflow"
  | .nullInName position name =>
    "thread name may not contain interior null bytes: NulError(" ++ toString position ++ ", ["
      ++ ", ".intercalate (name.map fun byte => toString byte.toNat) ++ "])"

/-- A table has at most as many bytes as a number of 64 bits with a sign can count. -/
def ofTable (entries bytesEach : Nat) : Option Obstacle :=
  if entries * bytesEach < Nat.pow 2 63 then none else some .tableTooLarge

def ofName (name : String) : Option Obstacle :=
  let bytes := name.toUTF8.toList
  (bytes.idxOf? 0).map (.nullInName · bytes)

def taskBytes : Nat := 16

def poolWorkerBytes : Nat := 32

def loopWorkerBytes : Nat := 24

end Obstacle

def PoolSettings.obstacle? (c : PoolSettings) : Option Obstacle :=
  (Obstacle.ofTable c.workers.count Obstacle.poolWorkerBytes).or
    (Obstacle.ofName (workerName c.threadName 0))

/-- What every worker meets that makes room for a batch, before it fetches anything. -/
def PoolSettings.batchObstacle? (c : PoolSettings) : Option Obstacle :=
  Obstacle.ofTable c.batchSize Obstacle.taskBytes

def PoolSettings.roomy (c : PoolSettings) : Bool := c.batchObstacle?.isNone

def LoopSettings.obstacle? (c : LoopSettings) (itemBytes : Nat) : Option Obstacle :=
  (Obstacle.ofTable c.capacity itemBytes).or
    ((Obstacle.ofTable c.workers.count Obstacle.loopWorkerBytes).or
      (Obstacle.ofName (workerName c.threadName 0)))

end WorkerPool
