import WorkerPool.Text.Shape

namespace WorkerPool

open Text

structure Signal where
  raised : Bool := false
  deriving DecidableEq, Repr

namespace Signal

def trigger (s : Signal) : Bool × Signal := (!s.raised, ⟨true⟩)

def shape (s : Signal) : Shape := .record "ShutdownSignal" [("flag", .bool s.raised)] false

end Signal

end WorkerPool
