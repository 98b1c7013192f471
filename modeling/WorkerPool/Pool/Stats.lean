
namespace WorkerPool

structure Stats where
  scheduled : Nat := 0
  rejected : Nat := 0
  executed : Nat := 0
  panicked : Nat := 0
  abandoned : Nat := 0
  deriving DecidableEq, Repr, Inhabited

namespace Stats

def schedule (s : Stats) (count : Nat) : Stats := { s with scheduled := s.scheduled + count }

def reject (s : Stats) (count : Nat) : Stats := { s with rejected := s.rejected + count }

def execute (s : Stats) : Stats := { s with executed := s.executed + 1 }

def panic (s : Stats) : Stats := { s with panicked := s.panicked + 1 }

def abandon (s : Stats) (count : Nat) : Stats := { s with abandoned := s.abandoned + count }

end Stats

end WorkerPool
