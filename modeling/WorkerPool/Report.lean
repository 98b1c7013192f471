
namespace WorkerPool

structure Report where
  name : String
  message : String
  source : Option String := none
  deriving DecidableEq, Repr

end WorkerPool
