import WorkerPool.Scenario.Perform.Basic

namespace WorkerPool.Scenario

open Value (ok)

def checked : Except SettingsError Unit → Value
  | .ok () => ok
  | .error e => (Failure.settings e).answer

namespace SettingsOp

def workers : WorkerCount → Value
  | .fixed n => .nat n
  | count => .str count.text

def answer : SettingsOp → Value
  | .checkPool c pretty => .object [
      ("workers", workers c.workers),
      ("batch_size", .nat c.batchSize),
      ("dequeue_timeout", .str c.fetchTimeout.text),
      ("capacity", .limit c.capacity),
      ("policy", .str c.stopPolicy.name),
      ("thread_name", .str c.threadName),
      ("validate", checked c.validate),
      ("debug", .shape pretty c.shape)]
  | .checkLoop c pretty => .object [
      ("workers", workers c.workers),
      ("capacity", .nat c.capacity),
      ("thread_name", .str c.threadName),
      ("validate", checked c.validate),
      ("debug", .shape pretty c.shape)]
  | .constants =>
    let pool : PoolSettings := { workers := .automatic 0 }
    let eventLoop : LoopSettings := { workers := .automatic 0 }
    .object [
      ("light", .nat BatchSize.light),
      ("sparse", .nat BatchSize.sparse),
      ("balanced", .nat BatchSize.balanced),
      ("heavy", .nat BatchSize.heavy),
      ("heavier", .nat BatchSize.heavier),
      ("dequeue_timeout", .str pool.fetchTimeout.text),
      ("loop_capacity", .nat eventLoop.capacity),
      ("policy", .str pool.stopPolicy.name)]
  | .showError failure => failure.answer

end SettingsOp

end WorkerPool.Scenario
