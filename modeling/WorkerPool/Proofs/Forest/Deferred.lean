import WorkerPool.Proofs.Executor.Reentrance
import WorkerPool.Proofs.Forest.Sprout

namespace WorkerPool.Pool.Interleaving.Forest

variable {ε ρ : Type}

mutual

def Script.deferred : Script ε ρ → Executor.Script ε
  | .ret _ => .ret
  | .panic payload => .panic payload
  | .log entry next => .log entry next.deferred
  | .submit call next => deferCall call next.deferred

def deferCall : Submission (Script ε ρ) → Executor.Script ε → Executor.Script ε
  | .schedule child, next | .forget child, next => .defer child.deferred next
  | .bulk batch, next => deferBatch batch next

def deferBatch : List (Script ε ρ) → Executor.Script ε → Executor.Script ε
  | [], next => next
  | child :: rest, next => .defer child.deferred (deferBatch rest next)

end

def Sprout.deferred (sprout : Sprout ε ρ) : Executor.Script ε := sprout.script.deferred

mutual

theorem deferred_flat : (script : Script ε ρ) → script.deferred.Flat
  | .ret _ | .panic _ => trivial
  | .log _ next => deferred_flat next
  | .submit call next => deferCall_flat call (deferred_flat next)

theorem deferCall_flat {next : Executor.Script ε} :
    (call : Submission (Script ε ρ)) → next.Flat → (deferCall call next).Flat
  | .schedule child, flat | .forget child, flat => ⟨deferred_flat child, flat⟩
  | .bulk batch, flat => deferBatch_flat batch flat

theorem deferBatch_flat {next : Executor.Script ε} :
    (batch : List (Script ε ρ)) → next.Flat → (deferBatch batch next).Flat
  | [], flat => flat
  | child :: rest, flat => ⟨deferred_flat child, deferBatch_flat rest flat⟩

end

end WorkerPool.Pool.Interleaving.Forest
