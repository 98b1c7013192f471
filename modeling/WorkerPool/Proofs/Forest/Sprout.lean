import WorkerPool.Proofs.Forest.Step
import WorkerPool.Proofs.LevelOrder

namespace WorkerPool.Pool.Interleaving.Forest

variable {ε ρ : Type}

/-- A task whose body has come as far as the script and has submitted so many tasks. -/
structure Sprout (ε ρ : Type) where
  place : List Nat
  answered : Bool
  submitted : Nat
  script : Script ε ρ

def callSprouts (place : List Nat) (k : Nat) : Submission (Script ε ρ) → List (Sprout ε ρ)
  | .schedule child => [⟨place ++ [k], true, 0, child⟩]
  | .forget child => [⟨place ++ [k], false, 0, child⟩]
  | .bulk batch => (batch.zipIdx k).map fun (child, k) => ⟨place ++ [k], false, 0, child⟩

namespace Script

def children (place : List Nat) : Nat → Script ε ρ → List (Sprout ε ρ)
  | _, ret _ | _, panic _ => []
  | k, log _ next => next.children place k
  | k, submit call next => callSprouts place k call ++ next.children place (k + call.size)

def entries : Script ε ρ → List ε
  | ret _ | panic _ => []
  | log entry next => entry :: next.entries
  | submit _ next => next.entries

def outcome : Script ε ρ → Outcome ρ
  | ret value => .returned value
  | panic payload => .panicked payload
  | log _ next | submit _ next => next.outcome

def acts : Script ε ρ → Nat
  | ret _ | panic _ => 0
  | log _ next | submit _ next => next.acts + 1

end Script

namespace Sprout

def children (sprout : Sprout ε ρ) : List (Sprout ε ρ) :=
  sprout.script.children sprout.place sprout.submitted

def entries (sprout : Sprout ε ρ) : List ε := sprout.script.entries

def node (sprout : Sprout ε ρ) : Node ρ := ⟨sprout.place, sprout.answered, sprout.script.outcome⟩

def ofTask (task : Task (Located ε ρ)) : Sprout ε ρ :=
  ⟨task.body.body.place, task.channel.isSome, 0, task.body.body.script⟩

end Sprout

theorem ofTask_tasks (place : List Nat) (k : Nat) (call : Submission (Script ε ρ))
    (first channel : Nat) :
    ((locate place k call).tasks first channel).map Sprout.ofTask = callSprouts place k call := by
  cases call with
  | schedule child | forget child => rfl
  | bulk batch =>
      induction batch generalizing k first with
      | nil => rfl
      | cons child rest ih =>
          have tail := ih (k + 1) (first + 1)
          simp only [locate, Submission.tasks, bulkTasks, callSprouts] at tail
          simp only [locate, Submission.tasks, bulkTasks, callSprouts, List.zipIdx_cons,
            List.map_cons, tail, Sprout.ofTask, Option.isSome_none]

def Sprout.size (sprout : Sprout ε ρ) : Nat :=
  (sprout.script.yield sprout.place sprout.answered sprout.submitted).2.card

theorem size_ofTask (tasks : List (Task (Located ε ρ))) :
    ((tasks.map Sprout.ofTask).map Sprout.size).sum = (tasks.map taskYield).sum.2.card := by
  induction tasks with
  | nil => rfl
  | cons task rest ih =>
      simp only [List.map_cons, List.sum_cons, Prod.snd_add, Multiset.card_add, ih]
      rfl

theorem size_callSprouts (place : List Nat) (k : Nat) (call : Submission (Script ε ρ)) :
    ((callSprouts place k call).map Sprout.size).sum = (callYield place k call).2.card := by
  rw [← tasks_yield place k call 0 0, ← ofTask_tasks place k call 0 0, size_ofTask]

theorem card_yield (place : List Nat) (answered : Bool) :
    (k : Nat) → (script : Script ε ρ) → (script.yield place answered k).2.card =
      ((script.children place k).map Sprout.size).sum + 1
  | _, .ret _ | _, .panic _ => rfl
  | k, .log entry next => by
      rw [Script.yield, Prod.snd_add, Multiset.card_add, card_yield place answered k next]
      exact Nat.zero_add _
  | k, .submit call next => by
      rw [Script.yield, Prod.snd_add, Multiset.card_add,
        card_yield place answered (k + call.size) next, ← size_callSprouts, Script.children,
        List.map_append, List.sum_append, Nat.add_assoc]

def growth (ε ρ : Type) : Growth (Sprout ε ρ) where
  children := Sprout.children
  size := Sprout.size
  smaller sprout := by
    rw [Sprout.size, card_yield]
    exact Nat.lt_succ_self _

/-- What a worker has to do for a task besides its body: less than that is left of it once the body
is over. -/
def taskWork : Nat := 7

/-- What is over, what was logged, and the tasks that are not over in the order of the queue. -/
structure Progress (ε ρ : Type) where
  ran : List (Node ρ)
  log : List ε
  ahead : List (Sprout ε ρ)

/-- The head of the queue goes on, or nothing is changed; with the work that is done. -/
inductive Advance : Nat → Progress ε ρ → Progress ε ρ → Prop
  | stay (p : Progress ε ρ) : Advance 0 p p
  | log (ran : List (Node ρ)) (log : List ε) (rest : List (Sprout ε ρ)) (place : List Nat)
      (answered : Bool) (k : Nat) (entry : ε) (next : Script ε ρ) :
      Advance 1 ⟨ran, log, ⟨place, answered, k, .log entry next⟩ :: rest⟩
        ⟨ran, log ++ [entry], ⟨place, answered, k, next⟩ :: rest⟩
  | submit (ran : List (Node ρ)) (log : List ε) (rest : List (Sprout ε ρ)) (place : List Nat)
      (answered : Bool) (k : Nat) (call : Submission (Script ε ρ)) (next : Script ε ρ) :
      Advance 1 ⟨ran, log, ⟨place, answered, k, .submit call next⟩ :: rest⟩
        ⟨ran, log, ⟨place, answered, k + call.size, next⟩ :: (rest ++ callSprouts place k call)⟩
  | finish (ran : List (Node ρ)) (log : List ε) (rest : List (Sprout ε ρ)) (head : Sprout ε ρ)
      (outcome : Outcome ρ) (ends : head.script.outcome? = some outcome) :
      Advance taskWork ⟨ran, log, head :: rest⟩
        ⟨ran ++ [⟨head.place, head.answered, outcome⟩], log, rest⟩

namespace Progress

def nodes (p : Progress ε ρ) : List (Node ρ) :=
  p.ran ++ ((growth ε ρ).levelOrder p.ahead).map Sprout.node

def entries (p : Progress ε ρ) : List ε :=
  p.log ++ ((growth ε ρ).levelOrder p.ahead).flatMap Sprout.entries

def work (p : Progress ε ρ) : Nat :=
  (((growth ε ρ).levelOrder p.ahead).map fun sprout => sprout.script.acts + taskWork).sum

end Progress

theorem Script.at_end {script : Script ε ρ} {outcome : Outcome ρ}
    (ends : script.outcome? = some outcome) :
    script.outcome = outcome ∧ script.entries = [] ∧ script.acts = 0 ∧
      ∀ place k, script.children place k = [] := by
  cases script with
  | ret value | panic payload =>
      cases ends
      exact ⟨rfl, rfl, rfl, fun _ _ => rfl⟩
  | log | submit => cases ends

theorem levelOrder_at_end {head : Sprout ε ρ} {outcome : Outcome ρ}
    (ends : head.script.outcome? = some outcome) (rest : List (Sprout ε ρ)) :
    (growth ε ρ).levelOrder (head :: rest) = head :: (growth ε ρ).levelOrder rest := by
  have none : (growth ε ρ).children head = [] := (Script.at_end ends).2.2.2 _ _
  rw [Growth.levelOrder_cons, none, List.append_nil]

theorem levelOrder_log (place : List Nat) (answered : Bool) (k : Nat) (entry : ε)
    (next : Script ε ρ) (rest : List (Sprout ε ρ)) :
    (growth ε ρ).levelOrder (⟨place, answered, k, next⟩ :: rest) =
      ⟨place, answered, k, next⟩ :: (growth ε ρ).levelOrder
        (rest ++ (growth ε ρ).children ⟨place, answered, k, .log entry next⟩) :=
  Growth.levelOrder_cons _ _ _

theorem levelOrder_submit (place : List Nat) (answered : Bool) (k : Nat)
    (call : Submission (Script ε ρ)) (next : Script ε ρ) (rest : List (Sprout ε ρ)) :
    (growth ε ρ).levelOrder
        (⟨place, answered, k + call.size, next⟩ :: (rest ++ callSprouts place k call)) =
      ⟨place, answered, k + call.size, next⟩ :: (growth ε ρ).levelOrder
        (rest ++ (growth ε ρ).children ⟨place, answered, k, .submit call next⟩) := by
  rw [Growth.levelOrder_cons, List.append_assoc]
  rfl

theorem Advance.nodes {n : Nat} {p q : Progress ε ρ} (advance : Advance n p q) :
    q.nodes = p.nodes := by
  cases advance with
  | stay => rfl
  | log ran log rest place answered k entry next =>
      rw [Progress.nodes, Progress.nodes, levelOrder_log, Growth.levelOrder_cons]
      rfl
  | submit ran log rest place answered k call next =>
      rw [Progress.nodes, Progress.nodes, levelOrder_submit, Growth.levelOrder_cons]
      rfl
  | finish ran log rest head outcome ends =>
      rw [Progress.nodes, Progress.nodes, levelOrder_at_end ends, List.map_cons, Sprout.node,
        (Script.at_end ends).1, List.append_assoc]
      rfl

theorem Advance.entries {n : Nat} {p q : Progress ε ρ} (advance : Advance n p q) :
    q.entries = p.entries := by
  cases advance with
  | stay => rfl
  | log ran log rest place answered k entry next =>
      rw [Progress.entries, Progress.entries, levelOrder_log, Growth.levelOrder_cons,
        List.append_assoc]
      rfl
  | submit ran log rest place answered k call next =>
      rw [Progress.entries, Progress.entries, levelOrder_submit, Growth.levelOrder_cons]
      rfl
  | finish ran log rest head outcome ends =>
      rw [Progress.entries, Progress.entries, levelOrder_at_end ends, List.flatMap_cons,
        Sprout.entries, (Script.at_end ends).2.1]
      rfl

theorem Advance.work {n : Nat} {p q : Progress ε ρ} (advance : Advance n p q) :
    q.work + n = p.work := by
  cases advance with
  | stay => rfl
  | log ran log rest place answered k entry next =>
      have after := levelOrder_log place answered k entry next rest
      have before := (growth ε ρ).levelOrder_cons ⟨place, answered, k, .log entry next⟩ rest
      simp only [Progress.work, after, before, List.map_cons, List.sum_cons, Script.acts]
      omega
  | submit ran log rest place answered k call next =>
      have after := levelOrder_submit place answered k call next rest
      have before := (growth ε ρ).levelOrder_cons ⟨place, answered, k, .submit call next⟩ rest
      simp only [Progress.work, after, before, List.map_cons, List.sum_cons, Script.acts]
      omega
  | finish ran log rest head outcome ends =>
      simp only [Progress.work, levelOrder_at_end ends, List.map_cons, List.sum_cons,
        (Script.at_end ends).2.2.1]
      omega

end WorkerPool.Pool.Interleaving.Forest
