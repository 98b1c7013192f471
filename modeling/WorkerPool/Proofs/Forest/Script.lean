import Mathlib.Algebra.BigOperators.Group.Multiset.Basic
import Mathlib.Algebra.Group.Prod
import Mathlib.Algebra.Order.Group.Multiset
import Mathlib.Data.Multiset.UnionInter
import WorkerPool.Proofs.Pool.State

namespace WorkerPool.Pool.Interleaving

namespace Forest

/-- The body of a task. Its children are the tasks it submits before it returns or panics. -/
inductive Script (ε ρ : Type) where
  | ret (value : ρ)
  | panic (payload : Payload)
  | log (entry : ε) (next : Script ε ρ)
  | submit (call : Submission (Script ε ρ)) (next : Script ε ρ)

variable {ε ρ : Type}

/-- A task is told by its place: that of its parent, and which child it is. -/
structure Located (ε ρ : Type) where
  place : List Nat
  script : Script ε ρ

abbrev Roots (ε ρ : Type) := List (Submission (Script ε ρ))

def locate (place : List Nat) (first : Nat) :
    Submission (Script ε ρ) → Submission (Located ε ρ)
  | .schedule child => .schedule ⟨place ++ [first], child⟩
  | .forget child => .forget ⟨place ++ [first], child⟩
  | .bulk batch => .bulk ((batch.zipIdx first).map fun (child, k) => ⟨place ++ [k], child⟩)

def locateAll (first : Nat) : Roots ε ρ → List (Submission (Located ε ρ))
  | [] => []
  | call :: rest => locate [] first call :: locateAll (first + call.size) rest

structure Node (ρ : Type) where
  place : List Nat
  answered : Bool
  outcome : Outcome ρ
  deriving DecidableEq, Repr

def Node.silent (n : Node ρ) : Bool :=
  match n.answered, n.outcome with
  | false, .panicked _ => true
  | _, _ => false

/-- What running a part of a forest leaves behind, in whatever order it is run: what is logged, and
what its tasks come to. -/
abbrev Yield (ε ρ : Type) := Multiset ε × Multiset (Node ρ)

namespace Yield

def ofEntry (entry : ε) : Yield ε ρ := ({entry}, 0)

def ofNode (node : Node ρ) : Yield ε ρ := (0, {node})

end Yield

mutual

/-- What is still to come of a task, the tasks below it included, once its body has come as far as
the script and has submitted `k` tasks. -/
def Script.yield (place : List Nat) (answered : Bool) : Nat → Script ε ρ → Yield ε ρ
  | _, .ret value => .ofNode ⟨place, answered, .returned value⟩
  | _, .panic payload => .ofNode ⟨place, answered, .panicked payload⟩
  | k, .log entry next => .ofEntry entry + next.yield place answered k
  | k, .submit call next => callYield place k call + next.yield place answered (k + call.size)

def callYield (place : List Nat) (k : Nat) : Submission (Script ε ρ) → Yield ε ρ
  | .schedule child => child.yield (place ++ [k]) true 0
  | .forget child => child.yield (place ++ [k]) false 0
  | .bulk batch => batchYield place k batch

def batchYield (place : List Nat) : Nat → List (Script ε ρ) → Yield ε ρ
  | _, [] => 0
  | k, child :: rest => child.yield (place ++ [k]) false 0 + batchYield place (k + 1) rest

end

def rootsYield (k : Nat) : Roots ε ρ → Yield ε ρ
  | [] => 0
  | call :: rest => callYield [] k call + rootsYield (k + call.size) rest

def total (roots : Roots ε ρ) : Yield ε ρ := rootsYield 0 roots

def size (roots : Roots ε ρ) : Nat := (total roots).2.card

def taskYield (task : Task (Located ε ρ)) : Yield ε ρ :=
  task.body.body.script.yield task.body.body.place task.channel.isSome 0

theorem bulk_yield (place : List Nat) (batch : List (Script ε ρ)) (k first : Nat) :
    ((bulkTasks first ((batch.zipIdx k).map fun (child, k) =>
      Located.mk (place ++ [k]) child)).map taskYield).sum = batchYield place k batch := by
  induction batch generalizing k first with
  | nil => rfl
  | cons child rest ih =>
      have tail := ih (k + 1) (first + 1)
      simp only [bulkTasks] at tail
      simp only [bulkTasks, List.zipIdx_cons, List.map_cons, List.sum_cons, batchYield, tail,
        taskYield, Option.isSome_none]

theorem tasks_yield (place : List Nat) (k : Nat) (call : Submission (Script ε ρ))
    (first channel : Nat) :
    (((locate place k call).tasks first channel).map taskYield).sum = callYield place k call := by
  cases call with
  | schedule child | forget child => simp [locate, Submission.tasks, taskYield, callYield]
  | bulk batch => exact bulk_yield place batch k first

theorem child_unique {place below : List Nat} {i j : Nat} (first : place ++ [i] <+: below)
    (second : place ++ [j] <+: below) : i = j := by
  have both := List.prefix_of_prefix_length_le first second (by simp)
  have same := both.eq_of_length (by simp)
  simpa using same

/-- All of the nodes are at or under the children of `place` from `first` up to `last`, each at a
place of its own. -/
structure Spread (place : List Nat) (first last : Nat) (nodes : Multiset (Node ρ)) : Prop where
  below : ∀ node ∈ nodes, ∃ k, first ≤ k ∧ k < last ∧ place ++ [k] <+: node.place
  apart : (nodes.map Node.place).Nodup

theorem Spread.empty (place : List Nat) (k : Nat) : Spread place k k (0 : Multiset (Node ρ)) :=
  ⟨by simp, by simp⟩

theorem Spread.add {place : List Nat} {first middle last : Nat} {left right : Multiset (Node ρ)}
    (here : Spread place first middle left) (there : Spread place middle last right)
    (lower : first ≤ middle) (upper : middle ≤ last) : Spread place first last (left + right) := by
  constructor
  · intro node member
    rcases Multiset.mem_add.mp member with old | new
    · obtain ⟨k, low, high, under⟩ := here.below node old
      exact ⟨k, low, by omega, under⟩
    · obtain ⟨k, low, high, under⟩ := there.below node new
      exact ⟨k, by omega, high, under⟩
  · rw [Multiset.map_add, Multiset.nodup_add]
    refine ⟨here.apart, there.apart, Multiset.disjoint_left.mpr ?_⟩
    rintro below inLeft inRight
    obtain ⟨node, old, rfl⟩ := Multiset.mem_map.mp inLeft
    obtain ⟨other, new, same⟩ := Multiset.mem_map.mp inRight
    obtain ⟨i, _, high, first⟩ := here.below node old
    obtain ⟨j, low, _, second⟩ := there.below other new
    have := child_unique first (same ▸ second)
    omega

def Rooted (place : List Nat) (k : Nat) (nodes : Multiset (Node ρ)) : Prop :=
  ∃ own children last, nodes = {own} + children ∧ own.place = place ∧ k ≤ last ∧
    Spread place k last children

theorem Rooted.leaf (node : Node ρ) (k : Nat) : Rooted node.place k {node} :=
  ⟨node, 0, k, (add_zero _).symm, rfl, le_refl k, .empty node.place k⟩

theorem Rooted.submit {place : List Nat} {k size : Nat} {children nodes : Multiset (Node ρ)}
    (call : Spread place k (k + size) children) (next : Rooted place (k + size) nodes) :
    Rooted place k (children + nodes) := by
  obtain ⟨own, later, last, rfl, here, upper, spread⟩ := next
  have lower : k ≤ k + size := Nat.le_add_right k size
  exact ⟨own, children + later, last, add_left_comm _ _ _, here, lower.trans upper,
    call.add spread lower upper⟩

theorem Rooted.child {place : List Nat} {k j : Nat} {nodes : Multiset (Node ρ)}
    (rooted : Rooted (place ++ [k]) j nodes) : Spread place k (k + 1) nodes := by
  obtain ⟨own, children, last, rfl, here, _, spread⟩ := rooted
  constructor
  · intro node member
    refine ⟨k, le_refl k, Nat.lt_succ_self k, ?_⟩
    rcases Multiset.mem_add.mp member with mine | below
    · rw [Multiset.mem_singleton.mp mine, here]
    · obtain ⟨i, _, _, under⟩ := spread.below node below
      exact (List.prefix_append _ _).trans under
  · rw [Multiset.map_add, Multiset.map_singleton, Multiset.singleton_add, Multiset.nodup_cons]
    refine ⟨fun twice => ?_, spread.apart⟩
    obtain ⟨node, below, same⟩ := Multiset.mem_map.mp twice
    obtain ⟨i, _, _, under⟩ := spread.below node below
    have longer := under.length_le
    simp only [same, here, List.length_append, List.length_singleton] at longer
    omega

mutual

theorem Script.rooted (place : List Nat) (answered : Bool) (k : Nat) :
    (script : Script ε ρ) → Rooted place k (script.yield place answered k).2
  | .ret value => .leaf ⟨place, answered, .returned value⟩ k
  | .panic payload => .leaf ⟨place, answered, .panicked payload⟩ k
  | .log entry next => by
      have rest := Script.rooted place answered k next
      rwa [Script.yield, Yield.ofEntry, Prod.snd_add, zero_add]
  | .submit call next => by
      have rest := Script.rooted place answered (k + call.size) next
      rw [Script.yield, Prod.snd_add]
      exact .submit (callYield_spread place k call) rest

theorem callYield_spread (place : List Nat) (k : Nat) :
    (call : Submission (Script ε ρ)) → Spread place k (k + call.size) (callYield place k call).2
  | .schedule child => (child.rooted (place ++ [k]) true 0).child
  | .forget child => (child.rooted (place ++ [k]) false 0).child
  | .bulk batch => batchYield_spread place k batch

theorem batchYield_spread (place : List Nat) (k : Nat) :
    (batch : List (Script ε ρ)) → Spread place k (k + batch.length) (batchYield place k batch).2
  | [] => .empty place k
  | child :: rest => by
      have first := (child.rooted (place ++ [k]) false 0).child
      have others := batchYield_spread place (k + 1) rest
      rw [Nat.add_assoc, Nat.add_comm 1] at others
      exact first.add others (by omega) (by simp)

end

theorem rootsYield_spread (k : Nat) (roots : Roots ε ρ) :
    ∃ last, k ≤ last ∧ Spread [] k last (rootsYield k roots).2 := by
  induction roots generalizing k with
  | nil => exact ⟨k, le_refl k, .empty [] k⟩
  | cons call rest ih =>
      obtain ⟨last, upper, spread⟩ := ih (k + call.size)
      have lower : k ≤ k + call.size := Nat.le_add_right k call.size
      exact ⟨last, lower.trans upper, (callYield_spread [] k call).add spread lower upper⟩

theorem places_nodup (roots : Roots ε ρ) : ((total roots).2.map Node.place).Nodup := by
  obtain ⟨_, _, spread⟩ := rootsYield_spread 0 roots
  exact spread.apart

theorem Script.yield_pos (place : List Nat) (answered : Bool) (k : Nat) (script : Script ε ρ) :
    0 < (script.yield place answered k).2.card := by
  obtain ⟨own, children, _, same, _⟩ := script.rooted place answered k
  rw [same, Multiset.card_add, Multiset.card_singleton]
  omega

end Forest

end WorkerPool.Pool.Interleaving
