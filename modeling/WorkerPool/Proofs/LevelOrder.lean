import Mathlib.Algebra.GroupWithZero.Nat
import Mathlib.Data.List.Basic
import Mathlib.Data.List.Flatten

namespace WorkerPool

/-- The finite trees that nodes stand for; a tree is larger than its subtrees together. -/
structure Growth (τ : Type) where
  children : τ → List τ
  size : τ → Nat
  smaller : ∀ node, ((children node).map size).sum < size node

namespace Growth

variable {τ σ : Type}

def total (g : Growth τ) (roots : List τ) : Nat := (roots.map g.size).sum

def below (g : Growth τ) (nodes : List τ) : List τ := nodes.flatMap g.children

theorem below_append (g : Growth τ) (front back : List τ) :
    g.below (front ++ back) = g.below front ++ g.below back := List.flatMap_append

theorem total_below_le (g : Growth τ) (nodes : List τ) :
    g.total (g.below nodes) + nodes.length ≤ g.total nodes := by
  induction nodes with
  | nil => exact Nat.le_refl 0
  | cons node rest ih =>
      have here := g.smaller node
      simp only [total, below, List.flatMap_cons, List.map_append, List.sum_append, List.map_cons,
        List.sum_cons, List.length_cons] at ih ⊢
      omega

theorem total_below_lt (g : Growth τ) {nodes : List τ} (some : nodes ≠ []) :
    g.total (g.below nodes) < g.total nodes := by
  have fewer := g.total_below_le nodes
  have count := List.length_pos_of_ne_nil some
  omega

/-- All nodes, those of one level before those of the next. -/
def levelOrder (g : Growth τ) (roots : List τ) : List τ :=
  if _ : roots = [] then [] else roots ++ g.levelOrder (g.below roots)
termination_by g.total roots
decreasing_by exact g.total_below_lt ‹_›

theorem levels_induction (g : Growth τ) {P : List τ → Prop} (nil : P [])
    (level : ∀ roots, P (g.below roots) → P roots) (roots : List τ) : P roots := by
  by_cases none : roots = []
  · rwa [none]
  · exact level roots (g.levels_induction nil level _)
termination_by g.total roots
decreasing_by exact g.total_below_lt none

theorem levelOrder_nil (g : Growth τ) : g.levelOrder [] = [] := by
  rw [levelOrder, dif_pos rfl]

theorem levelOrder_eq (g : Growth τ) (roots : List τ) :
    g.levelOrder roots = roots ++ g.levelOrder (g.below roots) := by
  by_cases none : roots = []
  · rw [none, below, List.flatMap_nil, levelOrder_nil, List.append_nil]
  · conv_lhs => rw [levelOrder, dif_neg none]

theorem levelOrder_fixed (g : Growth τ) (roots : List τ) :
    g.levelOrder roots = roots ++ g.below (g.levelOrder roots) := by
  induction roots using g.levels_induction with
  | nil => rw [levelOrder_nil]; rfl
  | level roots ih =>
      conv_rhs => rw [levelOrder_eq, below_append, ← ih]
      exact g.levelOrder_eq roots

/-- The level order is the only list in which the children of its nodes come after the roots. -/
theorem eq_levelOrder (g : Growth τ) {roots nodes : List τ}
    (fixed : nodes = roots ++ g.below nodes) : nodes = g.levelOrder roots := by
  induction roots using g.levels_induction generalizing nodes with
  | nil =>
      -- All nodes would be children of nodes, so there is no largest one.
      have fewer := g.total_below_le nodes
      rw [List.nil_append] at fixed
      rw [← fixed] at fewer
      rw [levelOrder_nil]
      exact List.length_eq_zero_iff.mp (by omega)
  | level roots ih =>
      -- What is below the nodes satisfies the same equation, one level down.
      have next : g.below nodes = g.below roots ++ g.below (g.below nodes) := by
        conv_lhs => rw [fixed, below_append]
      rw [g.levelOrder_eq roots, ← ih next, ← fixed]

/-- A queue serves its head and takes in the head's children at its end. -/
theorem levelOrder_cons (g : Growth τ) (node : τ) (rest : List τ) :
    g.levelOrder (node :: rest) = node :: g.levelOrder (rest ++ g.children node) := by
  symm
  apply g.eq_levelOrder
  conv_lhs => rw [levelOrder_fixed]
  simp only [below, List.flatMap_cons, List.cons_append, List.append_assoc]

theorem levelOrder_append (g : Growth τ) {leaves : List τ}
    (childless : ∀ node ∈ leaves, g.children node = []) (rest : List τ) :
    g.levelOrder (leaves ++ rest) = leaves ++ g.levelOrder rest := by
  induction leaves with
  | nil => rfl
  | cons node leaves ih =>
      rw [List.forall_mem_cons] at childless
      rw [List.cons_append, levelOrder_cons, childless.1, List.append_nil, ih childless.2,
        List.cons_append]

end Growth

end WorkerPool
