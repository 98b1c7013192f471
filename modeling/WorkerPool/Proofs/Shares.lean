import Mathlib.Algebra.BigOperators.Group.Finset.Piecewise
import Mathlib.Algebra.GroupWithZero.Nat
import Mathlib.Logic.Function.Basic

namespace WorkerPool

variable {τ : Type}

def byWorker (log : List (Nat × τ)) (i : Nat) : List τ :=
  (log.filter fun entry => entry.1 = i).map Prod.snd

theorem byWorker_append (log : List (Nat × τ)) (i : Nat) (item : τ) :
    byWorker (log ++ [(i, item)]) =
      Function.update (byWorker log) i (byWorker log i ++ [item]) := by
  funext j
  by_cases same : j = i
  · subst same
    simp [byWorker]
  · have other : i ≠ j := Ne.symm same
    simp [byWorker, same, other]

theorem mem_byWorker {log : List (Nat × τ)} {i : Nat} {item : τ} :
    item ∈ byWorker log i ↔ (i, item) ∈ log := by
  simp [byWorker]

theorem count_byWorker [DecidableEq τ] (log : List (Nat × τ)) (i : Nat) (item : τ) :
    log.count (i, item) = (byWorker log i).count item := by
  induction log with
  | nil => rfl
  | cons entry rest ih =>
      obtain ⟨j, first⟩ := entry
      by_cases mine : j = i
      · simp_all [byWorker, List.count_cons]
      · simp_all [byWorker]

/-- If each worker's share of one log is within its share of another, the log is within it. -/
theorem subperm_of_shares {first second : List (Nat × τ)}
    (within : ∀ i, (byWorker first i).Subperm (byWorker second i)) : first.Subperm second := by
  classical
  refine List.subperm_ext_iff.mpr fun (i, item) _ => ?_
  rw [count_byWorker, count_byWorker]
  exact (within i).count_le item

theorem perm_of_shares {first second : List (Nat × τ)}
    (same : ∀ i, (byWorker first i).Perm (byWorker second i)) : first.Perm second :=
  (subperm_of_shares fun i => (same i).subperm).antisymm
    (subperm_of_shares fun i => (same i).symm.subperm)

theorem perm_of_byWorker {first second : List (Nat × τ)}
    (same : byWorker first = byWorker second) : first.Perm second :=
  perm_of_shares fun _ => same ▸ List.Perm.refl _

theorem byWorker_eq_map {log : List (Nat × τ)} {i : Nat} (only : ∀ entry ∈ log, entry.1 = i) :
    byWorker log i = log.map Prod.snd := by
  rw [byWorker, List.filter_eq_self.mpr (by simpa using only)]

theorem sum_shares (measure : τ → Nat) (log : List (Nat × τ)) (workers : Finset Nat)
    (inside : ∀ entry ∈ log, entry.1 ∈ workers) :
    ∑ i ∈ workers, ((byWorker log i).map measure).sum =
      (log.map fun entry => measure entry.2).sum := by
  induction log with
  | nil => simp [byWorker]
  | cons entry rest ih =>
      obtain ⟨j, item⟩ := entry
      have split (i : Nat) : ((byWorker ((j, item) :: rest) i).map measure).sum =
          (if j = i then measure item else 0) + ((byWorker rest i).map measure).sum := by
        by_cases mine : j = i <;> simp [byWorker, mine]
      have here : j ∈ workers := inside (j, item) List.mem_cons_self
      have others := ih fun entry member => inside entry (List.mem_cons_of_mem _ member)
      simp only [split, Finset.sum_add_distrib, Finset.sum_ite_eq, here, if_true, others,
        List.map_cons, List.sum_cons]

theorem sum_modify (measure : τ → Nat) (change : τ → τ) (entries : List τ) (i : Nat)
    (entry : τ) (here : entries[i]? = some entry) :
    ((entries.modify i change).map measure).sum + measure entry =
      (entries.map measure).sum + measure (change entry) := by
  induction entries generalizing i with
  | nil => simp at here
  | cons head tail ih =>
      cases i with
      | zero =>
          simp only [List.getElem?_cons_zero, Option.some.injEq] at here
          simp only [List.modify_zero_cons, List.map_cons, List.sum_cons, here]
          omega
      | succ n =>
          have later := ih n (by simpa using here)
          simp only [List.modify_succ_cons, List.map_cons, List.sum_cons]
          omega

theorem sum_set (measure : τ → Nat) {entries : List τ} {i : Nat} {before : τ}
    (here : entries[i]? = some before) (now : τ) :
    ((entries.set i now).map measure).sum + measure before =
      (entries.map measure).sum + measure now := by
  rw [List.set_eq_modify]
  exact sum_modify measure (fun _ => now) entries i before here

end WorkerPool
