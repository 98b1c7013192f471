import WorkerPool.Proofs.Pool.Abandonment

namespace WorkerPool.Pool.Interleaving

variable {β ρ γ : Type} {settings : PoolSettings} {queueId : Nat}

/-- What the steps of a run yield, one after the other. -/
def State.yielded (one : State β ρ → Action β ρ → State β ρ → List γ) (s : State β ρ) :
    List (Action β ρ) → List γ
  | [] => []
  | a :: rest =>
    match s.step? a with
    | some u => one s a u ++ u.yielded one rest
    | none => []

theorem Run.yielded_perm {P : State β ρ → Prop} {s t : State β ρ} {actions : List (Action β ρ)}
    (run : Run s actions t) (one : State β ρ → Action β ρ → State β ρ → List γ)
    (has : State β ρ → List γ) (keep : ∀ {s a t}, Step s a t → P s → P t)
    (adds : ∀ {s a t}, Step s a t → P s → (one s a t ++ has s).Perm (has t)) (holds : P s) :
    (s.yielded one actions ++ has s).Perm (has t) := by
  induction run with
  | nil => exact .refl _
  | @cons s u t a rest first _ ih =>
      have now := adds first holds
      have later := ih (keep first holds)
      rw [State.yielded, first.step?_eq]
      calc
        List.Perm _ (one s a u ++ (u.yielded one rest ++ has s)) := by rw [List.append_assoc]
        List.Perm _ (u.yielded one rest ++ (one s a u ++ has s)) :=
          List.perm_append_comm_assoc _ _ _
        List.Perm _ (u.yielded one rest ++ has u) := now.append_left _
        List.Perm _ (has t) := later

def State.leavingAt (s : State β ρ) (k : Nat) : List (Task β) :=
  match s.joining[k]? with
  | some leaving => leaving.tasks
  | none => []

def countedBy (s : State β ρ) : Action β ρ → State β ρ → List (Task β)
  | .countLeftovers k, _ => s.leavingAt k
  | _, _ => []

def Leaving.heard (leaving : Leaving β) : List (Task β) :=
  if leaving.counted then leaving.tasks else []

def State.heard (s : State β ρ) : List (Task β) := s.dropped ++ s.joining.flatMap Leaving.heard

theorem Step.countedBy_perm {s t : State β ρ} {a : Action β ρ} (step : Step s a t) :
    (countedBy s a t ++ s.heard).Perm t.heard := by
  cases step with
  | offer token call =>
      rcases s.offer_cases token call with ⟨_, _, _, result⟩ | ⟨_, _, result⟩ <;>
        simp [countedBy, State.heard, result]
  | takeLeftovers => simp [countedBy, State.heard, State.takeLeftovers, Leaving.heard]
  | countLeftovers k leftovers taken =>
      obtain ⟨inside, found⟩ := List.getElem?_eq_some_iff.mp taken
      have before := (List.getElem_cons_eraseIdx_perm inside).flatMap_right Leaving.heard
      have after := (List.set_perm_cons_eraseIdx inside
        (Leaving.mk leftovers true)).flatMap_right Leaving.heard
      rw [found] at before
      simp only [List.flatMap_cons, Leaving.heard, Bool.false_eq_true, if_false, if_true,
        List.nil_append] at before after
      simp only [countedBy, State.leavingAt, taken, State.heard, State.countLeftovers]
      calc
        List.Perm _ (s.dropped ++ (leftovers ++ s.joining.flatMap Leaving.heard)) :=
          List.perm_append_comm_assoc _ _ _
        List.Perm _ _ := ((before.symm.append_left leftovers).trans after.symm).append_left _
  | dropLeftovers k leftovers counted =>
      obtain ⟨inside, found⟩ := List.getElem?_eq_some_iff.mp counted
      have before := (List.getElem_cons_eraseIdx_perm inside).flatMap_right Leaving.heard
      rw [found] at before
      simp only [List.flatMap_cons, Leaving.heard, if_true] at before
      simp only [countedBy, State.heard, State.dropLeftovers, List.nil_append, List.append_assoc]
      exact before.symm.append_left _
  | _ => exact .refl _

def droppedBy (s : State β ρ) : Action β ρ → State β ρ → List (Task β)
  | .dropLeftovers k, _ => s.leavingAt k
  | _, _ => []

theorem Step.droppedBy_perm {s t : State β ρ} {a : Action β ρ} (step : Step s a t) :
    (droppedBy s a t ++ s.dropped).Perm t.dropped := by
  cases step with
  | offer token call =>
      rcases s.offer_cases token call with ⟨_, _, _, result⟩ | ⟨_, _, result⟩ <;>
        simp [droppedBy, result]
  | dropLeftovers k leftovers counted =>
      simp only [droppedBy, State.leavingAt, counted, State.dropLeftovers]
      exact List.perm_append_comm
  | _ => exact .refl _

/-- The channels whose promise was dropped. -/
def State.forsaken (s : State β ρ) : List Nat :=
  (List.range s.channels.next).filter fun c =>
    match s.channels.slot c with
    | .abandoned => true
    | _ => false

def abandonedBy (s : State β ρ) (_ : Action β ρ) (t : State β ρ) : List Nat :=
  t.forsaken.filter (· ∉ s.forsaken)

theorem State.mem_forsaken (s : State β ρ) (c : Nat) :
    c ∈ s.forsaken ↔ c < s.channels.next ∧ s.channels.slot c = .abandoned := by
  rw [State.forsaken, List.mem_filter, List.mem_range]
  cases s.channels.slot c <;> simp

theorem State.forsaken_nodup (s : State β ρ) : s.forsaken.Nodup := List.nodup_range.filter _

theorem Entry.next_le {l m : Ledger β ρ} (entry : Entry l m) :
    l.channels.next ≤ m.channels.next := by
  cases entry with
  | accept call =>
      cases call with
      | schedule body =>
          simp only [Submission.openChannel, Channels.next_create]
          exact Nat.le_succ _
      | forget | bulk => exact Nat.le_refl _
  | finish i task rest outcome =>
      rw [keepPromise_next]
  | drop k leftovers =>
      rw [dropTasks_next]
  | read c =>
      rw [Channels.next_read]
  | _ => exact Nat.le_refl _

theorem Step.forsaken_subset {s t : State β ρ} {a : Action β ρ}
    (reached : Reachable settings queueId s) (step : Step s a t) : s.forsaken ⊆ t.forsaken := by
  intro c member
  obtain ⟨inside, abandoned⟩ := (s.mem_forsaken c).mp member
  have entry := step.entry reached
  exact (t.mem_forsaken c).mpr ⟨Nat.lt_of_lt_of_le inside entry.next_le,
    entry.slot_kept reached.owned reached.resolved inside abandoned (by simp) (by simp)⟩

theorem Step.abandonedBy_perm {s t : State β ρ} {a : Action β ρ}
    (reached : Reachable settings queueId s) (step : Step s a t) :
    (abandonedBy s a t ++ s.forsaken).Perm t.forsaken := by
  have kept := step.forsaken_subset reached
  have fresh : (abandonedBy s a t ++ s.forsaken).Nodup := by
    refine (t.forsaken_nodup.filter _).append s.forsaken_nodup ?_
    intro c now before
    simp [before] at now
  rw [List.perm_ext_iff_of_nodup fresh t.forsaken_nodup]
  intro c
  simp only [abandonedBy, List.mem_append, List.mem_filter, decide_eq_true_eq]
  constructor
  · rintro (⟨member, _⟩ | before)
    · exact member
    · exact kept before
  · intro member
    by_cases before : c ∈ s.forsaken
    · exact .inr before
    · exact .inl ⟨member, before⟩

theorem Reachable.dropped_channels_nodup {s : State β ρ} (reached : Reachable settings queueId s) :
    (s.dropped.filterMap Job.channel).Nodup := by
  have distinct : s.ledger.owned.Nodup := reached.owned.nodup_iff.mpr List.nodup_range
  rw [Ledger.owned, List.filterMap_append, List.filterMap_append, List.append_assoc,
    List.nodup_append, List.nodup_append] at distinct
  exact distinct.2.1.1

theorem Reachable.forsaken_perm {s : State β ρ} (reached : Reachable settings queueId s) :
    s.forsaken.Perm (s.dropped.filterMap Job.channel) := by
  rw [List.perm_ext_iff_of_nodup s.forsaken_nodup reached.dropped_channels_nodup]
  intro c
  have resolved := reached.resolved
  rw [s.mem_forsaken, List.mem_filterMap]
  constructor
  · rintro ⟨inside, abandoned⟩
    have owner := (s.ledger.mem_owned c).mp (reached.owned.mem_iff.mpr (List.mem_range.mpr inside))
    rcases owner with ⟨run, ran, channel⟩ | dropped | ⟨task, unsettled, channel⟩
    · have slot := abandoned.symm.trans (resolved.ran run ran c channel)
      split at slot <;> cases slot
    · exact dropped
    · cases abandoned.symm.trans (resolved.unsettled task unsettled c channel)
  · rintro ⟨task, dropped, channel⟩
    have member := (s.ledger.mem_owned c).mpr (.inr (.inl ⟨task, dropped, channel⟩))
    exact ⟨reached.owned.inside member, resolved.dropped task dropped c channel⟩

/-- What has become of the tasks that nobody fetched. -/
structure LeftOnce (settings : PoolSettings) (queueId : Nat) (actions : List (Action β ρ))
    (s : State β ρ) : Prop where
  leftovers : s.admitted.flatten.Perm (s.batches.flatMap Prod.snd ++ s.dropped)
  distinct : (s.dropped.map numberOf).Nodup
  counted : ((State.start settings queueId).yielded countedBy actions).Perm s.dropped
  abandoned : s.pool.stats.abandoned = s.dropped.length
  dropped : ((State.start settings queueId).yielded droppedBy actions).Perm s.dropped
  channels : ((State.start settings queueId).yielded abandonedBy actions).Perm
    (s.dropped.filterMap Job.channel)
  apart : (s.dropped.filterMap Job.channel).Nodup

theorem leftOnce {s : State β ρ} {actions : List (Action β ρ)}
    (run : Run (State.start settings queueId) actions s) (late : s.early < s.returned)
    (settled : ∀ leaving ∈ s.joining, leaving.tasks = []) :
    LeftOnce settings queueId actions s := by
  have reached : Reachable settings queueId s := ⟨actions, run⟩
  have empty := (reached.empty_of_late (Nat.lt_add_right _ late)).2
  have nothing {f : Leaving β → List (Task β)}
      (part : ∀ leaving, leaving.tasks = [] → f leaving = []) : s.joining.flatMap f = [] :=
    List.flatMap_eq_nil_iff.mpr fun leaving member => part leaving (settled leaving member)
  have removed : s.removed.Perm s.dropped := by
    have split := reached.removed_perm
    rwa [← List.flatMap_def, nothing fun _ none => none, List.append_nil] at split
  have leftovers : s.admitted.flatten.Perm (s.batches.flatMap Prod.snd ++ s.dropped) := by
    rw [reached.order, empty, List.append_nil]
    exact removed.append_left _
  have distinct : (s.dropped.map numberOf).Nodup := by
    have all := reached.places_nodup
    simp only [State.places, List.map_append, List.nodup_append] at all
    exact (removed.map numberOf).nodup_iff.mp all.1.2.1
  have counted := run.yielded_perm (P := fun _ => True) countedBy State.heard
    (fun _ _ => trivial) (fun step _ => step.countedBy_perm) trivial
  have dropped := run.yielded_perm (P := fun _ => True) droppedBy (fun s => s.dropped)
    (fun _ _ => trivial) (fun step _ => step.droppedBy_perm) trivial
  have abandoned := run.yielded_perm (P := Reachable settings queueId) abandonedBy State.forsaken
    (fun step before => before.step step) (fun step before => step.abandonedBy_perm before) .start
  refine ⟨leftovers, distinct, ?_, ?_, ?_, ?_, reached.dropped_channels_nodup⟩
  · have heard : s.heard = s.dropped := by
      rw [State.heard, nothing fun _ none => by simp [Leaving.heard, none], List.append_nil]
    rw [heard] at counted
    simpa [State.heard, State.start] using counted
  · have total := reached.counted.2
    have none : s.uncounted = [] := nothing fun _ none => by simp [Leaving.uncounted, none]
    rw [none, List.length_nil, Nat.add_zero] at total
    rw [total, removed.length_eq]
  · simpa [State.start] using dropped
  · have first : (State.start settings queueId : State β ρ).forsaken = [] := rfl
    rw [first, List.append_nil] at abandoned
    exact abandoned.trans reached.forsaken_perm

end WorkerPool.Pool.Interleaving
