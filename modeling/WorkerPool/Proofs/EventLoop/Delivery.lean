import Mathlib.Data.List.Perm.Basic
import WorkerPool.Proofs.EventLoop.Change
import WorkerPool.Proofs.Shares

namespace WorkerPool.EventLoop.Interleaving

variable {α ρ : Type} {settings : LoopSettings}

/-- Every number that was given out is that of one item: one that was accepted, one that came back,
one whose push is asleep, or one of the others. -/
def State.Accounts (s : State α ρ) (others : List Nat) : Prop :=
  (s.accepted.map Item.number ++ (s.refused.map (·.item.number) ++
    (s.blocked.map (·.item.number) ++ others))).Perm (List.range s.offered)

theorem Offer.accounts {s u : State α ρ} {item : Item α} (offer : Offer s item u)
    (before : s.Accounts []) : u.Accounts [item.number] := by
  cases offer with
  | fresh body =>
      unfold State.Accounts at before ⊢
      rw [List.range_succ]
      simpa using before.append_right [s.offered]
  | again k push asleep =>
      obtain ⟨inside, found⟩ := List.getElem?_eq_some_iff.mp asleep
      have same := (List.getElem_cons_eraseIdx_perm inside).map fun push => push.item.number
      rw [found] at same
      refine List.Perm.trans (List.Perm.append_left _ (List.Perm.append_left _ ?_)) before
      rw [List.append_nil]
      exact List.perm_append_comm.trans same

theorem State.Answered.accounts {s t : State α ρ} {item : Item α} (result : s.Answered item t)
    (before : s.Accounts [item.number]) : t.Accounts [] := by
  unfold Accounts at before ⊢
  cases result with
  | accepted opened =>
      refine List.Perm.trans ?_ before
      simp only [accept, List.map_append, List.map_cons, List.map_nil, List.append_assoc,
        List.append_nil]
      refine List.Perm.append_left _ ?_
      rw [← List.append_assoc _ _ [item.number]]
      exact List.perm_append_comm
  | refused reason completed =>
      refine List.Perm.trans ?_ before
      simp only [refuse, List.map_append, List.map_cons, List.map_nil, List.append_assoc,
        List.append_nil]
      exact (List.perm_append_comm.append_left _).append_left _

theorem Reachable.accounts {s : State α ρ} (reached : Reachable settings s) : s.Accounts [] := by
  refine reached.changes (P := fun s => s.Accounts []) (by simp [State.Accounts, State.start]) ?_
  intro s t change before
  cases change with
  | answered item u offer result => exact result.accounts (offer.accounts before)
  | asleep caller body opened => simpa [State.Accounts] using (Offer.fresh body).accounts before
  | quiet | stop | take | exit | pass | finish => exact before

theorem Reachable.handed_back {s : State α ρ} (reached : Reachable settings s) :
    ∀ refusal ∈ s.refused, refusal.answer.item = refusal.item := by
  refine reached.changes (P := fun s => ∀ refusal ∈ s.refused,
    refusal.answer.item = refusal.item) (by simp [State.start]) ?_
  intro s t change before
  cases change with
  | answered item u offer result =>
      have kept : u.refused = s.refused := by cases offer <;> rfl
      cases result with
      | accepted => simpa [State.accept, kept] using before
      | refused reason => simpa [State.refuse, kept, or_imp, forall_and] using before
  | asleep | quiet | stop | take | exit | pass | finish => exact before

theorem Reachable.order {s : State α ρ} (reached : Reachable settings s) :
    s.accepted = s.taken.map Prod.snd ++ s.loop.collection.items := by
  refine reached.changes (P := fun s =>
    s.accepted = s.taken.map Prod.snd ++ s.loop.collection.items)
    (by simp [State.start, EventLoop.start]) ?_
  intro s t change before
  cases change with
  | answered item u offer result =>
      have kept : u.accepted = u.taken.map Prod.snd ++ u.loop.collection.items := by
        cases offer <;> exact before
      cases result with
      | accepted => simp [State.accept, kept]
      | refused => exact kept
  | take i w item rest here free running items => simpa [items] using before
  | asleep | quiet | stop | exit | pass | finish => exact before

namespace State

def current (s : State α ρ) (i : Nat) : List (Item α) :=
  ((s.loop.worker? i).bind LoopWorker.current).toList

def Exited (s : State α ρ) (i : Nat) : Prop :=
  ∃ w, s.loop.worker? i = some w ∧ w.exited = true

theorem current_eq {s : State α ρ} {i : Nat} {w : LoopWorker (Item α)}
    (here : s.loop.worker? i = some w) : s.current i = w.current.toList := by
  simp [current, here]

theorem current_modify {s t : State α ρ} {i : Nat} {w : LoopWorker (Item α)}
    {f : LoopWorker (Item α) → LoopWorker (Item α)} (here : s.loop.worker? i = some w)
    (workers : t.loop.workers = s.loop.workers.modify i f) :
    t.current = Function.update s.current i (f w).current.toList := by
  have found : s.loop.workers[i]? = some w := here
  funext j
  by_cases same : j = i
  · subst same
    simp [current, worker?, workers, found]
  · have other : i ≠ j := Ne.symm same
    simp [current, worker?, workers, same, other]

theorem Exited.of_modify {s t : State α ρ} {i j : Nat}
    {f : LoopWorker (Item α) → LoopWorker (Item α)} (exited : t.Exited j)
    (workers : t.loop.workers = s.loop.workers.modify i f)
    (same : ∀ w, (f w).exited = w.exited) : s.Exited j := by
  obtain ⟨w', here, gone⟩ := exited
  have found : (s.loop.workers.modify i f)[j]? = some w' := workers ▸ here
  rw [List.getElem?_modify, Option.map_eq_map, Option.map_eq_some_iff] at found
  obtain ⟨w, before, changed⟩ := found
  refine ⟨w, before, ?_⟩
  rw [← gone, ← changed]
  split
  · exact (same w).symm
  · rfl

theorem exited_of_allExited {s : State α ρ} {i : Nat} (exited : s.loop.allExited = true)
    (inside : i < s.loop.workers.length) : s.Exited i :=
  ⟨s.loop.workers[i], List.getElem?_eq_getElem inside,
    List.all_eq_true.mp exited _ (List.getElem_mem inside)⟩

end State

/-- What worker `i` has taken it has passed on and is done with, apart from its current item. -/
structure Hands (s : State α ρ) (i : Nat) : Prop where
  taken : byWorker s.taken i = byWorker (s.finished.map Prod.fst) i ++ s.current i
  passed : byWorker s.passed i = byWorker (s.finished.map Prod.fst) i ++
    if s.consuming i then s.current i else []
  inside : s.consuming i = true → s.current i ≠ []

theorem Hands.congr {s t : State α ρ} {i : Nat} (hands : Hands s i)
    (taken : t.taken = s.taken) (passed : t.passed = s.passed) (finished : t.finished = s.finished)
    (consuming : t.consuming = s.consuming) (current : t.current = s.current) : Hands t i := by
  constructor
  · rw [taken, finished, current]
    exact hands.taken
  · rw [passed, finished, consuming, current]
    exact hands.passed
  · rw [consuming, current]
    exact hands.inside

theorem Reachable.hands {s : State α ρ} (reached : Reachable settings s) : ∀ i, Hands s i := by
  refine reached.changes (P := fun s => ∀ i, Hands s i) (fun i => ?_) ?_
  · have none : (State.start settings : State α ρ).current i = [] := by
      simp [State.current, State.start, EventLoop.start, worker?, Option.bind_map]
    exact ⟨by rw [none]; rfl, rfl, by simp [State.start]⟩
  intro s t change before j
  cases change with
  | answered item u offer result =>
      have kept : Hands u j := by cases offer <;> exact (before j).congr rfl rfl rfl rfl rfl
      cases result <;> exact kept.congr rfl rfl rfl rfl rfl
  | asleep | quiet | stop => exact (before j).congr rfl rfl rfl rfl rfl
  | exit i w events here free running completed =>
      refine (before j).congr rfl rfl rfl rfl ?_
      rw [State.current_modify here rfl, free, ← free, ← State.current_eq here,
        Function.update_eq_self]
  | take i w item rest here free running items =>
      have current := State.current_modify (t := { s with
        loop.collection.items := rest
        loop.workers := s.loop.workers.modify i fun w => { w with current := some item }
        taken := s.taken ++ [(i, item)] }) here rfl
      obtain ⟨taken, passed, inside⟩ := before j
      by_cases mine : j = i
      · subst mine
        rw [State.current_eq here, free] at taken passed inside
        have outside : s.consuming j = false := by simpa using inside
        refine ⟨?_, ?_, ?_⟩
        · simpa [current, byWorker_append] using taken
        · simpa [outside] using passed
        · simp [outside]
      · refine ⟨?_, ?_, ?_⟩
        · simpa [current, byWorker_append, mine] using taken
        · simpa [current, mine] using passed
        · simpa [current, mine] using inside
  | pass i w item here current held =>
      obtain ⟨taken, passed, inside⟩ := before j
      have kept : State.current { s with
        consuming := Function.update s.consuming i true
        passed := s.passed ++ [(i, item)] } = s.current := rfl
      by_cases mine : j = i
      · subst mine
        have mine : s.current j = [item] := by
          rw [State.current_eq here, current]
          rfl
        refine ⟨taken, ?_, ?_⟩
        · simpa [kept, mine, held, byWorker_append] using passed
        · simp [kept, mine]
      · refine ⟨taken, ?_, ?_⟩
        · simpa [kept, mine, byWorker_append] using passed
        · simpa [kept, mine] using inside
  | finish i w item outcome events here current inside =>
      have kept := State.current_modify (t := { s with
        loop.workers := s.loop.workers.modify i fun w =>
          { w with current := none, consumed := w.consumed + 1 }
        loop.events := events
        consuming := Function.update s.consuming i false
        finished := s.finished ++ [((i, item), outcome)] }) here rfl
      obtain ⟨taken, passed, called⟩ := before j
      by_cases mine : j = i
      · subst mine
        rw [State.current_eq here, current] at taken passed
        refine ⟨?_, ?_, ?_⟩
        · simpa [kept, byWorker_append] using taken
        · simpa [inside, byWorker_append] using passed
        · simp
      · refine ⟨?_, ?_, ?_⟩
        · simpa [kept, mine, byWorker_append] using taken
        · simpa [kept, mine, byWorker_append] using passed
        · simpa [kept, mine] using called

theorem Reachable.roster {s : State α ρ} (reached : Reachable settings s) :
    s.loop.workers.length = settings.workers.count ∧
      ∀ entry ∈ s.taken, entry.1 < settings.workers.count := by
  refine reached.changes (P := fun s => s.loop.workers.length = settings.workers.count ∧
    ∀ entry ∈ s.taken, entry.1 < settings.workers.count)
    (by simp [State.start, EventLoop.start]) ?_
  intro s t change before
  cases change with
  | answered item u offer result =>
      have kept : u.loop.workers.length = settings.workers.count ∧
          ∀ entry ∈ u.taken, entry.1 < settings.workers.count := by
        cases offer <;> exact before
      cases result <;> exact kept
  | take i w item rest here free running items =>
      have inside : i < s.loop.workers.length := (List.getElem?_eq_some_iff.mp here).1
      refine ⟨by simpa using before.1, ?_⟩
      intro entry member
      rcases List.mem_append.mp member with old | new
      · exact before.2 entry old
      · cases List.mem_singleton.mp new
        exact before.1 ▸ inside
  | exit | finish => exact ⟨by simpa using before.1, before.2⟩
  | asleep | quiet | stop | pass => exact before

theorem Reachable.gone {s : State α ρ} (reached : Reachable settings s) :
    ∀ i, s.Exited i → s.current i = [] ∧ s.loop.collection.isCompleted = true := by
  refine reached.changes (P := fun s =>
    ∀ i, s.Exited i → s.current i = [] ∧ s.loop.collection.isCompleted = true) ?_ ?_
  · rintro i ⟨w, here, exited⟩
    obtain ⟨number, rfl⟩ : ∃ number, w = { id := number } := by
      have found := List.mem_of_getElem? here
      simp only [State.start, EventLoop.start, List.mem_map] at found
      obtain ⟨number, _, rfl⟩ := found
      exact ⟨number, rfl⟩
    simp at exited
  intro s t change before j exited
  cases change with
  | answered item u offer result =>
      have kept : u.loop = s.loop := by cases offer <;> rfl
      cases result with
      | accepted opened =>
          have still : s.Exited j := by
            simpa [State.Exited, State.accept, worker?, kept] using exited
          have completed := (before j still).2
          simp [Collection.isCompleted, ← kept, opened] at completed
      | refused =>
          have still : s.Exited j := by simpa [State.Exited, State.refuse, kept] using exited
          simpa [State.current, State.refuse, kept] using before j still
  | asleep | quiet | pass => exact before j exited
  | stop =>
      obtain ⟨none, completed⟩ := before j exited
      refine ⟨none, ?_⟩
      simp only [Collection.isCompleted, Bool.and_eq_true] at completed
      simpa [Collection.isCompleted, Collection.isEmpty] using completed.2
  | take i w item rest here free running items =>
      have still : s.Exited j := State.Exited.of_modify exited rfl fun w => rfl
      have completed := (before j still).2
      simp [Collection.isCompleted, Collection.isEmpty, items] at completed
  | exit i w events here free running completed =>
      rw [State.current_modify here rfl]
      refine ⟨?_, completed⟩
      by_cases mine : j = i
      · simp [mine, free]
      · obtain ⟨w', found, gone⟩ := exited
        have other : i ≠ j := Ne.symm mine
        have still : s.Exited j := ⟨w', by simpa [worker?, other] using found, gone⟩
        simpa [mine] using (before j still).1
  | finish i w item outcome events here current inside =>
      have still : s.Exited j := State.Exited.of_modify exited rfl fun w => rfl
      rw [State.current_modify here rfl]
      obtain ⟨none, completed⟩ := before j still
      refine ⟨?_, completed⟩
      by_cases mine : j = i
      · simp [mine]
      · simpa [mine] using none

/-- What is the case from a moment at which adding was completed on. -/
structure Stopped (s t : State α ρ) : Prop where
  completed : t.loop.collection.addingCompleted = true
  accepted : t.accepted = s.accepted
  blocked : ∀ push ∈ s.blocked, push ∈ t.blocked ∨
    ⟨push.item, ⟨.completed, push.item⟩⟩ ∈ t.refused

theorem Stopped.change {s t u : State α ρ} (change : Change t u) (before : Stopped s t) :
    Stopped s u := by
  obtain ⟨completed, accepted, blocked⟩ := before
  cases change with
  | answered item v offer result =>
      obtain ⟨still, same, kept⟩ : v.loop.collection.addingCompleted = true ∧
          v.accepted = t.accepted ∧ v.refused = t.refused := by
        cases offer <;> exact ⟨completed, rfl, rfl⟩
      cases result with
      | accepted opened => simp [still] at opened
      | refused reason only =>
          refine ⟨still, same.trans accepted, fun push member => ?_⟩
          simp only [State.refuse, kept, List.mem_append, List.mem_singleton, only still]
          rcases blocked push member with asleep | back
          · cases offer with
            | fresh body => exact .inl asleep
            | again k woken found =>
                obtain ⟨inside, found⟩ := List.getElem?_eq_some_iff.mp found
                have split := (List.getElem_cons_eraseIdx_perm inside).mem_iff.mpr asleep
                rw [found] at split
                rcases List.mem_cons.mp split with rfl | other
                · exact .inr (.inr rfl)
                · exact .inl other
          · exact .inr (.inl back)
  | asleep caller body opened => simp [completed] at opened
  | stop => exact ⟨rfl, accepted, blocked⟩
  | quiet | take | exit | pass | finish => exact ⟨completed, accepted, blocked⟩

theorem Run.stopped {s t : State α ρ} {actions : List (Action α ρ)} (run : Run s actions t)
    (completed : s.loop.collection.addingCompleted = true) : Stopped s t :=
  run.preserves (fun step before => before.change step.change)
    ⟨completed, rfl, fun _ member => .inl member⟩

theorem Step.wake_of_completed (s : State α ρ) (k : Nat) (push : Blocked α)
    (completed : s.loop.collection.addingCompleted = true) (asleep : s.blocked[k]? = some push) :
    Step s (.wake k)
      (State.refuse { s with blocked := s.blocked.eraseIdx k } push.item .completed) := by
  have step := Step.wake s k push asleep
  rcases s.wake_cases k push with ⟨opened, _⟩ | result
  · simp [completed] at opened
  · generalize s.wake k push = t at step result
    cases result with
    | accepted opened => simp [completed] at opened
    | refused reason only => rwa [only completed] at step

theorem Change.completed_of_exit {s t : State α ρ} (change : Change s t) {j : Nat}
    (before : ¬s.Exited j) (after : t.Exited j) : s.loop.collection.isCompleted = true := by
  cases change with
  | answered item u offer result =>
      have kept : u.loop = s.loop := by cases offer <;> rfl
      refine absurd ?_ before
      cases result with
      | accepted => simpa [State.Exited, State.accept, worker?, kept] using after
      | refused => simpa [State.Exited, State.refuse, kept] using after
  | exit i w events here free running completed => exact completed
  | take | finish => exact absurd (after.of_modify rfl fun _ => rfl) before
  | quiet | asleep | stop | pass => exact absurd after before

theorem Reachable.nodup {s : State α ρ} (reached : Reachable settings s) :
    (s.accepted.map Item.number).Nodup ∧
      ∀ refusal ∈ s.refused, ∀ item ∈ s.accepted, item.number ≠ refusal.item.number := by
  have nodup := reached.accounts.nodup_iff.mpr List.nodup_range
  obtain ⟨accepted, _, apart⟩ := List.nodup_append.mp nodup
  refine ⟨accepted, fun refusal back item member => ?_⟩
  exact apart _ (List.mem_map_of_mem member) _
    (List.mem_append_left _ (List.mem_map_of_mem back))

theorem Reachable.passed_accepted {s : State α ρ} (reached : Reachable settings s) :
    ∀ entry ∈ s.passed, entry ∈ s.taken ∧ entry.2 ∈ s.accepted := by
  rintro ⟨i, item⟩ member
  have hands := reached.hands i
  have passed := mem_byWorker.mpr member
  have taken : (i, item) ∈ s.taken := by
    rw [← mem_byWorker, hands.taken]
    rw [hands.passed] at passed
    split at passed
    · exact passed
    · exact List.mem_append_left _ (by simpa using passed)
  refine ⟨taken, ?_⟩
  rw [reached.order]
  exact List.mem_append_left _ (List.mem_map_of_mem taken)

theorem Change.refused {s t : State α ρ} (change : Change s t) : s.refused <+: t.refused := by
  cases change with
  | answered item u offer result =>
      have kept : u.refused = s.refused := by cases offer <;> rfl
      cases result with
      | accepted => exact (kept ▸ List.prefix_rfl : s.refused <+: u.refused)
      | refused reason => exact kept ▸ List.prefix_append u.refused _
  | quiet | asleep | stop | take | exit | pass | finish => exact List.prefix_rfl

theorem Reachable.never_passed {s t : State α ρ} {actions : List (Action α ρ)}
    (reached : Reachable settings s) (run : Run s actions t) :
    ∀ refusal ∈ s.refused, ∀ entry ∈ t.passed, entry.2.number ≠ refusal.item.number := by
  intro refusal back entry member
  have kept : s.refused <+: t.refused :=
    run.preserves (P := fun t => s.refused <+: t.refused)
      (fun step before => before.trans step.change.refused) List.prefix_rfl
  have later := reached.run run
  exact later.nodup.2 refusal (kept.subset back) _ (later.passed_accepted entry member).2

theorem workers_pos (valid : settings.validate = .ok ()) : 0 < settings.workers.count := by
  unfold LoopSettings.validate at valid
  split at valid
  · cases valid
  · omega

theorem Reachable.all_passed {s : State α ρ} (valid : settings.validate = .ok ())
    (reached : Reachable settings s) (exited : s.loop.allExited = true) :
    (s.passed.map Prod.snd).Perm s.accepted ∧ (s.finished.map Prod.fst).Perm s.passed := by
  have length := reached.roster.1
  have empty (i : Nat) : s.current i = [] := by
    by_cases inside : i < s.loop.workers.length
    · exact (reached.gone i (State.exited_of_allExited exited inside)).1
    · simp [State.current, worker?, List.getElem?_eq_none (Nat.le_of_not_lt inside)]
  have taken : byWorker s.taken = byWorker (s.finished.map Prod.fst) := by
    funext i
    simpa [empty i] using (reached.hands i).taken
  have passed : byWorker s.passed = byWorker (s.finished.map Prod.fst) := by
    funext i
    simpa [empty i] using (reached.hands i).passed
  have first : 0 < s.loop.workers.length := length ▸ workers_pos valid
  have completed := (reached.gone 0 (State.exited_of_allExited exited first)).2
  have items : s.loop.collection.items = [] := by
    simp only [Collection.isCompleted, Bool.and_eq_true] at completed
    exact List.isEmpty_iff.mp completed.2
  rw [reached.order, items, List.append_nil]
  exact ⟨(perm_of_byWorker (passed.trans taken.symm)).map _, perm_of_byWorker passed.symm⟩

theorem Reachable.passed_in_order {s : State α ρ} (reached : Reachable settings s)
    (alone : settings.workers.count = 1) : s.passed.map Prod.snd <+: s.accepted := by
  have only : ∀ entry ∈ s.taken, entry.1 = 0 := fun entry member =>
    Nat.lt_one_iff.mp (alone ▸ reached.roster.2 entry member)
  have all {log : List (Nat × Item α)} (only : ∀ entry ∈ log, entry.1 = 0) :
      byWorker log 0 = log.map Prod.snd := by
    rw [byWorker, List.filter_eq_self.mpr (by simpa using only)]
  have taken := (reached.hands 0).taken
  have passed := (reached.hands 0).passed
  rw [all only] at taken
  rw [all fun entry member => only entry (reached.passed_accepted entry member).1] at passed
  rw [reached.order, taken, passed]
  refine List.IsPrefix.trans ?_ (List.prefix_append _ _)
  split
  · exact List.prefix_rfl
  · simp

/-- Items are taken in the order of their admission and passed on once each, whatever the consumer
does; no worker leaves before the end; what is refused comes back and goes nowhere else; and
nothing is accepted any more once the loop is stopped. -/
theorem Reachable.delivered {s : State α ρ} (valid : settings.validate = .ok ())
    (reached : Reachable settings s) :
    (s.accepted = s.taken.map Prod.snd ++ s.loop.collection.items ∧ s.Accounts []) ∧
      ((∀ i, s.Exited i → s.loop.collection.isCompleted = true) ∧
        ∀ a t i, Step s a t → ¬s.Exited i → t.Exited i →
          s.loop.collection.isCompleted = true) ∧
      (s.loop.allExited = true →
        (s.passed.map Prod.snd).Perm s.accepted ∧ (s.accepted.map Item.number).Nodup ∧
          (s.finished.map Prod.fst).Perm s.passed) ∧
      (∀ refusal ∈ s.refused, refusal.answer.item = refusal.item ∧
        ∀ actions t, Run s actions t →
          ∀ entry ∈ t.passed, entry.2.number ≠ refusal.item.number) ∧
      (s.loop.collection.addingCompleted = true →
        (∀ actions t, Run s actions t → Stopped s t) ∧
          ∀ k push, s.blocked[k]? = some push → Step s (.wake k)
            (State.refuse { s with blocked := s.blocked.eraseIdx k } push.item .completed)) ∧
      (settings.workers.count = 1 → s.passed.map Prod.snd <+: s.accepted) := by
  refine ⟨⟨reached.order, reached.accounts⟩, ⟨fun i exited => (reached.gone i exited).2, ?_⟩,
    fun exited => ?_, fun refusal back => ?_, fun completed => ?_, reached.passed_in_order⟩
  · exact fun a t i step before after => step.change.completed_of_exit before after
  · obtain ⟨passed, finished⟩ := reached.all_passed valid exited
    exact ⟨passed, reached.nodup.1, finished⟩
  · exact ⟨reached.handed_back refusal back, fun _ _ run => reached.never_passed run refusal back⟩
  · exact ⟨fun _ _ run => run.stopped completed,
      fun k push asleep => .wake_of_completed s k push completed asleep⟩

def reentrant : State Nat Unit where
  offered := 4
  accepted := [⟨0, 5⟩, ⟨1, 6⟩]
  refused := [⟨⟨3, 8⟩, ⟨.full, ⟨3, 8⟩⟩⟩]
  taken := [(0, ⟨0, 5⟩)]
  passed := [(0, ⟨0, 5⟩)]
  loop := {
    settings := { workers := .fixed 1, capacity := 1 }
    collection := { capacity := 1, items := [⟨1, 6⟩], addingCompleted := true }
    workers := [{ id := 0, current := some ⟨0, 5⟩ }]
    events := [.loopStarted (.fixed 1) 1] }
  consuming := Function.update (fun _ => false) 0 true
  blocked := [⟨.outside, ⟨2, 7⟩⟩]

theorem reentrant_reachable : Reachable { workers := .fixed 1, capacity := 1 } reentrant :=
  ⟨_, .cons (.push _ .outside 5 trivial) <|
    .cons (.take _ 0 _ _ _ rfl rfl rfl rfl rfl) <|
    .cons (.pass _ 0 _ _ rfl rfl rfl) <|
    .cons (.push _ (.consumer 0) 6 ⟨rfl, by decide⟩) <|
    .cons (.push _ .outside 7 trivial) <|
    .cons (.tryPush _ (.consumer 0) 8 ⟨rfl, by decide⟩) <|
    .cons (.stop _ (.consumer 0) ⟨rfl, by decide⟩) <| .nil reentrant⟩

theorem delivered_after_panic : ∃ s : State Nat Unit,
    ({ workers := .fixed 1, capacity := 1 } : LoopSettings).validate = .ok () ∧
      Reachable { workers := .fixed 1, capacity := 1 } s ∧ s.loop.allExited = true ∧
      s.accepted = [⟨0, 5⟩, ⟨1, 6⟩] ∧
      s.refused = [⟨⟨3, 8⟩, ⟨.full, ⟨3, 8⟩⟩⟩, ⟨⟨2, 7⟩, ⟨.completed, ⟨2, 7⟩⟩⟩] ∧
      (s.passed.map Prod.snd).Perm s.accepted := by
  have valid : ({ workers := .fixed 1, capacity := 1 } : LoopSettings).validate = .ok () := rfl
  have reached : Reachable { workers := .fixed 1, capacity := 1 } (_ : State Nat Unit) :=
    reentrant_reachable.run <|
      .cons (.selfJoin reentrant 0 ⟨rfl, by decide⟩) <|
      .cons (.finish _ 0 _ _ (.panicked .other) rfl rfl ⟨rfl, by decide⟩) <|
      .cons (.wake _ 0 _ rfl) <|
      .cons (.take _ 0 _ _ _ rfl rfl rfl rfl rfl) <|
      .cons (.pass _ 0 _ _ rfl rfl rfl) <|
      .cons (.finish _ 0 _ _ (.returned ()) rfl rfl ⟨rfl, by decide⟩) <|
      .cons (.exit _ 0 _ _ rfl rfl rfl rfl rfl) <|
      .cons (.join _ rfl) <| .nil _
  exact ⟨_, valid, reached, rfl, rfl, rfl, ((reached.delivered valid).2.2.1 rfl).1⟩

end WorkerPool.EventLoop.Interleaving
