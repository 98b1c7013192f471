import WorkerPool.Proofs.Channel
import WorkerPool.Proofs.Pool.Conservation

namespace WorkerPool.Pool.Interleaving

variable {β ρ : Type} {settings : PoolSettings} {queueId : Nat}

def Ledger.unsettled (l : Ledger β ρ) : List (Task β) :=
  (List.range l.workers).flatMap l.left ++ l.leaving.flatten ++ l.queue.items

def Ledger.owned (l : Ledger β ρ) : List Nat :=
  (l.ran.map Ran.task ++ l.dropped ++ l.unsettled).filterMap Job.channel

theorem Ledger.mem_owned (l : Ledger β ρ) (c : Nat) :
    c ∈ l.owned ↔ (∃ run ∈ l.ran, run.task.channel = some c) ∨
      (∃ task ∈ l.dropped, task.channel = some c) ∨
        ∃ task ∈ l.unsettled, task.channel = some c := by
  simp [Ledger.owned, List.filterMap_append]

theorem Ledger.mem_unsettled (l : Ledger β ρ) (task : Task β) :
    task ∈ l.unsettled ↔ (∃ i < l.workers, task ∈ l.left i) ∨
      (∃ tasks ∈ l.leaving, task ∈ tasks) ∨ task ∈ l.queue.items := by
  simp [Ledger.unsettled]

theorem keepPromise_next (task : Task β) (outcome : Outcome ρ) (cs : Channels ρ) :
    (keepPromise task outcome cs).next = cs.next := by
  unfold keepPromise
  cases task.channel <;> simp

theorem dropTasks_next (leftovers : List (Task β)) (cs : Channels ρ) :
    (dropTasks leftovers cs).next = cs.next :=
  cs.next_foldl_abandon _

theorem keepPromise_slot (task : Task β) (outcome : Outcome ρ) (cs : Channels ρ) (d : Nat)
    (known : ∀ c, task.channel = some c → c < cs.next) :
    (keepPromise task outcome cs).slot d =
      if task.channel = some d then .ready outcome.result else cs.slot d := by
  unfold keepPromise
  cases channel : task.channel with
  | none => simp
  | some c => simp [cs.slot_settle c d _ (known c channel), eq_comm]

theorem dropTasks_slot (leftovers : List (Task β)) (cs : Channels ρ) (d : Nat) :
    (dropTasks leftovers cs).slot d =
      if ∃ task ∈ leftovers, task.channel = some d then (cs.slot d).abandon else cs.slot d := by
  unfold dropTasks
  rw [cs.slot_foldl_abandon]
  simp only [List.mem_filterMap]

theorem Submission.openChannel_slot (call : Submission β) (cs : Channels ρ) {c : Nat}
    (known : c < cs.next) : (call.openChannel cs).slot c = cs.slot c := by
  cases call with
  | schedule body => simp [Submission.openChannel, cs.slot_create, Nat.ne_of_lt known]
  | forget body | bulk bodies => rfl

theorem Submission.openChannel_pending (call : Submission β) (first : Nat) (cs : Channels ρ)
    {task : Task β} (member : task ∈ call.tasks first cs.next) {c : Nat}
    (channel : task.channel = some c) : (call.openChannel cs).slot c = .pending := by
  cases call with
  | schedule body =>
      cases List.mem_singleton.mp member
      cases channel
      simp [Submission.openChannel, cs.slot_create]
  | forget body =>
      cases List.mem_singleton.mp member
      cases channel
  | bulk bodies =>
      obtain ⟨_, _, rfl⟩ := List.mem_map.mp member
      cases channel

theorem Submission.tasks_channels (call : Submission β) (first : Nat) (cs : Channels ρ) :
    List.range cs.next ++ (call.tasks first cs.next).filterMap Job.channel =
      List.range (call.openChannel cs).next := by
  cases call with
  | schedule body => simp [Submission.tasks, Submission.openChannel, List.range_succ]
  | forget body => simp [Submission.tasks, Submission.openChannel]
  | bulk bodies =>
      simp [Submission.tasks, Submission.openChannel, bulkTasks, List.filterMap_map]

theorem Reachable.channels_eq {s : State β ρ} (reached : Reachable settings queueId s) :
    s.admitted.flatten.filterMap Job.channel = List.range s.channels.next := by
  apply reached.ledger (P := fun l =>
    l.admitted.flatten.filterMap Job.channel = List.range l.channels.next)
  · rfl
  · intro l m entry before
    cases entry with
    | accept call tasks these =>
        simp only [List.flatten_append, List.flatten_singleton, List.filterMap_append]
        rw [before, these, call.tasks_channels]
    | finish => rwa [keepPromise_next]
    | drop => rwa [dropTasks_next]
    | read => rwa [Channels.next_read]
    | _ => exact before

theorem Reachable.settled_perm {s : State β ρ} (reached : Reachable settings queueId s) :
    (s.ran.map Ran.task ++ s.dropped ++ s.ledger.unsettled).Perm s.admitted.flatten := by
  let leaving := (s.joining.map Leaving.tasks).flatten
  have sorted : (s.ran.map Ran.task ++ s.dropped ++ (s.lefts ++ leaving ++ s.pool.queue.items)).Perm
      (s.ran.map Ran.task ++ s.lefts ++ (s.dropped ++ leaving) ++ s.pool.queue.items) := by
    simp only [List.append_assoc]
    exact (List.perm_append_comm_assoc ..).append_left _
  calc
    List.Perm _ _ := sorted
    List.Perm _ s.places := (reached.removed_perm.symm.append_left _).append_right _
    List.Perm _ s.admitted.flatten := reached.places_perm

/-- What the slot of a channel holds, by what has become of its task. -/
structure Resolved (l : Ledger β ρ) : Prop where
  unsettled : ∀ task ∈ l.unsettled, ∀ c, task.channel = some c → l.channels.slot c = .pending
  ran : ∀ run ∈ l.ran, ∀ c, run.task.channel = some c →
    l.channels.slot c = if c ∈ l.retrieved then .taken else .ready run.outcome.result
  dropped : ∀ task ∈ l.dropped, ∀ c, task.channel = some c → l.channels.slot c = .abandoned
  retrieved : ∀ c ∈ l.retrieved, l.channels.slot c = .taken

theorem Entry.unsettled_subset {l m : Ledger β ρ} (entry : Entry l m)
    (same : m.admitted = l.admitted) {task : Task β} (member : task ∈ m.unsettled) :
    task ∈ l.unsettled := by
  cases entry with
  | none | refuse | close | raise | read => exact member
  | accept => simp at same
  | fetch i batch inside untouched brought =>
      rw [Ledger.mem_unsettled] at member ⊢
      dsimp only at member
      rcases member with ⟨j, bound, held⟩ | left | queued
      · by_cases own : j = i
        · subst own
          rw [Function.update_self, List.mem_append] at held
          rcases held with held | fetched
          · exact .inl ⟨j, bound, held⟩
          · rw [brought] at fetched
            exact .inr (.inr (List.mem_of_mem_take fetched))
        · rw [Function.update_of_ne own] at held
          exact .inl ⟨j, bound, held⟩
      · exact .inr (.inl left)
      · exact .inr (.inr (List.mem_of_mem_drop queued))
  | finish i next rest outcome inside current =>
      rw [Ledger.mem_unsettled] at member ⊢
      dsimp only at member
      rcases member with ⟨j, bound, held⟩ | away
      · by_cases own : j = i
        · subst own
          rw [Function.update_self] at held
          have older : task ∈ l.left j := current ▸ List.mem_cons_of_mem _ held
          exact .inl ⟨j, bound, older⟩
        · rw [Function.update_of_ne own] at held
          exact .inl ⟨j, bound, held⟩
      · exact .inr away
  | remove =>
      rw [Ledger.mem_unsettled] at member ⊢
      dsimp only at member
      rcases member with held | ⟨tasks, taken, left⟩ | none
      · exact .inl held
      · rcases List.mem_append.mp taken with before | now
        · exact .inr (.inl ⟨tasks, before, left⟩)
        · rw [List.mem_singleton.mp now] at left
          exact .inr (.inr left)
      · cases none
  | drop k leftovers taken =>
      rw [Ledger.mem_unsettled] at member ⊢
      dsimp only at member
      rcases member with held | ⟨tasks, still, left⟩ | queued
      · exact .inl held
      · exact .inr (.inl ⟨tasks, List.mem_of_mem_eraseIdx still, left⟩)
      · exact .inr (.inr queued)

/-- Each channel that was opened belongs to one task. -/
def Ledger.Owned (l : Ledger β ρ) : Prop := l.owned.Perm (List.range l.channels.next)

theorem Ledger.Owned.inside {l : Ledger β ρ} (owned : l.Owned) {c : Nat} (member : c ∈ l.owned) :
    c < l.channels.next :=
  List.mem_range.mp (owned.mem_iff.mp member)

theorem Ledger.Owned.inside_of_unsettled {l : Ledger β ρ} (owned : l.Owned) {task : Task β}
    (member : task ∈ l.unsettled) {c : Nat} (channel : task.channel = some c) :
    c < l.channels.next :=
  owned.inside ((l.mem_owned c).mpr (.inr (.inr ⟨task, member, channel⟩)))

theorem Reachable.owned {s : State β ρ} (reached : Reachable settings queueId s) :
    s.ledger.Owned := by
  have all := reached.settled_perm.filterMap Job.channel
  rwa [reached.channels_eq] at all

theorem Ledger.Owned.apart {l : Ledger β ρ} (owned : l.Owned) {task : Task β}
    (member : task ∈ l.unsettled) {c : Nat} (channel : task.channel = some c) :
    ∀ other ∈ l.ran.map Ran.task ++ l.dropped, other.channel ≠ some c := by
  intro other settled same
  have distinct : l.owned.Nodup := owned.nodup_iff.mpr List.nodup_range
  rw [Ledger.owned, List.filterMap_append, List.nodup_append] at distinct
  have theirs := List.mem_filterMap.mpr ⟨other, settled, same⟩
  have mine := List.mem_filterMap.mpr ⟨task, member, channel⟩
  exact distinct.2.2 c theirs c mine rfl

theorem Ledger.unsettled_of_current {l : Ledger β ρ} {i : Nat} {task : Task β}
    {rest : List (Task β)} (bound : i < l.workers) (current : l.left i = task :: rest) :
    task ∈ l.unsettled := by
  have held : task ∈ l.left i := current ▸ List.mem_cons_self
  exact (l.mem_unsettled task).mpr (.inl ⟨i, bound, held⟩)

theorem State.unsettled_of_busy (s : State β ρ) {i : Nat} {w : Worker (Numbered β)} {task : Task β}
    (here : s.pool.worker? i = some w) (current : w.batch.head? = some task)
    (post : s.posts i = .busy) : task ∈ s.ledger.unsettled := by
  obtain ⟨rest, batch⟩ := List.head?_eq_some_iff.mp current
  have inside : i < s.pool.workers.length := (List.getElem?_eq_some_iff.mp here).1
  apply Ledger.unsettled_of_current inside
  change s.left i = task :: rest
  rw [s.left_eq here, post]
  exact batch

theorem Ledger.Owned.slot_finish {l : Ledger β ρ} (owned : l.Owned) {i : Nat} {task : Task β}
    {rest : List (Task β)} (bound : i < l.workers) (current : l.left i = task :: rest)
    (outcome : Outcome ρ) (c : Nat) :
    (keepPromise task outcome l.channels).slot c =
      if task.channel = some c then .ready outcome.result else l.channels.slot c := by
  apply keepPromise_slot
  intro d channel
  exact owned.inside_of_unsettled (Ledger.unsettled_of_current bound current) channel

theorem Entry.slot_settled {l m : Ledger β ρ} (entry : Entry l m) (owned : l.Owned)
    (resolved : Resolved l) {c : Nat} (inside : c < l.channels.next)
    (settled : l.channels.slot c ≠ .pending) :
    (m.channels.slot c = l.channels.slot c ∧ (c ∈ m.retrieved ↔ c ∈ l.retrieved)) ∨
      ((∃ outcome, l.channels.slot c = .ready outcome) ∧ m.channels.slot c = .taken ∧
        c ∈ m.retrieved) := by
  cases entry with
  | none | refuse | fetch | close | raise | remove => exact .inl ⟨rfl, .rfl⟩
  | accept call => exact .inl ⟨call.openChannel_slot _ inside, .rfl⟩
  | finish i task rest outcome bound current =>
      have running := Ledger.unsettled_of_current bound current
      have other : task.channel ≠ some c := fun mine =>
        settled (resolved.unsettled task running c mine)
      have slot := owned.slot_finish bound current outcome c
      rw [if_neg other] at slot
      exact .inl ⟨slot, .rfl⟩
  | drop k leftovers taken =>
      have slot := dropTasks_slot leftovers l.channels c
      rw [Channels.abandon_settled settled, ite_self] at slot
      exact .inl ⟨slot, .rfl⟩
  | read d =>
      have slot := l.channels.slot_read d c
      by_cases same : c = d
      · subst same
        rw [if_pos rfl] at slot
        cases before : l.channels.slot c with
        | pending => exact absurd before settled
        | ready outcome =>
            rw [before] at slot
            exact .inr ⟨⟨outcome, rfl⟩, slot, by simp⟩
        | abandoned | taken =>
            rw [before] at slot
            exact .inl ⟨slot, .rfl⟩
      · rw [if_neg same] at slot
        refine .inl ⟨slot, ?_⟩
        cases l.channels.slot d <;> simp [same]

theorem Entry.slot_unsettled {l m : Ledger β ρ} (entry : Entry l m) (owned : l.Owned)
    (resolved : Resolved l) (after : m.Owned) {task : Task β} (member : task ∈ m.unsettled)
    {c : Nat} (channel : task.channel = some c) : m.channels.slot c = .pending := by
  have apart := after.apart member channel
  have before (older : task ∈ l.unsettled) := resolved.unsettled task older c channel
  have kept (same : m.admitted = l.admitted) := before (entry.unsettled_subset same member)
  cases entry with
  | none | refuse | fetch | close | raise | remove => exact kept rfl
  | accept call tasks these =>
      have both : task ∈ l.unsettled ∨ task ∈ tasks := by
        rw [Ledger.mem_unsettled] at member ⊢
        simpa [or_assoc] using member
      rcases both with older | fresh
      · have inside := owned.inside_of_unsettled older channel
        exact (call.openChannel_slot _ inside).trans (before older)
      · rw [these] at fresh
        exact call.openChannel_pending _ _ fresh channel
  | finish i other rest outcome bound current =>
      have different : other.channel ≠ some c := apart other (by simp)
      have slot := owned.slot_finish bound current outcome c
      rw [if_neg different] at slot
      exact slot.trans (kept rfl)
  | drop k leftovers taken =>
      have different : ¬∃ other ∈ leftovers, other.channel = some c := by
        rintro ⟨other, left, same⟩
        exact apart other (by simp [left]) same
      have slot := dropTasks_slot leftovers l.channels c
      rw [if_neg different] at slot
      exact slot.trans (kept rfl)
  | read d =>
      have slot := l.channels.slot_read d c
      rw [kept rfl] at slot
      simpa [Slot.read] using slot

theorem Entry.slot_ran {l m : Ledger β ρ} (entry : Entry l m) (owned : l.Owned)
    (resolved : Resolved l) {run : Ran β ρ} (member : run ∈ m.ran) (fresh : run ∉ l.ran) {c : Nat}
    (channel : run.task.channel = some c) :
    m.channels.slot c = .ready run.outcome.result ∧ c ∉ m.retrieved := by
  cases entry with
  | finish i task rest outcome bound current =>
      have last := (List.mem_append.mp member).resolve_left fresh
      cases List.mem_singleton.mp last
      have slot := owned.slot_finish bound current outcome c
      rw [if_pos channel] at slot
      constructor
      · exact slot
      · intro taken
        have running := Ledger.unsettled_of_current bound current
        have pending := resolved.unsettled task running c channel
        rw [resolved.retrieved c taken] at pending
        cases pending
  | _ => exact absurd member fresh

theorem Entry.slot_dropped {l m : Ledger β ρ} (entry : Entry l m) (resolved : Resolved l)
    {task : Task β} (member : task ∈ m.dropped) (fresh : task ∉ l.dropped) {c : Nat}
    (channel : task.channel = some c) : m.channels.slot c = .abandoned := by
  cases entry with
  | drop k leftovers taken =>
      have left := (List.mem_append.mp member).resolve_left fresh
      have leaving : task ∈ l.unsettled :=
        (l.mem_unsettled task).mpr (.inr (.inl ⟨leftovers, List.mem_of_getElem? taken, left⟩))
      have slot := dropTasks_slot leftovers l.channels c
      rw [if_pos ⟨task, left, channel⟩, resolved.unsettled task leaving c channel] at slot
      exact slot
  | _ => exact absurd member fresh

theorem Entry.slot_retrieved {l m : Ledger β ρ} (entry : Entry l m) {c : Nat}
    (member : c ∈ m.retrieved) (fresh : c ∉ l.retrieved) : m.channels.slot c = .taken := by
  cases entry with
  | read d =>
      have read := l.channels.slot_read d c
      cases slot : l.channels.slot d with
      | ready outcome =>
          simp only [slot, List.mem_append, List.mem_singleton] at member
          cases member.resolve_left fresh
          rw [if_pos rfl, slot] at read
          exact read
      | pending | abandoned | taken =>
          simp only [slot] at member
          exact absurd member fresh
  | _ => exact absurd member fresh

theorem Entry.slot_kept {l m : Ledger β ρ} (entry : Entry l m) (owned : l.Owned)
    (resolved : Resolved l) {c : Nat} (inside : c < l.channels.next) {slot : Slot ρ}
    (before : l.channels.slot c = slot) (settled : slot ≠ .pending)
    (without : ∀ outcome, slot ≠ .ready outcome) : m.channels.slot c = slot := by
  subst before
  rcases entry.slot_settled owned resolved inside settled with ⟨kept, _⟩ | ⟨⟨outcome, ready⟩, _⟩
  · exact kept
  · exact absurd ready (without outcome)

theorem Entry.resolved {l m : Ledger β ρ} (entry : Entry l m) (owned : l.Owned) (after : m.Owned)
    (resolved : Resolved l) : Resolved m where
  unsettled := by
    intro task member c channel
    exact entry.slot_unsettled owned resolved after member channel
  ran := by
    intro run member c channel
    by_cases old : run ∈ l.ran
    · have slot := resolved.ran run old c channel
      have inside := owned.inside ((l.mem_owned c).mpr (.inl ⟨run, old, channel⟩))
      have settled : l.channels.slot c ≠ .pending := by
        rw [slot]
        split <;> simp
      rcases entry.slot_settled owned resolved inside settled with ⟨kept, same⟩ | ⟨_, taken, read⟩
      · rw [kept, slot]
        simp only [same]
      · rw [taken, if_pos read]
    · obtain ⟨slot, unread⟩ := entry.slot_ran owned resolved member old channel
      rw [slot, if_neg unread]
  dropped := by
    intro task member c channel
    by_cases old : task ∈ l.dropped
    · have slot := resolved.dropped task old c channel
      have inside := owned.inside ((l.mem_owned c).mpr (.inr (.inl ⟨task, old, channel⟩)))
      exact entry.slot_kept owned resolved inside slot (by simp) (by simp)
    · exact entry.slot_dropped resolved member old channel
  retrieved := by
    intro c member
    by_cases old : c ∈ l.retrieved
    · have slot := resolved.retrieved c old
      have inside := l.channels.inside_of_slot (c := c) (by simp [slot])
      exact entry.slot_kept owned resolved inside slot (by simp) (by simp)
    · exact entry.slot_retrieved member old

theorem Reachable.resolved {s : State β ρ} (reached : Reachable settings queueId s) :
    Resolved s.ledger := by
  apply reached.invariant (P := fun s => Resolved s.ledger)
  · have none : (State.start settings queueId : State β ρ).ledger.unsettled = [] := by
      apply List.eq_nil_iff_forall_not_mem.mpr
      intro task member
      rcases (Ledger.mem_unsettled _ task).mp member with ⟨i, _, held⟩ | ⟨_, left, _⟩ | queued
      · change task ∈ (State.start settings queueId : State β ρ).left i at held
        rw [State.left_start] at held
        cases held
      · cases left
      · cases queued
    constructor
    · simp [none]
    · intro _ ran
      cases ran
    · intro _ dropped
      cases dropped
    · intro _ retrieved
      cases retrieved
  · intro s a t reached step before
    -- Were a channel of two tasks, the one would settle it and the other still be unsettled.
    exact (step.entry reached).resolved reached.owned (reached.step step).owned before

theorem Step.retrieved {s t : State β ρ} {a : Action β ρ} (step : Step s a t) {c : Nat}
    (fresh : c ∉ s.retrieved) (member : c ∈ t.retrieved) : a = .read c := by
  cases step with
  | offer token call =>
      rcases s.offer_cases token call with ⟨_, _, _, result⟩ | ⟨_, _, result⟩ <;>
        exact absurd (by rwa [result] at member) fresh
  | read d =>
      simp only [State.read] at member
      split at member
      · rw [List.mem_append, List.mem_singleton] at member
        rw [member.resolve_left fresh]
      · exact absurd member fresh
  | _ => exact absurd member fresh

theorem Step.ready {s t : State β ρ} {a : Action β ρ} (reached : Reachable settings queueId s)
    (step : Step s a t) {c : Nat} {outcome : Except TaskFailure ρ}
    (ready : s.channels.slot c = .ready outcome) :
    t.channels.slot c = .ready outcome ∨ a = .read c ∧ t.channels.slot c = .taken := by
  have resolved := reached.resolved
  have inside := s.channels.inside_of_slot (c := c) (by simp [ready])
  have settled : s.ledger.channels.slot c ≠ .pending := by
    intro pending
    cases ready.symm.trans pending
  have entry := step.entry reached
  rcases entry.slot_settled reached.owned resolved inside settled with ⟨kept, _⟩ | ⟨_, taken, read⟩
  · exact .inl (kept.trans ready)
  · have fresh : c ∉ s.retrieved := by
      intro before
      cases ready.symm.trans (resolved.retrieved c before)
    exact .inr ⟨step.retrieved fresh read, taken⟩

theorem Entry.settled {l m : Ledger β ρ} (entry : Entry l m) (closed : l.queue.closed = true)
    (none : l.unsettled = []) : m.unsettled = [] := by
  have same : m.admitted = l.admitted := by
    cases entry with
    | accept call tasks these opened => simp [closed] at opened
    | _ => rfl
  apply List.eq_nil_iff_forall_not_mem.mpr
  intro task member
  have before := entry.unsettled_subset same member
  simp [none] at before

theorem Reachable.settled_of_returned {s t : State β ρ} {actions : List (Action β ρ)}
    (reached : Reachable settings queueId s) (late : s.early < s.returned)
    (alone : s.joining = []) (run : Run s actions t) :
    Reachable settings queueId t ∧ t.ledger.unsettled = [] := by
  have exited := reached.allExited_of_joined (.inr (.inr (Nat.zero_lt_of_lt late)))
  have ⟨closed, empty⟩ := reached.empty_of_late (Nat.lt_add_right _ late)
  have none : s.ledger.unsettled = [] := by
    change s.lefts ++ (s.joining.map Leaving.tasks).flatten ++ s.pool.queue.items = []
    rw [reached.lefts_of_allExited exited, alone, empty]
    rfl
  have kept : ∀ {s t : State β ρ} {a : Action β ρ}, Step s a t →
      Reachable settings queueId s ∧ s.ledger.queue.closed = true ∧ s.ledger.unsettled = [] →
      Reachable settings queueId t ∧ t.ledger.queue.closed = true ∧ t.ledger.unsettled = [] := by
    rintro s t a step ⟨reached, closed, none⟩
    have entry := step.entry reached
    exact ⟨reached.step step, entry.closed closed, entry.settled closed none⟩
  have after := run.preserves kept ⟨reached, closed, none⟩
  exact ⟨after.1, after.2.2⟩

/-- The slot of a channel is determined by where its task is. -/
structure State.Resolution (s : State β ρ) : Prop where
  channels : s.admitted.flatten.filterMap Job.channel = List.range s.channels.next
  pending : ∀ task ∈ s.admitted.flatten, ∀ c, task.channel = some c →
    (s.channels.slot c = .pending ↔
      task ∈ s.pool.queue.items ∨ (∃ i, task ∈ s.left i) ∨
        ∃ leaving ∈ s.joining, task ∈ leaving.tasks)
  ran : ∀ run ∈ s.ran, ∀ c, run.task.channel = some c →
    s.channels.slot c = if c ∈ s.retrieved then .taken else .ready run.outcome.result
  dropped : ∀ task ∈ s.dropped, ∀ c, task.channel = some c → s.channels.slot c = .abandoned
  read : ∀ a t, Step s a t → ∀ c outcome, s.channels.slot c = .ready outcome →
    t.channels.slot c = .ready outcome ∨ a = .read c ∧ t.channels.slot c = .taken

theorem State.mem_unsettled (s : State β ρ) (task : Task β) :
    task ∈ s.ledger.unsettled ↔ task ∈ s.pool.queue.items ∨ (∃ i, task ∈ s.left i) ∨
      ∃ leaving ∈ s.joining, task ∈ leaving.tasks := by
  have bound : (∃ i < s.pool.workers.length, task ∈ s.left i) ↔ ∃ i, task ∈ s.left i := by
    apply exists_congr
    intro i
    apply and_iff_right_of_imp
    intro held
    cases here : s.pool.worker? i with
    | none => simp [State.left, here] at held
    | some w => exact (List.getElem?_eq_some_iff.mp here).1
  rw [Ledger.mem_unsettled]
  change (∃ i < s.pool.workers.length, task ∈ s.left i) ∨
    (∃ tasks ∈ s.joining.map Leaving.tasks, task ∈ tasks) ∨ task ∈ s.pool.queue.items ↔ _
  rw [bound]
  simp only [List.mem_map, exists_exists_and_eq_and]
  exact or_rotate.symm

theorem Reachable.pending_iff {s : State β ρ} (reached : Reachable settings queueId s)
    {task : Task β} (member : task ∈ s.admitted.flatten) {c : Nat}
    (channel : task.channel = some c) :
    s.channels.slot c = .pending ↔ task ∈ s.ledger.unsettled := by
  have resolved := reached.resolved
  constructor
  · intro pending
    have placed := reached.settled_perm.mem_iff.mpr member
    rw [List.mem_append, List.mem_append] at placed
    rcases placed with (ended | dropped) | unsettled
    · obtain ⟨run, ran, rfl⟩ := List.mem_map.mp ended
      have slot := pending.symm.trans (resolved.ran run ran c channel)
      split at slot <;> cases slot
    · cases pending.symm.trans (resolved.dropped task dropped c channel)
    · exact unsettled
  · intro unsettled
    exact resolved.unsettled task unsettled c channel

/-- The channels of a pool say what has become of the tasks, and none of them keeps a reader
waiting once a join that came after a stop has returned. -/
theorem Reachable.resolution {s : State β ρ} (reached : Reachable settings queueId s) :
    s.Resolution ∧
      (s.early < s.returned → s.joining = [] →
        ∀ actions t, Run s actions t → ∀ c < t.channels.next, (t.channels.read c).1.isSome) := by
  have resolved := reached.resolved
  have pending : ∀ task ∈ s.admitted.flatten, ∀ c, task.channel = some c →
      (s.channels.slot c = .pending ↔
        task ∈ s.pool.queue.items ∨ (∃ i, task ∈ s.left i) ∨
          ∃ leaving ∈ s.joining, task ∈ leaving.tasks) := by
    intro task member c channel
    rw [reached.pending_iff member channel, s.mem_unsettled]
  constructor
  · exact ⟨reached.channels_eq, pending, resolved.ran, resolved.dropped,
      fun a t step c outcome ready => step.ready reached ready⟩
  · intro late alone actions t run c inside
    obtain ⟨reached, none⟩ := reached.settled_of_returned late alone run
    have opened : c ∈ t.admitted.flatten.filterMap Job.channel := by
      rw [reached.channels_eq]
      exact List.mem_range.mpr inside
    obtain ⟨task, member, channel⟩ := List.mem_filterMap.mp opened
    have settled : t.channels.slot c ≠ .pending := by
      intro pending
      have unsettled := (reached.pending_iff member channel).mp pending
      simp [none] at unsettled
    rw [Channels.read, Slot.read_isSome_iff]
    exact Channels.isReady_of_settled settled

theorem resolution_after_join : ∃ s : State Unit Nat,
    Reachable { workers := .fixed 1, batchSize := 2, stopPolicy := .abandon } 0 s ∧
      s.early < s.returned ∧ s.joining = [] ∧
      s.channels.slots.toList = [.taken, .ready (.ok 7), .abandoned] ∧
      s.Resolution ∧ ∀ c < s.channels.next, (s.channels.read c).1.isSome := by
  have reached : Reachable { workers := .fixed 1, batchSize := 2, stopPolicy := .abandon } 0
      (_ : State Unit Nat) :=
    .of_replay? [.offer none (.schedule ()), .offer none (.schedule ()), .enter 0, .fetch 0,
      .begin 0, .offer none (.schedule ()), .close, .finish 0 (.panicked (.text "late")), .raise,
      .report 0, .count 0, .begin 0, .read 0, .finish 0 (.returned 7), .report 0, .count 0,
      .check 0, .await, .takeLeftovers, .countLeftovers 0, .dropLeftovers 0] rfl
  exact ⟨_, reached, by decide, rfl, rfl, reached.resolution.1,
    reached.resolution.2 (by decide) rfl [] _ (.nil _)⟩

end WorkerPool.Pool.Interleaving
