import WorkerPool.Proofs.Pool.Ledger

namespace WorkerPool.Pool.Interleaving

variable {β ρ : Type} {settings : PoolSettings} {queueId : Nat}

theorem Reachable.ledger {P : Ledger β ρ → Prop} {s : State β ρ}
    (reached : Reachable settings queueId s) (initial : P (State.start settings queueId).ledger)
    (keep : ∀ {l m}, Entry l m → P l → P m) : P s.ledger :=
  reached.invariant (P := fun s => P s.ledger) initial fun reached step holds =>
    keep (step.entry reached) holds

theorem Reachable.settings_eq {s : State β ρ} (reached : Reachable settings queueId s) :
    s.pool.settings = settings :=
  reached.ledger (P := fun l => l.settings = settings) rfl fun entry same => by
    cases entry <;> exact same

theorem Reachable.capacity_eq {s : State β ρ} (reached : Reachable settings queueId s) :
    s.pool.queue.capacity = settings.capacity :=
  reached.ledger (P := fun l => l.queue.capacity = settings.capacity) rfl fun entry same => by
    cases entry <;> exact same

theorem Reachable.closed {s : State β ρ} (reached : Reachable settings queueId s)
    (stopped : s.pool.signal.raised = true ∨ 0 < s.stopping) : s.pool.queue.closed = true := by
  have kept := reached.ledger
    (P := fun l => l.raised = true ∨ 0 < l.stopping → l.queue.closed = true)
  apply kept
  · simp [State.ledger, State.holding, State.start, Pool.start]
  · intro l m entry before
    cases entry with
    | close => exact fun _ => rfl
    | raise closing => exact fun _ => before (.inr closing)
    | _ => exact before
  · exact stopped

theorem Reachable.raised_of_closed {s : State β ρ} (reached : Reachable settings queueId s)
    (closed : s.pool.queue.closed = true) (none : s.stopping = 0) :
    s.pool.signal.raised = true := by
  have kept := reached.ledger
    (P := fun l => l.queue.closed = true → l.raised = true ∨ 0 < l.stopping) ?_ ?_
  · exact (kept closed).resolve_right (Nat.not_lt_of_le (Nat.le_of_eq none))
  · exact fun opened => nomatch opened
  · intro l m entry before
    cases entry with
    | close => exact fun _ => .inr (Nat.succ_pos _)
    | raise => exact fun _ => .inl rfl
    | _ => exact before

theorem Entry.raised {l m : Ledger β ρ} (entry : Entry l m) (raised : l.raised = true) :
    m.raised = true := by
  cases entry <;> first | exact raised | rfl

theorem Entry.closed {l m : Ledger β ρ} (entry : Entry l m) (closed : l.queue.closed = true) :
    m.queue.closed = true := by
  cases entry <;> first | exact closed | rfl

theorem Entry.emptied {l m : Ledger β ρ} (entry : Entry l m) (closed : l.queue.closed = true)
    (empty : l.queue.items = []) : m.queue.items = [] := by
  cases entry with
  | accept call tasks these opened => simp [closed] at opened
  | fetch => simp [empty]
  | remove => rfl
  | _ => exact empty

theorem Step.raised {s t : State β ρ} {a : Action β ρ} (reached : Reachable settings queueId s)
    (step : Step s a t) (raised : s.pool.signal.raised = true) : t.pool.signal.raised = true :=
  (step.entry reached).raised raised

/-- What a worker does about the signal, it does after the signal was raised. -/
def Informed (raised : Bool) (w : Worker (Numbered β)) : Prop :=
  w.draining = true ∨ w.stage = .exited → raised = true

theorem check_informed {w : Worker (Numbered β)} {raised : Bool} (policy : StopPolicy)
    (informed : Informed raised w) : Informed raised (w.check raised policy) := by
  unfold Worker.check
  split
  · next n stage =>
      by_cases last : (w.draining && n == 0) = true
      · simp only [last, if_true]
        have draining : w.draining = true := by
          simp only [Bool.and_eq_true] at last
          exact last.1
        exact fun _ => informed (.inl draining)
      · simp only [last]
        cases raised with
        | true => exact fun _ => rfl
        | false =>
            intro seen
            simp only [Bool.not_false, if_true] at seen
            exact informed (.inl (by simpa using seen))
  · exact informed

theorem Stride.informed {s : State β ρ} {i : Nat} {a : Action β ρ} {w w' : Worker (Numbered β)}
    {post post' : Post ρ} (stride : Stride s i a w post w' post')
    (informed : Informed s.pool.signal.raised w) : Informed s.pool.signal.raised w' := by
  cases stride with
  | elsewhere | enter | begin | finish | report | count => exact informed
  | fetch => exact fun seen => informed (.inl (by simpa using seen))
  | check => exact check_informed _ informed

theorem Reachable.informed {s : State β ρ} (reached : Reachable settings queueId s)
    (roomy : settings.roomy = true) :
    ∀ i w, s.pool.worker? i = some w → Informed s.pool.signal.raised w := by
  apply reached.everyWorker (P := fun s w _ => Informed s.pool.signal.raised w)
  · intro w fresh
    simp [Informed, fresh.2.1, fresh.2.2, roomy]
  · intro s t a i w w' reached step _ stride before seen
    exact step.raised reached (stride.informed before seen)

theorem Reachable.raised_of_exited {s : State β ρ} (reached : Reachable settings queueId s)
    (roomy : settings.roomy = true) {i : Nat} {w : Worker (Numbered β)}
    (here : s.pool.worker? i = some w) (exited : w.stage = .exited) :
    s.pool.signal.raised = true :=
  reached.informed roomy i w here (.inr exited)

theorem manned_of_valid (valid : settings.validate = .ok ()) :
    0 < settings.workers.count ∧ 0 < settings.batchSize := by
  unfold PoolSettings.validate at valid
  split at valid
  · cases valid
  · next manned =>
      split at valid
      · cases valid
      · next batches => exact ⟨Nat.pos_of_ne_zero manned, Nat.pos_of_ne_zero batches⟩

theorem Reachable.stopped_of_allExited {s : State β ρ} (reached : Reachable settings queueId s)
    (manned : 0 < settings.workers.count) (roomy : settings.roomy = true)
    (exited : s.pool.allExited = true) :
    s.pool.signal.raised = true ∧ s.pool.queue.closed = true := by
  obtain ⟨w, here⟩ := reached.worker_zero manned
  have raised := reached.raised_of_exited roomy here ((Pool.allExited_iff _).mp exited 0 w here)
  exact ⟨raised, reached.closed (.inl raised)⟩

/-- Of the joins that have found the workers gone, some came after a stop. -/
def State.Late (s : State β ρ) : Prop := s.early < s.returned + s.joining.length

theorem Entry.early_le {l m : Ledger β ρ} (entry : Entry l m) : l.early ≤ m.early := by
  cases entry with
  | remove =>
      dsimp only
      split <;> omega
  | _ => exact Nat.le_refl _

theorem Reachable.early_le {s : State β ρ} (reached : Reachable settings queueId s) :
    s.early ≤ s.returned + s.joining.length := by
  have kept := reached.ledger (P := fun l => l.early ≤ l.returned + l.leaving.length)
    (Nat.le_refl 0) ?_
  · simpa [State.ledger, State.holding] using kept
  · intro l m entry before
    cases entry with
    | remove =>
        rw [List.length_append, List.length_singleton]
        dsimp only
        split <;> omega
    | drop k leftovers taken =>
        have inside := (List.getElem?_eq_some_iff.mp taken).1
        rw [List.length_eraseIdx_of_lt inside]
        dsimp only
        omega
    | _ => exact before

theorem Reachable.empty_of_late {s : State β ρ} (reached : Reachable settings queueId s)
    (late : s.Late) : s.pool.queue.closed = true ∧ s.pool.queue.items = [] := by
  have kept := reached.ledger (P := fun l => l.early < l.returned + l.leaving.length →
    l.queue.closed = true ∧ l.queue.items = [])
  -- A late join finds the queue closed, and a closed queue that is empty stays so.
  refine kept (fun none => absurd none (Nat.lt_irrefl 0)) ?_ ?_
  · intro l m entry before after
    cases entry with
    | accept call tasks these opened => simp [opened] at before after; omega
    | fetch => exact ⟨(before after).1, by simp [(before after).2]⟩
    | close => exact ⟨rfl, (before after).2⟩
    | remove =>
        refine ⟨?_, rfl⟩
        by_contra opened
        simp only [opened, if_false, List.length_append, List.length_singleton] at after
        exact opened (before (by omega)).1
    | drop k leftovers taken =>
        have inside := (List.getElem?_eq_some_iff.mp taken).1
        simp only [List.length_eraseIdx_of_lt inside] at after
        exact before (by omega)
    | _ => exact before after
  · simpa [State.Late, State.ledger, State.holding] using late

theorem Reachable.joins_pos {s : State β ρ} (reached : Reachable settings queueId s)
    (joined : s.Joined) : 0 < s.returned + s.joining.length := by
  have kept := reached.ledger (P := fun l => l.removed ≠ [] → 0 < l.returned + l.leaving.length)
  rcases joined with removed | joining | returned
  · have some := kept (fun some => absurd rfl some) ?_ removed
    · simpa [State.ledger, State.holding] using some
    · intro l m entry before after
      cases entry with
      | remove =>
          rw [List.length_append, List.length_singleton]
          exact Nat.succ_pos _
      | drop => exact Nat.add_pos_left (Nat.succ_pos _) _
      | _ => exact before after
  · exact Nat.add_pos_right _ (List.length_pos_iff.mpr joining)
  · exact Nat.add_pos_left returned _

theorem Reachable.empty_of_joined {s : State β ρ} (reached : Reachable settings queueId s)
    (punctual : s.early = 0) (joined : s.Joined) :
    s.pool.queue.closed = true ∧ s.pool.queue.items = [] := by
  apply reached.empty_of_late
  rw [State.Late, punctual]
  exact reached.joins_pos joined

/-- Workers that have room wait for a stop, so no join can end before one. -/
theorem Reachable.punctual {s : State β ρ} (reached : Reachable settings queueId s)
    (manned : 0 < settings.workers.count) (roomy : settings.roomy = true) : s.early = 0 := by
  apply reached.invariant (P := fun s => s.early = 0)
  · rfl
  · intro s a t reached step before
    cases step with
    | takeLeftovers _ exited =>
        have closed := (reached.stopped_of_allExited manned roomy exited).2
        simp [State.takeLeftovers, closed, before]
    | offer token call =>
        rcases s.offer_cases token call with ⟨_, _, _, result⟩ | ⟨_, _, result⟩ <;> rwa [result]
    | _ => exact before

end WorkerPool.Pool.Interleaving
