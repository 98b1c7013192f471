import WorkerPool.Proofs.EventLoop.Step

namespace WorkerPool.EventLoop

variable {α : Type}

theorem push_eq_tryPush (l : EventLoop α) (item : α) (free : l.collection.addWaits = false) :
    l.push item = some (l.tryPush item) := by
  rw [push, l.collection.add_eq_tryAdd item free]
  rfl

theorem push_eq_none (l : EventLoop α) (item : α) (waits : l.collection.addWaits = true) :
    l.push item = none := by
  rw [push, (l.collection.add_eq_none_iff item).mpr waits]
  rfl

theorem finish_eq {ρ : Type} (l : EventLoop α) (i : Nat) (outcome : Outcome ρ) :
    ∃ events, l.finish i outcome =
      { l.modifyWorker i fun w => { w with current := none, consumed := w.consumed + 1 } with
        events } := by
  cases outcome with
  | returned _ => exact ⟨l.events, rfl⟩
  | panicked _ => exact ⟨_, rfl⟩

theorem take_cases {l next : EventLoop α} {i : Nat} {w : LoopWorker α} (here : l.worker? i = some w)
    (result : l.take i = some next) :
    (∃ item rest, l.collection.items = item :: rest ∧
      next = { l with collection := { l.collection with items := rest } }.modifyWorker i
        fun w => { w with current := some item }) ∨
      l.collection.isCompleted = true ∧ ∃ events, next =
        { l.modifyWorker i fun w => { w with exited := true } with events } := by
  cases items : l.collection.items with
  | cons item rest =>
      simp only [take, Collection.take, items] at result
      exact .inl ⟨item, rest, rfl, (Option.some.inj result).symm⟩
  | nil =>
      cases completed : l.collection.addingCompleted with
      | false =>
          simp only [take, Collection.take, items, completed] at result
          cases result
      | true =>
          simp only [take, Collection.take, items, completed, here] at result
          refine .inr ⟨by simp [Collection.isCompleted, Collection.isEmpty, items, completed], ?_⟩
          exact ⟨_, (Option.some.inj result).symm⟩

end WorkerPool.EventLoop

namespace WorkerPool.EventLoop.Interleaving

variable {α ρ : Type}

namespace State

def accept (s : State α ρ) (item : Item α) : State α ρ :=
  { s with
    loop.collection.items := s.loop.collection.items ++ [item]
    accepted := s.accepted ++ [item] }

def refuse (s : State α ρ) (item : Item α) (reason : Collection.Refusal) : State α ρ :=
  { s with refused := s.refused ++ [⟨item, ⟨reason, item⟩⟩] }

inductive Answered (s : State α ρ) (item : Item α) : State α ρ → Prop
  | accepted (opened : s.loop.collection.addingCompleted = false) : Answered s item (s.accept item)
  | refused (reason : Collection.Refusal)
      (completed : s.loop.collection.addingCompleted = true → reason = .completed) :
      Answered s item (s.refuse item reason)

theorem answered (s : State α ρ) (item : Item α) :
    s.Answered item (s.answer item (s.loop.tryPush item)) := by
  cases completed : s.loop.collection.addingCompleted with
  | true =>
      simp only [EventLoop.tryPush, Collection.tryAdd, completed]
      exact .refused _ fun _ => rfl
  | false =>
      cases full : s.loop.collection.isFull with
      | true =>
          simp only [EventLoop.tryPush, Collection.tryAdd, completed, full]
          exact .refused _ (by simp [completed])
      | false =>
          rw [EventLoop.tryPush,
            (s.loop.collection.tryAdd_ok_iff _ item).mpr ⟨completed, full, rfl⟩]
          exact .accepted completed

theorem push_cases (s : State α ρ) (caller : Caller) (body : α) :
    (s.loop.collection.addingCompleted = false ∧ s.push caller body =
      { s with
        offered := s.offered + 1
        blocked := s.blocked ++ [⟨caller, ⟨s.offered, body⟩⟩] }) ∨
      Answered { s with offered := s.offered + 1 } ⟨s.offered, body⟩ (s.push caller body) := by
  cases waits : s.loop.collection.addWaits with
  | true =>
      have opened : s.loop.collection.addingCompleted = false := by
        simp only [Collection.addWaits, Bool.and_eq_true, Bool.not_eq_true'] at waits
        exact waits.2
      refine .inl ⟨opened, ?_⟩
      simp only [State.push, s.loop.push_eq_none _ waits]
  | false =>
      refine .inr ?_
      simp only [State.push, s.loop.push_eq_tryPush _ waits]
      exact answered { s with offered := s.offered + 1 } _

theorem wake_cases (s : State α ρ) (k : Nat) (push : Blocked α) :
    (s.loop.collection.addingCompleted = false ∧ s.wake k push = s) ∨
      Answered { s with blocked := s.blocked.eraseIdx k } push.item (s.wake k push) := by
  cases waits : s.loop.collection.addWaits with
  | true =>
      have opened : s.loop.collection.addingCompleted = false := by
        simp only [Collection.addWaits, Bool.and_eq_true, Bool.not_eq_true'] at waits
        exact waits.2
      refine .inl ⟨opened, ?_⟩
      simp only [State.wake, s.loop.push_eq_none _ waits]
  | false =>
      refine .inr ?_
      simp only [State.wake, s.loop.push_eq_tryPush _ waits]
      exact answered { s with blocked := s.blocked.eraseIdx k } _

theorem tryPush_answered (s : State α ρ) (body : α) :
    Answered { s with offered := s.offered + 1 } ⟨s.offered, body⟩ (s.tryPush body) :=
  answered { s with offered := s.offered + 1 } _

end State

theorem take_eq {s : State α ρ} {i : Nat} {w : LoopWorker (Item α)} {item : Item α}
    {loop : EventLoop (Item α)} (here : s.loop.worker? i = some w) (free : w.current = none)
    (result : s.loop.take i = some loop)
    (given : (loop.worker? i).bind LoopWorker.current = some item) :
    ∃ rest, s.loop.collection.items = item :: rest ∧
      loop = { s.loop with collection := { s.loop.collection with items := rest } }.modifyWorker i
        fun w => { w with current := some item } := by
  rcases take_cases here result with ⟨first, rest, items, rfl⟩ | ⟨_, events, rfl⟩
  · have same : first = item := by
      simpa [worker?, modifyWorker, show s.loop.workers[i]? = some w from here] using given
    exact ⟨rest, same ▸ items, by rw [same]⟩
  · simp [worker?, modifyWorker, show s.loop.workers[i]? = some w from here, free] at given

theorem exit_eq {s : State α ρ} {i : Nat} {w : LoopWorker (Item α)} {loop : EventLoop (Item α)}
    (here : s.loop.worker? i = some w) (result : s.loop.take i = some loop)
    (given : (loop.worker? i).bind LoopWorker.current = none) :
    s.loop.collection.isCompleted = true ∧ ∃ events, loop =
      { s.loop.modifyWorker i fun w => { w with exited := true } with events } := by
  rcases take_cases here result with ⟨first, rest, items, rfl⟩ | ended
  · simp [worker?, modifyWorker, show s.loop.workers[i]? = some w from here] at given
  · exact ended

inductive Offer (s : State α ρ) : Item α → State α ρ → Prop
  | fresh (body : α) : Offer s ⟨s.offered, body⟩ { s with offered := s.offered + 1 }
  | again (k : Nat) (push : Blocked α) (asleep : s.blocked[k]? = some push) :
      Offer s push.item { s with blocked := s.blocked.eraseIdx k }

/-- All that a step can change. -/
inductive Change (s : State α ρ) : State α ρ → Prop
  | quiet (events : List Event) (returned : Nat) :
      Change s { s with loop := { s.loop with events }, returned }
  | asleep (caller : Caller) (body : α) (opened : s.loop.collection.addingCompleted = false) :
      Change s { s with
        offered := s.offered + 1
        blocked := s.blocked ++ [⟨caller, ⟨s.offered, body⟩⟩] }
  | answered (item : Item α) (u : State α ρ) {t : State α ρ} (offer : Offer s item u)
      (result : u.Answered item t) : Change s t
  | stop : Change s { s with loop.collection.addingCompleted := true }
  | take (i : Nat) (w : LoopWorker (Item α)) (item : Item α) (rest : List (Item α))
      (here : s.loop.worker? i = some w) (free : w.current = none) (running : w.exited = false)
      (items : s.loop.collection.items = item :: rest) :
      Change s { s with
        loop.collection.items := rest
        loop.workers := s.loop.workers.modify i fun w => { w with current := some item }
        taken := s.taken ++ [(i, item)] }
  | exit (i : Nat) (w : LoopWorker (Item α)) (events : List Event)
      (here : s.loop.worker? i = some w) (free : w.current = none) (running : w.exited = false)
      (completed : s.loop.collection.isCompleted = true) :
      Change s { s with
        loop.workers := s.loop.workers.modify i fun w => { w with exited := true }
        loop.events := events }
  | pass (i : Nat) (w : LoopWorker (Item α)) (item : Item α) (here : s.loop.worker? i = some w)
      (current : w.current = some item) (held : s.consuming i = false) :
      Change s { s with
        consuming := Function.update s.consuming i true
        passed := s.passed ++ [(i, item)] }
  | finish (i : Nat) (w : LoopWorker (Item α)) (item : Item α) (outcome : Outcome ρ)
      (events : List Event) (here : s.loop.worker? i = some w) (current : w.current = some item)
      (inside : s.consuming i = true) :
      Change s { s with
        loop.workers := s.loop.workers.modify i fun w =>
          { w with current := none, consumed := w.consumed + 1 }
        loop.events := events
        consuming := Function.update s.consuming i false
        finished := s.finished ++ [((i, item), outcome)] }

theorem Step.change {s t : State α ρ} {a : Action α ρ} (step : Step s a t) : Change s t := by
  cases step with
  | push caller body free =>
      rcases s.push_cases caller body with ⟨opened, result⟩ | result
      · rw [result]
        exact .asleep caller body opened
      · exact .answered _ _ (.fresh body) result
  | tryPush caller body free => exact .answered _ _ (.fresh body) (s.tryPush_answered body)
  | wake k push asleep =>
      rcases s.wake_cases k push with ⟨_, result⟩ | result
      · rw [result]
        exact .quiet s.loop.events s.returned
      · exact .answered _ _ (.again k push asleep) result
  | stop caller free => exact .stop
  | selfJoin i free => exact .quiet _ s.returned
  | join exited => exact .quiet s.loop.events _
  | take i w item loop here free running result given =>
      obtain ⟨rest, items, rfl⟩ := take_eq here free result given
      exact .take i w item rest here free running items
  | exit i w loop here free running result given =>
      obtain ⟨completed, events, rfl⟩ := exit_eq here result given
      exact .exit i w events here free running completed
  | pass i w item here current held => exact .pass i w item here current held
  | finish i w item outcome here current free =>
      obtain ⟨events, result⟩ := s.loop.finish_eq i outcome
      rw [State.finish, result]
      exact .finish i w item outcome events here current free.1

theorem Reachable.changes {settings : LoopSettings} {P : State α ρ → Prop} {s : State α ρ}
    (reached : Reachable settings s) (initial : P (State.start settings))
    (keep : ∀ {s t}, Change s t → P s → P t) : P s :=
  reached.invariant initial fun step => keep step.change

end WorkerPool.EventLoop.Interleaving
