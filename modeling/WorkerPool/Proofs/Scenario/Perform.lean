import WorkerPool.Proofs.Scenario.Identities

namespace WorkerPool.Scenario

namespace World

theorem orGone_identities (w : World) {α : Type} (found : Option α)
    (f : α → Option (World × Reply))
    (same : ∀ a, found = some a → ∀ r, f a = some r → r.1.identities = w.identities) :
    (w.orGone (found.bind f)).1.identities = w.identities := by
  cases found with
  | none => rfl
  | some a =>
      cases result : f a with
      | none => simp [orGone, result]
      | some r => simpa [orGone, result] using same a rfl r result

theorem view_identities {α : Type} (w : World) (parts : Registry α) (name : String)
    (f : α → Value) : (w.view parts name f).1.identities = w.identities := by
  unfold view
  cases parts.find? name <;> rfl

theorem performBarrier_identities (w : World) (op : BarrierOp) :
    (w.performBarrier op).1.identities = w.identities := by
  cases op with
  | create => rfl
  | remaining | expected => exact w.view_identities _ _ _
  | notify =>
      apply orGone_identities
      intro _ _ r result
      dsimp only at result
      split at result <;> cases result <;> rfl
  | wait | waitTimeout =>
      apply orGone_identities
      intro _ _ r result
      cases result
      rfl

theorem performExecutor_identities (w : World) (op : ExecutorOp) :
    (w.performExecutor op).1.identities = w.identities := by
  cases op with
  | create => rfl
  | length | isEmpty | describe => exact w.view_identities _ _ _
  | defer | run | runOne =>
      apply orGone_identities
      intro _ _ r result
      cases result
      rfl

theorem performSignal_identities (w : World) (op : SignalOp) :
    (w.performSignal op).1.identities = w.identities := by
  cases op with
  | create => rfl
  | isTriggered | describe => exact w.view_identities _ _ _
  | clone | trigger =>
      apply orGone_identities
      intro _ _ r result
      cases result
      rfl

theorem performTask_identities (w : World) (op : TaskOp) :
    (w.performTask op).1.identities = w.identities := by
  cases op <;> rfl

theorem performCollection_identities (w : World) (op : CollectionOp) :
    (w.performCollection op).1.identities = w.identities := by
  cases op with
  | create name capacity =>
      simp only [performCollection]
      split <;> rfl
  | isAddingCompleted | isCompleted | length | isEmpty | capacity | describe =>
      exact w.view_identities _ _ _
  | tryAdd =>
      apply orGone_identities
      intro _ _ r result
      dsimp only at result
      split at result <;> cases result <;> rfl
  | add | take | tryTake | complete =>
      apply orGone_identities
      intro _ _ r result
      cases result
      rfl

theorem dropPromise_identities (w : World) (name : String) :
    (w.dropPromise name).identities = w.identities := by
  unfold dropPromise
  split <;> rfl

theorem performChannel_identities (w : World) (op : ChannelOp) :
    (w.performChannel op).1.identities = w.identities := by
  cases op with
  | create name => exact w.dropPromise_identities name
  | fulfill | fail | complete | dropPromise | dropChannel | showPromise | isReady | describe
  | tryTake | waitTimeout | wait =>
      apply orGone_identities
      intro _ _ r result
      cases result
      rfl

theorem spawn_identities {τ : Type} (w : World) (threads : List τ) (thread : τ → Thread) :
    (threads.foldl (fun w i => w.spawn (thread i)) w).identities = w.identities := by
  induction threads generalizing w with
  | nil => rfl
  | cons i rest ih => exact ih (w.spawn (thread i))

theorem joinLoop_identities (w : World) (t : Thread) (place : Nat) :
    (w.joinLoop t place).1.identities = w.identities := by
  unfold joinLoop
  split
  · exact w.modifyLoop_identities place EventLoop.selfJoin
  · rfl

theorem stopLoop_identities (w : World) (place : Nat) :
    (w.stopLoop place).identities = w.identities := w.modifyLoop_identities place EventLoop.stop

theorem startLoop_identities (w : World) (t : Thread) (name : String) (settings : LoopSettings) :
    (w.startLoop t name settings).1.identities = w.identities := by
  have spawned (u : World) (place : Nat) (same : u.identities = w.identities) :
      (u.spawnLoopWorkers place settings).identities = w.identities :=
    (u.spawn_identities _ _).trans same
  unfold startLoop
  dsimp only
  split
  · rw [joinLoop_identities, stopLoop_identities]
    exact spawned _ _ rfl
  · exact spawned _ _ rfl

theorem performLoop_identities (w : World) (t : Thread) (op : LoopOp) :
    (w.performLoop t op).1.identities = w.identities := by
  cases op with
  | create name settings =>
      simp only [performLoop, createLoop]
      split
      · rfl
      · split
        · rfl
        · exact w.startLoop_identities t name settings
  | tryPush =>
      apply orGone_identities
      intro _ _ r result
      dsimp only at result
      split at result <;> cases result <;> rfl
  | push =>
      apply orGone_identities
      intro _ _ r result
      cases result
      rfl
  | stop =>
      apply orGone_identities
      intro _ _ r result
      cases result
      exact w.stopLoop_identities _
  | join =>
      apply orGone_identities
      intro _ _ r result
      cases result
      exact w.joinLoop_identities t _
  | stopJoin =>
      apply orGone_identities
      intro _ _ r result
      cases result
      rw [joinLoop_identities, joinLoop_identities, stopLoop_identities]
  | drop =>
      apply orGone_identities
      intro _ _ r result
      cases result
      rw [joinLoop_identities, stopLoop_identities]
      rfl
  | length | isEmpty | isStopped | workerCount | capacity | describe =>
      exact w.view_identities _ _ _

theorem enqueue_identities (w : World) (queue : String) (token : Option String) (item : Value) :
    (w.enqueue queue token item).1.identities = w.identities := by
  apply orGone_identities
  rintro ⟨place, q⟩ found r result
  have here := Registry.get?_of_find? found
  obtain ⟨named, given, rest⟩ := Option.bind_eq_some_iff.mp result
  cases named with
  | none =>
      dsimp only at rest
      split at rest
      · next accepted =>
          cases rest
          exact setQueue_of_found here (Queue.enqueue_id accepted)
      · cases rest
        rfl
  | some token =>
      dsimp only at rest
      split at rest
      · next accepted =>
          cases rest
          obtain ⟨queue, producer⟩ := Queue.enqueueWith_ids accepted
          rw [← setQueue_of_found here queue]
          exact setProducer_of_found (producer?_found given) producer
      · cases rest
        rfl
      · cases rest
        rfl

theorem enqueueBulk_identities (w : World) (queue : String) (token : Option String)
    (batch : List Value) : (w.enqueueBulk queue token batch).1.identities = w.identities := by
  apply orGone_identities
  rintro ⟨place, q⟩ found r result
  have here := Registry.get?_of_find? found
  obtain ⟨named, given, rest⟩ := Option.bind_eq_some_iff.mp result
  cases named with
  | none =>
      dsimp only at rest
      split at rest
      · next accepted =>
          cases rest
          exact setQueue_of_found here (Queue.enqueueBulk_id accepted)
      · cases rest
        rfl
  | some token =>
      dsimp only at rest
      split at rest
      · next accepted =>
          cases rest
          obtain ⟨queue, producer⟩ := Queue.enqueueBulkWith_ids accepted
          rw [← setQueue_of_found here queue]
          exact setProducer_of_found (producer?_found given) producer
      · cases rest
        rfl
      · cases rest
        rfl

theorem dequeue_identities (w : World) (queue : String) (token : Option String) (max : Nat)
    (timeout : Duration) (out : List Value) :
    (w.dequeue queue token max timeout out).1.identities = w.identities := by
  apply orGone_identities
  rintro ⟨place, q⟩ _ r result
  cases token with
  | none =>
      cases result
      rfl
  | some name =>
      obtain ⟨⟨t, consumer⟩, _, rest⟩ := Option.bind_eq_some_iff.mp result
      dsimp only at rest
      split at rest <;> cases rest <;> rfl

theorem performQueue_identities (w : World) (op : QueueOp) (plain : op.makes = false) :
    (w.performQueue op).1.identities = w.identities := by
  cases op with
  | create | producer | consumer => cases plain
  | enqueued | dequeued | showProducer | showConsumer | isClosed | length | isEmpty | capacity
  | describe => exact w.view_identities _ _ _
  | enqueue queue token item => exact w.enqueue_identities queue token item
  | enqueueBulk queue token batch => exact w.enqueueBulk_identities queue token batch
  | dequeue queue token max timeout out => exact w.dequeue_identities queue token max timeout out
  | tryDequeue =>
      apply orGone_identities
      rintro ⟨place, q⟩ found r result
      dsimp only at result
      split at result
      · next item next taken =>
          cases result
          apply setQueue_of_found (Registry.get?_of_find? found)
          simp only [Queue.tryDequeue] at taken
          split at taken <;> cases taken
          rfl
      · cases result
        rfl
  | close | drain =>
      apply orGone_identities
      rintro ⟨place, q⟩ found r result
      cases result
      exact setQueue_of_found (Registry.get?_of_find? found) rfl
  | owns =>
      apply orGone_identities
      rintro ⟨place, q⟩ _ r result
      obtain ⟨_, _, same⟩ := Option.bind_eq_some_iff.mp result
      cases same
      rfl

theorem stopPool_identities (w : World) (place : Nat) :
    (w.stopPool place).identities = w.identities := by
  apply w.modifyPool_identities place Pool.stop
  intro p
  exact p.close.trigger_id

theorem joinPool_identities (w : World) (t : Thread) (place : Nat) :
    (w.joinPool t place).1.identities = w.identities := by
  unfold joinPool
  split
  · exact w.modifyPool_identities place Pool.selfJoin fun _ => rfl
  · rfl

variable {w u : World} {place : Nat} {p : Pool Work} {token : Option (Nat × ProducerToken)}

theorem recordToken_identities {answer : Pool.Verdict} (same : u.identities = w.identities)
    (tokens : u.producers = w.producers)
    (found : ∀ k t, token = some (k, t) → w.producers.get? k = some t)
    (kept : ∀ after, answer = .ok (some after) →
      ∃ t, token.map (·.2) = some t ∧ after.queueId = t.queueId) :
    (u.recordToken token answer).identities = w.identities := by
  rw [← same]
  unfold recordToken
  split
  · next k t after =>
      obtain ⟨_, given, id⟩ := kept after rfl
      cases given
      have here := found k t rfl
      rw [← tokens] at here
      exact setProducer_of_found here id
  · rfl

theorem forget_identities (here : w.pools.get? place = some p)
    (found : ∀ k t, token = some (k, t) → w.producers.get? k = some t) (work : Work) :
    (w.forget place p token work).1.identities = w.identities := by
  have same := setPool_of_found here (p.submit_id (token.map (·.2)) ⟨work, none⟩)
  exact recordToken_identities same rfl found fun _ => p.submit_token _ _

theorem bulk_identities (here : w.pools.get? place = some p)
    (found : ∀ k t, token = some (k, t) → w.producers.get? k = some t)
    (bodies : List (List Value)) :
    (w.bulk place p token bodies).1.identities = w.identities := by
  have same := setPool_of_found here
    (p.submitBulk_id (token.map (·.2)) ((bodies.map Work.body).map (⟨·, none⟩)))
  exact recordToken_identities same rfl found fun _ => p.submitBulk_token _ _

theorem schedule_identities (here : w.pools.get? place = some p)
    (found : ∀ k t, token = some (k, t) → w.producers.get? k = some t) (channel : String)
    (work : Work) : (w.schedule place p token channel work).1.identities = w.identities := by
  have same := setPool_of_found here
    (p.submit_id (token.map (·.2)) ⟨work, some w.channels.next⟩)
  have kept (after : ProducerToken) :=
    p.submit_token (token.map (·.2)) ⟨work, some w.channels.next⟩ (t := after)
  unfold schedule Pool.schedule
  revert same kept
  cases p.submit (token.map (·.2)) ⟨work, some w.channels.next⟩ with
  | mk verdict next =>
      intro same kept
      cases verdict with
      | ok after =>
          have recorded := recordToken_identities (u := { w.setPool place next with
            channels := w.channels.create }) same rfl found kept
          exact (dropPromise_identities _ channel).trans recorded
      | error rejection => exact recordToken_identities same rfl found kept

theorem tokenFor_found (work : Work) (found : ∀ k t, token = some (k, t) →
    w.producers.get? k = some t) (k : Nat) (t : ProducerToken)
    (named : tokenFor work token = some (k, t)) : w.producers.get? k = some t := by
  cases work with
  | body => exact found k t named
  | call => cases named

theorem performPool_identities (w : World) (t : Thread) (op : PoolOp) (plain : op.makes = false) :
    (w.performPool t op).1.identities = w.identities := by
  have named {name : Option String} {token : Option (Nat × ProducerToken)}
      (given : w.producer? name = some token) (k : Nat) (t : ProducerToken)
      (same : token = some (k, t)) : w.producers.get? k = some t :=
    producer?_found (same ▸ given)
  cases op with
  | create | producer => cases plain
  | schedule name channel token work =>
      apply orGone_identities
      rintro ⟨place, p⟩ found r result
      obtain ⟨token, given, same⟩ := Option.bind_eq_some_iff.mp result
      cases same
      exact schedule_identities (Registry.get?_of_find? found)
        (tokenFor_found work (named given)) channel work
  | forget =>
      apply orGone_identities
      rintro ⟨place, p⟩ found r result
      obtain ⟨token, given, same⟩ := Option.bind_eq_some_iff.mp result
      cases same
      exact forget_identities (Registry.get?_of_find? found) (named given) _
  | bulk =>
      apply orGone_identities
      rintro ⟨place, p⟩ found r result
      obtain ⟨token, given, same⟩ := Option.bind_eq_some_iff.mp result
      cases same
      exact bulk_identities (Registry.get?_of_find? found) (named given) _
  | stats | queued | isStopped | showHandle => exact w.view_identities _ _ _
  | workerCount | settings | describe =>
      apply orGone_identities
      rintro place _ r result
      obtain ⟨_, _, same⟩ := Option.bind_eq_some_iff.mp result
      cases same
      rfl
  | stop =>
      apply orGone_identities
      rintro place _ r result
      cases result
      exact w.stopPool_identities place
  | join =>
      apply orGone_identities
      rintro place _ r result
      cases result
      exact w.joinPool_identities t place
  | stopJoin =>
      apply orGone_identities
      rintro place _ r result
      cases result
      rw [joinPool_identities, joinPool_identities, stopPool_identities, stopPool_identities]
  | drop =>
      apply orGone_identities
      rintro place _ r result
      cases result
      rw [joinPool_identities, stopPool_identities]
      rfl
  | bind =>
      apply orGone_identities
      rintro ⟨place, p⟩ _ r result
      cases result
      rfl
  | absent => rfl

theorem performCall_identities (w : World) (op : CallOp) :
    (w.performCall op).1.identities = w.identities := by
  cases op with
  | call name channel argument =>
      apply orGone_identities
      rintro ⟨place, f⟩ _ r result
      obtain ⟨p, here, same⟩ := Option.bind_eq_some_iff.mp result
      cases same
      exact schedule_identities here (by simp) channel _
  | forget name argument =>
      apply orGone_identities
      rintro ⟨place, f⟩ _ r result
      obtain ⟨p, here, same⟩ := Option.bind_eq_some_iff.mp result
      cases same
      exact forget_identities here (by simp) _
  | clone =>
      apply orGone_identities
      rintro ⟨place, f⟩ _ r result
      cases result
      rfl
  | pool | describe =>
      apply orGone_identities
      rintro ⟨place, f⟩ _ r result
      obtain ⟨p, here, same⟩ := Option.bind_eq_some_iff.mp result
      cases same
      rfl

theorem perform_identities (w : World) (t : Thread) (op : Op) (plain : op.makes = false) :
    (w.perform t op).1.identities = w.identities := by
  cases op with
  | log | readLog | blockedGates | nap | iterate | settings | unknown => rfl
  | release gate => cases gate <;> rfl
  | parallel threads => exact w.spawn_identities threads helper
  | blocked run => exact w.spawn_identities (run.map ([·])) helper
  | queue op => exact w.performQueue_identities op plain
  | channel op => exact w.performChannel_identities op
  | barrier op => exact w.performBarrier_identities op
  | executor op => exact w.performExecutor_identities op
  | signal op => exact w.performSignal_identities op
  | task op => exact w.performTask_identities op
  | pool op => exact w.performPool_identities t op plain
  | call op => exact w.performCall_identities op
  | collection op => exact w.performCollection_identities op
  | eventLoop op => exact w.performLoop_identities t op

end World

end WorkerPool.Scenario
