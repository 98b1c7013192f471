import WorkerPool.Proofs.Scenario.Births

namespace WorkerPool.Scenario

namespace Sound

variable {ids : Identities} {b : Births}

theorem distinct (sound : Sound ids b) {m other : Maker} {id : Nat} (here : ids.id? m = some id)
    (there : ids.id? other = some id) : m = other := by
  cases id with
  | zero => exact absurd here (sound.positive m)
  | succ k =>
      have same := ((sound.known m k).mp here).symm.trans ((sound.known other k).mp there)
      simpa using same

theorem maker_of_token {tokens : List Nat} {makers : List Maker}
    (carried : List.Forall₂ (fun id m => ids.id? m = some id) tokens makers) {k carries : Nat}
    (token : tokens[k]? = some carries) : ∃ m, makers[k]? = some m := by
  have covered := (List.getElem?_eq_some_iff.mp token).1
  rw [carried.length_eq] at covered
  exact ⟨_, List.getElem?_eq_getElem covered⟩

theorem maker_iff (sound : Sound ids b) {tokens : List Nat} {makers : List Maker}
    (carried : List.Forall₂ (fun id m => ids.id? m = some id) tokens makers) {k carries id : Nat}
    {m : Maker} (token : tokens[k]? = some carries) (known : ids.id? m = some id) :
    carries = id ↔ makers[k]? = some m := by
  induction carried generalizing k with
  | nil => simp at token
  | cons first rest ih =>
      cases k with
      | succ k => exact ih token
      | zero =>
          cases token
          simp only [List.getElem?_cons_zero, Option.some.injEq]
          constructor
          · rintro rfl
            exact sound.distinct first known
          · rintro rfl
            exact Option.some.inj (first.symm.trans known)

end Sound

namespace World

variable {w : World} {b : Births} {place k : Nat}

theorem owns_iff (sound : Sound w.identities b) {q : Queue Value} {t : ProducerToken}
    (here : w.queues.get? place = some q) (given : w.producers.get? k = some t) :
    q.owns t = true ↔ b.producers[k]? = some (.queue place) := by
  have known : w.identities.id? (.queue place) = some q.id := by
    rw [identities_id?, queueId?, here, Option.map_some]
  rw [Queue.owns, beq_iff_eq]
  apply sound.maker_iff sound.producers _ known
  simpa [identities, Registry.get?] using ⟨t, given, rfl⟩

theorem ownsConsumer_iff (sound : Sound w.identities b) {q : Queue Value} {t : ConsumerToken}
    (here : w.queues.get? place = some q) (given : w.consumers.get? k = some t) :
    q.ownsConsumer t = true ↔ b.consumers[k]? = some (.queue place) := by
  have known : w.identities.id? (.queue place) = some q.id := by
    rw [identities_id?, queueId?, here, Option.map_some]
  rw [Queue.ownsConsumer, beq_iff_eq]
  apply sound.maker_iff sound.consumers _ known
  simpa [identities, Registry.get?] using ⟨t, given, rfl⟩

theorem accepts_iff (sound : Sound w.identities b) {p : Pool Work} {t : ProducerToken}
    (here : w.pools.get? place = some p) (given : w.producers.get? k = some t) :
    p.accepts (some t) = true ↔ b.producers[k]? = some (.pool place) := by
  have known : w.identities.id? (.pool place) = some p.queue.id := by
    rw [identities_id?, queueId?, here, Option.map_some]
  rw [Pool.accepts, Option.all_some, Queue.owns, beq_iff_eq]
  apply sound.maker_iff sound.producers _ known
  simpa [identities, Registry.get?] using ⟨t, given, rfl⟩

def foreignAnswer : Reply := .answer (.panicked (ForeignToken.message ⟨⟩))

variable {queue token : String} {q : Queue Value} {producer : ProducerToken}
  {consumer : ConsumerToken}

theorem enqueue_own (here : w.queues.find? queue = some (place, q))
    (given : w.producers.find? token = some (k, producer)) (own : q.owns producer = true)
    (item : Value) :
    (w.enqueue queue (some token) item).2 = (w.enqueue queue none item).2 := by
  simp only [enqueue, here, producer?, given, orGone]
  cases result : q.enqueue item <;> simp [Queue.enqueueWith, own, result, Except.map, done]

theorem enqueue_foreign (here : w.queues.find? queue = some (place, q))
    (given : w.producers.find? token = some (k, producer)) (other : q.owns producer = false)
    (item : Value) : w.enqueue queue (some token) item = (w, foreignAnswer) := by
  simp [enqueue, here, producer?, given, Queue.enqueueWith, other, orGone, World.foreign, done,
    foreignAnswer]

theorem enqueueBulk_own (here : w.queues.find? queue = some (place, q))
    (given : w.producers.find? token = some (k, producer)) (own : q.owns producer = true)
    (batch : List Value) :
    (w.enqueueBulk queue (some token) batch).2 = (w.enqueueBulk queue none batch).2 := by
  simp only [enqueueBulk, here, producer?, given, orGone]
  cases result : q.enqueueBulk batch <;>
    simp [Queue.enqueueBulkWith, own, result, Except.map, done]

theorem enqueueBulk_foreign (here : w.queues.find? queue = some (place, q))
    (given : w.producers.find? token = some (k, producer)) (other : q.owns producer = false)
    (batch : List Value) : w.enqueueBulk queue (some token) batch = (w, foreignAnswer) := by
  simp [enqueueBulk, here, producer?, given, Queue.enqueueBulkWith, other, orGone, World.foreign,
    done, foreignAnswer]

theorem dequeue_own (here : w.queues.find? queue = some (place, q))
    (given : w.consumers.find? token = some (k, consumer)) (own : q.ownsConsumer consumer = true)
    (max : Nat) (timeout : Duration) (out : List Value) :
    w.dequeue queue (some token) max timeout out =
      (w, .wait (.items place (some k) max out) (some timeout)) := by
  simp [dequeue, here, given, own, orGone]

theorem dequeue_foreign (here : w.queues.find? queue = some (place, q))
    (given : w.consumers.find? token = some (k, consumer))
    (other : q.ownsConsumer consumer = false) (max : Nat) (timeout : Duration)
    (out : List Value) : w.dequeue queue (some token) max timeout out = (w, foreignAnswer) := by
  simp [dequeue, here, given, other, orGone, World.foreign, done, foreignAnswer]

theorem resumeFetch_own (here : w.queues.get? place = some q)
    (given : w.consumers.get? k = some consumer) (own : q.ownsConsumer consumer = true)
    (max : Nat) (out : List Value) :
    (w.resumeFetch place (some k) max out).2 = (w.resumeFetch place none max out).2 := by
  have fresh : q.ownsConsumer q.consumer = true := beq_self_eq_true q.id
  simp [resumeFetch, here, World.consumer, given, Queue.fetchWith, own, fresh]

theorem resumeFetch_foreign (here : w.queues.get? place = some q)
    (given : w.consumers.get? k = some consumer) (other : q.ownsConsumer consumer = false)
    (max : Nat) (out : List Value) :
    w.resumeFetch place (some k) max out = (w, .panicked (ForeignToken.message ⟨⟩)) := by
  simp [resumeFetch, here, World.consumer, given, Queue.fetchWith, other]

variable {pool : String} {p : Pool Work}

def turnedAway (p : Pool Work) (tasks : Nat) (event : Event) : Pool Work :=
  { p with stats := p.stats.reject tasks, events := p.events ++ [event] }

theorem schedule_foreign (other : p.accepts (some producer) = false) (channel : String)
    (body : List Value) :
    w.schedule place p (some (k, producer)) channel (.body body) =
      (w.setPool place (turnedAway p 1 .taskForeign),
        .answer (Failure.schedule .foreignToken).answer) := by
  simp [schedule, Pool.schedule, Pool.submit, Pool.offer, other, Pool.verdict, Pool.tally,
    Pool.Decision.taskEvent?, recordToken, done, turnedAway, setPool]

theorem forget_foreign (other : p.accepts (some producer) = false) (work : Work) :
    w.forget place p (some (k, producer)) work =
      (w.setPool place (turnedAway p 1 .taskForeign), .answer (.bool false)) := by
  simp [forget, Pool.forget, Pool.submit, Pool.offer, other, Pool.verdict, Pool.tally,
    Pool.Decision.taskEvent?, recordToken, done, turnedAway, admitted]

theorem bulk_foreign (other : p.accepts (some producer) = false) (bodies : List (List Value)) :
    w.bulk place p (some (k, producer)) bodies =
      (w.setPool place (turnedAway p bodies.length (.bulkForeign bodies.length)),
        .answer (.bool false)) := by
  simp [bulk, Pool.bulk, Pool.submitBulk, Pool.offerBulk, other, Pool.verdict, Pool.tally,
    Pool.Decision.bulkEvent?, recordToken, done, turnedAway, admitted]

theorem schedule_own (own : p.accepts (some producer) = true) (channel : String)
    (body : List Value) :
    (w.schedule place p (some (k, producer)) channel (.body body)).2 =
      (w.schedule place p none channel (.body body)).2 := by
  have free : p.accepts none = true := rfl
  simp only [schedule, Pool.schedule, Pool.submit, Pool.offer, Option.map_some, Option.map_none,
    own, free, if_true]
  cases p.queue.enqueue ⟨.body body, some w.channels.next⟩ with
  | ok => rfl
  | error refused =>
      obtain ⟨reason, item⟩ := refused
      cases reason <;> rfl

theorem forget_own (own : p.accepts (some producer) = true) (work : Work) :
    (w.forget place p (some (k, producer)) work).2 = (w.forget place p none work).2 := by
  have free : p.accepts none = true := rfl
  simp only [forget, Pool.forget, Pool.submit, Pool.offer, Option.map_some, Option.map_none, own,
    free, if_true, done]
  cases p.queue.enqueue ⟨work, none⟩ <;> rfl

theorem bulk_own (own : p.accepts (some producer) = true) (bodies : List (List Value)) :
    (w.bulk place p (some (k, producer)) bodies).2 = (w.bulk place p none bodies).2 := by
  have free : p.accepts none = true := rfl
  simp only [bulk, Pool.bulk, Pool.submitBulk, Pool.offerBulk, Option.map_some, Option.map_none,
    own, free, if_true, done]
  cases p.queue.enqueueBulk ((bodies.map Work.body).map (⟨·, none⟩)) <;> rfl

end World

structure Numbered (w : World) (b : Births) : Prop where
  count : w.queuesMade = b.queues.length
  ids : ∀ m id, w.queueId? m = some id ↔ ∃ k, id = k + 1 ∧ b.queues[k]? = some (some m)
  distinct : ∀ m other id, w.queueId? m = some id → w.queueId? other = some id → m = other
  refused : ∀ t pool settings e, settings.validate = .error e →
    w.perform t (.pool (.create pool settings)) = (w, .answer (Failure.pool e).answer) ∧
      w.record b (.pool (.create pool settings)) = b

structure Checked (w : World) (b : Births) : Prop where
  producers : ∀ k token, w.producers.get? k = some token → ∃ m, b.producers[k]? = some m
  consumers : ∀ k token, w.consumers.get? k = some token → ∃ m, b.consumers[k]? = some m
  owns : ∀ place q k token, w.queues.get? place = some q → w.producers.get? k = some token →
    (q.owns token = true ↔ b.producers[k]? = some (.queue place))
  ownsConsumer : ∀ place q k token, w.queues.get? place = some q →
    w.consumers.get? k = some token →
    (q.ownsConsumer token = true ↔ b.consumers[k]? = some (.queue place))
  accepts : ∀ place p k token, w.pools.get? place = some p → w.producers.get? k = some token →
    (p.accepts (some token) = true ↔ b.producers[k]? = some (.pool place))

/-- A use of a queue through a token is answered as one without it if the queue made the token;
if not, it panics and nothing has changed. -/
structure QueueGuarded (w : World) (b : Births) : Prop where
  enqueue : ∀ t queue token item place q k producer, w.queues.find? queue = some (place, q) →
    w.producers.find? token = some (k, producer) →
    if b.producers[k]? = some (.queue place) then
      (w.perform t (.queue (.enqueue queue (some token) item))).2 =
        (w.perform t (.queue (.enqueue queue none item))).2
    else w.perform t (.queue (.enqueue queue (some token) item)) = (w, World.foreignAnswer)
  enqueueBulk : ∀ t queue token batch place q k producer,
    w.queues.find? queue = some (place, q) → w.producers.find? token = some (k, producer) →
    if b.producers[k]? = some (.queue place) then
      (w.perform t (.queue (.enqueueBulk queue (some token) batch))).2 =
        (w.perform t (.queue (.enqueueBulk queue none batch))).2
    else w.perform t (.queue (.enqueueBulk queue (some token) batch)) = (w, World.foreignAnswer)
  dequeue : ∀ t queue token max timeout out place q k consumer,
    w.queues.find? queue = some (place, q) → w.consumers.find? token = some (k, consumer) →
    w.perform t (.queue (.dequeue queue (some token) max timeout out)) =
      if b.consumers[k]? = some (.queue place) then
        (w, .wait (.items place (some k) max out) (some timeout))
      else (w, World.foreignAnswer)
  fetch : ∀ place q k consumer max out, w.queues.get? place = some q →
    w.consumers.get? k = some consumer →
    if b.consumers[k]? = some (.queue place) then
      (w.resumeFetch place (some k) max out).2 = (w.resumeFetch place none max out).2
    else w.resumeFetch place (some k) max out = (w, .panicked (ForeignToken.message ⟨⟩))

/-- A submission through a token is answered as one without it if the token is the pool's; if not,
it is refused, and all that changes is what the pool counts and reports. -/
structure PoolGuarded (w : World) (b : Births) : Prop where
  schedule : ∀ t pool channel token body place p k producer,
    w.pools.find? pool = some (place, p) → w.producers.find? token = some (k, producer) →
    if b.producers[k]? = some (.pool place) then
      (w.perform t (.pool (.schedule pool channel (some token) (.body body)))).2 =
        (w.perform t (.pool (.schedule pool channel none (.body body)))).2
    else w.perform t (.pool (.schedule pool channel (some token) (.body body))) =
      (w.setPool place (World.turnedAway p 1 .taskForeign),
        .answer (Failure.schedule .foreignToken).answer)
  forget : ∀ t pool token body place p k producer,
    w.pools.find? pool = some (place, p) → w.producers.find? token = some (k, producer) →
    if b.producers[k]? = some (.pool place) then
      (w.perform t (.pool (.forget pool (some token) body))).2 =
        (w.perform t (.pool (.forget pool none body))).2
    else w.perform t (.pool (.forget pool (some token) body)) =
      (w.setPool place (World.turnedAway p 1 .taskForeign), .answer (.bool false))
  bulk : ∀ t pool token bodies place p k producer,
    w.pools.find? pool = some (place, p) → w.producers.find? token = some (k, producer) →
    if b.producers[k]? = some (.pool place) then
      (w.perform t (.pool (.bulk pool (some token) bodies))).2 =
        (w.perform t (.pool (.bulk pool none bodies))).2
    else w.perform t (.pool (.bulk pool (some token) bodies)) =
      (w.setPool place (World.turnedAway p bodies.length (.bulkForeign bodies.length)),
        .answer (.bool false))

section

variable {w : World} {b : Births}

theorem numbered_of_sound (sound : Sound w.identities b) : Numbered w b where
  count := sound.made
  ids m id := by
    rw [← w.identities_id?]
    constructor
    · intro here
      cases id with
      | zero => exact absurd here (sound.positive m)
      | succ k => exact ⟨k, rfl, (sound.known m k).mp here⟩
    · rintro ⟨k, rfl, made⟩
      exact (sound.known m k).mpr made
  distinct m other id here there := by
    rw [← w.identities_id?] at here there
    exact sound.distinct here there
  refused t pool settings e invalid := by
    simp [World.perform, World.performPool, World.createPool, World.record, invalid, World.done]

theorem checked_of_sound (sound : Sound w.identities b) : Checked w b where
  producers k token given := by
    have carried : w.identities.producers[k]? = some token.queueId := by
      simpa [World.identities, Registry.get?] using ⟨token, given, rfl⟩
    exact Sound.maker_of_token sound.producers carried
  consumers k token given := by
    have carried : w.identities.consumers[k]? = some token.queueId := by
      simpa [World.identities, Registry.get?] using ⟨token, given, rfl⟩
    exact Sound.maker_of_token sound.consumers carried
  owns _ _ _ _ here given := World.owns_iff sound here given
  ownsConsumer _ _ _ _ here given := World.ownsConsumer_iff sound here given
  accepts _ _ _ _ here given := World.accepts_iff sound here given

theorem queueGuarded_of_checked (checked : Checked w b) : QueueGuarded w b where
  enqueue t queue token item place q k producer here given := by
    have check := checked.owns place q k producer (Registry.get?_of_find? here)
      (Registry.get?_of_find? given)
    split
    · next own => exact World.enqueue_own here given (check.mpr own) item
    · next other => exact World.enqueue_foreign here given (by simpa [other] using check) item
  enqueueBulk t queue token batch place q k producer here given := by
    have check := checked.owns place q k producer (Registry.get?_of_find? here)
      (Registry.get?_of_find? given)
    split
    · next own => exact World.enqueueBulk_own here given (check.mpr own) batch
    · next other => exact World.enqueueBulk_foreign here given (by simpa [other] using check) batch
  dequeue t queue token max timeout out place q k consumer here given := by
    have check := checked.ownsConsumer place q k consumer (Registry.get?_of_find? here)
      (Registry.get?_of_find? given)
    split
    · next own => exact World.dequeue_own here given (check.mpr own) max timeout out
    · next other =>
        exact World.dequeue_foreign here given (by simpa [other] using check) max timeout out
  fetch place q k consumer max out here given := by
    have check := checked.ownsConsumer place q k consumer here given
    split
    · next own => exact World.resumeFetch_own here given (check.mpr own) max out
    · next other =>
        exact World.resumeFetch_foreign here given (by simpa [other] using check) max out

theorem poolGuarded_of_checked (checked : Checked w b) : PoolGuarded w b where
  schedule t pool channel token body place p k producer here given := by
    have check := checked.accepts place p k producer (Registry.get?_of_find? here)
      (Registry.get?_of_find? given)
    simp only [World.perform, World.performPool, World.orGone, here, World.producer?, given]
    split
    · next own => exact World.schedule_own (check.mpr own) channel body
    · next other => exact World.schedule_foreign (by simpa [other] using check) channel body
  forget t pool token body place p k producer here given := by
    have check := checked.accepts place p k producer (Registry.get?_of_find? here)
      (Registry.get?_of_find? given)
    simp only [World.perform, World.performPool, World.orGone, here, World.producer?, given]
    split
    · next own => exact World.forget_own (check.mpr own) (.body body)
    · next other => exact World.forget_foreign (by simpa [other] using check) (.body body)
  bulk t pool token bodies place p k producer here given := by
    have check := checked.accepts place p k producer (Registry.get?_of_find? here)
      (Registry.get?_of_find? given)
    simp only [World.perform, World.performPool, World.orGone, here, World.producer?, given]
    split
    · next own => exact World.bulk_own (check.mpr own) bodies
    · next other => exact World.bulk_foreign (by simpa [other] using check) bodies

/-- Whatever is made, named anew and used, by whichever thread: ids tell queues apart, and tokens
serve those that made them. -/
theorem Reachable.identity (reachable : Reachable w b) :
    Numbered w b ∧ Checked w b ∧ QueueGuarded w b ∧ PoolGuarded w b := by
  have checked := checked_of_sound reachable.sound
  exact ⟨numbered_of_sound reachable.sound, checked, queueGuarded_of_checked checked,
    poolGuarded_of_checked checked⟩

def renamedQueue : World × Births :=
  [Op.queue (.create "q" none), .queue (.producer "q" "t"), .queue (.create "q" none)].foldl
    (fun (w, b) op => ((w.perform (mainThread []) op).1, w.record b op)) (World.start {} [], {})

theorem identity_renamedQueue :
    Reachable renamedQueue.1 renamedQueue.2 ∧ renamedQueue.1.queueId? (.queue 1) = some 2 ∧
      renamedQueue.1.perform (mainThread []) (.queue (.enqueueBulk "q" (some "t") [])) =
        (renamedQueue.1, World.foreignAnswer) := by
  have reachable : Reachable renamedQueue.1 renamedQueue.2 :=
    (((Reachable.start {} []).perform (mainThread []) (.queue (.create "q" none))).perform
      (mainThread []) (.queue (.producer "q" "t"))).perform
      (mainThread []) (.queue (.create "q" none))
  have made : renamedQueue.2.queues = [some (.queue 0), some (.queue 1)] := rfl
  have tokens : renamedQueue.2.producers = [.queue 0] := by
    rfl
  obtain ⟨numbered, _, guarded, _⟩ := reachable.identity
  refine ⟨reachable, (numbered.ids (.queue 1) 2).mpr ⟨1, rfl, by simp [made]⟩, ?_⟩
  have foreign := guarded.enqueueBulk (mainThread []) "q" "t" [] 1 { id := 2 } 0 { queueId := 1 }
    rfl rfl
  simpa [tokens] using foreign

end

end WorkerPool.Scenario
