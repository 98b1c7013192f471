import Mathlib.Data.List.Forall2
import WorkerPool.Proofs.Scenario.Perform
import WorkerPool.Scenario.Run

namespace WorkerPool.Scenario

namespace World

theorem resumeFetch_identities (w : World) (queue : Nat) (token : Option Nat) (max : Nat)
    (out : List Value) : (w.resumeFetch queue token max out).1.identities = w.identities := by
  unfold resumeFetch
  split
  · rfl
  · next q here =>
      split
      · next fetched result =>
          unfold Queue.fetchWith at result
          split at result
          · cases result
            have taken : (q.fetch max).2.id = q.id := rfl
            rw [← setQueue_of_found here taken]
            cases token with
            | none => rfl
            | some k =>
                apply setConsumer_identities
                intro old there
                have given : w.consumer q (some k) = old := by
                  change w.consumers.get? k = some old at there
                  simp [consumer, there]
                rw [given]
                rfl
          · cases result
      · rfl

theorem resume_identities (w : World) (wait : Wait) :
    (w.resume wait).1.identities = w.identities := by
  cases wait with
  | items queue token max out => exact w.resumeFetch_identities queue token max out
  | barrier place timed => cases timed <;> rfl
  | room place item =>
      simp only [resume, replying, resumeAdd]
      split <;> rfl
  | item place =>
      simp only [resume, replying, resumeTake]
      split <;> rfl
  | loopRoom place item =>
      simp only [resume, replying, resumePush]
      split <;> rfl
  | poolExit place =>
      simp only [resume, resumeJoin]
      split
      · next p channels joined =>
          obtain ⟨old, here, result⟩ := Option.bind_eq_some_iff.mp joined
          exact setPool_of_found here (old.join_id p w.channels channels result)
      · rfl
  | outcome | loopExit | gate | helpers | nap | pause | rest => rfl

theorem proceedBody_identities (w : World) (t : Thread) (below : List Frame) (steps : List Value)
    (result : Value) : (w.proceedBody t below steps result).1.identities = w.identities := by
  cases steps with
  | nil => rfl
  | cons step rest =>
      simp only [proceedBody]
      cases BodyStep.ofValue w.machine step with
      | gate name =>
          dsimp only
          split <;> rfl
      | log | panic | result | threadName | perform => rfl

theorem proceed_identities (w : World) (t : Thread) :
    (w.proceed t).1.identities = w.identities := by
  unfold proceed
  split
  case h_4 => exact w.proceedBody_identities t _ _ _
  case h_9 =>
    unfold drainNext
    split <;> rfl
  case h_10 =>
    unfold close
    split
    · rfl
    · exact stopPool_identities _ _
    · exact stopLoop_identities _ _
    · rfl
  all_goals rfl

theorem accept_identities (w : World) (t : Thread) (answer : Value) :
    (w.accept t answer).1.identities = w.identities := by
  unfold accept
  split <;> rfl

theorem conclude_identities (w : World) (t : Thread) (outcome : Outcome Value) :
    (w.conclude t outcome).1.identities = w.identities := by
  unfold conclude
  split
  case h_4 pool worker below _ =>
    simp only [finishTask]
    split
    · next p here => exact setPool_of_found here (p.finish_id worker outcome w.channels)
    · rfl
  case h_5 => exact w.modifyLoop_identities _ _
  all_goals rfl

theorem stepPoolWorker_identities (w : World) (t : Thread) (pool worker : Nat) :
    (w.stepPoolWorker t pool worker).1.identities = w.identities := by
  unfold stepPoolWorker
  split
  · rfl
  · next p here =>
      split
      · exact setPool_of_found here rfl
      · split
        · rfl
        · exact setPool_of_found here (p.check_id worker)
      · rfl

theorem stepLoopWorker_identities (w : World) (t : Thread) (loop worker : Nat) :
    (w.stepLoopWorker t loop worker).1.identities = w.identities := by
  unfold stepLoopWorker
  split
  · rfl
  · dsimp only
    split
    · unfold startItem
      split <;> rfl
    · rfl

theorem stepThread_identities (w : World) (t : Thread)
    (idle : ∀ op, t.status ≠ .running (.perform op)) :
    (w.stepThread t).1.identities = w.identities := by
  unfold stepThread
  split
  · exact w.proceed_identities t
  · next op status => exact absurd status (idle op)
  · exact w.accept_identities t _
  · exact w.conclude_identities t _
  · exact w.resume_identities _
  · unfold stepWorker
    split
    · exact w.stepPoolWorker_identities t _ _
    · exact w.stepLoopWorker_identities t _ _
    · rfl
  · rfl

end World

/-- The queue that a token comes from: one of its own, or the one of a pool. -/
inductive Maker where
  | queue (place : Nat)
  | pool (place : Nat)
  deriving DecidableEq, Repr

structure Births where
  queues : List (Option Maker) := []
  producers : List Maker := []
  consumers : List Maker := []

namespace Births

def queue (b : Births) (m : Option Maker) : Births := { b with queues := b.queues ++ [m] }

def producer (b : Births) (m : Maker) : Births := { b with producers := b.producers ++ [m] }

def consumer (b : Births) (m : Maker) : Births := { b with consumers := b.consumers ++ [m] }

end Births

namespace World

def record (w : World) (b : Births) : Op → Births
  | .queue (.create _ _) => b.queue (some (.queue w.queues.next))
  | .queue (.producer queue _) =>
    match w.queues.find? queue with
    | some (place, _) => b.producer (.queue place)
    | none => b
  | .queue (.consumer queue _) =>
    match w.queues.find? queue with
    | some (place, _) => b.consumer (.queue place)
    | none => b
  | .pool (.create _ settings) =>
    match settings.validate, settings.obstacle? with
    | .error _, _ => b
    | .ok (), some _ => b.queue none
    | .ok (), none => b.queue (some (.pool w.pools.next))
  | .pool (.producer pool _) =>
    match w.pools.find? pool with
    | some (place, _) => b.producer (.pool place)
    | none => b
  | _ => b

end World

def Identities.id? (ids : Identities) : Maker → Option Nat
  | .queue place => ids.queues[place]?
  | .pool place => ids.pools[place]?

/-- The queues have the ids they were made under, and the tokens those of their makers. -/
structure Sound (ids : Identities) (b : Births) : Prop where
  made : ids.made = b.queues.length
  positive : ∀ m, ids.id? m ≠ some 0
  known : ∀ m k, ids.id? m = some (k + 1) ↔ b.queues[k]? = some (some m)
  producers : List.Forall₂ (fun id m => ids.id? m = some id) ids.producers b.producers
  consumers : List.Forall₂ (fun id m => ids.id? m = some id) ids.consumers b.consumers

theorem getElem?_snoc {α : Type} (l : List α) (a : α) (k : Nat) :
    (l ++ [a])[k]? = if k = l.length then some a else l[k]? := by
  rcases Nat.lt_trichotomy k l.length with before | same | beyond
  · rw [List.getElem?_append_left before, if_neg (Nat.ne_of_lt before)]
  · rw [if_pos same, same, List.getElem?_concat_length]
  · rw [if_neg (Nat.ne_of_gt beyond), List.getElem?_eq_none (Nat.le_of_lt beyond)]
    exact List.getElem?_eq_none (by simpa using Nat.succ_le_of_lt beyond)

namespace Sound

variable {ids next : Identities} {b : Births}

theorem lost (sound : Sound ids b) : Sound { ids with made := ids.made + 1 } (b.queue none) where
  made := by
    have same := sound.made
    simp [Births.queue, same]
  positive := sound.positive
  known m k := by
    change ids.id? m = some (k + 1) ↔ (b.queues ++ [none])[k]? = some (some m)
    rw [sound.known m k, getElem?_snoc]
    split
    · next last => simp [last]
    · rfl
  producers := sound.producers
  consumers := sound.consumers

theorem born (sound : Sound ids b) (fresh : Maker) (unused : ids.id? fresh = none)
    (made : next.made = ids.made + 1)
    (told : ∀ m, next.id? m = if m = fresh then some (ids.made + 1) else ids.id? m)
    (producers : next.producers = ids.producers) (consumers : next.consumers = ids.consumers) :
    Sound next (b.queue (some fresh)) := by
  have older (id : Nat) (m : Maker) (known : ids.id? m = some id) : next.id? m = some id := by
    rw [told, if_neg, known]
    rintro rfl
    cases unused.symm.trans known
  refine ⟨?_, ?_, ?_, ?_, ?_⟩
  · rw [made, sound.made]
    simp [Births.queue]
  · intro m
    rw [told]
    split
    · simp
    · exact sound.positive m
  · intro m k
    change next.id? m = some (k + 1) ↔ (b.queues ++ [some fresh])[k]? = some (some m)
    have absent : ∀ k : Nat, b.queues[k]? ≠ some (some fresh) := by
      intro k here
      cases unused.symm.trans ((sound.known fresh k).mpr here)
    rw [told, getElem?_snoc, sound.made]
    by_cases same : m = fresh
    · subst same
      by_cases last : k = b.queues.length
      · simp [last]
      · simp [last, absent k, Ne.symm last]
    · by_cases last : k = b.queues.length
      · simp [same, Ne.symm same, last, sound.known m]
      · simp [same, last, sound.known m k]
  · rw [producers]
    exact sound.producers.imp older
  · rw [consumers]
    exact sound.consumers.imp older

theorem queue (sound : Sound ids b) :
    Sound { ids with made := ids.made + 1, queues := ids.queues ++ [ids.made + 1] }
      (b.queue (some (.queue ids.queues.length))) := by
  refine sound.born _ (List.getElem?_eq_none (Nat.le_refl _)) rfl ?_ rfl rfl
  intro m
  cases m with
  | queue place =>
      simp only [Identities.id?, getElem?_snoc, Maker.queue.injEq]
  | pool place => rfl

theorem pool (sound : Sound ids b) :
    Sound { ids with made := ids.made + 1, pools := ids.pools ++ [ids.made + 1] }
      (b.queue (some (.pool ids.pools.length))) := by
  refine sound.born _ (List.getElem?_eq_none (Nat.le_refl _)) rfl ?_ rfl rfl
  intro m
  cases m with
  | queue place => rfl
  | pool place => simp only [Identities.id?, getElem?_snoc, Maker.pool.injEq]

theorem producer (sound : Sound ids b) {m : Maker} {id : Nat} (known : ids.id? m = some id) :
    Sound { ids with producers := ids.producers ++ [id] } (b.producer m) where
  made := sound.made
  positive := sound.positive
  known := sound.known
  producers := List.rel_append sound.producers (.cons known .nil)
  consumers := sound.consumers

theorem consumer (sound : Sound ids b) {m : Maker} {id : Nat} (known : ids.id? m = some id) :
    Sound { ids with consumers := ids.consumers ++ [id] } (b.consumer m) where
  made := sound.made
  positive := sound.positive
  known := sound.known
  producers := sound.producers
  consumers := List.rel_append sound.consumers (.cons known .nil)

end Sound

namespace World

variable {w : World} {b : Births}

def queueId? (w : World) : Maker → Option Nat
  | .queue place => (w.queues.get? place).map Queue.id
  | .pool place => (w.pools.get? place).map (·.queue.id)

theorem identities_id? (w : World) (m : Maker) : w.identities.id? m = w.queueId? m := by
  cases m <;> simp [Identities.id?, queueId?, identities, Registry.get?]

theorem startPool_identities (w : World) (t : Thread) (name : String) (settings : PoolSettings)
    (id : Nat) : (w.startPool t name settings id).1.identities =
      { w.identities with pools := w.identities.pools ++ [id] } := by
  have spawned (u : World) (same : u.pools = w.pools.add name (.start settings id))
      (others : u.identities = { w.identities with pools := u.identities.pools }) :
      (u.spawnPoolWorkers w.pools.next settings).identities =
        { w.identities with pools := w.identities.pools ++ [id] } := by
    rw [spawnPoolWorkers, spawn_identities, others]
    simp only [identities, same, Registry.map_add]
    rfl
  unfold startPool
  dsimp only
  split
  · rw [joinPool_identities, stopPool_identities]
    exact spawned _ rfl rfl
  · exact spawned _ rfl rfl

theorem performQueue_sound (sound : Sound w.identities b) (op : QueueOp) :
    Sound (w.performQueue op).1.identities (w.record b (.queue op)) := by
  by_cases plain : op.makes = false
  · rw [w.performQueue_identities op plain]
    cases op with
    | create | producer | consumer => cases plain
    | _ => exact sound
  cases op with
  | create name capacity =>
      have grown := sound.queue
      have places : w.identities.queues.length = w.queues.next := by
        simp [identities, Registry.next]
      rw [places] at grown
      simpa [performQueue, createQueue, done, record, identities, Registry.map_add] using grown
  | producer name token =>
      simp only [performQueue, orGone, record]
      cases found : w.queues.find? name with
      | none => exact sound
      | some entry =>
          obtain ⟨place, q⟩ := entry
          have known : w.identities.id? (.queue place) = some q.id := by
            rw [identities_id?, queueId?, Registry.get?_of_find? found, Option.map_some]
          simpa [done, identities, Registry.map_add, Queue.producer] using sound.producer known
  | consumer name token =>
      simp only [performQueue, orGone, record]
      cases found : w.queues.find? name with
      | none => exact sound
      | some entry =>
          obtain ⟨place, q⟩ := entry
          have known : w.identities.id? (.queue place) = some q.id := by
            rw [identities_id?, queueId?, Registry.get?_of_find? found, Option.map_some]
          simpa [done, identities, Registry.map_add, Queue.consumer] using sound.consumer known
  | _ => exact absurd rfl plain

theorem performPool_sound (sound : Sound w.identities b) (t : Thread) (op : PoolOp) :
    Sound (w.performPool t op).1.identities (w.record b (.pool op)) := by
  by_cases plain : op.makes = false
  · rw [w.performPool_identities t op plain]
    cases op with
    | create | producer => cases plain
    | _ => exact sound
  cases op with
  | create name settings =>
      simp only [performPool, createPool, record]
      cases settings.validate with
      | error e => exact sound
      | ok =>
          cases settings.obstacle? with
          | some obstacle => exact sound.lost
          | none =>
              have grown := sound.pool
              have places : w.identities.pools.length = w.pools.next := by
                simp [identities, Registry.next]
              rw [places] at grown
              dsimp only
              rw [startPool_identities]
              exact grown
  | producer name token =>
      simp only [performPool, orGone, record]
      cases found : w.pools.find? name with
      | none => exact sound
      | some entry =>
          obtain ⟨place, p⟩ := entry
          have known : w.identities.id? (.pool place) = some p.queue.id := by
            rw [identities_id?, queueId?, Registry.get?_of_find? found, Option.map_some]
          simpa [done, identities, Registry.map_add, Queue.producer] using sound.producer known
  | _ => exact absurd rfl plain

theorem perform_sound (sound : Sound w.identities b) (t : Thread) (op : Op) :
    Sound (w.perform t op).1.identities (w.record b op) := by
  cases op with
  | queue op => exact performQueue_sound sound op
  | pool op => exact performPool_sound sound t op
  | _ =>
      rw [w.perform_identities t _ rfl]
      exact sound

end World

/-- Any thread performs any operation at any time; all else that threads do comes in between. -/
inductive Reachable : World → Births → Prop where
  | start (m : Machine) (ops : List Value) : Reachable (World.start m ops) {}
  | perform {w : World} {b : Births} (before : Reachable w b) (t : Thread) (op : Op) :
      Reachable (w.perform t op).1 (w.record b op)
  | background {w : World} {b : Births} (before : Reachable w b) (t : Thread)
      (idle : ∀ op, t.status ≠ .running (.perform op)) : Reachable (w.stepThread t).1 b
  | pass {w : World} {b : Births} (before : Reachable w b) (clock : Nat) (threads : Array Thread)
      (current : Nat) : Reachable { w with clock, threads, current } b

namespace Reachable

variable {w : World} {b : Births}

theorem sound (reachable : Reachable w b) : Sound w.identities b := by
  induction reachable with
  | start m ops =>
      refine ⟨rfl, ?_, ?_, .nil, .nil⟩
      · intro m
        cases m <;> simp [Identities.id?, World.identities, World.start]
      · intro m k
        cases m <;> simp [Identities.id?, World.identities, World.start]
  | perform before t op sound => exact World.perform_sound sound t op
  | background before t idle sound =>
      rw [World.stepThread_identities _ t idle]
      exact sound
  | pass before clock threads current sound => exact sound

theorem stepThread (reachable : Reachable w b) (t : Thread) :
    ∃ later, Reachable (w.stepThread t).1 later := by
  by_cases idle : ∀ op, t.status ≠ .running (.perform op)
  · exact ⟨b, reachable.background t idle⟩
  · push Not at idle
    obtain ⟨op, performing⟩ := idle
    simp only [World.stepThread, performing, World.stepPerform]
    split
    · exact ⟨b, reachable⟩
    · have performed := reachable.perform t op
      refine ⟨w.record b op, ?_⟩
      split <;> next result => rwa [result] at performed

theorem step (reachable : Reachable w b) (i : Nat) : ∃ later, Reachable (w.step i) later := by
  unfold World.step
  split
  · next t _ =>
      obtain ⟨later, moved⟩ := reachable.stepThread t
      exact ⟨later, moved.pass _ _ i⟩
  · exact ⟨b, reachable⟩

theorem run (reachable : Reachable w b) (fuel : Nat) : ∃ later, Reachable (w.run fuel) later := by
  induction fuel generalizing w b with
  | zero => exact ⟨b, reachable⟩
  | succ fuel ih =>
      unfold World.run
      split
      · next next advanced =>
          have moved : ∃ later, Reachable next later := by
            unfold World.advance at advanced
            split at advanced <;> cases advanced
            · exact reachable.step _
            · exact reachable.step _
            · exact ⟨b, reachable.pass _ w.threads w.current⟩
          obtain ⟨later, moved⟩ := moved
          exact ih moved
      · exact ⟨b, reachable⟩

end Reachable

end WorkerPool.Scenario
