import WorkerPool.Proofs.Pool.Identity
import WorkerPool.Scenario.Run

namespace WorkerPool.Scenario

namespace Registry

variable {α τ : Type}

theorem get?_of_find? {r : Registry α} {name : String} {place : Nat} {a : α}
    (found : r.find? name = some (place, a)) : r.get? place = some a := by
  obtain ⟨there, _, rest⟩ := Option.bind_eq_some_iff.mp found
  obtain ⟨b, here, same⟩ := Option.bind_eq_some_iff.mp rest
  cases same
  exact here

theorem map_add (r : Registry α) (f : α → τ) (name : String) (a : α) :
    (r.add name a).cells.toList.map f = r.cells.toList.map f ++ [f a] := by
  simp [add]

theorem map_set (r : Registry α) (f : α → τ) (place : Nat) (a : α)
    (same : ∀ old, r.get? place = some old → f a = f old) :
    (r.set place a).cells.toList.map f = r.cells.toList.map f := by
  have changed : (r.set place a).cells.toList.map f = (r.cells.toList.map f).set place (f a) := by
    rw [set, Array.toList_setIfInBounds, List.map_set]
  rw [changed]
  by_cases inside : place < r.cells.size
  · have here : r.get? place = some r.cells[place] := Array.getElem?_eq_getElem inside
    have covered : place < (r.cells.toList.map f).length := by simpa using inside
    have old : (r.cells.toList.map f)[place] = f a := by
      rw [same _ here]
      simp
    rw [← old, List.set_getElem_self]
  · apply List.set_eq_of_length_le
    simpa using Nat.le_of_not_lt inside

end Registry

def QueueOp.makes : QueueOp → Bool
  | create .. | producer .. | consumer .. => true
  | _ => false

def PoolOp.makes : PoolOp → Bool
  | create .. | producer .. => true
  | _ => false

def Op.makes : Op → Bool
  | queue op => op.makes
  | pool op => op.makes
  | _ => false

/-- The ids of the queues, alone and in pools, and of what the tokens are bound to, by places. -/
structure Identities where
  made : Nat
  queues : List Nat
  pools : List Nat
  producers : List Nat
  consumers : List Nat

namespace World

def identities (w : World) : Identities where
  made := w.queuesMade
  queues := w.queues.cells.toList.map Queue.id
  pools := w.pools.cells.toList.map (·.queue.id)
  producers := w.producers.cells.toList.map ProducerToken.queueId
  consumers := w.consumers.cells.toList.map ConsumerToken.queueId

theorem setQueue_identities (w : World) (place : Nat) (q : Queue Value)
    (same : ∀ old, w.queues.get? place = some old → q.id = old.id) :
    { w with queues := w.queues.set place q }.identities = w.identities := by
  simp only [identities, w.queues.map_set Queue.id place q same]

theorem setPool_identities (w : World) (place : Nat) (p : Pool Work)
    (same : ∀ old, w.pools.get? place = some old → p.queue.id = old.queue.id) :
    (w.setPool place p).identities = w.identities := by
  simp only [identities, setPool, w.pools.map_set (·.queue.id) place p same]

theorem setProducer_identities (w : World) (place : Nat) (t : ProducerToken)
    (same : ∀ old, w.producers.get? place = some old → t.queueId = old.queueId) :
    (w.setProducer place t).identities = w.identities := by
  simp only [identities, setProducer, w.producers.map_set ProducerToken.queueId place t same]

theorem setConsumer_identities (w : World) (place : Nat) (t : ConsumerToken)
    (same : ∀ old, w.consumers.get? place = some old → t.queueId = old.queueId) :
    { w with consumers := w.consumers.set place t }.identities = w.identities := by
  simp only [identities, w.consumers.map_set ConsumerToken.queueId place t same]

theorem modifyPool_identities (w : World) (place : Nat) (f : Pool Work → Pool Work)
    (same : ∀ p, (f p).queue.id = p.queue.id) :
    (w.modifyPool place f).identities = w.identities := by
  unfold modifyPool
  split
  · next p here =>
      apply w.setPool_identities
      intro old there
      cases here.symm.trans there
      exact same p
  · rfl

theorem modifyLoop_identities (w : World) (place : Nat) (f : EventLoop Value → EventLoop Value) :
    (w.modifyLoop place f).identities = w.identities := by
  unfold modifyLoop
  split <;> rfl

theorem producer?_found {w : World} {token : Option String} {place : Nat} {t : ProducerToken}
    (named : w.producer? token = some (some (place, t))) : w.producers.get? place = some t := by
  cases token with
  | none => cases named
  | some name =>
      simp only [producer?, Option.map_eq_some_iff, Option.some.injEq, exists_eq_right] at named
      exact Registry.get?_of_find? named

theorem setQueue_of_found {w : World} {place : Nat} {q next : Queue Value}
    (here : w.queues.get? place = some q) (same : next.id = q.id) :
    { w with queues := w.queues.set place next }.identities = w.identities := by
  apply w.setQueue_identities
  intro old there
  cases here.symm.trans there
  exact same

theorem setProducer_of_found {w : World} {k : Nat} {t after : ProducerToken}
    (here : w.producers.get? k = some t) (same : after.queueId = t.queueId) :
    (w.setProducer k after).identities = w.identities := by
  apply w.setProducer_identities
  intro old there
  cases here.symm.trans there
  exact same

theorem setPool_of_found {w : World} {place : Nat} {p next : Pool Work}
    (here : w.pools.get? place = some p) (same : next.queue.id = p.queue.id) :
    (w.setPool place next).identities = w.identities := by
  apply w.setPool_identities
  intro old there
  cases here.symm.trans there
  exact same

end World

end WorkerPool.Scenario
