import Mathlib.Logic.Function.Basic
import WorkerPool.Queue.Basic

namespace WorkerPool.Queue

variable {α : Type}

def HasRoom (q : Queue α) (count : Nat) : Prop :=
  ∀ capacity, q.capacity = some capacity → q.length + count ≤ capacity

theorem isFull_eq_false_iff (q : Queue α) (count : Nat) :
    q.isFull count = false ↔ q.HasRoom count := by
  unfold isFull HasRoom
  cases q.capacity <;> simp

theorem enqueueBulk_cases (q : Queue α) (batch : List α) :
    (q.closed = true ∧ q.enqueueBulk batch = .error ⟨.closed, batch⟩) ∨
      (q.closed = false ∧ ¬q.HasRoom batch.length ∧
        q.enqueueBulk batch = .error ⟨.full, batch⟩) ∨
      (q.closed = false ∧ q.HasRoom batch.length ∧
        q.enqueueBulk batch = .ok { q with items := q.items ++ batch }) := by
  rw [← isFull_eq_false_iff]
  unfold enqueueBulk
  cases q.closed <;> cases q.isFull batch.length <;> simp

/-- What a client can call. Its tokens are told by their places. -/
inductive Call (α : Type) where
  | enqueue (item : α)
  | enqueueWith (token : Nat) (item : α)
  | enqueueBulk (batch : List α)
  | enqueueBulkWith (token : Nat) (batch : List α)
  -- A fetch into a vector that holds `out`, at the end of its wait.
  | fetch (token : Nat) (out : List α) (max : Nat)
  | tryDequeue
  | close
  | drain
  deriving DecidableEq, Repr

namespace Call

def offer? : Call α → Option (Option Nat × List α)
  | enqueue item => some (none, [item])
  | enqueueWith token item => some (some token, [item])
  | enqueueBulk batch => some (none, batch)
  | enqueueBulkWith token batch => some (some token, batch)
  | _ => none

def offered (call : Call α) : List α := (call.offer?.map Prod.snd).getD []

def held : Call α → List α
  | fetch _ out _ => out
  | _ => []

end Call

inductive Answer (α : Type) where
  | taken
  | refused (reason : Refusal) (items : List α)
  | foreign
  | fetched (count : Nat) (out : List α)
  | dequeued (item : Option α)
  | closed (first : Bool)
  | drained (items : List α)
  deriving DecidableEq, Repr

structure Exchange (α : Type) where
  call : Call α
  answer : Answer α
  deriving DecidableEq, Repr

namespace Exchange

def admitted (e : Exchange α) : List α :=
  match e.answer with
  | .taken => e.call.offered
  | _ => []

def removed (e : Exchange α) : List α :=
  match e.answer with
  | .fetched _ out => out.drop e.call.held.length
  | .dequeued item => item.toList
  | .drained items => items
  | _ => []

def closing (e : Exchange α) : Bool :=
  match e.answer with
  | .closed first => first
  | _ => false

end Exchange

/-- A queue and the tokens of its clients, which another queue may have made. -/
structure Session (α : Type) where
  queue : Queue α
  producers : Nat → ProducerToken
  consumers : Nat → ConsumerToken

namespace Session

def start (id : Nat) (capacity : Option Nat) (producers : Nat → ProducerToken)
    (consumers : Nat → ConsumerToken) : Session α :=
  { queue := { id, capacity }, producers, consumers }

def perform (s : Session α) : Call α → Answer α × Session α
  | .enqueue item =>
    match s.queue.enqueue item with
    | .ok queue => (.taken, { s with queue })
    | .error refused => (.refused refused.reason [refused.item], s)
  | .enqueueWith t item =>
    match s.queue.enqueueWith (s.producers t) item with
    | .ok (.ok (queue, token)) =>
      (.taken, { s with queue, producers := Function.update s.producers t token })
    | .ok (.error refused) => (.refused refused.reason [refused.item], s)
    | .error _ => (.foreign, s)
  | .enqueueBulk batch =>
    match s.queue.enqueueBulk batch with
    | .ok queue => (.taken, { s with queue })
    | .error refused => (.refused refused.reason refused.item, s)
  | .enqueueBulkWith t batch =>
    match s.queue.enqueueBulkWith (s.producers t) batch with
    | .ok (.ok (queue, token)) =>
      (.taken, { s with queue, producers := Function.update s.producers t token })
    | .ok (.error refused) => (.refused refused.reason refused.item, s)
    | .error _ => (.foreign, s)
  | .fetch t out max =>
    match s.queue.fetchWith (s.consumers t) out max with
    | .ok fetched =>
      (.fetched fetched.count fetched.out,
        { s with
          queue := fetched.queue
          consumers := Function.update s.consumers t fetched.token })
    | .error _ => (.foreign, s)
  | .tryDequeue =>
    match s.queue.tryDequeue with
    | some (item, queue) => (.dequeued (some item), { s with queue })
    | none => (.dequeued none, s)
  | .close => (.closed s.queue.close.1, { s with queue := s.queue.close.2 })
  | .drain => (.drained s.queue.drain.1, { s with queue := s.queue.drain.2 })

def run (s : Session α) : List (Call α) → List (Exchange α) × Session α
  | [] => ([], s)
  | call :: rest =>
    let (answer, next) := s.perform call
    let (log, last) := next.run rest
    (⟨call, answer⟩ :: log, last)

def Owns (s : Session α) (token : Option Nat) : Prop :=
  ∀ t, token = some t → (s.producers t).queueId = s.queue.id

def record (s : Session α) (token : Option Nat) (count : Nat) : Nat → ProducerToken :=
  match token with
  | some t => Function.update s.producers t ((s.producers t).record count)
  | none => s.producers

def accept (s : Session α) (token : Option Nat) (items : List α) : Session α :=
  { s with
    queue := { s.queue with items := s.queue.items ++ items }
    producers := s.record token items.length }

/-- The ways in which a queue can answer a call, as its clients see them. -/
inductive Step (s : Session α) : Call α → Answer α → Session α → Prop
  | foreign {call : Call α} {token : Option Nat} {items : List α}
      (offer : call.offer? = some (token, items)) (other : ¬s.Owns token) : Step s call .foreign s
  | closed {call : Call α} {token : Option Nat} {items : List α}
      (offer : call.offer? = some (token, items)) (own : s.Owns token)
      (closed : s.queue.closed = true) : Step s call (.refused .closed items) s
  | full {call : Call α} {token : Option Nat} {items : List α}
      (offer : call.offer? = some (token, items)) (own : s.Owns token)
      (opened : s.queue.closed = false) (full : ¬s.queue.HasRoom items.length) :
      Step s call (.refused .full items) s
  | taken {call : Call α} {token : Option Nat} {items : List α}
      (offer : call.offer? = some (token, items)) (own : s.Owns token)
      (opened : s.queue.closed = false) (room : s.queue.HasRoom items.length) :
      Step s call .taken (s.accept token items)
  | fetchForeign (t : Nat) (out : List α) (max : Nat)
      (other : (s.consumers t).queueId ≠ s.queue.id) : Step s (.fetch t out max) .foreign s
  | fetch (t : Nat) (out : List α) (max : Nat) (batch rest : List α)
      (own : (s.consumers t).queueId = s.queue.id) (split : s.queue.items = batch ++ rest)
      (length : batch.length = min max s.queue.length) :
      Step s (.fetch t out max) (.fetched batch.length (out ++ batch))
        { s with
          queue := { s.queue with items := rest }
          consumers := Function.update s.consumers t ((s.consumers t).record batch.length) }
  | dequeueNone (empty : s.queue.items = []) : Step s .tryDequeue (.dequeued none) s
  | dequeue (item : α) (rest : List α) (head : s.queue.items = item :: rest) :
      Step s .tryDequeue (.dequeued (some item)) { s with queue := { s.queue with items := rest } }
  | close :
      Step s .close (.closed !s.queue.closed) { s with queue := { s.queue with closed := true } }
  | drain : Step s .drain (.drained s.queue.items) { s with queue := { s.queue with items := [] } }

def offer (s : Session α) (token : Option Nat) (items : List α) : Answer α × Session α :=
  if token.all fun t => s.queue.owns (s.producers t) then
    match s.queue.enqueueBulk items with
    | .ok queue => (.taken, { s with queue, producers := s.record token items.length })
    | .error refused => (.refused refused.reason refused.item, s)
  else (.foreign, s)

theorem perform_offer (s : Session α) {call : Call α} {token : Option Nat} {items : List α}
    (offer : call.offer? = some (token, items)) : s.perform call = s.offer token items := by
  cases call with
  | enqueue item =>
      cases offer
      simp only [perform, Session.offer, Option.all_none, if_true, enqueue, enqueueBulk]
      cases s.queue.closed <;> cases s.queue.isFull 1 <;> rfl
  | enqueueWith t item =>
      cases offer
      simp only [perform, Session.offer, Option.all_some, enqueueWith, enqueue, enqueueBulk]
      by_cases own : s.queue.owns (s.producers t) = true
      · simp only [own, if_true]
        cases s.queue.closed <;> cases s.queue.isFull 1 <;> rfl
      · simp only [own, Bool.false_eq_true, if_false]
  | enqueueBulk batch => cases offer; rfl
  | enqueueBulkWith t batch =>
      cases offer
      simp only [perform, Session.offer, Option.all_some, enqueueBulkWith, enqueueBulk]
      by_cases own : s.queue.owns (s.producers t) = true
      · simp only [own, if_true]
        cases s.queue.closed <;> cases s.queue.isFull items.length <;> rfl
      · simp only [own, Bool.false_eq_true, if_false]
  | fetch | tryDequeue | close | drain => cases offer

theorem owns_iff (s : Session α) (token : Option Nat) :
    (token.all fun t => s.queue.owns (s.producers t)) = true ↔ s.Owns token := by
  cases token <;> simp [Owns, owns]

theorem offer_cases (s : Session α) (token : Option Nat) (items : List α) :
    (¬s.Owns token ∧ s.offer token items = (.foreign, s)) ∨
      (s.Owns token ∧ s.queue.closed = true ∧
        s.offer token items = (.refused .closed items, s)) ∨
      (s.Owns token ∧ s.queue.closed = false ∧ ¬s.queue.HasRoom items.length ∧
        s.offer token items = (.refused .full items, s)) ∨
      (s.Owns token ∧ s.queue.closed = false ∧ s.queue.HasRoom items.length ∧
        s.offer token items = (.taken, s.accept token items)) := by
  unfold offer
  by_cases own : s.Owns token
  · rw [if_pos ((s.owns_iff token).mpr own)]
    rcases s.queue.enqueueBulk_cases items with ⟨closed, result⟩ | ⟨opened, full, result⟩ |
      ⟨opened, room, result⟩ <;> rw [result]
    · exact .inr (.inl ⟨own, closed, rfl⟩)
    · exact .inr (.inr (.inl ⟨own, opened, full, rfl⟩))
    · exact .inr (.inr (.inr ⟨own, opened, room, rfl⟩))
  · rw [if_neg fun mine => own ((s.owns_iff token).mp mine)]
    exact .inl ⟨own, rfl⟩

theorem offer_step (s : Session α) {call : Call α} {token : Option Nat} {items : List α}
    (offer : call.offer? = some (token, items)) :
    Step s call (s.perform call).1 (s.perform call).2 := by
  rw [s.perform_offer offer]
  rcases s.offer_cases token items with ⟨other, result⟩ | ⟨own, closed, result⟩ |
    ⟨own, opened, full, result⟩ | ⟨own, opened, room, result⟩ <;> rw [result]
  · exact .foreign offer other
  · exact .closed offer own closed
  · exact .full offer own opened full
  · exact .taken offer own opened room

theorem perform_step (s : Session α) (call : Call α) :
    Step s call (s.perform call).1 (s.perform call).2 := by
  cases call with
  | enqueue | enqueueWith | enqueueBulk | enqueueBulkWith => exact s.offer_step rfl
  | fetch t out max =>
      by_cases own : (s.consumers t).queueId = s.queue.id
      · have mine : s.queue.ownsConsumer (s.consumers t) = true := beq_iff_eq.mpr own
        simp only [perform, fetchWith, mine, if_true]
        exact .fetch t out max _ _ own (s.queue.fetch_append max).symm (s.queue.fetch_length max)
      · have other : s.queue.ownsConsumer (s.consumers t) ≠ true := fun mine =>
          own (beq_iff_eq.mp mine)
        simp only [perform, fetchWith, other]
        exact .fetchForeign t out max own
  | tryDequeue =>
      simp only [perform, tryDequeue]
      cases items : s.queue.items with
      | nil => exact .dequeueNone items
      | cons item rest => exact .dequeue item rest items
  | close => exact .close
  | drain => exact .drain

end Session

end WorkerPool.Queue
