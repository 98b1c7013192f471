import WorkerPool.Proofs.Collection.Session

namespace WorkerPool.Collection

variable {α : Type} {capacity : Nat} {log : List (Exchange α)}

theorem ofLog_append (order : InOrder log) {e : Exchange α} {rest : List α}
    (next : held log ++ e.accepted = e.removed ++ rest) :
    ofLog capacity (log ++ [e]) =
      { capacity, items := rest, addingCompleted := ended log || e.request.completes } := by
  rw [ofLog, order.held_append next, ended_append]

theorem ofLog_add (client : Nat) (item : α) (answer : Answer α) :
    ofLog capacity (log ++ [⟨client, .add item, answer⟩]) =
      ofLog capacity (log ++ [⟨client, .tryAdd item, answer⟩]) := by
  simp [ofLog, held, accepted, removed, ended, Exchange.accepted, Exchange.removed, Request.item?,
    Request.completes]

theorem ofLog_take (client : Nat) (answer : Answer α) :
    ofLog capacity (log ++ [⟨client, .take, answer⟩]) =
      ofLog capacity (log ++ [⟨client, .tryTake, answer⟩]) := by
  simp [ofLog, held, accepted, removed, ended, Exchange.accepted, Exchange.removed, Request.item?,
    Request.completes]

theorem due?_add (item : α) :
    due? capacity log (.add item) =
      if (ofLog capacity log).addWaits then none else due? capacity log (.tryAdd item) := by
  cases completed : ended log <;> by_cases room : (held log).length < capacity <;>
    simp [due?, ofLog, addWaits, isFull, length, completed, room, Nat.not_le.mpr,
      Nat.le_of_not_lt]

theorem due?_take :
    due? capacity log .take =
      if (ofLog capacity log).takeWaits then none else due? capacity log .tryTake := by
  cases completed : ended log <;> cases items : held log <;>
    simp [due?, ofLog, takeWaits, isEmpty, completed, items]

/-- The collection that its history tells of answers as it should, and is then the one that the
longer history tells of. -/
def Agrees (capacity : Nat) (log : List (Exchange α)) (client : Nat) (request : Request α) : Prop :=
  (ofLog capacity log).reply? request =
    (due? capacity log request).map fun answer =>
      (answer, ofLog capacity (log ++ [⟨client, request, answer⟩]))

theorem tryAdd_agrees (order : InOrder log) (client : Nat) (item : α) :
    Agrees capacity log client (.tryAdd item) := by
  have after (answer : Answer α) (rest : List α)
      (next : held log ++ (Exchange.mk client (.tryAdd item) answer).accepted =
        (Exchange.mk client (.tryAdd item) answer).removed ++ rest) :
      ofLog capacity (log ++ [⟨client, .tryAdd item, answer⟩]) =
        { ofLog capacity log with items := rest } := by
    rw [ofLog_append order next]
    simp [Request.completes, ofLog]
  have refused (reason : Refusal) :
      ofLog capacity (log ++ [⟨client, .tryAdd item, .refused ⟨reason, item⟩⟩]) =
        ofLog capacity log := after _ (held log) (by simp [Exchange.accepted, Exchange.removed])
  have added : ofLog capacity (log ++ [⟨client, .tryAdd item, .added⟩]) =
      { ofLog capacity log with items := held log ++ [item] } :=
    after _ _ (by simp [Exchange.accepted, Exchange.removed, Request.item?])
  rw [Agrees, reply?_tryAdd, due?]
  change some (if ended log then _ else if (held log).length < capacity then _ else _) = _
  by_cases completed : ended log = true
  · simp only [if_pos completed, Option.map_some, refused]
  · by_cases room : (held log).length < capacity
    · simp only [if_neg completed, if_pos room, Option.map_some, added]
      rfl
    · simp only [if_neg completed, if_neg room, Option.map_some, refused]

theorem tryTake_agrees (order : InOrder log) (client : Nat) :
    Agrees capacity log client .tryTake := by
  have next : held log ++ (Exchange.mk client .tryTake (.taken (held log).head?)).accepted =
      (Exchange.mk client .tryTake (.taken (held log).head?)).removed ++ (held log).tail := by
    cases held log <;> simp [Exchange.accepted, Exchange.removed]
  rw [Agrees, reply?_tryTake, due?, Option.map_some, ofLog_append order next]
  simp [ofLog, Request.completes]

theorem complete_agrees (order : InOrder log) (client : Nat) :
    Agrees capacity log client .complete := by
  have next : held log ++
      (Exchange.mk client .complete (.completed !ended log)).accepted =
        (Exchange.mk client .complete (.completed !ended log)).removed ++ held log := by
    simp [Exchange.accepted, Exchange.removed]
  rw [Agrees, due?, Option.map_some, ofLog_append order next]
  simp [reply?, Collection.complete, ofLog, Request.completes]

theorem agrees (capacity : Nat) (order : InOrder log) (client : Nat) (request : Request α) :
    Agrees capacity log client request := by
  cases request with
  | add item =>
      rw [Agrees, reply?_add, due?_add]
      split
      · rfl
      · simp only [ofLog_add]
        exact tryAdd_agrees order client item
  | tryAdd item => exact tryAdd_agrees order client item
  | take =>
      rw [Agrees, reply?_take, due?_take]
      split
      · rfl
      · simp only [ofLog_take]
        exact tryTake_agrees order client
  | tryTake => exact tryTake_agrees order client
  | complete => exact complete_agrees order client

theorem InOrder.of_due {request : Request α} {answer : Answer α} (order : InOrder log)
    (bound : (held log).length ≤ capacity) (client : Nat)
    (due : due? capacity log request = some answer) :
    InOrder (log ++ [⟨client, request, answer⟩]) ∧
      (held (log ++ [⟨client, request, answer⟩])).length ≤ capacity := by
  suffices next : ∃ rest, rest.length ≤ capacity ∧
      held log ++ (Exchange.mk client request answer).accepted =
        (Exchange.mk client request answer).removed ++ rest by
    obtain ⟨rest, within, next⟩ := next
    exact ⟨order.append next, by rwa [order.held_append next]⟩
  cases request with
  | add item | tryAdd item =>
      simp only [due?] at due
      split at due
      · cases due
        exact ⟨_, bound, by simp [Exchange.accepted, Exchange.removed]⟩
      · split at due <;> cases due
        · next room =>
            exact ⟨held log ++ [item], by simpa using Nat.succ_le_of_lt room,
              by simp [Exchange.accepted, Exchange.removed, Request.item?]⟩
        all_goals exact ⟨_, bound, by simp [Exchange.accepted, Exchange.removed]⟩
  | take =>
      simp only [due?] at due
      split at due
      · next item rest items =>
          cases due
          rw [items, List.length_cons] at bound
          exact ⟨rest, by omega, by simp [Exchange.accepted, Exchange.removed, items]⟩
      · split at due <;> cases due
        exact ⟨_, bound, by simp [Exchange.accepted, Exchange.removed]⟩
  | tryTake =>
      cases due
      refine ⟨(held log).tail, ?_, ?_⟩
      · rw [List.length_tail]
        omega
      · cases held log <;> simp [Exchange.accepted, Exchange.removed]
  | complete =>
      cases due
      exact ⟨_, bound, by simp [Exchange.accepted, Exchange.removed]⟩

theorem completing_of_due {request : Request α} {answer : Answer α} (client : Nat)
    (due : due? capacity log request = some answer) :
    (Exchange.mk client request answer).completing = (request.completes && !ended log) := by
  cases request with
  | add item | tryAdd item =>
      simp only [due?] at due
      split at due
      · cases due
        rfl
      · split at due <;> cases due <;> rfl
  | take =>
      simp only [due?] at due
      split at due
      · cases due
        rfl
      · split at due <;> cases due
        rfl
  | tryTake =>
      cases due
      rfl
  | complete =>
      cases due
      rfl

theorem isCompleted_iff (c : Collection α) :
    c.isCompleted = true ↔ c.addingCompleted = true ∧ c.items = [] := by
  simp [isCompleted, isEmpty]

theorem reply?_refused {c after : Collection α} {request : Request α} {refused : Refused α}
    (reply : c.reply? request = some (.refused refused, after)) :
    request.item? = some refused.item ∧ after = c := by
  rcases reply?_cases reply with ⟨item, adds, offered⟩ | ⟨_, taken⟩ | rfl
  · rw [reply?_tryAdd] at offered
    split at offered
    · cases offered
      exact ⟨adds, rfl⟩
    · split at offered <;> cases offered
      exact ⟨adds, rfl⟩
  · cases taken
  · cases reply

theorem reply?_completed_iff (c : Collection α) {request : Request α} {item : α}
    (offers : request.item? = some item) :
    (∃ after, c.reply? request = some (.refused ⟨.completed, item⟩, after)) ↔
      c.addingCompleted = true := by
  cases request with
  | add given | tryAdd given =>
      cases offers
      cases completed : c.addingCompleted <;> cases full : c.isFull <;>
        simp [reply?, add, tryAdd, addWaits, takeIn, completed, full]
  | take | tryTake | complete => cases offers

theorem reply?_full_iff (c : Collection α) (request : Request α) (item : α) :
    (∃ after, c.reply? request = some (.refused ⟨.full, item⟩, after)) ↔
      request = .tryAdd item ∧ c.isFull = true ∧ c.addingCompleted = false := by
  cases request with
  | add given | tryAdd given =>
      cases completed : c.addingCompleted <;> cases full : c.isFull <;>
        simp [reply?, add, tryAdd, addWaits, takeIn, completed, full]
  | take =>
      rw [reply?_take, reply?_tryTake]
      split <;> simp
  | tryTake | complete => simp [reply?]

theorem reply?_exhausted {c after : Collection α}
    (reply : c.reply? .take = some (.taken none, after)) : c.isCompleted = true := by
  rw [reply?_take, reply?_tryTake] at reply
  split at reply
  · cases reply
  · next goes =>
      simp only [Option.some.injEq, Prod.mk.injEq, Answer.taken.injEq, List.head?_eq_none_iff]
        at reply
      rw [isCompleted_iff]
      exact ⟨by simpa [takeWaits, isEmpty, reply.1] using goes, reply.1⟩

theorem reply?_of_completed {c : Collection α} (completed : c.addingCompleted = true)
    (request : Request α) : (c.reply? request).isSome = true := by
  cases request with
  | add item => simp [reply?_add, reply?_tryAdd, addWaits, completed]
  | take => simp [reply?_take, reply?_tryTake, takeWaits, completed]
  | tryAdd | tryTake | complete => rfl

theorem reply?_of_isCompleted {c next : Collection α} {request : Request α} {answer : Answer α}
    (finished : c.isCompleted = true) (reply : c.reply? request = some (answer, next)) :
    next = c ∧ (request = .take ∨ request = .tryTake → answer = .taken none) := by
  obtain ⟨completed, empty⟩ := (isCompleted_iff c).mp finished
  rcases reply?_cases reply with ⟨item, adds, offered⟩ | ⟨takes, taken⟩ | rfl
  · rw [reply?_tryAdd, if_pos completed] at offered
    cases offered
    refine ⟨rfl, ?_⟩
    rintro (rfl | rfl) <;> cases adds
  · rw [reply?_tryTake, empty] at taken
    cases taken
    exact ⟨by rw [List.tail_nil, ← empty], fun _ => rfl⟩
  · cases reply
    refine ⟨?_, by simp⟩
    rw [Collection.complete, ← completed]

namespace Session

variable {s t : Session α}

theorem Step.cases (step : Step s t) :
    (t.collection = s.collection ∧ t.log = s.log) ∨
      ∃ client request answer, s.collection.reply? request = some (answer, t.collection) ∧
        t.log = s.log ++ [⟨client, request, answer⟩] := by
  obtain ⟨client, request, turn⟩ := step
  unfold Session.perform
  split
  · next answer next reply => exact .inr ⟨client, request, answer, reply, rfl⟩
  · exact .inl ⟨rfl, rfl⟩

structure Lawful (capacity : Nat) (s : Session α) : Prop where
  collection : s.collection = ofLog capacity s.log
  order : InOrder s.log
  bound : (held s.log).length ≤ capacity
  answers : ∀ k e, s.log[k]? = some e → due? capacity (s.log.take k) e.request = some e.answer

theorem Lawful.due (lawful : s.Lawful capacity) {request : Request α} {answer : Answer α}
    {next : Collection α} (reply : s.collection.reply? request = some (answer, next)) :
    due? capacity s.log request = some answer ∧
      ∀ client, next = ofLog capacity (s.log ++ [⟨client, request, answer⟩]) := by
  have both (client : Nat) : ∃ due, due? capacity s.log request = some due ∧
      (due, ofLog capacity (s.log ++ [⟨client, request, due⟩])) = (answer, next) := by
    have agrees := agrees capacity lawful.order client request
    rw [Agrees, ← lawful.collection, reply] at agrees
    exact Option.map_eq_some_iff.mp agrees.symm
  constructor
  · obtain ⟨due, owed, same⟩ := both 0
    rwa [(Prod.mk.inj same).1] at owed
  · intro client
    obtain ⟨due, _, same⟩ := both client
    obtain ⟨rfl, after⟩ := Prod.mk.inj same
    exact after.symm

theorem Lawful.step (lawful : s.Lawful capacity) (step : Step s t) : t.Lawful capacity := by
  rcases step.cases with ⟨collection, log⟩ | ⟨client, request, answer, reply, log⟩
  · exact ⟨by rw [collection, log, lawful.collection], log ▸ lawful.order, log ▸ lawful.bound,
      log ▸ lawful.answers⟩
  · obtain ⟨owed, after⟩ := lawful.due reply
    obtain ⟨order, bound⟩ := lawful.order.of_due lawful.bound client owed
    refine ⟨by rw [after client, log], log ▸ order, log ▸ bound, fun k e here => ?_⟩
    rw [log] at here ⊢
    rw [List.getElem?_append] at here
    split at here
    · next inside =>
        rw [List.take_append_of_le_length (Nat.le_of_lt inside)]
        exact lawful.answers k e here
    · next beyond =>
        have last : k = s.log.length := by
          have inside := (List.getElem?_eq_some_iff.mp here).1
          rw [List.length_singleton] at inside
          omega
        subst last
        simp only [Nat.sub_self, List.getElem?_cons_zero, Option.some.injEq] at here
        rw [← here, List.take_left]
        exact owed

theorem Lawful.steps (lawful : s.Lawful capacity) (steps : Steps s t) : t.Lawful capacity := by
  induction steps with
  | refl => exact lawful
  | tail _ step ih => exact ih.step step

theorem Reachable.lawful (reached : s.Reachable capacity) : s.Lawful capacity :=
  Lawful.steps (s := start capacity) ⟨rfl, rfl, Nat.zero_le capacity, by simp [start]⟩ reached

theorem Reachable.blocked (reached : s.Reachable capacity) {client : Nat} {request : Request α}
    (blocked : s.blocked client = some request) : ∃ on, request.WaitsFor on := by
  induction reached with
  | refl => cases blocked
  | tail _ step ih =>
      obtain ⟨other, call, turn⟩ := step
      unfold Session.perform at blocked
      by_cases mine : client = other
      · subst mine
        split at blocked
        · simp at blocked
        · next waits =>
            simp only [Function.update_self, Option.some.injEq] at blocked
            rw [← blocked]
            cases call with
            | add item => exact ⟨_, .add item⟩
            | take => exact ⟨_, .take⟩
            | tryAdd | tryTake | complete => cases waits
      · split at blocked <;> exact ih (by simpa [mine] using blocked)

theorem Reachable.completing (reached : s.Reachable capacity) :
    s.log.countP Exchange.completing = if ended s.log then 1 else 0 := by
  induction reached with
  | refl => rfl
  | tail before step ih =>
      have lawful := Reachable.lawful before
      rcases step.cases with ⟨_, log⟩ | ⟨client, request, answer, reply, log⟩
      · rwa [log]
      · have owed := (lawful.due reply).1
        rw [log, List.countP_append, List.countP_singleton, ih, ended_append,
          completing_of_due client owed]
        cases ended _ <;> cases request.completes <;> rfl

theorem Steps.isCompleted (steps : Steps s t) (finished : s.collection.isCompleted = true) :
    t.collection = s.collection ∧ ∃ later, t.log = s.log ++ later ∧
      ∀ e ∈ later, e.request = .take ∨ e.request = .tryTake → e.answer = .taken none := by
  induction steps with
  | refl => exact ⟨rfl, [], (List.append_nil _).symm, by simp⟩
  | tail _ step ih =>
      obtain ⟨kept, later, told, nothing⟩ := ih
      rcases step.cases with ⟨collection, log⟩ | ⟨client, request, answer, reply, log⟩
      · exact ⟨collection.trans kept, later, log.trans told, nothing⟩
      · rw [kept] at reply
        obtain ⟨same, none⟩ := reply?_of_isCompleted finished reply
        refine ⟨same, later ++ [⟨client, request, answer⟩], ?_, ?_⟩
        · rw [log, told, List.append_assoc]
        · rw [List.forall_mem_append, List.forall_mem_singleton]
          exact ⟨nothing, none⟩

/-- What clients can rely on once these calls were answered. -/
structure Account (capacity : Nat) (s : Session α) : Prop where
  order : accepted s.log = removed s.log ++ s.collection.items
  bound : s.collection.capacity = capacity ∧ s.collection.length ≤ capacity
  addingCompleted : s.collection.addingCompleted = ended s.log
  answers : ∀ k e, s.log[k]? = some e → due? capacity (s.log.take k) e.request = some e.answer
  next : ∀ request, (s.collection.reply? request).map Prod.fst = due? capacity s.log request
  completed : ∀ request item, request.item? = some item →
    ((∃ after, s.collection.reply? request = some (.refused ⟨.completed, item⟩, after)) ↔
      s.collection.addingCompleted = true)
  full : ∀ request item,
    (∃ after, s.collection.reply? request = some (.refused ⟨.full, item⟩, after)) ↔
      request = .tryAdd item ∧ s.collection.isFull = true ∧
        s.collection.addingCompleted = false
  refused : ∀ request refused after,
    s.collection.reply? request = some (.refused refused, after) →
      request.item? = some refused.item ∧ after = s.collection
  add : ∀ item, s.collection.addWaits = false →
    s.collection.reply? (.add item) = s.collection.reply? (.tryAdd item)
  exhausted : ∀ after, s.collection.reply? .take = some (.taken none, after) →
    s.collection.isCompleted = true
  blocked : ∀ client request, s.blocked client = some request → ∃ on, request.WaitsFor on
  released : s.collection.addingCompleted = true →
    ∀ request, (s.collection.reply? request).isSome = true
  completing : s.log.countP Exchange.completing = if ended s.log then 1 else 0
  lasting : s.collection.isCompleted = true → ∀ t, Steps s t →
    t.collection = s.collection ∧ ∃ later, t.log = s.log ++ later ∧
      ∀ e ∈ later, e.request = .take ∨ e.request = .tryTake → e.answer = .taken none

theorem Reachable.account (reached : s.Reachable capacity) : Account capacity s where
  order := by
    rw [reached.lawful.collection]
    exact reached.lawful.order
  bound := by
    rw [reached.lawful.collection]
    exact ⟨rfl, reached.lawful.bound⟩
  addingCompleted := by
    rw [reached.lawful.collection]
    rfl
  answers := reached.lawful.answers
  next request := by
    have agrees := agrees capacity reached.lawful.order 0 request
    rw [Agrees, ← reached.lawful.collection] at agrees
    rw [agrees, Option.map_map]
    exact Option.map_id'
  completed _ _ := reply?_completed_iff s.collection
  full := reply?_full_iff s.collection
  refused _ _ _ := reply?_refused
  add item free := by simp [reply?_add, free]
  exhausted _ := reply?_exhausted
  blocked _ _ := reached.blocked
  released := reply?_of_completed
  completing := reached.completing
  lasting finished _ steps := steps.isCompleted finished

end Session

def callOf? : Monitor.Phase Condition (Request α) → Option (Request α)
  | .out _ => none
  | .asleep _ call | .woken _ call _ => some call

def callsOf (s : Monitor.Scene (Collection α) Condition (Request α)) (i : Nat) :
    Option (Request α) :=
  s.threads[i]?.bind callOf?

theorem callOf?_wake (on : Condition) (phase : Monitor.Phase Condition (Request α)) :
    callOf? (phase.wake on) = callOf? phase := by
  cases phase with
  | asleep here call => by_cases same : here = on <;> simp [Monitor.Phase.wake, same, callOf?]
  | out | woken => rfl

theorem callsOf_move {s : Monitor.Scene (Collection α) Condition (Request α)} {i : Nat}
    {before : Monitor.Phase Condition (Request α)} (here : s.threads[i]? = some before)
    (after : Monitor.Phase Condition (Request α)) :
    callsOf (s.move i after) = Function.update (callsOf s) i (callOf? after) := by
  have inside := (List.getElem?_eq_some_iff.mp here).1
  funext j
  by_cases same : j = i
  · subst same
    simp [callsOf, Monitor.Scene.move, inside]
  · have other : i ≠ j := Ne.symm same
    simp [callsOf, Monitor.Scene.move, same, other]

theorem callsOf_move_same {s : Monitor.Scene (Collection α) Condition (Request α)} {i : Nat}
    {before : Monitor.Phase Condition (Request α)} (here : s.threads[i]? = some before)
    (after : Monitor.Phase Condition (Request α)) (same : callOf? after = callOf? before) :
    callsOf (s.move i after) = callsOf s := by
  have mine : callOf? after = callsOf s i := by simp [callsOf, here, same]
  rw [callsOf_move here, mine, Function.update_eq_self]

theorem callsOf_wakeAll (s : Monitor.Scene (Collection α) Condition (Request α))
    (on : Condition) : callsOf (s.wakeAll on) = callsOf s := by
  funext i
  cases here : s.threads[i]? with
  | none => simp [callsOf, Monitor.Scene.wakeAll, here]
  | some phase => simp [callsOf, Monitor.Scene.wakeAll, here, callOf?_wake]

theorem callsOf_comes {s : Monitor.Scene (Collection α) Condition (Request α)} {i : Nat}
    {phase : Monitor.Phase Condition (Request α)} {call : Request α} {late : Bool}
    (here : s.threads[i]? = some phase) (comes : phase.Comes call late) :
    callsOf s i = none ∨ callsOf s i = some call := by
  cases comes with
  | anew => exact .inl (by simp [callsOf, here, callOf?])
  | back => exact .inr (by simp [callsOf, here, callOf?])

theorem reply?_of_wait {c : Collection α} {request : Request α} {on : Condition}
    (turn : c.turn request = .wait on) : c.reply? request = none := by
  cases request with
  | add item =>
      simp only [Collection.turn] at turn
      split at turn <;> cases turn
      simp [reply?, *]
  | take =>
      simp only [Collection.turn] at turn
      split at turn <;> cases turn
      simp [reply?, *]
  | tryAdd | tryTake =>
      simp only [Collection.turn] at turn
      split at turn <;> cases turn
  | complete => cases turn

theorem reply?_of_leave {c next : Collection α} {request : Request α}
    {owed : List (Condition × Notice)} (turn : c.turn request = .leave next owed) :
    ∃ answer, c.reply? request = some (answer, next) := by
  cases request with
  | add item | tryAdd item | take | tryTake =>
      simp only [Collection.turn] at turn
      split at turn <;> cases turn <;> exact ⟨_, by simp [reply?, takeIn, *]; rfl⟩
  | complete =>
      cases turn
      exact ⟨_, rfl⟩

/-- Threads that wait on the two conditions are such clients. -/
theorem session_of_scene {count : Nat} {scene : Monitor.Scene (Collection α) Condition (Request α)}
    (reached : monitor.Reachable { capacity } count scene) :
    ∃ s : Session α, s.Reachable capacity ∧ s.collection = scene.shared ∧
      s.blocked = callsOf scene := by
  induction reached with
  | start =>
      refine ⟨.start capacity, .refl, rfl, funext fun i => ?_⟩
      by_cases inside : i < count <;>
        simp [Session.start, callsOf, Monitor.Scene.start, inside, callOf?]
  | step before step ih =>
      obtain ⟨s, reached, shared, blocked⟩ := ih
      cases step with
      | wait i phase call late on here comes turn =>
          have waits : s.collection.reply? call = none := shared ▸ reply?_of_wait turn
          have free := callsOf_comes here comes
          rw [← blocked] at free
          refine ⟨s.perform i call, reached.tail (.perform i call free), ?_, ?_⟩
          · simp only [Session.perform, waits]
            exact shared
          · simp [Session.perform, waits, callsOf_move here, blocked, callOf?]
      | leave i phase call late next owed here comes turn =>
          obtain ⟨answer, replied⟩ := reply?_of_leave turn
          rw [← shared] at replied
          have free := callsOf_comes here comes
          rw [← blocked] at free
          refine ⟨s.perform i call, reached.tail (.perform i call free), ?_, ?_⟩
          · simp [Session.perform, replied]
          · have moved := callsOf_move here (.out owed)
            simp only [Session.perform, replied, blocked]
            exact moved.symm
      | notifyOne i on owed j call here sleeper =>
          have still := Monitor.Scene.asleep_after_move here sleeper (.out owed)
          have woken := callsOf_move_same still (.woken on call false) rfl
          have given := callsOf_move_same here (.out owed) rfl
          exact ⟨s, reached, shared, by rw [woken, given, blocked]⟩
      | notifyNone i on owed here nobody =>
          have given := callsOf_move_same here (.out owed) rfl
          exact ⟨s, reached, shared, by rw [given, blocked]⟩
      | notifyAll i on owed here =>
          have given := callsOf_move_same here (.out owed) rfl
          exact ⟨s, reached, shared, by rw [callsOf_wakeAll, given, blocked]⟩
      | timeout i on call timed here =>
          have late := callsOf_move_same here (.woken on call true) rfl
          exact ⟨s, reached, shared, by rw [late, blocked]⟩

/-- Whoever calls it, and whether or not they are asleep in between, it is one bounded queue. -/
theorem bounded_fifo (α : Type) (capacity : Nat) :
    (∀ s : Session α, s.Reachable capacity → s.Account capacity) ∧
      ∀ count (scene : Monitor.Scene (Collection α) Condition (Request α)),
        monitor.Reachable { capacity } count scene →
          ∃ s : Session α, s.Reachable capacity ∧ s.collection = scene.shared ∧
            s.blocked = callsOf scene :=
  ⟨fun _ reached => reached.account, fun _ _ reached => session_of_scene reached⟩

def turnedAway : Session Nat :=
  ((((Session.start 1).perform 0 (.add 5)).perform 1 (.add 6)).perform 0 .complete).perform 1
    (.add 6)

theorem turnedAway_reachable : turnedAway.Reachable 1 := by
  refine .tail (.tail (.tail (.single (.perform 0 _ ?_)) (.perform 1 _ ?_)) (.perform 0 _ ?_))
    (.perform 1 _ ?_)
  · exact .inl rfl
  · exact .inl rfl
  · exact .inl rfl
  · exact .inr rfl

example : turnedAway.log.map Exchange.answer =
    [.added, .completed true, .refused ⟨.completed, 6⟩] := by
  decide

def roomless : Monitor.Scene (Collection Nat) Condition (Request Nat) :=
  ⟨{ capacity := 0 }, [.asleep .notFull (.add 6)]⟩

theorem roomless_reachable : monitor.Reachable { capacity := 0 } 1 roomless :=
  .step .start (.wait 0 (.out []) (Request.add 6) false Condition.notFull rfl (.anew _) rfl)

theorem bounded_fifo_turnedAway :
    turnedAway.Account 1 ∧ ∃ s : Session Nat, s.Reachable 0 ∧ s.blocked 0 = some (.add 6) := by
  obtain ⟨s, reached, _, blocked⟩ := (bounded_fifo Nat 0).2 1 roomless roomless_reachable
  exact ⟨(bounded_fifo Nat 1).1 turnedAway turnedAway_reachable, s, reached, by rw [blocked]; rfl⟩

end WorkerPool.Collection
