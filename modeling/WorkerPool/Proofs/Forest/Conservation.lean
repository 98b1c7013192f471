import Mathlib.Tactic.Abel
import WorkerPool.Proofs.Forest.Step
import WorkerPool.Proofs.Pool.Draining

namespace WorkerPool.Pool.Interleaving

variable {β ρ : Type} {settings : PoolSettings} {queueId : Nat}

theorem State.offer_accepted (s : State β ρ) (token : Option ProducerToken) (call : Submission β)
    (own : s.pool.accepts token = true) (opened : s.pool.queue.closed = false)
    (unbounded : s.pool.queue.capacity = none) :
    let tasks := call.tasks s.offered s.channels.next
    ∃ decision, s.offer token call =
      { s with
        pool := { s.pool with queue := { s.pool.queue with items := s.pool.queue.items ++ tasks } }
        offered := s.offered + tasks.length
        decided := s.decided ++
          [⟨tasks.length, call.event? (.admitted decision), .admitted decision⟩]
        admitted := s.admitted ++ [tasks]
        channels := call.openChannel s.channels } := by
  intro tasks
  have room : s.pool.queue.isFull tasks.length = false := by simp [Queue.isFull, unbounded]
  have taken := (Queue.enqueueBulk_ok_iff s.pool.queue _ tasks).mpr ⟨opened, room, rfl⟩
  have offered := call.offer_eq s.pool token s.offered s.channels.next
  simp only [Pool.offerBulk, own, if_true, tasks, taken] at offered
  refine ⟨token.map (·.record tasks.length), ?_⟩
  simp only [State.offer, offered, tasks]

def Post.inBody : Post ρ → Bool
  | .busy => true
  | _ => false

theorem Step.inBody_eq {s t : State β ρ} {a : Action β ρ} (step : Step s a t)
    (begins : ∀ i, a ≠ .begin i) (finishes : ∀ i outcome, a ≠ .finish i outcome) (j : Nat) :
    (t.posts j).inBody = (s.posts j).inBody := by
  rcases step.workers with ⟨_, _, posts⟩ | ⟨i, w, f, post, one⟩
  · rw [posts]
  · rw [one.posts]
    by_cases mine : j = i
    · subst mine
      rw [Function.update_self]
      have stride := one.stride
      generalize s.posts j = before at stride
      generalize f w = after at stride
      cases stride with
      | elsewhere | enter | fetch | report | count | check => rfl
      | begin => exact absurd rfl (begins j)
      | finish w task outcome => exact absurd rfl (finishes j outcome)
    · rw [Function.update_of_ne mine]

structure Unmoved (s t : State β ρ) (a : Action β ρ) : Prop where
  refused : t.refused = s.refused
  closed : a ≠ .close → t.pool.queue.closed = s.pool.queue.closed
  items : (∀ i, a ≠ .fetch i) → a ≠ .takeLeftovers → t.pool.queue.items = s.pool.queue.items
  ran : (∀ i outcome, a ≠ .finish i outcome) → t.ran = s.ran

theorem Step.unmoved {s t : State β ρ} {a : Action β ρ} (step : Step s a t)
    (offers : ∀ token call, a ≠ .offer token call) : Unmoved s t a := by
  cases step with
  | offer token call => exact absurd rfl (offers token call)
  | tally k offer =>
      obtain ⟨_, _, _, result⟩ := s.pool.tally_eq offer.tasks offer.event offer.decision
      constructor <;> simp [State.tally, result]
  | fetch i w here post =>
      exact ⟨rfl, fun _ => rfl, fun fetches => absurd rfl (fetches i), fun _ => rfl⟩
  | finish i w task outcome =>
      exact ⟨rfl, fun _ => rfl, fun _ _ => rfl, fun ends => absurd rfl (ends i outcome)⟩
  | report i w outcome =>
      obtain ⟨_, _, result⟩ := s.pool.countPanic_eq i outcome
      constructor <;> simp [State.report, State.stand, result]
  | count i w task here head =>
      have current : s.pool.current? i = some task := by rw [s.pool.current?_eq here, head]
      constructor <;> simp [State.count, State.stand, s.pool.countTask_eq i task current]
  | check i n w here =>
      obtain ⟨_, result⟩ := s.pool.check_eq i _ here
      constructor <;> simp [State.check, result]
  | close => exact ⟨rfl, fun closes => absurd rfl closes, fun _ _ => rfl, fun _ => rfl⟩
  | raise =>
      obtain ⟨_, result⟩ := s.pool.trigger_eq
      constructor <;> simp [State.raise, result]
  | takeLeftovers => exact ⟨rfl, fun _ => rfl, fun _ takes => absurd rfl takes, fun _ => rfl⟩
  | countLeftovers k leftovers =>
      obtain ⟨_, result⟩ := s.pool.countLeftovers_eq leftovers
      constructor <;> simp [State.countLeftovers, result]
  | _ => exact ⟨rfl, fun _ => rfl, fun _ _ => rfl, fun _ => rfl⟩

namespace Forest

variable {ε : Type} {roots : Roots ε ρ}

/-- What a stop that waits for the end comes to: from then on there is nothing to submit, to fetch
or to run. -/
structure Grove.Sound (g : Grove ε ρ) : Prop where
  closed : g.state.pool.queue.closed = true →
    g.waiting = [] ∧ g.state.ledger.unsettled = []
  removed : g.state.removed = []
  refused : g.state.refused = []

theorem Grove.Sound.opened_of_waiting {g : Grove ε ρ} (sound : g.Sound) {k : Nat}
    {call : Submission (Located ε ρ)} (next : g.waiting[k]? = some call) :
    g.state.pool.queue.closed = false := by
  by_contra closed
  have none := (sound.closed (by simpa using closed)).1
  simp [none] at next

theorem Grove.Sound.opened_of_held {g : Grove ε ρ} (sound : g.Sound) {i : Nat}
    {task : Task (Located ε ρ)} (held : task ∈ g.state.left i) :
    g.state.pool.queue.closed = false := by
  by_contra closed
  have none := (sound.closed (by simpa using closed)).2
  have member := (g.state.mem_unsettled task).mpr (.inr (.inl ⟨i, held⟩))
  simp [none] at member

theorem Grove.Sound.inner {g : Grove ε ρ} {t : State (Located ε ρ) ρ}
    {a : Action (Located ε ρ) ρ} {cursors : Nat → Cursor ε ρ} (sound : g.Sound)
    (reached : Interleaving.Reachable settings queueId g.state)
    (step : Interleaving.Step g.state a t) (offers : ∀ token call, a ≠ .offer token call)
    (closes : a ≠ .close) (late : a = .takeLeftovers → g.state.pool.queue.closed = true) :
    Grove.Sound { g with state := t, cursors } := by
  have unmoved := step.unmoved offers
  constructor
  · intro closed
    have before : g.state.pool.queue.closed = true := (unmoved.closed closes).symm.trans closed
    obtain ⟨waiting, none⟩ := sound.closed before
    exact ⟨waiting, (step.entry reached).settled before none⟩
  · rcases step.removed with same | ⟨takes, _, taken⟩
    · exact same.trans sound.removed
    · have items : g.state.pool.queue.items = [] :=
        (List.append_eq_nil_iff.mp (sound.closed (late takes)).2).2
      rw [taken, sound.removed, items, List.append_nil]
  · exact unmoved.refused.trans sound.refused

theorem Grove.Sound.offered {g : Grove ε ρ} (sound : g.Sound) {token : Option ProducerToken}
    {call : Submission (Located ε ρ)} (own : g.state.pool.accepts token = true)
    (opened : g.state.pool.queue.closed = false) (unbounded : g.state.pool.queue.capacity = none)
    (waiting : List (Submission (Located ε ρ))) (cursors : Nat → Cursor ε ρ) :
    Grove.Sound { g with state := g.state.offer token call, waiting, cursors } := by
  obtain ⟨decision, result⟩ := g.state.offer_accepted token call own opened unbounded
  constructor
  · intro closed
    simp [result, opened] at closed
  · simpa [result] using sound.removed
  · simpa [result] using sound.refused

theorem State.left_of_current {s : State (Located ε ρ) ρ} {i : Nat}
    {w : Worker (Numbered (Located ε ρ))} {task : Task (Located ε ρ)}
    (here : s.pool.worker? i = some w) (current : w.batch.head? = some task)
    (post : s.posts i = .busy ∨ s.posts i = .idle) : s.left i = task :: w.batch.tail := by
  have all : s.left i = w.batch := by
    rw [s.left_eq here]
    rcases post with post | post <;> rw [post] <;> rfl
  rw [all]
  exact List.eq_cons_of_mem_head? current

theorem Step.sound {g h : Grove ε ρ} (step : Step g h)
    (reached : Interleaving.Reachable settings queueId g.state)
    (unbounded : settings.capacity = none) (sound : g.Sound) : h.Sound := by
  have capacity : g.state.pool.queue.capacity = none := reached.capacity_eq.trans unbounded
  cases step with
  | root token k call next own =>
      exact sound.offered own (sound.opened_of_waiting next) capacity _ _
  | submit token i submitted w task call next here current post cursor own =>
      have held := State.left_of_current here current (.inl post)
      have opened := sound.opened_of_held (held ▸ List.mem_cons_self)
      exact sound.offered own opened capacity _ _
  | begin i n w task here stage current post =>
      have more : w.batch ≠ [] := fun none => by simp [none] at current
      have step := Interleaving.Step.begin g.state i n w here stage more post
      exact sound.inner reached step (by simp) (by simp) (by simp)
  | log => exact ⟨sound.closed, sound.removed, sound.refused⟩
  | finish t i outcome ends step =>
      exact sound.inner reached step (by simp) (by simp) (by simp)
  | background t a allowed step =>
      obtain ⟨offers, _, _, closes⟩ := background_only allowed
      exact sound.inner reached step offers closes fun takes => by rwa [takes] at allowed
  | close empty =>
      refine ⟨fun _ => ⟨empty.waiting, ?_⟩, sound.removed, sound.refused⟩
      -- No join can have taken anything before the first close.
      have joins : (g.state.joining.map Leaving.tasks).flatten = [] := by
        have taken := reached.removed_perm
        rw [sound.removed] at taken
        exact (List.append_eq_nil_iff.mp taken.nil_eq.symm).2
      change g.state.lefts ++ (g.state.joining.map Leaving.tasks).flatten ++
        g.state.pool.queue.items = []
      rw [empty.batches, joins, empty.queue]
      rfl

theorem Grove.Sound.start : (Grove.start settings queueId roots).Sound :=
  ⟨by simp [Grove.start, State.start, Pool.start], rfl, rfl⟩

theorem Reachable.sound {g : Grove ε ρ} (reached : Reachable settings queueId roots g)
    (unbounded : settings.capacity = none) : g.Sound :=
  (reached.invariant .start fun reached step => step.sound reached unbounded).2

/-- The first of the tasks is in its body, as far as the cursor says. -/
def Cursor.yield (cursor : Cursor ε ρ) : List (Task (Located ε ρ)) → Yield ε ρ
  | [] => 0
  | task :: rest =>
    cursor.script.yield task.body.body.place task.channel.isSome cursor.submitted +
      (rest.map taskYield).sum

namespace Grove

/-- What the tasks that a worker has left come to from here. -/
def inHand (g : Grove ε ρ) (i : Nat) : Yield ε ρ :=
  if (g.state.posts i).inBody then (g.cursors i).yield (g.state.left i)
  else ((g.state.left i).map taskYield).sum

def inHands (g : Grove ε ρ) : Yield ε ρ :=
  ∑ i ∈ Finset.range g.state.pool.workers.length, g.inHand i

def ofCall (call : Submission (Located ε ρ)) : Yield ε ρ := ((call.tasks 0 0).map taskYield).sum

def pending (g : Grove ε ρ) : Yield ε ρ :=
  (g.waiting.map ofCall).sum + (g.state.pool.queue.items.map taskYield).sum + g.inHands

def nodeOf (run : Ran (Located ε ρ) ρ) : Node ρ :=
  ⟨run.task.body.body.place, run.task.channel.isSome, run.outcome⟩

def done (g : Grove ε ρ) : Yield ε ρ := (↑g.log, ↑(g.state.ran.map nodeOf))

theorem ofCall_eq (call : Submission (Located ε ρ)) (first channel : Nat) :
    ((call.tasks first channel).map taskYield).sum = ofCall call := by
  cases call with
  | schedule | forget => rfl
  | bulk bodies =>
      have tasks (first : Nat) : (bulkTasks first bodies).map taskYield =
          bodies.map fun body => body.script.yield body.place false 0 := by
        conv_rhs => rw [← List.zipIdx_map_fst first bodies, List.map_map]
        rw [bulkTasks, List.map_map]
        rfl
      rw [ofCall, Submission.tasks, Submission.tasks, tasks, tasks]

theorem inHand_congr {g h : Grove ε ρ} {i : Nat} (left : h.state.left i = g.state.left i)
    (inBody : (h.state.posts i).inBody = (g.state.posts i).inBody)
    (cursor : h.cursors i = g.cursors i) : h.inHand i = g.inHand i := by
  rw [inHand, inHand, left, inBody, cursor]

theorem inHands_congr {g h : Grove ε ρ}
    (workers : h.state.pool.workers.length = g.state.pool.workers.length)
    (same : ∀ i, h.inHand i = g.inHand i) : h.inHands = g.inHands := by
  rw [inHands, inHands, workers]
  exact Finset.sum_congr rfl fun i _ => same i

theorem inHands_change (g h : Grove ε ρ) {i : Nat} (gained lost : Yield ε ρ)
    (inside : i < g.state.pool.workers.length)
    (workers : h.state.pool.workers.length = g.state.pool.workers.length)
    (others : ∀ j, j ≠ i → h.inHand j = g.inHand j)
    (mine : lost + h.inHand i = gained + g.inHand i) :
    lost + h.inHands = gained + g.inHands := by
  have member : i ∈ Finset.range g.state.pool.workers.length := Finset.mem_range.mpr inside
  have rest : ∑ j ∈ (Finset.range g.state.pool.workers.length).erase i, h.inHand j =
      ∑ j ∈ (Finset.range g.state.pool.workers.length).erase i, g.inHand j :=
    Finset.sum_congr rfl fun j other => others j (Finset.ne_of_mem_erase other)
  rw [inHands, inHands, workers, ← Finset.add_sum_erase _ _ member, ← add_assoc, mine, rest,
    add_assoc, Finset.add_sum_erase _ _ member]

end Grove

theorem State.inside_of_here {s : State (Located ε ρ) ρ} {i : Nat}
    {w : Worker (Numbered (Located ε ρ))} (here : s.pool.worker? i = some w) :
    i < s.pool.workers.length :=
  (List.getElem?_eq_some_iff.mp here).1

theorem Script.yield_of_outcome? {script : Script ε ρ} {outcome : Outcome ρ}
    (ends : script.outcome? = some outcome) (place : List Nat) (answered : Bool) (k : Nat) :
    script.yield place answered k = .ofNode ⟨place, answered, outcome⟩ := by
  cases script with
  | ret value | panic payload =>
      cases ends
      rfl
  | log | submit => cases ends

namespace Grove

theorem ofCall_eraseIdx {waiting : List (Submission (Located ε ρ))} {k : Nat}
    {call : Submission (Located ε ρ)} (next : waiting[k]? = some call) :
    ofCall call + ((waiting.eraseIdx k).map ofCall).sum = (waiting.map ofCall).sum := by
  obtain ⟨inside, found⟩ := List.getElem?_eq_some_iff.mp next
  have same := ((List.getElem_cons_eraseIdx_perm inside).map ofCall).sum_eq
  rwa [found, List.map_cons, List.sum_cons] at same

theorem offer_moves (g : Grove ε ρ) (call : Submission (Located ε ρ))
    {token : Option ProducerToken} (own : g.state.pool.accepts token = true)
    (opened : g.state.pool.queue.closed = false) (unbounded : g.state.pool.queue.capacity = none) :
    ((g.state.offer token call).pool.queue.items.map taskYield).sum =
        (g.state.pool.queue.items.map taskYield).sum + ofCall call ∧
      (g.state.offer token call).ran = g.state.ran ∧
      (g.state.offer token call).pool.workers = g.state.pool.workers ∧
      (g.state.offer token call).posts = g.state.posts := by
  obtain ⟨decision, result⟩ := g.state.offer_accepted token call own opened unbounded
  simp [result, ofCall_eq]

theorem begin_inHands {g : Grove ε ρ} {i n : Nat} {w : Worker (Numbered (Located ε ρ))}
    {task : Task (Located ε ρ)} (here : g.state.pool.worker? i = some w)
    (stage : w.stage = .running n) (current : w.batch.head? = some task)
    (post : g.state.posts i = .idle) : (g.begin i task).inHands = g.inHands := by
  have more : w.batch ≠ [] := fun none => by simp [none] at current
  have step := Interleaving.Step.begin g.state i n w here stage more post
  have left : (g.begin i task).state.left = g.state.left := step.left_eq (by simp) (by simp)
  have held := State.left_of_current here current (.inr post)
  refine inHands_congr rfl fun j => ?_
  by_cases mine : j = i
  · subst mine
    rw [inHand, inHand, left, held, post]
    simp [begin, State.stand, Post.inBody, Cursor.yield, taskYield]
  · exact inHand_congr (congrFun left j) (by simp [begin, State.stand, mine])
      (by simp [begin, mine])

theorem write_inHands {g : Grove ε ρ} {i submitted : Nat} {entry : ε} {next : Script ε ρ}
    {w : Worker (Numbered (Located ε ρ))} {task : Task (Located ε ρ)}
    (here : g.state.pool.worker? i = some w) (current : w.batch.head? = some task)
    (post : g.state.posts i = .busy) (cursor : g.cursors i = ⟨submitted, .log entry next⟩) :
    .ofEntry entry + (g.write i entry ⟨submitted, next⟩).inHands = g.inHands := by
  have held := State.left_of_current here current (.inl post)
  have mine : .ofEntry entry + (g.write i entry ⟨submitted, next⟩).inHand i =
      0 + g.inHand i := by
    rw [inHand, inHand]
    simp [write, post, Post.inBody, held, cursor, Cursor.yield, Script.yield, add_assoc]
  have all := inHands_change g (g.write i entry ⟨submitted, next⟩) 0 (.ofEntry entry)
    (State.inside_of_here here) rfl
    (fun j other => inHand_congr rfl rfl (by simp [write, other])) mine
  rwa [zero_add] at all

theorem submit_inHands {g : Grove ε ρ} (token : Option ProducerToken) {i submitted : Nat}
    {call : Submission (Script ε ρ)} {next : Script ε ρ}
    {w : Worker (Numbered (Located ε ρ))} {task : Task (Located ε ρ)}
    (here : g.state.pool.worker? i = some w) (current : w.batch.head? = some task)
    (post : g.state.posts i = .busy) (cursor : g.cursors i = ⟨submitted, .submit call next⟩) :
    callYield task.body.body.place submitted call +
      (g.submit token i (locate task.body.body.place submitted call)
        ⟨submitted + call.size, next⟩).inHands = g.inHands := by
  generalize located : locate task.body.body.place submitted call = children
  obtain ⟨workers, posts⟩ := g.state.offer_workers token children
  have left := State.left_congr workers posts
  have held := State.left_of_current here current (.inl post)
  have mine : callYield task.body.body.place submitted call +
      (g.submit token i children ⟨submitted + call.size, next⟩).inHand i = 0 + g.inHand i := by
    rw [inHand, inHand]
    simp [submit, posts, left, post, Post.inBody, held, cursor, Cursor.yield, Script.yield,
      add_assoc]
  have all := inHands_change g (g.submit token i children ⟨submitted + call.size, next⟩) 0
    (callYield task.body.body.place submitted call) (State.inside_of_here here)
    (by rw [submit, workers])
    (fun j other => inHand_congr (congrFun left j) (by rw [submit, posts])
      (by simp [submit, other])) mine
  rwa [zero_add] at all

theorem finish_inHands {g : Grove ε ρ} {i : Nat} {outcome : Outcome ρ}
    {w : Worker (Numbered (Located ε ρ))} {task : Task (Located ε ρ)}
    (here : g.state.pool.worker? i = some w) (current : w.batch.head? = some task)
    (post : g.state.posts i = .busy) (ends : (g.cursors i).script.outcome? = some outcome) :
    .ofNode ⟨task.body.body.place, task.channel.isSome, outcome⟩ +
      inHands { g with state := g.state.finish i task outcome } = g.inHands := by
  have workers : (g.state.finish i task outcome).pool.workers =
      g.state.pool.workers.modify i id := by simp [State.finish, State.stand]
  have posts : (g.state.finish i task outcome).posts =
      Function.update g.state.posts i (.ended outcome) := rfl
  have left : (g.state.finish i task outcome).left =
      Function.update g.state.left i w.batch.tail := State.left_modify here workers posts
  have held := State.left_of_current here current (.inl post)
  have mine : .ofNode ⟨task.body.body.place, task.channel.isSome, outcome⟩ +
      inHand { g with state := g.state.finish i task outcome } i = 0 + g.inHand i := by
    rw [inHand, inHand]
    simp [posts, left, post, Post.inBody, held, Cursor.yield, Script.yield_of_outcome? ends]
  have all := inHands_change g { g with state := g.state.finish i task outcome } 0
    (.ofNode ⟨task.body.body.place, task.channel.isSome, outcome⟩) (State.inside_of_here here) rfl
    (fun j other => inHand_congr (by simp [left, other]) (by simp [posts, other]) rfl) mine
  rwa [zero_add] at all

theorem fetch_inHands {g : Grove ε ρ} {i : Nat} {w : Worker (Numbered (Located ε ρ))}
    (here : g.state.pool.worker? i = some w) (post : g.state.posts i = .waiting) :
    ((g.state.fetch i).pool.queue.items.map taskYield).sum +
        inHands { g with state := g.state.fetch i } =
      (g.state.pool.queue.items.map taskYield).sum + g.inHands := by
  let batch := g.state.pool.queue.items.take g.state.pool.settings.batchSize
  have posts : (g.state.fetch i).posts = Function.update g.state.posts i .idle := rfl
  have left : (g.state.fetch i).left = Function.update g.state.left i _ :=
    State.left_modify here rfl posts
  have held : g.state.left i = w.batch := by
    rw [g.state.left_eq here, post]
    rfl
  have mine : 0 + inHand { g with state := g.state.fetch i } i =
      (batch.map taskYield).sum + g.inHand i := by
    rw [inHand, inHand]
    simp [posts, left, post, Post.inBody, held, State.unfinished, batch, add_comm]
  have all := inHands_change g { g with state := g.state.fetch i } (batch.map taskYield).sum 0
    (State.inside_of_here here) (Interleaving.Step.fetch g.state i w here post).workers_length
    (fun j other => inHand_congr (by simp [left, other]) (by simp [posts, other]) rfl) mine
  have items : batch ++ (g.state.fetch i).pool.queue.items = g.state.pool.queue.items :=
    List.take_append_drop _ _
  rw [zero_add] at all
  rw [all, ← items, List.map_append, List.sum_append]
  abel

end Grove

theorem background_items {g : Grove ε ρ} {t : State (Located ε ρ) ρ}
    {a : Action (Located ε ρ) ρ} (step : Interleaving.Step g.state a t)
    (sound : g.Sound) (allowed : background g.state.pool.queue.closed a = true)
    (fetches : ∀ i, a ≠ .fetch i) : t.pool.queue.items = g.state.pool.queue.items := by
  by_cases takes : a = .takeLeftovers
  · subst takes
    cases step with
    | takeLeftovers _ exited =>
        exact (List.append_eq_nil_iff.mp (sound.closed allowed).2).2.symm
  · exact (step.unmoved (background_only allowed).1).items fetches takes

theorem background_balance {g : Grove ε ρ} {t : State (Located ε ρ) ρ}
    {a : Action (Located ε ρ) ρ} (step : Interleaving.Step g.state a t)
    (sound : g.Sound) (allowed : background g.state.pool.queue.closed a = true) :
    (t.pool.queue.items.map taskYield).sum + Grove.inHands { g with state := t } =
      (g.state.pool.queue.items.map taskYield).sum + g.inHands := by
  obtain ⟨offers, begins, finishes, _⟩ := background_only allowed
  by_cases fetches : ∃ i, a = .fetch i
  · obtain ⟨i, rfl⟩ := fetches
    cases step with
    | fetch i w here post => exact Grove.fetch_inHands here post
  · have fetches : ∀ i, a ≠ .fetch i := fun i same => fetches ⟨i, same⟩
    have left := step.left_eq fetches finishes
    have hands : Grove.inHands { g with state := t } = g.inHands :=
      Grove.inHands_congr step.workers_length fun i =>
        Grove.inHand_congr (congrFun left i) (step.inBody_eq begins finishes i) rfl
    rw [hands, background_items step sound allowed fetches]

theorem Step.balance {g h : Grove ε ρ} (step : Step g h)
    (reached : Interleaving.Reachable settings queueId g.state) (sound : g.Sound)
    (unbounded : settings.capacity = none) : h.done + h.pending = g.done + g.pending := by
  have capacity : g.state.pool.queue.capacity = none := reached.capacity_eq.trans unbounded
  cases step with
  | root token k call next own =>
      obtain ⟨items, ran, workers, posts⟩ :=
        g.offer_moves call own (sound.opened_of_waiting next) capacity
      have left := State.left_congr workers posts
      have hands : (g.root token k call).inHands = g.inHands :=
        Grove.inHands_congr (by rw [Grove.root, workers]) fun i =>
          Grove.inHand_congr (congrFun left i) (by rw [Grove.root, posts]) rfl
      have done : (g.root token k call).done = g.done := by simp [Grove.done, Grove.root, ran]
      rw [Grove.pending, Grove.pending, hands, done, ← Grove.ofCall_eraseIdx next]
      simp only [Grove.root, items]
      abel
  | begin i n w task here stage current post =>
      rw [Grove.pending, Grove.pending, Grove.begin_inHands here stage current post]
      rfl
  | log i submitted entry next w task here current post cursor =>
      have done : (g.write i entry ⟨submitted, next⟩).done = g.done + .ofEntry entry := by
        simp [Grove.done, Grove.write, Yield.ofEntry, ← Multiset.coe_add]
      rw [Grove.pending, Grove.pending, done, ← Grove.write_inHands here current post cursor]
      simp only [Grove.write]
      abel
  | submit token i submitted w task call next here current post cursor own =>
      have held := State.left_of_current here current (.inl post)
      obtain ⟨items, ran, _⟩ :=
        g.offer_moves (locate task.body.body.place submitted call) own
          (sound.opened_of_held (held ▸ List.mem_cons_self)) capacity
      rw [Grove.ofCall, tasks_yield] at items
      rw [Grove.pending, Grove.pending,
        ← Grove.submit_inHands token here current post cursor]
      simp only [Grove.done, Grove.submit, items, ran]
      abel
  | finish t i outcome ends step =>
      cases step with
      | finish i w task outcome here current post =>
          have done : Grove.done { g with state := g.state.finish i task outcome } =
              g.done + .ofNode ⟨task.body.body.place, task.channel.isSome, outcome⟩ := by
            simp [Grove.done, State.finish, Grove.nodeOf, Yield.ofNode, ← Multiset.coe_add]
          rw [Grove.pending, Grove.pending, done,
            ← Grove.finish_inHands here current post ends]
          simp only [State.finish, State.stand]
          abel
  | close empty => rfl
  | background t a allowed step =>
      obtain ⟨offers, _, finishes, _⟩ := background_only allowed
      have moved := background_balance step sound allowed
      have done : Grove.done { g with state := t } = g.done := by
        simp [Grove.done, (step.unmoved offers).ran finishes]
      rw [Grove.pending, Grove.pending, done, add_assoc, add_assoc, moved]

theorem locateAll_yield (k : Nat) (roots : Roots ε ρ) :
    ((locateAll k roots).map Grove.ofCall).sum = rootsYield k roots := by
  induction roots generalizing k with
  | nil => rfl
  | cons call rest ih =>
      rw [locateAll, List.map_cons, List.sum_cons, ih, Grove.ofCall, tasks_yield, rootsYield]

/-- Nothing of a forest is lost or done twice. -/
theorem Reachable.balance {g : Grove ε ρ} (reached : Reachable settings queueId roots g)
    (unbounded : settings.capacity = none) : g.done + g.pending = total roots := by
  have start : (Grove.start settings queueId roots).done +
      (Grove.start settings queueId roots).pending = total roots := by
    have hands : (Grove.start settings queueId roots).inHands = 0 := by
      refine Finset.sum_eq_zero fun i _ => ?_
      have left : (Grove.start settings queueId roots).state.left i = [] := State.left_start i
      rw [Grove.inHand, left]
      rfl
    have done : (Grove.start settings queueId roots).done = 0 := rfl
    rw [Grove.pending, hands, done, zero_add]
    simpa [Grove.start, State.start, Pool.start, total] using locateAll_yield 0 roots
  -- A stop before the end would lose tasks, so the sum is kept together with `Sound`.
  refine (reached.invariant (P := fun g => g.Sound ∧ g.done + g.pending = total roots)
    ⟨.start, start⟩ ?_).2.2
  rintro g h reached step ⟨sound, before⟩
  exact ⟨step.sound reached unbounded sound,
    (step.balance reached sound unbounded).trans before⟩

end Forest

end WorkerPool.Pool.Interleaving
