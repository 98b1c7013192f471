import WorkerPool.Proofs.Executor.Draining
import WorkerPool.Proofs.Executor.Script

namespace WorkerPool.Executor.Session

open Interleaving

variable {ε : Type} {s t : Session ε} {content : List (Nat × Script ε)}

theorem Move.state (move : Move s t) : t.state = s.state ∨ Step s.state t.state := by
  cases move with
  | pop drain below action executor here found =>
      exact .inr (.pop _ 0 drain below action executor here found)
  | dry drain below here found => exact .inr (.dry _ 0 drain below here found)
  | begin drain below action here => exact .inr (.begin _ 0 drain below action here)
  | finish drain below action rest outer here =>
      exact .inr (.finish _ 0 drain below action rest.outcome here)
  | log => exact .inl rfl
  | defer drain below action child => exact .inr (.defer _ 0 child)
  | call drain below action inner rest next outer here rests calls =>
      have fresh : inner = .all 0 ∨ inner = .one := calls.imp And.right And.right
      have free : s.state.CanCall 0 := by
        intro call top
        rw [here, List.head?_cons, Option.mem_some_iff] at top
        exact ⟨action, by rw [← top]⟩
      exact .inr (.call _ 0 inner fresh free)

/-- Nobody but the thread runs actions. -/
structure Alone (s : State (Script ε) Unit) : Prop where
  calls : ∀ i, i ≠ 0 → s.calls i = []
  popped : ∀ entry ∈ s.popped, entry.1 = 0

theorem Move.alone (move : Move s t) (alone : Alone s.state) : Alone t.state := by
  obtain ⟨calls, popped⟩ := alone
  have elsewhere (calls' : List (Call (Script ε))) :
      ∀ i, i ≠ 0 → Function.update s.state.calls 0 calls' i = [] := by
    intro i other
    rw [Function.update_of_ne other]
    exact calls i other
  cases move with
  | pop drain below action executor here found =>
      refine ⟨elsewhere _, ?_⟩
      rw [State.pop, List.forall_mem_append, List.forall_mem_singleton]
      exact ⟨popped, rfl⟩
  | finish drain below action rest =>
      refine ⟨?_, ?_⟩
      · cases drain <;> exact elsewhere _
      · rw [(s.state.finish_queue 0 drain below action rest.outcome).2.1]
        exact popped
  | log | defer => exact ⟨calls, popped⟩
  | dry | begin | call => exact ⟨elsewhere _, popped⟩

def Based : List (Call (Script ε)) → Prop
  | [] => True
  | call :: below => (below = [] → ∃ n, call.drain = .all n) ∧ Based below

/-- The first call does not return before the queue is empty. -/
structure Outermost (s : State (Script ε) Unit) : Prop where
  based : Based (s.calls 0)
  empty : s.calls 0 = [] → s.executor.queued = []

theorem Move.outermost (move : Move s t) (outermost : Outermost s.state) : Outermost t.state := by
  obtain ⟨based, empty⟩ := outermost
  cases move with
  | pop drain below action executor here | begin drain below action here =>
      rw [here] at based
      exact ⟨based, by simp [State.pop, State.begin, State.stand]⟩
  | dry drain below here found =>
      rw [here] at based
      rw [next?_eq_none_iff] at found
      exact ⟨based.2, fun _ => found⟩
  | finish drain below action rest outer here =>
      rw [here] at based
      cases drain with
      | all n =>
          exact ⟨⟨fun _ => ⟨n + 1, rfl⟩, based.2⟩,
            by simp [State.finish, Drain.past, State.stand]⟩
      | one =>
          refine ⟨based.2, fun none => ?_⟩
          obtain ⟨n, other⟩ := based.1 none
          cases other
  | log => exact ⟨based, empty⟩
  | defer drain below action child next outer here =>
      exact ⟨based, by simp [State.defer, here]⟩
  | call drain below action inner rest next outer here =>
      exact ⟨⟨by simp [here], based⟩, by simp [Session.call, State.stand]⟩

/-- What is left of a body is to end as the body ends. -/
def Aligned (s : Session ε) : Prop :=
  List.Forall₂ (fun action rest => rest.outcome = action.action.outcome)
    ((s.state.calls 0).flatMap Call.current) s.rests

structure Faithful (s : Session ε) : Prop where
  aligned : Aligned s
  ended : ∀ entry ∈ s.state.ended, entry.2 = entry.1.2.action.outcome

theorem Aligned.of_running {drain : Drain} {below : List (Call (Script ε))}
    {action : Deferred (Script ε)} {rest : Script ε} {outer : List (Script ε)}
    (aligned : Aligned s) (here : s.state.calls 0 = ⟨drain, .running action⟩ :: below)
    (rests : s.rests = rest :: outer) :
    rest.outcome = action.action.outcome ∧
      List.Forall₂ (fun action rest => rest.outcome = action.action.outcome)
        (below.flatMap Call.current) outer := by
  rw [Aligned, here, rests] at aligned
  exact List.forall₂_cons.mp aligned

theorem finish_calls (s : State (Script ε) Unit) (drain : Drain) (below : List (Call (Script ε)))
    (action : Deferred (Script ε)) (outcome : Outcome Unit) :
    (((s.finish 0 drain below action outcome).calls 0).flatMap Call.current =
        below.flatMap Call.current) ∧
      (((s.finish 0 drain below action outcome).calls 0).flatMap Call.held =
        below.flatMap Call.held) ∧
      (s.finish 0 drain below action outcome).ended = s.ended ++ [((0, action), outcome)] ∧
      (s.finish 0 drain below action outcome).begun = s.begun := by
  cases drain <;>
    simp [State.finish, Drain.past, State.stand, State.answer, Call.current, Call.held]

theorem Move.faithful (move : Move s t) (faithful : Faithful s) : Faithful t := by
  obtain ⟨aligned, ended⟩ := faithful
  cases move with
  | pop drain below action executor here =>
      refine ⟨?_, ended⟩
      rw [Aligned, here] at aligned
      exact aligned
  | dry drain below here =>
      refine ⟨?_, ended⟩
      rw [Aligned, here] at aligned
      exact aligned
  | begin drain below action here =>
      refine ⟨?_, ended⟩
      rw [Aligned, here] at aligned
      exact .cons rfl aligned
  | finish drain below action rest outer here rests finished =>
      obtain ⟨outcome, others⟩ := aligned.of_running here rests
      obtain ⟨current, _, told, _⟩ := finish_calls s.state drain below action rest.outcome
      constructor
      · rwa [Aligned, current]
      · rw [told, List.forall_mem_append, List.forall_mem_singleton]
        exact ⟨ended, outcome⟩
  | log drain below action entry next outer here rests =>
      obtain ⟨outcome, others⟩ := aligned.of_running here rests
      refine ⟨?_, ended⟩
      rw [Aligned, here]
      exact .cons outcome others
  | defer drain below action child next outer here rests =>
      obtain ⟨outcome, others⟩ := aligned.of_running here rests
      refine ⟨?_, ended⟩
      rw [Aligned, State.defer, here]
      exact .cons outcome others
  | call drain below action inner rest next outer here rests calls =>
      obtain ⟨outcome, others⟩ := aligned.of_running here rests
      refine ⟨?_, ended⟩
      have same : next.outcome = rest.outcome := by
        rcases calls with ⟨rfl, _⟩ | ⟨rfl, _⟩ <;> rfl
      have calls : (s.call inner).calls 0 =
          ⟨inner, .looking⟩ :: ⟨drain, .running action⟩ :: below := by
        simp [Session.call, State.stand, here]
      rw [Aligned, calls]
      exact .cons (same.trans outcome) others

def unbegun (s : State (Script ε) Unit) : List (Script ε) :=
  ((s.calls 0).flatMap Call.held ++ s.executor.queued).map Deferred.action

def started (s : State (Script ε) Unit) : List (Script ε) :=
  s.begun.map fun entry => entry.2.action

theorem started_begin (u : State (Script ε) Unit) (drain : Drain) (below : List (Call (Script ε)))
    (action : Deferred (Script ε)) :
    started (u.begin 0 drain below action) = started u ++ [action.action] := by
  simp [started, State.begin]

section

variable {u : State (Script ε) Unit} {drain : Drain} {below : List (Call (Script ε))}
  {action : Deferred (Script ε)}

theorem unbegun_pop {executor : Executor (Deferred (Script ε))}
    (here : u.calls 0 = ⟨drain, .looking⟩ :: below)
    (found : u.executor.next? = some (action, executor)) :
    (unbegun (u.pop 0 drain below action executor)).Perm (unbegun u) := by
  rw [next?_eq_some_iff] at found
  have middle : (action :: (below.flatMap Call.held ++ executor.queued)).Perm
      (below.flatMap Call.held ++ action :: executor.queued) := List.perm_middle.symm
  simpa [unbegun, here, found, State.pop, State.stand, Call.held] using
    middle.map Deferred.action

theorem unbegun_answer (here : u.calls 0 = ⟨drain, .looking⟩ :: below) (result : Drain.Result) :
    unbegun (u.answer 0 below result) = unbegun u := by
  simp [unbegun, here, State.answer, State.stand, Call.held]

theorem unbegun_begin (here : u.calls 0 = ⟨drain, .holding action⟩ :: below) :
    unbegun u = action.action :: unbegun (u.begin 0 drain below action) := by
  simp [unbegun, here, State.begin, State.stand, Call.held]

theorem unbegun_finish (here : u.calls 0 = ⟨drain, .running action⟩ :: below)
    (outcome : Outcome Unit) : unbegun (u.finish 0 drain below action outcome) = unbegun u := by
  obtain ⟨_, held, _⟩ := finish_calls u drain below action outcome
  have queue := (u.finish_queue 0 drain below action outcome).2.2
  simp [unbegun, held, queue, here, Call.held]

theorem unbegun_defer (u : State (Script ε) Unit) (producer : Nat) (child : Script ε) :
    unbegun (u.defer producer child) = unbegun u ++ [child] := by
  simp [unbegun, State.defer]

theorem unbegun_call (s : Session ε) (inner : Drain) :
    unbegun (s.call inner) = unbegun s.state := by
  simp [unbegun, Session.call, State.stand, Call.held]

end

def all (s : Session ε) : List (Script ε) :=
  started s.state ++ ((unbegun s.state).flatMap Script.nodes ++ s.rests.flatMap Script.under)

theorem Move.all (move : Move s t) : t.all.Perm s.all := by
  cases move with
  | pop drain below action executor here found =>
      have same := (unbegun_pop here found).flatMap_right Script.nodes
      exact (same.append_right _).append_left _
  | dry drain below here => rw [Session.all, unbegun_answer here]; exact .refl _
  | begin drain below action here =>
      simp only [Session.all, unbegun_begin here, started_begin, List.flatMap_cons, Script.nodes,
        List.append_assoc, List.cons_append, List.nil_append]
      exact ((List.perm_append_comm_assoc _ _ _).cons _).append_left _
  | finish drain below action rest outer here rests finished =>
      have leaf : rest.under = [] := by
        rcases finished with rfl | ⟨_, rfl⟩ <;> rfl
      have same := (finish_calls s.state drain below action rest.outcome).2.2.2
      rw [Session.all, Session.all, unbegun_finish here, started, same, rests, List.flatMap_cons,
        leaf]
      exact .refl _
  | log drain below action entry next outer here rests =>
      rw [Session.all, Session.all, rests]
      exact .refl _
  | defer drain below action child next outer here rests =>
      simp only [Session.all, unbegun_defer, rests, List.flatMap_append, List.flatMap_cons,
        List.flatMap_nil, Script.under, Script.nodes, List.append_assoc, List.nil_append]
      exact .refl _
  | call drain below action inner rest next outer here rests calls =>
      have same : rest.under = next.under := by
        rcases calls with ⟨rfl, _⟩ | ⟨rfl, _⟩ <;> rfl
      rw [Session.all, Session.all, unbegun_call, rests, List.flatMap_cons, List.flatMap_cons, same]
      exact .refl _

structure AllFlat (s : Session ε) : Prop where
  unbegun : ∀ script ∈ unbegun s.state, script.Flat
  rests : ∀ script ∈ s.rests, script.Flat

theorem Move.allFlat (move : Move s t) (flat : AllFlat s) : AllFlat t := by
  obtain ⟨unbegun, under⟩ := flat
  cases move with
  | pop drain below action executor here found =>
      exact ⟨fun script member => unbegun script ((unbegun_pop here found).subset member), under⟩
  | dry drain below here => exact ⟨by rwa [unbegun_answer here], under⟩
  | begin drain below action here =>
      rw [unbegun_begin here, List.forall_mem_cons] at unbegun
      exact ⟨unbegun.2, List.forall_mem_cons.mpr ⟨unbegun.1, under⟩⟩
  | finish drain below action rest outer here rests =>
      rw [rests, List.forall_mem_cons] at under
      exact ⟨by rwa [unbegun_finish here], under.2⟩
  | log drain below action entry next outer here rests =>
      rw [rests, List.forall_mem_cons] at under
      exact ⟨unbegun, List.forall_mem_cons.mpr under⟩
  | defer drain below action child next outer here rests =>
      rw [rests, List.forall_mem_cons] at under
      obtain ⟨⟨first, later⟩, others⟩ := under
      refine ⟨?_, List.forall_mem_cons.mpr ⟨later, others⟩⟩
      rw [unbegun_defer, List.forall_mem_append, List.forall_mem_singleton]
      exact ⟨unbegun, first⟩
  | call drain below action inner rest next outer here rests calls =>
      rw [rests, List.forall_mem_cons] at under
      rcases calls with ⟨rfl, _⟩ | ⟨rfl, _⟩ <;> cases under.1

structure InOrder (content : List (Nat × Script ε)) (s : Session ε) : Prop where
  once : (∃ n stage, s.state.calls 0 = [⟨.all n, stage⟩] ∧ s.state.answers = []) ∨
    s.state.calls 0 = [] ∧ ∃ n, s.state.answers = [(0, .executed n)]
  order : s.state.pushed.map Deferred.action ++ s.rests.flatMap Script.children =
    content.map Prod.snd ++ (started s.state).flatMap Script.children
  log : s.log ++ s.rests.flatMap Script.entries = (started s.state).flatMap Script.entries

theorem InOrder.only {drain : Drain} {stage : Interleaving.Stage (Script ε)}
    {below : List (Call (Script ε))} (inOrder : InOrder content s)
    (here : s.state.calls 0 = ⟨drain, stage⟩ :: below) :
    ∃ n, drain = .all n ∧ below = [] ∧ s.state.answers = [] := by
  rcases inOrder.once with ⟨n, last, calls, answers⟩ | ⟨none, _⟩
  · rw [here] at calls
    cases calls
    exact ⟨n, rfl, rfl, answers⟩
  · simp [here] at none

theorem Move.inOrder (move : Move s t) (aligned : Aligned s) (flat : AllFlat s)
    (inOrder : InOrder content s) : InOrder content t := by
  have only {drain : Drain} {stage : Interleaving.Stage (Script ε)}
      {below : List (Call (Script ε))} (here : s.state.calls 0 = ⟨drain, stage⟩ :: below) :=
    inOrder.only here
  obtain ⟨once, order, log⟩ := inOrder
  cases move with
  | pop drain below action executor here =>
      obtain ⟨n, rfl, rfl, answers⟩ := only here
      exact ⟨.inl ⟨n, .holding action, by simp [State.pop, State.stand], answers⟩, order, log⟩
  | dry drain below here =>
      obtain ⟨n, rfl, rfl, answers⟩ := only here
      exact ⟨.inr (by simp [State.answer, State.stand, answers, Drain.dry]), order, log⟩
  | begin drain below action here =>
      obtain ⟨n, rfl, rfl, answers⟩ := only here
      have outside : s.rests = [] := by
        rw [Aligned, here] at aligned
        exact List.forall₂_nil_left_iff.mp aligned
      rw [outside, List.flatMap_nil, List.append_nil] at order log
      refine ⟨.inl ⟨n, .running action, by simp [State.begin, State.stand], answers⟩, ?_, ?_⟩
      · rw [started_begin, outside, List.flatMap_append, ← List.append_assoc, ← order]
        rfl
      · rw [started_begin, outside, List.flatMap_append, ← log]
  | finish drain below action rest outer here rests finished =>
      obtain ⟨n, rfl, rfl, answers⟩ := only here
      have leaf : rest.children = [] ∧ rest.entries = [] := by
        rcases finished with rfl | ⟨_, rfl⟩ <;> exact ⟨rfl, rfl⟩
      rw [rests, List.flatMap_cons, leaf.1] at order
      rw [rests, List.flatMap_cons, leaf.2] at log
      exact ⟨.inl ⟨n + 1, .looking, by simp [State.finish, Drain.past, State.stand], answers⟩,
        order, log⟩
  | log drain below action entry next outer here rests =>
      rw [rests] at order log
      exact ⟨once, order, by simpa [Script.entries] using log⟩
  | defer drain below action child next outer here rests =>
      rw [rests, List.flatMap_cons, Script.children] at order
      rw [rests] at log
      refine ⟨once, ?_, log⟩
      rw [State.defer, List.map_append, List.append_assoc]
      exact order
  | call drain below action inner rest next outer here rests calls =>
      have drains := flat.rests rest (by simp [rests])
      rcases calls with ⟨rfl, _⟩ | ⟨rfl, _⟩ <;> cases drains

theorem Move.pushed (move : Move s t) : s.state.pushed <+: t.state.pushed := by
  cases move with
  | defer => exact List.prefix_append _ _
  | finish drain below action rest =>
      rw [(s.state.finish_queue 0 drain below action rest.outcome).1]
  | _ => exact List.prefix_rfl

structure Sound (content : List (Nat × Script ε)) (s : Session ε) : Prop where
  reached : Reachable s.state
  alone : Alone s.state
  outermost : Outermost s.state
  faithful : Faithful s
  first : content.map Prod.snd <+: s.state.pushed.map Deferred.action
  all : s.all.Perm (content.flatMap fun entry => entry.2.nodes)

theorem Sound.move (sound : Sound content s) (move : Move s t) : Sound content t where
  reached := by
    rcases move.state with same | step
    · rw [same]
      exact sound.reached
    · exact sound.reached.tail step
  alone := move.alone sound.alone
  outermost := move.outermost sound.outermost
  faithful := move.faithful sound.faithful
  first := sound.first.trans (move.pushed.map Deferred.action)
  all := move.all.trans sound.all

structure Loaded (content : List (Nat × Script ε)) (s : State (Script ε) Unit) : Prop where
  reached : Reachable s
  calls : s.calls = fun _ => []
  history : s.popped = [] ∧ s.begun = [] ∧ s.ended = [] ∧ s.answers = []
  pushed : s.pushed.map Deferred.action = content.map Prod.snd
  queued : s.executor.queued = s.pushed

theorem Loaded.deferAll {before : List (Nat × Script ε)} {u : State (Script ε) Unit}
    (loaded : Loaded before u) (content : List (Nat × Script ε)) :
    Loaded (before ++ content) (deferAll u content) := by
  induction content generalizing before u with
  | nil => rwa [List.append_nil]
  | cons entry rest ih =>
      have next : Loaded (before ++ [entry]) (u.defer entry.1 entry.2) := by
        refine ⟨loaded.reached.tail (.defer u entry.1 entry.2), loaded.calls, loaded.history, ?_,
          ?_⟩
        · simp [State.defer, loaded.pushed]
        · simp [State.defer, loaded.queued]
      rw [List.append_cons]
      exact ih next

theorem loaded (content : List (Nat × Script ε)) : Loaded content (deferAll {} content) := by
  have empty : Loaded ([] : List (Nat × Script ε)) {} :=
    ⟨.refl, rfl, ⟨rfl, rfl, rfl, rfl⟩, rfl, rfl⟩
  exact empty.deferAll content

theorem start_unbegun (content : List (Nat × Script ε)) :
    unbegun (start content).state = content.map Prod.snd := by
  obtain ⟨_, _, _, pushed, queued⟩ := loaded content
  simp [unbegun, start, State.stand, Call.held, queued, pushed]

theorem start_sound (content : List (Nat × Script ε)) : Sound content (start content) := by
  obtain ⟨reached, calls, ⟨popped, begun, ended, answers⟩, pushed, queued⟩ := loaded content
  have here : (start content).state.calls 0 = [⟨.all 0, .looking⟩] := by
    simp [start, State.stand]
  refine ⟨?_, ⟨?_, ?_⟩, ⟨?_, ?_⟩, ⟨?_, ?_⟩, ?_, ?_⟩
  · have none : (deferAll {} content).calls 0 = [] := by rw [calls]
    have call := Step.call (deferAll {} content) 0 (.all 0) (.inl rfl) (State.canCall_of_idle none)
    rw [none] at call
    exact reached.tail call
  · intro i other
    simp [start, State.stand, other, calls]
  · simp [start, State.stand, popped]
  · rw [here]
    exact ⟨fun _ => ⟨0, rfl⟩, trivial⟩
  · simp [here]
  · rw [Aligned, here]
    exact .nil
  · simp [start, State.stand, ended]
  · rw [← pushed]
    exact List.prefix_rfl
  · have same := start_unbegun content
    have none : started (start content).state = [] := by simp [started, start, State.stand, begun]
    rw [Session.all, same, none, List.nil_append, start, List.flatMap_nil, List.append_nil,
      List.flatMap_map]

theorem start_inOrder (content : List (Nat × Script ε)) : InOrder content (start content) := by
  obtain ⟨_, calls, ⟨_, begun, _, answers⟩, pushed, _⟩ := loaded content
  refine ⟨.inl ⟨0, .looking, by simp [start, State.stand], answers⟩, ?_, ?_⟩
  · simp [start, State.stand, started, begun, pushed]
  · simp [start, State.stand, started, begun]

theorem start_allFlat (flat : ∀ entry ∈ content, entry.2.Flat) : AllFlat (start content) := by
  constructor
  · rw [start_unbegun, List.forall_mem_map]
    exact flat
  · simp [start]

theorem Aligned.calls_eq_nil (aligned : Aligned s) (finished : s.step? = none) :
    s.state.calls 0 = [] ∧ s.rests = [] := by
  cases here : s.state.calls 0 with
  | nil =>
      rw [Aligned, here] at aligned
      exact ⟨rfl, List.forall₂_nil_left_iff.mp aligned⟩
  | cons call below =>
      obtain ⟨drain, stage⟩ := call
      cases stage with
      | looking | holding action => simp [step?, here] at finished
      | running action =>
          rw [Aligned, here] at aligned
          cases rests : s.rests with
          | nil => simp [rests, Call.current] at aligned
          | cons rest outer => simp [step?, here, rests] at finished

/-- What has become of the actions by the time the first call answers. -/
structure Drained (content : List (Nat × Script ε)) (s : Session ε) : Prop where
  returned : s.state.Returned
  empty : s.state.executor.queued = []
  first : content.map Prod.snd <+: s.state.pushed.map Deferred.action
  nodes : (s.state.pushed.map Deferred.action).Perm (content.flatMap fun entry => entry.2.nodes)
  order : s.state.begun.map Prod.snd = s.state.pushed
  once : s.state.pushed.Nodup ∧ (s.state.ended.map Prod.fst).Perm s.state.begun
  ended : ∀ entry ∈ s.state.ended, entry.2 = entry.1.2.action.outcome
  events : s.state.events = s.state.ended.filterMap fun entry => report? entry.2
  answered : ran (s.state.answers.map Prod.snd) + found (s.state.answers.map Prod.snd) =
    s.state.begun.length

theorem Sound.drained_of_finished (sound : Sound content s) (finished : s.step? = none) :
    Drained content s := by
  obtain ⟨calls, rests⟩ := sound.faithful.aligned.calls_eq_nil finished
  have returned : s.state.Returned := by
    intro i
    by_cases mine : i = 0
    · rwa [mine]
    · exact sound.alone.calls i mine
  have empty := sound.outermost.empty calls
  obtain ⟨begun, ended⟩ := sound.reached.all_ended returned
  have order : s.state.begun.map Prod.snd = s.state.pushed := by
    apply (sound.reached.begun_in_order sound.alone.popped).eq_of_length
    rw [sound.reached.order, empty, List.append_nil, List.length_map, List.length_map,
      begun.length_eq]
  have nodes := sound.all
  have none : unbegun s.state = [] := by simp [unbegun, calls, empty]
  have same : started s.state = s.state.pushed.map Deferred.action := by
    rw [← order, List.map_map]
    rfl
  rw [Session.all, none, rests, List.flatMap_nil, List.flatMap_nil, List.append_nil,
    List.append_nil, same] at nodes
  exact ⟨returned, empty, sound.first, nodes, order,
    ⟨sound.reached.pushed_nodup, ended.trans begun.symm⟩, sound.faithful.ended,
    sound.reached.events_eq, by rw [sound.reached.answered returned, begun.length_eq]⟩

/-- What has become of actions that do not drain. -/
structure Levelled (content : List (Nat × Script ε)) (s : Session ε) : Prop where
  order : s.state.begun.map (fun entry => entry.2.action) =
    (Script.growth ε).levelOrder (content.map Prod.snd)
  answers : s.state.answers =
    [(0, .executed (content.flatMap fun entry => entry.2.nodes).length)]
  log : s.log = ((Script.growth ε).levelOrder (content.map Prod.snd)).flatMap Script.entries

theorem InOrder.levelled (inOrder : InOrder content s) (sound : Sound content s)
    (finished : s.step? = none) : Levelled content s := by
  obtain ⟨calls, rests⟩ := sound.faithful.aligned.calls_eq_nil finished
  have drained := sound.drained_of_finished finished
  obtain ⟨once, order, log⟩ := inOrder
  have same : s.state.pushed.map Deferred.action = started s.state := by
    rw [← drained.order, List.map_map]
    rfl
  rw [rests, List.flatMap_nil, List.append_nil] at order log
  have levels : started s.state = (Script.growth ε).levelOrder (content.map Prod.snd) :=
    Growth.eq_levelOrder _ (same.symm.trans order)
  have answers : s.state.answers =
      [(0, .executed (content.flatMap fun entry => entry.2.nodes).length)] := by
    rcases once with ⟨n, stage, busy, _⟩ | ⟨_, n, answers⟩
    · simp [busy] at calls
    · have total := drained.answered
      have nodes := drained.nodes.length_eq
      rw [same, started, List.length_map] at nodes
      rw [answers] at total ⊢
      have counted : n = s.state.begun.length := by simpa [ran, found] using total
      rw [counted, nodes]
  exact ⟨levels, answers, by rw [log, levels]⟩

theorem drive_levelled (flat : ∀ entry ∈ content, entry.2.Flat) :
    Levelled content (start content).drive := by
  have ends := drive_invariant
    (P := fun s => Sound content s ∧ AllFlat s ∧ InOrder content s)
    (fun taken holds => by
      have move := Move.of_step? taken
      obtain ⟨sound, flat, inOrder⟩ := holds
      exact ⟨sound.move move, move.allFlat flat,
        move.inOrder sound.faithful.aligned flat inOrder⟩)
    (start content) ⟨start_sound content, start_allFlat flat, start_inOrder content⟩
  exact ends.1.2.2.levelled ends.1.1 ends.2

/-- A call of `run` ends, whatever the actions defer and drain from within, and has then run all of
them in the order in which they were deferred. -/
theorem reentrant_drain (content : List (Nat × Script ε)) :
    Steps (start content) (start content).drive ∧ (start content).drive.step? = none ∧
      Drained content (start content).drive ∧
      ((∀ entry ∈ content, entry.2.Flat) → Levelled content (start content).drive) := by
  have ends := drive_invariant
    (P := fun s => Steps (start content) s ∧ Sound content s)
    (fun taken holds => ⟨holds.1.tail taken, holds.2.move (.of_step? taken)⟩)
    (start content) ⟨.refl, start_sound content⟩
  exact ⟨ends.1.1, ends.2, ends.1.2.drained_of_finished ends.2, drive_levelled⟩

example : (start [(5, .defer (.log 3 .ret) (.log 1 (.run (.log 4 .ret)))),
    (6, .log 2 (.panic .other))]).drive.state.answers = [(0, .executed 2), (0, .executed 1)] := by
  decide +kernel

theorem reentrant_drain_flat :
    (start [(5, .defer (.log 3 .ret) (.log 1 (.panic .other))), (6, .log 2 .ret)]).drive.log =
        [1, 2, 3] ∧
      Levelled [(5, .defer (.log 3 .ret) (.log 1 (.panic .other))), (6, .log 2 .ret)]
        (start [(5, .defer (.log 3 .ret) (.log 1 (.panic .other))), (6, .log 2 .ret)]).drive := by
  refine ⟨by decide +kernel, (reentrant_drain _).2.2.2 ?_⟩
  simp [Script.Flat]

end WorkerPool.Executor.Session
