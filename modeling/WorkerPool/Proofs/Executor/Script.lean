import WorkerPool.Proofs.Executor.Step
import WorkerPool.Proofs.LevelOrder

namespace WorkerPool.Executor

/-- The body of an action. -/
inductive Script (ε : Type) where
  | ret
  | panic (payload : Payload)
  | log (entry : ε) (next : Script ε)
  | defer (action next : Script ε)
  | run (next : Script ε)
  | runOne (next : Script ε)
  deriving DecidableEq, Repr

namespace Script

variable {ε : Type}

def children : Script ε → List (Script ε)
  | ret | panic _ => []
  | log _ next | run next | runOne next => next.children
  | defer action next => action :: next.children

def under : Script ε → List (Script ε)
  | ret | panic _ => []
  | log _ next | run next | runOne next => next.under
  | defer action next => (action :: action.under) ++ next.under

def nodes (script : Script ε) : List (Script ε) := script :: script.under

def entries : Script ε → List ε
  | ret | panic _ => []
  | log entry next => entry :: next.entries
  | defer _ next | run next | runOne next => next.entries

def outcome : Script ε → Outcome Unit
  | ret => .returned ()
  | panic payload => .panicked payload
  | log _ next | defer _ next | run next | runOne next => next.outcome

def weight : Script ε → Nat
  | ret | panic _ => 1
  | log _ next => next.weight + 1
  | defer action next => action.weight + next.weight + 3
  | run next | runOne next => next.weight + 2

def Flat : Script ε → Prop
  | ret | panic _ => True
  | log _ next => next.Flat
  | defer action next => action.Flat ∧ next.Flat
  | run _ | runOne _ => False

theorem under_eq (script : Script ε) : script.under = script.children.flatMap nodes := by
  induction script with
  | ret | panic => rfl
  | log entry next ih | run next ih | runOne next ih => exact ih
  | defer action next _ ih => rw [under, children, List.flatMap_cons, ← ih, nodes]

theorem children_smaller (script : Script ε) :
    (script.children.map fun child => child.nodes.length).sum < script.nodes.length := by
  rw [nodes, under_eq, List.length_cons, List.length_flatMap]
  exact Nat.lt_succ_self _

def growth (ε : Type) : Growth (Script ε) where
  children := children
  size script := script.nodes.length
  smaller := children_smaller

end Script

open Interleaving

/-- Drainer `0` runs actions, and nobody else does anything. -/
structure Session (ε : Type) where
  state : State (Script ε) Unit := {}
  rests : List (Script ε) := []
  log : List ε := []

namespace Session

variable {ε : Type}

def call (s : Session ε) (drain : Drain) : State (Script ε) Unit :=
  s.state.stand 0 (⟨drain, .looking⟩ :: s.state.calls 0)

def look (s : Session ε) (drain : Drain) (below : List (Call (Script ε))) : Session ε :=
  match s.state.executor.next? with
  | some (action, executor) => { s with state := s.state.pop 0 drain below action executor }
  | none => { s with state := s.state.answer 0 below drain.dry }

def advance (s : Session ε) (drain : Drain) (below : List (Call (Script ε)))
    (action : Deferred (Script ε)) (outer : List (Script ε)) : Script ε → Session ε
  | .ret => { s with state := s.state.finish 0 drain below action (.returned ()), rests := outer }
  | .panic payload =>
    { s with state := s.state.finish 0 drain below action (.panicked payload), rests := outer }
  | .log entry next => { s with rests := next :: outer, log := s.log ++ [entry] }
  | .defer child next => { s with state := s.state.defer 0 child, rests := next :: outer }
  | .run next => { s with state := s.call (.all 0), rests := next :: outer }
  | .runOne next => { s with state := s.call .one, rests := next :: outer }

def step? (s : Session ε) : Option (Session ε) :=
  match s.state.calls 0, s.rests with
  | ⟨drain, .looking⟩ :: below, _ => some (s.look drain below)
  | ⟨drain, .holding action⟩ :: below, rests =>
    some { s with state := s.state.begin 0 drain below action, rests := action.action :: rests }
  | ⟨drain, .running action⟩ :: below, rest :: outer =>
    some (s.advance drain below action outer rest)
  | _, _ => none

abbrev Steps : Session ε → Session ε → Prop :=
  Relation.ReflTransGen fun s t => s.step? = some t

inductive Move (s : Session ε) : Session ε → Prop
  | pop (drain : Drain) (below : List (Call (Script ε))) (action : Deferred (Script ε))
      (executor : Executor (Deferred (Script ε)))
      (here : s.state.calls 0 = ⟨drain, .looking⟩ :: below)
      (found : s.state.executor.next? = some (action, executor)) :
      Move s { s with state := s.state.pop 0 drain below action executor }
  | dry (drain : Drain) (below : List (Call (Script ε)))
      (here : s.state.calls 0 = ⟨drain, .looking⟩ :: below)
      (found : s.state.executor.next? = none) :
      Move s { s with state := s.state.answer 0 below drain.dry }
  | begin (drain : Drain) (below : List (Call (Script ε))) (action : Deferred (Script ε))
      (here : s.state.calls 0 = ⟨drain, .holding action⟩ :: below) :
      Move s
        { s with state := s.state.begin 0 drain below action, rests := action.action :: s.rests }
  | finish (drain : Drain) (below : List (Call (Script ε))) (action : Deferred (Script ε))
      (rest : Script ε) (outer : List (Script ε))
      (here : s.state.calls 0 = ⟨drain, .running action⟩ :: below)
      (rests : s.rests = rest :: outer)
      (finished : rest = .ret ∨ ∃ payload, rest = .panic payload) :
      Move s { s with state := s.state.finish 0 drain below action rest.outcome, rests := outer }
  | log (drain : Drain) (below : List (Call (Script ε))) (action : Deferred (Script ε))
      (entry : ε) (next : Script ε) (outer : List (Script ε))
      (here : s.state.calls 0 = ⟨drain, .running action⟩ :: below)
      (rests : s.rests = .log entry next :: outer) :
      Move s { s with rests := next :: outer, log := s.log ++ [entry] }
  | defer (drain : Drain) (below : List (Call (Script ε))) (action : Deferred (Script ε))
      (child next : Script ε) (outer : List (Script ε))
      (here : s.state.calls 0 = ⟨drain, .running action⟩ :: below)
      (rests : s.rests = .defer child next :: outer) :
      Move s { s with state := s.state.defer 0 child, rests := next :: outer }
  | call (drain : Drain) (below : List (Call (Script ε))) (action : Deferred (Script ε))
      (inner : Drain) (rest next : Script ε) (outer : List (Script ε))
      (here : s.state.calls 0 = ⟨drain, .running action⟩ :: below)
      (rests : s.rests = rest :: outer)
      (calls : rest = .run next ∧ inner = .all 0 ∨ rest = .runOne next ∧ inner = .one) :
      Move s { s with state := s.call inner, rests := next :: outer }

theorem Move.of_step? {s t : Session ε} (taken : s.step? = some t) : Move s t := by
  unfold step? at taken
  split at taken
  · next drain below here =>
      cases taken
      unfold look
      split
      · next action executor found => exact .pop drain below action executor here found
      · next found => exact .dry drain below here found
  · next drain action below here =>
      cases taken
      exact .begin drain below action here
  · next drain action below rest outer here rests =>
      cases taken
      cases rest with
      | ret => exact .finish drain below action _ outer here rests (.inl rfl)
      | panic payload => exact .finish drain below action _ outer here rests (.inr ⟨_, rfl⟩)
      | log entry next => exact .log drain below action entry next outer here rests
      | defer child next => exact .defer drain below action child next outer here rests
      | run next => exact .call drain below action _ _ next outer here rests (.inl ⟨rfl, rfl⟩)
      | runOne next => exact .call drain below action _ _ next outer here rests (.inr ⟨rfl, rfl⟩)
  · cases taken

def callWeight (call : Call (Script ε)) : Nat :=
  match call.stage with
  | .looking | .running _ => 1
  | .holding action => action.action.weight + 2

/-- More than the steps that are left to the thread. -/
def weight (s : Session ε) : Nat :=
  ((s.state.calls 0).map callWeight).sum +
    (s.state.executor.queued.map fun action => action.action.weight + 2).sum +
      (s.rests.map Script.weight).sum

theorem Move.weight_lt {s t : Session ε} (move : Move s t) : t.weight < s.weight := by
  cases move with
  | pop drain below action executor here found =>
      rw [next?_eq_some_iff] at found
      simp only [weight, State.pop, State.stand, Function.update_self, here, found, List.map_cons,
        List.sum_cons, callWeight]
      omega
  | dry drain below here found =>
      simp [weight, here, State.answer, State.stand, callWeight]
  | begin drain below action here =>
      simp only [weight, State.begin, State.stand, Function.update_self, here, List.map_cons,
        List.sum_cons, callWeight]
      omega
  | finish drain below action rest outer here rests finished =>
      have light : rest.weight = 1 := by
        rcases finished with rfl | ⟨_, rfl⟩ <;> rfl
      cases drain with
      | all n =>
          simp [weight, here, rests, light, State.finish, Drain.past, State.stand, callWeight]
      | one =>
          simp only [weight, State.finish, Drain.past, State.answer, State.stand,
            Function.update_self, here, rests, light, List.map_cons, List.sum_cons, callWeight]
          omega
  | log drain below action entry next outer here rests =>
      simp [weight, rests, Script.weight]
  | defer drain below action child next outer here rests =>
      simp only [weight, State.defer, queued_defer, rests, List.map_append, List.map_cons,
        List.map_nil, List.sum_append, List.sum_cons, List.sum_nil, Script.weight]
      omega
  | call drain below action inner rest next outer here rests calls =>
      have heavy : rest.weight = next.weight + 2 := by
        rcases calls with ⟨rfl, _⟩ | ⟨rfl, _⟩ <;> rfl
      simp only [weight, Session.call, State.stand, Function.update_self, rests, heavy,
        List.map_cons, List.sum_cons, callWeight]
      omega

/-- The thread goes on until all its calls have returned. -/
def drive (s : Session ε) : Session ε :=
  match _ : s.step? with
  | some next => next.drive
  | none => s
termination_by s.weight
decreasing_by exact (Move.of_step? ‹_›).weight_lt

theorem drive_eq (s : Session ε) :
    (s.step? = none ∧ s.drive = s) ∨ ∃ t, s.step? = some t ∧ s.drive = t.drive := by
  rw [drive]
  split
  · next t taken => exact .inr ⟨t, taken, rfl⟩
  · next finished => exact .inl ⟨finished, rfl⟩

theorem drive_invariant {P : Session ε → Prop} (keep : ∀ {s t}, s.step? = some t → P s → P t)
    (s : Session ε) (holds : P s) : P s.drive ∧ s.drive.step? = none := by
  rcases s.drive_eq with ⟨finished, same⟩ | ⟨t, taken, same⟩
  · rw [same]
    exact ⟨holds, finished⟩
  · rw [same]
    exact drive_invariant keep t (keep taken holds)
termination_by s.weight
decreasing_by exact (Move.of_step? taken).weight_lt

def deferAll (s : State (Script ε) Unit) (content : List (Nat × Script ε)) :
    State (Script ε) Unit :=
  content.foldl (fun s entry => s.defer entry.1 entry.2) s

def start (content : List (Nat × Script ε)) : Session ε where
  state := (deferAll {} content).stand 0 [⟨.all 0, .looking⟩]

example :
    (start [(5, .defer (.log 7 .ret) (.panic .other)), (6, .runOne (.log 8 .ret))]).drive.log =
      [7, 8] := by
  decide +kernel

end Session

end WorkerPool.Executor
