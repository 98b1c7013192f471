import WorkerPool.Proofs.Executor.Step
import WorkerPool.Proofs.Shares

namespace WorkerPool.Executor

namespace Drain

def Result.credit : Result → Nat
  | executed count => count
  | found any => any.toNat

def executed : Drain → Nat
  | all executed => executed
  | one => 0

theorem dry_credit (drain : Drain) : drain.dry.credit = drain.executed := by
  cases drain <;> rfl

theorem past_executed {drain next : Drain} (past : drain.past = .inl next) :
    next.executed = drain.executed + 1 := by
  cases drain <;> cases past
  rfl

theorem past_credit {drain : Drain} {result : Result} (past : drain.past = .inr result) :
    result.credit = drain.executed + 1 := by
  cases drain <;> cases past
  rfl

end Drain

namespace Interleaving

variable {α ρ : Type}

namespace Call

def owed (call : Call α) : Nat :=
  match call.stage with
  | .looking => call.drain.executed
  | _ => call.drain.executed + 1

def IsRunning (call : Call α) : Prop := ∃ action, call.stage = .running action

theorem held_of_running {calls : List (Call α)} (running : ∀ call ∈ calls, call.IsRunning) :
    calls.flatMap held = [] := by
  rw [List.flatMap_eq_nil_iff]
  intro call member
  obtain ⟨action, stage⟩ := running call member
  rw [held, stage]

end Call

structure Share (α : Type) where
  calls : List (Call α)
  popped : List (Deferred α)
  begun : List (Deferred α)
  ended : List (Deferred α)
  answers : List Drain.Result

def State.share (s : State α ρ) (i : Nat) : Share α where
  calls := s.calls i
  popped := byWorker s.popped i
  begun := byWorker s.begun i
  ended := byWorker (s.ended.map Prod.fst) i
  answers := byWorker s.answers i

namespace Share

inductive Move : Share α → Share α → Prop
  | call (m : Share α) (drain : Drain) (fresh : drain.executed = 0)
      (free : ∀ call ∈ m.calls.head?, call.IsRunning) :
      Move m { m with calls := ⟨drain, .looking⟩ :: m.calls }
  | pop (m : Share α) (drain : Drain) (below : List (Call α)) (action : Deferred α)
      (here : m.calls = ⟨drain, .looking⟩ :: below) :
      Move m { m with
        calls := ⟨drain, .holding action⟩ :: below
        popped := m.popped ++ [action] }
  | dry (m : Share α) (drain : Drain) (below : List (Call α))
      (here : m.calls = ⟨drain, .looking⟩ :: below) :
      Move m { m with calls := below, answers := m.answers ++ [drain.dry] }
  | begin (m : Share α) (drain : Drain) (below : List (Call α)) (action : Deferred α)
      (here : m.calls = ⟨drain, .holding action⟩ :: below) :
      Move m { m with
        calls := ⟨drain, .running action⟩ :: below
        begun := m.begun ++ [action] }
  | goOn (m : Share α) (drain next : Drain) (below : List (Call α)) (action : Deferred α)
      (here : m.calls = ⟨drain, .running action⟩ :: below) (past : drain.past = .inl next) :
      Move m { m with calls := ⟨next, .looking⟩ :: below, ended := m.ended ++ [action] }
  | answer (m : Share α) (drain : Drain) (result : Drain.Result) (below : List (Call α))
      (action : Deferred α) (here : m.calls = ⟨drain, .running action⟩ :: below)
      (past : drain.past = .inr result) :
      Move m { m with
        calls := below
        ended := m.ended ++ [action]
        answers := m.answers ++ [result] }

/-- All that a drainer has popped it has begun, apart from what it holds; all that it has begun is
over, apart from what it is in; and its calls answer for all that it has popped. -/
structure Sound (m : Share α) : Prop where
  popped : m.popped = m.begun ++ m.calls.flatMap Call.held
  begun : m.begun.Perm (m.ended ++ m.calls.flatMap Call.current)
  below : ∀ call ∈ m.calls.tail, call.IsRunning
  answered : (m.answers.map Drain.Result.credit).sum + (m.calls.map Call.owed).sum =
    m.popped.length

theorem sound_iff_of_cons {m : Share α} {top : Call α} {below : List (Call α)}
    (here : m.calls = top :: below) : m.Sound ↔
      m.popped = m.begun ++ top.held ∧
        m.begun.Perm (m.ended ++ (top.current ++ below.flatMap Call.current)) ∧
        (∀ call ∈ below, call.IsRunning) ∧
        (m.answers.map Drain.Result.credit).sum + (top.owed + (below.map Call.owed).sum) =
          m.popped.length := by
  have held (running : ∀ call ∈ below, call.IsRunning) :
      m.calls.flatMap Call.held = top.held := by
    rw [here, List.flatMap_cons, Call.held_of_running running, List.append_nil]
  constructor
  · rintro ⟨popped, begun, running, answered⟩
    simp only [here, List.tail_cons, List.flatMap_cons, List.map_cons, List.sum_cons]
      at begun running answered
    exact ⟨held running ▸ popped, begun, running, answered⟩
  · rintro ⟨popped, begun, running, answered⟩
    refine ⟨(held running).symm ▸ popped, ?_, ?_, ?_⟩ <;> rw [here]
    · exact begun
    · exact running
    · exact answered

theorem sound_of_running {m : Share α} (popped : m.popped = m.begun)
    (begun : m.begun.Perm (m.ended ++ m.calls.flatMap Call.current))
    (running : ∀ call ∈ m.calls, call.IsRunning)
    (answered : (m.answers.map Drain.Result.credit).sum + (m.calls.map Call.owed).sum =
      m.popped.length) : m.Sound where
  popped := by rw [Call.held_of_running running, List.append_nil, popped]
  begun := begun
  below := fun call member => running call (List.mem_of_mem_tail member)
  answered := answered

theorem Sound.running {m : Share α} (sound : m.Sound)
    (free : ∀ call ∈ m.calls.head?, call.IsRunning) : ∀ call ∈ m.calls, call.IsRunning := by
  intro call member
  cases calls : m.calls with
  | nil => simp [calls] at member
  | cons top rest =>
      rw [calls, List.mem_cons] at member
      rcases member with rfl | member
      · exact free call (by simp [calls])
      · exact sound.below call (by simpa [calls] using member)

theorem Move.sound {m n : Share α} (move : Move m n) (sound : m.Sound) : n.Sound := by
  cases move with
  | call drain fresh free =>
      have running := sound.running free
      apply (sound_iff_of_cons rfl).mpr
      refine ⟨?_, sound.begun, running, ?_⟩
      · simpa [Call.held, Call.held_of_running running] using sound.popped
      · simpa [Call.owed, fresh] using sound.answered
  | pop drain rest action here =>
      obtain ⟨popped, begun, running, answered⟩ := (sound_iff_of_cons here).mp sound
      apply (sound_iff_of_cons rfl).mpr
      refine ⟨?_, begun, running, ?_⟩
      · simp [popped, Call.held]
      · simp only [Call.owed, List.length_append, List.length_singleton] at answered ⊢
        omega
  | dry drain rest here =>
      obtain ⟨popped, begun, running, answered⟩ := (sound_iff_of_cons here).mp sound
      refine sound_of_running (popped.trans (List.append_nil _)) begun running ?_
      simp only [Call.owed, List.map_append, List.sum_append, List.map_singleton,
        List.sum_singleton, Drain.dry_credit] at answered ⊢
      omega
  | begin drain rest action here =>
      obtain ⟨popped, begun, running, answered⟩ := (sound_iff_of_cons here).mp sound
      apply (sound_iff_of_cons rfl).mpr
      refine ⟨by simpa [Call.held] using popped, ?_, running, answered⟩
      have last : (m.begun ++ [action]).Perm (m.ended ++ rest.flatMap Call.current ++ [action]) :=
        begun.append_right [action]
      rw [List.append_assoc] at last
      exact last.trans (List.perm_append_comm.append_left _)
  | goOn drain next rest action here past =>
      obtain ⟨popped, begun, running, answered⟩ := (sound_iff_of_cons here).mp sound
      apply (sound_iff_of_cons rfl).mpr
      refine ⟨popped, ?_, running, ?_⟩
      · simpa [Call.current] using begun
      · simpa [Call.owed, Drain.past_executed past] using answered
  | answer drain result rest action here past =>
      obtain ⟨popped, begun, running, answered⟩ := (sound_iff_of_cons here).mp sound
      refine sound_of_running (popped.trans (List.append_nil _)) ?_ running ?_
      · simpa [Call.current] using begun
      · simp only [Call.owed, List.map_append, List.sum_append, List.map_singleton,
          List.sum_singleton, Drain.past_credit past] at answered ⊢
        omega

end Share

theorem Step.share {s t : State α ρ} (step : Step s t) (j : Nat) :
    t.share j = s.share j ∨ (s.share j).Move (t.share j) := by
  cases step with
  | defer producer action => exact .inl rfl
  | call i drain fresh free =>
      by_cases mine : j = i
      · subst mine
        have move := Share.Move.call (s.share j) drain
          (by rcases fresh with rfl | rfl <;> rfl) free
        exact .inr (by simpa [State.share, State.stand] using move)
      · exact .inl (by simp [State.share, State.stand, mine])
  | pop i drain below action executor here found =>
      by_cases mine : j = i
      · subst mine
        have move := Share.Move.pop (s.share j) drain below action here
        exact .inr (by simpa [State.share, State.pop, State.stand, byWorker_append] using move)
      · exact .inl (by simp [State.share, State.pop, State.stand, byWorker_append, mine])
  | dry i drain below here found =>
      by_cases mine : j = i
      · subst mine
        have move := Share.Move.dry (s.share j) drain below here
        exact .inr (by simpa [State.share, State.answer, State.stand, byWorker_append] using move)
      · exact .inl (by simp [State.share, State.answer, State.stand, byWorker_append, mine])
  | begin i drain below action here =>
      by_cases mine : j = i
      · subst mine
        have move := Share.Move.begin (s.share j) drain below action here
        exact .inr (by simpa [State.share, State.begin, State.stand, byWorker_append] using move)
      · exact .inl (by simp [State.share, State.begin, State.stand, byWorker_append, mine])
  | finish i drain below action outcome here =>
      cases past : drain.past with
      | inl next =>
          by_cases mine : j = i
          · subst mine
            have move := Share.Move.goOn (s.share j) drain next below action here past
            exact .inr (by
              simpa [State.share, State.finish, past, State.stand, byWorker_append] using move)
          · exact .inl (by
              simp [State.share, State.finish, past, State.stand, byWorker_append, mine])
      | inr result =>
          by_cases mine : j = i
          · subst mine
            have move := Share.Move.answer (s.share j) drain result below action here past
            exact .inr (by
              simpa [State.share, State.finish, past, State.answer, State.stand, byWorker_append]
                using move)
          · exact .inl (by
              simp [State.share, State.finish, past, State.answer, State.stand, byWorker_append,
                mine])

theorem Reachable.sound {s : State α ρ} (reached : Reachable s) (i : Nat) : (s.share i).Sound := by
  refine reached.invariant (P := fun s => (s.share i).Sound) ?_ fun {s t} step sound => ?_
  · exact ⟨rfl, .refl _, by simp [State.share], rfl⟩
  · rcases step.share i with same | move
    · exact same ▸ sound
    · exact move.sound sound

theorem State.finish_queue (s : State α ρ) (i : Nat) (drain : Drain) (below : List (Call α))
    (action : Deferred α) (outcome : Outcome ρ) :
    (s.finish i drain below action outcome).pushed = s.pushed ∧
      (s.finish i drain below action outcome).popped = s.popped ∧
      (s.finish i drain below action outcome).executor = s.executor := by
  cases drain <;> exact ⟨rfl, rfl, rfl⟩

theorem Reachable.order {s : State α ρ} (reached : Reachable s) :
    s.pushed = s.popped.map Prod.snd ++ s.executor.queued := by
  refine reached.invariant
    (P := fun s => s.pushed = s.popped.map Prod.snd ++ s.executor.queued) rfl ?_
  intro s t step before
  cases step with
  | defer producer action => simp [State.defer, before]
  | pop i drain below action executor here found =>
      rw [next?_eq_some_iff] at found
      simp [State.pop, State.stand, before, found]
  | finish i drain below action outcome here =>
      obtain ⟨pushed, popped, executor⟩ := s.finish_queue i drain below action outcome
      rw [pushed, popped, executor]
      exact before
  | call | dry | begin => exact before

theorem Reachable.numbers {s : State α ρ} (reached : Reachable s) :
    s.pushed.map Deferred.number = List.range s.pushed.length := by
  refine reached.invariant
    (P := fun s => s.pushed.map Deferred.number = List.range s.pushed.length) rfl ?_
  intro s t step before
  cases step with
  | defer producer action => simp [State.defer, before, List.range_succ]
  | finish i drain below action outcome here =>
      rw [(s.finish_queue i drain below action outcome).1]
      exact before
  | call | pop | dry | begin => exact before

theorem Reachable.pushed_nodup {s : State α ρ} (reached : Reachable s) : s.pushed.Nodup := by
  apply List.Nodup.of_map Deferred.number
  rw [reached.numbers]
  exact List.nodup_range

theorem Reachable.popped_nodup {s : State α ρ} (reached : Reachable s) :
    (s.popped.map Prod.snd).Nodup := by
  have nodup := reached.pushed_nodup
  rw [reached.order] at nodup
  exact (List.nodup_append.mp nodup).1

theorem Step.queue_empty {s t : State α ρ} {i : Nat} {result : Drain.Result} (step : Step s t)
    (answered : t.answers = s.answers ++ [(i, result)]) (dry : result ≠ .found true) :
    s.executor.queued = [] := by
  cases step with
  | dry j drain below here found => exact (next?_eq_none_iff _).mp found
  | finish j drain below action outcome here =>
      cases drain with
      | all executed => simp [State.finish, Drain.past, State.stand] at answered
      | one =>
          have found : j = i ∧ Drain.Result.found true = result := by
            simpa [State.finish, Drain.past, State.answer, State.stand] using answered
          exact absurd found.2.symm dry
  | defer | call | pop | begin =>
      simp [State.defer, State.stand, State.pop, State.begin] at answered

theorem Reachable.popped_by_one {s : State α ρ} (reached : Reachable s) {action : Deferred α}
    (pushed : action ∈ s.pushed) (gone : action ∉ s.executor.queued) :
    ∃! i, (i, action) ∈ s.popped := by
  rw [reached.order, List.mem_append] at pushed
  obtain ⟨⟨i, popped⟩, member, rfl⟩ := List.mem_map.mp (pushed.resolve_right gone)
  refine ⟨i, member, fun j other => ?_⟩
  have same := List.inj_on_of_nodup_map reached.popped_nodup other member rfl
  exact congrArg Prod.fst same

theorem Reachable.begun_subperm {s : State α ρ} (reached : Reachable s) :
    s.begun.Subperm s.popped := by
  apply subperm_of_shares
  intro i
  have popped : byWorker s.popped i = byWorker s.begun i ++ (s.calls i).flatMap Call.held :=
    (reached.sound i).popped
  rw [popped]
  exact (List.sublist_append_left _ _).subperm

theorem Reachable.ended_subperm {s : State α ρ} (reached : Reachable s) :
    (s.ended.map Prod.fst).Subperm s.begun := by
  apply subperm_of_shares
  intro i
  have begun : (byWorker s.begun i).Perm
      (byWorker (s.ended.map Prod.fst) i ++ (s.calls i).flatMap Call.current) :=
    (reached.sound i).begun
  exact (List.sublist_append_left _ _).subperm.trans begun.symm.subperm

theorem Reachable.nodup_of_subperm {s : State α ρ} (reached : Reachable s)
    {log : List (Nat × Deferred α)} (within : log.Subperm s.popped) :
    (log.map Prod.snd).Nodup := by
  obtain ⟨part, perm, sublist⟩ := within
  exact ((perm.map Prod.snd).nodup_iff).mp (reached.popped_nodup.sublist (sublist.map Prod.snd))

theorem Reachable.all_ended {s : State α ρ} (reached : Reachable s) (returned : s.Returned) :
    s.begun.Perm s.popped ∧ (s.ended.map Prod.fst).Perm s.popped := by
  have begun : s.begun.Perm s.popped := by
    apply perm_of_shares
    intro i
    have popped := (reached.sound i).popped
    simp only [State.share, returned i, List.flatMap_nil, List.append_nil] at popped
    rw [popped]
  have ended : (s.ended.map Prod.fst).Perm s.begun := by
    apply perm_of_shares
    intro i
    have begun := (reached.sound i).begun
    simp only [State.share, returned i, List.flatMap_nil, List.append_nil] at begun
    exact begun.symm
  exact ⟨begun, ended.trans begun⟩

def ran (results : List Drain.Result) : Nat :=
  (results.map fun result => match result with
    | .executed count => count
    | .found _ => 0).sum

def found (results : List Drain.Result) : Nat := results.count (.found true)

theorem ran_add_found (results : List Drain.Result) :
    ran results + found results = (results.map Drain.Result.credit).sum := by
  induction results with
  | nil => rfl
  | cons result rest ih =>
      have first : ran [result] + found [result] = result.credit := by
        cases result with
        | executed count => rfl
        | found any => cases any <;> rfl
      have sum : ran ([result] ++ rest) = ran [result] + ran rest := by simp [ran]
      have number : found ([result] ++ rest) = found [result] + found rest := List.count_append
      rw [List.map_cons, List.sum_cons, ← ih, ← first, ← List.singleton_append, sum, number]
      omega

theorem Reachable.own_answered {s : State α ρ} (reached : Reachable s) {i : Nat}
    (back : s.calls i = []) :
    ran (byWorker s.answers i) + found (byWorker s.answers i) = (byWorker s.popped i).length := by
  have answered := (reached.sound i).answered
  rw [ran_add_found]
  simpa [State.share, back] using answered

theorem Reachable.answered {s : State α ρ} (reached : Reachable s) (returned : s.Returned) :
    ran (s.answers.map Prod.snd) + found (s.answers.map Prod.snd) = s.popped.length := by
  have each (i : Nat) : ((byWorker s.answers i).map Drain.Result.credit).sum =
      ((byWorker s.popped i).map fun _ => 1).sum := by
    rw [← ran_add_found, reached.own_answered (returned i)]
    simp
  let drainers := (s.answers.map Prod.fst ++ s.popped.map Prod.fst).toFinset
  have answers := sum_shares Drain.Result.credit s.answers drainers fun entry member =>
    List.mem_toFinset.mpr (List.mem_append_left _ (List.mem_map_of_mem member))
  have popped := sum_shares (fun _ => 1) s.popped drainers fun entry member =>
    List.mem_toFinset.mpr (List.mem_append_right _ (List.mem_map_of_mem member))
  calc
    ran (s.answers.map Prod.snd) + found (s.answers.map Prod.snd) =
        (s.answers.map fun entry => entry.2.credit).sum := by
      rw [ran_add_found, List.map_map]
      rfl
    _ = ∑ i ∈ drainers, ((byWorker s.answers i).map Drain.Result.credit).sum := answers.symm
    _ = ∑ i ∈ drainers, ((byWorker s.popped i).map fun _ => 1).sum :=
      Finset.sum_congr rfl fun i _ => each i
    _ = (s.popped.map fun _ => 1).sum := popped
    _ = s.popped.length := by simp

theorem Reachable.begun_in_order {s : State α ρ} (reached : Reachable s) {i : Nat}
    (alone : ∀ entry ∈ s.popped, entry.1 = i) : s.begun.map Prod.snd <+: s.pushed := by
  have begun : ∀ entry ∈ s.begun, entry.1 = i := fun entry member =>
    alone entry (reached.begun_subperm.subset member)
  have popped := (reached.sound i).popped
  simp only [State.share, byWorker_eq_map alone, byWorker_eq_map begun] at popped
  rw [reached.order, popped, List.append_assoc]
  exact List.prefix_append _ _

theorem Reachable.events_eq {s : State α ρ} (reached : Reachable s) :
    s.events = s.ended.filterMap fun entry => report? entry.2 := by
  refine reached.invariant
    (P := fun s => s.events = s.ended.filterMap fun entry => report? entry.2) rfl ?_
  intro s t step before
  cases step with
  | finish i drain below action outcome here =>
      cases drain <;> cases outcome <;>
        simp [State.finish, Drain.past, State.stand, State.answer, report?, before]
  | defer | call | pop | dry | begin => exact before

theorem Reachable.drained_once {s : State α ρ} (reached : Reachable s) :
    (s.pushed = s.popped.map Prod.snd ++ s.executor.queued ∧ s.pushed.Nodup) ∧
      (∀ action ∈ s.pushed, action ∉ s.executor.queued → ∃! i, (i, action) ∈ s.popped) ∧
      (s.begun.Subperm s.popped ∧ (s.begun.map Prod.snd).Nodup) ∧
      ((s.ended.map Prod.fst).Subperm s.begun ∧ ((s.ended.map Prod.fst).map Prod.snd).Nodup) ∧
      (∀ i, s.calls i = [] → ran (byWorker s.answers i) + found (byWorker s.answers i) =
        (byWorker s.popped i).length) ∧
      (s.Returned → s.begun.Perm s.popped ∧ (s.ended.map Prod.fst).Perm s.popped ∧
        ran (s.answers.map Prod.snd) + found (s.answers.map Prod.snd) = s.popped.length) ∧
      (∀ i, (∀ entry ∈ s.popped, entry.1 = i) → ∀ producer,
        (s.begun.map Prod.snd).filter (·.producer = producer) <+:
          s.pushed.filter (·.producer = producer)) ∧
      ∀ t i result, Step s t → t.answers = s.answers ++ [(i, result)] → result ≠ .found true →
        s.executor.queued = [] := by
  refine ⟨⟨reached.order, reached.pushed_nodup⟩, fun action => reached.popped_by_one, ?_, ?_,
    fun i => reached.own_answered, ?_, ?_, fun t i result => Step.queue_empty⟩
  · exact ⟨reached.begun_subperm, reached.nodup_of_subperm reached.begun_subperm⟩
  · exact ⟨reached.ended_subperm,
      reached.nodup_of_subperm (reached.ended_subperm.trans reached.begun_subperm)⟩
  · intro returned
    obtain ⟨begun, ended⟩ := reached.all_ended returned
    exact ⟨begun, ended, reached.answered returned⟩
  · exact fun i alone producer => (reached.begun_in_order alone).filter _

/-- While one action of the first drainer runs, it defers another and drains from within; an action
panics there; the second drainer has taken one in between. -/
theorem drained_once_within : ∃ s : State Nat Unit, Reachable s ∧ s.Returned ∧
    s.popped = [(0, ⟨0, 5, 10⟩), (1, ⟨1, 6, 11⟩), (0, ⟨2, 5, 12⟩), (0, ⟨3, 7, 13⟩)] ∧
    s.answers = [(0, .executed 2), (1, .found true), (0, .executed 1)] ∧
    s.events = [.actionPanicked "late"] ∧ (s.ended.map Prod.fst).Perm s.popped ∧
    ran (s.answers.map Prod.snd) + found (s.answers.map Prod.snd) = s.popped.length := by
  have replayed : ∃ s : State Nat Unit, Reachable s ∧ s.Returned ∧
      s.popped = [(0, ⟨0, 5, 10⟩), (1, ⟨1, 6, 11⟩), (0, ⟨2, 5, 12⟩), (0, ⟨3, 7, 13⟩)] ∧
      s.answers = [(0, .executed 2), (1, .found true), (0, .executed 1)] ∧
      s.events = [.actionPanicked "late"] :=
    ⟨_, .head (.defer _ 5 10) <| .head (.defer _ 6 11) <| .head (.defer _ 5 12) <|
      .head (.call _ 0 (.all 0) (.inl rfl) (State.canCall_of_idle rfl)) <|
      .head (.pop _ 0 _ _ _ _ rfl rfl) <|
      .head (.call _ 1 .one (.inr rfl) (State.canCall_of_idle rfl)) <|
      .head (.pop _ 1 _ _ _ _ rfl rfl) <| .head (.begin _ 0 _ _ _ rfl) <|
      .head (.begin _ 1 _ _ _ rfl) <| .head (.defer _ 7 13) <|
      .head (.call _ 0 (.all 0) (.inl rfl) fun _ top => ⟨_, by cases top; rfl⟩) <|
      .head (.pop _ 0 _ _ _ _ rfl rfl) <| .head (.begin _ 0 _ _ _ rfl) <|
      .head (.finish _ 0 _ _ _ (.panicked (.text "late")) rfl) <|
      .head (.pop _ 0 _ _ _ _ rfl rfl) <| .head (.begin _ 0 _ _ _ rfl) <|
      .head (.finish _ 0 _ _ _ (.returned ()) rfl) <| .head (.dry _ 0 _ _ rfl rfl) <|
      .head (.finish _ 1 _ _ _ (.returned ()) rfl) <|
      .head (.finish _ 0 _ _ _ (.returned ()) rfl) <| .head (.dry _ 0 _ _ rfl rfl) .refl,
      (fun | 0 => rfl | 1 => rfl | _ + 2 => rfl), rfl, rfl, rfl⟩
  obtain ⟨s, reached, returned, popped, answers, events⟩ := replayed
  have whole := reached.drained_once.2.2.2.2.2.1 returned
  exact ⟨s, reached, returned, popped, answers, events, whole.2⟩

end Interleaving

end WorkerPool.Executor
