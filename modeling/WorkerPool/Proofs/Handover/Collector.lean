import WorkerPool.Proofs.Handover.Account

namespace WorkerPool.Handover

open Executor.Interleaving (Call)

variable {α ρ : Type} {tasks : List (List α)} {workers : Nat} {s t : State α ρ}

/-- How an executor stands with the only thread that drains it. -/
inductive Attended (x : Executor.Interleaving.State α ρ) (collector : Collector) : Prop
  | uncalled (other : collector ≠ .draining) (idle : x.calls 0 = []) (unanswered : x.answers = [])
  | called (n : Nat) (stage : Executor.Interleaving.Stage α) (draining : collector = .draining)
      (here : x.calls 0 = [⟨.all n, stage⟩]) (unanswered : x.answers = [])
  | returned (n : Nat) (draining : collector = .draining) (idle : x.calls 0 = [])
      (dry : x.executor.queued = []) (answered : x.answers = [(0, .executed n)])

def OneAtATime (x : Executor.Interleaving.State α ρ) : Prop :=
  x.begun = x.ended.map Prod.fst ++ ((x.calls 0).flatMap Call.current).map (0, ·)

/-- The collector runs what was deferred once the barrier is at zero, and nobody else does. -/
structure State.Orderly (s : State α ρ) : Prop where
  opened : s.collector = .through ∨ s.collector = .draining → s.recorded.barrier.remaining = 0
  attended : Attended s.executor s.collector
  popped : ∀ entry ∈ s.executor.popped, entry.1 = 0
  ended : OneAtATime s.executor

theorem Attended.unanswered {x : Executor.Interleaving.State α ρ} {collector : Collector}
    (attended : Attended x collector) (busy : x.calls 0 ≠ []) : x.answers = [] := by
  cases attended with
  | uncalled _ _ unanswered => exact unanswered
  | called _ _ _ _ unanswered => exact unanswered
  | returned _ _ idle => exact absurd idle busy

theorem Drain.busy {x y : Executor.Interleaving.State α ρ} (goes : Drain x y) :
    x.calls 0 ≠ [] := by
  cases goes with
  | pop _ _ _ here | dry _ here | begin _ _ here | finish _ _ _ here => simp [here]

theorem Drain.attended {x y : Executor.Interleaving.State α ρ} (goes : Drain x y)
    (attended : Attended x .draining) : Attended y .draining := by
  have unanswered := attended.unanswered goes.busy
  cases goes with
  | pop n action executor here found =>
      exact .called n (.holding action) rfl (Function.update_self 0 _ x.calls) unanswered
  | dry n here found =>
      have answered : x.answers ++ [(0, .executed n)] = [(0, .executed n)] := by
        rw [unanswered, List.nil_append]
      exact .returned n rfl (Function.update_self 0 _ x.calls)
        ((Executor.next?_eq_none_iff x.executor).mp found) answered
  | begin n action here =>
      exact .called n (.running action) rfl (Function.update_self 0 _ x.calls) unanswered
  | finish n action outcome here =>
      exact .called (n + 1) .looking rfl (Function.update_self 0 _ x.calls) unanswered

theorem Drain.popped {x y : Executor.Interleaving.State α ρ} (goes : Drain x y)
    (alone : ∀ entry ∈ x.popped, entry.1 = 0) : ∀ entry ∈ y.popped, entry.1 = 0 := by
  cases goes with
  | pop n action executor here found =>
      intro entry member
      rcases List.mem_append.mp member with old | new
      · exact alone entry old
      · rw [List.mem_singleton.mp new]
  | dry | begin | finish => exact alone

theorem Drain.oneAtATime {x y : Executor.Interleaving.State α ρ} (goes : Drain x y)
    (before : OneAtATime x) : OneAtATime y := by
  unfold OneAtATime at before ⊢
  cases goes with
  | pop n action executor here found =>
      rw [here] at before
      simpa [Executor.Interleaving.State.pop, Executor.Interleaving.State.stand, Call.current]
        using before
  | dry n here found =>
      rw [here] at before
      simpa [Executor.Interleaving.State.answer, Executor.Interleaving.State.stand, Call.current]
        using before
  | begin n action here =>
      rw [here] at before
      simpa [Executor.Interleaving.State.begin, Executor.Interleaving.State.stand, Call.current]
        using before
  | finish n action outcome here =>
      rw [here] at before
      simpa [Executor.Interleaving.State.finish, Executor.Interleaving.State.stand,
        Executor.Drain.past, Call.current] using before

theorem Attended.before {x : Executor.Interleaving.State α ρ} {collector next : Collector}
    (attended : Attended x collector) (now : collector ≠ .draining) (later : next ≠ .draining) :
    Attended x next := by
  cases attended with
  | uncalled _ idle unanswered => exact .uncalled later idle unanswered
  | called _ _ draining => exact absurd draining now
  | returned _ draining => exact absurd draining now

theorem Collector.Comes.not_draining {collector : Collector} {late : Bool}
    (comes : collector.Comes late) : collector ≠ .draining := by
  cases comes <;> simp

theorem Collector.past_of_wake {collector : Collector}
    (past : collector.wake = .through ∨ collector.wake = .draining) :
    collector = .through ∨ collector = .draining := by
  cases collector with
  | asleep => simp [wake] at past
  | arriving | woken | through | draining => exact past

theorem Attended.wake {x : Executor.Interleaving.State α ρ} {collector : Collector}
    (attended : Attended x collector) : Attended x collector.wake := by
  cases collector with
  | asleep => exact attended.before (by simp) (by simp [Collector.wake])
  | arriving | woken | through | draining => exact attended

theorem Reachable.orderly (reached : Reachable tasks workers s) : s.Orderly := by
  refine reached.invariant (P := State.Orderly) ?_ ?_
  · exact ⟨by simp [State.start], .uncalled (by simp [State.start]) rfl rfl,
      by simp [State.start], rfl⟩
  · intro s t reached step before
    obtain ⟨opened, attended, popped, ended⟩ := before
    -- A task that has not told the barrier keeps the collector from its run.
    have closed (k : Nat) (p : Progress α) (here : s.progress[k]? = some p) (untold : p.missing = 1)
        (past : s.collector = .through ∨ s.collector = .draining) : False := by
      have told := reached.all_told (opened past) (List.mem_of_getElem? here)
      omega
    cases step with
    | begin i k actions inside free here => exact ⟨opened, attended, popped, ended⟩
    | defer i k action rest here =>
        refine ⟨opened, ?_, popped, ended⟩
        cases attended with
        | uncalled other idle unanswered => exact .uncalled other idle unanswered
        | called n stage draining here unanswered => exact .called n stage draining here unanswered
        | returned n draining => exact (closed k _ here rfl (.inr draining)).elim
    | notify i k next owed here turn =>
        exact ⟨fun past => (closed k _ here rfl past).elim, attended, popped, ended⟩
    | notice i k owed here =>
        exact ⟨fun past => opened (Collector.past_of_wake past), attended.wake, popped, ended⟩
    | sleep late comes turn =>
        exact ⟨by simp, attended.before comes.not_draining (by simp), popped, ended⟩
    | stir asleep =>
        exact ⟨by simp, attended.before (by simp [asleep]) (by simp), popped, ended⟩
    | pass late next comes turn =>
        obtain ⟨-, same, zero, -⟩ := turn_pass turn
        exact ⟨fun _ => same ▸ zero, attended.before comes.not_draining (by simp), popped, ended⟩
    | run through idle =>
        refine ⟨fun _ => opened (.inl through), ?_, popped, ?_⟩
        · cases attended with
          | uncalled _ _ unanswered =>
              exact .called 0 .looking rfl (Function.update_self 0 _ s.executor.calls) unanswered
          | called _ _ draining => simp [through] at draining
          | returned _ draining => simp [through] at draining
        · rw [OneAtATime, idle] at ended
          simpa [OneAtATime, Executor.Interleaving.State.stand, Call.current] using ended
    | drain executor draining goes =>
        refine ⟨opened, ?_, goes.popped popped, goes.oneAtATime ended⟩
        rw [draining] at attended ⊢
        exact goes.attended attended

/-- The collector has run all that the tasks have put off. -/
structure Collected (tasks : List (List α)) (x : Executor.Interleaving.State α ρ) : Prop where
  answers : x.answers = [(0, .executed (size tasks))]
  alone : ∀ entry ∈ x.begun, entry.1 = 0
  begun : x.begun.map Prod.snd = x.pushed
  once : (x.begun.map Prod.snd).Nodup
  ended : x.ended.map Prod.fst = x.begun
  number : x.begun.length = size tasks
  output (k : Nat) : output (x.begun.map Prod.snd) k = tasks[k]?.getD []

theorem Reachable.collected (reached : Reachable tasks workers s)
    (answered : s.executor.answers ≠ []) : Collected tasks s.executor := by
  obtain ⟨opened, attended, popped, ended⟩ := reached.orderly
  cases attended with
  | uncalled _ _ unanswered => exact absurd unanswered answered
  | called _ _ _ _ unanswered => exact absurd unanswered answered
  | returned n draining idle dry answers =>
      obtain ⟨number, deferred⟩ := reached.deferred (opened (.inr draining))
      have executor := reached.executor
      have order : s.executor.popped.map Prod.snd = s.executor.pushed := by
        rw [executor.order, dry, List.append_nil]
      have alone : ∀ entry ∈ s.executor.begun, entry.1 = 0 := fun entry member =>
        popped entry (executor.begun_subperm.subset member)
      have begun : s.executor.begun.map Prod.snd = s.executor.pushed := by
        have share := (executor.sound 0).popped
        simp only [Executor.Interleaving.State.share, byWorker_eq_map popped, byWorker_eq_map alone,
          idle, List.flatMap_nil, List.append_nil] at share
        exact share.symm.trans order
      have count : n = size tasks := by
        have told := executor.own_answered idle
        rw [answers, byWorker_eq_map popped, order, number] at told
        exact told
      refine ⟨count ▸ answers, alone, begun, begun ▸ executor.pushed_nodup, ?_, ?_,
        begun ▸ deferred⟩
      · rw [OneAtATime, idle] at ended
        simpa using ended.symm
      · rw [← number, ← begun, List.length_map]

end WorkerPool.Handover
