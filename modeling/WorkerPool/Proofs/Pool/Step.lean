import WorkerPool.Proofs.Pool.State

namespace WorkerPool.Pool.Interleaving

variable {β ρ : Type}

inductive Action (β ρ : Type) where
  | offer (token : Option ProducerToken) (call : Submission β)
  | tally (k : Nat)
  | enter (worker : Nat)
  | fetch (worker : Nat)
  | begin (worker : Nat)
  | finish (worker : Nat) (outcome : Outcome ρ)
  | report (worker : Nat)
  | count (worker : Nat)
  | check (worker : Nat)
  | close
  | raise
  | await
  | takeLeftovers
  | countLeftovers (k : Nat)
  | dropLeftovers (k : Nat)
  | selfJoin (worker : Nat)
  | read (c : Nat)
  deriving Repr

/-- The worker whose loop an action belongs to. What the body of a task does to its own pool is
an action of a caller like any other. -/
def Action.worker? : Action β ρ → Option Nat
  | enter i | fetch i | begin i | finish i _ | report i | count i | check i => some i
  | _ => none

/-- A fetch may end at any time: with what the queue holds, or with nothing after a timeout. -/
inductive Step : State β ρ → Action β ρ → State β ρ → Prop
  | offer (s : State β ρ) (token : Option ProducerToken) (call : Submission β) :
      Step s (.offer token call) (s.offer token call)
  | tally (s : State β ρ) (k : Nat) (offer : Decided) (pending : s.decided[k]? = some offer) :
      Step s (.tally k) (s.tally k offer)
  | enter (s : State β ρ) (i : Nat) (w : Worker (Numbered β)) (here : s.pool.worker? i = some w)
      (stage : w.stage = .fetching) (post : s.posts i = .idle) :
      Step s (.enter i) (s.stand i .waiting)
  | fetch (s : State β ρ) (i : Nat) (w : Worker (Numbered β)) (here : s.pool.worker? i = some w)
      (post : s.posts i = .waiting) :
      Step s (.fetch i) (s.fetch i)
  | begin (s : State β ρ) (i n : Nat) (w : Worker (Numbered β)) (here : s.pool.worker? i = some w)
      (stage : w.stage = .running n) (more : w.batch ≠ []) (post : s.posts i = .idle) :
      Step s (.begin i) (s.stand i .busy)
  | finish (s : State β ρ) (i : Nat) (w : Worker (Numbered β)) (task : Task β)
      (outcome : Outcome ρ) (here : s.pool.worker? i = some w)
      (current : w.batch.head? = some task) (post : s.posts i = .busy) :
      Step s (.finish i outcome) (s.finish i task outcome)
  | report (s : State β ρ) (i : Nat) (w : Worker (Numbered β)) (outcome : Outcome ρ)
      (here : s.pool.worker? i = some w) (post : s.posts i = .ended outcome) :
      Step s (.report i) (s.report i outcome)
  | count (s : State β ρ) (i : Nat) (w : Worker (Numbered β)) (task : Task β)
      (here : s.pool.worker? i = some w) (current : w.batch.head? = some task)
      (post : s.posts i = .reported) :
      Step s (.count i) (s.count i)
  | check (s : State β ρ) (i n : Nat) (w : Worker (Numbered β)) (here : s.pool.worker? i = some w)
      (stage : w.stage = .running n) (done : w.batch = []) (post : s.posts i = .idle) :
      Step s (.check i) (s.check i)
  | close (s : State β ρ) : Step s .close s.close
  | raise (s : State β ρ) (closed : 0 < s.stopping) : Step s .raise s.raise
  | await (s : State β ρ) (free : s.awaiting = false) : Step s .await s.await
  | takeLeftovers (s : State β ρ) (held : s.awaiting = true) (exited : s.pool.allExited = true) :
      Step s .takeLeftovers s.takeLeftovers
  | countLeftovers (s : State β ρ) (k : Nat) (leftovers : List (Task β))
      (taken : s.joining[k]? = some ⟨leftovers, false⟩) :
      Step s (.countLeftovers k) (s.countLeftovers k leftovers)
  | dropLeftovers (s : State β ρ) (k : Nat) (leftovers : List (Task β))
      (counted : s.joining[k]? = some ⟨leftovers, true⟩) :
      Step s (.dropLeftovers k) (s.dropLeftovers k leftovers)
  | selfJoin (s : State β ρ) (i n : Nat) (w : Worker (Numbered β))
      (here : s.pool.worker? i = some w) (stage : w.stage = .running n) :
      Step s (.selfJoin i) s.selfJoin
  | read (s : State β ρ) (c : Nat) : Step s (.read c) (s.read c)

inductive Run : State β ρ → List (Action β ρ) → State β ρ → Prop
  | nil (s : State β ρ) : Run s [] s
  | cons {s u t : State β ρ} {a : Action β ρ} {rest : List (Action β ρ)} (first : Step s a u)
      (tail : Run u rest t) : Run s (a :: rest) t

def Reachable (settings : PoolSettings) (queueId : Nat) (s : State β ρ) : Prop :=
  ∃ actions, Run (State.start settings queueId) actions s

theorem Run.append {s u t : State β ρ} {front back : List (Action β ρ)} (first : Run s front u)
    (second : Run u back t) : Run s (front ++ back) t := by
  induction first with
  | nil => exact second
  | cons step _ ih => exact .cons step (ih second)

theorem Run.preserves {P : State β ρ → Prop} {s t : State β ρ} {actions : List (Action β ρ)}
    (run : Run s actions t) (keep : ∀ {s a t}, Step s a t → P s → P t) (holds : P s) : P t := by
  induction run with
  | nil => exact holds
  | cons step _ ih => exact ih (keep step holds)

/-- If each step takes what it picks from a measure, a run picks no more than the measure. -/
theorem Run.countP_le {P : State β ρ → Prop} {f : State β ρ → Nat} {s t : State β ρ}
    {actions : List (Action β ρ)} (run : Run s actions t) (pick : Action β ρ → Option Nat)
    (p : Nat → Bool) (keep : ∀ {s a t}, Step s a t → P s → P t)
    (spends : ∀ {s a t}, Step s a t → P s →
      (pick a).toList.countP p + f t ≤ f s) (holds : P s) :
    (actions.filterMap pick).countP p + f t ≤ f s := by
  induction run with
  | nil => simp
  | @cons s u t a rest first _ ih =>
      have now := spends first holds
      have later := ih (keep first holds)
      have split : ((a :: rest).filterMap pick).countP p =
          (pick a).toList.countP p + (rest.filterMap pick).countP p := by
        cases picked : pick a <;> simp [picked, List.countP_cons, Nat.add_comm]
      omega

variable {settings : PoolSettings} {queueId : Nat}

theorem Reachable.start : Reachable settings queueId (State.start settings queueId : State β ρ) :=
  ⟨[], .nil _⟩

theorem Reachable.run {s t : State β ρ} {actions : List (Action β ρ)}
    (reached : Reachable settings queueId s) (run : Run s actions t) :
    Reachable settings queueId t := by
  obtain ⟨before, past⟩ := reached
  exact ⟨before ++ actions, past.append run⟩

theorem Reachable.step {s t : State β ρ} {a : Action β ρ} (reached : Reachable settings queueId s)
    (step : Step s a t) : Reachable settings queueId t :=
  reached.run (.cons step (.nil t))

theorem Reachable.invariant {P : State β ρ → Prop} {s : State β ρ}
    (reached : Reachable settings queueId s) (initial : P (State.start settings queueId))
    (keep : ∀ {s a t}, Reachable settings queueId s → Step s a t → P s → P t) : P s := by
  obtain ⟨actions, run⟩ := reached
  have both := run.preserves (P := fun s => Reachable settings queueId s ∧ P s)
    (fun step holds => ⟨holds.1.step step, keep holds.1 step holds.2⟩) ⟨.start, initial⟩
  exact both.2

end WorkerPool.Pool.Interleaving
