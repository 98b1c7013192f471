import WorkerPool.Proofs.Forest.Script
import WorkerPool.Proofs.Pool.Statistics

namespace WorkerPool.Pool.Interleaving.Forest

variable {ε ρ : Type}

/-- What is left of a body that a worker is in, and how many children it has submitted. -/
structure Cursor (ε ρ : Type) where
  submitted : Nat
  script : Script ε ρ

structure Grove (ε ρ : Type) where
  state : State (Located ε ρ) ρ
  -- The calls that are still to submit roots. Each can be next: they come from any threads.
  waiting : List (Submission (Located ε ρ))
  cursors : Nat → Cursor ε ρ
  log : List ε := []

def Script.outcome? : Script ε ρ → Option (Outcome ρ)
  | .ret value => some (.returned value)
  | .panic payload => some (.panicked payload)
  | _ => none

/-- What a pool does by itself, or the thread that stops it once it has closed the queue, or one
that reads results. A join comes after the stop. -/
def background (closed : Bool) : Action (Located ε ρ) ρ → Bool
  | .tally _ | .enter _ | .fetch _ | .report _ | .count _ | .check _ | .raise | .await
  | .countLeftovers _ | .dropLeftovers _ | .read _ => true
  | .takeLeftovers => closed
  | _ => false

theorem background_only {closed : Bool} {a : Action (Located ε ρ) ρ}
    (allowed : background closed a = true) :
    (∀ token call, a ≠ .offer token call) ∧ (∀ i, a ≠ .begin i) ∧
      (∀ i outcome, a ≠ .finish i outcome) ∧ a ≠ .close := by
  cases a <;> simp_all [background]

namespace Grove

def start (settings : PoolSettings) (queueId : Nat) (roots : Roots ε ρ) : Grove ε ρ where
  state := State.start settings queueId
  waiting := locateAll 0 roots
  cursors := fun _ => ⟨0, .panic .other⟩

structure Empty (g : Grove ε ρ) : Prop where
  waiting : g.waiting = []
  queue : g.state.pool.queue.items = []
  batches : g.state.lefts = []

def root (g : Grove ε ρ) (token : Option ProducerToken) (k : Nat)
    (call : Submission (Located ε ρ)) : Grove ε ρ :=
  { g with state := g.state.offer token call, waiting := g.waiting.eraseIdx k }

def begin (g : Grove ε ρ) (i : Nat) (task : Task (Located ε ρ)) : Grove ε ρ :=
  { g with
    state := g.state.stand i .busy
    cursors := Function.update g.cursors i ⟨0, task.body.body.script⟩ }

def write (g : Grove ε ρ) (i : Nat) (entry : ε) (cursor : Cursor ε ρ) : Grove ε ρ :=
  { g with log := g.log ++ [entry], cursors := Function.update g.cursors i cursor }

def submit (g : Grove ε ρ) (token : Option ProducerToken) (i : Nat)
    (call : Submission (Located ε ρ)) (cursor : Cursor ε ρ) : Grove ε ρ :=
  { g with
    state := g.state.offer token call
    cursors := Function.update g.cursors i cursor }

end Grove

/-- A producer may use a token, if it is one of the pool's. -/
inductive Step : Grove ε ρ → Grove ε ρ → Prop
  | root (g : Grove ε ρ) (token : Option ProducerToken) (k : Nat)
      (call : Submission (Located ε ρ)) (next : g.waiting[k]? = some call)
      (own : g.state.pool.accepts token = true) :
      Step g (g.root token k call)
  | begin (g : Grove ε ρ) (i n : Nat) (w : Worker (Numbered (Located ε ρ)))
      (task : Task (Located ε ρ)) (here : g.state.pool.worker? i = some w)
      (stage : w.stage = .running n) (current : w.batch.head? = some task)
      (post : g.state.posts i = .idle) :
      Step g (g.begin i task)
  | log (g : Grove ε ρ) (i submitted : Nat) (entry : ε) (next : Script ε ρ)
      (w : Worker (Numbered (Located ε ρ))) (task : Task (Located ε ρ))
      (here : g.state.pool.worker? i = some w) (current : w.batch.head? = some task)
      (post : g.state.posts i = .busy) (cursor : g.cursors i = ⟨submitted, .log entry next⟩) :
      Step g (g.write i entry ⟨submitted, next⟩)
  | submit (g : Grove ε ρ) (token : Option ProducerToken) (i submitted : Nat)
      (w : Worker (Numbered (Located ε ρ))) (task : Task (Located ε ρ))
      (call : Submission (Script ε ρ)) (next : Script ε ρ) (here : g.state.pool.worker? i = some w)
      (current : w.batch.head? = some task) (post : g.state.posts i = .busy)
      (cursor : g.cursors i = ⟨submitted, .submit call next⟩)
      (own : g.state.pool.accepts token = true) :
      Step g (g.submit token i (locate task.body.body.place submitted call)
        ⟨submitted + call.size, next⟩)
  | finish (g : Grove ε ρ) (t : State (Located ε ρ) ρ) (i : Nat) (outcome : Outcome ρ)
      (ends : (g.cursors i).script.outcome? = some outcome)
      (step : Interleaving.Step g.state (.finish i outcome) t) :
      Step g { g with state := t }
  | close (g : Grove ε ρ) (empty : g.Empty) : Step g { g with state := g.state.close }
  | background (g : Grove ε ρ) (t : State (Located ε ρ) ρ) (a : Action (Located ε ρ) ρ)
      (allowed : background g.state.pool.queue.closed a = true)
      (step : Interleaving.Step g.state a t) :
      Step g { g with state := t }

inductive Run : Grove ε ρ → Grove ε ρ → Prop
  | nil (g : Grove ε ρ) : Run g g
  | cons {g h k : Grove ε ρ} (first : Step g h) (rest : Run h k) : Run g k

def Reachable (settings : PoolSettings) (queueId : Nat) (roots : Roots ε ρ) (g : Grove ε ρ) :
    Prop :=
  Run (Grove.start settings queueId roots) g

theorem Run.append {g h k : Grove ε ρ} (first : Run g h) (second : Run h k) : Run g k := by
  induction first with
  | nil => exact second
  | cons step _ ih => exact .cons step (ih second)

theorem Step.pool {g h : Grove ε ρ} (step : Step g h) :
    ∃ actions, Interleaving.Run g.state actions h.state := by
  cases step with
  | root token k call next own => exact ⟨_, .cons (.offer g.state token call) (.nil _)⟩
  | begin i n w task here stage current post =>
      have more : w.batch ≠ [] := fun none => by simp [none] at current
      exact ⟨_, .cons (.begin g.state i n w here stage more post) (.nil _)⟩
  | log => exact ⟨[], .nil _⟩
  | submit token i submitted w task call next =>
      exact ⟨_, .cons (.offer g.state token _) (.nil _)⟩
  | finish t i outcome ends step => exact ⟨_, .cons step (.nil t)⟩
  | close empty => exact ⟨_, .cons (.close g.state) (.nil _)⟩
  | background t a allowed step => exact ⟨_, .cons step (.nil t)⟩

variable {settings : PoolSettings} {queueId : Nat} {roots : Roots ε ρ}

theorem Reachable.invariant {P : Grove ε ρ → Prop} {g : Grove ε ρ}
    (reached : Reachable settings queueId roots g) (initial : P (.start settings queueId roots))
    (keep : ∀ {g h}, Interleaving.Reachable settings queueId g.state → Step g h → P g → P h) :
    Interleaving.Reachable settings queueId g.state ∧ P g := by
  unfold Reachable at reached
  generalize first : Grove.start settings queueId roots = g₀ at reached initial
  have start : Interleaving.Reachable settings queueId g₀.state := first ▸ .start
  clear first
  induction reached with
  | nil => exact ⟨start, initial⟩
  | cons step _ ih =>
      obtain ⟨_, run⟩ := step.pool
      exact ih (keep start step initial) (start.run run)

theorem Reachable.pool {g : Grove ε ρ} (reached : Reachable settings queueId roots g) :
    Interleaving.Reachable settings queueId g.state :=
  (reached.invariant (P := fun _ => True) trivial fun _ _ _ => trivial).1

end WorkerPool.Pool.Interleaving.Forest
