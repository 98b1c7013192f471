import Mathlib.Data.List.InsertIdx
import WorkerPool.Proofs.Pool.Control

namespace WorkerPool.Pool.Interleaving

variable {β ρ : Type} {settings : PoolSettings} {queueId : Nat}

/-- Who holds which task, without the posts of the workers, the counters and the reports. -/
structure Ledger (β ρ : Type) extends History β ρ where
  settings : PoolSettings
  workers : Nat
  queue : Queue (Task β)
  raised : Bool
  stopping : Nat
  left : Nat → List (Task β)
  channels : Channels ρ
  leaving : List (List (Task β))

def State.holding (s : State β ρ) (workers : Nat) (left : Nat → List (Task β)) : Ledger β ρ where
  toHistory := s.toHistory
  settings := s.pool.settings
  workers := workers
  queue := s.pool.queue
  raised := s.pool.signal.raised
  stopping := s.stopping
  left := left
  channels := s.channels
  leaving := s.joining.map Leaving.tasks

def State.ledger (s : State β ρ) : Ledger β ρ := s.holding s.pool.workers.length s.left

def keepPromise (task : Task β) (outcome : Outcome ρ) (cs : Channels ρ) : Channels ρ :=
  match task.channel with
  | some c => cs.settle c outcome.result
  | none => cs

theorem settleTask_eq (p : Pool (Numbered β)) {i : Nat} {task : Task β}
    (current : p.current? i = some task) (outcome : Outcome ρ) (cs : Channels ρ) :
    p.settleTask i outcome cs = keepPromise task outcome cs := by
  cases channel : task.channel <;> simp [settleTask, current, keepPromise, channel]

/-- What a step can write in the ledger. -/
inductive Entry : Ledger β ρ → Ledger β ρ → Prop
  | none (l : Ledger β ρ) : Entry l l
  | accept (l : Ledger β ρ) (call : Submission β) (tasks : List (Task β))
      (these : tasks = call.tasks l.offered l.channels.next) (opened : l.queue.closed = false)
      (room : l.queue.isFull tasks.length = false) :
      Entry l { l with
        offered := l.offered + tasks.length
        admitted := l.admitted ++ [tasks]
        queue := { l.queue with items := l.queue.items ++ tasks }
        channels := call.openChannel l.channels }
  | refuse (l : Ledger β ρ) (call : Submission β) (tasks : List (Task β))
      (these : tasks = call.tasks l.offered l.channels.next) :
      Entry l { l with offered := l.offered + tasks.length, refused := l.refused ++ [tasks] }
  | fetch (l : Ledger β ρ) (i : Nat) (batch : List (Task β)) (inside : i < l.workers)
      (untouched : l.removed = []) (brought : batch = l.queue.items.take l.settings.batchSize) :
      Entry l { l with
        batches := l.batches ++ [(i, batch)]
        queue := { l.queue with items := l.queue.items.drop l.settings.batchSize }
        left := Function.update l.left i (l.left i ++ batch) }
  | finish (l : Ledger β ρ) (i : Nat) (task : Task β) (rest : List (Task β)) (outcome : Outcome ρ)
      (inside : i < l.workers) (current : l.left i = task :: rest) :
      Entry l { l with
        ran := l.ran ++ [⟨i, task, outcome⟩]
        left := Function.update l.left i rest
        channels := keepPromise task outcome l.channels }
  | close (l : Ledger β ρ) :
      Entry l { l with queue := { l.queue with closed := true }, stopping := l.stopping + 1 }
  | raise (l : Ledger β ρ) (closed : 0 < l.stopping) :
      Entry l { l with raised := true, stopping := l.stopping - 1 }
  | remove (l : Ledger β ρ) :
      Entry l { l with
        removed := l.removed ++ l.queue.items
        queue := { l.queue with items := [] }
        leaving := l.leaving ++ [l.queue.items]
        early := if l.queue.closed then l.early else l.early + 1 }
  | drop (l : Ledger β ρ) (k : Nat) (leftovers : List (Task β))
      (taken : l.leaving[k]? = some leftovers) :
      Entry l { l with
        dropped := l.dropped ++ leftovers
        leaving := l.leaving.eraseIdx k
        channels := dropTasks leftovers l.channels
        returned := l.returned + 1 }
  | read (l : Ledger β ρ) (c : Nat) :
      Entry l { l with
        channels := (l.channels.read c).2
        retrieved := match l.channels.slot c with
          | .ready _ => l.retrieved ++ [c]
          | _ => l.retrieved }

theorem State.left_eq (s : State β ρ) {i : Nat} {w : Worker (Numbered β)}
    (here : s.pool.worker? i = some w) : s.left i = unfinished w (s.posts i) := by
  simp [State.left, here]

theorem State.left_start (i : Nat) :
    (State.start settings queueId : State β ρ).left i = [] := by
  cases here : (State.start settings queueId : State β ρ).pool.worker? i with
  | none => simp [State.left, here]
  | some w => exact (State.left_eq _ here).trans (State.worker_start here).1

theorem State.left_congr {s t : State β ρ} (workers : t.pool.workers = s.pool.workers)
    (posts : t.posts = s.posts) : t.left = s.left := by
  funext i
  simp [State.left, Pool.worker?, workers, posts]

theorem Reachable.lefts_of_allExited {s : State β ρ} (reached : Reachable settings queueId s)
    (exited : s.pool.allExited = true) : s.lefts = [] := by
  apply List.flatMap_eq_nil_iff.mpr
  intro i _
  cases here : s.pool.worker? i with
  | none => simp [State.left, here]
  | some w =>
      have gone := (Pool.allExited_iff _).mp exited i w here
      obtain ⟨batch, post⟩ := reached.idle_of_exited here gone
      rw [s.left_eq here, post]
      exact batch

theorem State.left_modify {s t : State β ρ} {i : Nat} {w : Worker (Numbered β)}
    {f : Worker (Numbered β) → Worker (Numbered β)} {post : Post ρ}
    (here : s.pool.worker? i = some w) (workers : t.pool.workers = s.pool.workers.modify i f)
    (posts : t.posts = Function.update s.posts i post) :
    t.left = Function.update s.left i (State.unfinished (f w) post) := by
  have found : s.pool.workers[i]? = some w := here
  funext j
  by_cases same : j = i
  · subst same
    simp [State.left, Pool.worker?, workers, posts, found]
  · have other : i ≠ j := Ne.symm same
    simp [State.left, Pool.worker?, workers, posts, same, other]

theorem Stride.unfinished_eq {s : State β ρ} {i : Nat} {a : Action β ρ}
    {w w' : Worker (Numbered β)} {post post' : Post ρ} (stride : Stride s i a w post w' post')
    (fetches : a ≠ .fetch i) (finishes : ∀ outcome, a ≠ .finish i outcome) :
    State.unfinished w' post' = State.unfinished w post := by
  cases stride with
  | elsewhere | enter | begin | report | count => rfl
  | fetch => exact absurd rfl fetches
  | finish w task outcome => exact absurd rfl (finishes outcome)
  | check w n stage done =>
      simp only [State.unfinished, Worker.check, stage]
      split
      · rfl
      · split
        · rfl
        · split <;> rfl

theorem Step.left_eq {s t : State β ρ} {a : Action β ρ} (step : Step s a t)
    (fetches : ∀ i, a ≠ .fetch i) (finishes : ∀ i outcome, a ≠ .finish i outcome) :
    t.left = s.left := by
  rcases step.workers with ⟨_, workers, posts⟩ | ⟨i, w, f, post, one⟩
  · exact State.left_congr workers posts
  · rw [State.left_modify one.here one.workers one.posts,
      one.stride.unfinished_eq (fetches i) (finishes i), ← s.left_eq one.here,
      Function.update_eq_self]

theorem Step.entry {s t : State β ρ} {a : Action β ρ} (reached : Reachable settings queueId s)
    (step : Step s a t) : Entry s.ledger t.ledger := by
  -- All but fetches and ends of tasks are seen in the other parts of the ledger alone.
  have held (fetches : ∀ i, a ≠ .fetch i) (finishes : ∀ i outcome, a ≠ .finish i outcome)
      (entry : Entry s.ledger (t.holding s.pool.workers.length s.left)) :
      Entry s.ledger t.ledger := by
    rwa [State.ledger.eq_def t, step.workers_length, step.left_eq fetches finishes]
  have length := step.workers_length
  cases step with
  | offer token call =>
      refine held (by simp) (by simp) ?_
      rcases s.offer_cases token call with ⟨opened, room, _, result⟩ | ⟨_, _, result⟩
      · rw [result]
        exact .accept s.ledger call _ rfl opened room
      · rw [result]
        exact .refuse s.ledger call _ rfl
  | tally k offer pending =>
      obtain ⟨_, _, _, result⟩ := s.pool.tally_eq offer.tasks offer.event offer.decision
      refine held (by simp) (by simp) ?_
      rw [State.tally, result]
      exact .none s.ledger
  | enter | begin | await | selfJoin => exact held (by simp) (by simp) (.none s.ledger)
  | report i w outcome here post =>
      obtain ⟨_, _, result⟩ := s.pool.countPanic_eq i outcome
      refine held (by simp) (by simp) ?_
      rw [State.report, result]
      exact .none s.ledger
  | count i w task here current post =>
      have result := s.pool.countTask_eq i task (by rw [s.pool.current?_eq here, current])
      refine held (by simp) (by simp) ?_
      rw [State.count, result]
      exact .none s.ledger
  | check i n w here stage done post =>
      obtain ⟨_, result⟩ := s.pool.check_eq i w here
      refine held (by simp) (by simp) ?_
      rw [State.check, result]
      exact .none s.ledger
  | countLeftovers k leftovers taken =>
      obtain ⟨_, result⟩ := s.pool.countLeftovers_eq leftovers
      have same : (s.joining.set k ⟨leftovers, true⟩).map Leaving.tasks =
          s.joining.map Leaving.tasks := by
        obtain ⟨inside, found⟩ := List.getElem?_eq_some_iff.mp taken
        apply List.ext_getElem?
        intro j
        by_cases here : k = j
        · subst here
          simp [inside, found]
        · simp [here]
      refine held (by simp) (by simp) ?_
      rw [State.countLeftovers, result]
      simp only [State.holding, same]
      exact .none s.ledger
  | fetch i w here post =>
      have before : s.ledger.left i = w.batch := by
        change s.left i = w.batch
        rw [s.left_eq here, post]
        rfl
      have left : (s.fetch i).left = Function.update s.left i _ := State.left_modify here rfl rfl
      have inside : i < s.pool.workers.length := (List.getElem?_eq_some_iff.mp here).1
      have entry := Entry.fetch s.ledger i _ inside (reached.removed_of_fetch here post) rfl
      rw [before] at entry
      rw [State.ledger.eq_def (s.fetch i), length, left]
      exact entry
  | finish i w task outcome here current post =>
      obtain ⟨rest, batch⟩ := List.head?_eq_some_iff.mp current
      have before : s.ledger.left i = task :: rest := by
        change s.left i = task :: rest
        rw [s.left_eq here, post]
        exact batch
      have left : (s.finish i task outcome).left = Function.update s.left i rest := by
        rw [State.left_modify (f := id) here (by simp [State.finish, State.stand]) rfl]
        simp [State.unfinished, batch]
      have promise : s.pool.settleTask i outcome s.channels =
          keepPromise task outcome s.channels := by
        apply settleTask_eq
        rw [s.pool.current?_eq here, current]
      have inside : i < s.pool.workers.length := (List.getElem?_eq_some_iff.mp here).1
      have entry := Entry.finish s.ledger i task rest outcome inside before
      rw [State.ledger.eq_def (s.finish i task outcome), length, left]
      simp only [State.finish, promise]
      exact entry
  | close => exact held (by simp) (by simp) (.close s.ledger)
  | raise closed =>
      obtain ⟨_, result⟩ := s.pool.trigger_eq
      refine held (by simp) (by simp) ?_
      rw [State.raise, result]
      exact .raise s.ledger closed
  | takeLeftovers _ exited =>
      have leaving : s.takeLeftovers.joining.map Leaving.tasks =
          s.ledger.leaving ++ [s.pool.queue.items] := by
        simp [State.takeLeftovers, removeLeftovers, Queue.drain, State.ledger, State.holding]
      refine held (by simp) (by simp) ?_
      rw [State.holding, leaving]
      exact .remove s.ledger
  | dropLeftovers k leftovers counted =>
      refine held (by simp) (by simp) ?_
      simpa [State.ledger, State.holding, State.dropLeftovers, List.eraseIdx_map, counted]
        using Entry.drop s.ledger k leftovers
  | read c => exact held (by simp) (by simp) (.read s.ledger c)

end WorkerPool.Pool.Interleaving
