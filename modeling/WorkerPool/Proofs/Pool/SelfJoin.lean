import WorkerPool.Proofs.Pool.Effect
import WorkerPool.Proofs.Pool.Replay

namespace WorkerPool.Pool

variable {β ρ : Type}

def hush (p : Pool β) : Pool β := { p with events := p.events.filter (· ≠ .selfJoin) }

theorem hush_selfJoin (p : Pool β) : p.selfJoin.hush = p.hush := by
  simp [hush, selfJoin, emit]

@[simp] theorem hush_hush (p : Pool β) : p.hush.hush = p.hush := by
  simp [hush]

theorem hush_settleTask (p : Pool β) (i : Nat) (outcome : Outcome ρ) (cs : Channels ρ) :
    p.hush.settleTask i outcome cs = p.settleTask i outcome cs := rfl

theorem hush_offerBulk (p : Pool β) (token : Option ProducerToken) (jobs : List (Job β)) :
    p.hush.offerBulk token jobs =
      ((p.offerBulk token jobs).1, (p.offerBulk token jobs).2.hush) := by
  have accepts : p.hush.accepts token = p.accepts token := rfl
  have queue : p.hush.queue = p.queue := rfl
  simp only [offerBulk, accepts, queue]
  cases p.accepts token <;> cases p.queue.enqueueBulk jobs <;> rfl

theorem hush_tally (p : Pool β) (tasks : Nat) (event : Option Event) (decision : Decision) :
    (p.hush.tally tasks event decision).hush = (p.tally tasks event decision).hush := by
  cases decision <;> simp [tally, hush]

theorem hush_countPanic (p : Pool β) (i : Nat) (outcome : Outcome ρ) :
    (p.hush.countPanic i outcome).hush = (p.countPanic i outcome).hush := by
  have current : p.hush.current? i = p.current? i := rfl
  simp only [countPanic, current]
  split
  · simp [hush, emit]
  · simp [hush]

theorem hush_countTask (p : Pool β) (i : Nat) :
    (p.hush.countTask i).hush = (p.countTask i).hush := by
  have current : p.hush.current? i = p.current? i := rfl
  simp only [countTask, current]
  split <;> simp [hush, modifyWorker]

theorem hush_check (p : Pool β) (i : Nat) : (p.hush.check i).hush = (p.check i).hush := by
  have worker : p.hush.worker? i = p.worker? i := rfl
  simp only [check, worker]
  cases p.worker? i with
  | none => exact p.hush_hush
  | some w =>
      have next : w.check p.hush.signal.raised p.hush.settings.stopPolicy =
          w.check p.signal.raised p.settings.stopPolicy := rfl
      simp only [next]
      cases (w.check p.signal.raised p.settings.stopPolicy).hasExited && !w.hasExited <;>
        simp [hush, modifyWorker, emit]

theorem hush_trigger (p : Pool β) : p.hush.trigger.hush = p.trigger.hush := by
  cases raised : p.signal.raised <;> simp [trigger, Signal.trigger, hush, emit, raised]

theorem hush_countLeftovers (p : Pool β) (leftovers : List (Job β)) :
    (p.hush.countLeftovers leftovers).hush = (p.countLeftovers leftovers).hush := by
  cases leftovers <;> simp [countLeftovers, hush, emit]

namespace Interleaving

def State.hush (s : State β ρ) : State β ρ := { s with pool := s.pool.hush }

theorem State.hush_offer (s : State β ρ) (token : Option ProducerToken) (call : Submission β) :
    (s.hush.offer token call).hush = (s.offer token call).hush := by
  have offered := s.pool.hush_offerBulk token (call.tasks s.offered s.channels.next)
  simp only [State.offer, call.offer_eq, State.hush, offered]
  rcases s.pool.offerBulk token (call.tasks s.offered s.channels.next) with ⟨decision, pool⟩
  cases decision <;> simp [Pool.hush]

theorem State.hush_step? (s : State β ρ) (a : Action β ρ) :
    (s.hush.step? a).map State.hush = (s.step? a).map State.hush := by
  have worker (i : Nat) : s.hush.pool.worker? i = s.pool.worker? i := rfl
  have posts : s.hush.posts = s.posts := rfl
  have joining : s.hush.joining = s.joining := rfl
  have decided : s.hush.decided = s.decided := rfl
  have exited : s.hush.pool.allExited = s.pool.allExited := rfl
  have stopping : s.hush.stopping = s.stopping := rfl
  have awaiting : s.hush.awaiting = s.awaiting := rfl
  cases a with
  | offer token call => exact congrArg some (s.hush_offer token call)
  | tally k =>
      simp only [State.step?, decided]
      cases s.decided[k]? with
      | none => rfl
      | some offer => simp [State.hush, State.tally, hush_tally]
  | enter i =>
      simp only [State.step?, worker, posts]
      split
      · simp [State.hush, State.stand, Pool.hush]
      · rfl
  | fetch i =>
      simp only [State.step?, worker, posts]
      split
      · simp [State.hush, State.stand, State.fetch, Pool.hush, Pool.fetch, modifyWorker]
      · rfl
  | begin i =>
      simp only [State.step?, worker, posts]
      split
      · simp [State.hush, State.stand, Pool.hush]
      · rfl
  | finish i outcome =>
      simp only [State.step?, worker, posts]
      split
      · simp [State.hush, State.stand, State.finish, hush_settleTask]
      · rfl
  | report i =>
      simp only [State.step?, worker, posts]
      split
      · simp [State.hush, State.stand, State.report, hush_countPanic]
      · rfl
  | count i =>
      simp only [State.step?, worker, posts]
      split
      · simp [State.hush, State.stand, State.count, hush_countTask]
      · rfl
  | check i =>
      simp only [State.step?, worker, posts]
      split
      · simp [State.hush, State.check, hush_check]
      · rfl
  | close => simp [State.step?, State.hush, State.close, Pool.close, Pool.hush]
  | raise =>
      simp only [State.step?, stopping]
      split
      · simp [State.hush, State.raise, hush_trigger]
      · rfl
  | await =>
      simp only [State.step?, awaiting]
      split
      · rfl
      · simp [State.hush, State.await, Pool.hush]
  | takeLeftovers =>
      simp only [State.step?, awaiting, exited]
      split
      · simp [State.hush, State.takeLeftovers, removeLeftovers, tellFallen, Pool.hush]
      · rfl
  | countLeftovers k =>
      simp only [State.step?, joining]
      split
      · simp [State.hush, State.countLeftovers, hush_countLeftovers]
      · rfl
  | dropLeftovers k =>
      simp only [State.step?, joining]
      split
      · simp [State.hush, State.dropLeftovers, Pool.hush]
      · rfl
  | selfJoin i =>
      simp only [State.step?, worker]
      split
      · simp [State.hush, State.selfJoin, Pool.hush, Pool.selfJoin, emit]
      · rfl
  | read c => simp [State.step?, State.hush, State.read, Pool.hush]

theorem State.replay?_congr {s t : State β ρ} (same : s.hush = t.hush)
    (actions : List (Action β ρ)) :
    (s.replay? actions).map State.hush = (t.replay? actions).map State.hush := by
  induction actions generalizing s t with
  | nil => exact congrArg some same
  | cons a rest ih =>
      have first : (s.step? a).map State.hush = (t.step? a).map State.hush := by
        rw [← s.hush_step?, same, t.hush_step?]
      simp only [State.replay?]
      cases left : s.step? a <;> cases right : t.step? a <;> simp only [left, right] at first
      · rfl
      · cases first
      · cases first
      · exact ih (Option.some.inj first)

def Action.isSelfJoin : Action β ρ → Bool
  | selfJoin _ => true
  | _ => false

/-- What can be done after such a join could be done without it, and the other way round. -/
theorem Run.of_hush {s u t : State β ρ} {actions : List (Action β ρ)} (run : Run s actions t)
    (same : u.hush = s.hush) : ∃ v, Run u actions v ∧ v.hush = t.hush := by
  have ends := State.replay?_congr same actions
  rw [run_iff_replay?.mp run, Option.map_some, Option.map_eq_some_iff] at ends
  obtain ⟨v, replayed, alike⟩ := ends
  exact ⟨v, .of_replay? _ replayed, alike⟩

theorem State.hush_selfJoin (s : State β ρ) : s.selfJoin.hush = s.hush := by
  simp [State.hush, State.selfJoin, Pool.hush_selfJoin]

theorem Run.without {s t : State β ρ} {actions : List (Action β ρ)} (run : Run s actions t) :
    ∃ u, Run s (actions.filter fun a => !a.isSelfJoin) u ∧ u.hush = t.hush := by
  induction run with
  | nil s => exact ⟨s, .nil s, rfl⟩
  | @cons s u t a rest first _ ih =>
      obtain ⟨v, later, same⟩ := ih
      cases a with
      | selfJoin i =>
          cases first
          obtain ⟨v', run, same'⟩ := later.of_hush s.hush_selfJoin.symm
          exact ⟨v', run, same'.trans same⟩
      | _ => exact ⟨v, .cons first later, same⟩

/-- A join that a worker of the pool calls returns at once, whatever others do, whoever waits for
the workers, and nobody else can tell whether it was called. -/
structure SelfJoinHarmless (s : State β ρ) : Prop where
  returns : ∀ i n w, s.pool.worker? i = some w → w.stage = .running n →
    Step s (.selfJoin i) s.selfJoin
  pool : s.selfJoin = { s with pool := { s.pool with events := s.pool.events ++ [.selfJoin] } }
  without : ∀ actions t, Run s actions t →
    ∃ u, Run s (actions.filter fun a => !a.isSelfJoin) u ∧ u.hush = t.hush
  more : ∀ before u i n w after t, Run s before u → u.pool.worker? i = some w →
    w.stage = .running n → Run u after t →
      ∃ v, Run s (before ++ .selfJoin i :: after) v ∧ v.hush = t.hush

theorem selfJoinHarmless (s : State β ρ) : SelfJoinHarmless s where
  returns i n w := .selfJoin s i n w
  pool := rfl
  without _ _ run := run.without
  more before u i n w after t front here stage back := by
    obtain ⟨v, later, same⟩ := back.of_hush u.hush_selfJoin
    exact ⟨v, front.append (.cons (.selfJoin u i n w here stage) later), same⟩

end Interleaving

end WorkerPool.Pool
