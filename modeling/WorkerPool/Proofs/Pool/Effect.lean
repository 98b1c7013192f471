import WorkerPool.Proofs.Pool.State

namespace WorkerPool.Pool

variable {β ρ : Type}

theorem current?_eq (p : Pool β) {i : Nat} {w : Worker β} (here : p.worker? i = some w) :
    p.current? i = w.batch.head? := by
  simp [current?, here]

theorem allExited_iff (p : Pool β) :
    p.allExited = true ↔ ∀ i w, p.worker? i = some w → w.stage = .exited := by
  simp only [allExited, List.all_eq_true, Worker.hasExited, beq_iff_eq, worker?]
  constructor
  · intro exited i w here
    exact exited w (List.mem_of_getElem? here)
  · intro exited w member
    obtain ⟨i, here⟩ := List.getElem?_of_mem member
    exact exited i w here

theorem offer_eq_offerBulk (p : Pool β) (token : Option ProducerToken) (job : Job β) :
    p.offer token job = p.offerBulk token [job] := by
  unfold offer offerBulk Queue.enqueueBulk Queue.enqueue
  cases p.accepts token <;> cases p.queue.closed <;> cases p.queue.isFull 1 <;> simp

theorem offerBulk_cases (p : Pool β) (token : Option ProducerToken) (jobs : List (Job β)) :
    (p.queue.closed = false ∧ p.queue.isFull jobs.length = false ∧
      p.offerBulk token jobs = (.admitted (token.map (·.record jobs.length)),
        { p with queue := { p.queue with items := p.queue.items ++ jobs } })) ∨
    ∃ decision, (∀ token, decision ≠ .admitted token) ∧
      p.offerBulk token jobs = (decision, p) := by
  unfold offerBulk
  by_cases own : p.accepts token = true
  · simp only [own, if_true]
    cases result : p.queue.enqueueBulk jobs with
    | ok queue =>
        obtain ⟨opened, room, rfl⟩ := (Queue.enqueueBulk_ok_iff _ _ _).mp result
        exact .inl ⟨opened, room, rfl⟩
    | error refused => exact .inr ⟨_, by simp, rfl⟩
  · simp only [own]
    exact .inr ⟨.foreign, by simp, rfl⟩

theorem tally_eq (p : Pool β) (tasks : Nat) (event : Option Event) (decision : Decision) :
    ∃ scheduled rejected events, p.tally tasks event decision =
      { p with stats := { p.stats with scheduled, rejected }, events } := by
  cases decision <;> exact ⟨_, _, _, rfl⟩

theorem countPanic_eq (p : Pool β) (i : Nat) (outcome : Outcome ρ) :
    ∃ panicked events, p.countPanic i outcome =
      { p with stats := { p.stats with panicked }, events } := by
  unfold countPanic
  split <;> exact ⟨_, _, rfl⟩

theorem countTask_eq (p : Pool β) (i : Nat) (job : Job β) (current : p.current? i = some job) :
    p.countTask i =
      { p with
        stats := p.stats.execute
        workers := p.workers.modify i fun w => { w with batch := w.batch.tail } } := by
  simp [countTask, current, modifyWorker]

theorem check_eq (p : Pool β) (i : Nat) (w : Worker β) (here : p.worker? i = some w) :
    ∃ events, p.check i =
      { p with
        workers := p.workers.modify i fun _ => w.check p.signal.raised p.settings.stopPolicy
        events } := by
  simp only [check, here]
  split <;> exact ⟨_, rfl⟩

theorem trigger_eq (p : Pool β) :
    ∃ events, p.trigger = { p with signal := ⟨true⟩, events } := by
  refine ⟨if p.signal.raised then p.events else p.events ++ [.poolStopping p.queue.length], ?_⟩
  cases raised : p.signal.raised <;> simp [trigger, Signal.trigger, emit, raised]

theorem countLeftovers_eq (p : Pool β) (leftovers : List (Job β)) :
    ∃ events, p.countLeftovers leftovers =
      { p with stats := p.stats.abandon leftovers.length, events } := by
  cases leftovers with
  | nil => exact ⟨_, rfl⟩
  | cons job rest => exact ⟨_, rfl⟩

namespace Interleaving

@[simp] theorem bulkTasks_length (first : Nat) (bodies : List β) :
    (bulkTasks first bodies).length = bodies.length := by
  simp [bulkTasks]

namespace Submission

theorem offer_eq (call : Submission β) (p : Pool (Numbered β)) (token : Option ProducerToken)
    (first channel : Nat) :
    call.offer p token first channel = p.offerBulk token (call.tasks first channel) := by
  cases call with
  | schedule body => exact offer_eq_offerBulk p token _
  | forget body => exact offer_eq_offerBulk p token _
  | bulk bodies => rfl

end Submission

theorem State.offer_cases (s : State β ρ) (token : Option ProducerToken) (call : Submission β) :
    let tasks := call.tasks s.offered s.channels.next
    (s.pool.queue.closed = false ∧ s.pool.queue.isFull tasks.length = false ∧
      ∃ decision, s.offer token call =
        { s with
          pool :=
            { s.pool with queue := { s.pool.queue with items := s.pool.queue.items ++ tasks } }
          offered := s.offered + tasks.length
          decided :=
            s.decided ++ [⟨tasks.length, call.event? (.admitted decision), .admitted decision⟩]
          admitted := s.admitted ++ [tasks]
          channels := call.openChannel s.channels }) ∨
    ∃ decision, (∀ token, decision ≠ .admitted token) ∧ s.offer token call =
      { s with
        offered := s.offered + tasks.length
        decided := s.decided ++ [⟨tasks.length, call.event? decision, decision⟩]
        refused := s.refused ++ [tasks] } := by
  intro tasks
  have offered := call.offer_eq s.pool token s.offered s.channels.next
  rcases s.pool.offerBulk_cases token tasks with
    ⟨opened, room, result⟩ | ⟨decision, refused, result⟩
  · refine .inl ⟨opened, room, token.map (·.record tasks.length), ?_⟩
    simp only [State.offer, offered, tasks, result]
  · refine .inr ⟨decision, refused, ?_⟩
    simp only [State.offer, offered, tasks, result]

end Interleaving

end WorkerPool.Pool
