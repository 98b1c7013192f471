import WorkerPool.Proofs.Pool.Effect
import WorkerPool.Proofs.Pool.Replay

namespace WorkerPool.Pool.Interleaving

variable {β ρ : Type}

inductive Answer where
  | channel (c : Nat)
  | rejected (reason : Rejection)
  | accepted (yes : Bool)
  deriving DecidableEq, Repr

/-- All that a submission leaves behind. -/
structure Submitted (β ρ : Type) where
  answer : Answer
  token : Option ProducerToken
  pool : Pool (Numbered β)
  channels : Channels ρ

namespace Submission

def answer (channel : Nat) (verdict : Verdict) : Submission β → Answer
  | schedule _ =>
    match verdict with
    | .ok _ => .channel channel
    | .error reason => .rejected reason
  | _ => .accepted verdict.isOk

def tokenAfter (token : Option ProducerToken) : Verdict → Option ProducerToken
  | .ok token => token
  | .error _ => token

def channelsAfter (cs : Channels ρ) (call : Submission β) : Decision → Channels ρ
  | .admitted _ => call.openChannel cs
  | _ => cs

def submit (s : State β ρ) (token : Option ProducerToken) (call : Submission β) :
    Submitted β ρ :=
  let answered (verdict : Verdict) (pool : Pool (Numbered β)) (channels : Channels ρ) :=
    ⟨call.answer s.channels.next verdict, tokenAfter token verdict, pool, channels⟩
  match call with
  | schedule body =>
    let (verdict, pool, channels) := s.pool.schedule token ⟨s.offered, body⟩ s.channels
    answered verdict pool channels
  | forget body =>
    let (verdict, pool) := s.pool.forget token ⟨s.offered, body⟩
    answered verdict pool s.channels
  | bulk bodies =>
    let (verdict, pool) := s.pool.bulk token
      ((bodies.zipIdx s.offered).map fun (body, number) => ⟨number, body⟩)
    answered verdict pool s.channels

@[simp] theorem tasks_length (call : Submission β) (first channel : Nat) :
    (call.tasks first channel).length = call.size := by
  cases call with
  | schedule | forget => rfl
  | bulk bodies => exact bulkTasks_length first bodies

theorem submit_eq (call : Submission β) (s : State β ρ) (token : Option ProducerToken)
    {decision : Decision} {pool : Pool (Numbered β)}
    (result : s.pool.offerBulk token (call.tasks s.offered s.channels.next) = (decision, pool)) :
    call.submit s token =
      { answer := call.answer s.channels.next (pool.verdict decision)
        token := tokenAfter token (pool.verdict decision)
        pool := pool.tally call.size (call.event? decision) decision
        channels := call.channelsAfter s.channels decision } := by
  cases call with
  | schedule body =>
      simp only [submit, Pool.schedule, Pool.submit, offer_eq_offerBulk]
      simp only [tasks] at result
      rw [result]
      cases decision with
      | admitted | foreign => rfl
      | refused reason => cases reason <;> rfl
  | forget body =>
      simp only [submit, Pool.forget, Pool.submit, offer_eq_offerBulk]
      simp only [tasks] at result
      rw [result]
      cases decision <;> rfl
  | bulk bodies =>
      have tasks : ((bodies.zipIdx s.offered).map fun (body, number) =>
          Numbered.mk number body).map (⟨·, none⟩) = bulkTasks s.offered bodies := by
        rw [bulkTasks, List.map_map]
        rfl
      simp only [Submission.tasks] at result
      simp only [submit, Pool.bulk, submitBulk, tasks, result, bulkTasks_length]
      cases decision <;> rfl

end Submission

theorem submit_run (s : State β ρ) (token : Option ProducerToken) (call : Submission β) :
    ∃ t, Run s [.offer token call, .tally s.decided.length] t ∧ t.decided = s.decided ∧
      t.pool = (call.submit s token).pool ∧ t.channels = (call.submit s token).channels := by
  rcases result : s.pool.offerBulk token (call.tasks s.offered s.channels.next) with
    ⟨decision, pool⟩
  have offered := call.offer_eq s.pool token s.offered s.channels.next
  rw [result] at offered
  rw [call.submit_eq s token result, ← call.tasks_length s.offered s.channels.next]
  refine ⟨_, .cons (.offer s token call) (.cons (.tally _ s.decided.length
    ⟨(call.tasks s.offered s.channels.next).length, call.event? decision, decision⟩ ?_) (.nil _)),
    ?_, ?_, ?_⟩
  all_goals
    simp only [State.offer, State.tally, offered]
    cases decision <;> simp [List.eraseIdx_append_of_length_le, Submission.channelsAfter]

theorem finish_run (s : State β ρ) {i : Nat} {w : Worker (Numbered β)} (outcome : Outcome ρ)
    (here : s.pool.worker? i = some w) (more : w.batch ≠ []) (post : s.posts i = .busy) :
    ∃ t, Run s [.finish i outcome, .report i, .count i] t ∧ t.posts i = .idle ∧
      (t.pool, t.channels) = s.pool.finish i outcome s.channels := by
  obtain ⟨task, rest, batch⟩ := List.exists_cons_of_ne_nil more
  have current : w.batch.head? = some task := by rw [batch, List.head?_cons]
  obtain ⟨_, _, counted⟩ := s.pool.countPanic_eq i outcome
  have same : (s.pool.countPanic i outcome).worker? i = some w := by rw [counted]; exact here
  refine ⟨_, .cons (.finish s i w task outcome here current post) (.cons
    (.report _ i w outcome here ?_) (.cons (.count _ i w task same current ?_) (.nil _))), ?_, rfl⟩
  all_goals simp [State.finish, State.report, State.count, State.stand]

theorem stop_run (s : State β ρ) :
    ∃ t, Run s [.close, .raise] t ∧ t.stopping = s.stopping ∧ t.pool = s.pool.stop :=
  ⟨_, .cons (.close s) (.cons (.raise _ (Nat.succ_pos _)) (.nil _)), rfl, rfl⟩

theorem join_run (s : State β ρ) {pool : Pool (Numbered β)} {channels : Channels ρ}
    (free : s.awaiting = false) (joined : s.pool.join s.channels = some (pool, channels)) :
    ∃ t, Run s [.await, .takeLeftovers, .countLeftovers s.joining.length,
        .dropLeftovers s.joining.length] t ∧
      t.joining = s.joining ∧ t.pool = pool ∧ t.channels = channels := by
  unfold join at joined
  split at joined
  · next exited =>
      cases joined
      refine ⟨_, .cons (.await s free) (.cons (.takeLeftovers _ rfl exited) (.cons
        (.countLeftovers _ s.joining.length s.pool.queue.items ?_) (.cons
        (.dropLeftovers _ s.joining.length s.pool.queue.items ?_) (.nil _)))), ?_, rfl, rfl⟩
      all_goals simp [State.await, State.takeLeftovers, State.countLeftovers, State.dropLeftovers,
        removeLeftovers, Queue.drain, List.eraseIdx_append_of_length_le]
  · cases joined

end WorkerPool.Pool.Interleaving
