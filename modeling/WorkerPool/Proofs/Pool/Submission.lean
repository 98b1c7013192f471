import WorkerPool.Proofs.Pool.Drop
import WorkerPool.Proofs.Pool.Identity

namespace WorkerPool

def Rejection.decision : Rejection → Pool.Decision
  | queueFull _ => .refused .full
  | stopped => .refused .closed
  | foreignToken => .foreign

namespace Pool

variable {α β ρ : Type}

theorem offerBulk_eq (p : Pool β) (token : Option ProducerToken) (jobs : List (Job β)) :
    p.offerBulk token jobs =
      if p.accepts token = false then (.foreign, p)
      else if p.queue.closed then (.refused .closed, p)
      else if p.queue.isFull jobs.length then (.refused .full, p)
      else (.admitted (token.map (·.record jobs.length)),
        { p with queue := { p.queue with items := p.queue.items ++ jobs } }) := by
  unfold offerBulk Queue.enqueueBulk
  cases p.accepts token <;> cases closed : p.queue.closed <;>
    cases p.queue.isFull jobs.length <;> simp [closed]

namespace Interleaving

variable {settings : PoolSettings} {queueId : Nat}

theorem capacity_of_valid (valid : settings.validate = .ok ()) : settings.capacity ≠ some 0 := by
  unfold PoolSettings.validate at valid
  split at valid
  · cases valid
  · split at valid
    · cases valid
    · split at valid
      · cases valid
      · assumption

theorem Reachable.length_le {s : State β ρ} (reached : Reachable settings queueId s) :
    ∀ c, s.pool.queue.capacity = some c → s.pool.queue.length ≤ c := by
  apply reached.ledger (P := fun l => ∀ c, l.queue.capacity = some c → l.queue.length ≤ c)
  · intro c _
    exact Nat.zero_le c
  · intro l m entry before
    cases entry with
    | accept call tasks these opened room =>
        intro c capacity
        have within : ¬c < l.queue.length + tasks.length := by
          simpa [Queue.isFull, show l.queue.capacity = some c from capacity] using room
        simp only [Queue.length, List.length_append] at within ⊢
        omega
    | fetch i batch =>
        intro c capacity
        have shorter : (l.queue.items.drop l.settings.batchSize).length ≤ l.queue.items.length := by
          simp
        exact shorter.trans (before c capacity)
    | remove =>
        intro c _
        exact Nat.zero_le c
    | _ => exact before

/-- Why `size` tasks are refused, if they are: first for their token, then for the queue being
closed, and last for its capacity. -/
def refusal? (settings : PoolSettings) (queueId : Nat) (queue : Queue (Task β))
    (token : Option ProducerToken) (size : Nat) : Option Rejection :=
  if token.any (·.queueId ≠ queueId) then some .foreignToken
  else if queue.closed then some .stopped
  else settings.capacity.bind fun c =>
    if c < queue.length + size then some (.queueFull c) else none

theorem accepts_eq_false_iff (p : Pool (Numbered β)) (token : Option ProducerToken) :
    p.accepts token = false ↔ token.any (·.queueId ≠ p.queue.id) = true := by
  cases token <;> simp [accepts, Queue.owns]

theorem Reachable.offer_due {s : State β ρ} (reached : Reachable settings queueId s)
    (token : Option ProducerToken) (tasks : List (Task β)) :
    match refusal? settings queueId s.pool.queue token tasks.length with
    | some reason => s.pool.offerBulk token tasks = (reason.decision, s.pool) ∧
        s.pool.verdict reason.decision = .error reason
    | none => s.pool.offerBulk token tasks = (.admitted (token.map (·.record tasks.length)),
        { s.pool with
          queue := { s.pool.queue with items := s.pool.queue.items ++ tasks } }) := by
  have id := reached.queueId_eq
  have capacity := reached.capacity_eq
  rw [offerBulk_eq, refusal?]
  by_cases foreign : token.any (·.queueId ≠ queueId) = true
  · have refused : s.pool.accepts token = false := (accepts_eq_false_iff _ _).mpr (id ▸ foreign)
    simp only [foreign, refused, if_true]
    exact ⟨rfl, rfl⟩
  · have own : ¬s.pool.accepts token = false := fun refused =>
      foreign (id ▸ (accepts_eq_false_iff _ _).mp refused)
    simp only [foreign, own]
    by_cases closed : s.pool.queue.closed = true
    · simp only [closed, if_true]
      exact ⟨rfl, rfl⟩
    · simp only [closed]
      cases bound : settings.capacity with
      | none => simp [Queue.isFull, capacity, bound]
      | some c =>
          by_cases full : c < s.pool.queue.length + tasks.length
          · simp [Queue.isFull, capacity, bound, full, Rejection.decision, verdict]
          · simp [Queue.isFull, capacity, bound, full]

theorem Entry.keeps_refused {l m : Ledger β ρ} (entry : Entry l m) : l.refused <+: m.refused := by
  cases entry with
  | refuse => exact List.prefix_append _ _
  | _ => exact List.prefix_rfl

theorem Reachable.never_run {s t : State β ρ} {actions : List (Action β ρ)}
    (reached : Reachable settings queueId s) (run : Run s actions t) :
    ∀ task ∈ s.refused.flatten, ∀ ran ∈ t.ran, numberOf ran.task ≠ numberOf task := by
  intro task member ran done same
  have kept : Reachable settings queueId t ∧ s.refused <+: t.refused :=
    run.preserves (P := fun t => Reachable settings queueId t ∧ s.refused <+: t.refused)
      (fun step before => ⟨before.1.step step,
        before.2.trans (step.entry before.1).keeps_refused⟩) ⟨reached, List.prefix_rfl⟩
  have later : task ∈ t.refused.flatten := by
    obtain ⟨tasks, refused, inside⟩ := List.mem_flatten.mp member
    exact List.mem_flatten.mpr ⟨tasks, kept.2.subset refused, inside⟩
  have place : ran.task ∈ t.places := by
    simp only [State.places, List.mem_append]
    exact .inl (.inl (.inl (List.mem_map_of_mem done)))
  exact kept.1.refused_apart task later (same ▸ List.mem_map_of_mem place)

/-- The tasks are at the end of the queue, they are counted, and nothing else has changed. -/
structure Accepted (s : State β ρ) (token : Option ProducerToken) (call : Submission β) : Prop where
  answer : (call.submit s token).answer =
    call.answer s.channels.next (.ok (token.map (·.record call.size)))
  tokenAfter : (call.submit s token).token = token.map (·.record call.size)
  pool : (call.submit s token).pool =
    { s.pool with
      queue := { s.pool.queue with
        items := s.pool.queue.items ++ call.tasks s.offered s.channels.next }
      stats := s.pool.stats.schedule call.size }
  channels : (call.submit s token).channels = call.openChannel s.channels

/-- The refusal is counted and reported, nothing else has changed, and the tasks are never run. -/
structure Refused (s : State β ρ) (token : Option ProducerToken) (call : Submission β)
    (reason : Rejection) : Prop where
  answer : (call.submit s token).answer = call.answer s.channels.next (.error reason)
  tokenAfter : (call.submit s token).token = token
  pool : (call.submit s token).pool =
    { s.pool with
      stats := s.pool.stats.reject call.size
      events := s.pool.events ++ (call.event? reason.decision).toList }
  channels : (call.submit s token).channels = s.channels
  never : ∀ actions t, Run (s.offer token call) actions t →
    ∀ task ∈ call.tasks s.offered s.channels.next,
      ∀ ran ∈ t.ran, numberOf ran.task ≠ numberOf task

theorem Reachable.accepted {s : State β ρ} (reached : Reachable settings queueId s)
    {token : Option ProducerToken} {call : Submission β}
    (due : refusal? settings queueId s.pool.queue token call.size = none) :
    Accepted s token call := by
  have offer := reached.offer_due token (call.tasks s.offered s.channels.next)
  rw [call.tasks_length, due] at offer
  have submitted := call.submit_eq s token offer
  constructor <;> rw [submitted] <;> rfl

theorem Reachable.refused {s : State β ρ} (reached : Reachable settings queueId s)
    {token : Option ProducerToken} {call : Submission β} {reason : Rejection}
    (due : refusal? settings queueId s.pool.queue token call.size = some reason) :
    Refused s token call reason := by
  have offer := reached.offer_due token (call.tasks s.offered s.channels.next)
  rw [call.tasks_length, due] at offer
  obtain ⟨offered, told⟩ := offer
  have submitted := call.submit_eq s token offered
  rw [told] at submitted
  have kept : (s.offer token call).refused =
      s.refused ++ [call.tasks s.offered s.channels.next] := by
    have same := call.offer_eq s.pool token s.offered s.channels.next
    rw [offered] at same
    simp only [State.offer, same]
    cases reason <;> rfl
  refine ⟨by rw [submitted], by rw [submitted]; rfl, ?_, ?_, ?_⟩
  · rw [submitted]
    cases reason <;> rfl
  · rw [submitted]
    cases reason <;> rfl
  · intro actions t run task member
    have later := reached.step (.offer s token call)
    refine later.never_run run task ?_
    rw [kept, List.flatten_append, List.flatten_singleton]
    exact List.mem_append_right _ member

theorem full_of_refusal {queue : Queue (Task β)} {token : Option ProducerToken} {size n : Nat}
    (due : refusal? settings queueId queue token size = some (.queueFull n)) :
    settings.capacity = some n ∧ n < queue.length + size := by
  unfold refusal? at due
  split at due
  · cases due
  · split at due
    · cases due
    · obtain ⟨c, capacity, full⟩ := Option.bind_eq_some_iff.mp due
      split at full
      · cases full
        exact ⟨capacity, by assumption⟩
      · cases full

theorem Reachable.full_of_answer {s : State β ρ} (reached : Reachable settings queueId s)
    (valid : settings.validate = .ok ()) {token : Option ProducerToken} {call : Submission β}
    {n : Nat} (told : (call.submit s token).answer = .rejected (.queueFull n)) :
    settings.capacity = some n ∧ 1 ≤ n ∧ s.pool.queue.length = n := by
  cases due : refusal? settings queueId s.pool.queue token call.size with
  | none =>
      rw [(reached.accepted due).answer] at told
      cases call <;> cases told
  | some reason =>
      rw [(reached.refused due).answer] at told
      cases call with
      | forget | bulk => cases told
      | schedule body =>
          cases told
          obtain ⟨capacity, full⟩ := full_of_refusal due
          have within := reached.length_le n (reached.capacity_eq.trans capacity)
          have positive : n ≠ 0 := fun zero => capacity_of_valid valid (zero ▸ capacity)
          have one : (Submission.schedule body).size = 1 := rfl
          exact ⟨capacity, by omega, by omega⟩

/-- The calls that submit tasks. A function put to its argument is a body like any other, whether
the function comes with the call or was bound to the pool before. -/
inductive Request (α β : Type) where
  | schedule (body : β)
  | scheduleWith (target : α → β) (argument : α)
  | scheduleWithToken (token : ProducerToken) (body : β)
  | forget (body : β)
  | forgetWithToken (token : ProducerToken) (body : β)
  | bulk (bodies : List β)
  | bulkWithToken (token : ProducerToken) (bodies : List β)
  | call (target : α → β) (argument : α)
  | callAndForget (target : α → β) (argument : α)

namespace Request

def token : Request α β → Option ProducerToken
  | scheduleWithToken token _ | forgetWithToken token _ | bulkWithToken token _ => some token
  | _ => none

def submission : Request α β → Submission β
  | schedule body | scheduleWithToken _ body => .schedule body
  | scheduleWith target argument | call target argument => .schedule (target argument)
  | forget body | forgetWithToken _ body => .forget body
  | callAndForget target argument => .forget (target argument)
  | bulk bodies | bulkWithToken _ bodies => .bulk bodies

def submit (s : State β ρ) (request : Request α β) : Submitted β ρ :=
  request.submission.submit s request.token

end Request

namespace Lifetime

theorem Reachable.calls {s t : State β ρ} {phase : Phase β ρ} {actions : List (Action β ρ)}
    (reached : Reachable settings queueId ⟨s, phase⟩) (run : Run s actions t)
    (calls : ∀ a ∈ actions, a.ofPool = false ∧ a.worker? = none) :
    Reachable settings queueId ⟨t, phase⟩ := by
  induction run with
  | nil => exact reached
  | @cons s u t a rest first _ ih =>
      rw [List.forall_mem_cons] at calls
      obtain ⟨⟨handle, nobody⟩, others⟩ := calls
      refine ih (reached.step ?_) others
      cases phase with
      | held => exact .use first
      | dropping dropper left => exact .others first handle fun i _ => .inr (by simp [nobody])

theorem Reachable.submitted {l : Lifetime β ρ} (reached : l.Reachable settings queueId)
    (valid : settings.validate = .ok ()) (request : Request α β) :
    (match refusal? settings queueId l.state.pool.queue request.token request.submission.size with
      | some reason => Refused l.state request.token request.submission reason
      | none => Accepted l.state request.token request.submission) ∧
      (∀ n, (request.submit l.state).answer = .rejected (.queueFull n) →
        settings.capacity = some n ∧ 1 ≤ n ∧ l.state.pool.queue.length = n) ∧
      ∃ t, Run l.state
          [.offer request.token request.submission, .tally l.state.decided.length] t ∧
        Reachable settings queueId ⟨t, l.phase⟩ ∧ t.pool = (request.submit l.state).pool ∧
        t.channels = (request.submit l.state).channels := by
  refine ⟨?_, fun n => reached.state.full_of_answer valid, ?_⟩
  · cases due : refusal? settings queueId l.state.pool.queue request.token
        request.submission.size with
    | none => exact reached.state.accepted due
    | some reason => exact reached.state.refused due
  · obtain ⟨t, run, _, after⟩ := submit_run l.state request.token request.submission
    refine ⟨t, run, reached.calls run ?_, after⟩
    simp [Action.ofPool, Action.ofJoin, Action.worker?]

end Lifetime

end Interleaving

end Pool

end WorkerPool
