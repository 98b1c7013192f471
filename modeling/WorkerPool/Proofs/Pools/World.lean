import Mathlib.Logic.Function.Basic
import WorkerPool.Obstacle
import WorkerPool.Proofs.Pool.Replay

namespace WorkerPool.Pools

open Pool.Interleaving

variable {ι β ρ : Type}

/-- A pool, the tokens it made, and what its callers were told. -/
structure Member (β ρ : Type) where
  state : State β ρ
  tokens : List ProducerToken := []
  answers : List (Except Rejection (Option Nat)) := []
  reads : List (Option (Except TaskFailure ρ)) := []

/-- What can be done with a pool: it is made, makes a token, takes a submission through a token of
whichever pool, has one of its channels read, or goes on in any other way. Channels and tokens are
known by how many the pool had before them. -/
inductive Move (ι β ρ : Type) where
  | create (settings : PoolSettings)
  | token
  | submit (token : Option (ι × Nat)) (call : Submission β)
  | read (k : Nat)
  | act (a : Action β ρ)

def plain : Action β ρ → Bool
  | .offer .. | .read _ => false
  | _ => true

namespace Member

def start (settings : PoolSettings) (id : Nat) : Member β ρ where
  state := State.start settings id

def opened (m : Member β ρ) : List Nat := m.state.admitted.flatten.filterMap Job.channel

def told (s : State β ρ) : Action β ρ → List (Except Rejection (Option Nat))
  | .tally k => (s.decided[k]?.map fun offer =>
      (s.pool.verdict offer.decision).map (Option.map ProducerToken.enqueued)).toList
  | _ => []

def got (s : State β ρ) : Action β ρ → List (Option (Except TaskFailure ρ))
  | .read c => [(s.channels.read c).1]
  | _ => []

def act (m : Member β ρ) (a : Action β ρ) : Option (Member β ρ) :=
  (m.state.step? a).map fun state =>
    { m with
      state
      answers := m.answers ++ told m.state a
      reads := m.reads ++ got m.state a }

def move? (m : Member β ρ) (token : Option ProducerToken) : Move ι β ρ → Option (Member β ρ)
  | .create _ => none
  | .token => some { m with tokens := m.tokens ++ [m.state.pool.queue.producer] }
  | .submit _ call => m.act (.offer token call)
  | .read k =>
    match m.opened[k]? with
    | some c => m.act (.read c)
    | none => none
  | .act a => if plain a then m.act a else none

def decision? (m : Member β ρ) : Option Pool.Decision :=
  m.state.decided.getLast?.map Decided.decision

def recordToken (m : Member β ρ) (k : Nat) : Option Pool.Decision → Member β ρ
  | some (.admitted (some t)) => { m with tokens := m.tokens.set k t }
  | _ => m

end Member

structure World (ι β ρ : Type) where
  queuesMade : Nat := 0
  channels : Channels ρ := {}
  -- The pools by name; their own stores of channels stay empty.
  pools : ι → Option (Member β ρ) := fun _ => none

namespace World

def enter (w : World ι β ρ) (p : ι) : Option (Member β ρ) :=
  (w.pools p).map fun m => { m with state := { m.state with channels := w.channels } }

def token? (w : World ι β ρ) (token : ι × Nat) : Option ProducerToken :=
  (w.pools token.1).bind (·.tokens[token.2]?)

variable [DecidableEq ι]

def set (w : World ι β ρ) (p : ι) (m : Member β ρ) : World ι β ρ :=
  { w with pools := Function.update w.pools p (some m) }

def put (w : World ι β ρ) (p : ι) (m : Member β ρ) : World ι β ρ :=
  { w with channels := m.state.channels }.set p { m with state := { m.state with channels := {} } }

def recordToken (w : World ι β ρ) (token : ι × Nat) (decision : Option Pool.Decision) :
    World ι β ρ :=
  match w.pools token.1 with
  | some owner => w.set token.1 (owner.recordToken token.2 decision)
  | none => w

/-- A pool is made under a name that is free. Settings that are refused make nothing; without its
workers a pool is not made, but its queue has taken an id. -/
def create (w : World ι β ρ) (p : ι) (settings : PoolSettings) : Option (World ι β ρ) :=
  match w.pools p, settings.validate, settings.obstacle? with
  | some _, _, _ => none
  | none, .error _, _ => some w
  | none, .ok (), some _ => some { w with queuesMade := w.queuesMade + 1 }
  | none, .ok (), none =>
    let id := w.queuesMade + 1
    some ({ w with queuesMade := id }.set p (.start settings id))

def step? (w : World ι β ρ) (p : ι) : Move ι β ρ → Option (World ι β ρ)
  | .create settings => w.create p settings
  | .submit (some token) call => do
    let m ← w.enter p
    let t ← w.token? token
    let next ← m.move? (some t) (.submit (some token) call)
    return (w.put p next).recordToken token next.decision?
  | move => ((w.enter p).bind (·.move? none move)).map (w.put p)

def run? (w : World ι β ρ) : List (ι × Move ι β ρ) → Option (World ι β ρ)
  | [] => some w
  | (p, move) :: rest =>
    match w.step? p move with
    | some u => u.run? rest
    | none => none

end World

end WorkerPool.Pools
