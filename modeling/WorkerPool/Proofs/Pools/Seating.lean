import WorkerPool.Proofs.Pool.Identity
import WorkerPool.Proofs.Pools.Places

namespace WorkerPool.Pools

open Pool.Interleaving

variable {ι β ρ : Type}

namespace Member

variable {m next : Member β ρ} {settings : PoolSettings} {queueId : Nat}

theorem move?_cases {token : Option ProducerToken} {move : Move ι β ρ}
    (moved : m.move? token move = some next) :
    next = { m with tokens := m.tokens ++ [m.state.pool.queue.producer] } ∨
      ∃ a, m.act a = some next := by
  cases move with
  | create => cases moved
  | token => exact .inl (Option.some.inj moved).symm
  | submit => exact .inr ⟨_, moved⟩
  | read k =>
      simp only [move?] at moved
      split at moved
      · exact .inr ⟨_, moved⟩
      · cases moved
  | act a =>
      simp only [move?] at moved
      split at moved
      · exact .inr ⟨a, moved⟩
      · cases moved

theorem move?_reached (reached : Reachable settings queueId m.state)
    {token : Option ProducerToken} {move : Move ι β ρ} (moved : m.move? token move = some next) :
    Reachable settings queueId next.state := by
  rcases move?_cases moved with rfl | ⟨a, acted⟩
  · exact reached
  · obtain ⟨t, taken, rfl⟩ := Option.map_eq_some_iff.mp acted
    exact reached.step (Step.of_step? taken)

theorem move?_tokens (reached : Reachable settings queueId m.state)
    (own : ∀ t ∈ m.tokens, t.queueId = queueId) {token : Option ProducerToken}
    {move : Move ι β ρ} (moved : m.move? token move = some next) :
    ∀ t ∈ next.tokens, t.queueId = queueId := by
  rcases move?_cases moved with rfl | ⟨a, acted⟩
  · rw [List.forall_mem_append, List.forall_mem_singleton]
    exact ⟨own, reached.queueId_eq⟩
  · obtain ⟨_, _, rfl⟩ := Option.map_eq_some_iff.mp acted
    exact own

end Member

/-- A pool of a world: what it would be alone, what its channels and its queue are called in the
world, and the tasks that were refused there. -/
structure Seat (β ρ : Type) where
  alone : Member β ρ
  naming : Naming
  refused : List (List (Job (Numbered β)))

namespace Seat

def opened (seat : Seat β ρ) : Nat := seat.alone.state.channels.next

structure Fits (seat : Seat β ρ) (n : Naming) : Prop where
  id : n.id = seat.naming.id
  place : ∀ k < seat.opened, n.place k = seat.naming.place k

theorem fits (seat : Seat β ρ) : seat.Fits seat.naming := ⟨rfl, fun _ _ => rfl⟩

end Seat

/-- A pool of the world is the pool alone but for the names. -/
structure Sits (w : World ι β ρ) (p : ι) (seat : Seat β ρ) : Prop where
  reached : ∃ settings, Reachable settings 1 seat.alone.state
  tokens : ∀ t ∈ seat.alone.tokens, t.queueId = 1
  present : ∀ n, seat.Fits n → w.pools p = some (seat.alone.named n {} seat.refused)
  linked : Linked seat.naming w.channels seat.alone.state.channels
  id : 0 < seat.naming.id ∧ seat.naming.id ≤ w.queuesMade

structure Seat.Apart (a b : Seat β ρ) : Prop where
  id : a.naming.id ≠ b.naming.id
  place : ∀ j < a.opened, ∀ k < b.opened, a.naming.place j ≠ b.naming.place k

theorem Seat.Apart.symm {a b : Seat β ρ} (apart : a.Apart b) : b.Apart a :=
  ⟨apart.id.symm, fun k kknown j jknown => (apart.place j jknown k kknown).symm⟩

structure Seated (w : World ι β ρ) (seats : ι → Option (Seat β ρ)) : Prop where
  absent : ∀ p, seats p = none → w.pools p = none
  sits : ∀ p seat, seats p = some seat → Sits w p seat
  apart : ∀ p q a b, p ≠ q → seats p = some a → seats q = some b → a.Apart b

variable {w : World ι β ρ} {p : ι} {seat : Seat β ρ} {seats : ι → Option (Seat β ρ)}

theorem Sits.enter (sits : Sits w p seat) {n : Naming} (fits : seat.Fits n) :
    w.enter p = some (seat.alone.named n w.channels seat.refused) := by
  rw [World.enter, sits.present n fits, Option.map_some]
  rfl

theorem Seated.enter_absent (seated : Seated w seats) (here : seats p = none) :
    w.enter p = none := by
  rw [World.enter, seated.absent p here, Option.map_none]

theorem Sits.token? (sits : Sits w p seat) (k : Nat) :
    w.token? (p, k) = seat.alone.tokens[k]?.map (ProducerToken.named seat.naming) := by
  simp [World.token?, sits.present _ seat.fits, Member.named]

def Seat.renaming (seat : Seat β ρ) (cs : Channels ρ) : Naming :=
  { seat.naming with place := Function.update seat.naming.place seat.opened cs.next }

theorem Seat.renaming_place (seat : Seat β ρ) (cs : Channels ρ) {k : Nat}
    (known : k < seat.opened) :
    (seat.renaming cs).place k = seat.naming.place k :=
  Function.update_of_ne (Nat.ne_of_lt known) _ _

theorem Sits.move? (sits : Sits w p seat) {n : Naming} (fits : seat.Fits n)
    {token other : Option ProducerToken}
    (presented : Pool.Presented n seat.alone.state.pool token other) (move : Move ι β ρ)
    (opens : ∀ next, seat.alone.move? token move = some next →
      seat.opened < next.state.channels.next → n.place seat.opened = w.channels.next) :
    (seat.alone.move? token move = none ∧ (w.enter p).bind (·.move? other move) = none) ∨
      ∃ next us unheard, seat.alone.move? token move = some next ∧
        (w.enter p).bind (·.move? other move) = some (next.named n us unheard) ∧
        Shift n seat.alone.state.channels next.state.channels w.channels us := by
  obtain ⟨settings, reached⟩ := sits.reached
  have linked := sits.linked.congr fits.place
  rw [sits.enter fits, Option.bind_some]
  exact Member.move?_named seat.refused reached linked presented move opens

theorem Sits.follow (sits : Sits w p seat) {token other : Option ProducerToken}
    (presented : ∀ n : Naming, n.id = seat.naming.id →
      Pool.Presented n seat.alone.state.pool token other) (move : Move ι β ρ) :
    (seat.alone.move? token move = none ∧ (w.enter p).bind (·.move? other move) = none) ∨
      ∃ next m, seat.alone.move? token move = some next ∧
        (w.enter p).bind (·.move? other move) = some m ∧
        (∀ n, Seat.Fits ⟨next, seat.renaming w.channels, []⟩ n →
          m = next.named n m.state.channels m.state.refused) ∧
        Shift (seat.renaming w.channels) seat.alone.state.channels next.state.channels w.channels
          m.state.channels := by
  have fresh : seat.Fits (seat.renaming w.channels) :=
    ⟨rfl, fun k known => seat.renaming_place w.channels known⟩
  rcases sits.move? fresh (presented _ rfl) move fun _ _ _ => Function.update_self .. with
    stuck | ⟨next, us, unheard, alone, moved, shift⟩
  · exact .inl stuck
  · refine .inr ⟨next, _, alone, moved, ?_, shift⟩
    intro n fits
    have older : seat.Fits n := by
      refine ⟨fits.id, ?_⟩
      intro k known
      rw [fits.place k (Nat.lt_of_lt_of_le known shift.more)]
      exact seat.renaming_place w.channels known
    have opens : ∀ other, seat.alone.move? token move = some other →
        seat.opened < other.state.channels.next → n.place seat.opened = w.channels.next := by
      intro other same more
      cases alone.symm.trans same
      rw [fits.place _ more]
      exact Function.update_self ..
    rcases sits.move? older (presented n fits.id) move opens with
      ⟨none, _⟩ | ⟨last, vs, others, again, there, _⟩
    · cases alone.symm.trans none
    · cases alone.symm.trans again
      rw [Option.some.inj (moved.symm.trans there)]
      rfl

def stranger : ProducerToken := { queueId := 0 }

variable [DecidableEq ι]

def alone? (p : ι) (m : Option (Member β ρ)) : Move ι β ρ → Option (Option (Member β ρ))
  | .create settings =>
    match m, settings.validate, settings.obstacle? with
    | some _, _, _ => none
    | none, .ok (), none => some (some (.start settings 1))
    | none, _, _ => some none
  | .submit (some (q, k)) call => do
    let m ← m
    if q = p then
      let t ← m.tokens[k]?
      let next ← m.move? (some t) (.submit (some (q, k)) call)
      return some (next.recordToken k next.decision?)
    else
      let next ← m.move? (some stranger) (.submit (some (q, k)) call)
      return some next
  | move => (m.bind (·.move? none move)).map some

variable {u : World ι β ρ} {next m : Member β ρ}

theorem Seated.update (seated : Seated w seats) {changed : Seat β ρ} (mine : Sits u p changed)
    (pools : ∀ q, q ≠ p → u.pools q = w.pools q)
    (linked : ∀ q b, q ≠ p → seats q = some b →
      Linked b.naming u.channels b.alone.state.channels)
    (made : w.queuesMade ≤ u.queuesMade)
    (apart : ∀ q b, q ≠ p → seats q = some b → changed.Apart b) :
    Seated u (Function.update seats p (some changed)) := by
  refine ⟨?_, ?_, ?_⟩
  · intro q none
    by_cases same : q = p
    · subst same
      simp at none
    · rw [Function.update_of_ne same] at none
      rw [pools q same]
      exact seated.absent q none
  · intro q b there
    by_cases same : q = p
    · subst same
      rw [Function.update_self] at there
      cases there
      exact mine
    · rw [Function.update_of_ne same] at there
      have theirs := seated.sits q b there
      refine ⟨theirs.reached, theirs.tokens, ?_, linked q b same there, theirs.id.1, ?_⟩
      · intro n fits
        rw [pools q same]
        exact theirs.present n fits
      · exact Nat.le_trans theirs.id.2 made
  · intro q r a b other qhere rhere
    by_cases qsame : q = p
    · subst qsame
      rw [Function.update_self] at qhere
      rw [Function.update_of_ne other.symm] at rhere
      cases qhere
      exact apart r b other.symm rhere
    · rw [Function.update_of_ne qsame] at qhere
      by_cases rsame : r = p
      · subst rsame
        rw [Function.update_self] at rhere
        cases rhere
        exact (apart q a qsame qhere).symm
      · rw [Function.update_of_ne rsame] at rhere
        exact seated.apart q r a b other qhere rhere

omit [DecidableEq ι] in
theorem Seated.apart_renaming (seated : Seated w seats) (here : seats p = some seat)
    (shift : Shift (seat.renaming w.channels) seat.alone.state.channels next.state.channels
      w.channels m.state.channels) (refused : List (List (Job (Numbered β)))) {q : ι}
    {b : Seat β ρ} (other : q ≠ p) (there : seats q = some b) :
    Seat.Apart ⟨next, seat.renaming w.channels, refused⟩ b := by
  have apart := seated.apart p q seat b other.symm here there
  refine ⟨apart.id, ?_⟩
  intro j jknown k kknown
  by_cases older : j < seat.opened
  · rw [seat.renaming_place w.channels older]
    exact apart.place j older k kknown
  · have last := shift.fresh j jknown (Nat.le_of_not_lt older)
    have before := (seated.sits q b there).linked.inside k kknown
    exact Nat.ne_of_gt (Nat.lt_of_lt_of_le before last)

theorem Seated.put (seated : Seated w seats) (here : seats p = some seat)
    (reached : ∃ settings, Reachable settings 1 next.state)
    (tokens : ∀ t ∈ next.tokens, t.queueId = 1)
    (named : ∀ n, Seat.Fits ⟨next, seat.renaming w.channels, []⟩ n →
      m = next.named n m.state.channels m.state.refused)
    (shift : Shift (seat.renaming w.channels) seat.alone.state.channels next.state.channels
      w.channels m.state.channels) :
    Seated (w.put p m)
      (Function.update seats p (some ⟨next, seat.renaming w.channels, m.state.refused⟩)) := by
  apply seated.update
  · refine ⟨reached, tokens, ?_, shift.linked, (seated.sits p seat here).id⟩
    intro n fits
    have result := named n ⟨fits.id, fits.place⟩
    simp only [World.put, World.set, Function.update_self]
    rw [result]
    rfl
  · intro q other
    simp only [World.put, World.set, Function.update_of_ne other]
  · intro q b other there
    have theirs := (seated.sits q b there).linked
    refine ⟨?_, theirs.injective, ?_⟩
    · intro k known
      exact Nat.lt_of_lt_of_le (theirs.inside k known) shift.grows
    · intro k known
      rw [← theirs.slots k known]
      apply shift.others _ (theirs.inside k known)
      intro j jknown
      have apart := seated.apart_renaming here shift [] other there
      exact apart.place j (Nat.lt_of_lt_of_le jknown shift.more) k known
  · exact Nat.le_refl _
  · intro q b other there
    exact seated.apart_renaming here shift _ other there

namespace Member

omit [DecidableEq ι] in
theorem decision?_submit {token : Option ProducerToken} {reference : Option (ι × Nat)}
    {call : Submission β} (moved : m.move? token (.submit reference call) = some next) :
    next.decision? = some (m.state.pool.offerBulk token
      (call.tasks m.state.offered m.state.channels.next)).1 := by
  cases moved
  simp only [decision?, State.offer, Submission.offer_eq]
  split <;> simp_all

@[simp] theorem recordToken_state (m : Member β ρ) (k : Nat) (decision : Option Pool.Decision) :
    (m.recordToken k decision).state = m.state := by
  rcases decision with _ | ⟨_ | _⟩ | _ | _ <;> rfl

theorem recordToken_follow {n : Naming} (k : Nat)
    (same : m = next.named n m.state.channels m.state.refused) :
    m.recordToken k m.decision? = (next.recordToken k next.decision?).named n
      (m.recordToken k m.decision?).state.channels
      (m.recordToken k m.decision?).state.refused := by
  rw [recordToken_state, ← recordToken_named, ← decision?_named, ← same]

omit [DecidableEq ι] in
theorem recordToken_tokens {t : ProducerToken} {id k : Nat} {reference : Option (ι × Nat)}
    {call : Submission β} (moved : m.move? (some t) (.submit reference call) = some next)
    (given : t.queueId = id) (own : ∀ t ∈ next.tokens, t.queueId = id) :
    ∀ t ∈ (next.recordToken k next.decision?).tokens, t.queueId = id := by
  rw [decision?_submit moved]
  rcases m.state.pool.offerBulk_cases (some t) (call.tasks m.state.offered m.state.channels.next)
    with ⟨_, _, result⟩ | ⟨decision, refused, result⟩
  · rw [result]
    intro other member
    rcases List.mem_or_eq_of_mem_set member with older | same
    · exact own other older
    · rw [same]
      exact given
  · rw [result]
    cases decision with
    | admitted t => exact absurd rfl (refused t)
    | refused | foreign => exact own

end Member

theorem World.recordToken_put (w : World ι β ρ) (p : ι) (m : Member β ρ) (k : Nat)
    (decision : Option Pool.Decision) :
    (w.put p m).recordToken (p, k) decision = w.put p (m.recordToken k decision) := by
  simp only [World.recordToken, World.put, World.set, Function.update_self, Function.update_idem]
  rcases decision with _ | ⟨_ | _⟩ | _ | _ <;> rfl

theorem World.recordToken_foreign (w : World ι β ρ) (token : ι × Nat) :
    w.recordToken token (some .foreign) = w := by
  unfold World.recordToken
  split
  · next owner here =>
      have same : owner.recordToken token.2 (some .foreign) = owner := rfl
      rw [same, World.set, ← here, Function.update_eq_self]
  · rfl

/-- A submission shows no token of another pool. -/
def Move.own (p : ι) : Move ι β ρ → Prop
  | .submit (some shown) _ => shown.1 = p
  | _ => True

/-- The pool in the world and the pool alone make the move, with the same outcome, or neither
does; the token of another pool has to be there only in the world. -/
def Seated.Follows (seats : ι → Option (Seat β ρ)) (p : ι) (move : Move ι β ρ)
    (result : Option (World ι β ρ)) : Prop :=
  (result = none ∧ (move.own p → alone? p ((seats p).map Seat.alone) move = none)) ∨
    ∃ u seats', result = some u ∧ Seated u seats' ∧ (∀ q, q ≠ p → seats' q = seats q) ∧
      alone? p ((seats p).map Seat.alone) move = some ((seats' p).map Seat.alone)

theorem Seated.plain (seated : Seated w seats) (p : ι) (move : Move ι β ρ)
    (world : w.step? p move = ((w.enter p).bind (·.move? none move)).map (w.put p))
    (alone : ∀ m : Option (Member β ρ), alone? p m move = (m.bind (·.move? none move)).map some) :
    Follows seats p move (w.step? p move) := by
  rw [world]
  cases here : seats p with
  | none =>
      have absent := seated.enter_absent here
      refine .inl ⟨by rw [absent]; rfl, ?_⟩
      intro _
      rw [here, alone]
      rfl
  | some seat =>
      have sits := seated.sits p seat here
      have presented (n : Naming) (_ : n.id = seat.naming.id) :
          Pool.Presented n seat.alone.state.pool none none := Pool.Presented.own rfl
      rcases sits.follow presented move with ⟨none, stuck⟩ | ⟨next, m, own, moved, named, shift⟩
      · refine .inl ⟨by rw [stuck]; rfl, ?_⟩
        intro _
        rw [here, alone, Option.map_some, Option.bind_some, none]
        rfl
      · obtain ⟨settings, reached⟩ := sits.reached
        have after := seated.put here ⟨settings, Member.move?_reached reached own⟩
          (Member.move?_tokens reached sits.tokens own) named shift
        refine .inr ⟨_, _, by rw [moved]; rfl, after, ?_, ?_⟩
        · intro q other
          exact Function.update_of_ne other _ _
        · rw [here, alone, Option.map_some, Option.bind_some, own, Function.update_self]
          rfl

theorem Seated.submit_own (seated : Seated w seats) (p : ι) (k : Nat) (call : Submission β) :
    Follows seats p (.submit (some (p, k)) call) (w.step? p (.submit (some (p, k)) call)) := by
  cases here : seats p with
  | none =>
      have absent := seated.enter_absent here
      refine .inl ⟨by simp [World.step?, absent], ?_⟩
      intro _
      simp [here, alone?]
  | some seat =>
      have sits := seated.sits p seat here
      have token := sits.token? k
      cases given : seat.alone.tokens[k]? with
      | none =>
          refine .inl ⟨?_, ?_⟩
          · simp [World.step?, token, given]
          · intro _
            simp [here, alone?, given]
      | some t =>
          have id : t.queueId = 1 := sits.tokens t (List.mem_of_getElem? given)
          obtain ⟨settings, reached⟩ := sits.reached
          have accepted : seat.alone.state.pool.accepts (some t) = true := by
            simp [Pool.accepts, Queue.owns, id, reached.queueId_eq]
          have presented (n : Naming) (same : n.id = seat.naming.id) :
              Pool.Presented n seat.alone.state.pool (some t)
                (some (t.named seat.naming)) := by
            have other : t.named seat.naming = t.named n := by simp [ProducerToken.named, same]
            rw [other]
            exact Pool.Presented.own accepted
          rcases sits.follow presented (.submit (some (p, k)) call) with
            ⟨none, _⟩ | ⟨next, m, own, moved, named, shift⟩
          · cases none
          · have reachable : ∃ settings, Reachable settings 1
                (next.recordToken k next.decision?).state := by
              rw [Member.recordToken_state]
              exact ⟨settings, Member.move?_reached reached own⟩
            have tokens := Member.recordToken_tokens (k := k) own id
              (Member.move?_tokens reached sits.tokens own)
            have named (n : Naming) (fits : Seat.Fits
                ⟨next.recordToken k next.decision?, seat.renaming w.channels, []⟩ n) :=
              Member.recordToken_follow k
                (named n ⟨fits.id, by simpa [Seat.opened] using fits.place⟩)
            have after := seated.put here reachable tokens named (by simpa using shift)
            refine .inr ⟨_, _, ?_, after, ?_, ?_⟩
            · have entered : ∃ e, w.enter p = some e ∧
                  e.move? (some (t.named seat.naming)) (.submit (some (p, k)) call) = some m :=
                Option.bind_eq_some_iff.mp moved
              obtain ⟨e, enter, done⟩ := entered
              simp [World.step?, enter, token, given, done, World.recordToken_put]
            · intro q other
              exact Function.update_of_ne other _ _
            · simp [here, alone?, given, own]

theorem Seated.submit_foreign (seated : Seated w seats) {p q : ι} (foreign : q ≠ p) (k : Nat)
    (call : Submission β) :
    Follows seats p (.submit (some (q, k)) call) (w.step? p (.submit (some (q, k)) call)) := by
  have none (missing : w.step? p (.submit (some (q, k)) call) = none) :
      Follows seats p (.submit (some (q, k)) call) (w.step? p (.submit (some (q, k)) call)) :=
    .inl ⟨missing, fun own => absurd own foreign⟩
  cases here : seats p with
  | none =>
      have absent := seated.enter_absent here
      exact none (by simp [World.step?, absent])
  | some seat =>
      cases there : seats q with
      | none =>
          have absent := seated.absent q there
          exact none (by simp [World.step?, World.token?, absent])
      | some owner =>
          have sits := seated.sits p seat here
          have theirs := seated.sits q owner there
          have token := theirs.token? k
          cases given : owner.alone.tokens[k]? with
          | none => exact none (by simp [World.step?, token, given])
          | some t =>
              obtain ⟨settings, reached⟩ := sits.reached
              have unknown : seat.alone.state.pool.accepts (some stranger) = false := by
                simp [Pool.accepts, Queue.owns, stranger, reached.queueId_eq]
              have presented (n : Naming) (same : n.id = seat.naming.id) :
                  Pool.Presented n seat.alone.state.pool (some stranger)
                    (some (t.named owner.naming)) := by
                have apart := (seated.apart q p owner seat foreign there here).id
                apply Pool.Presented.foreign unknown
                simpa [Pool.accepts, Queue.owns, Pool.named, Queue.named, ProducerToken.named,
                  same] using apart
              rcases sits.follow presented (.submit (some (q, k)) call) with
                ⟨stuck, _⟩ | ⟨next, m, own, moved, named, shift⟩
              · cases stuck
              · have after := seated.put here ⟨settings, Member.move?_reached reached own⟩
                  (Member.move?_tokens reached sits.tokens own) named shift
                have decided : m.decision? = some .foreign := by
                  rw [named _ (Seat.fits ⟨next, _, []⟩), Member.decision?_named,
                    Member.decision?_submit own, Pool.offerBulk_foreign _ unknown]
                  rfl
                obtain ⟨e, enter, done⟩ := Option.bind_eq_some_iff.mp moved
                refine .inr ⟨_, _, ?_, after, ?_, ?_⟩
                · simp [World.step?, enter, token, given, done, decided,
                    World.recordToken_foreign]
                · intro r other
                  exact Function.update_of_ne other _ _
                · simp [here, alone?, foreign, own]

theorem Seated.create (seated : Seated w seats) (p : ι) (settings : PoolSettings) :
    Follows seats p (.create settings) (w.step? p (.create settings)) := by
  cases here : seats p with
  | some seat =>
      have present := (seated.sits p seat here).present _ seat.fits
      refine .inl ⟨by simp [World.step?, World.create, present], ?_⟩
      intro _
      simp [here, alone?]
  | none =>
      have absent := seated.absent p here
      cases valid : settings.validate with
      | error e =>
          refine .inr ⟨w, seats, ?_, seated, fun _ _ => rfl, ?_⟩
          · simp [World.step?, World.create, absent, valid]
          · simp [here, alone?, valid]
      | ok =>
          have older (q : ι) (b : Seat β ρ) (there : seats q = some b) :
              b.naming.id ≤ w.queuesMade := (seated.sits q b there).id.2
          cases obstacle : settings.obstacle? with
          | some reason =>
              refine .inr ⟨{ w with queuesMade := w.queuesMade + 1 }, seats, ?_, ?_,
                fun _ _ => rfl, ?_⟩
              · simp [World.step?, World.create, absent, valid, obstacle]
              · refine ⟨seated.absent, ?_, seated.apart⟩
                intro q b there
                have theirs := seated.sits q b there
                exact ⟨theirs.reached, theirs.tokens, theirs.present, theirs.linked, theirs.id.1,
                  Nat.le_succ_of_le theirs.id.2⟩
              · simp [here, alone?, valid, obstacle]
          | none =>
              let fresh : Seat β ρ := ⟨.start settings 1, ⟨fun _ => 0, w.queuesMade + 1⟩, []⟩
              have empty : fresh.opened = 0 := rfl
              refine .inr ⟨{ w with queuesMade := w.queuesMade + 1 }.set p
                (.start settings (w.queuesMade + 1)), Function.update seats p (some fresh), ?_, ?_,
                ?_, ?_⟩
              · simp [World.step?, World.create, absent, valid, obstacle]
              · apply seated.update
                · refine ⟨⟨settings, .start⟩, by simp [fresh, Member.start], ?_, ?_,
                    Nat.succ_pos _, Nat.le_refl _⟩
                  · intro n fits
                    have id : n.id = w.queuesMade + 1 := fits.id
                    simp [World.set, fresh, Member.start, Member.named, State.start, State.named,
                      Pool.start, Pool.named, Queue.named, Worker.named, Queue.consumer, id]
                  · refine ⟨?_, ?_, ?_⟩
                    · intro k known
                      exact absurd known (Nat.not_lt_zero k)
                    · intro j known
                      exact absurd known (Nat.not_lt_zero j)
                    · intro k known
                      exact absurd known (Nat.not_lt_zero k)
                · intro q other
                  exact Function.update_of_ne other _ _
                · intro q b _ there
                  exact (seated.sits q b there).linked
                · exact Nat.le_succ _
                · intro q b other there
                  have before := older q b there
                  refine ⟨?_, ?_⟩
                  · change w.queuesMade + 1 ≠ b.naming.id
                    omega
                  · intro j known
                    rw [empty] at known
                    exact absurd known (Nat.not_lt_zero j)
              · intro q other
                exact Function.update_of_ne other _ _
              · simp [here, alone?, valid, obstacle, fresh]

theorem Seated.step (seated : Seated w seats) (p : ι) (move : Move ι β ρ) :
    Follows seats p move (w.step? p move) := by
  cases move with
  | create settings => exact seated.create p settings
  | token | read | act => exact seated.plain p _ rfl fun _ => rfl
  | submit shown call =>
      cases shown with
      | none => exact seated.plain p _ rfl fun _ => rfl
      | some shown =>
          obtain ⟨q, k⟩ := shown
          by_cases own : q = p
          · subst own
            exact seated.submit_own q k call
          · exact seated.submit_foreign own k call

end WorkerPool.Pools
