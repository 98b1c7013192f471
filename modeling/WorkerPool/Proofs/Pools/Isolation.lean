import WorkerPool.Proofs.Pools.Seating

namespace WorkerPool.Pools

open Pool.Interleaving

variable {ι β ρ : Type}

def Alike (p : ι) (u v : World ι β ρ) : Prop :=
  (u.pools p = none ∧ v.pools p = none) ∨
    ∃ a b, Sits u p a ∧ Sits v p b ∧ a.alone = b.alone

/-- What a pool has told its callers, what it has run in which order, what its channels hold and
what it counts. -/
structure Shown (β ρ : Type) where
  answers : List (Except Rejection (Option Nat))
  reads : List (Option (Except TaskFailure ρ))
  order : List (Nat × Numbered β × Outcome ρ)
  outcomes : List (Slot ρ)
  stats : Stats

def World.shown (w : World ι β ρ) (p : ι) : Option (Shown β ρ) :=
  (w.pools p).map fun m => {
    answers := m.answers
    reads := m.reads
    order := m.state.ran.map fun run => (run.worker, run.task.body, run.outcome)
    outcomes := m.opened.map w.channels.slot
    stats := m.state.pool.stats }

theorem Sits.opened {w : World ι β ρ} {p : ι} {seat : Seat β ρ} (sits : Sits w p seat)
    {m : Member β ρ} (here : w.pools p = some m) :
    m.opened = (List.range seat.opened).map seat.naming.place := by
  obtain ⟨settings, reached⟩ := sits.reached
  cases here.symm.trans (sits.present _ seat.fits)
  rw [Member.opened_named, Member.opened_eq reached]
  rfl

theorem Sits.shown {w : World ι β ρ} {p : ι} {seat : Seat β ρ} (sits : Sits w p seat) :
    w.shown p = some {
      answers := seat.alone.answers
      reads := seat.alone.reads
      order := seat.alone.state.ran.map fun run => (run.worker, run.task.body, run.outcome)
      outcomes := (List.range seat.opened).map seat.alone.state.channels.slot
      stats := seat.alone.state.pool.stats } := by
  have here := sits.present _ seat.fits
  have slots : (List.range seat.opened).map (w.channels.slot ∘ seat.naming.place) =
      (List.range seat.opened).map seat.alone.state.channels.slot := by
    apply List.map_congr_left
    intro k member
    exact sits.linked.slots k (List.mem_range.mp member)
  simp only [World.shown, here, Option.map_some, sits.opened here, List.map_map, slots]
  simp [Member.named, State.named, Ran.named, Job.named, Pool.named, Function.comp_def]

theorem Alike.shown {p : ι} {u v : World ι β ρ} (alike : Alike p u v) : u.shown p = v.shown p := by
  rcases alike with ⟨left, right⟩ | ⟨a, b, left, right, same⟩
  · rw [World.shown, World.shown, left, right]
    rfl
  · rw [left.shown, right.shown, Seat.opened, Seat.opened, same]

variable [DecidableEq ι] {w u : World ι β ρ} {seats others : ι → Option (Seat β ρ)} {p q : ι}

omit [DecidableEq ι] in
theorem Seated.alike (left : Seated w seats) (right : Seated u others)
    (same : (seats p).map Seat.alone = (others p).map Seat.alone) : Alike p w u := by
  cases here : seats p with
  | none =>
      rw [here] at same
      exact .inl ⟨left.absent p here, right.absent p (Option.map_eq_none_iff.mp same.symm)⟩
  | some a =>
      rw [here] at same
      obtain ⟨b, there, alone⟩ := Option.map_eq_some_iff.mp same.symm
      exact .inr ⟨a, b, left.sits p a here, right.sits p b there, alone.symm⟩

omit [DecidableEq ι] in
theorem Seated.start : Seated ({} : World ι β ρ) fun _ => none where
  absent _ _ := rfl
  sits _ _ there := by cases there
  apart _ _ _ _ _ there := by cases there

theorem Seated.step_own (seated : Seated w seats) {move : Move ι β ρ} (own : move.own p)
    {next : Option (Member β ρ)}
    (alone : alone? p ((seats p).map Seat.alone) move = some next) :
    ∃ u seats', w.step? p move = some u ∧ Seated u seats' ∧ (∀ q, q ≠ p → seats' q = seats q) ∧
      (seats' p).map Seat.alone = next := by
  rcases seated.step p move with ⟨_, stuck⟩ | ⟨u, seats', moved, after, frame, same⟩
  · cases (stuck own).symm.trans alone
  · cases same.symm.trans alone
    exact ⟨u, seats', moved, after, frame, rfl⟩

theorem Seated.stuck (seated : Seated w seats) {move : Move ι β ρ}
    (alone : alone? p ((seats p).map Seat.alone) move = none) : w.step? p move = none := by
  rcases seated.step p move with ⟨missing, _⟩ | ⟨_, _, _, _, _, same⟩
  · exact missing
  · cases same.symm.trans alone

theorem Seated.frame (seated : Seated w seats) {move : Move ι β ρ} (moved : w.step? p move = some u)
    (other : q ≠ p) : u.pools q = w.pools q ∧
      ∀ m, w.pools q = some m → ∀ c ∈ m.opened, u.channels.slot c = w.channels.slot c := by
  rcases seated.step p move with ⟨missing, _⟩ | ⟨_, seats', result, after, frame, _⟩
  · cases missing.symm.trans moved
  · cases result.symm.trans moved
    cases there : seats q with
    | none =>
        have absent := seated.absent q there
        refine ⟨(after.absent q ((frame q other).trans there)).trans absent.symm, ?_⟩
        intro m present
        cases absent.symm.trans present
    | some seat =>
        have before := seated.sits q seat there
        have later := after.sits q seat ((frame q other).trans there)
        refine ⟨(later.present _ seat.fits).trans (before.present _ seat.fits).symm, ?_⟩
        intro m present c member
        rw [before.opened present, List.mem_map] at member
        obtain ⟨k, known, rfl⟩ := member
        have inside := List.mem_range.mp known
        rw [later.linked.slots k inside, before.linked.slots k inside]

theorem Seated.accepts_iff (seated : Seated w seats) {m owner : Member β ρ} {k : Nat}
    {t : ProducerToken} (here : w.pools p = some m) (there : w.pools q = some owner)
    (token : owner.tokens[k]? = some t) : m.state.pool.accepts (some t) = true ↔ q = p := by
  have seat (r : ι) (m : Member β ρ) (present : w.pools r = some m) :
      ∃ seat, seats r = some seat := by
    cases given : seats r with
    | none => cases (seated.absent r given).symm.trans present
    | some seat => exact ⟨seat, rfl⟩
  obtain ⟨a, ahere⟩ := seat p m here
  obtain ⟨b, bthere⟩ := seat q owner there
  cases here.symm.trans ((seated.sits p a ahere).present _ a.fits)
  cases there.symm.trans ((seated.sits q b bthere).present _ b.fits)
  have id : t.queueId = b.naming.id := by
    simp only [Member.named, List.getElem?_map, Option.map_eq_some_iff] at token
    obtain ⟨_, _, rfl⟩ := token
    rfl
  have accepted : (a.alone.named a.naming {} a.refused).state.pool.accepts (some t) = true ↔
      b.naming.id = a.naming.id := by
    simp [Pool.accepts, Queue.owns, Member.named, State.named, Pool.named, Queue.named, id]
  rw [accepted]
  constructor
  · intro same
    by_contra other
    exact (seated.apart q p b a other bthere ahere).id same
  · rintro rfl
    cases bthere.symm.trans ahere
    rfl

theorem Seated.commute (seated : Seated w seats) (other : p ≠ q) {a b : Move ι β ρ}
    (left : a.own p) (right : b.own q) :
    Option.Rel (fun x y => ∀ r, Alike r x y) ((w.step? p a).bind (·.step? q b))
      ((w.step? q b).bind (·.step? p a)) := by
  cases first : alone? p ((seats p).map Seat.alone) a with
  | none =>
      rw [seated.stuck first]
      rcases seated.step q b with ⟨missing, _⟩ | ⟨v, seats', moved, after, frame, _⟩
      · rw [missing]
        exact .none
      · rw [moved, Option.bind_some, after.stuck (by rwa [frame p other])]
        exact .none
  | some one =>
      obtain ⟨u, afterFirst, moved, seatedFirst, frameFirst, aloneFirst⟩ :=
        seated.step_own left first
      rw [moved, Option.bind_some]
      cases second : alone? q ((seats q).map Seat.alone) b with
      | none =>
          rw [seated.stuck second, seatedFirst.stuck (by rwa [frameFirst q other.symm])]
          exact .none
      | some two =>
          obtain ⟨v, afterSecond, turned, seatedSecond, frameSecond, aloneSecond⟩ :=
            seated.step_own right second
          rw [turned, Option.bind_some]
          rw [← frameFirst q other.symm] at second
          rw [← frameSecond p other] at first
          obtain ⟨x, both, xmoved, xseated, xframe, xalone⟩ := seatedFirst.step_own right second
          obtain ⟨y, also, ymoved, yseated, yframe, yalone⟩ := seatedSecond.step_own left first
          rw [xmoved, ymoved]
          refine .some ?_
          intro r
          apply xseated.alike yseated
          by_cases rp : r = p
          · rw [rp, xframe p other, aloneFirst, yalone]
          · rw [yframe r rp]
            by_cases rq : r = q
            · rw [rq, xalone, aloneSecond]
            · rw [xframe r rq, frameFirst r rp, frameSecond r rq]

theorem Seated.run (seated : Seated w seats) {moves : List (ι × Move ι β ρ)}
    (ran : w.run? moves = some u) : ∃ seats', Seated u seats' := by
  induction moves generalizing w seats with
  | nil =>
      cases ran
      exact ⟨seats, seated⟩
  | cons first rest ih =>
      obtain ⟨p, move⟩ := first
      simp only [World.run?] at ran
      rcases seated.step p move with ⟨missing, _⟩ | ⟨v, seats', moved, after, _⟩
      · rw [missing] at ran
        cases ran
      · rw [moved] at ran
        exact ih after ran

theorem Seated.run_alone {v : World ι β ρ} (seated : Seated w seats) (also : Seated v others)
    (same : (seats p).map Seat.alone = (others p).map Seat.alone) {moves : List (ι × Move ι β ρ)}
    (own : ∀ move, (p, move) ∈ moves → move.own p) (ran : w.run? moves = some u) :
    ∃ x, v.run? (moves.filter (·.1 = p)) = some x ∧ Alike p u x := by
  induction moves generalizing w v seats others with
  | nil =>
      cases ran
      exact ⟨v, rfl, seated.alike also same⟩
  | cons first rest ih =>
      obtain ⟨q, move⟩ := first
      simp only [World.run?] at ran
      have later : ∀ move, (p, move) ∈ rest → move.own p := fun move member =>
        own move (List.mem_cons_of_mem _ member)
      rcases seated.step q move with ⟨missing, _⟩ | ⟨next, seats', moved, after, frame, alone⟩
      · rw [missing] at ran
        cases ran
      · rw [moved] at ran
        by_cases mine : q = p
        · subst mine
          rw [same] at alone
          obtain ⟨x, others', xmoved, xseated, _, xalone⟩ :=
            also.step_own (own move List.mem_cons_self) alone
          simp only [decide_true, List.filter_cons_of_pos, World.run?, xmoved]
          exact ih after xseated xalone.symm later ran
        · -- The other world does without this move, which has left the pool where it was.
          rw [List.filter_cons_of_neg (by simpa using mine)]
          apply ih after also _ later ran
          rw [frame p (Ne.symm mine), same]

/-- After any moves of any pools no pool has had to do with another. -/
structure Isolated (moves : List (ι × Move ι β ρ)) (w : World ι β ρ) : Prop where
  frame : ∀ p q move u, q ≠ p → w.step? p move = some u → u.pools q = w.pools q ∧
    ∀ m, w.pools q = some m → ∀ c ∈ m.opened, u.channels.slot c = w.channels.slot c
  commute : ∀ p q a b, p ≠ q → a.own p → b.own q →
    Option.Rel (fun x y => ∀ r, Alike r x y ∧ x.shown r = y.shown r)
      ((w.step? p a).bind (·.step? q b)) ((w.step? q b).bind (·.step? p a))
  alone : ∀ p, (∀ move, (p, move) ∈ moves → move.own p) →
    ∃ u, ({} : World ι β ρ).run? (moves.filter (·.1 = p)) = some u ∧ Alike p w u ∧
      w.shown p = u.shown p
  tokens : ∀ p q (m owner : Member β ρ) (k : Nat) (t : ProducerToken), w.pools p = some m →
    w.pools q = some owner → owner.tokens[k]? = some t →
    (m.state.pool.accepts (some t) = true ↔ q = p)

theorem isolated_of_run {moves : List (ι × Move ι β ρ)}
    (ran : ({} : World ι β ρ).run? moves = some w) : Isolated moves w := by
  obtain ⟨seats, seated⟩ := Seated.start.run ran
  refine ⟨?_, ?_, ?_, ?_⟩
  · intro p q move u other moved
    exact seated.frame moved other
  · intro p q a b other left right
    have orders := seated.commute other left right
    revert orders
    generalize (w.step? p a).bind (·.step? q b) = x
    generalize (w.step? q b).bind (·.step? p a) = y
    intro orders
    cases orders with
    | none => exact .none
    | some alike => exact .some fun r => ⟨alike r, (alike r).shown⟩
  · intro p own
    obtain ⟨u, filtered, alike⟩ := Seated.start.run_alone Seated.start rfl own ran
    exact ⟨u, filtered, alike, alike.shown⟩
  · intro p q m owner k t here there token
    exact seated.accepts_iff here there token

def entangled : List (Bool × Move Bool Unit Nat) :=
  [(false, .create { workers := .fixed 1 }), (true, .create { workers := .fixed 1 }),
    (true, .token), (false, .submit none (.schedule ())),
    (true, .submit (some (true, 0)) (.schedule ())),
    (false, .submit (some (true, 0)) (.forget ())), (true, .act (.enter 0)),
    (false, .act .close), (true, .act (.fetch 0)), (true, .act (.begin 0)),
    (false, .act (.tally 1)), (true, .act (.finish 0 (.returned 7))), (true, .read 0)]

theorem isolated_entangled : ∃ w, ({} : World Bool Unit Nat).run? entangled = some w ∧
    w.queuesMade = 2 ∧ (w.shown false).map (·.stats.rejected) = some 1 ∧
    (∀ move, (true, move) ∈ entangled → move.own true) ∧ Isolated entangled w := by
  have facts : (({} : World Bool Unit Nat).run? entangled).map (fun w =>
      (w.queuesMade, (w.shown false).map (·.stats.rejected))) = some (2, some 1) := by
    decide +kernel
  obtain ⟨w, ran, told⟩ := Option.map_eq_some_iff.mp facts
  rw [Prod.mk.injEq] at told
  refine ⟨w, ran, told.1, told.2, ?_, isolated_of_run ran⟩
  intro move member
  simp only [entangled, List.mem_cons, Prod.mk.injEq, Bool.true_eq_false, false_and, false_or,
    true_and, List.not_mem_nil, or_false] at member
  rcases member with rfl | rfl | rfl | rfl | rfl | rfl | rfl | rfl <;> trivial

end WorkerPool.Pools
