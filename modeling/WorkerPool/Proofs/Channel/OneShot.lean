import Mathlib.Data.List.Forall2
import WorkerPool.Proofs.Channel.Pair

namespace WorkerPool.OneShot

variable {ρ : Type}

structure Pair.Open (p : Pair ρ) : Prop where
  pending : p.slot = .pending
  connected : p.connected = true
  held : p.writer ≠ .gone

structure Pair.Shut (p : Pair ρ) : Prop where
  ready : p.slot.isReady = true
  gone : p.writer = .gone

/-- What each act is answered as long as there is no outcome. -/
inductive Early : Act ρ → Answer ρ → Prop
  | begin : Early .begin .begun
  | isReady : Early .isReady (.ready false)
  | tryTake : Early .tryTake (.read none)
  | timeout : Early .timeout (.read none)
  | waitTimeout (bounded : Bool) : Early (.waitTimeout bounded) .asleep
  | wait : Early .wait .asleep
  | wake : Early .wake .asleep

/-- What each act is answered once there is one. -/
inductive Late : Act ρ → Answer ρ → Prop
  | isReady : Late .isReady (.ready true)
  | read (act : Act ρ) (reads : act.reads = true) (outcome : Except TaskFailure ρ) :
      Late act (.read (some outcome))

def Settlement.slot : Settlement ρ → Slot ρ
  | kept outcome => .ready outcome
  | broken => .abandoned

theorem Act.close_returned {act : Act ρ}
    (quiet : ∀ raises, act ≠ .complete (.threw (.loud raises))) : act.close = .returned := by
  cases act with
  | complete ending =>
      cases ending with
      | returned => rfl
      | threw thrown =>
          cases thrown with
          | quiet => rfl
          | loud raises => exact absurd rfl (quiet raises)
  | _ => rfl

theorem Act.close_caught (thrown : Thrown) :
    (Act.complete (.threw thrown) : Act ρ).close ≠ .raised thrown := by
  intro escapes
  cases dropped : thrown.dropped with
  | none => simp [Act.close, Ending.complete, dropped] at escapes
  | some raises =>
      have same : raises = thrown := by
        simpa [Act.close, Ending.complete, dropped] using escapes
      exact thrown.dropped_ne (same ▸ dropped)

theorem Pair.Open.spend {p q : Pair ρ} (opened : p.Open) {before : Writer} {how : Settlement ρ}
    {close answer : Answer ρ} (done : p.spend before how close = some (answer, q)) :
    answer = close ∧ q.slot = how.slot ∧ q.Shut := by
  unfold Pair.spend at done
  split at done
  · cases how with
    | kept outcome =>
        -- The destructor finds the promise settled and leaves the slot alone.
        simp only [settle, dropPromise, opened.connected, if_true, Bool.false_eq_true,
          if_false] at done
        cases done
        exact ⟨rfl, rfl, rfl, rfl⟩
    | broken =>
        simp only [dropPromise, opened.connected, opened.pending, if_true] at done
        cases done
        exact ⟨rfl, rfl, rfl, rfl⟩
  · cases done

theorem Pair.Open.look {p q : Pair ρ} (opened : p.Open) {after : Reader} {sleep : Option Wait}
    {answer : Answer ρ} (looked : p.look after sleep = (answer, q)) :
    answer = (if sleep.isSome then .asleep else .read none) ∧ q.Open := by
  obtain ⟨pending, connected, held⟩ := opened
  simp only [Pair.look, pending, Slot.read] at looked
  cases sleep <;> cases looked
  · exact ⟨rfl, rfl, connected, held⟩
  · exact ⟨rfl, rfl, connected, held⟩

theorem Pair.look_nothing {p q : Pair ρ} {after : Reader} {sleep : Option Wait}
    (looked : p.look after sleep = (.read none, q)) :
    sleep = none ∧ q = { p with reader := after } := by
  obtain ⟨slot, connected, writer, reader⟩ := p
  cases slot with
  | pending =>
      cases sleep <;> cases looked
      exact ⟨rfl, rfl⟩
  | ready | abandoned | taken => cases sleep <;> cases looked

theorem Pair.perform_nothing {p q : Pair ρ} {act : Act ρ}
    (done : p.perform act = some (.read none, q)) : q = { p with reader := .free } := by
  cases act with
  | fulfill | fail | drop =>
      simp only [Pair.perform, Pair.spend] at done
      split at done <;> cases done
  | complete ending =>
      simp only [Pair.perform, Pair.spend, Act.close] at done
      cases escaped : ending.complete.2 <;> simp only [escaped] at done <;>
        split at done <;> cases done
  | begin | isReady =>
      simp only [Pair.perform] at done
      split at done <;> cases done
  | tryTake | timeout =>
      simp only [Pair.perform] at done
      split at done
      · exact (look_nothing (Option.some.inj done)).2
      · cases done
  | waitTimeout | wait | wake =>
      simp only [Pair.perform] at done
      split at done
      · cases (look_nothing (Option.some.inj done)).1
      · cases done

theorem Pair.Open.perform {p q : Pair ρ} (opened : p.Open) {act : Act ρ} {answer : Answer ρ}
    (done : p.perform act = some (answer, q)) :
    (act.settles? = none ∧ Early act answer ∧ q.Open) ∨
      ∃ how, act.settles? = some how ∧ answer = act.close ∧ q.slot = how.slot ∧ q.Shut := by
  cases act with
  | fulfill | fail | complete | drop => exact .inr ⟨_, rfl, opened.spend done⟩
  | begin =>
      simp only [Pair.perform] at done
      split at done <;> cases done
      exact .inl ⟨rfl, .begin, opened.pending, opened.connected, by simp⟩
  | isReady =>
      simp only [Pair.perform, opened.pending] at done
      split at done <;> cases done
      exact .inl ⟨rfl, .isReady, opened⟩
  | tryTake | waitTimeout | wait | wake | timeout =>
      simp only [Pair.perform] at done
      split at done
      · obtain ⟨rfl, still⟩ := opened.look (Option.some.inj done)
        refine .inl ⟨rfl, ?_, still⟩
        constructor
      · cases done

def Reader.next? : Reader → Act ρ → Option Reader
  | free, .tryTake | free, .waitTimeout _ => some free
  | free, .wait => some gone
  | asleep wait, .wake => some wait.after
  | asleep .timed, .timeout => some free
  | _, _ => none

theorem Pair.look_of_ready {p : Pair ρ} (ready : p.slot.isReady = true) (after : Reader)
    (sleep : Option Wait) :
    p.look after sleep =
      (.read p.slot.read.1, { p with slot := p.slot.read.2, reader := after }) := by
  cases slot : p.slot with
  | pending => simp [slot, Slot.isReady] at ready
  | ready | abandoned | taken => simp [Pair.look, slot, Slot.read]

theorem Pair.Shut.perform_isReady {p : Pair ρ} (shut : p.Shut) :
    p.perform .isReady = if p.reader = .free then some (.ready true, p) else none := by
  rw [Pair.perform, shut.ready]

theorem Pair.Shut.perform {p : Pair ρ} (shut : p.Shut) {act : Act ρ} (reads : act ≠ .isReady) :
    p.perform act = (p.reader.next? act).map fun after =>
      (.read p.slot.read.1, { p with slot := p.slot.read.2, reader := after }) := by
  obtain ⟨ready, gone⟩ := shut
  cases act with
  | fulfill | fail | complete | drop =>
      simp [Pair.perform, Pair.spend, gone, Reader.next?]
  | begin => simp [Pair.perform, gone, Reader.next?]
  | isReady => exact absurd rfl reads
  | tryTake | waitTimeout | wait | wake | timeout =>
      simp only [Pair.perform, look_of_ready ready]
      cases reader : p.reader with
      | free | gone => simp [Reader.next?]
      | asleep wait => cases wait <;> simp [Reader.next?]

theorem Pair.Shut.late {p q : Pair ρ} (shut : p.Shut) {act : Act ρ} {answer : Answer ρ}
    (done : p.perform act = some (answer, q)) :
    (act = .isReady ∧ answer = .ready true ∧ q = p) ∨
      ∃ outcome after, p.slot.read.1 = some outcome ∧ p.reader.next? act = some after ∧
        answer = .read (some outcome) ∧ q = { p with slot := p.slot.read.2, reader := after } := by
  by_cases asks : act = .isReady
  · subst asks
    rw [shut.perform_isReady] at done
    split at done <;> cases done
    exact .inl ⟨rfl, rfl, rfl⟩
  · rw [shut.perform asks, Option.map_eq_some_iff] at done
    obtain ⟨after, next, same⟩ := done
    cases same
    obtain ⟨outcome, found⟩ := Option.isSome_iff_exists.mp (p.slot.read_isSome_iff.mpr shut.ready)
    exact .inr ⟨outcome, after, found, next, by rw [found], rfl⟩

theorem Pair.Shut.perform_of_next? {p : Pair ρ} (shut : p.Shut) {act : Act ρ} {after : Reader}
    (next : p.reader.next? act = some after) :
    ∃ outcome, p.slot.read.1 = some outcome ∧
      p.perform act = some (.read (some outcome),
        { p with slot := p.slot.read.2, reader := after }) := by
  obtain ⟨outcome, found⟩ := Option.isSome_iff_exists.mp (p.slot.read_isSome_iff.mpr shut.ready)
  have reads : act ≠ .isReady := by
    rintro rfl
    cases reader : p.reader <;> simp [reader, Reader.next?] at next
  exact ⟨outcome, found, by rw [shut.perform reads, next, Option.map_some, found]⟩

theorem Pair.Shut.stays {p q : Pair ρ} (shut : p.Shut) {act : Act ρ} {answer : Answer ρ}
    (done : p.perform act = some (answer, q)) : q.Shut := by
  rcases shut.late done with ⟨_, _, rfl⟩ | ⟨_, _, _, _, _, rfl⟩
  · exact shut
  · exact ⟨p.slot.isReady_read.trans shut.ready, shut.gone⟩

theorem Reader.reads_of_next? {reader after : Reader} {act : Act ρ}
    (next : reader.next? act = some after) : act.reads = true := by
  cases act <;> first | rfl | (cases reader <;> cases next)

theorem Act.settles?_of_reads {act : Act ρ} (reads : act.reads = true) : act.settles? = none := by
  cases act <;> first | rfl | cases reads

def Answer.given? : Answer ρ → Option (Except TaskFailure ρ)
  | read outcome => outcome
  | _ => none

theorem Act.given?_close (act : Act ρ) : act.close.given? = none := by
  cases act with
  | complete ending =>
      rw [Act.close]
      split <;> rfl
  | _ => rfl

theorem Early.given? {act : Act ρ} {answer : Answer ρ} (early : Early act answer) :
    answer.given? = none := by
  cases early <;> rfl

def given (log : List (Exchange ρ)) : List (Except TaskFailure ρ) :=
  log.filterMap fun e => e.answer.given?

/-- What so many reads of a slot give out. -/
def outcomes : Slot ρ → Nat → List (Except TaskFailure ρ)
  | .pending, _ => []
  | .ready outcome, n => (outcome :: List.replicate n (.error .alreadyRetrieved)).take n
  | .abandoned, n => List.replicate n (.error .abandoned)
  | .taken, n => List.replicate n (.error .alreadyRetrieved)

theorem outcomes_read {slot : Slot ρ} {outcome : Except TaskFailure ρ}
    (found : slot.read.1 = some outcome) (n : Nat) :
    outcomes slot (n + 1) = outcome :: outcomes slot.read.2 n := by
  cases slot <;> cases found
  · simp [outcomes, Slot.read]
  · rfl
  · rfl

theorem Run.late {p q : Pair ρ} {log : List (Exchange ρ)} (run : Run p log q) (shut : p.Shut) :
    q.Shut ∧ (∀ e ∈ log, e.act.settles? = none ∧ Late e.act e.answer) ∧
      given log = outcomes p.slot (given log).length := by
  induction run with
  | nil p =>
      have none : given ([] : List (Exchange ρ)) = outcomes p.slot 0 := by cases p.slot <;> rfl
      exact ⟨shut, by simp, none⟩
  | @cons p r q act answer rest first tail ih =>
      obtain ⟨last, answers, gives⟩ := ih (shut.stays first)
      rcases shut.late first with ⟨rfl, rfl, rfl⟩ | ⟨outcome, after, found, next, rfl, rfl⟩
      · refine ⟨last, List.forall_mem_cons.mpr ⟨⟨rfl, .isReady⟩, answers⟩, ?_⟩
        simpa [given, Answer.given?] using gives
      · have reads := Reader.reads_of_next? next
        refine ⟨last, List.forall_mem_cons.mpr
          ⟨⟨Act.settles?_of_reads reads, .read act reads outcome⟩, answers⟩, ?_⟩
        have now : given (⟨act, .read (some outcome)⟩ :: rest) = outcome :: given rest := rfl
        rw [now, List.length_cons, outcomes_read found, ← gives]

theorem Run.split {p q : Pair ρ} {front back : List (Exchange ρ)} (run : Run p (front ++ back) q) :
    ∃ r, Run p front r ∧ Run r back q := by
  induction front generalizing p with
  | nil => exact ⟨p, .nil p, run⟩
  | cons e rest ih =>
      cases run with
      | cons first tail =>
          obtain ⟨r, before, after⟩ := ih tail
          exact ⟨r, .cons first before, after⟩

theorem Run.append {p q r : Pair ρ} {front back : List (Exchange ρ)} (first : Run p front q)
    (second : Run q back r) : Run p (front ++ back) r := by
  induction first with
  | nil => exact second
  | cons step _ ih => exact .cons step (ih second)

theorem Run.early {p q : Pair ρ} {log : List (Exchange ρ)} (run : Run p log q) (opened : p.Open)
    (unsettled : ∀ e ∈ log, e.act.settles? = none) : q.Open ∧ ∀ e ∈ log, Early e.act e.answer := by
  induction run with
  | nil => exact ⟨opened, by simp⟩
  | cons first tail ih =>
      obtain ⟨now, later⟩ := List.forall_mem_cons.mp unsettled
      rcases opened.perform first with ⟨_, early, still⟩ | ⟨how, settles, _⟩
      · obtain ⟨last, answers⟩ := ih still later
        exact ⟨last, List.forall_mem_cons.mpr ⟨early, answers⟩⟩
      · cases now.symm.trans settles

theorem Run.unsettled {p q : Pair ρ} {before after : List (Exchange ρ)} {e : Exchange ρ}
    (run : Run p (before ++ e :: after) q) (opened : p.Open) {how : Settlement ρ}
    (settles : e.act.settles? = some how) : ∀ x ∈ before, x.act.settles? = none := by
  induction before generalizing p with
  | nil => simp
  | cons x rest ih =>
      cases run with
      | cons first tail =>
          rcases opened.perform first with ⟨none, _, still⟩ | ⟨_, _, _, _, shut⟩
          · exact List.forall_mem_cons.mpr ⟨none, ih tail still⟩
          · have none := ((tail.late shut).2.1 e (by simp)).1
            cases none.symm.trans settles

inductive Alike : Exchange ρ → Exchange ρ → Prop
  | same (e : Exchange ρ) (reads : e.answer.given? = none) : Alike e e
  | reads (act : Act ρ) (outcome other : Except TaskFailure ρ) :
      Alike ⟨act, .read (some outcome)⟩ ⟨act, .read (some other)⟩

theorem Run.twin {p q p' : Pair ρ} {log : List (Exchange ρ)} (run : Run p log q) (shut : p.Shut)
    (shut' : p'.Shut) (reader : p'.reader = p.reader) :
    ∃ log' q', Run p' log' q' ∧ List.Forall₂ Alike log log' := by
  -- Both readers stand at the same place all along; only what they find may differ.
  induction run generalizing p' with
  | nil => exact ⟨[], p', .nil p', .nil⟩
  | cons first tail ih =>
      rcases shut.late first with ⟨rfl, rfl, rfl⟩ | ⟨outcome, after, found, next, rfl, rfl⟩
      · have free : p'.perform .isReady = some (.ready true, p') := by
          rw [shut.perform_isReady] at first
          rw [shut'.perform_isReady, reader]
          split at first
          · next free => exact if_pos free
          · cases first
        obtain ⟨log', q', later, alike⟩ := ih shut shut' reader
        exact ⟨_, q', .cons free later, .cons (.same _ rfl) alike⟩
      · rw [← reader] at next
        obtain ⟨other, _, done⟩ := shut'.perform_of_next? next
        obtain ⟨log', q', later, alike⟩ :=
          ih (shut.stays first) (shut'.stays done) rfl
        exact ⟨_, q', .cons done later, .cons (.reads _ outcome other) alike⟩

theorem acts_of_alike {log log' : List (Exchange ρ)} (alike : List.Forall₂ Alike log log') :
    log'.map Exchange.act = log.map Exchange.act := by
  induction alike with
  | nil => rfl
  | cons first _ ih => cases first <;> simp [ih]

theorem given_length_of_alike {log log' : List (Exchange ρ)} (alike : List.Forall₂ Alike log log') :
    (given log').length = (given log).length := by
  induction alike with
  | nil => rfl
  | cons first _ ih =>
      cases first with
      | same e reads => simpa [given, reads] using ih
      | reads => simpa [given, Answer.given?] using ih

theorem eq_of_alike {log log' : List (Exchange ρ)} (alike : List.Forall₂ Alike log log')
    (same : given log' = given log) : log' = log := by
  induction alike with
  | nil => rfl
  | cons first _ ih =>
      cases first with
      | same e reads =>
          simp only [given, List.filterMap_cons, reads] at same
          rw [ih same]
      | reads act outcome other =>
          simp only [given, List.filterMap_cons, Answer.given?, List.cons.injEq] at same
          rw [same.1, ih same.2]

theorem given_take (log : List (Exchange ρ)) (k : Nat) :
    given (log.take k) = (given log).take (given (log.take k)).length := by
  have split : given log = given (log.take k) ++ given (log.drop k) := by
    rw [given, given, given, ← List.filterMap_append, List.take_append_drop]
  rw [split, List.take_left]

theorem take_eq_of_alike {log log' : List (Exchange ρ)} (alike : List.Forall₂ Alike log log')
    {k n : Nat} (few : (given (log.take k)).length ≤ n)
    (same : (given log').take n = (given log).take n) : log'.take k = log.take k := by
  have taken := List.forall₂_take k alike
  apply eq_of_alike taken
  have length := given_length_of_alike taken
  rw [given_take log', given_take log, length]
  have shorter := congrArg (List.take (given (log.take k)).length) same
  rwa [List.take_take, List.take_take, Nat.min_eq_left few] at shorter

inductive Likewise : Act ρ → Act ρ → Prop
  | drop : Likewise (.fail .abandoned) .drop
  | fail : Likewise .drop (.fail .abandoned)

theorem Likewise.perform {a b : Act ρ} (likewise : Likewise a b) {p q : Pair ρ}
    {answer : Answer ρ} (done : p.perform a = some (answer, q)) :
    ∃ q', p.perform b = some (.returned, q') ∧ q'.reader = q.reader := by
  cases likewise <;> cases connected : p.connected <;>
    simp only [Pair.perform, Pair.spend, Pair.settle, Pair.dropPromise, connected, if_true,
      Bool.false_eq_true, if_false] at done ⊢ <;>
    split at done <;> cases done <;> exact ⟨_, if_pos ‹_›, rfl⟩

theorem Likewise.outcomes {a b : Act ρ} (likewise : Likewise a b) {how other : Settlement ρ}
    (first : a.settles? = some how) (second : b.settles? = some other) (n : Nat) :
    (outcomes other.slot n).take 1 = (outcomes how.slot n).take 1 := by
  cases likewise <;> cases first <;> cases second <;> cases n <;>
    simp [OneShot.outcomes, Settlement.slot, List.replicate_succ]

/-- What a reader has learned once the promise was used up. -/
structure Settled (before : List (Exchange ρ)) (e : Exchange ρ) (how : Settlement ρ)
    (after : List (Exchange ρ)) (p : Pair ρ) : Prop where
  early : ∀ x ∈ before, x.act.settles? = none ∧ Early x.act x.answer
  returned : (∀ raises, e.act ≠ .complete (.threw (.loud raises))) → e.answer = .returned
  -- The panic of a function does not come out. What its payload raises as it is dropped does.
  caught : ∀ thrown, e.act = .complete (.threw thrown) → e.answer ≠ .raised thrown
  raised : ∀ raises, e.act = .complete (.threw (.loud raises)) → e.answer = .raised raises
  late : ∀ x ∈ after, x.act.settles? = none ∧ Late x.act x.answer
  given : given (before ++ e :: after) = outcomes how.slot (given after).length
  ready : p.slot.isReady = true
  answered : ∀ act next, p.reader.next? act = some next → ∃ outcome,
    p.perform act = some (.read (some outcome), { p with slot := p.slot.read.2, reader := next })

theorem Run.settled {p q : Pair ρ} {before after : List (Exchange ρ)} {e : Exchange ρ}
    {how : Settlement ρ} (run : Run p (before ++ e :: after) q) (opened : p.Open)
    (settles : e.act.settles? = some how) : Settled before e how after q := by
  have unsettled := run.unsettled opened settles
  obtain ⟨r, front, back⟩ := run.split
  obtain ⟨still, early⟩ := front.early opened unsettled
  cases back with
  | @cons _ u _ act answer _ first tail =>
      rcases still.perform first with ⟨none, _⟩ | ⟨how', settles', rfl, slot, shut⟩
      · cases none.symm.trans settles
      · cases settles.symm.trans settles'
        obtain ⟨last, late, gives⟩ := tail.late shut
        have nothing : OneShot.given before = [] :=
          List.filterMap_eq_nil_iff.mpr fun x member => (early x member).given?
        refine ⟨fun x member => ⟨unsettled x member, early x member⟩, Act.close_returned,
          fun thrown same => ?_, fun raises same => by cases same; rfl, late, ?_, last.ready, ?_⟩
        · cases same
          exact Act.close_caught thrown
        · rw [← slot, ← gives]
          rw [OneShot.given, List.filterMap_append, ← OneShot.given, nothing, List.nil_append]
          exact List.filterMap_cons_none act.given?_close
        · intro act next allowed
          obtain ⟨outcome, _, done⟩ := last.perform_of_next? allowed
          exact ⟨outcome, done⟩

theorem Run.likewise {p q : Pair ρ} {before after : List (Exchange ρ)} {a b : Act ρ}
    {answer : Answer ρ} (run : Run p (before ++ ⟨a, answer⟩ :: after) q) (opened : p.Open)
    (likewise : Likewise a b) :
    ∃ q' after', Run p (before ++ ⟨b, .returned⟩ :: after') q' ∧
      after'.map Exchange.act = after.map Exchange.act ∧
      ∀ k, (given (after.take k)).length ≤ 1 → after'.take k = after.take k := by
  obtain ⟨how, other, settles, settles'⟩ :
      ∃ how other, a.settles? = some how ∧ b.settles? = some other := by
    cases likewise <;> exact ⟨_, _, rfl, rfl⟩
  have unsettled := run.unsettled opened settles
  obtain ⟨r, front, back⟩ := run.split
  obtain ⟨still, _⟩ := front.early opened unsettled
  cases back with
  | @cons _ u _ _ _ _ first tail =>
      obtain ⟨u', first', reader⟩ := likewise.perform first
      rcases still.perform first with ⟨none, _⟩ | ⟨_, same, _, slot, shut⟩
      · cases none.symm.trans settles
      rcases still.perform first' with ⟨none, _⟩ | ⟨_, same', _, slot', shut'⟩
      · cases none.symm.trans settles'
      cases settles.symm.trans same
      cases settles'.symm.trans same'
      obtain ⟨after', q', tail', alike⟩ := tail.twin shut shut' reader
      refine ⟨q', after', front.append (.cons first' tail'), acts_of_alike alike, ?_⟩
      intro k few
      apply take_eq_of_alike alike few
      rw [(tail'.late shut').2.2, (tail.late shut).2.2, given_length_of_alike alike, slot, slot']
      exact likewise.outcomes settles settles' _

theorem start_open : ({} : Pair ρ).Open := ⟨rfl, rfl, by simp⟩

/-- Until a promise is used up its channel has nothing to give; then no read blocks, and an outcome
is given to the first read and to no other, while a broken promise is told to all. -/
theorem Run.one_shot {p : Pair ρ} {log : List (Exchange ρ)} (run : Run {} log p) :
    ((∀ e ∈ log, e.act.settles? = none) → p.slot = .pending ∧ ∀ e ∈ log, Early e.act e.answer) ∧
      (∀ before e after how, log = before ++ e :: after → e.act.settles? = some how →
        Settled before e how after p) ∧
      (∀ act q, p.perform act = some (.read none, q) → q = { p with reader := .free }) ∧
      ∀ before after a b answer, Likewise a b → log = before ++ ⟨a, answer⟩ :: after →
        ∃ q after', Run {} (before ++ ⟨b, .returned⟩ :: after') q ∧
          after'.map Exchange.act = after.map Exchange.act ∧
          ∀ k, (given (after.take k)).length ≤ 1 → after'.take k = after.take k := by
  refine ⟨?_, ?_, ?_, ?_⟩
  · intro unsettled
    obtain ⟨opened, early⟩ := run.early start_open unsettled
    exact ⟨opened.pending, early⟩
  · rintro before e after how rfl settles
    exact run.settled start_open settles
  · exact fun act q done => Pair.perform_nothing done
  · rintro before after a b answer likewise rfl
    exact run.likewise start_open likewise

def lateFailure : List (Exchange Nat) :=
  [⟨.isReady, .ready false⟩, ⟨.tryTake, .read none⟩, ⟨.waitTimeout true, .asleep⟩,
    ⟨.begin, .begun⟩, ⟨.timeout, .read none⟩, ⟨.waitTimeout false, .asleep⟩,
    ⟨.complete (.threw (.quiet (.text "late"))), .returned⟩,
    ⟨.wake, .read (some (.error (.panicked "late")))⟩, ⟨.isReady, .ready true⟩,
    ⟨.wait, .read (some (.error .alreadyRetrieved))⟩]

theorem lateFailure_run : ∃ p : Pair Nat, Run {} lateFailure p :=
  ⟨_, .cons rfl <| .cons rfl <| .cons rfl <| .cons rfl <| .cons rfl <| .cons rfl <| .cons rfl <|
    .cons rfl <| .cons rfl <| .cons rfl <| .nil _⟩

theorem one_shot_lateFailure : ∃ p : Pair Nat, Run {} lateFailure p ∧
    Settled (lateFailure.take 6) ⟨.complete (.threw (.quiet (.text "late"))), .returned⟩
      (.kept (.error (.panicked "late"))) (lateFailure.drop 7) p ∧
    given lateFailure = [.error (.panicked "late"), .error .alreadyRetrieved] := by
  obtain ⟨p, run⟩ := lateFailure_run
  exact ⟨p, run, run.one_shot.2.1 _ _ _ _ rfl rfl, rfl⟩

end WorkerPool.OneShot
