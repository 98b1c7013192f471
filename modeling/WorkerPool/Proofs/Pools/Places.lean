import WorkerPool.Proofs.Pool.Resolution
import WorkerPool.Proofs.Pools.Naming
import WorkerPool.Proofs.Pools.World

namespace WorkerPool.Pools

open Pool.Interleaving

variable {ι β ρ : Type} {n : Naming}

structure Linked (n : Naming) (cs ds : Channels ρ) : Prop where
  inside : ∀ k < ds.next, n.place k < cs.next
  injective : ∀ j < ds.next, ∀ k < ds.next, n.place j = n.place k → j = k
  slots : ∀ k < ds.next, cs.slot (n.place k) = ds.slot k

theorem Linked.congr {other : Naming} {cs ds : Channels ρ} (linked : Linked n cs ds)
    (same : ∀ k < ds.next, other.place k = n.place k) : Linked other cs ds where
  inside k known := by
    rw [same k known]
    exact linked.inside k known
  injective j jknown k kknown shared := by
    rw [same j jknown, same k kknown] at shared
    exact linked.injective j jknown k kknown shared
  slots k known := by
    rw [same k known]
    exact linked.slots k known

/-- While the pool's own channels go from `ds` to `es`, the common ones go from `cs` to `us`. -/
structure Shift (n : Naming) (ds es cs us : Channels ρ) : Prop where
  linked : Linked n us es
  grows : cs.next ≤ us.next
  more : ds.next ≤ es.next
  others : ∀ c < cs.next, (∀ k < ds.next, n.place k ≠ c) → us.slot c = cs.slot c
  fresh : ∀ k < es.next, ds.next ≤ k → cs.next ≤ n.place k

namespace Shift

variable {cs ds es us fs vs : Channels ρ}

theorem refl (linked : Linked n cs ds) : Shift n ds ds cs cs where
  linked := linked
  grows := Nat.le_refl _
  more := Nat.le_refl _
  others _ _ _ := rfl
  fresh _ inside beyond := absurd inside (Nat.not_lt_of_le beyond)

theorem trans (first : Shift n ds es cs us) (second : Shift n es fs us vs) :
    Shift n ds fs cs vs where
  linked := second.linked
  grows := Nat.le_trans first.grows second.grows
  more := Nat.le_trans first.more second.more
  others c known apart := by
    rw [second.others c (Nat.lt_of_lt_of_le known first.grows), first.others c known apart]
    intro k inside
    by_cases older : k < ds.next
    · exact apart k older
    · have later := first.fresh k inside (Nat.le_of_not_lt older)
      exact Nat.ne_of_gt (Nat.lt_of_lt_of_le known later)
  fresh k inside beyond := by
    by_cases between : k < es.next
    · exact first.fresh k between beyond
    · exact Nat.le_trans first.grows (second.fresh k inside (Nat.le_of_not_lt between))

theorem update (linked : Linked n cs ds) {k : Nat} (inside : k < ds.next)
    (f : Slot ρ → Slot ρ) : Shift n ds (ds.update k f) cs (cs.update (n.place k) f) where
  linked := by
    refine ⟨?_, ?_, ?_⟩
    · simpa using linked.inside
    · simpa using linked.injective
    · intro j known
      rw [Channels.next_update] at known
      rw [cs.slot_update _ _ f (.inl (linked.inside k inside)), ds.slot_update _ _ f (.inl inside),
        linked.slots j known]
      by_cases same : j = k
      · simp [same]
      · have apart : n.place j ≠ n.place k := fun shared =>
          same (linked.injective j known k inside shared)
        simp [same, apart]
  grows := by simp
  more := by simp
  others c _ apart := by
    rw [cs.slot_update _ _ f (.inl (linked.inside k inside)), if_neg (apart k inside).symm]
  fresh j known beyond := by
    rw [Channels.next_update] at known
    exact absurd known (Nat.not_lt_of_le beyond)

theorem abandonAll (linked : Linked n cs ds) (places : List Nat)
    (inside : ∀ k ∈ places, k < ds.next) :
    Shift n ds (places.foldl Channels.abandon ds) cs
      ((places.map n.place).foldl Channels.abandon cs) := by
  induction places generalizing cs ds with
  | nil => exact refl linked
  | cons k rest ih =>
      rw [List.forall_mem_cons] at inside
      have first := update linked inside.1 Slot.abandon
      apply first.trans
      apply ih first.linked
      intro j member
      rw [Channels.next_update]
      exact inside.2 j member

theorem create (linked : Linked n cs ds) (next : n.place ds.next = cs.next) :
    Shift n ds ds.create cs cs.create where
  linked := by
    have older (k : Nat) (known : k < ds.create.next) (other : k ≠ ds.next) : k < ds.next := by
      rw [Channels.next_create] at known
      omega
    refine ⟨?_, ?_, ?_⟩
    · intro k known
      rw [Channels.next_create]
      by_cases last : k = ds.next
      · rw [last, next]
        exact Nat.lt_succ_self _
      · exact Nat.lt_succ_of_lt (linked.inside k (older k known last))
    · intro j jknown k kknown same
      by_cases jlast : j = ds.next <;> by_cases klast : k = ds.next
      · rw [jlast, klast]
      · have before := linked.inside k (older k kknown klast)
        rw [jlast, next] at same
        omega
      · have before := linked.inside j (older j jknown jlast)
        rw [klast, next] at same
        omega
      · exact linked.injective j (older j jknown jlast) k (older k kknown klast) same
    · intro k known
      rw [cs.slot_create, ds.slot_create]
      by_cases last : k = ds.next
      · simp [last, next]
      · have before := linked.inside k (older k known last)
        rw [if_neg last, if_neg (Nat.ne_of_lt before), linked.slots k (older k known last)]
  grows := by simp
  more := by simp
  others c known _ := by rw [cs.slot_create, if_neg (Nat.ne_of_lt known)]
  fresh k known beyond := by
    rw [Channels.next_create] at known
    have last : k = ds.next := by omega
    exact Nat.le_of_eq (last ▸ next.symm)

theorem openChannel (linked : Linked n cs ds) (call : Submission β)
    (next : ds.next < (call.openChannel ds).next → n.place ds.next = cs.next) :
    Shift n ds (call.openChannel ds) cs (call.openChannel cs) := by
  cases call with
  | schedule body => exact create linked (next (by simp [Submission.openChannel]))
  | forget body | bulk bodies => exact refl linked

end Shift

section

variable {settings : PoolSettings} {queueId : Nat} {s t : State β ρ} {cs : Channels ρ}

theorem shift_step (reached : Reachable settings queueId s)
    (refused : List (List (Job (Numbered β)))) (linked : Linked n cs s.channels)
    {a : Action β ρ} (step : Step s a t) (own : plain a = true) :
    Shift n s.channels t.channels cs ((s.named n cs refused).channelsAfter a) := by
  have inside (task : Job (Numbered β)) (member : task ∈ s.ledger.unsettled) (c : Nat)
      (channel : task.channel = some c) : c < s.channels.next :=
    reached.owned.inside_of_unsettled member channel
  cases step with
  | offer | read => cases own
  | finish i w task outcome here current post =>
      have there : s.pool.current? i = some task := by rw [s.pool.current?_eq here, current]
      have renamed : (s.pool.named n).current? i = some (task.named n) := by
        rw [Pool.current?_named, there, Option.map_some]
      change Shift n s.channels (s.pool.settleTask i outcome s.channels) cs
        ((s.pool.named n).settleTask i outcome cs)
      rw [settleTask_eq _ there, settleTask_eq _ renamed]
      cases channel : task.channel with
      | none =>
          simp only [keepPromise, Job.named, channel]
          exact Shift.refl linked
      | some c =>
          have known := inside task (s.unsettled_of_busy here current post) c channel
          simp only [keepPromise, Job.named, channel]
          exact Shift.update linked known (·.settle outcome.result)
  | dropLeftovers k leftovers counted =>
      have taken : (s.named n cs refused).joining[k]? =
          some ⟨leftovers.map (Job.named n), true⟩ := by
        have mapped : (s.named n cs refused).joining[k]? = s.joining[k]?.map (Leaving.named n) :=
          List.getElem?_map
        rw [mapped, counted]
        rfl
      have places : (leftovers.map (Job.named n)).filterMap Job.channel =
          (leftovers.filterMap Job.channel).map n.place := by
        rw [List.filterMap_map, List.map_filterMap]
        rfl
      simp only [State.dropLeftovers, State.channelsAfter, taken, Option.map_some,
        Option.getD_some, Pool.dropTasks, places]
      apply Shift.abandonAll linked
      intro c member
      obtain ⟨task, held, channel⟩ := List.mem_filterMap.mp member
      apply inside task _ c channel
      rw [Ledger.mem_unsettled]
      have leaving : leftovers ∈ s.ledger.leaving :=
        List.mem_map.mpr ⟨_, List.mem_of_getElem? counted, rfl⟩
      exact .inr (.inl ⟨leftovers, leaving, held⟩)
  | _ => exact Shift.refl linked

end

namespace Member

variable (n) (cs : Channels ρ) (refused : List (List (Job (Numbered β)))) (m : Member β ρ)

def named : Member β ρ :=
  { m with
    state := m.state.named n cs refused
    tokens := m.tokens.map (ProducerToken.named n) }

theorem told_named (s : State β ρ) (a : Action β ρ) : told (s.named n cs refused) a = told s a := by
  cases a with
  | tally k =>
      have pending : (s.named n cs refused).decided[k]? = s.decided[k]?.map (Decided.named n) :=
        List.getElem?_map
      simp only [told, pending]
      rcases s.decided[k]? with _ | ⟨tasks, event, decision⟩
      · rfl
      · rcases decision with token | ⟨_ | _⟩ | _
        · cases token <;> rfl
        · rfl
        · rfl
        · rfl
  | _ => rfl

theorem act_named (a : Action β ρ) (own : plain a = true) :
    (m.named n cs refused).act a =
      (m.act a).map (named n ((m.state.named n cs refused).channelsAfter a) refused) := by
  have stepped := m.state.step?_named n cs refused a (by
    constructor
    · rintro _ _ rfl
      cases own
    · rintro _ rfl
      cases own)
  have nothing (s : State β ρ) : got s a = [] := by cases a <;> first | rfl | cases own
  have heard := told_named n cs refused m.state a
  simp only [act, named, stepped, nothing, heard, Option.map_map]
  rfl

theorem opened_named : (m.named n cs refused).opened = m.opened.map n.place := by
  simp only [opened, named, State.named, ← List.map_flatten, List.filterMap_map, List.map_filterMap]
  rfl

theorem decision?_named :
    (m.named n cs refused).decision? = m.decision?.map (Pool.Decision.named n) := by
  simp [decision?, named, State.named, Decided.named, Function.comp_def]

theorem recordToken_named (k : Nat) (decision : Option Pool.Decision) :
    (m.named n cs refused).recordToken k (decision.map (Pool.Decision.named n)) =
      (m.recordToken k decision).named n cs refused := by
  rcases decision with _ | ⟨_ | t⟩ | _ | _
  · rfl
  · rfl
  · simp [recordToken, named, Pool.Decision.named, List.map_set]
  · rfl
  · rfl

variable {n cs m} {settings : PoolSettings} {queueId : Nat}

theorem opened_eq (reached : Reachable settings queueId m.state) :
    m.opened = List.range m.state.channels.next := reached.channels_eq

/-- The same move under other names, with the token that is the same there: neither can be made, or
both can, and come to the same. -/
theorem move?_named (reached : Reachable settings queueId m.state)
    (linked : Linked n cs m.state.channels) {token other : Option ProducerToken}
    (presented : Pool.Presented n m.state.pool token other) (move : Move ι β ρ)
    (opens : ∀ next, m.move? token move = some next →
      m.state.channels.next < next.state.channels.next → n.place m.state.channels.next = cs.next) :
    (m.move? token move = none ∧ (m.named n cs refused).move? other move = none) ∨
      ∃ next us unheard, m.move? token move = some next ∧
        (m.named n cs refused).move? other move = some (next.named n us unheard) ∧
        Shift n m.state.channels next.state.channels cs us := by
  cases move with
  | create settings => exact .inl ⟨rfl, rfl⟩
  | token =>
      refine .inr ⟨_, cs, refused, rfl, ?_, Shift.refl linked⟩
      simp [move?, named, State.named, Pool.named, Queue.named, Queue.producer, ProducerToken.named]
  | submit reference call =>
      have opened := opens _ rfl
      obtain ⟨us, unheard, offered, channels⟩ :=
        State.offer_named n cs refused presented call opened
      refine .inr ⟨_, us, unheard, rfl, ?_, ?_⟩
      · simp [move?, act, State.step?, named, offered, told, got]
      · change Shift n m.state.channels (m.state.offer token call).channels cs us
        rcases channels with ⟨own, common⟩ | ⟨own, common⟩
        · rw [own, common]
          apply Shift.openChannel linked
          rw [← own]
          exact opened
        · rw [own, common]
          exact Shift.refl linked
  | read k =>
      simp only [move?, opened_named, List.getElem?_map]
      rw [opened_eq reached]
      by_cases known : k < m.state.channels.next
      · rw [List.getElem?_range known]
        have slot := linked.slots k known
        have given : (cs.read (n.place k)).1 = (m.state.channels.read k).1 := by
          simp only [Channels.read, slot]
        have stepped := m.state.read_named n cs refused slot
        refine .inr ⟨_, (cs.read (n.place k)).2, refused, rfl, ?_, ?_⟩
        · simp only [Option.map_some, act, State.step?, named, stepped, got, told]
          simp only [State.named, State.channelsAfter, given]
        · change Shift n m.state.channels (m.state.channels.read k).2 cs (cs.read (n.place k)).2
          simp only [Channels.read, slot]
          exact Shift.update linked known fun slot => slot.read.2
      · rw [List.getElem?_eq_none (by simpa using known)]
        exact .inl ⟨rfl, rfl⟩
  | act a =>
      cases own : plain a with
      | false => exact .inl ⟨by simp [move?, own], by simp [move?, own]⟩
      | true =>
          have acted := act_named n cs refused m a own
          simp only [move?, own, if_true, acted]
          cases result : m.act a with
          | none => exact .inl ⟨rfl, rfl⟩
          | some next =>
              obtain ⟨t, taken, rfl⟩ := Option.map_eq_some_iff.mp result
              exact .inr ⟨_, _, _, rfl, rfl,
                shift_step reached refused linked (Step.of_step? taken) own⟩

end Member

end WorkerPool.Pools
