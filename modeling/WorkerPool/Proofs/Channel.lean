import WorkerPool.Channel

namespace WorkerPool.Channels

variable {ρ : Type}

@[simp] theorem next_create (cs : Channels ρ) : cs.create.next = cs.next + 1 := by
  simp [create, next]

@[simp] theorem next_update (cs : Channels ρ) (c : Nat) (f : Slot ρ → Slot ρ) :
    (cs.update c f).next = cs.next := by
  simp [update, next]

@[simp] theorem next_settle (cs : Channels ρ) (c : Nat) (outcome : Except TaskFailure ρ) :
    (cs.settle c outcome).next = cs.next := next_update cs c _

@[simp] theorem next_read (cs : Channels ρ) (c : Nat) : (cs.read c).2.next = cs.next :=
  next_update cs c _

theorem slot_outside (cs : Channels ρ) {c : Nat} (outside : cs.next ≤ c) :
    cs.slot c = .abandoned := by
  have none : cs.slots[c]? = none := Array.getElem?_eq_none outside
  simp [slot, none]

theorem inside_of_slot (cs : Channels ρ) {c : Nat} (present : cs.slot c ≠ .abandoned) :
    c < cs.next :=
  Nat.lt_of_not_le fun outside => present (cs.slot_outside outside)

theorem slot_create (cs : Channels ρ) (c : Nat) :
    cs.create.slot c = if c = cs.next then .pending else cs.slot c := by
  simp only [slot, create, next, Array.getD_eq_getD_getElem?, Array.getElem?_push]
  by_cases last : c = cs.slots.size <;> simp [last]

theorem slot_update (cs : Channels ρ) (c d : Nat) (f : Slot ρ → Slot ρ)
    (inside : c < cs.next ∨ f .abandoned = .abandoned) :
    (cs.update c f).slot d = if d = c then f (cs.slot d) else cs.slot d := by
  simp only [slot, update, Array.getD_eq_getD_getElem?, Array.getElem?_modify]
  by_cases same : d = c
  · subst same
    rcases inside with inside | fixed
    · have here : d < cs.slots.size := inside
      simp [here]
    · cases cs.slots[d]? <;> simp [fixed]
  · simp [same, Ne.symm same]

theorem slot_settle (cs : Channels ρ) (c d : Nat) (outcome : Except TaskFailure ρ)
    (inside : c < cs.next) :
    (cs.settle c outcome).slot d = if d = c then .ready outcome else cs.slot d :=
  slot_update cs c d _ (.inl inside)

theorem slot_abandon (cs : Channels ρ) (c d : Nat) :
    (cs.abandon c).slot d = if d = c then (cs.slot d).abandon else cs.slot d :=
  slot_update cs c d _ (.inr rfl)

theorem slot_read (cs : Channels ρ) (c d : Nat) :
    (cs.read c).2.slot d = if d = c then (cs.slot d).read.2 else cs.slot d :=
  slot_update cs c d _ (.inr rfl)

theorem abandon_idem (slot : Slot ρ) : slot.abandon.abandon = slot.abandon := by
  cases slot <;> rfl

theorem isReady_of_settled {slot : Slot ρ} (settled : slot ≠ .pending) : slot.isReady = true := by
  cases slot with
  | pending => exact absurd rfl settled
  | ready | abandoned | taken => rfl

theorem abandon_settled {slot : Slot ρ} (settled : slot ≠ .pending) : slot.abandon = slot := by
  cases slot with
  | pending => exact absurd rfl settled
  | ready | abandoned | taken => rfl

theorem slot_foldl_abandon (cs : Channels ρ) (places : List Nat) (d : Nat) :
    (places.foldl abandon cs).slot d =
      if d ∈ places then (cs.slot d).abandon else cs.slot d := by
  induction places generalizing cs with
  | nil => simp
  | cons c rest ih =>
      rw [List.foldl_cons, ih, slot_abandon]
      by_cases here : d = c <;> by_cases later : d ∈ rest <;> simp [here, later, abandon_idem]

theorem next_foldl_abandon (cs : Channels ρ) (places : List Nat) :
    (places.foldl abandon cs).next = cs.next := by
  induction places generalizing cs with
  | nil => rfl
  | cons c rest ih => rw [List.foldl_cons, ih, abandon, next_update]

end WorkerPool.Channels
