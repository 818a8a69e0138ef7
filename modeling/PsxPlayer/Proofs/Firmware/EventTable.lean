import Mathlib.Data.List.Perm.Subperm
import PsxPlayer.Firmware.Event
import PsxPlayer.Proofs.Cpu.System

namespace PsxPlayer

/-!
# The event table

A handle names a slot, and an open event is found by its handle.  What the firmware does
to its table is a write to one slot, which leaves all other handles alone, or a delivery,
which reaches every open event alike.
-/

/-- The event after a delivery, in the mode in which it is marked ready. -/
def Event.receive
    (event : Event)
    (eventClass specification : UInt32) :
    Event :=
  if event.receives eventClass specification then
    { event with status := .ready }
  else
    event

namespace EventTable

/-! ## Handles -/

/-- A handle has its tag above its slot. -/
theorem handle_parts :
    ∀ slot,
      slot < capacity →
      (handle slot &&& 0xFFFF).toNat = slot ∧ handle slot &&& 0xFFFF0000 = handleTag := by
  decide

/-- Slots have handles of their own. -/
theorem handle_inj
    {first second : Nat}
    (firstBelow : first < capacity)
    (secondBelow : second < capacity)
    (same : handle first = handle second) :
    first = second := by
  rw [← (handle_parts first firstBelow).1, same, (handle_parts second secondBelow).1]

/-- A word with the tag is the handle of the slot below it. -/
theorem eq_handle
    {word : UInt32}
    (tagged : word &&& 0xFFFF0000 = handleTag) :
    word = handle (word &&& 0xFFFF).toNat := by
  have parts : word &&& 0xFFFF0000 ||| word &&& 0xFFFF = word := by
    rw [UInt32.and_comm word, UInt32.and_comm word, ← word_or_and, UInt32.and_comm]
    exact UInt32.and_neg_one
  rw [handle, UInt32.ofNat_toNat, ← tagged, parts]

/-! ## Finding an event -/

/-- The open event with a handle. -/
def find?
    (table : EventTable)
    (handle : UInt32) :
    Option Event :=
  (table.slotOf? handle).bind table.get?

section

variable {table : EventTable}

/-- Every slot in use lies below the capacity. -/
theorem get?_lt
    {slot : Nat}
    {event : Event}
    (bounded : table.slots.length ≤ capacity)
    (found : table.get? slot = some event) :
    slot < capacity :=
  Nat.lt_of_lt_of_le (List.getElem?_eq_some_iff.mp found).1 bounded

/-- A word names a slot if it is its handle and the slot is in use. -/
theorem slotOf?_eq_some_iff
    (bounded : table.slots.length ≤ capacity)
    (word : UInt32)
    (slot : Nat) :
    table.slotOf? word = some slot ↔
      word = handle slot ∧
        ∃ event, table.get? slot = some event ∧ event.status ≠ .unused := by
  simp only [slotOf?]
  constructor
  · intro found
    split at found
    · next tagged =>
        split at found
        · next event held =>
            split at found
            · cases found
            · next isUsed =>
                cases found
                exact ⟨eq_handle tagged, event, held, isUsed⟩
        · cases found
    · cases found
  · rintro ⟨rfl, event, held, isUsed⟩
    obtain ⟨low, tag⟩ := handle_parts slot (get?_lt bounded held)
    simp only [tag, low, held, ↓reduceIte, if_neg isUsed]

/-- A word names an event if it is the handle of its slot and the slot is in use. -/
theorem find?_eq_some_iff
    (bounded : table.slots.length ≤ capacity)
    (word : UInt32)
    (event : Event) :
    table.find? word = some event ↔
      ∃ slot,
        word = handle slot ∧ table.get? slot = some event ∧ event.status ≠ .unused := by
  unfold find?
  constructor
  · intro found
    obtain ⟨slot, isSlot, held⟩ := Option.bind_eq_some_iff.mp found
    obtain ⟨isHandle, other, sameHeld, isUsed⟩ := (slotOf?_eq_some_iff bounded _ _).mp isSlot
    obtain rfl : event = other := Option.some.inj (held.symm.trans sameHeld)
    exact ⟨slot, isHandle, held, isUsed⟩
  · rintro ⟨slot, isHandle, held, isUsed⟩
    have isSlot := (slotOf?_eq_some_iff bounded word slot).mpr ⟨isHandle, event, held, isUsed⟩
    exact Option.bind_eq_some_iff.mpr ⟨slot, isSlot, held⟩

/-- An event in use is found by the handle of its slot. -/
theorem find?_handle
    (bounded : table.slots.length ≤ capacity)
    {slot : Nat}
    {event : Event}
    (held : table.get? slot = some event)
    (isUsed : event.status ≠ .unused) :
    table.find? (handle slot) = some event :=
  (find?_eq_some_iff bounded _ _).mpr ⟨slot, rfl, held, isUsed⟩

end

/-! ## Writing to one slot -/

/-- One slot gets an event, and the others keep theirs. -/
structure Writes
    (slot : Nat)
    (event : Event)
    (before after : EventTable) :
    Prop where
  bounded : before.slots.length ≤ capacity
  stillBounded : after.slots.length ≤ capacity
  here : after.get? slot = some event
  elsewhere : ∀ other, other ≠ slot → after.get? other = before.get? other

namespace Writes

variable {slot : Nat} {event : Event} {before after : EventTable}

/-- What has been written to a slot is found by its handle, if it is in use. -/
theorem find?_self
    (writes : Writes slot event before after) :
    after.find? (handle slot) = if event.status = .unused then none else some event := by
  split
  · next isUnused =>
      refine Option.eq_none_iff_forall_ne_some.mpr fun found isFound => ?_
      obtain ⟨other, isHandle, held, isUsed⟩ :=
        (find?_eq_some_iff writes.stillBounded _ _).mp isFound
      obtain rfl : slot = other :=
        handle_inj (get?_lt writes.stillBounded writes.here)
          (get?_lt writes.stillBounded held) isHandle
      have same : event = found := Option.some.inj (writes.here.symm.trans held)
      exact isUsed (same ▸ isUnused)
  · next isUsed => exact EventTable.find?_handle writes.stillBounded writes.here isUsed

/-- What has been written to a slot changes nothing for the other handles. -/
theorem find?_of_ne
    (writes : Writes slot event before after)
    {word : UInt32}
    (apart : word ≠ handle slot) :
    after.find? word = before.find? word := by
  refine Option.ext fun found => ?_
  rw [find?_eq_some_iff writes.stillBounded, find?_eq_some_iff writes.bounded]
  have elsewhere {other : Nat} (isHandle : word = handle other) :
      after.get? other = before.get? other :=
    writes.elsewhere other fun same => apart (same ▸ isHandle)
  constructor
  · rintro ⟨other, isHandle, held, isUsed⟩
    exact ⟨other, isHandle, (elsewhere isHandle).symm.trans held, isUsed⟩
  · rintro ⟨other, isHandle, held, isUsed⟩
    exact ⟨other, isHandle, (elsewhere isHandle).trans held, isUsed⟩

/-- What held of every event and holds of the new one holds afterwards. -/
theorem forall_mem
    (writes : Writes slot event before after)
    {property : Event → Prop}
    (held : ∀ event ∈ before.slots, property event)
    (new : property event) :
    ∀ event ∈ after.slots, property event := by
  intro found member
  obtain ⟨other, at_⟩ := List.mem_iff_getElem?.mp member
  by_cases same : other = slot
  · subst same
    have isNew : event = found := Option.some.inj (writes.here.symm.trans at_)
    exact isNew ▸ new
  · exact held found (List.mem_of_getElem? ((writes.elsewhere other same).symm.trans at_))

end Writes

section

variable {table : EventTable} {word : UInt32} {event : Event}

/-- The event of a known handle is in the handle's slot, where its status can be written. -/
theorem exists_slot
    (bounded : table.slots.length ≤ capacity)
    (found : table.find? word = some event)
    (status : EventStatus) :
    ∃ slot,
      word = handle slot ∧
        table.slotOf? word = some slot ∧
        table.get? slot = some event ∧
        Writes slot { event with status := status } table (table.setStatus slot status) := by
  obtain ⟨slot, isHandle, held, isUsed⟩ := (find?_eq_some_iff bounded _ _).mp found
  refine
    ⟨slot, isHandle, (slotOf?_eq_some_iff bounded _ _).mpr ⟨isHandle, event, held, isUsed⟩,
      held, ?_⟩
  refine ⟨bounded, ?_, ?_, fun other apart => ?_⟩
  · rwa [setStatus, List.length_modify]
  · have held : table.slots[slot]? = some event := held
    simp [get?, setStatus, held]
  · simp [get?, setStatus, Ne.symm apart]

/-- A word that names no event names no slot. -/
theorem slotOf?_eq_none
    (bounded : table.slots.length ≤ capacity)
    (unknown : table.find? word = none) :
    table.slotOf? word = none := by
  refine Option.eq_none_iff_forall_ne_some.mpr fun slot isSlot => ?_
  obtain ⟨isHandle, event, held, isUsed⟩ := (slotOf?_eq_some_iff bounded _ _).mp isSlot
  rw [isHandle, find?_handle bounded held isUsed] at unknown
  cases unknown

/-! ## Closing, enabling, disabling and testing -/

/-- Changing the status of an event writes its slot. -/
theorem update?_of_found
    (bounded : table.slots.length ≤ capacity)
    (found : table.find? word = some event)
    (status : EventStatus) :
    ∃ slot after,
      word = handle slot ∧
        table.update? word status = some after ∧
        Writes slot { event with status := status } table after := by
  obtain ⟨slot, isHandle, isSlot, -, writes⟩ := exists_slot bounded found status
  exact ⟨slot, _, isHandle, by rw [update?, isSlot, Option.map_some], writes⟩

/-- No event is changed by a word that names none. -/
theorem update?_of_unknown
    (bounded : table.slots.length ≤ capacity)
    (unknown : table.find? word = none)
    (status : EventStatus) :
    table.update? word status = none := by
  rw [update?, slotOf?_eq_none bounded unknown, Option.map_none]

/-- Testing an event that is ready says so and makes it active again. -/
theorem test_of_ready
    (bounded : table.slots.length ≤ capacity)
    (found : table.find? word = some event)
    (isReady : event.status = .ready) :
    ∃ slot after,
      word = handle slot ∧
        table.test word = (true, after) ∧
        Writes slot { event with status := .active } table after := by
  obtain ⟨slot, isHandle, isSlot, held, writes⟩ := exists_slot bounded found .active
  refine ⟨slot, _, isHandle, ?_, writes⟩
  simp only [test, isSlot, held, isReady, ↓reduceIte]

/-- Testing any other event says no and changes nothing. -/
theorem test_of_not_ready
    (bounded : table.slots.length ≤ capacity)
    (notReady : ∀ event, table.find? word = some event → event.status ≠ .ready) :
    table.test word = (false, table) := by
  cases found : table.find? word with
  | none => rw [test, slotOf?_eq_none bounded found]
  | some event =>
      obtain ⟨slot, -, isSlot, held, -⟩ := exists_slot bounded found .active
      simp only [test, isSlot, held, if_neg (notReady event found)]

/-! ## Opening -/

/-- The slot that a new event is given was not in use. -/
theorem findIdx?_isUnused
    {slot : Nat}
    (first : (table.slots.findIdx? fun event => event.status == .unused) = some slot) :
    ∃ old, table.get? slot = some old ∧ old.status = .unused := by
  obtain ⟨inside, isUnused, -⟩ := List.findIdx?_eq_some_iff_getElem.mp first
  exact ⟨_, List.getElem?_eq_getElem inside, eq_of_beq isUnused⟩

/-- Setting a slot writes this slot alone. -/
theorem writes_set
    (bounded : table.slots.length ≤ capacity)
    {slot : Nat}
    (inside : slot < table.slots.length)
    (event : Event) :
    Writes slot event table ⟨table.slots.set slot event⟩ where
  bounded := bounded
  stillBounded := by rwa [List.length_set]
  here := List.getElem?_set_self inside
  elsewhere _ apart := List.getElem?_set_ne apart.symm

/-- A slot at the end is written behind the others. -/
theorem writes_append
    (room : table.slots.length < capacity)
    (event : Event) :
    Writes table.slots.length event table ⟨table.slots ++ [event]⟩ where
  bounded := Nat.le_of_lt room
  stillBounded := by rwa [List.length_append]
  here := List.getElem?_concat_length
  elsewhere other apart := by
    rcases Nat.lt_or_gt_of_ne apart with below | above
    · exact List.getElem?_append_left below
    · have beyond : (table.slots ++ [event]).length ≤ other := by rwa [List.length_append]
      exact (List.getElem?_eq_none beyond).trans
        (List.getElem?_eq_none (Nat.le_of_lt above)).symm

/-- The handle of a slot that is not in use names nothing. -/
theorem find?_of_unused
    (bounded : table.slots.length ≤ capacity)
    {slot : Nat}
    (below : slot < capacity)
    (isUnused : ∀ old, table.get? slot = some old → old.status = .unused) :
    table.find? (handle slot) = none := by
  refine Option.eq_none_iff_forall_ne_some.mpr fun old found => ?_
  obtain ⟨other, isHandle, held, isUsed⟩ := (find?_eq_some_iff bounded _ _).mp found
  obtain rfl := handle_inj below (get?_lt bounded held) isHandle
  exact isUsed (isUnused old held)

/-- The first slot that is not in use gets the new event, unless all are. -/
theorem open?_cases
    (bounded : table.slots.length ≤ capacity)
    (event : Event) :
    (∃ slot after,
      table.open? event = some (handle slot, after) ∧
        slot < capacity ∧
        table.find? (handle slot) = none ∧
        Writes slot event table after) ∨
      table.open? event = none ∧
        ∀ slot, slot < capacity → ∃ other, table.find? (handle slot) = some other := by
  cases first : table.slots.findIdx? fun event => event.status == .unused with
  | some slot =>
      obtain ⟨old, held, isUnused⟩ := findIdx?_isUnused first
      have inside : slot < table.slots.length := (List.getElem?_eq_some_iff.mp held).1
      refine
        .inl ⟨slot, _, by simp only [open?, first], get?_lt bounded held, ?_,
          writes_set bounded inside event⟩
      refine find?_of_unused bounded (get?_lt bounded held) fun other same => ?_
      exact Option.some.inj (held.symm.trans same) ▸ isUnused
  | none =>
      by_cases room : table.slots.length < capacity
      · refine
          .inl ⟨table.slots.length, _, by simp only [open?, first, if_pos room], room, ?_,
            writes_append room event⟩
        refine find?_of_unused bounded room fun other held => ?_
        have beyond : table.get? table.slots.length = none :=
          List.getElem?_eq_none (Nat.le_refl _)
        exact nomatch beyond.symm.trans held
      · refine .inr ⟨by simp only [open?, first, if_neg room], fun slot below => ?_⟩
        have inside : slot < table.slots.length :=
          Nat.lt_of_lt_of_le below (Nat.le_of_not_lt room)
        have isUsed := List.findIdx?_eq_none_iff.mp first _ (List.getElem_mem inside)
        exact
          ⟨_, find?_handle bounded (List.getElem?_eq_getElem inside) (ne_of_beq_false isUsed)⟩

end

/-! ## Deliveries -/

/-- Deliver to every open event, in the mode in which events are marked ready. -/
def deliver
    (table : EventTable)
    (eventClass specification : UInt32) :
    EventTable :=
  ⟨table.slots.map fun event => event.receive eventClass specification⟩

end EventTable

namespace Event

variable (event : Event) (eventClass specification : UInt32)

/-- A delivery leaves the class of an event. -/
@[simp]
theorem receive_eventClass :
    (event.receive eventClass specification).eventClass = event.eventClass := by
  unfold receive
  split <;> rfl

/-- A delivery leaves the specification of an event. -/
@[simp]
theorem receive_specification :
    (event.receive eventClass specification).specification = event.specification := by
  unfold receive
  split <;> rfl

/-- A delivery leaves the mode of an event. -/
@[simp]
theorem receive_mode :
    (event.receive eventClass specification).mode = event.mode := by
  unfold receive
  split <;> rfl

/-- Only an active event that fits becomes ready. -/
theorem receive_status :
    (event.receive eventClass specification).status =
      if event.status = .active ∧ event.eventClass = eventClass ∧
          event.specification = specification then
        .ready
      else
        event.status := by
  simp only [receive, receives, Bool.and_eq_true, beq_iff_eq, and_assoc]
  split <;> rfl

/-- A delivery neither opens an event nor closes one. -/
theorem receive_status_unused :
    (event.receive eventClass specification).status = .unused ↔ event.status = .unused := by
  rw [receive_status]
  split
  · next fits => simp [fits.1]
  · rfl

/-- The event after deliveries to one class and specification after the other. -/
def receiveAll
    (event : Event)
    (deliveries : List (UInt32 × UInt32)) :
    Event :=
  deliveries.foldl (fun event delivery => event.receive delivery.1 delivery.2) event

/-- Deliveries leave what an event waits for. -/
theorem receiveAll_place
    (event : Event)
    (deliveries : List (UInt32 × UInt32)) :
    (event.receiveAll deliveries).eventClass = event.eventClass ∧
      (event.receiveAll deliveries).specification = event.specification := by
  induction deliveries generalizing event with
  | nil => exact ⟨rfl, rfl⟩
  | cons delivery rest inductionHypothesis =>
      obtain ⟨sameClass, sameSpecification⟩ :=
        inductionHypothesis (event.receive delivery.1 delivery.2)
      exact
        ⟨sameClass.trans (receive_eventClass ..),
          sameSpecification.trans (receive_specification ..)⟩

/-- An active event is ready after deliveries if one of them fits. -/
theorem receiveAll_status
    (event : Event)
    (deliveries : List (UInt32 × UInt32)) :
    (event.receiveAll deliveries).status =
      if event.status = .active ∧ (event.eventClass, event.specification) ∈ deliveries then
        .ready
      else
        event.status := by
  induction deliveries generalizing event with
  | nil => simp [receiveAll]
  | cons delivery rest inductionHypothesis =>
      have step := inductionHypothesis (event.receive delivery.1 delivery.2)
      rw [receive_eventClass, receive_specification, receive_status] at step
      refine Eq.trans step ?_
      simp only [List.mem_cons, Prod.ext_iff]
      by_cases isActive : event.status = .active
      · by_cases fits : event.eventClass = delivery.1 ∧ event.specification = delivery.2
        · simp [isActive, fits]
        · simp [isActive, fits]
      · simp [isActive]

end Event

namespace EventTable

/-- A delivery reaches every event by itself. -/
theorem find?_deliver
    {table : EventTable}
    (bounded : table.slots.length ≤ capacity)
    (eventClass specification word : UInt32) :
    (table.deliver eventClass specification).find? word =
      (table.find? word).map fun event => event.receive eventClass specification := by
  have stillBounded : (table.deliver eventClass specification).slots.length ≤ capacity := by
    rwa [deliver, List.length_map]
  refine Option.ext fun found => ?_
  rw [find?_eq_some_iff stillBounded, Option.map_eq_some_iff]
  constructor
  · rintro ⟨slot, isHandle, held, isUsed⟩
    obtain ⟨event, before, rfl⟩ :=
      Option.map_eq_some_iff.mp ((List.getElem?_map ..).symm.trans held)
    rw [Ne, Event.receive_status_unused] at isUsed
    exact ⟨event, isHandle ▸ find?_handle bounded before isUsed, rfl⟩
  · rintro ⟨event, before, rfl⟩
    obtain ⟨slot, isHandle, held, isUsed⟩ := (find?_eq_some_iff bounded _ _).mp before
    have held : table.slots[slot]? = some event := held
    refine ⟨slot, isHandle, by simp [get?, deliver, held], ?_⟩
    rwa [Ne, Event.receive_status_unused]

/-- Deliver to every open event for one class and specification after the other. -/
def deliverAll
    (table : EventTable)
    (deliveries : List (UInt32 × UInt32)) :
    EventTable :=
  deliveries.foldl (fun table delivery => table.deliver delivery.1 delivery.2) table

/-- Deliveries add no slot. -/
theorem length_deliverAll
    (table : EventTable)
    (deliveries : List (UInt32 × UInt32)) :
    (table.deliverAll deliveries).slots.length = table.slots.length := by
  induction deliveries generalizing table with
  | nil => rfl
  | cons delivery rest inductionHypothesis =>
      exact (inductionHypothesis _).trans (List.length_map _)

/-- Deliveries reach every event by itself. -/
theorem find?_deliverAll
    {table : EventTable}
    (bounded : table.slots.length ≤ capacity)
    (deliveries : List (UInt32 × UInt32))
    (word : UInt32) :
    (table.deliverAll deliveries).find? word =
      (table.find? word).map fun event => event.receiveAll deliveries := by
  induction deliveries generalizing table with
  | nil =>
      have same : (fun event : Event => event.receiveAll []) = id := rfl
      rw [same, Option.map_id]
      rfl
  | cons delivery rest inductionHypothesis =>
      have stillBounded :
          (table.deliver delivery.1 delivery.2).slots.length ≤ capacity := by
        rwa [deliver, List.length_map]
      have step := inductionHypothesis stillBounded
      rw [find?_deliver bounded, Option.map_map] at step
      exact step

/-- Every event is in the mode in which deliveries mark it ready. -/
def AllReadied (table : EventTable) : Prop :=
  ∀ event ∈ table.slots, event.mode = Event.readyMode

/-- A delivery leaves the mode of every event. -/
theorem AllReadied.deliver
    {table : EventTable}
    (allReadied : table.AllReadied)
    (eventClass specification : UInt32) :
    (table.deliver eventClass specification).AllReadied := by
  intro event member
  obtain ⟨before, inTable, rfl⟩ := List.mem_map.mp member
  rw [Event.receive_mode]
  exact allReadied before inTable

/-- Deliveries leave the mode of every event. -/
theorem AllReadied.deliverAll
    {table : EventTable}
    (allReadied : table.AllReadied)
    (deliveries : List (UInt32 × UInt32)) :
    (table.deliverAll deliveries).AllReadied := by
  induction deliveries generalizing table with
  | nil => exact allReadied
  | cons delivery rest inductionHypothesis =>
      exact inductionHypothesis (allReadied.deliver delivery.1 delivery.2)

end EventTable

end PsxPlayer
