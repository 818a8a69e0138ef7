import PsxPlayer.Proofs.Firmware.EventCall

namespace PsxPlayer

/-!
# Events as latches

An event that deliveries mark ready is a latch: a delivery that fits sets it while its
handle is enabled, and a test that finds it set clears it.  What a test answers can be told
from the calls that have been made so far, without a look at the table of events.
-/

/-! ## Histories -/

/-- A call that has been made, with what v0 held after it. -/
structure EventRecord where
  call : EventCall
  answer : UInt32

namespace EventRecord

variable (record : EventRecord) (handle : UInt32)

/-- The call enables a handle or tests it successfully. -/
def Arms : Prop :=
  record.answer = 1 ∧
    (record.call = .enables handle ∨ record.call = .tests handle ∨ record.call = .waits handle)

/-- The call disables or closes a handle. -/
def Disarms : Prop :=
  record.call = .disables handle ∨ record.call = .closes handle

/-- The call delivers to a class and a specification. -/
def Delivers (eventClass specification : UInt32) : Prop :=
  (eventClass, specification) ∈ record.call.deliveries

/-- No call both delivers and works on a handle. -/
theorem not_disarms_of_delivers
    {record : EventRecord}
    {eventClass specification handle : UInt32}
    (delivers : record.Delivers eventClass specification) :
    ¬ record.Disarms handle := by
  rcases record with ⟨call, answer⟩
  rintro (rfl | rfl)
  · exact nomatch delivers
  · exact nomatch delivers

end EventRecord

/-- An event that has been opened and not closed since. -/
structure OpenedEvent where
  handle : UInt32
  eventClass : UInt32
  specification : UInt32
  deriving DecidableEq

/-- The calls that have been made, latest first. -/
abbrev EventHistory : Type :=
  List EventRecord

namespace EventHistory

/-- The events that are open after the calls, latest first. -/
def opened : EventHistory → List OpenedEvent
  | [] => []
  | ⟨.opens eventClass specification _, answer⟩ :: earlier =>
      if answer = refusal then opened earlier
      else ⟨answer, eventClass, specification⟩ :: opened earlier
  | ⟨.closes handle, _⟩ :: earlier =>
      (opened earlier).filter fun event => event.handle != handle
  | _ :: earlier => opened earlier

/-- Something has happened, and nothing has undone it since. -/
def HoldsSince
    (history : EventHistory)
    (happened : EventRecord → EventHistory → Prop)
    (undone : EventRecord → Prop) :
    Prop :=
  ∃ later record earlier,
    history = later ++ record :: earlier ∧
      happened record earlier ∧
      ∀ other ∈ later, ¬ undone other

/-- The handle has been enabled or tested successfully, with no disabling or closing since. -/
def IsArmed
    (history : EventHistory)
    (handle : UInt32) :
    Prop :=
  history.HoldsSince (fun record _ => record.Arms handle) fun record => record.Disarms handle

/--
A delivery that fits has happened to the armed handle, which has not been enabled, tested
successfully, disabled or closed since.
-/
def IsLatched
    (history : EventHistory)
    (event : OpenedEvent) :
    Prop :=
  history.HoldsSince
    (fun record earlier =>
      record.Delivers event.eventClass event.specification ∧ IsArmed earlier event.handle)
    fun record => record.Arms event.handle ∨ record.Disarms event.handle

/--
What holds since it happened, one record later: it happens now, or held and is not
undone.
-/
theorem holdsSince_cons
    {record : EventRecord}
    {earlier : EventHistory}
    {happened : EventRecord → EventHistory → Prop}
    {undone : EventRecord → Prop} :
    HoldsSince (record :: earlier) happened undone ↔
      happened record earlier ∨ ¬ undone record ∧ HoldsSince earlier happened undone := by
  constructor
  · rintro ⟨later, found, before, split, happens, kept⟩
    cases later with
    | nil =>
        obtain ⟨rfl, rfl⟩ := List.cons.inj split
        exact .inl happens
    | cons first later =>
        obtain ⟨rfl, rfl⟩ := List.cons.inj split
        have keptLater : ∀ other ∈ later, ¬ undone other :=
          fun other member => kept other (List.mem_cons_of_mem _ member)
        exact .inr ⟨kept record List.mem_cons_self, later, found, before, rfl, happens, keptLater⟩
  · rintro (happens | ⟨notUndone, later, found, before, rfl, happens, kept⟩)
    · exact ⟨[], record, earlier, rfl, happens, fun _ member => nomatch member⟩
    · refine ⟨record :: later, found, before, rfl, happens, ?_⟩
      intro other member
      rcases List.mem_cons.mp member with rfl | member
      · exact notUndone
      · exact kept other member

/-- Armed one record later: armed by it, or armed before and not disarmed. -/
theorem isArmed_cons
    {record : EventRecord}
    {earlier : EventHistory}
    {handle : UInt32} :
    IsArmed (record :: earlier) handle ↔
      record.Arms handle ∨ ¬ record.Disarms handle ∧ IsArmed earlier handle :=
  holdsSince_cons

/--
Latched one record later: delivered to while armed, or latched before and neither armed
anew nor disarmed.
-/
theorem isLatched_cons
    {record : EventRecord}
    {earlier : EventHistory}
    {event : OpenedEvent} :
    IsLatched (record :: earlier) event ↔
      record.Delivers event.eventClass event.specification ∧ IsArmed earlier event.handle ∨
        ¬ (record.Arms event.handle ∨ record.Disarms event.handle) ∧ IsLatched earlier event :=
  holdsSince_cons

section

variable {record : EventRecord} {earlier : EventHistory}

/-- A call that does not work on a handle leaves it armed or not. -/
theorem isArmed_cons_of_unsettled
    {handle : UInt32}
    (unsettled : ¬ (record.Arms handle ∨ record.Disarms handle)) :
    IsArmed (record :: earlier) handle ↔ IsArmed earlier handle := by
  rw [not_or] at unsettled
  rw [isArmed_cons, or_iff_right unsettled.1, and_iff_right unsettled.2]

/-- A call without deliveries delivers to no event. -/
theorem not_delivers
    {event : OpenedEvent}
    (silent : record.call.deliveries = []) :
    ¬ (record.Delivers event.eventClass event.specification ∧
        IsArmed earlier event.handle) := by
  rintro ⟨delivers, -⟩
  rw [EventRecord.Delivers, silent] at delivers
  cases delivers

/-- A call that does not deliver and does not work on a handle leaves its latch alone. -/
theorem isLatched_cons_of_unsettled
    {event : OpenedEvent}
    (silent : record.call.deliveries = [])
    (unsettled : ¬ (record.Arms event.handle ∨ record.Disarms event.handle)) :
    IsLatched (record :: earlier) event ↔ IsLatched earlier event := by
  rw [isLatched_cons, or_iff_right (not_delivers silent), and_iff_right unsettled]

/-- A call that works on a handle clears its latch. -/
theorem not_isLatched_cons_of_settled
    {event : OpenedEvent}
    (silent : record.call.deliveries = [])
    (settled : record.Arms event.handle ∨ record.Disarms event.handle) :
    ¬ IsLatched (record :: earlier) event := by
  rw [isLatched_cons, or_iff_right (not_delivers silent)]
  exact fun latched => latched.1 settled

end

/-- Without an arming there is no latch. -/
theorem IsLatched.isArmed
    {history : EventHistory}
    {event : OpenedEvent}
    (isLatched : IsLatched history event) :
    IsArmed history event.handle := by
  induction history with
  | nil =>
      obtain ⟨later, record, earlier, split, -⟩ := isLatched
      exact absurd split.symm (List.append_ne_nil_of_right_ne_nil _ (List.cons_ne_nil _ _))
  | cons record earlier inductionHypothesis =>
      rcases isLatched_cons.mp isLatched with ⟨delivers, armed⟩ | ⟨unsettled, latched⟩
      · refine isArmed_cons.mpr (.inr ⟨?_, armed⟩)
        exact EventRecord.not_disarms_of_delivers delivers
      · rw [not_or] at unsettled
        exact isArmed_cons.mpr (.inr ⟨unsettled.2, inductionHypothesis latched⟩)

end EventHistory

/-! ## What the table tells of the history -/

namespace Event

/-- An event is enabled, whether or not a delivery has reached it. -/
def IsArmed (event : Event) : Prop :=
  event.status = .active ∨ event.status = .ready

/-- An event as it was opened. -/
def asOpened
    (event : Event)
    (handle : UInt32) :
    OpenedEvent :=
  ⟨handle, event.eventClass, event.specification⟩

end Event

/-- The table holds of a history what is needed to go on. -/
structure EventTable.Reflects
    (table : EventTable)
    (history : EventHistory) :
    Prop where
  bounded : table.slots.length ≤ EventTable.capacity
  allReadied : table.AllReadied
  handles : (history.opened.map OpenedEvent.handle).Nodup
  opened_iff :
    ∀ opened,
      opened ∈ history.opened ↔
        ∃ event,
          table.find? opened.handle = some event ∧ event.asOpened opened.handle = opened
  armed_iff :
    ∀ handle,
      history.IsArmed handle ↔ ∃ event, table.find? handle = some event ∧ event.IsArmed
  latched_iff :
    ∀ handle event,
      table.find? handle = some event →
      (event.status = .ready ↔ history.IsLatched (event.asOpened handle))

namespace EventTable

theorem find?_empty (word : UInt32) : EventTable.empty.find? word = none := by
  simp [find?, slotOf?, get?, empty]

/-- The table of no events reflects the empty history. -/
theorem reflects_empty : EventTable.empty.Reflects [] where
  bounded := Nat.zero_le _
  allReadied := fun _ member => nomatch member
  handles := List.nodup_nil
  opened_iff opened := by simp [EventHistory.opened, find?_empty]
  armed_iff handle := by
    simp [EventHistory.IsArmed, EventHistory.HoldsSince, find?_empty]
  latched_iff handle event found := nomatch (find?_empty handle).symm.trans found

namespace Reflects

variable {table after : EventTable} {history : EventHistory} {record : EventRecord}

/-- A known event is one that deliveries mark ready. -/
theorem readied
    (reflects : table.Reflects history)
    {word : UInt32}
    {event : Event}
    (found : table.find? word = some event) :
    event.mode = Event.readyMode := by
  obtain ⟨place, -, held, -⟩ := (find?_eq_some_iff reflects.bounded _ _).mp found
  exact reflects.allReadied event (List.mem_of_getElem? held)

/-- A call without effect leaves the table as it is. -/
theorem idle
    (reflects : table.Reflects history)
    (notArms : ∀ handle, ¬ record.Arms handle)
    (notDisarms : ∀ handle, record.Disarms handle → table.find? handle = none)
    (silent : record.call.deliveries = [])
    (sameOpened : EventHistory.opened (record :: history) = history.opened) :
    table.Reflects (record :: history) where
  bounded := reflects.bounded
  allReadied := reflects.allReadied
  handles := sameOpened.symm ▸ reflects.handles
  opened_iff opened := by rw [sameOpened, reflects.opened_iff]
  armed_iff handle := by
    rw [EventHistory.isArmed_cons, or_iff_right (notArms handle), reflects.armed_iff]
    refine and_iff_right_of_imp ?_
    rintro ⟨event, found, -⟩ disarms
    exact nomatch found.symm.trans (notDisarms handle disarms)
  latched_iff handle event found := by
    have unsettled : ¬ (record.Arms handle ∨ record.Disarms handle) := by
      rintro (arms | disarms)
      · exact notArms handle arms
      · exact nomatch found.symm.trans (notDisarms handle disarms)
    rw [reflects.latched_iff handle event found]
    exact (EventHistory.isLatched_cons_of_unsettled silent unsettled).symm

/-- A call that enables or disables an open event, or rearms it, works on its handle alone. -/
theorem setStatus
    (reflects : table.Reflects history)
    {slot : Nat}
    {event : Event}
    {status : EventStatus}
    (found : table.find? (handle slot) = some event)
    (writes : Writes slot { event with status := status } table after)
    (settled : record.Arms (handle slot) ∧ status = .active ∨
      record.Disarms (handle slot) ∧ ¬ record.Arms (handle slot) ∧ status = .waiting)
    (others : ∀ other, other ≠ handle slot → ¬ (record.Arms other ∨ record.Disarms other))
    (silent : record.call.deliveries = [])
    (sameOpened : EventHistory.opened (record :: history) = history.opened) :
    after.Reflects (record :: history) := by
  have isUsed : status ≠ .unused := by
    rcases settled with ⟨-, rfl⟩ | ⟨-, -, rfl⟩ <;> decide
  have here : after.find? (handle slot) = some { event with status := status } := by
    rw [writes.find?_self, if_neg isUsed]
  have readied := reflects.readied found
  refine
    { bounded := writes.stillBounded
      allReadied := writes.forall_mem reflects.allReadied readied
      handles := sameOpened.symm ▸ reflects.handles
      opened_iff := fun opened => ?_
      armed_iff := fun other => ?_
      latched_iff := fun other entry isEntry => ?_ }
  · rw [sameOpened, reflects.opened_iff]
    by_cases same : opened.handle = handle slot
    · rw [same, here, found]
      simp only [Option.some.injEq, exists_eq_left']
      rfl
    · rw [writes.find?_of_ne same]
  · by_cases same : other = handle slot
    · rw [same, here, EventHistory.isArmed_cons]
      simp only [Option.some.injEq, exists_eq_left', Event.IsArmed]
      rcases settled with ⟨arms, rfl⟩ | ⟨disarms, notArms, rfl⟩
      · simp [arms]
      · simp [disarms, notArms]
    · rw [writes.find?_of_ne same, EventHistory.isArmed_cons_of_unsettled (others other same),
        reflects.armed_iff]
  · by_cases same : other = handle slot
    · subst same
      obtain rfl : { event with status := status } = entry :=
        Option.some.inj (here.symm.trans isEntry)
      have cleared :
          ¬ EventHistory.IsLatched (record :: history) (event.asOpened (handle slot)) :=
        EventHistory.not_isLatched_cons_of_settled silent (settled.imp And.left And.left)
      have notReady : status ≠ .ready := by
        rcases settled with ⟨-, rfl⟩ | ⟨-, -, rfl⟩ <;> decide
      exact iff_of_false notReady cleared
    · rw [writes.find?_of_ne same] at isEntry
      rw [reflects.latched_iff other entry isEntry]
      exact (EventHistory.isLatched_cons_of_unsettled silent (others other same)).symm

/-- A closed event is no longer known. -/
theorem close
    (reflects : table.Reflects history)
    {slot : Nat}
    {event : Event}
    (found : table.find? (handle slot) = some event)
    (writes : Writes slot { event with status := .unused } table after)
    (answer : UInt32) :
    after.Reflects (⟨.closes (handle slot), answer⟩ :: history) := by
  have here : after.find? (handle slot) = none := by
    rw [writes.find?_self, if_pos rfl]
  have readied := reflects.readied found
  have notArms (other : UInt32) :
      ¬ (⟨.closes (handle slot), answer⟩ : EventRecord).Arms other := by
    simp [EventRecord.Arms]
  have disarms (other : UInt32) :
      (⟨.closes (handle slot), answer⟩ : EventRecord).Disarms other ↔ handle slot = other := by
    simp [EventRecord.Disarms]
  have others {other : UInt32} (apart : other ≠ handle slot) :
      ¬ ((⟨.closes (handle slot), answer⟩ : EventRecord).Arms other ∨
        (⟨.closes (handle slot), answer⟩ : EventRecord).Disarms other) := by
    rw [or_iff_right (notArms other), disarms]
    exact apart.symm
  refine
    { bounded := writes.stillBounded
      allReadied := writes.forall_mem reflects.allReadied readied
      handles := reflects.handles.sublist (List.filter_sublist.map _)
      opened_iff := fun opened => ?_
      armed_iff := fun other => ?_
      latched_iff := fun other entry isEntry => ?_ }
  · rw [EventHistory.opened, List.mem_filter, reflects.opened_iff, bne_iff_ne]
    by_cases same : opened.handle = handle slot
    · simp [same, here]
    · simp [writes.find?_of_ne same, same]
  · by_cases same : other = handle slot
    · rw [same, here, EventHistory.isArmed_cons]
      simp [notArms, disarms]
    · rw [writes.find?_of_ne same, EventHistory.isArmed_cons_of_unsettled (others same),
        reflects.armed_iff]
  · have same : other ≠ handle slot := by
      rintro rfl
      exact nomatch here.symm.trans isEntry
    rw [writes.find?_of_ne same] at isEntry
    rw [reflects.latched_iff other entry isEntry]
    exact (EventHistory.isLatched_cons_of_unsettled rfl (others same)).symm

/-- A new event waits to be enabled. -/
theorem opens
    (reflects : table.Reflects history)
    {slot : Nat}
    {eventClass specification handler : UInt32}
    (known : handle slot ≠ refusal)
    (unknown : table.find? (handle slot) = none)
    (writes :
      Writes slot ⟨eventClass, specification, Event.readyMode, handler, .waiting⟩ table after) :
    after.Reflects
      (⟨.opens eventClass specification handler, handle slot⟩ :: history) := by
  have here :
      after.find? (handle slot) =
        some ⟨eventClass, specification, Event.readyMode, handler, .waiting⟩ :=
    writes.find?_self
  have unsettled (other : UInt32) :
      ¬ ((⟨.opens eventClass specification handler, handle slot⟩ : EventRecord).Arms other ∨
        (⟨.opens eventClass specification handler, handle slot⟩ : EventRecord).Disarms
          other) := by
    simp [EventRecord.Arms, EventRecord.Disarms]
  have notOpened (opened : OpenedEvent) (same : opened.handle = handle slot) :
      opened ∉ history.opened := by
    rw [reflects.opened_iff, same, unknown]
    simp
  have notArmed : ¬ history.IsArmed (handle slot) := by
    rw [reflects.armed_iff, unknown]
    simp
  have opened :
      EventHistory.opened (⟨.opens eventClass specification handler, handle slot⟩ :: history) =
        ⟨handle slot, eventClass, specification⟩ :: history.opened :=
    if_neg known
  refine
    { bounded := writes.stillBounded
      allReadied := writes.forall_mem reflects.allReadied rfl
      handles := ?_
      opened_iff := fun other => ?_
      armed_iff := fun other => ?_
      latched_iff := fun other entry isEntry => ?_ }
  · rw [opened, List.map_cons, List.nodup_cons]
    refine ⟨fun member => ?_, reflects.handles⟩
    obtain ⟨other, isOpened, same⟩ := List.mem_map.mp member
    exact notOpened other same isOpened
  · rw [opened, List.mem_cons]
    by_cases same : other.handle = handle slot
    · rw [or_iff_left (notOpened other same), same, here]
      simp only [Option.some.injEq, exists_eq_left']
      exact eq_comm
    · have apart : other ≠ ⟨handle slot, eventClass, specification⟩ :=
        fun isNew => same (congrArg OpenedEvent.handle isNew)
      rw [or_iff_right apart, writes.find?_of_ne same, reflects.opened_iff]
  · rw [EventHistory.isArmed_cons_of_unsettled (unsettled other)]
    by_cases same : other = handle slot
    · rw [same, here]
      refine iff_of_false notArmed ?_
      simp [Event.IsArmed]
    · rw [writes.find?_of_ne same, reflects.armed_iff]
  · rw [EventHistory.isLatched_cons_of_unsettled rfl (unsettled other)]
    by_cases same : other = handle slot
    · subst same
      obtain rfl := Option.some.inj (here.symm.trans isEntry)
      exact iff_of_false nofun fun latched => notArmed latched.isArmed
    · rw [writes.find?_of_ne same] at isEntry
      exact reflects.latched_iff other entry isEntry

/-- Deliveries reach every armed event that fits. -/
theorem deliverAll
    (reflects : table.Reflects history)
    (record : EventRecord)
    (unsettled : ∀ handle, ¬ (record.Arms handle ∨ record.Disarms handle))
    (sameOpened : EventHistory.opened (record :: history) = history.opened) :
    (table.deliverAll record.call.deliveries).Reflects (record :: history) := by
  have status (event : Event) := event.receiveAll_status record.call.deliveries
  have asOpened (event : Event) (handle : UInt32) :
      (event.receiveAll record.call.deliveries).asOpened handle = event.asOpened handle := by
    obtain ⟨sameClass, sameSpecification⟩ := event.receiveAll_place record.call.deliveries
    rw [Event.asOpened, sameClass, sameSpecification, Event.asOpened]
  refine
    { bounded := Nat.le_trans (Nat.le_of_eq (length_deliverAll table _)) reflects.bounded
      allReadied := reflects.allReadied.deliverAll _
      handles := sameOpened.symm ▸ reflects.handles
      opened_iff := fun opened => ?_
      armed_iff := fun handle => ?_
      latched_iff := fun handle entry isEntry => ?_ }
  · rw [sameOpened, reflects.opened_iff, find?_deliverAll reflects.bounded]
    simp [asOpened]
  · rw [EventHistory.isArmed_cons_of_unsettled (unsettled handle), reflects.armed_iff,
      find?_deliverAll reflects.bounded]
    have stays (event : Event) :
        (event.receiveAll record.call.deliveries).IsArmed ↔ event.IsArmed := by
      rw [Event.IsArmed, status, Event.IsArmed]
      split
      · next fits => simp [fits.1]
      · rfl
    simp [stays]
  · rw [find?_deliverAll reflects.bounded] at isEntry
    obtain ⟨event, found, rfl⟩ := Option.map_eq_some_iff.mp isEntry
    rw [asOpened, EventHistory.isLatched_cons, and_iff_right (unsettled _),
      ← reflects.latched_iff handle event found, status]
    have armed : history.IsArmed handle ↔ event.IsArmed := by
      rw [reflects.armed_iff, found]
      simp
    change _ ↔ record.Delivers event.eventClass event.specification ∧ history.IsArmed handle ∨ _
    rw [armed, EventRecord.Delivers, Event.IsArmed]
    by_cases isReady : event.status = .ready
    · simp [isReady]
    · simp [isReady, and_comm]

/-- An update finds the event and writes it, or answers that it is unknown. -/
theorem updated_cases
    (bounded : table.slots.length ≤ capacity)
    (word : UInt32)
    (status : EventStatus) :
    (table.find? word = none ∧ table.updated word status = (0, table)) ∨
      ∃ slot event after,
        word = handle slot ∧
          table.find? word = some event ∧
          table.updated word status = (1, after) ∧
          Writes slot { event with status := status } table after := by
  cases found : table.find? word with
  | none => exact .inl ⟨rfl, by rw [updated, update?_of_unknown bounded found]⟩
  | some event =>
      obtain ⟨slot, after, isHandle, isUpdated, writes⟩ := update?_of_found bounded found status
      exact .inr ⟨slot, event, after, isHandle, rfl, by rw [updated, isUpdated], writes⟩

/-- A test finds a ready event and writes it, or changes nothing. -/
theorem tested_cases
    (bounded : table.slots.length ≤ capacity)
    (word : UInt32) :
    ((¬ ∃ event, table.find? word = some event ∧ event.status = .ready) ∧
        table.tested word = (0, table)) ∨
      ∃ slot event after,
        word = handle slot ∧
          (table.find? word = some event ∧ event.status = .ready) ∧
          table.tested word = (1, after) ∧
          Writes slot { event with status := .active } table after := by
  by_cases isReady : ∃ event, table.find? word = some event ∧ event.status = .ready
  · obtain ⟨event, found, ready⟩ := isReady
    obtain ⟨slot, after, isHandle, isTested, writes⟩ := test_of_ready bounded found ready
    exact .inr
      ⟨slot, event, after, isHandle, ⟨found, ready⟩, by rw [tested, isTested]; rfl, writes⟩
  · have notReady : ∀ event, table.find? word = some event → event.status ≠ .ready :=
      fun event found ready => isReady ⟨event, found, ready⟩
    exact .inl ⟨isReady, by rw [tested, test_of_not_ready bounded notReady]; rfl⟩

/-- Closing an event keeps the table the reflection of its history. -/
theorem closed
    (reflects : table.Reflects history)
    (handle : UInt32) :
    (table.updated handle .unused).2.Reflects
      (⟨.closes handle, (table.updated handle .unused).1⟩ :: history) := by
  rcases updated_cases reflects.bounded handle .unused with
    ⟨unknown, isUpdated⟩ | ⟨slot, event, after, rfl, found, isUpdated, writes⟩
  · rw [isUpdated]
    refine reflects.idle (by simp [EventRecord.Arms]) ?_ rfl ?_
    · intro other disarms
      obtain rfl : handle = other := by simpa [EventRecord.Disarms] using disarms
      exact unknown
    · refine List.filter_eq_self.mpr fun opened isOpened => ?_
      obtain ⟨event, found, -⟩ := (reflects.opened_iff opened).mp isOpened
      rw [bne_iff_ne]
      rintro rfl
      cases unknown.symm.trans found
  · rw [isUpdated]
    exact reflects.close found writes _

/-- Enabling and disabling an event. -/
theorem switched
    (reflects : table.Reflects history)
    {handle : UInt32}
    {call : EventCall}
    {status : EventStatus}
    (switches :
      call = .enables handle ∧ status = .active ∨ call = .disables handle ∧ status = .waiting) :
    (table.updated handle status).2.Reflects
      (⟨call, (table.updated handle status).1⟩ :: history) := by
  rcases updated_cases reflects.bounded handle status with
    ⟨unknown, isUpdated⟩ | ⟨slot, event, after, rfl, found, isUpdated, writes⟩
  · rw [isUpdated]
    rcases switches with ⟨rfl, rfl⟩ | ⟨rfl, rfl⟩
    · exact reflects.idle (by simp [EventRecord.Arms]) (by simp [EventRecord.Disarms]) rfl rfl
    · refine reflects.idle (by simp [EventRecord.Arms]) ?_ rfl rfl
      intro other disarms
      obtain rfl : handle = other := by simpa [EventRecord.Disarms] using disarms
      exact unknown
  · rw [isUpdated]
    rcases switches with ⟨rfl, rfl⟩ | ⟨rfl, rfl⟩
    · refine reflects.setStatus found writes (.inl ⟨?_, rfl⟩) ?_ rfl rfl
      · simp [EventRecord.Arms]
      · intro other apart
        simp [EventRecord.Arms, EventRecord.Disarms, apart.symm]
    · refine reflects.setStatus found writes (.inr ⟨?_, ?_, rfl⟩) ?_ rfl rfl
      · simp [EventRecord.Disarms]
      · simp [EventRecord.Arms]
      · intro other apart
        simp [EventRecord.Arms, EventRecord.Disarms, apart.symm]

/-- So does testing or awaiting one. -/
theorem checked
    (reflects : table.Reflects history)
    {handle : UInt32}
    {call : EventCall}
    (checks : call = .tests handle ∨ call = .waits handle) :
    (table.tested handle).2.Reflects (⟨call, (table.tested handle).1⟩ :: history) := by
  rcases tested_cases reflects.bounded handle with
    ⟨-, isTested⟩ | ⟨slot, event, after, rfl, ⟨found, -⟩, isTested, writes⟩
  · rw [isTested]
    rcases checks with rfl | rfl
    all_goals
      exact reflects.idle (by simp [EventRecord.Arms]) (by simp [EventRecord.Disarms]) rfl rfl
  · rw [isTested]
    rcases checks with rfl | rfl
    all_goals
      refine reflects.setStatus found writes (.inl ⟨?_, rfl⟩) ?_ rfl rfl
      · simp [EventRecord.Arms]
      · intro other apart
        simp [EventRecord.Arms, EventRecord.Disarms, apart.symm]

/-- No handle is the answer of a refused opening. -/
theorem handle_ne_refusal : ∀ slot, slot < capacity → handle slot ≠ refusal := by
  decide

/-- So does opening an event, whether a slot is free or not. -/
theorem newlyOpened
    (reflects : table.Reflects history)
    (eventClass specification handler : UInt32) :
    let answered :=
      table.opened ⟨eventClass, specification, Event.readyMode, handler, .waiting⟩
    answered.2.Reflects (⟨.opens eventClass specification handler, answered.1⟩ :: history) := by
  intro answered
  rcases
      open?_cases reflects.bounded
        ⟨eventClass, specification, Event.readyMode, handler, .waiting⟩ with
    ⟨slot, after, isOpened, below, unknown, writes⟩ | ⟨isRefused, -⟩
  · simp only [answered, opened, isOpened, Option.getD_some]
    exact reflects.opens (handle_ne_refusal slot below) unknown writes
  · simp only [answered, opened, isRefused, Option.getD_none]
    exact
      reflects.idle (by simp [EventRecord.Arms]) (by simp [EventRecord.Disarms]) rfl
        (if_pos rfl)

/-- Every call leaves a table that reflects the history with it. -/
theorem perform
    (reflects : table.Reflects history)
    (call : EventCall)
    {answer : UInt32}
    (isAnswer : ∀ value, (table.perform call).1 = some value → answer = value) :
    (table.perform call).2.Reflects (⟨call, answer⟩ :: history) := by
  cases call with
  | opens eventClass specification handler =>
      rw [isAnswer _ rfl]
      exact reflects.newlyOpened eventClass specification handler
  | closes handle =>
      rw [isAnswer _ rfl]
      exact reflects.closed handle
  | enables handle =>
      rw [isAnswer _ rfl]
      exact reflects.switched (.inl ⟨rfl, rfl⟩)
  | disables handle =>
      rw [isAnswer _ rfl]
      exact reflects.switched (.inr ⟨rfl, rfl⟩)
  | tests handle =>
      rw [isAnswer _ rfl]
      exact reflects.checked (.inl rfl)
  | waits handle =>
      rw [isAnswer _ rfl]
      exact reflects.checked (.inr rfl)
  | delivers eventClass specification =>
      refine reflects.deliverAll ⟨.delivers eventClass specification, answer⟩ ?_ rfl
      simp [EventRecord.Arms, EventRecord.Disarms]
  | interrupts pending =>
      refine reflects.deliverAll ⟨.interrupts pending, answer⟩ ?_ rfl
      simp [EventRecord.Arms, EventRecord.Disarms]

/-- The handles that are open by the history are those the table finds. -/
theorem mem_handles
    (reflects : table.Reflects history)
    (word : UInt32) :
    word ∈ history.opened.map OpenedEvent.handle ↔ ∃ event, table.find? word = some event := by
  rw [List.mem_map]
  constructor
  · rintro ⟨opened, isOpened, rfl⟩
    obtain ⟨event, found, -⟩ := (reflects.opened_iff opened).mp isOpened
    exact ⟨event, found⟩
  · rintro ⟨event, found⟩
    exact ⟨event.asOpened word, (reflects.opened_iff _).mpr ⟨event, found, rfl⟩, rfl⟩

/-- As many events as there are slots are open exactly if all slots are in use. -/
theorem length_opened
    (reflects : table.Reflects history) :
    history.opened.length = capacity ↔
      ∀ slot, slot < capacity → ∃ event, table.find? (handle slot) = some event := by
  have all : ((List.range capacity).map handle).Nodup := by decide
  have among :
      history.opened.map OpenedEvent.handle ⊆ (List.range capacity).map handle := by
    intro word member
    obtain ⟨event, found⟩ := (reflects.mem_handles word).mp member
    obtain ⟨slot, rfl, held, -⟩ := (find?_eq_some_iff reflects.bounded _ _).mp found
    exact List.mem_map_of_mem (List.mem_range.mpr (get?_lt reflects.bounded held))
  have most := reflects.handles.subperm among
  have opened : (history.opened.map OpenedEvent.handle).length = history.opened.length :=
    List.length_map _
  have slots : ((List.range capacity).map handle).length = capacity := by
    rw [List.length_map, List.length_range]
  constructor
  · intro full slot below
    have same := most.perm_of_length_le (Nat.le_of_eq (by rw [opened, slots, full]))
    apply (reflects.mem_handles _).mp
    exact same.mem_iff.mpr (List.mem_map_of_mem (List.mem_range.mpr below))
  · intro allOpen
    have least : (List.range capacity).map handle ⊆ history.opened.map OpenedEvent.handle := by
      intro word member
      obtain ⟨slot, below, rfl⟩ := List.mem_map.mp member
      exact (reflects.mem_handles _).mpr (allOpen slot (List.mem_range.mp below))
    have enough := (all.subperm least).length_le
    have limit := most.length_le
    rw [opened, slots] at enough limit
    exact Nat.le_antisymm limit enough

/-- A test succeeds on a handle whose latch is set. -/
theorem tested_eq_one_iff
    (reflects : table.Reflects history)
    (handle : UInt32) :
    ((table.tested handle).1 = 0 ∨ (table.tested handle).1 = 1) ∧
      ((table.tested handle).1 = 1 ↔
        ∃ event, event ∈ history.opened ∧ event.handle = handle ∧ history.IsLatched event) := by
  have latched :
      (∃ event, table.find? handle = some event ∧ event.status = .ready) ↔
        ∃ event, event ∈ history.opened ∧ event.handle = handle ∧ history.IsLatched event := by
    constructor
    · rintro ⟨event, found, isReady⟩
      exact
        ⟨event.asOpened handle, (reflects.opened_iff _).mpr ⟨event, found, rfl⟩, rfl,
          (reflects.latched_iff handle event found).mp isReady⟩
    · rintro ⟨opened, isOpened, rfl, isLatched⟩
      obtain ⟨event, found, asOpened⟩ := (reflects.opened_iff _).mp isOpened
      refine ⟨event, found, (reflects.latched_iff _ event found).mpr ?_⟩
      rwa [asOpened]
  rw [← latched]
  rcases tested_cases reflects.bounded handle with
    ⟨notReady, isTested⟩ | ⟨slot, event, after, -, isReady, isTested, -⟩
  · rw [isTested]
    exact ⟨.inl rfl, iff_of_false nofun notReady⟩
  · rw [isTested]
    exact ⟨.inr rfl, iff_of_true rfl ⟨event, isReady⟩⟩

/-- Opening gives out a handle that is not open, unless all slots are in use. -/
theorem opened_answer
    (reflects : table.Reflects history)
    (event : Event) :
    ((table.opened event).1 = refusal ↔ history.opened.length = capacity) ∧
      ∀ other,
        other ∈ history.opened →
        other.handle ≠ (table.opened event).1 ∧
          (table.opened event).2.find? other.handle = table.find? other.handle := by
  rw [reflects.length_opened]
  rcases open?_cases reflects.bounded event with
    ⟨slot, after, isOpened, below, unknown, writes⟩ | ⟨isRefused, allOpen⟩
  · simp only [opened, isOpened, Option.getD_some]
    refine ⟨iff_of_false (handle_ne_refusal slot below) fun allOpen => ?_, ?_⟩
    · obtain ⟨event, found⟩ := allOpen slot below
      cases unknown.symm.trans found
    · intro other isOpen
      obtain ⟨event, found, -⟩ := (reflects.opened_iff other).mp isOpen
      have apart : other.handle ≠ handle slot := by
        intro same
        rw [same, unknown] at found
        cases found
      exact ⟨apart, writes.find?_of_ne apart⟩
  · rw [opened, isRefused, Option.getD_none]
    refine ⟨iff_of_true rfl allOpen, fun other isOpen => ⟨?_, rfl⟩⟩
    obtain ⟨event, found, -⟩ := (reflects.opened_iff other).mp isOpen
    obtain ⟨slot, isHandle, held, -⟩ := (find?_eq_some_iff reflects.bounded _ _).mp found
    rw [isHandle]
    exact handle_ne_refusal slot (get?_lt reflects.bounded held)

/-- A call that works on a handle leaves all others alone. -/
theorem find?_perform
    (reflects : table.Reflects history)
    {call : EventCall}
    {handle other : UInt32}
    (worksOn : call.handle? = some handle)
    (apart : other ≠ handle) :
    (table.perform call).2.find? other = table.find? other := by
  have updates (status : EventStatus) :
      (table.updated handle status).2.find? other = table.find? other := by
    rcases updated_cases reflects.bounded handle status with
      ⟨-, isUpdated⟩ | ⟨slot, event, after, rfl, -, isUpdated, writes⟩
    · rw [isUpdated]
    · rw [isUpdated]
      exact writes.find?_of_ne apart
  have tests : (table.tested handle).2.find? other = table.find? other := by
    rcases tested_cases reflects.bounded handle with
      ⟨-, isTested⟩ | ⟨slot, event, after, rfl, -, isTested, writes⟩
    · rw [isTested]
    · rw [isTested]
      exact writes.find?_of_ne apart
  cases call with
  | opens | delivers | interrupts => cases worksOn
  | closes | enables | disables =>
      cases worksOn
      exact updates _
  | tests | waits =>
      cases worksOn
      exact tests

end Reflects

end EventTable

/-! ## Machines that make calls -/

/--
A machine whose table of events has seen a history of calls and nothing else.  Between
calls the machine may become any other with the same table.
-/
inductive Machine.HasSeen (step : Action Unit) : Machine → EventHistory → Prop where
  | nothing
      {machine : Machine}
      (empty : machine.firmware.events = .empty) :
      HasSeen step machine []
  | elsewhere
      {machine other : Machine}
      {history : EventHistory}
      (hasSeen : HasSeen step machine history)
      (sameEvents : other.firmware.events = machine.firmware.events) :
      HasSeen step other history
  | call
      {machine after : Machine}
      {history : EventHistory}
      {call : EventCall}
      (hasSeen : HasSeen step machine history)
      (isMade : call.IsMade machine)
      (served : (Action.serveTrap step call.trap).run machine = .ok () after) :
      HasSeen step after (⟨call, after.cpu.registers.get Reg.v0⟩ :: history)

/-- In every machine that has seen a history, the table of events reflects it. -/
theorem Machine.HasSeen.reflects
    {step : Action Unit}
    {machine : Machine}
    {history : EventHistory}
    (hasSeen : machine.HasSeen step history) :
    machine.firmware.events.Reflects history := by
  induction hasSeen with
  | nothing empty =>
      rw [empty]
      exact EventTable.reflects_empty
  | elsewhere hasSeen sameEvents inductionHypothesis =>
      rw [sameEvents]
      exact inductionHypothesis
  | call hasSeen isMade served inductionHypothesis =>
      obtain ⟨after, ran, events, isAnswer⟩ :=
        Action.performs inductionHypothesis.allReadied isMade step
      obtain ⟨-, rfl⟩ := EStateM.Result.ok.inj (served.symm.trans ran)
      rw [events]
      exact inductionHypothesis.perform _ isAnswer

/-- A call that is made becomes part of the history. -/
theorem Machine.HasSeen.perform
    {step : Action Unit}
    {machine : Machine}
    {history : EventHistory}
    {call : EventCall}
    (hasSeen : machine.HasSeen step history)
    (isMade : call.IsMade machine) :
    ∃ (after : Machine) (answer : UInt32),
      after.HasSeen step (⟨call, answer⟩ :: history) ∧
        after.firmware.events = (machine.firmware.events.perform call).2 ∧
        ∀ value, (machine.firmware.events.perform call).1 = some value → answer = value := by
  obtain ⟨after, ran, events, isAnswer⟩ :=
    Action.performs hasSeen.reflects.allReadied isMade step
  exact ⟨after, _, .call hasSeen isMade ran, events, isAnswer⟩

/--
The events are independent latches.  Every call comes back.  A test of a handle answers 1
exactly if its latch is set, which the history tells.  Opening answers a handle that is not
open, or refuses when 32 events are open.  No call on a handle changes another event.
-/
theorem events_areLatches
    {step : Action Unit}
    {machine : Machine}
    {history : EventHistory}
    {call : EventCall}
    (hasSeen : machine.HasSeen step history)
    (isMade : call.IsMade machine) :
    ∃ after,
      (Action.serveTrap step call.trap).run machine = .ok () after ∧
        let answer := after.cpu.registers.get Reg.v0
        let before := machine.firmware.events
        let events := after.firmware.events
        (∀ handle,
          call = .tests handle ∨ call = .waits handle →
          (answer = 0 ∨ answer = 1) ∧
            (answer = 1 ↔
              ∃ event,
                event ∈ history.opened ∧ event.handle = handle ∧ history.IsLatched event)) ∧
        (∀ eventClass specification handler,
          call = .opens eventClass specification handler →
          (answer = 0xFFFFFFFF ↔ history.opened.length = 32) ∧
            ∀ event,
              event ∈ history.opened →
              event.handle ≠ answer ∧
                events.find? event.handle = before.find? event.handle) ∧
        ∀ handle,
          call.handle? = some handle →
          ∀ event,
            event ∈ history.opened →
            event.handle ≠ handle →
            events.find? event.handle = before.find? event.handle := by
  have reflects := hasSeen.reflects
  obtain ⟨after, ran, events, isAnswer⟩ := Action.performs reflects.allReadied isMade step
  refine ⟨after, ran, ?_, ?_, ?_⟩
  · rintro handle (rfl | rfl)
    all_goals
      rw [isAnswer _ rfl]
      exact reflects.tested_eq_one_iff handle
  · rintro eventClass specification handler rfl
    rw [isAnswer _ rfl, events]
    exact reflects.opened_answer _
  · intro handle worksOn event _ apart
    rw [events]
    exact reflects.find?_perform worksOn apart

/-- A machine that asks for a kernel function of a table of events. -/
def asking
    (events : EventTable)
    (number first second third : UInt32) :
    Machine :=
  let registers := Cpu.initial.registers.set Reg.t1 number
  let registers := (registers.set Reg.a0 first).set Reg.a1 second
  { Machine.guest [] 0x80010000 with
    cpu := { Cpu.initial with registers := registers.set Reg.a2 third }
    firmware := { Firmware.initial with events := events } }

/-- An event in the first slot. -/
def inFirstSlot (status : EventStatus) : EventTable :=
  ⟨[⟨5, 7, Event.readyMode, 0, status⟩]⟩

/-- An event that is opened, enabled and delivered to, as calls of the firmware. -/
theorem hasSeen_delivery :
    ∃ answer,
      (asking (inFirstSlot .ready) 0x0B 0xF1000000 0 0).HasSeen (pure ())
        [⟨.delivers 5 7, answer⟩, ⟨.enables 0xF1000000, 1⟩, ⟨.opens 5 7 0, 0xF1000000⟩] := by
  have start : (asking .empty 0x08 5 7 Event.readyMode).HasSeen (pure ()) [] := .nothing rfl
  obtain ⟨opened, handle, seen, events, isAnswer⟩ :=
    start.perform (show (EventCall.opens 5 7 0).IsMade _ from ⟨⟨rfl, rfl⟩, rfl, rfl, rfl⟩)
  obtain rfl : handle = 0xF1000000 := isAnswer _ rfl
  have waiting : (asking (inFirstSlot .waiting) 0x0C 0xF1000000 0 0).HasSeen (pure ()) _ :=
    .elsewhere seen events.symm
  obtain ⟨enabled, answer, seen, events, isAnswer⟩ :=
    waiting.perform (show (EventCall.enables 0xF1000000).IsMade _ from ⟨rfl, rfl⟩)
  obtain rfl : answer = 1 := isAnswer _ rfl
  have active : (asking (inFirstSlot .active) 0x07 5 7 0).HasSeen (pure ()) _ :=
    .elsewhere seen events.symm
  obtain ⟨delivered, answer, seen, events, -⟩ :=
    active.perform (show (EventCall.delivers 5 7).IsMade _ from ⟨⟨rfl, rfl⟩, rfl⟩)
  exact ⟨answer, .elsewhere seen events.symm⟩

/-- An event that has been opened and enabled is found ready after a delivery. -/
theorem events_areLatches_afterDelivery :
    ∃ history after,
      (asking (inFirstSlot .ready) 0x0B 0xF1000000 0 0).HasSeen (pure ()) history ∧
        (EventCall.tests 0xF1000000).IsMade (asking (inFirstSlot .ready) 0x0B 0xF1000000 0 0) ∧
        (Action.serveTrap (pure ()) .tableB).run
            (asking (inFirstSlot .ready) 0x0B 0xF1000000 0 0) =
          .ok () after ∧
        after.cpu.registers.get Reg.v0 = 1 := by
  obtain ⟨answer, hasSeen⟩ := hasSeen_delivery
  have isMade :
      (EventCall.tests 0xF1000000).IsMade
        (asking (inFirstSlot .ready) 0x0B 0xF1000000 0 0) :=
    ⟨rfl, rfl⟩
  obtain ⟨after, ran, tests, -⟩ := events_areLatches hasSeen isMade
  refine ⟨_, after, hasSeen, isMade, ran, ?_⟩
  refine (tests 0xF1000000 (.inl rfl)).2.mpr ⟨⟨0xF1000000, 5, 7⟩, ?_, rfl, ?_⟩
  · exact List.mem_singleton.mpr rfl
  · exact
      ⟨[], _, _, rfl,
        ⟨List.mem_singleton.mpr rfl, [], _, _, rfl, ⟨rfl, .inl rfl⟩, fun _ none => nomatch none⟩,
        fun _ none => nomatch none⟩

end PsxPlayer
