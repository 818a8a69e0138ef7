namespace PsxPlayer

/-!
# Events

The guest opens up to 32 events, each for a class and a specification. A delivery
either calls the event's handler or marks it ready; testing a ready event rearms
it. A handle is a tag with the number of the event's slot.
-/

/-- State of an event's slot. -/
inductive EventStatus where
  | unused
  | waiting
  | active
  | ready
  deriving DecidableEq, Repr

/-- An event. -/
structure Event where
  eventClass : UInt32
  specification : UInt32
  mode : UInt32
  handler : UInt32
  status : EventStatus
  deriving DecidableEq, Repr

namespace Event

/-- Mode in which a delivery calls the handler. -/
def callbackMode : UInt32 := 0x1000

/-- Mode in which a delivery marks the event ready. -/
def readyMode : UInt32 := 0x2000

/-- Whether a delivery reaches the event. -/
def receives (event : Event) (eventClass specification : UInt32) : Bool :=
  event.status == .active && event.eventClass == eventClass &&
    event.specification == specification

end Event

/-- The slots in order. -/
structure EventTable where
  slots : List Event
  deriving DecidableEq, Repr

namespace EventTable

/-- No event was ever opened. -/
def empty : EventTable := ⟨[]⟩

/-- The number of slots there can be. -/
def capacity : Nat := 32

/-- The tag of handles. -/
def handleTag : UInt32 := 0xF1000000

/-- The handle of a slot. -/
def handle (slot : Nat) : UInt32 :=
  handleTag ||| UInt32.ofNat slot

/-- The event in a slot. -/
def get? (table : EventTable) (slot : Nat) : Option Event :=
  table.slots[slot]?

/-- The slot of the open event with this handle. -/
def slotOf? (table : EventTable) (handle : UInt32) : Option Nat :=
  let slot := (handle &&& 0xFFFF).toNat
  if handle &&& 0xFFFF0000 = handleTag then
    match table.get? slot with
    | some event => if event.status = .unused then none else some slot
    | none => none
  else
    none

/-- Change the status of a slot. -/
def setStatus (table : EventTable) (slot : Nat) (status : EventStatus) : EventTable :=
  ⟨table.slots.modify slot fun event => { event with status := status }⟩

/-- Open an event in the first unused slot, or in a new one. -/
def open? (table : EventTable) (event : Event) : Option (UInt32 × EventTable) :=
  match table.slots.findIdx? fun event => event.status == .unused with
  | some slot => some (handle slot, ⟨table.slots.set slot event⟩)
  | none =>
      if table.slots.length < capacity then
        some (handle table.slots.length, ⟨table.slots ++ [event]⟩)
      else
        none

/-- Close, enable or disable an event; an unknown handle is refused. -/
def update? (table : EventTable) (handle : UInt32) (status : EventStatus) : Option EventTable :=
  (table.slotOf? handle).map fun slot => table.setStatus slot status

/-- Whether an event is ready; if so it is rearmed. -/
def test (table : EventTable) (handle : UInt32) : Bool × EventTable :=
  match table.slotOf? handle with
  | none => (false, table)
  | some slot =>
      match table.get? slot with
      | some event =>
          if event.status = .ready then
            (true, table.setStatus slot .active)
          else
            (false, table)
      | none => (false, table)

end EventTable

end PsxPlayer
