namespace PsxPlayer

/-!
# Interrupt controller

Eleven interrupt lines are latched in the status register. A line reaches the
processor while it is set in the mask register too. Writing the status register
acknowledges: it clears the lines that are both written and enabled.
-/

/-- A set of interrupt lines. -/
structure Lines where
  bits : UInt16
  deriving DecidableEq, Repr

namespace Lines

def none : Lines := ⟨0⟩
def vblank : Lines := ⟨0x001⟩
def dma : Lines := ⟨0x008⟩
def timer0 : Lines := ⟨0x010⟩
def timer1 : Lines := ⟨0x020⟩
def timer2 : Lines := ⟨0x040⟩

/-- Every line that exists, bits 0 to 10. -/
def all : Lines := ⟨0x7FF⟩

/-- The existing lines among `bits`. -/
def ofBits (bits : UInt16) : Lines :=
  ⟨bits &&& all.bits⟩

/-- Whether all of `part` is in `lines`. -/
def contains (lines part : Lines) : Bool :=
  lines.bits &&& part.bits == part.bits

end Lines

/-- Latched lines and the mask that lets them through. -/
structure InterruptController where
  status : UInt16
  mask : UInt16
  deriving DecidableEq, Repr

namespace InterruptController

/-- No line raised, none enabled. -/
def initial : InterruptController where
  status := 0
  mask := 0

/-- Raise lines. -/
def request (controller : InterruptController) (lines : Lines) : InterruptController :=
  { controller with status := controller.status ||| lines.bits }

/-- Clear lines whatever the mask says. -/
def acknowledge (controller : InterruptController) (lines : Lines) : InterruptController :=
  { controller with status := controller.status &&& ~~~lines.bits }

/-- Whether a raised line is enabled. -/
def isPending (controller : InterruptController) : Bool :=
  controller.status &&& controller.mask != 0

/-- The lines that are raised and enabled. -/
def pending (controller : InterruptController) : Lines :=
  Lines.ofBits (controller.status &&& controller.mask)

/-- Write the status register: clear the lines written that are enabled. -/
def writeStatus (controller : InterruptController) (value : UInt32) : InterruptController :=
  { controller with
    status := controller.status &&& ~~~(controller.mask &&& value.toUInt16) }

/-- Write the mask register. -/
def writeMask (controller : InterruptController) (value : UInt32) : InterruptController :=
  { controller with mask := value.toUInt16 }

end InterruptController

end PsxPlayer
