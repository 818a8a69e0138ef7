import PsxPlayer.Fault
import PsxPlayer.Interrupt

namespace PsxPlayer

/-!
# Root counters

Three hardware counters and a frame pacer run off one wrapping 32-bit cycle
clock. A counter is not ticked: it keeps the cycle at which it was armed and the
number of cycles until it fires, and the bank keeps the nearest deadline.

The clock also paces the sound: one output sample belongs to every
`samplePeriod` cycles, and `runAudio` asks for the samples that have become due.
-/

/-- Processor clock in Hz. -/
def clockRate : Nat := 33868800

/-- Hardware cycles that pass per cycle of the interpreter. -/
def cycleScale : Nat := 2

/-- Output samples per second. -/
def sampleRate : Nat := 44100

/-- Interpreter cycles per output sample. -/
def samplePeriod : Nat := clockRate / sampleRate / cycleScale

/-- The deadline of a counter that never fires. -/
def never : UInt32 := 0xFFFFFFFF

/-- Lines in a frame, from which the line rate is derived. -/
def linesPerFrame : Nat := 262

/-- Pixel clocks in a line. -/
def pixelsPerLine : Nat := 386

/-- One root counter. -/
structure Counter where
  /-- The count at `startCycle`. -/
  count : UInt32
  /-- The mode register as written. -/
  mode : UInt32
  target : UInt32
  /-- Hardware cycles per count. -/
  rate : Nat
  /-- The interrupt line raised on firing. -/
  line : Lines
  /-- The clock when the counter was last armed. -/
  startCycle : UInt32
  /-- Cycles from `startCycle` until the counter fires, or `never`. -/
  deadline : UInt32
  deriving DecidableEq, Repr

namespace Counter

/-- Bit 0 of the mode: counter 2 stands still. -/
def syncEnable : UInt32 := 0x001

/-- Bit 4 of the mode: fire at the target. -/
def irqOnTarget : UInt32 := 0x010

/-- Bit 5 of the mode: fire at 0xFFFF. -/
def irqOnMax : UInt32 := 0x020

/-- Bit 6 of the mode: keep firing. -/
def irqRepeat : UInt32 := 0x040

/-- Bit 8 of the mode: pixel clock for counter 0, line clock for counter 1. -/
def videoClock : UInt32 := 0x100

/-- Bit 9 of the mode: an eighth of the system clock for counter 2. -/
def slowClock : UInt32 := 0x200

/-- Whether `flag` is set in the mode. -/
def has (counter : Counter) (flag : UInt32) : Bool :=
  counter.mode &&& flag != 0

/-- A counter that is switched off. -/
def idle (line : Lines) : Counter where
  count := 0
  mode := 0
  target := 0
  rate := 1
  line := line
  startCycle := 0
  deadline := never

/-- The counts left until the counter fires. -/
def span (counter : Counter) : UInt32 :=
  if counter.has irqOnTarget then
    (counter.target - counter.count) &&& 0xFFFF
  else
    0xFFFF - (counter.count &&& 0xFFFF)

/-- Cycles that `span` counts take. -/
def spanCycles (counter : Counter) : UInt32 :=
  UInt32.ofNat (min (counter.span.toNat * counter.rate / cycleScale) (never.toNat - 1))

/-- Arm counter `index` at clock `now`. -/
def rearm (counter : Counter) (index : Nat) (now : UInt32) : Counter :=
  let stopped := index == 2 && counter.has syncEnable
  let armed := counter.has irqOnTarget || counter.has irqOnMax
  { counter with
    startCycle := now
    deadline := if !stopped && armed then counter.spanCycles else never }

/-- Cycles since the counter was armed. -/
def elapsed (counter : Counter) (now : UInt32) : UInt32 :=
  now - counter.startCycle

/-- Whether the deadline has passed; an idle counter's is the last cycle of all. -/
def isDue (counter : Counter) (now : UInt32) : Bool :=
  counter.elapsed now ≥ counter.deadline

/-- The count at clock `now`, 16 bits. -/
def countAt (counter : Counter) (now : UInt32) : UInt32 :=
  let ticks := cycleScale * (counter.elapsed now).toNat / max counter.rate 1
  (counter.count + UInt32.ofNat ticks) &&& 0xFFFF

/-- Restart from zero after firing, switched off unless the counter repeats. -/
def restart (counter : Counter) (index : Nat) (now : UInt32) : Counter :=
  let counter := { counter with count := 0 }.rearm index now
  if counter.has irqRepeat then counter else { counter with deadline := never }

end Counter

/-- Consumer of due output samples. -/
class SamplePacer (ρ : Type) where
  /-- Produce this many samples. -/
  synthesize : Nat → EStateM Fault ρ Unit

/-- The four counters with the clock they run off. -/
structure CounterBank where
  counter0 : Counter
  counter1 : Counter
  counter2 : Counter
  /-- The frame pacer. -/
  frame : Counter
  /-- The cycle clock. -/
  cycle : UInt32
  /-- Cycles from `deadlineBase` to the nearest deadline. -/
  nextDeadline : UInt32
  /-- The clock when `nextDeadline` was computed. -/
  deadlineBase : UInt32
  /-- The clock up to which audio has been asked for. -/
  audioCycle : UInt32
  /-- Frames per second. -/
  vsyncRate : Nat
  deriving DecidableEq, Repr

namespace CounterBank

/-- Counter `index`; 3 is the frame pacer. -/
def get (bank : CounterBank) (index : Nat) : Counter :=
  match index with
  | 0 => bank.counter0
  | 1 => bank.counter1
  | 2 => bank.counter2
  | _ => bank.frame

/-- Replace counter `index`. -/
def set (bank : CounterBank) (index : Nat) (counter : Counter) : CounterBank :=
  match index with
  | 0 => { bank with counter0 := counter }
  | 1 => { bank with counter1 := counter }
  | 2 => { bank with counter2 := counter }
  | _ => { bank with frame := counter }

/-- The four counters in order. -/
def counters (bank : CounterBank) : List Counter :=
  [bank.counter0, bank.counter1, bank.counter2, bank.frame]

/-- Arm counter `index` at the current clock. -/
def rearm (bank : CounterBank) (index : Nat) : CounterBank :=
  bank.set index ((bank.get index).rearm index bank.cycle)

/--
The distance to the nearest deadline, at most 0x7FFFFFFF and zero as soon as a
deadline has been passed.
-/
def nearest (now : UInt32) : UInt32 → List Counter → UInt32
  | found, [] => found
  | found, counter :: rest =>
      if counter.deadline = never then
        nearest now found rest
      else if counter.deadline < counter.elapsed now then
        0
      else
        nearest now (min found (counter.deadline - counter.elapsed now)) rest

/-- Record the nearest deadline. -/
def schedule (bank : CounterBank) : CounterBank :=
  { bank with
    nextDeadline := nearest bank.cycle 0x7FFFFFFF bank.counters
    deadlineBase := bank.cycle }

/-- The bank after power-on: only the frame pacer runs. -/
def initial (vsyncRate : Nat) : CounterBank :=
  let frame : Counter :=
    { Counter.idle .vblank with
      mode := 0x058
      target := 1
      rate := clockRate / max vsyncRate 1 }
  schedule
    { counter0 := .idle .timer0
      counter1 := .idle .timer1
      counter2 := .idle .timer2
      frame := frame.rearm 3 0
      cycle := 0
      nextDeadline := 0
      deadlineBase := 0
      audioCycle := 0
      vsyncRate := max vsyncRate 1 }

/-- The bank after a reset, at the same frame rate. -/
def reset (bank : CounterBank) : CounterBank :=
  initial bank.vsyncRate

/-- Advance the clock. -/
def advance (bank : CounterBank) (cycles : UInt32) : CounterBank :=
  { bank with cycle := bank.cycle + cycles }

/-- Write the count of counter `index`. -/
def writeCount (bank : CounterBank) (index : Nat) (value : UInt32) : CounterBank :=
  (bank.set index { bank.get index with count := value &&& 0xFFFF }).rearm index
    |>.schedule

/-- Hardware cycles per count that a mode selects for counter `index`. -/
def rateOf (bank : CounterBank) (index : Nat) (mode : UInt32) : Nat :=
  if index = 0 ∧ mode &&& Counter.videoClock ≠ 0 then
    max (bank.frame.rate / pixelsPerLine / linesPerFrame) 1
  else if index = 1 ∧ mode &&& Counter.videoClock ≠ 0 then
    max (bank.frame.rate / linesPerFrame) 1
  else if index = 2 ∧ mode &&& Counter.slowClock ≠ 0 then
    8
  else
    1

/-- Write the mode of counter `index`: select its rate and count from zero. -/
def writeMode (bank : CounterBank) (index : Nat) (value : UInt32) : CounterBank :=
  (bank.set index
      { bank.get index with
        mode := value
        count := 0
        rate := bank.rateOf index value }).rearm index
    |>.schedule

/-- Write the target of counter `index`. -/
def writeTarget (bank : CounterBank) (index : Nat) (value : UInt32) : CounterBank :=
  (bank.set index { bank.get index with target := value &&& 0xFFFF }).rearm index
    |>.schedule

/-- The count register of counter `index`. -/
def readCount (bank : CounterBank) (index : Nat) : UInt32 :=
  (bank.get index).countAt bank.cycle

/-- Whether the nearest deadline has passed. -/
def deadlineReached (bank : CounterBank) : Bool :=
  bank.cycle - bank.deadlineBase ≥ bank.nextDeadline

/-- Move the clock forward to the nearest deadline, never beyond it. -/
def skipToDeadline (bank : CounterBank) : CounterBank :=
  if bank.deadlineReached then
    bank
  else
    { bank with cycle := bank.deadlineBase + bank.nextDeadline }

/-- Whole sample periods since audio was last asked for. -/
def periodsDue (bank : CounterBank) : Nat :=
  (bank.cycle - bank.audioCycle).toNat / samplePeriod

/-- Move the audio position past the periods that are due. -/
def claimPeriods (bank : CounterBank) : CounterBank :=
  { bank with
    audioCycle := bank.audioCycle + UInt32.ofNat (bank.periodsDue * samplePeriod) }

/-- Ask `pacer` for the samples that have become due. -/
def runAudio
    {ρ : Type} [SamplePacer ρ]
    (bank : CounterBank)
    (pacer : ρ) :
    CounterBank × EStateM.Result Fault ρ Unit :=
  if bank.periodsDue = 0 then
    (bank, .ok () pacer)
  else
    (bank.claimPeriods, (SamplePacer.synthesize bank.periodsDue).run pacer)

/-- Fire counter `index` if it is due. -/
def fireIfDue
    (state : CounterBank × InterruptController)
    (index : Nat) :
    CounterBank × InterruptController :=
  let (bank, interrupts) := state
  let counter := bank.get index
  if counter.isDue bank.cycle then
    (bank.set index (counter.restart index bank.cycle),
      interrupts.request counter.line)
  else
    (bank, interrupts)

/-- What a service of the counters leaves behind. -/
structure Serviced (ρ : Type) where
  bank : CounterBank
  interrupts : InterruptController
  /-- The pacer, with the fault if it failed. -/
  pacer : EStateM.Result Fault ρ Unit

/-- Fire the hardware counters that are due and record the next deadline. -/
def fireCounters
    (bank : CounterBank)
    (interrupts : InterruptController) :
    CounterBank × InterruptController :=
  let (bank, interrupts) := [0, 1, 2].foldl fireIfDue (bank, interrupts)
  (bank.schedule, interrupts)

/--
Service everything that is due. The frame pacer comes first and asks for audio;
when the pacer fails, the hardware counters and the deadline wait for the next
service.
-/
def update
    {ρ : Type} [SamplePacer ρ]
    (bank : CounterBank)
    (interrupts : InterruptController)
    (pacer : ρ) :
    Serviced ρ :=
  if bank.frame.isDue bank.cycle then
    let bank := bank.rearm 3
    let interrupts := interrupts.request .vblank
    match bank.runAudio pacer with
    | (bank, .ok () pacer) =>
        let (bank, interrupts) := bank.fireCounters interrupts
        ⟨bank, interrupts, .ok () pacer⟩
    | (bank, .error fault pacer) => ⟨bank, interrupts, .error fault pacer⟩
  else
    let (bank, interrupts) := bank.fireCounters interrupts
    ⟨bank, interrupts, .ok () pacer⟩

end CounterBank

end PsxPlayer
