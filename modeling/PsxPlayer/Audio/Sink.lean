import PsxPlayer.Fault

namespace PsxPlayer

/-!
# Sample sinks

A sink takes blocks of interleaved stereo samples, and is told once when no more
follow. Either may fail; a sink keeps its state all the same.
-/

/-- A block of interleaved stereo samples. -/
abbrev Block := Array Int

/-- A consumer of blocks. -/
class SampleSink (σ : Type) where
  write : Block → EStateM Fault σ Unit
  finish : EStateM Fault σ Unit

/-- The state after an action, whether it failed or not. -/
def stateAfter {σ α : Type} (action : EStateM Fault σ α) (state : σ) : σ :=
  match action.run state with
  | .ok _ state => state
  | .error _ state => state

/-- A sink that drops everything. -/
structure Silence where
  deriving DecidableEq, Repr

instance : SampleSink Silence where
  write _ := pure ()
  finish := pure ()

/-- A sink that keeps every block. -/
structure Tape where
  /-- The blocks in order. -/
  blocks : Array Block
  /-- How often the end was announced. -/
  finished : Nat
  deriving DecidableEq, Repr

namespace Tape

/-- Nothing recorded. -/
def blank : Tape := ⟨#[], 0⟩

/-- Record a block. -/
def append (tape : Tape) (block : Block) : Tape :=
  { tape with blocks := tape.blocks.push block }

/-- All samples recorded, from block `first` on. -/
def samplesFrom (tape : Tape) (first : Nat) : Array Int :=
  (tape.blocks.extract first tape.blocks.size).foldl (fun all block => all ++ block) #[]

/-- All samples recorded. -/
def samples (tape : Tape) : Array Int :=
  tape.samplesFrom 0

end Tape

instance : SampleSink Tape where
  write block := fun tape => .ok () (tape.append block)
  finish := fun tape => .ok () { tape with finished := tape.finished + 1 }

end PsxPlayer
