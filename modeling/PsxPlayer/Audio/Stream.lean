import PsxPlayer.Audio.Channel
import PsxPlayer.Audio.Sink

namespace PsxPlayer

/-!
# Sample streams

A bounded queue of blocks between the synthesis, which writes them, and a player
that pulls them at its own pace.
-/

/-- A queue of blocks. -/
structure SampleStream where
  channel : Channel Block
  deriving DecidableEq, Repr

namespace SampleStream

/-- An empty stream with room for `capacity` blocks, one at least. -/
def ofCapacity (capacity : Nat) : SampleStream :=
  ⟨Channel.ofCapacity Block capacity⟩

/--
Write a block. The answer is nothing while the stream is full, when the writer
has to wait, and a fault once the reader is gone.
-/
def write (stream : SampleStream) (block : Block) : Except Fault (Option SampleStream) :=
  match stream.channel.send block with
  | .accepted channel => .ok (some ⟨channel⟩)
  | .full => .ok none
  | .refused => .error .streamClosed

/-- Take a block if one is ready. -/
def next? (stream : SampleStream) : Option Block × SampleStream :=
  let (block, channel) := stream.channel.receive?
  (block, ⟨channel⟩)

/-- Blocks that are ready. -/
def pending (stream : SampleStream) : Nat :=
  stream.channel.waiting.length

/-- Every block that is ready, and the stream without them. -/
def drain (stream : SampleStream) : List Block × SampleStream :=
  (stream.channel.waiting, ⟨{ stream.channel with waiting := [] }⟩)

/-- Give up reading. -/
def close (stream : SampleStream) : SampleStream :=
  ⟨stream.channel.close⟩

end SampleStream

end PsxPlayer
