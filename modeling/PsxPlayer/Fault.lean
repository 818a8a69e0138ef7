namespace PsxPlayer

/-!
# Faults

Everything that can go wrong while loading, configuring or running the
player, by cause. `Fault.message` gives the text shown to the user.
-/

/-- The cause of a failed operation. -/
inductive Fault where
  /-- A file could not be read, or did not hold text where text is needed. -/
  | io
  /-- An executable shorter than its header. -/
  | imageTooShort (size : Nat)
  /-- An executable without the leading magic. -/
  | missingMagic
  /-- A ROM image larger than the ROM window. -/
  | romTooLarge (size limit : Nat)
  /-- A frame rate other than 50 or 60. -/
  | vsyncRate (rate : Nat)
  /-- An audio block without frames. -/
  | emptyBlock
  /-- A filter name that is none of the four. -/
  | unknownFilter (name : String)
  /-- An environment setting that is no boolean. -/
  | notBoolean (key value : String)
  /-- An environment setting that is no number in range. -/
  | notNumber (key value : String)
  /-- A settings file that is no document of the six settings. -/
  | malformedSettings
  /-- A wave file that cannot be created, written or completed. -/
  | wave
  /-- A block sent to a sample stream whose reader is gone. -/
  | streamClosed
  /-- Direct playback, which needs an audio device. -/
  | noAudioDevice
  /-- A request made after the sound worker stopped. -/
  | workerGone
  /-- A voice number above 23. -/
  | invalidVoice (index : Nat)
  /-- A memory access before the segment map exists. -/
  | unmappedSpace (address : UInt32)
  /-- Instructions nested inside one another beyond the interpreter's limit. -/
  | nestingTooDeep
  /-- A ring of more bytes than a block of memory can have. -/
  | ringTooLarge
  /-- A text with the character NUL, which a variable cannot have as its value. -/
  | nulInVariable (key : String)
  deriving DecidableEq, Repr

/-- Upper-case hexadecimal text of a word, padded with zeros to `width` digits. -/
def hexUpper (width : Nat) (value : Nat) : String :=
  let digits := (Nat.toDigits 16 value).map Char.toUpper
  String.ofList (List.replicate (width - digits.length) '0' ++ digits)

namespace Fault

/-- The text of a fault. -/
def message : Fault → String
  | .io => "I/O error"
  | .imageTooShort size =>
      s!"Loader error: PSX-EXE is {size} bytes, shorter than its 2048-byte header"
  | .missingMagic => "Loader error: missing PS-X EXE magic"
  | .romTooLarge size limit =>
      s!"Loader error: BIOS image is {size} bytes (at most {limit} allowed)"
  | .vsyncRate rate =>
      s!"Configuration error: vsync_hz must be 50 or 60, got {rate}"
  | .emptyBlock => "Configuration error: ring_frames must be at least 1"
  | .unknownFilter name =>
      "Configuration error: unknown interpolation '" ++ name ++
        "' (expected none, linear, gaussian or cubic)"
  | .notBoolean key value =>
      "Configuration error: " ++ key ++ " expects a boolean, got '" ++ value ++ "'"
  | .notNumber key value =>
      "Configuration error: " ++ key ++ " expects a number, got '" ++ value ++ "'"
  | .malformedSettings => "Invalid config file"
  | .wave => "WAV output error"
  | .streamClosed => "Audio output error: sample stream receiver dropped"
  | .noAudioDevice =>
      "Audio output error: built without an audio device; use --output instead"
  | .workerGone => "SPU worker is no longer running"
  | .invalidVoice index =>
      s!"Invalid voice index: {index} (valid range: 0-23)"
  | .unmappedSpace address =>
      "address space accessed at 0x" ++ hexUpper 8 address.toNat ++ " before init()"
  | .nestingTooDeep => "instructions nested too deeply"
  | .ringTooLarge => "capacity overflow"
  | .nulInVariable key => "variable " ++ key ++ " cannot be set to a text with NUL"

/-- Whether a fault ends the whole program at once, wherever it occurs. -/
def isFatal : Fault → Bool
  | .unmappedSpace _ | .ringTooLarge | .nulInVariable _ => true
  | _ => false

end Fault

end PsxPlayer
