import PsxPlayer.Proofs.Player

namespace PsxPlayer

/-!
# A reset starts afresh

Whatever has been done to a console, a reset leaves it as one that has just been set up
with the settings it has by then, but for what it has recorded and printed.  Neither has
a part in what happens next, so that the two stay alike from then on and the console
records, behind what it had recorded, just what the new one records.
-/

namespace AddressSpace

theorem mapped_plant (space : AddressSpace) : (Trap.plant space).mapped = space.mapped := by
  have folded
      {store : AddressSpace → UInt32 × UInt32 → AddressSpace}
      (keeps : ∀ space entry, (store space entry).mapped = space.mapped)
      (entries : List (UInt32 × UInt32))
      (space : AddressSpace) :
      (entries.foldl store space).mapped = space.mapped := by
    induction entries generalizing space with
    | nil => rfl
    | cons entry rest inductionHypothesis =>
        exact (inductionHypothesis _).trans (keeps space entry)
  rw [Trap.plant, folded fun _ _ => mapped_write _ _ _ _, Trap.plantRom]

/-- Of what memory held, clearing it and planting the traps leaves nothing. -/
theorem plant_clear {space : AddressSpace} (mapped : space.mapped = true) :
    Trap.plant space.clear = Trap.plant blank.setUp := by
  have sameRom : Trap.plantRom space.clear = Trap.plantRom blank.setUp := by
    simp only [Trap.plantRom, clear, setUp, mapped]
  rw [Trap.plant, Trap.plant, sameRom]

/-- Loading a firmware image maps nothing anew. -/
theorem mapped_of_loadRom
    {space loaded : AddressSpace}
    {image : ByteArray}
    (found : space.loadRom image = .ok loaded) :
    loaded.mapped = space.mapped := by
  unfold loadRom at found
  split at found
  · cases found
  · cases found
    rfl

end AddressSpace

/-- The frame rate is one at least. -/
theorem CounterBank.initial_of_max
    {rate otherRate : Nat}
    (same : max rate 1 = max otherRate 1) :
    initial rate = initial otherRate := by
  rw [initial, initial, same]

/-- What the owner of a console does to it. -/
inductive OwnerCommand where
  | steps (count : Nat)
  | runUntil (target : UInt32) (limit : Nat)
  | runCycles (cycles : UInt32)
  | runSeconds (count : Nat)
  | write (width : Width) (address value : UInt32)
  /-- Load a program, which may reach into the ROM. -/
  | load (program : Executable)
  /-- Replace the ROM, unless the image is too large. -/
  | loadRom (image : ByteArray)
  | updateCounters
  | runAudio
  /-- Send a request to the sound worker. -/
  | send (request : SoundRequest)
  /-- Change the sound processor between requests. -/
  | access (change : SoundProcessor → SoundProcessor)
  /-- Take everything but the frame rate and the sound from another machine. -/
  | arrange (other : Machine)
  /-- End the recording. -/
  | finish
  | reset

namespace Machine

/-- A machine with the state of another, but for its frame rate and its sound. -/
def arranged (machine other : Machine) : Machine :=
  { other with
    bus :=
      { other.bus with
        memory := other.bus.memory.setUp
        counters :=
          { other.bus.counters with vsyncRate := machine.bus.counters.vsyncRate }
        link := machine.bus.link } }

end Machine

namespace OwnerCommand

/-- Carry out a command. -/
def perform : OwnerCommand → Action Unit
  | .steps count => Action.steps count
  | .runUntil target limit => do
      let _reached ← Action.runUntil Action.step target limit
      pure ()
  | .runCycles cycles => Action.runCycles cycles
  | .runSeconds count => Action.runSeconds count
  | .write width address value => Action.write width address value
  | .load program => modify fun machine => machine.loadExecutable program
  | .loadRom image => fun machine =>
      match machine.bus.memory.loadRom image with
      | .ok memory => .ok () (machine.modifyMemory fun _ => memory)
      | .error fault => .error fault machine
  | .updateCounters => Action.onBus Bus.updateCounters
  | .runAudio => Action.onBus Bus.runAudio
  | .send request => Action.onBus (Bus.request request)
  | .access change => Action.modifyBus fun bus => bus.modifySound change
  | .arrange other => modify fun machine => machine.arranged other
  | .finish => Action.finish
  | .reset => modify Machine.reset

end OwnerCommand

namespace Machine

theorem reset_eq (machine : Machine) :
    machine.reset =
      { cpu := machine.cpu.reset
        firmware := .initial
        bus :=
          { memory := Trap.plant machine.bus.memory.clear
            interrupts := .initial
            counters := machine.bus.counters.reset
            dma := .initial
            link := machine.bus.link.modifySound SoundProcessor.reset }
        printed := machine.printed } := by
  simp only [reset, Bus.reset]

/-- A reset leaves what was recorded and printed alone. -/
theorem reset_withRecording
    (machine : Machine)
    (recording : Recording)
    (printed : Array String) :
    (machine.withRecording recording printed).reset =
      machine.reset.withRecording recording printed := by
  simp only [reset_eq, withRecording, Bus.withRecording, SoundLink.withRecording,
    SoundLink.modifySound, SoundWorker.modifySound]

/-- A reset keeps the frames recorded so far. -/
theorem recorded_reset (machine : Machine) :
    machine.reset.bus.link.recorded = machine.bus.link.recorded := by
  simp only [reset_eq, SoundLink.recorded, SoundWorker.recording, SoundLink.modifySound,
    SoundWorker.modifySound]

/-- A reset keeps the frame rate, and memory stays set up. -/
theorem isSetUp_reset
    {machine : Machine}
    {rate : Nat}
    (isSetUp : machine.bus.IsSetUp rate) :
    machine.reset.bus.IsSetUp rate := by
  rw [reset_eq]
  refine ⟨(AddressSpace.mapped_plant _).trans isSetUp.mapped, ?_⟩
  have paced : machine.bus.counters.reset.vsyncRate = max machine.bus.counters.vsyncRate 1 :=
    rfl
  simp only [paced]
  rw [Nat.max_eq_left (Nat.le_max_right _ _)]
  exact isSetUp.rate

end Machine

namespace Action

/--
A change is deaf when the recording does not matter to it, and it keeps the recorded
frames and what is set up.
-/
theorem isDeaf_modify
    {change : Machine → Machine}
    (unheard : IsUnheard (fun _ => ()) change)
    (silent : ∀ machine, (change machine).bus.link.recorded = machine.bus.link.recorded)
    (isSetUp : ∀ machine rate, machine.bus.IsSetUp rate → (change machine).bus.IsSetUp rate) :
    IsDeaf (modify change) :=
  unheard.isDeaf (fun _ => rfl) silent isSetUp

/-- Loading a firmware image is deaf. -/
theorem isDeaf_loadRom (image : ByteArray) :
    IsDeaf (OwnerCommand.loadRom image).perform := by
  intro past rate first second tracks
  obtain ⟨recording, printed, rfl, recorded⟩ := tracks.follows.exists_withRecording
  have ran (machine : Machine) :
      (OwnerCommand.loadRom image).perform.run machine =
        match machine.bus.memory.loadRom image with
        | .ok memory => .ok () (machine.modifyMemory fun _ => memory)
        | .error fault => .error fault machine :=
    rfl
  have sameMemory :
      (second.withRecording recording printed).bus.memory = second.bus.memory :=
    rfl
  rw [ran, ran, sameMemory]
  cases found : second.bus.memory.loadRom image with
  | error fault => exact .error fault tracks
  | ok memory =>
      let loaded := second.modifyMemory fun _ => memory
      have isSetUp : loaded.bus.IsSetUp rate :=
        tracks.isSetUp.of_same (AddressSpace.mapped_of_loadRom found) rfl
      have stillRecorded : recording.samples = past ++ loaded.bus.link.recorded := recorded
      exact .ok () ⟨Machine.follows_withRecording stillRecorded printed, isSetUp⟩

/-- Finishing the audio is deaf. -/
theorem isDeaf_finish : IsDeaf finish := by
  have looked : IsDeaf (ofBus fun bus => bus.link.isRunning) :=
    (composed_ofBus fun _ _ => rfl).isDeaf
  have closed : IsDeaf (onBus Bus.closeLink) := isDeaf_onBus Bus.isDeaf_closeLink
  refine .bind looked fun runs => ?_
  simp only
  split
  · exact .bind (isDeaf_onBus Bus.isDeaf_runAudio) fun _ => closed
  · exact closed

/-- A reset is deaf. -/
theorem isDeaf_reset : IsDeaf (modify Machine.reset) :=
  isDeaf_modify
    (fun machine _ printed => ⟨rfl, printed, machine.reset_withRecording _ _⟩)
    Machine.recorded_reset fun _ _ => Machine.isSetUp_reset

/-- Nothing that the owner does depends on what has been recorded. -/
theorem isDeaf_perform (command : OwnerCommand) : IsDeaf command.perform := by
  cases command with
  | steps count => exact (composed_steps count).isDeaf
  | runUntil target limit =>
      exact .bind (composed_runUntil composed_step target limit).isDeaf fun _ => .pure ()
  | runCycles cycles => exact (composed_runCycles cycles).isDeaf
  | runSeconds count => exact (composed_runSeconds count).isDeaf
  | write width address value => exact isDeaf_onBus (Bus.isDeaf_write width address value)
  | load program =>
      refine isDeaf_modify (fun _ _ _ => ⟨rfl, _, rfl⟩) (fun _ => rfl) ?_
      exact fun _ _ isSetUp => isSetUp.of_same (AddressSpace.mapped_load _ _ _) rfl
  | loadRom image => exact isDeaf_loadRom image
  | updateCounters => exact isDeaf_onBus Bus.isDeaf_updateCounters
  | runAudio => exact isDeaf_onBus Bus.isDeaf_runAudio
  | send request => exact isDeaf_onBus (Bus.isDeaf_request request)
  | access change =>
      have changed : Bus.IsDeaf (modify fun bus => bus.modifySound change) :=
        Bus.isDeaf_modify (fun _ _ => rfl) (fun _ => rfl) fun _ => ⟨rfl, rfl⟩
      exact isDeaf_modifyBus changed
  | arrange other =>
      exact
        isDeaf_modify (fun _ _ _ => ⟨rfl, _, rfl⟩) (fun _ => rfl) fun _ _ isSetUp =>
          ⟨rfl, isSetUp.rate⟩
  | finish => exact isDeaf_finish
  | reset => exact isDeaf_reset

end Action

namespace Machine

/-- The machine after commands one after the other, whether they failed or not. -/
def followAll (machine : Machine) (commands : List OwnerCommand) : Machine :=
  commands.foldl (fun machine command => stateAfter command.perform machine) machine

variable {past : List Int} {rate : Nat} {first second : Machine}

/--
Two machines that differ by a recorded past keep doing so under any commands of the
owner.
-/
theorem Tracks.followAll
    (tracks : first.Tracks past rate second)
    (commands : List OwnerCommand) :
    (first.followAll commands).Tracks past rate (second.followAll commands) := by
  induction commands generalizing first second with
  | nil => exact tracks
  | cons command rest inductionHypothesis =>
      have alike := Action.isDeaf_perform command past rate first second tracks
      have stillAlike :
          (stateAfter command.perform first).Tracks past rate
            (stateAfter command.perform second) := by
        unfold stateAfter
        generalize command.perform.run first = result,
          command.perform.run second = otherResult at alike ⊢
        cases alike with
        | ok value alike => exact alike
        | error fault alike => exact alike
      exact inductionHypothesis stillAlike

/-- The settings a machine was set up with, brought up to date. -/
def settingsNow (machine : Machine) (settings : Settings) : Settings :=
  { settings with
    filter := machine.bus.link.sound.filter
    reverb := machine.bus.link.sound.reverbEnabled
    skipsIdleLoops := machine.cpu.skipsIdleLoops }

/-- A machine that has just been set up. -/
def setUpBy (settings : Settings) : Machine where
  cpu := { Cpu.initial with skipsIdleLoops := settings.skipsIdleLoops }
  firmware := .initial
  bus := Player.busOf settings
  printed := #[]

/-- What a created player was made of. -/
theorem of_created
    {settings : Settings}
    {player : Player}
    (created : Player.create settings = .ok player) :
    settings.validate = .ok () ∧
      settings.ringFrames < SoundWorker.ringBound ∧ player.machine = setUpBy settings := by
  unfold Player.create at created
  cases valid : settings.validate with
  | error fault =>
      rw [valid] at created
      cases created
  | ok _ =>
      rw [valid] at created
      change (if _ then _ else _) = _ at created
      split at created
      · cases created
      · next small =>
          cases created
          exact ⟨rfl, Nat.lt_of_not_ge small, rfl⟩

/-- Valid settings with a ring that is not too large can be set up. -/
theorem create_of_valid
    {settings : Settings}
    (valid : settings.validate = .ok ())
    (small : settings.ringFrames < SoundWorker.ringBound) :
    Player.create settings = .ok ⟨settings, setUpBy settings⟩ := by
  unfold Player.create
  rw [valid]
  exact if_neg (Nat.not_le_of_lt small)

/-- A machine set up by its settings paces the video at their rate, which is never zero. -/
theorem isSetUp_setUpBy (settings : Settings) :
    (setUpBy settings).bus.IsSetUp (max settings.vsyncRate 1) := by
  simp only [setUpBy, Player.busOf, Bus.initial]
  refine ⟨AddressSpace.mapped_plant _, ?_⟩
  exact Nat.max_eq_left (Nat.le_max_right _ _)

/-- A reset machine is like one that has just been set up with its settings. -/
theorem tracks_reset
    {machine : Machine}
    (settings : Settings)
    (isSetUp : machine.bus.IsSetUp (max settings.vsyncRate 1))
    (serving : machine.bus.link.phase = .serving) :
    machine.reset.Tracks machine.bus.link.recorded (max settings.vsyncRate 1)
      (setUpBy (machine.settingsNow settings)) := by
  have sameMemory := AddressSpace.plant_clear isSetUp.mapped
  have sameCounters := CounterBank.initial_of_max isSetUp.rate
  have recorded := recorded_reset machine
  refine ⟨⟨rfl, rfl, ?_⟩, isSetUp_setUpBy (machine.settingsNow settings)⟩
  simp only [reset_eq, SoundLink.modifySound, SoundWorker.modifySound] at recorded ⊢
  simp only [setUpBy, Player.busOf, Bus.initial, SoundLink.start, SoundWorker.start]
  refine ⟨sameMemory, rfl, sameCounters, rfl, serving, ?_, ?_⟩
  · simp only [SoundLink.sound, SoundProcessor.reset, Player.soundOf, settingsNow]
  · exact recorded.trans (List.append_nil _).symm

/--
A reset starts afresh, whatever has been done to a console since it was set up, as long as
its sound worker still serves.  A new console with the same settings, of which the owner
may have changed filter, reverb and idle loops, then has the same processor, firmware,
memory, devices and sound.  It still has after any further commands, each of which fails
or succeeds on both alike, and behind what had been recorded before the reset the console
records just what the new one records.
-/
theorem reset_followsFresh
    {settings : Settings}
    {player : Player}
    (created : Player.create settings = .ok player)
    (commands : List OwnerCommand)
    (serving : (player.machine.followAll commands).bus.link.phase = .serving) :
    let machine := player.machine.followAll commands
    ∃ fresh,
      Player.create (machine.settingsNow settings) = .ok fresh ∧
        ∀ later,
          (machine.reset.followAll later).Follows machine.bus.link.recorded
              (fresh.machine.followAll later) ∧
            ∀ next : OwnerCommand,
              EndAlike (Follows machine.bus.link.recorded)
                (next.perform.run (machine.reset.followAll later))
                (next.perform.run (fresh.machine.followAll later)) := by
  intro machine
  obtain ⟨valid, small, setUp⟩ := of_created created
  -- a machine that follows itself is one that is set up
  have itself : player.machine.Tracks [] (max settings.vsyncRate 1) player.machine :=
    ⟨⟨rfl, rfl, rfl, rfl, rfl, rfl, rfl, rfl, rfl⟩, setUp ▸ isSetUp_setUpBy settings⟩
  have stillSetUp := (itself.followAll commands).isSetUp
  have tracks := tracks_reset settings stillSetUp serving
  refine ⟨_, create_of_valid valid small, fun later => ?_⟩
  have stillTracks := tracks.followAll later
  refine ⟨stillTracks.follows, fun next => ?_⟩
  exact (Action.isDeaf_perform next _ _ _ _ stillTracks).imp fun _ _ alike => alike.follows

/-- Another ROM, frames in the ring and another filter. -/
def adjustingCommands : List OwnerCommand :=
  [.loadRom ⟨#[0xFF]⟩, .send (.samples 2),
    .access fun sound => { sound with filter := .linear }]

/--
A console with another ROM, frames and another filter follows, once reset, a fresh one
with that filter.
-/
theorem reset_followsFresh_adjusted :
    ∃ player fresh,
      Player.create .default = .ok player ∧
        (player.machine.followAll adjustingCommands).bus.link.phase = .serving ∧
        Player.create { Settings.default with filter := .linear } = .ok fresh ∧
        ∀ later,
          ((player.machine.followAll adjustingCommands).reset.followAll later).Follows
            (player.machine.followAll adjustingCommands).bus.link.recorded
            (fresh.machine.followAll later) := by
  have created :=
    create_of_valid (show Settings.default.validate = .ok () from rfl) (by decide)
  have serving :
      ((setUpBy .default).followAll adjustingCommands).bus.link.phase = .serving :=
    rfl
  obtain ⟨fresh, createdAgain, follows⟩ := reset_followsFresh created adjustingCommands serving
  have adjusted :
      ((setUpBy .default).followAll adjustingCommands).settingsNow .default =
        { Settings.default with filter := .linear } :=
    rfl
  rw [adjusted] at createdAgain
  exact ⟨_, fresh, created, serving, createdAgain, fun later => (follows later).1⟩

end Machine

end PsxPlayer
