import PsxPlayer.Player
import PsxPlayer.Proofs.Cpu.Commands
import PsxPlayer.Proofs.Sound.Pacing

namespace PsxPlayer

/-!
# The audio of a whole run

A host runs guest instructions on a machine, or reaches into it between them.  All of
that comes to the bus as commands, so that the audio keeps pace with the clock from
power-on or a reset to the end of the recording.
-/

/-- What a host does to a machine. -/
inductive HostCommand where
  | step
  | steps (count : Nat)
  | runUntil (target : UInt32) (limit : Nat)
  | runCycles (cycles : UInt32)
  | runSeconds (count : Nat)
  | runFrames (frames limit : Nat)
  | write (width : Width) (address value : UInt32)
  | load (program : Executable)
  | onBus (command : BusCommand)
  /-- Take everything but counters and sound from another machine. -/
  | arrange (other : Machine)

namespace HostCommand

/-- Carry out a command. -/
def perform : HostCommand → Action Unit
  | .step => Action.step
  | .steps count => Action.steps count
  | .runUntil target limit => do
      let _reached ← Action.runUntil Action.step target limit
      pure ()
  | .runCycles cycles => Action.runCycles cycles
  | .runSeconds count => Action.runSeconds count
  | .runFrames frames limit => Action.runFrames frames limit
  | .write width address value => Action.write width address value
  | .load program => modify fun machine => machine.loadExecutable program
  | .onBus command => Action.onBus command.perform
  | .arrange other =>
      modify fun machine =>
        { other with
          bus :=
            { other.bus with
              counters := machine.bus.counters
              link := machine.bus.link } }

end HostCommand

namespace Action

theorem composed_steps (count : Nat) : Composed IsElementary (steps count) := by
  induction count with
  | zero => exact .pure ()
  | succ count inductionHypothesis =>
      exact .bind composed_step fun _ => inductionHypothesis

theorem composed_runSince (start cycles : UInt32) (limit : Nat) :
    Composed IsElementary (runSince start cycles limit) := by
  induction limit with
  | zero => exact .pure ()
  | succ limit inductionHypothesis =>
      exact .bind (composed_ofBus fun _ _ => rfl) fun _ =>
        .ite (fun _ => .bind composed_step fun _ => inductionHypothesis) fun _ => .pure ()

theorem composed_runCycles (cycles : UInt32) : Composed IsElementary (runCycles cycles) :=
  .bind (composed_ofBus fun _ _ => rfl) fun _ => composed_runSince _ _ _

theorem composed_runSeconds (count : Nat) : Composed IsElementary (runSeconds count) := by
  induction count with
  | zero => exact .pure ()
  | succ count inductionHypothesis =>
      exact .bind (composed_runCycles _) fun _ => inductionHypothesis

/-- Looking at the meter is not a command, nor is it deaf. -/
theorem isMadeUp_runFrames (frames limit : Nat) :
    IsMadeUp Machine.bus (runFrames frames limit) := by
  induction limit with
  | zero => exact .of_same fun _ => rfl
  | succ limit inductionHypothesis =>
      refine .bind (.of_same fun _ => rfl) fun metered => ?_
      split
      · exact .bind (composed_steps _).isMadeUp fun _ => inductionHypothesis
      · exact .of_same fun _ => rfl

end Action

open PsxPlayer.Action in
/-- Whatever a host does is made up of commands to the bus. -/
theorem HostCommand.isMadeUp (command : HostCommand) :
    IsMadeUp Machine.bus command.perform := by
  cases command with
  | step => exact composed_step.isMadeUp
  | steps count => exact (composed_steps count).isMadeUp
  | runUntil target limit =>
      exact .bind (composed_runUntil composed_step _ _).isMadeUp fun _ =>
        .of_same fun _ => rfl
  | runCycles cycles => exact (composed_runCycles cycles).isMadeUp
  | runSeconds count => exact (composed_runSeconds count).isMadeUp
  | runFrames frames limit => exact isMadeUp_runFrames frames limit
  | write width address value => exact (composed_write value width address).isMadeUp
  | load program => exact .arrange fun _ => ⟨rfl, rfl⟩
  | onBus command => exact isMadeUp_onBus (.command command)
  | arrange other => exact .arrange fun _ => ⟨rfl, rfl⟩

namespace Machine

/-- The machine after a host's command, whether that failed or not. -/
def obey (machine : Machine) (command : HostCommand) : Machine :=
  stateAfter command.perform machine

/-- The machine after commands one after the other. -/
def obeyAll (machine : Machine) (commands : List HostCommand) : Machine :=
  commands.foldl obey machine

/-- The commands to the bus that a host's commands carry out, a share for each. -/
inductive PerformsAll : Machine → List HostCommand → List (List BusCommand) → Prop where
  | nothing (machine : Machine) : PerformsAll machine [] []
  | next
      {machine : Machine}
      {command : HostCommand}
      {rest : List HostCommand}
      {share : List BusCommand}
      {shares : List (List BusCommand)}
      (performs : Performs Machine.bus command.perform machine share)
      (others : PerformsAll (machine.obey command) rest shares) :
      PerformsAll machine (command :: rest) (share :: shares)

/-- Whatever a host does comes to the bus as commands. -/
theorem exists_performsAll (machine : Machine) (hosted : List HostCommand) :
    ∃ shares, PerformsAll machine hosted shares := by
  induction hosted generalizing machine with
  | nil => exact ⟨[], .nothing machine⟩
  | cons command rest inductionHypothesis =>
      obtain ⟨share, performs⟩ := command.isMadeUp machine
      obtain ⟨shares, others⟩ := inductionHypothesis (machine.obey command)
      exact ⟨share :: shares, .next performs others⟩

/-- What a host asks of the bus itself is a command each. -/
theorem performsAll_onBus (machine : Machine) (commands : List BusCommand) :
    PerformsAll machine (commands.map .onBus) (commands.map fun command => [command]) := by
  induction commands generalizing machine with
  | nil => exact .nothing machine
  | cons command rest inductionHypothesis =>
      exact
        .next (.command (Action.bus_stateAfter_onBus command.perform)) (inductionHypothesis _)

/-- After each command of a host the bus is as the shares so far leave it. -/
theorem PerformsAll.bus_obeyAll_take
    {machine : Machine}
    {hosted : List HostCommand}
    {shares : List (List BusCommand)}
    (performsAll : PerformsAll machine hosted shares)
    (count : Nat) :
    (machine.obeyAll (hosted.take count)).bus =
      machine.bus.obeyAll (shares.take count).flatten := by
  induction performsAll generalizing count with
  | nothing machine =>
      rw [List.take_nil, List.take_nil]
      rfl
  | next performs others inductionHypothesis =>
      cases count with
      | zero => rfl
      | succ count =>
          rw [List.take_succ_cons, List.take_succ_cons, List.flatten_cons,
            Bus.obeyAll_append, ← performs.obeyed]
          exact inductionHypothesis count

/-- At its end the bus of a hosted run is as all the shares leave it. -/
theorem PerformsAll.bus_obeyAll
    {machine : Machine}
    {hosted : List HostCommand}
    {shares : List (List BusCommand)}
    (performsAll : PerformsAll machine hosted shares) :
    (machine.obeyAll hosted).bus = machine.bus.obeyAll shares.flatten := by
  have sameLength : hosted.length = shares.length := by
    induction performsAll with
    | nothing machine => rfl
    | next performs others inductionHypothesis =>
        exact congrArg (· + 1) inductionHypothesis
  have taken := performsAll.bus_obeyAll_take hosted.length
  rw [List.take_length, sameLength, List.take_length] at taken
  exact taken

/-- A machine that has just been set up or reset, with a live sound worker. -/
inductive Starts : Machine → Prop where
  | created
      {settings : Settings}
      {player : Player}
      (created : Player.create settings = .ok player) :
      Starts player.machine
  | reset
      {machine : Machine}
      (serving : machine.bus.link.phase = .serving) :
      Starts machine.reset

theorem Starts.isFresh {first : Machine} (starts : first.Starts) : first.bus.IsFresh := by
  cases starts with
  | @created settings player created =>
      unfold Player.create at created
      cases valid : settings.validate with
      | error fault =>
          rw [valid] at created
          cases created
      | ok _ =>
          rw [valid] at created
          change (if _ then _ else _) = _ at created
          split at created
          · cases created
          · cases created
            rfl
  | @reset machine serving =>
      obtain ⟨cpu, firmware, ⟨memory, interrupts, counters, dma, ⟨worker, phase⟩⟩, printed⟩ :=
        machine
      cases serving
      rfl

end Machine

/-- Closing the link of a live worker mixes nothing. -/
theorem Bus.run_closeLink
    {bus : Bus}
    (serving : bus.link.phase = .serving) :
    ∃ after,
      closeLink.run bus = .ok () after ∧
        after.link.phase = .closed ∧ after.link.frames = bus.link.frames := by
  obtain ⟨memory, interrupts, counters, dma, ⟨worker, phase⟩⟩ := bus
  cases serving
  exact
    ⟨⟨memory, interrupts, counters, dma, ⟨worker.serve .shutdown, .closed⟩⟩, rfl, rfl,
      worker.serve_frames .shutdown⟩

namespace Machine

/-- The end of the recording brings the audio up to the clock and stops the worker. -/
theorem run_finish
    {machine : Machine}
    (serving : machine.bus.link.phase = .serving) :
    ∃ last,
      Action.finish.run machine = .ok () last ∧
        last.bus.link.phase = .closed ∧
        last.bus.link.frames = machine.bus.askedTiming.2.2 := by
  obtain ⟨synced, ran, sameTiming⟩ := Bus.runAudio_of_serving serving
  obtain ⟨after, ranOn, closed, sameFrames⟩ :=
    Bus.run_closeLink (congrArg (·.1) sameTiming)
  have running : machine.bus.link.isRunning = true := by
    rw [SoundLink.isRunning, serving]
    rfl
  refine ⟨machine.withBus after, ?_, closed, ?_⟩
  · simp only [Action.finish, EStateM.run_bind, Action.run_ofBus, running, ↓reduceIte,
      Action.run_onBus, ran, withBus_bus, ranOn]
    rfl
  · exact sameFrames.trans (congrArg (·.2.2) sameTiming)

/-- Where audio is asked for in time, the end of the recording leaves the frames due. -/
theorem exists_finish
    {first machine : Machine}
    {commands : List BusCommand}
    (fresh : first.bus.IsFresh)
    (timely : first.bus.Timely Moment.backlog commands)
    (timelyToTheEnd : first.bus.Timely Moment.backlog (commands ++ [.runAudio]))
    (same : machine.bus = first.bus.obeyAll commands) :
    ∃ last,
      Action.finish.run machine = .ok () last ∧
        last.bus.link.phase = .closed ∧
        last.bus.link.frames = first.bus.framesDue commands := by
  have paced := fresh.paced timely
  have short := ((Moment.timely_append _ _ _ _).mp timelyToTheEnd).2.1 rfl
  have serving := paced.serving
  have asked := paced.askedTiming short
  rw [Moment.bus_obeyAll] at serving asked
  change machine.bus = (Moment.start first.bus).bus.obeyAll commands at same
  rw [← same] at serving asked
  obtain ⟨last, ran, closed, frames⟩ := run_finish serving
  refine ⟨last, ran, closed, frames.trans ?_⟩
  rw [asked]
  rfl

/--
The audio of a run keeps pace with the clock.  Each command of a host carries out its
share of commands to the bus, one after the other, and the bus is as these leave it.  If
whenever they ask for audio fewer than `2 ^ 32` cycles have passed since the end of the
last whole period, then key-ons, key-offs, loop addresses, words for the transfer and
transfers find exactly the frames of the time that has passed, and there never are more.
The end of the recording leaves exactly those frames, too.  All that holds of whatever
commands the bus may get.
-/
theorem audio_keepsPace {first : Machine} (starts : first.Starts) :
    (∀ hosted : List HostCommand,
        ∃ shares : List (List BusCommand),
          first.PerformsAll hosted shares ∧
            ∀ count,
              (first.obeyAll (hosted.take count)).bus =
                first.bus.obeyAll (shares.take count).flatten) ∧
      (∀ hosted shares,
        first.PerformsAll hosted shares →
        first.bus.Timely Moment.backlog shares.flatten →
        first.bus.KeepsPace shares.flatten ∧
          (first.bus.Timely Moment.backlog (shares.flatten ++ [.runAudio]) →
            ∃ last,
              Action.finish.run (first.obeyAll hosted) = .ok () last ∧
                last.bus.link.phase = .closed ∧
                last.bus.link.frames = first.bus.framesDue shares.flatten)) ∧
      ∀ commands,
        first.bus.Timely Moment.backlog commands →
        first.bus.KeepsPace commands ∧
          (first.bus.Timely Moment.backlog (commands ++ [.runAudio]) →
            ∀ machine : Machine,
              machine.bus = first.bus.obeyAll commands →
              ∃ last,
                Action.finish.run machine = .ok () last ∧
                  last.bus.link.phase = .closed ∧
                  last.bus.link.frames = first.bus.framesDue commands) := by
  have fresh := starts.isFresh
  refine ⟨fun hosted => ?_, fun hosted shares performsAll timely => ?_, ?_⟩
  · obtain ⟨shares, performsAll⟩ := exists_performsAll first hosted
    exact ⟨shares, performsAll, performsAll.bus_obeyAll_take⟩
  · exact
      ⟨fresh.keepsPace timely, fun timelyToTheEnd =>
        exists_finish fresh timely timelyToTheEnd performsAll.bus_obeyAll⟩
  · intro commands timely
    exact
      ⟨fresh.keepsPace timely, fun timelyToTheEnd _ =>
        exists_finish fresh timely timelyToTheEnd⟩

/-- The default settings make a player, which has recorded nothing. -/
theorem create_default :
    ∃ player, Player.create .default = .ok player ∧ player.machine.bus.link.frames = 0 :=
  ⟨_, rfl, rfl⟩

/-- Two periods and a transfer. -/
def transferCommands : List BusCommand :=
  [.advance 768, .runTransfer]

/-- The clock has moved two periods at the transfer, and at the end. -/
theorem elapsed_transferCommands (bus : Bus) :
    bus.elapsed transferCommands = 768 ∧
      bus.elapsed (transferCommands ++ [.runAudio]) = 768 := by
  have advanced : ((Moment.start bus).obey (.advance 768)).elapsed = 768 :=
    (Moment.start bus).elapsed_obey_advance 768
  have transferred : bus.elapsed transferCommands = 768 :=
    (Moment.elapsed_obey_of_isFlat .runTransfer Bus.isFlat_runTransfer _).trans advanced
  exact
    ⟨transferred,
      (Moment.elapsed_obey_of_isFlat .runAudio Bus.isFlat_runAudio _).trans transferred⟩

/-- The two frames due at the transfer have been recorded when the recording ends. -/
theorem audio_keepsPace_default :
    ∃ player,
      Player.create .default = .ok player ∧
        player.machine.bus.KeepsPace transferCommands ∧
        ∃ last,
          Action.finish.run (player.machine.obeyAll (transferCommands.map .onBus)) =
              .ok () last ∧
            last.bus.link.frames = 2 := by
  obtain ⟨player, created, noFrames⟩ := create_default
  obtain ⟨elapsed, elapsedAtEnd⟩ := elapsed_transferCommands player.machine.bus
  have timely := Bus.timely_of_elapsed_lt (show _ < 2 ^ 32 by rw [elapsed]; decide)
  have timelyToTheEnd :=
    Bus.timely_of_elapsed_lt (show _ < 2 ^ 32 by rw [elapsedAtEnd]; decide)
  have performsAll := player.machine.performsAll_onBus transferCommands
  obtain ⟨keepsPace, finishes⟩ :=
    (audio_keepsPace (.created created)).2.1 _ _ performsAll timely
  obtain ⟨last, ran, -, frames⟩ := finishes timelyToTheEnd
  have due : player.machine.bus.framesDue transferCommands = 2 := by
    rw [Bus.framesDue, noFrames, elapsed]
    rfl
  exact ⟨player, created, keepsPace, last, ran, frames.trans due⟩

/-- A gap that fits into the clock, but not together with what is carried over. -/
def lateCommands : List BusCommand :=
  [.advance 383, .runAudio, .advance 4294967295, .writeSound 0x1F801DA8 0]

/--
A gap below the range of the clock still loses frames when it comes on top of what is
carried over from the period before.
-/
theorem not_keepsPace_lateCommands {bus : Bus} (fresh : bus.IsFresh) :
    bus.Timely Moment.gap lateCommands ∧ ¬bus.KeepsPace lateCommands := by
  have early : ((Moment.start bus).obey (.advance 383)).elapsed = 383 :=
    (Moment.start bus).elapsed_obey_advance 383
  let asked := (Moment.start bus).obeyAll [.advance 383, .runAudio]
  have elapsedAsked : asked.elapsed = 383 :=
    (Moment.elapsed_obey_of_isFlat .runAudio Bus.isFlat_runAudio _).trans early
  let late := asked.obey (.advance 4294967295)
  have elapsedLate : late.elapsed = 383 + 4294967295 :=
    (asked.elapsed_obey_advance 4294967295).trans (congrArg (· + 4294967295) elapsedAsked)
  have askedLate : late.asked = 383 := early
  constructor
  · refine ⟨nofun, fun _ => ?_, nofun, fun _ => ?_, trivial⟩
    · change ((Moment.start bus).obey (.advance 383)).elapsed - 0 < 2 ^ 32
      omega
    · change late.elapsed - late.asked < 2 ^ 32
      omega
  · intro keepsPace
    have timely : bus.Timely Moment.backlog [.advance 383, .runAudio] :=
      Bus.timely_of_elapsed_lt (show asked.elapsed < 2 ^ 32 by rw [elapsedAsked]; decide)
    have paced : late.IsPaced bus.link.frames :=
      (fresh.paced timely).obey (.advance 4294967295) nofun
    have none : late.bus.counters.periodsDue = 0 := by
      rw [CounterBank.periodsDue, show late.bus.counters.cycle = _ from paced.clock,
        paced.audioCycle, elapsedLate, askedLate]
      decide
    obtain ⟨mixed, ran, sameTiming⟩ := Bus.runAudio_of_serving paced.serving
    obtain ⟨synced, after, ranToo, -, -, frames, -⟩ :=
      keepsPace.effects [.advance 383, .runAudio, .advance 4294967295]
        (.writeSound 0x1F801DA8 0) [] _ rfl rfl
    have sameRun : (.ok () synced : EStateM.Result Fault Bus Unit) = .ok () mixed :=
      ranToo.symm.trans ran
    have sameBus : synced = mixed := by
      injection sameRun
    have due : bus.framesDue [.advance 383, .runAudio, .advance 4294967295] =
        bus.link.frames + late.elapsed / samplePeriod :=
      rfl
    have mixedFrames : mixed.link.frames = late.bus.link.frames + 0 :=
      (congrArg (·.2.2) sameTiming).trans (congrArg (late.bus.link.frames + ·) none)
    have period : samplePeriod = 384 := rfl
    rw [sameBus, due, mixedFrames, paced.frames, period] at frames
    omega

/-- So the gap alone does not keep the pace. -/
theorem lateCommands_keepNoPace :
    ∃ player,
      Player.create .default = .ok player ∧
        player.machine.bus.Timely Moment.gap lateCommands ∧
        ¬player.machine.bus.KeepsPace lateCommands := by
  obtain ⟨player, created, -⟩ := create_default
  exact ⟨player, created, not_keepsPace_lateCommands (Starts.created created).isFresh⟩

end Machine

end PsxPlayer
