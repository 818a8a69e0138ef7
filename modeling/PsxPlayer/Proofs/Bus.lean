import PsxPlayer.Proofs.Clock

namespace PsxPlayer

/-!
# What the bus is asked for

Time and sound of the bus change by a few commands only: the clock moves, the counters
are served or programmed, audio is asked for, a sound register is written, a block is
transferred.  Every store of the processor is made up of them.
-/

/-- The state after two actions is that after the second, unless the first fails. -/
theorem stateAfter_bind
    {σ α β : Type}
    (action : EStateM Fault σ α)
    (next : α → EStateM Fault σ β)
    (state : σ) :
    stateAfter (action >>= next) state =
      match action.run state with
      | .ok value between => stateAfter (next value) between
      | .error _ failed => failed := by
  unfold stateAfter
  rw [EStateM.run_bind]
  cases action.run state <;> rfl

/-- A flat action leaves what `view` shows. -/
theorem IsFlat.stateAfter
    {σ α β : Type}
    {view : σ → β}
    {action : EStateM Fault σ α}
    (flat : IsFlat view action)
    (state : σ) :
    view (PsxPlayer.stateAfter action state) = view state := by
  have same := flat state
  unfold PsxPlayer.stateAfter
  cases ran : action.run state with
  | ok value after =>
      rw [ran] at same
      exact same
  | error fault failed =>
      rw [ran] at same
      exact same.2

/-- A command to the bus. -/
inductive BusCommand where
  | advance (cycles : UInt32)
  | skipToDeadline
  | updateCounters
  | runAudio
  | writeSound (address : UInt32) (value : UInt16)
  | runTransfer
  | writeCounter (index : Nat) (value : UInt32) (register : CounterRegister)
  /-- Change what has no part in time and sound. -/
  | arrange (memory : AddressSpace) (interrupts : InterruptController) (dma : DmaController)

namespace BusCommand

/-- Carry out a command. -/
def perform : BusCommand → BusAction Unit
  | .advance cycles =>
      modify fun bus => { bus with counters := bus.counters.advance cycles }
  | .skipToDeadline =>
      modify fun bus => { bus with counters := bus.counters.skipToDeadline }
  | .updateCounters => Bus.updateCounters
  | .runAudio => Bus.runAudio
  | .writeSound address value => Bus.writeSoundRegister address value
  | .runTransfer => Bus.runTransfer
  | .writeCounter index value register =>
      modify fun bus => bus.writeCounter index value register
  | .arrange memory interrupts dma =>
      modify fun bus => { bus with memory := memory, interrupts := interrupts, dma := dma }

end BusCommand

namespace Bus

/-- The bus after a command, whether that failed or not. -/
def obey (bus : Bus) (command : BusCommand) : Bus :=
  stateAfter command.perform bus

/-- The bus after commands one after the other. -/
def obeyAll (bus : Bus) (commands : List BusCommand) : Bus :=
  commands.foldl obey bus

theorem obeyAll_append (bus : Bus) (first second : List BusCommand) :
    bus.obeyAll (first ++ second) = (bus.obeyAll first).obeyAll second :=
  List.foldl_append

end Bus

/--
The commands that an action carries out on a bus that is part of its state, in the run
from that state.  What it does besides leaves the bus alone, wherever it starts.
-/
inductive Performs
    {σ : Type}
    (bus : σ → Bus) :
    {α : Type} → EStateM Fault σ α → σ → List BusCommand → Prop where
  | quiet
      {α : Type}
      {action : EStateM Fault σ α}
      {state : σ}
      (same : ∀ state, bus (stateAfter action state) = bus state) :
      Performs bus action state []
  | command
      {α : Type}
      {action : EStateM Fault σ α}
      {state : σ}
      {command : BusCommand}
      (obeys : ∀ state, bus (stateAfter action state) = (bus state).obey command) :
      Performs bus action state [command]
  /-- What leaves counters and sound alone is one command. -/
  | arrange
      {α : Type}
      {action : EStateM Fault σ α}
      {state : σ}
      (same :
        ∀ state,
          (bus (stateAfter action state)).counters = (bus state).counters ∧
            (bus (stateAfter action state)).link = (bus state).link) :
      Performs bus action state
        [.arrange (bus (stateAfter action state)).memory
          (bus (stateAfter action state)).interrupts (bus (stateAfter action state)).dma]
  | bind
      {α β : Type}
      {action : EStateM Fault σ α}
      {next : α → EStateM Fault σ β}
      {state between : σ}
      {value : α}
      {commands others : List BusCommand}
      (first : Performs bus action state commands)
      (ran : action.run state = .ok value between)
      (rest : Performs bus (next value) between others) :
      Performs bus (action >>= next) state (commands ++ others)
  | fails
      {α β : Type}
      {action : EStateM Fault σ α}
      {next : α → EStateM Fault σ β}
      {state failed : σ}
      {fault : Fault}
      {commands : List BusCommand}
      (first : Performs bus action state commands)
      (ran : action.run state = .error fault failed) :
      Performs bus (action >>= next) state commands

/-- The bus is as the commands leave it, whether the action failed or not. -/
theorem Performs.obeyed
    {σ α : Type}
    {bus : σ → Bus}
    {action : EStateM Fault σ α}
    {state : σ}
    {commands : List BusCommand}
    (performs : Performs bus action state commands) :
    bus (stateAfter action state) = (bus state).obeyAll commands := by
  induction performs with
  | quiet same => exact same _
  | command obeys => exact obeys _
  | @arrange α action state same =>
      obtain ⟨sameCounters, sameLink⟩ := same state
      generalize bus (stateAfter action state) = arranged at sameCounters sameLink ⊢
      change
        arranged =
          ⟨arranged.memory, arranged.interrupts, (bus state).counters, arranged.dma,
            (bus state).link⟩
      rw [← sameCounters, ← sameLink]
  | bind first ran rest firstObeyed restObeyed =>
      rw [stateAfter, ran] at firstObeyed
      rw [stateAfter_bind, ran, Bus.obeyAll_append, ← firstObeyed]
      exact restObeyed
  | fails first ran obeyed =>
      rw [stateAfter, ran] at obeyed
      rw [stateAfter_bind, ran]
      exact obeyed

/-- An action is made up of commands if in each run it carries out some. -/
def IsMadeUp
    {σ α : Type}
    (bus : σ → Bus)
    (action : EStateM Fault σ α) :
    Prop :=
  ∀ state, ∃ commands, Performs bus action state commands

namespace IsMadeUp

variable {σ α β : Type} {bus : σ → Bus}

theorem bind
    {action : EStateM Fault σ α}
    {next : α → EStateM Fault σ β}
    (first : IsMadeUp bus action)
    (second : ∀ value, IsMadeUp bus (next value)) :
    IsMadeUp bus (action >>= next) := by
  intro state
  obtain ⟨commands, performs⟩ := first state
  cases ran : action.run state with
  | ok value between =>
      obtain ⟨others, rest⟩ := second value between
      exact ⟨commands ++ others, performs.bind ran rest⟩
  | error fault failed => exact ⟨commands, performs.fails ran⟩

/-- What leaves the bus alone takes no command. -/
theorem of_same
    {action : EStateM Fault σ α}
    (same : ∀ state, bus (stateAfter action state) = bus state) :
    IsMadeUp bus action :=
  fun _ => ⟨[], .quiet same⟩

/-- What leaves counters and sound alone is one command. -/
theorem arrange
    {change : σ → σ}
    (same :
      ∀ state,
        (bus (change state)).counters = (bus state).counters ∧
          (bus (change state)).link = (bus state).link) :
    IsMadeUp bus (modify change) :=
  fun _ => ⟨_, .arrange same⟩

theorem command (command : BusCommand) : IsMadeUp id command.perform :=
  fun _ => ⟨[command], .command fun _ => rfl⟩

end IsMadeUp

namespace Bus

theorem isMadeUp_writeSound (width : Width) (address value : UInt32) :
    IsMadeUp id (writeSound width address value) := by
  cases width with
  | word => exact .bind (.command (.writeSound _ _)) fun _ => .command (.writeSound _ _)
  | half => exact .command (.writeSound _ _)
  | byte => exact .bind (.of_same fun _ => rfl) fun _ => .command (.writeSound _ _)

theorem isMadeUp_writeDevice (width : Width) (address value : UInt32) (port : Port) :
    IsMadeUp id (writeDevice width address value port) := by
  cases port with
  | dmaControl =>
      refine .bind (.arrange fun _ => ⟨rfl, rfl⟩) fun _ =>
        .bind (.of_same fun _ => rfl) fun _ => ?_
      split
      · exact .command .runTransfer
      · exact .of_same fun _ => rfl
  | counter index register =>
      -- the value that is written depends on the one that is found
      let merged (bus : Bus) : UInt32 :=
        mergeLanes (bus.readCounter index register) value address width
      have looks :
          writeDevice width address value (.counter index register) =
            get >>= fun bus => BusCommand.perform (.writeCounter index (merged bus) register) :=
        rfl
      rw [looks]
      exact .bind (.of_same fun _ => rfl) fun bus => .command _
  | sound => exact isMadeUp_writeSound width address value
  | _ => exact .arrange fun _ => ⟨rfl, rfl⟩

/-- A store is made up of commands. -/
theorem isMadeUp_write (width : Width) (address value : UInt32) :
    IsMadeUp id (write width address value) := by
  have toMemory : IsMadeUp id (writeMemory width address value) := by
    change IsMadeUp id
      (modify fun bus : Bus => { bus with memory := bus.memory.write width address value })
    exact .arrange fun _ => ⟨rfl, rfl⟩
  unfold write
  split
  · split
    · exact isMadeUp_writeDevice _ _ _ _
    · exact toMemory
  · exact toMemory

end Bus

end PsxPlayer
