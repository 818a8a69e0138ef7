import PsxPlayer.Proofs.Cpu.Run
import PsxPlayer.Proofs.Recording

namespace PsxPlayer

/-!
# Machines that differ in their recording

Machines may be alike but for what they have recorded and printed.  An action that is
deaf to that keeps them alike.
-/

namespace Machine

/--
The first machine is like the second, but had recorded `past` when the second had
recorded nothing.  What has been printed does not matter.
-/
structure Follows (past : List Int) (first second : Machine) : Prop where
  cpu : first.cpu = second.cpu
  firmware : first.firmware = second.firmware
  bus : first.bus.Follows past second.bus

/-- One machine follows another that is set up. -/
structure Tracks (past : List Int) (rate : Nat) (first second : Machine) : Prop where
  follows : first.Follows past second
  isSetUp : second.bus.IsSetUp rate

/-- The machine with something else recorded and printed. -/
def withRecording
    (machine : Machine)
    (recording : Recording)
    (printed : Array String) :
    Machine :=
  { machine with
    bus := machine.bus.withRecording recording
    printed := printed }

variable {past : List Int} {rate : Nat} {first second : Machine}

theorem Follows.exists_withRecording (follows : first.Follows past second) :
    ∃ (recording : Recording) (printed : Array String),
      first = second.withRecording recording printed ∧
        recording.samples = past ++ second.bus.link.recorded := by
  obtain ⟨cpu, firmware, bus, printed⟩ := first
  obtain ⟨rfl, rfl, busFollows⟩ := follows
  obtain ⟨recording, rfl, recorded⟩ := busFollows.exists_withRecording
  exact ⟨recording, printed, rfl, recorded⟩

theorem follows_withRecording
    {machine : Machine}
    {recording : Recording}
    (recorded : recording.samples = past ++ machine.bus.link.recorded)
    (printed : Array String) :
    (machine.withRecording recording printed).Follows past machine :=
  ⟨rfl, rfl, rfl, rfl, rfl, rfl, SoundLink.follows_withRecording recorded⟩

theorem Tracks.bus (tracks : first.Tracks past rate second) :
    first.bus.Tracks past rate second.bus :=
  ⟨tracks.follows.bus, tracks.isSetUp⟩

theorem Tracks.withBus
    (tracks : first.Tracks past rate second)
    {bus otherBus : Bus}
    (busTracks : bus.Tracks past rate otherBus) :
    (first.withBus bus).Tracks past rate (second.withBus otherBus) :=
  ⟨⟨tracks.follows.cpu, tracks.follows.firmware, busTracks.follows⟩, busTracks.isSetUp⟩

end Machine

namespace Action

variable {α β : Type}

/-- An action that does not depend on the recording, nor changes what is set up. -/
def IsDeaf (action : Action α) : Prop :=
  ∀ past rate, Respects (Machine.Tracks past rate) action

/-- What an action returns and changes does not depend on the recording. -/
def IsUnheard (value : Machine → α) (change : Machine → Machine) : Prop :=
  ∀ machine recording printed,
    value (machine.withRecording recording printed) = value machine ∧
      ∃ after,
        change (machine.withRecording recording printed) =
          (change machine).withRecording recording after

theorem IsDeaf.pure (value : α) : IsDeaf (Pure.pure value) :=
  fun _ _ => .pure value

theorem isDeaf_throw (fault : Fault) : IsDeaf (throw fault : Action α) :=
  fun _ _ => .throw fault

theorem IsDeaf.bind
    {action : Action α}
    {next : α → Action β}
    (first : IsDeaf action)
    (second : ∀ value, IsDeaf (next value)) :
    IsDeaf (action >>= next) :=
  fun past rate => .bind (first past rate) fun value => second value past rate

/-- What adds nothing to the recording is deaf if it does not look at it. -/
theorem IsUnheard.isDeaf
    {action : Action α}
    {value : Machine → α}
    {change : Machine → Machine}
    (unheard : IsUnheard value change)
    (changes : ∀ machine, action.run machine = .ok (value machine) (change machine))
    (silent : ∀ machine, (change machine).bus.link.recorded = machine.bus.link.recorded)
    (isSetUp : ∀ machine rate, machine.bus.IsSetUp rate → (change machine).bus.IsSetUp rate) :
    IsDeaf action := by
  intro past rate
  refine .modify changes fun first second tracks => ?_
  obtain ⟨recording, printed, rfl, recorded⟩ := tracks.follows.exists_withRecording
  obtain ⟨sameValue, after, changed⟩ := unheard second recording printed
  rw [changed]
  rw [← silent second] at recorded
  exact
    ⟨sameValue, Machine.follows_withRecording recorded after,
      isSetUp second rate tracks.isSetUp⟩

/-- What leaves the bus alone is deaf if it does not look at the recording. -/
theorem IsUnheard.isDeaf_of_sameBus
    {action : Action α}
    {value : Machine → α}
    {change : Machine → Machine}
    (unheard : IsUnheard value change)
    (changes : ∀ machine, action.run machine = .ok (value machine) (change machine))
    (sameBus : ∀ machine, (change machine).bus = machine.bus) :
    IsDeaf action := by
  refine unheard.isDeaf changes (fun machine => ?_) fun machine rate isSetUp => ?_
  · rw [sameBus]
  · rw [sameBus]
    exact isSetUp

theorem isDeaf_onBus {action : BusAction α} (deaf : Bus.IsDeaf action) :
    IsDeaf (onBus action) := by
  intro past rate first second tracks
  have alike := deaf past rate first.bus second.bus tracks.bus
  rw [run_onBus, run_onBus]
  generalize action.run first.bus = result, action.run second.bus = otherResult at alike ⊢
  cases alike with
  | ok value alike => exact .ok value (tracks.withBus alike)
  | error fault alike => exact .error fault (tracks.withBus alike)

theorem isDeaf_modifyBus {change : Bus → Bus} (deaf : Bus.IsDeaf (modify change)) :
    IsDeaf (modifyBus change) :=
  isDeaf_onBus deaf

end Action

end PsxPlayer
