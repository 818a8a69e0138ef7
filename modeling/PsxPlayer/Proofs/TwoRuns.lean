import PsxPlayer.Fault

namespace PsxPlayer

/-!
# Two runs of one action

An action respects a relation between states if it cannot tell related states apart:
run from two of them it returns the same value or raises the same fault, and leaves
related states again.  An action has this by its shape.
-/

section

variable {σ α β : Type}

/-- Two runs end alike: with the same value or fault, and in related states. -/
inductive EndAlike (related : σ → σ → Prop) :
    EStateM.Result Fault σ α → EStateM.Result Fault σ α → Prop where
  | ok
      (value : α)
      {first second : σ}
      (alike : related first second) :
      EndAlike related (.ok value first) (.ok value second)
  | error
      (fault : Fault)
      {first second : σ}
      (alike : related first second) :
      EndAlike related (.error fault first) (.error fault second)

/-- Runs that end alike in one way do so in every way that follows from it. -/
theorem EndAlike.imp
    {related weaker : σ → σ → Prop}
    {first second : EStateM.Result Fault σ α}
    (alike : EndAlike related first second)
    (weaken : ∀ first second, related first second → weaker first second) :
    EndAlike weaker first second := by
  cases alike with
  | ok value alike => exact .ok value (weaken _ _ alike)
  | error fault alike => exact .error fault (weaken _ _ alike)

/-- From related states the action ends alike. -/
def Respects (related : σ → σ → Prop) (action : EStateM Fault σ α) : Prop :=
  ∀ first second, related first second → EndAlike related (action.run first) (action.run second)

namespace Respects

variable {related : σ → σ → Prop}

theorem pure (value : α) : Respects related (Pure.pure value) :=
  fun _ _ alike => .ok value alike

theorem throw (fault : Fault) :
    Respects related (MonadExcept.throw fault : EStateM Fault σ α) :=
  fun _ _ alike => .error fault alike

theorem bind
    {action : EStateM Fault σ α}
    {next : α → EStateM Fault σ β}
    (first : Respects related action)
    (second : ∀ value, Respects related (next value)) :
    Respects related (action >>= next) := by
  intro state other alike
  have between := first state other alike
  rw [EStateM.run_bind, EStateM.run_bind]
  generalize action.run state = result, action.run other = otherResult at between ⊢
  cases between with
  | ok value alike => exact second value _ _ alike
  | error fault alike => exact .error fault alike

theorem ite
    {condition : Prop} [Decidable condition]
    {first second : EStateM Fault σ α}
    (firstRespects : Respects related first)
    (secondRespects : Respects related second) :
    Respects related (if condition then first else second) := by
  split
  · exact firstRespects
  · exact secondRespects

/-- Looking at the state, if what is done then does not depend on more than is related. -/
theorem get
    {next : σ → EStateM Fault σ α}
    (respects :
      ∀ first second,
        related first second →
        next first = next second ∧ Respects related (next second)) :
    Respects related (MonadState.get >>= next) := by
  intro first second alike
  obtain ⟨same, respected⟩ := respects first second alike
  change EndAlike related ((next first).run first) ((next second).run second)
  rw [same]
  exact respected first second alike

/-- A change of the state that keeps related states related, and its value. -/
theorem modify
    {action : EStateM Fault σ α}
    {value : σ → α}
    {change : σ → σ}
    (changes : ∀ state, action.run state = .ok (value state) (change state))
    (keeps :
      ∀ first second,
        related first second →
        value first = value second ∧ related (change first) (change second)) :
    Respects related action := by
  intro first second alike
  obtain ⟨sameValue, stillAlike⟩ := keeps first second alike
  rw [changes, changes, sameValue]
  exact .ok _ stillAlike

end Respects

end

end PsxPlayer
