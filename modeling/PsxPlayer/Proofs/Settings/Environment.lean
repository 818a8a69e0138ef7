import Mathlib
import PsxPlayer.Settings.Environment

namespace PsxPlayer

/-!
# Settings and the environment

A variable is read without a look at the settings, and what it says is the value of one setting.
So the environment comes down to a value for each setting that it names.  Variables are applied
one by one until the first that cannot be read, and those before it stay applied.
-/

namespace Variable

/-! ## Single variables -/

/-- The value of a setting. -/
inductive Choice where
  | filter (filter : Filter)
  | flag (flag : Bool)
  | number (number : Nat)

/-- What a text says about a setting. -/
def choose (target : Variable) (value : String) : Except Fault Choice :=
  match target with
  | .interpolation => (Filter.parse value).map .filter
  | .reverb | .idleLoops => (readFlag target.key value).map .flag
  | .vsyncRate | .seconds => (readNumber Settings.wordBound target.key value).map .number
  | .ringFrames => (readNumber Settings.longBound target.key value).map .number

/-- The value that the settings have for a variable. -/
def valueIn (settings : Settings) : Variable → Choice
  | .interpolation => .filter settings.filter
  | .reverb => .flag settings.reverb
  | .idleLoops => .flag settings.skipsIdleLoops
  | .vsyncRate => .number settings.vsyncRate
  | .ringFrames => .number settings.ringFrames
  | .seconds => .number settings.seconds

/-- The settings are no more than their values. -/
theorem eq_of_valueIn
    {first second : Settings}
    (same : ∀ target, valueIn first target = valueIn second target) :
    first = second := by
  rcases first with ⟨filter, reverb, skips, rate, frames, seconds⟩
  have filters := same .interpolation
  have reverbs := same .reverb
  have skipping := same .idleLoops
  have rates := same .vsyncRate
  have rings := same .ringFrames
  have lengths := same .seconds
  simp only [valueIn, Choice.filter.injEq, Choice.flag.injEq, Choice.number.injEq] at *
  subst filters reverbs skipping rates rings lengths
  rfl

theorem ofKey?_eq_some_iff
    {key : String}
    {target : Variable} :
    ofKey? key = some target ↔ key = target.key := by
  constructor
  · intro found
    have sameKey := List.find?_some found
    exact (beq_iff_eq.mp sameKey).symm
  · rintro rfl
    cases target <;> decide

theorem key_injective {first second : Variable} (same : first.key = second.key) :
    first = second := by
  have found := ofKey?_eq_some_iff.mpr same
  rw [ofKey?_eq_some_iff.mpr rfl] at found
  exact Option.some.inj found

/-- Settings that have a new value for one variable. -/
def Gives (target : Variable) (choice : Choice) (before after : Settings) : Prop :=
  ∀ other, valueIn after other = if other = target then choice else valueIn before other

/-- What has been read is written, whatever the reader is. -/
theorem gives_of_reader
    {α : Type}
    {target : Variable}
    {settings : Settings}
    {wrap : α → Choice}
    {write : α → Settings}
    (gives : ∀ value, target.Gives (wrap value) settings (write value))
    (reader : Except Fault α) :
    match reader.map wrap with
    | .ok choice =>
        ∃ after,
          (do return write (← reader) : Except Fault Settings) = .ok after ∧
            target.Gives choice settings after
    | .error fault => (do return write (← reader) : Except Fault Settings) = .error fault := by
  cases reader with
  | ok value => exact ⟨write value, rfl, gives value⟩
  | error fault => rfl

/-- A variable gives its setting what its text says, and leaves the others alone. -/
theorem apply_gives
    (target : Variable)
    (value : String)
    (settings : Settings) :
    match target.choose value with
    | .ok choice =>
        ∃ after, target.apply value settings = .ok after ∧ target.Gives choice settings after
    | .error fault => target.apply value settings = .error fault := by
  cases target <;> exact gives_of_reader (fun _ other => by cases other <;> rfl) _

/-! ## Lists of variables -/

/-- The fault of a variable that names a setting and cannot be read. -/
def faultOf? (pair : String × String) : Option Fault :=
  match ofKey? pair.1 with
  | some target =>
      match target.choose (trimBlanks pair.2) with
      | .ok _ => none
      | .error fault => some fault
  | none => none

/-- What the last of some variables that can be read as a setting says about it. -/
def lastChoice? (target : Variable) : List (String × String) → Option Choice
  | [] => none
  | (key, value) :: rest =>
      (lastChoice? target rest).or
        (if key = target.key then (target.choose (trimBlanks value)).toOption else none)

theorem lastChoice?_append
    (target : Variable)
    (first second : List (String × String)) :
    lastChoice? target (first ++ second) =
      (lastChoice? target second).or (lastChoice? target first) := by
  induction first with
  | nil => exact (Option.or_none).symm
  | cons pair rest inductionHypothesis =>
      rw [List.cons_append, lastChoice?, lastChoice?, inductionHypothesis, Option.or_assoc]

/-- Where no two variables have one name, it does not matter which of them comes last. -/
theorem lastChoice?_perm
    {pairs reordered : List (String × String)}
    (perm : pairs.Perm reordered)
    (distinct : (pairs.map Prod.fst).Nodup)
    (target : Variable) :
    lastChoice? target pairs = lastChoice? target reordered := by
  induction perm with
  | nil => rfl
  | cons pair _ inductionHypothesis =>
      rw [List.map_cons, List.nodup_cons] at distinct
      rw [lastChoice?, lastChoice?, inductionHypothesis distinct.2]
  | swap first second rest =>
      simp only [List.map_cons, List.nodup_cons, List.mem_cons, not_or] at distinct
      simp only [lastChoice?, Option.or_assoc]
      -- One of the two has another name than the setting, and nothing to say.
      by_cases named : first.1 = target.key
      · have other : second.1 ≠ target.key := fun same => distinct.1.1 (same.trans named.symm)
        rw [if_neg other, Option.or_none, Option.none_or]
      · rw [if_neg named, Option.or_none, Option.none_or]
  | trans first _ inductionHypothesis laterHypothesis =>
      have stillDistinct := (first.map Prod.fst).nodup_iff.mp distinct
      exact (inductionHypothesis distinct).trans (laterHypothesis stillDistinct)

/-- Only variables that are settings have a say. -/
theorem lastChoice?_of_unnamed
    {pairs : List (String × String)}
    (unnamed : ∀ pair ∈ pairs, ofKey? pair.1 = none)
    (target : Variable) :
    lastChoice? target pairs = none := by
  induction pairs with
  | nil => rfl
  | cons pair rest inductionHypothesis =>
      have other : pair.1 ≠ target.key := by
        intro same
        have named := ofKey?_eq_some_iff.mpr same
        rw [unnamed pair (.head _)] at named
        cases named
      rw [lastChoice?, if_neg other, Option.or_none]
      exact inductionHypothesis fun later member => unnamed later (.tail _ member)

end Variable

namespace Settings

open Variable

/-- A setting that is named has the last value given to it, and any other its former one. -/
def IsOverridden
    (before : Settings)
    (pairs : List (String × String))
    (after : Settings) :
    Prop :=
  ∀ target, valueIn after target = (lastChoice? target pairs).getD (valueIn before target)

namespace IsOverridden

theorem nil (settings : Settings) : settings.IsOverridden [] settings :=
  fun _ => rfl

theorem append
    {before between after : Settings}
    {first second : List (String × String)}
    (early : before.IsOverridden first between)
    (late : between.IsOverridden second after) :
    before.IsOverridden (first ++ second) after := by
  intro target
  rw [late target, early target, lastChoice?_append]
  cases lastChoice? target second <;> rfl

theorem unique
    {before first second : Settings}
    {pairs : List (String × String)}
    (overridden : before.IsOverridden pairs first)
    (alike : before.IsOverridden pairs second) :
    first = second :=
  eq_of_valueIn fun target => (overridden target).trans (alike target).symm

/-- Variables that are no settings override nothing. -/
theorem eq_of_unnamed
    {before after : Settings}
    {pairs : List (String × String)}
    (overridden : before.IsOverridden pairs after)
    (unnamed : ∀ pair ∈ pairs, ofKey? pair.1 = none) :
    after = before :=
  eq_of_valueIn fun target => by rw [overridden target, lastChoice?_of_unnamed unnamed]; rfl

end IsOverridden

/-- A variable that can be read overrides its setting, if it names one. -/
theorem applyVariable_overrides
    (pair : String × String)
    (settings : Settings) :
    match faultOf? pair with
    | none =>
        ∃ after,
          settings.applyVariable pair.1 pair.2 = .ok after ∧
            settings.IsOverridden [pair] after
    | some fault => settings.applyVariable pair.1 pair.2 = .error fault := by
  obtain ⟨key, value⟩ := pair
  cases named : ofKey? key with
  | none =>
      simp only [faultOf?, applyVariable, named]
      refine ⟨settings, rfl, fun target => ?_⟩
      rw [lastChoice?_of_unnamed (by simpa using named)]
      rfl
  | some target =>
      have applied := target.apply_gives (trimBlanks value) settings
      simp only [faultOf?, applyVariable, named]
      cases chosen : target.choose (trimBlanks value) with
      | error fault =>
          rw [chosen] at applied
          exact applied
      | ok choice =>
          rw [chosen] at applied
          obtain ⟨after, ran, gives⟩ := applied
          refine ⟨after, ran, fun other => ?_⟩
          rw [gives other, ofKey?_eq_some_iff.mp named]
          by_cases same : other = target
          · subst same
            simp [lastChoice?, chosen, Except.toOption]
          · have otherKey : target.key ≠ other.key := fun sameKey =>
              same (key_injective sameKey).symm
            simp [lastChoice?, same, otherKey]

/-- Variables are applied up to the first that cannot be read, and then the result is judged. -/
theorem applyEnvironment_overrides
    (settings : Settings)
    (pairs : List (String × String)) :
    match (applyEnvironment pairs).run settings with
    | .ok _ after =>
        (∀ pair ∈ pairs, faultOf? pair = none) ∧
          settings.IsOverridden pairs after ∧
          after.validate = .ok ()
    | .error fault failed =>
        ∃ taken rest,
          pairs = taken ++ rest ∧
            (∀ pair ∈ taken, faultOf? pair = none) ∧
            settings.IsOverridden taken failed ∧
            match rest with
            | [] => failed.validate = .error fault
            | pair :: _ => faultOf? pair = some fault := by
  induction pairs generalizing settings with
  | nil =>
      simp only [applyEnvironment, EStateM.run]
      cases valid : settings.validate with
      | ok _ => exact ⟨nofun, .nil settings, valid⟩
      | error fault => exact ⟨[], [], rfl, nofun, .nil settings, valid⟩
  | cons pair rest inductionHypothesis =>
      have applied := settings.applyVariable_overrides pair
      simp only [applyEnvironment, EStateM.run]
      cases read : faultOf? pair with
      | some fault =>
          rw [read] at applied
          simp only [applied]
          exact ⟨[], pair :: rest, rfl, nofun, .nil settings, read⟩
      | none =>
          rw [read] at applied
          obtain ⟨between, ran, overridden⟩ := applied
          have later := inductionHypothesis between
          simp only [EStateM.run] at later
          simp only [ran]
          cases result : applyEnvironment rest between with
          | ok _ after =>
              rw [result] at later
              obtain ⟨readable, overriddenLater, valid⟩ := later
              exact ⟨by simpa [read] using readable, overridden.append overriddenLater, valid⟩
          | error fault failed =>
              rw [result] at later
              obtain ⟨taken, left, rfl, readable, overriddenLater, ended⟩ := later
              exact
                ⟨pair :: taken, left, rfl, by simpa [read] using readable,
                  overridden.append overriddenLater, ended⟩

/-- Settings that can be played. -/
theorem validate_eq_ok_iff (settings : Settings) :
    settings.validate = .ok () ↔
      (settings.vsyncRate = 50 ∨ settings.vsyncRate = 60) ∧ 1 ≤ settings.ringFrames := by
  unfold validate
  split
  · simp only [reduceCtorEq, false_iff]
    omega
  · split
    · simp only [reduceCtorEq, false_iff]
      omega
    · simp only [true_iff]
      omega

/--
Settings after variables of the environment have been applied.  If that goes well, each variable
can be read, each setting has the last value given to it, if any, and the settings can be played.
If it fails, the variables before the first one that cannot be read are applied and no other, or
all of them if the result cannot be played; so nothing has changed if none of them is a setting.
-/
theorem applyEnvironment_keepsEarlier
    (settings : Settings)
    (pairs : List (String × String)) :
    match (applyEnvironment pairs).run settings with
    | .ok _ after =>
        (∀ pair ∈ pairs, faultOf? pair = none) ∧
          settings.IsOverridden pairs after ∧
          (after.vsyncRate = 50 ∨ after.vsyncRate = 60) ∧
          1 ≤ after.ringFrames
    | .error fault failed =>
        ∃ taken rest,
          pairs = taken ++ rest ∧
            (∀ pair ∈ taken, faultOf? pair = none) ∧
            settings.IsOverridden taken failed ∧
            ((∀ pair ∈ taken, ofKey? pair.1 = none) → failed = settings) ∧
            match rest with
            | [] => failed.validate = .error fault
            | pair :: _ => faultOf? pair = some fault := by
  have outcome := settings.applyEnvironment_overrides pairs
  cases ran : (applyEnvironment pairs).run settings with
  | ok _ after =>
      rw [ran] at outcome
      obtain ⟨readable, overridden, valid⟩ := outcome
      exact ⟨readable, overridden, after.validate_eq_ok_iff.mp valid⟩
  | error fault failed =>
      rw [ran] at outcome
      obtain ⟨taken, rest, split, readable, overridden, ended⟩ := outcome
      exact
        ⟨taken, rest, split, readable, overridden,
          fun unnamed => overridden.eq_of_unnamed unnamed, ended⟩

/-- The reverb unit is switched off before a length that is no number ends it. -/
theorem applyEnvironment_leavesTrace :
    ∃ failed,
      (applyEnvironment [("PSFRX_REVERB", "off"), ("PSFRX_SECONDS", "soon")]).run default =
          .error (.notNumber "PSFRX_SECONDS" "soon") failed ∧
        failed ≠ default := by
  refine ⟨{ default with reverb := false }, ?_, by decide⟩
  cbv

/-! ## Order -/

theorem applyEnvironment_eq_ok_iff
    (settings after : Settings)
    (pairs : List (String × String)) :
    (applyEnvironment pairs).run settings = .ok () after ↔
      (∀ pair ∈ pairs, faultOf? pair = none) ∧
        settings.IsOverridden pairs after ∧
        after.validate = .ok () := by
  have outcome := settings.applyEnvironment_overrides pairs
  constructor
  · intro ran
    rw [ran] at outcome
    exact outcome
  · rintro ⟨readable, overridden, valid⟩
    cases ran : (applyEnvironment pairs).run settings with
    | ok _ other =>
        rw [ran] at outcome
        rw [outcome.2.1.unique overridden]
    | error fault failed =>
        rw [ran] at outcome
        obtain ⟨taken, rest, rfl, -, early, ended⟩ := outcome
        cases rest with
        | nil =>
            rw [List.append_nil] at overridden
            rw [early.unique overridden, valid] at ended
            cases ended
        | cons pair rest =>
            have read : faultOf? pair = some fault := ended
            rw [readable pair (by simp)] at read
            cases read

/--
Variables of different names may come in any order: if one order goes well so does the other, with
the same settings after it, and if one fails so does the other.
-/
theorem applyEnvironment_perm
    {pairs reordered : List (String × String)}
    (perm : pairs.Perm reordered)
    (distinct : (pairs.map Prod.fst).Nodup)
    (settings after : Settings) :
    (applyEnvironment pairs).run settings = .ok () after ↔
      (applyEnvironment reordered).run settings = .ok () after := by
  have sameOverrides :
      settings.IsOverridden pairs after ↔ settings.IsOverridden reordered after :=
    forall_congr' fun target => by rw [lastChoice?_perm perm distinct]
  rw [applyEnvironment_eq_ok_iff, applyEnvironment_eq_ok_iff, sameOverrides]
  simp only [perm.mem_iff]

/-- Two overrides with a foreign variable between them, in either order. -/
theorem applyEnvironment_perm_reversed :
    let pairs := [("PSFRX_RING_FRAMES", "256"), ("HOME", "/root"), ("PSFRX_REVERB", " off ")]
    let after := { default with reverb := false, ringFrames := 256 }
    pairs.Perm pairs.reverse ∧
      (pairs.map Prod.fst).Nodup ∧
      (applyEnvironment pairs).run default = .ok () after ∧
      (applyEnvironment pairs.reverse).run default = .ok () after := by
  intro pairs after
  have perm : pairs.Perm pairs.reverse := (List.reverse_perm pairs).symm
  have distinct : (pairs.map Prod.fst).Nodup := by decide
  have ran : (applyEnvironment pairs).run default = .ok () after := by cbv
  exact ⟨perm, distinct, ran, (applyEnvironment_perm perm distinct default after).mp ran⟩

end Settings

end PsxPlayer
