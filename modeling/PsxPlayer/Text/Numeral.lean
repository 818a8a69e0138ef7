namespace PsxPlayer

/-!
# Numerals

Natural numbers written in a base of at most 16. `parseNatural?` reads what users
type for a number: decimal digits behind an optional plus sign.
-/

/-- The value of a digit in any base up to 16. -/
def digitValue? (char : Char) : Option Nat :=
  if '0' ≤ char ∧ char ≤ '9' then some (char.toNat - '0'.toNat)
  else if 'a' ≤ char ∧ char ≤ 'f' then some (char.toNat - 'a'.toNat + 10)
  else if 'A' ≤ char ∧ char ≤ 'F' then some (char.toNat - 'A'.toNat + 10)
  else none

/-- The value of a digit, if it is one in `base`. -/
def digitIn? (base : Nat) (char : Char) : Option Nat :=
  (digitValue? char).filter fun value => value < base

/-- Append digits to the value `prior` of those before them. -/
def readDigits? (base : Nat) : Nat → List Char → Option Nat
  | prior, [] => some prior
  | prior, char :: rest =>
      (digitIn? base char).bind fun value => readDigits? base (prior * base + value) rest

/-- The value of one digit or more. -/
def numeral? (base : Nat) : List Char → Option Nat
  | [] => none
  | char :: rest => readDigits? base 0 (char :: rest)

/-- The number below `bound` that a text stands for. -/
def parseNatural? (bound : Nat) (text : String) : Option Nat :=
  let digits :=
    match text.toList with
    | '+' :: rest => rest
    | chars => chars
  (numeral? 10 digits).filter fun value => value < bound

end PsxPlayer
