/-!
# Decimal numerals

`readNat` reads an unsigned numeral and `readInt` a signed one, both within bounds. Leading
zeros and one plus sign are allowed. The characters are judged from left to right, so the first
fault decides: a numeral that leaves its bounds before it reaches a character that is no digit
is out of bounds.
-/

namespace Regroup.Text

inductive NumeralFault where
  | empty
  | notADigit
  | tooLarge
  | tooSmall
deriving DecidableEq

def NumeralFault.message : NumeralFault → String
  | .empty => "cannot parse integer from empty string"
  | .notADigit => "invalid digit found in string"
  | .tooLarge => "number too large to fit in target type"
  | .tooSmall => "number too small to fit in target type"

def digit? (base : Nat) (c : Char) : Option Nat :=
  let value :=
    if '0' ≤ c && c ≤ '9' then c.toNat - '0'.toNat
    else if 'a' ≤ c && c ≤ 'z' then c.toNat - 'a'.toNat + 10
    else if 'A' ≤ c && c ≤ 'Z' then c.toNat - 'A'.toNat + 10
    else base
  if value < base then some value else none

/-- The value of `digits` appended to a numeral of value `value`, at most `bound`. -/
def readDigits (base bound : Nat) (beyond : NumeralFault) (value : Nat) :
    List Char → Except NumeralFault Nat
  | [] => .ok value
  | c :: cs =>
    match digit? base c with
    | none => .error .notADigit
    | some d =>
      let value := value * base + d
      if bound < value then .error beyond else readDigits base bound beyond value cs

/-- An unsigned numeral to a base, of value at most `bound`. -/
def readNatBase (base bound : Nat) : List Char → Except NumeralFault Nat
  | [] => .error .empty
  | ['+'] => .error .notADigit
  | '+' :: cs => readDigits base bound .tooLarge 0 cs
  | cs => readDigits base bound .tooLarge 0 cs

def readNat (bound : Nat) (s : List Char) : Except NumeralFault Nat :=
  readNatBase 10 bound s

/-- A signed numeral between `-(bound + 1)` and `bound`. -/
def readInt (bound : Nat) : List Char → Except NumeralFault Int
  | [] => .error .empty
  | ['-'] => .error .notADigit
  | '-' :: cs => (readDigits 10 (bound + 1) .tooSmall 0 cs).map fun n ↦ -(n : Int)
  | cs => (readNat bound cs).map Int.ofNat

def readUInt32? (s : List Char) : Option UInt32 :=
  match readNat (UInt32.size - 1) s with
  | .ok n => some (UInt32.ofNat n)
  | .error _ => none

end Regroup.Text
