import Regroup.Text.Numeral

/-!
# Typed values

A value of a configuration file is a text until some setting asks for a type. A reader either gives
the typed value or says in words why the text is none.
-/

namespace Regroup.Config

abbrev Reader (α : Type) := String → Except String α

namespace Reader

def text : Reader String := .ok

def bool : Reader Bool
  | "true" => .ok true
  | "false" => .ok false
  | _ => .error "provided string was not `true` or `false`"

/-- A number from zero to the given bound. -/
def natUpTo (bound : Nat) : Reader Nat := fun value ↦
  (Text.readNat bound value.toList).mapError Text.NumeralFault.message

/-- A number from `-(bound + 1)` to the given bound. -/
def intUpTo (bound : Nat) : Reader Int := fun value ↦
  (Text.readInt bound value.toList).mapError Text.NumeralFault.message

/-- A size in bytes. -/
def size : Reader Nat := natUpTo (UInt64.size - 1)

def char : Reader Char := fun value ↦
  match value.toList with
  | [c] => .ok c
  | [] => .error "cannot parse char from empty string"
  | _ => .error "too many characters in string"

end Reader

end Regroup.Config
