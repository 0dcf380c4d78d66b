import Regroup.Text.Numeral
import Regroup.Text.Split

/-!
# Users and groups

The user and group databases of the system, as far as rules refer to them. Every lookup answers
with the first entry that fits.
-/

namespace Regroup

structure Group where
  name : String
  number : UInt32
  members : List String
deriving DecidableEq

structure Identities where
  users : List (String × UInt32)
  groups : List Group
deriving DecidableEq

namespace Identities

def userNumber? (ids : Identities) (name : String) : Option UInt32 :=
  ids.users.lookup name

def userName? (ids : Identities) (number : UInt32) : Option String :=
  (ids.users.find? fun user ↦ user.2 == number).map Prod.fst

def groupNamed? (ids : Identities) (name : String) : Option Group :=
  ids.groups.find? fun group ↦ group.name == name

def groupNumbered? (ids : Identities) (number : UInt32) : Option Group :=
  ids.groups.find? fun group ↦ group.number == number

/-! ## System files -/

/-- A line of the user file: the name, a password, the number, and fields of no interest. -/
def userOfLine? (line : List Char) : Option (String × UInt32) :=
  match line.splitOn ':' with
  | name :: _ :: number :: _ =>
    (Text.readUInt32? number).map fun number ↦ (String.ofList name, number)
  | _ => none

/-- A line of the group file: the name, a password, the number, and the members. -/
def groupOfLine? (line : List Char) : Option Group :=
  match line.splitOn ':' with
  | name :: _ :: number :: members :: _ =>
    (Text.readUInt32? number).map fun number ↦
      ⟨String.ofList name, number,
        ((members.splitOn ',').filter fun member ↦ !member.isEmpty).map String.ofList⟩
  | _ => none

/-- The databases that the texts of a user file and a group file hold. -/
def ofTexts (users groups : List Char) : Identities where
  users := (Text.linesAt '\n' users).filterMap userOfLine?
  groups := (Text.linesAt '\n' groups).filterMap groupOfLine?

end Identities

end Regroup
