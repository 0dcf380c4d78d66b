import Regroup.Log.Record
import Regroup.Pattern.Compile

/-!
# Log filters

A filter passes the records of a level and above. It may set levels for parts of the daemon, by the
start of their names; the longest name that fits decides, and of equal names the one given last.
Besides, it may ask for messages in which a pattern occurs. A pattern that cannot be used is a fault
of the specification and asks for nothing.
-/

namespace Regroup.Log

/-- Levels are ranks, so that zero can pass nothing. -/
structure Directive where
  name : Option String
  rank : Nat
deriving DecidableEq

structure Filter where
  directives : List Directive
  wanted : Option Pattern.Expression := none
deriving DecidableEq

namespace Filter

def ofLevel (level : Level) : Filter :=
  ⟨[⟨none, level.rank⟩], none⟩

/-! ## Reading a specification -/

/-- The rank of a level name in any letter case. -/
def rankNamed? (name : String) : Option Nat :=
  match name.toUpper with
  | "OFF" => some 0
  | "ERROR" => some 1
  | "WARN" => some 2
  | "INFO" => some 3
  | "DEBUG" => some 4
  | "TRACE" => some 5
  | _ => none

def maxRank : Nat := 5

def trimmed (s : String) : String :=
  String.ofList (Text.trim s.toList)

def ignored (part : String) : String :=
  s!"invalid logging spec '{part}', ignoring it"

/-- A part of a specification: a level, a name, or a name and its level. A fault names what cannot
be read. -/
def readDirective (part : String) : Except String Directive :=
  match part.splitOn "=" with
  | [single] =>
    match rankNamed? single with
    | some rank => .ok ⟨none, rank⟩
    | none => .ok ⟨some single, maxRank⟩
  | [name, level] =>
    let level := trimmed level
    if level = "" then .ok ⟨some name, maxRank⟩
    else
      match rankNamed? level with
      | some rank => .ok ⟨some name, rank⟩
      | none => .error (ignored level)
  | _ => .error (ignored part)

/-- A directive replaces an earlier one of the same name. -/
def insert (directives : List Directive) (directive : Directive) : List Directive :=
  if directives.any fun known ↦ known.name == directive.name then
    directives.map fun known ↦ if known.name == directive.name then directive else known
  else directives ++ [directive]

/-- Reads parts between commas. Without any directive only errors pass. -/
def readDirectives (parts : String) : List Directive × List String :=
  let named := ((parts.splitOn ",").map trimmed).filter (· ≠ "")
  let readings := named.map readDirective
  let directives := (readings.filterMap Except.toOption).foldl insert []
  let faults := readings.filterMap fun reading ↦
    match reading with
    | .ok _ => none
    | .error fault => some fault
  (if directives.isEmpty then [⟨none, Level.error.rank⟩] else directives, faults)

/-- Reads what messages have to hold. -/
def readWanted (pattern : String) : Option Pattern.Expression × List String :=
  match Pattern.compile pattern with
  | .ok wanted => (some wanted, [])
  | .error refusal => (none, [s!"invalid regex filter - {refusal.message pattern}"])

/-- Reads a specification: directives, and after a slash a pattern that messages have to match. One
with more slashes says nothing. The second answer lists the faults. -/
def read (specification : String) : Filter × List String :=
  match specification.splitOn "/" with
  | [parts] =>
    let (directives, faults) := readDirectives parts
    (⟨directives, none⟩, faults)
  | [parts, pattern] =>
    let (directives, faults) := readDirectives parts
    let (wanted, more) := readWanted pattern
    (⟨directives, wanted⟩, faults ++ more)
  | _ => (ofLevel .error, [ignored specification ++ " (too many '/'s)"])

/-! ## Passing records -/

def Directive.applies (directive : Directive) (target : Target) : Bool :=
  match directive.name with
  | none => true
  | some name => target.name.startsWith name

def Directive.length (directive : Directive) : Nat :=
  (directive.name.map String.length).getD 0

/-- The directive with the longest name that fits, the last of equals. -/
def decisive? (directives : List Directive) (target : Target) : Option Directive :=
  (directives.filter fun directive ↦ Directive.applies directive target).foldl
    (fun best? directive ↦
      match best? with
      | none => some directive
      | some best =>
        if Directive.length best ≤ Directive.length directive then some directive else best?)
    none

def passes (filter : Filter) (record : Record) : Bool :=
  ((decisive? filter.directives record.target).any fun directive ↦
    record.level.rank ≤ directive.rank) &&
    filter.wanted.all fun wanted ↦ wanted.occursIn record.message

/-- The lowest level that passes anywhere. -/
def rank (filter : Filter) : Nat :=
  filter.directives.foldl (fun rank directive ↦ max rank directive.rank) 0

end Filter

end Regroup.Log
