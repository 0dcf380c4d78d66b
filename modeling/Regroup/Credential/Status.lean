import Regroup.Credential.Event
import Regroup.FileTree
import Regroup.Text.Blank
import Regroup.Text.Numeral
import Regroup.Text.Quoted
import Regroup.Text.Split

/-!
# Completing an event

The status record of a process has a line for its users and one for its groups, and each lists the
real number, the effective one and others. An event about one identity is completed with the
effective number of the other.

Lines are matched as bytes, since the name of a process may hold any byte. The first line with the
wanted label decides, whatever follows it.
-/

namespace Regroup.Credential

inductive ResolveError where
  | statusUnavailable (path : String) (cause : SystemError)
  | fieldMissing (label path : String)
  | malformed (label path line : String)
deriving DecidableEq

namespace ResolveError

def message : ResolveError → String
  | statusUnavailable path _ => s!"reading {path} failed"
  | fieldMissing label path => s!"no {label} line in {path}"
  | malformed label path line => s!"malformed {label} line in {path}: {Text.quoted line}"

def sources : ResolveError → List String
  | statusUnavailable _ cause => [cause.message]
  | fieldMissing _ _ | malformed _ _ _ => []

end ResolveError

/-- The label of the line with the identity that the kernel did not report. -/
def Kind.complementLabel : Kind → String
  | .user => "Gid:"
  | .group => "Uid:"

/-- Space, tab, line feed, form feed and carriage return; the vertical tab is not among them. -/
def isLabelEnd (b : UInt8) : Bool :=
  b = 32 || b = 9 || b = 10 || b = 12 || b = 13

/-- What follows the label on a line that has it. -/
def labelled? (label : Bytes) (line : Bytes) : Option Bytes :=
  if label.isPrefixOf line then
    let values := line.drop label.length
    if values.head?.all isLabelEnd then some values else none
  else none

/-- The second of the numbers on a line. The first has to be a number as well. -/
def effectiveNumber? (values : Bytes) : Option UInt32 :=
  match Text.fields (Text.decodeLossy values) with
  | real :: effective :: _ => do
    let _ ← Text.readUInt32? real
    Text.readUInt32? effective
  | _ => none

/-- The first line with a label, as a whole and without the label. -/
def labelledLine? (label : Bytes) (record : Bytes) : Option (Bytes × Bytes) :=
  (Text.linesAt 10 record).findSome? fun line ↦
    (labelled? label line).map fun values ↦ (line, values)

/-- The effective number of the identity that a label stands for. -/
def lookUp (label path : String) (record : Bytes) : Except ResolveError UInt32 :=
  match labelledLine? (Text.encode label) record with
  | none => .error (.fieldMissing label path)
  | some (line, values) =>
    match effectiveNumber? values with
    | some number => .ok number
    | none => .error (.malformed label path (String.ofList (Text.decodeLossy line)))

def statusPath (processRoot : String) (process : Int32) : String :=
  Path.join (Path.join processRoot (toString process)) "status"

/-- The bytes of a status record. A directory in its place opens and has no bytes. -/
def readStatus (tree : FileTree) (path : String) : Except ResolveError Bytes :=
  match tree.openForReading path with
  | .error cause => .error (.statusUnavailable path cause)
  | .ok (.file content) => .ok content
  | .ok .directory => .ok []

/-- Completes an event from the status record of its process. -/
def Event.resolve (e : Event) (tree : FileTree) (processRoot : String) :
    Except ResolveError Resolved := do
  let path := statusPath processRoot e.process
  let record ← readStatus tree path
  let number ← lookUp e.kind.complementLabel path record
  return match e.kind with
    | .user => ⟨e.process, e.effective, number⟩
    | .group => ⟨e.process, number, e.effective⟩

end Regroup.Credential
