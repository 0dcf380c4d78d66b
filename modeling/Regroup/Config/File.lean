import Regroup.Config.Ini
import Regroup.Config.Value
import Regroup.FileTree
import Regroup.Log.Record

/-!
# The configuration

The configuration is what a configuration file says, looked up by section and key. Blocks of the
same name are one section, of equal keys the last one counts, and pairs outside every named block
are not looked at.
-/

namespace Regroup.Config

open Log (Record)

inductive ConfigError where
  | notFound (path : String)
  | unreadable (path reason : String)
  | invalidValue (field value reason : String)
deriving DecidableEq

namespace ConfigError

def message : ConfigError → String
  | notFound path => s!"configuration file {path} not found"
  | unreadable path _ => s!"error loading configuration from {path}"
  | invalidValue field value reason =>
    s!"{value} is not a valid value for field {field}: {reason}"

def sources : ConfigError → List String
  | notFound _ | invalidValue _ _ _ => []
  | unreadable _ reason => [reason]

end ConfigError

/-- The values of one section, each key once. -/
structure Section where
  name : String
  values : List (String × String) := []
deriving DecidableEq

abbrev Configuration := List Section

namespace Section

def set (s : Section) (key value : String) : Section :=
  { s with values := (key, value) :: s.values.filter fun known ↦ known.1 != key }

def raw? (s : Section) (key : String) : Option String :=
  s.values.lookup key

/-- The typed value of a key, none where the key is missing. -/
def value? {α : Type} (s : Section) (read : Reader α) (key : String) :
    Except ConfigError (Option α) :=
  match s.raw? key with
  | none => .ok none
  | some value =>
    match read value with
    | .ok typed => .ok (some typed)
    | .error reason => .error (.invalidValue s!"{s.name}.{key}" value reason)

/-- The typed value of a key, or a default where the key is missing. -/
def valueOr {α : Type} (s : Section) (read : Reader α) (key : String) (default : α) :
    Except ConfigError α :=
  (s.value? read key).map fun value ↦ value.getD default

end Section

namespace Configuration

/-- The section of a name, without values if the file has none. -/
def named (config : Configuration) (name : String) : Section :=
  (config.find? fun s ↦ s.name == name).getD ⟨name, []⟩

/-- Puts a section in the place of the one with its name. -/
def replace (config : Configuration) (s : Section) : Configuration :=
  s :: config.filter fun known ↦ known.name != s.name

/-- Adds the pairs of a block to the section of its name. -/
def addBlock (config : Configuration) (block : Ini.Block) : Configuration :=
  match block.name with
  | none => config
  | some name =>
    config.replace (block.pairs.foldl (fun s (key, value) ↦ s.set key value) (config.named name))

def ofBlocks (blocks : List Ini.Block) : Configuration :=
  blocks.foldl addBlock []

/-- One record for each pair of a named block, in the order of the file. -/
def blockRecords (block : Ini.Block) : List Record :=
  match block.name with
  | none => []
  | some name =>
    block.pairs.map fun (key, value) ↦ ⟨.debug, .config, s!"{name}.{key}={value}"⟩

structure Loading where
  result : Except ConfigError Configuration
  records : List Record

def readFile (tree : FileTree) (path : String) : Except String (List Ini.Block) :=
  match tree.readText path with
  | .error cause => .error cause.message
  | .ok text => Ini.read text

def loadFile (tree : FileTree) (path : String) : Loading :=
  match readFile tree path with
  | .error reason => ⟨.error (.unreadable path reason), []⟩
  | .ok blocks => ⟨.ok (ofBlocks blocks), blocks.flatMap blockRecords⟩

def defaultPath : String := "/etc/cgrulesd.ini"

/-- Loads a file that was asked for, which has to exist, or else the default file if it exists. -/
def load (tree : FileTree) : (path : Option String) → Loading
  | some path =>
    if tree.pathExists path then loadFile tree path else ⟨.error (.notFound path), []⟩
  | none =>
    if tree.pathExists defaultPath then loadFile tree defaultPath
    else ⟨.ok [], [⟨.debug, .config, s!"{defaultPath} not found, using defaults"⟩]⟩

end Configuration

end Regroup.Config
