/-!
# Path texts

A path is kept as the text it was written as. Slashes separate its components, and a path is
absolute when it starts with one. Nothing is normalised: joining only decides whether a slash has
to be put between two texts.
-/

namespace Regroup.Path

def isAbsolute (path : String) : Bool :=
  path.toList.head? == some '/'

/-- The texts between slashes, also the empty ones. -/
def pieces (path : String) : List String :=
  (path.toList.splitOn '/').map String.ofList

/-- An absolute second path replaces the first. An empty one leaves a slash at the end. -/
def join (base path : String) : String :=
  if isAbsolute path then path
  else
    match base.toList.getLast? with
    | none => path
    | some last => if last = '/' then base ++ path else base ++ "/" ++ path

/-- Whether some component of the path leads to the directory above. -/
def climbs (path : String) : Bool :=
  (pieces path).contains ".."

end Regroup.Path
