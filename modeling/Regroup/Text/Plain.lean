/-!
# Plain texts

A terminal takes some characters of a text as commands. A plain text has none of them: commands are
left out from their first character to their last, and so are the control characters outside of
commands, except those that are white space.
-/

namespace Regroup.Text

/-- How far a command has been read. -/
inductive CommandState where
  | outside
  | escaped
  | escapedFurther
  | control
  | title
  | message
deriving DecidableEq

def isWhiteControl (c : Char) : Bool :=
  c = '\t' || c = '\n' || c = '\x0C' || c = '\r'

def isWithin (low high c : Char) : Bool :=
  low ≤ c && c ≤ high

namespace CommandState

/-- What follows the escape character, unless it is a control character. -/
def afterEscape (c : Char) : CommandState :=
  if c = '[' then control
  else if c = ']' then title
  else if c = 'P' || c = 'X' || c = '^' || c = '_' then message
  else if isWithin ' ' '/' c then escapedFurther
  else if isWithin '0' '~' c then outside
  else escaped

/-- Reads a character and tells whether the plain text keeps it. White space ends a command, but not
a title or a message. -/
def read (state : CommandState) (c : Char) : CommandState × Bool :=
  if c = '\x1B' then (escaped, false)
  else if c = '\x18' || c = '\x1A' then (outside, false)
  else
    match state with
    | outside => (outside, (' ' ≤ c && c ≠ '\x7F') || isWhiteControl c)
    | title => (if c = '\x07' then outside else title, false)
    | message => (message, false)
    | escaped => if isWhiteControl c then (outside, true) else (afterEscape c, false)
    | escapedFurther =>
      if isWhiteControl c then (outside, true)
      else (if isWithin '0' '~' c then outside else escapedFurther, false)
    | control =>
      if isWhiteControl c then (outside, true)
      else (if isWithin '@' '~' c then outside else control, false)

end CommandState

def plainFrom : CommandState → List Char → List Char
  | _, [] => []
  | state, c :: cs =>
    let (state, isKept) := state.read c
    if isKept then c :: plainFrom state cs else plainFrom state cs

/-- A text without commands to a terminal. -/
def plain (s : String) : String :=
  String.ofList (plainFrom .outside s.toList)

end Regroup.Text
