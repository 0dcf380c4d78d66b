import Regroup.Text.Blank
import Regroup.Text.Numeral
import Regroup.Text.Quoted

/-!
# Sectioned configuration files

A file is a sequence of blocks. A name between brackets opens a block, which collects the pairs up
to the next one; the pairs before the first name form a block without a name. A key reaches to the
next `=` or `:` and may span lines, a value reaches to the end of its line, and comments start a
line with `;` or `#`. In keys, names and values a backslash escapes.

The reader works on what is left of the text. A fault records what was left when it was found, with
the character it is about at the front, and its position follows from that.
-/

namespace Regroup.Ini

/-- What a text reaches to: one of these characters, or for `none` the end of the file. -/
abbrev Stops := List (Option Char)

inductive Cause where
  | inlineComment
  | missingKey
  | endOfFile (stops : Stops)
  | brokenEscape (found : Option Char)
  | unknownCharacter
deriving DecidableEq

def stopText : Option Char → String
  | some c => "Some(" ++ Text.quotedChar c ++ ")"
  | none => "None"

def Cause.message : Cause → String
  | inlineComment => "doesn't support inline comment"
  | missingKey => "missing key"
  | endOfFile stops =>
    "expecting \"[" ++ ", ".intercalate (stops.map stopText) ++ "]\" but found EOF."
  | brokenEscape found => "expecting \"\\\\n\" but found \"" ++ stopText found ++ "\"."
  | unknownCharacter => "unknown character in \\xHH form"

structure Fault where
  cause : Cause
  rest : List Char
deriving DecidableEq

structure Block where
  name : Option String
  pairs : List (String × String)
deriving DecidableEq

/-- Lines and columns count from zero before the first character is read. Reading a line feed goes
to column zero of the next line. -/
def positionAfter (read : List Char) : Nat × Nat :=
  read.foldl (fun (line, column) c ↦ if c = '\n' then (line + 1, 0) else (line, column + 1)) (0, 0)

/-- The position of the first character of what is left, or of the last one of the file. -/
def positionIn (text rest : List Char) : Nat × Nat :=
  positionAfter (text.take (text.length - rest.length + 1))

def Fault.message (fault : Fault) (text : List Char) : String :=
  let (line, column) := positionIn text fault.rest
  s!"{line + 1}:{column + 1} {fault.cause.message}"

/-! ## Texts with escapes -/

/-- The character that a letter stands for after a backslash, if it is no character for itself. -/
def escapeOf (c : Char) : Char :=
  match c with
  | '0' => '\x00'
  | 'a' => '\x07'
  | 'b' => '\x08'
  | 't' => '\t'
  | 'r' => '\r'
  | 'n' => '\n'
  | c => c

/-- The next `count` characters, which are taken as they are, and what follows them. A backslash
among them has to stand before a line feed, which is then the character that is taken. -/
def takeCode (stops : Stops) : Nat → List Char → Except Fault (List Char × List Char)
  | 0, rest => .ok ([], rest)
  | _ + 1, [] => .error ⟨.endOfFile stops, []⟩
  | count + 1, '\\' :: rest =>
    match rest with
    | '\n' :: rest => (takeCode stops count rest).map fun (code, rest) ↦ ('\n' :: code, rest)
    | rest => .error ⟨.brokenEscape rest.head?, rest⟩
  | count + 1, c :: rest =>
    (takeCode stops count rest).map fun (code, rest) ↦ (c :: code, rest)

theorem length_takeCode_le (stops : Stops) (count : Nat) (s code rest : List Char)
    (h : takeCode stops count s = .ok (code, rest)) : rest.length ≤ s.length := by
  fun_induction takeCode stops count s generalizing code rest with
  | case1 => simp_all
  | case2 => simp at h
  | case3 count s ih =>
    cases hrest : takeCode stops count s with
    | error => simp [hrest, Except.map] at h
    | ok pair =>
      have hle := ih pair.1 pair.2 hrest
      simp only [hrest, Except.map, Except.ok.injEq, Prod.mk.injEq] at h
      simp only [← h.2, List.length_cons]
      omega
  | case4 => simp at h
  | case5 count c s _ ih =>
    cases hrest : takeCode stops count s with
    | error => simp [hrest, Except.map] at h
    | ok pair =>
      have hle := ih pair.1 pair.2 hrest
      simp only [hrest, Except.map, Except.ok.injEq, Prod.mk.injEq] at h
      simp only [← h.2, List.length_cons]
      omega

/-- The character that a code of four characters gives. -/
def characterOf? (code : List Char) : Option Char :=
  match Text.readNatBase 16 (UInt32.size - 1) code with
  | .ok n => if n.isValidChar then some (Char.ofNat n) else none
  | .error _ => none

/-- Reads up to a stop, which is left at the front of the rest. -/
def readUntil (stops : Stops) (s : List Char) : Except Fault (List Char × List Char) :=
  match s with
  | [] => if stops.contains none then .ok ([], []) else .error ⟨.endOfFile stops, []⟩
  | c :: rest =>
    if stops.contains (some c) then .ok ([], c :: rest)
    else if c ≠ '\\' then (readUntil stops rest).map fun (text, rest) ↦ (c :: text, rest)
    else
      match rest with
      | [] => .error ⟨.endOfFile stops, []⟩
      | '\n' :: rest => readUntil stops rest
      | 'x' :: rest =>
        match hcode : takeCode stops 4 rest with
        | .error fault => .error fault
        | .ok (code, following) =>
          have := length_takeCode_le stops 4 rest code following hcode
          match characterOf? code with
          | none => .error ⟨.unknownCharacter, code.getLast?.toList ++ following⟩
          | some character =>
            (readUntil stops following).map fun (text, rest) ↦ (character :: text, rest)
      | c :: rest => (readUntil stops rest).map fun (text, rest) ↦ (escapeOf c :: text, rest)
termination_by s.length

/-! ## Blocks -/

def nameStops : Stops := [some ']']
def keyStops : Stops := [some '=', some ':']
def lineStops : Stops := [some '\n', some '\r', none]

def skipComment (s : List Char) : List Char :=
  (s.dropWhile (· ≠ '\n')).drop 1

/-- The value after the character that ends a key. A value that starts with a quote reaches to the
same quote, and what follows on the line is joined to it. -/
def readValue (s : List Char) : Except Fault (List Char × List Char) :=
  match s.dropWhile fun c ↦ Text.isBlank c && c ≠ '\n' && c ≠ '\r' with
  | [] => .ok ([], [])
  | c :: rest =>
    if c = '"' || c = '\'' then do
      let (inner, rest) ← readUntil [some c] rest
      let (outer, rest) ← readUntil lineStops (rest.drop 1)
      return (inner ++ outer, rest)
    else readUntil lineStops (c :: rest)

def trimmed (s : List Char) : String :=
  String.ofList (Text.trim s)

/-- Whether the first character that is not blank is the first one of its line. Without blanks
before it that has to be known. -/
def opensLine (isLineStart : Bool) (s : List Char) : Bool :=
  match (s.takeWhile Text.isBlank).getLast? with
  | none => isLineStart
  | some blank => blank = '\n'

/-- The pairs up to the next block, and the blocks from there on. `key` is the key that still lacks
its value, and `isLineStart` says that a line starts here. Every round reads at least one character,
so as many rounds as the text has characters are enough. -/
def readBlocks : Nat → (isLineStart : Bool) → (key : List Char) → List Char →
    Except Fault (List (String × String) × List Block)
  | 0, _, _, _ => .ok ([], [])
  | rounds + 1, isLineStart, key, s =>
    match s.dropWhile Text.isBlank with
    | [] => .ok ([], [])
    | c :: rest =>
      if c = ';' || c = '#' then
        if opensLine isLineStart s then readBlocks rounds true key (skipComment rest)
        else .error ⟨.inlineComment, c :: rest⟩
      else if c = '[' then do
        let (name, rest) ← readUntil nameStops rest
        let (pairs, blocks) ← readBlocks rounds false key (rest.drop 1)
        return ([], ⟨some (trimmed name), pairs⟩ :: blocks)
      else if c = '=' || c = ':' then
        if key.isEmpty then .error ⟨.missingKey, c :: rest⟩
        else do
          let (value, rest) ← readValue rest
          let (pairs, blocks) ← readBlocks rounds false [] rest
          return ((String.ofList key, trimmed value) :: pairs, blocks)
      else do
        let (key, rest) ← readUntil keyStops (c :: rest)
        readBlocks rounds false (Text.trim key) rest

/-- The blocks of a text in the order of the file. A byte order mark at the front is dropped. -/
def read (text : List Char) : Except String (List Block) :=
  let text := if text.head? = some '\uFEFF' then text.drop 1 else text
  match readBlocks (text.length + 1) true [] text with
  | .ok (pairs, blocks) => .ok (⟨none, pairs⟩ :: blocks)
  | .error fault => .error (fault.message text)

end Regroup.Ini
