import Regroup.Pattern.Expression
import Regroup.Pattern.Fault

/-!
# The meaning of a pattern

The meaning of a tree is an expression. It depends on the modes that flags have set, and a pattern
has none where it asks for more than there is: there are no tables of the properties and cases of
characters, so these may only be asked for where the pattern is about basic characters. What a
pattern matches has to be text, so outside Unicode mode it must not go beyond them.
-/

namespace Regroup.Pattern

structure Modes where
  ignoreCase : Bool := false
  multiLine : Bool := false
  dotAll : Bool := false
  unicode : Bool := true
  returns : Bool := false
deriving DecidableEq

namespace Modes

def change (modes : Modes) (items : List FlagItem) : Modes where
  ignoreCase := (setting? .ignoreCase items).getD modes.ignoreCase
  multiLine := (setting? .multiLine items).getD modes.multiLine
  dotAll := (setting? .dotAll items).getD modes.dotAll
  unicode := (setting? .unicode items).getD modes.unicode
  returns := (setting? .returns items).getD modes.returns

/-- A fault at a span. -/
def fail {α : Type} (kind : FaultKind) (span : Span) : Except Fault α :=
  .error { kind, span }

/-! ## Sets -/

/-- Fails where a set goes beyond the basic characters and must not. -/
def checkBasic (modes : Modes) (span : Span) (s : CharacterSet) : Except Fault CharacterSet :=
  if !modes.unicode && !s.isAscii then fail .invalidUtf8 span else .ok s

/-- A named set as it stands in brackets. -/
def namedSet (modes : Modes) (span : Span) (s : NamedSet) (negated : Bool) :
    Except Fault CharacterSet :=
  if modes.ignoreCase && modes.unicode then fail .caseUnavailable span
  else
    let base := if modes.ignoreCase then .foldCase s.set else s.set
    modes.checkBasic span (if negated then .complement base else base)

def shorthandSet (modes : Modes) (span : Span) (s : NamedSet) (negated : Bool) :
    Except Fault CharacterSet :=
  if modes.unicode then fail .shorthandUnavailable span
  else modes.checkBasic span (if negated then .complement s.set else s.set)

/-- The names of properties are compared in lower case, without the signs between their words and
without `is` in front. -/
def normalizedName (name : String) : String :=
  let letters := name.toList
  let bare :=
    match letters with
    | i :: s :: rest => if i.toLower = 'i' && s.toLower = 's' then rest else letters
    | _ => letters
  let isSign (c : Char) : Bool := c = ' ' || c = '_' || c = '-'
  String.ofList ((bare.filter fun c ↦ c.toNat < 128 && !isSign c).map Char.toLower)

/-- Three names are those of a value. No other name is known at all. -/
def propertyFault (property : Property) : FaultKind :=
  if property.value.isNone && ["cf", "sc", "lc"].contains (normalizedName property.name) then
    .propertyValueUnknown
  else .propertyUnknown

/-- A literal that is an end of a range or an item of a set. -/
def setLiteral (modes : Modes) (l : Literal) : Except Fault Char :=
  if modes.unicode || l.char.toNat < 128 then .ok l.char
  else if l.isByte then fail .invalidUtf8 l.span
  else fail .unicodeNotAllowed l.span

/-- Adds the other cases to a set that is read, which is known to be complete where it has no
characters of its own. -/
def foldSet (modes : Modes) (span : Span) (holdsCharacter : Bool) (s : CharacterSet) :
    Except Fault CharacterSet :=
  if !modes.ignoreCase then .ok s
  else if !modes.unicode then .ok (.foldCase s)
  else if holdsCharacter then fail .caseUnavailable span
  else .ok s

end Modes

open Modes (fail)

mutual

/-- Whether a set has characters that do not come from brackets inside it. -/
def SetTree.holdsCharacter : SetTree → Bool
  | .literal _ | .range _ _ _ => true
  | .union _ items => SetTree.anyHoldsCharacter items
  | .nothing _ | .named _ _ _ | .shorthand _ _ _ | .property _ _ | .bracket _ _ _
  | .operation _ _ _ _ => false

def SetTree.anyHoldsCharacter : List SetTree → Bool
  | [] => false
  | item :: items => item.holdsCharacter || SetTree.anyHoldsCharacter items

end

mutual

def SetTree.meaning (modes : Modes) : SetTree → Except Fault CharacterSet
  | .nothing _ => .ok .none
  | .literal l => (modes.setLiteral l).map CharacterSet.single
  | .range _ low high => do
    let low ← modes.setLiteral low
    let high ← modes.setLiteral high
    return .range low high
  | .named span s negated => modes.namedSet span s negated
  | .shorthand span s negated => modes.shorthandSet span s negated
  | .property span p =>
    if modes.unicode then fail (Modes.propertyFault p) span
    else fail .unicodeNotAllowed span
  | .bracket span negated inner => do
    let s ← inner.meaning modes
    let s ← modes.foldSet span inner.holdsCharacter s
    modes.checkBasic span (if negated then .complement s else s)
  | .union _ items => (SetTree.meanings modes items).map CharacterSet.unionAll
  | .operation _ kind left right => do
    let a ← left.meaning modes
    let b ← right.meaning modes
    let b ← modes.foldSet right.span right.holdsCharacter b
    let a ← modes.foldSet left.span left.holdsCharacter a
    return .combine kind a b

def SetTree.meanings (modes : Modes) : List SetTree → Except Fault (List CharacterSet)
  | [] => .ok []
  | item :: items => do
    let s ← item.meaning modes
    let rest ← SetTree.meanings modes items
    return s :: rest

end

/-! ## Patterns -/

namespace Modes

def literalMeaning (modes : Modes) (l : Literal) : Except Fault Expression :=
  if !modes.unicode && l.isByte && 128 ≤ l.char.toNat then fail .invalidUtf8 l.span
  else if !modes.ignoreCase then .ok (.set (.single l.char))
  else if modes.unicode then fail .caseUnavailable l.span
  else .ok (.set (.foldCase (.single l.char)))

def dotMeaning (modes : Modes) (span : Span) : Except Fault Expression :=
  if !modes.unicode then fail .invalidUtf8 span
  else if modes.dotAll then .ok (.set .any)
  else if modes.returns then
    .ok (.set (.complement (.union (.single '\n') (.single '\r'))))
  else .ok (.set (.complement (.single '\n')))

def lookFor (modes : Modes) : Assertion → Look
  | .lineStart =>
    if !modes.multiLine then .textStart
    else if modes.returns then .returnLineStart else .lineStart
  | .lineEnd =>
    if !modes.multiLine then .textEnd else if modes.returns then .returnLineEnd else .lineEnd
  | .textStart => .textStart
  | .textEnd => .textEnd
  | .wordBoundary => if modes.unicode then .wordOfAnyScript else .wordBoundary
  | .noWordBoundary => if modes.unicode then .wordOfAnyScript else .noWordBoundary
  | .wordStart => if modes.unicode then .wordOfAnyScript else .wordStart
  | .wordEnd => if modes.unicode then .wordOfAnyScript else .wordEnd
  | .wordStartHalf => if modes.unicode then .wordOfAnyScript else .wordStartHalf
  | .wordEndHalf => if modes.unicode then .wordOfAnyScript else .wordEndHalf

end Modes

namespace Expression

def ofSequence : List Expression → Expression
  | [] => empty
  | [e] => e
  | e :: es => sequence e (ofSequence es)

/-- Without anything to choose from there is no match. -/
def ofChoice : List Expression → Expression
  | [] => set .none
  | [e] => e
  | e :: es => choice e (ofChoice es)

/-- A repetition that is none is left out, and repeating once is enough where it leads nowhere. -/
def repeated (least : Nat) (most : Option Nat) (e : Expression) : Expression :=
  let (least, most) :=
    if e.staysInPlace then (min least 1, some (min (most.getD 1) 1)) else (least, most)
  if most = some 0 then empty
  else if least = 1 && most = some 1 then e
  else repetition least most e

end Expression

mutual

/-- The meaning of a tree, and the modes that hold behind it. -/
def Tree.meaning (modes : Modes) : Tree → Except Fault (Expression × Modes)
  | .empty _ => .ok (.empty, modes)
  | .flags _ items => .ok (.empty, modes.change items)
  | .literal l => (modes.literalMeaning l).map (·, modes)
  | .dot span => (modes.dotMeaning span).map (·, modes)
  | .assertion _ a => .ok (.look (modes.lookFor a), modes)
  | .set s => (s.meaning modes).map fun s ↦ (.set s, modes)
  | .repetition _ item least most => do
    let (e, modes) ← item.meaning modes
    return (.repeated least most e, modes)
  | .group _ items captures inner => do
    let (e, _) ← inner.meaning (modes.change items)
    return (if captures then .group e else e, modes)
  | .sequence _ items => do
    let (es, modes) ← Tree.meanings modes items
    return (.ofSequence es, modes)
  | .choice _ items => do
    let (es, modes) ← Tree.meanings modes items
    return (.ofChoice es, modes)

def Tree.meanings (modes : Modes) : List Tree → Except Fault (List Expression × Modes)
  | [] => .ok ([], modes)
  | item :: items => do
    let (e, modes) ← item.meaning modes
    let (es, modes) ← Tree.meanings modes items
    return (e :: es, modes)

end

end Regroup.Pattern
