import Regroup.Text.Printable

/-!
# Quoted texts

A quoted text stands between two delimiters and shows on one line: line ends, tabs, backslashes
and the delimiter are escaped by a backslash, and hidden characters are written as their number
to base 16 in braces.
-/

namespace Regroup.Text

def escapeChar (delimiter c : Char) : List Char :=
  if c = '\x00' then ['\\', '0']
  else if c = '\t' then ['\\', 't']
  else if c = '\r' then ['\\', 'r']
  else if c = '\n' then ['\\', 'n']
  else if c = '\\' || c = delimiter then ['\\', c]
  else if isHidden c then ['\\', 'u', '\x7b'] ++ Nat.toDigits 16 c.toNat ++ ['\x7d']
  else [c]

def quoteWith (delimiter : Char) (s : List Char) : String :=
  String.ofList (delimiter :: s.flatMap (escapeChar delimiter) ++ [delimiter])

/-- A text between double quotes. -/
def quoted (s : String) : String :=
  quoteWith '"' s.toList

/-- A character between single quotes. -/
def quotedChar (c : Char) : String :=
  quoteWith '\'' [c]

end Regroup.Text
