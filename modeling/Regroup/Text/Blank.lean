/-!
# Blanks and fields

A character is blank when it has the property `White_Space` of the Unicode standard. `fields`
cuts a text at runs of blanks and `trim` removes them at both ends; no field is empty, and none
holds a blank.
-/

namespace Regroup.Text

/-- The ranges of the property `White_Space`. -/
def blankRanges : List (Nat × Nat) :=
  [(0x9, 0xD), (0x20, 0x20), (0x85, 0x85), (0xA0, 0xA0), (0x1680, 0x1680), (0x2000, 0x200A),
    (0x2028, 0x2029), (0x202F, 0x202F), (0x205F, 0x205F), (0x3000, 0x3000)]

def inRanges (ranges : List (Nat × Nat)) (n : Nat) : Bool :=
  ranges.any fun range ↦ range.1 ≤ n && n ≤ range.2

def isBlank (c : Char) : Bool :=
  inRanges blankRanges c.toNat

def trimStart (s : List Char) : List Char :=
  s.dropWhile isBlank

def trimEnd (s : List Char) : List Char :=
  (s.reverse.dropWhile isBlank).reverse

def trim (s : List Char) : List Char :=
  trimEnd (trimStart s)

def fields (s : List Char) : List (List Char) :=
  (s.splitOnP isBlank).filter fun field ↦ !field.isEmpty

end Regroup.Text
