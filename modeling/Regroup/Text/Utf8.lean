import Regroup.Bytes

/-!
# UTF-8

`scalars` reads a byte string from left to right. Where no well-formed sequence starts it skips
the longest part that begins one, at least one byte, and reports `none` for that part. Strict
decoding accepts a byte string without such parts, and lossy decoding puts the replacement
character in the place of each.
-/

namespace Regroup.Text

def encode (s : String) : Bytes :=
  s.toList.flatMap String.utf8EncodeChar

/-- How many bytes follow a lead byte, and `none` for a byte that leads nothing. -/
def followers (lead : UInt8) : Option Nat :=
  if lead < 0x80 then some 0
  else if lead < 0xC2 then none
  else if lead < 0xE0 then some 1
  else if lead < 0xF0 then some 2
  else if lead < 0xF5 then some 3
  else none

/-- The bounds of the second byte: they exclude long forms, surrogates and values past the last
scalar. -/
def secondBounds (lead : UInt8) : UInt8 × UInt8 :=
  if lead = 0xE0 then (0xA0, 0xBF)
  else if lead = 0xED then (0x80, 0x9F)
  else if lead = 0xF0 then (0x90, 0xBF)
  else if lead = 0xF4 then (0x80, 0x8F)
  else (0x80, 0xBF)

def isFollower (b : UInt8) : Bool :=
  0x80 ≤ b && b ≤ 0xBF

/-- The bytes, at most `count`, that continue the sequence begun by `lead`. -/
def tailOf (lead : UInt8) (count : Nat) : Bytes → Bytes
  | [] => []
  | second :: rest =>
    let (low, high) := secondBounds lead
    if low ≤ second && second ≤ high then second :: (rest.take (count - 1)).takeWhile isFollower
    else []

/-- The scalar value with the given lead byte and following bytes. -/
def scalarOf (lead : UInt8) (tail : Bytes) : Char :=
  let high := if tail.isEmpty then lead.toNat else lead.toNat % (1 <<< (6 - tail.length))
  Char.ofNat (tail.foldl (fun value b ↦ value * 64 + b.toNat % 64) high)

/-- Reads what the byte string `lead :: rest` starts with; the second part is what follows. -/
def nextScalar (lead : UInt8) (rest : Bytes) : Option Char × Bytes :=
  match followers lead with
  | none => (none, rest)
  | some 0 => (some (scalarOf lead []), rest)
  | some count =>
    let tail := tailOf lead count rest
    if tail.length = count then (some (scalarOf lead tail), rest.drop count)
    else (none, rest.drop tail.length)

theorem length_nextScalar_le (lead : UInt8) (rest : Bytes) :
    (nextScalar lead rest).2.length ≤ rest.length := by
  unfold nextScalar
  split
  · exact Nat.le_refl _
  · exact Nat.le_refl _
  · dsimp only
    split <;> simp

def scalars : Bytes → List (Option Char)
  | [] => []
  | lead :: rest =>
    let step := nextScalar lead rest
    step.1 :: scalars step.2
termination_by bs => bs.length
decreasing_by exact Nat.lt_succ_of_le (length_nextScalar_le lead rest)

/-- The text of a well-formed byte string, and `none` for any other. -/
def decode? (bs : Bytes) : Option (List Char) :=
  (scalars bs).mapM id

/-- The text with a replacement character for each ill-formed part. -/
def decodeLossy (bs : Bytes) : List Char :=
  (scalars bs).map fun scalar ↦ scalar.getD '\uFFFD'

end Regroup.Text
