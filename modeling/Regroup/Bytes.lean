/-!
# Byte strings

Byte strings are lists of bytes. A number is stored with its least significant byte first, and
`toNat` and `ofNat` convert between a number and its bytes at every width at once, so the words
of 16, 32 and 64 bits that records are made of share one law of reading and writing.
-/

namespace Regroup

abbrev Bytes := List UInt8

namespace Bytes

/-- The number whose digits to base 256 are the bytes, least significant first. -/
def toNat : Bytes → Nat
  | [] => 0
  | b :: bs => b.toNat + 256 * toNat bs

/-- The lowest `width` digits of a number to base 256, least significant first. -/
def ofNat : (width : Nat) → Nat → Bytes
  | 0, _ => []
  | width + 1, n => UInt8.ofNat n :: ofNat width (n / 256)

theorem length_ofNat (width n : Nat) : (ofNat width n).length = width := by
  induction width generalizing n with
  | zero => rfl
  | succ width ih => simp [ofNat, ih]

theorem toNat_ofNat (width n : Nat) : toNat (ofNat width n) = n % Nat.pow 256 width := by
  induction width generalizing n with
  | zero => simp [ofNat, toNat, Nat.mod_one]
  | succ width ih =>
    have hpow : Nat.pow 256 (width + 1) = 256 * Nat.pow 256 width := Nat.mul_comm _ _
    rw [ofNat, toNat, ih, hpow, Nat.mod_mul]
    simp

theorem ofNat_toNat (bs : Bytes) : ofNat bs.length (toNat bs) = bs := by
  induction bs with
  | nil => rfl
  | cons b bs ih =>
    have hlow : UInt8.ofNat (b.toNat + 256 * toNat bs) = b := by
      apply UInt8.toNat_inj.1
      have := b.toNat_lt
      simp
    have hhigh : (b.toNat + 256 * toNat bs) / 256 = toNat bs := by
      have := b.toNat_lt
      omega
    rw [List.length_cons, ofNat, toNat, hlow, hhigh, ih]

/-- The `length` bytes from `start` on, fewer where the byte string ends before. -/
def slice (bs : Bytes) (start length : Nat) : Bytes :=
  (bs.drop start).take length

def word16At (bs : Bytes) (start : Nat) : UInt16 :=
  UInt16.ofNat (toNat (bs.slice start 2))

def word32At (bs : Bytes) (start : Nat) : UInt32 :=
  UInt32.ofNat (toNat (bs.slice start 4))

def word64At (bs : Bytes) (start : Nat) : UInt64 :=
  UInt64.ofNat (toNat (bs.slice start 8))

def ofWord16 (w : UInt16) : Bytes :=
  ofNat 2 w.toNat

def ofWord32 (w : UInt32) : Bytes :=
  ofNat 4 w.toNat

def ofWord64 (w : UInt64) : Bytes :=
  ofNat 8 w.toNat

/-- Looks at no more than `n` bytes, so that walking a long byte string record by record does
not measure the whole rest at every record. -/
def shorterThan : Bytes → Nat → Bool
  | _, 0 => false
  | [], _ + 1 => true
  | _ :: bs, n + 1 => shorterThan bs n

theorem shorterThan_iff (bs : Bytes) (n : Nat) : bs.shorterThan n = true ↔ bs.length < n := by
  induction bs generalizing n with
  | nil => cases n <;> simp [shorterThan]
  | cons b bs ih => cases n <;> simp [shorterThan, ih]

/-! ## Hexadecimal digits -/

def hexDigit (n : Nat) : Char :=
  if n < 10 then Char.ofNat (n + 48) else Char.ofNat (n + 87)

/-- Two lower-case digits for each byte. -/
def toHex (bs : Bytes) : String :=
  String.ofList (bs.flatMap fun b ↦ [hexDigit (b.toNat / 16), hexDigit (b.toNat % 16)])

def hexValue? (c : Char) : Option Nat :=
  (List.range 16).find? fun n ↦ hexDigit n = c.toLower

/-- The bytes of a text of hexadecimal digits, none where it has an odd digit or any other
character. -/
def ofHex? : List Char → Option Bytes
  | [] => some []
  | [_] => none
  | high :: low :: rest => do
    let high ← hexValue? high
    let low ← hexValue? low
    let bs ← ofHex? rest
    return UInt8.ofNat (high * 16 + low) :: bs

end Bytes

end Regroup
