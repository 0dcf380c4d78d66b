import Mathlib
import Regroup.Text.Utf8

/-!
# Strict decoding

The sequences that stand for a scalar value are those of the table of well-formed sequences: the
lead byte settles how many bytes follow, and for four of the leads the second byte has bounds of
its own. Encoding gives such a sequence, and each such sequence is the encoding of its value. So
strict decoding accepts the encodings of texts and nothing else, and gives the text back.

A byte below `0x80` in an encoding is a character by itself. So an encoding can be cut at it.
-/

namespace Regroup.Text

def IsTail (b : UInt8) : Prop :=
  0x80 ≤ b.toNat ∧ b.toNat ≤ 0xBF

/-- A byte may be the second one after the lead: not in a long form, nor in a surrogate, nor in a
value past the last scalar. -/
structure IsSecond (lead b : UInt8) : Prop where
  isTail : IsTail b
  long : lead.toNat = 0xE0 → 0xA0 ≤ b.toNat
  surrogate : lead.toNat = 0xED → b.toNat ≤ 0x9F
  longer : lead.toNat = 0xF0 → 0x90 ≤ b.toNat
  last : lead.toNat = 0xF4 → b.toNat ≤ 0x8F

/-- A byte string stands for a value. -/
inductive IsSequence : Bytes → Nat → Prop where
  | one (a : UInt8) (ha : a.toNat < 0x80) : IsSequence [a] a.toNat
  | two (a b : UInt8) (ha : 0xC2 ≤ a.toNat ∧ a.toNat < 0xE0) (hb : IsSecond a b) :
      IsSequence [a, b] (a.toNat % 32 * 64 + b.toNat % 64)
  | three (a b c : UInt8) (ha : 0xE0 ≤ a.toNat ∧ a.toNat < 0xF0) (hb : IsSecond a b)
      (hc : IsTail c) :
      IsSequence [a, b, c] ((a.toNat % 16 * 64 + b.toNat % 64) * 64 + c.toNat % 64)
  | four (a b c d : UInt8) (ha : 0xF0 ≤ a.toNat ∧ a.toNat < 0xF5) (hb : IsSecond a b)
      (hc : IsTail c) (hd : IsTail d) :
      IsSequence [a, b, c, d]
        (((a.toNat % 8 * 64 + b.toNat % 64) * 64 + c.toNat % 64) * 64 + d.toNat % 64)

theorem IsSequence.isValidChar {bs : Bytes} {value : Nat} (h : IsSequence bs value) :
    value.isValidChar := by
  cases h with
  | one a ha => exact .inl (by omega)
  | two a b ha hb => exact .inl (by omega)
  | three a b c ha hb hc =>
    obtain ⟨⟨hlow, hhigh⟩, hlong, hsurrogate, -, -⟩ := hb
    unfold Nat.isValidChar
    omega
  | four a b c d ha hb hc hd =>
    obtain ⟨⟨hlow, hhigh⟩, -, -, hlonger, hlast⟩ := hb
    unfold Nat.isValidChar
    omega

theorem map_toNat_utf8EncodeChar (c : Char) :
    (String.utf8EncodeChar c).map UInt8.toNat =
      if c.toNat ≤ 0x7F then [c.toNat]
      else if c.toNat ≤ 0x7FF then [c.toNat / 64 % 32 + 192, c.toNat % 64 + 128]
      else if c.toNat ≤ 0xFFFF then
        [c.toNat / 4096 % 16 + 224, c.toNat / 64 % 64 + 128, c.toNat % 64 + 128]
      else [c.toNat / 262144 % 8 + 240, c.toNat / 4096 % 64 + 128, c.toNat / 64 % 64 + 128,
        c.toNat % 64 + 128] := by
  have hvalue : c.val.toNat = c.toNat := rfl
  simp only [String.utf8EncodeChar, hvalue]
  split_ifs
  · simp; omega
  · simp; omega
  · simp; omega
  · simp; omega

/-- A sequence is the encoding of the value that it stands for. -/
theorem IsSequence.eq_utf8EncodeChar {bs : Bytes} {value : Nat} (h : IsSequence bs value) :
    bs = String.utf8EncodeChar (Char.ofNat value) := by
  apply List.map_injective_iff.2 fun _ _ ↦ UInt8.toNat_inj.1
  rw [map_toNat_utf8EncodeChar, Char.toNat_ofNat, if_pos h.isValidChar]
  cases h with
  | one a ha => rw [if_pos (by omega)]; rfl
  | two a b ha hb =>
    obtain ⟨⟨hlow, hhigh⟩, -, -, -, -⟩ := hb
    rw [if_neg (by omega), if_pos (by omega)]
    simp; omega
  | three a b c ha hb hc =>
    obtain ⟨⟨hlow, hhigh⟩, hlong, hsurrogate, -, -⟩ := hb
    obtain ⟨hlow', hhigh'⟩ := hc
    rw [if_neg (by omega), if_neg (by omega), if_pos (by omega)]
    simp; omega
  | four a b c d ha hb hc hd =>
    obtain ⟨⟨hlow, hhigh⟩, -, -, hlonger, hlast⟩ := hb
    obtain ⟨hlow', hhigh'⟩ := hc
    obtain ⟨hlow'', hhigh''⟩ := hd
    rw [if_neg (by omega), if_neg (by omega), if_neg (by omega)]
    simp; omega

/-- The encoding of a character is a sequence that stands for it. -/
theorem isSequence_utf8EncodeChar (c : Char) :
    IsSequence (String.utf8EncodeChar c) c.toNat := by
  have hvalid : c.toNat < 0xD800 ∨ 0xDFFF < c.toNat ∧ c.toNat < 0x110000 := c.valid
  have hbytes := map_toNat_utf8EncodeChar c
  by_cases hone : c.toNat ≤ 0x7F
  · rw [if_pos hone, List.map_eq_singleton_iff] at hbytes
    obtain ⟨a, hbs, ha⟩ := hbytes
    rw [hbs, ← ha]
    exact .one a (by omega)
  by_cases htwo : c.toNat ≤ 0x7FF
  · rw [if_neg hone, if_pos htwo] at hbytes
    simp only [List.map_eq_cons_iff, List.map_eq_nil_iff] at hbytes
    obtain ⟨a, -, hbs, ha, b, -, rfl, hb, rfl⟩ := hbytes
    have hvalue : c.toNat = a.toNat % 32 * 64 + b.toNat % 64 := by omega
    rw [hbs, hvalue]
    apply IsSequence.two a b (by omega)
    exact ⟨⟨by omega, by omega⟩, by omega, by omega, by omega, by omega⟩
  by_cases hthree : c.toNat ≤ 0xFFFF
  · rw [if_neg hone, if_neg htwo, if_pos hthree] at hbytes
    simp only [List.map_eq_cons_iff, List.map_eq_nil_iff] at hbytes
    obtain ⟨a, -, hbs, ha, b, -, rfl, hb, d, -, rfl, hd, rfl⟩ := hbytes
    have hvalue : c.toNat = (a.toNat % 16 * 64 + b.toNat % 64) * 64 + d.toNat % 64 := by omega
    rw [hbs, hvalue]
    apply IsSequence.three a b d (by omega)
    · exact ⟨⟨by omega, by omega⟩, by omega, by omega, by omega, by omega⟩
    · exact ⟨by omega, by omega⟩
  · rw [if_neg hone, if_neg htwo, if_neg hthree] at hbytes
    simp only [List.map_eq_cons_iff, List.map_eq_nil_iff] at hbytes
    obtain ⟨a, -, hbs, ha, b, -, rfl, hb, d, -, rfl, hd, e, -, rfl, he, rfl⟩ := hbytes
    have hvalue : c.toNat =
        ((a.toNat % 8 * 64 + b.toNat % 64) * 64 + d.toNat % 64) * 64 + e.toNat % 64 := by
      omega
    rw [hbs, hvalue]
    apply IsSequence.four a b d e (by omega)
    · exact ⟨⟨by omega, by omega⟩, by omega, by omega, by omega, by omega⟩
    · exact ⟨by omega, by omega⟩
    · exact ⟨by omega, by omega⟩

/-! ## Reading a sequence -/

/-- The number of bytes that follow a lead. -/
inductive IsLead (lead : UInt8) : Option Nat → Prop where
  | one (h : lead.toNat < 0x80) : IsLead lead (some 0)
  | two (h : 0xC2 ≤ lead.toNat ∧ lead.toNat < 0xE0) : IsLead lead (some 1)
  | three (h : 0xE0 ≤ lead.toNat ∧ lead.toNat < 0xF0) : IsLead lead (some 2)
  | four (h : 0xF0 ≤ lead.toNat ∧ lead.toNat < 0xF5) : IsLead lead (some 3)
  | stray (h : 0x80 ≤ lead.toNat ∧ lead.toNat < 0xC2 ∨ 0xF5 ≤ lead.toNat) : IsLead lead none

theorem isLead_followers (lead : UInt8) : IsLead lead (followers lead) := by
  simp only [followers, UInt8.lt_iff_toNat_lt, UInt8.reduceToNat]
  split_ifs with hone hstray htwo hthree hfour
  · exact .one hone
  · exact .stray (.inl ⟨by omega, hstray⟩)
  · exact .two ⟨by omega, htwo⟩
  · exact .three ⟨by omega, hthree⟩
  · exact .four ⟨by omega, hfour⟩
  · exact .stray (.inr (by omega))

theorem IsLead.followers_eq {lead : UInt8} {count : Option Nat} (h : IsLead lead count) :
    followers lead = count := by
  have hown := isLead_followers lead
  generalize followers lead = own at hown
  cases h <;> cases hown <;> first | rfl | omega

theorem isFollower_iff (b : UInt8) : isFollower b = true ↔ IsTail b := by
  simp [isFollower, IsTail, UInt8.le_iff_toNat_le]

theorem isSecond_iff (lead b : UInt8) :
    ((secondBounds lead).1 ≤ b && b ≤ (secondBounds lead).2) = true ↔ IsSecond lead b := by
  have hsecond : IsSecond lead b ↔ IsTail b ∧ (lead.toNat = 0xE0 → 0xA0 ≤ b.toNat) ∧
      (lead.toNat = 0xED → b.toNat ≤ 0x9F) ∧ (lead.toNat = 0xF0 → 0x90 ≤ b.toNat) ∧
      (lead.toNat = 0xF4 → b.toNat ≤ 0x8F) :=
    ⟨fun h ↦ ⟨h.1, h.2, h.3, h.4, h.5⟩, fun h ↦ ⟨h.1, h.2.1, h.2.2.1, h.2.2.2.1, h.2.2.2.2⟩⟩
  rw [hsecond, Bool.and_eq_true, decide_eq_true_iff, decide_eq_true_iff,
    UInt8.le_iff_toNat_le, UInt8.le_iff_toNat_le]
  simp only [secondBounds, ← UInt8.toNat_inj, UInt8.reduceToNat, IsTail]
  split_ifs
  · simp only [UInt8.reduceToNat]; omega
  · simp only [UInt8.reduceToNat]; omega
  · simp only [UInt8.reduceToNat]; omega
  · simp only [UInt8.reduceToNat]; omega
  · simp only [UInt8.reduceToNat]; omega

theorem tailOf_cons (lead b : UInt8) (count : Nat) (rest : Bytes) :
    tailOf lead (count + 1) (b :: rest) =
      if (secondBounds lead).1 ≤ b && b ≤ (secondBounds lead).2 then
        b :: (rest.take count).takeWhile isFollower
      else [] :=
  rfl

theorem tailOf_of_isSecond (lead b : UInt8) (tail rest : Bytes) (hb : IsSecond lead b)
    (htail : ∀ c ∈ tail, IsTail c) :
    tailOf lead (tail.length + 1) (b :: (tail ++ rest)) = b :: tail := by
  have hwhile : tail.takeWhile isFollower = tail :=
    List.takeWhile_eq_self_iff.2 fun c hc ↦ (isFollower_iff c).2 (htail c hc)
  rw [tailOf_cons, if_pos ((isSecond_iff lead b).2 hb), List.take_left, hwhile]

/-- A tail of full length consists of bytes that may stand in it. -/
theorem isSecond_of_length_tailOf (lead : UInt8) (count : Nat) (bs : Bytes)
    (h : (tailOf lead (count + 1) bs).length = count + 1) :
    ∃ b tail rest, bs = b :: (tail ++ rest) ∧ tail.length = count ∧ IsSecond lead b ∧
      ∀ c ∈ tail, IsTail c := by
  cases bs with
  | nil => cases h
  | cons b rest =>
    rw [tailOf_cons] at h
    split at h
    · rename_i hsecond
      rw [List.length_cons, Nat.add_right_cancel_iff] at h
      have hprefix := List.takeWhile_prefix isFollower (l := rest.take count)
      have htake : (rest.take count).takeWhile isFollower = rest.take count :=
        hprefix.eq_of_length_le (by rw [h]; exact List.length_take_le count rest)
      refine ⟨b, rest.take count, rest.drop count, ?_, ?_, (isSecond_iff lead b).1 hsecond, ?_⟩
      · rw [List.take_append_drop]
      · rwa [htake] at h
      · exact fun c hc ↦ (isFollower_iff c).1 (List.takeWhile_eq_self_iff.1 htake c hc)
    · cases h

theorem nextScalar_of_isSecond (lead b : UInt8) (tail rest : Bytes)
    (hlead : IsLead lead (some (tail.length + 1))) (hb : IsSecond lead b)
    (htail : ∀ c ∈ tail, IsTail c) :
    nextScalar lead (b :: (tail ++ rest)) = (some (scalarOf lead (b :: tail)), rest) := by
  have hread := tailOf_of_isSecond lead b tail rest hb htail
  have hdrop : (b :: (tail ++ rest)).drop (tail.length + 1) = rest := by
    rw [List.drop_succ_cons, List.drop_left]
  simp only [nextScalar, hlead.followers_eq, hread, List.length_cons, if_true, hdrop]

/-- What a sequence is read as, whatever follows it. -/
theorem nextScalar_of_isSequence (lead : UInt8) (tail rest : Bytes) (value : Nat)
    (h : IsSequence (lead :: tail) value) :
    nextScalar lead (tail ++ rest) = (some (Char.ofNat value), rest) := by
  cases h with
  | one _ ha =>
    have hlead := (IsLead.one ha).followers_eq
    simp only [nextScalar, hlead]
    rfl
  | two _ b ha hb => exact nextScalar_of_isSecond lead b [] rest (.two ha) hb nofun
  | three _ b c ha hb hc =>
    apply nextScalar_of_isSecond lead b [c] rest (.three ha) hb
    exact List.forall_mem_singleton.2 hc
  | four _ b c d ha hb hc hd =>
    apply nextScalar_of_isSecond lead b [c, d] rest (.four ha) hb
    exact List.forall_mem_cons.2 ⟨hc, List.forall_mem_singleton.2 hd⟩

/-- A lead that is followed by a tail of its length makes a sequence. -/
theorem isSequence_of_isSecond (lead b : UInt8) (tail : Bytes)
    (hlead : IsLead lead (some (tail.length + 1))) (hb : IsSecond lead b)
    (htail : ∀ c ∈ tail, IsTail c) : ∃ value, IsSequence (lead :: b :: tail) value := by
  match tail, htail with
  | [], _ =>
    cases hlead with
    | two ha => exact ⟨_, .two lead b ha hb⟩
  | [c], htail =>
    cases hlead with
    | three ha => exact ⟨_, .three lead b c ha hb (htail c (by simp))⟩
  | [c, d], htail =>
    cases hlead with
    | four ha => exact ⟨_, .four lead b c d ha hb (htail c (by simp)) (htail d (by simp))⟩
  | _ :: _ :: _ :: _, _ => nomatch hlead

/-- Nothing but a sequence is read as a scalar value. -/
theorem isSequence_of_nextScalar (lead : UInt8) (bs rest : Bytes) (c : Char)
    (h : nextScalar lead bs = (some c, rest)) :
    ∃ tail value, IsSequence (lead :: tail) value ∧ bs = tail ++ rest ∧ c = Char.ofNat value := by
  have hlead := isLead_followers lead
  have hread (tail rest' : Bytes) (hsequence : ∃ value, IsSequence (lead :: tail) value)
      (hbs : bs = tail ++ rest') :
      ∃ tail value, IsSequence (lead :: tail) value ∧ bs = tail ++ rest ∧
        c = Char.ofNat value := by
    obtain ⟨value, hsequence⟩ := hsequence
    have hnext := nextScalar_of_isSequence lead tail rest' value hsequence
    rw [← hbs, h] at hnext
    cases hnext
    exact ⟨tail, value, hsequence, hbs, rfl⟩
  cases hfollowers : followers lead with
  | none => simp [nextScalar, hfollowers] at h
  | some count =>
    rw [hfollowers] at hlead
    cases count with
    | zero =>
      cases hlead with
      | one ha => exact hread [] bs ⟨_, .one lead ha⟩ rfl
    | succ count =>
      by_cases hlength : (tailOf lead (count + 1) bs).length = count + 1
      · obtain ⟨b, tail, rest', hbs, hcount, hb, htail⟩ :=
          isSecond_of_length_tailOf lead count bs hlength
        rw [← hcount] at hlead
        exact hread (b :: tail) rest' (isSequence_of_isSecond lead b tail hlead hb htail) hbs
      · simp [nextScalar, hfollowers, hlength] at h

/-! ## Encodings of texts -/

theorem scalars_nil : scalars [] = [] := by
  rw [scalars]

theorem decode?_nil : decode? [] = some [] := by
  rw [decode?, scalars_nil]
  rfl

/-- Decoding takes one scalar value after the other. -/
theorem decode?_cons (lead : UInt8) (rest : Bytes) :
    decode? (lead :: rest) = do
      let c ← (nextScalar lead rest).1
      let cs ← decode? (nextScalar lead rest).2
      return c :: cs := by
  rw [decode?, scalars, List.mapM_cons]
  rfl

theorem decode?_utf8EncodeChar_append (c : Char) (rest : Bytes) :
    decode? (String.utf8EncodeChar c ++ rest) = (decode? rest).map (c :: ·) := by
  have hsequence := isSequence_utf8EncodeChar c
  obtain ⟨lead, tail, hbytes⟩ : ∃ lead tail, String.utf8EncodeChar c = lead :: tail := by
    cases hbytes : String.utf8EncodeChar c with
    | nil => rw [hbytes] at hsequence; cases hsequence
    | cons lead tail => exact ⟨lead, tail, rfl⟩
  rw [hbytes] at hsequence ⊢
  have hnext := nextScalar_of_isSequence lead tail rest c.toNat hsequence
  rw [Char.ofNat_toNat] at hnext
  rw [List.cons_append, decode?_cons, hnext]
  cases decode? rest <;> rfl

def encoding (cs : List Char) : Bytes :=
  cs.flatMap String.utf8EncodeChar

theorem encoding_cons (c : Char) (cs : List Char) :
    encoding (c :: cs) = String.utf8EncodeChar c ++ encoding cs :=
  List.flatMap_cons

theorem encoding_append (cs cs' : List Char) : encoding (cs ++ cs') = encoding cs ++ encoding cs' :=
  List.flatMap_append

theorem decode?_encoding (cs : List Char) : decode? (encoding cs) = some cs := by
  induction cs with
  | nil => exact decode?_nil
  | cons c cs ih => rw [encoding_cons, decode?_utf8EncodeChar_append, ih, Option.map_some]

theorem encoding_injective : Function.Injective encoding := by
  intro cs cs' h
  have hdecoded := congrArg decode? h
  rw [decode?_encoding, decode?_encoding] at hdecoded
  exact Option.some.inj hdecoded

/-- Strict decoding accepts the encodings of texts, and gives these texts. -/
theorem decode?_eq_some_iff (bs : Bytes) (cs : List Char) :
    decode? bs = some cs ↔ encoding cs = bs := by
  constructor
  · intro h
    -- by the number of bytes left, since reading goes on behind a whole sequence
    induction hlength : bs.length using Nat.strongRecOn generalizing bs cs with
    | ind length ih =>
      cases bs with
      | nil =>
        rw [decode?_nil] at h
        cases h
        rfl
      | cons lead rest =>
        rw [decode?_cons] at h
        simp only [Option.bind_eq_bind, Option.bind_eq_some_iff, Option.pure_def,
          Option.some.injEq] at h
        obtain ⟨c, hc, later, hlater, rfl⟩ := h
        have hnext : nextScalar lead rest = (some c, (nextScalar lead rest).2) := by
          rw [← hc]
        obtain ⟨tail, value, hsequence, hrest, rfl⟩ := isSequence_of_nextScalar lead rest _ c hnext
        have hshorter : (nextScalar lead rest).2.length < length := by
          rw [← hlength, List.length_cons]
          exact Nat.lt_succ_of_le (length_nextScalar_le lead rest)
        have hdecoded := ih _ hshorter _ later hlater rfl
        rw [encoding_cons, hdecoded, ← hsequence.eq_utf8EncodeChar, List.cons_append, ← hrest]
  · rintro rfl
    exact decode?_encoding cs

/-- A byte string is UTF-8. -/
def IsText (bs : Bytes) : Prop :=
  ∃ cs, encoding cs = bs

theorem isSome_decode?_iff (bs : Bytes) : (decode? bs).isSome = true ↔ IsText bs := by
  simp only [Option.isSome_iff_exists, decode?_eq_some_iff, IsText]

instance (bs : Bytes) : Decidable (IsText bs) :=
  decidable_of_iff _ (isSome_decode?_iff bs)

theorem decode?_eq_none_iff (bs : Bytes) : decode? bs = none ↔ ¬IsText bs := by
  rw [← isSome_decode?_iff, Bool.not_eq_true, Option.isSome_eq_false_iff, Option.isNone_iff_eq_none]

/-- A byte below `0x80` is all there is of its character. -/
theorem utf8EncodeChar_of_mem (c : Char) (b : UInt8) (hb : b.toNat < 0x80)
    (h : b ∈ String.utf8EncodeChar c) :
    String.utf8EncodeChar c = [b] ∧ c = Char.ofNat b.toNat := by
  have hsequence := isSequence_utf8EncodeChar c
  rw [← Char.toNat_inj, Char.toNat_ofNat, if_pos (.inl (by omega))]
  generalize String.utf8EncodeChar c = bs, c.toNat = value at hsequence h
  have htail (b' : UInt8) (htail : IsTail b') : b ≠ b' := by
    rintro rfl
    exact absurd htail.1 (by omega)
  have hlead (a : UInt8) (ha : 0x80 ≤ a.toNat) : b ≠ a := by
    rintro rfl
    omega
  cases hsequence with
  | one a ha =>
    obtain rfl := List.mem_singleton.1 h
    exact ⟨rfl, rfl⟩
  | two a b' ha hb' =>
    simp [hlead a (by omega), htail b' hb'.isTail] at h
  | three a b' c ha hb' hc =>
    simp [hlead a (by omega), htail b' hb'.isTail, htail c hc] at h
  | four a b' c d ha hb' hc hd =>
    simp [hlead a (by omega), htail b' hb'.isTail, htail c hc, htail d hd] at h

/-- An encoding is cut at a byte below `0x80` where the text is cut at its character. -/
theorem encoding_eq_append_cons (cs : List Char) (b : UInt8) (hb : b.toNat < 0x80)
    (start rest : Bytes) (h : encoding cs = start ++ b :: rest) :
    ∃ before after, cs = before ++ Char.ofNat b.toNat :: after ∧ encoding before = start ∧
      encoding after = rest := by
  induction cs generalizing start with
  | nil => simp [encoding] at h
  | cons c cs ih =>
    rw [encoding_cons, List.append_eq_append_iff] at h
    rcases h with ⟨middle, hstart, hcs⟩ | ⟨middle, hc, hrest⟩
    · obtain ⟨before, after, rfl, hbefore, hafter⟩ := ih middle hcs
      refine ⟨c :: before, after, rfl, ?_, hafter⟩
      rw [encoding_cons, hbefore, hstart]
    · cases middle with
      | nil =>
        obtain ⟨before, after, rfl, hbefore, hafter⟩ := ih [] hrest.symm
        refine ⟨c :: before, after, rfl, ?_, hafter⟩
        rw [encoding_cons, hbefore, hc, List.append_nil, List.append_nil]
      | cons b' middle =>
        obtain ⟨rfl, hafter⟩ := List.cons.inj hrest
        obtain ⟨hbytes, hchar⟩ := utf8EncodeChar_of_mem c b hb (by rw [hc]; simp)
        rw [hbytes] at hc
        obtain ⟨rfl, rfl⟩ : start = [] ∧ middle = [] := by
          cases start with
          | nil => exact ⟨rfl, by simpa using hc⟩
          | cons _ _ => simp at hc
        exact ⟨[], cs, by rw [hchar, List.nil_append], rfl, hafter.symm⟩

/-- An encoding falls into pieces at a separator below `0x80` as its text does. -/
theorem encoding_eq_intercalate (cs : List Char) (b : UInt8) (hb : b.toNat < 0x80) (piece : Bytes)
    (pieces : List Bytes) (h : encoding cs = [b].intercalate (piece :: pieces)) :
    ∃ texts, texts.map encoding = piece :: pieces ∧
      cs = [Char.ofNat b.toNat].intercalate texts := by
  induction pieces generalizing cs piece with
  | nil =>
    rw [List.intercalate_singleton] at h
    exact ⟨[cs], by rw [List.map_singleton, h], by rw [List.intercalate_singleton]⟩
  | cons next pieces ih =>
    rw [List.intercalate_cons_cons, List.append_assoc, List.singleton_append] at h
    obtain ⟨before, after, rfl, hbefore, hafter⟩ := encoding_eq_append_cons cs b hb _ _ h
    obtain ⟨texts, htexts, rfl⟩ := ih after next hafter
    obtain ⟨text, texts, rfl⟩ : ∃ text later, texts = text :: later := by
      cases texts with
      | nil => cases htexts
      | cons text later => exact ⟨text, later, rfl⟩
    refine ⟨before :: text :: texts, by rw [List.map_cons, hbefore, htexts], ?_⟩
    rw [List.intercalate_cons_cons, List.append_assoc, List.singleton_append]

end Regroup.Text
