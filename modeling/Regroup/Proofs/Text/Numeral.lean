import Regroup.Text.Numeral

/-!
# What a numeral is

A decimal numeral is a row of digits, at least one, which a plus sign may precede. It is read as the
number that its digits stand for, if that is within the bound: with every digit the number grows or
stays as it is, so it leaves the bound on the way only if it does so in the end.
-/

namespace Regroup.Text

/-- The text is a decimal numeral for the number. -/
inductive IsNumeral : List Char → Nat → Prop where
  | plain (digits : List Char) (hne : digits ≠ []) (hdigits : ∀ c ∈ digits, c.isDigit = true) :
      IsNumeral digits (Nat.ofDigitChars 10 digits 0)
  | signed (digits : List Char) (hne : digits ≠ []) (hdigits : ∀ c ∈ digits, c.isDigit = true) :
      IsNumeral ('+' :: digits) (Nat.ofDigitChars 10 digits 0)

/-! ## Digits -/

theorem digit?_of_isDigit (c : Char) (h : c.isDigit = true) :
    digit? 10 c = some (c.toNat - '0'.toNat) := by
  have hbounds := Char.isDigit_iff_toNat.1 h
  have hrange : (decide ('0' ≤ c) && decide (c ≤ '9')) = true := by
    rw [Bool.and_eq_true, decide_eq_true_eq, decide_eq_true_eq]
    exact hbounds
  have hlt : c.toNat - '0'.toNat < 10 := by
    have hnine : c.toNat ≤ 57 := hbounds.2
    have hzero : '0'.toNat = 48 := rfl
    omega
  unfold digit?
  rw [if_pos hrange]
  exact if_pos hlt

/-- A letter stands for ten at least. -/
theorem digit?_of_not_isDigit (c : Char) (h : c.isDigit = false) : digit? 10 c = none := by
  have hrange : ¬ (decide ('0' ≤ c) && decide (c ≤ '9')) = true := by
    rw [Bool.and_eq_true, decide_eq_true_eq, decide_eq_true_eq]
    intro hbounds
    rw [Char.isDigit_iff_toNat.2 hbounds] at h
    cases h
  unfold digit?
  rw [if_neg hrange]
  apply if_neg
  split
  · omega
  · split <;> omega

theorem le_ofDigitChars (digits : List Char) (value : Nat) :
    value ≤ Nat.ofDigitChars 10 digits value := by
  induction digits generalizing value with
  | nil => exact Nat.le_refl value
  | cons c digits ih =>
    rw [Nat.ofDigitChars_cons]
    calc
      value ≤ 10 * value + (c.toNat - '0'.toNat) := by omega
      _ ≤ Nat.ofDigitChars 10 digits (10 * value + (c.toNat - '0'.toNat)) := ih _

theorem readDigits_eq_ok_iff (bound : Nat) (beyond : NumeralFault) (value : Nat)
    (digits : List Char) (n : Nat) (hvalue : value ≤ bound) :
    readDigits 10 bound beyond value digits = .ok n ↔
      (∀ c ∈ digits, c.isDigit = true) ∧ n = Nat.ofDigitChars 10 digits value ∧ n ≤ bound := by
  induction digits generalizing value with
  | nil =>
    constructor
    · intro h
      obtain rfl := Except.ok.inj h
      exact ⟨nofun, rfl, hvalue⟩
    · rintro ⟨-, rfl, -⟩
      rfl
  | cons c digits ih =>
    rw [readDigits, List.forall_mem_cons]
    cases hdigit : c.isDigit with
    | false =>
      rw [digit?_of_not_isDigit c hdigit]
      constructor
      · intro h
        cases h
      · rintro ⟨⟨h, -⟩, -⟩
        cases h
    | true =>
      rw [digit?_of_isDigit c hdigit, Nat.ofDigitChars_cons, Nat.mul_comm 10 value]
      dsimp only
      split
      · rename_i hbeyond
        have hgrows := le_ofDigitChars digits (value * 10 + (c.toNat - '0'.toNat))
        constructor
        · intro h
          cases h
        · rintro ⟨-, rfl, hwithin⟩
          omega
      · rename_i hwithin
        rw [ih _ (Nat.le_of_not_lt hwithin)]
        simp

/-! ## Numerals -/

/-- Reading finds the number that a numeral is for, if it is within the bound. -/
theorem readNat_eq_ok_iff (bound : Nat) (s : List Char) (n : Nat) :
    readNat bound s = .ok n ↔ IsNumeral s n ∧ n ≤ bound := by
  have hread (digits : List Char) := readDigits_eq_ok_iff bound .tooLarge 0 digits n (Nat.zero_le _)
  have hplus : ¬ '+'.isDigit = true := by decide
  unfold readNat readNatBase
  constructor
  · intro h
    split at h
    · cases h
    · cases h
    · rename_i digits hne
      obtain ⟨hdigits, rfl, hwithin⟩ := (hread digits).1 h
      exact ⟨.signed digits (fun hnil ↦ hne (by rw [hnil])) hdigits, hwithin⟩
    · rename_i hne _ _
      obtain ⟨hdigits, rfl, hwithin⟩ := (hread s).1 h
      exact ⟨.plain s hne hdigits, hwithin⟩
  · rintro ⟨hnumeral, hwithin⟩
    cases hnumeral with
    | plain _ hne hdigits =>
      split
      · exact absurd rfl hne
      · exact absurd (hdigits '+' List.mem_cons_self) hplus
      · exact absurd (hdigits '+' List.mem_cons_self) hplus
      · exact (hread s).2 ⟨hdigits, rfl, hwithin⟩
    | signed digits hne hdigits =>
      split
      · rename_i hnil
        cases hnil
      · rename_i hnil
        exact absurd (List.cons.inj hnil).2 hne
      · rename_i digits' _ hsame
        obtain rfl := (List.cons.inj hsame).2
        exact (hread _).2 ⟨hdigits, rfl, hwithin⟩
      · rename_i hsigned
        exact absurd rfl (hsigned digits)

end Regroup.Text
