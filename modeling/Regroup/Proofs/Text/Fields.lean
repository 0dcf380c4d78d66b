import Mathlib.Data.List.TakeWhile
import Regroup.Text.Blank
import Regroup.Text.Split

/-!
# Fields of a joined text

Words hold no blank, so words that are joined by spaces are the fields of what they are joined to.
A text that is no word falls into the fields that it holds by itself, and the first of them ends at
the first blank. A dash between spaces is found where it stands, as long as what is joined before
it has neither a space inside nor is a dash.
-/

namespace Regroup.Text

/-- What replaces every element by itself changes nothing. -/
theorem flatMap_eq_self {α : Type} (f : α → List α) (xs : List α) (h : ∀ x ∈ xs, f x = [x]) :
    xs.flatMap f = xs := by
  induction xs with
  | nil => rfl
  | cons x xs ih =>
    obtain ⟨hx, hxs⟩ := List.forall_mem_cons.1 h
    rw [List.flatMap_cons, hx, ih hxs, List.singleton_append]

/-! ## Words -/

structure IsWord (s : List Char) : Prop where
  ne_nil : s ≠ []
  isBlank_eq_false : ∀ c ∈ s, isBlank c = false

theorem fields_append_cons (s t : List Char) (c : Char) (h : isBlank c = true) :
    fields (s ++ c :: t) = fields s ++ fields t := by
  rw [fields, List.splitOnP_append_cons s t h, List.filter_append]
  rfl

theorem IsWord.fields_eq {s : List Char} (h : IsWord s) : fields s = [s] := by
  rw [fields, List.splitOnP_eq_singleton h.isBlank_eq_false]
  simp [h.ne_nil]

theorem fields_intercalate (texts : List (List Char)) :
    fields ([' '].intercalate texts) = texts.flatMap fields := by
  induction texts with
  | nil => rfl
  | cons text texts ih =>
    cases texts with
    | nil => rw [List.intercalate_singleton, List.flatMap_singleton]
    | cons next texts =>
      rw [List.intercalate_cons_cons, List.append_assoc, List.singleton_append,
        fields_append_cons text _ ' ' (by decide), ih]
      rfl

theorem flatMap_fields_of_isWord (words : List (List Char)) (h : ∀ word ∈ words, IsWord word) :
    words.flatMap fields = words :=
  flatMap_eq_self fields words fun word hword ↦ (h word hword).fields_eq

theorem takeWhile_not_isBlank (s : List Char) (h : ∀ c ∈ s, isBlank c = false) :
    (s.takeWhile fun c ↦ !isBlank c) = s := by
  apply List.takeWhile_eq_self_iff.2
  intro c hc
  rw [h c hc, Bool.not_false]

/-- Behind words the next field is the first one of the next text. -/
theorem getElem?_flatMap_fields (words : List (List Char)) (text : List Char)
    (texts : List (List Char)) (field : List Char) (hwords : ∀ word ∈ words, IsWord word)
    (hfield : (fields text).head? = some field) :
    ((words ++ text :: texts).flatMap fields)[words.length]? = some field := by
  rw [List.flatMap_append, flatMap_fields_of_isWord words hwords,
    List.getElem?_append_right (Nat.le_refl _), Nat.sub_self, List.flatMap_cons,
    ← List.head?_eq_getElem?, List.head?_append, hfield, Option.some_or]

/-- The first field of a text that starts with no blank ends at the first blank. -/
theorem head?_fields_cons (c : Char) (s : List Char) (h : isBlank c = false) :
    (fields (c :: s)).head? = some ((c :: s).takeWhile fun c ↦ !isBlank c) := by
  have hsplit := List.takeWhile_append_dropWhile (p := fun c ↦ !isBlank c) (l := c :: s)
  have hword : IsWord ((c :: s).takeWhile fun c ↦ !isBlank c) := by
    constructor
    · rw [List.takeWhile_cons_of_pos (by simp [h])]
      exact List.cons_ne_nil _ _
    · intro d hd
      simpa using List.mem_takeWhile_imp hd
  cases hrest : (c :: s).dropWhile fun c ↦ !isBlank c with
  | nil =>
    rw [hrest, List.append_nil] at hsplit
    rw [hsplit] at hword ⊢
    rw [hword.fields_eq, List.head?_cons]
  | cons blank rest =>
    have hblank : isBlank blank = true := by
      have hhead := List.head?_dropWhile_not (fun c ↦ !isBlank c) (c :: s)
      rw [hrest] at hhead
      simpa using hhead
    rw [hrest] at hsplit
    calc
      (fields (c :: s)).head? =
          (fields (((c :: s).takeWhile fun c ↦ !isBlank c) ++ blank :: rest)).head? := by
        rw [hsplit]
      _ = some ((c :: s).takeWhile fun c ↦ !isBlank c) := by
        rw [fields_append_cons _ _ _ hblank, hword.fields_eq, List.singleton_append,
          List.head?_cons]

/-! ## The separator of a line -/

/-- A text may stand before the separator: the separator does not start inside of it. -/
structure IsLeading (s : List Char) : Prop where
  space_notMem : ' ' ∉ s
  ne_dash : s ≠ ['-']

theorem splitOnce_append (s t : List Char) (h : ' ' ∉ s) :
    splitOnce [' ', '-', ' '] (s ++ t) =
      (splitOnce [' ', '-', ' '] t).map fun (left, right) ↦ (s ++ left, right) := by
  induction s with
  | nil => simp
  | cons c s ih =>
    obtain ⟨hc, hs⟩ := not_or.1 (mt List.mem_cons.2 h)
    have hstart : [' ', '-', ' '].isPrefixOf (c :: (s ++ t)) = false := by
      rw [List.isPrefixOf_cons_cons, beq_eq_false_iff_ne.2 hc, Bool.false_and]
    rw [List.cons_append, splitOnce, hstart, if_neg (by decide), ih hs, Option.map_map]
    rfl

/-- Two spaces with a text between them that has none are not the ends of a separator, unless that
text is the dash. -/
theorem splitOnce_space_cons (s t : List Char) (h : IsLeading s) :
    splitOnce [' ', '-', ' '] (' ' :: (s ++ ' ' :: t)) =
      (splitOnce [' ', '-', ' '] (s ++ ' ' :: t)).map fun (left, right) ↦ (' ' :: left, right) := by
  have hstart : ¬[' ', '-', ' '].isPrefixOf (' ' :: (s ++ ' ' :: t)) := by
    match s, h.space_notMem, h.ne_dash with
    | [], _, _ => simp
    | [c], _, hdash =>
      have hc : '-' ≠ c := fun hc ↦ hdash (by rw [hc])
      simp [hc]
    | c :: d :: s, hspace, _ =>
      have hd : ' ' ≠ d := by
        rintro rfl
        exact hspace (by simp)
      simp [hd]
  rw [splitOnce, if_neg hstart]

theorem intercalate_dash (first next : List Char) (before after : List (List Char)) :
    [' '].intercalate (first :: before ++ ['-'] :: next :: after) =
      [' '].intercalate (first :: before) ++ [' ', '-', ' '] ++
        [' '].intercalate (next :: after) := by
  induction before generalizing first with
  | nil => simp [List.intercalate_cons_cons]
  | cons text before ih =>
    have hlater := ih text
    rw [List.cons_append] at hlater
    rw [List.cons_append, List.cons_append, List.intercalate_cons_cons, hlater,
      List.intercalate_cons_cons]
    simp only [List.append_assoc]

/-- The separator is found behind texts that may stand before it, whatever follows. -/
theorem splitOnce_intercalate (text : List Char) (texts : List (List Char)) (rest : List Char)
    (h : ∀ text' ∈ text :: texts, IsLeading text') :
    splitOnce [' ', '-', ' '] ([' '].intercalate (text :: texts) ++ [' ', '-', ' '] ++ rest) =
      some ([' '].intercalate (text :: texts), rest) := by
  induction texts generalizing text with
  | nil =>
    have htext := h text List.mem_cons_self
    rw [List.intercalate_singleton, List.append_assoc, splitOnce_append _ _ htext.space_notMem]
    simp [splitOnce]
  | cons next texts ih =>
    have htext := h text List.mem_cons_self
    have hnext := h next (by simp)
    have hlater := ih next fun text' htext' ↦ h text' (List.mem_cons_of_mem text htext')
    -- a space follows the next text in any case, the one before another text or the separator's
    obtain ⟨t, ht⟩ : ∃ t, [' '].intercalate (next :: texts) ++ [' ', '-', ' '] ++ rest =
        next ++ ' ' :: t := by
      cases texts with
      | nil => exact ⟨_, by rw [List.intercalate_singleton, List.append_assoc]; rfl⟩
      | cons _ _ =>
        exact ⟨_, by rw [List.intercalate_cons_cons]; simp only [List.append_assoc]; rfl⟩
    calc
      splitOnce [' ', '-', ' ']
          ([' '].intercalate (text :: next :: texts) ++ [' ', '-', ' '] ++ rest) =
          splitOnce [' ', '-', ' '] (text ++ ' ' :: (next ++ ' ' :: t)) := by
        rw [List.intercalate_cons_cons, ← ht]
        simp only [List.append_assoc, List.cons_append, List.nil_append]
      _ = some ([' '].intercalate (text :: next :: texts), rest) := by
        rw [splitOnce_append _ _ htext.space_notMem, splitOnce_space_cons _ _ hnext, ← ht, hlater,
          List.intercalate_cons_cons]
        simp

end Regroup.Text
