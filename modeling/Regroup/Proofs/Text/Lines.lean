import Regroup.Text.Split

/-!
# Texts and their lines

A line that ends in a line feed comes before the lines of what follows it, and what follows the last
line feed is a line unless it is empty. So lines that end in line feeds are read back as they were,
and the first lines of a text are the lines of a text of their own, with which the text starts.
-/

namespace Regroup.Text

variable {α : Type} [BEq α]

@[simp]
theorem linesAt_nil (feed : α) : linesAt feed [] = [] := by
  simp [linesAt]

theorem linesAt_append_feed [LawfulBEq α] (feed : α) (line rest : List α) (h : feed ∉ line) :
    linesAt feed (line ++ feed :: rest) = line :: linesAt feed rest := by
  have hsplit := List.splitOn_append_cons_self_of_not_mem h rest
  obtain ⟨piece, pieces, hpieces⟩ := List.exists_cons_of_ne_nil (List.splitOn_ne_nil feed rest)
  unfold linesAt
  rw [hsplit, hpieces]
  dsimp only
  rw [List.getLast?_cons_cons, List.dropLast_cons_cons]
  split <;> rfl

theorem linesAt_of_notMem [LawfulBEq α] (feed : α) (line : List α) (h : feed ∉ line)
    (hne : line ≠ []) : linesAt feed line = [line] := by
  unfold linesAt
  rw [List.splitOn_eq_singleton h]
  simp [hne]

/-- Every text is empty, a single line, or a line before the rest of the text. -/
theorem lines_cases {α : Type} (feed : α) (xs : List α) :
    xs = [] ∨ (feed ∉ xs ∧ xs ≠ []) ∨ ∃ line rest, feed ∉ line ∧ xs = line ++ feed :: rest := by
  by_cases hfeed : feed ∈ xs
  · obtain ⟨line, rest, hsplit, hline⟩ := List.eq_append_cons_of_mem hfeed
    exact .inr (.inr ⟨line, rest, hline, hsplit⟩)
  · by_cases hempty : xs = []
    · exact .inl hempty
    · exact .inr (.inl ⟨hfeed, hempty⟩)

/-- Induction along the lines of a text. -/
@[elab_as_elim]
theorem lines_induction {α : Type} (feed : α) {motive : List α → Prop} (nil : motive [])
    (last : ∀ line, feed ∉ line → line ≠ [] → motive line)
    (cons : ∀ line rest, feed ∉ line → motive rest → motive (line ++ feed :: rest))
    (xs : List α) : motive xs := by
  induction hlength : xs.length using Nat.strongRecOn generalizing xs with
  | ind length ih =>
    rcases lines_cases feed xs with rfl | ⟨hline, hne⟩ | ⟨line, rest, hline, rfl⟩
    · exact nil
    · exact last xs hline hne
    · apply cons line rest hline
      apply ih rest.length _ rest rfl
      rw [← hlength, List.length_append, List.length_cons]
      omega

/-- The lines of a text whose first part is empty or ends in a line feed are those of both parts. -/
theorem linesAt_append [LawfulBEq α] (feed : α) (first second : List α)
    (h : first = [] ∨ first.getLast? = some feed) :
    linesAt feed (first ++ second) = linesAt feed first ++ linesAt feed second := by
  induction first using lines_induction feed with
  | nil => rw [linesAt_nil, List.nil_append, List.nil_append]
  | last line hline hne =>
    have hmem : feed ∈ line := List.mem_of_getLast? (h.resolve_left hne)
    exact absurd hmem hline
  | cons line rest hline ih =>
    have hrest : rest = [] ∨ rest.getLast? = some feed := by
      rcases List.eq_nil_or_concat rest with hnil | ⟨start, last, rfl⟩
      · exact .inl hnil
      · right
        simpa [List.getLast?_append, List.getLast?_cons] using h
    calc
      linesAt feed (line ++ feed :: rest ++ second) =
          linesAt feed (line ++ feed :: (rest ++ second)) := by
        rw [List.append_assoc, List.cons_append]
      _ = line :: linesAt feed (rest ++ second) := linesAt_append_feed feed line _ hline
      _ = line :: (linesAt feed rest ++ linesAt feed second) := by rw [ih hrest]
      _ = linesAt feed (line ++ feed :: rest) ++ linesAt feed second := by
        rw [linesAt_append_feed feed line rest hline, List.cons_append]

/-- The line has this number in a text. Above it stand complete lines, one for each line feed, and
it reaches to the next line feed. -/
inductive IsLineOf (feed : α) (xs line : List α) (number : Nat) : Prop where
  | intro (above below : List α) (hsplit : xs = above ++ (line ++ below))
      (hnumber : number = above.count feed + 1)
      (habove : above = [] ∨ above.getLast? = some feed) (hline : feed ∉ line)
      (hbelow : below = [] ∨ below.head? = some feed)

theorem isLineOf_of_getElem? [LawfulBEq α] (feed : α) (xs line : List α) (place : Nat)
    (h : (linesAt feed xs)[place]? = some line) : IsLineOf feed xs line (place + 1) := by
  induction xs using lines_induction feed generalizing place with
  | nil => simp at h
  | last only honly hne =>
    rw [linesAt_of_notMem feed only honly hne, List.getElem?_singleton] at h
    split at h
    · rename_i hplace
      obtain rfl := Option.some.inj h
      exact .intro [] [] (by simp) (by simp [hplace]) (.inl rfl) honly (.inl rfl)
    · cases h
  | cons first rest hfirst ih =>
    rw [linesAt_append_feed feed first rest hfirst] at h
    cases place with
    | zero =>
      obtain rfl := Option.some.inj h
      exact .intro [] (feed :: rest) rfl rfl (.inl rfl) hfirst (.inr rfl)
    | succ place =>
      rw [List.getElem?_cons_succ] at h
      obtain ⟨above, below, hsplit, hnumber, habove, hline, hbelow⟩ := ih place h
      apply IsLineOf.intro (first ++ feed :: above) below _ _ _ hline hbelow
      · rw [hsplit, List.append_assoc, List.cons_append]
      · rw [hnumber, List.count_append, List.count_cons_self, List.count_eq_zero_of_not_mem hfirst]
        omega
      · rcases habove with rfl | habove
        · exact .inr List.getLast?_concat
        · right
          rw [List.getLast?_append, List.getLast?_cons, habove]
          rfl

/-! ## Lines that end in line feeds -/

/-- The text of lines that end in line feeds. -/
def terminated (feed : α) (lines : List (List α)) : List α :=
  lines.flatMap (· ++ [feed])

theorem linesAt_terminated [LawfulBEq α] (feed : α) (lines : List (List α))
    (h : ∀ line ∈ lines, feed ∉ line) : linesAt feed (terminated feed lines) = lines := by
  induction lines with
  | nil => exact linesAt_nil feed
  | cons line lines ih =>
    obtain ⟨hline, hlines⟩ := List.forall_mem_cons.1 h
    calc
      linesAt feed (terminated feed (line :: lines)) =
          linesAt feed (line ++ feed :: terminated feed lines) := by
        rw [terminated, List.flatMap_cons, List.append_assoc, List.singleton_append, ← terminated]
      _ = line :: linesAt feed (terminated feed lines) := linesAt_append_feed feed line _ hline
      _ = line :: lines := by rw [ih hlines]

/-- Line feeds between the lines do as well, where no line is empty. -/
theorem linesAt_intercalate [LawfulBEq α] (feed : α) (lines : List (List α))
    (h : ∀ line ∈ lines, feed ∉ line ∧ line ≠ []) :
    linesAt feed ([feed].intercalate lines) = lines := by
  induction lines with
  | nil => exact linesAt_nil feed
  | cons line lines ih =>
    obtain ⟨⟨hline, hne⟩, hlines⟩ := List.forall_mem_cons.1 h
    cases lines with
    | nil => rw [List.intercalate_singleton, linesAt_of_notMem feed line hline hne]
    | cons next lines =>
      rw [List.intercalate_cons_cons, List.append_assoc, List.singleton_append,
        linesAt_append_feed feed line _ hline, ih hlines]

/-! ## First lines -/

/-- The part of a text up to the end of a number of lines, and all of it where there are fewer. -/
def firstLines (feed : α) : Nat → List α → List α
  | 0, _ => []
  | _ + 1, [] => []
  | count + 1, x :: xs => x :: firstLines feed (if x == feed then count else count + 1) xs

variable (feed : α) (count : Nat)

theorem firstLines_isPrefix (xs : List α) : firstLines feed count xs <+: xs := by
  induction xs generalizing count with
  | nil => cases count <;> exact List.prefix_rfl
  | cons x xs ih =>
    cases count with
    | zero => exact List.nil_prefix
    | succ count => exact (List.prefix_cons_inj x).2 (ih _)

theorem firstLines_of_notMem [LawfulBEq α] (line : List α) (h : feed ∉ line) :
    firstLines feed (count + 1) line = line := by
  induction line with
  | nil => rfl
  | cons x line ih =>
    obtain ⟨hx, hline⟩ := not_or.1 (mt List.mem_cons.2 h)
    have hne : (x == feed) = false := by simpa using Ne.symm hx
    rw [firstLines, hne, if_neg (by decide), ih hline]

theorem firstLines_append_feed [LawfulBEq α] (line rest : List α) (h : feed ∉ line) :
    firstLines feed (count + 1) (line ++ feed :: rest) =
      line ++ feed :: firstLines feed count rest := by
  induction line with
  | nil => simp [firstLines]
  | cons x line ih =>
    obtain ⟨hx, hline⟩ := not_or.1 (mt List.mem_cons.2 h)
    have hne : (x == feed) = false := by simpa using Ne.symm hx
    rw [List.cons_append, firstLines, hne, if_neg (by decide), ih hline, List.cons_append]

/-- The first lines of a text are the lines of the part that holds them. -/
theorem linesAt_firstLines [LawfulBEq α] (xs : List α) :
    linesAt feed (firstLines feed count xs) = (linesAt feed xs).take count := by
  induction count generalizing xs with
  | zero => cases xs <;> exact linesAt_nil feed
  | succ count ih =>
    rcases lines_cases feed xs with rfl | ⟨hfeed, hne⟩ | ⟨line, rest, hline, rfl⟩
    · simp [firstLines]
    · rw [firstLines_of_notMem feed count xs hfeed, linesAt_of_notMem feed xs hfeed hne,
        List.take_of_length_le (Nat.succ_le_succ (Nat.zero_le count))]
    · rw [firstLines_append_feed feed count line rest hline,
        linesAt_append_feed feed line _ hline, linesAt_append_feed feed line rest hline, ih,
        List.take_succ_cons]

end Regroup.Text
