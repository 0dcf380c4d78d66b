import Regroup.Proofs.Rule.Layout
import Regroup.Proofs.Rule.Selection

/-!
# Rules texts one behind the other

A text that is read without a fault opens with a head, so it takes nothing along from the lines
above: wherever it stands, it is read as the same rules, further down by the number of these lines.
It follows that complete lines and a second text behind them are read as the rules of both, and that
no block of the first goes on in the second. A process for which the first selects rules keeps them
whatever is added below, and for all others the second decides as it does on its own.
-/

namespace Regroup

/-- A line as it stands below a number of further lines. -/
def NumberedLine.below (count : Nat) (line : NumberedLine) : NumberedLine :=
  (line.1, line.2 + count)

/-- A rule as it stands below a number of further lines. -/
def Rule.below (count : Nat) (rule : Rule) : Rule :=
  { rule with line := rule.line + count }

/-- A line that is read with nothing above is read so everywhere, and it is no continuation. -/
theorem readRuleLine_of_first (ids : Identities) (text : List Char) (parsed : RuleLine)
    (h : readRuleLine ids false text = .ok parsed) :
    (∀ follows, readRuleLine ids follows text = .ok parsed) ∧
      ∀ controllers destination, parsed ≠ .continuation controllers destination := by
  constructor
  · intro follows
    cases follows with
    | false => exact h
    | true => exact readRuleLine_follows ids false text parsed h
  · rintro controllers destination rfl
    unfold readRuleLine at h
    split at h
    · cases h
    · obtain ⟨found, -, hrest⟩ := (bind_eq_ok_iff _ _ _).1 h
      dsimp only at hrest
      split at hrest
      · cases hrest
      · obtain ⟨subject, -, hparsed⟩ := (bind_eq_ok_iff _ _ _).1 hrest
        cases hparsed
    · cases h

section

variable (ids : Identities) (path path' : String) (above : Option (Option Subject))

/-- Lines that are read with nothing above are read so below any head. -/
theorem readLines_of_first (lines : List NumberedLine) (rules : RuleSet)
    (h : (readLines ids path none lines).result = .ok rules) :
    readLines ids path above lines = readLines ids path none lines := by
  induction lines generalizing rules with
  | nil => rfl
  | cons line lines ih =>
    rw [readLines] at h
    rw [readLines, readLines]
    cases hread : readRuleLine ids (none : Option (Option Subject)).isSome line.1 with
    | error fault =>
      rw [hread] at h
      cases h
    | ok parsed =>
      obtain ⟨hread', hhead⟩ := readRuleLine_of_first ids line.1 parsed hread
      rw [hread' above.isSome]
      rw [hread] at h
      cases parsed with
      | blank =>
        obtain ⟨later, hlater, -⟩ := (map_eq_ok_iff _ _ _).1 h
        simp only [RuleLine.headBelow, RuleLine.rules, RuleLine.warning?, ih later hlater]
      | continuation controllers destination => exact absurd rfl (hhead controllers destination)
      | head who subject controllers destination => rfl

theorem result_readLines_path (lines : List NumberedLine) :
    (readLines ids path above lines).result = (readLines ids path' above lines).result := by
  induction lines generalizing above with
  | nil => rfl
  | cons line lines ih =>
    rw [readLines, readLines]
    cases readRuleLine ids above.isSome line.1 with
    | error fault => rfl
    | ok parsed => exact congrArg (Except.map _) (ih _)

/-- Lines further down are read as rules further down. -/
theorem result_readLines_below (lines : List NumberedLine) (count : Nat) (rules : RuleSet)
    (h : (readLines ids path above lines).result = .ok rules) :
    (readLines ids path above (lines.map (NumberedLine.below count))).result =
      .ok (rules.map (Rule.below count)) := by
  let R := fun line line' : NumberedLine ↦ line' = line.below count
  have hlines : List.Forall₂ R lines (lines.map (NumberedLine.below count)) := by
    rw [List.forall₂_map_right_iff, List.forall₂_same]
    intro line _
    rfl
  have hfields (line line' : NumberedLine) (hline : R line line') :
      ruleFields line.1 = ruleFields line'.1 := by
    rw [hline]
    rfl
  have hends := (readLines_corresponds ids R path path hfields above lines _ hlines).result
  rw [h] at hends
  generalize (readLines ids path above (lines.map (NumberedLine.below count))).result = result'
    at hends
  cases hends with
  | rules rules rules' hrules =>
    apply congrArg
    symm
    rw [← List.forall₂_eq_eq_eq, List.forall₂_map_left_iff]
    apply hrules.imp
    rintro rule rule' ⟨hcontent, line, line', hline, hrule, hrule'⟩
    have hnumber : rule'.line = rule.line + count := by
      rw [hrule'.number, hrule.number, hline]
      rfl
    rw [hcontent, hnumber]
    rfl

end

theorem filter_isRule_zipIdx (texts : List (List Char)) (number count : Nat) :
    (texts.zipIdx (number + count)).filter NumberedLine.isRule =
      ((texts.zipIdx number).filter NumberedLine.isRule).map (NumberedLine.below count) :=
  calc
    (texts.zipIdx (number + count)).filter NumberedLine.isRule =
        ((texts.zipIdx number).map (NumberedLine.below count)).filter NumberedLine.isRule := by
      rw [Nat.add_comm, ← List.map_snd_add_zipIdx_eq_zipIdx]
      rfl
    _ = ((texts.zipIdx number).filter NumberedLine.isRule).map (NumberedLine.below count) :=
      List.filter_map

/-! ## Selecting from rules one behind the other -/

namespace RuleSet

variable (user group : UInt32) (userName : Option String)

theorem selection_map_below (rules : RuleSet) (count : Nat) :
    selection (rules.map (Rule.below count)) user group userName =
      (rules.selection user group userName).map (Rule.below count) := by
  induction rules with
  | nil => rfl
  | cons rule rules ih =>
    rw [List.map_cons]
    by_cases hopens : rule.continuation = false ∧ rule.subject.Covers user group userName
    · rw [selection_cons_of_opens user group userName rule rules hopens.1 hopens.2,
        selection_cons_of_opens user group userName (rule.below count) _ hopens.1 hopens.2,
        List.map_cons, List.takeWhile_map]
      rfl
    · have hnot : rule.continuation = true ∨ ¬ rule.subject.Covers user group userName := by
        rwa [not_and_or, Bool.not_eq_false] at hopens
      rw [selection_cons_of_not_opens user group userName rule rules hnot,
        selection_cons_of_not_opens user group userName (rule.below count) _ hnot, ih]

theorem takeWhile_continuation_append (rules later : RuleSet)
    (h : later.takeWhile Rule.continuation = []) :
    (rules ++ later).takeWhile Rule.continuation = rules.takeWhile Rule.continuation := by
  rw [List.takeWhile_append, h, List.append_nil]
  split
  · rename_i hlength
    exact (List.IsPrefix.eq_of_length (List.takeWhile_prefix _) hlength).symm
  · rfl

/-- Rules that open with a head decide only where the rules above do not. -/
theorem selection_append (rules later : RuleSet) (h : later.takeWhile Rule.continuation = []) :
    selection (rules ++ later) user group userName =
      if rules.selection user group userName = [] then later.selection user group userName
      else rules.selection user group userName := by
  induction rules with
  | nil => rfl
  | cons rule rules ih =>
    rw [List.cons_append]
    by_cases hopens : rule.continuation = false ∧ rule.subject.Covers user group userName
    · rw [selection_cons_of_opens user group userName rule rules hopens.1 hopens.2,
        selection_cons_of_opens user group userName rule _ hopens.1 hopens.2,
        takeWhile_continuation_append rules later h, if_neg (List.cons_ne_nil _ _)]
    · have hnot : rule.continuation = true ∨ ¬ rule.subject.Covers user group userName := by
        rwa [not_and_or, Bool.not_eq_false] at hopens
      rw [selection_cons_of_not_opens user group userName rule rules hnot,
        selection_cons_of_not_opens user group userName rule _ hnot, ih]

/-! ## Texts -/

/-- A text below complete lines is read as on its own, from the number of its first line on. -/
theorem read_joined (ids : Identities) (path path' path'' : String) (first second : List Char)
    (rules later : RuleSet) (hend : first = [] ∨ first.getLast? = some '\n')
    (hfirst : (read ids path first).result = .ok rules)
    (hsecond : (read ids path' second).result = .ok later) :
    let count := (Text.linesAt '\n' first).length
    let joined := rules ++ later.map (Rule.below count)
    (read ids path'' (first ++ second)).result = .ok joined ∧
      ∀ user group userName,
        (rules.selection user group userName ≠ [] →
          joined.selection user group userName = rules.selection user group userName) ∧
        (rules.selection user group userName = [] →
          joined.selection user group userName =
            (later.selection user group userName).map (Rule.below count)) := by
  intro count joined
  have hseam : (later.map (Rule.below count)).takeWhile Rule.continuation = [] := by
    have hcompiled := compiles_of_readRules ids path' 1 none _ later hsecond
    rw [List.takeWhile_map]
    exact List.map_eq_nil_iff.2 hcompiled.takeWhile_continuation_eq_nil
  constructor
  · have hrules : (readRules ids path'' 1 none (Text.linesAt '\n' first)).result = .ok rules := by
      rw [← hfirst, read, readRules_eq_readLines, readRules_eq_readLines]
      exact result_readLines_path ids path'' path none _
    have hlater : (readLines ids path'' none (ruleLines second)).result = .ok later := by
      rw [← hsecond, read, readRules_eq_readLines]
      exact result_readLines_path ids path'' path' none _
    have hbelow := result_readLines_below ids path'' none (ruleLines second) count later hlater
    have habove := readLines_of_first ids path''
      (headBelow ids none (Text.linesAt '\n' first)) _ _ hbelow
    calc
      (read ids path'' (first ++ second)).result =
          (readRules ids path'' (1 + count) (headBelow ids none (Text.linesAt '\n' first))
            (Text.linesAt '\n' second)).result.map (rules ++ ·) := by
        rw [read, Text.linesAt_append '\n' first second hend,
          readRules_append ids path'' 1 none _ _ rules hrules]
      _ = (readLines ids path'' none
            ((ruleLines second).map (NumberedLine.below count))).result.map (rules ++ ·) := by
        rw [readRules_eq_readLines, filter_isRule_zipIdx, ← ruleLines, habove]
      _ = .ok joined := by rw [hbelow]; rfl
  · intro user group userName
    have hjoined := selection_append user group userName rules _ hseam
    rw [selection_map_below] at hjoined
    constructor
    · intro hselected
      rw [hjoined, if_neg hselected]
    · intro hnothing
      rw [hjoined, if_pos hnothing]

/-- The first text ends below a head that does not exist, and the second has a rule of its own for
one of the users of the first. -/
theorem read_joined_below_unknown_head :
    let ids : Identities := ⟨[("alice", 1000), ("bob", 1001)], []⟩
    let first := "alice * a\nghost * z\n% * y\n".toList
    let second := "# more\nbob * b\n% cpu c\nalice * d".toList
    let rules : RuleSet := [⟨.user "alice" 1000, .all, "a", false, 1⟩]
    let later : RuleSet := [⟨.user "bob" 1001, .all, "b", false, 2⟩,
      ⟨.user "bob" 1001, .named ["cpu"], "c", true, 3⟩,
      ⟨.user "alice" 1000, .all, "d", false, 4⟩]
    let joined : RuleSet := rules ++ later.map (Rule.below 3)
    first.getLast? = some '\n' ∧ (read ids "one" first).result = .ok rules ∧
      (read ids "two" second).result = .ok later ∧
      (read ids "both" (first ++ second)).result = .ok joined ∧
      joined.selection 1000 7 none = rules.selection 1000 7 none ∧
      joined.selection 1001 7 none = (later.selection 1001 7 none).map (Rule.below 3) ∧
      (joined.selection 1001 7 none).map Rule.line = [5, 6] := by
  intro ids first second rules later joined
  have hend : first.getLast? = some '\n' := by decide
  have hfirst : (read ids "one" first).result = .ok rules := by rfl
  have hsecond : (read ids "two" second).result = .ok later := by rfl
  obtain ⟨hread, hselected⟩ :=
    read_joined ids "one" "two" "both" first second rules later (.inr hend) hfirst hsecond
  exact ⟨hend, hfirst, hsecond, hread, (hselected 1000 7 none).1 (by decide),
    (hselected 1001 7 none).2 (by decide), by decide⟩

end RuleSet

end Regroup
