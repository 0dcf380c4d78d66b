import Mathlib.Data.List.Forall2
import Regroup.Proofs.Rule.Lines
import Regroup.Proofs.Rule.Prefixes

/-!
# How a rules text is laid out

Reading passes over the lines that do not count, and of the others it looks at the fields and at the
number. So two texts whose lines have the same fields, one by one as far as they count, are read
alike: rules, warnings and faults are the same up to their numbers, and each number is the one of
the line in its own text. How many blanks separate the fields, what comments say, and whether a line
ends in a carriage return before its line feed, makes no difference.
-/

namespace Regroup

open Log (Record)

namespace Text

/-- What is left of a line that ends in a carriage return. -/
def withoutReturn (line : List Char) : List Char :=
  if line.getLast? = some '\r' then line.dropLast else line

theorem fields_concat (s : List Char) (c : Char) (h : isBlank c = true) :
    fields (s ++ [c]) = fields s := by
  unfold fields
  rw [List.splitOnP_append_cons s [] h, List.splitOnP_nil, List.filter_append]
  exact List.append_nil _

end Text

theorem ruleFields_withoutReturn (line : List Char) :
    ruleFields (Text.withoutReturn line) = ruleFields line := by
  unfold Text.withoutReturn
  split
  · rename_i hlast
    obtain ⟨start, rfl⟩ := List.getLast?_eq_some_iff.1 hlast
    rw [List.dropLast_concat, ruleFields, ruleFields, Text.before, Text.before,
      List.takeWhile_append]
    split
    · rename_i hlength
      have hstart := List.IsPrefix.eq_of_length (List.takeWhile_prefix (· != '#')) hlength
      rw [hstart]
      exact (Text.fields_concat start '\r' (by decide)).symm
    · rfl
  · rfl

theorem readRuleLine_congr (ids : Identities) (follows : Bool) (text text' : List Char)
    (h : ruleFields text = ruleFields text') :
    readRuleLine ids follows text = readRuleLine ids follows text' := by
  unfold readRuleLine
  rw [h]

theorem readRuleLine_of_blank (ids : Identities) (follows : Bool) (text : List Char)
    (h : ruleFields text = []) : readRuleLine ids follows text = .ok .blank := by
  unfold readRuleLine
  rw [h]

/-- Reads numbered lines. -/
def readLines (ids : Identities) (path : String) (above : Option (Option Subject)) :
    List NumberedLine → RuleReading
  | [] => ⟨.ok [], []⟩
  | line :: lines =>
    match readRuleLine ids above.isSome line.1 with
    | .error fault => ⟨.error (line.2, fault), []⟩
    | .ok parsed =>
      let rest := readLines ids path (parsed.headBelow above) lines
      ⟨rest.result.map (parsed.rules above line.2 ++ ·),
        (parsed.warning? path line.2).toList ++ rest.records⟩

section

variable (ids : Identities) (path path' : String) (number : Nat)
  (above : Option (Option Subject))

/-- Lines that do not count leave no trace but in the numbers. -/
theorem readRules_eq_readLines (texts : List (List Char)) :
    readRules ids path number above texts =
      readLines ids path above ((texts.zipIdx number).filter NumberedLine.isRule) := by
  induction texts generalizing number above with
  | nil => rfl
  | cons text texts ih =>
    rw [List.zipIdx_cons]
    cases hrule : NumberedLine.isRule (text, number) with
    | false =>
      have hblank := readRuleLine_of_blank ids above.isSome text
        ((NumberedLine.isRule_eq_false_iff (text, number)).1 hrule)
      rw [List.filter_cons_of_neg (by simp [hrule]), readRules, hblank]
      exact ih (number + 1) above
    | true =>
      rw [List.filter_cons_of_pos hrule, readLines]
      cases hread : readRuleLine ids above.isSome text with
      | error fault => exact readRules_cons_of_error ids path number above text texts fault hread
      | ok parsed =>
        rw [readRules_cons_of_ok ids path number above text texts parsed hread, ih]

/-- Reading looks at the fields of the lines only. -/
theorem readRules_congr (texts texts' : List (List Char))
    (h : texts.map ruleFields = texts'.map ruleFields) :
    readRules ids path number above texts = readRules ids path number above texts' := by
  induction texts generalizing number above texts' with
  | nil =>
    obtain rfl := List.map_eq_nil_iff.1 h.symm
    rfl
  | cons text texts ih =>
    obtain ⟨text', texts', rfl, htext, htexts⟩ := List.map_eq_cons_iff.1 h.symm
    have hread := readRuleLine_congr ids above.isSome text text' htext.symm
    cases hparsed : readRuleLine ids above.isSome text with
    | error fault =>
      rw [readRules_cons_of_error ids path number above text texts fault hparsed,
        readRules_cons_of_error ids path number above text' texts' fault (hread ▸ hparsed)]
    | ok parsed =>
      rw [readRules_cons_of_ok ids path number above text texts parsed hparsed,
        readRules_cons_of_ok ids path number above text' texts' parsed (hread ▸ hparsed),
        ih (number + 1) (parsed.headBelow above) texts' htexts.symm]

end

/-! ## Corresponding lines -/

namespace RuleLine

/-- A line read at another number gives the rules of that number. -/
theorem rules_renumber (above : Option (Option Subject)) (number number' : Nat)
    (parsed : RuleLine) :
    parsed.rules above number' =
      (parsed.rules above number).map fun rule ↦ { rule with line := number' } := by
  cases parsed with
  | blank => rfl
  | continuation controllers destination => cases habove : above.join <;> simp [rules, habove]
  | head who subject controllers destination => cases subject <;> rfl

theorem isRuleOf_of_mem_rules (ids : Identities) (above : Option (Option Subject)) (follows : Bool)
    (line : NumberedLine) (parsed : RuleLine)
    (h : readRuleLine ids follows line.1 = .ok parsed) :
    ∀ rule ∈ parsed.rules above line.2, IsRuleOf rule.subject line rule := by
  obtain ⟨-, rfl⟩ | ⟨who, controllers, field, destination, hfields, hdestination, hkind⟩ :=
    readRuleLine_eq_ok ids follows line.1 parsed h
  · exact nofun
  have hrule (subject : Subject) := IsRuleOf.of_fields subject line.2 line.1 who controllers field
    destination hfields hdestination
  intro rule hmem
  obtain ⟨rfl, rfl⟩ | ⟨hwho, subject, -, rfl⟩ := hkind
  · obtain ⟨subject, -, rfl⟩ := List.mem_map.1 hmem
    exact hrule subject
  · obtain ⟨subject, -, rfl⟩ := List.mem_map.1 hmem
    have hbeq : (who == ['%']) = false := by simpa using hwho
    rw [hbeq] at hrule
    exact hrule subject

end RuleLine

section

variable (ids : Identities) (R : NumberedLine → NumberedLine → Prop) (path path' : String)

/-- Rules of corresponding lines which differ in their numbers at most. -/
structure Rule.Corresponds (rule rule' : Rule) : Prop where
  content : rule' = { rule with line := rule'.line }
  lines : ∃ line line', R line line' ∧ IsRuleOf rule.subject line rule ∧
    IsRuleOf rule'.subject line' rule'

/-- Warnings about corresponding lines, which have the same head. -/
def WarningsCorrespond (record record' : Record) : Prop :=
  ∃ line line' who, R line line' ∧ record = unknownSubjectRecord path line.2 who ∧
    record' = unknownSubjectRecord path' line'.2 who

/-- Rules that are alike one by one, or the same fault in corresponding lines. -/
inductive EndsCorrespond : Except LineFault RuleSet → Except LineFault RuleSet → Prop where
  | rules (rules rules' : RuleSet) (hrules : List.Forall₂ (Rule.Corresponds R) rules rules') :
      EndsCorrespond (.ok rules) (.ok rules')
  | fault (line line' : NumberedLine) (follows : Bool) (fault : RuleFault) (hlines : R line line')
      (hfault : readRuleLine ids follows line.1 = .error fault)
      (hfault' : readRuleLine ids follows line'.1 = .error fault) :
      EndsCorrespond (.error (line.2, fault)) (.error (line'.2, fault))

structure RuleReading.Corresponds (reading reading' : RuleReading) : Prop where
  result : EndsCorrespond ids R reading.result reading'.result
  records : List.Forall₂ (WarningsCorrespond R path path') reading.records reading'.records

theorem EndsCorrespond.map_append {ids : Identities} {R : NumberedLine → NumberedLine → Prop}
    {result result' : Except LineFault RuleSet} (h : EndsCorrespond ids R result result')
    (rules rules' : RuleSet) (hrules : List.Forall₂ (Rule.Corresponds R) rules rules') :
    EndsCorrespond ids R (result.map (rules ++ ·)) (result'.map (rules' ++ ·)) := by
  cases h with
  | rules later later' hlater => exact .rules _ _ (List.rel_append hrules hlater)
  | fault line line' follows fault hlines hfault hfault' =>
    exact .fault line line' follows fault hlines hfault hfault'

theorem forall₂_rules (above : Option (Option Subject)) (follows : Bool)
    (line line' : NumberedLine) (hlines : R line line') (parsed : RuleLine)
    (h : readRuleLine ids follows line.1 = .ok parsed)
    (h' : readRuleLine ids follows line'.1 = .ok parsed) :
    List.Forall₂ (Rule.Corresponds R) (parsed.rules above line.2)
      (parsed.rules above line'.2) := by
  rw [parsed.rules_renumber above line.2 line'.2, List.forall₂_map_right_iff, List.forall₂_same]
  intro rule hrule
  have hrule' : { rule with line := line'.2 } ∈ parsed.rules above line'.2 := by
    rw [parsed.rules_renumber above line.2 line'.2]
    exact List.mem_map_of_mem hrule
  exact ⟨rfl, line, line', hlines, parsed.isRuleOf_of_mem_rules ids above follows line h rule hrule,
    parsed.isRuleOf_of_mem_rules ids above follows line' h' _ hrule'⟩

theorem forall₂_warning (line line' : NumberedLine) (hlines : R line line') (parsed : RuleLine) :
    List.Forall₂ (WarningsCorrespond R path path') (parsed.warning? path line.2).toList
      (parsed.warning? path' line'.2).toList := by
  cases parsed with
  | blank | continuation => exact .nil
  | head who subject controllers destination =>
    cases subject with
    | some subject => exact .nil
    | none => exact .cons ⟨line, line', who, hlines, rfl, rfl⟩ .nil

/-- Lines that correspond one by one are read alike, if those that correspond have the same
fields. -/
theorem readLines_corresponds
    (hfields : ∀ line line', R line line' → ruleFields line.1 = ruleFields line'.1)
    (above : Option (Option Subject)) (lines lines' : List NumberedLine)
    (h : List.Forall₂ R lines lines') :
    RuleReading.Corresponds ids R path path' (readLines ids path above lines)
      (readLines ids path' above lines') := by
  induction h generalizing above with
  | nil => exact ⟨.rules [] [] .nil, .nil⟩
  | @cons line line' lines lines' hline hlines ih =>
    have hcongr := readRuleLine_congr ids above.isSome line.1 line'.1 (hfields line line' hline)
    rw [readLines, readLines, ← hcongr]
    cases hread : readRuleLine ids above.isSome line.1 with
    | error fault =>
      exact ⟨.fault line line' above.isSome fault hline hread (hcongr ▸ hread), .nil⟩
    | ok parsed =>
      have hrest := ih (parsed.headBelow above)
      constructor
      case result =>
        apply hrest.result.map_append
        exact forall₂_rules ids R above _ line line' hline parsed hread (hcongr ▸ hread)
      case records =>
        exact List.rel_append (forall₂_warning R path path' line line' hline parsed) hrest.records

end

/-! ## Texts -/

/-- Lines at the same place among the lines of two texts that count. -/
structure CorrespondIn (text text' : List Char) (line line' : NumberedLine) : Prop where
  place : ∃ place : Nat, (ruleLines text)[place]? = some line ∧
    (ruleLines text')[place]? = some line'
  fields : ruleFields line.1 = ruleFields line'.1
  isLine : Text.IsLineOf '\n' text line.1 line.2
  isLine' : Text.IsLineOf '\n' text' line'.1 line'.2

theorem isLineOf_of_mem_ruleLines (text : List Char) (line : NumberedLine)
    (h : line ∈ ruleLines text) : Text.IsLineOf '\n' text line.1 line.2 := by
  have hmem : line ∈ (Text.linesAt '\n' text).zipIdx 1 := (List.mem_filter.1 h).1
  obtain ⟨hle, hline⟩ := List.mk_mem_zipIdx_iff_le_and_getElem?_sub.1 hmem
  have hline := Text.isLineOf_of_getElem? '\n' text line.1 _ hline
  rwa [Nat.sub_add_cancel hle] at hline

theorem forall₂_correspondIn (text text' : List Char)
    (h : (ruleLines text).map (fun line ↦ ruleFields line.1) =
      (ruleLines text').map fun line ↦ ruleFields line.1) :
    List.Forall₂ (CorrespondIn text text') (ruleLines text) (ruleLines text') := by
  apply List.forall₂_iff_get.2
  constructor
  · simpa using congrArg List.length h
  · intro place hplace hplace'
    have hline := List.getElem?_eq_getElem hplace
    have hline' := List.getElem?_eq_getElem hplace'
    have hfields := congrArg (·[place]?) h
    simp only [List.getElem?_map, hline, hline', Option.map_some, Option.some.injEq] at hfields
    exact ⟨⟨place, hline, hline'⟩, hfields,
      isLineOf_of_mem_ruleLines text _ (List.getElem_mem hplace),
      isLineOf_of_mem_ruleLines text' _ (List.getElem_mem hplace')⟩

namespace RuleSet

/-- Texts whose lines that count have the same fields are read alike. A text that differs in the
carriage returns at the ends of its lines is read in the same way, numbers included. -/
theorem read_by_fields (ids : Identities) (path path' : String) (text text' : List Char)
    (h : (ruleLines text).map (fun line ↦ ruleFields line.1) =
      (ruleLines text').map fun line ↦ ruleFields line.1) :
    RuleReading.Corresponds ids (CorrespondIn text text') path path' (read ids path text)
        (read ids path' text') ∧
      ∀ other, (Text.linesAt '\n' other).map Text.withoutReturn =
          (Text.linesAt '\n' text).map Text.withoutReturn →
        read ids path other = read ids path text := by
  constructor
  · unfold read
    rw [readRules_eq_readLines, readRules_eq_readLines]
    apply readLines_corresponds
    · intro line line' hlines
      exact hlines.fields
    · exact forall₂_correspondIn text text' h
  · intro other hother
    apply readRules_congr
    have hlines := congrArg (List.map ruleFields) hother
    simpa only [List.map_map, Function.comp_def, ruleFields_withoutReturn] using hlines

/-- Comments, blanks and carriage returns between and within the same lines, which are then the
lines 1, 2 and 3 of one text and the lines 2, 4 and 5 of the other. -/
theorem read_by_fields_of_other_layout :
    let ids : Identities := ⟨[("alice", 1000)], []⟩
    let text := "alice * a\n% cpu b\nghost * c\n".toList
    let text' := "# home\r\n alice\t*  a # x\r\n\r\n% cpu b\r\n\tghost * c".toList
    let other := "alice * a\r\n% cpu b\nghost * c\r\n".toList
    let rules : RuleSet := [⟨.user "alice" 1000, .all, "a", false, 1⟩,
      ⟨.user "alice" 1000, .named ["cpu"], "b", true, 2⟩]
    let rules' : RuleSet := [⟨.user "alice" 1000, .all, "a", false, 2⟩,
      ⟨.user "alice" 1000, .named ["cpu"], "b", true, 4⟩]
    (ruleLines text).map (fun line ↦ ruleFields line.1) =
        (ruleLines text').map (fun line ↦ ruleFields line.1) ∧
      RuleReading.Corresponds ids (CorrespondIn text text') "one" "two" (read ids "one" text)
        (read ids "two" text') ∧
      read ids "one" text = ⟨.ok rules, [unknownSubjectRecord "one" 3 "ghost"]⟩ ∧
      read ids "two" text' = ⟨.ok rules', [unknownSubjectRecord "two" 5 "ghost"]⟩ ∧
      (Text.linesAt '\n' other).map Text.withoutReturn =
        (Text.linesAt '\n' text).map Text.withoutReturn ∧
      read ids "one" other = read ids "one" text := by
  intro ids text text' other rules rules'
  have hfields : (ruleLines text).map (fun line ↦ ruleFields line.1) =
      (ruleLines text').map (fun line ↦ ruleFields line.1) := by decide +kernel
  have hreturns : (Text.linesAt '\n' other).map Text.withoutReturn =
      (Text.linesAt '\n' text).map Text.withoutReturn := by decide +kernel
  obtain ⟨halike, hothers⟩ := read_by_fields ids "one" "two" text text' hfields
  exact ⟨hfields, halike, rfl, rfl, hreturns, hothers other hreturns⟩

end RuleSet

end Regroup
