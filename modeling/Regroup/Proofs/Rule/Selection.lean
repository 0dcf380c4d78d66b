import Mathlib.Data.List.Forall2
import Regroup.Proofs.Rule.Lines

/-!
# What a rules text selects

The lines of an accepted text fall into blocks, a head with the `%` lines up to the next head,
whether its subject exists or not. Reading keeps the blocks of the heads whose subjects exist, one
rule for each line, and drops the others as a whole. So the rules that are selected afterwards, by
looking for a head and the continuations behind it, are those of one block of the text.
-/

namespace Regroup

/-- The line is a head whose subject exists. -/
def NumberedLine.IsHeadOf (ids : Identities) (line : NumberedLine) (subject : Subject) : Prop :=
  line.isHead = true ∧ ∃ who fields, ruleFields line.1 = who :: fields ∧ Names ids who subject

theorem NumberedLine.IsHeadOf.unique {ids : Identities} {line : NumberedLine}
    {subject subject' : Subject} (h : line.IsHeadOf ids subject)
    (h' : line.IsHeadOf ids subject') : subject = subject' := by
  obtain ⟨-, who, fields, hfields, hnames⟩ := h
  obtain ⟨-, who', fields', hfields', hnames'⟩ := h'
  obtain ⟨rfl, -⟩ := List.cons.inj (hfields.symm.trans hfields')
  exact hnames.unique hnames'

/-- The lines of an accepted text with the rules that they are read as. A `%` line goes on with the
subject of the head above, and is dropped where that has none. -/
inductive Compiles (ids : Identities) : Option Subject → List NumberedLine → RuleSet → Prop where
  | done (above : Option Subject) : Compiles ids above [] []
  | continued (subject : Subject) (line : NumberedLine) (lines : List NumberedLine) (rule : Rule)
      (rules : RuleSet) (hline : line.isHead = false) (hrule : IsRuleOf subject line rule)
      (hrest : Compiles ids (some subject) lines rules) :
      Compiles ids (some subject) (line :: lines) (rule :: rules)
  | dropped (line : NumberedLine) (lines : List NumberedLine) (rules : RuleSet)
      (hline : line.isHead = false) (hrest : Compiles ids none lines rules) :
      Compiles ids none (line :: lines) rules
  | known (above : Option Subject) (subject : Subject) (line : NumberedLine)
      (lines : List NumberedLine) (rule : Rule) (rules : RuleSet)
      (hline : line.IsHeadOf ids subject) (hrule : IsRuleOf subject line rule)
      (hrest : Compiles ids (some subject) lines rules) :
      Compiles ids above (line :: lines) (rule :: rules)
  | unknown (above : Option Subject) (line : NumberedLine) (lines : List NumberedLine)
      (rules : RuleSet) (hline : line.isHead = true)
      (hnone : ∀ subject, ¬ line.IsHeadOf ids subject)
      (hrest : Compiles ids none lines rules) : Compiles ids above (line :: lines) rules

theorem RuleReading.cons_result_eq_ok (rule : Rule) (reading : RuleReading) (rules : RuleSet)
    (h : (reading.cons rule).result = .ok rules) :
    ∃ rest, reading.result = .ok rest ∧ rules = rule :: rest := by
  obtain ⟨rest, hrest, hrules⟩ := (map_eq_ok_iff _ _ _).1 h
  exact ⟨rest, hrest, hrules.symm⟩

/-- Reading without a fault compiles the lines that count. -/
theorem compiles_of_readRules (ids : Identities) (path : String) (number : Nat)
    (above : Option (Option Subject)) (texts : List (List Char)) (rules : RuleSet)
    (h : (readRules ids path number above texts).result = .ok rules) :
    Compiles ids above.join ((texts.zipIdx number).filter NumberedLine.isRule) rules := by
  induction texts generalizing number above rules with
  | nil =>
    obtain rfl := Except.ok.inj h
    exact .done _
  | cons text texts ih =>
    rw [List.zipIdx_cons]
    simp only [readRules] at h
    cases hread : readRuleLine ids above.isSome text with
    | error fault =>
      rw [hread] at h
      cases h
    | ok parsed =>
      rw [hread] at h
      obtain ⟨hfields, rfl⟩ |
          ⟨who, controllers, field, destination, hfields, hdestination, hkind⟩ :=
        readRuleLine_eq_ok ids _ text parsed hread
      · have hblank : NumberedLine.isRule (text, number) = false :=
          (NumberedLine.isRule_eq_false_iff (text, number)).2 hfields
        rw [List.filter_cons_of_neg (by simp [hblank])]
        exact ih (number + 1) above rules h
      rw [List.filter_cons_of_pos (NumberedLine.isRule_of_fields (text, number) _ _ hfields)]
      have hrule := fun subject ↦ IsRuleOf.of_fields subject number text who controllers field
        destination hfields hdestination
      obtain ⟨rfl, rfl⟩ | ⟨hwho, subject, hsubject, rfl⟩ := hkind
      · have hline : NumberedLine.isHead (text, number) = false := by
          simp [NumberedLine.isHead, hfields]
        dsimp only at h
        split at h
        · rename_i subject habove
          obtain ⟨rest, hrest, rfl⟩ := RuleReading.cons_result_eq_ok _ _ rules h
          have hcompiled := ih (number + 1) above rest hrest
          rw [habove] at hcompiled ⊢
          exact .continued subject _ _ _ rest hline (hrule subject) hcompiled
        · rename_i habove
          have hcompiled := ih (number + 1) above rules h
          rw [habove] at hcompiled ⊢
          exact .dropped _ _ rules hline hcompiled
      · have hhead : NumberedLine.isHead (text, number) = true := by
          simp [NumberedLine.isHead, hfields, hwho]
        have hbeq : (who == ['%']) = false := by simpa using hwho
        rw [hbeq] at hrule
        dsimp only at h
        split at h
        · rename_i subject
          obtain ⟨rest, hrest, rfl⟩ := RuleReading.cons_result_eq_ok _ _ rules h
          have hnames := (readSubject_eq_some_iff ids who subject).1 hsubject
          exact .known _ subject _ _ _ rest ⟨hhead, who, _, hfields, hnames⟩ (hrule subject)
            (ih (number + 1) (some (some subject)) rest hrest)
        · refine .unknown _ _ _ rules hhead ?_ (ih (number + 1) (some none) rules h)
          rintro subject ⟨-, who', rest, hfields', hnames⟩
          obtain rfl := (List.cons.inj (hfields.symm.trans hfields')).1
          have hfound := (readSubject_eq_some_iff ids who subject).2 hnames
          rw [hsubject] at hfound
          cases hfound

/-! ## Blocks -/

namespace Compiles

variable {ids : Identities} {lines : List NumberedLine} {rules : RuleSet}

/-- Nothing goes on with a head whose subject does not exist. -/
theorem takeWhile_continuation_eq_nil (h : Compiles ids none lines rules) :
    rules.takeWhile Rule.continuation = [] := by
  generalize habove : (none : Option Subject) = above at h
  induction h with
  | done => rfl
  | continued => cases habove
  | dropped line lines rules hline hrest ih => exact ih rfl
  | known above subject line lines rule rules hline hrule hrest =>
    exact List.takeWhile_cons_of_neg (by simp [hrule.continuation_of_head hline.1])
  | unknown above line lines rules hline hnone hrest ih => exact ih rfl

/-- The `%` lines at the start are the continuations at the start. -/
theorem forall₂_takeWhile (subject : Subject) (h : Compiles ids (some subject) lines rules) :
    List.Forall₂ (IsRuleOf subject) (lines.takeWhile fun line ↦ !line.isHead)
      (rules.takeWhile Rule.continuation) := by
  generalize habove : some subject = above at h
  induction h with
  | done => exact .nil
  | continued subject' line lines rule rules hline hrule hrest ih =>
    obtain rfl := Option.some.inj habove
    rw [List.takeWhile_cons_of_pos (by simp [hline]),
      List.takeWhile_cons_of_pos (hrule.continuation_of_not_head hline)]
    exact .cons hrule (ih habove)
  | dropped => cases habove
  | known above subject' line lines rule rules hline hrule hrest =>
    rw [List.takeWhile_cons_of_neg (by simp [hline.1]),
      List.takeWhile_cons_of_neg (by simp [hrule.continuation_of_head hline.1])]
    exact .nil
  | unknown above line lines rules hline hnone hrest =>
    rw [List.takeWhile_cons_of_neg (by simp [hline]), hrest.takeWhile_continuation_eq_nil]
    exact .nil

end Compiles

/-! ## Selections -/

namespace RuleSet

variable (ids : Identities) (user group : UInt32) (userName : Option String)

theorem selection_cons_of_opens (rule : Rule) (rules : RuleSet)
    (hcontinuation : rule.continuation = false)
    (hcovers : rule.subject.Covers user group userName) :
    selection (rule :: rules) user group userName =
      rule :: rules.takeWhile Rule.continuation := by
  have happlies := (Subject.appliesTo_iff user group userName rule.subject).2 hcovers
  simp [selection, hcontinuation, happlies]

theorem selection_cons_of_not_opens (rule : Rule) (rules : RuleSet)
    (h : rule.continuation = true ∨ ¬ rule.subject.Covers user group userName) :
    selection (rule :: rules) user group userName = rules.selection user group userName := by
  have hopens :
      (!rule.continuation && rule.subject.appliesTo user group userName) = false := by
    rcases h with hcontinuation | hcovers
    · simp [hcontinuation]
    · rw [← Subject.appliesTo_iff, Bool.not_eq_true] at hcovers
      simp [hcovers]
  simp only [selection]
  rw [List.dropWhile_cons_of_pos (by simp [hopens])]

/-- The line is a head whose subject exists and covers the process. -/
def Opens (line : NumberedLine) (subject : Subject) : Prop :=
  line.IsHeadOf ids subject ∧ subject.Covers user group userName

/-- The selection is the block of the first line that opens one, and empty if no line does. -/
inductive IsFirstBlock (lines : List NumberedLine) (selection : RuleSet) : Prop where
  | block (before extras after : List NumberedLine) (head : NumberedLine) (subject : Subject)
      (hlines : lines = before ++ head :: (extras ++ after))
      (hbefore : ∀ line ∈ before, ∀ subject, ¬ Opens ids user group userName line subject)
      (hhead : Opens ids user group userName head subject)
      (hextras : ∀ line ∈ extras, line.isHead = false)
      (hafter : ∀ line, after.head? = some line → line.isHead = true)
      (hselection : List.Forall₂ (IsRuleOf subject) (head :: extras) selection)
  | nothing
      (hlines : ∀ line ∈ lines, ∀ subject, ¬ Opens ids user group userName line subject)
      (hselection : selection = [])

variable {ids user group userName}

theorem IsFirstBlock.cons (line : NumberedLine) (lines : List NumberedLine) (selection : RuleSet)
    (hline : ∀ subject, ¬ Opens ids user group userName line subject)
    (h : IsFirstBlock ids user group userName lines selection) :
    IsFirstBlock ids user group userName (line :: lines) selection := by
  cases h with
  | block before extras after head subject hlines hbefore hhead hextras hafter hselection =>
    refine .block (line :: before) extras after head subject (by rw [hlines]; rfl) ?_ hhead
      hextras hafter hselection
    exact List.forall_mem_cons.2 ⟨hline, hbefore⟩
  | nothing hlines hselection => exact .nothing (List.forall_mem_cons.2 ⟨hline, hlines⟩) hselection

theorem isFirstBlock_of_compiles (above : Option Subject) (lines : List NumberedLine)
    (rules : RuleSet) (h : Compiles ids above lines rules) :
    IsFirstBlock ids user group userName lines (rules.selection user group userName) := by
  induction h with
  | done => exact .nothing (by simp) rfl
  | continued subject line lines rule rules hline hrule hrest ih =>
    rw [selection_cons_of_not_opens user group userName rule rules
      (.inl (hrule.continuation_of_not_head hline))]
    refine ih.cons line _ _ fun subject hopens ↦ ?_
    simp [hopens.1.1] at hline
  | dropped line lines rules hline hrest ih =>
    refine ih.cons line _ _ fun subject hopens ↦ ?_
    simp [hopens.1.1] at hline
  | known above subject line lines rule rules hline hrule hrest ih =>
    by_cases hcovers : subject.Covers user group userName
    · rw [selection_cons_of_opens user group userName rule rules
        (hrule.continuation_of_head hline.1) (by rw [hrule.subject]; exact hcovers)]
      refine .block [] (lines.takeWhile fun line ↦ !line.isHead)
        (lines.dropWhile fun line ↦ !line.isHead) line subject ?_ (by simp) ⟨hline, hcovers⟩ ?_ ?_
        (.cons hrule (hrest.forall₂_takeWhile subject))
      · rw [List.takeWhile_append_dropWhile]
        rfl
      · intro extra hextra
        simpa using List.all_eq_true.1 List.all_takeWhile extra hextra
      · intro next hnext
        have hhead := List.head?_dropWhile_not (fun line ↦ !NumberedLine.isHead line) lines
        rw [hnext] at hhead
        simpa using hhead
    · rw [selection_cons_of_not_opens user group userName rule rules
        (.inr (by rw [hrule.subject]; exact hcovers))]
      refine ih.cons line _ _ fun subject' hopens ↦ hcovers ?_
      rw [hline.unique hopens.1]
      exact hopens.2
  | unknown above line lines rules hline hnone hrest ih =>
    exact ih.cons line _ _ fun subject hopens ↦ hnone subject hopens.1

/-- What is selected from the rules of a text is the first block of the text whose head names an
existing subject that covers the process. -/
theorem selection_of_read (ids : Identities) (path : String) (text : List Char) (rules : RuleSet)
    (h : (RuleSet.read ids path text).result = .ok rules) (user group : UInt32)
    (userName : Option String) :
    IsFirstBlock ids user group userName (ruleLines text)
      (rules.selection user group userName) :=
  isFirstBlock_of_compiles none _ rules
    (compiles_of_readRules ids path 1 none (Text.linesAt '\n' text) rules h)

/-- A continuation of a head that does not exist, between two blocks that are kept. -/
theorem selection_of_read_around_unknown_head :
    let ids : Identities := ⟨[("alice", 1000)], [⟨"staff", 50, ["bob"]⟩]⟩
    let text := "alice * a # home\n % * b\n\nghost * c\n% * d\n@staff cpu,io /e\n".toList
    let rules : RuleSet := [⟨.user "alice" 1000, .all, "a", false, 1⟩,
      ⟨.user "alice" 1000, .all, "b", true, 2⟩,
      ⟨.group "staff" 50 ["bob"], .named ["cpu", "io"], "e", false, 6⟩]
    (RuleSet.read ids "rules" text).result = .ok rules ∧
      (rules.selection 1000 1000 (some "alice")).map Rule.line = [1, 2] ∧
      IsFirstBlock ids 1000 1000 (some "alice") (ruleLines text)
        (rules.selection 1000 1000 (some "alice")) ∧
      (rules.selection 1001 7 (some "bob")).map Rule.line = [6] ∧
      IsFirstBlock ids 1001 7 (some "bob") (ruleLines text)
        (rules.selection 1001 7 (some "bob")) := by
  intro ids text rules
  have hread : (RuleSet.read ids "rules" text).result = .ok rules := by rfl
  exact ⟨hread, by decide, selection_of_read ids "rules" text rules hread 1000 1000 (some "alice"),
    by decide, selection_of_read ids "rules" text rules hread 1001 7 (some "bob")⟩

end RuleSet

end Regroup
