import Regroup.Proofs.Result
import Regroup.Proofs.Text.Lines
import Regroup.Rule.Reader

/-!
# The first lines of a rules text

Reading takes one thing along from the lines above: whether there is a head, and which subject it
named. So to read a text is to read its first lines and then the others from where these have come
to, and what the first lines are read as does not depend on what follows them.

A text with a fault is read up to the line of the fault, whatever stands below it, and the lines
above are read without one. A text without a fault is read without one up to each of its lines.
-/

namespace Regroup

open Log (Record)

namespace RuleLine

/-- The subject of the last head once the line is read. -/
def headBelow (above : Option (Option Subject)) : RuleLine → Option (Option Subject)
  | .blank | .continuation _ _ => above
  | .head _ subject _ _ => some subject

/-- The rule that the line is read as, none where its head does not exist. -/
def rules (above : Option (Option Subject)) (number : Nat) : RuleLine → RuleSet
  | .blank => []
  | .continuation controllers destination =>
    above.join.toList.map fun subject ↦ ⟨subject, controllers, destination, true, number⟩
  | .head _ subject controllers destination =>
    subject.toList.map fun subject ↦ ⟨subject, controllers, destination, false, number⟩

/-- The warning about a head whose subject does not exist. -/
def warning? (path : String) (number : Nat) : RuleLine → Option Record
  | .head who none _ _ => some (unknownSubjectRecord path number who)
  | .head _ (some _) _ _ | .blank | .continuation _ _ => none

theorem line_of_mem_rules (above : Option (Option Subject)) (number : Nat) (parsed : RuleLine)
    (rule : Rule) (h : rule ∈ parsed.rules above number) : rule.line = number := by
  cases parsed with
  | blank => cases h
  | continuation | head =>
    obtain ⟨subject, -, rfl⟩ := List.mem_map.1 h
    rfl

end RuleLine

/-- Only a `%` line asks for a rule above. -/
theorem readRuleLine_follows (ids : Identities) (follows : Bool) (text : List Char)
    (parsed : RuleLine) (h : readRuleLine ids follows text = .ok parsed) :
    readRuleLine ids true text = .ok parsed := by
  cases follows with
  | true => exact h
  | false =>
    unfold readRuleLine at h ⊢
    split at h
    · exact h
    · obtain ⟨destination, hdestination, hrest⟩ := (bind_eq_ok_iff _ _ _).1 h
      rw [hdestination]
      dsimp only at hrest
      split at hrest
      · cases hrest
      · rename_i hwho
        simp only [bind, Except.bind, if_neg hwho]
        exact hrest
    · cases h

section

variable (ids : Identities) (path : String) (number : Nat) (above : Option (Option Subject))
  (text : List Char) (texts before after : List (List Char))

theorem readRules_cons_of_error (fault : RuleFault)
    (h : readRuleLine ids above.isSome text = .error fault) :
    readRules ids path number above (text :: texts) = ⟨.error (number, fault), []⟩ := by
  rw [readRules, h]

theorem readRules_cons_of_ok (parsed : RuleLine)
    (h : readRuleLine ids above.isSome text = .ok parsed) :
    readRules ids path number above (text :: texts) =
      let rest := readRules ids path (number + 1) (parsed.headBelow above) texts
      ⟨rest.result.map (parsed.rules above number ++ ·),
        (parsed.warning? path number).toList ++ rest.records⟩ := by
  have hnothing (result : Except LineFault RuleSet) : result = result.map ([] ++ ·) := by
    cases result <;> rfl
  rw [readRules, h]
  cases parsed with
  | blank => exact congrArg (RuleReading.mk · _) (hnothing _)
  | continuation controllers destination =>
    cases habove : above.join with
    | none =>
      simp only [RuleLine.rules, habove]
      exact congrArg (RuleReading.mk · _) (hnothing _)
    | some subject =>
      simp only [RuleLine.rules, habove]
      rfl
  | head who subject controllers destination =>
    cases subject with
    | none => exact congrArg (RuleReading.mk · _) (hnothing _)
    | some subject => rfl

theorem exists_parsed (rules : RuleSet)
    (h : (readRules ids path number above (text :: texts)).result = .ok rules) :
    ∃ parsed later, readRuleLine ids above.isSome text = .ok parsed ∧
      (readRules ids path (number + 1) (parsed.headBelow above) texts).result = .ok later ∧
      rules = parsed.rules above number ++ later := by
  cases hread : readRuleLine ids above.isSome text with
  | error fault =>
    rw [readRules_cons_of_error ids path number above text texts fault hread] at h
    cases h
  | ok parsed =>
    rw [readRules_cons_of_ok ids path number above text texts parsed hread] at h
    obtain ⟨later, hlater, hrules⟩ := (map_eq_ok_iff _ _ _).1 h
    exact ⟨parsed, later, rfl, hlater, hrules.symm⟩

/-! ## Part by part -/

/-- The subject of the last head once lines are read. -/
def headBelow : Option (Option Subject) → List (List Char) → Option (Option Subject)
  | above, [] => above
  | above, text :: texts =>
    match readRuleLine ids above.isSome text with
    | .error _ => above
    | .ok parsed => headBelow (parsed.headBelow above) texts

/-- A text is read part by part. -/
theorem readRules_append (rules : RuleSet)
    (h : (readRules ids path number above before).result = .ok rules) :
    readRules ids path number above (before ++ after) =
      let rest := readRules ids path (number + before.length) (headBelow ids above before) after
      ⟨rest.result.map (rules ++ ·),
        (readRules ids path number above before).records ++ rest.records⟩ := by
  induction before generalizing number above rules with
  | nil =>
    obtain rfl := Except.ok.inj h
    simp only [List.nil_append, List.length_nil, Nat.add_zero, headBelow, readRules]
    rcases readRules ids path number above after with ⟨_ | rules, records⟩ <;> rfl
  | cons text before ih =>
    obtain ⟨parsed, later, hread, hlater, rfl⟩ :=
      exists_parsed ids path number above text before rules h
    have hnumber : number + 1 + before.length = number + (text :: before).length := by
      rw [List.length_cons]
      omega
    have hhead : headBelow ids above (text :: before) =
        headBelow ids (parsed.headBelow above) before := by
      rw [headBelow, hread]
    rw [List.cons_append, readRules_cons_of_ok ids path number above text _ parsed hread,
      readRules_cons_of_ok ids path number above text before parsed hread,
      ih (number + 1) (parsed.headBelow above) later hlater]
    simp only [hnumber, hhead, List.append_assoc]
    cases (readRules ids path (number + (text :: before).length)
      (headBelow ids (parsed.headBelow above) before) after).result with
    | error fault => rfl
    | ok rules => simp [Except.map]

/-- Reading ends at the first line with a fault. -/
theorem exists_faulty_line (line : Nat) (fault : RuleFault)
    (h : (readRules ids path number above texts).result = .error (line, fault)) :
    ∃ before bad after rules, texts = before ++ bad :: after ∧ line = number + before.length ∧
      (readRules ids path number above before).result = .ok rules ∧
      readRuleLine ids (headBelow ids above before).isSome bad = .error fault := by
  induction texts generalizing number above with
  | nil => cases h
  | cons text texts ih =>
    cases hread : readRuleLine ids above.isSome text with
    | error found =>
      rw [readRules_cons_of_error ids path number above text texts found hread] at h
      obtain ⟨rfl, rfl⟩ := Prod.mk.inj (Except.error.inj h)
      exact ⟨[], text, texts, [], rfl, rfl, rfl, hread⟩
    | ok parsed =>
      rw [readRules_cons_of_ok ids path number above text texts parsed hread] at h
      obtain ⟨before, bad, after, rules, rfl, rfl, hbefore, hbad⟩ :=
        ih (number + 1) (parsed.headBelow above) ((map_eq_error_iff _ _ _).1 h)
      refine ⟨text :: before, bad, after, parsed.rules above number ++ rules, rfl, ?_, ?_, ?_⟩
      · rw [List.length_cons]
        omega
      · rw [readRules_cons_of_ok ids path number above text before parsed hread]
        exact (map_eq_ok_iff _ _ _).2 ⟨rules, hbefore, rfl⟩
      · rwa [headBelow, hread]

/-- Nothing below a line with a fault is looked at. -/
theorem readRules_of_faulty_line (bad : List Char) (rules : RuleSet) (fault : RuleFault)
    (hbefore : (readRules ids path number above before).result = .ok rules)
    (hbad : readRuleLine ids (headBelow ids above before).isSome bad = .error fault) :
    readRules ids path number above (before ++ bad :: after) =
      ⟨.error (number + before.length, fault),
        (readRules ids path number above before).records⟩ := by
  rw [readRules_append ids path number above before _ rules hbefore,
    readRules_cons_of_error ids path _ _ bad after fault hbad]
  simp [Except.map]

/-- The parts of a text without faults have none either. -/
theorem exists_rules_of_append (rules : RuleSet)
    (h : (readRules ids path number above (before ++ after)).result = .ok rules) :
    ∃ first later, rules = first ++ later ∧
      (readRules ids path number above before).result = .ok first ∧
      (readRules ids path (number + before.length) (headBelow ids above before) after).result =
        .ok later := by
  cases hbefore : (readRules ids path number above before).result with
  | error found =>
    obtain ⟨start, bad, rest, rules', rfl, -, hstart, hbad⟩ :=
      exists_faulty_line ids path number above before found.1 found.2 hbefore
    rw [List.append_assoc, List.cons_append,
      readRules_of_faulty_line ids path number above start _ bad rules' found.2 hstart hbad] at h
    cases h
  | ok first =>
    rw [readRules_append ids path number above before after first hbefore] at h
    obtain ⟨later, hlater, hrules⟩ := (map_eq_ok_iff _ _ _).1 h
    exact ⟨first, later, hrules.symm, rfl, hlater⟩

/-- Rules have the numbers of the lines that they are read from. -/
theorem line_of_mem_readRules (rules : RuleSet)
    (h : (readRules ids path number above texts).result = .ok rules) :
    ∀ rule ∈ rules, number ≤ rule.line ∧ rule.line < number + texts.length := by
  induction texts generalizing number above rules with
  | nil =>
    obtain rfl := Except.ok.inj h
    exact nofun
  | cons text texts ih =>
    obtain ⟨parsed, later, -, hlater, rfl⟩ :=
      exists_parsed ids path number above text texts rules h
    intro rule hrule
    rw [List.length_cons]
    rcases List.mem_append.1 hrule with hfirst | hmem
    · have hline := RuleLine.line_of_mem_rules above number parsed rule hfirst
      omega
    · have hbounds := ih (number + 1) _ later hlater rule hmem
      omega

/-- The first lines of a text without faults are read as the rules that stand on them. -/
theorem readRules_take (rules : RuleSet) (count : Nat)
    (h : (readRules ids path number above texts).result = .ok rules) :
    (readRules ids path number above (texts.take count)).result =
      .ok (rules.filter fun rule ↦ rule.line < number + count) := by
  rw [← List.take_append_drop count texts] at h
  obtain ⟨first, later, rfl, hfirst, hlater⟩ :=
    exists_rules_of_append ids path number above _ _ rules h
  have hwithin := line_of_mem_readRules ids path number above _ first hfirst
  have hbehind := line_of_mem_readRules ids path _ _ _ later hlater
  simp only [List.length_take, List.length_drop] at hwithin hbehind
  have hkept : first.filter (fun rule ↦ rule.line < number + count) = first := by
    apply List.filter_eq_self.2
    intro rule hrule
    have hline := hwithin rule hrule
    simp only [decide_eq_true_eq]
    omega
  have hleft : later.filter (fun rule ↦ rule.line < number + count) = [] := by
    apply List.filter_eq_nil_iff.2
    intro rule hrule
    have hline := hbehind rule hrule
    simp only [decide_eq_true_eq]
    omega
  rw [List.filter_append, hkept, hleft, List.append_nil]
  exact hfirst

/-- The warning that a line gives rise to on its own, about a head whose subject does not exist. -/
def lineWarning? (line : List Char × Nat) : Option Record :=
  match readRuleLine ids true line.1 with
  | .ok parsed => parsed.warning? path line.2
  | .error _ => none

theorem records_of_readRules (rules : RuleSet)
    (h : (readRules ids path number above texts).result = .ok rules) :
    (readRules ids path number above texts).records =
      (texts.zipIdx number).filterMap (lineWarning? ids path) := by
  induction texts generalizing number above rules with
  | nil => rfl
  | cons text texts ih =>
    obtain ⟨parsed, later, hread, hlater, -⟩ :=
      exists_parsed ids path number above text texts rules h
    have hwarning : lineWarning? ids path (text, number) = parsed.warning? path number := by
      rw [lineWarning?, readRuleLine_follows ids _ text parsed hread]
    rw [readRules_cons_of_ok ids path number above text texts parsed hread, List.zipIdx_cons,
      List.filterMap_cons, hwarning]
    dsimp only
    rw [ih (number + 1) _ later hlater]
    cases parsed.warning? path number <;> rfl

end

/-! ## Texts -/

namespace RuleSet

/-- A fault is told by the lines up to its own, and the lines before it are read without one: these
have one warning for each head whose subject does not exist, and nothing below has any. Where there
is no fault, the first lines are read as the rules that stand on them. -/
theorem read_by_first_lines (ids : Identities) (path : String) (text : List Char) :
    let lines := Text.linesAt '\n' text
    let start (count : Nat) := Text.firstLines '\n' count text
    (∀ count, start count <+: text ∧ Text.linesAt '\n' (start count) = lines.take count) ∧
      (∀ line fault, (read ids path text).result = .error (line, fault) →
        (∀ count < line, ∃ rules, (read ids path (start count)).result = .ok rules) ∧
        (∀ other, (Text.linesAt '\n' other).take line = lines.take line →
          (read ids path other).result = .error (line, fault) ∧
            (read ids path other).records = (read ids path text).records) ∧
        (read ids path text).records =
          ((lines.take (line - 1)).zipIdx 1).filterMap (lineWarning? ids path)) ∧
      ∀ rules, (read ids path text).result = .ok rules →
        ∀ count, (read ids path (start count)).result =
          .ok (rules.filter fun rule ↦ rule.line ≤ count) := by
  intro lines start
  have hstart (count : Nat) : Text.linesAt '\n' (start count) = lines.take count :=
    Text.linesAt_firstLines '\n' count text
  refine ⟨fun count ↦ ⟨Text.firstLines_isPrefix '\n' count text, hstart count⟩, ?_, ?_⟩
  · intro line fault herror
    obtain ⟨before, bad, after, rules, hlines, rfl, hbefore, hbad⟩ :=
      exists_faulty_line ids path 1 none lines line fault herror
    have hread (rest : List (List Char)) :=
      readRules_of_faulty_line ids path 1 none before rest bad rules fault hbefore hbad
    have hrecords : (read ids path text).records = (readRules ids path 1 none before).records := by
      change (readRules ids path 1 none lines).records = _
      rw [hlines, hread after]
    refine ⟨fun count hcount ↦ ?_, fun other hother ↦ ?_, ?_⟩
    · have hcut : lines.take count = before.take count := by
        rw [hlines, List.take_append_of_le_length (by omega)]
      rw [read, hstart, hcut]
      exact ⟨_, readRules_take ids path 1 none before rules count hbefore⟩
    · have hlength : (before ++ [bad]).length = 1 + before.length := by
        rw [List.length_append, List.length_singleton, Nat.add_comm]
      obtain ⟨rest, hrest⟩ := List.take_prefix (1 + before.length) (Text.linesAt '\n' other)
      rw [hother, hlines, List.append_cons before bad after, List.take_left' hlength,
        List.append_assoc, List.singleton_append] at hrest
      rw [hrecords, read, ← hrest, hread rest]
      exact ⟨rfl, rfl⟩
    · have hcut : lines.take (1 + before.length - 1) = before := by
        rw [hlines, Nat.add_sub_cancel_left, List.take_left]
      rw [hrecords, hcut]
      exact records_of_readRules ids path 1 none before rules hbefore
  · intro rules hrules count
    have hbefore : rules.filter (fun rule ↦ rule.line < 1 + count) =
        rules.filter fun rule ↦ rule.line ≤ count := by
      apply List.filter_congr
      intro rule _
      rw [Nat.add_comm, decide_eq_decide]
      exact Nat.lt_succ_iff
    rw [read, hstart, ← hbefore]
    exact readRules_take ids path 1 none lines rules count hrules

/-- A fault in the fourth line, below a head that does not exist and its continuation, in two texts
that differ from the fifth line on. -/
theorem read_by_first_lines_below_unknown_head :
    let ids : Identities := ⟨[("alice", 1000)], []⟩
    let text := "ghost * g\n% * h\nalice * a\n% * ../b\nbob\n".toList
    let other := "ghost * g\n% * h\nalice * a\n% * ../b".toList
    let fault : RuleFault := .leavesRoot "../b"
    (read ids "rules" text).result = .error (4, fault) ∧
      (Text.linesAt '\n' other).take 4 = (Text.linesAt '\n' text).take 4 ∧
      (read ids "rules" other).result = .error (4, fault) ∧
      (read ids "rules" text).records = [unknownSubjectRecord "rules" 1 "ghost"] ∧
      (∃ rules, (read ids "rules" (Text.firstLines '\n' 3 text)).result = .ok rules) ∧
      (read ids "rules" (Text.firstLines '\n' 2 (Text.firstLines '\n' 3 text))).result =
        .ok [] := by
  intro ids text other fault
  have hfault : (read ids "rules" text).result = .error (4, fault) := by rfl
  have hlines : (Text.linesAt '\n' other).take 4 = (Text.linesAt '\n' text).take 4 := by decide
  have hstart : (read ids "rules" (Text.firstLines '\n' 3 text)).result =
      .ok [⟨.user "alice" 1000, .all, "a", false, 3⟩] := by rfl
  obtain ⟨-, hfaulty, -⟩ := read_by_first_lines ids "rules" text
  obtain ⟨hbefore, hothers, hrecords⟩ := hfaulty 4 fault hfault
  obtain ⟨-, -, hkept⟩ := read_by_first_lines ids "rules" (Text.firstLines '\n' 3 text)
  exact ⟨hfault, hlines, (hothers other hlines).1, hrecords, hbefore 3 (by decide),
    hkept _ hstart 2⟩

end RuleSet

end Regroup
