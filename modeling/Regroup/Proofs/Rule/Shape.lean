import Mathlib.Data.List.Chain
import Regroup.Proofs.Rule.Listing

/-!
# The shape of rule sets

Rules that were read from a text stand in the order of their lines, and a continuation stands behind
a rule of its own subject. The last rule read and the last head above a `%` line need not go
together, since a head may not exist. But such a head takes the `%` lines below it along, and so no
continuation is left that would stand behind a rule of another block.

What each rule holds by itself comes from the fields of its line. Its destination goes down from the
root, and neither blanks nor comments get into it.

The shape alone settles what a selection looks like: a run of rules of one subject, opened by the
only one of them that is no continuation.
-/

namespace Regroup

theorem Text.ne_of_mem_before {α : Type} [BEq α] [LawfulBEq α] (separator : α) (xs : List α) (x : α)
    (h : x ∈ before separator xs) : x ≠ separator := by
  simpa using List.all_eq_true.1 List.all_takeWhile x h

/-- No field of a line holds a blank, or the mark of a comment. -/
theorem plain_of_mem_ruleFields (line field : List Char) (c : Char)
    (hfield : field ∈ ruleFields line) (hc : c ∈ field) : Text.isBlank c = false ∧ c ≠ '#' := by
  have hpiece := (List.mem_filter.1 hfield).1
  obtain ⟨hbefore, hblank⟩ := Text.mem_of_mem_splitOnP Text.isBlank _ field c hpiece hc
  exact ⟨hblank, Text.ne_of_mem_before '#' line c hbefore⟩

theorem names_of_readControllers (field : List Char) (names : List String)
    (h : readControllers field = .named names) :
    ∀ name ∈ names, name ≠ "" ∧ ',' ∉ name.toList := by
  unfold readControllers at h
  split at h
  · cases h
  · obtain rfl := Controllers.named.inj h
    intro name hname
    obtain ⟨piece, hpiece, rfl⟩ := List.mem_map.1 hname
    obtain ⟨hsplit, hne⟩ := List.mem_filter.1 hpiece
    constructor
    · intro hempty
      obtain rfl : piece = [] := String.ofList_injective hempty
      cases hne
    · rw [String.toList_ofList]
      intro hcomma
      rw [List.splitOn_eq_splitOnP] at hsplit
      have hkept := (Text.mem_of_mem_splitOnP _ field piece ',' hsplit hcomma).2
      simp at hkept

/-- What a rule may hold as its destination and as its controllers. -/
structure Rule.IsTidy (rule : Rule) : Prop where
  relative : Path.isAbsolute rule.destination = false
  descends : ".." ∉ Path.pieces rule.destination
  plain : ∀ c ∈ rule.destination.toList, Text.isBlank c = false ∧ c ≠ '#'
  controllers : ∀ names, rule.controllers = .named names →
    ∀ name ∈ names, name ≠ "" ∧ ',' ∉ name.toList

theorem IsRuleOf.isTidy {subject : Subject} {line : NumberedLine} {rule : Rule}
    (h : IsRuleOf subject line rule) : rule.IsTidy := by
  obtain ⟨who, controllers, field, hfields, -, hcontrollers, hdestination⟩ := h.fields
  constructor
  case relative => exact h.isAbsolute_destination
  case descends => simpa [Path.climbs] using h.climbs
  case plain =>
    intro c hc
    rw [hdestination, String.toList_ofList] at hc
    have hfield : field ∈ ruleFields line.1 := by simp [hfields]
    exact plain_of_mem_ruleFields line.1 field c hfield ((List.dropWhile_sublist _).subset hc)
  case controllers =>
    rw [hcontrollers]
    exact names_of_readControllers controllers

/-! ## Rules in a row -/

/-- The second rule may stand behind the first. -/
def Rule.Precedes (rule next : Rule) : Prop :=
  next.continuation = true → next.subject = rule.subject

/-- What reading makes sure of. -/
structure RuleSet.IsWellFormed (rules : RuleSet) : Prop where
  increasing : rules.Pairwise fun rule next ↦ rule.line < next.line
  opens : ∀ first, rules.head? = some first → first.continuation = false
  continues : rules.IsChain Rule.Precedes
  tidy : ∀ rule ∈ rules, rule.IsTidy

namespace Compiles

variable {ids : Identities} {above : Option Subject} {lines : List NumberedLine} {rules : RuleSet}

/-- Every rule has the number of a line of its own. -/
theorem numbers_sublist (h : Compiles ids above lines rules) :
    (rules.map Rule.line).Sublist (lines.map Prod.snd) := by
  induction h with
  | done => exact .slnil
  | continued subject line lines rule rules hline hrule hrest ih =>
    rw [List.map_cons, List.map_cons, hrule.number]
    exact ih.cons_cons _
  | dropped line lines rules hline hrest ih => exact ih.cons _
  | known above subject line lines rule rules hline hrule hrest ih =>
    rw [List.map_cons, List.map_cons, hrule.number]
    exact ih.cons_cons _
  | unknown above line lines rules hline hnone hrest ih => exact ih.cons _

/-- A continuation that comes first goes on with the head above. -/
theorem subject_of_continuation (h : Compiles ids above lines rules) (first : Rule)
    (hfirst : rules.head? = some first) (hcontinuation : first.continuation = true) :
    above = some first.subject := by
  induction h with
  | done => cases hfirst
  | continued subject line lines rule rules hline hrule hrest ih =>
    obtain rfl := Option.some.inj hfirst
    rw [hrule.subject]
  | dropped line lines rules hline hrest ih => exact ih hfirst
  | known above subject line lines rule rules hline hrule hrest ih =>
    obtain rfl := Option.some.inj hfirst
    rw [hrule.continuation_of_head hline.1] at hcontinuation
    cases hcontinuation
  | unknown above line lines rules hline hnone hrest ih => cases ih hfirst

/-- The rule before those of the lines below a head that exists is one of that head. -/
theorem isChain_cons {subject : Subject} {line : NumberedLine} {rule : Rule}
    (hrule : IsRuleOf subject line rule) (hrest : Compiles ids (some subject) lines rules)
    (hchain : rules.IsChain Rule.Precedes) : (rule :: rules).IsChain Rule.Precedes := by
  refine List.isChain_cons.2 ⟨fun next hnext hcontinuation ↦ ?_, hchain⟩
  have habove := hrest.subject_of_continuation next hnext hcontinuation
  rw [hrule.subject, Option.some.inj habove]

theorem isChain (h : Compiles ids above lines rules) : rules.IsChain Rule.Precedes := by
  induction h with
  | done => exact .nil
  | continued subject line lines rule rules hline hrule hrest ih =>
    exact isChain_cons hrule hrest ih
  | dropped line lines rules hline hrest ih => exact ih
  | known above subject line lines rule rules hline hrule hrest ih =>
    exact isChain_cons hrule hrest ih
  | unknown above line lines rules hline hnone hrest ih => exact ih

theorem isTidy (h : Compiles ids above lines rules) : ∀ rule ∈ rules, rule.IsTidy := by
  induction h with
  | done => exact nofun
  | continued subject line lines rule rules hline hrule hrest ih =>
    exact List.forall_mem_cons.2 ⟨hrule.isTidy, ih⟩
  | dropped line lines rules hline hrest ih => exact ih
  | known above subject line lines rule rules hline hrule hrest ih =>
    exact List.forall_mem_cons.2 ⟨hrule.isTidy, ih⟩
  | unknown above line lines rules hline hnone hrest ih => exact ih

end Compiles

/-- The numbers of lines increase. -/
theorem pairwise_zipIdx (texts : List (List Char)) (number : Nat) :
    ((texts.zipIdx number).map Prod.snd).Pairwise (· < ·) := by
  rw [List.zipIdx_map_snd]
  exact List.pairwise_lt_range'

/-- Without a head above, the rules of lines are well-formed. -/
theorem Compiles.isWellFormed {ids : Identities} (texts : List (List Char)) (number : Nat)
    {rules : RuleSet}
    (h : Compiles ids none ((texts.zipIdx number).filter NumberedLine.isRule) rules) :
    rules.IsWellFormed := by
  constructor
  case increasing =>
    have hlines : (((texts.zipIdx number).filter NumberedLine.isRule).map Prod.snd).Sublist
        ((texts.zipIdx number).map Prod.snd) := List.filter_sublist.map Prod.snd
    have hnumbers := (pairwise_zipIdx texts number).sublist (h.numbers_sublist.trans hlines)
    exact List.pairwise_map.1 hnumbers
  case opens =>
    intro first hfirst
    by_contra hcontinuation
    rw [Bool.not_eq_false] at hcontinuation
    cases h.subject_of_continuation first hfirst hcontinuation
  case continues => exact h.isChain
  case tidy => exact h.isTidy

/-! ## Runs -/

namespace RuleSet

variable {user group : UInt32} {userName : Option String} {rules selection : RuleSet}

/-- The rule would open a selection. -/
def Begins (user group : UInt32) (userName : Option String) (rule : Rule) : Prop :=
  rule.continuation = false ∧ rule.subject.Covers user group userName

/-- The selection is a run of the rules: the first that begins one, and the continuations up to the
next rule that is none, all of one subject. It is empty if no rule begins one. -/
inductive IsRun (user group : UInt32) (userName : Option String) (rules selection : RuleSet) :
    Prop where
  | run (before extras after : RuleSet) (first : Rule)
      (hrules : rules = before ++ first :: (extras ++ after))
      (hselection : selection = first :: extras)
      (hbefore : ∀ rule ∈ before, ¬ Begins user group userName rule)
      (hfirst : Begins user group userName first)
      (hextras : ∀ rule ∈ extras, rule.continuation = true ∧ rule.subject = first.subject)
      (hafter : ∀ next, after.head? = some next → next.continuation = false)
  | nothing (hrules : ∀ rule ∈ rules, ¬ Begins user group userName rule)
      (hselection : selection = [])

theorem IsRun.cons (rule : Rule) (hrule : ¬ Begins user group userName rule)
    (h : IsRun user group userName rules selection) :
    IsRun user group userName (rule :: rules) selection := by
  cases h with
  | run before extras after first hrules hselection hbefore hfirst hextras hafter =>
    exact .run (rule :: before) extras after first (by rw [hrules]; rfl) hselection
      (List.forall_mem_cons.2 ⟨hrule, hbefore⟩) hfirst hextras hafter
  | nothing hrules hselection => exact .nothing (List.forall_mem_cons.2 ⟨hrule, hrules⟩) hselection

/-- The continuations behind a rule share its subject. -/
theorem takeWhile_continuation_of_isChain (first : Rule) (rest : RuleSet)
    (h : (first :: rest).IsChain Rule.Precedes) :
    ∀ rule ∈ rest.takeWhile Rule.continuation,
      rule.continuation = true ∧ rule.subject = first.subject := by
  induction rest generalizing first with
  | nil => exact nofun
  | cons next rest ih =>
    obtain ⟨hnext, hrest⟩ := List.isChain_cons_cons.1 h
    cases hcontinuation : next.continuation with
    | false =>
      rw [List.takeWhile_cons_of_neg (by simp [hcontinuation])]
      exact nofun
    | true =>
      rw [List.takeWhile_cons_of_pos hcontinuation]
      have hsubject := hnext hcontinuation
      refine List.forall_mem_cons.2 ⟨⟨hcontinuation, hsubject⟩, fun rule hrule ↦ ?_⟩
      rw [← hsubject]
      exact ih next hrest rule hrule

/-- All that a selection takes from the shape is that continuations go on with their subject. -/
theorem isRun_selection (h : rules.IsChain Rule.Precedes) :
    IsRun user group userName rules (rules.selection user group userName) := by
  induction rules with
  | nil => exact .nothing (by simp) rfl
  | cons rule rules ih =>
    by_cases hbegins : Begins user group userName rule
    · rw [selection_cons_of_opens user group userName rule rules hbegins.1 hbegins.2]
      refine .run [] (rules.takeWhile Rule.continuation) (rules.dropWhile Rule.continuation) rule
        ?_ rfl (by simp) hbegins (takeWhile_continuation_of_isChain rule rules h) ?_
      · rw [List.takeWhile_append_dropWhile]
        rfl
      · intro next hnext
        have hhead := List.head?_dropWhile_not Rule.continuation rules
        rw [hnext] at hhead
        simpa using hhead
    · have hnot : rule.continuation = true ∨ ¬ rule.subject.Covers user group userName := by
        rwa [Begins, not_and_or, Bool.not_eq_false] at hbegins
      rw [selection_cons_of_not_opens user group userName rule rules hnot]
      exact (ih h.tail).cons rule hbegins

/-- The rules of a text are well-formed, and what is selected from them is a run. -/
theorem isWellFormed_of_read (ids : Identities) (path : String) (text : List Char)
    (rules : RuleSet) (h : (RuleSet.read ids path text).result = .ok rules) :
    rules.IsWellFormed ∧ ∀ user group userName,
      IsRun user group userName rules (rules.selection user group userName) := by
  have hcompiled := compiles_of_readRules ids path 1 none (Text.linesAt '\n' text) rules h
  have hshape := Compiles.isWellFormed (Text.linesAt '\n' text) 1 hcompiled
  exact ⟨hshape, fun user group userName ↦ isRun_selection hshape.continues⟩

/-- Between the two blocks stands a head that does not exist, with a continuation of its own. -/
theorem isWellFormed_of_read_around_unknown_head :
    let ids : Identities := ⟨[("alice", 1000)], [⟨"staff", 50, ["bob"]⟩]⟩
    let text := "alice * a # home\n % cpu,,io //b\n\nghost * c\n% * d\n@staff , e/./f\n".toList
    let rules : RuleSet := [⟨.user "alice" 1000, .all, "a", false, 1⟩,
      ⟨.user "alice" 1000, .named ["cpu", "io"], "b", true, 2⟩,
      ⟨.group "staff" 50 ["bob"], .named [], "e/./f", false, 6⟩]
    (RuleSet.read ids "rules" text).result = .ok rules ∧ rules.IsWellFormed ∧
      (rules.selection 1000 50 none).map Rule.line = [1, 2] ∧
      IsRun 1000 50 none rules (rules.selection 1000 50 none) := by
  intro ids text rules
  have hread : (RuleSet.read ids "rules" text).result = .ok rules := by rfl
  obtain ⟨hshape, hrun⟩ := isWellFormed_of_read ids "rules" text rules hread
  exact ⟨hread, hshape, by decide, hrun 1000 50 none⟩

end RuleSet

end Regroup
