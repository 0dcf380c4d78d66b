import Regroup.Proofs.Rule.Selection
import Regroup.Proofs.Text.Lines
import Regroup.Text.Utf8

/-!
# What a listing tells

A listing leaves out the members of groups and where a rule stands in its text. But it shows the
field that named a subject, and which subject that is, the identity databases have settled. No field
holds a blank, so the six lines of a rule can be told apart, and so can a continuation, which shows
its subject between parentheses, and a head.

So rules that were read with the same databases and are listed alike select alike.
-/

namespace Regroup

namespace Text

theorem encode_injective : Function.Injective encode := by
  intro s t h
  have hbytes : s.toList.utf8Encode = t.toList.utf8Encode := congrArg List.toByteArray h
  rw [String.utf8Encode_toList, String.utf8Encode_toList] at hbytes
  exact String.toByteArray_inj.1 hbytes

theorem mem_of_mem_splitOnP {α : Type} (p : α → Bool) (xs piece : List α) (x : α)
    (hpiece : piece ∈ xs.splitOnP p) (hx : x ∈ piece) : x ∈ xs ∧ p x = false := by
  induction xs generalizing piece with
  | nil =>
    rw [List.splitOnP_nil, List.mem_singleton] at hpiece
    rw [hpiece] at hx
    cases hx
  | cons y ys ih =>
    have hlater : ∀ piece ∈ ys.splitOnP p, x ∈ piece → x ∈ y :: ys ∧ p x = false := by
      intro piece hpiece hx
      exact ⟨List.mem_cons_of_mem y (ih piece hpiece hx).1, (ih piece hpiece hx).2⟩
    rw [List.splitOnP_cons_eq_if_modifyHead] at hpiece
    split at hpiece
    · rcases List.mem_cons.1 hpiece with rfl | hpiece
      · cases hx
      · exact hlater piece hpiece hx
    · rename_i hy
      obtain ⟨first, rest, hsplit⟩ := List.exists_cons_of_ne_nil (List.splitOnP_ne_nil p ys)
      rw [hsplit] at hlater
      rw [hsplit, List.modifyHead_cons, List.mem_cons] at hpiece
      rcases hpiece with rfl | hpiece
      · rcases List.mem_cons.1 hx with rfl | hx
        · exact ⟨List.mem_cons_self, by simpa using hy⟩
        · exact hlater first List.mem_cons_self hx
      · exact hlater piece (List.mem_cons_of_mem first hpiece) hx

theorem isBlank_of_mem_fields (s field : List Char) (c : Char) (hfield : field ∈ fields s)
    (hc : c ∈ field) : isBlank c = false :=
  (mem_of_mem_splitOnP isBlank s field c (List.mem_filter.1 hfield).1 hc).2

theorem newline_notMem (s : List Char) (h : ∀ c ∈ s, isBlank c = false) : '\n' ∉ s := by
  intro hnewline
  exact absurd (h '\n' hnewline) (by decide)

theorem notMem_intercalate {α : Type} (x : α) (separator : List α) (pieces : List (List α))
    (hseparator : x ∉ separator) (hpieces : ∀ piece ∈ pieces, x ∉ piece) :
    x ∉ separator.intercalate pieces := by
  induction pieces with
  | nil => exact List.not_mem_nil
  | cons piece pieces ih =>
    obtain ⟨hpiece, hlater⟩ := List.forall_mem_cons.1 hpieces
    cases pieces with
    | nil => rwa [List.intercalate_singleton]
    | cons next pieces =>
      rw [List.intercalate_cons_cons, List.mem_append, List.mem_append, not_or, not_or]
      exact ⟨⟨hpiece, hseparator⟩, ih hlater⟩

end Text

/-- The text of a subject is the field that named it. -/
theorem Names.text_eq {ids : Identities} {who : List Char} {subject : Subject}
    (h : Names ids who subject) : subject.text = String.ofList who := by
  cases h with
  | anyone => rfl
  | userNumber => rfl
  | userName => rfl
  | groupNumber name | groupName name =>
    rw [← List.singleton_append, String.ofList_append]
    rfl

/-- A subject that some field without blanks names. -/
def Subject.IsNamed (ids : Identities) (subject : Subject) : Prop :=
  ∃ who, (∀ c ∈ who, Text.isBlank c = false) ∧ Names ids who subject

namespace Subject.IsNamed

variable {ids : Identities} {subject subject' : Subject}

/-- The text of a subject settles which subject it is. -/
theorem eq_of_text_eq (h : subject.IsNamed ids) (h' : subject'.IsNamed ids)
    (htext : subject.text = subject'.text) : subject = subject' := by
  obtain ⟨who, -, hnames⟩ := h
  obtain ⟨who', -, hnames'⟩ := h'
  rw [hnames.text_eq, hnames'.text_eq] at htext
  obtain rfl : who = who' := String.ofList_injective htext
  exact hnames.unique hnames'

theorem isBlank_of_mem_text (h : subject.IsNamed ids) (c : Char) (hc : c ∈ subject.text.toList) :
    Text.isBlank c = false := by
  obtain ⟨who, hblank, hnames⟩ := h
  rw [hnames.text_eq, String.toList_ofList] at hc
  exact hblank c hc

end Subject.IsNamed

theorem newline_notMem_of_field (text field : List Char) (h : field ∈ ruleFields text) :
    '\n' ∉ field :=
  Text.newline_notMem field fun c ↦ Text.isBlank_of_mem_fields _ field c h

theorem newline_notMem_readControllers (field : List Char) (h : '\n' ∉ field) :
    '\n' ∉ (readControllers field).text.toList := by
  unfold readControllers
  split
  · decide
  · rw [Controllers.text, String.toList_intercalate]
    refine Text.notMem_intercalate '\n' _ _ (by decide) ?_
    rintro name hname hnewline
    simp only [List.map_map, List.mem_map, List.mem_filter, Function.comp_apply,
      String.toList_ofList] at hname
    obtain ⟨piece, ⟨hpiece, -⟩, rfl⟩ := hname
    rw [List.splitOn_eq_splitOnP] at hpiece
    exact h (Text.mem_of_mem_splitOnP _ field piece '\n' hpiece hnewline).1

/-- What a rule shows in a listing has no line feed, and a field named its subject. -/
structure Rule.IsLegible (ids : Identities) (rule : Rule) : Prop where
  subject : rule.subject.IsNamed ids
  controllers : '\n' ∉ rule.controllers.text.toList
  destination : '\n' ∉ rule.destination.toList

theorem IsRuleOf.isLegible {ids : Identities} {subject : Subject} {line : NumberedLine}
    {rule : Rule} (h : IsRuleOf subject line rule) (hsubject : subject.IsNamed ids) :
    rule.IsLegible ids := by
  obtain ⟨who, controllers, field, hfields, -, hcontrollers, hdestination⟩ := h.fields
  have hfield (found : List Char) (hfound : found ∈ [who, controllers, field]) : '\n' ∉ found :=
    newline_notMem_of_field line.1 found (by rwa [hfields])
  constructor
  case subject => rwa [h.subject]
  case controllers =>
    rw [hcontrollers]
    exact newline_notMem_readControllers controllers (hfield controllers (by simp))
  case destination =>
    rw [hdestination, String.toList_ofList]
    intro hnewline
    exact hfield field (by simp) ((List.dropWhile_sublist _).subset hnewline)

theorem NumberedLine.IsHeadOf.isNamed {ids : Identities} {line : NumberedLine} {subject : Subject}
    (h : line.IsHeadOf ids subject) : subject.IsNamed ids := by
  obtain ⟨-, who, fields, hfields, hnames⟩ := h
  have hwho : who ∈ ruleFields line.1 := by
    rw [hfields]
    exact List.mem_cons_self
  exact ⟨who, fun c hc ↦ Text.isBlank_of_mem_fields _ who c hwho hc, hnames⟩

theorem Compiles.isLegible {ids : Identities} {above : Option Subject} {lines : List NumberedLine}
    {rules : RuleSet} (h : Compiles ids above lines rules)
    (habove : ∀ subject, above = some subject → subject.IsNamed ids) :
    ∀ rule ∈ rules, rule.IsLegible ids := by
  induction h with
  | done => exact nofun
  | continued subject line lines rule rules hline hrule hrest ih =>
    exact List.forall_mem_cons.2 ⟨hrule.isLegible (habove subject rfl), ih habove⟩
  | dropped line lines rules hline hrest ih => exact ih habove
  | known above subject line lines rule rules hline hrule hrest ih =>
    refine List.forall_mem_cons.2 ⟨hrule.isLegible hline.isNamed, ih ?_⟩
    rintro subject' ⟨⟩
    exact hline.isNamed
  | unknown above line lines rules hline hnone hrest ih => exact ih nofun

/-! ## The lines of a listing -/

def Rule.listingLines (rule : Rule) : List (List Char) :=
  let text := rule.subject.text.toList
  let (user, group) := rule.subject.numbers
  ["Rule: ".toList ++ if rule.continuation then "% (".toList ++ text ++ [')'] else text,
    "  UID: ".toList ++ user.toList,
    "  GID: ".toList ++ group.toList,
    "  DEST: /".toList ++ rule.destination.toList,
    "  CONTROLLERS: ".toList ++ rule.controllers.text.toList,
    []]

theorem Rule.length_listingLines (rule : Rule) : rule.listingLines.length = 6 :=
  rfl

theorem Rule.toList_listing (rule : Rule) :
    rule.listing.toList = Text.terminated '\n' rule.listingLines := by
  unfold listing listingLines Text.terminated
  cases rule.continuation <;> simp [String.toList_append, toString]

def RuleSet.listingLines (rules : RuleSet) : List (List Char) :=
  if rules.isEmpty then ["No rules loaded.".toList] else rules.flatMap Rule.listingLines

theorem RuleSet.toList_listing (rules : RuleSet) :
    rules.listing.toList = Text.terminated '\n' rules.listingLines := by
  unfold listing listingLines
  cases rules with
  | nil => rfl
  | cons rule rules =>
    rw [if_neg (by simp), if_neg (by simp), String.toList_join, Text.terminated,
      List.flatMap_assoc, List.flatMap_map]
    congr 1
    funext rule
    exact rule.toList_listing

theorem newline_notMem_numeral (n : UInt32) : '\n' ∉ (toString n).toList := by
  intro hnewline
  have hdigits : '\n' ∈ Nat.toDigits 10 n.toNat := by simpa [toString] using hnewline
  have hdigit := Nat.isDigit_of_mem_toDigits (by decide) (by decide) hdigits
  exact absurd hdigit (by decide)

theorem Subject.newline_notMem_numbers (subject : Subject) :
    '\n' ∉ subject.numbers.1.toList ∧ '\n' ∉ subject.numbers.2.toList := by
  have hnone : '\n' ∉ "N/A".toList := by decide
  have hany : '\n' ∉ "any".toList := by decide
  cases subject with
  | user name number => exact ⟨newline_notMem_numeral number, hnone⟩
  | group name number members => exact ⟨hnone, newline_notMem_numeral number⟩
  | anyone => exact ⟨hany, hany⟩

namespace Rule.IsLegible

variable {ids : Identities} {rule rule' : Rule}

theorem newline_notMem_text (h : rule.IsLegible ids) : '\n' ∉ rule.subject.text.toList :=
  Text.newline_notMem _ h.subject.isBlank_of_mem_text

theorem newline_notMem_lines (h : rule.IsLegible ids) :
    ∀ line ∈ rule.listingLines, '\n' ∉ line := by
  obtain ⟨huser, hgroup⟩ := rule.subject.newline_notMem_numbers
  have htext := h.newline_notMem_text
  have hcontrollers := h.controllers
  have hdestination := h.destination
  simp only [listingLines, List.forall_mem_cons, List.mem_append, not_or]
  refine ⟨⟨by decide, ?_⟩, ⟨by decide, huser⟩, ⟨by decide, hgroup⟩, ⟨by decide, hdestination⟩,
    ⟨by decide, hcontrollers⟩, List.not_mem_nil, nofun⟩
  split
  · simp only [List.mem_append, not_or]
    exact ⟨⟨by decide, htext⟩, by decide⟩
  · exact htext

/-- A continuation shows a blank between its mark and its subject, and no subject holds one. -/
theorem first_line_eq (h : rule.IsLegible ids) (h' : rule'.IsLegible ids)
    (hline : (if rule.continuation then "% (".toList ++ rule.subject.text.toList ++ [')']
        else rule.subject.text.toList) =
      if rule'.continuation then "% (".toList ++ rule'.subject.text.toList ++ [')']
        else rule'.subject.text.toList) :
    rule.continuation = rule'.continuation ∧ rule.subject = rule'.subject := by
  have hblank (text : List Char) : ' ' ∈ "% (".toList ++ text ++ [')'] := by simp
  have hmark : Text.isBlank ' ' ≠ false := by decide
  cases hcontinuation : rule.continuation <;> cases hcontinuation' : rule'.continuation <;>
    simp only [hcontinuation, hcontinuation', Bool.false_eq_true, if_false, if_true] at hline
  · exact ⟨rfl, h.subject.eq_of_text_eq h'.subject (String.toList_inj.1 hline)⟩
  · exact absurd (h.subject.isBlank_of_mem_text ' ' (hline ▸ hblank _)) hmark
  · exact absurd (h'.subject.isBlank_of_mem_text ' ' (hline ▸ hblank _)) hmark
  · have htext := List.append_cancel_left (List.append_cancel_right hline)
    exact ⟨rfl, h.subject.eq_of_text_eq h'.subject (String.toList_inj.1 htext)⟩

end Rule.IsLegible

/-- The rules apply to the same processes in the same way, and have the same destination. -/
structure Rule.IsLike (rule rule' : Rule) : Prop where
  continuation : rule.continuation = rule'.continuation
  subject : rule.subject = rule'.subject
  destination : rule.destination = rule'.destination

theorem Rule.IsLegible.isLike {ids : Identities} {rule rule' : Rule} (h : rule.IsLegible ids)
    (h' : rule'.IsLegible ids) (hlines : rule.listingLines = rule'.listingLines) :
    rule.IsLike rule' := by
  simp only [listingLines, List.cons.injEq, List.append_cancel_left_eq, and_true] at hlines
  obtain ⟨hfirst, -, -, hdestination, -⟩ := hlines
  obtain ⟨hcontinuation, hsubject⟩ := h.first_line_eq h' hfirst
  exact ⟨hcontinuation, hsubject, String.toList_inj.1 hdestination⟩

/-! ## Rules that are listed alike -/

namespace RuleSet

variable {ids : Identities} {rules rules' : RuleSet}

theorem newline_notMem_listingLines (h : ∀ rule ∈ rules, rule.IsLegible ids) :
    ∀ line ∈ rules.listingLines, '\n' ∉ line := by
  unfold listingLines
  split
  · exact List.forall_mem_singleton.2 (by decide)
  · intro line hline
    obtain ⟨rule, hrule, hmem⟩ := List.mem_flatMap.1 hline
    exact (h rule hrule).newline_notMem_lines line hmem

/-- Every rule takes six lines, so lines that agree agree rule by rule. -/
theorem forall₂_isLike_of_lines (h : ∀ rule ∈ rules, rule.IsLegible ids)
    (h' : ∀ rule ∈ rules', rule.IsLegible ids)
    (hlines : rules.flatMap Rule.listingLines = rules'.flatMap Rule.listingLines) :
    List.Forall₂ Rule.IsLike rules rules' := by
  induction rules generalizing rules' with
  | nil =>
    cases rules' with
    | nil => exact .nil
    | cons rule' rules' => cases hlines
  | cons rule rules ih =>
    cases rules' with
    | nil => cases hlines
    | cons rule' rules' =>
      obtain ⟨hrule, hrules⟩ := List.forall_mem_cons.1 h
      obtain ⟨hrule', hrules'⟩ := List.forall_mem_cons.1 h'
      rw [List.flatMap_cons, List.flatMap_cons] at hlines
      have hlength := rule.length_listingLines.trans rule'.length_listingLines.symm
      obtain ⟨hfirst, hrest⟩ := List.append_inj hlines hlength
      exact .cons (hrule.isLike hrule' hfirst) (ih hrules hrules' hrest)

theorem forall₂_isLike_of_listing (h : ∀ rule ∈ rules, rule.IsLegible ids)
    (h' : ∀ rule ∈ rules', rule.IsLegible ids) (hlisting : rules.listing = rules'.listing) :
    List.Forall₂ Rule.IsLike rules rules' := by
  have hlines : rules.listingLines = rules'.listingLines :=
    calc
      rules.listingLines = Text.linesAt '\n' rules.listing.toList := by
        rw [toList_listing, Text.linesAt_terminated _ _ (newline_notMem_listingLines h)]
      _ = Text.linesAt '\n' rules'.listing.toList := by rw [hlisting]
      _ = rules'.listingLines := by
        rw [toList_listing, Text.linesAt_terminated _ _ (newline_notMem_listingLines h')]
  unfold listingLines at hlines
  cases rules with
  | nil =>
    cases rules' with
    | nil => exact .nil
    | cons rule' rules' =>
      have hlength := congrArg List.length hlines
      simp [Rule.length_listingLines] at hlength
      omega
  | cons rule rules =>
    cases rules' with
    | nil =>
      have hlength := congrArg List.length hlines
      simp [Rule.length_listingLines] at hlength
      omega
    | cons rule' rules' => exact forall₂_isLike_of_lines h h' hlines

theorem forall₂_takeWhile_continuation (h : List.Forall₂ Rule.IsLike rules rules') :
    List.Forall₂ Rule.IsLike (rules.takeWhile Rule.continuation)
      (rules'.takeWhile Rule.continuation) := by
  induction h with
  | nil => exact .nil
  | @cons rule rule' rules rules' hrule hrules ih =>
    rw [List.takeWhile_cons, List.takeWhile_cons, hrule.continuation]
    split
    · exact .cons hrule ih
    · exact .nil

theorem forall₂_selection (h : List.Forall₂ Rule.IsLike rules rules') (user group : UInt32)
    (userName : Option String) :
    List.Forall₂ Rule.IsLike (rules.selection user group userName)
      (rules'.selection user group userName) := by
  induction h with
  | nil => exact .nil
  | @cons rule rule' rules rules' hrule hrules ih =>
    by_cases hopens :
        rule'.continuation = false ∧ rule'.subject.Covers user group userName
    · rw [selection_cons_of_opens user group userName rule' rules' hopens.1 hopens.2,
        selection_cons_of_opens user group userName rule rules
          (by rw [hrule.continuation, hopens.1]) (by rw [hrule.subject]; exact hopens.2)]
      exact .cons hrule (forall₂_takeWhile_continuation hrules)
    · have hnot : rule'.continuation = true ∨ ¬ rule'.subject.Covers user group userName := by
        rwa [not_and_or, Bool.not_eq_false] at hopens
      rw [selection_cons_of_not_opens user group userName rule' rules' hnot,
        selection_cons_of_not_opens user group userName rule rules
          (by rwa [hrule.continuation, hrule.subject])]
      exact ih

/-- Whatever texts they were read from, rules that are listed by the same bytes select the same
subjects and destinations in the same order. -/
theorem selection_of_listing (ids : Identities) (path path' : String) (text text' : List Char)
    (rules rules' : RuleSet) (h : (RuleSet.read ids path text).result = .ok rules)
    (h' : (RuleSet.read ids path' text').result = .ok rules')
    (hlisting : Text.encode rules.listing = Text.encode rules'.listing) (user group : UInt32)
    (userName : Option String) :
    (rules.selection user group userName).map (fun rule ↦ (rule.subject, rule.destination)) =
      (rules'.selection user group userName).map fun rule ↦ (rule.subject, rule.destination) := by
  have hlegible := (compiles_of_readRules ids path 1 none _ rules h).isLegible nofun
  have hlegible' := (compiles_of_readRules ids path' 1 none _ rules' h').isLegible nofun
  have hlike := forall₂_isLike_of_listing hlegible hlegible' (Text.encode_injective hlisting)
  have hselected := forall₂_selection hlike user group userName
  rw [← List.forall₂_eq_eq_eq, List.forall₂_map_left_iff, List.forall₂_map_right_iff]
  exact hselected.imp fun rule rule' hrule ↦ Prod.ext hrule.subject hrule.destination

/-- Texts with comments and unknown heads in other places, and with other slashes and commas. -/
theorem selection_of_listing_apart_from_lines :
    let ids : Identities := ⟨[("alice", 1000)], [⟨"staff", 50, ["bob"]⟩]⟩
    let text := "alice * a\n% cpu b\n@staff io c\n".toList
    let text' := "# home\nghost * z\n% * y\n\nalice * //a\n % ,cpu b # x\n@staff io, /c".toList
    let rules : RuleSet := [⟨.user "alice" 1000, .all, "a", false, 1⟩,
      ⟨.user "alice" 1000, .named ["cpu"], "b", true, 2⟩,
      ⟨.group "staff" 50 ["bob"], .named ["io"], "c", false, 3⟩]
    let rules' : RuleSet := [⟨.user "alice" 1000, .all, "a", false, 5⟩,
      ⟨.user "alice" 1000, .named ["cpu"], "b", true, 6⟩,
      ⟨.group "staff" 50 ["bob"], .named ["io"], "c", false, 7⟩]
    (RuleSet.read ids "one" text).result = .ok rules ∧
      (RuleSet.read ids "two" text').result = .ok rules' ∧
      Text.encode rules.listing = Text.encode rules'.listing ∧
      (rules.selection 1000 7 none).map (fun rule ↦ (rule.subject, rule.destination)) =
        (rules'.selection 1000 7 none).map fun rule ↦ (rule.subject, rule.destination) := by
  intro ids text text' rules rules'
  have hread : (RuleSet.read ids "one" text).result = .ok rules := by rfl
  have hread' : (RuleSet.read ids "two" text').result = .ok rules' := by rfl
  have hlisting : Text.encode rules.listing = Text.encode rules'.listing := by rfl
  exact ⟨hread, hread', hlisting,
    selection_of_listing ids "one" "two" text text' rules rules' hread hread' hlisting 1000 7 none⟩

end RuleSet

end Regroup
