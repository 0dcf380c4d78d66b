import Regroup.Proofs.Result
import Regroup.Rule.Reader

/-!
# What a line of a rules text says

A line counts when something other than blanks precedes its comment. It is a head unless its first
field is `%`, and the subject of a head is the one that its first field names in the identity
databases. A rule repeats what its line says: the controllers, and the destination without leading
slashes, which never climbs.
-/

namespace Regroup

theorem Text.fields_eq_nil_iff (s : List Char) :
    fields s = [] ↔ (s.any fun c ↦ !isBlank c) = false := by
  unfold fields
  induction s with
  | nil => simp
  | cons c s ih =>
    obtain ⟨field, rest, hrest⟩ := List.exists_cons_of_ne_nil (List.splitOnP_ne_nil isBlank s)
    cases hblank : isBlank c with
    | true => simpa [List.splitOnP_cons_eq_if_modifyHead, hblank] using ih
    | false => simp [List.splitOnP_cons_eq_if_modifyHead, hblank, hrest]

/-- A line with its number. -/
abbrev NumberedLine := List Char × Nat

namespace NumberedLine

def isRule (line : NumberedLine) : Bool :=
  (Text.before '#' line.1).any fun c ↦ !Text.isBlank c

def isHead (line : NumberedLine) : Bool :=
  (ruleFields line.1).head? != some ['%']

theorem isRule_eq_false_iff (line : NumberedLine) :
    line.isRule = false ↔ ruleFields line.1 = [] :=
  (Text.fields_eq_nil_iff _).symm

theorem isRule_of_fields (line : NumberedLine) (field : List Char) (fields : List (List Char))
    (h : ruleFields line.1 = field :: fields) : line.isRule = true := by
  rw [← Bool.not_eq_false, isRule_eq_false_iff, h]
  exact List.cons_ne_nil field fields

end NumberedLine

/-- The lines of a text that count, with numbers from one. -/
def ruleLines (text : List Char) : List NumberedLine :=
  ((Text.linesAt '\n' text).zipIdx 1).filter NumberedLine.isRule

/-! ## Subjects and destinations -/

namespace Subject

/-- Whom a subject stands for. -/
def Covers (user group : UInt32) (userName : Option String) : Subject → Prop
  | .user _ number => number = user
  | .group _ number members => number = group ∨ ∃ name, userName = some name ∧ name ∈ members
  | .anyone => True

theorem appliesTo_iff (user group : UInt32) (userName : Option String) (subject : Subject) :
    subject.appliesTo user group userName = true ↔ subject.Covers user group userName := by
  cases subject with
  | user name number => simp [appliesTo, Covers]
  | group name number members => simp [appliesTo, Covers, Option.any_eq_true]
  | anyone => simp [appliesTo, Covers]

end Subject

/-- The field stands for a subject that exists. A number needs no entry in the databases, and a name
that reads as a number is one. -/
inductive Names (ids : Identities) : List Char → Subject → Prop where
  | anyone : Names ids ['*'] .anyone
  | userNumber (name : List Char) (number : UInt32) (hcolon : ':' ∉ name)
      (hstar : name ≠ ['*']) (hat : name.head? ≠ some '@')
      (hnumber : Text.readUInt32? name = some number) :
      Names ids name (.user (String.ofList name) number)
  | userName (name : List Char) (number : UInt32) (hcolon : ':' ∉ name)
      (hstar : name ≠ ['*']) (hat : name.head? ≠ some '@')
      (hname : Text.readUInt32? name = none)
      (hentry : ids.userNumber? (String.ofList name) = some number) :
      Names ids name (.user (String.ofList name) number)
  | groupNumber (name : List Char) (number : UInt32) (hcolon : ':' ∉ name) (hne : name ≠ [])
      (hnumber : Text.readUInt32? name = some number) :
      Names ids ('@' :: name) (.group (String.ofList name) number
        ((ids.groupNumbered? number).elim [] Group.members))
  | groupName (name : List Char) (group : Group) (hcolon : ':' ∉ name) (hne : name ≠ [])
      (hname : Text.readUInt32? name = none)
      (hentry : ids.groupNamed? (String.ofList name) = some group) :
      Names ids ('@' :: name) (.group (String.ofList name) group.number group.members)

theorem readUser_eq_some (ids : Identities) (name : List Char) (subject : Subject)
    (hcolon : ':' ∉ name) (hstar : name ≠ ['*']) (hat : name.head? ≠ some '@')
    (h : readUser ids name = some subject) : Names ids name subject := by
  obtain ⟨number, hnumber, rfl⟩ := Option.map_eq_some_iff.1 h
  cases hread : Text.readUInt32? name with
  | some read =>
    rw [hread, Option.some_or] at hnumber
    obtain rfl := Option.some.inj hnumber
    exact .userNumber name read hcolon hstar hat hread
  | none =>
    rw [hread, Option.none_or] at hnumber
    exact .userName name number hcolon hstar hat hread hnumber

theorem readGroup_eq_some (ids : Identities) (name : List Char) (subject : Subject)
    (hcolon : ':' ∉ name) (hne : name ≠ []) (h : readGroup ids name = some subject) :
    Names ids ('@' :: name) subject := by
  unfold readGroup at h
  split at h
  · rename_i number hnumber
    obtain rfl := Option.some.inj h
    exact .groupNumber name number hcolon hne hnumber
  · rename_i hname
    obtain ⟨group, hentry, rfl⟩ := Option.map_eq_some_iff.1 h
    exact .groupName name group hcolon hne hname hentry

theorem readSubject_user (ids : Identities) (name : List Char) (hcolon : ':' ∉ name)
    (hstar : name ≠ ['*']) (hat : name.head? ≠ some '@') :
    readSubject ids name = .ok (readUser ids name) := by
  have hcolon' : name.contains ':' = false := by simpa using hcolon
  simp only [readSubject, if_neg hstar, hcolon', Bool.false_eq_true, if_false]
  split
  · simp at hat
  · simp at hat
  · rfl

theorem readSubject_group (ids : Identities) (name : List Char) (hcolon : ':' ∉ name)
    (hne : name ≠ []) : readSubject ids ('@' :: name) = .ok (readGroup ids name) := by
  have hstar : '@' :: name ≠ ['*'] := by simp
  have hcolon' : ('@' :: name).contains ':' = false := by simpa using hcolon
  simp only [readSubject, if_neg hstar, hcolon', Bool.false_eq_true, if_false]

/-- Reading finds the subject that a field names, and none where it names none. -/
theorem readSubject_eq_some_iff (ids : Identities) (who : List Char) (subject : Subject) :
    readSubject ids who = .ok (some subject) ↔ Names ids who subject := by
  constructor
  · intro h
    by_cases hstar : who = ['*']
    · subst hstar
      rw [← Option.some.inj (Except.ok.inj h)]
      exact .anyone
    by_cases hcolon : ':' ∈ who
    · have hcolon' : who.contains ':' = true := by simpa using hcolon
      simp only [readSubject, if_neg hstar, hcolon', if_true] at h
      cases h
    by_cases hat : who.head? = some '@'
    · obtain ⟨name, rfl⟩ := List.head?_eq_some_iff.1 hat
      have hcolon' : ':' ∉ name := fun hmem ↦ hcolon (List.mem_cons_of_mem _ hmem)
      by_cases hne : name = []
      · subst hne
        cases h
      · rw [readSubject_group ids name hcolon' hne] at h
        exact readGroup_eq_some ids name subject hcolon' hne (Except.ok.inj h)
    · rw [readSubject_user ids who hcolon hstar hat] at h
      exact readUser_eq_some ids who subject hcolon hstar hat (Except.ok.inj h)
  · intro h
    cases h with
    | anyone => rfl
    | userNumber _ number hcolon hstar hat hnumber =>
      rw [readSubject_user ids who hcolon hstar hat, readUser, hnumber]
      rfl
    | userName _ number hcolon hstar hat hname hentry =>
      rw [readSubject_user ids who hcolon hstar hat, readUser, hname, hentry]
      rfl
    | groupNumber name number hcolon hne hnumber =>
      rw [readSubject_group ids name hcolon hne, readGroup, hnumber]
    | groupName name group hcolon hne hname hentry =>
      rw [readSubject_group ids name hcolon hne, readGroup, hname, hentry]
      rfl

/-- A field names one subject at most. -/
theorem Names.unique {ids : Identities} {who : List Char} {subject subject' : Subject}
    (h : Names ids who subject) (h' : Names ids who subject') : subject = subject' := by
  have hread := (readSubject_eq_some_iff ids who subject).2 h
  have hread' := (readSubject_eq_some_iff ids who subject').2 h'
  exact Option.some.inj (Except.ok.inj (hread.symm.trans hread'))

theorem readDestination_eq_ok_iff (field : List Char) (destination : String) :
    readDestination field = .ok destination ↔
      destination = String.ofList (field.dropWhile (· == '/')) ∧
        Path.climbs destination = false := by
  unfold readDestination
  dsimp only
  split
  · rename_i hclimbs
    simp only [reduceCtorEq, false_iff, not_and]
    rintro rfl
    simp [hclimbs]
  · rename_i hclimbs
    constructor
    · intro h
      obtain rfl := Except.ok.inj h
      exact ⟨rfl, by simpa using hclimbs⟩
    · rintro ⟨rfl, -⟩
      rfl

/-! ## Lines -/

/-- Everything that a line may be read as. -/
theorem readRuleLine_eq_ok (ids : Identities) (follows : Bool) (line : List Char)
    (parsed : RuleLine) (h : readRuleLine ids follows line = .ok parsed) :
    (ruleFields line = [] ∧ parsed = .blank) ∨
      ∃ who controllers field destination, ruleFields line = [who, controllers, field] ∧
        readDestination field = .ok destination ∧
        ((who = ['%'] ∧ parsed = .continuation (readControllers controllers) destination) ∨
          (who ≠ ['%'] ∧ ∃ subject, readSubject ids who = .ok subject ∧
            parsed = .head (String.ofList who) subject (readControllers controllers)
              destination)) := by
  unfold readRuleLine at h
  split at h
  · rename_i hfields
    exact .inl ⟨hfields, (Except.ok.inj h).symm⟩
  · rename_i who controllers field hfields
    obtain ⟨destination, hdestination, hrest⟩ := (bind_eq_ok_iff _ _ _).1 h
    refine .inr ⟨who, controllers, field, destination, hfields, hdestination, ?_⟩
    dsimp only at hrest
    split at hrest
    · rename_i hwho
      split at hrest
      · exact .inl ⟨hwho, (Except.ok.inj hrest).symm⟩
      · cases hrest
    · rename_i hwho
      obtain ⟨subject, hsubject, hparsed⟩ := (bind_eq_ok_iff _ _ _).1 hrest
      exact .inr ⟨hwho, subject, hsubject, (Except.ok.inj hparsed).symm⟩
  · cases h

/-- The rule says what the line says, and applies to the subject. -/
structure IsRuleOf (subject : Subject) (line : NumberedLine) (rule : Rule) : Prop where
  number : rule.line = line.2
  subject : rule.subject = subject
  fields : ∃ who controllers destination, ruleFields line.1 = [who, controllers, destination] ∧
    rule.continuation = (who == ['%']) ∧ rule.controllers = readControllers controllers ∧
    rule.destination = String.ofList (destination.dropWhile (· == '/'))
  climbs : Path.climbs rule.destination = false

namespace IsRuleOf

variable {subject : Subject} {line : NumberedLine} {rule : Rule}

theorem of_fields (subject : Subject) (number : Nat) (text who controllers field : List Char)
    (destination : String)
    (hfields : ruleFields text = [who, controllers, field])
    (hdestination : readDestination field = .ok destination) :
    IsRuleOf subject (text, number)
      ⟨subject, readControllers controllers, destination, who == ['%'], number⟩ := by
  obtain ⟨hfield, hclimbs⟩ := (readDestination_eq_ok_iff field destination).1 hdestination
  exact ⟨rfl, rfl, ⟨who, controllers, field, hfields, rfl, rfl, hfield⟩, hclimbs⟩

theorem continuation_eq (h : IsRuleOf subject line rule) : rule.continuation = !line.isHead := by
  obtain ⟨who, controllers, destination, hfields, hcontinuation, -, -⟩ := h.fields
  simp [NumberedLine.isHead, hfields, hcontinuation, bne]

theorem continuation_of_head (h : IsRuleOf subject line rule) (hline : line.isHead = true) :
    rule.continuation = false := by
  rw [h.continuation_eq, hline]
  rfl

theorem continuation_of_not_head (h : IsRuleOf subject line rule) (hline : line.isHead = false) :
    rule.continuation = true := by
  rw [h.continuation_eq, hline]
  rfl

/-- Joining the destination to a path goes below that path. -/
theorem isAbsolute_destination (h : IsRuleOf subject line rule) :
    Path.isAbsolute rule.destination = false := by
  obtain ⟨who, controllers, destination, -, -, -, hdestination⟩ := h.fields
  have hhead := List.head?_dropWhile_not (· == '/') destination
  rw [hdestination, Path.isAbsolute, String.toList_ofList]
  cases hfirst : (destination.dropWhile (· == '/')).head? with
  | none => rfl
  | some first =>
    rw [hfirst] at hhead
    simpa using hhead

end IsRuleOf

end Regroup
