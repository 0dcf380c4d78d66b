import Regroup.Proofs.Daemon.Run
import Regroup.Proofs.Pipeline.Records

/-!
# What the log receives

Whatever the controller writes to its log it journals at the same time, so the log receives the
texts of the journal one after the other: listings of the rules, and the lines of the records that
pass the filter. What happens to a machine is told here as a sequence of deeds, each of which either
journals an effect and writes its text or changes files, so it is settled by the deeds what every
outlet holds in the end. The changes of files are kept track of, and of the effects the listings and
the changes of phase.
-/

namespace Regroup.Daemon

open Log (Filter FromOthers Record)

/-! ## Effects -/

namespace Phase

/-- The record that a change of phase leaves. -/
def changeRecord (before after : Phase) : Record :=
  Controller.controllerRecord .debug s!"Daemon {before.name} -> {after.name}"

def pairs : List (Phase × Phase) :=
  all.flatMap fun before ↦ all.map fun after ↦ (before, after)

theorem mem_pairs (before after : Phase) : (before, after) ∈ pairs := by
  cases before <;> cases after <;> decide

end Phase

/-- How the rules are listed under a generation. -/
def listingText (generation : Nat) (listing : String) : String :=
  s!"Rules (generation {generation}):\n{listing}\n"

namespace Effect

/-- The generation and the text of a listing. -/
def listing? : Effect → Option (Nat × String)
  | listed generation listing => some (generation, listing)
  | called _ _ | logged _ | handled _ | flushed | closed => none

/-- The phases before and after a change. -/
def change? : Effect → Option (Phase × Phase)
  | logged record => Phase.pairs.find? fun pair ↦ record = Phase.changeRecord pair.1 pair.2
  | called _ _ | listed _ _ | handled _ | flushed | closed => none

/-- What the log receives. -/
def text? (filter : Filter) : Effect → Option String
  | logged record => if filter.passes record then some record.line else none
  | listed _ listing => some listing
  | called _ _ | handled _ | flushed | closed => none

theorem change?_changeRecord (before after : Phase) :
    (logged (Phase.changeRecord before after)).change? = some (before, after) := by
  cases before <;> cases after <;> decide +kernel

end Effect

/-- The record is not that of a change of phase. -/
def IsQuiet (record : Record) : Prop :=
  (Effect.logged record).change? = none

theorem isQuiet_iff (record : Record) :
    IsQuiet record ↔ ∀ before after, record ≠ Phase.changeRecord before after := by
  simp only [IsQuiet, Effect.change?, List.find?_eq_none, decide_eq_true_eq]
  exact ⟨fun h before after ↦ h (before, after) (Phase.mem_pairs before after),
    fun h pair _ ↦ h pair.1 pair.2⟩

theorem isQuiet_of_target (record : Record) (h : record.target ≠ .controller) :
    IsQuiet record := by
  rw [isQuiet_iff]
  rintro before after rfl
  exact h rfl

theorem isQuiet_of_fromOthers (records : List Record) (h : FromOthers records) :
    ∀ record ∈ records, IsQuiet record :=
  fun record hrecord ↦ isQuiet_of_target record (h record hrecord)

theorem isQuiet_of_level (record : Record) (h : record.level ≠ .debug) : IsQuiet record := by
  rw [isQuiet_iff]
  rintro before after rfl
  exact h rfl

theorem isQuiet_of_head (record : Record) (h : record.message.toList.head? ≠ some 'D') :
    IsQuiet record := by
  rw [isQuiet_iff]
  rintro before after rfl
  apply h
  simp only [Phase.changeRecord, Controller.controllerRecord, String.toList_append,
    List.head?_append]
  rfl

/-! ## Deeds -/

inductive Deed where
  | emit (effect : Effect)
  | alter (tree : FileTree)

namespace Deed

def effect? : Deed → Option Effect
  | emit effect => some effect
  | alter _ => none

def tree? : Deed → Option FileTree
  | emit _ => none
  | alter tree => some tree

def listing? (deed : Deed) : Option (Nat × String) :=
  deed.effect?.bind Effect.listing?

def change? (deed : Deed) : Option (Phase × Phase) :=
  deed.effect?.bind Effect.change?

end Deed

namespace Machine

/-- Journals an effect and writes its text to the log. -/
def emit (m : Machine) (effect : Effect) : Machine :=
  match effect.text? m.filter with
  | some text => (m.note effect).write text
  | none => m.note effect

def perform (m : Machine) : Deed → Machine
  | .emit effect => m.emit effect
  | .alter tree => m.withTree tree

theorem log_eq_emit (m : Machine) (record : Record) : m.log record = m.emit (.logged record) := by
  unfold log emit Effect.text?
  dsimp only [note]
  split <;> rfl

theorem logAll_append (m : Machine) (records later : List Record) :
    m.logAll (records ++ later) = (m.logAll records).logAll later :=
  List.foldl_append

/-- The later machine has come about by deeds. Apart from what is written to the log, the files have
been changed to just these trees, and just these listings and changes of phase are among the
effects. -/
def Tells (m : Machine) (trees : List FileTree) (listings : List (Nat × String))
    (changes : List (Phase × Phase)) (m' : Machine) : Prop :=
  ∃ deeds : List Deed, m' = deeds.foldl perform m ∧ deeds.filterMap Deed.tree? = trees ∧
    deeds.filterMap Deed.listing? = listings ∧ deeds.filterMap Deed.change? = changes

/-- The journal has grown by effects, of which just these are listings and changes of phase. -/
def Journals (m : Machine) (listings : List (Nat × String)) (changes : List (Phase × Phase))
    (m' : Machine) : Prop :=
  ∃ effects : List Effect, m'.journal = m.journal ++ effects ∧
    effects.filterMap Effect.listing? = listings ∧ effects.filterMap Effect.change? = changes

namespace Tells

variable {m m' m'' : Machine} {trees trees' : List FileTree}
variable {listings listings' : List (Nat × String)} {changes changes' : List (Phase × Phase)}

theorem refl (m : Machine) : m.Tells [] [] [] m :=
  ⟨[], rfl, rfl, rfl, rfl⟩

theorem trans (h : m.Tells trees listings changes m')
    (h' : m'.Tells trees' listings' changes' m'') :
    m.Tells (trees ++ trees') (listings ++ listings') (changes ++ changes') m'' := by
  obtain ⟨deeds, rfl, rfl, rfl, rfl⟩ := h
  obtain ⟨deeds', rfl, rfl, rfl, rfl⟩ := h'
  exact ⟨deeds ++ deeds', List.foldl_append.symm, List.filterMap_append, List.filterMap_append,
    List.filterMap_append⟩

/-- What is neither a change of files nor a listing nor a change of phase goes without mention. -/
theorem quietly (h : m.Tells trees listings changes m') (h' : m'.Tells [] [] [] m'') :
    m.Tells trees listings changes m'' := by
  have htells := h.trans h'
  rwa [List.append_nil, List.append_nil, List.append_nil] at htells

theorem withTree (h : m.Tells trees listings changes m') (tree : FileTree) :
    m.Tells (trees ++ [tree]) listings changes (m'.withTree tree) := by
  have haltered : m'.Tells [tree] [] [] (m'.withTree tree) := ⟨[.alter tree], rfl, rfl, rfl, rfl⟩
  simpa using h.trans haltered

theorem note (h : m.Tells trees listings changes m') (effect : Effect)
    (htext : effect.text? m'.filter = none) (hlisting : effect.listing? = none)
    (hchange : effect.change? = none) : m.Tells trees listings changes (m'.note effect) := by
  refine h.quietly ⟨[.emit effect], ?_, rfl, ?_, ?_⟩
  · simp only [List.foldl_cons, List.foldl_nil, perform, emit, htext]
  · simp [Deed.listing?, Deed.effect?, hlisting]
  · simp [Deed.change?, Deed.effect?, hchange]

theorem flush (h : m.Tells trees listings changes m') :
    m.Tells trees listings changes m'.flush :=
  h.note .flushed rfl rfl rfl

theorem log (h : m.Tells trees listings changes m') (record : Record) (hrecord : IsQuiet record) :
    m.Tells trees listings changes (m'.log record) := by
  refine h.quietly ⟨[.emit (.logged record)], m'.log_eq_emit record, rfl, rfl, ?_⟩
  unfold IsQuiet at hrecord
  simp [Deed.change?, Deed.effect?, hrecord]

theorem logAll (h : m.Tells trees listings changes m') (records : List Record)
    (hrecords : ∀ record ∈ records, IsQuiet record) :
    m.Tells trees listings changes (m'.logAll records) := by
  induction records generalizing m' with
  | nil => exact h
  | cons record records ih =>
    obtain ⟨hrecord, hrest⟩ := List.forall_mem_cons.1 hrecords
    exact ih (h.log record hrecord) hrest

theorem list (h : m.Tells trees listings changes m') (generation : Nat) (listing : String) :
    m.Tells trees (listings ++ [(generation, listing)]) changes (m'.list generation listing) := by
  have hlisted : m'.Tells [] [(generation, listing)] [] (m'.list generation listing) :=
    ⟨[.emit (.listed generation listing)], rfl, rfl, rfl, rfl⟩
  simpa using h.trans hlisted

theorem change (h : m.Tells trees listings changes m') (before after : Phase) :
    m.Tells trees listings (changes ++ [(before, after)])
      (m'.log (Phase.changeRecord before after)) := by
  have hchanged : m'.Tells [] [] [(before, after)] (m'.log (Phase.changeRecord before after)) := by
    refine ⟨[.emit (.logged (Phase.changeRecord before after))], m'.log_eq_emit _, rfl, rfl, ?_⟩
    simp [Deed.change?, Deed.effect?, Effect.change?_changeRecord]
  simpa using h.trans hchanged

/-- A call that changes nothing about the machine only shows in the journal. -/
theorem call (h : m.Tells trees listings changes m') (c : SystemCall)
    (hplain : ∀ m : Machine, m.afterSuccess c = m) :
    m.Tells trees listings changes (m'.call c).2 := by
  have hcall : (m'.call c).2 = m'.note (.called c (m'.call c).1) := by
    simp only [Machine.call, hplain, ite_self]
  rw [hcall]
  exact h.note _ rfl rfl rfl

end Tells

theorem journal_foldl_perform (m : Machine) (deeds : List Deed) :
    (deeds.foldl perform m).journal = m.journal ++ deeds.filterMap Deed.effect? := by
  induction deeds generalizing m with
  | nil => exact (List.append_nil _).symm
  | cons deed deeds ih =>
    rw [List.foldl_cons, ih]
    cases deed with
    | emit effect =>
      have hemit : (m.emit effect).journal = m.journal ++ [effect] := by
        unfold emit
        split <;> rfl
      simp [perform, hemit, Deed.effect?]
    | alter tree => rfl

/-- What the log is told the journal shows. -/
theorem Tells.journals {m m' : Machine} {trees : List FileTree} {listings : List (Nat × String)}
    {changes : List (Phase × Phase)} (h : m.Tells trees listings changes m') :
    m.Journals listings changes m' := by
  obtain ⟨deeds, rfl, -, hlistings, hchanges⟩ := h
  refine ⟨deeds.filterMap Deed.effect?, m.journal_foldl_perform deeds, ?_, ?_⟩
  · rw [List.filterMap_filterMap]
    exact hlistings
  · rw [List.filterMap_filterMap]
    exact hchanges

namespace Journals

variable {m m' m'' : Machine} {listings listings' : List (Nat × String)}
variable {changes changes' : List (Phase × Phase)}

theorem of_eq (h : m'.journal = m.journal) : m.Journals [] [] m' :=
  ⟨[], by rw [h, List.append_nil], rfl, rfl⟩

theorem trans (h : m.Journals listings changes m') (h' : m'.Journals listings' changes' m'') :
    m.Journals (listings ++ listings') (changes ++ changes') m'' := by
  obtain ⟨effects, hjournal, rfl, rfl⟩ := h
  obtain ⟨effects', hjournal', rfl, rfl⟩ := h'
  refine ⟨effects ++ effects', ?_, List.filterMap_append, List.filterMap_append⟩
  rw [hjournal', hjournal, List.append_assoc]

end Journals

end Machine

end Regroup.Daemon
