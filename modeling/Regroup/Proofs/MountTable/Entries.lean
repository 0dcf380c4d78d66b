import Regroup.MountTable
import Regroup.Proofs.Rule.Listing
import Regroup.Proofs.Text.Fields
import Regroup.Proofs.Text.Utf8

/-!
# Entries of a mount table

A line of the table joins the fields of an entry by spaces. Before the separator any number of
fields may stand, and none of them is a dash, so the first dash between spaces is the separator,
whatever follows it. The fields of such a line are found again, and with them the type and the mount
point. A line that is no UTF-8 is passed over, but it is a line of its own, so it takes no other
with it. So the root is the mount point of the first entry of the right type that can be read.
-/

namespace Regroup.MountTable

open Text (encode encoding IsText IsWord IsLeading)

structure Mount where
  identifier : Bytes
  parent : Bytes
  device : Bytes
  root : Bytes
  point : Bytes
  options : Bytes
  optional : List Bytes
  type : Bytes
  source : Bytes
  superOptions : Bytes
deriving DecidableEq

/-- A byte string may stand for a field. Where it is a text, it holds no blank. -/
structure IsField (field : Bytes) : Prop where
  ne_nil : field ≠ []
  newline_notMem : 0x0A ∉ field
  isBlank_eq_false : ∀ text, encoding text = field → ∀ c ∈ text, Text.isBlank c = false

instance (field : Bytes) : Decidable (IsField field) :=
  decidable_of_iff
    (field ≠ [] ∧ 0x0A ∉ field ∧
      ((Text.decode? field).getD []).all fun c ↦ !Text.isBlank c) <| by
    constructor
    · rintro ⟨hne, hnewline, hblank⟩
      refine ⟨hne, hnewline, fun text htext c hc ↦ ?_⟩
      rw [(Text.decode?_eq_some_iff field text).2 htext] at hblank
      simpa using List.all_eq_true.1 hblank c hc
    · rintro ⟨hne, hnewline, hblank⟩
      refine ⟨hne, hnewline, ?_⟩
      cases hdecoded : Text.decode? field with
      | none => rfl
      | some text =>
        have htext := (Text.decode?_eq_some_iff field text).1 hdecoded
        exact List.all_eq_true.2 fun c hc ↦ by simp [hblank text htext c hc]

theorem IsField.isWord {field : Bytes} (h : IsField field) (text : List Char)
    (htext : encoding text = field) : IsWord text := by
  refine ⟨?_, h.isBlank_eq_false text htext⟩
  rintro rfl
  exact h.ne_nil htext.symm

namespace Mount

/-- The fields before the separator. -/
def leading (m : Mount) : List Bytes :=
  m.identifier :: m.parent :: m.device :: m.root :: m.point :: m.options :: m.optional

/-- The fields behind the separator. -/
def trailing (m : Mount) : List Bytes :=
  [m.type, m.source, m.superOptions]

def line (m : Mount) : Bytes :=
  [0x20].intercalate (m.leading ++ [0x2D] :: m.trailing)

/-- The entry is one of the unified hierarchy, and its line can be read. -/
def IsUnified (m : Mount) : Prop :=
  m.type = encode "cgroup2" ∧ IsText m.line

instance (m : Mount) : Decidable m.IsUnified :=
  inferInstanceAs (Decidable (_ ∧ _))

/-- Every field can be told from blanks, and those before the separator from the separator. -/
structure IsWellFormed (m : Mount) : Prop where
  leading : ∀ field ∈ m.leading, IsField field ∧ field ≠ [0x2D]
  trailing : ∀ field ∈ m.trailing, IsField field

instance (m : Mount) : Decidable m.IsWellFormed :=
  decidable_of_iff ((∀ field ∈ m.leading, IsField field ∧ field ≠ [0x2D]) ∧
    ∀ field ∈ m.trailing, IsField field) ⟨fun h ↦ ⟨h.1, h.2⟩, fun h ↦ ⟨h.1, h.2⟩⟩

/-- The line of an entry is a single one. -/
def IsOneLine (m : Mount) : Prop :=
  ∀ field ∈ m.leading ++ m.trailing, 0x0A ∉ field

theorem IsWellFormed.isOneLine {m : Mount} (h : m.IsWellFormed) : m.IsOneLine := by
  intro field hfield
  rcases List.mem_append.1 hfield with hfield | hfield
  · exact (h.leading field hfield).1.newline_notMem
  · exact (h.trailing field hfield).newline_notMem

theorem IsOneLine.newline_notMem {m : Mount} (h : m.IsOneLine) : 0x0A ∉ m.line := by
  apply Text.notMem_intercalate _ _ _ (by decide)
  intro field hfield
  rcases List.mem_append.1 hfield with hfield | hfield
  · exact h field (List.mem_append_left _ hfield)
  · rcases List.mem_cons.1 hfield with rfl | hfield
    · decide
    · exact h field (List.mem_append_right _ hfield)

theorem line_ne_nil (m : Mount) : m.line ≠ [] := by
  simp [line, leading, List.intercalate_cons_cons]

/-! ## What a line holds -/

/-- What the line of an entry contributes to the search for the root. -/
def found? (m : Mount) : Option (List Char) :=
  (Text.decode? m.line).bind unifiedMountPoint?

theorem found?_of_not_isText (m : Mount) (h : ¬IsText m.line) : m.found? = none := by
  rw [found?, (Text.decode?_eq_none_iff m.line).2 h, Option.bind_none]

theorem unifiedMountPoint?_intercalate (first next : List Char)
    (leading trailing : List (List Char))
    (hleading : ∀ text ∈ first :: leading, IsLeading text) :
    unifiedMountPoint?
        ([' '].intercalate (first :: leading ++ ['-'] :: next :: trailing)) =
      if ((next :: trailing).flatMap Text.fields).head? = some "cgroup2".toList then
        ((first :: leading).flatMap Text.fields)[4]?
      else none := by
  rw [Text.intercalate_dash, unifiedMountPoint?,
    Text.splitOnce_intercalate first leading _ hleading]
  dsimp only
  rw [Text.fields_intercalate, Text.fields_intercalate]
  rfl

/-- The fields of a line that is a text are texts, and the line is searched field by field. -/
theorem found?_of_isText (m : Mount) (h : IsText m.line)
    (hleading : ∀ text, encoding text ∈ m.leading → IsLeading text) :
    ∃ leading trailing : List (List Char), leading.map encoding = m.leading ∧
      trailing.map encoding = m.trailing ∧
      m.found? = if (trailing.flatMap Text.fields).head? = some "cgroup2".toList then
        (leading.flatMap Text.fields)[4]? else none := by
  obtain ⟨cs, hcs⟩ := h
  obtain ⟨texts, htexts, hjoined⟩ := Text.encoding_eq_intercalate cs 0x20 (by decide) _ _ hcs
  have htexts : texts.map encoding = m.leading ++ [0x2D] :: m.trailing := htexts
  obtain ⟨leading, later, rfl, hlead, hlater⟩ := List.map_eq_append_iff.1 htexts
  obtain ⟨dash, trailing, rfl, hdash, htrail⟩ := List.map_eq_cons_iff.1 hlater
  obtain ⟨first, leading, rfl, -, -⟩ := List.map_eq_cons_iff.1 hlead
  obtain ⟨next, trailing, rfl, -, -⟩ := List.map_eq_cons_iff.1 htrail
  have hdash : dash = ['-'] := Text.encoding_injective hdash
  have hseparable : ∀ text ∈ first :: leading, IsLeading text := by
    intro text htext
    apply hleading
    rw [← hlead]
    exact List.mem_map_of_mem htext
  refine ⟨first :: leading, next :: trailing, hlead, htrail, ?_⟩
  rw [found?, (Text.decode?_eq_some_iff m.line cs).2 hcs, Option.bind_some, hjoined, hdash]
  exact unifiedMountPoint?_intercalate first next leading trailing hseparable

/-- The type is the first field behind the separator. -/
theorem head?_fields_trailing (m : Mount) (trailing : List (List Char))
    (htrailing : trailing.map encoding = m.trailing) (htype : IsField m.type) :
    (trailing.flatMap Text.fields).head? = some "cgroup2".toList ↔ m.type = encode "cgroup2" := by
  obtain ⟨type, later, rfl, hencoding, -⟩ := List.map_eq_cons_iff.1 htrailing
  rw [List.flatMap_cons, (htype.isWord type hencoding).fields_eq, List.singleton_append,
    List.head?_cons, Option.some.injEq, ← hencoding]
  exact ⟨fun h ↦ by rw [h]; rfl, fun h ↦ Text.encoding_injective h⟩

theorem found?_of_other_type (m : Mount) (htype : IsField m.type)
    (hother : m.type ≠ encode "cgroup2")
    (hleading : ∀ text, encoding text ∈ m.leading → IsLeading text) : m.found? = none := by
  by_cases hline : IsText m.line
  · obtain ⟨leading, trailing, -, htrailing, hfound⟩ := m.found?_of_isText hline hleading
    rw [hfound, if_neg (mt (m.head?_fields_trailing trailing htrailing htype).1 hother)]
  · exact m.found?_of_not_isText hline

namespace IsWellFormed

variable {m : Mount}

theorem isLeading (h : m.IsWellFormed) (text : List Char) (htext : encoding text ∈ m.leading) :
    IsLeading text := by
  obtain ⟨hfield, hdash⟩ := h.leading _ htext
  constructor
  · intro hspace
    exact absurd (hfield.isBlank_eq_false text rfl ' ' hspace) (by decide)
  · rintro rfl
    exact hdash rfl

theorem isField_type (h : m.IsWellFormed) : IsField m.type :=
  h.trailing m.type List.mem_cons_self

/-- A well-formed entry contributes its mount point or nothing. -/
theorem map_found? (h : m.IsWellFormed) :
    m.found?.map encoding = if m.IsUnified then some m.point else none := by
  by_cases hline : IsText m.line
  · obtain ⟨leading, trailing, hleading, htrailing, hfound⟩ :=
      m.found?_of_isText hline h.isLeading
    have hwords : ∀ text ∈ leading, IsWord text := by
      intro text htext
      have hmem : encoding text ∈ m.leading := by
        rw [← hleading]
        exact List.mem_map_of_mem htext
      exact (h.leading _ hmem).1.isWord text rfl
    have hpoint : leading[4]?.map encoding = some m.point := by
      rw [← List.getElem?_map, hleading]
      rfl
    rw [hfound, Text.flatMap_fields_of_isWord leading hwords]
    by_cases htype : m.type = encode "cgroup2"
    · rw [if_pos ((m.head?_fields_trailing trailing htrailing h.isField_type).2 htype), hpoint,
        if_pos ⟨htype, hline⟩]
    · rw [if_neg (mt (m.head?_fields_trailing trailing htrailing h.isField_type).1 htype),
        if_neg fun hunified ↦ htype hunified.1, Option.map_none]
  · rw [m.found?_of_not_isText hline, if_neg fun hunified ↦ hline hunified.2, Option.map_none]

end IsWellFormed

end Mount

/-! ## Tables -/

/-- The text of a mount table, with a line feed at its end or without. -/
inductive IsTableOf (mounts : List Mount) : Bytes → Prop where
  | ended : IsTableOf mounts (Text.terminated 0x0A (mounts.map Mount.line))
  | unended : IsTableOf mounts ([0x0A].intercalate (mounts.map Mount.line))

theorem IsTableOf.linesAt {mounts : List Mount} {table : Bytes} (h : IsTableOf mounts table)
    (hmounts : ∀ m ∈ mounts, m.IsOneLine) : Text.linesAt 0x0A table = mounts.map Mount.line := by
  have hlines : ∀ line ∈ mounts.map Mount.line, 0x0A ∉ line ∧ line ≠ [] := by
    intro line hline
    obtain ⟨m, hm, rfl⟩ := List.mem_map.1 hline
    exact ⟨(hmounts m hm).newline_notMem, m.line_ne_nil⟩
  cases h with
  | ended => exact Text.linesAt_terminated 0x0A _ fun line hline ↦ (hlines line hline).1
  | unended => exact Text.linesAt_intercalate 0x0A _ hlines

/-- The search goes from entry to entry. -/
theorem IsTableOf.unifiedRoot?_eq {mounts : List Mount} {table : Bytes}
    (h : IsTableOf mounts table) (hmounts : ∀ m ∈ mounts, m.IsOneLine) :
    unifiedRoot? table = (mounts.findSome? Mount.found?).map String.ofList := by
  have hsearch (mounts : List Mount) :
      ((mounts.map Mount.line).filterMap Text.decode?).findSome? unifiedMountPoint? =
        mounts.findSome? Mount.found? := by
    induction mounts with
    | nil => rfl
    | cons m mounts ih =>
      rw [List.map_cons, List.filterMap_cons, List.findSome?_cons, ← ih, Mount.found?]
      cases Text.decode? m.line <;> rfl
  rw [unifiedRoot?, h.linesAt hmounts, ← hsearch]

theorem map_findSome?_found? (mounts : List Mount) (hmounts : ∀ m ∈ mounts, m.IsWellFormed) :
    (mounts.findSome? Mount.found?).map encoding =
      (mounts.find? fun m ↦ m.IsUnified).map Mount.point := by
  induction mounts with
  | nil => rfl
  | cons m mounts ih =>
    obtain ⟨hm, hlater⟩ := List.forall_mem_cons.1 hmounts
    have hfound := hm.map_found?
    rw [List.findSome?_cons, List.find?_cons]
    split at hfound
    · rename_i hunified
      obtain ⟨text, htext, hpoint⟩ := Option.map_eq_some_iff.1 hfound
      simp only [htext, hunified, decide_true, Option.map_some, hpoint]
    · rename_i hother
      rw [Option.map_eq_none_iff] at hfound
      simp only [hfound, hother, decide_false, ih hlater]

/-- In every table of well-formed entries, however many fields they have and whatever bytes these
hold, the root is the mount point of the first entry of the unified hierarchy that can be read, and
there is none just in case there is no such entry. -/
theorem unifiedRoot?_of_entries (mounts : List Mount) (table : Bytes)
    (hmounts : ∀ m ∈ mounts, m.IsWellFormed) (htable : IsTableOf mounts table) :
    (unifiedRoot? table).map encode = (mounts.find? fun m ↦ m.IsUnified).map Mount.point ∧
      ∀ tree : FileTree, tree.openForReading path = .ok (.file table) →
        (∀ m, mounts.find? (fun m ↦ m.IsUnified) = some m →
          ∃ root, detectRoot tree = .ok root ∧ encode root = m.point) ∧
        (detectRoot tree = .error .noUnifiedMount ↔ ∀ m ∈ mounts, ¬m.IsUnified) := by
  have hroot : (unifiedRoot? table).map encode =
      (mounts.find? fun m ↦ m.IsUnified).map Mount.point := by
    calc
      (unifiedRoot? table).map encode =
          ((mounts.findSome? Mount.found?).map String.ofList).map encode := by
        rw [htable.unifiedRoot?_eq fun m hm ↦ (hmounts m hm).isOneLine]
      _ = (mounts.findSome? Mount.found?).map encoding := by
        rw [Option.map_map]
        congr 1
        funext text
        exact congrArg encoding String.toList_ofList
      _ = (mounts.find? fun m ↦ m.IsUnified).map Mount.point := map_findSome?_found? mounts hmounts
  refine ⟨hroot, fun tree htree ↦ ⟨?_, ?_⟩⟩
  · intro m hm
    rw [hm, Option.map_some] at hroot
    obtain ⟨root, hfound, hpoint⟩ := Option.map_eq_some_iff.1 hroot
    exact ⟨root, by simp only [detectRoot, htree, hfound], hpoint⟩
  · have hmissing : unifiedRoot? table = none ↔ ∀ m ∈ mounts, ¬m.IsUnified := by
      rw [← Option.map_eq_none_iff (f := encode), hroot, Option.map_eq_none_iff, List.find?_eq_none]
      simp only [decide_eq_true_eq]
    rw [← hmissing]
    cases hfound : unifiedRoot? table with
    | none => simp [detectRoot, htree, hfound]
    | some root => simp [detectRoot, htree, hfound]

/-- A disk with bytes in its name that are no UTF-8, an entry of the right type with such bytes, one
of the other hierarchy that names the right type as its source, and two that can be read, of which
the first has optional fields. The last line does not end in a line feed. -/
theorem unifiedRoot?_of_entries_behind_raw_bytes :
    let mount (point type : String) : Mount :=
      ⟨encode "35", encode "24", encode "0:30", encode "/", encode point, encode "rw", [],
        encode type, encode type, encode "rw"⟩
    let mounts : List Mount :=
      [{ mount "" "ext4" with point := [0x2F, 0xFF, 0xFE] },
        { mount "/raw" "cgroup2" with source := [0x64, 0xFF] },
        { mount "/cgroup" "cgroup" with source := encode "cgroup2" },
        { mount "/sys/fs/cgroup" "cgroup2" with optional := [encode "shared:9", encode "--"] },
        mount "/later" "cgroup2"]
    let table := [0x0A].intercalate (mounts.map Mount.line)
    let tree : FileTree := {
      entries := [(["proc"], .directory), (["proc", "self"], .directory),
        (["proc", "self", "mountinfo"], .file table)]
      workingDirectory := [] }
    (∀ m ∈ mounts, m.IsWellFormed) ∧ tree.openForReading path = .ok (.file table) ∧
      detectRoot tree = .ok "/sys/fs/cgroup" := by
  intro mount mounts table tree
  have hmounts : ∀ m ∈ mounts, m.IsWellFormed := by decide +kernel
  have htree : tree.openForReading path = .ok (.file table) := by decide +kernel
  have hfirst : mounts.find? (fun m ↦ m.IsUnified) =
      some { mount "/sys/fs/cgroup" "cgroup2" with
        optional := [encode "shared:9", encode "--"] } := by
    decide +kernel
  obtain ⟨-, hdetected⟩ := unifiedRoot?_of_entries mounts table hmounts .unended
  obtain ⟨root, hroot, hpoint⟩ := (hdetected tree htree).1 _ hfirst
  exact ⟨hmounts, htree, by rw [hroot, Text.encode_injective hpoint]⟩

end Regroup.MountTable
