import Regroup.Proofs.MountTable.Entries

/-!
# Escaped mount points

In the table a mount point is rendered with its spaces, tabs, line feeds and backslashes replaced by
their octal numbers behind a backslash, so that no path takes its line apart. The search for the
root takes the fifth field as it stands: it does not undo the escapes, and it ends the field at the
first blank, although blanks other than these three stay as they are in the table. So the root is
the path of the mount just in case the path holds neither a blank nor a backslash.
-/

namespace Regroup.MountTable

open Text (encode encoding IsText IsWord IsLeading isBlank)

def octalDigits (n : Nat) : List Nat :=
  [n / 64 % 8, n / 8 % 8, n % 8]

def escapeByte (b : UInt8) : Bytes :=
  if b ∈ [0x20, 0x09, 0x0A, 0x5C] then
    0x5C :: (octalDigits b.toNat).map fun digit ↦ UInt8.ofNat (0x30 + digit)
  else [b]

/-- A path as the table shows it. -/
def escape (path : Bytes) : Bytes :=
  path.flatMap escapeByte

theorem notMem_escapeByte (b : UInt8) : 0x20 ∉ escapeByte b ∧ 0x0A ∉ escapeByte b := by
  unfold escapeByte
  split
  case isTrue hspecial =>
    simp only [List.mem_cons, List.not_mem_nil, or_false] at hspecial
    rcases hspecial with rfl | rfl | rfl | rfl <;> decide
  case isFalse hplain =>
    simp only [List.mem_cons, List.not_mem_nil, or_false, not_or] at hplain
    obtain ⟨hspace, -, hnewline, -⟩ := hplain
    simp [Ne.symm hspace, Ne.symm hnewline]

theorem space_notMem_escape (path : Bytes) : 0x20 ∉ escape path := by
  intro hspace
  obtain ⟨b, -, hb⟩ := List.mem_flatMap.1 hspace
  exact (notMem_escapeByte b).1 hb

theorem newline_notMem_escape (path : Bytes) : 0x0A ∉ escape path := by
  intro hnewline
  obtain ⟨b, -, hb⟩ := List.mem_flatMap.1 hnewline
  exact (notMem_escapeByte b).2 hb

/-! ## Rendered texts -/

def escapeChar (c : Char) : List Char :=
  if c ∈ [' ', '\t', '\n', '\\'] then
    '\\' :: (octalDigits c.toNat).map fun digit ↦ Char.ofNat (0x30 + digit)
  else [c]

def escapeText (cs : List Char) : List Char :=
  cs.flatMap escapeChar

theorem encoding_escapeChar (c : Char) :
    encoding (escapeChar c) = escape (String.utf8EncodeChar c) := by
  by_cases hspecial : c ∈ [' ', '\t', '\n', '\\']
  · simp only [List.mem_cons, List.not_mem_nil, or_false] at hspecial
    rcases hspecial with rfl | rfl | rfl | rfl <;> decide
  · have hplain : ∀ b ∈ String.utf8EncodeChar c, escapeByte b = [b] := by
      intro b hb
      apply if_neg
      intro hbyte
      apply hspecial
      simp only [List.mem_cons, List.not_mem_nil, or_false] at hbyte
      have hascii : b.toNat < 0x80 := by
        rcases hbyte with rfl | rfl | rfl | rfl <;> decide
      rw [(Text.utf8EncodeChar_of_mem c b hascii hb).2]
      rcases hbyte with rfl | rfl | rfl | rfl <;> decide
    rw [escapeChar, if_neg hspecial, escape, Text.flatMap_eq_self escapeByte _ hplain,
      Text.encoding_cons]
    exact List.append_nil _

/-- The table shows a path that is a text as the text with its escapes. -/
theorem encoding_escapeText (cs : List Char) : encoding (escapeText cs) = escape (encoding cs) := by
  induction cs with
  | nil => rfl
  | cons c cs ih =>
    rw [escapeText, List.flatMap_cons, ← escapeText, Text.encoding_append, encoding_escapeChar, ih,
      Text.encoding_cons, escape, escape, escape, List.flatMap_append]

theorem length_le_length_escapeText (cs : List Char) : cs.length ≤ (escapeText cs).length := by
  induction cs with
  | nil => exact Nat.le_refl _
  | cons c cs ih =>
    have hc : 1 ≤ (escapeChar c).length := by
      unfold escapeChar
      split <;> simp
    rw [escapeText, List.flatMap_cons, List.length_append, ← escapeText, List.length_cons]
    omega

theorem escapeChar_of_plain (c : Char) (hblank : isBlank c = false) (hbackslash : c ≠ '\\') :
    escapeChar c = [c] := by
  apply if_neg
  simp only [List.mem_cons, List.not_mem_nil, or_false, not_or]
  refine ⟨?_, ?_, ?_, hbackslash⟩
  all_goals
    rintro rfl
    exact absurd hblank (by decide)

/-- A text in which a backslash is rendered has grown. -/
theorem escapeText_ne_of_backslash (cs : List Char) (h : '\\' ∈ cs) : escapeText cs ≠ cs := by
  obtain ⟨before, after, rfl⟩ := List.append_of_mem h
  intro hsame
  have hlength := congrArg List.length hsame
  have hbefore := length_le_length_escapeText before
  have hafter := length_le_length_escapeText after
  have hbackslash : (escapeChar '\\').length = 4 := by decide
  rw [escapeText, List.flatMap_append, List.flatMap_cons, ← escapeText, ← escapeText] at hlength
  simp only [List.length_append, List.length_cons] at hlength
  omega

/-- What is left of a rendered text up to its first blank is the text just in case there is nothing
to render and no blank. -/
theorem takeWhile_escapeText_eq_iff (cs : List Char) :
    ((escapeText cs).takeWhile fun c ↦ !isBlank c) = cs ↔
      ∀ c ∈ cs, isBlank c = false ∧ c ≠ '\\' := by
  constructor
  · intro h
    have hblank : ∀ c ∈ cs, isBlank c = false := by
      intro c hc
      rw [← h] at hc
      simpa using List.mem_takeWhile_imp hc
    have hrendered : ∀ c ∈ escapeText cs, isBlank c = false := by
      intro c hc
      obtain ⟨d, hd, hc⟩ := List.mem_flatMap.1 hc
      by_cases hbackslash : d = '\\'
      · have hescape : escapeChar '\\' = ['\\', '1', '3', '4'] := by decide
        have hdigits : (['\\', '1', '3', '4'].all fun c ↦ !isBlank c) = true := by decide
        rw [hbackslash, hescape] at hc
        simpa using List.all_eq_true.1 hdigits c hc
      · rw [escapeChar_of_plain d (hblank d hd) hbackslash, List.mem_singleton] at hc
        rw [hc, hblank d hd]
    have hwhole := Text.takeWhile_not_isBlank (escapeText cs) hrendered
    intro c hc
    refine ⟨hblank c hc, ?_⟩
    rintro rfl
    exact escapeText_ne_of_backslash cs hc (hwhole.symm.trans h)
  · intro h
    have hescape : escapeText cs = cs := by
      apply Text.flatMap_eq_self
      intro c hc
      exact escapeChar_of_plain c (h c hc).1 (h c hc).2
    rw [hescape, Text.takeWhile_not_isBlank cs fun c hc ↦ (h c hc).1]

/-! ## Entries with rendered mount points -/

namespace Mount

/-- The entry as the table shows it, where it is given with the path that it is mounted at. -/
def rendered (m : Mount) : Mount :=
  { m with point := escape m.point }

/-- The entry is mounted at an absolute path, and its other fields are in order. -/
structure IsMounted (m : Mount) : Prop where
  absolute : m.point.head? = some 0x2F
  others : { m with point := [0x2F] }.IsWellFormed

instance (m : Mount) : Decidable m.IsMounted :=
  decidable_of_iff (m.point.head? = some 0x2F ∧ { m with point := [0x2F] }.IsWellFormed)
    ⟨fun h ↦ ⟨h.1, h.2⟩, fun h ↦ ⟨h.1, h.2⟩⟩

namespace IsMounted

variable {m : Mount}

theorem mem_leading_rendered (field : Bytes) (h : field ∈ m.rendered.leading) :
    field = escape m.point ∨ field ∈ { m with point := [0x2F] }.leading := by
  simp only [rendered, leading, List.mem_cons] at h ⊢
  tauto

theorem isOneLine (h : m.IsMounted) : m.rendered.IsOneLine := by
  intro field hfield
  rcases List.mem_append.1 hfield with hfield | hfield
  · rcases mem_leading_rendered field hfield with rfl | hother
    · exact newline_notMem_escape m.point
    · exact (h.others.leading field hother).1.newline_notMem
  · exact (h.others.trailing field hfield).newline_notMem

theorem isLeading (h : m.IsMounted) (text : List Char)
    (htext : encoding text ∈ m.rendered.leading) : IsLeading text := by
  rcases mem_leading_rendered _ htext with hpoint | hother
  · constructor
    · intro hspace
      have hbyte : 0x20 ∈ encoding text := List.mem_flatMap.2 ⟨' ', hspace, by decide⟩
      rw [hpoint] at hbyte
      exact space_notMem_escape m.point hbyte
    · rintro rfl
      obtain ⟨rest, hrest⟩ := List.head?_eq_some_iff.1 h.absolute
      rw [hrest] at hpoint
      cases hpoint
  · exact h.others.isLeading text hother

theorem isField_type (h : m.IsMounted) : IsField m.type :=
  h.others.isField_type

/-- An absolute path that is a text starts with a slash. -/
theorem exists_text (h : m.IsMounted) (p : String) (hpoint : m.point = encode p) :
    ∃ path, p.toList = '/' :: path := by
  obtain ⟨rest, hrest⟩ := List.head?_eq_some_iff.1 h.absolute
  obtain ⟨before, after, hp, hbefore, -⟩ :=
    Text.encoding_eq_append_cons p.toList 0x2F (by decide) [] rest (hpoint.symm.trans hrest)
  obtain rfl : before = [] := Text.encoding_injective hbefore
  exact ⟨after, hp⟩

/-- What is found on the line of an entry of the unified hierarchy: the rendered path up to its
first blank. -/
theorem found?_rendered (h : m.IsMounted) (p : String) (hpoint : m.point = encode p)
    (htype : m.type = encode "cgroup2") (hline : IsText m.rendered.line) :
    m.rendered.found? = some ((escapeText p.toList).takeWhile fun c ↦ !isBlank c) := by
  obtain ⟨texts, trailing, hleading, htrailing, hfound⟩ :=
    m.rendered.found?_of_isText hline h.isLeading
  rw [hfound, if_pos ((m.rendered.head?_fields_trailing trailing htrailing h.isField_type).2 htype)]
  have hfields : texts.map encoding = [m.identifier, m.parent, m.device, m.root] ++
      escape m.point :: m.options :: m.optional := hleading
  obtain ⟨words, later, rfl, hwords, hlater⟩ := List.map_eq_append_iff.1 hfields
  obtain ⟨text, later, rfl, htext, -⟩ := List.map_eq_cons_iff.1 hlater
  have hplain : ∀ word ∈ words, IsWord word := by
    intro word hword
    have hmem : encoding word ∈ [m.identifier, m.parent, m.device, m.root] := by
      rw [← hwords]
      exact List.mem_map_of_mem hword
    have hother : encoding word ∈ { m with point := [0x2F] }.leading :=
      List.mem_append_left _ hmem
    exact (h.others.leading _ hother).1.isWord word rfl
  have hcount : words.length = 4 := by simpa using congrArg List.length hwords
  have htext : text = escapeText p.toList := by
    apply Text.encoding_injective
    rw [htext, hpoint, encoding_escapeText]
    rfl
  obtain ⟨path, hpath⟩ := h.exists_text p hpoint
  have hhead : (Text.fields text).head? =
      some ((escapeText p.toList).takeWhile fun c ↦ !isBlank c) := by
    rw [htext, hpath]
    exact Text.head?_fields_cons '/' (escapeText path) (by decide)
  rw [← hcount]
  exact Text.getElem?_flatMap_fields words text later _ hplain hhead

end IsMounted

end Mount

/-- In a table with one entry of the unified hierarchy, which can be read, the root is the path
that the table shows, up to its first blank. It is the path that the entry is mounted at just in
case that path holds no blank and no backslash. -/
theorem unifiedRoot?_of_rendered (before after : List Mount) (m : Mount) (p : String)
    (table : Bytes) (hmounts : ∀ m' ∈ before ++ m :: after, m'.IsMounted)
    (hothers : ∀ m' ∈ before ++ after, m'.type ≠ encode "cgroup2")
    (htype : m.type = encode "cgroup2") (hpoint : m.point = encode p)
    (hline : IsText m.rendered.line)
    (htable : IsTableOf ((before ++ m :: after).map Mount.rendered) table) :
    unifiedRoot? table =
        some (String.ofList ((escapeText p.toList).takeWhile fun c ↦ !isBlank c)) ∧
      (unifiedRoot? table = some p ↔ ∀ c ∈ p.toList, isBlank c = false ∧ c ≠ '\\') := by
  have hlines : ∀ m' ∈ (before ++ m :: after).map Mount.rendered, m'.IsOneLine := by
    intro m' hm'
    obtain ⟨mount, hmount, rfl⟩ := List.mem_map.1 hm'
    exact (hmounts mount hmount).isOneLine
  have hm : m.IsMounted := hmounts m (by simp)
  have hbefore : (before.map Mount.rendered).findSome? Mount.found? = none := by
    rw [List.findSome?_eq_none_iff]
    intro m' hm'
    obtain ⟨mount, hmount, rfl⟩ := List.mem_map.1 hm'
    have hmounted : mount.IsMounted := hmounts mount (List.mem_append_left _ hmount)
    exact mount.rendered.found?_of_other_type hmounted.isField_type
      (hothers mount (List.mem_append_left _ hmount)) hmounted.isLeading
  have hroot : unifiedRoot? table =
      some (String.ofList ((escapeText p.toList).takeWhile fun c ↦ !isBlank c)) := by
    rw [htable.unifiedRoot?_eq hlines, List.map_append, List.map_cons, List.findSome?_append,
      hbefore, Option.none_or, List.findSome?_cons, hm.found?_rendered p hpoint htype hline]
    rfl
  refine ⟨hroot, ?_⟩
  rw [hroot, Option.some.injEq, ← takeWhile_escapeText_eq_iff]
  constructor
  · intro h
    have htext := congrArg String.toList h
    rwa [String.toList_ofList] at htext
  · intro h
    rw [h, String.ofList_toList]

/-- A root behind a mount point with a space, one with a blank that is not escaped, and one with
bytes that are no UTF-8. -/
theorem unifiedRoot?_of_rendered_behind_escaped :
    let mount (point type : String) : Mount :=
      ⟨encode "35", encode "24", encode "0:30", encode "/", encode point, encode "rw",
        [encode "shared:9"], encode type, encode type, encode "rw"⟩
    let before : List Mount :=
      [mount "/mnt/ - cgroup2 " "tmpfs", mount "/mnt/a\u2003b" "ext4",
        { mount "" "ext4" with point := [0x2F, 0xFF, 0x0A] }]
    let m := mount "/sys/fs/cgroup" "cgroup2"
    let table := Text.terminated 0x0A ((before ++ [m]).map Mount.rendered |>.map Mount.line)
    (∀ m' ∈ before ++ [m], m'.IsMounted) ∧ IsText m.rendered.line ∧
      unifiedRoot? table = some "/sys/fs/cgroup" := by
  intro mount before m table
  have hmounts : ∀ m' ∈ before ++ [m], m'.IsMounted := by decide +kernel
  have hline : IsText m.rendered.line := by decide +kernel
  have hroot := unifiedRoot?_of_rendered before [] m "/sys/fs/cgroup" table hmounts
    (by decide +kernel) rfl rfl hline .ended
  have hplain : ("/sys/fs/cgroup".toList.all fun c ↦ !isBlank c && c != '\\') = true := by decide
  refine ⟨hmounts, hline, hroot.2.2 fun c hc ↦ ?_⟩
  simpa using List.all_eq_true.1 hplain c hc

/-- A mount point with a space is not undone, and one with another blank is cut short there. -/
theorem unifiedRoot?_ne_mount_point :
    let mount (point : String) : Mount :=
      ⟨encode "35", encode "24", encode "0:30", encode "/", encode point, encode "rw", [],
        encode "cgroup2", encode "cgroup2", encode "rw"⟩
    let table (point : String) := Text.terminated 0x0A [(mount point).rendered.line]
    (∀ point ∈ ["/mnt/a b", "/mnt/a\u00A0b"], (mount point).IsMounted ∧
      IsText (mount point).rendered.line ∧ unifiedRoot? (table point) ≠ some point) ∧
      table "/mnt/a b" = encode "35 24 0:30 / /mnt/a\\040b rw - cgroup2 cgroup2 rw\n" ∧
      unifiedRoot? (table "/mnt/a b") = some "/mnt/a\\040b" ∧
      unifiedRoot? (table "/mnt/a\u00A0b") = some "/mnt/a" := by
  decide +kernel

end Regroup.MountTable
