import Regroup.FileTree
import Regroup.Proofs.Result

/-!
# Paths that are joined and files that are overwritten

A joined path is followed by following its base and then what was joined to it. So a path below a
directory leads to a location below that directory, as long as nothing in it climbs, and its last
component is the last component of the location.

Overwriting changes the content of one file. The shape of a tree, which is all that paths are
followed by, stays what it was. Appending to a file leaves what it holds before what is added, and a
file that is not there is made by opening it.
-/

namespace Regroup

namespace Path

theorem pieces_append_slash (stem path : String) :
    pieces (stem ++ "/" ++ path) = pieces stem ++ pieces path := by
  simp only [pieces, String.toList_append]
  rw [List.append_assoc, show "/".toList = ['/'] from rfl, List.singleton_append,
    List.splitOn_append_cons_self, List.map_append]

theorem pieces_of_no_slash (name : String) (h : '/' ∉ name.toList) : pieces name = [name] := by
  simp [pieces, List.splitOn_eq_singleton h]

theorem isAbsolute_append (base path : String) (hbase : base ≠ "") :
    isAbsolute (base ++ path) = isAbsolute base := by
  have hne : base.toList ≠ [] := by simpa using hbase
  obtain ⟨c, cs, hcs⟩ := List.exists_cons_of_ne_nil hne
  simp [isAbsolute, hcs]

/-- A base may end in the slash that joining needs; `stem` is the base without it. -/
theorem join_eq (base path : String) (hbase : base ≠ "") (hpath : isAbsolute path = false) :
    ∃ stem, (base = stem ∨ base = stem ++ "/") ∧ join base path = stem ++ "/" ++ path := by
  simp only [join, hpath, Bool.false_eq_true, if_false]
  cases hlast : base.toList.getLast? with
  | none =>
    rw [List.getLast?_eq_none_iff, String.toList_eq_nil_iff] at hlast
    exact absurd hlast hbase
  | some last =>
    by_cases hslash : last = '/'
    · obtain ⟨front, hfront⟩ := List.getLast?_eq_some_iff.1 hlast
      have hstem : base = String.ofList front ++ "/" := by
        rw [← String.toList_inj, hfront, hslash, String.toList_append, String.toList_ofList]
        rfl
      refine ⟨String.ofList front, .inr hstem, ?_⟩
      simp only [hslash, if_true]
      rw [← hstem]
    · exact ⟨base, .inl rfl, by simp only [hslash, if_false]⟩

theorem isAbsolute_of_no_slash (name : String) (h : '/' ∉ name.toList) :
    isAbsolute name = false := by
  cases hname : name.toList with
  | nil => simp [isAbsolute, hname]
  | cons c cs =>
    have hc : c ≠ '/' := by
      rintro rfl
      simp [hname] at h
    simp [isAbsolute, hname, hc]

theorem join_empty (path : String) : join "" path = path := by
  unfold join
  split <;> rfl

/-- Joining a single component adds it behind everything else. -/
theorem pieces_join_name (base name : String) (h : '/' ∉ name.toList) :
    ∃ front, pieces (join base name) = front ++ [name] := by
  by_cases hbase : base = ""
  · subst hbase
    exact ⟨[], by rw [join_empty, pieces_of_no_slash name h, List.nil_append]⟩
  · obtain ⟨stem, -, hjoin⟩ := join_eq base name hbase (isAbsolute_of_no_slash name h)
    exact ⟨pieces stem, by rw [hjoin, pieces_append_slash, pieces_of_no_slash name h]⟩

end Path

namespace FileTree

theorem walk_append (t : FileTree) (location : Location) (names more : List String) :
    t.walk location (names ++ more) = t.walk location names >>= fun l ↦ t.walk l more := by
  induction names generalizing location with
  | nil => rfl
  | cons name names ih =>
    simp only [List.cons_append, walk]
    cases t.entry? location with
    | none => rfl
    | some entry =>
      cases entry with
      | file => rfl
      | directory =>
        dsimp only
        split
        · exact ih location
        split
        · exact ih location.dropLast
        split
        · rfl
        split
        · rfl
        · exact ih (location ++ [name])

/-- Whether a component leads to an entry of the directory it is followed from. -/
def IsName (name : String) : Prop :=
  name ≠ "" ∧ name ≠ "." ∧ name ≠ ".."

instance (name : String) : Decidable (IsName name) :=
  inferInstanceAs (Decidable (_ ∧ _ ∧ _))

theorem walk_name (t : FileTree) (location reached : Location) (name : String) (h : IsName name)
    (hwalk : t.walk location [name] = .ok reached) : reached = location ++ [name] := by
  obtain ⟨hempty, hdot, hup⟩ := h
  simp only [walk] at hwalk
  split at hwalk
  · cases hwalk
  · cases hwalk
  · simp only [hempty, hdot, hup, decide_false, Bool.or_self, Bool.false_eq_true, if_false]
      at hwalk
    split at hwalk
    · cases hwalk
    split at hwalk
    · cases hwalk
    · exact (Except.ok.inj hwalk).symm

theorem walk_empty (t : FileTree) (location reached : Location)
    (hwalk : t.walk location [""] = .ok reached) : reached = location := by
  simp only [walk] at hwalk
  split at hwalk
  · cases hwalk
  · cases hwalk
  · simpa using hwalk.symm

/-- Components that do not climb lead below the location they are followed from. -/
theorem walk_eq_append (t : FileTree) (location reached : Location) (names : List String)
    (hclimb : ".." ∉ names) (hwalk : t.walk location names = .ok reached) :
    reached = location ++ names.filter fun name ↦ name ≠ "" && name ≠ "." := by
  induction names generalizing location with
  | nil => simpa [walk] using hwalk.symm
  | cons name names ih =>
    obtain ⟨hname, hnames⟩ := not_or.1 (mt List.mem_cons.2 hclimb)
    simp only [walk] at hwalk
    split at hwalk
    · cases hwalk
    · cases hwalk
    split at hwalk
    · rename_i hstays
      have hname' : name = "" ∨ name = "." := by simpa using hstays
      rw [ih location hnames hwalk, List.filter_cons_of_neg]
      rcases hname' with rfl | rfl <;> simp
    · rename_i hmoves
      rw [if_neg (Ne.symm hname)] at hwalk
      split at hwalk
      · cases hwalk
      split at hwalk
      · cases hwalk
      · rw [ih _ hnames hwalk, List.append_assoc, List.singleton_append, List.filter_cons_of_pos]
        simpa using hmoves

theorem locate_eq_ok (t : FileTree) (path : String) (location : Location)
    (h : t.locate path = .ok location) :
    checkText path = .ok () ∧ t.walk (t.startOf path) (Path.pieces path) = .ok location := by
  obtain ⟨⟨⟩, hcheck, hwalk⟩ := (bind_eq_ok_iff _ _ _).1 h
  exact ⟨hcheck, hwalk⟩

theorem isDirectory_iff (t : FileTree) (path : String) :
    t.isDirectory path = true ↔
      ∃ location, t.locate path = .ok location ∧ t.entry? location = some .directory := by
  unfold isDirectory
  cases t.locate path with
  | error => simp
  | ok location => simp

theorem ne_empty_of_locate (t : FileTree) (path : String) (location : Location)
    (h : t.locate path = .ok location) : path ≠ "" := by
  rintro rfl
  have hcheck := (t.locate_eq_ok _ _ h).1
  simp [checkText] at hcheck

/-- A path that ends in a name leads to a location that ends in it. -/
theorem getLast?_of_locate_join (t : FileTree) (base name : String) (location : Location)
    (hslash : '/' ∉ name.toList) (hname : IsName name)
    (h : t.locate (Path.join base name) = .ok location) : location.getLast? = some name := by
  obtain ⟨front, hpieces⟩ := Path.pieces_join_name base name hslash
  have hwalk := (t.locate_eq_ok _ _ h).2
  rw [hpieces, walk_append] at hwalk
  obtain ⟨parent, -, hlast⟩ := (bind_eq_ok_iff _ _ _).1 hwalk
  rw [t.walk_name parent location name hname hlast]
  simp

/-- What is joined to a path is followed from where that path leads. -/
theorem walk_of_locate_join (t : FileTree) (base path : String) (below location : Location)
    (hpath : Path.isAbsolute path = false) (hbase : t.locate base = .ok below)
    (h : t.locate (Path.join base path) = .ok location) :
    t.walk below (Path.pieces path) = .ok location := by
  have hne := t.ne_empty_of_locate base below hbase
  obtain ⟨stem, hstem, hjoin⟩ := Path.join_eq base path hne hpath
  have hfollow := (t.locate_eq_ok _ _ hbase).2
  have hwalk := (t.locate_eq_ok _ _ h).2
  have hstart : t.startOf (Path.join base path) = t.startOf base := by
    unfold startOf
    rcases hstem with rfl | rfl
    · rw [hjoin, String.append_assoc, Path.isAbsolute_append _ _ hne]
    · rw [hjoin, Path.isAbsolute_append _ _ hne]
  rw [hstart, hjoin, Path.pieces_append_slash, walk_append] at hwalk
  have hreach : t.walk (t.startOf base) (Path.pieces stem) = .ok below := by
    rcases hstem with rfl | rfl
    · exact hfollow
    · have hsplit : Path.pieces (stem ++ "/") = Path.pieces stem ++ [""] := by
        simpa [Path.pieces_of_no_slash ""] using Path.pieces_append_slash stem ""
      rw [hsplit, walk_append] at hfollow
      obtain ⟨before, hbefore, hlast⟩ := (bind_eq_ok_iff _ _ _).1 hfollow
      rw [hbefore, t.walk_empty before below hlast]
  rw [hreach] at hwalk
  exact hwalk

/-! ## The shape of a tree -/

end FileTree

def Entry.isDirectory : Entry → Bool
  | .file _ => false
  | .directory => true

namespace FileTree

/-- The two trees have the same directories and the same files, whatever the files hold. -/
structure SameShape (t u : FileTree) : Prop where
  kind : ∀ location,
    (t.entry? location).map Entry.isDirectory = (u.entry? location).map Entry.isDirectory
  workingDirectory : t.workingDirectory = u.workingDirectory
  substitutes : t.substitutes = u.substitutes

namespace SameShape

variable {t u v : FileTree}

theorem refl (t : FileTree) : SameShape t t :=
  ⟨fun _ ↦ rfl, rfl, rfl⟩

theorem symm (h : SameShape t u) : SameShape u t :=
  ⟨fun location ↦ (h.kind location).symm, h.workingDirectory.symm, h.substitutes.symm⟩

theorem trans (h : SameShape t u) (h' : SameShape u v) : SameShape t v :=
  ⟨fun location ↦ (h.kind location).trans (h'.kind location),
    h.workingDirectory.trans h'.workingDirectory, h.substitutes.trans h'.substitutes⟩

theorem isSome_entry? (h : SameShape t u) (location : Location) :
    (t.entry? location).isSome = (u.entry? location).isSome := by
  simpa using congrArg Option.isSome (h.kind location)

/-- At each location there is nothing, a file or a directory in both trees. -/
theorem entry?_cases (h : SameShape t u) (location : Location) :
    (t.entry? location = none ∧ u.entry? location = none) ∨
      (∃ before after, t.entry? location = some (.file before) ∧
        u.entry? location = some (.file after)) ∨
      (t.entry? location = some .directory ∧ u.entry? location = some .directory) := by
  have hkind := h.kind location
  revert hkind
  rcases t.entry? location with _ | (_ | _) <;> rcases u.entry? location with _ | (_ | _) <;>
    simp [Entry.isDirectory]

/-- Where trees of the same shape differ, both have a file. -/
theorem files_of_ne (h : SameShape t u) (location : Location)
    (hne : u.entry? location ≠ t.entry? location) :
    ∃ before after, t.entry? location = some (.file before) ∧
      u.entry? location = some (.file after) := by
  have hkind := h.kind location
  revert hkind hne
  rcases t.entry? location with _ | (_ | _) <;> rcases u.entry? location with _ | (_ | _) <;>
    simp [Entry.isDirectory]

theorem walk_eq (h : SameShape t u) (location : Location) (names : List String) :
    t.walk location names = u.walk location names := by
  induction names generalizing location with
  | nil => rfl
  | cons name names ih =>
    have hnext :
        (t.entry? (location ++ [name])).isNone = (u.entry? (location ++ [name])).isNone := by
      simpa using congrArg not (h.isSome_entry? (location ++ [name]))
    have hkind := h.kind location
    simp only [walk, ih, hnext]
    revert hkind
    rcases t.entry? location with _ | (_ | _) <;> rcases u.entry? location with _ | (_ | _) <;>
      simp [Entry.isDirectory]

theorem locate_eq (h : SameShape t u) (path : String) : t.locate path = u.locate path := by
  simp only [locate, startOf, h.workingDirectory, h.walk_eq]

end SameShape

/-- No path is opened in the place of another. -/
def IsLinkFree (tree : FileTree) : Prop :=
  tree.substitutes = []

theorem IsLinkFree.substituted_eq {tree : FileTree} (h : tree.IsLinkFree)
    (path : String) : tree.substituted path = path := by
  simp [substituted, show tree.substitutes = [] from h]

theorem IsLinkFree.of_sameShape {t u : FileTree} (ht : t.IsLinkFree) (h : SameShape t u) :
    u.IsLinkFree :=
  h.substitutes.symm.trans ht

/-! ## Writing to files -/

theorem content?_eq_some (t : FileTree) (location : Location) (content : Bytes)
    (h : t.content? location = some content) : t.entry? location = some (.file content) := by
  unfold content? at h
  split at h
  · rename_i found hentry
    rw [hentry, Option.some.inj h]
  · cases h

theorem lookup_map_replace (entries : List (Location × Entry)) (location other : Location)
    (entry : Entry) :
    (entries.map fun known ↦ if known.1 == location then (location, entry) else known).lookup other
      = if other = location then (entries.lookup other).map fun _ ↦ entry
        else entries.lookup other := by
  induction entries with
  | nil => simp
  | cons known entries ih =>
    obtain ⟨key, value⟩ := known
    rw [List.map_cons]
    by_cases hkey : key = location
    · subst hkey
      by_cases hother : other = key
      · simp [hother]
      · have hne : (other == key) = false := by simpa using hother
        rw [if_neg hother] at ih
        simpa only [beq_self_eq_true, if_true, List.lookup_cons, hne, if_neg hother] using ih
    · have hsame : (key == location) = false := by simpa using hkey
      simp only [hsame, Bool.false_eq_true, if_false, List.lookup_cons]
      by_cases hother : other = key
      · simp [hother, hkey]
      · have hne : (other == key) = false := by simpa using hother
        simpa only [hne] using ih

/-- Overwriting is seen at the location that is written to and nowhere else. -/
theorem entry?_overwrite (t : FileTree) (location other : Location) (bytes content : Bytes)
    (hnull : location ≠ nullDevice) (h : t.content? location = some content) :
    entry? (t.overwrite location bytes) other =
      if other = location then some (.file (bytes ++ content.drop bytes.length))
      else t.entry? other := by
  have hentry := t.content?_eq_some location content h
  have hprefix : location.isPrefixOf nullDevice = false := by
    cases hprefix : location.isPrefixOf nullDevice with
    | false => rfl
    | true => simp [hnull, entry?, hprefix] at hentry
  have hlookup : t.entries.lookup location = some (.file content) := by
    simpa [hnull, entry?, hprefix] using hentry
  have hknown : (t.entries.any fun known ↦ known.1 == location) = true := by
    obtain ⟨before, after, hentries, -⟩ := List.lookup_eq_some_iff.1 hlookup
    simp [hentries]
  simp only [overwrite, h, put, hnull, if_false, hknown, if_true, entry?, lookup_map_replace]
  by_cases hother : other = location
  · subst hother
    simp [hnull, hprefix, hlookup]
  · simp [hother]

theorem overwrite_nullDevice (t : FileTree) (bytes : Bytes) : t.overwrite nullDevice bytes = t := by
  unfold overwrite
  split
  · simp [put]
  · rfl

theorem entry?_overwrite_of_ne (t : FileTree) (location other : Location) (bytes : Bytes)
    (h : other ≠ location) : entry? (t.overwrite location bytes) other = t.entry? other := by
  by_cases hnull : location = nullDevice
  · rw [hnull, overwrite_nullDevice]
  cases hcontent : t.content? location with
  | none => simp [overwrite, hcontent]
  | some content => rw [t.entry?_overwrite location other bytes content hnull hcontent, if_neg h]

theorem sameShape_overwrite (t : FileTree) (location : Location) (bytes : Bytes) :
    SameShape t (t.overwrite location bytes) := by
  by_cases hnull : location = nullDevice
  · rw [hnull, overwrite_nullDevice]
    exact .refl t
  cases hcontent : t.content? location with
  | none =>
    simp only [overwrite, hcontent]
    exact .refl t
  | some content =>
    refine ⟨fun other ↦ ?_, ?_, ?_⟩
    · rw [t.entry?_overwrite location other bytes content hnull hcontent]
      by_cases hother : other = location
      · subst hother
        rw [if_pos rfl, t.content?_eq_some other content hcontent]
        rfl
      · rw [if_neg hother]
    · simp [overwrite, hcontent, put, hnull]
    · simp [overwrite, hcontent, put, hnull]

/-- Appending is overwriting with what is there already and more. -/
theorem append_eq_overwrite (t : FileTree) (location : Location) (bytes content : Bytes)
    (h : t.content? location = some content) :
    t.append location bytes = t.overwrite location (content ++ bytes) := by
  have hbehind : content.drop (content ++ bytes).length = [] :=
    List.drop_eq_nil_of_le (by simp)
  simp only [append, overwrite, h, hbehind, List.append_nil]

theorem sameShape_append (t : FileTree) (location : Location) (bytes : Bytes) :
    SameShape t (t.append location bytes) := by
  cases hcontent : t.content? location with
  | none =>
    simp only [append, hcontent]
    exact .refl t
  | some content =>
    rw [t.append_eq_overwrite location bytes content hcontent]
    exact t.sameShape_overwrite location _

/-- The two trees have the same shape, and only files at the given locations hold something else. -/
structure ChangedWithin (allowed : Location → Prop) (t u : FileTree) : Prop
    extends SameShape t u where
  unchanged : ∀ location, ¬ allowed location → u.entry? location = t.entry? location

namespace ChangedWithin

variable {allowed allowed' : Location → Prop} {t u v : FileTree}

theorem refl (allowed : Location → Prop) (t : FileTree) : ChangedWithin allowed t t :=
  ⟨.refl t, fun _ _ ↦ rfl⟩

theorem trans (h : ChangedWithin allowed t u) (h' : ChangedWithin allowed u v) :
    ChangedWithin allowed t v :=
  ⟨h.toSameShape.trans h'.toSameShape,
    fun location hnot ↦ (h'.unchanged location hnot).trans (h.unchanged location hnot)⟩

theorem mono (h : ChangedWithin allowed t u) (hallowed : ∀ location, allowed location →
    allowed' location) : ChangedWithin allowed' t u :=
  ⟨h.toSameShape, fun location hnot ↦ h.unchanged location (mt (hallowed location) hnot)⟩

theorem overwrite (t : FileTree) (location : Location) (bytes : Bytes) :
    ChangedWithin (· = location) t (t.overwrite location bytes) :=
  ⟨t.sameShape_overwrite location bytes,
    fun other hother ↦ t.entry?_overwrite_of_ne location other bytes hother⟩

end ChangedWithin

theorem content?_of_entry?_eq (t u : FileTree) (location : Location)
    (h : t.entry? location = u.entry? location) : t.content? location = u.content? location := by
  unfold content?
  rw [h]

theorem content?_append (t : FileTree) (location other : Location) (bytes : Bytes)
    (hnull : other ≠ nullDevice) :
    (t.append location bytes).content? other =
      if other = location then (t.content? other).map (· ++ bytes) else t.content? other := by
  cases hcontent : t.content? location with
  | none =>
    simp only [append, hcontent]
    split
    · rename_i hother
      rw [hother, hcontent]
      rfl
    · rfl
  | some content =>
    rw [t.append_eq_overwrite location bytes content hcontent]
    by_cases hother : other = location
    · subst hother
      have hentry := t.entry?_overwrite other other (content ++ bytes) content hnull hcontent
      rw [if_pos rfl, List.drop_eq_nil_of_le (by simp), List.append_nil] at hentry
      rw [if_pos rfl, hcontent, content?, hentry]
      rfl
    · rw [if_neg hother]
      exact content?_of_entry?_eq _ _ _ (t.entry?_overwrite_of_ne location other _ hother)

/-- A new file is there and empty, and nothing else has changed. -/
theorem content?_put_new (t : FileTree) (location other : Location)
    (h : t.entry? location = none) :
    (t.put location (.file [])).content? other =
      if other = location then some [] else t.content? other := by
  have hnull : location ≠ nullDevice := by
    rintro rfl
    unfold entry? at h
    simp at h
  have hprefix : location.isPrefixOf nullDevice = false := by
    cases hprefix : location.isPrefixOf nullDevice with
    | false => rfl
    | true => simp [hnull, entry?, hprefix] at h
  have hlookup : t.entries.lookup location = none := by
    simpa [hnull, entry?, hprefix] using h
  have hunknown : (t.entries.any fun known ↦ known.1 == location) = false := by
    rw [List.lookup_eq_none_iff] at hlookup
    rw [List.any_eq_false]
    intro known hknown hsame
    have hne := hlookup known hknown
    simp_all
  have hentry : entry? (t.put location (.file [])) other =
      if other = location then some (.file []) else t.entry? other := by
    simp only [put, hnull, if_false, hunknown, Bool.false_eq_true, entry?, List.lookup_append]
    by_cases hother : other = location
    · subst hother
      simp [hnull, hprefix, hlookup]
    · have hdistinct : (other == location) = false := by simpa using hother
      simp [hother, List.lookup_cons, hdistinct]
  unfold content?
  rw [hentry]
  by_cases hother : other = location
  · rw [if_pos hother, if_pos hother]
  · rw [if_neg hother, if_neg hother]

/-- A file that is opened for appending is there afterwards, empty if it is new. -/
theorem content?_openForAppending (t opened : FileTree) (path : String) (location other : Location)
    (h : t.openForAppending path = .ok (location, opened)) :
    opened.content? other =
      if other = location then some ((t.content? location).getD []) else t.content? other := by
  obtain ⟨_, -, h⟩ := (bind_eq_ok_iff _ _ _).1 h
  dsimp only at h
  split at h
  · cases h
  obtain ⟨parent, -, h⟩ := (bind_eq_ok_iff _ _ _).1 h
  split at h
  · cases h
  split at h
  · cases h
  split at h
  · rename_i content hentry
    cases h
    split
    · rename_i hother
      simp only [hother, content?, hentry, Option.getD_some]
    · rfl
  · cases h
  · rename_i hentry
    cases h
    rw [t.content?_put_new _ other hentry]
    simp only [content?, hentry, Option.getD_none]

end FileTree

end Regroup
