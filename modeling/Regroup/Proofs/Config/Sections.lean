import Regroup.Config.File
import Regroup.Proofs.Result

/-!
# The sections of a configuration

A section is what the blocks of its name say, put one behind the other, and of the pairs with one
key the last one counts, in whichever block it stands. Pairs outside every named block belong to no
section.

Blocks of different names can be exchanged as far as no block between the two speaks about the same
key: a block that is moved past another one of its own name may lose or gain the last word.
-/

namespace Regroup.Config

/-- The value of the last pair with a key. -/
def lastValue? (pairs : List (String × String)) (key : String) : Option String :=
  (pairs.filter fun pair ↦ pair.1 == key).getLast?.map Prod.snd

@[simp]
theorem lastValue?_nil (key : String) : lastValue? [] key = none :=
  rfl

theorem lastValue?_append (first second : List (String × String)) (key : String) :
    lastValue? (first ++ second) key = (lastValue? second key).or (lastValue? first key) := by
  unfold lastValue?
  rw [List.filter_append, List.getLast?_append, Option.map_or]

theorem lastValue?_singleton (key' value key : String) :
    lastValue? [(key', value)] key = if key' = key then some value else none := by
  unfold lastValue?
  by_cases hkey : key' = key <;> simp [hkey]

theorem lastValue?_eq_none (pairs : List (String × String)) (key : String)
    (h : ∀ value, (key, value) ∉ pairs) : lastValue? pairs key = none := by
  unfold lastValue?
  have hnothing : pairs.filter (fun pair ↦ pair.1 == key) = [] := by
    apply List.filter_eq_nil_iff.2
    rintro ⟨key', value⟩ hpair hkey
    obtain rfl : key' = key := by simpa using hkey
    exact h value hpair
  rw [hnothing]
  rfl

namespace Section

theorem raw?_set (s : Section) (key' value key : String) :
    (s.set key' value).raw? key = (lastValue? [(key', value)] key).or (s.raw? key) := by
  rw [lastValue?_singleton]
  unfold set raw?
  rw [List.lookup_cons]
  by_cases hkey : key = key'
  · simp [hkey]
  · have hbeq : (key == key') = false := by simpa using hkey
    rw [hbeq, if_neg (Ne.symm hkey), Option.none_or]
    dsimp only
    induction s.values with
    | nil => rfl
    | cons pair values ih =>
      by_cases hpair : pair.1 = key'
      · have hne : (key == pair.1) = false := by rw [hpair, hbeq]
        rw [List.filter_cons_of_neg (by simp [hpair]), ih, List.lookup_cons, hne]
      · rw [List.filter_cons_of_pos (by simp [hpair]), List.lookup_cons, List.lookup_cons, ih]

/-- Sets pairs one after the other. -/
def setAll (s : Section) (pairs : List (String × String)) : Section :=
  pairs.foldl (fun s (key, value) ↦ s.set key value) s

theorem name_setAll (s : Section) (pairs : List (String × String)) :
    (s.setAll pairs).name = s.name := by
  induction pairs generalizing s with
  | nil => rfl
  | cons pair pairs ih => exact ih (s.set pair.1 pair.2)

theorem raw?_setAll (s : Section) (pairs : List (String × String)) (key : String) :
    (s.setAll pairs).raw? key = (lastValue? pairs key).or (s.raw? key) := by
  induction pairs generalizing s with
  | nil => rfl
  | cons pair pairs ih =>
    calc
      (s.setAll (pair :: pairs)).raw? key = ((s.set pair.1 pair.2).setAll pairs).raw? key := rfl
      _ = (lastValue? pairs key).or ((lastValue? [pair] key).or (s.raw? key)) := by
        rw [ih, raw?_set]
      _ = (lastValue? (pair :: pairs) key).or (s.raw? key) := by
        rw [← Option.or_assoc, ← lastValue?_append, List.singleton_append]

/-- What is reported about a value that is none of its type: the section and key, and the value. -/
inductive Misreads {α : Type} (read : Reader α) (name key : String) (raw : Option String) :
    ConfigError → Prop where
  | intro (value reason : String) (hraw : raw = some value) (hread : read value = .error reason) :
      Misreads read name key raw (.invalidValue (name ++ "." ++ key) value reason)

theorem value?_eq_error_iff {α : Type} (s : Section) (read : Reader α) (key : String)
    (error : ConfigError) :
    s.value? read key = .error error ↔ Misreads read s.name key (s.raw? key) error := by
  unfold value?
  constructor
  · intro h
    split at h
    · cases h
    · rename_i value hraw
      split at h
      · cases h
      · rename_i reason hread
        obtain rfl := Except.error.inj h
        exact .intro value reason hraw hread
  · rintro ⟨value, reason, hraw, hread⟩
    rw [hraw]
    dsimp only
    rw [hread]
    rfl

theorem valueOr_eq_error_iff {α : Type} (s : Section) (read : Reader α) (key : String)
    (default : α) (error : ConfigError) :
    s.valueOr read key default = .error error ↔ Misreads read s.name key (s.raw? key) error :=
  (map_eq_error_iff _ _ error).trans (s.value?_eq_error_iff read key error)

end Section

/-! ## All sections -/

namespace Configuration

theorem name_named (config : Configuration) (name : String) : (config.named name).name = name := by
  unfold named
  cases hfound : config.find? fun s ↦ s.name == name with
  | none => rfl
  | some s => simpa using List.find?_some hfound

theorem named_replace (config : Configuration) (s : Section) (name : String) :
    (config.replace s).named name = if s.name = name then s else config.named name := by
  unfold named replace
  by_cases hname : s.name = name
  · simp [hname]
  · have hkept : (config.filter fun known ↦ known.name != s.name).find? (fun s ↦ s.name == name) =
        config.find? fun s ↦ s.name == name := by
      rw [List.find?_filter]
      congr 1
      funext known
      by_cases hknown : known.name = name
      · simp [hknown, Ne.symm hname]
      · simp [hknown]
    rw [if_neg hname, List.find?_cons_of_neg (by simp [hname]), hkept]

/-- What blocks say about a key of a section. -/
def saidIn (blocks : List Ini.Block) (name key : String) : Option String :=
  lastValue? ((blocks.filter fun block ↦ block.name == some name).flatMap Ini.Block.pairs) key

theorem saidIn_append (first second : List Ini.Block) (name key : String) :
    saidIn (first ++ second) name key =
      (saidIn second name key).or (saidIn first name key) := by
  unfold saidIn
  rw [List.filter_append, List.flatMap_append, lastValue?_append]

theorem saidIn_cons (block : Ini.Block) (blocks : List Ini.Block) (name key : String) :
    saidIn (block :: blocks) name key = (saidIn blocks name key).or (saidIn [block] name key) :=
  saidIn_append [block] blocks name key

theorem saidIn_around (before after : List Ini.Block) (block : Ini.Block) (name key : String) :
    saidIn (before ++ block :: after) name key =
      (saidIn after name key).or ((saidIn [block] name key).or (saidIn before name key)) := by
  rw [saidIn_append, saidIn_cons, Option.or_assoc]

theorem saidIn_singleton (block : Ini.Block) (name key : String) :
    saidIn [block] name key =
      if block.name = some name then lastValue? block.pairs key else none := by
  unfold saidIn
  by_cases hname : block.name = some name <;> simp [hname]

theorem raw?_addBlock (config : Configuration) (block : Ini.Block) (name key : String) :
    ((config.addBlock block).named name).raw? key =
      (saidIn [block] name key).or ((config.named name).raw? key) := by
  rw [saidIn_singleton]
  unfold addBlock
  split
  · rename_i hnone
    rw [hnone, if_neg nofun, Option.none_or]
  · rename_i name' hname
    change ((config.replace ((config.named name').setAll block.pairs)).named name).raw? key = _
    rw [named_replace, Section.name_setAll, name_named, hname]
    by_cases hsame : name' = name
    · rw [if_pos hsame, if_pos (by rw [hsame]), Section.raw?_setAll, hsame]
    · rw [if_neg hsame, if_neg (by simpa using hsame), Option.none_or]

theorem raw?_foldl_addBlock (config : Configuration) (blocks : List Ini.Block)
    (name key : String) :
    ((blocks.foldl addBlock config).named name).raw? key =
      (saidIn blocks name key).or ((config.named name).raw? key) := by
  induction blocks generalizing config with
  | nil => rfl
  | cons block blocks ih =>
    calc
      (((block :: blocks).foldl addBlock config).named name).raw? key =
          (saidIn blocks name key).or (((config.addBlock block).named name).raw? key) :=
        ih (config.addBlock block)
      _ = (saidIn (block :: blocks) name key).or ((config.named name).raw? key) := by
        rw [raw?_addBlock, ← Option.or_assoc, ← saidIn_cons]

/-- A section is what its blocks say. -/
theorem raw?_ofBlocks (blocks : List Ini.Block) (name key : String) :
    ((ofBlocks blocks).named name).raw? key = saidIn blocks name key := by
  rw [ofBlocks, raw?_foldl_addBlock]
  exact Option.or_none

/-! ## Exchanging blocks -/

/-- The block has a pair for a key of a section. -/
def SpeaksAbout (name key : String) (block : Ini.Block) : Prop :=
  block.name = some name ∧ ∃ value, (key, value) ∈ block.pairs

theorem saidIn_eq_none (blocks : List Ini.Block) (name key : String)
    (h : ∀ block ∈ blocks, ¬ SpeaksAbout name key block) : saidIn blocks name key = none := by
  apply lastValue?_eq_none
  intro value hvalue
  obtain ⟨block, hblock, hpair⟩ := List.mem_flatMap.1 hvalue
  obtain ⟨hmem, hname⟩ := List.mem_filter.1 hblock
  exact h block hmem ⟨by simpa using hname, value, hpair⟩

theorem saidIn_exchange (before between after : List Ini.Block) (left right : Ini.Block)
    (name key : String) (hnames : left.name ≠ right.name)
    (h : (∀ block ∈ between, ¬ SpeaksAbout name key block) ∨
      (¬ SpeaksAbout name key left ∧ ¬ SpeaksAbout name key right)) :
    saidIn (before ++ right :: (between ++ left :: after)) name key =
      saidIn (before ++ left :: (between ++ right :: after)) name key := by
  have hsaid (first last : Ini.Block) :
      saidIn (before ++ first :: (between ++ last :: after)) name key =
        (saidIn after name key).or ((saidIn [last] name key).or ((saidIn between name key).or
          ((saidIn [first] name key).or (saidIn before name key)))) := by
    rw [← List.cons_append, ← List.append_assoc, saidIn_around, saidIn_around]
  rw [hsaid, hsaid]
  rcases h with hbetween | ⟨hleft, hright⟩
  · rw [saidIn_eq_none between name key hbetween]
    have hone : saidIn [left] name key = none ∨ saidIn [right] name key = none := by
      by_cases hleft : left.name = some name
      · right
        rw [saidIn_singleton, if_neg (fun hright ↦ hnames (hleft.trans hright.symm))]
      · left
        rw [saidIn_singleton, if_neg hleft]
    rcases hone with hnone | hnone <;> simp [hnone]
  · rw [saidIn_eq_none [left] name key (List.forall_mem_singleton.2 hleft),
      saidIn_eq_none [right] name key (List.forall_mem_singleton.2 hright)]

/-- The value of a key in a section is the last one in the blocks of that name. It does not depend
on blocks without a name, and it is reported with its section and key where it is none of the type
asked for. Exchanging two blocks of different names changes no value, except where a block between
them and one of the two both speak about it. -/
theorem sections_ofBlocks (blocks : List Ini.Block) :
    (∀ name key, ((ofBlocks blocks).named name).raw? key =
      lastValue? ((blocks.filter fun block ↦ block.name == some name).flatMap Ini.Block.pairs)
        key) ∧
    (∀ name key, ((ofBlocks blocks).named name).raw? key =
      ((ofBlocks (blocks.filter fun block ↦ block.name.isSome)).named name).raw? key) ∧
    (∀ (α : Type) (read : Reader α) name key error,
      (((ofBlocks blocks).named name).value? read key = .error error ↔
        Section.Misreads read name key (saidIn blocks name key) error) ∧
      ∀ default, ((ofBlocks blocks).named name).valueOr read key default = .error error ↔
        Section.Misreads read name key (saidIn blocks name key) error) ∧
    ∀ before left between right after name key,
      blocks = before ++ left :: (between ++ right :: after) → left.name ≠ right.name →
      ((∀ block ∈ between, ¬ SpeaksAbout name key block) ∨
        (¬ SpeaksAbout name key left ∧ ¬ SpeaksAbout name key right)) →
      ((ofBlocks (before ++ right :: (between ++ left :: after))).named name).raw? key =
        ((ofBlocks blocks).named name).raw? key := by
  refine ⟨raw?_ofBlocks blocks, ?_, ?_, ?_⟩
  · intro name key
    have hblocks : (blocks.filter fun block ↦ block.name.isSome).filter
          (fun block ↦ block.name == some name) =
        blocks.filter fun block ↦ block.name == some name := by
      rw [List.filter_filter]
      congr 1
      funext block
      cases block.name <;> simp
    rw [raw?_ofBlocks, raw?_ofBlocks, saidIn, saidIn, hblocks]
  · intro α read name key error
    have hraw := raw?_ofBlocks blocks name key
    have hname := (ofBlocks blocks).name_named name
    constructor
    · rw [Section.value?_eq_error_iff, hraw, hname]
    · intro default
      rw [Section.valueOr_eq_error_iff, hraw, hname]
  · rintro before left between right after name key rfl hnames h
    rw [raw?_ofBlocks, raw?_ofBlocks]
    exact saidIn_exchange before between after left right name key hnames h

/-- The block between the two that are exchanged is of the same section as one of them, and it
speaks about another key. -/
theorem sections_ofBlocks_around_other :
    let left : Ini.Block := ⟨some "channel", [("recv_buffer", "x"), ("depth", "1")]⟩
    let middle : Ini.Block := ⟨some "channel", [("depth", "2"), ("depth", "3")]⟩
    let right : Ini.Block := ⟨some "daemon", [("depth", "4")]⟩
    let blocks : List Ini.Block := [⟨none, [("depth", "0")]⟩, left, middle, right]
    let exchanged : List Ini.Block := [⟨none, [("depth", "0")]⟩, right, middle, left]
    ((ofBlocks blocks).named "channel").raw? "depth" = some "3" ∧
      ((ofBlocks blocks).named "channel").value? .size "recv_buffer" =
        .error (.invalidValue "channel.recv_buffer" "x" "invalid digit found in string") ∧
      left.name ≠ right.name ∧
      (∀ block ∈ [middle], ¬ SpeaksAbout "channel" "recv_buffer" block) ∧
      ((ofBlocks exchanged).named "channel").raw? "recv_buffer" =
        ((ofBlocks blocks).named "channel").raw? "recv_buffer" := by
  intro left middle right blocks exchanged
  have hnames : left.name ≠ right.name := by decide
  have hmiddle : ∀ block ∈ [middle], ¬ SpeaksAbout "channel" "recv_buffer" block := by
    simp [SpeaksAbout, middle]
  obtain ⟨hvalues, -, hreports, hexchange⟩ := sections_ofBlocks blocks
  have hmisread : Section.Misreads .size "channel" "recv_buffer"
      (saidIn blocks "channel" "recv_buffer")
      (.invalidValue "channel.recv_buffer" "x" "invalid digit found in string") :=
    .intro "x" "invalid digit found in string" (by decide) (by rfl)
  exact ⟨(hvalues "channel" "depth").trans (by decide),
    (hreports Nat .size "channel" "recv_buffer" _).1.2 hmisread, hnames, hmiddle,
    hexchange [⟨none, [("depth", "0")]⟩] left [middle] right [] "channel" "recv_buffer" rfl hnames
      (.inl hmiddle)⟩

/-- Exchanged with a block of another name, a block moves past one of its own name and has the last
word. -/
theorem value_changes_past_own_name :
    let first : Ini.Block := ⟨some "a", [("k", "1")]⟩
    let second : Ini.Block := ⟨some "a", [("k", "2")]⟩
    let other : Ini.Block := ⟨some "b", [("x", "0")]⟩
    first.name ≠ other.name ∧
      ((ofBlocks [first, second, other]).named "a").raw? "k" = some "2" ∧
      ((ofBlocks [other, second, first]).named "a").raw? "k" = some "1" := by
  decide

end Configuration

end Regroup.Config
