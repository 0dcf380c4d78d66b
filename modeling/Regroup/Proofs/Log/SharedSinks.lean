import Mathlib.Data.List.Basic
import Mathlib.Data.List.TakeWhile
import Regroup.Log.Sink
import Regroup.Proofs.FileTree

/-!
# Sinks that handles share

What has happened to a store of sinks is told by a history: a family of handles, which is all that
share one sink, has been directed to a destination, or something has been written through one of
them. From the history alone it follows where every family is directed to, namely where its latest
redirection says, and what every destination has received, namely what each write that was directed
there has taken. Every run keeps to that: nothing is lost, doubled or misdirected.

All destinations take a write as a whole, except that the standard output leaves what follows the
last line end where that is too long for its buffer, and says so.
-/

namespace Regroup.Log

namespace Outlets

variable (outlets : Outlets) (destination : Destination) (bytes : Bytes)

theorem output_write : (outlets.write destination bytes).output =
    if destination = .output then outlets.output.write bytes else outlets.output := by
  cases destination <;> rfl

theorem errorOutput_write : (outlets.write destination bytes).errorOutput =
    if destination = .errorOutput then outlets.errorOutput.write bytes
    else outlets.errorOutput := by
  cases destination <;> rfl

theorem content?_write (location : Location) (hnull : location ≠ FileTree.nullDevice) :
    (outlets.write destination bytes).tree.content? location =
      if destination = .file location then (outlets.tree.content? location).map (· ++ bytes)
      else outlets.tree.content? location := by
  cases destination with
  | file found =>
    simp only [write, FileTree.content?_append _ _ _ _ hnull, Destination.file.injEq,
      eq_comm (a := found)]
  | errorOutput | output | closed => rfl

end Outlets

section
variable (destination : Destination) (bytes lines rest : Bytes)

theorem takeWhile_reverse (hrest : 10 ∉ rest) :
    ((lines ++ 10 :: rest).reverse.takeWhile (· ≠ 10)).length = rest.length := by
  have hall : ∀ byte ∈ rest.reverse, decide (byte ≠ 10) = true := by
    intro byte hbyte
    exact decide_eq_true fun hend ↦ hrest (hend ▸ List.mem_reverse.1 hbyte)
  rw [List.reverse_append, List.reverse_cons, List.append_assoc, List.takeWhile_append_of_pos hall]
  simp

/-- What follows the last line end, where there is one. -/
theorem exists_last_line (h : (bytes.reverse.takeWhile (· ≠ 10)).length < bytes.length) :
    ∃ lines rest, bytes = lines ++ 10 :: rest ∧ 10 ∉ rest := by
  have hsplit : bytes.reverse.takeWhile (· ≠ 10) ++ bytes.reverse.dropWhile (· ≠ 10) =
      bytes.reverse := List.takeWhile_append_dropWhile
  cases hdrop : bytes.reverse.dropWhile (· ≠ 10) with
  | nil =>
    have hlength := congrArg List.length hsplit
    rw [hdrop, List.append_nil, List.length_reverse] at hlength
    omega
  | cons byte earlier =>
    have hbyte : byte = 10 := by
      have hne : bytes.reverse.dropWhile (· ≠ 10) ≠ [] := by
        rw [hdrop]
        exact List.cons_ne_nil byte earlier
      have hhead := List.head_dropWhile_not _ hne
      simp only [hdrop, List.head_cons] at hhead
      exact Decidable.not_not.1 (of_decide_eq_false hhead)
    refine ⟨earlier.reverse, (bytes.reverse.takeWhile (· ≠ 10)).reverse, ?_, fun hmem ↦ ?_⟩
    · rw [hdrop, hbyte] at hsplit
      simpa using (congrArg List.reverse hsplit).symm
    · simpa using List.mem_takeWhile_imp (List.mem_reverse.1 hmem)

theorem accepted_of_overlong (hrest : 10 ∉ rest) (hlength : lineBufferSize ≤ rest.length) :
    Destination.accepted .output (lines ++ 10 :: rest) = lines.length + 1 := by
  have hshort : rest.length < (lines ++ 10 :: rest).length := by
    rw [List.length_append, List.length_cons]
    omega
  unfold Destination.accepted
  rw [takeWhile_reverse lines rest hrest, if_pos (by simp only [hshort, hlength]; rfl)]
  rw [List.length_append, List.length_cons]
  omega

/-- Everything but a write to the standard output that ends in an overlong line is taken as a
whole. -/
theorem accepted_of_not_overlong (h : destination ≠ .output ∨ ∀ lines rest,
    bytes = lines ++ 10 :: rest → 10 ∉ rest → rest.length < lineBufferSize) :
    destination.accepted bytes = bytes.length := by
  refine if_neg fun hcut ↦ ?_
  simp only [Bool.and_eq_true, decide_eq_true_eq] at hcut
  obtain ⟨⟨houtput, hshort⟩, hlong⟩ := hcut
  rcases h with hother | hfits
  · exact hother houtput
  · obtain ⟨lines, rest, hbytes, hrest⟩ := exists_last_line bytes hshort
    have hlength := hfits lines rest hbytes hrest
    rw [hbytes, takeWhile_reverse lines rest hrest] at hlong
    omega

end

/-- What happens to a family. -/
inductive SinkEvent where
  | redirected (family : Nat) (destination : Destination)
  | wrote (family : Nat) (bytes : Bytes)
deriving DecidableEq

namespace SinkEvent

/-- Where the event directs a family to, if it does. -/
def redirection? (family : Nat) : SinkEvent → Option Destination
  | redirected found destination => if found = family then some destination else none
  | wrote _ _ => none

/-- The event directs a family to the file at a location. -/
def opens (location : Location) : SinkEvent → Bool
  | redirected _ destination => destination = .file location
  | wrote _ _ => false

end SinkEvent

/-- Where a family is directed to by its latest redirection. -/
def directed (history : List SinkEvent) (family : Nat) : Destination :=
  (history.filterMap (SinkEvent.redirection? family)).getLast?.getD .closed

/-- What a destination takes of an event behind others: of a write what it accepts, where the family
is directed there by then. -/
def SinkEvent.arrival (earlier : List SinkEvent) (destination : Destination) : SinkEvent → Bytes
  | redirected _ _ => []
  | wrote family bytes =>
    if directed earlier family = destination then bytes.take (destination.accepted bytes) else []

/-- What a destination takes of all events, one after the other. -/
def arrived (history : List SinkEvent) (destination : Destination) : Bytes :=
  (List.range history.length).flatMap fun time ↦
    history[time]?.elim [] (SinkEvent.arrival (history.take time) destination)

/-- What a file holds before anything is written to it. It is empty if it has only been made by
being opened. -/
def contentBefore? (tree : FileTree) (history : List SinkEvent) (location : Location) :
    Option Bytes :=
  (tree.content? location).or (if history.any (SinkEvent.opens location) then some [] else none)

section
variable (history : List SinkEvent) (family : Nat) (destination : Destination)

theorem directed_concat_redirected (other : Nat) :
    directed (history ++ [.redirected family destination]) other =
      if other = family then destination else directed history other := by
  unfold directed
  rw [List.filterMap_append, List.filterMap_cons]
  by_cases hother : other = family
  · simp [SinkEvent.redirection?, hother]
  · have hne : family ≠ other := Ne.symm hother
    simp [SinkEvent.redirection?, hother, hne]

theorem directed_concat_wrote (bytes : Bytes) (other : Nat) :
    directed (history ++ [.wrote family bytes]) other = directed history other := by
  unfold directed
  rw [List.filterMap_append]
  exact congrArg (fun found ↦ (List.getLast? found).getD Destination.closed) (List.append_nil _)

theorem arrived_concat (event : SinkEvent) :
    arrived (history ++ [event]) destination =
      arrived history destination ++ event.arrival history destination := by
  unfold arrived
  rw [List.length_append, List.length_singleton, List.range_succ, List.flatMap_append]
  congr 1
  · refine List.flatMap_congr fun time htime ↦ ?_
    have hbefore := List.mem_range.1 htime
    rw [List.getElem?_append_left hbefore, List.take_append_of_le_length (Nat.le_of_lt hbefore)]
  · rw [List.flatMap_singleton, List.getElem?_concat_length, List.take_left]
    rfl

theorem contentBefore?_concat_redirected (tree : FileTree) (location : Location) :
    contentBefore? tree (history ++ [.redirected family destination]) location =
      if destination = .file location then some ((contentBefore? tree history location).getD [])
      else contentBefore? tree history location := by
  unfold contentBefore?
  by_cases hdestination : destination = .file location
  · simp only [List.any_append, List.any_cons, SinkEvent.opens, hdestination]
    cases tree.content? location with
    | some content => simp
    | none => cases history.any (SinkEvent.opens location) <;> simp
  · simp [SinkEvent.opens, hdestination]

theorem contentBefore?_concat_wrote (tree : FileTree) (bytes : Bytes) (location : Location) :
    contentBefore? tree (history ++ [.wrote family bytes]) location =
      contentBefore? tree history location := by
  simp [contentBefore?, SinkEvent.opens]

/-- A family is only directed to a file by an event that opens it. -/
theorem opens_of_directed (location : Location) (h : directed history family = .file location) :
    history.any (SinkEvent.opens location) = true := by
  unfold directed at h
  cases hlast : (history.filterMap (SinkEvent.redirection? family)).getLast? with
  | none =>
    rw [hlast] at h
    cases h
  | some destination =>
    rw [hlast] at h
    obtain rfl : destination = .file location := h
    obtain ⟨event, hevent, hredirection⟩ := List.mem_filterMap.1 (List.mem_of_getLast? hlast)
    refine List.any_eq_true.2 ⟨event, hevent, ?_⟩
    cases event with
    | wrote => cases hredirection
    | redirected found destination =>
      simp only [SinkEvent.redirection?, Option.ite_none_right_eq_some] at hredirection
      simpa [SinkEvent.opens] using hredirection.2

theorem arrived_of_not_opened (location : Location)
    (h : history.any (SinkEvent.opens location) = false) :
    arrived history (.file location) = [] := by
  refine List.flatMap_eq_nil_iff.2 fun time _ ↦ ?_
  cases history[time]? with
  | none => rfl
  | some event =>
    cases event with
    | redirected => rfl
    | wrote family bytes =>
      refine if_neg fun hdirected ↦ ?_
      have hopened := opens_of_directed _ family location hdirected
      rw [List.any_eq_true] at hopened
      obtain ⟨opening, hopening, hopens⟩ := hopened
      rw [List.any_eq_false] at h
      exact h opening (List.mem_of_mem_take hopening) hopens

end

namespace SinkOperation

/-- The handle that the operation is on. -/
def handle? : SinkOperation → Option Nat
  | fresh => none
  | clone handle | openFile handle _ | useOutput handle | write handle _ | flush handle
  | close handle => some handle

end SinkOperation

namespace SinkStore

/-- The operation is on a handle that exists, or on none. -/
def Permits (store : SinkStore) (operation : SinkOperation) : Prop :=
  ∀ handle ∈ operation.handle?, handle < store.handles.length

instance (store : SinkStore) : DecidablePred store.Permits := fun operation ↦
  inferInstanceAs (Decidable (∀ handle ∈ operation.handle?, handle < store.handles.length))

/-- What an operation means to the family that it is on. Opening a file that cannot be opened means
nothing to it. -/
def event? (store : SinkStore) : SinkOperation → Option SinkEvent
  | .fresh => some (.redirected store.sinks.length .errorOutput)
  | .openFile handle path =>
    match store.outlets.tree.openForAppending path with
    | .ok (location, _) => some (.redirected (store.sinkOf handle) (.file location))
    | .error _ => none
  | .useOutput handle => some (.redirected (store.sinkOf handle) .output)
  | .write handle bytes => some (.wrote (store.sinkOf handle) bytes)
  | .close handle => some (.redirected (store.sinkOf handle) .closed)
  | .clone _ | .flush _ => none

def run (store : SinkStore) (operations : List SinkOperation) : SinkStore :=
  operations.foldl (fun store operation ↦ (store.apply operation).2) store

def history (store : SinkStore) : List SinkOperation → List SinkEvent
  | [] => []
  | operation :: later =>
    (store.event? operation).toList ++ (store.apply operation).2.history later

/-- Every operation is on a handle that exists by then, or on none. -/
def PermitsAll (store : SinkStore) : List SinkOperation → Prop
  | [] => True
  | operation :: later => store.Permits operation ∧ (store.apply operation).2.PermitsAll later

instance (store : SinkStore) : DecidablePred store.PermitsAll := fun operations ↦
  decidePermitsAll store operations
where
  decidePermitsAll (store : SinkStore) : (operations : List SinkOperation) →
      Decidable (store.PermitsAll operations)
    | [] => isTrue trivial
    | operation :: later =>
      have := decidePermitsAll (store.apply operation).2 later
      inferInstanceAs (Decidable
        (store.Permits operation ∧ (store.apply operation).2.PermitsAll later))

variable {store : SinkStore}

theorem sinkOf_of_lt (handle : Nat) (h : handle < store.handles.length) :
    store.handles[handle]? = some (store.sinkOf handle) := by
  rw [sinkOf, List.getD_eq_getElem?_getD, List.getElem?_eq_getElem h, Option.getD_some]

theorem destination_of_lt (handle : Nat) (h : handle < store.handles.length) :
    store.destination handle = store.sinks[store.sinkOf handle]?.getD .closed := by
  rw [destination, sinkOf_of_lt handle h, Option.bind_some]

/-- The handles that there are stay what they are. -/
theorem handles_prefix_apply (store : SinkStore) (operation : SinkOperation) :
    store.handles <+: (store.apply operation).2.handles := by
  cases operation with
  | fresh => exact List.prefix_append _ _
  | clone handle => exact List.prefix_append _ _
  | openFile handle path =>
    unfold apply
    dsimp only
    split <;> exact List.prefix_rfl
  | useOutput | write | flush | close => exact List.prefix_rfl

theorem sinkOf_apply (operation : SinkOperation) (handle : Nat)
    (h : handle < store.handles.length) :
    (store.apply operation).2.sinkOf handle = store.sinkOf handle := by
  obtain ⟨added, hadded⟩ := store.handles_prefix_apply operation
  simp only [sinkOf, ← hadded, List.getD_eq_getElem?_getD, List.getElem?_append_left h]

/-! ## What a store reflects -/

/-- Every family is directed where the history says, and files and streams hold what they held
before and what has arrived since. -/
structure Reflects (store : SinkStore) (tree : FileTree) (history : List SinkEvent) : Prop where
  handles : ∀ sink ∈ store.handles, sink < store.sinks.length
  sinks : ∀ family < store.sinks.length, store.sinks[family]? = some (directed history family)
  files : ∀ location, location ≠ FileTree.nullDevice → store.outlets.tree.content? location =
    (contentBefore? tree history location).map (· ++ arrived history (.file location))
  output : store.outlets.output = { content := arrived history .output }
  errorOutput : store.outlets.errorOutput = { content := arrived history .errorOutput }

namespace Reflects

variable {tree : FileTree} {history : List SinkEvent} (h : store.Reflects tree history)

include h

theorem sinkOf_lt (handle : Nat) (hhandle : handle < store.handles.length) :
    store.sinkOf handle < store.sinks.length :=
  h.handles _ (List.mem_of_getElem? (sinkOf_of_lt handle hhandle))

theorem destination_eq (handle : Nat) (hhandle : handle < store.handles.length) :
    store.destination handle = directed history (store.sinkOf handle) := by
  rw [destination_of_lt handle hhandle, h.sinks _ (h.sinkOf_lt handle hhandle), Option.getD_some]

/-- A new handle on a sink that there is. -/
theorem withHandle (sink : Nat) (hsink : sink < store.sinks.length) :
    Reflects { store with handles := store.handles ++ [sink] } tree history := by
  refine ⟨fun other hother ↦ ?_, h.sinks, h.files, h.output, h.errorOutput⟩
  rcases List.mem_append.1 hother with hknown | hnew
  · exact h.handles other hknown
  · exact List.mem_singleton.1 hnew ▸ hsink

/-- A new family, directed to the error output. -/
theorem found : Reflects (store.apply .fresh).2 tree
    (history ++ [.redirected store.sinks.length .errorOutput]) := by
  have harrived (other : Destination) :
      arrived (history ++ [.redirected store.sinks.length .errorOutput]) other =
        arrived history other := by
    rw [arrived_concat]
    exact List.append_nil _
  constructor
  case handles =>
    intro sink hsink
    rw [SinkStore.apply, List.length_append, List.length_singleton]
    rcases List.mem_append.1 hsink with hknown | hnew
    · exact Nat.lt_succ_of_lt (h.handles sink hknown)
    · exact Nat.lt_succ_of_le (Nat.le_of_eq (List.mem_singleton.1 hnew))
  case sinks =>
    intro family hfamily
    rw [directed_concat_redirected]
    by_cases hnew : family = store.sinks.length
    · rw [if_pos hnew, hnew]
      exact List.getElem?_concat_length
    · have hknown : family < store.sinks.length := by
        simp only [SinkStore.apply, List.length_append, List.length_singleton] at hfamily
        omega
      rw [if_neg hnew, ← h.sinks family hknown]
      exact List.getElem?_append_left hknown
  case files =>
    intro location hnull
    rw [harrived, contentBefore?_concat_redirected, if_neg nofun, ← h.files location hnull]
    rfl
  case output => rw [harrived, ← h.output]; rfl
  case errorOutput => rw [harrived, ← h.errorOutput]; rfl

/-- A redirection of a family, where a file that it opens is there afterwards. -/
theorem redirect (family : Nat) (hfamily : family < store.sinks.length) (destination : Destination)
    (opened : FileTree)
    (hopened : ∀ location, opened.content? location =
      if destination = .file location then some ((store.outlets.tree.content? location).getD [])
      else store.outlets.tree.content? location) :
    Reflects { store with
        outlets := { store.outlets with tree := opened }
        sinks := store.sinks.set family destination }
      tree (history ++ [.redirected family destination]) := by
  have harrived (other : Destination) :
      arrived (history ++ [.redirected family destination]) other = arrived history other := by
    rw [arrived_concat]
    exact List.append_nil _
  constructor
  case handles =>
    intro sink hsink
    simpa using h.handles sink hsink
  case sinks =>
    intro other hother
    rw [List.length_set] at hother
    rw [directed_concat_redirected, List.getElem?_set]
    by_cases hsame : family = other
    · rw [if_pos hsame, if_pos hsame.symm, if_pos hfamily]
    · rw [if_neg hsame, if_neg (Ne.symm hsame), h.sinks other hother]
  case files =>
    intro location hnull
    rw [harrived, contentBefore?_concat_redirected, hopened, h.files location hnull]
    by_cases hfile : destination = .file location
    · rw [if_pos hfile, if_pos hfile]
      cases hbefore : contentBefore? tree history location with
      | some content => rfl
      | none =>
        have hunopened : history.any (SinkEvent.opens location) = false := by
          cases hany : history.any (SinkEvent.opens location) with
          | false => rfl
          | true => simp [contentBefore?, hany] at hbefore
        rw [arrived_of_not_opened history location hunopened]
        rfl
    · rw [if_neg hfile, if_neg hfile]
  case output => rw [harrived, ← h.output]
  case errorOutput => rw [harrived, ← h.errorOutput]

/-- A write arrives where its family is directed to, and nowhere else. -/
theorem write (handle : Nat) (hhandle : handle < store.handles.length) (bytes : Bytes) :
    Reflects (store.apply (.write handle bytes)).2 tree
      (history ++ [.wrote (store.sinkOf handle) bytes]) := by
  have hdestination := h.destination_eq handle hhandle
  have harrived (other : Destination) :
      arrived (history ++ [.wrote (store.sinkOf handle) bytes]) other = arrived history other ++
        if store.destination handle = other then bytes.take (other.accepted bytes) else [] := by
    rw [arrived_concat, hdestination]
    rfl
  simp only [apply]
  generalize store.destination handle = destination at harrived
  constructor
  case handles => exact h.handles
  case sinks =>
    intro family hfamily
    rw [directed_concat_wrote, h.sinks family hfamily]
  case files =>
    intro location hnull
    rw [Outlets.content?_write _ _ _ _ hnull, contentBefore?_concat_wrote, harrived,
      h.files location hnull]
    by_cases hfile : destination = .file location
    · rw [if_pos hfile, if_pos hfile, Option.map_map, hfile]
      simp only [Function.comp_def, List.append_assoc]
    · rw [if_neg hfile, if_neg hfile, List.append_nil]
  case output =>
    rw [Outlets.output_write, harrived, h.output]
    by_cases houtput : destination = .output
    · rw [if_pos houtput, if_pos houtput, houtput]
      rfl
    · rw [if_neg houtput, if_neg houtput, List.append_nil]
  case errorOutput =>
    rw [Outlets.errorOutput_write, harrived, h.errorOutput]
    by_cases herror : destination = .errorOutput
    · rw [if_pos herror, if_pos herror, herror]
      rfl
    · rw [if_neg herror, if_neg herror, List.append_nil]

/-- An operation leaves what its event says. -/
theorem apply (operation : SinkOperation) (hpermits : store.Permits operation) :
    Reflects (store.apply operation).2 tree (history ++ (store.event? operation).toList) := by
  have hsame : Reflects store tree (history ++ []) := by
    rwa [List.append_nil]
  have hexists : ∀ handle ∈ operation.handle?, store.sinkOf handle < store.sinks.length :=
    fun handle hhandle ↦ h.sinkOf_lt handle (hpermits handle hhandle)
  cases operation with
  | fresh => exact h.found
  | clone handle =>
    exact hsame.withHandle _ (hexists handle rfl)
  | openFile handle path =>
    simp only [SinkStore.apply, event?]
    cases hopen : store.outlets.tree.openForAppending path with
    | error cause => exact hsame
    | ok result =>
      obtain ⟨location, opened⟩ := result
      refine h.redirect _ (hexists handle rfl) _ opened fun other ↦ ?_
      rw [FileTree.content?_openForAppending _ _ _ _ other hopen]
      by_cases hother : other = location
      · rw [if_pos hother, if_pos (congrArg Destination.file hother.symm), hother]
      · rw [if_neg hother, if_neg fun hfile ↦ hother (Destination.file.inj hfile).symm]
  | useOutput handle =>
    exact h.redirect _ (hexists handle rfl) .output _ fun _ ↦ (if_neg nofun).symm
  | write handle bytes => exact h.write handle (hpermits handle rfl) bytes
  | flush handle => exact hsame
  | close handle =>
    exact h.redirect _ (hexists handle rfl) .closed _ fun _ ↦ (if_neg nofun).symm

theorem run (operations : List SinkOperation) (hpermits : store.PermitsAll operations) :
    Reflects (store.run operations) tree (history ++ store.history operations) := by
  induction operations generalizing store history with
  | nil =>
    rw [SinkStore.history, List.append_nil]
    exact h
  | cons operation later ih =>
    rw [SinkStore.history, ← List.append_assoc]
    exact ih (h.apply operation hpermits.1) hpermits.2

end Reflects

theorem reflects_start (tree : FileTree) :
    (start tree).Reflects tree [.redirected 0 .errorOutput] := by
  constructor
  case handles => simp [start]
  case sinks =>
    intro family hfamily
    obtain rfl : family = 0 := Nat.lt_one_iff.1 hfamily
    rfl
  case files =>
    intro location _
    have hbefore : contentBefore? tree [.redirected 0 .errorOutput] location =
        tree.content? location := by
      simp [contentBefore?, SinkEvent.opens]
    have harrived : arrived [.redirected 0 .errorOutput] (.file location) = [] := rfl
    rw [hbefore, harrived]
    simp [start]
  case output => rfl
  case errorOutput => rfl

/-! ## What a run keeps to -/

theorem states_of_lt (handle : Nat) (h : handle < store.handles.length) :
    store.states[handle]? =
      some (store.destination handle == .output, store.destination handle == .closed) := by
  unfold states
  rw [List.getElem?_map, List.getElem?_range h]
  rfl

/-- What holds of a store after a history, and of what is done to it next. -/
structure KeepsTrack (store : SinkStore) (tree : FileTree) (history : List SinkEvent) : Prop where
  destinations : ∀ handle < store.handles.length,
    store.destination handle = directed history (store.sinkOf handle)
  /-- A sink reports the same through all handles on it. -/
  clones : ∀ handle < store.handles.length, ∀ other < store.handles.length,
    store.sinkOf handle = store.sinkOf other →
      store.destination handle = store.destination other ∧
      store.states[handle]? = store.states[other]?
  /-- What is done to one family leaves every other where it is. -/
  apart : ∀ operation, ∀ handle < store.handles.length,
    (∀ acting ∈ operation.handle?, store.sinkOf acting ≠ store.sinkOf handle) →
    (store.apply operation).2.destination handle = store.destination handle ∧
    (store.apply operation).2.states[handle]? = store.states[handle]?
  /-- A handle belongs to its family for good. A clone joins that of its original, and a fresh sink
  founds a family of its own. -/
  stays : ∀ operation, ∀ handle < store.handles.length,
    (store.apply operation).2.sinkOf handle = store.sinkOf handle
  joins : ∀ handle < store.handles.length,
    (store.apply (.clone handle)).2.sinkOf store.handles.length = store.sinkOf handle
  founds : ∀ handle < store.handles.length,
    (store.apply .fresh).2.sinkOf store.handles.length ≠ store.sinkOf handle
  /-- Opening a file that cannot be opened changes nothing. -/
  refused : ∀ handle path cause, (store.apply (.openFile handle path)).1 = .error cause →
    (store.apply (.openFile handle path)).2 = store
  files : ∀ location, location ≠ FileTree.nullDevice → store.outlets.tree.content? location =
    (contentBefore? tree history location).map (· ++ arrived history (.file location))
  output : store.outlets.output.content = arrived history .output
  errorOutput : store.outlets.errorOutput.content = arrived history .errorOutput
  reports : ∀ handle bytes, (store.apply (.write handle bytes)).1 =
    .ok (some ((store.destination handle).accepted bytes))
  discards : ∀ handle bytes, store.destination handle = .closed →
    store.apply (.write handle bytes) = (.ok (some bytes.length), store)
  /-- Everything is taken as a whole but what ends in an overlong line on the standard output. -/
  whole : ∀ (destination : Destination) (bytes : Bytes), (destination ≠ .output ∨ ∀ lines rest,
    bytes = lines ++ 10 :: rest → 10 ∉ rest → rest.length < lineBufferSize) →
    destination.accepted bytes = bytes.length
  cut : ∀ lines rest : Bytes, 10 ∉ rest → lineBufferSize ≤ rest.length →
    Destination.accepted .output (lines ++ 10 :: rest) = lines.length + 1

namespace Reflects

variable {tree : FileTree} {history : List SinkEvent} (h : store.Reflects tree history)

include h

theorem destination_apply (operation : SinkOperation) (handle : Nat)
    (hhandle : handle < store.handles.length)
    (hapart : ∀ acting ∈ operation.handle?, store.sinkOf acting ≠ store.sinkOf handle) :
    (store.apply operation).2.destination handle = store.destination handle := by
  have hlater := Nat.lt_of_lt_of_le hhandle (store.handles_prefix_apply operation).length_le
  have hknown := h.sinkOf_lt handle hhandle
  rw [destination_of_lt handle hlater, sinkOf_apply operation handle hhandle,
    destination_of_lt handle hhandle]
  congr 1
  cases operation with
  | fresh => exact List.getElem?_append_left hknown
  | openFile acting path =>
    unfold SinkStore.apply
    dsimp only
    split
    · rfl
    · exact List.getElem?_set_ne (hapart acting rfl)
  | useOutput acting => exact List.getElem?_set_ne (hapart acting rfl)
  | close acting => exact List.getElem?_set_ne (hapart acting rfl)
  | clone | write | flush => rfl

theorem keepsTrack : store.KeepsTrack tree history := by
  constructor
  case destinations => exact h.destination_eq
  case clones =>
    intro handle hhandle other hother hsame
    have hdestination : store.destination handle = store.destination other := by
      rw [h.destination_eq handle hhandle, h.destination_eq other hother, hsame]
    rw [states_of_lt handle hhandle, states_of_lt other hother, hdestination]
    exact ⟨rfl, rfl⟩
  case apart =>
    intro operation handle hhandle hapart
    have hlater := Nat.lt_of_lt_of_le hhandle (store.handles_prefix_apply operation).length_le
    have hdestination := h.destination_apply operation handle hhandle hapart
    rw [states_of_lt handle hlater, states_of_lt handle hhandle, hdestination]
    exact ⟨rfl, rfl⟩
  case stays => exact fun operation handle ↦ sinkOf_apply operation handle
  case joins =>
    intro handle _
    simp [SinkStore.apply, sinkOf]
  case founds =>
    intro handle hhandle
    have hnew : (store.apply .fresh).2.sinkOf store.handles.length = store.sinks.length := by
      simp [SinkStore.apply, sinkOf]
    rw [hnew]
    exact (Nat.ne_of_lt (h.sinkOf_lt handle hhandle)).symm
  case refused =>
    intro handle path cause
    unfold SinkStore.apply
    dsimp only
    split
    · exact fun _ ↦ rfl
    · exact nofun
  case files => exact h.files
  case output => rw [h.output]
  case errorOutput => rw [h.errorOutput]
  case reports => exact fun _ _ ↦ rfl
  case discards =>
    intro handle bytes hclosed
    simp only [SinkStore.apply, hclosed, Outlets.write,
      accepted_of_not_overlong .closed bytes (.inl nofun)]
  case whole => exact accepted_of_not_overlong
  case cut => exact accepted_of_overlong

end Reflects

/-- Every run keeps track of where each family is directed to and of everything that is written. -/
theorem run_keepsTrack (tree : FileTree) (operations : List SinkOperation)
    (hpermits : (start tree).PermitsAll operations) :
    ((start tree).run operations).KeepsTrack tree
      (.redirected 0 .errorOutput :: (start tree).history operations) :=
  ((reflects_start tree).run operations hpermits).keepsTrack

/-- Two families append to one file. The first, which has a clone, is then closed, and the second
goes on to the standard output. -/
theorem run_keepsTrack_two_families :
    let tree : FileTree := ⟨[(["log"], .file [1])], [], []⟩
    let operations : List SinkOperation :=
      [.openFile 0 "/log", .clone 0, .fresh, .openFile 2 "/log", .write 0 [2], .write 2 [3],
        .openFile 1 "/none/log", .write 1 [4], .close 1, .write 0 [5], .useOutput 2, .write 2 [6]]
    (start tree).PermitsAll operations ∧
      ((start tree).run operations).outlets.tree.content? ["log"] = some [1, 2, 3, 4] ∧
      ((start tree).run operations).outlets.output.content = [6] ∧
      ((start tree).run operations).outlets.errorOutput.content = [] ∧
      ((start tree).run operations).states[0]? = ((start tree).run operations).states[1]? ∧
      ((start tree).run operations).destination 2 = .output := by
  intro tree operations
  have hpermits : (start tree).PermitsAll operations := by decide +kernel
  have hkeeps := run_keepsTrack tree operations hpermits
  have hclones := hkeeps.clones 0 (by decide +kernel) 1 (by decide +kernel) (by decide +kernel)
  exact ⟨hpermits, (hkeeps.files ["log"] (by decide)).trans (by decide +kernel),
    hkeeps.output.trans (by decide +kernel), hkeeps.errorOutput.trans (by decide +kernel),
    hclones.2, (hkeeps.destinations 2 (by decide +kernel)).trans (by decide +kernel)⟩

/-- One write through a handle on the standard output, of which what is behind the line end does
not arrive. -/
theorem output_of_overlong_write :
    let bytes : Bytes := 10 :: List.replicate 1024 120
    let first := start ⟨[], [], []⟩
    first.PermitsAll [.useOutput 0, .write 0 bytes] ∧
      (first.run [.useOutput 0]).destination 0 = .output ∧
      (first.run [.useOutput 0, .write 0 bytes]).outlets.output.content = [10] ∧
      (first.run [.useOutput 0, .write 0 bytes]).outlets.output.content ≠ bytes := by
  intro bytes first
  have hpermits : first.PermitsAll [.useOutput 0, .write 0 bytes] :=
    ⟨by decide, by decide, trivial⟩
  have hline : 10 ∉ List.replicate 1024 (120 : UInt8) := fun hmem ↦
    absurd (List.eq_of_mem_replicate hmem) (by decide)
  have haccepted : Destination.accepted .output bytes = 1 :=
    accepted_of_overlong [] _ hline (Nat.le_of_eq List.length_replicate.symm)
  have hcontent (written : Bytes) :
      (first.run [.useOutput 0, .write 0 written]).outlets.output.content =
        written.take (Destination.accepted .output written) := rfl
  rw [hcontent, haccepted]
  refine ⟨hpermits, rfl, rfl, fun hall ↦ ?_⟩
  have hlength := congrArg List.length (List.cons.inj hall).2
  rw [List.length_replicate] at hlength
  exact absurd hlength (by decide)

end SinkStore

end Regroup.Log
