import Regroup.Config.Settings
import Regroup.Proofs.Config.Sections
import Regroup.Proofs.Text.Numeral

/-!
# Which value of a setting is in force

A setting has the value that an option gives it, else the one of the configuration, else its
default. Five keys can have values that are none of their type. They are looked at in a fixed order,
and the first that is unfit is reported; a key that an option overrides is not looked at at all. So
settings depend on the keys that are looked at and on nothing else in the configuration.
-/

namespace Regroup.Config

open CommandLine (Options)

def IsText (value text : String) : Prop :=
  text = value

def IsSwitch (value : String) (on : Bool) : Prop :=
  value = if on then "true" else "false"

/-- A number that fits into eight bytes. -/
def IsSize (value : String) (n : Nat) : Prop :=
  Text.IsNumeral value.toList n ∧ n < UInt64.size

namespace Reader

theorem text_eq_ok_iff (value result : String) : text value = .ok result ↔ IsText value result := by
  unfold text IsText
  rw [Except.ok.injEq, eq_comm]

theorem bool_eq_ok_iff (value : String) (on : Bool) : bool value = .ok on ↔ IsSwitch value on := by
  unfold bool IsSwitch
  split <;> cases on <;> simp_all

theorem size_eq_ok_iff (value : String) (n : Nat) : size value = .ok n ↔ IsSize value n := by
  have hbound : n ≤ UInt64.size - 1 ↔ n < UInt64.size :=
    Nat.le_sub_one_iff_lt (by decide)
  unfold size natUpTo IsSize
  rw [mapError_eq_ok_iff, Text.readNat_eq_ok_iff, hbound]

end Reader

theorem IsSize.unique {value : String} {n n' : Nat} (h : IsSize value n) (h' : IsSize value n') :
    n = n' := by
  have hread := (Reader.size_eq_ok_iff value n).2 h
  have hread' := (Reader.size_eq_ok_iff value n').2 h'
  exact Except.ok.inj (hread.symm.trans hread')

/-- The keys whose values have to be of a type. -/
inductive CheckedKey where
  | receiveBuffer
  | daemonize
  | logging
  | useCache
  | socketBuffer

namespace CheckedKey

/-- In the order in which they are looked at. -/
def all : List CheckedKey :=
  [receiveBuffer, daemonize, logging, useCache, socketBuffer]

def sectionName : CheckedKey → String
  | receiveBuffer | socketBuffer => "channel"
  | daemonize | logging => "daemon"
  | useCache => "engine"

def name : CheckedKey → String
  | receiveBuffer => "recv_buffer"
  | daemonize => "daemonize"
  | logging => "logging"
  | useCache => "use_cache"
  | socketBuffer => "socket_rcvbuf"

def raw? (config : Configuration) (key : CheckedKey) : Option String :=
  (config.named key.sectionName).raw? key.name

/-- An option takes the place of the value. -/
def isOverridden (options : Options) : CheckedKey → Bool
  | daemonize => options.nodaemon
  | logging => options.nolog
  | receiveBuffer | useCache | socketBuffer => false

def Accepts : CheckedKey → String → Prop
  | receiveBuffer, value => ∃ n, IsSize value n ∧ 64 ≤ n
  | daemonize, value | logging, value | useCache, value => value = "true" ∨ value = "false"
  | socketBuffer, value => ∃ n, IsSize value n

/-- A value is shown as it was written, but a receive buffer as a number if it is one. -/
def ShowsAs : CheckedKey → String → String → Prop
  | receiveBuffer, value, shown =>
    (∃ n, IsSize value n ∧ shown = toString n) ∨ ((∀ n, ¬ IsSize value n) ∧ shown = value)
  | daemonize, value, shown | logging, value, shown | useCache, value, shown
  | socketBuffer, value, shown => shown = value

variable (config : Configuration) (options : Options)

def IsFit (key : CheckedKey) : Prop :=
  key.isOverridden options = true ∨ ∀ value, key.raw? config = some value → key.Accepts value

/-- The error names a key that is unfit, and shows its value. -/
inductive IsReported (key : CheckedKey) : ConfigError → Prop where
  | intro (value shown reason : String) (hgiven : key.isOverridden options = false)
      (hraw : key.raw? config = some value) (hunfit : ¬ key.Accepts value)
      (hshown : key.ShowsAs value shown) :
      IsReported key (.invalidValue (key.sectionName ++ "." ++ key.name) shown reason)

/-- The outcome of looking at one key. -/
def Settles {α : Type} (key : CheckedKey) : Except ConfigError α → Prop
  | .ok _ => key.IsFit config options
  | .error error => key.IsReported config options error

/-- The outcome of looking at keys one after the other. -/
def SettleInTurn {α : Type} (keys : List CheckedKey) : Except ConfigError α → Prop
  | .ok _ => ∀ key ∈ keys, key.IsFit config options
  | .error error => ∃ before key after, keys = before ++ key :: after ∧
      (∀ other ∈ before, other.IsFit config options) ∧ key.IsReported config options error

variable {config options}

theorem isFit_of_missing (key : CheckedKey) (h : key.raw? config = none) :
    key.IsFit config options := by
  right
  intro value hvalue
  rw [h] at hvalue
  cases hvalue

theorem isFit_of_accepts (key : CheckedKey) (value : String) (hraw : key.raw? config = some value)
    (h : key.Accepts value) : key.IsFit config options := by
  right
  intro value' hvalue'
  obtain rfl := Option.some.inj (hraw.symm.trans hvalue')
  exact h

theorem IsReported.not_isFit {key : CheckedKey} {error : ConfigError}
    (h : key.IsReported config options error) : ¬ key.IsFit config options := by
  obtain ⟨value, shown, reason, hgiven, hraw, hunfit, -⟩ := h
  rintro (hoverridden | hfit)
  · rw [hgiven] at hoverridden
    cases hoverridden
  · exact hunfit (hfit value hraw)

theorem Settles.map {α β : Type} {key : CheckedKey} {x : Except ConfigError α} (f : α → β)
    (h : key.Settles config options x) : key.Settles config options (x.map f) := by
  cases x with
  | error error => exact h
  | ok a => exact h

theorem SettleInTurn.bind {α β : Type} {key : CheckedKey} {keys : List CheckedKey}
    {x : Except ConfigError α} {f : α → Except ConfigError β} (hx : key.Settles config options x)
    (hrest : ∀ a, SettleInTurn config options keys (f a)) :
    SettleInTurn config options (key :: keys) (x >>= f) := by
  cases x with
  | error error => exact ⟨[], key, keys, rfl, nofun, hx⟩
  | ok a =>
    have hturn := hrest a
    change SettleInTurn config options (key :: keys) (f a)
    cases hfa : f a with
    | error error =>
      rw [hfa] at hturn
      obtain ⟨before, other, after, rfl, hbefore, hother⟩ := hturn
      exact ⟨key :: before, other, after, rfl, List.forall_mem_cons.2 ⟨hx, hbefore⟩, hother⟩
    | ok b =>
      rw [hfa] at hturn
      exact List.forall_mem_cons.2 ⟨hx, hturn⟩

/-- A key is settled by reading its value, if what it accepts is what can be read. -/
theorem settles_value? {α : Type} (key : CheckedKey) (read : Reader α)
    (hgiven : key.isOverridden options = false)
    (haccepts : ∀ value, key.Accepts value ↔ ∃ a, read value = .ok a)
    (hshows : ∀ value, key.ShowsAs value value) :
    key.Settles config options ((config.named key.sectionName).value? read key.name) := by
  have hname := config.name_named key.sectionName
  unfold Section.value?
  cases hraw : (config.named key.sectionName).raw? key.name with
  | none => exact key.isFit_of_missing hraw
  | some value =>
    dsimp only
    cases hread : read value with
    | ok a => exact key.isFit_of_accepts value hraw ((haccepts value).2 ⟨a, hread⟩)
    | error reason =>
      have hunfit : ¬ key.Accepts value := by
        intro haccepted
        obtain ⟨a, ha⟩ := (haccepts value).1 haccepted
        rw [hread] at ha
        cases ha
      rw [hname]
      exact .intro value value reason hgiven hraw hunfit (hshows value)

theorem settles_switch (key : CheckedKey)
    (haccepts : ∀ value, key.Accepts value ↔ value = "true" ∨ value = "false")
    (hshows : ∀ value, key.ShowsAs value value) :
    key.Settles config options
      (Settings.switch (key.isOverridden options) (config.named key.sectionName) key.name) := by
  unfold Settings.switch
  cases hgiven : key.isOverridden options with
  | true => exact .inl hgiven
  | false =>
    apply Settles.map
    apply settles_value? key .bool hgiven _ hshows
    intro value
    rw [haccepts]
    simp [Reader.bool_eq_ok_iff, IsSwitch, or_comm]

theorem settles_receiveBuffer :
    receiveBuffer.Settles config options (Settings.receiveBuffer (config.named "channel")) := by
  have hname := config.name_named "channel"
  unfold Settings.receiveBuffer Section.valueOr Section.value?
  cases hraw : (config.named "channel").raw? "recv_buffer" with
  | none => exact receiveBuffer.isFit_of_missing hraw
  | some value =>
    dsimp only
    cases hread : Reader.size value with
    | error reason =>
      have hnone (n : Nat) : ¬ IsSize value n := by
        rw [← Reader.size_eq_ok_iff, hread]
        exact nofun
      have hunfit : ¬ receiveBuffer.Accepts value := by
        rintro ⟨n, hsize, -⟩
        exact hnone n hsize
      rw [hname]
      exact .intro value value reason rfl hraw hunfit (.inr ⟨hnone, rfl⟩)
    | ok n =>
      have hsize := (Reader.size_eq_ok_iff value n).1 hread
      change receiveBuffer.Settles config options (if n < Settings.minReceiveBuffer then _ else _)
      split
      · rename_i hsmall
        have hunfit : ¬ receiveBuffer.Accepts value := by
          rintro ⟨n', hsize', hlarge⟩
          obtain rfl := hsize.unique hsize'
          exact absurd hlarge (Nat.not_le_of_lt hsmall)
        exact .intro value (toString n) _ rfl hraw hunfit (.inl ⟨n, hsize, rfl⟩)
      · rename_i hlarge
        exact receiveBuffer.isFit_of_accepts value hraw ⟨n, hsize, Nat.le_of_not_lt hlarge⟩

end CheckedKey

/-! ## Values in force -/

/-- The value that an option gives, else the one that the configuration states, else a default. -/
inductive InForce {α : Type} (States : String → α → Prop) (given : Option α)
    (raw : Option String) (default : α) : α → Prop where
  | option (a : α) (hgiven : given = some a) : InForce States given raw default a
  | file (value : String) (a : α) (hgiven : given = none) (hraw : raw = some value)
      (hstates : States value a) : InForce States given raw default a
  | default (hgiven : given = none) (hraw : raw = none) : InForce States given raw default default

/-- A setting that may be missing is present where the configuration states a value. -/
def IsPresent {α : Type} (States : String → α → Prop) (value : String) (a? : Option α) : Prop :=
  ∃ a, a? = some a ∧ States value a

/-- An option that turns a switch off. -/
def turnedOff? (flag : Bool) : Option Bool :=
  if flag then some false else none

theorem inForce_of_value? {α : Type} (States : String → α → Prop) (s : Section) (read : Reader α)
    (key : String) (a? : Option α) (hread : ∀ value a, read value = .ok a ↔ States value a)
    (h : s.value? read key = .ok a?) : InForce (IsPresent States) none (s.raw? key) none a? := by
  unfold Section.value? at h
  split at h
  · rename_i hraw
    obtain rfl := Except.ok.inj h
    exact .default rfl hraw
  · rename_i value hraw
    split at h
    · rename_i a ha
      obtain rfl := Except.ok.inj h
      exact .file value _ rfl hraw ⟨a, rfl, (hread value a).1 ha⟩
    · cases h

theorem inForce_of_valueOr {α : Type} (States : String → α → Prop) (s : Section) (read : Reader α)
    (key : String) (default a : α) (hread : ∀ value a, read value = .ok a ↔ States value a)
    (h : s.valueOr read key default = .ok a) : InForce States none (s.raw? key) default a := by
  obtain ⟨a?, ha?, rfl⟩ := (map_eq_ok_iff _ _ _).1 h
  cases inForce_of_value? States s read key a? hread ha? with
  | option _ hgiven => cases hgiven
  | file value _ _ hraw hstates =>
    obtain ⟨a, rfl, ha⟩ := hstates
    exact .file value a rfl hraw ha
  | default _ hraw => exact .default rfl hraw

namespace Settings

/-- Every setting has the value in force. -/
structure IsResolved (config : Configuration) (options : Options) (settings : Settings) :
    Prop where
  daemonize : InForce IsSwitch (turnedOff? options.nodaemon)
    ((config.named "daemon").raw? "daemonize") true settings.daemonize
  logging : InForce IsSwitch (turnedOff? options.nolog)
    ((config.named "daemon").raw? "logging") true settings.logging
  logFile : InForce IsText options.log ((config.named "daemon").raw? "log_file")
    "/var/log/cgrulesd.log" settings.logFile
  processRoot : InForce IsText none ((config.named "daemon").raw? "proc_root") "/proc"
    settings.processRoot
  rulesFile : InForce IsText options.rules ((config.named "engine").raw? "rules_file")
    "/etc/cgrules.conf" settings.rulesFile
  cgroupRoot : InForce (IsPresent IsText) none ((config.named "engine").raw? "cgroup_root") none
    settings.cgroupRoot
  useCache : InForce IsSwitch none ((config.named "engine").raw? "use_cache") true
    settings.useCache
  receiveBuffer : InForce IsSize none ((config.named "channel").raw? "recv_buffer") 4096
    settings.channel.receiveBuffer
  socketBuffer : InForce (IsPresent IsSize) none ((config.named "channel").raw? "socket_rcvbuf")
    none settings.channel.socketBuffer

theorem inForce_of_switch (flag : Bool) (s : Section) (key : String) (on : Bool)
    (h : switch flag s key = .ok on) :
    InForce IsSwitch (turnedOff? flag) (s.raw? key) true on := by
  cases flag with
  | true =>
    obtain rfl := Except.ok.inj h
    exact .option false rfl
  | false =>
    exact inForce_of_valueOr IsSwitch s .bool key true on Reader.bool_eq_ok_iff h

theorem inForce_of_path (given : Option String) (s : Section) (key default text : String)
    (h : path given s key default = .ok text) :
    InForce IsText given (s.raw? key) default text := by
  cases given with
  | some givenText =>
    obtain rfl := Except.ok.inj h
    exact .option givenText rfl
  | none =>
    exact inForce_of_valueOr IsText s .text key default text Reader.text_eq_ok_iff h

theorem inForce_of_receiveBuffer (s : Section) (size : Nat) (h : receiveBuffer s = .ok size) :
    InForce IsSize none (s.raw? "recv_buffer") 4096 size := by
  obtain ⟨found, hfound, hsize⟩ := (bind_eq_ok_iff _ _ _).1 h
  split at hsize
  · cases hsize
  · obtain rfl := Except.ok.inj hsize
    exact inForce_of_valueOr IsSize s .size "recv_buffer" 4096 found Reader.size_eq_ok_iff hfound

theorem isResolved_of_resolve (config : Configuration) (options : Options) (settings : Settings)
    (h : resolve config options = .ok settings) : IsResolved config options settings := by
  unfold resolve at h
  simp only [bind_eq_ok_iff] at h
  obtain ⟨size, hsize, daemonize, hdaemonize, logging, hlogging, logFile, hlogFile, processRoot,
    hprocessRoot, rulesFile, hrulesFile, cgroupRoot, hcgroupRoot, useCache, huseCache,
    socketBuffer, hsocketBuffer, ⟨⟩⟩ := h
  constructor
  case daemonize => exact inForce_of_switch _ _ _ _ hdaemonize
  case logging => exact inForce_of_switch _ _ _ _ hlogging
  case logFile => exact inForce_of_path _ _ _ _ _ hlogFile
  case processRoot => exact inForce_of_path _ _ _ _ _ hprocessRoot
  case rulesFile => exact inForce_of_path _ _ _ _ _ hrulesFile
  case cgroupRoot =>
    exact inForce_of_value? IsText _ .text _ _ Reader.text_eq_ok_iff hcgroupRoot
  case useCache =>
    exact inForce_of_valueOr IsSwitch _ .bool _ _ _ Reader.bool_eq_ok_iff huseCache
  case receiveBuffer => exact inForce_of_receiveBuffer _ _ hsize
  case socketBuffer =>
    exact inForce_of_value? IsSize _ .size _ _ Reader.size_eq_ok_iff hsocketBuffer

/-- The values that settings depend on, by section and key. -/
inductive IsConsulted (options : Options) : String → String → Prop where
  | receiveBuffer : IsConsulted options "channel" "recv_buffer"
  | socketBuffer : IsConsulted options "channel" "socket_rcvbuf"
  | daemonize (hgiven : options.nodaemon = false) : IsConsulted options "daemon" "daemonize"
  | logging (hgiven : options.nolog = false) : IsConsulted options "daemon" "logging"
  | logFile (hgiven : options.log = none) : IsConsulted options "daemon" "log_file"
  | processRoot : IsConsulted options "daemon" "proc_root"
  | rulesFile (hgiven : options.rules = none) : IsConsulted options "engine" "rules_file"
  | cgroupRoot : IsConsulted options "engine" "cgroup_root"
  | useCache : IsConsulted options "engine" "use_cache"

def AgreeOn (consulted : String → String → Prop) (config config' : Configuration) : Prop :=
  ∀ name key, consulted name key → (config.named name).raw? key = (config'.named name).raw? key

section Congruence

variable {config config' : Configuration} {name key : String}

theorem value?_congr {α : Type} (read : Reader α)
    (h : (config.named name).raw? key = (config'.named name).raw? key) :
    (config.named name).value? read key = (config'.named name).value? read key := by
  have hname := (config.name_named name).trans (config'.name_named name).symm
  unfold Section.value?
  rw [h, hname]

theorem valueOr_congr {α : Type} (read : Reader α) (default : α)
    (h : (config.named name).raw? key = (config'.named name).raw? key) :
    (config.named name).valueOr read key default =
      (config'.named name).valueOr read key default := by
  unfold Section.valueOr
  rw [value?_congr read h]

theorem receiveBuffer_congr
    (h : (config.named name).raw? "recv_buffer" = (config'.named name).raw? "recv_buffer") :
    receiveBuffer (config.named name) = receiveBuffer (config'.named name) := by
  unfold receiveBuffer
  rw [valueOr_congr .size defaultReceiveBuffer h]

theorem switch_congr (flag : Bool)
    (h : flag = false → (config.named name).raw? key = (config'.named name).raw? key) :
    switch flag (config.named name) key = switch flag (config'.named name) key := by
  cases flag with
  | true => rfl
  | false => exact valueOr_congr .bool true (h rfl)

theorem path_congr (given : Option String) (default : String)
    (h : given = none → (config.named name).raw? key = (config'.named name).raw? key) :
    path given (config.named name) key default = path given (config'.named name) key default := by
  cases given with
  | some text => rfl
  | none => exact valueOr_congr .text default (h rfl)

end Congruence

theorem resolve_congr (config config' : Configuration) (options : Options)
    (h : AgreeOn (IsConsulted options) config config') :
    resolve config' options = resolve config options := by
  unfold resolve
  dsimp only
  rw [receiveBuffer_congr (h _ _ .receiveBuffer),
    switch_congr options.nodaemon (fun hgiven ↦ h _ _ (.daemonize hgiven)),
    switch_congr options.nolog (fun hgiven ↦ h _ _ (.logging hgiven)),
    path_congr options.log defaultLogFile (fun hgiven ↦ h _ _ (.logFile hgiven)),
    path_congr none defaultProcessRoot (fun _ ↦ h _ _ .processRoot),
    path_congr options.rules defaultRulesFile (fun hgiven ↦ h _ _ (.rulesFile hgiven)),
    value?_congr .text (h _ _ .cgroupRoot), valueOr_congr .bool true (h _ _ .useCache),
    value?_congr .size (h _ _ .socketBuffer)]

/-! ## Outcomes -/

/-- A path is a text, and every text is one. -/
theorem exists_path (given : Option String) (s : Section) (key default : String) :
    ∃ text, path given s key default = .ok text := by
  unfold path Section.valueOr Section.value?
  cases given with
  | some text => exact ⟨text, rfl⟩
  | none => cases s.raw? key <;> exact ⟨_, rfl⟩

theorem exists_value?_text (s : Section) (key : String) :
    ∃ text?, s.value? .text key = .ok text? := by
  unfold Section.value?
  cases s.raw? key <;> exact ⟨_, rfl⟩

/-- Only keys that have to be of a type count, and they do in their order. -/
theorem settleInTurn_resolve (config : Configuration) (options : Options) :
    CheckedKey.SettleInTurn config options CheckedKey.all (resolve config options) := by
  obtain ⟨logFile, hlogFile⟩ :=
    exists_path options.log (config.named "daemon") "log_file" defaultLogFile
  obtain ⟨processRoot, hprocessRoot⟩ :=
    exists_path none (config.named "daemon") "proc_root" defaultProcessRoot
  obtain ⟨rulesFile, hrulesFile⟩ :=
    exists_path options.rules (config.named "engine") "rules_file" defaultRulesFile
  obtain ⟨cgroupRoot, hcgroupRoot⟩ := exists_value?_text (config.named "engine") "cgroup_root"
  unfold resolve
  simp only [hlogFile, hprocessRoot, hrulesFile, hcgroupRoot]
  apply CheckedKey.SettleInTurn.bind CheckedKey.settles_receiveBuffer
  intro receiveBuffer
  apply CheckedKey.SettleInTurn.bind
    (CheckedKey.settles_switch .daemonize (fun _ ↦ Iff.rfl) fun _ ↦ rfl)
  intro daemonize
  apply CheckedKey.SettleInTurn.bind
    (CheckedKey.settles_switch .logging (fun _ ↦ Iff.rfl) fun _ ↦ rfl)
  intro logging
  apply CheckedKey.SettleInTurn.bind
    (CheckedKey.settles_switch .useCache (fun _ ↦ Iff.rfl) fun _ ↦ rfl)
  intro useCache
  have hsizes (value : String) :
      CheckedKey.socketBuffer.Accepts value ↔ ∃ n, Reader.size value = .ok n :=
    exists_congr fun n ↦ (Reader.size_eq_ok_iff value n).symm
  apply CheckedKey.SettleInTurn.bind (CheckedKey.settles_value? .socketBuffer .size rfl hsizes
    fun _ ↦ rfl)
  intro socketBuffer
  exact nofun

/-- Settings are resolved if and only if every key that is looked at is fit; else the first that is
not is reported. Resolved settings are the values in force, and neither they nor an error depend on
anything but the keys that are consulted. -/
theorem resolve_by_precedence (config : Configuration) (options : Options) :
    ((∃ settings, resolve config options = .ok settings) ↔
      ∀ key ∈ CheckedKey.all, key.IsFit config options) ∧
    (∀ error, resolve config options = .error error →
      ∃ before key after, CheckedKey.all = before ++ key :: after ∧
        (∀ other ∈ before, other.IsFit config options) ∧ key.IsReported config options error) ∧
    (∀ settings, resolve config options = .ok settings → IsResolved config options settings) ∧
    ∀ config', AgreeOn (IsConsulted options) config config' →
      resolve config' options = resolve config options := by
  have hturn := settleInTurn_resolve config options
  refine ⟨⟨?_, ?_⟩, ?_, fun settings ↦ isResolved_of_resolve config options settings,
    fun config' ↦ resolve_congr config config' options⟩
  · rintro ⟨settings, hsettings⟩
    rw [hsettings] at hturn
    exact hturn
  · intro hfit
    cases hresult : resolve config options with
    | ok settings => exact ⟨settings, rfl⟩
    | error error =>
      rw [hresult] at hturn
      obtain ⟨before, key, after, hall, -, hreported⟩ := hturn
      have hmem : key ∈ CheckedKey.all := by
        rw [hall]
        exact List.mem_append_right before List.mem_cons_self
      exact absurd (hfit key hmem) hreported.not_isFit
  · intro error herror
    rw [herror] at hturn
    exact hturn

/-- A value that is overridden does not count although it is none of its type, and neither do other
sections. A receive buffer that is too small is shown as a number and reported before the socket
buffer. -/
theorem resolve_by_precedence_past_overridden :
    let options : Options := { nodaemon := true, rules := some "rules" }
    let channel : Section := ⟨"channel", [("recv_buffer", "+64")]⟩
    let config : Configuration :=
      [⟨"daemon", [("daemonize", "maybe"), ("logging", "false"), ("log_file", "log")]⟩, channel]
    let config' : Configuration :=
      [channel, ⟨"", [("depth", "x")]⟩, ⟨"daemon", [("log_file", "log"), ("logging", "false")]⟩,
        ⟨"engine", [("rules_file", "other")]⟩]
    let settings : Settings := ⟨false, false, "log", "/proc", "rules", none, true, ⟨64, none⟩⟩
    let small : Configuration :=
      [⟨"channel", [("recv_buffer", "+16"), ("socket_rcvbuf", "x")]⟩]
    let error : ConfigError :=
      .invalidValue "channel.recv_buffer" "16" "must be at least 64 bytes"
    resolve config options = .ok settings ∧
      (∀ key ∈ CheckedKey.all, key.IsFit config options) ∧
      IsResolved config options settings ∧
      AgreeOn (IsConsulted options) config config' ∧
      resolve config' options = resolve config options ∧
      resolve small options = .error error ∧
      ∃ before key after, CheckedKey.all = before ++ key :: after ∧
        (∀ other ∈ before, other.IsFit small options) ∧ key.IsReported small options error := by
  intro options channel config config' settings small error
  have hsettings : resolve config options = .ok settings := by rfl
  have herror : resolve small options = .error error := by rfl
  have hagree : AgreeOn (IsConsulted options) config config' := by
    intro name key hconsulted
    cases hconsulted with
    | daemonize hgiven => cases hgiven
    | rulesFile hgiven => cases hgiven
    | _ => rfl
  obtain ⟨hok, -, hresolved, hcongr⟩ := resolve_by_precedence config options
  obtain ⟨-, hfirst, -, -⟩ := resolve_by_precedence small options
  exact ⟨hsettings, hok.1 ⟨settings, hsettings⟩, hresolved settings hsettings, hagree,
    hcongr config' hagree, herror, hfirst error herror⟩

end Settings

end Regroup.Config
