import Regroup.Proofs.Daemon.Stages

/-!
# Milestones

Of all that a daemon does only a few things are milestones here: the messages that it sends to the
kernel, the batches that it handles, and the flushes of its log. Everything else happens in between.
A stage of the start is told by the milestones that it passes, whether it succeeds or fails, and
stages one behind the other pass theirs in turn.
-/

namespace Regroup.Daemon

open CommandLine (Options)
open Config (Settings)
open Log (Record)
open Netlink (Subscription)

inductive Milestone where
  | sent (message : Bytes) (failure : Option Int)
  | handled (batch : Bytes)
  | flushed
deriving DecidableEq

def Effect.milestone? : Effect → Option Milestone
  | called (.send message) failure => some (.sent message failure)
  | handled batch => some (.handled batch)
  | flushed => some .flushed
  | called _ _ | logged _ | listed _ _ | closed => none

namespace Machine

def milestones (m : Machine) : List Milestone :=
  m.journal.filterMap Effect.milestone?

/-- From the earlier machine on, the later one has passed just these milestones. -/
structure Passes (m : Machine) (milestones : List Milestone) (m' : Machine) : Prop where
  kernel : m'.kernel = m.kernel
  milestones : m'.milestones = m.milestones ++ milestones

namespace Passes

variable {m m' m'' : Machine} {milestones later : List Milestone}

theorem of_eq (hkernel : m'.kernel = m.kernel) (hjournal : m'.journal = m.journal) :
    m.Passes [] m' :=
  ⟨hkernel, by rw [Machine.milestones, hjournal, List.append_nil, Machine.milestones]⟩

theorem refl (m : Machine) : m.Passes [] m :=
  of_eq rfl rfl

theorem trans (h : m.Passes milestones m') (h' : m'.Passes later m'') :
    m.Passes (milestones ++ later) m'' := by
  refine ⟨h'.kernel.trans h.kernel, ?_⟩
  rw [h'.milestones, h.milestones, List.append_assoc]

theorem quietly (h : m.Passes milestones m') (h' : m'.Passes [] m'') :
    m.Passes milestones m'' := by
  have hpasses := h.trans h'
  rwa [List.append_nil] at hpasses

theorem note (h : m.Passes milestones m') (effect : Effect) :
    m.Passes (milestones ++ effect.milestone?.toList) (m'.note effect) := by
  refine h.trans ⟨rfl, ?_⟩
  rw [Machine.milestones, Machine.note, List.filterMap_append]
  cases hmilestone : effect.milestone? <;> simp [Machine.milestones, hmilestone]

theorem log (h : m.Passes milestones m') (record : Record) :
    m.Passes milestones (m'.log record) := by
  have hnoted := h.quietly ((refl m').note (.logged record))
  unfold Machine.log
  dsimp only
  split
  · exact hnoted.quietly (of_eq rfl rfl)
  · exact hnoted

theorem logAll (h : m.Passes milestones m') (records : List Record) :
    m.Passes milestones (m'.logAll records) := by
  induction records generalizing m' with
  | nil => exact h
  | cons record records ih => exact ih (h.log record)

theorem list (h : m.Passes milestones m') (generation : Nat) (listing : String) :
    m.Passes milestones (m'.list generation listing) := by
  have hwritten : m.Passes milestones (m'.write listing) := h.quietly (of_eq rfl rfl)
  exact hwritten.quietly ((refl (m'.write listing)).note (.listed generation listing))

theorem flush (h : m.Passes milestones m') : m.Passes (milestones ++ [.flushed]) m'.flush :=
  h.note .flushed

theorem close (h : m.Passes milestones m') : m.Passes milestones m'.close := by
  have hreleased : m.Passes milestones { m' with destination := .closed } :=
    h.quietly (of_eq rfl rfl)
  exact hreleased.quietly ((refl _).note .closed)

theorem withTree (h : m.Passes milestones m') (tree : FileTree) :
    m.Passes milestones (m'.withTree tree) :=
  h.quietly (of_eq rfl rfl)

theorem call (h : m.Passes milestones m') (c : SystemCall) :
    m.Passes (milestones ++ (Effect.called c (m'.call c).1).milestone?.toList) (m'.call c).2 := by
  have hnoted := h.note (.called c (m'.call c).1)
  refine ⟨(m'.kernel_call c).trans h.kernel, ?_⟩
  rw [Machine.milestones, m'.journal_call c]
  exact hnoted.milestones

theorem send (h : m.Passes milestones m') (message : Bytes) :
    m.Passes (milestones ++ [.sent message (m.kernel.failure (.send message))])
      (m'.call (.send message)).2 := by
  have hcall := h.call (.send message)
  rwa [m'.fst_call_of_ne _ (by simp), h.kernel] at hcall

end Passes

end Machine

/-! ## Into the background -/

/-- None of the calls that detach the child sends anything. -/
theorem passes_callInTurn (steps : List (SystemCall × String)) (m : Machine)
    (h : ∀ step ∈ steps, ∀ message, step.1 ≠ .send message) :
    m.Passes [] (callInTurn steps m).2 := by
  refine callInTurn_keeps (m.Passes []) steps (fun reached hreached step hstep ↦ ?_) m (.refl m)
  obtain ⟨call, name⟩ := step
  have hnone (failure : Option Int) : (Effect.called call failure).milestone? = none := by
    cases call with
    | send message => exact absurd rfl (h _ hstep message)
    | _ => rfl
  have hpasses := hreached.call call
  rwa [hnone] at hpasses

theorem passes_enterBackground (keepOutput : Bool) (m : Machine) :
    m.Passes [] (enterBackground keepOutput m).2 := by
  have hasked : m.Passes [] { m with inBackground := true } := .of_eq rfl rfl
  have hforked : m.Passes [] (Machine.call { m with inBackground := true } .fork).2 :=
    hasked.call .fork
  rcases snd_enterBackground keepOutput m with hthere | hfailed | ⟨child, -, hparent⟩ |
    ⟨-, hdetached⟩
  · rw [hthere]
    exact .refl m
  · rw [hfailed]
    exact hforked
  · rw [hparent]
    exact (hforked.log _).quietly (.of_eq rfl rfl)
  · rw [hdetached]
    have hcleared := hforked.note (.called .clearFileMask none)
    refine hcleared.quietly (passes_callInTurn _ _ ?_)
    cases keepOutput <;> simp [detachingSteps, redirectedStreams]

/-! ## Stages -/

namespace Stage

/-- The end of a stage that was begun with the machine, and the milestones passed on the way. -/
def Arrives {α : Type} (m : Machine) (returned : α → List Milestone → Prop)
    (failed : List Milestone → Prop) : EStateM.Result Halt Machine α → Prop
  | .ok value m' => ∃ milestones, m.Passes milestones m' ∧ returned value milestones
  | .error _ m' => ∃ milestones, m.Passes milestones m' ∧ failed milestones

/-- Run by a process of the given kernel, the stage passes milestones that are as said of its result
if it succeeds, and as said of a failure if it fails. -/
def Passes {α : Type} (kernel : Kernel) (x : Stage α) (returned : α → List Milestone → Prop)
    (failed : List Milestone → Prop) : Prop :=
  ∀ m, m.kernel = kernel → Arrives m returned failed (x.run m)

/-- The stage passes no milestone. -/
def IsSilent {α : Type} (kernel : Kernel) (x : Stage α) : Prop :=
  x.Passes kernel (fun _ milestones ↦ milestones = []) (fun milestones ↦ milestones = [])

section
variable {kernel : Kernel} {α β : Type} {x : Stage α} {f : α → Stage β}
variable {returned : α → List Milestone → Prop} {returned' : β → List Milestone → Prop}
variable {failed failed' : List Milestone → Prop}

theorem Passes.bind (hx : x.Passes kernel returned failed)
    (hfailed : ∀ milestones, failed milestones → failed' milestones)
    (hf : ∀ value milestones, returned value milestones →
      (f value).Passes kernel (fun result later ↦ returned' result (milestones ++ later))
        (fun later ↦ failed' (milestones ++ later))) :
    (x >>= f).Passes kernel returned' failed' := by
  intro m hkernel
  have hfirst : Arrives m returned failed (x m) := hx m hkernel
  change Arrives m returned' failed' (EStateM.bind x f m)
  rw [EStateM.bind]
  cases hrun : x m with
  | error halt reached =>
    rw [hrun] at hfirst
    obtain ⟨milestones, hpasses, hreached⟩ := hfirst
    exact ⟨milestones, hpasses, hfailed milestones hreached⟩
  | ok value reached =>
    rw [hrun] at hfirst
    obtain ⟨milestones, hpasses, hreached⟩ := hfirst
    have hsecond : Arrives reached _ _ (f value reached) :=
      hf value milestones hreached reached (hpasses.kernel.trans hkernel)
    dsimp only
    cases hnext : f value reached with
    | ok result last =>
      rw [hnext] at hsecond
      obtain ⟨later, hlater, hlast⟩ := hsecond
      exact ⟨_, hpasses.trans hlater, hlast⟩
    | error halt last =>
      rw [hnext] at hsecond
      obtain ⟨later, hlater, hlast⟩ := hsecond
      exact ⟨_, hpasses.trans hlater, hlast⟩

theorem IsSilent.bind (hx : x.IsSilent kernel) (hfailed : failed' [])
    (hf : ∀ value, (f value).Passes kernel returned' failed') :
    (x >>= f).Passes kernel returned' failed' := by
  refine Passes.bind hx (fun milestones hnone ↦ hnone ▸ hfailed) fun value milestones hnone ↦ ?_
  subst hnone
  exact hf value

theorem IsSilent.then (hx : x.IsSilent kernel) (hf : ∀ value, (f value).IsSilent kernel) :
    (x >>= f).IsSilent kernel :=
  hx.bind rfl hf

theorem passes_pure (kernel : Kernel) {value : α} (h : returned value []) :
    (pure value : Stage α).Passes kernel returned failed :=
  fun m _ ↦ ⟨[], .refl m, h⟩

theorem isSilent_throw (kernel : Kernel) (halt : Halt) :
    (throw halt : Stage α).IsSilent kernel :=
  fun m _ ↦ ⟨[], .refl m, rfl⟩

theorem isSilent_get (kernel : Kernel) : (get : Stage Machine).IsSilent kernel :=
  fun m _ ↦ ⟨[], .refl m, rfl⟩

theorem passes_modify (kernel : Kernel) {change : Machine → Machine} {milestones : List Milestone}
    (h : ∀ m : Machine, m.Passes milestones (change m)) :
    (modify change : Stage Unit).Passes kernel (fun _ passed ↦ passed = milestones) failed :=
  fun m _ ↦ ⟨milestones, h m, rfl⟩

end

section
variable (kernel : Kernel) {ε α : Type} (halt : ε → Halt)

theorem isSilent_settle (result : Except ε α) : (settle halt result).IsSilent kernel := by
  cases result with
  | ok value => exact passes_pure kernel rfl
  | error cause => exact isSilent_throw kernel _

theorem passes_step (run : Machine → Except ε α × Machine)
    (returned : α → List Milestone → Prop) (failed : List Milestone → Prop)
    (h : ∀ m : Machine, m.kernel = kernel → ∃ milestones, m.Passes milestones (run m).2 ∧
      match (run m).1 with
      | .ok value => returned value milestones
      | .error _ => failed milestones) :
    (step halt run).Passes kernel returned failed := by
  intro m hkernel
  obtain ⟨milestones, hpasses, hreached⟩ := h m hkernel
  rw [run_step]
  cases hresult : (run m).1 with
  | ok value =>
    rw [hresult] at hreached
    exact ⟨milestones, hpasses, hreached⟩
  | error cause =>
    rw [hresult] at hreached
    exact ⟨milestones, hpasses, hreached⟩

theorem isSilent_step (run : Machine → Except ε α × Machine)
    (h : ∀ m : Machine, m.Passes [] (run m).2) : (step halt run).IsSilent kernel := by
  refine passes_step kernel halt run _ _ fun m _ ↦ ⟨[], h m, ?_⟩
  split <;> rfl

theorem isSilent_log (level : Log.Level) (message : String) : (log level message).IsSilent kernel :=
  passes_modify kernel fun m ↦ (Machine.Passes.refl m).log _

theorem isSilent_logAll (records : List Record) : (logAll records).IsSilent kernel :=
  passes_modify kernel fun m ↦ (Machine.Passes.refl m).logAll records

theorem isSilent_call (failure : SystemError → Failure) (c : SystemCall)
    (h : ∀ failure, (Effect.called c failure).milestone? = none) :
    (call failure c).IsSilent kernel := by
  refine isSilent_step kernel _ _ fun m ↦ ?_
  have hcall := (Machine.Passes.refl m).call c
  rw [h] at hcall
  rcases hcalled : m.call c with ⟨_ | code, m'⟩ <;> rw [hcalled] at hcall
  · exact hcall
  · exact hcall

end

section
variable (kernel : Kernel) (options : Options) (identities : Identities) (settings : Settings)

theorem isSilent_requireRoot : requireRoot.IsSilent kernel := by
  refine (isSilent_get kernel).then fun m ↦ ?_
  split
  · exact passes_pure kernel rfl
  · exact isSilent_throw kernel _

theorem isSilent_loadSettings : (loadSettings options).IsSilent kernel := by
  refine (isSilent_get kernel).then fun m ↦ ?_
  refine (isSilent_logAll kernel _).then fun _ ↦ ?_
  refine (isSilent_settle kernel _ _).then fun config ↦ ?_
  refine (isSilent_settle kernel _ _).then fun settings ↦ ?_
  exact (isSilent_log kernel _ _).then fun _ ↦ passes_pure kernel rfl

theorem isSilent_startEngine : (startEngine settings identities).IsSilent kernel := by
  refine (isSilent_get kernel).then fun m ↦ ?_
  refine (isSilent_logAll kernel _).then fun _ ↦ ?_
  refine (isSilent_settle kernel _ _).then fun _ ↦ ?_
  refine (isSilent_logAll kernel _).then fun _ ↦ ?_
  exact (isSilent_settle kernel _ _).then fun _ ↦ passes_pure kernel rfl

theorem passes_openLog (m : Machine) : m.Passes [] (openLog settings m) := by
  unfold openLog
  dsimp only
  split
  · split <;> refine .log ?_ _ <;> exact .of_eq rfl rfl
  · refine .log ?_ _
    exact .of_eq rfl rfl

theorem isSilent_daemonize : daemonize.IsSilent kernel := by
  refine (isSilent_get kernel).then fun m ↦ ?_
  refine (isSilent_step kernel _ _ fun m' ↦ passes_enterBackground _ m').then fun continuation ↦ ?_
  cases continuation with
  | goesOn => exact passes_pure kernel rfl
  | isParent => exact isSilent_throw kernel _

end

end Stage

end Regroup.Daemon
