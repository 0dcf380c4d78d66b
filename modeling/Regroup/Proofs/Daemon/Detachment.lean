import Regroup.Proofs.Daemon.Stages

/-!
# What a success of going into the background says

The first request of a process to go into the background forks and detaches the child, call by call.
It succeeds only when all of the calls have, and otherwise names the one that failed, with the calls
before it done and the others not begun.

Every later request succeeds without a call. This is right once the first has succeeded. But the
request is remembered before the first call is made, so that it also holds after a failure: whatever
is left to do then, a second request reports that it has been done.
-/

namespace Regroup.Daemon

namespace Machine

variable (m : Machine) (c : SystemCall)

/-- The machine after a call that succeeds. -/
def succeed : Machine :=
  (m.note (.called c none)).afterSuccess c

theorem call_eq_success (h : (m.call c).1 = none) : m.call c = (none, m.succeed c) := by
  have hfailure : (m.kernel.failure c).or (m.obstacle c) = none := h
  unfold call
  rw [hfailure]
  rfl

theorem call_eq_failure (code : Int) (h : (m.call c).1 = some code) :
    m.call c = (some code, m.note (.called c (some code))) := by
  have hfailure : (m.kernel.failure c).or (m.obstacle c) = some code := h
  unfold call
  rw [hfailure]
  rfl

theorem failure_of_call_eq_none (h : (m.call c).1 = none) : m.kernel.failure c = none := by
  have hfailure : (m.kernel.failure c).or (m.obstacle c) = none := h
  exact (Option.or_eq_none_iff.1 hfailure).1

/-- The kernel fails every call that fails, except that the null device may be missing. -/
theorem failure_of_call_eq_some (code : Int) (h : (m.call c).1 = some code) :
    m.kernel.failure c = some code ∨ c = .openNullDevice := by
  by_cases hnull : c = .openNullDevice
  · exact .inr hnull
  · rw [m.fst_call_of_ne c hnull] at h
    exact .inl h

@[simp]
theorem kernel_succeed : (m.succeed c).kernel = m.kernel := by
  unfold succeed afterSuccess
  split <;> rfl

@[simp]
theorem journal_succeed : (m.succeed c).journal = m.journal ++ [.called c none] := by
  unfold succeed afterSuccess
  split <;> rfl

@[simp]
theorem inBackground_succeed : (m.succeed c).inBackground = m.inBackground := by
  unfold succeed afterSuccess
  split <;> rfl

/-- The machine after calls that all succeed. -/
def succeedAll (calls : List SystemCall) : Machine :=
  calls.foldl succeed m

theorem journal_succeedAll (calls : List SystemCall) :
    (m.succeedAll calls).journal = m.journal ++ calls.map (Effect.called · none) := by
  induction calls generalizing m with
  | nil => exact (List.append_nil _).symm
  | cons c calls ih =>
    rw [succeedAll, List.foldl_cons, ← succeedAll, ih, journal_succeed, List.append_assoc]
    rfl

theorem inBackground_succeedAll (calls : List SystemCall) :
    (m.succeedAll calls).inBackground = m.inBackground := by
  induction calls generalizing m with
  | nil => rfl
  | cons c calls ih => rw [succeedAll, List.foldl_cons, ← succeedAll, ih, inBackground_succeed]

end Machine

/-- How calls in turn come out. -/
inductive ComesOut (steps : List (SystemCall × String)) (m reached : Machine)
    (result : Except BackgroundError Unit) : Prop where
  | completed (hgranted : ∀ step ∈ steps, m.kernel.failure step.1 = none)
      (hresult : result = .ok ()) (hreached : reached = m.succeedAll (steps.map Prod.fst))
  | failed (done rest : List (SystemCall × String)) (call : SystemCall) (name : String)
      (code : Int) (hsteps : steps = done ++ (call, name) :: rest)
      (hcode : m.kernel.failure call = some code ∨ call = .openNullDevice)
      (hresult : result = .error ⟨name, code⟩)
      (hreached : reached =
        (m.succeedAll (done.map Prod.fst)).note (.called call (some code)))

theorem comesOut_callInTurn (steps : List (SystemCall × String)) (m : Machine) :
    ComesOut steps m (callInTurn steps m).2 (callInTurn steps m).1 := by
  induction steps generalizing m with
  | nil => exact .completed (by simp) rfl rfl
  | cons step rest ih =>
    obtain ⟨call, name⟩ := step
    unfold callInTurn
    cases hfailure : (m.call call).1 with
    | some code =>
      rw [m.call_eq_failure call code hfailure]
      have hcode := m.failure_of_call_eq_some call code hfailure
      exact .failed [] rest call name code rfl hcode rfl rfl
    | none =>
      have hcall := m.failure_of_call_eq_none call hfailure
      rw [m.call_eq_success call hfailure]
      cases ih (m.succeed call) with
      | completed hgranted hresult hreached =>
        rw [m.kernel_succeed] at hgranted
        exact .completed (List.forall_mem_cons.2 ⟨hcall, hgranted⟩) hresult hreached
      | failed done rest failing label code hsteps hcode hresult hreached =>
        rw [m.kernel_succeed] at hcode
        exact .failed ((call, name) :: done) rest failing label code (by rw [hsteps]; rfl) hcode
          hresult hreached

/-- The calls that are made for a request, in this order. -/
def backgroundCalls (keepOutput : Bool) : List SystemCall :=
  [.fork, .clearFileMask, .newSession, .enterRootDirectory, .openNullDevice, .redirect .input,
    .redirect .errorOutput] ++
  (if keepOutput then [] else [.redirect .output]) ++ [.closeNullDevice]

theorem backgroundCalls_eq (keepOutput : Bool) :
    backgroundCalls keepOutput =
      .fork :: .clearFileMask :: (detachingSteps keepOutput).map Prod.fst := by
  cases keepOutput <;> rfl

/-- Since the journal was last looked at, the process has been forked off and all that detaches it
has been done. -/
structure IsDetached (keepOutput : Bool) (before : List Effect) (m : Machine) : Prop where
  calls : m.journal = before ++ (backgroundCalls keepOutput).map (Effect.called · none)
  directory : m.tree.workingDirectory = []
  errorOutput : m.outlets.errorOutput.isCutOff = true
  output : keepOutput = false → m.outlets.output.isCutOff = true

theorem isDetached_succeedAll (keepOutput : Bool) (m : Machine) :
    IsDetached keepOutput m.journal (m.succeedAll (backgroundCalls keepOutput)) := by
  constructor
  case calls => exact m.journal_succeedAll _
  case directory => cases keepOutput <;> rfl
  case errorOutput => cases keepOutput <;> rfl
  case output =>
    rintro rfl
    rfl

/-- The calls that may fail, with the names under which their failures are reported. -/
def backgroundSteps (keepOutput : Bool) : List (SystemCall × String) :=
  (.fork, "fork") :: detachingSteps keepOutput

/-- How the first request of a process comes out. A failure leaves the calls before the failing one
done, and those behind it are not begun. -/
inductive FirstEntry (keepOutput : Bool) (kernel : Kernel) (before : List Effect)
    (m : Machine) : Except BackgroundError Continuation → Prop where
  | detached (hchild : kernel.parentOf = none)
      (hgranted : ∀ step ∈ backgroundSteps keepOutput, kernel.failure step.1 = none)
      (hdetached : IsDetached keepOutput before m) :
      FirstEntry keepOutput kernel before m (.ok .goesOn)
  | parent (child : Int32) (hparent : kernel.parentOf = some child)
      (hgranted : kernel.failure .fork = none) :
      FirstEntry keepOutput kernel before m (.ok .isParent)
  | failed (done rest : List SystemCall) (call : SystemCall) (name : String) (code : Int)
      (hcalls : backgroundCalls keepOutput = done ++ call :: rest)
      (hname : (call, name) ∈ backgroundSteps keepOutput)
      (hcode : kernel.failure call = some code ∨ call = .openNullDevice)
      (hjournal : m.journal =
        before ++ (done.map (Effect.called · none) ++ [.called call (some code)])) :
      FirstEntry keepOutput kernel before m (.error ⟨name, code⟩)

/-- Detaching the child comes out as its calls in turn. -/
theorem firstEntry_detach (keepOutput : Bool) (m : Machine) (hchild : m.kernel.parentOf = none)
    (hfork : m.kernel.failure .fork = none) :
    let answer := detach keepOutput (m.succeed .fork)
    FirstEntry keepOutput m.kernel m.journal answer.2 (answer.1.map fun _ ↦ .goesOn) ∧
      answer.2.inBackground = m.inBackground := by
  intro answer
  have hcalls := backgroundCalls_eq keepOutput
  cases comesOut_callInTurn (detachingSteps keepOutput) (m.succeedAll [.fork, .clearFileMask]) with
  | completed hgranted hresult hreached =>
    have hall : answer.2 = m.succeedAll (backgroundCalls keepOutput) := by
      rw [hcalls]
      exact hreached
    have hok : answer.1 = .ok () := hresult
    rw [hok, hall]
    exact ⟨.detached hchild (List.forall_mem_cons.2 ⟨hfork, hgranted⟩)
      (isDetached_succeedAll keepOutput m), m.inBackground_succeedAll _⟩
  | failed done rest call name code hsteps hcode hresult hreached =>
    have hall : answer.2 = (m.succeedAll (.fork :: .clearFileMask :: done.map Prod.fst)).note
        (.called call (some code)) := hreached
    have herror : answer.1 = .error ⟨name, code⟩ := hresult
    have hmem : (call, name) ∈ detachingSteps keepOutput := by simp [hsteps]
    rw [herror, hall]
    refine ⟨.failed (.fork :: .clearFileMask :: done.map Prod.fst) (rest.map Prod.fst) call name
      code ?_ (List.mem_cons_of_mem _ hmem) hcode ?_, m.inBackground_succeedAll _⟩
    · rw [hcalls, hsteps, List.map_append]
      rfl
    · rw [Machine.note, m.journal_succeedAll, List.append_assoc]

/-- A process that goes on remembers the request, however it came out. -/
theorem firstEntry_enterBackground (keepOutput : Bool) (m : Machine) (h : m.inBackground = false) :
    let answer := enterBackground keepOutput m
    FirstEntry keepOutput m.kernel m.journal answer.2 answer.1 ∧
      (answer.1 ≠ .ok .isParent → answer.2.inBackground = true) := by
  let asked : Machine := { m with inBackground := true }
  have hforked : (asked.succeed .fork).kernel.parentOf = m.kernel.parentOf := rfl
  unfold enterBackground
  rw [h, if_neg Bool.false_ne_true]
  cases hfork : (asked.call .fork).1 with
  | some code =>
    rw [asked.call_eq_failure .fork code hfork]
    exact ⟨.failed [] _ .fork "fork" code (backgroundCalls_eq keepOutput) List.mem_cons_self
      (asked.failure_of_call_eq_some .fork code hfork) rfl, fun _ ↦ rfl⟩
  | none =>
    have hgranted : asked.kernel.failure .fork = none := asked.failure_of_call_eq_none .fork hfork
    rw [asked.call_eq_success .fork hfork]
    cases hparent : m.kernel.parentOf with
    | some child =>
      simp only [hforked, hparent]
      exact ⟨.parent child hparent hgranted, fun hne ↦ absurd rfl hne⟩
    | none =>
      obtain ⟨hentry, hremembered⟩ := firstEntry_detach keepOutput asked hparent hgranted
      simp only [hforked, hparent]
      exact ⟨hentry, fun _ ↦ hremembered⟩

/-! ## Requests one after the other -/

/-- A request to go into the background, with the kernel that answers the calls made for it. -/
structure BackgroundRequest where
  keepOutput : Bool
  kernel : Kernel

namespace BackgroundRequest

/-- The machine on which the request is made. -/
def machine (request : BackgroundRequest) (m : Machine) : Machine :=
  { m with kernel := request.kernel }

def answer (request : BackgroundRequest) (m : Machine) :
    Except BackgroundError Continuation × Machine :=
  enterBackground request.keepOutput (request.machine m)

end BackgroundRequest

/-- What the requests of a process are answered, each with the machine that it leaves. A process
that turns out to be the parent ends at once. -/
def backgroundAnswers (m : Machine) :
    List BackgroundRequest → List (Except BackgroundError Continuation × Machine)
  | [] => []
  | request :: later =>
    let answer := request.answer m
    answer :: match answer.1 with
      | .ok .isParent => []
      | .ok .goesOn | .error _ => backgroundAnswers answer.2 later

/-- A process that is told of a success and goes on is a child that has been detached. -/
def SuccessMeansDetached (m : Machine) (requests : List BackgroundRequest) : Prop :=
  ∀ answer ∈ backgroundAnswers m requests, answer.1 = .ok .goesOn →
    ∃ request ∈ requests, request.kernel.parentOf = none ∧
      IsDetached request.keepOutput m.journal answer.2

/-- Once a request is remembered the others succeed without a call. -/
theorem backgroundAnswers_again (m : Machine) (h : m.inBackground = true)
    (requests : List BackgroundRequest) :
    backgroundAnswers m requests =
      requests.map fun request ↦ (.ok .goesOn, request.machine m) := by
  induction requests generalizing m with
  | nil => rfl
  | cons request later ih =>
    have hanswer : request.answer m = (.ok .goesOn, request.machine m) := if_pos h
    simp only [backgroundAnswers, hanswer, List.map_cons]
    rw [ih (request.machine m) h]
    rfl

section
variable (m : Machine) (request : BackgroundRequest) (later : List BackgroundRequest)

theorem backgroundAnswers_of_parent (h : (request.answer m).1 = .ok .isParent) :
    backgroundAnswers m (request :: later) = [request.answer m] := by
  simp only [backgroundAnswers, h]

theorem backgroundAnswers_of_goesOn (hnew : m.inBackground = false)
    (h : (request.answer m).1 ≠ .ok .isParent) :
    backgroundAnswers m (request :: later) = request.answer m ::
      later.map fun next ↦ (.ok .goesOn, next.machine (request.answer m).2) := by
  have hremembered : (request.answer m).2.inBackground = true :=
    (firstEntry_enterBackground request.keepOutput (request.machine m) hnew).2 h
  rw [← backgroundAnswers_again _ hremembered, backgroundAnswers]
  split
  · rename_i hparent
    exact absurd hparent h
  · rfl
  · rfl

theorem firstEntry_answer (hnew : m.inBackground = false) :
    FirstEntry request.keepOutput request.kernel m.journal (request.answer m).2
      (request.answer m).1 :=
  (firstEntry_enterBackground request.keepOutput (request.machine m) hnew).1

end

namespace FirstEntry

variable {keepOutput : Bool} {kernel : Kernel} {before : List Effect} {m : Machine}

theorem isDetached (h : FirstEntry keepOutput kernel before m (.ok .goesOn)) :
    kernel.parentOf = none ∧ IsDetached keepOutput before m := by
  cases h with
  | detached hchild hgranted hdetached => exact ⟨hchild, hdetached⟩

/-- A failure leaves a trace that no detached process has. -/
theorem not_isDetached {cause : BackgroundError}
    (h : FirstEntry keepOutput kernel before m (.error cause)) (keepOutput' : Bool) :
    ¬ IsDetached keepOutput' before m := by
  intro hdetached
  cases h with
  | failed done rest call name code hcalls hname hcode hjournal =>
    have hsame := List.append_cancel_left (hjournal.symm.trans hdetached.calls)
    have hmem : Effect.called call (some code) ∈
        (backgroundCalls keepOutput').map (Effect.called · none) := by
      rw [← hsame]
      simp
    obtain ⟨_, -, hnone⟩ := List.mem_map.1 hmem
    cases hnone

end FirstEntry

/-- Another kernel does not undo what has been done. -/
theorem IsDetached.machine {keepOutput : Bool} {before : List Effect} {m : Machine}
    (h : IsDetached keepOutput before m) (request : BackgroundRequest) :
    IsDetached keepOutput before (request.machine m) :=
  ⟨h.calls, h.directory, h.errorOutput, h.output⟩

section
variable (m : Machine) (request next : BackgroundRequest) (later : List BackgroundRequest)

theorem not_successMeansDetached_of_failed (hnew : m.inBackground = false)
    (cause : BackgroundError) (hfailed : (request.answer m).1 = .error cause) :
    ¬ SuccessMeansDetached m (request :: next :: later) := by
  intro hmeans
  have hentry := firstEntry_answer m request hnew
  rw [hfailed] at hentry
  have hmem : (.ok .goesOn, next.machine (request.answer m).2) ∈
      backgroundAnswers m (request :: next :: later) := by
    rw [backgroundAnswers_of_goesOn m request _ hnew (by simp [hfailed])]
    exact List.mem_cons_of_mem _ List.mem_cons_self
  obtain ⟨_, -, -, hdetached⟩ := hmeans _ hmem rfl
  exact hentry.not_isDetached _
    ⟨hdetached.calls, hdetached.directory, hdetached.errorOutput, hdetached.output⟩

theorem successMeansDetached_of_not_failed (hnew : m.inBackground = false)
    (h : later = [] ∨ ∀ cause, (request.answer m).1 ≠ .error cause) :
    SuccessMeansDetached m (request :: later) := by
  have hentry := firstEntry_answer m request hnew
  have hfirst (hok : (request.answer m).1 = .ok .goesOn) : request.kernel.parentOf = none ∧
      IsDetached request.keepOutput m.journal (request.answer m).2 := by
    rw [hok] at hentry
    exact hentry.isDetached
  intro answer hmem hok
  refine ⟨request, List.mem_cons_self, ?_⟩
  by_cases hparent : (request.answer m).1 = .ok .isParent
  · rw [backgroundAnswers_of_parent m request later hparent, List.mem_singleton] at hmem
    rw [hmem, hparent] at hok
    cases hok
  · rw [backgroundAnswers_of_goesOn m request later hnew hparent] at hmem
    rcases List.mem_cons.1 hmem with rfl | hlater
    · exact hfirst hok
    · obtain ⟨next, hnext, rfl⟩ := List.mem_map.1 hlater
      have hsucceeded : ∀ cause, (request.answer m).1 ≠ .error cause :=
        h.resolve_left (List.ne_nil_of_mem hnext)
      have hgoesOn : (request.answer m).1 = .ok .goesOn := by
        cases hresult : (request.answer m).1 with
        | error cause => exact absurd hresult (hsucceeded cause)
        | ok continuation =>
          cases continuation with
          | goesOn => rfl
          | isParent => exact absurd hresult hparent
      obtain ⟨hchild, hdetached⟩ := hfirst hgoesOn
      exact ⟨hchild, hdetached.machine next⟩

end

/-- The first request of a process says how it came out, and all later ones succeed without a call.
So success means that the process has been detached exactly if the first request did not fail, or is
the only one. -/
theorem success_means_detached_iff (m : Machine) (request : BackgroundRequest)
    (later : List BackgroundRequest) (hnew : m.inBackground = false) :
    let first := request.answer m
    FirstEntry request.keepOutput request.kernel m.journal first.2 first.1 ∧
      (first.1 = .ok .isParent → backgroundAnswers m (request :: later) = [first]) ∧
      (first.1 ≠ .ok .isParent → backgroundAnswers m (request :: later) =
        first :: later.map fun next ↦ (.ok .goesOn, next.machine first.2)) ∧
      (SuccessMeansDetached m (request :: later) ↔
        later = [] ∨ ∀ cause, first.1 ≠ .error cause) := by
  intro first
  refine ⟨firstEntry_answer m request hnew, backgroundAnswers_of_parent m request later,
    backgroundAnswers_of_goesOn m request later hnew, fun hmeans ↦ ?_,
    successMeansDetached_of_not_failed m request later hnew⟩
  cases later with
  | nil => exact .inl rfl
  | cons next later =>
    exact .inr fun cause hfailed ↦
      not_successMeansDetached_of_failed m request next later hnew cause hfailed hmeans

/-- Once it has been detached a process may ask again, whatever the kernel would answer. -/
theorem success_means_detached_asking_again :
    let granting : Kernel := { processNumber := 4242, effectiveUser := 0 }
    let failing : Kernel := { granting with failure := fun _ ↦ some Errno.notPermitted }
    let m : Machine := {
      kernel := granting
      outlets := { tree := FileTree.empty ["home"] }
      filter := Log.Filter.ofLevel .info }
    let first : BackgroundRequest := ⟨true, granting⟩
    let again : BackgroundRequest := ⟨false, failing⟩
    m.inBackground = false ∧ (first.answer m).1 = .ok .goesOn ∧
      SuccessMeansDetached m [first, again] ∧
      backgroundAnswers m [first, again] =
        [first.answer m, (.ok .goesOn, again.machine (first.answer m).2)] := by
  intro granting failing m first again
  have hanswered : (first.answer m).1.toOption = some .goesOn := by decide +kernel
  have hgoesOn : (first.answer m).1 = .ok .goesOn := by
    cases hresult : (first.answer m).1 with
    | error cause =>
      rw [hresult] at hanswered
      cases hanswered
    | ok continuation =>
      rw [hresult] at hanswered
      rw [Option.some.inj hanswered]
  obtain ⟨-, -, hanswers, hmeans⟩ := success_means_detached_iff m first [again] rfl
  refine ⟨rfl, hgoesOn, hmeans.2 (.inr fun cause ↦ ?_), hanswers ?_⟩
  · rw [hgoesOn]
    exact nofun
  · rw [hgoesOn]
    exact nofun

/-! ## A success that is none -/

/-- A process that cannot fork stays where it was started, with its standard streams, and is told
of a success when it asks again. -/
theorem success_without_detachment :
    let granting : Kernel := { processNumber := 4242, effectiveUser := 0 }
    let failing : Kernel := { granting with
      failure := fun call ↦ if call = .fork then some Errno.wouldBlock else none }
    let m : Machine := {
      kernel := failing
      outlets := { tree := FileTree.empty ["home"] }
      filter := Log.Filter.ofLevel .info }
    let requests : List BackgroundRequest := [⟨false, failing⟩, ⟨false, granting⟩]
    m.inBackground = false ∧
      (backgroundAnswers m requests).map Prod.fst =
        [.error ⟨"fork", Errno.wouldBlock⟩, .ok .goesOn] ∧
      (backgroundAnswers m requests).map (fun answer ↦ answer.2.journal) =
        [[.called .fork (some Errno.wouldBlock)], [.called .fork (some Errno.wouldBlock)]] ∧
      (backgroundAnswers m requests).map (fun answer ↦ answer.2.outlets) =
        [m.outlets, m.outlets] ∧
      ¬ SuccessMeansDetached m requests := by
  intro granting failing m requests
  exact ⟨rfl, rfl, rfl, rfl,
    not_successMeansDetached_of_failed m ⟨false, failing⟩ ⟨false, granting⟩ [] rfl _ rfl⟩

end Regroup.Daemon
