import EigerDetector.Control.Actions
import EigerDetector.Control.SetValue
import EigerDetector.Library.Tracking

/-! The start of an acquisition: what a failed start leaves behind, and what is stale when the
detector is armed. -/
namespace Eiger.Server

open Threads
open Control (DETECTOR_CONFIG STREAM_CONFIG Fetchable)

/-- `start_acquisition` after the stale parameters have been fetched. -/
def startFetched : Code Unit := do
  let triggerMode ← getTriggerMode
  setImages triggerMode
  armDetector
  wakeAcquisition triggerMode
  setFlag .armed true

/-- Fetched or failed, and then the first assignment. -/
theorem run_startAcquisition (env : Environment) (depth : Nat) (s : EigerDetector) :
    (startAcquisition (depth + 1)).run (answer env) s =
      match raised (s.reads env) with
      | none => startFetched.run (answer env)
          { s.storeReads (s.reads env) with
            staleParameters := []
            flags := Function.update s.flags .acquisitionComplete false }
      | some e => .failed (s.storeReads (s.reads env)) e := by
  have hFetch := run_fetchStaleParameters env true depth s
  rw [startAcquisition]
  cases hRaised : raised (s.reads env) with
  | some e =>
      rw [hRaised] at hFetch
      rw [Program.run_bind_failed (answer env) hFetch]
  | none =>
      rw [hRaised] at hFetch
      rw [Program.run_bind_returned (answer env) hFetch]
      rfl

section Failure

/-- What a start must leave alone if it fails. -/
structure Untouched (s s' : EigerDetector) : Prop where
  acquisitionComplete : s'.flags .acquisitionComplete = s.flags .acquisitionComplete
  armed : s'.flags .armed = s.flags .armed
  sequenceID : s'.sequenceID = s.sequenceID
  event : s'.events .acquisition = s.events .acquisition

/-- Whether anything but parameters has been touched. -/
def touching : Tracker Action Action.Reply Bool where
  permits _ action := ∀ value, action ≠ .setFlag .acquisitionComplete value
  follows touched action _ touched' := touched' = (touched || action.touches)

/-- Nothing has been touched since `s`, up to the flag that is cleared first. -/
def Follows (s : EigerDetector) (touched : Bool) (t : EigerDetector) : Prop :=
  t.flags .acquisitionComplete = false ∧ (touched = false →
    t.flags .armed = s.flags .armed ∧ t.sequenceID = s.sequenceID ∧
      t.events .acquisition = s.events .acquisition)

variable {env : Environment} {s s' : EigerDetector} {e : PyException}

/-- Quiet code touches nothing. -/
theorem quiet_tracked {A : Type} {p : Code A} (h : p.Uses Action.Quiet fun _ => True) :
    p.Tracked touching (fun touched _ => touched = false) (fun touched _ => touched = false)
      false := by
  have hTracked : p.Tracked touching (fun touched _ => false = touched ∧ True)
      (fun touched _ => false = touched) false := by
    apply h.tracked rfl
    · rintro _ action hQuiet - value rfl
      cases hQuiet
    · rintro _ action reply touched' hQuiet rfl hFollows
      rw [hFollows, hQuiet]
      rfl
  exact hTracked.mono (fun _ _ h => h.1.symm) fun _ _ h => h.symm

/-- An assignment at the end. -/
theorem tracked_assign {action : Action} {touched : Bool}
    (hPermits : ∀ value, action ≠ .setFlag .acquisitionComplete value) :
    (perform action).Tracked touching (fun _ _ => True) (fun touched _ => touched = false)
      touched :=
  Program.tracked_perform hPermits fun _ _ _ => trivial

/-- What comes after the first assignment fails before the others. -/
theorem startFetched_tracked : startFetched.Tracked touching (fun _ _ => True)
    (fun touched _ => touched = false) false := by
  apply (quiet_tracked (uses_getTriggerMode.mono fun _ h => h.quiet)).bind
  rintro _ triggerMode rfl
  apply (quiet_tracked ((uses_setImages triggerMode).mono fun _ h => h.quiet)).bind
  rintro _ _ rfl
  have hArm : armDetector.Tracked touching (fun _ _ => True)
      (fun touched _ => touched = false) false := by
    apply (quiet_tracked (uses_writeDetectorCommand "arm" .null)).bind
    rintro _ sObj rfl
    apply (quiet_tracked (uses_liftExcept _)).bind
    rintro _ sequenceID rfl
    exact tracked_assign (by simp)
  apply hArm.bind
  intro touched _ _
  have hWake : (wakeAcquisition triggerMode).Tracked touching (fun _ _ => True)
      (fun touched _ => touched = false) touched := by
    rw [wakeAcquisition]
    split_ifs
    · exact tracked_assign (by simp)
    · trivial
  apply hWake.bind
  intro touched _ _
  exact tracked_assign (by simp)

/-- The state follows what has been touched. -/
theorem Follows.step {touched : Bool} {action : Action} {t t' : EigerDetector}
    {reply : action.Reply} (hPermits : ∀ value, action ≠ .setFlag .acquisitionComplete value)
    (h : Follows s touched t) (hAnswer : answer env action t = some (t', reply)) :
    Follows s (touched || action.touches) t' := by
  obtain ⟨hComplete, hOthers⟩ := h
  cases action with
  | setFlag flag value =>
      cases hAnswer
      have hOther : Flag.acquisitionComplete ≠ flag := fun hFlag => hPermits value (by rw [hFlag])
      exact ⟨(Function.update_of_ne hOther _ _).trans hComplete, by simp [Action.touches]⟩
  | getFlag | assignEvent | setSequenceID =>
      cases hAnswer
      exact ⟨hComplete, by simp [Action.touches]⟩
  | _ =>
      cases hAnswer
      exact ⟨hComplete, by simpa [Action.touches] using hOthers⟩

/-- A start that fails after the refresh has cleared one flag, and done nothing else. -/
theorem startFetched_failed (hComplete : s.flags .acquisitionComplete = false)
    (hRun : startFetched.run (answer env) s = .failed s' e) :
    s'.flags .acquisitionComplete = false ∧ s'.flags .armed = s.flags .armed ∧
      s'.sequenceID = s.sequenceID ∧ s'.events .acquisition = s.events .acquisition := by
  have hEnd := startFetched_tracked.run (answer env) (Follows s)
    ⟨hComplete, fun _ => ⟨rfl, rfl, rfl⟩⟩ fun touched action t t' reply hPermits h hAnswer =>
      ⟨_, rfl, h.step hPermits hAnswer⟩
  rw [hRun] at hEnd
  obtain ⟨touched, rfl, hClear, hOthers⟩ := hEnd
  exact ⟨hClear, hOthers rfl⟩

/-- A failed start leaves everything alone exactly if the flag that it clears first was clear
before, or if it fails in the refresh. -/
theorem failed_start_iff {depth : Nat}
    (hRun : (startAcquisition (depth + 1)).run (answer env) s = .failed s' e) :
    Untouched s s' ↔
      s.flags .acquisitionComplete = false ∨ ∃ x ∈ s.reads env, x.Aborts := by
  rw [run_startAcquisition] at hRun
  cases hRaised : raised (s.reads env) with
  | some e' =>
      rw [hRaised] at hRun
      cases hRun
      have hAborts : ∃ x ∈ s.reads env, x.Aborts := by
        by_contra hNone
        have hAll := raised_eq_none.mpr fun x hMember hAborts => hNone ⟨x, hMember, hAborts⟩
        rw [hRaised] at hAll
        cases hAll
      exact ⟨fun _ => .inr hAborts, fun _ => ⟨rfl, rfl, rfl, rfl⟩⟩
  | none =>
      rw [hRaised] at hRun
      obtain ⟨hComplete, hArmed, hSequence, hEvent⟩ := startFetched_failed (by simp) hRun
      have hNone := raised_eq_none.mp hRaised
      constructor
      · intro hUntouched
        rw [← hUntouched.acquisitionComplete]
        exact .inl hComplete
      · rintro (hClear | ⟨x, hMember, hAborts⟩)
        · exact ⟨hComplete.trans hClear.symm, hArmed, hSequence, hEvent⟩
        · exact absurd hAborts (hNone x hMember)

/-- The detector does not answer when the count time is read. -/
theorem failed_start_sample : ∃ s' e, (startAcquisition 1).run (answer (.constant none))
    (sampleServer ["count_time"]) = .failed s' e ∧ Untouched (sampleServer ["count_time"]) s' := by
  have hRun : (startAcquisition 1).run (answer (.constant none)) (sampleServer ["count_time"]) =
      .failed _ .requestException := rfl
  refine ⟨_, _, hRun, (failed_start_iff hRun).mpr (.inr ?_)⟩
  exact ⟨("count_time", .error .requestException), List.mem_cons_self, _, rfl⟩

/-- It does not answer when it is to be armed. -/
theorem failed_start_not_always_untouched : ¬ ∀ (env : Environment) (depth : Nat)
    (s s' : EigerDetector) (e : PyException),
    (startAcquisition (depth + 1)).run (answer env) s = .failed s' e → Untouched s s' := by
  intro hClaim
  have hRun : (startAcquisition 1).run (answer (.constant none)) (sampleServer []) =
      .failed _ .requestException := rfl
  have hComplete := (hClaim _ 0 _ _ _ hRun).acquisitionComplete
  cases hComplete

end Failure

section Freshness

/-- In this run the detector is armed when the members are these. -/
def Arms (env : Environment) (depth : Nat) (s t : EigerDetector) : Prop :=
  (Action.request (.put .detectorCommand "arm" none), t) ∈
    (startAcquisition depth).trace (answer env) s

/-- No parameter is stale that a refresh would read. -/
def EigerDetector.Fresh (t : EigerDetector) : Prop := ∀ name ∈ t.staleParameters, ¬ Fetchable name

/-- The trigger mode when the stale parameters have been read. -/
def RefreshedMode (env : Environment) (s : EigerDetector) (mode : String) : Prop :=
  ∃ triggerMode, (s.storeReads (s.reads env)).attributes "trigger_mode" = some triggerMode ∧
    triggerModeOf triggerMode = .ok mode

/-- Each put of a parameter is answered with a list that contains it. -/
def Environment.ListsPuts (env : Environment) : Prop :=
  ∀ log uri item value, uri ≠ .detectorCommand → ∃ response names,
    env.respond log (.put uri item (some value)) = some response ∧
    parseResponse response = .list names ∧ item ∈ Json.names names

variable {env : Environment} {s t : EigerDetector} {mode : String}

/-- Plain code does not arm the detector. -/
theorem not_arm_of_uses {A : Type} {p : Code A} (h : p.Uses Action.Plain fun _ => True) :
    (Action.request (.put .detectorCommand "arm" none), t) ∉ p.trace (answer env) s :=
  fun hMember => (h.trace hMember).2 _ _ rfl

/-- What `start_acquisition` does with the response to the arm command. -/
def startArmed (mode : String) (r : Response) : Code Unit := do
  let sObj : Json := match r.text with
    | .empty => .null
    | _ => parseResponse r
  let sequenceID ← liftExcept (sObj.subscript "sequence id")
  let _ ← perform (.setSequenceID sequenceID)
  wakeAcquisition mode
  setFlag .armed true

theorem startFetched_eq : startFetched = (getTriggerMode >>= fun mode => setImages mode >>= fun _ =>
    request (.put .detectorCommand "arm" none) >>= startArmed mode) := by
  have hArm : ∀ mode, (armDetector >>= fun _ => wakeAcquisition mode >>= fun _ =>
      setFlag .armed true) = (request (.put .detectorCommand "arm" none) >>= startArmed mode) := by
    intro mode
    rw [armDetector, writeDetectorCommand, Program.bind_assoc, Program.bind_assoc]
    apply congrArg
    funext r
    rw [Program.pure_eq, Program.done_bind, Program.bind_assoc]
    rfl
  rw [startFetched]
  simp only [hArm]

/-- Once the detector is armed nothing more is asked of it. -/
theorem uses_startArmed (r : Response) : (startArmed mode r).Uses (fun action =>
    ∀ r, action ≠ .request r) fun _ => True := by
  apply (uses_liftExcept _).seq
  intro sequenceID
  refine ⟨by simp, fun _ => ?_⟩
  have hWake : (wakeAcquisition mode).Uses (fun action => ∀ r, action ≠ .request r)
      fun _ => True := by
    rw [wakeAcquisition]
    split_ifs
    · exact ⟨by simp, fun _ => trivial⟩
    · trivial
  exact hWake.seq fun _ => ⟨by simp, fun _ => trivial⟩

theorem trace_request (env : Environment) (r : Request) (s : EigerDetector) :
    (request r).trace (answer env) s = [(.request r, s)] := by
  have hRun : (perform (.request r) : Code (Option Response)).run (answer env) s =
      .returned { s with log := s.log ++ [r] } (env.respond s.log r) := rfl
  rw [request, Program.trace_bind, hRun]
  cases env.respond s.log r <;> rfl

/-- The detector is armed after the images have been set, and in no other state. -/
theorem arms_startFetched {triggerMode : Json} {u : EigerDetector}
    (hAttribute : s.attributes "trigger_mode" = some triggerMode)
    (hMode : triggerModeOf triggerMode = .ok mode)
    (hSet : (setImages mode).run (answer env) s = .returned u ()) :
    (Action.request (.put .detectorCommand "arm" none), t) ∈ startFetched.trace (answer env) s ↔
      t = u := by
  have hGet : getTriggerMode.run (answer env) s = .returned s mode := by
    have hRead : (getattr "trigger_mode").run (answer env) s = .returned s triggerMode := by
      have hRun : (perform (.getattr "trigger_mode") : Code (Option Json)).run (answer env) s =
          .returned s (s.attributes "trigger_mode") := rfl
      rw [getattr, Program.run_bind_returned (answer env) hRun, hAttribute]
      rfl
    rw [getTriggerMode, Program.run_bind_returned (answer env) hRead, hMode]
    rfl
  rw [startFetched_eq, Program.trace_bind, hGet]
  dsimp only
  rw [Program.trace_bind, hSet]
  dsimp only
  rw [Program.trace_bind, trace_request, List.mem_append, List.mem_append, List.mem_append]
  simp only [not_arm_of_uses uses_getTriggerMode, not_arm_of_uses (uses_setImages mode),
    false_or, List.mem_singleton, Prod.mk.injEq, true_and]
  refine or_iff_left fun hLater => ?_
  split at hLater
  · exact (uses_startArmed _).trace hLater _ rfl
  · cases hLater

/-- The members when the refresh at the start has come to its end. -/
def EigerDetector.refreshed (env : Environment) (s : EigerDetector) : EigerDetector :=
  { s.storeReads (s.reads env) with
    staleParameters := []
    flags := Function.update s.flags .acquisitionComplete false }

theorem arms_iff {depth : Nat} (hReads : ∀ x ∈ s.reads env, ¬ x.Aborts) :
    Arms env (depth + 1) s t ↔ (Action.request (.put .detectorCommand "arm" none), t) ∈
      startFetched.trace (answer env) (s.refreshed env) := by
  have hFetch := run_fetchStaleParameters env true depth s
  rw [raised_eq_none.mpr hReads] at hFetch
  have hStart : startAcquisition (depth + 1) = (fetchStaleParameters true (depth + 1) >>= fun _ =>
      setFlag .acquisitionComplete false >>= fun _ => startFetched) := rfl
  have hFlag : ∀ u : EigerDetector, (setFlag .acquisitionComplete false >>= fun _ =>
      startFetched).trace (answer env) u = (Action.setFlag .acquisitionComplete false, u) ::
        startFetched.trace (answer env) { u with
          flags := Function.update u.flags .acquisitionComplete false } := fun _ => rfl
  rw [Arms, hStart, Program.trace_bind, hFetch]
  dsimp only
  rw [hFlag, List.mem_append, List.mem_cons]
  simp [not_arm_of_uses (uses_fetchStaleParameters true (depth + 1)), EigerDetector.refreshed,
    EigerDetector.storeReads]

/-- With the modes of one image for each trigger, the put of their number makes it stale. -/
theorem run_setImages (hAccepts : env.accepts "nimages" (.int 1) = true) (hPuts : env.ListsPuts)
    (hMode : mode = "inte" ∨ mode = "exte") (hStale : s.staleParameters = []) :
    ∃ u, (setImages mode).run (answer env) s = .returned u () ∧ "nimages" ∈ u.staleParameters := by
  obtain ⟨response, names, hPut, hList, hMember⟩ :=
    hPuts s.log .detectorConfig "nimages" (.int 1) (by simp)
  have hUri : writeUri "nimages" = some .detectorConfig := rfl
  have hSet := run_setValue_list hUri rfl hPut hList
  have hRun : (setImages mode).run (answer env) s = Program.run (answer env)
      (if env.accepts "nimages" (.int 1) then setValue "nimages" (.int 1)
        else .fail PyException.parameterTreeError) s := by
    rw [setImages, if_pos hMode]
    rfl
  rw [if_pos hAccepts] at hRun
  exact ⟨_, hRun.trans hSet, by simp [hStale, hMember]⟩

/-- The detector is armed with fresh parameters exactly if the mode is not one in which the
number of images is set after the refresh. -/
theorem armed_fresh_iff (depth : Nat) (hReads : ∀ x ∈ s.reads env, ¬ x.Aborts)
    (hMode : RefreshedMode env s mode) (hAccepts : env.accepts "nimages" (.int 1) = true)
    (hPuts : env.ListsPuts) :
    (∃ t, Arms env (depth + 1) s t) ∧
      ((∀ t, Arms env (depth + 1) s t → t.Fresh) ↔ mode ≠ "inte" ∧ mode ≠ "exte") := by
  obtain ⟨triggerMode, hStored, hMode⟩ := hMode
  have hAttribute : (s.refreshed env).attributes "trigger_mode" = some triggerMode := hStored
  rw [← not_or]
  by_cases hImages : mode = "inte" ∨ mode = "exte"
  · obtain ⟨u, hSet, hStale⟩ := run_setImages (s := s.refreshed env) hAccepts hPuts hImages rfl
    have hArms : Arms env (depth + 1) s u :=
      (arms_iff hReads).mpr ((arms_startFetched hAttribute hMode hSet).mpr rfl)
    refine ⟨⟨u, hArms⟩, fun hFresh => ?_, fun hNot => absurd hImages hNot⟩
    exact absurd (by decide +kernel) (hFresh u hArms "nimages" hStale)
  · have hSet : (setImages mode).run (answer env) (s.refreshed env) =
        .returned (s.refreshed env) () := by
      rw [setImages, if_neg hImages]
      rfl
    have hArms : ∀ t, Arms env (depth + 1) s t ↔ t = s.refreshed env := fun t =>
      (arms_iff hReads).trans (arms_startFetched hAttribute hMode hSet)
    refine ⟨⟨_, (hArms _).mpr rfl⟩, fun _ => hImages, fun _ t hArmed => ?_⟩
    rw [(hArms t).mp hArmed]
    exact fun name hName => absurd hName List.not_mem_nil

theorem listing_listsPuts (value : Int) (names : List String) :
    (Environment.listing value names).ListsPuts := by
  intro log uri item data _
  exact ⟨_, _, rfl, rfl, List.mem_cons_self⟩

/-- With the count time stale, in the mode `ints`. -/
theorem armed_fresh_sample : ∃ t, Arms (.listing 0 []) 1 (sampleServer ["count_time"]) t ∧
    t.Fresh := by
  have hReads : (sampleServer ["count_time"]).reads (.listing 0 []) =
      [("count_time", .ok (.dict [("value", .int 0)]))] := rfl
  have hNone : ∀ x ∈ (sampleServer ["count_time"]).reads (.listing 0 []), ¬ x.Aborts := by
    simp [hReads, Read.Aborts]
  have hMode : RefreshedMode (.listing 0 []) (sampleServer ["count_time"]) "ints" :=
    ⟨_, rfl, rfl⟩
  obtain ⟨⟨t, hArms⟩, hFresh⟩ := armed_fresh_iff 0 hNone hMode rfl (listing_listsPuts 0 [])
  exact ⟨t, hArms, hFresh.mpr (by decide) t hArms⟩

/-- In the mode `inte` the number of images is put last. -/
theorem armed_not_always_fresh : ¬ ∀ (env : Environment) (depth : Nat) (s t : EigerDetector)
    (mode : String), (∀ x ∈ s.reads env, ¬ x.Aborts) → RefreshedMode env s mode →
    env.accepts "nimages" (.int 1) = true → env.ListsPuts → Arms env (depth + 1) s t →
    t.Fresh := by
  intro hClaim
  let s : EigerDetector :=
    { sampleServer [] with attributes := fun _ => some (.dict [("value", .int 1)]) }
  have hReads : ∀ x ∈ s.reads (.listing 0 []), ¬ x.Aborts := by
    have hNone : s.reads (.listing 0 []) = [] := rfl
    simp [hNone]
  have hMode : "inte" = "inte" ∨ "inte" = "exte" := .inl rfl
  obtain ⟨u, hSet, hStale⟩ := run_setImages (s := s.refreshed (.listing 0 [])) rfl
    (listing_listsPuts 0 []) hMode rfl
  have hArms : Arms (.listing 0 []) 1 s u :=
    (arms_iff hReads).mpr ((arms_startFetched rfl rfl hSet).mpr rfl)
  have hFresh := hClaim (.listing 0 []) 0 s u "inte" hReads ⟨_, rfl, rfl⟩ rfl
    (listing_listsPuts 0 []) hArms
  exact absurd (by decide +kernel) (hFresh "nimages" hStale)

end Freshness

end Eiger.Server
