import EigerDetector.Control.Detector
import EigerDetector.Library.Tracking

/-! The loops of the worker threads, and which answers of the detector they survive. -/
namespace Eiger.Server

open CharArrays Threads
open Control (DETECTOR_CONFIG)

/-- Where a loop begins another iteration: the loop of a thread, or the loop of an acquisition
with the number of its triggers. -/
inductive Point where
  | top
  | triggers (count : Nat)
  | ended
  deriving DecidableEq

section Loops

/-- `time.sleep`. -/
def pause (duration : Json) : Code Unit := do
  let slept ← perform (.sleep duration)
  liftExcept slept

/-- `_event.wait` at the top of a loop, and the iteration if it is set. -/
def onEvent (event : Event) (iteration : Code Point) : Code Point := do
  let executing : Bool ← perform (.getFlag .executing)
  if executing then do
    let woken : Bool ← perform (.wait event)
    if woken then iteration else pure .top
  else pure .ended

/-- The condition of the loop of an acquisition. -/
def moreTriggers (count : Nat) : Code Bool := do
  let acquisitionComplete : Bool ← perform (.getFlag .acquisitionComplete)
  if acquisitionComplete then pure false
  else do
    let ntrigger ← getattr "ntrigger"
    liftExcept (ntrigger.getValue >>= Json.lessThan count)

def awaitTrigger : Code Bool := do
  let manualTrigger : Bool ← perform (.getFlag .manualTrigger)
  if manualTrigger then perform (.wait .trigger) else pure true

def writeTrigger : Code Unit := do
  let triggerMode ← getTriggerMode
  if triggerMode = "inte" then do
    let value ← perform .getTriggerExposure
    let _ ← writeDetectorCommand "trigger" value
    let duration ← perform .getTriggerExposure
    pause duration
  else do
    let _ ← writeDetectorCommand "trigger" .null
    pure ()

def sendTrigger (count : Nat) : Code Point := do
  let doTrigger ← awaitTrigger
  if doTrigger then do
    writeTrigger
    let _ ← perform (.assignEvent .trigger false)
    pure (.triggers (count + 1))
  else pure (.triggers count)

def finishAcquisition : Code Point := do
  let _ ← setFlag .acquisitionComplete true
  let _ ← writeDetectorCommand "disarm" .null
  let _ ← setFlag .armed false
  pure .top

def doAcquisition : Point → Code Point
  | .top => onEvent .acquisition do
      let _ ← perform (.assignEvent .acquisition false)
      let _ ← perform (.assignEvent .trigger false)
      pure (.triggers 0)
  | .triggers count => do
      let more ← moreTriggers count
      if more then sendTrigger count else finishAcquisition
  | .ended => pure .ended

/-- The loop in `read_all_config`. -/
def readAll : List String → Code Unit
  | [] => pure ()
  | cfg :: cfgs => do
      let param ← readDetectorConfig cfg
      let _ ← setattr cfg param
      readAll cfgs

def readAllConfig : Code Unit := readAll DETECTOR_CONFIG

def doInitialize : Point → Code Point
  | .top => onEvent .initialization do
      let _ ← writeDetectorCommand "initialize" .null
      let _ ← setFlag .initializing false
      let _ ← perform (.assignEvent .initialization false)
      readAllConfig
      pure .top
  | point => pure point

def getHvState : Code Json := do
  let state ← getattr "high_voltage/state"
  liftExcept (state.subscript "value")

/-- Wait until the voltage is ready, with so many pauses at most. -/
def waitReady : Nat → Code Bool
  | 0 => do
      let state ← getHvState
      pure (state.isStr "READY")
  | pauses + 1 => do
      let state ← getHvState
      if state.isStr "READY" then pure true
      else do
        pause (.int 10)
        waitReady pauses

def resetIterations : Nat → Code Unit
  | 0 => pure ()
  | iterations + 1 => do
      let ready ← waitReady 60
      if ready then do
        let _ ← writeDetectorCommand "hv_reset" (.int 45)
        pause (.int 60)
        resetIterations iterations
      else pure ()

/-- `material.lower()`. -/
def lower : Json → Except PyException String
  | .str text => .ok text.toLower
  | _ => .error .attributeError

def hvReset : Code Unit := do
  let material ← getattr "sensor_material"
  let name ← liftExcept (material.subscript "value" >>= lower)
  if name = "cdte" then resetIterations 10 else pure ()

def doHvReset : Point → Code Point
  | .top => onEvent .hvResetting do
      hvReset
      let _ ← setFlag .hvResetting false
      let _ ← perform (.assignEvent .hvResetting false)
      pure .top
  | point => pure point

def publish : Option (ImageTags × Bytes) → Code Unit
  | some (tags, frameData) => perform (.publish tags frameData)
  | none => pure ()

def readDetectorLiveImage : Code Unit := do
  let r ← request (.get .detectorMonitor "images/next")
  let image ← liftExcept (liveImage r.statusCode r.content)
  publish image

/-- The live view is read if it is enabled. -/
def viewWhen (liveViewEnabled : Bool) : Code Unit :=
  if liveViewEnabled then readDetectorLiveImage else pure ()

def lvLoop : Point → Code Point
  | .top => do
      let executing : Bool ← perform (.getFlag .executing)
      if executing then do
        let liveViewEnabled : Bool ← perform (.getFlag .liveViewEnabled)
        viewWhen liveViewEnabled
        pause (.float (1 / 10))
        pure .top
      else pure .ended
  | point => pure point

end Loops

section Benign

def succeeds {A : Type} : Except PyException A → Bool
  | .ok _ => true
  | .error _ => false

/-- The attribute is of the kind that the loops expect under its name. -/
def fits (name : String) (value : Json) : Bool :=
  if name = "ntrigger" then succeeds (value.getValue >>= Json.lessThan 0)
  else if name = "trigger_mode" then succeeds (triggerModeOf value)
  else if name = "sensor_material" then succeeds (value.subscript "value" >>= lower)
  else succeeds (value.subscript "value")

/-- The reply is one that a loop survives: a request is answered, the reply to a read of an
option is one of its values, the live view finds no image that it would publish, an attribute
is of the kind that is expected, and a pause is a time. -/
def benign : (action : Action) → action.Reply → Bool
  | .request (.put _ _ _), response => response.isSome
  | .request (.get .detectorMonitor _), response =>
      response.any fun r => succeeds (liveImage r.statusCode r.content)
  | .request (.get _ item), response =>
      response.any fun r => succeeds (interceptReply item (parseResponse r))
  | .getattr name, value => value.any (fits name)
  | .sleep _, slept => succeeds slept
  | _, _ => true

/-- The code fails at a reply that is not benign, and nowhere else. -/
def Sound {A : Type} (code : Code A) : Prop :=
  code.FailsExactly fun action reply => benign action reply = true

variable {A B : Type}

theorem Sound.bind {p : Code A} {f : A → Code B} (h : Sound p) (hf : ∀ a, Sound (f a)) :
    Sound (p >>= f) :=
  Program.FailsExactly.bind h hf

theorem sound_perform {action : Action} (h : ∀ reply, benign action reply = true) :
    Sound (perform action) :=
  Program.FailsExactly.perform h

/-- The code checks the reply to an action. -/
theorem sound_checked {action : Action} {check : action.Reply → Except PyException A}
    (h : ∀ reply, benign action reply = succeeds (check reply)) :
    Sound (perform action >>= fun reply => liftExcept (check reply)) := by
  intro reply
  change (benign action reply = true → Sound (liftExcept (check reply))) ∧
    (¬ benign action reply = true → ∃ e, liftExcept (check reply) = .fail e)
  rw [h reply]
  cases check reply with
  | ok a => exact ⟨fun _ => trivial, fun hBad => absurd rfl hBad⟩
  | error e => exact ⟨fun hGood => absurd hGood (by simp [succeeds]), fun _ => ⟨e, rfl⟩⟩

/-- The code reads an attribute, and what it does with it may raise. -/
theorem sound_attribute {name : String} {use : Json → Except PyException A}
    (h : ∀ value, fits name value = succeeds (use value)) :
    Sound (getattr name >>= fun value => liftExcept (use value)) := by
  have hCheck : (getattr name >>= fun value => liftExcept (use value)) =
      (perform (.getattr name) >>= fun value : Option Json =>
        liftExcept ((value.elim (.error .attributeError) use : Except PyException A))) := by
    rw [getattr, Program.bind_assoc]
    apply congrArg
    funext value
    cases value <;> rfl
  rw [hCheck]
  apply sound_checked
  intro value
  cases value with
  | none => rfl
  | some value => exact h value

/-- The code makes a request, and what it does with the response may raise. -/
theorem sound_request {r : Request} {use : Response → Except PyException A}
    (h : ∀ response, benign (.request r) (some response) = succeeds (use response))
    (hNone : benign (.request r) none = false) :
    Sound (request r >>= fun response => liftExcept (use response)) := by
  have hCheck : (request r >>= fun response => liftExcept (use response)) =
      (perform (.request r) >>= fun response : Option Response =>
        liftExcept ((response.elim (.error .requestException) use : Except PyException A))) := by
    rw [request, Program.bind_assoc]
    apply congrArg
    funext response
    cases response <;> rfl
  rw [hCheck]
  apply sound_checked
  intro response
  cases response with
  | none => exact hNone
  | some response => exact h response

/-- The code makes a request, and the server can use any response. -/
theorem sound_answered {r : Request} {f : Response → A}
    (h : ∀ response, benign (.request r) (some response) = true)
    (hNone : benign (.request r) none = false) :
    Sound (request r >>= fun response => pure (f response)) := by
  have hUse : Sound (request r >>= fun response =>
      liftExcept (.ok (f response) : Except PyException A)) :=
    sound_request h hNone
  exact hUse

end Benign

section Soundness

theorem sound_pause (duration : Json) : Sound (pause duration) :=
  sound_checked fun _ => rfl

theorem sound_setFlag (flag : Flag) (value : Bool) : Sound (setFlag flag value) :=
  sound_perform fun _ => rfl

theorem sound_assignEvent (event : Event) (value : Bool) :
    Sound (perform (.assignEvent event value)) :=
  sound_perform fun _ => rfl

theorem sound_setattr (name : String) (value : Json) : Sound (setattr name value) :=
  sound_perform fun _ => rfl

theorem sound_writeDetectorCommand (command : String) (value : Json) :
    Sound (writeDetectorCommand command value) := by
  unfold writeDetectorCommand
  exact sound_answered (fun _ => rfl) rfl

theorem sound_readDetectorConfig (item : String) : Sound (readDetectorConfig item) :=
  sound_request (fun _ => rfl) rfl

theorem sound_getTriggerMode : Sound getTriggerMode :=
  sound_attribute fun value => by simp [fits]

theorem sound_getHvState : Sound getHvState :=
  sound_attribute fun value => by simp [fits]

/-- Whether triggers can be counted against a value does not depend on their number. -/
theorem succeeds_lessThan (count : Nat) (value : Json) :
    succeeds (value.getValue >>= Json.lessThan 0) =
      succeeds (value.getValue >>= Json.lessThan count) := by
  cases value.getValue with
  | error e => rfl
  | ok ntrigger => cases ntrigger <;> rfl

theorem sound_moreTriggers (count : Nat) : Sound (moreTriggers count) := by
  have hRead : Sound (getattr "ntrigger" >>= fun ntrigger =>
      liftExcept (ntrigger.getValue >>= Json.lessThan count)) :=
    sound_attribute fun value => by simp [fits, succeeds_lessThan count]
  apply (sound_perform fun _ => rfl).bind
  intro acquisitionComplete
  cases acquisitionComplete with
  | true => trivial
  | false => exact hRead

theorem sound_writeTrigger : Sound writeTrigger := by
  apply sound_getTriggerMode.bind
  intro triggerMode
  split_ifs
  · apply (sound_perform fun _ => rfl).bind
    intro value
    apply (sound_writeDetectorCommand _ _).bind
    intro _
    apply (sound_perform fun _ => rfl).bind
    exact sound_pause
  · exact (sound_writeDetectorCommand _ _).bind fun _ => trivial

theorem sound_sendTrigger (count : Nat) : Sound (sendTrigger count) := by
  have hAwait : Sound awaitTrigger := by
    apply (sound_perform fun _ => rfl).bind
    intro manualTrigger
    cases manualTrigger with
    | true => exact sound_perform fun _ => rfl
    | false => trivial
  apply hAwait.bind
  intro doTrigger
  cases doTrigger with
  | true => exact sound_writeTrigger.bind fun _ => (sound_assignEvent _ _).bind fun _ => trivial
  | false => trivial

theorem sound_finishAcquisition : Sound finishAcquisition := by
  apply (sound_setFlag _ _).bind
  intro _
  apply (sound_writeDetectorCommand _ _).bind
  intro _
  exact (sound_setFlag _ _).bind fun _ => trivial

theorem sound_onEvent (event : Event) {iteration : Code Point} (h : Sound iteration) :
    Sound (onEvent event iteration) := by
  apply (sound_perform fun _ => rfl).bind
  intro executing
  cases executing with
  | true =>
      apply (sound_perform fun _ => rfl).bind
      intro woken
      cases woken with
      | true => exact h
      | false => trivial
  | false => trivial

theorem sound_readAll (cfgs : List String) : Sound (readAll cfgs) := by
  induction cfgs with
  | nil => trivial
  | cons cfg cfgs ih =>
      apply (sound_readDetectorConfig cfg).bind
      intro param
      exact (sound_setattr _ _).bind fun _ => ih

theorem sound_waitReady (pauses : Nat) : Sound (waitReady pauses) := by
  induction pauses with
  | zero => exact sound_getHvState.bind fun _ => trivial
  | succ pauses ih =>
      apply sound_getHvState.bind
      intro state
      split_ifs
      · trivial
      · exact (sound_pause _).bind fun _ => ih

theorem sound_resetIterations (iterations : Nat) : Sound (resetIterations iterations) := by
  induction iterations with
  | zero => trivial
  | succ iterations ih =>
      apply (sound_waitReady 60).bind
      intro ready
      cases ready with
      | true =>
          apply (sound_writeDetectorCommand _ _).bind
          intro _
          exact (sound_pause _).bind fun _ => ih
      | false => trivial

theorem sound_hvReset : Sound hvReset := by
  have hMaterial : Sound (getattr "sensor_material" >>= fun material =>
      liftExcept (material.subscript "value" >>= lower)) :=
    sound_attribute fun value => by simp [fits]
  have hWhole : hvReset = ((getattr "sensor_material" >>= fun material =>
      liftExcept (material.subscript "value" >>= lower)) >>= fun name =>
        if name = "cdte" then resetIterations 10 else pure ()) := by
    rw [hvReset, Program.bind_assoc]
  rw [hWhole]
  apply hMaterial.bind
  intro name
  split_ifs
  · exact sound_resetIterations 10
  · trivial

theorem sound_readDetectorLiveImage : Sound readDetectorLiveImage := by
  have hImage : Sound (request (.get .detectorMonitor "images/next") >>= fun r =>
      liftExcept (liveImage r.statusCode r.content)) :=
    sound_request (fun _ => rfl) rfl
  have hWhole : readDetectorLiveImage =
      ((request (.get .detectorMonitor "images/next") >>= fun r =>
        liftExcept (liveImage r.statusCode r.content)) >>= publish) := by
    rw [readDetectorLiveImage, Program.bind_assoc]
  rw [hWhole]
  apply hImage.bind
  intro image
  cases image with
  | none => trivial
  | some image => exact sound_perform fun _ => rfl

theorem sound_viewWhen (liveViewEnabled : Bool) : Sound (viewWhen liveViewEnabled) := by
  cases liveViewEnabled with
  | true => exact sound_readDetectorLiveImage
  | false => trivial

theorem sound_doAcquisition (point : Point) : Sound (doAcquisition point) := by
  cases point with
  | top =>
      apply sound_onEvent
      apply (sound_assignEvent _ _).bind
      intro _
      exact (sound_assignEvent _ _).bind fun _ => trivial
  | triggers count =>
      apply (sound_moreTriggers count).bind
      intro more
      cases more with
      | true => exact sound_sendTrigger count
      | false => exact sound_finishAcquisition
  | ended => trivial

theorem sound_doInitialize (point : Point) : Sound (doInitialize point) := by
  cases point with
  | top =>
      apply sound_onEvent
      apply (sound_writeDetectorCommand _ _).bind
      intro _
      apply (sound_setFlag _ _).bind
      intro _
      apply (sound_assignEvent _ _).bind
      intro _
      exact (sound_readAll _).bind fun _ => trivial
  | _ => trivial

theorem sound_doHvReset (point : Point) : Sound (doHvReset point) := by
  cases point with
  | top =>
      apply sound_onEvent
      apply sound_hvReset.bind
      intro _
      apply (sound_setFlag _ _).bind
      intro _
      exact (sound_assignEvent _ _).bind fun _ => trivial
  | _ => trivial

theorem sound_lvLoop (point : Point) : Sound (lvLoop point) := by
  cases point with
  | top =>
      apply (sound_perform fun _ => rfl).bind
      intro executing
      cases executing with
      | false => trivial
      | true =>
          apply (sound_perform fun _ => rfl).bind
          intro liveViewEnabled
          apply (sound_viewWhen liveViewEnabled).bind
          intro _
          exact (sound_pause _).bind fun _ => trivial
  | _ => trivial

end Soundness

end Eiger.Server
