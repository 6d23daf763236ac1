import EigerDetector.Control.Construction
import EigerDetector.Control.SetValue
import EigerDetector.Control.Workers
import EigerDetector.Library.Pool

/-! What the server serves comes from the detector, and what it writes the detector permits:
from the construction on, with any number of requests and loops at the same time. -/
namespace Eiger.Server

open Threads Transition
open Control (DETECTOR_CONFIG STREAM_CONFIG)

/-- What the detector has answered so far. -/
abbrev Heard := List (Request × Response)

/-- What an action finds outside of the server: the detector, and the trigger exposure that was
set by then. -/
structure Moment where
  env : Environment
  triggerExposure : Json

structure Hearing where
  detector : EigerDetector
  heard : Heard

/-- The server before its construction. -/
def Hearing.blank : Hearing := ⟨initial (fun _ => none) [], []⟩

def heardIn : (action : Action) → action.Reply → Heard
  | .request r, some response => [(r, response)]
  | _, _ => []

def hear (m : Moment) (action : Action) (s : Hearing) : Option (Hearing × action.Reply) :=
  (answer m.env action { s.detector with triggerExposure := m.triggerExposure }).map fun answered =>
    (⟨answered.1, s.heard ++ heardIn action answered.2⟩, answered.2)

section Promise

/-- A parameter of the detector: where it is read, and what it is called. -/
structure Parameter where
  uri : Uri
  path : String
  item : String
  deriving DecidableEq

/-- The parameter that the attribute of this name caches. -/
def sourceOf (name : String) : Option Parameter :=
  if name = "stream_mode" ∨ name = "mode" then some ⟨.streamConfig, "mode", "mode"⟩
  else if name = "monitor_mode" then some ⟨.detectorMonitor, "config/mode", "mode"⟩
  else if name = "fw_mode" then some ⟨.filewriterConfig, "mode", "mode"⟩
  else (ownUri name).map fun own => ⟨own.1, own.2, name⟩

/-- The response as it is cached: an option by its index, a link as an enumeration. -/
def Reads (name item : String) (response : Response) (value : Json) : Prop :=
  ∃ reply, interceptReply item (parseResponse response) = .ok reply ∧
    (value = reply ∨ shownItem name reply = .ok value)

/-- The detector has answered a read of the parameter with this value. -/
def Backed (heard : Heard) (name : String) (value : Json) : Prop :=
  ∃ source response, sourceOf name = some source ∧
    (.get source.uri source.path, response) ∈ heard ∧ Reads name source.item response value

/-- The detector has said that the parameter may be written, when it was asked. -/
def SaidWriteable (heard : Heard) (item : String) : Prop :=
  ∃ response param, (.get .detectorConfig item, response) ∈ heard ∧
    interceptReply item (parseResponse response) = .ok param ∧ isWriteable param = .ok true

/-- The commands of the server. -/
def Commands : List String := "hv_reset" :: COMMANDS

/-- An option is written by its name. -/
def NamesOption (item : String) (data : Option Json) : Prop :=
  ∀ o, option_config_options.lookup item = some o → ∃ name ∈ o.options, data = some (.str name)

/-- A put that the server may send, where it may write these parameters of the detector. -/
def MayPut (writeable : String → Prop) (uri : Uri) (item : String) (data : Option Json) : Prop :=
  match uri with
  | .detectorConfig => item ∈ DETECTOR_CONFIG ∧ writeable item ∧ NamesOption item data
  | .streamConfig => item ∈ STREAM_CONFIG ∧ NamesOption item data
  | .filewriterConfig => item ∈ FW_CONFIG ∧ NamesOption item data
  | .detectorMonitor => item = "config/mode" ∧ NamesOption "mode" data
  | .detectorCommand => item ∈ Commands
  | _ => False

end Promise

/-- What a thread may do after it has heard this much. -/
def provenance (writeable : String → Prop) : Tracker Action Action.Reply Heard where
  permits heard action :=
    match action with
    | .setattr name value => Backed heard name value
    | .request (.put uri item data) => MayPut writeable uri item data
    | _ => True
  follows heard action reply heard' := heard' = heard ++ heardIn action reply

/-- The code does only what it may, and ends as promised with no less heard. -/
def Backs {A : Type} (writeable : String → Prop) (post : Heard → A → Prop) (heard : Heard)
    (code : Code A) : Prop :=
  code.Tracked (provenance writeable) (fun heard' a => heard ⊆ heard' ∧ post heard' a)
    (fun heard' _ => heard ⊆ heard') heard

section Rules

variable {A B : Type} {writeable : String → Prop} {heard heard' : Heard} {post : Heard → A → Prop}

theorem Backed.mono {name : String} {value : Json} (h : Backed heard name value)
    (hMore : heard ⊆ heard') : Backed heard' name value := by
  obtain ⟨source, response, hSource, hHeard, hReads⟩ := h
  exact ⟨source, response, hSource, hMore hHeard, hReads⟩

theorem Backs.bind {post' : Heard → B → Prop} {p : Code A} {f : A → Code B}
    (h : Backs writeable post heard p)
    (hf : ∀ heard' a, heard ⊆ heard' → post heard' a → Backs writeable post' heard' (f a)) :
    Backs writeable post' heard (p >>= f) := by
  apply Program.Tracked.bind h
  rintro heard' a ⟨hMore, hPost⟩
  apply Program.Tracked.mono (hf heard' a hMore hPost)
  · exact fun heard'' b hEnd => ⟨List.Subset.trans hMore hEnd.1, hEnd.2⟩
  · exact fun heard'' _ hEnd => List.Subset.trans hMore hEnd

theorem Backs.onFailure {p : Code A} {handler : PyException → Code A}
    (h : Backs writeable post heard p)
    (hHandler : ∀ heard' e, heard ⊆ heard' → Backs writeable post heard' (handler e)) :
    Backs writeable post heard (p.onFailure handler) := by
  apply Program.Tracked.onFailure h
  intro heard' e hMore
  apply Program.Tracked.mono (hHandler heard' e hMore)
  · exact fun heard'' b hEnd => ⟨List.Subset.trans hMore hEnd.1, hEnd.2⟩
  · exact fun heard'' _ hEnd => List.Subset.trans hMore hEnd

theorem backs_pure {a : A} (h : post heard a) : Backs writeable post heard (pure a) :=
  ⟨List.Subset.refl heard, h⟩

theorem backs_fail (e : PyException) : Backs writeable post heard (.fail e) :=
  List.Subset.refl heard

theorem backs_liftExcept {outcome : Except PyException A}
    (h : ∀ a, outcome = .ok a → post heard a) :
    Backs writeable post heard (liftExcept outcome) := by
  cases outcome with
  | ok a => exact backs_pure (h a rfl)
  | error e => exact backs_fail e

theorem backs_perform {action : Action} {post : Heard → action.Reply → Prop}
    (hPermits : (provenance writeable).permits heard action)
    (hPost : ∀ reply, post (heard ++ heardIn action reply) reply) :
    Backs writeable post heard (perform action) := by
  refine ⟨hPermits, fun reply heard' hFollows => ?_⟩
  rw [hFollows]
  exact ⟨List.subset_append_left _ _, hPost reply⟩

/-- Code of which nothing has to be known, and what follows. -/
theorem Backs.seq {post : Heard → A → Prop} {post' : Heard → B → Prop} {p : Code A}
    {f : A → Code B} (h : Backs writeable post heard p)
    (hf : ∀ heard' a, Backs writeable post' heard' (f a)) :
    Backs writeable post' heard (p >>= f) :=
  h.bind fun heard' a _ _ => hf heard' a

theorem backs_free {action : Action} (h : (provenance writeable).permits heard action) :
    Backs writeable (fun _ _ => True) heard (perform action) :=
  backs_perform h fun _ => trivial

/-- An action of which nothing has to be known, and what follows. -/
theorem backs_act {action : Action} {post : Heard → A → Prop} {f : action.Reply → Code A}
    (h : (provenance writeable).permits heard action)
    (hf : ∀ heard' reply, Backs writeable post heard' (f reply)) :
    Backs writeable post heard (perform action >>= f) :=
  (backs_free h).seq hf

theorem backs_raising (outcome : Except PyException A) :
    Backs writeable (fun _ _ => True) heard (liftExcept outcome) :=
  backs_liftExcept fun _ _ => trivial

end Rules

section Calls

variable {writeable : String → Prop} {heard : Heard} {name item : String} {value : Json} {uri : Uri}

/-- A read, with the response that was heard. -/
theorem backs_get (uri : Uri) (item : String) :
    Backs writeable (fun heard' response => (.get uri item, response) ∈ heard') heard
      (request (.get uri item)) := by
  have hRead : Backs writeable (fun heard' (response : Option Response) =>
      ∀ r, response = some r → (.get uri item, r) ∈ heard') heard
        (perform (.request (.get uri item))) := by
    refine backs_perform (show True from trivial) fun response => ?_
    intro r hResponse
    rw [hResponse, heardIn]
    simp
  apply hRead.bind
  intro heard' response _ hHeard
  cases response with
  | none => exact backs_fail _
  | some response => exact backs_pure (hHeard response rfl)

theorem backs_put {data : Option Json} (h : MayPut writeable uri item data) :
    Backs writeable (fun _ _ => True) heard (request (.put uri item data)) := by
  have hWrite : Backs writeable (fun _ _ => True) heard
      (perform (.request (.put uri item data))) :=
    backs_perform h fun _ => trivial
  apply hWrite.bind
  intro heard' response _ _
  cases response with
  | none => exact backs_fail _
  | some response => exact backs_pure trivial

theorem backs_setattr (h : Backed heard name value) :
    Backs writeable (fun _ _ => True) heard (setattr name value) :=
  backs_perform h fun _ => trivial

/-- The code reads the parameter. -/
def Parameter.ReadBy (source : Parameter) (read : Code Json) : Prop :=
  read = (do
    let r ← request (.get source.uri source.path)
    liftExcept (interceptReply source.item (parseResponse r)))

/-- What a read of a config item gives. -/
theorem backs_readParameter {source : Parameter} {read : Code Json} (h : source.ReadBy read) :
    Backs writeable (fun heard' param => ∃ response,
      (.get source.uri source.path, response) ∈ heard' ∧
        interceptReply source.item (parseResponse response) = .ok param) heard read := by
  rw [h]
  apply (backs_get source.uri source.path).bind
  intro heard' response _ hHeard
  exact backs_liftExcept fun param hParam => ⟨response, hHeard, hParam⟩

theorem backs_readStatus (uri : Uri) (item : String) :
    Backs writeable (fun heard' reply => ∃ response, (.get uri item, response) ∈ heard' ∧
      parseResponse response = reply) heard (readStatus uri item) := by
  apply (backs_get uri item).bind
  intro heard' response _ hHeard
  exact backs_pure ⟨response, hHeard, rfl⟩

/-- A config item that was read is stored. -/
theorem backs_storeConfig {source : Parameter} {read : Code Json}
    (h : sourceOf name = some source) (hRead : source.ReadBy read) :
    Backs writeable (fun _ _ => True) heard (do
      let param ← read
      setattr name param) := by
  apply (backs_readParameter hRead).bind
  rintro heard' param _ ⟨response, hHeard, hParam⟩
  exact backs_setattr ⟨source, response, h, hHeard, param, hParam, .inl rfl⟩

/-- A status that was read is stored. A status is no option. -/
theorem backs_storeStatus (h : sourceOf name = some ⟨uri, item, name⟩) (hName : ¬ IsOption name) :
    Backs writeable (fun _ _ => True) heard (do
      let reply ← readStatus uri item
      setattr name reply) := by
  apply (backs_readStatus uri item).bind
  rintro heard' reply _ ⟨response, hHeard, rfl⟩
  exact backs_setattr ⟨_, response, h, hHeard, _, interceptReply_of_not_option hName _, .inl rfl⟩

theorem mem_of_atIndex {A : Type} {elements : List A} {i : Int} {a : A}
    (h : atIndex elements i = .ok a) : a ∈ elements := by
  rw [atIndex] at h
  split_ifs at h
  all_goals
    split at h
    · next hElement =>
        cases h
        exact List.mem_of_getElem? hElement
    · cases h

/-- An option is written by its name. -/
theorem namesOption_of_optionValue {written : Json} (h : optionValue item value = .ok written) :
    NamesOption item (some written) := by
  intro o hOption
  rw [optionValue, hOption] at h
  change (o.getOption value).map Json.str = _ at h
  cases hName : o.getOption value with
  | error e =>
      rw [hName] at h
      cases h
  | ok name =>
      rw [hName] at h
      cases h
      rw [EigerOption.getOption] at hName
      cases hIndex : toInt value with
      | error e =>
          rw [hIndex] at hName
          cases hName
      | ok i =>
          rw [hIndex] at hName
          exact ⟨name, mem_of_atIndex hName, rfl⟩

theorem backs_writeConfig {written : Json} (h : MayPut writeable uri item (some written)) :
    Backs writeable (fun _ _ => True) heard (writeConfig uri item written) :=
  (backs_put h).seq fun _ _ => backs_pure trivial

theorem backs_writeMonitorConfig {written : Json} (h : NamesOption "mode" (some written)) :
    Backs writeable (fun _ _ => True) heard (writeMonitorConfig "mode" written) := by
  have hPut : MayPut writeable .detectorMonitor "config/mode" (some written) := ⟨rfl, h⟩
  exact (backs_put hPut).seq fun _ _ => backs_pure trivial

theorem backs_writeDetectorCommand {command : String} (h : command ∈ Commands) :
    Backs writeable (fun _ _ => True) heard (writeDetectorCommand command value) := by
  have hPut : ∀ data, Backs writeable (fun _ _ => True) heard
      (request (.put .detectorCommand command data)) :=
    fun data => backs_put h
  exact (hPut _).seq fun _ _ => backs_pure trivial

theorem backs_getattr : Backs writeable (fun _ _ => True) heard (getattr name) := by
  have hRead : Backs writeable (fun _ _ => True) heard (perform (.getattr name)) :=
    backs_free trivial
  apply hRead.seq
  intro heard' value
  cases value with
  | none => exact backs_fail _
  | some value => exact backs_pure trivial

theorem sourceOf_detectorConfig : ∀ cfg ∈ DETECTOR_CONFIG,
    sourceOf cfg = some ⟨.detectorConfig, cfg, cfg⟩ := by
  decide +kernel

theorem sourceOf_streamConfig : ∀ cfg ∈ STREAM_CONFIG,
    sourceOf cfg = some ⟨.streamConfig, cfg, cfg⟩ := by
  decide +kernel

theorem sourceOf_filewriterConfig : ∀ cfg ∈ FW_CONFIG, cfg ≠ "mode" →
    sourceOf cfg = some ⟨.filewriterConfig, cfg, cfg⟩ := by
  decide +kernel

theorem sourceOf_detectorStatus : ∀ status ∈ DETECTOR_STATUS,
    sourceOf status = some ⟨.detectorStatus, status, status⟩ ∧ ¬ IsOption status := by
  decide +kernel

/-- The parameter that an attribute for a mode caches. -/
def ModeType.source : ModeType → Parameter
  | stream => ⟨.streamConfig, "mode", "mode"⟩
  | monitor => ⟨.detectorMonitor, "config/mode", "mode"⟩
  | filewriter => ⟨.filewriterConfig, "mode", "mode"⟩

theorem ModeType.sourceOf_cachedAs (modeType : ModeType) :
    sourceOf modeType.cachedAs = some modeType.source := by
  cases modeType <;> rfl

theorem ModeType.readBy_read (modeType : ModeType) : modeType.source.ReadBy modeType.read := by
  cases modeType <;> rfl

/-- A value that is set is read from where it was written. -/
theorem backs_setValue (h : item ∈ DETECTOR_CONFIG → writeable item) :
    Backs writeable (fun _ _ => True) heard (setValue item value) := by
  have hWrite : ∀ heard written, NamesOption item (some written) →
      Backs writeable (fun _ _ => True) heard (writeValue item written) := by
    intro heard written hNames
    rw [writeValue]
    split_ifs with hDetector hStream hFilewriter
    · exact backs_writeConfig ⟨hDetector, h hDetector, hNames⟩
    · exact backs_writeConfig ⟨hStream, hNames⟩
    · exact backs_writeConfig ⟨hFilewriter, hNames⟩
    · exact backs_pure trivial
  have hRead : ∀ heard, Backs writeable (fun _ _ => True) heard (do
      let param ← readValue item
      setattr item param) := by
    intro heard
    rw [readValue]
    split_ifs with hDetector hStream hFilewriter hStatus
    · exact backs_storeConfig (sourceOf_detectorConfig item hDetector) rfl
    · exact backs_storeConfig (sourceOf_streamConfig item hStream) rfl
    · have hMode : item ≠ "mode" := fun hMode => hStream (hMode ▸ by decide)
      exact backs_storeConfig (sourceOf_filewriterConfig item hFilewriter hMode) rfl
    · obtain ⟨hSource, hOption⟩ := sourceOf_detectorStatus item hStatus
      exact backs_storeStatus hSource hOption
    · exact backs_fail _
  have hValue : Backs writeable (fun _ written => NamesOption item (some written)) heard
      (liftExcept (optionValue item value)) :=
    backs_liftExcept fun written hWritten => namesOption_of_optionValue hWritten
  apply hValue.bind
  intro heard' written _ hNames
  apply (hWrite heard' written hNames).seq
  intro heard'' response
  split
  · exact hRead heard''
  · exact backs_free trivial
  · exact backs_pure trivial

/-- A mode is written and read again. -/
theorem backs_setMode (modeType : ModeType) :
    Backs writeable (fun _ _ => True) heard (setMode modeType value) := by
  have hValue : Backs writeable (fun _ written => NamesOption "mode" (some written)) heard
      (liftExcept (optionValue "mode" value)) :=
    backs_liftExcept fun written hWritten => namesOption_of_optionValue hWritten
  apply hValue.bind
  intro heard' written _ hNames
  have hWrite : Backs writeable (fun _ _ => True) heard' (modeType.write written) := by
    cases modeType with
    | stream => exact backs_writeConfig ⟨by decide, hNames⟩
    | monitor => exact backs_writeMonitorConfig hNames
    | filewriter => exact backs_writeConfig ⟨by decide, hNames⟩
  exact hWrite.seq fun _ _ => backs_storeConfig modeType.sourceOf_cachedAs modeType.readBy_read

theorem backs_fetchParameters (cfgs : List String) :
    Backs writeable (fun _ _ => True) heard (fetchParameters cfgs) := by
  induction cfgs generalizing heard with
  | nil => exact backs_pure trivial
  | cons cfg cfgs ih =>
      have hFetch : Backs writeable (fun _ _ => True) heard (fetchParameter cfg) := by
        rw [fetchParameter]
        split_ifs with hDetector hStream
        · exact backs_storeConfig (sourceOf_detectorConfig cfg hDetector) rfl
        · exact backs_storeConfig (sourceOf_streamConfig cfg hStream) rfl
        · exact backs_pure trivial
      exact hFetch.seq fun _ _ => ih

theorem backs_fetchStaleParameters (blocking : Bool) (depth : Nat) :
    Backs writeable (fun _ _ => True) heard (fetchStaleParameters blocking depth) := by
  induction depth generalizing heard with
  | zero => exact backs_fail _
  | succ depth ih =>
      have hAgain : ∀ heard (stale : Bool), Backs writeable (fun _ _ => True) heard
          (if stale then fetchStaleParameters blocking depth else pure ()) := by
        intro heard stale
        cases stale with
        | false => exact backs_pure trivial
        | true => exact ih
      refine backs_act trivial fun _ previousStaleParameters => ?_
      refine backs_act trivial fun _ cfgs => ?_
      apply (backs_fetchParameters cfgs).seq
      intro _ _
      refine backs_act trivial fun _ _ => ?_
      cases blocking with
      | false => exact hAgain _ false
      | true => exact backs_act trivial hAgain

theorem backs_getTriggerMode : Backs writeable (fun _ _ => True) heard getTriggerMode :=
  backs_getattr.seq fun _ _ => backs_raising _

theorem backs_startAcquisition (h : writeable "nimages") (depth : Nat) :
    Backs writeable (fun _ _ => True) heard (startAcquisition depth) := by
  apply (backs_fetchStaleParameters true depth).seq
  intro _ _
  refine backs_act trivial fun _ _ => ?_
  apply backs_getTriggerMode.seq
  intro heard triggerMode
  have hImages : Backs writeable (fun _ _ => True) heard (setImages triggerMode) := by
    rw [setImages]
    split_ifs
    · refine backs_act trivial fun _ accepted => ?_
      cases accepted with
      | false => exact backs_fail _
      | true => exact backs_setValue fun _ => h
    · exact backs_pure trivial
  apply hImages.seq
  intro heard _
  have hArm : Backs writeable (fun _ _ => True) heard armDetector := by
    apply (backs_writeDetectorCommand (by decide)).seq
    intro _ _
    exact (backs_raising _).seq fun _ _ => backs_free trivial
  apply hArm.seq
  intro heard _
  have hWake : Backs writeable (fun _ _ => True) heard (wakeAcquisition triggerMode) := by
    rw [wakeAcquisition]
    split_ifs
    · exact backs_free trivial
    · exact backs_pure trivial
  exact hWake.seq fun _ _ => backs_free trivial

end Calls

section Loops

variable {writeable : String → Prop} {heard : Heard}

theorem backs_pause (duration : Json) : Backs writeable (fun _ _ => True) heard (pause duration) :=
  backs_act trivial fun _ _ => backs_raising _

theorem backs_onEvent {event : Event} {iteration : Code Point}
    (h : ∀ heard, Backs writeable (fun _ _ => True) heard iteration) :
    Backs writeable (fun _ _ => True) heard (onEvent event iteration) := by
  refine backs_act trivial fun _ executing => ?_
  cases executing with
  | false => exact backs_pure trivial
  | true =>
      refine backs_act trivial fun heard woken => ?_
      cases woken with
      | false => exact backs_pure trivial
      | true => exact h heard

theorem backs_moreTriggers (count : Nat) :
    Backs writeable (fun _ _ => True) heard (moreTriggers count) := by
  refine backs_act trivial fun _ acquisitionComplete => ?_
  cases acquisitionComplete with
  | true => exact backs_pure trivial
  | false => exact backs_getattr.seq fun _ _ => backs_raising _

theorem backs_sendTrigger (count : Nat) :
    Backs writeable (fun _ _ => True) heard (sendTrigger count) := by
  have hAwait : Backs writeable (fun _ _ => True) heard awaitTrigger := by
    refine backs_act trivial fun _ manualTrigger => ?_
    cases manualTrigger with
    | false => exact backs_pure trivial
    | true => exact backs_free trivial
  have hWrite : ∀ heard, Backs writeable (fun _ _ => True) heard writeTrigger := by
    intro heard
    apply backs_getTriggerMode.seq
    intro _ triggerMode
    split_ifs
    · refine backs_act trivial fun _ value => ?_
      apply (backs_writeDetectorCommand (by decide)).seq
      intro _ _
      exact backs_act trivial fun _ duration => backs_pause duration
    · exact (backs_writeDetectorCommand (by decide)).seq fun _ _ => backs_pure trivial
  apply hAwait.seq
  intro heard doTrigger
  cases doTrigger with
  | false => exact backs_pure trivial
  | true => exact (hWrite heard).seq fun _ _ => backs_act trivial fun _ _ => backs_pure trivial

theorem backs_doAcquisition (point : Point) :
    Backs writeable (fun _ _ => True) heard (doAcquisition point) := by
  cases point with
  | top =>
      apply backs_onEvent
      intro _
      exact backs_act trivial fun _ _ => backs_act trivial fun _ _ => backs_pure trivial
  | triggers count =>
      apply (backs_moreTriggers count).seq
      intro _ more
      cases more with
      | true => exact backs_sendTrigger count
      | false =>
          refine backs_act trivial fun _ _ => ?_
          apply (backs_writeDetectorCommand (by decide)).seq
          intro _ _
          exact backs_act trivial fun _ _ => backs_pure trivial
  | ended => exact backs_pure trivial

/-- All the parameters that are read are stored under their own names. -/
theorem backs_readAll {cfgs : List String} (h : ∀ cfg ∈ cfgs, cfg ∈ DETECTOR_CONFIG) :
    Backs writeable (fun _ _ => True) heard (readAll cfgs) := by
  induction cfgs generalizing heard with
  | nil => exact backs_pure trivial
  | cons cfg cfgs ih =>
      rw [List.forall_mem_cons] at h
      have hAll : readAll (cfg :: cfgs) = ((do
          let param ← readDetectorConfig cfg
          setattr cfg param) >>= fun _ => readAll cfgs) := by
        rw [readAll, Program.bind_assoc]
      rw [hAll]
      exact (backs_storeConfig (sourceOf_detectorConfig cfg h.1) rfl).seq fun _ _ => ih h.2

theorem backs_doInitialize (point : Point) :
    Backs writeable (fun _ _ => True) heard (doInitialize point) := by
  cases point with
  | top =>
      apply backs_onEvent
      intro _
      apply (backs_writeDetectorCommand (by decide)).seq
      intro _ _
      refine backs_act trivial fun _ _ => backs_act trivial fun _ _ => ?_
      exact (backs_readAll fun _ hCfg => hCfg).seq fun _ _ => backs_pure trivial
  | _ => exact backs_pure trivial

theorem backs_hvReset : Backs writeable (fun _ _ => True) heard hvReset := by
  have hState : ∀ heard, Backs writeable (fun _ _ => True) heard getHvState :=
    fun _ => backs_getattr.seq fun _ _ => backs_raising _
  have hReady : ∀ pauses heard, Backs writeable (fun _ _ => True) heard (waitReady pauses) := by
    intro pauses
    induction pauses with
    | zero => exact fun heard => (hState heard).seq fun _ _ => backs_pure trivial
    | succ pauses ih =>
        intro heard
        apply (hState heard).seq
        intro _ state
        split_ifs
        · exact backs_pure trivial
        · exact (backs_pause _).seq fun heard _ => ih heard
  have hIterations : ∀ iterations heard,
      Backs writeable (fun _ _ => True) heard (resetIterations iterations) := by
    intro iterations
    induction iterations with
    | zero => exact fun _ => backs_pure trivial
    | succ iterations ih =>
        intro heard
        apply (hReady 60 heard).seq
        intro _ ready
        cases ready with
        | false => exact backs_pure trivial
        | true =>
            apply (backs_writeDetectorCommand (by decide)).seq
            intro _ _
            exact (backs_pause _).seq fun heard _ => ih heard
  apply backs_getattr.seq
  intro _ material
  apply (backs_raising _).seq
  intro heard name
  split_ifs
  · exact hIterations 10 heard
  · exact backs_pure trivial

theorem backs_doHvReset (point : Point) :
    Backs writeable (fun _ _ => True) heard (doHvReset point) := by
  cases point with
  | top =>
      apply backs_onEvent
      intro _
      apply backs_hvReset.seq
      intro _ _
      exact backs_act trivial fun _ _ => backs_act trivial fun _ _ => backs_pure trivial
  | _ => exact backs_pure trivial

theorem backs_lvLoop (point : Point) :
    Backs writeable (fun _ _ => True) heard (lvLoop point) := by
  have hView : ∀ heard liveViewEnabled,
      Backs writeable (fun _ _ => True) heard (viewWhen liveViewEnabled) := by
    intro heard liveViewEnabled
    cases liveViewEnabled with
    | false => exact backs_pure trivial
    | true =>
        apply (backs_get .detectorMonitor "images/next").seq
        intro _ r
        apply (backs_raising _).seq
        intro _ image
        cases image with
        | none => exact backs_pure trivial
        | some image => exact backs_free trivial
  cases point with
  | top =>
      refine backs_act trivial fun _ executing => ?_
      cases executing with
      | false => exact backs_pure trivial
      | true =>
          refine backs_act trivial fun heard liveViewEnabled => ?_
          apply (hView heard liveViewEnabled).seq
          intro _ _
          exact (backs_pause _).seq fun _ _ => backs_pure trivial
  | _ => exact backs_pure trivial

theorem backs_code (t : Thread) (point : Point) :
    Backs writeable (fun _ _ => True) heard (t.code point) := by
  cases t with
  | acquisition => exact backs_doAcquisition point
  | initialization => exact backs_doInitialize point
  | hvReset => exact backs_doHvReset point
  | liveView => exact backs_lvLoop point

end Loops

section Statuses

variable {writeable : String → Prop} {heard heard' : Heard} {uri : Uri} {status path : String}

theorem sourceOf_boardStatus : ∀ status ∈ DETECTOR_BOARD_STATUS,
    sourceOf status = some ⟨.detectorStatus, "board_000/" ++ status, status⟩ ∧
      ¬ IsOption status := by
  decide +kernel

theorem sourceOf_buildStatus : ∀ status ∈ DETECTOR_BUILD_STATUS,
    sourceOf status = some ⟨.detectorStatus, "builder/" ++ status, status⟩ ∧
      ¬ IsOption status := by
  decide +kernel

theorem sourceOf_streamStatus : ∀ status ∈ STREAM_STATUS,
    sourceOf status = some ⟨.streamStatus, status, status⟩ ∧ ¬ IsOption status := by
  decide +kernel

theorem backs_suppressed {code : Code Unit} (h : Backs writeable (fun _ _ => True) heard code) :
    Backs writeable (fun _ _ => True) heard (suppressed code) :=
  h.onFailure fun _ _ _ => backs_pure trivial

theorem backs_pollAll {poll : String → Code Unit} {group : List String}
    (h : ∀ status ∈ group, ∀ heard, Backs writeable (fun _ _ => True) heard (poll status)) :
    Backs writeable (fun _ _ => True) heard (pollAll poll group) := by
  induction group generalizing heard with
  | nil => exact backs_pure trivial
  | cons status rest ih =>
      rw [List.forall_mem_cons] at h
      exact (h.1 heard).seq fun _ _ => ih h.2

theorem backs_checkStatus : Backs writeable (fun _ _ => True) heard checkStatus := by
  have hPoll : ∀ status ∈ DETECTOR_STATUS, ∀ heard,
      Backs writeable (fun _ _ => True) heard (pollDetectorStatus status) := by
    intro status hStatus heard
    obtain ⟨hSource, hOption⟩ := sourceOf_detectorStatus status hStatus
    have hRead : ∀ heard, Backs writeable (fun _ _ => True) heard (pollStatus status status) :=
      fun _ => backs_storeStatus hSource hOption
    refine backs_act trivial fun heard missingParameters => ?_
    split_ifs
    · exact backs_pure trivial
    · apply backs_suppressed
      apply backs_getattr.seq
      intro _ description
      apply (backs_raising _).seq
      intro _ value
      apply (backs_raising _).seq
      intro heard small
      cases small with
      | true => exact backs_pure trivial
      | false => exact hRead heard
    · exact backs_suppressed (hRead heard)
  have hBoard : ∀ heard, Backs writeable (fun _ _ => True) heard (pollAll
      (fun status => suppressed (pollStatus status ("board_000/" ++ status)))
        DETECTOR_BOARD_STATUS) := by
    intro heard
    apply backs_pollAll
    intro status hStatus _
    obtain ⟨hSource, hOption⟩ := sourceOf_boardStatus status hStatus
    exact backs_suppressed (backs_storeStatus hSource hOption)
  have hBuild : ∀ heard, Backs writeable (fun _ _ => True) heard (pollAll
      (fun status => suppressed (pollStatus status ("builder/" ++ status)))
        DETECTOR_BUILD_STATUS) := by
    intro heard
    apply backs_pollAll
    intro status hStatus _
    obtain ⟨hSource, hOption⟩ := sourceOf_buildStatus status hStatus
    exact backs_suppressed (backs_storeStatus hSource hOption)
  apply (backs_pollAll hPoll).seq
  intro _ _
  refine backs_act trivial fun heard acquisitionComplete => ?_
  cases acquisitionComplete with
  | true =>
      apply (backs_suppressed (backs_fetchStaleParameters false 1)).seq
      intro heard _
      apply (hBoard heard).seq
      intro heard _
      apply (hBuild heard).seq
      intro _ _
      exact backs_act trivial fun _ _ => backs_pure trivial
  | false =>
      apply (hBoard heard).seq
      intro heard _
      apply (hBuild heard).seq
      intro _ _
      exact backs_act trivial fun _ _ => backs_pure trivial

/-- The objects that the entries have captured come from the detector. -/
def EntriesBacked (heard : Heard) (entries : List StatusEntry) : Prop :=
  ∀ entry ∈ entries, Backed heard entry.status entry.item

theorem EntriesBacked.mono {entries : List StatusEntry} (h : EntriesBacked heard entries)
    (hMore : heard ⊆ heard') : EntriesBacked heard' entries :=
  fun entry hEntry => (h entry hEntry).mono hMore

theorem backs_registerStatus (hSource : sourceOf status = some ⟨uri, path, status⟩)
    (hOption : ¬ IsOption status) :
    Backs writeable EntriesBacked heard (registerStatus uri status path) := by
  have hReply : ∀ heard response, (.get uri path, response) ∈ heard →
      Backs writeable EntriesBacked heard
        (registerReply uri status path (parseResponse response)) := by
    intro heard response hHeard
    have hItem : Backs writeable (fun heard' item => Backed heard' status item) heard
        (liftExcept (shownItem status (parseResponse response))) :=
      backs_liftExcept fun item hShown => ⟨_, response, hSource, hHeard, _,
        interceptReply_of_not_option hOption _, .inr hShown⟩
    apply hItem.bind
    intro heard' item _ hBacked
    apply (backs_setattr hBacked).bind
    intro heard'' _ hMore _
    apply (backs_raising _).bind
    intro heard₃ _ hMore' _
    apply backs_pure
    intro entry hEntry
    rw [List.mem_singleton] at hEntry
    rw [hEntry]
    exact (hBacked.mono hMore).mono hMore'
  apply (backs_readStatus uri path).bind
  rintro heard' reply _ ⟨response, hHeard, rfl⟩
  split
  · refine backs_act trivial fun _ _ => backs_pure ?_
    exact fun _ hEntry => absurd hEntry List.not_mem_nil
  · exact hReply heard' response hHeard

theorem backs_registerAll {register : String → Code (List StatusEntry)} {group : List String}
    (h : ∀ status ∈ group, ∀ heard, Backs writeable EntriesBacked heard (register status)) :
    Backs writeable EntriesBacked heard (registerAll register group) := by
  induction group generalizing heard with
  | nil => exact backs_pure fun _ hEntry => absurd hEntry List.not_mem_nil
  | cons status rest ih =>
      rw [List.forall_mem_cons] at h
      apply (h.1 heard).bind
      intro heard' entries _ hEntries
      apply (ih h.2).bind
      intro heard'' others hMore hOthers
      apply backs_pure
      intro entry hEntry
      rcases List.mem_append.mp hEntry with hFirst | hRest
      · exact hEntries.mono hMore entry hFirst
      · exact hOthers entry hRest

theorem backs_registerStatuses : Backs writeable EntriesBacked heard registerStatuses := by
  have hDetector : ∀ status ∈ DETECTOR_STATUS, ∀ heard,
      Backs writeable EntriesBacked heard (registerDetectorStatus status) := by
    intro status hStatus heard
    obtain ⟨hSource, hOption⟩ := sourceOf_detectorStatus status hStatus
    apply (backs_registerStatus hSource hOption).onFailure
    intro heard' e _
    split_ifs
    · exact backs_pure fun _ hEntry => absurd hEntry List.not_mem_nil
    · exact backs_fail e
  apply (backs_registerAll hDetector).bind
  intro heard detector _ hFirst
  have hBoard : Backs writeable EntriesBacked heard
      (registerAll registerBoardStatus DETECTOR_BOARD_STATUS) := by
    apply backs_registerAll
    intro status hStatus _
    obtain ⟨hSource, hOption⟩ := sourceOf_boardStatus status hStatus
    exact backs_registerStatus hSource hOption
  apply hBoard.bind
  intro heard board hMore hSecond
  have hBuild : Backs writeable EntriesBacked heard
      (registerAll registerBuildStatus DETECTOR_BUILD_STATUS) := by
    apply backs_registerAll
    intro status hStatus _
    obtain ⟨hSource, hOption⟩ := sourceOf_buildStatus status hStatus
    exact backs_registerStatus hSource hOption
  apply hBuild.bind
  intro heard build hMore' hThird
  have hStream : Backs writeable EntriesBacked heard
      (registerAll registerStreamStatus STREAM_STATUS) := by
    apply backs_registerAll
    intro status hStatus _
    obtain ⟨hSource, hOption⟩ := sourceOf_streamStatus status hStatus
    exact backs_registerStatus hSource hOption
  apply hStream.bind
  intro heard stream hMore'' hFourth
  apply backs_pure
  intro entry hEntry
  simp only [List.mem_append] at hEntry
  rcases hEntry with ((hEntry | hEntry) | hEntry) | hEntry
  · exact (((hFirst.mono hMore).mono hMore').mono hMore'') entry hEntry
  · exact ((hSecond.mono hMore').mono hMore'') entry hEntry
  · exact (hThird.mono hMore'') entry hEntry
  · exact hFourth entry hEntry

end Statuses

end Eiger.Server
