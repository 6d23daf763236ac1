import EigerDetector.Control.Provenance

/-! The server from its construction on: where what it shows of the detector comes from, and
which puts it sends. -/
namespace Eiger.Server

open Threads Transition
open Control (DETECTOR_CONFIG STREAM_CONFIG)

section Constructor

variable {writeable : String → Prop} {heard heard' : Heard} {version : String}

/-- The parameter may be set: the detector has said so, or it is set under another name too. -/
def MaySet (heard : Heard) (item : String) : Prop :=
  item = "nimages" ∨ item = "count_time" ∨ SaidWriteable heard item

/-- An object that was captured comes from the detector. -/
def Getter.Backed (heard : Heard) : Getter → Prop
  | .captured status item => Server.Backed heard status item
  | _ => True

def Setter.Backed (heard : Heard) : Setter → Prop
  | .value item => item ∈ DETECTOR_CONFIG → MaySet heard item
  | .command name => name ∈ Commands
  | _ => True

structure Leaf.Backed (heard : Heard) (leaf : Leaf) : Prop where
  getter : leaf.getter.Backed heard
  setter : ∀ setter, leaf.setter = some setter → setter.Backed heard

def LeavesBacked (heard : Heard) (leaves : List Leaf) : Prop := ∀ leaf ∈ leaves, leaf.Backed heard

theorem MaySet.mono {item : String} (h : MaySet heard item) (hMore : heard ⊆ heard') :
    MaySet heard' item := by
  rcases h with hImages | hTime | ⟨response, param, hHeard, hParam⟩
  · exact .inl hImages
  · exact .inr (.inl hTime)
  · exact .inr (.inr ⟨response, param, hMore hHeard, hParam⟩)

theorem Leaf.Backed.mono {leaf : Leaf} (h : leaf.Backed heard) (hMore : heard ⊆ heard') :
    leaf.Backed heard' := by
  constructor
  · have hGetter := h.getter
    cases hLeaf : leaf.getter with
    | captured status item =>
        rw [hLeaf] at hGetter
        exact Server.Backed.mono hGetter hMore
    | _ => trivial
  · intro setter hSetter
    have hBacked := h.setter setter hSetter
    cases setter with
    | value item => exact fun hItem => (hBacked hItem).mono hMore
    | _ => exact hBacked

theorem LeavesBacked.mono {leaves : List Leaf} (h : LeavesBacked heard leaves)
    (hMore : heard ⊆ heard') : LeavesBacked heard' leaves :=
  fun leaf hLeaf => (h leaf hLeaf).mono hMore

theorem LeavesBacked.append {leaves others : List Leaf} (h : LeavesBacked heard leaves)
    (hOthers : LeavesBacked heard others) : LeavesBacked heard (leaves ++ others) := by
  intro leaf hLeaf
  rcases List.mem_append.mp hLeaf with hFirst | hRest
  · exact h leaf hFirst
  · exact hOthers leaf hRest

theorem leavesBacked_nil : LeavesBacked heard [] :=
  fun _ hLeaf => absurd hLeaf List.not_mem_nil

theorem leavesBacked_singleton {leaf : Leaf} (h : leaf.Backed heard) :
    LeavesBacked heard [leaf] := by
  intro other hOther
  rw [List.mem_singleton] at hOther
  rw [hOther]
  exact h

/-- A leaf for an attribute. -/
theorem backed_attribute {path name : String} {setter : Option Setter}
    {metadata : List (String × Json)} (h : ∀ s, setter = some s → s.Backed heard) :
    (⟨path, .cached name, setter, metadata⟩ : Leaf).Backed heard :=
  ⟨trivial, h⟩

theorem backs_initializeAtStart : Backs writeable (fun _ _ => True) heard initializeAtStart := by
  apply (backs_readStatus .detectorStatus "state").seq
  intro _ param
  apply (backs_raising _).seq
  intro _ value
  split_ifs
  · exact (backs_writeDetectorCommand (by decide)).seq fun _ _ => backs_pure trivial
  · exact backs_pure trivial

/-- A parameter can be set where the detector has said so. -/
theorem backs_registerConfig {cfg : String} (hCfg : cfg ∈ DETECTOR_CONFIG) :
    Backs writeable LeavesBacked heard (registerConfig version cfg) := by
  have hSource := sourceOf_detectorConfig cfg hCfg
  have hRead : (⟨.detectorConfig, cfg, cfg⟩ : Parameter).ReadBy (readDetectorConfig cfg) := rfl
  apply (backs_readParameter hRead).bind
  rintro heard₁ param _ ⟨response, hHeard, hParam⟩
  split_ifs
  · exact backs_act trivial fun _ _ => backs_pure leavesBacked_nil
  · apply (backs_setattr ⟨_, response, hSource, hHeard, param, hParam, .inl rfl⟩).bind
    intro heard₂ _ hMore₁ _
    have hWriteable : Backs writeable (fun _ w => isWriteable param = .ok w) heard₂
        (liftExcept (isWriteable param)) :=
      backs_liftExcept fun _ hSaid => hSaid
    apply hWriteable.bind
    intro heard₃ w hMore₂ hSaid
    apply (backs_raising _).bind
    intro heard₄ metadata hMore₃ _
    apply backs_pure
    apply leavesBacked_singleton
    apply backed_attribute
    intro setter hSetter
    split_ifs at hSetter with hTrue
    cases hSetter
    rw [hTrue] at hSaid
    exact fun _ => .inr (.inr ⟨response, param, hMore₃ (hMore₂ (hMore₁ hHeard)), hParam, hSaid⟩)

theorem backs_registerLeaves {register : String → Code (List Leaf)} {group : List String}
    (h : ∀ cfg ∈ group, ∀ heard, Backs writeable LeavesBacked heard (register cfg)) :
    Backs writeable LeavesBacked heard (registerLeaves register group) := by
  induction group generalizing heard with
  | nil => exact backs_pure leavesBacked_nil
  | cons cfg rest ih =>
      rw [List.forall_mem_cons] at h
      apply (h.1 heard).bind
      intro heard' leaves _ hLeaves
      apply (ih h.2).bind
      intro heard'' others hMore hOthers
      exact backs_pure ((hLeaves.mono hMore).append hOthers)

theorem statusLeaves_backed {entries : List StatusEntry} {leaves : List Leaf}
    (h : EntriesBacked heard entries) (hLeaves : statusLeaves version entries = .ok leaves) :
    LeavesBacked heard leaves := by
  induction entries generalizing leaves with
  | nil =>
      cases hLeaves
      exact leavesBacked_nil
  | cons entry entries ih =>
      rw [EntriesBacked, List.forall_mem_cons] at h
      rw [statusLeaves] at hLeaves
      cases hMeta : entry.item.getMeta with
      | error e =>
          rw [hMeta] at hLeaves
          cases hLeaves
      | ok metadata =>
          cases hRest : statusLeaves version entries with
          | error e =>
              rw [hMeta, hRest] at hLeaves
              cases hLeaves
          | ok others =>
              rw [hMeta, hRest] at hLeaves
              cases hLeaves
              intro leaf hLeaf
              rcases List.mem_cons.mp hLeaf with rfl | hOther
              · exact ⟨h.1, fun _ hSetter => by cases hSetter⟩
              · exact ih h.2 hRest leaf hOther

/-- Leaves without a setter, whose getters have captured nothing. -/
theorem backs_registerStatusLeaves :
    Backs writeable LeavesBacked heard (registerStatusLeaves version) := by
  apply backs_registerStatuses.bind
  intro heard₁ entries _ hEntries
  have hMissing : Backs writeable (fun _ _ => True) heard₁ (perform .getMissingParameters) :=
    backs_free trivial
  apply hMissing.bind
  intro heard₂ missingParameters hMore _
  have hStatuses : Backs writeable (fun _ leaves => statusLeaves version entries = .ok leaves)
      heard₂ (liftExcept (statusLeaves version entries)) :=
    backs_liftExcept fun _ hLeaves => hLeaves
  apply hStatuses.bind
  intro heard₃ leaves hMore' hLeaves
  have hBacked : LeavesBacked heard₃ leaves :=
    (statusLeaves_backed (hEntries.mono hMore) hLeaves).mono hMore'
  have hDown : LeavesBacked heard₃ (downLeaves version entries missingParameters) := by
    intro leaf hLeaf
    obtain ⟨status, _, rfl⟩ := List.mem_map.mp hLeaf
    exact ⟨trivial, fun _ hSetter => by cases hSetter⟩
  apply backs_pure
  apply (hBacked.append hDown).append
  exact leavesBacked_singleton ⟨trivial, fun _ hSetter => by cases hSetter⟩

theorem backs_registerWriteable {interface item name : String} {source : Parameter}
    {read : Code Json} {setter : Setter} (hSource : sourceOf name = some source)
    (hRead : source.ReadBy read) (hSetter : ∀ heard, setter.Backed heard) :
    Backs writeable LeavesBacked heard
      (registerWriteable version interface item name read setter) := by
  apply (backs_readParameter hRead).bind
  rintro heard₁ param _ ⟨response, hHeard, hParam⟩
  apply (backs_setattr ⟨source, response, hSource, hHeard, param, hParam, .inl rfl⟩).seq
  intro heard₂ _
  apply (backs_raising _).seq
  intro heard₃ metadata
  apply backs_pure
  apply leavesBacked_singleton
  apply backed_attribute
  intro s hSome
  cases hSome
  exact hSetter heard₃

theorem backs_registerMode {interface : String} (modeType : ModeType) :
    Backs writeable LeavesBacked heard (registerMode version interface modeType) :=
  backs_registerWriteable modeType.sourceOf_cachedAs modeType.readBy_read fun _ => trivial

theorem backs_registerStreamConfig {cfg : String} (hCfg : cfg ∈ STREAM_CONFIG) :
    Backs writeable LeavesBacked heard (registerStreamConfig version cfg) := by
  have hOther : ∀ cfg ∈ STREAM_CONFIG, cfg ∉ DETECTOR_CONFIG := by decide
  rw [registerStreamConfig]
  split_ifs with hMode
  · exact backs_registerMode .stream
  · exact backs_registerWriteable (sourceOf_streamConfig cfg hCfg) rfl
      fun _ hDetector => absurd hDetector (hOther cfg hCfg)

theorem backs_registerFilewriterConfig {cfg : String} (hCfg : cfg ∈ FW_CONFIG) :
    Backs writeable LeavesBacked heard (registerFilewriterConfig version cfg) := by
  have hOther : ∀ cfg ∈ FW_CONFIG, cfg ∉ DETECTOR_CONFIG := by decide
  rw [registerFilewriterConfig]
  split_ifs with hMode
  · exact backs_registerMode .filewriter
  · exact backs_registerWriteable (sourceOf_filewriterConfig cfg hCfg hMode) rfl
      fun _ hDetector => absurd hDetector (hOther cfg hCfg)

theorem backs_registerAlias {path name : String} {setter : Option Setter}
    (h : ∀ heard s, setter = some s → s.Backed heard) :
    Backs writeable LeavesBacked heard (registerAlias path name setter) := by
  apply backs_getattr.seq
  intro _ item
  apply (backs_raising _).seq
  intro heard metadata
  exact backs_pure (leavesBacked_singleton (backed_attribute (h heard)))

theorem ownLeaves_backed : LeavesBacked heard (ownLeaves version) := by
  simp only [LeavesBacked, ownLeaves, List.forall_mem_cons]
  refine ⟨?_, ?_, ?_, ?_, ?_, ?_, ?_, ?_, ?_, ?_, ?_, ?_, by simp⟩
  all_goals exact ⟨trivial, fun _ hSetter => by cases hSetter <;> trivial⟩

theorem commandLeaves_backed : LeavesBacked heard (COMMANDS.map (commandLeaf version)) := by
  intro leaf hLeaf
  obtain ⟨command, hCommand, rfl⟩ := List.mem_map.mp hLeaf
  refine ⟨trivial, fun _ hSetter => ?_⟩
  cases hSetter
  exact List.mem_cons_of_mem _ hCommand

theorem backs_registerOdinLeaves :
    Backs writeable LeavesBacked heard (registerOdinLeaves version) := by
  have hCutoff : Backs writeable LeavesBacked heard (registerCutoff version) := by
    rw [registerCutoff]
    split_ifs
    · exact backs_pure leavesBacked_nil
    · exact backs_registerAlias fun _ _ hSetter => by cases hSetter
  apply hCutoff.bind
  intro heard₁ cutoff _ hCutoff
  have hWidth : Backs writeable LeavesBacked heard₁
      (registerAlias "status/sensor/width" "x_pixels_in_detector" none) :=
    backs_registerAlias fun _ _ hSetter => by cases hSetter
  apply hWidth.bind
  intro heard₂ width hMore₁ hWidth
  have hHeight : Backs writeable LeavesBacked heard₂
      (registerAlias "status/sensor/height" "y_pixels_in_detector" none) :=
    backs_registerAlias fun _ _ hSetter => by cases hSetter
  apply hHeight.bind
  intro heard₃ height hMore₂ hHeight
  have hImages : Backs writeable LeavesBacked heard₃
      (registerAlias "config/num_images" "nimages" (some (.value "nimages"))) := by
    apply backs_registerAlias
    intro _ _ hSetter
    cases hSetter
    exact fun _ => .inl rfl
  apply hImages.bind
  intro heard₄ images hMore₃ hImages
  have hExposure : Backs writeable LeavesBacked heard₄
      (registerAlias "config/exposure_time" "count_time" (some (.value "count_time"))) := by
    apply backs_registerAlias
    intro _ _ hSetter
    cases hSetter
    exact fun _ => .inr (.inl rfl)
  apply hExposure.bind
  intro heard₅ exposure hMore₄ hExposure
  apply backs_pure
  refine .append (.append (.append (.append (.append (.append ?_ ?_) ?_) ?_) ?_) ?_) ?_
  · exact (((hCutoff.mono hMore₁).mono hMore₂).mono hMore₃).mono hMore₄
  · exact ((hWidth.mono hMore₂).mono hMore₃).mono hMore₄
  · exact (hHeight.mono hMore₃).mono hMore₄
  · exact hImages.mono hMore₄
  · exact hExposure
  · exact ownLeaves_backed
  · exact commandLeaves_backed

/-- The constructor has heard from the detector what its leaves have captured, and which
parameters they may set. -/
theorem backs_construct : Backs writeable LeavesBacked heard (construct version) := by
  apply backs_initializeAtStart.seq
  intro heard _
  apply (backs_registerLeaves fun _ hCfg _ => backs_registerConfig hCfg).bind
  intro heard₁ config _ hConfig
  apply backs_registerStatusLeaves.bind
  intro heard₂ statuses hMore₁ hStatuses
  apply (backs_registerLeaves fun _ hCfg _ => backs_registerStreamConfig hCfg).bind
  intro heard₃ stream hMore₂ hStream
  apply (backs_registerMode .monitor).bind
  intro heard₄ monitor hMore₃ hMonitor
  apply (backs_registerLeaves fun _ hCfg _ => backs_registerFilewriterConfig hCfg).bind
  intro heard₅ filewriter hMore₄ hFilewriter
  apply backs_registerOdinLeaves.bind
  intro heard₆ odin hMore₅ hOdin
  apply backs_pure
  refine .append (.append (.append (.append (.append ?_ ?_) ?_) ?_) ?_) hOdin
  · exact ((((hConfig.mono hMore₁).mono hMore₂).mono hMore₃).mono hMore₄).mono hMore₅
  · exact (((hStatuses.mono hMore₂).mono hMore₃).mono hMore₄).mono hMore₅
  · exact ((hStream.mono hMore₃).mono hMore₄).mono hMore₅
  · exact (hMonitor.mono hMore₄).mono hMore₅
  · exact hFilewriter.mono hMore₅

end Constructor

section Attributes

variable {A B : Type} {names names' : List String} {version : String}

/-- The attributes that an action shows to be there. -/
def knownIn : (action : Action) → action.Reply → List String
  | .setattr name _, _ => [name]
  | .getattr name, some _ => [name]
  | _, _ => []

/-- Which attributes a thread knows to be there. -/
def known : Tracker Action Action.Reply (List String) where
  permits _ _ := True
  follows names action reply names' := names' = names ++ knownIn action reply

def Knows (post : List String → A → Prop) (names : List String) (code : Code A) : Prop :=
  code.Tracked known (fun names' a => names ⊆ names' ∧ post names' a) (fun _ _ => True) names

theorem Knows.bind {post : List String → A → Prop} {post' : List String → B → Prop} {p : Code A}
    {f : A → Code B} (h : Knows post names p)
    (hf : ∀ names' a, names ⊆ names' → post names' a → Knows post' names' (f a)) :
    Knows post' names (p >>= f) := by
  apply Program.Tracked.bind h
  rintro names' a ⟨hMore, hPost⟩
  apply Program.Tracked.mono (hf names' a hMore hPost)
  · exact fun _ _ hEnd => ⟨List.Subset.trans hMore hEnd.1, hEnd.2⟩
  · exact fun _ _ _ => trivial

/-- The attributes that leaves show are there. -/
def LeavesKnown (names : List String) (leaves : List Leaf) : Prop :=
  ∀ leaf ∈ leaves, ∀ name, leaf.getter = .cached name → name ∈ names

theorem LeavesKnown.mono {leaves : List Leaf} (h : LeavesKnown names leaves)
    (hMore : names ⊆ names') : LeavesKnown names' leaves :=
  fun leaf hLeaf name hName => hMore (h leaf hLeaf name hName)

theorem LeavesKnown.append {leaves others : List Leaf} (h : LeavesKnown names leaves)
    (hOthers : LeavesKnown names others) : LeavesKnown names (leaves ++ others) := by
  intro leaf hLeaf
  rcases List.mem_append.mp hLeaf with hFirst | hRest
  · exact h leaf hFirst
  · exact hOthers leaf hRest

end Attributes

section Requests

variable {writeable : String → Prop} {heard : Heard} {leaves : List Leaf}

theorem backs_call {setter : Setter} {value : Json} (h : setter.Backed heard)
    (hMay : ∀ item, MaySet heard item → writeable item) {heard' : Heard} :
    Backs writeable (fun _ _ => True) heard' (setter.call value) := by
  cases setter with
  | value item => exact backs_setValue fun hItem => hMay item (h hItem)
  | mode modeType => exact backs_setMode modeType
  | flag member => exact backs_free trivial
  | triggerExposure => exact backs_pure trivial
  | command name => exact (backs_writeDetectorCommand h).seq fun _ _ => backs_pure trivial

theorem backs_callSetters {calls : List (Setter × Json)}
    (h : ∀ call ∈ calls, call.1.Backed heard)
    (hMay : ∀ item, MaySet heard item → writeable item) {heard' : Heard} :
    Backs writeable (fun _ _ => True) heard' (callSetters calls) := by
  induction calls generalizing heard' with
  | nil => exact backs_pure trivial
  | cons call calls ih =>
      rw [List.forall_mem_cons] at h
      exact (backs_call h.1 hMay).seq fun _ _ => ih h.2

theorem backs_set {tree : ParameterTree} (hTree : tree.Calls leaves)
    (hLeaves : LeavesBacked heard leaves) (hMay : ∀ item, MaySet heard item → writeable item)
    (depth : Nat) (path : String) (value : Json) {heard' : Heard} :
    Backs writeable (fun _ _ => True) heard' (EigerDetector.set tree depth path value) := by
  have hCalls : ∀ value, ∀ call ∈ tree.calls path value, call.1.Backed heard := by
    intro value call hCall
    obtain ⟨leaf, hLeaf, hSetter⟩ := hTree path value call hCall
    exact (hLeaves leaf hLeaf).setter _ hSetter
  have hRaises : ∀ heard value, Backs writeable (fun _ _ => True) heard
      (if tree.raises path value then .fail .parameterTreeError else pure () : Code Unit) := by
    intro heard value
    split_ifs
    · exact backs_fail _
    · exact backs_pure trivial
  rw [EigerDetector.set]
  split_ifs
  · exact backs_startAcquisition (hMay _ (.inl rfl)) depth
  · apply (backs_writeDetectorCommand (by decide)).seq
    intro _ _
    exact backs_act trivial fun _ _ => backs_free trivial
  · exact backs_free trivial
  · exact backs_act trivial fun _ _ => backs_free trivial
  · exact backs_act trivial fun _ _ => backs_free trivial
  all_goals exact (backs_callSetters (hCalls _) hMay).seq fun heard _ => hRaises heard _

end Requests

section Serving

/-- What a thread of the server does: it serves a request, or it is in an iteration of a
loop. -/
inductive Work where
  | set (tree : ParameterTree) (depth : Nat) (path : String) (value : Json)
  | iteration (t : Thread) (point : Point)
  | checkStatus

def Work.code : Work → Code Unit
  | set tree depth path value => EigerDetector.set tree depth path value
  | iteration t point => do
      let _ ← t.code point
      pure ()
  | checkStatus => Server.checkStatus

/-- The parameter tree is the one that was constructed. -/
def Work.Proper (leaves : List Leaf) : Work → Prop
  | set tree _ _ _ => tree.Calls leaves
  | _ => True

/-- All attributes come from the detector, and only such puts were sent. -/
structure Sourced (writeable : String → Prop) (s : Hearing) : Prop where
  attributes : ∀ name value, s.detector.attributes name = some value → Backed s.heard name value
  puts : ∀ uri item data, .put uri item data ∈ s.detector.log → MayPut writeable uri item data

variable {writeable : String → Prop} {heard : Heard} {m : Moment} {action : Action}
variable {s s' : Hearing} {reply : action.Reply}

/-- An action sets one attribute at most, and makes one request at most. -/
theorem answer_changes {env : Environment} {d d' : EigerDetector}
    (h : answer env action d = some (d', reply)) :
    (∀ name value, d'.attributes name = some value →
      d.attributes name = some value ∨ action = .setattr name value) ∧
    ∀ r ∈ d'.log, r ∈ d.log ∨ action = .request r := by
  cases action with
  | request r =>
      cases h
      refine ⟨fun _ _ hName => .inl hName, fun r' hSent => ?_⟩
      rcases List.mem_append.mp hSent with hOld | hNew
      · exact .inl hOld
      · rw [List.mem_singleton.mp hNew]
        exact .inr rfl
  | setattr name value =>
      cases h
      refine ⟨fun other value' hOther => ?_, fun _ hSent => .inl hSent⟩
      by_cases hSame : other = name
      · subst hSame
        simp only [Function.update_self, Option.some.injEq] at hOther
        rw [hOther]
        exact .inr rfl
      · simp only [Function.update_of_ne hSame] at hOther
        exact .inl hOther
  | _ =>
      cases h
      exact ⟨fun _ _ hName => .inl hName, fun _ hSent => .inl hSent⟩

theorem hear_sourced (hPermits : (provenance writeable).permits heard action)
    (hHeard : heard ⊆ s.heard) (h : Sourced writeable s)
    (hHear : hear m action s = some (s', reply)) :
    Sourced writeable s' ∧
      (∃ heard', (provenance writeable).follows heard action reply heard' ∧ heard' ⊆ s'.heard) ∧
      ∀ other, other ⊆ s.heard → other ⊆ s'.heard := by
  obtain ⟨⟨d', reply'⟩, hAnswer, hResult⟩ := Option.map_eq_some_iff.mp hHear
  cases hResult
  obtain ⟨hAttributes, hLog⟩ := answer_changes hAnswer
  have hMore : s.heard ⊆ s.heard ++ heardIn action reply' := List.subset_append_left _ _
  refine ⟨⟨fun name value hName => ?_, fun uri item data hSent => ?_⟩, ⟨_, rfl, ?_⟩,
    fun other hOther => List.Subset.trans hOther hMore⟩
  · rcases hAttributes name value hName with hOld | rfl
    · exact (h.attributes name value hOld).mono hMore
    · exact Backed.mono hPermits (List.Subset.trans hHeard hMore)
  · rcases hLog _ hSent with hOld | rfl
    · exact h.puts uri item data hOld
    · exact hPermits
  · exact List.append_subset.mpr ⟨List.Subset.trans hHeard hMore, List.subset_append_right _ _⟩

/-- No action takes an attribute away, and those that a thread has seen are there. -/
theorem hear_known {names : List String}
    (hNames : ∀ name ∈ names, s.detector.attributes name ≠ none)
    (hHear : hear m action s = some (s', reply)) :
    (∀ name, s.detector.attributes name ≠ none → s'.detector.attributes name ≠ none) ∧
      ∀ name ∈ names ++ knownIn action reply, s'.detector.attributes name ≠ none := by
  obtain ⟨⟨d', reply'⟩, hAnswer, hResult⟩ := Option.map_eq_some_iff.mp hHear
  cases hResult
  have hKept : ∀ name, s.detector.attributes name ≠ none → d'.attributes name ≠ none := by
    intro name hName
    cases action with
    | setattr other value =>
        cases hAnswer
        by_cases hSame : name = other
        · subst hSame
          simp
        · simpa only [Function.update_of_ne hSame] using hName
    | _ =>
        cases hAnswer
        exact hName
  refine ⟨hKept, fun name hMember => ?_⟩
  rcases List.mem_append.mp hMember with hOld | hNew
  · exact hKept name (hNames name hOld)
  · cases action with
    | setattr other value =>
        cases hAnswer
        obtain rfl : name = other := by simpa [knownIn] using hNew
        simp
    | getattr other =>
        cases hAnswer
        cases hValue : s.detector.attributes other with
        | none => simp [knownIn, hValue] at hNew
        | some value =>
            obtain rfl : name = other := by simpa [knownIn, hValue] using hNew
            show s.detector.attributes name ≠ none
            rw [hValue]
            exact Option.some_ne_none value
    | _ => simp [knownIn] at hNew

/-- The constructor leaves attributes that come from the detector, and leaves that do. -/
theorem construct_sourced {version : String} {leaves : List Leaf}
    (hConstruct : (construct version).run (hear m) .blank = .returned s leaves) :
    Sourced (MaySet s.heard) s ∧ LeavesBacked s.heard leaves := by
  have hBlank : Sourced (fun _ => False) .blank :=
    ⟨fun _ _ hName => by simp [Hearing.blank, initial] at hName,
      fun _ _ _ hSent => absurd hSent List.not_mem_nil⟩
  have hTracked : Backs (fun _ => False) LeavesBacked [] (construct version) := backs_construct
  have hEnd := Program.Tracked.run (hear m)
    (fun heard s => heard ⊆ s.heard ∧ Sourced (fun _ => False) s) hTracked
    ⟨List.nil_subset _, hBlank⟩ fun heard action s s' reply hPermits hInv hHear => by
      obtain ⟨hSourced, ⟨heard', hFollows, hHeard'⟩, _⟩ := hear_sourced hPermits hInv.1 hInv.2 hHear
      exact ⟨heard', hFollows, hHeard', hSourced⟩
  rw [hConstruct] at hEnd
  obtain ⟨heard', ⟨_, hLeaves⟩, hHeard, hSourced⟩ := hEnd
  refine ⟨⟨hSourced.attributes, fun uri item data hSent => ?_⟩, hLeaves.mono hHeard⟩
  have hPut := hSourced.puts uri item data hSent
  cases uri with
  | detectorConfig => exact hPut.2.1.elim
  | _ => exact hPut

variable {version : String} {leaves : List Leaf} {events : List (PoolEvent Moment Work)}
variable {p : Pool Hearing Action Action.Reply PyException}

/-- From the construction on, whatever is going on at the same time. -/
theorem served_sourced
    (hConstruct : (construct version).run (hear m) .blank = .returned s leaves)
    (hRun : Run (Pool.step hear Work.code) (fun _ event => Pool.Begins (Work.Proper leaves) event)
      ⟨s, []⟩ events p) :
    Sourced (MaySet s.heard) p.state ∧ LeavesBacked p.state.heard leaves ∧
      ∀ name, s.detector.attributes name ≠ none → p.state.detector.attributes name ≠ none := by
  obtain ⟨hSourced, hLeaves⟩ := construct_sourced hConstruct
  have hStart : Pool.Orderly (provenance (MaySet s.heard))
      (fun s' => Sourced (MaySet s.heard) s' ∧ s.heard ⊆ s'.heard ∧
        ∀ name, s.detector.attributes name ≠ none → s'.detector.attributes name ≠ none)
      (fun heard s' => heard ⊆ s'.heard)
      (⟨s, []⟩ : Pool Hearing Action Action.Reply PyException) :=
    ⟨⟨hSourced, List.Subset.refl _, fun _ hName => hName⟩,
      fun _ hThread => absurd hThread List.not_mem_nil⟩
  have hWork : ∀ work : Work, work.Proper leaves →
      Backs (MaySet s.heard) (fun _ _ => True) [] work.code := by
    intro work hProper
    cases work with
    | set tree depth path value =>
        exact backs_set hProper hLeaves (fun _ hMay => hMay) depth path value
    | iteration t point => exact (backs_code t point).seq fun _ _ => backs_pure trivial
    | checkStatus => exact backs_checkStatus
  have hOrderly := Pool.orderly_of_run hStart
    (fun heard m action s₁ s₂ reply hPermits hHeard hInv hHear => by
      obtain ⟨hSourced', hFollows, hOthers⟩ := hear_sourced hPermits hHeard hInv.1 hHear
      have hNone : ∀ name ∈ ([] : List String), s₁.detector.attributes name ≠ none := by simp
      obtain ⟨hKept, _⟩ := hear_known hNone hHear
      exact ⟨⟨hSourced', hOthers _ hInv.2.1, fun name hName => hKept name (hInv.2.2 name hName)⟩,
        hFollows, hOthers⟩)
    (fun work s' hProper _ => ⟨[], List.nil_subset _,
      Program.Tracked.mono (hWork work hProper) (fun _ _ _ => trivial) fun _ _ _ => trivial⟩) hRun
  exact ⟨hOrderly.state.1, hLeaves.mono hOrderly.state.2.1, hOrderly.state.2.2⟩

/-- A put that was sent is a command of the server, or it sets a parameter of an interface. A
parameter of the detector is set only if the detector has said at the start that it can be, or
if it is one of the two that are set under another name too. An option is set by its name. -/
theorem puts_permitted
    (hConstruct : (construct version).run (hear m) .blank = .returned s leaves)
    (hRun : Run (Pool.step hear Work.code) (fun _ event => Pool.Begins (Work.Proper leaves) event)
      ⟨s, []⟩ events p)
    {uri : Uri} {item : String} {data : Option Json}
    (hSent : .put uri item data ∈ p.state.detector.log) :
    MayPut (MaySet s.heard) uri item data :=
  (served_sourced hConstruct hRun).1.puts uri item data hSent

section Sample

/-- A detector which answers each read, and each put with the name of the parameter. -/
def sampleMoment : Moment where
  env := { Environment.constant none with
    respond := fun _ r =>
      match r with
      | .get uri item => some ⟨200, [], .json (.dict
          [("value", (option_config_options.lookup
            (if uri = .detectorMonitor then "mode" else item)).elim (.int 3) fun o =>
              .str (o.options.headD "")), ("access_mode", .str "rw")])⟩
      | .put _ item _ => some ⟨200, [], .json (.list [.str item])⟩ }
  triggerExposure := .float 0

/-- A tree in which only the number of images is set. -/
def sampleTree : ParameterTree where
  calls path value := if path = "config/num_images" then [(.value "nimages", value)] else []
  raises _ _ := false
  str _ := ""

/-- The number of images is set and is fetched again, while the status is checked. -/
def sampleServing : List (PoolEvent Moment Work) :=
  [.spawn (.set sampleTree 1 "config/num_images" (.int 5)), .spawn .checkStatus,
    .act 1 sampleMoment, .act 0 sampleMoment, .act 1 sampleMoment, .act 0 sampleMoment]

def showsImages (leaf : Leaf) : Bool := leaf.getter.parameter == some "nimages"

def setsImages : Request → Bool
  | .put .detectorConfig item _ => item == "nimages"
  | _ => false

/-- What is to be seen at the end of the sample. -/
def sampleSeen (constructed : Hearing × List Leaf) : Bool :=
  constructed.2.any (fun leaf => leaf.setter == some (.value "nimages")) &&
    (exec (Pool.step hear Work.code) ⟨constructed.1, []⟩ sampleServing).any fun p =>
      constructed.2.any (fun leaf => showsImages leaf &&
        succeeds (leaf.getter.read p.state.detector)) && p.state.detector.log.any setsImages

theorem sample_served : ∃ s leaves p,
    (construct "1.8.0").run (hear sampleMoment) .blank = .returned s leaves ∧
    Run (Pool.step hear Work.code) (fun _ event => Pool.Begins (Work.Proper leaves) event)
      ⟨s, []⟩ sampleServing p ∧
    (∃ leaf ∈ leaves, (showsImages leaf &&
      succeeds (leaf.getter.read p.state.detector)) = true) ∧
    ∃ r ∈ p.state.detector.log, setsImages r = true := by
  have hSeen : ((construct "1.8.0").run (hear sampleMoment) .blank).result.any sampleSeen =
      true := by
    decide +kernel
  obtain ⟨⟨s, leaves⟩, hResult, hSeen⟩ := (Option.any_eq_true _ _).mp hSeen
  rw [sampleSeen, Bool.and_eq_true, Option.any_eq_true] at hSeen
  obtain ⟨hSetter, p, hExec, hEnd⟩ := hSeen
  rw [Bool.and_eq_true, List.any_eq_true, List.any_eq_true] at hEnd
  have hTree : sampleTree.Calls leaves := by
    intro path value call hCall
    obtain ⟨leaf, hLeaf, hImages⟩ := List.any_eq_true.mp hSetter
    simp only [sampleTree] at hCall
    split_ifs at hCall
    · rw [List.mem_singleton.mp hCall]
      exact ⟨leaf, hLeaf, eq_of_beq hImages⟩
    · cases hCall
  have hBegins : ∀ event ∈ sampleServing, Pool.Begins (Work.Proper leaves) event := by
    simp [sampleServing, Pool.Begins, Work.Proper, hTree]
  refine ⟨s, leaves, p, ?_, Pool.run_of_exec hBegins hExec, hEnd⟩
  cases hOutcome : (construct "1.8.0").run (hear sampleMoment) .blank with
  | returned s' leaves' =>
      rw [hOutcome] at hResult
      cases hResult
      rfl
  | failed s' e =>
      rw [hOutcome] at hResult
      cases hResult
  | blocked s' =>
      rw [hOutcome] at hResult
      cases hResult

theorem sample_puts_permitted : ∃ (heard : Heard) (data : Option Json),
    MayPut (MaySet heard) .detectorConfig "nimages" data := by
  obtain ⟨s, leaves, p, hConstruct, hRun, _, r, hSent, hImages⟩ := sample_served
  cases r with
  | get uri item => cases hImages
  | put uri item data =>
      cases uri with
      | detectorConfig =>
          have hItem : item = "nimages" := eq_of_beq hImages
          rw [hItem] at hSent
          exact ⟨s.heard, data, puts_permitted hConstruct hRun hSent⟩
      | _ => cases hImages

end Sample

end Serving

end Eiger.Server
