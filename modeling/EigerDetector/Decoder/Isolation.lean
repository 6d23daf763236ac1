import EigerDetector.Decoder.Following

/-! Two runs and one message: when the headers handed over for it are the same in both. -/
namespace Eiger.Decoder

open CharArrays FixedWidth Rapidjson Transition

/-- Two progresses a reader cannot tell apart. -/
structure Progress.Alike (p q : Progress) : Prop where
  header : fieldsOf p.header = fieldsOf q.header
  document : p.document = q.document
  handed : List.Forall₂ SameHeader p.handed q.handed

/-- The reader of the action, if there is one, respects what is seen of a header. -/
def PartAction.Respectful : PartAction → Prop
  | read reader => Respects reader
  | store => True
  | readAndSend reader _ => Respects reader
  | storeAndSend _ => True

section Alike

variable {parse : Parser} {kind : FirstPart} {p q p' q' : Progress} {part : Bytes}
variable {action : PartAction} {h k : FrameHeader}

theorem action_respectful {n : Nat} (hAction : kind.action n = some action) :
    action.Respectful := by
  cases kind with
  | unreadable => cases hAction
  | unknown => cases hAction
  | header series detail acqID =>
      rw [FirstPart.action, headerAction] at hAction
      generalize (if expectedParts detail < n then globalAppendixPart else (n : Int)) = position
        at hAction
      split at hAction
      · cases hAction
        trivial
      · cases hData : dataPartType position with
        | some type =>
            rw [hData] at hAction
            cases hAction
            trivial
        | none =>
            rw [hData] at hAction
            obtain ⟨type, _, hRead⟩ := Option.map_eq_some_iff.mp hAction
            cases hRead
            exact readDataHeader_respects
  | image frame series hash acqID =>
      rw [FirstPart.action] at hAction
      split at hAction
      · cases hAction
        exact readImaged_respects
      split at hAction
      · cases hAction
        trivial
      split at hAction
      · cases hAction
        exact readTimes_respects
      split at hAction
      · cases hAction
        trivial
      · cases hAction
  | endOfSeries series acqID => cases hAction

/-- What a cleared header still shows. -/
theorem fieldsOf_clearHeader (h : FrameHeader) (type : EigerMessageType) :
    fieldsOf (clearHeader { h with messageType := type }) =
      { frameNumber := h.frameNumber, series := h.series, shape := (0, 0, 0), times := (0, 0, 0),
        dataSize := 0, sizeInHeader := 0, hash := [], encoding := [], dataType := [],
        acquisitionID := h.acquisitionID.text } := by
  simp only [fieldsOf, clearHeader, shapeOf, text_set_zero]

theorem Progress.Alike.hand (hAlike : p.Alike q) (type : EigerMessageType)
    (hSame : fieldsOf h = fieldsOf k) : (p.hand type h).Alike (q.hand type k) := by
  have hFields := HeaderFields.mk.inj hSame
  refine ⟨?_, hAlike.document, List.rel_append hAlike.handed (.cons ⟨rfl, hSame⟩ .nil)⟩
  show fieldsOf (clearHeader _) = fieldsOf (clearHeader _)
  rw [fieldsOf_clearHeader, fieldsOf_clearHeader, hFields.1, hFields.2.1,
    hFields.2.2.2.2.2.2.2.2.2]

theorem fieldsOf_withSize (hSame : fieldsOf h = fieldsOf k) (part : Bytes) :
    fieldsOf (withSize part h) = fieldsOf (withSize part k) := by
  show { fieldsOf h with dataSize := toUInt32 part.length } =
    { fieldsOf k with dataSize := toUInt32 part.length }
  rw [hSame]

theorem Progress.Alike.perform (hAlike : p.Alike q) (hAction : action.Respectful)
    (hp : p.perform parse part action = some p') (hq : q.perform parse part action = some q') :
    p'.Alike q' := by
  cases action with
  | read reader =>
      obtain ⟨h, hRead, rfl⟩ := Option.map_eq_some_iff.mp hp
      obtain ⟨k, hRead', rfl⟩ := Option.map_eq_some_iff.mp hq
      rw [← hAlike.document] at hRead'
      refine ⟨hAction _ _ _ _ _ hAlike.header hRead hRead', ?_, hAlike.handed⟩
      show (parse (cString part)).getD p.document = (parse (cString part)).getD q.document
      rw [hAlike.document]
  | store =>
      cases hp
      cases hq
      exact ⟨fieldsOf_withSize hAlike.header part, hAlike.document, hAlike.handed⟩
  | readAndSend reader type =>
      obtain ⟨h, hRead, rfl⟩ := Option.map_eq_some_iff.mp hp
      obtain ⟨k, hRead', rfl⟩ := Option.map_eq_some_iff.mp hq
      rw [← hAlike.document] at hRead'
      have hSame := hAction _ _ _ _ _ hAlike.header hRead hRead'
      have hNext : Progress.Alike
          ⟨p.header, (parse (cString part)).getD p.document, p.handed⟩
          ⟨q.header, (parse (cString part)).getD q.document, q.handed⟩ := by
        refine ⟨hAlike.header, ?_, hAlike.handed⟩
        show (parse (cString part)).getD p.document = (parse (cString part)).getD q.document
        rw [hAlike.document]
      exact hNext.hand type hSame
  | storeAndSend type =>
      cases hp
      cases hq
      exact hAlike.hand type (fieldsOf_withSize hAlike.header part)

/-- What a message does to two progresses that are alike is alike. -/
theorem Progress.Alike.follow {n : Nat} {parts : List Bytes} (hAlike : p.Alike q)
    (hp : p.follow parse kind n parts = some p') (hq : q.follow parse kind n parts = some q') :
    p'.Alike q' := by
  induction parts generalizing n p q with
  | nil =>
      cases hp
      cases hq
      exact hAlike
  | cons part parts ih =>
      obtain ⟨action, hAction, hpRest⟩ := Option.bind_eq_some_iff.mp hp
      obtain ⟨action', hAction', hqRest⟩ := Option.bind_eq_some_iff.mp hq
      cases hAction.symm.trans hAction'
      obtain ⟨p₁, hPerform, hpLast⟩ := Option.bind_eq_some_iff.mp hpRest
      obtain ⟨q₁, hPerform', hqLast⟩ := Option.bind_eq_some_iff.mp hqRest
      exact ih (hAlike.perform (action_respectful hAction) hPerform hPerform') hpLast hqLast

/-- Headers that were handed over stay so. -/
theorem follow_handed {n : Nat} {parts : List Bytes}
    (hp : p.follow parse kind n parts = some p') : ∃ more, p'.handed = p.handed ++ more := by
  induction parts generalizing n p with
  | nil =>
      cases hp
      exact ⟨[], (List.append_nil _).symm⟩
  | cons part parts ih =>
      obtain ⟨action, _, hRest⟩ := Option.bind_eq_some_iff.mp hp
      obtain ⟨p₁, hPerform, hLast⟩ := Option.bind_eq_some_iff.mp hRest
      rw [perform_frame] at hPerform
      obtain ⟨new, _, rfl⟩ := Option.map_eq_some_iff.mp hPerform
      obtain ⟨more, hMore⟩ := ih hLast
      exact ⟨new.handed ++ more, by rw [hMore, List.append_assoc]⟩

/-- Whether the headers of a message are the same is decided by the first of them. -/
theorem handed_same_iff {n : Nat} {parts : List Bytes} (hHanded : p.handed = [h])
    (hHanded' : q.handed = [k]) (hFirst : SameHeader h k → p.Alike q)
    (hp : p.follow parse kind n parts = some p') (hq : q.follow parse kind n parts = some q') :
    List.Forall₂ SameHeader p'.handed q'.handed ↔ SameHeader h k := by
  constructor
  · intro hAll
    obtain ⟨more, hMore⟩ := follow_handed hp
    obtain ⟨more', hMore'⟩ := follow_handed hq
    rw [hMore, hMore', hHanded, hHanded'] at hAll
    cases hAll with
    | cons hSame _ => exact hSame
  · intro hSame
    exact ((hFirst hSame).follow hp hq).handed

/-- The headers are the same from the start where a frame goes out. -/
theorem hand_alike {type : EigerMessageType} {doc : Value}
    (hSame : SameHeader { h with messageType := type } { k with messageType := type }) :
    ((⟨h, doc, []⟩ : Progress).hand type h).Alike ((⟨k, doc, []⟩ : Progress).hand type k) := by
  have hFields : fieldsOf h = fieldsOf k := hSame.2
  have hStart : Progress.Alike ⟨h, doc, []⟩ ⟨k, doc, []⟩ := ⟨hFields, rfl, .nil⟩
  exact hStart.hand type hFields

end Alike

/-- What is left in a header of the message before, other than what each message resets. -/
def restOf (h : FrameHeader) : HeaderFields :=
  { fieldsOf h with frameNumber := 0, series := 0, dataSize := 0, acquisitionID := [] }

/-- The document an image says its shape in. -/
def imagedDocument (parse : Parser) : List Bytes → Value
  | first :: imaged :: _ => (parse (cString imaged)).getD ((parse (cString first)).getD .null)
  | _ => .null

/-- Two headers agree in all that the message does not replace. -/
def FirstPart.Agree (doc : Value) (h k : FrameHeader) : FirstPart → Prop
  | header _ detail _ =>
      restOf h = restOf k ∧ (detail = headerDetailNone → h.dataSize = k.dataSize)
  | image .. => GivesSizes doc ∨ shapeOf h = shapeOf k
  | endOfSeries .. => restOf h = restOf k ∧ h.dataSize = k.dataSize
  | _ => True

/-- The header as it is reset at the end of a message. -/
structure HeaderReset (h : FrameHeader) : Prop where
  frameNumber : h.frameNumber = -1
  acquisitionID : h.acquisitionID.text = []

/-- The acquisition ID a reader sees in a header which a first part may have tagged. -/
def tagText (acqID : Option Bytes) : Bytes := (acqID.map fun id => (strncpy 256 id).text).getD []

/-- What the first part of an image leaves in the header. -/
def imageBegun (frame series : Int) (hash : Bytes) (acqID : Option Bytes) (h : FrameHeader) :
    FrameHeader :=
  tagHeader acqID { h with
    frameNumber := frame
    series := toUInt32 series
    hash := (strncpy 33 hash).set 32 0 }

section Agree

variable {parse : Parser} {h k : FrameHeader} {parts : List Bytes} {p q p' q' : Progress}

theorem text_taggedWith (hReset : HeaderReset h) (acqID : Option Bytes) :
    (taggedWith acqID h.acquisitionID).text = tagText acqID := by
  cases acqID with
  | none => exact hReset.acquisitionID
  | some id => rfl

/-- What a reset header shows once a first part has been read into it. -/
theorem fieldsOf_tagHeader (hReset : HeaderReset h) (series : Nat) (acqID : Option Bytes) :
    fieldsOf (tagHeader acqID { h with series := series }) =
      { restOf h with
        frameNumber := -1
        series := series
        dataSize := h.dataSize
        acquisitionID := tagText acqID } := by
  simp only [fieldsOf, tagHeader, restOf, shapeOf, hReset.frameNumber,
    text_taggedWith hReset acqID]

theorem restOf_with_iff (frameNumber : Int) (series : Nat) (acquisitionID : Bytes) (n m : Nat) :
    ({ restOf h with
        frameNumber := frameNumber, series := series, dataSize := n,
        acquisitionID := acquisitionID } : HeaderFields) =
      { restOf k with
        frameNumber := frameNumber, series := series, dataSize := m,
        acquisitionID := acquisitionID } ↔ restOf h = restOf k ∧ n = m := by
  simp only [restOf, HeaderFields.mk.injEq]
  tauto

/-- A frame without a size of its own which is sent before its message is tagged. -/
theorem untagged_same_iff (hReset : HeaderReset h) (hReset' : HeaderReset k) (series : Nat)
    (type : EigerMessageType) :
    SameHeader { h with series := series, messageType := type }
        { k with series := series, messageType := type } ↔
      restOf h = restOf k ∧ h.dataSize = k.dataSize := by
  have hFields := fieldsOf_tagHeader hReset series none
  have hFields' := fieldsOf_tagHeader hReset' series none
  rw [← restOf_with_iff (-1) series (tagText none), ← hFields, ← hFields']
  exact ⟨And.right, fun hSame => ⟨rfl, hSame⟩⟩

/-- The same where it is tagged before. -/
theorem tagged_same_iff (hReset : HeaderReset h) (hReset' : HeaderReset k) (series : Nat)
    (acqID : Option Bytes) (type : EigerMessageType) :
    SameHeader { tagHeader acqID { h with series := series } with messageType := type }
        { tagHeader acqID { k with series := series } with messageType := type } ↔
      restOf h = restOf k ∧ h.dataSize = k.dataSize := by
  have hFields := fieldsOf_tagHeader hReset series acqID
  have hFields' := fieldsOf_tagHeader hReset' series acqID
  rw [← restOf_with_iff (-1) series (tagText acqID), ← hFields, ← hFields']
  exact ⟨And.right, fun hSame => ⟨rfl, hSame⟩⟩

/-- A frame with a size of its own. -/
theorem sized_same_iff (hReset : HeaderReset h) (hReset' : HeaderReset k) (series : Nat)
    (acqID : Option Bytes) (part : Bytes) (type : EigerMessageType) :
    SameHeader { withSize part (tagHeader acqID { h with series := series }) with
          messageType := type }
        { withSize part (tagHeader acqID { k with series := series }) with
          messageType := type } ↔ restOf h = restOf k := by
  have hFields := fieldsOf_tagHeader hReset series acqID
  have hFields' := fieldsOf_tagHeader hReset' series acqID
  have hSized : ∀ h' : FrameHeader, fieldsOf (withSize part h') =
      { fieldsOf h' with dataSize := toUInt32 part.length } := fun _ => rfl
  have hIff := restOf_with_iff (h := h) (k := k) (-1) series (tagText acqID)
    (toUInt32 part.length) (toUInt32 part.length)
  constructor
  · rintro ⟨_, hSame⟩
    have hSame : fieldsOf (withSize part (tagHeader acqID { h with series := series })) =
        fieldsOf (withSize part (tagHeader acqID { k with series := series })) := hSame
    rw [hSized, hSized, hFields, hFields'] at hSame
    exact (hIff.mp hSame).1
  · intro hRest
    refine ⟨rfl, ?_⟩
    show fieldsOf (withSize part (tagHeader acqID { h with series := series })) =
      fieldsOf (withSize part (tagHeader acqID { k with series := series }))
    rw [hSized, hSized, hFields, hFields']
    exact hIff.mpr ⟨hRest, rfl⟩

theorem Progress.Alike.tagged (hAlike : p.Alike q) (acqID : Option Bytes) :
    Progress.Alike { p with header := tagHeader acqID p.header }
      { q with header := tagHeader acqID q.header } := by
  refine ⟨?_, hAlike.document, hAlike.handed⟩
  cases acqID with
  | none => exact hAlike.header
  | some id =>
      show { fieldsOf p.header with acquisitionID := (strncpy 256 id).text } =
        { fieldsOf q.header with acquisitionID := (strncpy 256 id).text }
      rw [hAlike.header]

variable {doc : Value} {n : Nat}

/-- A global header whose details are none. -/
theorem header_none_same_iff (hReset : HeaderReset h) (hReset' : HeaderReset k) {series : Int}
    {acqID : Option Bytes}
    (hp : ((FirstPart.header series headerDetailNone acqID).begin h doc).bind
      (fun begun => begun.follow parse (.header series headerDetailNone acqID) n parts) = some p)
    (hq : ((FirstPart.header series headerDetailNone acqID).begin k doc).bind
      (fun begun => begun.follow parse (.header series headerDetailNone acqID) n parts) = some q) :
    List.Forall₂ SameHeader p.handed q.handed ↔ restOf h = restOf k ∧ h.dataSize = k.dataSize := by
  rw [FirstPart.begin, if_pos rfl, Option.bind_some] at hp hq
  rw [← untagged_same_iff hReset hReset' (toUInt32 series) .globalHeaderNone]
  exact handed_same_iff rfl rfl (fun hSame => (hand_alike hSame).tagged acqID) hp hq

/-- Any other global header, whose first frame is the configuration. -/
theorem header_more_same_iff (hReset : HeaderReset h) (hReset' : HeaderReset k) {series : Int}
    {detail : Bytes} {acqID : Option Bytes} (hDetail : detail ≠ headerDetailNone) {config : Bytes}
    (hp : ((FirstPart.header series detail acqID).begin h doc).bind
      (fun begun => begun.follow parse (.header series detail acqID) 1 (config :: parts)) = some p)
    (hq : ((FirstPart.header series detail acqID).begin k doc).bind
      (fun begun => begun.follow parse (.header series detail acqID) 1 (config :: parts)) =
        some q) :
    List.Forall₂ SameHeader p.handed q.handed ↔ restOf h = restOf k := by
  have hFew : ¬ expectedParts detail < 2 := by
    rw [expectedParts, if_neg hDetail]
    split <;> decide
  have hAction : (FirstPart.header series detail acqID).action (1 + 1) =
      some (.storeAndSend .globalHeaderConfig) := by
    rw [FirstPart.action, if_neg hFew]
    rfl
  rw [FirstPart.begin, if_neg hDetail, Option.bind_some, Progress.follow, hAction,
    Option.bind_some, Progress.perform, Option.bind_some] at hp hq
  rw [← sized_same_iff hReset hReset' (toUInt32 series) acqID config .globalHeaderConfig]
  exact handed_same_iff rfl rfl hand_alike hp hq

/-- The header an image is sent with keeps at most the shape that was there. -/
theorem image_header_same_iff (hReset : HeaderReset h) (hReset' : HeaderReset k)
    {frame series : Int} {hash blob : Bytes} {acqID : Option Bytes} {times : Value}
    {h₁ h₂ k₁ k₂ : FrameHeader}
    (hImaged : readImaged doc (imageBegun frame series hash acqID h) = some h₁)
    (hImaged' : readImaged doc (imageBegun frame series hash acqID k) = some k₁)
    (hTimes : readTimes times (withSize blob h₁) = some h₂)
    (hTimes' : readTimes times (withSize blob k₁) = some k₂) (type : EigerMessageType) :
    SameHeader { h₂ with messageType := type } { k₂ with messageType := type } ↔
      GivesSizes doc ∨ shapeOf h = shapeOf k := by
  obtain ⟨start, stop, real, rfl, rfl⟩ := readTimes_both hTimes hTimes'
  obtain ⟨dataType, encoding, size, hBoth⟩ := readImaged_both hImaged hImaged'
  have hTag := text_taggedWith hReset acqID
  have hTag' := text_taggedWith hReset' acqID
  rcases hBoth with ⟨hGives, x, y, z, rfl, rfl⟩ | ⟨hNot, rfl, rfl⟩
  · refine ⟨fun _ => .inl hGives, fun _ => ⟨rfl, ?_⟩⟩
    simp only [fieldsOf, shapeOf, withSize, imageBegun, tagHeader, hTag, hTag']
  · simp only [SameHeader, fieldsOf, shapeOf, withSize, imageBegun, tagHeader, hTag, hTag', hNot,
      HeaderFields.mk.injEq, true_and, and_true, false_or]

/-- An image up to where it is sent. -/
theorem image_stages {frame series : Int} {hash : Bytes} {acqID : Option Bytes}
    {imaged blob times : Bytes}
    (hp : ((FirstPart.image frame series hash acqID).begin h doc).bind
      (fun begun => begun.follow parse (.image frame series hash acqID) 1
        (imaged :: blob :: times :: parts)) = some p) :
    ∃ h₁ h₂, readImaged ((parse (cString imaged)).getD doc)
        (imageBegun frame series hash acqID h) = some h₁ ∧
      readTimes ((parse (cString times)).getD ((parse (cString imaged)).getD doc))
        (withSize blob h₁) = some h₂ ∧
      ((⟨h₂, (parse (cString times)).getD ((parse (cString imaged)).getD doc), []⟩ :
        Progress).hand .imageData h₂).follow parse (.image frame series hash acqID) 4 parts =
          some p := by
  obtain ⟨_, ⟨⟩, hImaged⟩ := Option.bind_eq_some_iff.mp hp
  obtain ⟨_, ⟨⟩, hImaged⟩ := Option.bind_eq_some_iff.mp hImaged
  obtain ⟨_, hRead, hBlob⟩ := Option.bind_eq_some_iff.mp hImaged
  obtain ⟨h₁, hImaged, rfl⟩ := Option.map_eq_some_iff.mp hRead
  obtain ⟨_, ⟨⟩, hBlob⟩ := Option.bind_eq_some_iff.mp hBlob
  obtain ⟨_, ⟨⟩, hTimes⟩ := Option.bind_eq_some_iff.mp hBlob
  obtain ⟨_, ⟨⟩, hTimes⟩ := Option.bind_eq_some_iff.mp hTimes
  obtain ⟨_, hRead, hSent⟩ := Option.bind_eq_some_iff.mp hTimes
  obtain ⟨h₂, hTimes, rfl⟩ := Option.map_eq_some_iff.mp hRead
  exact ⟨h₁, h₂, hImaged, hTimes, hSent⟩

theorem image_same_iff (hReset : HeaderReset h) (hReset' : HeaderReset k) {frame series : Int}
    {hash : Bytes} {acqID : Option Bytes} {imaged blob times : Bytes}
    (hp : ((FirstPart.image frame series hash acqID).begin h doc).bind
      (fun begun => begun.follow parse (.image frame series hash acqID) 1
        (imaged :: blob :: times :: parts)) = some p)
    (hq : ((FirstPart.image frame series hash acqID).begin k doc).bind
      (fun begun => begun.follow parse (.image frame series hash acqID) 1
        (imaged :: blob :: times :: parts)) = some q) :
    List.Forall₂ SameHeader p.handed q.handed ↔
      GivesSizes ((parse (cString imaged)).getD doc) ∨ shapeOf h = shapeOf k := by
  obtain ⟨h₁, h₂, hImaged, hTimes, hp⟩ := image_stages hp
  obtain ⟨k₁, k₂, hImaged', hTimes', hq⟩ := image_stages hq
  rw [← image_header_same_iff hReset hReset' hImaged hImaged' hTimes hTimes' .imageData]
  exact handed_same_iff rfl rfl hand_alike hp hq

/-- When a message whose frames all found a buffer hands over the same headers, whichever
of two headers it finds. -/
theorem progress_same_iff {kind : FirstPart} {message : List Bytes}
    (hEmits : kind.Emits message.length) (hReset : HeaderReset h) (hReset' : HeaderReset k)
    (hp : progress parse kind h message = some p) (hq : progress parse kind k message = some q) :
    List.Forall₂ SameHeader p.handed q.handed ↔
      kind.Agree (imagedDocument parse message) h k := by
  cases kind with
  | unreadable => exact hEmits.elim
  | unknown => exact hEmits.elim
  | header series detail acqID =>
      obtain ⟨first, rest, rfl⟩ : ∃ first rest, message = first :: rest := by
        cases message with
        | nil => cases hp
        | cons first rest => exact ⟨first, rest, rfl⟩
      by_cases hNone : detail = headerDetailNone
      · subst hNone
        rw [header_none_same_iff hReset hReset' hp hq, FirstPart.Agree]
        simp only [forall_const]
      · obtain ⟨config, more, rfl⟩ : ∃ config more, rest = config :: more := by
          cases rest with
          | nil => exact absurd hEmits (by simp [FirstPart.Emits, hNone])
          | cons config more => exact ⟨config, more, rfl⟩
        rw [header_more_same_iff hReset hReset' hNone hp hq, FirstPart.Agree]
        simp only [hNone, false_implies, and_true]
  | image frame series hash acqID =>
      obtain ⟨first, imaged, blob, times, more, rfl⟩ : ∃ first imaged blob times more,
          message = first :: imaged :: blob :: times :: more := by
        rcases message with _ | ⟨first, _ | ⟨imaged, _ | ⟨blob, _ | ⟨times, more⟩⟩⟩⟩
        · cases hp
        · exact absurd hEmits (by simp [FirstPart.Emits])
        · exact absurd hEmits (by simp [FirstPart.Emits])
        · exact absurd hEmits (by simp [FirstPart.Emits])
        · exact ⟨first, imaged, blob, times, more, rfl⟩
      exact image_same_iff hReset hReset' hp hq
  | endOfSeries series acqID =>
      obtain ⟨first, rfl⟩ : ∃ first, message = [first] := List.length_eq_one_iff.mp hEmits
      cases hp
      cases hq
      have hIff := tagged_same_iff hReset hReset' (toUInt32 series) (some acqID) .endOfStream
      refine Iff.trans ?_ hIff
      exact ⟨fun hAll => (List.forall₂_cons.mp hAll).1, fun hSame => .cons hSame .nil⟩

end Agree

/-- The messages of a stream that are over, and the header where the message at hand began:
it is reset if that was not the first one. -/
structure History (messages : List (List Bytes)) (past : List (List Bytes)) (r : Receiver) :
    Prop where
  stream : messages = past ++ r.unfinished
  atRest : r.complete = true → past ≠ [] → HeaderReset r.decoder.currentHeader ∧
    ∃ earlier, past = earlier ++ [r.parts] ∧
      (earlier ≠ [] → HeaderReset r.before.currentHeader)
  midway : r.complete = false → past ≠ [] → HeaderReset r.before.currentHeader

section Histories

variable {parse : Parser} {messages past : List (List Bytes)} {r r' : Receiver} {event : Event}

theorem receivePart_reset {d d' : EigerFrameDecoder} {part : Bytes}
    (h : d.receivePart parse part true = some d') : HeaderReset d'.currentHeader := by
  obtain ⟨copied, _, hProcess⟩ := Option.bind_eq_some_iff.mp h
  obtain ⟨processed, _, hLast⟩ := Option.bind_eq_some_iff.mp hProcess
  cases hLast
  exact ⟨rfl, text_set_zero _⟩

theorem History.part (h : History messages past r) {part : Bytes} {last : Bool}
    {coming : List (List Bytes)} {d' : EigerFrameDecoder}
    (hNext : nextPart r.stream = some (part, last, coming))
    (hReceive : r.decoder.receivePart parse part last = some d') :
    ∃ past', History messages past' (r.received part last coming d') := by
  have hBefore : past ≠ [] → HeaderReset (r.received part last coming d').before.currentHeader := by
    intro hSome
    cases hComplete : r.complete with
    | true =>
        rw [show (r.received part last coming d').before = r.decoder from if_pos hComplete]
        exact (h.atRest hComplete hSome).1
    | false =>
        rw [show (r.received part last coming d').before = r.before by
          rw [Receiver.received, hComplete]; rfl]
        exact h.midway hComplete hSome
  obtain ⟨more, rest, hUnfinished, hAfter⟩ := Receiver.unfinished_next hNext d'
  rcases hAfter with ⟨rfl, rfl, hRest⟩ | ⟨rfl, _, hSame⟩
  · refine ⟨past ++ [r.earlier.map Arrival.part ++ [part]], ?_, ?_, ?_⟩
    · rw [h.stream, hUnfinished, hRest, List.append_assoc]
      rfl
    · have hReset : HeaderReset d'.currentHeader := receivePart_reset hReceive
      refine fun _ _ => ⟨hReset, past, ?_, hBefore⟩
      rw [Receiver.received_parts]
    · intro hOpen
      cases hOpen
  · refine ⟨past, ?_, ?_, fun _ => hBefore⟩
    · rw [hSame]
      exact h.stream
    · intro hComplete
      cases hComplete

theorem History.step (h : History messages past r) (hStep : r.step parse event = some r') :
    ∃ past', History messages past' r' := by
  cases event with
  | part =>
      obtain ⟨part, last, coming, d', hNext, hReceive, rfl⟩ := Receiver.step_part hStep
      exact h.part hNext hReceive
  | release id =>
      rw [Receiver.step] at hStep
      split at hStep
      · cases hStep
        exact ⟨past, h.stream, h.atRest, h.midway⟩
      · cases hStep

theorem history_of_run {garbage : Uninitialised} {ids : List Nat} {events : List Event}
    (hRun : Run (Receiver.step parse) always (.initial garbage ids messages) events r) :
    ∃ past, History messages past r := by
  let inv (r : Receiver) : Prop := ∃ past, History messages past r
  have hInit : inv (.initial garbage ids messages) :=
    ⟨[], rfl, fun _ hSome => absurd rfl hSome, fun _ hSome => absurd rfl hSome⟩
  exact hRun.invariant hInit fun _ _ _ ⟨_, hHistory⟩ _ hStep => hHistory.step hStep

end Histories

/-- Two headers agree in all that a message does not replace. -/
def Agree (parse : Parser) (message : List Bytes) (h k : FrameHeader) : Prop :=
  ∀ kind ∈ message.head?.bind (readFirstPart parse),
    kind.Agree (imagedDocument parse message) h k

/-- A message the fan can emit was handled after at least one other, with a buffer for each
of its frames; before it buffers may have run out at any point. -/
structure Handled (parse : Parser) (message : List Bytes) (r : Receiver) : Prop where
  reached : ∃ garbage ids earlier events, ids.Nodup ∧ earlier ≠ [] ∧
    (∀ other ∈ earlier ++ message :: r.stream, Emittable parse other) ∧
    Run (Receiver.step parse) always (.initial garbage ids (earlier ++ message :: r.stream))
      events r
  complete : r.complete = true
  served : ∀ kind ∈ message.head?.bind (readFirstPart parse), Served kind r.arrivals

/-- The headers that were handed over for the message at hand. -/
def Receiver.headers (r : Receiver) : List FrameHeader := r.calls.map ReadyCall.header

section Isolation

variable {parse : Parser} {message : List Bytes} {r r₁ r₂ : Receiver} {kind : FirstPart}

/-- The headers of a message that was handled follow from its parts and from what was left
in the header before it, which is reset. -/
theorem Handled.follows (h : Handled parse message r)
    (hKind : message.head?.bind (readFirstPart parse) = some kind) :
    HeaderReset r.before.currentHeader ∧
      ∃ p, progress parse kind r.before.currentHeader message = some p ∧
        r.headers = p.handed := by
  obtain ⟨garbage, ids, earlier, events, hIds, hSome, hMessages, hRun⟩ := h.reached
  obtain ⟨past, hHistory⟩ := history_of_run hRun
  have hUnfinished : r.unfinished = r.stream := if_pos h.complete
  have hOver : past = earlier ++ [message] := by
    have hStream := hHistory.stream
    rw [hUnfinished, ← List.singleton_append, ← List.append_assoc] at hStream
    exact (List.append_cancel_right hStream).symm
  have hNone : past ≠ [] := by
    rw [hOver]
    simp
  obtain ⟨_, other, hLast, hReset⟩ := hHistory.atRest h.complete hNone
  rw [hOver] at hLast
  obtain ⟨rfl, hParts⟩ := List.append_inj' hLast rfl
  have hParts : r.parts = message := (List.singleton_inj.mp hParts).symm
  refine ⟨hReset hSome, ?_⟩
  have hFollowed := followed_of_run garbage hIds hMessages hRun
  have hServed := h.served kind hKind
  rw [← hParts] at hKind ⊢
  obtain ⟨p, hProgress, hHanded, _⟩ := hFollowed kind hKind hServed
  exact ⟨p, hProgress, hHanded⟩

theorem Handled.emittable (h : Handled parse message r) : Emittable parse message := by
  obtain ⟨_, _, earlier, _, _, _, hMessages, _⟩ := h.reached
  exact hMessages message (List.mem_append_right _ List.mem_cons_self)

/-- The headers handed over for one message after two histories are the same exactly when
what was left in the header before it agrees in all that the message does not replace. -/
theorem headers_same_iff (h₁ : Handled parse message r₁) (h₂ : Handled parse message r₂) :
    List.Forall₂ SameHeader r₁.headers r₂.headers ↔
      Agree parse message r₁.before.currentHeader r₂.before.currentHeader := by
  obtain ⟨kind, hKind, hEmits⟩ := h₁.emittable
  obtain ⟨hReset, p, hp, hHeaders⟩ := h₁.follows hKind
  obtain ⟨hReset', q, hq, hHeaders'⟩ := h₂.follows hKind
  rw [hHeaders, hHeaders', progress_same_iff hEmits hReset hReset' hp hq, Agree, hKind]
  simp only [Option.mem_some_iff, forall_eq']

/-- A run that can be checked by running it. -/
theorem handled_of_exec {α : Type} (garbage : Uninitialised) (ids : List Nat)
    (earlier : List (List Bytes)) (events : List Event) (seen : Receiver → α) (x : α)
    (hIds : ids.Nodup) (hSome : earlier ≠ [])
    (hMessages : ∀ other ∈ earlier ++ [message], Emittable parse other)
    (hKind : message.head?.bind (readFirstPart parse) = some kind)
    (hExec : (exec (Receiver.step parse) (.initial garbage ids (earlier ++ [message])) events).map
      (fun r => (r.stream, r.complete, decide (Served kind r.arrivals), seen r)) =
        some ([], true, true, x)) :
    ∃ r, Handled parse message r ∧ seen r = x := by
  obtain ⟨r, hRun, hEnd⟩ := Option.map_eq_some_iff.mp hExec
  obtain ⟨hStream, hEnd⟩ := Prod.mk.inj hEnd
  obtain ⟨hComplete, hEnd⟩ := Prod.mk.inj hEnd
  obtain ⟨hServed, hSeen⟩ := Prod.mk.inj hEnd
  refine ⟨r, ⟨⟨garbage, ids, earlier, events, hIds, hSome, ?_, ?_⟩, hComplete, ?_⟩, hSeen⟩
  · rw [hStream]
    exact hMessages
  · rw [hStream]
    exact run_always_iff.mpr hRun
  · rw [hKind]
    rintro _ ⟨⟩
    exact of_decide_eq_true hServed

theorem emittable_after_end (h : Emittable sampleParser message) :
    ∀ other ∈ [[sampleEnd.1]] ++ [message], Emittable sampleParser other :=
  List.forall_mem_append.mpr ⟨List.forall_mem_singleton.mpr sampleEnd_emittable,
    List.forall_mem_singleton.mpr h⟩

theorem emittable_after_image (h : Emittable sampleParser message) :
    ∀ other ∈ [[sampleEnd.1], imageMessage] ++ [message], Emittable sampleParser other :=
  List.forall_mem_cons.mpr ⟨sampleEnd_emittable, List.forall_mem_cons.mpr
    ⟨imageMessage_emittable, List.forall_mem_singleton.mpr h⟩⟩

/-- An image after the end of a series, and after another one that was dropped. -/
theorem image_isolated :
    ∃ r₁ r₂, Handled sampleParser imageMessage r₁ ∧ Handled sampleParser imageMessage r₂ ∧
      shapeOf r₁.before.currentHeader = (0, 0, 0) ∧
      shapeOf r₂.before.currentHeader = (3, 2, 0) ∧
      List.Forall₂ SameHeader r₁.headers r₂.headers := by
  have hKind : imageMessage.head?.bind (readFirstPart sampleParser) =
      some (.image 5 1 (bytes "ab") (some (bytes "a"))) := sampleImage_read
  obtain ⟨r₁, h₁, hShape₁⟩ := handled_of_exec zeroed [0, 1] [[sampleEnd.1]]
    [.part, .part, .part, .part, .part] (fun r => shapeOf r.before.currentHeader) (0, 0, 0)
    (by decide) (by simp) (emittable_after_end imageMessage_emittable) hKind
    (by decide +kernel)
  obtain ⟨r₂, h₂, hShape₂⟩ := handled_of_exec zeroed [0]
    [[sampleEnd.1], imageMessage]
    [.part, .part, .part, .part, .part, .release 0, .part, .part, .part, .part]
    (fun r => shapeOf r.before.currentHeader) (3, 2, 0)
    (by decide) (by simp) (emittable_after_image imageMessage_emittable) hKind
    (by decide +kernel)
  refine ⟨r₁, r₂, h₁, h₂, hShape₁, hShape₂, (headers_same_iff h₁ h₂).mpr ?_⟩
  rw [Agree, hKind]
  rintro _ ⟨⟩
  exact .inl ⟨[.int 3, .int 2], rfl, by decide⟩

/-- The configuration of the next header goes out with the shape of a dropped image. -/
theorem dropped_image_leaks :
    ∃ r₁ r₂, Handled sampleParser [sampleHeader.1, [1]] r₁ ∧
      Handled sampleParser [sampleHeader.1, [1]] r₂ ∧
      r₁.headers.map shapeOf = [(0, 0, 0)] ∧ r₂.headers.map shapeOf = [(3, 2, 0)] ∧
      ¬ List.Forall₂ SameHeader r₁.headers r₂.headers := by
  have hKind : [sampleHeader.1, [1]].head?.bind (readFirstPart sampleParser) =
      some (.header 1 headerDetailBasic (some (bytes "a"))) := sampleHeader_read
  obtain ⟨r₁, h₁, hShapes₁⟩ := handled_of_exec zeroed [0, 1] [[sampleEnd.1]]
    [.part, .part, .part] (fun r => decide (r.headers.map shapeOf = [(0, 0, 0)])) true
    (by decide) (by simp) (emittable_after_end sampleHeader_emittable) hKind
    (by decide +kernel)
  obtain ⟨r₂, h₂, hShapes₂⟩ := handled_of_exec zeroed [0]
    [[sampleEnd.1], imageMessage]
    [.part, .part, .part, .part, .part, .release 0, .part, .part]
    (fun r => decide (r.headers.map shapeOf = [(3, 2, 0)])) true
    (by decide) (by simp) (emittable_after_image sampleHeader_emittable) hKind
    (by decide +kernel)
  have hShapes₁ := of_decide_eq_true hShapes₁
  have hShapes₂ := of_decide_eq_true hShapes₂
  refine ⟨r₁, r₂, h₁, h₂, hShapes₁, hShapes₂, fun hSame => ?_⟩
  have hShapes : List.Forall₂ (· = ·) (r₁.headers.map shapeOf) (r₂.headers.map shapeOf) := by
    rw [List.forall₂_map_left_iff, List.forall₂_map_right_iff]
    exact hSame.imp fun h k hPair => congrArg HeaderFields.shape hPair.2
  rw [hShapes₁, hShapes₂] at hShapes
  cases hShapes with
  | cons hEq _ => cases hEq

end Isolation

end Eiger.Decoder
