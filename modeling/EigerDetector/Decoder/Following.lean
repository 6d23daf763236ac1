import EigerDetector.Decoder.Emission
import EigerDetector.Decoder.Texts

/-! What the headers of a message depend on. Where a buffer is found for every frame they
are a function of the message and of the header that was there before it. -/
namespace Eiger.Decoder

open CharArrays FixedWidth Rapidjson Transition

/-- What a reader sees of a header besides its type; of an array, the text in it. -/
structure HeaderFields where
  frameNumber : Int
  series : Nat
  shape : Nat × Nat × Nat
  times : Nat × Nat × Nat
  dataSize : Nat
  sizeInHeader : Nat
  hash : Bytes
  encoding : Bytes
  dataType : Bytes
  acquisitionID : Bytes
  deriving DecidableEq

/-- The three sizes in a header. -/
def shapeOf (h : FrameHeader) : Nat × Nat × Nat := (h.shapeSizeX, h.shapeSizeY, h.shapeSizeZ)

def fieldsOf (h : FrameHeader) : HeaderFields where
  frameNumber := h.frameNumber
  series := h.series
  shape := shapeOf h
  times := (h.startTime, h.stopTime, h.realTime)
  dataSize := h.dataSize
  sizeInHeader := h.sizeInHeader
  hash := h.hash.text
  encoding := h.encoding.text
  dataType := h.dataType.text
  acquisitionID := h.acquisitionID.text

/-- Two headers are the same to a reader. -/
def SameHeader (h k : FrameHeader) : Prop :=
  h.messageType = k.messageType ∧ fieldsOf h = fieldsOf k

/-- The header and the document as a message leaves them, and the headers it handed over. -/
structure Progress where
  header : FrameHeader
  document : Value
  handed : List FrameHeader

/-- What a part after the first is for. -/
inductive PartAction where
  | read (reader : Value → FrameHeader → Option FrameHeader)
  | store
  | readAndSend (reader : Value → FrameHeader → Option FrameHeader) (type : EigerMessageType)
  | storeAndSend (type : EigerMessageType)

/-- How many parts a global header has without its appendix. -/
def expectedParts (detail : Bytes) : Nat :=
  if detail = headerDetailNone then 1 else if detail = headerDetailBasic then 2 else 8

def headerAction (part : Int) : Option PartAction :=
  if part = globalAppendixPart then some (.storeAndSend .globalHeaderAppendix)
  else (dataPartType part).map .storeAndSend <|>
    (headerPartType part).map fun _ => .read readDataHeader

/-- What the part of that number is for. -/
def FirstPart.action (n : Nat) : FirstPart → Option PartAction
  | header _ detail _ => headerAction (if expectedParts detail < n then globalAppendixPart else n)
  | image .. =>
      if n = 2 then some (.read readImaged)
      else if n = 3 then some .store
      else if n = 4 then some (.readAndSend readTimes .imageData)
      else if n = 5 then some (.storeAndSend .imageAppendix)
      else none
  | _ => none

def withSize (part : Bytes) (h : FrameHeader) : FrameHeader :=
  { h with dataSize := toUInt32 part.length }

namespace Progress

variable (parse : Parser)

/-- A frame is handed over, after which the header is cleared. -/
def hand (type : EigerMessageType) (h : FrameHeader) (p : Progress) : Progress :=
  { p with
    header := clearHeader { h with messageType := type }
    handed := p.handed ++ [{ h with messageType := type }] }

def perform (part : Bytes) (p : Progress) : PartAction → Option Progress
  | .read reader =>
      let doc := (parse (cString part)).getD p.document
      (reader doc p.header).map fun h => { p with header := h, document := doc }
  | .store => some { p with header := withSize part p.header }
  | .readAndSend reader type =>
      let doc := (parse (cString part)).getD p.document
      (reader doc p.header).map fun h => { p with document := doc }.hand type h
  | .storeAndSend type => some (p.hand type (withSize part p.header))

/-- The parts that follow the first `n` ones. -/
def follow (kind : FirstPart) : Nat → List Bytes → Progress → Option Progress
  | _, [], p => some p
  | n, part :: parts, p => (kind.action (n + 1)).bind fun action =>
      (p.perform parse part action).bind fun q => follow kind (n + 1) parts q

end Progress

/-- The header with the acquisition ID of a first part, if there is one. -/
def tagHeader (acqID : Option Bytes) (h : FrameHeader) : FrameHeader :=
  { h with acquisitionID := taggedWith acqID h.acquisitionID }

/-- What a first part does. -/
def FirstPart.begin (h : FrameHeader) (doc : Value) : FirstPart → Option Progress
  | unreadable => none
  | unknown => none
  | header series detail acqID =>
      let p : Progress := ⟨{ h with series := toUInt32 series }, doc, []⟩
      let q := if detail = headerDetailNone then p.hand .globalHeaderNone p.header else p
      some { q with header := tagHeader acqID q.header }
  | image frame series hash acqID =>
      some ⟨tagHeader acqID { h with
        frameNumber := frame
        series := toUInt32 series
        hash := (strncpy 33 hash).set 32 0 }, doc, []⟩
  | endOfSeries series acqID =>
      let p : Progress := ⟨tagHeader (some acqID) { h with series := toUInt32 series }, doc, []⟩
      some (p.hand .endOfStream p.header)

/-- A whole message, given the header it finds. -/
def progress (parse : Parser) (kind : FirstPart) (h : FrameHeader) : List Bytes → Option Progress
  | [] => none
  | first :: rest => (kind.begin h ((parse (cString first)).getD .null)).bind fun p =>
      p.follow parse kind 1 rest

/-- There was a buffer for every frame that is to have been sent. -/
def Served (kind : FirstPart) (arrivals : List Arrival) : Prop :=
  ∀ e ∈ kind.entries, e.sentAt ≤ arrivals.length → e.due arrivals = true

instance (kind : FirstPart) (arrivals : List Arrival) : Decidable (Served kind arrivals) :=
  inferInstanceAs (Decidable (∀ e ∈ kind.entries, e.sentAt ≤ arrivals.length → _))

section Following

variable {parse : Parser} {kind : FirstPart} {p : Progress}

theorem Progress.follow_concat (n : Nat) (parts : List Bytes) (part : Bytes) :
    p.follow parse kind n (parts ++ [part]) = (p.follow parse kind n parts).bind fun q =>
      (kind.action (n + parts.length + 1)).bind fun action => q.perform parse part action := by
  induction parts generalizing n p with
  | nil =>
      simp only [List.nil_append, Progress.follow, Option.bind_some, List.length_nil,
        Nat.add_zero, Option.bind_fun_some]
  | cons first parts ih =>
      simp only [List.cons_append, Progress.follow, Option.bind_assoc, List.length_cons, ih]
      rw [show n + 1 + parts.length + 1 = n + (parts.length + 1) + 1 by omega]

theorem progress_concat {h : FrameHeader} {parts : List Bytes} (hSome : parts ≠ [])
    (part : Bytes) :
    progress parse kind h (parts ++ [part]) = (progress parse kind h parts).bind fun q =>
      (kind.action (parts.length + 1)).bind fun action => q.perform parse part action := by
  cases parts with
  | nil => exact absurd rfl hSome
  | cons first rest =>
      simp only [List.cons_append, progress, Progress.follow_concat, Option.bind_assoc,
        List.length_cons]
      rw [show 1 + rest.length + 1 = rest.length + 1 + 1 by omega]

theorem Served.of_concat {arrivals : List Arrival} {arrival : Arrival}
    (h : Served kind (arrivals ++ [arrival])) : Served kind arrivals := by
  intro e hEntry hSent
  obtain ⟨hLow, hHigh⟩ := (entries_ordered hEntry).allocated
  have hDue := h e hEntry (by rw [List.length_append]; omega)
  rw [Entry.due] at hDue ⊢
  rw [numbered_append hLow (hHigh.trans hSent)] at hDue
  rw [decide_eq_true hSent, Bool.true_and]
  exact (Bool.and_eq_true_iff.mp hDue).2

/-- A frame that is allocated and sent at the same part found a buffer there. -/
theorem Served.available {arrivals : List Arrival} {arrival : Arrival} {e : Entry}
    (h : Served kind (arrivals ++ [arrival])) (hEntry : e ∈ kind.entries)
    (hSent : e.sentAt = arrivals.length + 1) (hAllocated : e.allocatedAt = arrivals.length + 1) :
    arrival.available = true := by
  have hDue := h e hEntry (by rw [List.length_append, hSent]; rfl)
  rw [Entry.due, hAllocated, numbered_concat] at hDue
  exact (Bool.and_eq_true_iff.mp hDue).2

end Following

/-- The decoder does with a part what its action does to header and document. -/
def Performed (parse : Parser) (part : Bytes) (d e : EigerFrameDecoder) (action : PartAction) :
    Prop :=
  ∃ q, (⟨d.currentHeader, d.jsonDocument, []⟩ : Progress).perform parse part action = some q ∧
    e.currentHeader = q.header ∧ e.jsonDocument = q.document ∧
    (e.pool.readyCalls.map fun call => call.buffer.header) = q.handed

namespace EigerFrameDecoder

variable {parse : Parser} {d d' e : EigerFrameDecoder} {part : Bytes} {last : Bool}
variable {type : EigerMessageType}

theorem sendBuffer_document (h : d.sendBuffer = some e) : e.jsonDocument = d.jsonDocument := by
  obtain ⟨pool, _, rfl⟩ := Option.map_eq_some_iff.mp h
  split <;> rfl

theorem accept_document (h : d.accept part = some e) : e.jsonDocument = d.jsonDocument := by
  unfold accept at h
  split at h
  · obtain ⟨pool, _, rfl⟩ := Option.map_eq_some_iff.mp h
    rfl
  · cases h
    rfl

/-- A send which is kept. -/
theorem sendBuffer_kept (h : d.sendBuffer = some e) (hKept : d.pool.droppingFrameData = false)
    (hTaken : d.pool.readyCalls = []) :
    e.currentHeader = clearHeader d.sentHeader ∧
      (e.pool.readyCalls.map fun call => call.buffer.header) = [d.sentHeader] := by
  rcases sendBuffer_cases h with ⟨hDropping, _⟩ | ⟨_, hCleared, call, hSent, hMade⟩
  · rw [hKept] at hDropping
    cases hDropping
  · refine ⟨hCleared, ?_⟩
    rw [hMade, hTaken, List.nil_append, List.map_singleton, hSent]

theorem goesOut_performed (hOut : d.GoesOut parse type part) (hConsistent : d.pool.Consistent)
    (hTaken : d.pool.readyCalls = []) (hAvailable : d.pool.Available)
    (h : d.receivePart parse part last = some d') :
    ∃ e, d' = e.advance.frameMetaData last ∧ Performed parse part d e (.storeAndSend type) := by
  have hPart := goesOut_later hOut
  obtain ⟨hAllocates, hProcess⟩ := hOut
  rw [receivePart_later parse hPart] at h
  obtain ⟨a, hAccept, hRest⟩ := Option.bind_eq_some_iff.mp h
  obtain ⟨e, hSend, rfl⟩ := Option.map_eq_some_iff.mp hRest
  rw [hProcess a hAccept] at hSend
  obtain ⟨_, _, _, _, hHeader, _⟩ := accept_control hAccept
  have hFlag := accept_dropping hConsistent hAccept
  rw [if_pos hAllocates] at hFlag
  have hKept : a.pool.droppingFrameData = false :=
    Bool.eq_false_iff.mpr fun hDropping => hFlag.mp hDropping hAvailable
  obtain ⟨hCleared, hCalls⟩ := sendBuffer_kept hSend hKept ((accept_calls hAccept).trans hTaken)
  have hSent : ({ a with currentMessageType := type }.setDataSize part.length).sentHeader =
      { withSize part d.currentHeader with messageType := type } := by
    rw [← hHeader]
    rfl
  have hSame := sendBuffer_document hSend
  have hDocument : e.jsonDocument = a.jsonDocument := hSame
  rw [hSent] at hCleared hCalls
  exact ⟨e, rfl, _, rfl, hCleared, hDocument.trans (accept_document hAccept), hCalls⟩

/-- The part of a header which describes the data after it. -/
theorem described_performed (hPart : d.currentMessagePart ≠ 1)
    (hParent : d.currentParentMessageType = .global) (hPlain : Plain d.currentMessageType)
    (hHeader : headerPartType d.currentMessagePart = some type)
    (hTaken : d.pool.readyCalls = []) (h : d.receivePart parse part last = some d') :
    ∃ e, d' = e.advance.frameMetaData last ∧ Performed parse part d e (.read readDataHeader) := by
  have hRaw : ¬ Allocates d.currentParentMessageType d.currentMessagePart := by
    rw [hParent]
    exact not_allocates_of_header hHeader
  rw [raw_part hPart hRaw] at h
  obtain ⟨e, hProcess, rfl⟩ := Option.map_eq_some_iff.mp h
  rw [processLater_described parse (d := d.stored part) hPlain hHeader] at hProcess
  have hRead : ((({ d with currentMessageType := type } : EigerFrameDecoder).stored
    part).parseRaw parse part.length).readHeader readDataHeader = some e := hProcess
  rw [readHeader_stored] at hRead
  obtain ⟨header, hHeader, rfl⟩ := Option.map_eq_some_iff.mp hRead
  refine ⟨_, rfl, ⟨header, d.documentAfter parse part, []⟩, ?_, rfl, rfl, ?_⟩
  · show (readDataHeader (d.documentAfter parse part) d.currentHeader).map _ = _
    rw [show readDataHeader (d.documentAfter parse part) d.currentHeader = some header from
      hHeader]
    rfl
  · show (d.pool.readyCalls.map _) = []
    rw [hTaken]
    rfl

/-- The part of an image that says what it is like. -/
theorem imaged_performed (hPart : d.currentMessagePart = imageDataImagedPart)
    (hParent : d.currentParentMessageType = .imageData)
    (hType : d.currentMessageType = .imageData) (hTaken : d.pool.readyCalls = [])
    (h : d.receivePart parse part last = some d') :
    ∃ e, d' = e.advance.frameMetaData last ∧ Performed parse part d e (.read readImaged) := by
  rw [image_imaged hPart hParent hType] at h
  obtain ⟨header, hRead, rfl⟩ := Option.map_eq_some_iff.mp h
  refine ⟨_, rfl, ⟨header, d.documentAfter parse part, []⟩, ?_, rfl, rfl, ?_⟩
  · show (readImaged (d.documentAfter parse part) d.currentHeader).map _ = _
    rw [hRead]
    rfl
  · show (d.pool.readyCalls.map _) = []
    rw [hTaken]
    rfl

/-- The data of an image. -/
theorem blob_performed (hPart : d.currentMessagePart = imageDataBlobPart)
    (hParent : d.currentParentMessageType = .imageData)
    (hType : d.currentMessageType = .imageData) (hTaken : d.pool.readyCalls = [])
    (h : d.receivePart parse part last = some d') :
    ∃ e, d' = e.advance.frameMetaData last ∧ Performed parse part d e .store := by
  rw [image_blob hPart hParent hType] at h
  obtain ⟨pool, hStore, rfl⟩ := Option.map_eq_some_iff.mp h
  obtain ⟨_, _, hCalls, _⟩ := BufferPool.storePayload_frame hStore
  refine ⟨_, rfl, _, rfl, rfl, rfl, ?_⟩
  show (pool.readyCalls.map _) = []
  rw [hCalls, d.pool.allocate_frame.1, hTaken]
  rfl

/-- The times of an image, after which it is sent. -/
theorem times_performed (hPart : d.currentMessagePart = imageDataTimePart)
    (hParent : d.currentParentMessageType = .imageData)
    (hType : d.currentMessageType = .imageData) (hTaken : d.pool.readyCalls = [])
    (hKept : d.pool.droppingFrameData = false) (h : d.receivePart parse part last = some d') :
    ∃ e, d' = e.advance.frameMetaData last ∧
      Performed parse part d e (.readAndSend readTimes .imageData) := by
  rw [image_times hPart hParent hType] at h
  obtain ⟨header, hRead, hRest⟩ := Option.bind_eq_some_iff.mp h
  obtain ⟨e, hSend, rfl⟩ := Option.map_eq_some_iff.mp hRest
  obtain ⟨hCleared, hCalls⟩ := sendBuffer_kept hSend hKept hTaken
  have hSent : ({ d.parsed parse part with currentHeader := header } :
      EigerFrameDecoder).sentHeader = { header with messageType := .imageData } := by
    rw [sentHeader]
    show { header with messageType := d.currentMessageType } = _
    rw [hType]
  rw [hSent] at hCleared hCalls
  refine ⟨e, rfl, (⟨d.currentHeader, d.documentAfter parse part, []⟩ : Progress).hand .imageData
    header, ?_, hCleared, sendBuffer_document hSend, hCalls⟩
  show (readTimes (d.documentAfter parse part) d.currentHeader).map _ = _
  rw [hRead]
  rfl

end EigerFrameDecoder

/-- What a stage of a message does with the next part. -/
def Next (parse : Parser) (kind : FirstPart) (n : Nat) (part : Bytes) (last : Bool)
    (d d' : EigerFrameDecoder) : Prop :=
  ∃ e action, d' = e.advance.frameMetaData last ∧ kind.action n = some action ∧
    Performed parse part d e action

section Stages

variable {parse : Parser} {d d' e : EigerFrameDecoder} {part : Bytes} {last : Bool}
variable {arrivals : List Arrival} {kind : FirstPart}

theorem expectedParts_eq {detail : Bytes} {expected : Nat} (h : ExpectedParts detail expected) :
    expectedParts detail = expected := by
  rcases h with ⟨rfl, rfl⟩ | ⟨rfl, rfl⟩ | ⟨rfl, rfl⟩
  · exact if_pos rfl
  · rw [expectedParts, if_neg headerDetails_distinct.1.symm, if_pos rfl]
  · rw [expectedParts, if_neg headerDetails_distinct.2.1.symm,
      if_neg headerDetails_distinct.2.2.symm]

/-- What a part of a global header after the first does. -/
theorem InHeader.performs {series : Int} {detail : Bytes} {acqID : Option Bytes} {expected : Nat}
    (h : InHeader parse d (arrivals.map Arrival.part) expected)
    (hDetail : ExpectedParts detail expected) (hConsistent : d.pool.Consistent)
    (hTaken : d.pool.readyCalls = [])
    (hServed : Served (.header series detail acqID) (arrivals ++ [arrivalOf d d' part]))
    (hReceive : d.receivePart parse part last = some d') :
    Next parse (.header series detail acqID) (arrivals.length + 1) part last d d' := by
  have hCounter := h.counter
  rw [List.length_map] at hCounter
  have hAction : (FirstPart.header series detail acqID).action (arrivals.length + 1) =
      headerAction d.currentMessagePart := by
    rw [FirstPart.action, expectedParts_eq hDetail, hCounter]
  have hFree : ∀ type described, ((FirstPart.header series detail acqID).entries.filter
      fun e => e.sentAt = arrivals.length + 1) = [⟨type, arrivals.length + 1,
        arrivals.length + 1, some (arrivals.length + 1), described⟩] → d.pool.Available := by
    intro type described hAt
    have hEntry := List.mem_filter.mp (hAt ▸ List.mem_cons_self)
    exact of_decide_eq_true (hServed.available hEntry.1 rfl rfl)
  have hSome : 1 ≤ arrivals.length := by
    have hStarted := List.length_pos_iff.mpr h.started
    rwa [List.length_map] at hStarted
  by_cases hOver : expected < arrivals.length + 1
  · rw [if_pos hOver] at hCounter
    have hAt := entries_at_appendix hDetail series acqID
    have hFew := h.few
    rw [List.length_map] at hFew
    rw [show expected = arrivals.length by omega] at hAt
    obtain ⟨e, hResult, hPerformed⟩ := EigerFrameDecoder.goesOut_performed
      (EigerFrameDecoder.appendix_goesOut hCounter h.parent h.plain) hConsistent hTaken
      (hFree _ _ hAt) hReceive
    refine ⟨e, _, hResult, ?_, hPerformed⟩
    rw [hAction, headerAction, if_pos hCounter]
  · rw [if_neg hOver] at hCounter
    have hMost : expected ≤ 8 := by
      rcases hDetail with ⟨_, rfl⟩ | ⟨_, rfl⟩ | ⟨_, rfl⟩ <;> decide
    have hNotLast : d.currentMessagePart ≠ globalAppendixPart := by
      rw [hCounter, globalAppendixPart]
      omega
    rcases header_part_cases hDetail (n := arrivals.length + 1) (by omega) (by omega) series acqID
      with ⟨type, described, hData, _, _, hAt, _⟩ | ⟨type, hNoData, hHeader, _, _, _, _⟩
    · rw [← hCounter] at hData
      obtain ⟨e, hResult, hPerformed⟩ := EigerFrameDecoder.goesOut_performed
        (EigerFrameDecoder.data_goesOut h.parent h.plain hData (h.announced type hData))
        hConsistent hTaken (hFree _ _ hAt) hReceive
      refine ⟨e, _, hResult, ?_, hPerformed⟩
      rw [hAction, headerAction, if_neg hNotLast, hData]
      rfl
    · rw [← hCounter] at hNoData hHeader
      obtain ⟨e, hResult, hPerformed⟩ := EigerFrameDecoder.described_performed
        (by rw [hCounter]; omega) h.parent h.plain hHeader hTaken hReceive
      refine ⟨e, _, hResult, ?_, hPerformed⟩
      rw [hAction, headerAction, if_neg hNotLast, hNoData, hHeader]
      rfl

/-- What a part of an image after the first does. -/
theorem InImage.performs {frame series : Int} {hash : Bytes} {acqID : Option Bytes}
    (h : InImage d arrivals) (hConsistent : d.pool.Consistent) (hTaken : d.pool.readyCalls = [])
    (hServed : Served (.image frame series hash acqID) (arrivals ++ [arrivalOf d d' part]))
    (hReceive : d.receivePart parse part last = some d') :
    Next parse (.image frame series hash acqID) (arrivals.length + 1) part last d d' := by
  have hSome : 1 ≤ arrivals.length := List.length_pos_iff.mpr h.started
  have hFew := h.few
  have hCounter := h.counter
  have hAt : arrivals.length = 1 ∨ arrivals.length = 2 ∨ arrivals.length = 3 ∨
      arrivals.length = 4 := by omega
  rcases hAt with hAt | hAt | hAt | hAt
  · rw [hAt] at hCounter ⊢
    obtain ⟨e, hResult, hPerformed⟩ :=
      EigerFrameDecoder.imaged_performed hCounter h.parent h.type hTaken hReceive
    exact ⟨e, _, hResult, rfl, hPerformed⟩
  · rw [hAt] at hCounter ⊢
    obtain ⟨e, hResult, hPerformed⟩ :=
      EigerFrameDecoder.blob_performed hCounter h.parent h.type hTaken hReceive
    exact ⟨e, _, hResult, rfl, hPerformed⟩
  · obtain ⟨blob, hBlob⟩ : ∃ blob, numbered arrivals 3 = some blob :=
      ⟨arrivals[2], List.getElem?_eq_getElem (by omega)⟩
    have hDue := hServed ⟨.imageData, 3, 4, some 3, none⟩ List.mem_cons_self
      (by rw [List.length_append, hAt]; exact le_refl 4)
    rw [Entry.due, numbered_append (by decide) (by rw [hAt]), hBlob] at hDue
    have hFree : blob.available = true := (Bool.and_eq_true_iff.mp hDue).2
    have hReady := ((h.blob hAt blob hBlob).2 hFree).1
    rw [hAt] at hCounter ⊢
    obtain ⟨e, hResult, hPerformed⟩ :=
      EigerFrameDecoder.times_performed hCounter h.parent h.type hTaken hReady.kept hReceive
    exact ⟨e, _, hResult, rfl, hPerformed⟩
  · have hFree := hServed.available (e := ⟨.imageAppendix, 5, 5, some 5, none⟩)
      (List.mem_cons_of_mem _ List.mem_cons_self) (by rw [hAt]) (by rw [hAt])
    rw [hAt] at hCounter ⊢
    obtain ⟨e, hResult, hPerformed⟩ := EigerFrameDecoder.goesOut_performed
      (EigerFrameDecoder.imageAppendix_goesOut hCounter h.parent h.type) hConsistent hTaken
      (of_decide_eq_true hFree) hReceive
    exact ⟨e, _, hResult, rfl, hPerformed⟩

theorem Stage.performs (h : Stage parse d arrivals kind) (hConsistent : d.pool.Consistent)
    (hTaken : d.pool.readyCalls = [])
    (hServed : Served kind (arrivals ++ [arrivalOf d d' part]))
    (hReceive : d.receivePart parse part last = some d') :
    Next parse kind (arrivals.length + 1) part last d d' := by
  cases kind with
  | unreadable => exact h.elim
  | unknown => exact h.elim
  | header series detail acqID =>
      obtain ⟨expected, hDetail, hInside⟩ := h
      exact hInside.performs hDetail hConsistent hTaken hServed hReceive
  | image frame series hash acqID => exact InImage.performs h hConsistent hTaken hServed hReceive
  | endOfSeries series acqID => exact h.elim

theorem document_of_read {doc : Value} (hRead : readFirstPart parse part = some kind)
    (hKind : kind ≠ .unreadable) :
    (parse (cString part)).getD doc = (parse (cString part)).getD .null := by
  unfold readFirstPart at hRead
  generalize parse (cString part) = document at hRead ⊢
  cases document with
  | none =>
      cases hRead
      exact absurd rfl hKind
  | some doc => rfl

theorem keepAcquisitionID_header (acqID : Option Bytes) (d : EigerFrameDecoder) :
    (d.keepAcquisitionID acqID).currentHeader = tagHeader acqID d.currentHeader ∧
      (d.keepAcquisitionID acqID).jsonDocument = d.jsonDocument := by
  cases acqID <;> exact ⟨rfl, rfl⟩

/-- The decoder does with a first part what its kind says. -/
def Begun (parse : Parser) (kind : FirstPart) (part : Bytes) (d e : EigerFrameDecoder) : Prop :=
  ∃ q, kind.begin d.currentHeader ((parse (cString part)).getD .null) = some q ∧
    e.currentHeader = q.header ∧ e.jsonDocument = q.document ∧
    (e.pool.readyCalls.map fun call => call.buffer.header) = q.handed

/-- A first part that is followed by a send. -/
theorem allocated_send_kept (h : d.allocateNextFrameBuffer.sendBuffer = some e)
    (hConsistent : d.pool.Consistent) (hTaken : d.pool.readyCalls = [])
    (hAvailable : d.pool.Available) :
    e.currentHeader = clearHeader d.sentHeader ∧ e.jsonDocument = d.jsonDocument ∧
      (e.pool.readyCalls.map fun call => call.buffer.header) = [d.sentHeader] := by
  have hSame := EigerFrameDecoder.sendBuffer_document h
  obtain ⟨hCleared, call, hSent, hMade⟩ :=
    (EigerFrameDecoder.allocated_send_texts h hConsistent hTaken).2 hAvailable
  refine ⟨hCleared, hSame, ?_⟩
  rw [hMade, List.map_singleton, hSent]

theorem served_first {arrival : Arrival} {e : Entry} (h : Served kind [arrival])
    (hEntry : e ∈ kind.entries) (hSent : e.sentAt = 1) (hAllocated : e.allocatedAt = 1) :
    arrival.available = true := by
  have hConcat : Served kind ([] ++ [arrival]) := h
  exact hConcat.available hEntry hSent hAllocated

/-- What the first part of a message does. -/
theorem first_begun (hPart : d.currentMessagePart = 1) (hConsistent : d.pool.Consistent)
    (hTaken : d.pool.readyCalls = []) (hRead : readFirstPart parse part = some kind)
    {count : Nat} (hEmits : kind.Emits count) (hServed : Served kind [arrivalOf d d' part])
    (hReceive : d.receivePart parse part last = some d') :
    ∃ e, d' = e.advance.frameMetaData last ∧ Begun parse kind part d e := by
  rw [EigerFrameDecoder.receivePart_first parse hPart, hRead, Option.bind_some] at hReceive
  obtain ⟨e, hStart, rfl⟩ := Option.map_eq_some_iff.mp hReceive
  refine ⟨e, rfl, ?_⟩
  have hDocument : (d.parsed parse part).jsonDocument = (parse (cString part)).getD .null := by
    refine document_of_read hRead ?_
    rintro rfl
    exact hEmits
  rw [Begun, ← hDocument]
  cases kind with
  | unreadable => exact hEmits.elim
  | unknown => exact hEmits.elim
  | header series detail acqID =>
      obtain ⟨expecting, hExpect, rfl⟩ := Option.map_eq_some_iff.mp hStart
      obtain ⟨hHeader, hDoc⟩ := keepAcquisitionID_header acqID expecting
      have hPool := (EigerFrameDecoder.keepAcquisitionID_frame acqID expecting).1
      have hExpect : (headerRead series (d.parsed parse part)).expectHeaderParts parse detail
        part.length = some expecting := hExpect
      by_cases hNone : detail = headerDetailNone
      · subst hNone
        have hFree := served_first hServed (by rw [entries_none]; exact List.mem_cons_self) rfl rfl
        rw [expectHeaderParts_none (d := headerRead series (d.parsed parse part)) hPart] at hExpect
        obtain ⟨sent, hSent, rfl⟩ := Option.map_eq_some_iff.mp hExpect
        obtain ⟨hCleared, hSame, hCalls⟩ := allocated_send_kept hSent hConsistent hTaken
          (of_decide_eq_true hFree)
        rw [FirstPart.begin, if_pos rfl]
        refine ⟨_, rfl, hHeader.trans ?_, hDoc.trans hSame, ?_⟩
        · show tagHeader acqID sent.currentHeader = _
          rw [hCleared]
          rfl
        · rw [hPool]
          exact hCalls
      · rw [FirstPart.begin, if_neg hNone]
        rw [EigerFrameDecoder.expectHeaderParts, if_neg hNone] at hExpect
        split at hExpect
        · cases hExpect
          refine ⟨_, rfl, hHeader, hDoc, ?_⟩
          rw [hPool]
          show (d.pool.readyCalls.map _) = []
          rw [hTaken]
          rfl
        · cases hExpect
          refine ⟨_, rfl, hHeader, hDoc, ?_⟩
          rw [hPool]
          show (d.pool.readyCalls.map _) = []
          rw [hTaken]
          rfl
  | image frame series hash acqID =>
      cases hStart
      obtain ⟨hHeader, hDoc⟩ := keepAcquisitionID_header acqID
        ((d.parsed parse part).imageStarted frame series hash)
      refine ⟨_, rfl, hHeader, hDoc, ?_⟩
      rw [(EigerFrameDecoder.keepAcquisitionID_frame acqID _).1]
      show (d.pool.readyCalls.map _) = []
      rw [hTaken]
      rfl
  | endOfSeries series acqID =>
      have hFree := served_first hServed List.mem_cons_self rfl rfl
      have hSend : ((d.parsed parse part).seriesEnded series
        acqID).allocateNextFrameBuffer.sendBuffer = some e := hStart
      obtain ⟨hHeader, hDoc, hCalls⟩ := allocated_send_kept hSend hConsistent hTaken
        (of_decide_eq_true hFree)
      exact ⟨_, rfl, hHeader, hDoc, hCalls⟩

end Stages

/-- The header of the buffer that a call hands over. -/
def ReadyCall.header (call : ReadyCall) : FrameHeader := call.buffer.header

/-- The calls for the message at hand have the headers that follow from its parts and
from the header it found. -/
def Followed (parse : Parser) (r : Receiver) : Prop :=
  ∀ kind, r.parts.head?.bind (readFirstPart parse) = some kind → Served kind r.arrivals →
    ∃ p, progress parse kind r.before.currentHeader r.parts = some p ∧
      r.calls.map ReadyCall.header = p.handed ∧
      (r.complete = false →
        r.decoder.currentHeader = p.header ∧ r.decoder.jsonDocument = p.document)

section Runs

variable {parse : Parser} {ids : List Nat} {r r' : Receiver} {part : Bytes} {last : Bool}
variable {coming : List (List Bytes)} {d' : EigerFrameDecoder}

theorem perform_frame (p : Progress) (action : PartAction) :
    p.perform parse part action =
      ((⟨p.header, p.document, []⟩ : Progress).perform parse part action).map fun q =>
        { q with handed := p.handed ++ q.handed } := by
  cases action with
  | read reader =>
      simp only [Progress.perform, Option.map_map]
      congr 1
      funext h
      simp
  | store => simp [Progress.perform]
  | readAndSend reader type =>
      simp only [Progress.perform, Option.map_map]
      rfl
  | storeAndSend type => rfl

theorem Followed.first (hSound : Sound parse ids r) (hComplete : r.complete = true)
    {more : List Bytes} (hMessage : Emittable parse (part :: more))
    (hReceive : r.decoder.receivePart parse part last = some d') :
    Followed parse (r.received part last coming d') := by
  intro kind hKind hServed
  have hEarlier : r.earlier = [] := if_pos hComplete
  have hArrivals : (r.received part last coming d').arrivals = [arrivalOf r.decoder d' part] := by
    rw [Receiver.received, hEarlier]
    rfl
  have hBefore : (r.received part last coming d').before = r.decoder := if_pos hComplete
  have hParts : (r.received part last coming d').parts = [part] := by
    rw [Receiver.parts, hArrivals]
    rfl
  have hCalls : (r.received part last coming d').calls = d'.pool.readyCalls := by
    rw [Receiver.calls, hArrivals]
    exact List.append_nil _
  rw [hArrivals] at hServed
  rw [hParts] at hKind ⊢
  obtain ⟨other, hOther, hEmits⟩ := hMessage
  have hRead : readFirstPart parse part = some kind := hKind
  cases hRead.symm.trans hOther
  obtain ⟨e, rfl, q, hBegin, hHeader, hDocument, hHanded⟩ := first_begun (hSound.boundary hComplete)
    hSound.owned.consistent hSound.taken hRead hEmits hServed hReceive
  rw [hBefore, hCalls, (EigerFrameDecoder.finish_frame last e).1]
  refine ⟨q, ?_, hHanded, fun hMore => ?_⟩
  · rw [progress, hBegin]
    rfl
  · have hMore : last = false := hMore
    subst hMore
    exact ⟨hHeader, hDocument⟩

theorem Followed.later (h : Followed parse r) (hEmitting : Emitting parse r)
    (hSound : Sound parse ids r) (hOpen : r.complete = false)
    (hReceive : r.decoder.receivePart parse part last = some d') :
    Followed parse (r.received part last coming d') := by
  intro kind hKind hServed
  obtain ⟨other, hOther, hStage⟩ := hEmitting.stage hOpen
  have hEarlier : r.earlier = r.arrivals := by
    rw [Receiver.earlier, hOpen]
    rfl
  have hArrivals : (r.received part last coming d').arrivals =
      r.arrivals ++ [arrivalOf r.decoder d' part] := by
    rw [Receiver.received, hEarlier]
    rfl
  have hBefore : (r.received part last coming d').before = r.before := by
    rw [Receiver.received, hOpen]
    rfl
  have hParts : (r.received part last coming d').parts = r.parts ++ [part] := by
    rw [Receiver.parts, hArrivals, List.map_append]
    rfl
  have hCalls : (r.received part last coming d').calls = r.calls ++ d'.pool.readyCalls := by
    rw [Receiver.calls, hArrivals, List.flatMap_append, List.flatMap_singleton]
    rfl
  have hSome : r.parts ≠ [] := by
    intro hNone
    rw [hNone] at hOther
    cases hOther
  have hSame : kind = other := by
    obtain ⟨first, hFirst, hRead⟩ := Option.bind_eq_some_iff.mp hOther
    rw [hParts, List.head?_append, hFirst] at hKind
    exact Option.some.inj (hKind.symm.trans hRead)
  subst hSame
  rw [hArrivals] at hServed
  obtain ⟨p, hProgress, hHanded, hState⟩ := h kind hOther hServed.of_concat
  obtain ⟨hHeader, hDocument⟩ := hState hOpen
  obtain ⟨e, action, rfl, hAction, q, hPerform, hHeader', hDocument', hNew⟩ :=
    hStage.performs hSound.owned.consistent hSound.taken hServed hReceive
  rw [hHeader, hDocument] at hPerform
  have hLength : r.parts.length = r.arrivals.length := List.length_map _
  rw [hBefore, hParts, hCalls, (EigerFrameDecoder.finish_frame last e).1]
  refine ⟨{ q with handed := p.handed ++ q.handed }, ?_, ?_, fun hMore => ?_⟩
  · rw [progress_concat hSome, hProgress, Option.bind_some, hLength, hAction, Option.bind_some,
      perform_frame, hPerform]
    rfl
  · rw [List.map_append, hHanded]
    exact congrArg _ hNew
  · have hMore : last = false := hMore
    subst hMore
    exact ⟨hHeader', hDocument'⟩

theorem Followed.step {event : Event} (h : Followed parse r) (hEmitting : Emitting parse r)
    (hSound : Sound parse ids r) (hStream : ∀ message ∈ r.unfinished, Emittable parse message)
    (hStep : r.step parse event = some r') : Followed parse r' := by
  cases event with
  | part =>
      obtain ⟨part, last, later, d', hNext, hReceive, rfl⟩ := Receiver.step_part hStep
      by_cases hComplete : r.complete = true
      · obtain ⟨more, rest, hUnfinished, _⟩ := Receiver.unfinished_next hNext d'
        have hMessage := hStream _ (hUnfinished ▸ List.mem_cons_self)
        rw [Receiver.earlier, if_pos hComplete] at hMessage
        exact .first hSound hComplete hMessage hReceive
      · exact h.later hEmitting hSound (Bool.eq_false_iff.mpr hComplete) hReceive
  | release id =>
      rw [Receiver.step] at hStep
      split at hStep
      · cases hStep
        exact h
      · cases hStep

/-- In every run over messages the fan can emit, the headers handed over for a message
whose frames all found a buffer follow from its parts and from the header before it. -/
theorem followed_of_run (garbage : Uninitialised) (hIds : ids.Nodup)
    {messages : List (List Bytes)} (hMessages : ∀ message ∈ messages, Emittable parse message)
    {events : List Event}
    (hRun : Run (Receiver.step parse) always (.initial garbage ids messages) events r) :
    Followed parse r := by
  let inv (r : Receiver) : Prop := Followed parse r ∧ Emitting parse r ∧ Sound parse ids r ∧
    ∀ message ∈ r.unfinished, Emittable parse message
  have hInit : inv (.initial garbage ids messages) :=
    ⟨fun kind hKind => (by cases hKind), emitting_of_run garbage hIds hMessages (.nil _)⟩
  refine (hRun.invariant hInit ?_).1
  rintro s event t ⟨hFollowed, hEmitting, hSound, hStream⟩ _ hStep
  exact ⟨hFollowed.step hEmitting hSound hStream hStep, hEmitting.step hSound hStream hStep,
    hSound.step (guarded_of_emittable hStream event) hStep,
    fun message hMessage => hStream message (Receiver.unfinished_step hStep message hMessage)⟩

end Runs

/-- What is read does not depend on the header it is read into, as far as a reader sees. -/
def Respects (reader : Value → FrameHeader → Option FrameHeader) : Prop :=
  ∀ doc h k h' k', fieldsOf h = fieldsOf k → reader doc h = some h' → reader doc k = some k' →
    fieldsOf h' = fieldsOf k'

/-- The shape of an image has two sizes at least, which replace those in the header. -/
def GivesSizes (doc : Value) : Prop :=
  ∃ elements, (doc.member shapeKey).bind Value.elements? = some elements ∧ 2 ≤ elements.length

section Readers

variable {doc shapeValue : Value} {h k h' k' : FrameHeader}

theorem readDataShape_both (hRead : readDataShape shapeValue h = some h')
    (hRead' : readDataShape shapeValue k = some k') :
    ∃ x y z, h' = { h with shapeSizeX := x, shapeSizeY := y, shapeSizeZ := z } ∧
      k' = { k with shapeSizeX := x, shapeSizeY := y, shapeSizeZ := z } := by
  unfold readDataShape at hRead hRead'
  generalize shapeValue.elements? = elements at hRead hRead'
  rcases elements with _ | _ | ⟨s0, _ | ⟨s1, more⟩⟩
  · cases hRead
    cases hRead'
    exact ⟨_, _, _, rfl, rfl⟩
  · cases hRead
    cases hRead'
    exact ⟨_, _, _, rfl, rfl⟩
  · cases hRead
    cases hRead'
    exact ⟨_, _, _, rfl, rfl⟩
  · obtain ⟨x, hx, hRest⟩ := Option.bind_eq_some_iff.mp hRead
    obtain ⟨y, hy, hLast⟩ := Option.bind_eq_some_iff.mp hRest
    simp only [hx, hy, Option.bind_eq_bind, Option.bind_some] at hRead'
    cases hLast
    cases hRead'
    exact ⟨_, _, _, rfl, rfl⟩

theorem readDataType_both (hRead : readDataType doc h = some h')
    (hRead' : readDataType doc k = some k') :
    ∃ type, h' = { h with dataType := type } ∧ k' = { k with dataType := type } := by
  obtain ⟨type, hType, hLast⟩ := Option.bind_eq_some_iff.mp hRead
  rw [readDataType, hType] at hRead'
  cases hLast
  cases hRead'
  exact ⟨_, rfl, rfl⟩

theorem readDataHeader_respects : Respects readDataHeader := by
  intro doc h k h' k' hSame hRead hRead'
  obtain ⟨shape, hShape, hRest⟩ := Option.bind_eq_some_iff.mp hRead
  obtain ⟨h₁, hSizes, hType⟩ := Option.bind_eq_some_iff.mp hRest
  obtain ⟨shape', hShape', hRest'⟩ := Option.bind_eq_some_iff.mp hRead'
  obtain ⟨k₁, hSizes', hType'⟩ := Option.bind_eq_some_iff.mp hRest'
  cases hShape.symm.trans hShape'
  obtain ⟨x, y, z, rfl, rfl⟩ := readDataShape_both hSizes hSizes'
  obtain ⟨type, rfl, rfl⟩ := readDataType_both hType hType'
  show { fieldsOf h with shape := (x, y, z), dataType := type.text } =
    { fieldsOf k with shape := (x, y, z), dataType := type.text }
  rw [hSame]

theorem readTimes_both (hRead : readTimes doc h = some h') (hRead' : readTimes doc k = some k') :
    ∃ a b c, h' = { h with startTime := a, stopTime := b, realTime := c } ∧
      k' = { k with startTime := a, stopTime := b, realTime := c } := by
  obtain ⟨a, ha, hStop⟩ := Option.bind_eq_some_iff.mp hRead
  obtain ⟨b, hb, hReal⟩ := Option.bind_eq_some_iff.mp hStop
  obtain ⟨c, hc, hLast⟩ := Option.bind_eq_some_iff.mp hReal
  rw [readTimes, ha, hb, hc] at hRead'
  cases hLast
  cases hRead'
  exact ⟨_, _, _, rfl, rfl⟩

theorem readTimes_respects : Respects readTimes := by
  intro doc h k h' k' hSame hRead hRead'
  obtain ⟨a, b, c, rfl, rfl⟩ := readTimes_both hRead hRead'
  show { fieldsOf h with times := (a, b, c) } = { fieldsOf k with times := (a, b, c) }
  rw [hSame]

/-- Two sizes replace those in the header, fewer leave them alone. -/
theorem readImageShape_both (hRead : readImageShape shapeValue h = some h')
    (hRead' : readImageShape shapeValue k = some k') :
    ((∃ elements, shapeValue.elements? = some elements ∧ 2 ≤ elements.length) ∧
      ∃ x y z, h' = { h with shapeSizeX := x, shapeSizeY := y, shapeSizeZ := z } ∧
        k' = { k with shapeSizeX := x, shapeSizeY := y, shapeSizeZ := z }) ∨
    ((¬ ∃ elements, shapeValue.elements? = some elements ∧ 2 ≤ elements.length) ∧
      h' = h ∧ k' = k) := by
  unfold readImageShape at hRead hRead'
  generalize shapeValue.elements? = elements at hRead hRead' ⊢
  rcases elements with _ | _ | ⟨s0, _ | ⟨s1, more⟩⟩
  · cases hRead
    cases hRead'
    refine .inr ⟨?_, rfl, rfl⟩
    rintro ⟨_, hNone, _⟩
    cases hNone
  · cases hRead
    cases hRead'
    refine .inr ⟨?_, rfl, rfl⟩
    rintro ⟨_, ⟨⟩, hLong⟩
    exact absurd hLong (by decide)
  · cases hRead
    cases hRead'
    refine .inr ⟨?_, rfl, rfl⟩
    rintro ⟨_, ⟨⟩, hLong⟩
    exact absurd hLong (Nat.not_succ_le_self 1)
  · refine .inl ⟨⟨_, rfl, by simp⟩, ?_⟩
    obtain ⟨h₁, hTwo, hThree⟩ := Option.bind_eq_some_iff.mp hRead
    obtain ⟨x, hx, hRest⟩ := Option.bind_eq_some_iff.mp hTwo
    obtain ⟨y, hy, hLast⟩ := Option.bind_eq_some_iff.mp hRest
    cases hLast
    simp only [readTwoSizes, hx, hy, Option.bind_eq_bind, Option.bind_some, Option.pure_def]
      at hRead'
    rcases more with _ | ⟨s2, more⟩
    · cases hThree
      cases hRead'
      exact ⟨_, _, _, rfl, rfl⟩
    · simp only [readThreeSizes, hx, hy, Option.bind_eq_bind, Option.bind_some] at hThree hRead'
      obtain ⟨z, hz, hLast⟩ := Option.bind_eq_some_iff.mp hThree
      rw [hz] at hRead'
      cases hLast
      cases hRead'
      exact ⟨_, _, _, rfl, rfl⟩

/-- The part of an image that says what it is like replaces all it has a value for. -/
theorem readImaged_both (hRead : readImaged doc h = some h') (hRead' : readImaged doc k = some k') :
    ∃ type encoding size, (GivesSizes doc ∧ ∃ x y z,
      h' = { h with
        shapeSizeX := x, shapeSizeY := y, shapeSizeZ := z,
        dataType := type, encoding := encoding, sizeInHeader := size } ∧
      k' = { k with
        shapeSizeX := x, shapeSizeY := y, shapeSizeZ := z,
        dataType := type, encoding := encoding, sizeInHeader := size }) ∨
      (¬ GivesSizes doc ∧
        h' = { h with dataType := type, encoding := encoding, sizeInHeader := size } ∧
        k' = { k with dataType := type, encoding := encoding, sizeInHeader := size }) := by
  obtain ⟨shape, hShape, hSizes⟩ := Option.bind_eq_some_iff.mp hRead
  obtain ⟨h₁, hSized, hTyped⟩ := Option.bind_eq_some_iff.mp hSizes
  obtain ⟨h₂, hType, hEncoded⟩ := Option.bind_eq_some_iff.mp hTyped
  obtain ⟨encoding, hEncoding, hLong⟩ := Option.bind_eq_some_iff.mp hEncoded
  obtain ⟨size, hSize, hLast⟩ := Option.bind_eq_some_iff.mp hLong
  obtain ⟨shape', hShape', hSizes'⟩ := Option.bind_eq_some_iff.mp hRead'
  obtain ⟨k₁, hSized', hTyped'⟩ := Option.bind_eq_some_iff.mp hSizes'
  obtain ⟨k₂, hType', hEncoded'⟩ := Option.bind_eq_some_iff.mp hTyped'
  cases hShape.symm.trans hShape'
  rw [hEncoding, Option.bind_eq_bind, Option.bind_some, hSize] at hEncoded'
  obtain ⟨type, rfl, rfl⟩ := readDataType_both hType hType'
  cases hLast
  cases hEncoded'
  have hGives : GivesSizes doc ↔
      ∃ elements, shape.elements? = some elements ∧ 2 ≤ elements.length := by
    rw [GivesSizes, hShape, Option.bind_some]
  rw [hGives]
  rcases readImageShape_both hSized hSized' with ⟨hYes, x, y, z, rfl, rfl⟩ | ⟨hNo, rfl, rfl⟩
  · exact ⟨_, _, _, .inl ⟨hYes, x, y, z, rfl, rfl⟩⟩
  · exact ⟨_, _, _, .inr ⟨hNo, rfl, rfl⟩⟩

theorem readImaged_respects : Respects readImaged := by
  intro doc h k h' k' hSame hRead hRead'
  obtain ⟨type, encoding, size, hBoth⟩ := readImaged_both hRead hRead'
  rcases hBoth with ⟨_, x, y, z, rfl, rfl⟩ | ⟨_, rfl, rfl⟩
  · show { fieldsOf h with
      shape := (x, y, z), dataType := type.text, encoding := encoding.text, sizeInHeader := size } =
      { fieldsOf k with
        shape := (x, y, z), dataType := type.text, encoding := encoding.text,
        sizeInHeader := size }
    rw [hSame]
  · show { fieldsOf h with
      dataType := type.text, encoding := encoding.text, sizeInHeader := size } =
      { fieldsOf k with
        dataType := type.text, encoding := encoding.text, sizeInHeader := size }
    rw [hSame]

end Readers

end Eiger.Decoder
