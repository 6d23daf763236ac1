import EigerDetector.Decoder.Statistics
import EigerDetector.Plugin.Process

/-! The texts in the headers that are handed over: what the message supplied for them,
and whether a reader finds their end. -/
namespace Eiger.Decoder

open CharArrays FixedWidth Rapidjson Transition

/-- A text which a message has supplied; it is pending until a frame with it is handed over. -/
structure SuppliedText where
  text : Bytes
  pending : Bool

namespace SuppliedText

def new (text : Bytes) : SuppliedText := ⟨text, true⟩

def handedOver (t : SuppliedText) : SuppliedText := { t with pending := false }

/-- The text that is still in the header. -/
def stillPending : Option SuppliedText → Option Bytes
  | some ⟨text, true⟩ => some text
  | _ => none

end SuppliedText

/-- Texts which a message has supplied. -/
structure Supplied where
  acquisitionID : Option Bytes
  hash : Option SuppliedText
  encoding : Option SuppliedText
  dataType : Option SuppliedText

namespace Supplied

def nothing : Supplied := ⟨none, none, none, none⟩

/-- What was supplied last counts. -/
def update (new s : Supplied) : Supplied where
  acquisitionID := new.acquisitionID <|> s.acquisitionID
  hash := new.hash <|> s.hash
  encoding := new.encoding <|> s.encoding
  dataType := new.dataType <|> s.dataType

/-- The first frame with them takes all texts but the acquisition ID out of the header. -/
def handedOver (s : Supplied) : Supplied :=
  { s with
    hash := s.hash.map SuppliedText.handedOver
    encoding := s.encoding.map SuppliedText.handedOver
    dataType := s.dataType.map SuppliedText.handedOver }

end Supplied

/-- What a first part supplies. -/
def FirstPart.supplies : FirstPart → Supplied
  | image _ _ hash acqID => ⟨acqID, some (.new hash), none, none⟩
  | kind => ⟨kind.acquisitionID, none, none, none⟩

/-- What a later part supplies, if it is read as this document. -/
def laterSupplies (type : EigerMessageType) (part : Int) (doc : Value) : Supplied :=
  if type = .imageData then
    if part = imageDataImagedPart then
      ⟨none, none, ((doc.member encodingKey).bind Value.getString).map .new,
        ((doc.member dataTypeKey).bind Value.getString).map .new⟩
    else .nothing
  else if type ≠ .endOfStream ∧ headerPartType part ≠ none then
    ⟨none, none, none, ((doc.member dataTypeKey).bind Value.getString).map .new⟩
  else .nothing

/-- The array is terminated, and holds the longest prefix of a supplied text that leaves
room for the terminator. -/
def Holds {size : Nat} (a : CharArray (size + 1)) (supplied : Option Bytes) : Prop :=
  a.Terminated ∧ ∀ text ∈ supplied, a.text = text.take size

/-- The texts of a frame are what the message supplied for it, and the plugin can read them. -/
structure Legible (call : ReadyCall) (s : Supplied) : Prop where
  acquisitionID : Holds call.buffer.header.acquisitionID s.acquisitionID
  hash : Holds call.buffer.header.hash (s.hash.map SuppliedText.text)
  encoding : Holds call.buffer.header.encoding (s.encoding.map SuppliedText.text)
  dataType : Holds call.buffer.header.dataType (s.dataType.map SuppliedText.text)
  processed : ∀ framework, (ProcessPlugin.processFrame framework call.buffer).isSome

/-- The text arrays of a header after some of them were copied to. -/
structure Written (s : Supplied) (old new : FrameHeader) : Prop where
  acquisitionID : new.acquisitionID = (s.acquisitionID.map (strncpy 256)).getD old.acquisitionID
  hash : new.hash = ((SuppliedText.stillPending s.hash).map fun text =>
    (strncpy 33 text).set 32 0).getD old.hash
  encoding : new.encoding = ((SuppliedText.stillPending s.encoding).map fun text =>
    (strncpy 11 text).set 10 0).getD old.encoding
  dataType : new.dataType = ((SuppliedText.stillPending s.dataType).map fun text =>
    (strncpy 8 text).set 7 0).getD old.dataType

section Arrays

variable {size : Nat} {a : CharArray (size + 1)} {text : Bytes}

theorem holds_none : Holds a none ↔ a.Terminated :=
  ⟨fun h => h.1, fun h => ⟨h, fun _ hNone => by cases hNone⟩⟩

theorem holds_strncpy_iff (hNul : NulFree text) :
    Holds (strncpy (size + 1) text) (some text) ↔ text.length ≤ size := by
  constructor
  · intro h
    have hRoom := (strncpy_terminated_iff hNul).mp h.1
    omega
  · intro hShort
    refine ⟨strncpy_terminated (by omega), ?_⟩
    rintro _ ⟨⟩
    rw [text_strncpy hNul (by omega), List.take_of_length_le hShort]

/-- A copy with a terminator behind it is always legible. -/
theorem holds_terminated (hNul : NulFree text) :
    Holds ((strncpy (size + 1) text).set size 0) (some text) := by
  refine ⟨terminated_set_zero _ (Nat.lt_succ_self size), ?_⟩
  rintro _ ⟨⟩
  exact text_strncpy_terminated hNul size

/-- An array that was copied to is legible. One whose text went out with an earlier frame is
empty; any other one is legible if it is terminated. -/
theorem holds_copied_iff (hSize : size ≠ 0) {supplied : Option SuppliedText}
    (hNul : ∀ t ∈ supplied, NulFree t.text)
    (hEmptied : ∀ t ∈ supplied, t.pending = false → a.Terminated ∧ a.text = []) :
    Holds (((SuppliedText.stillPending supplied).map fun text =>
        (strncpy (size + 1) text).set size 0).getD a) (supplied.map SuppliedText.text) ↔
      (supplied = none → a.Terminated) ∧
        ∀ t ∈ supplied, t.pending = false → t.text = [] := by
  rcases supplied with _ | ⟨text, _ | _⟩
  · exact holds_none.trans ⟨fun h => ⟨fun _ => h, nofun⟩, fun h => h.1 rfl⟩
  · obtain ⟨hTerminated, hEmpty⟩ := hEmptied _ rfl rfl
    have hTaken : text.take size = [] ↔ text = [] := by
      rw [List.take_eq_nil_iff]
      exact or_iff_right hSize
    constructor
    · intro h
      refine ⟨nofun, ?_⟩
      rintro _ ⟨⟩ _
      exact hTaken.mp ((h.2 text rfl).symm.trans hEmpty)
    · intro h
      refine ⟨hTerminated, ?_⟩
      rintro _ ⟨⟩
      exact hEmpty.trans (hTaken.mpr (h.2 _ rfl rfl)).symm
  · refine ⟨fun _ => ⟨nofun, ?_⟩, fun _ => holds_terminated (hNul _ rfl)⟩
    rintro _ ⟨⟩ ⟨⟩

end Arrays

section Reading

variable {doc : Value} {h h' old new : FrameHeader}

theorem written_nothing (h : FrameHeader) : Written .nothing h h := ⟨rfl, rfl, rfl, rfl⟩

theorem readDataType_written (hRead : readDataType doc h = some h') :
    Written ⟨none, none, none, ((doc.member dataTypeKey).bind Value.getString).map .new⟩ h h' := by
  obtain ⟨type, hType, hRead⟩ := Option.bind_eq_some_iff.mp hRead
  cases hRead
  rw [hType]
  exact ⟨rfl, rfl, rfl, rfl⟩

theorem readDataHeader_written (hRead : readDataHeader doc h = some h') :
    Written ⟨none, none, none, ((doc.member dataTypeKey).bind Value.getString).map .new⟩ h h' := by
  obtain ⟨shape, _, hRead⟩ := Option.bind_eq_some_iff.mp hRead
  obtain ⟨h₁, hShape, hType⟩ := Option.bind_eq_some_iff.mp hRead
  obtain ⟨x, y, z, rfl⟩ := readDataShape_some hShape
  have hWritten := readDataType_written hType
  exact ⟨hWritten.acquisitionID, hWritten.hash, hWritten.encoding, hWritten.dataType⟩

theorem readImaged_written (hRead : readImaged doc h = some h') :
    Written ⟨none, none, ((doc.member encodingKey).bind Value.getString).map .new,
      ((doc.member dataTypeKey).bind Value.getString).map .new⟩ h h' := by
  obtain ⟨shape, _, hSizes⟩ := Option.bind_eq_some_iff.mp hRead
  obtain ⟨h₁, hShape, hTyped⟩ := Option.bind_eq_some_iff.mp hSizes
  obtain ⟨h₂, hType, hEncoded⟩ := Option.bind_eq_some_iff.mp hTyped
  obtain ⟨encoding, hEncoding, hSized⟩ := Option.bind_eq_some_iff.mp hEncoded
  obtain ⟨size, _, hLast⟩ := Option.bind_eq_some_iff.mp hSized
  obtain ⟨x, y, z, rfl⟩ := readImageShape_some hShape
  have hWritten := readDataType_written hType
  cases hLast
  rw [hEncoding]
  exact ⟨hWritten.acquisitionID, hWritten.hash, rfl, hWritten.dataType⟩

theorem readTimes_written (hRead : readTimes doc h = some h') : Written .nothing h h' := by
  obtain ⟨_, _, _, rfl⟩ := readTimes_some hRead
  exact ⟨rfl, rfl, rfl, rfl⟩

end Reading

namespace EigerFrameDecoder

variable {parse : Parser} {d e : EigerFrameDecoder} {n : Nat}

theorem readHeader_cases {read : Value → FrameHeader → Option FrameHeader}
    (h : (d.parseRaw parse n).readHeader read = some e) :
    read e.jsonDocument d.currentHeader = some e.currentHeader ∧ e.pool = d.pool := by
  rw [parseRaw_eq] at h
  obtain ⟨header, hRead, rfl⟩ := Option.map_eq_some_iff.mp h
  exact ⟨hRead, rfl⟩

/-- The part writes the texts it supplies before it is sent, if it is. -/
def Writes (doc : Value) (d e : EigerFrameDecoder) : Prop :=
  ∃ b : EigerFrameDecoder,
    Written (laterSupplies d.currentMessageType d.currentMessagePart doc) d.currentHeader
      b.currentHeader ∧ b.pool = d.pool ∧
    if SendsAt d.currentMessageType d.currentMessagePart then b.sendBuffer = some e else e = b

theorem writes_send {doc : Value} {b : EigerFrameDecoder}
    (hSends : SendsAt d.currentMessageType d.currentMessagePart) (hSend : b.sendBuffer = some e)
    (hWritten : Written (laterSupplies d.currentMessageType d.currentMessagePart doc)
      d.currentHeader b.currentHeader) (hPool : b.pool = d.pool) : Writes doc d e :=
  ⟨b, hWritten, hPool, by rw [if_pos hSends]; exact hSend⟩

theorem writes_only {doc : Value} (hQuiet : ¬ SendsAt d.currentMessageType d.currentMessagePart)
    (hWritten : Written (laterSupplies d.currentMessageType d.currentMessagePart doc)
      d.currentHeader e.currentHeader)
    (hPool : e.pool = d.pool) : Writes doc d e :=
  ⟨e, hWritten, hPool, by rw [if_neg hQuiet]⟩

theorem processImageMessage_writes (hType : d.currentMessageType = .imageData)
    (h : d.processImageMessage parse n = some e) : Writes e.jsonDocument d e := by
  have hSends : SendsAt d.currentMessageType d.currentMessagePart ↔
      d.currentMessagePart = imageDataTimePart ∨ d.currentMessagePart = imageDataAppendixPart := by
    rw [SendsAt, if_pos hType]
  have hNothing : d.currentMessagePart ≠ imageDataImagedPart →
      laterSupplies d.currentMessageType d.currentMessagePart e.jsonDocument = .nothing := by
    intro hOther
    rw [laterSupplies, if_pos hType, if_neg hOther]
  unfold processImageMessage at h
  split at h
  · next hAt =>
      obtain ⟨hRead, hPool⟩ := readHeader_cases h
      refine writes_only (by rw [hSends, hAt]; decide) ?_ hPool
      rw [laterSupplies, if_pos hType, if_pos hAt]
      exact readImaged_written hRead
  · next hOther =>
      have hNothing := hNothing hOther
      split at h
      · next hAt =>
          cases h
          refine writes_only (by rw [hSends, hAt]; decide) ?_ rfl
          rw [hNothing]
          exact ⟨rfl, rfl, rfl, rfl⟩
      split at h
      · next hAt =>
          obtain ⟨b, hTimes, hSend⟩ := Option.bind_eq_some_iff.mp h
          obtain ⟨hRead, hPool⟩ := readHeader_cases hTimes
          refine writes_send (hSends.mpr (.inl hAt)) hSend ?_ hPool
          rw [hNothing]
          exact readTimes_written hRead
      split at h
      · next hAt =>
          refine writes_send (hSends.mpr (.inr hAt)) h ?_ rfl
          rw [hNothing]
          exact ⟨rfl, rfl, rfl, rfl⟩
      · next hTimes hAppendix =>
          cases h
          refine writes_only ?_ ?_ rfl
          · rw [hSends]
            exact not_or.mpr ⟨hTimes, hAppendix⟩
          · rw [hNothing]
            exact ⟨rfl, rfl, rfl, rfl⟩

theorem headerPartType_of_sends {part : Int} {type : EigerMessageType} (hPlain : Plain type)
    (h : SendsAt type part) : headerPartType part = none := by
  rw [SendsAt, if_neg hPlain.1, if_neg hPlain.2] at h
  rcases h with rfl | rfl | rfl | rfl | rfl <;> decide

theorem processGlobalHeaderMessage_writes (hPart : d.currentMessagePart ≠ 1)
    (hPlain : Plain d.currentMessageType) (h : d.processGlobalHeaderMessage parse n = some e) :
    Writes e.jsonDocument d e := by
  have hSends : SendsAt d.currentMessageType d.currentMessagePart ↔
      d.currentMessagePart = globalDetectorConfigPart ∨
      d.currentMessagePart = globalFlatfieldDataPart ∨ d.currentMessagePart = globalMaskDataPart ∨
      d.currentMessagePart = globalCountrateDataPart ∨
      d.currentMessagePart = globalAppendixPart := by
    rw [SendsAt, if_neg hPlain.1, if_neg hPlain.2]
  have hNothing : headerPartType d.currentMessagePart = none →
      laterSupplies d.currentMessageType d.currentMessagePart e.jsonDocument = .nothing := by
    intro hNone
    rw [laterSupplies, if_neg hPlain.1, if_neg fun hBoth => hBoth.2 hNone]
  have hData : ∀ {b : EigerFrameDecoder},
      SendsAt d.currentMessageType d.currentMessagePart → b.sendBuffer = some e →
      b.pool = d.pool → Written .nothing d.currentHeader b.currentHeader →
      Writes e.jsonDocument d e := by
    intro b hSend hSent hPool hWritten
    refine writes_send hSend hSent ?_ hPool
    rw [hNothing (headerPartType_of_sends hPlain hSend)]
    exact hWritten
  have hHeader : ∀ {type : EigerMessageType}, headerPartType d.currentMessagePart = some type →
      d.processDataHeader parse type n = some e → Writes e.jsonDocument d e := by
    intro type hSome hDescribed
    obtain ⟨hRead, hPool⟩ := readHeader_cases hDescribed
    refine writes_only (fun hSend => ?_) ?_ hPool
    · rw [headerPartType_of_sends hPlain hSend] at hSome
      cases hSome
    · have hThere : headerPartType d.currentMessagePart ≠ none := by
        rw [hSome]
        exact Option.some_ne_none type
      rw [laterSupplies, if_neg hPlain.1, if_pos ⟨hPlain.2, hThere⟩]
      exact readDataHeader_written hRead
  unfold processGlobalHeaderMessage at h
  rw [if_neg (show ¬ d.currentMessagePart = globalDetectorNonePart from hPart)] at h
  split at h
  · next hAt => exact hData (hSends.mpr (.inl hAt)) h rfl ⟨rfl, rfl, rfl, rfl⟩
  split at h
  · next hAt => exact hHeader (by rw [hAt]; rfl) h
  split at h
  · next hAt => exact hData (hSends.mpr (.inr (.inl hAt))) h rfl ⟨rfl, rfl, rfl, rfl⟩
  split at h
  · next hAt => exact hHeader (by rw [hAt]; rfl) h
  split at h
  · next hAt => exact hData (hSends.mpr (.inr (.inr (.inl hAt)))) h rfl ⟨rfl, rfl, rfl, rfl⟩
  split at h
  · next hAt => exact hHeader (by rw [hAt]; rfl) h
  split at h
  · next hAt =>
      exact hData (hSends.mpr (.inr (.inr (.inr (.inl hAt))))) h rfl ⟨rfl, rfl, rfl, rfl⟩
  split at h
  · next hAt =>
      exact hData (hSends.mpr (.inr (.inr (.inr (.inr hAt))))) h rfl ⟨rfl, rfl, rfl, rfl⟩
  · next hC hFH hF hMH hM hRH hR hA =>
      cases h
      refine writes_only ?_ ?_ rfl
      · rw [hSends]
        rintro (hAt | hAt | hAt | hAt | hAt)
        · exact hC hAt
        · exact hF hAt
        · exact hM hAt
        · exact hR hAt
        · exact hA hAt
      · rw [hNothing (by rw [headerPartType, if_neg hFH, if_neg hMH, if_neg hRH])]
        exact ⟨rfl, rfl, rfl, rfl⟩

theorem processLater_writes (hPart : d.currentMessagePart ≠ 1)
    (h : d.processLater parse n = some e) : Writes e.jsonDocument d e := by
  unfold processLater at h
  split at h
  · next hImage => exact processImageMessage_writes hImage h
  · next hImage =>
      split at h
      · next hEnd =>
          cases h
          refine writes_only ?_ ?_ rfl
          · rw [SendsAt, if_neg hImage, if_pos hEnd]
            exact id
          · rw [laterSupplies, if_neg hImage, if_neg fun hBoth => hBoth.1 hEnd]
            exact written_nothing _
      · next hEnd => exact processGlobalHeaderMessage_writes hPart ⟨hImage, hEnd⟩ h

/-- A send either does nothing, or makes a call with the header and clears it. -/
theorem sendBuffer_cases (h : d.sendBuffer = some e) :
    (d.pool.droppingFrameData = true ∧ e = d) ∨
      (d.pool.droppingFrameData = false ∧ e.currentHeader = clearHeader d.sentHeader ∧
        ∃ call : ReadyCall, call.buffer.header = d.sentHeader ∧
          e.pool.readyCalls = d.pool.readyCalls ++ [call]) := by
  obtain ⟨pool, hPool, rfl⟩ := Option.map_eq_some_iff.mp h
  rcases BufferPool.send_calls hPool with ⟨hDropping, _⟩ | ⟨hKept, call, _, hHeader, hCalls⟩
  · exact .inl ⟨hDropping, if_pos hDropping⟩
  · have hNot : ¬ d.pool.droppingFrameData = true := by
      rw [hKept]
      exact Bool.false_ne_true
    rw [if_neg hNot]
    exact .inr ⟨hKept, rfl, call, hHeader, hCalls⟩

end EigerFrameDecoder

/-- The array holds the copy of a text that is pending, and nothing once it went out. -/
def Keeps {size : Nat} (copy : Bytes → CharArray size) (supplied : Option SuppliedText)
    (a : CharArray size) : Prop :=
  ∀ t ∈ supplied, if t.pending then a = copy t.text else a.Terminated ∧ a.text = []

/-- The arrays of a header hold what was supplied, until it is handed over. -/
structure Held (s : Supplied) (h : FrameHeader) : Prop where
  acquisitionID : ∀ text ∈ s.acquisitionID, h.acquisitionID = strncpy 256 text
  hash : Keeps (fun text => (strncpy 33 text).set 32 0) s.hash h.hash
  encoding : Keeps (fun text => (strncpy 11 text).set 10 0) s.encoding h.encoding
  dataType : Keeps (fun text => (strncpy 8 text).set 7 0) s.dataType h.dataType

/-- No text has a NUL in it. -/
structure Supplied.NulFree (s : Supplied) : Prop where
  acquisitionID : ∀ text ∈ s.acquisitionID, CharArrays.NulFree text
  hash : ∀ t ∈ s.hash, CharArrays.NulFree t.text
  encoding : ∀ t ∈ s.encoding, CharArrays.NulFree t.text
  dataType : ∀ t ∈ s.dataType, CharArrays.NulFree t.text

/-- Texts that went out with an earlier frame have left nothing behind. -/
structure Supplied.Emptied (s : Supplied) (h : FrameHeader) : Prop where
  hash : ∀ t ∈ s.hash, t.pending = false → h.hash.Terminated ∧ h.hash.text = []
  encoding : ∀ t ∈ s.encoding, t.pending = false → h.encoding.Terminated ∧ h.encoding.text = []
  dataType : ∀ t ∈ s.dataType, t.pending = false → h.dataType.Terminated ∧ h.dataType.text = []

/-- The texts that were supplied are legible in a frame, with what is still in the header where
nothing was: the ID leaves room for its terminator, and a text that went out with an earlier
frame is empty. -/
structure Supplied.Fits (s : Supplied) (old : FrameHeader) : Prop where
  acquisitionID : (s.acquisitionID = none → old.acquisitionID.Terminated) ∧
    ∀ text ∈ s.acquisitionID, text.length ≤ 255
  hash : (s.hash = none → old.hash.Terminated) ∧
    ∀ t ∈ s.hash, t.pending = false → t.text = []
  encoding : (s.encoding = none → old.encoding.Terminated) ∧
    ∀ t ∈ s.encoding, t.pending = false → t.text = []
  dataType : (s.dataType = none → old.dataType.Terminated) ∧
    ∀ t ∈ s.dataType, t.pending = false → t.text = []

section Writing

variable {s new : Supplied} {old h : FrameHeader} {call : ReadyCall}

theorem held_nothing (h : FrameHeader) : Held .nothing h := ⟨nofun, nofun, nofun, nofun⟩

theorem Keeps.emptied {size : Nat} {copy : Bytes → CharArray size} {supplied : Option SuppliedText}
    {a : CharArray size} (h : Keeps copy supplied a) :
    ∀ t ∈ supplied, t.pending = false → a.Terminated ∧ a.text = [] := by
  intro t hMem hOut
  have hKept := h t hMem
  rwa [if_neg (by rw [hOut]; exact Bool.false_ne_true)] at hKept

theorem Held.emptied (hHeld : Held s h) : s.Emptied h :=
  ⟨hHeld.hash.emptied, hHeld.encoding.emptied, hHeld.dataType.emptied⟩

/-- What was written is kept, if there was nothing where nothing was written. -/
theorem keeps_written {size : Nat} {copy : Bytes → CharArray size}
    {supplied : Option SuppliedText} {a b : CharArray size}
    (hWritten : b = ((SuppliedText.stillPending supplied).map copy).getD a)
    (hEmptied : ∀ t ∈ supplied, t.pending = false → a.Terminated ∧ a.text = []) :
    Keeps copy supplied b := by
  rcases supplied with _ | ⟨text, _ | _⟩
  · exact nofun
  · rintro _ ⟨⟩
    rw [hWritten]
    exact hEmptied _ rfl rfl
  · rintro _ ⟨⟩
    exact hWritten

theorem Written.held (hWritten : Written s old h) (hEmptied : s.Emptied old) : Held s h := by
  refine ⟨?_, keeps_written hWritten.hash hEmptied.hash,
    keeps_written hWritten.encoding hEmptied.encoding,
    keeps_written hWritten.dataType hEmptied.dataType⟩
  intro text hText
  rw [hWritten.acquisitionID, Option.mem_def.mp hText]
  rfl

theorem getD_map_orElse {α β : Type*} {f : α → β} {x y : Option α} {a b : β}
    (hNew : b = (x.map f).getD a) (hOld : ∀ v ∈ y, a = f v) : b = ((x <|> y).map f).getD a := by
  cases x with
  | some v => exact hNew
  | none =>
      cases y with
      | none => exact hNew
      | some v => exact hNew.trans (hOld v rfl)

theorem keeps_orElse {size : Nat} {copy : Bytes → CharArray size} {x y : Option SuppliedText}
    {a b : CharArray size} (hNew : b = ((SuppliedText.stillPending x).map copy).getD a)
    (hOld : Keeps copy y a) : b = ((SuppliedText.stillPending (x <|> y)).map copy).getD a := by
  rcases x with _ | x
  · rcases y with _ | ⟨text, _ | _⟩
    · exact hNew
    · exact hNew
    · exact hNew.trans (hOld _ rfl)
  · exact hNew

/-- What is written over a header that holds what was supplied before. -/
theorem Written.update (hWritten : Written new old h) (hHeld : Held s old) :
    Written (new.update s) old h where
  acquisitionID := getD_map_orElse hWritten.acquisitionID hHeld.acquisitionID
  hash := keeps_orElse hWritten.hash hHeld.hash
  encoding := keeps_orElse hWritten.encoding hHeld.encoding
  dataType := keeps_orElse hWritten.dataType hHeld.dataType

theorem keeps_handedOver {size : Nat} {copy : Bytes → CharArray (size + 1)}
    (supplied : Option SuppliedText) (a : CharArray (size + 1)) :
    Keeps copy (supplied.map SuppliedText.handedOver) (a.set 0 0) := by
  intro t hMem
  obtain ⟨_, _, rfl⟩ := Option.map_eq_some_iff.mp hMem
  exact ⟨terminated_set_zero a (Nat.succ_pos size), text_set_zero a⟩

theorem Held.handedOver (hHeld : Held s h) (type : EigerMessageType) :
    Held s.handedOver (clearHeader { h with messageType := type }) :=
  ⟨hHeld.acquisitionID, keeps_handedOver _ _, keeps_handedOver _ _, keeps_handedOver _ _⟩

theorem mem_orElse {α : Type*} {x y : Option α} {v : α} (h : v ∈ (x <|> y)) : v ∈ x ∨ v ∈ y := by
  cases x with
  | some w => exact .inl h
  | none => exact .inr h

/-- What a part supplies has not gone out yet. -/
structure Supplied.Fresh (s : Supplied) : Prop where
  hash : ∀ t ∈ s.hash, t.pending = true
  encoding : ∀ t ∈ s.encoding, t.pending = true
  dataType : ∀ t ∈ s.dataType, t.pending = true

theorem Supplied.Fresh.emptied (hFresh : s.Fresh) (h : FrameHeader) : s.Emptied h where
  hash t hMem hOut := absurd (hFresh.hash t hMem) (by rw [hOut]; exact Bool.false_ne_true)
  encoding t hMem hOut := absurd (hFresh.encoding t hMem) (by rw [hOut]; exact Bool.false_ne_true)
  dataType t hMem hOut := absurd (hFresh.dataType t hMem) (by rw [hOut]; exact Bool.false_ne_true)

theorem Supplied.Emptied.update (hNew : new.Emptied h) (hOld : s.Emptied h) :
    (new.update s).Emptied h where
  hash t hMem := (mem_orElse hMem).elim (hNew.hash t) (hOld.hash t)
  encoding t hMem := (mem_orElse hMem).elim (hNew.encoding t) (hOld.encoding t)
  dataType t hMem := (mem_orElse hMem).elim (hNew.dataType t) (hOld.dataType t)

theorem Supplied.NulFree.update (hNew : new.NulFree) (hOld : s.NulFree) :
    (new.update s).NulFree where
  acquisitionID text hText := (mem_orElse hText).elim (hNew.1 text) (hOld.1 text)
  hash text hText := (mem_orElse hText).elim (hNew.2 text) (hOld.2 text)
  encoding text hText := (mem_orElse hText).elim (hNew.3 text) (hOld.3 text)
  dataType text hText := (mem_orElse hText).elim (hNew.4 text) (hOld.4 text)

/-- The plugin stops at the end of each text if there is one. -/
theorem processFrame_isSome (framework : ProcessPlugin.Framework) (buffer : FrameBuffer)
    (hID : buffer.header.acquisitionID.Terminated) (hHash : buffer.header.hash.Terminated)
    (hEncoding : buffer.header.encoding.Terminated) (hType : buffer.header.dataType.Terminated) :
    (ProcessPlugin.processFrame framework buffer).isSome := by
  have hReadID : ProcessPlugin.readText buffer.header.acquisitionID =
      some buffer.header.acquisitionID.text := if_pos hID
  have hReadHash : ProcessPlugin.readText buffer.header.hash = some buffer.header.hash.text :=
    if_pos hHash
  have hReadEncoding : ProcessPlugin.readText buffer.header.encoding =
      some buffer.header.encoding.text := if_pos hEncoding
  have hReadType : ProcessPlugin.readText buffer.header.dataType =
      some buffer.header.dataType.text := if_pos hType
  have hData : ∀ json item,
      (ProcessPlugin.processDataMessage framework buffer json item).isSome := by
    intro json item
    rw [ProcessPlugin.processDataMessage, hReadType]
    rfl
  have hEncodes : ∀ frame, (ProcessPlugin.setFrameEncoding buffer.header frame).isSome := by
    intro frame
    simp only [ProcessPlugin.setFrameEncoding, hReadEncoding, Option.bind_eq_bind,
      Option.bind_some]
    split_ifs <;> rfl
  have hTypes : ∀ frame, (ProcessPlugin.setFrameDataType buffer.header frame).isSome := by
    intro frame
    simp only [ProcessPlugin.setFrameDataType, hReadType, Option.bind_eq_bind, Option.bind_some]
    split_ifs <;> rfl
  have hMeta : (ProcessPlugin.imageMetaData buffer.header).isSome := by
    obtain ⟨encoded, hEncoded⟩ := Option.isSome_iff_exists.mp
      (hEncodes ⟨bytes "data", none, none, [], [], []⟩)
    obtain ⟨typed, hTyped⟩ := Option.isSome_iff_exists.mp (hTypes encoded)
    simp only [ProcessPlugin.imageMetaData, Option.bind_eq_bind, hEncoded, Option.bind_some,
      hTyped, hReadID]
    rfl
  have hImage : ∀ json, (ProcessPlugin.processImage framework buffer json).isSome := by
    intro json
    obtain ⟨metaData, hMetaData⟩ := Option.isSome_iff_exists.mp hMeta
    simp only [ProcessPlugin.processImage, ProcessPlugin.imageJson, Option.bind_eq_bind,
      hMetaData, Option.bind_some, hReadType, hReadEncoding, hReadHash]
    rfl
  simp only [ProcessPlugin.processFrame, Option.bind_eq_bind, hReadID, Option.bind_some]
  split
  · exact hImage _
  · rfl
  · rfl
  · rfl
  · exact hData _ _
  · exact hData _ _
  · exact hData _ _
  · rfl
  · rfl

theorem legible_of_holds {s : Supplied}
    (hID : Holds call.buffer.header.acquisitionID s.acquisitionID)
    (hHash : Holds call.buffer.header.hash (s.hash.map SuppliedText.text))
    (hEncoding : Holds call.buffer.header.encoding (s.encoding.map SuppliedText.text))
    (hType : Holds call.buffer.header.dataType (s.dataType.map SuppliedText.text)) :
    Legible call s :=
  ⟨hID, hHash, hEncoding, hType, fun framework =>
    processFrame_isSome framework call.buffer hID.1 hHash.1 hEncoding.1 hType.1⟩

/-- The ID is legible unless it is too long, as nothing terminates it. -/
theorem holds_copied_id_iff {supplied : Option Bytes} {a : CharArray 256}
    (hNul : ∀ text ∈ supplied, NulFree text) :
    Holds ((supplied.map (strncpy 256)).getD a) supplied ↔
      (supplied = none → a.Terminated) ∧ ∀ text ∈ supplied, text.length ≤ 255 := by
  cases supplied with
  | none => exact holds_none.trans ⟨fun h => ⟨fun _ => h, nofun⟩, fun h => h.1 rfl⟩
  | some text =>
      refine (holds_strncpy_iff (hNul text rfl)).trans ⟨fun hShort => ⟨nofun, ?_⟩, fun h => ?_⟩
      · rintro _ ⟨⟩
        exact hShort
      · exact h.2 text rfl

/-- A call whose header was written to is legible exactly if what was supplied fits. -/
theorem legible_iff_fits (hNul : s.NulFree) (hEmptied : s.Emptied old)
    (hWritten : Written s old call.buffer.header) : Legible call s ↔ s.Fits old := by
  have hID := holds_copied_id_iff (a := old.acquisitionID) hNul.acquisitionID
  have hHash := holds_copied_iff (a := old.hash) (by decide) hNul.hash hEmptied.hash
  have hEncoding :=
    holds_copied_iff (a := old.encoding) (by decide) hNul.encoding hEmptied.encoding
  have hType := holds_copied_iff (a := old.dataType) (by decide) hNul.dataType hEmptied.dataType
  rw [← hWritten.acquisitionID] at hID
  rw [← hWritten.hash] at hHash
  rw [← hWritten.encoding] at hEncoding
  rw [← hWritten.dataType] at hType
  constructor
  · intro h
    exact ⟨hID.mp h.acquisitionID, hHash.mp h.hash, hEncoding.mp h.encoding,
      hType.mp h.dataType⟩
  · intro h
    exact legible_of_holds (hID.mpr h.acquisitionID) (hHash.mpr h.hash)
      (hEncoding.mpr h.encoding) (hType.mpr h.dataType)

end Writing

theorem readFirstPart_hash_nulFree {parse : Parser} {part hash : Bytes} {frame series : Int}
    {acqID : Option Bytes} (hRead : readFirstPart parse part = some (.image frame series hash acqID)) :
    NulFree hash := by
  unfold readFirstPart at hRead
  split at hRead
  · cases hRead
  obtain ⟨htype, _, hRead⟩ := Option.bind_eq_some_iff.mp hRead
  split at hRead
  · obtain ⟨_, _, hRead⟩ := Option.bind_eq_some_iff.mp hRead
    obtain ⟨_, _, hRead⟩ := Option.bind_eq_some_iff.mp hRead
    obtain ⟨_, _, hRead⟩ := Option.bind_eq_some_iff.mp hRead
    cases hRead
  split at hRead
  · obtain ⟨_, _, hRead⟩ := Option.bind_eq_some_iff.mp hRead
    obtain ⟨_, _, hRead⟩ := Option.bind_eq_some_iff.mp hRead
    obtain ⟨found, hFound, hRead⟩ := Option.bind_eq_some_iff.mp hRead
    obtain ⟨_, _, hRead⟩ := Option.bind_eq_some_iff.mp hRead
    cases hRead
    obtain ⟨value, _, hText⟩ := Option.bind_eq_some_iff.mp hFound
    exact Value.getString_nulFree hText
  split at hRead
  · obtain ⟨_, _, hRead⟩ := Option.bind_eq_some_iff.mp hRead
    obtain ⟨_, _, hRead⟩ := Option.bind_eq_some_iff.mp hRead
    cases hRead
  · cases hRead

namespace EigerFrameDecoder

/-- A part leads to a call: it is followed by a send, and there is a buffer to send. -/
def Hands (parse : Parser) (part : Bytes) (d : EigerFrameDecoder) : Prop :=
  if d.currentMessagePart = 1 then
    (∃ kind ∈ readFirstPart parse part, kind.Requests) ∧ d.pool.Available
  else ¬ d.Quiet

/-- What the message has supplied with this part, which was read as this document. -/
def known (parse : Parser) (part : Bytes) (doc : Value) (s : Supplied) (d : EigerFrameDecoder) :
    Supplied :=
  if d.currentMessagePart = 1 then
    ((readFirstPart parse part).map FirstPart.supplies).getD .nothing
  else (laterSupplies d.currentMessageType d.currentMessagePart doc).update s

/-- A frame that goes out with this part would be legible. A header without detail goes
out with the ID it finds. -/
def Fit (parse : Parser) (part : Bytes) (s : Supplied) (d : EigerFrameDecoder) : Prop :=
  if d.currentMessagePart = 1 then
    ∀ kind ∈ readFirstPart parse part,
      if kind.SentUntagged then
        Supplied.nothing.Fits d.currentHeader ∧
          Holds d.currentHeader.acquisitionID kind.acquisitionID
      else kind.supplies.Fits d.currentHeader
  else s.Fits d.currentHeader

/-- What a part does, as far as texts are concerned. -/
structure TextStep (known : Supplied) (fits hands : Prop) (e : EigerFrameDecoder) : Prop where
  free : known.NulFree
  silent : ¬ hands → e.pool.readyCalls = [] ∧ Held known e.currentHeader
  call : hands → ∃ call, e.pool.readyCalls = [call] ∧ (Legible call known ↔ fits) ∧
    Held known.handedOver e.currentHeader

variable {parse : Parser} {d d' e : EigerFrameDecoder} {part : Bytes} {last : Bool}
variable {s : Supplied} {kind : FirstPart}

theorem laterSupplies_free (type : EigerMessageType) (n : Int) (doc : Value) :
    (laterSupplies type n doc).NulFree := by
  have hString : ∀ key, ∀ t ∈ ((doc.member key).bind Value.getString).map SuppliedText.new,
      NulFree t.text := by
    intro key t hMem
    obtain ⟨text, hText, rfl⟩ := Option.map_eq_some_iff.mp hMem
    obtain ⟨value, _, hValue⟩ := Option.bind_eq_some_iff.mp hText
    exact Value.getString_nulFree hValue
  unfold laterSupplies
  split_ifs
  · exact ⟨nofun, nofun, hString _, hString _⟩
  · exact ⟨nofun, nofun, nofun, nofun⟩
  · exact ⟨nofun, nofun, nofun, hString _⟩
  · exact ⟨nofun, nofun, nofun, nofun⟩

theorem laterSupplies_fresh (type : EigerMessageType) (n : Int) (doc : Value) :
    (laterSupplies type n doc).Fresh := by
  have hNew : ∀ texts : Option Bytes, ∀ t ∈ texts.map SuppliedText.new, t.pending = true := by
    intro texts t hMem
    obtain ⟨text, _, rfl⟩ := Option.map_eq_some_iff.mp hMem
    rfl
  unfold laterSupplies
  split_ifs
  · exact ⟨nofun, hNew _, hNew _⟩
  · exact ⟨nofun, nofun, nofun⟩
  · exact ⟨nofun, nofun, hNew _⟩
  · exact ⟨nofun, nofun, nofun⟩

theorem supplies_fresh (kind : FirstPart) : kind.supplies.Fresh := by
  cases kind with
  | image frame series hash acqID =>
      refine ⟨?_, nofun, nofun⟩
      rintro _ ⟨⟩
      rfl
  | _ => exact ⟨nofun, nofun, nofun⟩

/-- No part supplies a text and is followed by a send. -/
theorem laterSupplies_of_sends {type : EigerMessageType} {n : Int} (h : SendsAt type n)
    (doc : Value) : laterSupplies type n doc = .nothing := by
  unfold laterSupplies
  by_cases hImage : type = .imageData
  · rw [SendsAt, if_pos hImage] at h
    rw [if_pos hImage]
    rcases h with rfl | rfl <;> rfl
  · rw [if_neg hImage]
    by_cases hEnd : type = .endOfStream
    · rw [SendsAt, if_neg hImage, if_pos hEnd] at h
      exact h.elim
    · rw [if_neg fun hBoth => hBoth.2 (headerPartType_of_sends ⟨hImage, hEnd⟩ h)]

theorem nothing_free : Supplied.nothing.NulFree := ⟨nofun, nofun, nofun, nofun⟩

theorem update_nothing (s : Supplied) : Supplied.nothing.update s = s := by
  cases s
  rfl

/-- What a later part does. -/
theorem later_texts (hPart : d.currentMessagePart ≠ 1) (hConsistent : d.pool.Consistent)
    (hTaken : d.pool.readyCalls = []) (hHeld : Held s d.currentHeader) (hFree : s.NulFree)
    (h : d.receivePart parse part last = some d') :
    ∃ e, d' = e.advance.frameMetaData last ∧
      TextStep (d.known parse part e.jsonDocument s) (d.Fit parse part s)
        (d.Hands parse part) e := by
  rw [receivePart_later parse hPart] at h
  obtain ⟨a, hAccept, hLater⟩ := Option.bind_eq_some_iff.mp h
  obtain ⟨e, hProcess, rfl⟩ := Option.map_eq_some_iff.mp hLater
  obtain ⟨hSamePart, hSameType, _, _, hHeader, _⟩ := accept_control hAccept
  have hCalls : a.pool.readyCalls = [] := (accept_calls hAccept).trans hTaken
  have hFlag := accept_dropping hConsistent hAccept
  obtain ⟨b, hWritten, hPool, hSend⟩ := processLater_writes (by rw [hSamePart]; exact hPart)
    hProcess
  rw [hSamePart, hSameType] at hWritten hSend
  rw [hHeader] at hWritten
  refine ⟨e, rfl, ?_⟩
  rw [known, if_neg hPart, Fit, if_neg hPart, Hands, if_neg hPart]
  by_cases hSends : SendsAt d.currentMessageType d.currentMessagePart
  · rw [if_pos hSends] at hSend
    rw [laterSupplies_of_sends hSends, update_nothing]
    rw [laterSupplies_of_sends hSends] at hWritten
    have hWritten := hWritten.update hHeld
    rw [update_nothing] at hWritten
    have hQuiet : d.Quiet ↔ a.pool.droppingFrameData = true := by
      rw [hFlag, Quiet]
      simp [hPart, hSends]
    rw [hQuiet, ← hPool]
    refine ⟨hFree, fun hSilent => ?_, fun hKept => ?_⟩
    · rcases sendBuffer_cases hSend with ⟨_, rfl⟩ | ⟨hKept, _⟩
      · exact ⟨hPool ▸ hCalls, hWritten.held hHeld.emptied⟩
      · exact absurd (by rw [hKept]; exact Bool.false_ne_true) hSilent
    · rcases sendBuffer_cases hSend with ⟨hDropping, _⟩ | ⟨_, hCleared, call, hSent, hMade⟩
      · exact absurd hDropping hKept
      · refine ⟨call, by rw [hMade, hPool, hCalls]; rfl, ?_, ?_⟩
        · refine legible_iff_fits hFree hHeld.emptied ?_
          rw [hSent]
          exact ⟨hWritten.1, hWritten.2, hWritten.3, hWritten.4⟩
        · rw [hCleared]
          exact (hWritten.held hHeld.emptied).handedOver _
  · rw [if_neg hSends] at hSend
    subst hSend
    have hQuiet : d.Quiet := .inr (.inl hSends)
    have hEmptied := ((laterSupplies_fresh d.currentMessageType d.currentMessagePart
      e.jsonDocument).emptied d.currentHeader).update hHeld.emptied
    refine ⟨(laterSupplies_free _ _ _).update hFree, fun _ => ⟨?_, ?_⟩, fun hNot => ?_⟩
    · rw [hPool, hCalls]
    · exact (hWritten.update hHeld).held hEmptied
    · exact absurd hQuiet hNot

/-- A send right after an allocation. -/
theorem allocated_send_texts (h : d.allocateNextFrameBuffer.sendBuffer = some e)
    (hConsistent : d.pool.Consistent) (hTaken : d.pool.readyCalls = []) :
    (¬ d.pool.Available → e.pool.readyCalls = [] ∧ e.currentHeader = d.currentHeader) ∧
      (d.pool.Available → e.currentHeader = clearHeader d.sentHeader ∧
        ∃ call : ReadyCall, call.buffer.header = d.sentHeader ∧ e.pool.readyCalls = [call]) := by
  have hCalls : d.pool.allocate.readyCalls = [] := d.pool.allocate_frame.1.trans hTaken
  have hFlag := BufferPool.dropping_allocate_iff hConsistent
  rcases sendBuffer_cases h with ⟨hDropping, rfl⟩ | ⟨hKept, hCleared, call, hSent, hMade⟩
  · exact ⟨fun _ => ⟨hCalls, rfl⟩, fun hAvailable => absurd hAvailable (hFlag.mp hDropping)⟩
  · refine ⟨fun hNone => ?_, fun _ => ⟨hCleared, call, hSent, ?_⟩⟩
    · have hKept : d.pool.allocate.droppingFrameData = false := hKept
      rw [hFlag.mpr hNone] at hKept
      cases hKept
    · rw [hMade]
      show d.pool.allocate.readyCalls ++ [call] = [call]
      rw [hCalls]
      rfl

/-- A header without detail is sent with the texts that are there, any other one is not sent. -/
theorem expectHeaderParts_texts {n : Nat} {detail : Bytes}
    (h : d.expectHeaderParts parse detail n = some e) (hPart : d.currentMessagePart = 1)
    (hConsistent : d.pool.Consistent) (hTaken : d.pool.readyCalls = []) :
    (detail = headerDetailNone → (¬ d.pool.Available → e.pool.readyCalls = []) ∧
      (d.pool.Available → ∃ call : ReadyCall,
        call.buffer.header = { d.currentHeader with messageType := .globalHeaderNone } ∧
          e.pool.readyCalls = [call])) ∧
    (detail ≠ headerDetailNone → e.pool = d.pool ∧ e.currentHeader = d.currentHeader) := by
  unfold expectHeaderParts at h
  split at h
  · next hNone =>
      obtain ⟨sent, hSent, rfl⟩ := Option.map_eq_some_iff.mp h
      rw [processGlobalHeaderMessage, if_pos (show _ = globalDetectorNonePart from hPart)] at hSent
      obtain ⟨hSilent, hCall⟩ := allocated_send_texts hSent hConsistent hTaken
      exact ⟨fun _ => ⟨fun hNot => (hSilent hNot).1, fun hAvailable => (hCall hAvailable).2⟩,
        fun hNot => absurd hNone hNot⟩
  · next hDetail =>
      refine ⟨fun hNone => absurd hNone hDetail, fun _ => ?_⟩
      split at h
      · cases h
        exact ⟨rfl, rfl⟩
      · cases h
        exact ⟨rfl, rfl⟩

/-- A frame that took the ID it found is legible if that is the one the message supplies. -/
theorem legible_untagged_iff {call : ReadyCall} {old : FrameHeader} {acqID : Option Bytes}
    (hWritten : Written .nothing old call.buffer.header) :
    Legible call ⟨acqID, none, none, none⟩ ↔
      Supplied.nothing.Fits old ∧ Holds old.acquisitionID acqID := by
  have hID : call.buffer.header.acquisitionID = old.acquisitionID := hWritten.acquisitionID
  rw [← legible_iff_fits nothing_free ⟨nofun, nofun, nofun⟩ hWritten, ← hID]
  constructor
  · intro h
    exact ⟨legible_of_holds ⟨h.acquisitionID.1, nofun⟩ h.hash h.encoding h.dataType,
      h.acquisitionID⟩
  · rintro ⟨h, hFound⟩
    exact legible_of_holds hFound h.hash h.encoding h.dataType

theorem supplies_free (hRead : readFirstPart parse part = some kind) : kind.supplies.NulFree := by
  have hID : ∀ text ∈ kind.acquisitionID, NulFree text :=
    fun text hText => acquisitionID_nulFree hRead hText
  cases kind with
  | image frame series hash acqID =>
      refine ⟨hID, ?_, nofun, nofun⟩
      rintro _ ⟨⟩
      exact readFirstPart_hash_nulFree hRead
  | _ => exact ⟨hID, nofun, nofun, nofun⟩

theorem keepAcquisitionID_written (acqID : Option Bytes) (d : EigerFrameDecoder) :
    Written ⟨acqID, none, none, none⟩ d.currentHeader (d.keepAcquisitionID acqID).currentHeader := by
  cases acqID <;> exact ⟨rfl, rfl, rfl, rfl⟩

/-- What a first part does that is not followed by a send. -/
theorem textStep_silent {known : Supplied} {fits hands : Prop} (hFree : known.NulFree)
    (hFresh : known.Fresh) (hNot : ¬ hands) (hTaken : e.pool.readyCalls = []) {old : FrameHeader}
    (hWritten : Written known old e.currentHeader) : TextStep known fits hands e :=
  ⟨hFree, fun _ => ⟨hTaken, hWritten.held (hFresh.emptied old)⟩,
    fun hHands => absurd hHands hNot⟩

/-- What a first part does. -/
theorem first_texts (hPart : d.currentMessagePart = 1) (hConsistent : d.pool.Consistent)
    (hTaken : d.pool.readyCalls = []) (h : d.receivePart parse part last = some d') :
    ∃ e, d' = e.advance.frameMetaData last ∧
      TextStep (d.known parse part e.jsonDocument s) (d.Fit parse part s)
        (d.Hands parse part) e := by
  rw [receivePart_first parse hPart] at h
  obtain ⟨kind, hRead, hStart⟩ := Option.bind_eq_some_iff.mp h
  obtain ⟨e, hStarted, rfl⟩ := Option.map_eq_some_iff.mp hStart
  have hFree := supplies_free hRead
  have hFresh := supplies_fresh kind
  have hHands : d.Hands parse part ↔ kind.Requests ∧ d.pool.Available := by
    rw [Hands, if_pos hPart, hRead]
    simp
  have hFit : d.Fit parse part s ↔ if kind.SentUntagged then
      Supplied.nothing.Fits d.currentHeader ∧
        Holds d.currentHeader.acquisitionID kind.acquisitionID
      else kind.supplies.Fits d.currentHeader := by
    rw [Fit, if_pos hPart, hRead]
    simp
  refine ⟨e, rfl, ?_⟩
  rw [known, if_pos hPart, hRead, hFit, hHands]
  show TextStep kind.supplies _ _ e
  cases kind with
  | unreadable =>
      cases hStarted
      exact textStep_silent hFree hFresh (fun hBoth => hBoth.1.elim) hTaken (written_nothing _)
  | unknown =>
      cases hStarted
      exact textStep_silent hFree hFresh (fun hBoth => hBoth.1.elim) hTaken (written_nothing _)
  | header series detail acqID =>
      obtain ⟨expecting, hExpect, rfl⟩ := Option.map_eq_some_iff.mp hStarted
      have hID := keepAcquisitionID_written acqID expecting
      have hPool := (keepAcquisitionID_frame acqID expecting).1
      obtain ⟨hNoDetail, hDetail⟩ := expectHeaderParts_texts hExpect hPart hConsistent hTaken
      by_cases hNone : detail = headerDetailNone
      · obtain ⟨hSilent, hCall⟩ := hNoDetail hNone
        rw [if_pos (show FirstPart.SentUntagged (.header series detail acqID) from hNone)]
        have hHeld := hID.held (hFresh.emptied _)
        refine ⟨hFree, fun hNot => ⟨?_, hHeld⟩, fun hBoth => ?_⟩
        · rw [hPool]
          exact hSilent fun hAvailable => hNot ⟨hNone, hAvailable⟩
        · obtain ⟨call, hHeader, hMade⟩ := hCall hBoth.2
          refine ⟨call, ?_, ?_, hHeld.acquisitionID, nofun, nofun, nofun⟩
          · rw [hPool]
            exact hMade
          · exact legible_untagged_iff (by rw [hHeader]; exact ⟨rfl, rfl, rfl, rfl⟩)
      · obtain ⟨hSame, hHeader⟩ := hDetail hNone
        rw [hHeader] at hID
        refine textStep_silent hFree hFresh (fun hBoth => hNone hBoth.1) ?_ hID
        rw [hPool, hSame]
        exact hTaken
  | image frame series hash acqID =>
      cases hStarted
      have hID := keepAcquisitionID_written acqID
        ((d.parsed parse part).imageStarted frame series hash)
      have hWritten : Written (FirstPart.image frame series hash acqID).supplies d.currentHeader
          (((d.parsed parse part).imageStarted frame series hash).keepAcquisitionID
            acqID).currentHeader := ⟨hID.1, hID.2, hID.3, hID.4⟩
      refine textStep_silent hFree hFresh (fun hBoth => hBoth.1.elim) ?_ hWritten
      rw [(keepAcquisitionID_frame acqID _).1]
      exact hTaken
  | endOfSeries series acqID =>
      have hSend : ((d.parsed parse part).seriesEnded series
        acqID).allocateNextFrameBuffer.sendBuffer = some e := hStarted
      obtain ⟨hSilent, hCall⟩ := allocated_send_texts hSend hConsistent hTaken
      have hWritten : Written (FirstPart.endOfSeries series acqID).supplies d.currentHeader
          ((d.parsed parse part).seriesEnded series acqID).currentHeader := ⟨rfl, rfl, rfl, rfl⟩
      rw [if_neg (show ¬ FirstPart.SentUntagged (.endOfSeries series acqID) from id)]
      refine ⟨hFree, fun hNot => ?_, fun hBoth => ?_⟩
      · obtain ⟨hCalls, hSame⟩ := hSilent fun hAvailable => hNot ⟨trivial, hAvailable⟩
        rw [hSame]
        exact ⟨hCalls, hWritten.held (hFresh.emptied _)⟩
      · obtain ⟨hCleared, call, hHeader, hMade⟩ := hCall hBoth.2
        refine ⟨call, hMade, legible_iff_fits hFree (hFresh.emptied _) ?_, ?_⟩
        · rw [hHeader]
          exact ⟨rfl, rfl, rfl, rfl⟩
        · rw [hCleared]
          exact (hWritten.held (hFresh.emptied _)).handedOver _

end EigerFrameDecoder

/-- The receiver, with what the message at hand has supplied, and every frame that was
handed over with what was supplied for it. -/
structure TextRecord where
  receiver : Receiver
  supplied : Supplied
  handed : List (ReadyCall × Supplied)

namespace TextRecord

variable (parse : Parser)

def initial (garbage : Uninitialised) (ids : List Nat) (stream : List (List Bytes)) :
    TextRecord :=
  ⟨.initial garbage ids stream, .nothing, []⟩

/-- Take note of what a part supplied and of the call it led to. -/
def record (part : Bytes) (after : Receiver) (s : TextRecord) : TextRecord :=
  let known := s.receiver.decoder.known parse part after.decoder.jsonDocument s.supplied
  let calls := (after.arrivals.getLast?.map Arrival.calls).getD []
  { receiver := after
    supplied :=
      if after.complete then .nothing
      else if calls.isEmpty then known
      else known.handedOver
    handed := s.handed ++ calls.map fun call => (call, known) }

def step (s : TextRecord) : Event → Option TextRecord
  | .part => (nextPart s.receiver.stream).bind fun next =>
      (s.receiver.step parse .part).map fun after => s.record parse next.1 after
  | .release id => (s.receiver.step parse (.release id)).map fun after =>
      { s with receiver := after }

/-- Every frame so far is legible. -/
def AllLegible (s : TextRecord) : Prop := ∀ frame ∈ s.handed, Legible frame.1 frame.2

/-- Texts fit where a frame goes out. -/
def Guarded (s : TextRecord) : Event → Prop
  | .part => ∀ next ∈ nextPart s.receiver.stream,
      s.receiver.decoder.Hands parse next.1 → s.receiver.decoder.Fit parse next.1 s.supplied
  | .release _ => True

/-- What holds in every state of every run. -/
structure Sound (s : TextRecord) : Prop where
  steady : Steady s.receiver
  free : s.supplied.NulFree
  held : Held s.supplied s.receiver.decoder.currentHeader

variable {parse : Parser} {s s' : TextRecord}

/-- What a part does, first or not. -/
theorem Sound.texts (h : s.Sound) {part : Bytes} {last : Bool} {d' : EigerFrameDecoder}
    (hReceive : s.receiver.decoder.receivePart parse part last = some d') :
    ∃ e, d' = e.advance.frameMetaData last ∧ EigerFrameDecoder.TextStep
      (s.receiver.decoder.known parse part d'.jsonDocument s.supplied)
      (s.receiver.decoder.Fit parse part s.supplied) (s.receiver.decoder.Hands parse part) e := by
  have hDocument : ∀ e : EigerFrameDecoder,
      (e.advance.frameMetaData last).jsonDocument = e.jsonDocument := by
    intro e
    cases last <;> rfl
  by_cases hPart : s.receiver.decoder.currentMessagePart = 1
  · obtain ⟨e, rfl, hStep⟩ :=
      EigerFrameDecoder.first_texts hPart h.steady.consistent h.steady.taken hReceive
    rw [hDocument]
    exact ⟨e, rfl, hStep⟩
  · obtain ⟨e, rfl, hStep⟩ := EigerFrameDecoder.later_texts hPart h.steady.consistent
      h.steady.taken h.held h.free hReceive
    rw [hDocument]
    exact ⟨e, rfl, hStep⟩

theorem frameMetaData_more (e : EigerFrameDecoder) :
    (e.advance.frameMetaData false).currentHeader = e.currentHeader := rfl

theorem record_received (s : TextRecord) (part : Bytes) (last : Bool)
    (later : List (List Bytes)) (d : EigerFrameDecoder) :
    s.record parse part (s.receiver.received part last later d) =
      { receiver := s.receiver.received part last later d
        supplied :=
          if last then .nothing
          else if d.pool.readyCalls.isEmpty then
            s.receiver.decoder.known parse part d.jsonDocument s.supplied
          else (s.receiver.decoder.known parse part d.jsonDocument s.supplied).handedOver
        handed := s.handed ++ d.pool.readyCalls.map fun call =>
          (call, s.receiver.decoder.known parse part d.jsonDocument s.supplied) } := by
  have hCalls : ((s.receiver.received part last later d).arrivals.getLast?.map
      Arrival.calls).getD [] = d.pool.readyCalls := by
    rw [Receiver.received, List.getLast?_concat]
    rfl
  rw [record, hCalls]
  rfl

theorem handedOver_free {known : Supplied} (h : known.NulFree) : known.handedOver.NulFree := by
  have hSame : ∀ {supplied : Option SuppliedText}, (∀ t ∈ supplied, NulFree t.text) →
      ∀ t ∈ supplied.map SuppliedText.handedOver, NulFree t.text := by
    intro supplied hAll t hMem
    obtain ⟨old, hOld, rfl⟩ := Option.map_eq_some_iff.mp hMem
    exact hAll old hOld
  exact ⟨h.acquisitionID, hSame h.hash, hSame h.encoding, hSame h.dataType⟩

/-- What is known after a part, where the message goes on. -/
theorem sound_supplied {known : Supplied} {d : EigerFrameDecoder} {fits hands : Prop}
    (h : EigerFrameDecoder.TextStep known fits hands d) (last : Bool) :
    let supplied := if last then .nothing
      else if d.pool.readyCalls.isEmpty then known else known.handedOver
    supplied.NulFree ∧ Held supplied (d.advance.frameMetaData last).currentHeader := by
  cases last with
  | true => exact ⟨EigerFrameDecoder.nothing_free, held_nothing _⟩
  | false =>
      rw [frameMetaData_more]
      by_cases hHands : hands
      · obtain ⟨call, hMade, _, hHeld⟩ := h.call hHands
        rw [hMade]
        exact ⟨handedOver_free h.free, hHeld⟩
      · obtain ⟨hNone, hHeld⟩ := h.silent hHands
        rw [hNone]
        exact ⟨h.free, hHeld⟩

/-- The frames of one part are legible exactly if texts fit. -/
theorem legible_part {known : Supplied} {d : EigerFrameDecoder} {fits hands : Prop}
    (h : EigerFrameDecoder.TextStep known fits hands d) :
    (∀ frame ∈ d.pool.readyCalls.map fun call => (call, known), Legible frame.1 frame.2) ↔
      (hands → fits) := by
  by_cases hHands : hands
  · obtain ⟨call, hMade, hLegible, _⟩ := h.call hHands
    rw [hMade, List.map_singleton, List.forall_mem_singleton, hLegible]
    exact ⟨fun hFits _ => hFits, fun hFits => hFits hHands⟩
  · rw [(h.silent hHands).1]
    exact ⟨fun _ hYes => absurd hYes hHands, fun _ _ hMem => absurd hMem List.not_mem_nil⟩

theorem Sound.step {event : Event} (h : s.Sound) (hStep : s.step parse event = some s') :
    s'.Sound ∧ (s'.AllLegible ↔ s.AllLegible ∧ s.Guarded parse event) := by
  cases event with
  | part =>
      obtain ⟨⟨part, last, later⟩, hNext, hStep⟩ := Option.bind_eq_some_iff.mp hStep
      obtain ⟨after, hAfter, rfl⟩ := Option.map_eq_some_iff.mp hStep
      obtain ⟨_, _, _, d', hSame, hReceive, rfl⟩ := Receiver.step_part hAfter
      cases hNext.symm.trans hSame
      have hSteady := h.steady.step hAfter
      obtain ⟨e, rfl, hTexts⟩ := h.texts hReceive
      obtain ⟨hFree, hHeld⟩ := sound_supplied hTexts last
      have hLegible := legible_part hTexts
      have hPool := (EigerFrameDecoder.finish_frame last e).1
      rw [record_received, hPool]
      refine ⟨⟨hSteady, hFree, hHeld⟩, ?_⟩
      have hGuard : s.Guarded parse .part ↔ (s.receiver.decoder.Hands parse part →
          s.receiver.decoder.Fit parse part s.supplied) := by
        rw [Guarded, hNext]
        simp
      rw [hGuard, ← hLegible, AllLegible, AllLegible]
      exact List.forall_mem_append
  | release id =>
      obtain ⟨after, hAfter, rfl⟩ := Option.map_eq_some_iff.mp hStep
      have hSteady := h.steady.step hAfter
      rw [Receiver.step] at hAfter
      split at hAfter
      · cases hAfter
        exact ⟨⟨hSteady, h.free, h.held⟩, fun hAll => ⟨hAll, trivial⟩, fun hBoth => hBoth.1⟩
      · cases hAfter

theorem sound_initial (garbage : Uninitialised) (ids : List Nat) (stream : List (List Bytes)) :
    (initial garbage ids stream).Sound :=
  ⟨steady_initial garbage ids stream, EigerFrameDecoder.nothing_free, held_nothing _⟩

/-- All frames of a run are legible exactly if texts fit wherever one goes out: an
acquisition ID leaves room for a terminator, a header without detail finds the ID that it
is to carry, what the message did not supply was terminated before, and what went out with
an earlier frame of the message was empty. -/
theorem all_legible_iff {garbage : Uninitialised} {ids : List Nat}
    {messages : List (List Bytes)} {events : List Event}
    (hExec : exec (step parse) (initial garbage ids messages) events = some s) :
    s.AllLegible ↔ Run (step parse) (Guarded parse) (initial garbage ids messages) events s := by
  rw [gained_iff_run Sound (sound_initial garbage ids messages)
    (fun _ _ _ h hStep => h.step hStep) hExec]
  have hNone : (initial garbage ids messages).AllLegible := fun _ hMem =>
    absurd hMem List.not_mem_nil
  exact ⟨fun h => h.2, fun run => ⟨hNone, run⟩⟩

instance (s : Supplied) (old : FrameHeader) : Decidable (s.Fits old) :=
  decidable_of_iff
    (((s.acquisitionID = none → old.acquisitionID.Terminated) ∧
      ∀ text ∈ s.acquisitionID, text.length ≤ 255) ∧
      ((s.hash = none → old.hash.Terminated) ∧
        ∀ t ∈ s.hash, t.pending = false → t.text = []) ∧
      ((s.encoding = none → old.encoding.Terminated) ∧
        ∀ t ∈ s.encoding, t.pending = false → t.text = []) ∧
      ((s.dataType = none → old.dataType.Terminated) ∧
        ∀ t ∈ s.dataType, t.pending = false → t.text = []))
    ⟨fun h => ⟨h.1, h.2.1, h.2.2.1, h.2.2.2⟩, fun h => ⟨h.1, h.2, h.3, h.4⟩⟩

instance {size : Nat} (a : CharArray (size + 1)) (supplied : Option Bytes) :
    Decidable (Holds a supplied) :=
  inferInstanceAs (Decidable (a.Terminated ∧ ∀ text ∈ supplied, a.text = text.take size))

instance (part : Bytes) (d : EigerFrameDecoder) : Decidable (d.Hands parse part) :=
  inferInstanceAs (Decidable (ite _ _ _))

instance (part : Bytes) (s : Supplied) (d : EigerFrameDecoder) : Decidable (d.Fit parse part s) :=
  inferInstanceAs (Decidable (ite _ _ _))

instance (s : TextRecord) (event : Event) : Decidable (s.Guarded parse event) :=
  match event with
  | .part => inferInstanceAs (Decidable (∀ next ∈ nextPart s.receiver.stream,
      s.receiver.decoder.Hands parse next.1 → s.receiver.decoder.Fit parse next.1 s.supplied))
  | .release _ => .isTrue trivial

/-- An image and the end of its series. -/
theorem image_and_end_legible :
    ∃ s, exec (step sampleParser) (initial zeroed [0, 1] [imageMessage, [sampleEnd.1]])
        [.part, .part, .part, .part, .part] = some s ∧
      s.handed.length = 2 ∧ s.AllLegible := by
  have hExec : (exec (guarded (step sampleParser) (Guarded sampleParser))
      (initial zeroed [0, 1] [imageMessage, [sampleEnd.1]])
      [.part, .part, .part, .part, .part]).map (fun s => s.handed.length) = some 2 := by
    decide +kernel
  obtain ⟨s, hRun, hLength⟩ := Option.map_eq_some_iff.mp hExec
  have hRun := run_iff_exec_guarded.mpr hRun
  have hAll := hRun.executes
  exact ⟨s, hAll, hLength, (all_legible_iff hAll).mpr hRun⟩

/-- An end message whose acquisition ID has 256 bytes. -/
def longEnd : Bytes × Value :=
  (bytes "\x7b\"htype\":\"dseries_end-1.0\",\"series\":1,\"acqID\":\"" ++
      List.replicate 256 97 ++ bytes "\"\x7d",
    .object [(headerTypeKey, .string endHeaderType), (seriesKey, .int 1),
      (acquisitionIDKey, .string (List.replicate 256 97))])

/-- Its acquisition ID fills the array, and the plugin would read past it. The appendix of an
image goes out without the hash that the message supplied. -/
theorem texts_not_legible :
    (∃ s, exec (step (.ofTexts [longEnd])) (initial zeroed [0] [[longEnd.1]]) [.part] = some s ∧
      (∃ frame ∈ s.handed, ¬ frame.1.buffer.header.acquisitionID.Terminated ∧
        ∀ framework, ProcessPlugin.processFrame framework frame.1.buffer = none) ∧
      ¬ s.AllLegible) ∧
    ∃ s, exec (step sampleParser) (initial zeroed [0, 1] [imageMessage ++ [[9]]])
        [.part, .part, .part, .part, .part] = some s ∧
      (∃ frame ∈ s.handed, frame.1.buffer.header.messageType = .imageAppendix ∧
        frame.2.hash.map SuppliedText.text = some (bytes "ab") ∧
        frame.1.buffer.header.hash.text = []) ∧ ¬ s.AllLegible := by
  have hLong : (exec (step (.ofTexts [longEnd])) (initial zeroed [0] [[longEnd.1]])
      [.part]).map (fun s => s.handed.map fun frame =>
        decide frame.1.buffer.header.acquisitionID.Terminated) = some [false] := by
    decide +kernel
  have hAppendix : (exec (step sampleParser) (initial zeroed [0, 1] [imageMessage ++ [[9]]])
      [.part, .part, .part, .part, .part]).map (fun s => s.handed[1]?.map fun frame =>
        (frame.1.buffer.header.messageType, frame.2.hash.map SuppliedText.text,
          frame.1.buffer.header.hash.text)) =
      some (some (.imageAppendix, some (bytes "ab"), [])) := by
    decide +kernel
  constructor
  · obtain ⟨s, hRun, hHanded⟩ := Option.map_eq_some_iff.mp hLong
    obtain ⟨frame, hFrame, hFalse⟩ : ∃ frame ∈ s.handed,
        decide frame.1.buffer.header.acquisitionID.Terminated = false := by
      apply List.mem_map.mp
      rw [hHanded]
      exact List.mem_cons_self
    have hNot := of_decide_eq_false hFalse
    refine ⟨s, hRun, ⟨frame, hFrame, hNot, fun framework => ?_⟩, fun hAll => ?_⟩
    · rw [ProcessPlugin.processFrame, ProcessPlugin.readText, if_neg hNot]
      rfl
    · exact hNot (hAll frame hFrame).acquisitionID.1
  · obtain ⟨s, hRun, hHanded⟩ := Option.map_eq_some_iff.mp hAppendix
    obtain ⟨frame, hAt, hSent⟩ := Option.map_eq_some_iff.mp hHanded
    obtain ⟨hType, hRest⟩ := Prod.mk.inj hSent
    obtain ⟨hHash, hEmpty⟩ := Prod.mk.inj hRest
    have hFrame := List.mem_of_getElem? hAt
    refine ⟨s, hRun, ⟨frame, hFrame, hType, hHash, hEmpty⟩, fun hAll => ?_⟩
    have hHolds := (hAll frame hFrame).hash.2 _ hHash
    rw [hEmpty] at hHolds
    cases hHolds

end TextRecord

end Eiger.Decoder
