import EigerDetector.Decoder.Entries
import Mathlib.Tactic.IntervalCases

/-! What the decoder hands over for each message, over whole runs of the receiver. -/
namespace Eiger.Decoder

open CharArrays FixedWidth Rapidjson Transition

/-- How many parts a global header of this detail has without an appendix. -/
def ExpectedParts (detail : Bytes) (expected : Nat) : Prop :=
  (detail = headerDetailNone ∧ expected = 1) ∨ (detail = headerDetailBasic ∧ expected = 2) ∨
    (detail = headerDetailAll ∧ expected = 8)

/-- The decoder inside a global header, after these parts of it. -/
structure InHeader (parse : Parser) (d : EigerFrameDecoder) (parts : List Bytes)
    (expected : Nat) : Prop where
  started : parts ≠ []
  few : parts.length ≤ expected
  expects : d.numHeaderMessagesToExpect = expected
  parent : d.currentParentMessageType = .global
  plain : Plain d.currentMessageType
  counter : d.currentMessagePart =
    if expected < parts.length + 1 then globalAppendixPart else (parts.length + 1 : Nat)
  announced : ∀ type ∈ dataPartType d.currentMessagePart, d.currentMessageType = type
  idle : d.pool.currentFrameBufferId = -1
  described : headerPartType (d.currentMessagePart - 1) ≠ none → ∀ part ∈ parts.getLast?,
    ∀ doc ∈ parse (cString part), Describes doc d.currentHeader

/-- The decoder inside an image, after these parts of it. -/
structure InImage (d : EigerFrameDecoder) (arrivals : List Arrival) : Prop where
  started : arrivals ≠ []
  few : arrivals.length ≤ 4
  parent : d.currentParentMessageType = .imageData
  type : d.currentMessageType = .imageData
  counter : d.currentMessagePart = (arrivals.length + 1 : Nat)
  idle : arrivals.length ≠ 3 → d.pool.currentFrameBufferId = -1
  blob : arrivals.length = 3 → ∀ blob ∈ numbered arrivals 3,
    (blob.available = false → d.pool.Dropping) ∧
    (blob.available = true → d.pool.Ready ∧
      (d.pool.sharedBuffers d.pool.currentFrameBufferId).payload.load blob.part.length =
        blob.part ∧
      d.currentHeader.dataSize = toUInt32 blob.part.length)

section Headers

variable {parse : Parser} {detail : Bytes} {expected n : Nat} {type : EigerMessageType}

theorem entries_none (series : Int) (acqID : Option Bytes) :
    (FirstPart.header series headerDetailNone acqID).entries =
      [⟨.globalHeaderNone, 1, 1, none, none⟩,
        ⟨.globalHeaderAppendix, 2, 2, some 2, none⟩] := by
  rw [FirstPart.entries, if_pos rfl]

theorem entries_basic (series : Int) (acqID : Option Bytes) :
    (FirstPart.header series headerDetailBasic acqID).entries =
      [⟨.globalHeaderConfig, 2, 2, some 2, none⟩,
        ⟨.globalHeaderAppendix, 3, 3, some 3, none⟩] := by
  rw [FirstPart.entries, if_neg headerDetails_distinct.1.symm, if_pos rfl]

theorem entries_all (series : Int) (acqID : Option Bytes) :
    (FirstPart.header series headerDetailAll acqID).entries =
      [⟨.globalHeaderConfig, 2, 2, some 2, none⟩,
        ⟨.globalHeaderFlatfield, 4, 4, some 4, some 3⟩,
        ⟨.globalHeaderMask, 6, 6, some 6, some 5⟩,
        ⟨.globalHeaderCountrate, 8, 8, some 8, some 7⟩,
        ⟨.globalHeaderAppendix, 9, 9, some 9, none⟩] := by
  rw [FirstPart.entries, if_neg headerDetails_distinct.2.1.symm,
    if_neg headerDetails_distinct.2.2.symm]

theorem entries_at_appendix (h : ExpectedParts detail expected) (series : Int)
    (acqID : Option Bytes) :
    ((FirstPart.header series detail acqID).entries.filter fun e => e.sentAt = expected + 1) =
      [⟨.globalHeaderAppendix, expected + 1, expected + 1, some (expected + 1), none⟩] := by
  rcases h with ⟨rfl, rfl⟩ | ⟨rfl, rfl⟩ | ⟨rfl, rfl⟩
  · rw [entries_none]
    rfl
  · rw [entries_basic]
    rfl
  · rw [entries_all]
    rfl

/-- A part of a header without its appendix announces data or is data. -/
theorem header_part_cases (h : ExpectedParts detail expected) (hLow : 2 ≤ n) (hHigh : n ≤ expected)
    (series : Int) (acqID : Option Bytes) :
    (∃ type described, dataPartType n = some type ∧ headerPartType n = none ∧
      dataPartType ((n : Int) + 1) = none ∧
      ((FirstPart.header series detail acqID).entries.filter fun e => e.sentAt = n) =
        [⟨type, n, n, some n, described⟩] ∧
      ∀ m ∈ described, m + 1 = n ∧ headerPartType ((n : Int) - 1) ≠ none) ∨
    (∃ type, dataPartType n = none ∧ headerPartType n = some type ∧ Plain type ∧
      dataPartType ((n : Int) + 1) = some type ∧ n + 1 ≤ expected ∧
      ((FirstPart.header series detail acqID).entries.filter fun e => e.sentAt = n) = []) := by
  rcases h with ⟨rfl, rfl⟩ | ⟨rfl, rfl⟩ | ⟨rfl, rfl⟩
  · omega
  · have hTwo : n = 2 := by omega
    subst hTwo
    rw [entries_basic]
    exact .inl ⟨.globalHeaderConfig, none, rfl, rfl, rfl, rfl, nofun⟩
  · rw [entries_all]
    interval_cases n
    · exact .inl ⟨.globalHeaderConfig, none, rfl, rfl, rfl, rfl, nofun⟩
    · exact .inr ⟨.globalHeaderFlatfield, rfl, rfl, ⟨by decide, by decide⟩, rfl, by omega, rfl⟩
    · exact .inl ⟨.globalHeaderFlatfield, some 3, rfl, rfl, rfl, rfl, by
        rintro _ ⟨⟩
        decide⟩
    · exact .inr ⟨.globalHeaderMask, rfl, rfl, ⟨by decide, by decide⟩, rfl, by omega, rfl⟩
    · exact .inl ⟨.globalHeaderMask, some 5, rfl, rfl, rfl, rfl, by
        rintro _ ⟨⟩
        decide⟩
    · exact .inr ⟨.globalHeaderCountrate, rfl, rfl, ⟨by decide, by decide⟩, rfl, by omega, rfl⟩
    · exact .inl ⟨.globalHeaderCountrate, some 7, rfl, rfl, rfl, rfl, by
        rintro _ ⟨⟩
        decide⟩

theorem not_allocates_of_header {part : Int} (h : headerPartType part = some type) :
    ¬ Allocates .global part := by
  unfold headerPartType at h
  split at h
  · next hAt =>
      rw [hAt]
      decide
  split at h
  · next hAt =>
      rw [hAt]
      decide
  split at h
  · next hAt =>
      rw [hAt]
      decide
  · cases h

variable {d d' e : EigerFrameDecoder} {arrivals : List Arrival} {part : Bytes} {last : Bool}

/-- What a part which describes data does. -/
theorem described_part (h : (d.stored part).processDataHeader parse type part.length = some e) :
    e.pool = d.pool ∧ e.currentMessageType = type ∧
      e.currentMessagePart = d.currentMessagePart ∧
      e.currentParentMessageType = d.currentParentMessageType ∧
      e.numHeaderMessagesToExpect = d.numHeaderMessagesToExpect ∧
      ∀ doc ∈ parse (cString part), Describes doc e.currentHeader := by
  rw [EigerFrameDecoder.processDataHeader, EigerFrameDecoder.parseRaw_eq] at h
  obtain ⟨header, hRead, rfl⟩ := Option.map_eq_some_iff.mp h
  refine ⟨rfl, rfl, rfl, rfl, rfl, fun doc hDoc => ?_⟩
  have hLoad : (d.currentRawBuffer.store part).load part.length = part := Memory.load_store _ _
  have hDocument : (parse (cString ((d.currentRawBuffer.store part).load part.length))).getD
      d.jsonDocument = doc := by
    rw [hLoad, show parse (cString part) = some doc from hDoc]
    rfl
  refine describes_of_read (h := d.currentHeader) ?_
  rw [← hDocument]
  exact hRead

/-- The record of a part that the decoder has processed. -/
def arrivalOf (d d' : EigerFrameDecoder) (part : Bytes) : Arrival :=
  ⟨part, d.pool.Available, d'.pool.readyCalls⟩

/-- What a part means for the calls of its message. -/
def EmitsDue (parse : Parser) (kind : FirstPart) (arrivals : List Arrival) (arrival : Arrival) :
    Prop :=
  List.Forall₂ (Carries parse ((arrivals ++ [arrival]).map Arrival.part))
    ((kind.entries.filter fun e => e.sentAt = arrivals.length + 1).filter
      fun e => e.due (arrivals ++ [arrival])) arrival.calls

/-- A part that goes behind a header is what the buffer of its entry carries. -/
theorem SentPart.emits {kind : FirstPart} {described : Option Nat}
    (h : SentPart d e type part) (hPool : d'.pool = e.pool)
    (hAt : (kind.entries.filter fun e => e.sentAt = arrivals.length + 1) =
      [⟨type, arrivals.length + 1, arrivals.length + 1, some (arrivals.length + 1), described⟩])
    (hDescribed : ∀ m ∈ described,
      ∀ text ∈ numbered ((arrivals ++ [arrivalOf d d' part]).map Arrival.part) m,
      ∀ doc ∈ parse (cString text), Describes doc d.currentHeader) :
    EmitsDue parse kind arrivals (arrivalOf d d' part) := by
  have hNumber : numbered ((arrivals ++ [arrivalOf d d' part]).map Arrival.part)
      (arrivals.length + 1) = some part := by
    rw [numbered_map, numbered_concat]
    rfl
  refine emitted_one hAt (numbered_concat _ _) (fun hNone => ?_) fun hFree => ?_
  · show d'.pool.readyCalls = []
    rw [hPool]
    exact h.silent (of_decide_eq_false hNone)
  · obtain ⟨call, hCalls, _, hHeader, hPayload⟩ := h.call (of_decide_eq_true hFree)
    refine ⟨call, ?_, ?_, fun n hn text hText => ?_, fun m hm text hText doc hDoc => ?_⟩
    · show d'.pool.readyCalls = _
      rw [hPool, hCalls]
    · rw [hHeader]
    · cases hn
      cases hNumber.symm.trans hText
      rw [hHeader]
      exact ⟨hPayload, toUInt32_natCast⟩
    · have hSame := hDescribed m hm text hText doc hDoc
      rw [hHeader]
      exact ⟨hSame.shape, hSame.type⟩

/-- The counter after a part of a global header. -/
theorem header_counter {n : Nat} (hExpects : e.numHeaderMessagesToExpect = expected)
    (hParent : e.currentParentMessageType = .global) (hCounter : e.currentMessagePart = n) :
    (e.advance.frameMetaData false).currentMessagePart =
      if expected < n + 1 then globalAppendixPart else (n + 1 : Nat) := by
  rw [EigerFrameDecoder.finish_part_more, hParent, hCounter, hExpects]
  by_cases hOver : expected < n + 1
  · rw [if_pos hOver, if_pos ⟨rfl, by exact_mod_cast hOver⟩]
  · rw [if_neg hOver, if_neg fun hBoth => hOver (by exact_mod_cast hBoth.2)]
    push_cast
    rfl

/-- What the appendix of a global header does. -/
theorem InHeader.next_appendix (h : InHeader parse d (arrivals.map Arrival.part) expected)
    (hDetail : ExpectedParts detail expected) (hConsistent : d.pool.Consistent)
    (hTaken : d.pool.readyCalls = []) (series : Int) (acqID : Option Bytes)
    (hOver : expected < arrivals.length + 1)
    (hReceive : d.receivePart parse part last = some d') :
    EmitsDue parse (.header series detail acqID) arrivals (arrivalOf d d' part) ∧
      d'.pool.currentFrameBufferId = -1 := by
  have hCounter := h.counter
  have hFew := h.few
  rw [List.length_map] at hCounter hFew
  rw [if_pos hOver] at hCounter
  obtain ⟨e, rfl, hSent⟩ := (EigerFrameDecoder.appendix_goesOut hCounter h.parent
    h.plain).sent hConsistent hTaken hReceive
  obtain ⟨hPool, _⟩ := EigerFrameDecoder.finish_frame last e
  have hAt := entries_at_appendix hDetail series acqID
  rw [show expected = arrivals.length by omega] at hAt
  refine ⟨hSent.emits hPool hAt nofun, ?_⟩
  rw [hPool]
  exact hSent.idle

/-- What a part of data behind its header does. -/
theorem InHeader.next_data {described : Option Nat}
    (h : InHeader parse d (arrivals.map Arrival.part) expected)
    (hConsistent : d.pool.Consistent) (hTaken : d.pool.readyCalls = []) (series : Int)
    (acqID : Option Bytes) (hCounter : d.currentMessagePart = (arrivals.length + 1 : Nat))
    (hData : dataPartType (arrivals.length + 1 : Nat) = some type)
    (hNoHeader : headerPartType (arrivals.length + 1 : Nat) = none)
    (hNoData : dataPartType ((arrivals.length + 1 : Nat) + 1 : Int) = none)
    (hAt : ((FirstPart.header series detail acqID).entries.filter
        fun e => e.sentAt = arrivals.length + 1) =
      [⟨type, arrivals.length + 1, arrivals.length + 1, some (arrivals.length + 1), described⟩])
    (hDescribed : ∀ m ∈ described, m + 1 = arrivals.length + 1 ∧
      headerPartType ((arrivals.length + 1 : Nat) - 1 : Int) ≠ none)
    (hReceive : d.receivePart parse part last = some d') :
    EmitsDue parse (.header series detail acqID) arrivals (arrivalOf d d' part) ∧
      d'.pool.currentFrameBufferId = -1 ∧
      (last = false → arrivals.length + 1 ≤ expected →
        InHeader parse d' ((arrivals ++ [arrivalOf d d' part]).map Arrival.part) expected) := by
  have hSome : 1 ≤ arrivals.length := by
    have hStarted := List.length_pos_iff.mpr h.started
    rwa [List.length_map] at hStarted
  rw [← hCounter] at hData hNoHeader hNoData hDescribed
  obtain ⟨e, rfl, hSent⟩ := (EigerFrameDecoder.data_goesOut h.parent h.plain hData
    (h.announced type hData)).sent hConsistent hTaken hReceive
  obtain ⟨hPool, hType, hParent, hExpects⟩ := EigerFrameDecoder.finish_frame last e
  refine ⟨hSent.emits hPool hAt fun m hm text hText => ?_, ?_, fun hMore hFew => ?_⟩
  · obtain ⟨hLast, hBefore⟩ := hDescribed m hm
    refine h.described hBefore text ?_
    have hOld : numbered (arrivals.map Arrival.part) m = some text := by
      rw [← hText, List.map_append, numbered_append (by omega) (by rw [List.length_map]; omega)]
    rw [List.getLast?_eq_getElem?, List.length_map]
    rw [numbered, show m = arrivals.length by omega] at hOld
    exact hOld
  · rw [hPool]
    exact hSent.idle
  · subst hMore
    have hGlobal := hSent.parent.trans h.parent
    have hCount := header_counter (hSent.expected.trans h.expects) hGlobal
      (hSent.counter.trans hCounter)
    refine ⟨by simp, by simpa using hFew, hExpects.trans (hSent.expected.trans h.expects),
      hParent.trans hGlobal, ?_, ?_, ?_, ?_, ?_⟩
    · rw [hType, hSent.sent, ← h.announced type hData]
      exact h.plain
    · rw [hCount, List.length_map, List.length_append, List.length_singleton]
    · rw [hCount]
      split
      · rintro _ ⟨⟩
      · rw [Nat.cast_succ, ← hCounter, hNoData]
        rintro _ ⟨⟩
    · rw [hPool]
      exact hSent.idle
    · rw [hCount]
      split
      · exact fun hHeader => absurd rfl hHeader
      · rw [Nat.cast_succ, ← hCounter, Int.add_sub_cancel, hNoHeader]
        exact fun hHeader => absurd rfl hHeader

/-- What the header of the data that follows does. -/
theorem InHeader.next_described (h : InHeader parse d (arrivals.map Arrival.part) expected)
    (hTaken : d.pool.readyCalls = []) (series : Int) (acqID : Option Bytes)
    (hCounter : d.currentMessagePart = (arrivals.length + 1 : Nat)) (hSome : 1 ≤ arrivals.length)
    (hHeader : headerPartType (arrivals.length + 1 : Nat) = some type) (hPlain : Plain type)
    (hNext : dataPartType ((arrivals.length + 1 : Nat) + 1 : Int) = some type)
    (hFits : arrivals.length + 1 + 1 ≤ expected)
    (hAt : ((FirstPart.header series detail acqID).entries.filter
      fun e => e.sentAt = arrivals.length + 1) = [])
    (hReceive : d.receivePart parse part last = some d') :
    EmitsDue parse (.header series detail acqID) arrivals (arrivalOf d d' part) ∧
      d'.pool.currentFrameBufferId = -1 ∧
      (last = false → arrivals.length + 1 ≤ expected →
        InHeader parse d' ((arrivals ++ [arrivalOf d d' part]).map Arrival.part) expected) := by
  have hNotFirst : d.currentMessagePart ≠ 1 := by
    rw [hCounter]
    omega
  rw [← hCounter] at hHeader hNext
  have hRaw : ¬ Allocates d.currentParentMessageType d.currentMessagePart := by
    rw [h.parent]
    exact not_allocates_of_header hHeader
  rw [EigerFrameDecoder.raw_part hNotFirst hRaw] at hReceive
  obtain ⟨e, hProcess, rfl⟩ := Option.map_eq_some_iff.mp hReceive
  rw [EigerFrameDecoder.processLater_described parse (d := d.stored part) h.plain hHeader]
    at hProcess
  obtain ⟨hSame, hAnnounced, hPart, hParent, hExpects, hDescribes⟩ := described_part hProcess
  obtain ⟨hPool, hType, hParent', hExpects'⟩ := EigerFrameDecoder.finish_frame last e
  refine ⟨emitted_none hAt ?_, ?_, fun hMore hFew => ?_⟩
  · show (e.advance.frameMetaData last).pool.readyCalls = []
    rw [hPool, hSame, hTaken]
  · rw [hPool, hSame]
    exact h.idle
  · subst hMore
    have hGlobal := hParent.trans h.parent
    have hCount := header_counter (hExpects.trans h.expects) hGlobal (hPart.trans hCounter)
    rw [if_neg (by omega)] at hCount
    refine ⟨by simp, by simpa using hFew, hExpects'.trans (hExpects.trans h.expects),
      hParent'.trans hGlobal, ?_, ?_, ?_, ?_, ?_⟩
    · rw [hType, hAnnounced]
      exact hPlain
    · rw [hCount, List.length_map, List.length_append, List.length_singleton,
        if_neg (by omega)]
    · rw [hCount, Nat.cast_succ, ← hCounter, hNext, hType, hAnnounced]
      rintro _ ⟨⟩
      rfl
    · rw [hPool, hSame]
      exact h.idle
    · intro _ text hText
      rw [List.map_append, List.map_singleton, List.getLast?_concat] at hText
      cases hText
      exact hDescribes

/-- What a part of a global header after the first does. -/
theorem InHeader.next (h : InHeader parse d (arrivals.map Arrival.part) expected)
    (hDetail : ExpectedParts detail expected) (hConsistent : d.pool.Consistent)
    (hTaken : d.pool.readyCalls = []) (series : Int) (acqID : Option Bytes)
    (hReceive : d.receivePart parse part last = some d') :
    EmitsDue parse (.header series detail acqID) arrivals (arrivalOf d d' part) ∧
      d'.pool.currentFrameBufferId = -1 ∧
      (last = false → arrivals.length + 1 ≤ expected →
        InHeader parse d' ((arrivals ++ [arrivalOf d d' part]).map Arrival.part) expected) := by
  by_cases hOver : expected < arrivals.length + 1
  · obtain ⟨hEmits, hIdle⟩ := h.next_appendix hDetail hConsistent hTaken series acqID hOver hReceive
    exact ⟨hEmits, hIdle, fun _ hMore => absurd hOver (by omega)⟩
  · have hSome : 1 ≤ arrivals.length := by
      have hStarted := List.length_pos_iff.mpr h.started
      rwa [List.length_map] at hStarted
    have hCounter := h.counter
    rw [List.length_map, if_neg hOver] at hCounter
    rcases header_part_cases hDetail (n := arrivals.length + 1) (by omega) (by omega) series acqID
      with ⟨type, described, hData, hNoHeader, hNoData, hAt, hDescribed⟩ |
        ⟨type, _, hHeader, hPlain, hNext, hFits, hAt⟩
    · exact h.next_data hConsistent hTaken series acqID hCounter hData hNoHeader hNoData hAt
        hDescribed hReceive
    · exact h.next_described hTaken series acqID hCounter hSome hHeader hPlain hNext hFits hAt
        hReceive

end Headers

section Images

variable {parse : Parser} {d d' e : EigerFrameDecoder} {arrivals : List Arrival} {part : Bytes}
variable {last : Bool}

/-- The counter after a part of an image. -/
theorem image_counter {n : Nat} (hParent : e.currentParentMessageType = .imageData)
    (hCounter : e.currentMessagePart = n) :
    (e.advance.frameMetaData false).currentMessagePart = (n + 1 : Nat) := by
  rw [EigerFrameDecoder.finish_part_image hParent, hCounter]
  push_cast
  rfl

/-- What the part with the dimensions of an image does. -/
theorem InImage.next_imaged (h : InImage d arrivals) (hAt : arrivals.length = 1)
    (hTaken : d.pool.readyCalls = []) (frame series : Int) (hash : Bytes) (acqID : Option Bytes)
    (hReceive : d.receivePart parse part last = some d') :
    EmitsDue parse (.image frame series hash acqID) arrivals (arrivalOf d d' part) ∧
      d'.pool.currentFrameBufferId = -1 ∧
      (last = false → InImage d' (arrivals ++ [arrivalOf d d' part])) := by
  have hCounter : d.currentMessagePart = imageDataImagedPart := by
    rw [h.counter, hAt]
    rfl
  rw [EigerFrameDecoder.image_imaged hCounter h.parent h.type] at hReceive
  obtain ⟨header, _, hResult⟩ := Option.map_eq_some_iff.mp hReceive
  have hIdle := h.idle (by omega)
  obtain ⟨hPool, hType, hParent, _⟩ := EigerFrameDecoder.finish_frame last
    { d.parsed parse part with currentHeader := header }
  rw [hResult] at hPool hType hParent
  refine ⟨emitted_none ?_ ?_, ?_, fun hMore => ?_⟩
  · rw [hAt]
    rfl
  · show d'.pool.readyCalls = []
    rw [hPool]
    exact hTaken
  · rw [hPool]
    exact hIdle
  · subst hMore
    have hCount := image_counter (e := { d.parsed parse part with currentHeader := header })
      h.parent h.counter
    rw [hResult] at hCount
    refine ⟨by simp, by simp; omega, hParent.trans h.parent, hType.trans h.type, ?_,
      fun _ => ?_, fun hThree => ?_⟩
    · rw [hCount, List.length_append, List.length_singleton]
    · rw [hPool]
      exact hIdle
    · rw [List.length_append, List.length_singleton] at hThree
      omega

/-- What the data of an image does. -/
theorem InImage.next_blob (h : InImage d arrivals) (hAt : arrivals.length = 2)
    (hConsistent : d.pool.Consistent) (hTaken : d.pool.readyCalls = []) (frame series : Int)
    (hash : Bytes) (acqID : Option Bytes)
    (hReceive : d.receivePart parse part last = some d') :
    EmitsDue parse (.image frame series hash acqID) arrivals (arrivalOf d d' part) ∧
      (last = false → InImage d' (arrivals ++ [arrivalOf d d' part])) := by
  have hCounter : d.currentMessagePart = imageDataBlobPart := by
    rw [h.counter, hAt]
    rfl
  rw [EigerFrameDecoder.image_blob hCounter h.parent h.type] at hReceive
  obtain ⟨pool, hStore, hResult⟩ := Option.map_eq_some_iff.mp hReceive
  obtain ⟨hReady, hDropping⟩ := BufferPool.allocated_store hConsistent hStore
  obtain ⟨_, _, hCalls, _⟩ := BufferPool.storePayload_frame hStore
  obtain ⟨hPool, hType, hParent, _⟩ := EigerFrameDecoder.finish_frame last
    ({ d.allocateNextFrameBuffer with pool := pool }.setDataSize part.length)
  rw [hResult] at hPool hType hParent
  refine ⟨emitted_none ?_ ?_, fun hMore => ?_⟩
  · rw [hAt]
    rfl
  · show d'.pool.readyCalls = []
    rw [hPool]
    exact hCalls.trans (d.pool.allocate_frame.1.trans hTaken)
  · subst hMore
    have hCount := image_counter
      (e := { d.allocateNextFrameBuffer with pool := pool }.setDataSize part.length)
      h.parent h.counter
    have hSize : d'.currentHeader.dataSize = toUInt32 part.length := by
      rw [← hResult]
      rfl
    rw [hResult] at hCount
    refine ⟨by simp, by simp; omega, hParent.trans h.parent, hType.trans h.type, ?_,
      fun hNot => ?_, fun _ blob hBlob => ?_⟩
    · rw [hCount, List.length_append, List.length_singleton]
    · rw [List.length_append, List.length_singleton] at hNot
      omega
    · have hThis : blob = arrivalOf d d' part := by
        have hNumber := numbered_concat arrivals (arrivalOf d d' part)
        rw [hAt] at hNumber
        exact (Option.some.inj (hNumber.symm.trans hBlob)).symm
      rw [hThis, hPool]
      refine ⟨fun hNone => hDropping (of_decide_eq_false hNone), fun hFree => ?_⟩
      obtain ⟨hNow, hLoad⟩ := hReady (of_decide_eq_true hFree)
      exact ⟨hNow, hLoad, hSize⟩

/-- What the times of an image do. -/
theorem InImage.next_times (h : InImage d arrivals) (hAt : arrivals.length = 3)
    (hTaken : d.pool.readyCalls = []) (frame series : Int) (hash : Bytes) (acqID : Option Bytes)
    (hReceive : d.receivePart parse part last = some d') :
    EmitsDue parse (.image frame series hash acqID) arrivals (arrivalOf d d' part) ∧
      d'.pool.currentFrameBufferId = -1 ∧
      (last = false → InImage d' (arrivals ++ [arrivalOf d d' part])) := by
  have hCounter : d.currentMessagePart = imageDataTimePart := by
    rw [h.counter, hAt]
    rfl
  rw [EigerFrameDecoder.image_times hCounter h.parent h.type] at hReceive
  obtain ⟨header, hRead, hRest⟩ := Option.bind_eq_some_iff.mp hReceive
  obtain ⟨e, hSend, hResult⟩ := Option.map_eq_some_iff.mp hRest
  obtain ⟨hSent, hPart, hSame, hParent, _⟩ := EigerFrameDecoder.sendBuffer_pool hSend
  obtain ⟨hPool, hType, hParent', _⟩ := EigerFrameDecoder.finish_frame last e
  rw [hResult] at hPool hType hParent'
  obtain ⟨blob, hBlob⟩ : ∃ blob, numbered arrivals 3 = some blob :=
    ⟨arrivals[2], List.getElem?_eq_getElem (by omega)⟩
  obtain ⟨hDropping, hReady⟩ := h.blob hAt blob hBlob
  have hAllocator : numbered (arrivals ++ [arrivalOf d d' part]) 3 = some blob := by
    rw [numbered_append (by omega) (by omega), hBlob]
  have hSilent : blob.available = false →
      e.pool.currentFrameBufferId = -1 ∧ e.pool.readyCalls = [] :=
    fun hNone => (hDropping hNone).sent hTaken hSent
  have hEntry : ((FirstPart.image frame series hash acqID).entries.filter
      fun e => e.sentAt = arrivals.length + 1) = [⟨.imageData, 3, 4, some 3, none⟩] := by
    rw [hAt]
    rfl
  have hIdle : d'.pool.currentFrameBufferId = -1 := by
    rw [hPool]
    cases hAvailable : blob.available with
    | false => exact (hSilent hAvailable).1
    | true => exact ((hReady hAvailable).1.sent hTaken hSent).1
  refine ⟨emitted_one hEntry hAllocator (fun hNone => ?_) fun hFree => ?_, hIdle, fun hMore => ?_⟩
  · show d'.pool.readyCalls = []
    rw [hPool]
    exact (hSilent hNone).2
  · obtain ⟨hNow, hLoad, hSize⟩ := hReady hFree
    obtain ⟨_, call, hCalls, _, hHeader, hPayload⟩ := hNow.sent hTaken hSent
    refine ⟨call, ?_, ?_, fun n hn text hText => ?_, nofun⟩
    · show d'.pool.readyCalls = [call]
      rw [hPool, hCalls]
    · rw [hHeader]
      exact h.type
    · cases hn
      have hText : text = blob.part := by
        rw [numbered_map, hAllocator] at hText
        exact (Option.some.inj hText).symm
      rw [hText, hPayload, hHeader]
      refine ⟨hLoad, fun hShort => ?_⟩
      obtain ⟨_, _, _, rfl⟩ := readTimes_some hRead
      exact hSize.trans (toUInt32_natCast hShort)
  · subst hMore
    have hCount := image_counter (hParent.trans h.parent) (hPart.trans h.counter)
    rw [hResult] at hCount
    refine ⟨by simp, by simp; omega, hParent'.trans (hParent.trans h.parent),
      hType.trans (hSame.trans h.type), ?_, fun _ => hIdle, fun hThree => ?_⟩
    · rw [hCount, List.length_append, List.length_singleton]
    · rw [List.length_append, List.length_singleton] at hThree
      omega

/-- What the appendix of an image does. -/
theorem InImage.next_appendix (h : InImage d arrivals) (hAt : arrivals.length = 4)
    (hConsistent : d.pool.Consistent) (hTaken : d.pool.readyCalls = []) (frame series : Int)
    (hash : Bytes) (acqID : Option Bytes)
    (hReceive : d.receivePart parse part last = some d') :
    EmitsDue parse (.image frame series hash acqID) arrivals (arrivalOf d d' part) ∧
      d'.pool.currentFrameBufferId = -1 := by
  have hCounter : d.currentMessagePart = imageDataAppendixPart := by
    rw [h.counter, hAt]
    rfl
  obtain ⟨e, rfl, hSent⟩ := (EigerFrameDecoder.imageAppendix_goesOut hCounter h.parent
    h.type).sent hConsistent hTaken hReceive
  obtain ⟨hPool, _⟩ := EigerFrameDecoder.finish_frame last e
  have hEntry : ((FirstPart.image frame series hash acqID).entries.filter
      fun e => e.sentAt = arrivals.length + 1) =
      [⟨.imageAppendix, arrivals.length + 1, arrivals.length + 1, some (arrivals.length + 1),
        none⟩] := by
    rw [hAt]
    rfl
  refine ⟨hSent.emits hPool hEntry nofun, ?_⟩
  rw [hPool]
  exact hSent.idle

/-- What a part of an image after the first does. -/
theorem InImage.next (h : InImage d arrivals) (hConsistent : d.pool.Consistent)
    (hTaken : d.pool.readyCalls = []) (frame series : Int) (hash : Bytes) (acqID : Option Bytes)
    (hReceive : d.receivePart parse part last = some d') :
    EmitsDue parse (.image frame series hash acqID) arrivals (arrivalOf d d' part) ∧
      (arrivals.length + 1 ≠ 3 → d'.pool.currentFrameBufferId = -1) ∧
      (last = false → arrivals.length + 1 ≤ 4 →
        InImage d' (arrivals ++ [arrivalOf d d' part])) := by
  have hSome : 1 ≤ arrivals.length := List.length_pos_iff.mpr h.started
  have hFew := h.few
  have hAt : arrivals.length = 1 ∨ arrivals.length = 2 ∨ arrivals.length = 3 ∨
      arrivals.length = 4 := by omega
  rcases hAt with hAt | hAt | hAt | hAt
  · obtain ⟨hEmits, hIdle, hNext⟩ := h.next_imaged hAt hTaken frame series hash acqID hReceive
    exact ⟨hEmits, fun _ => hIdle, fun hMore _ => hNext hMore⟩
  · obtain ⟨hEmits, hNext⟩ := h.next_blob hAt hConsistent hTaken frame series hash acqID hReceive
    exact ⟨hEmits, fun hNot => absurd (by omega) hNot, fun hMore _ => hNext hMore⟩
  · obtain ⟨hEmits, hIdle, hNext⟩ := h.next_times hAt hTaken frame series hash acqID hReceive
    exact ⟨hEmits, fun _ => hIdle, fun hMore _ => hNext hMore⟩
  · obtain ⟨hEmits, hIdle⟩ :=
      h.next_appendix hAt hConsistent hTaken frame series hash acqID hReceive
    exact ⟨hEmits, fun _ => hIdle, fun _ hLong => by omega⟩

end Images

/-- Where the decoder stands inside a message the fan can emit. -/
def Stage (parse : Parser) (d : EigerFrameDecoder) (arrivals : List Arrival) : FirstPart → Prop
  | .unreadable => False
  | .unknown => False
  | .header _ detail _ => ∃ expected, ExpectedParts detail expected ∧
      InHeader parse d (arrivals.map Arrival.part) expected
  | .image .. => InImage d arrivals
  | .endOfSeries .. => False

section Starts

variable {parse : Parser} {d d' e : EigerFrameDecoder} {part : Bytes} {last : Bool} {n : Nat}

/-- A header that goes out alone is what the buffer of its entry carries. -/
theorem SentAlone.emits {kind : FirstPart} {type : EigerMessageType} (h : SentAlone d e type)
    {d₀ : EigerFrameDecoder} (hBefore : d₀.pool = d.pool) (hPool : d'.pool = e.pool)
    (hAt : (kind.entries.filter fun e => e.sentAt = ([] : List Arrival).length + 1) =
      [⟨type, 1, 1, none, none⟩]) : EmitsDue parse kind [] (arrivalOf d₀ d' part) := by
  refine emitted_one hAt rfl (fun hNone => ?_) fun hFree => ?_
  · show d'.pool.readyCalls = []
    rw [hPool]
    refine h.silent ?_
    rw [← hBefore]
    exact of_decide_eq_false hNone
  · have hAvailable : d.pool.Available := by
      rw [← hBefore]
      exact of_decide_eq_true hFree
    obtain ⟨call, hCalls, _, hHeader⟩ := h.call hAvailable
    refine ⟨call, ?_, ?_, nofun, nofun⟩
    · show d'.pool.readyCalls = [call]
      rw [hPool, hCalls]
    · rw [hHeader]

/-- The decoder right before it decides how many parts a global header has. -/
def headerRead (series : Int) (d : EigerFrameDecoder) : EigerFrameDecoder :=
  { d with currentParentMessageType := .global, framesAllocated := 0 }.setSeries series

theorem expectHeaderParts_none (hPart : d.currentMessagePart = 1) :
    d.expectHeaderParts parse headerDetailNone n =
      { d with currentMessageType := .globalHeaderNone }.allocateNextFrameBuffer.sendBuffer.map
        fun sent : EigerFrameDecoder =>
          { sent with numHeaderMessagesToExpect := globalDetectorNonePart } := by
  have hFirst : d.currentMessagePart = globalDetectorNonePart := hPart
  rw [EigerFrameDecoder.expectHeaderParts, if_pos rfl,
    EigerFrameDecoder.processGlobalHeaderMessage, if_pos hFirst]

/-- A header without detail is sent at once. -/
theorem start_none (hPart : d.currentMessagePart = 1) (hConsistent : d.pool.Consistent)
    (hTaken : d.pool.readyCalls = []) {series : Int} {acqID : Option Bytes}
    (h : d.start parse n (.header series headerDetailNone acqID) = some e) :
    ∃ sent, SentAlone { headerRead series d with currentMessageType := .globalHeaderNone } sent
        .globalHeaderNone ∧
      e = { sent with numHeaderMessagesToExpect := globalDetectorNonePart }.keepAcquisitionID
        acqID := by
  obtain ⟨expecting, hExpect, rfl⟩ := Option.map_eq_some_iff.mp h
  have hExpect : (headerRead series d).expectHeaderParts parse headerDetailNone n =
    some expecting := hExpect
  rw [expectHeaderParts_none (d := headerRead series d) hPart] at hExpect
  obtain ⟨sent, hSent, rfl⟩ := Option.map_eq_some_iff.mp hExpect
  exact ⟨sent, EigerFrameDecoder.sent_alone rfl hConsistent hTaken hSent, rfl⟩

/-- A header with detail announces the part with the configuration. -/
theorem start_detailed {detail : Bytes} {expected : Nat} (hDetail : ExpectedParts detail expected)
    (hMore : expected ≠ 1) {series : Int} {acqID : Option Bytes}
    (h : d.start parse n (.header series detail acqID) = some e) :
    e = { headerRead series d with
      currentMessageType := .globalHeaderConfig
      numHeaderMessagesToExpect := expected }.keepAcquisitionID acqID := by
  obtain ⟨expecting, hExpect, rfl⟩ := Option.map_eq_some_iff.mp h
  rw [EigerFrameDecoder.expectHeaderParts] at hExpect
  rcases hDetail with ⟨_, hOne⟩ | ⟨rfl, rfl⟩ | ⟨rfl, rfl⟩
  · exact absurd hOne hMore
  · rw [if_neg headerDetails_distinct.1.symm, if_pos rfl] at hExpect
    cases hExpect
    rfl
  · rw [if_neg headerDetails_distinct.2.1.symm, if_neg headerDetails_distinct.2.2.symm] at hExpect
    cases hExpect
    rfl

/-- The stage after the first part of a global header. -/
theorem inHeader_first {detail : Bytes} {expected : Nat} (hDetail : ExpectedParts detail expected)
    (hPart : e.currentMessagePart = 1) (hParent : e.currentParentMessageType = .global)
    (hExpects : e.numHeaderMessagesToExpect = expected) (hPlain : Plain e.currentMessageType)
    (hConfig : expected ≠ 1 → e.currentMessageType = .globalHeaderConfig)
    (hIdle : e.pool.currentFrameBufferId = -1) :
    InHeader parse (e.advance.frameMetaData false) [part] expected := by
  obtain ⟨hPool, hType, hParent', hExpects'⟩ := EigerFrameDecoder.finish_frame false e
  have hCount := header_counter (n := 1) hExpects hParent hPart
  have hSome : 1 ≤ expected := by
    rcases hDetail with ⟨_, rfl⟩ | ⟨_, rfl⟩ | ⟨_, rfl⟩ <;> decide
  refine ⟨List.cons_ne_nil _ _, hSome, hExpects'.trans hExpects, hParent'.trans hParent, ?_,
    hCount, ?_, ?_, ?_⟩
  · rw [hType]
    exact hPlain
  · rw [hCount, hType]
    split
    · exact nofun
    · rw [hConfig (by omega)]
      rintro _ ⟨⟩
      rfl
  · rw [hPool]
    exact hIdle
  · rw [hCount]
    split
    · exact fun hHeader => absurd rfl hHeader
    · exact fun hHeader => absurd rfl hHeader

/-- What the first part of a global header does. -/
theorem header_first (hPart : d.currentMessagePart = 1) (hConsistent : d.pool.Consistent)
    (hTaken : d.pool.readyCalls = []) (hIdle : d.pool.currentFrameBufferId = -1)
    {series : Int} {detail : Bytes} {acqID : Option Bytes} {expected : Nat}
    (hDetail : ExpectedParts detail expected)
    (h : (d.parsed parse part).start parse n (.header series detail acqID) = some e) :
    EmitsDue parse (.header series detail acqID) []
        (arrivalOf d (e.advance.frameMetaData last) part) ∧
      e.pool.currentFrameBufferId = -1 ∧
      (last = false → InHeader parse (e.advance.frameMetaData last) [part] expected) := by
  have hNoDetail : Plain .globalHeaderNone := ⟨by decide, by decide⟩
  have hConfig : Plain .globalHeaderConfig := ⟨by decide, by decide⟩
  obtain ⟨hPool, _⟩ := EigerFrameDecoder.finish_frame last e
  by_cases hOne : expected = 1
  · have hNone : detail = headerDetailNone := by
      rcases hDetail with ⟨rfl, _⟩ | ⟨_, hTwo⟩ | ⟨_, hEight⟩
      · rfl
      · omega
      · omega
    subst hNone
    subst hOne
    obtain ⟨sent, hSent, rfl⟩ := start_none (d := d.parsed parse part) hPart hConsistent hTaken h
    obtain ⟨hPool', hPart', hParent', hType', _⟩ := EigerFrameDecoder.keepAcquisitionID_frame acqID
      { sent with numHeaderMessagesToExpect := globalDetectorNonePart }
    have hIdle' := hPool'.symm ▸ hSent.idle
    have hAt : ((FirstPart.header series headerDetailNone acqID).entries.filter
        fun e => e.sentAt = ([] : List Arrival).length + 1) =
        [⟨.globalHeaderNone, 1, 1, none, none⟩] := by
      rw [entries_none]
      rfl
    refine ⟨hSent.emits rfl (hPool.trans hPool') hAt, hIdle', fun hMore => ?_⟩
    subst hMore
    have hExpects : ({ sent with numHeaderMessagesToExpect := globalDetectorNonePart
        }.keepAcquisitionID acqID).numHeaderMessagesToExpect = ((1 : Nat) : Int) := by
      cases acqID <;> rfl
    refine inHeader_first hDetail (hPart'.trans (hSent.counter.trans hPart))
      (hParent'.trans hSent.parent) hExpects ?_ (fun hNot => absurd rfl hNot) hIdle'
    rw [hType']
    show Plain sent.currentMessageType
    rw [hSent.sent]
    exact hNoDetail
  · have hStart := start_detailed hDetail hOne h
    obtain ⟨hPool', hPart', hParent', hType', _⟩ := EigerFrameDecoder.keepAcquisitionID_frame acqID
      { headerRead series (d.parsed parse part) with
        currentMessageType := .globalHeaderConfig
        numHeaderMessagesToExpect := (expected : Int) }
    rw [← hStart] at hPool' hPart' hParent' hType'
    have hIdle' : e.pool.currentFrameBufferId = -1 := hPool'.symm ▸ hIdle
    refine ⟨emitted_none ?_ ?_, hIdle', fun hMore => ?_⟩
    · rcases hDetail with ⟨_, hBad⟩ | ⟨rfl, rfl⟩ | ⟨rfl, rfl⟩
      · exact absurd hBad hOne
      · rw [entries_basic]
        rfl
      · rw [entries_all]
        rfl
    · show (e.advance.frameMetaData last).pool.readyCalls = []
      rw [hPool, hPool']
      exact hTaken
    · subst hMore
      have hExpects : e.numHeaderMessagesToExpect = expected := by
        rw [hStart]
        cases acqID <;> rfl
      refine inHeader_first hDetail (hPart'.trans hPart) hParent' hExpects ?_ (fun _ => hType')
        hIdle'
      rw [hType']
      exact hConfig

/-- What the first part of a message the fan can emit does. -/
theorem stage_first (hPart : d.currentMessagePart = 1) (hConsistent : d.pool.Consistent)
    (hTaken : d.pool.readyCalls = []) (hIdle : d.pool.currentFrameBufferId = -1)
    {kind : FirstPart} (hRead : readFirstPart parse part = some kind) {count : Nat}
    (hEmits : kind.Emits count) (hLast : last = false → 1 < count)
    (hReceive : d.receivePart parse part last = some d') :
    EmitsDue parse kind [] (arrivalOf d d' part) ∧ d'.pool.currentFrameBufferId = -1 ∧
      (last = false → Stage parse d' [arrivalOf d d' part] kind) := by
  rw [EigerFrameDecoder.receivePart_first parse hPart, hRead, Option.bind_some] at hReceive
  obtain ⟨e, hStart, rfl⟩ := Option.map_eq_some_iff.mp hReceive
  obtain ⟨hPool, hType, hParent, _⟩ := EigerFrameDecoder.finish_frame last e
  cases kind with
  | unreadable => exact hEmits.elim
  | unknown => exact hEmits.elim
  | header series detail acqID =>
      obtain ⟨expected, hDetail⟩ : ∃ expected, ExpectedParts detail expected := by
        rcases hEmits with ⟨hNone, _⟩ | ⟨hBasic, _⟩ | ⟨hAll, _⟩
        · exact ⟨1, .inl ⟨hNone, rfl⟩⟩
        · exact ⟨2, .inr (.inl ⟨hBasic, rfl⟩)⟩
        · exact ⟨8, .inr (.inr ⟨hAll, rfl⟩)⟩
      obtain ⟨hDue, hFree, hNext⟩ : EmitsDue parse (.header series detail acqID) []
          (arrivalOf d (e.advance.frameMetaData last) part) ∧ _ ∧ _ :=
        header_first hPart hConsistent hTaken hIdle hDetail hStart
      rw [hPool]
      exact ⟨hDue, hFree, fun hMore => ⟨expected, hDetail, hNext hMore⟩⟩
  | image frame series hash acqID =>
      have hKept : e = ((d.parsed parse part).imageStarted frame series hash).keepAcquisitionID
          acqID := (Option.some.inj hStart).symm
      obtain ⟨hPool', hPart', hParent', hType', _⟩ :=
        EigerFrameDecoder.keepAcquisitionID_frame acqID
          ((d.parsed parse part).imageStarted frame series hash)
      rw [← hKept] at hPool' hPart' hParent' hType'
      refine ⟨emitted_none rfl ?_, ?_, fun hMore => ?_⟩
      · show (e.advance.frameMetaData last).pool.readyCalls = []
        rw [hPool, hPool']
        exact hTaken
      · rw [hPool, hPool']
        exact hIdle
      · subst hMore
        refine ⟨List.cons_ne_nil _ _, by simp, hParent.trans hParent', hType.trans hType', ?_,
          fun _ => ?_, fun hThree => by cases hThree⟩
        · exact image_counter hParent' (n := 1) (hPart'.trans hPart)
        · rw [hPool, hPool']
          exact hIdle
  | endOfSeries series acqID =>
      have hSent := EigerFrameDecoder.sent_alone (d := (d.parsed parse part).seriesEnded series
        acqID) rfl hConsistent hTaken hStart
      refine ⟨hSent.emits rfl hPool rfl, ?_, fun hMore => ?_⟩
      · rw [hPool]
        exact hSent.idle
      · have hOne : count = 1 := hEmits
        exact absurd (hLast hMore) (by omega)

end Starts

/-- What holds in every state of a run over messages the fan can emit. -/
structure Emitting (parse : Parser) (r : Receiver) : Prop where
  boundary : r.complete = true → r.decoder.pool.currentFrameBufferId = -1
  stage : r.complete = false → ∃ kind, r.parts.head?.bind (readFirstPart parse) = some kind ∧
    Stage parse r.decoder r.arrivals kind
  emitted : Emitted parse r

section Runs

variable {parse : Parser} {ids : List Nat} {r r' : Receiver}

/-- The queue of free buffers and the calls made so far are of no account. -/
theorem Stage.of_pool {d : EigerFrameDecoder} {arrivals : List Arrival} {kind : FirstPart}
    (h : Stage parse d arrivals kind) (queue : List Int) (calls : List ReadyCall) :
    Stage parse { d with pool := { d.pool with
      emptyBufferQueue := queue, readyCalls := calls } } arrivals kind := by
  cases kind with
  | unreadable => exact h
  | unknown => exact h
  | header series detail acqID =>
      obtain ⟨expected, hDetail, h⟩ := h
      exact ⟨expected, hDetail, h.started, h.few, h.expects, h.parent, h.plain, h.counter,
        h.announced, h.idle, h.described⟩
  | image frame series hash acqID =>
      refine ⟨h.started, h.few, h.parent, h.type, h.counter, h.idle, fun hAt blob hBlob => ?_⟩
      obtain ⟨hDropping, hReady⟩ := h.blob hAt blob hBlob
      refine ⟨fun hNone => ?_, fun hFree => ?_⟩
      · exact ⟨(hDropping hNone).1, (hDropping hNone).2, (hDropping hNone).3⟩
      · obtain ⟨hNow, hLoad⟩ := hReady hFree
        exact ⟨⟨hNow.1, hNow.2⟩, hLoad⟩
  | endOfSeries series acqID => exact h

theorem emits_header_le {series : Int} {detail : Bytes} {acqID : Option Bytes}
    {expected count : Nat} (hDetail : ExpectedParts detail expected)
    (h : (FirstPart.header series detail acqID).Emits count) : count ≤ expected + 1 := by
  obtain ⟨hBasic, hAll, hDistinct⟩ := headerDetails_distinct
  rcases hDetail with ⟨rfl, rfl⟩ | ⟨rfl, rfl⟩ | ⟨rfl, rfl⟩
  · rcases h with ⟨_, hCount⟩ | ⟨hNo, _⟩ | ⟨hNo, _⟩
    · omega
    · exact absurd hNo hBasic
    · exact absurd hNo hAll
  · rcases h with ⟨hNo, _⟩ | ⟨_, hCount⟩ | ⟨hNo, _⟩
    · exact absurd hNo.symm hBasic
    · omega
    · exact absurd hNo hDistinct
  · rcases h with ⟨hNo, _⟩ | ⟨hNo, _⟩ | ⟨_, hCount⟩
    · exact absurd hNo.symm hAll
    · exact absurd hNo.symm hDistinct
    · omega

theorem emitted_received {kind : FirstPart} {part : Bytes} {last : Bool}
    {later : List (List Bytes)} {d' : EigerFrameDecoder}
    (hKind : (r.received part last later d').parts.head?.bind (readFirstPart parse) = some kind)
    (hOld : List.Forall₂ (Carries parse (r.earlier.map Arrival.part))
      (kind.entries.filter fun e => e.due r.earlier) (r.earlier.flatMap Arrival.calls))
    (hNew : EmitsDue parse kind r.earlier (arrivalOf r.decoder d' part)) :
    Emitted parse (r.received part last later d') := by
  intro other hOther
  cases hKind.symm.trans hOther
  have hAll := emitted_concat hOld hNew
  have hCalls : (r.received part last later d').calls =
      r.earlier.flatMap Arrival.calls ++ (arrivalOf r.decoder d' part).calls := by
    rw [Receiver.calls, Receiver.received, List.flatMap_append]
    simp [arrivalOf]
  rw [hCalls]
  exact hAll

/-- What the first part of a message preserves. -/
theorem Emitting.first (h : Emitting parse r) (hSound : Sound parse ids r)
    (hComplete : r.complete = true) {part : Bytes} {last : Bool} {later : List (List Bytes)}
    {more : List Bytes} {d' : EigerFrameDecoder} (hMessage : Emittable parse (part :: more))
    (hLast : last = false → more ≠ [])
    (hReceive : r.decoder.receivePart parse part last = some d') :
    Emitting parse (r.received part last later d') := by
  obtain ⟨kind, hRead, hEmits⟩ := hMessage
  have hCount : last = false → 1 < (part :: more).length := fun hOpen => by
    have hSome := List.length_pos_iff.mpr (hLast hOpen)
    rw [List.length_cons]
    omega
  obtain ⟨hDue, hIdle, hStage⟩ := stage_first (hSound.boundary hComplete)
    hSound.owned.consistent hSound.taken (h.boundary hComplete) hRead hEmits hCount hReceive
  have hEarlier : r.earlier = [] := if_pos hComplete
  have hKind : (r.received part last later d').parts.head?.bind (readFirstPart parse) =
      some kind := by
    rw [Receiver.received_parts, hEarlier]
    exact hRead
  refine ⟨fun _ => hIdle, fun hOpen => ⟨kind, hKind, ?_⟩, emitted_received hKind ?_ ?_⟩
  · have hArrivals : (r.received part last later d').arrivals =
        [arrivalOf r.decoder d' part] := by
      rw [Receiver.received, hEarlier]
      rfl
    rw [hArrivals]
    exact (hStage hOpen).of_pool d'.pool.emptyBufferQueue []
  · rw [hEarlier]
    have hNone : (kind.entries.filter fun e => e.due []) = [] :=
      List.filter_eq_nil_iff.mpr fun e _ => by simp [Entry.due, numbered]
    rw [hNone]
    exact .nil
  · rw [hEarlier]
    exact hDue

/-- What a later part of a message preserves. -/
theorem Emitting.later (h : Emitting parse r) (hSound : Sound parse ids r)
    (hOpen : r.complete = false) {part : Bytes} {last : Bool} {later : List (List Bytes)}
    {more : List Bytes} {d' : EigerFrameDecoder}
    (hMessage : Emittable parse (r.parts ++ part :: more))
    (hLast : (last = true ∧ more = []) ∨ (last = false ∧ more ≠ []))
    (hReceive : r.decoder.receivePart parse part last = some d') :
    Emitting parse (r.received part last later d') := by
  obtain ⟨kind, hKind, hStage⟩ := h.stage hOpen
  have hConsistent := hSound.owned.consistent
  have hEarlier : r.earlier = r.arrivals := by
    rw [Receiver.earlier, hOpen]
    rfl
  have hHead : ∀ rest, (r.parts ++ rest).head?.bind (readFirstPart parse) = some kind := by
    intro rest
    obtain ⟨first, hFirst, hRead⟩ := Option.bind_eq_some_iff.mp hKind
    rw [List.head?_append, hFirst]
    exact hRead
  have hKind' : (r.received part last later d').parts.head?.bind (readFirstPart parse) =
      some kind := by
    rw [Receiver.received_parts, hEarlier]
    exact hHead [part]
  have hArrivals : (r.received part last later d').arrivals =
      r.arrivals ++ [arrivalOf r.decoder d' part] := by
    rw [Receiver.received, hEarlier]
    rfl
  have hOld := h.emitted kind hKind
  have hEmits : kind.Emits (r.arrivals.length + 1 + more.length) := by
    obtain ⟨other, hOther, hEmits⟩ := hMessage
    cases (hHead _).symm.trans hOther
    rw [List.length_append, List.length_cons, Receiver.parts, List.length_map] at hEmits
    rw [show r.arrivals.length + 1 + more.length = r.arrivals.length + (more.length + 1) by omega]
    exact hEmits
  have hMore : last = false → 1 ≤ more.length := fun hStill => by
    rcases hLast with ⟨hEnd, _⟩ | ⟨_, hSome⟩
    · rw [hStill] at hEnd
      cases hEnd
    · exact List.length_pos_iff.mpr hSome
  have hEnd : last = true → more.length = 0 := fun hOver => by
    rcases hLast with ⟨_, hNone⟩ | ⟨hStill, _⟩
    · rw [hNone]
      rfl
    · rw [hOver] at hStill
      cases hStill
  have hResult : EmitsDue parse kind r.arrivals (arrivalOf r.decoder d' part) ∧
      (last = true → d'.pool.currentFrameBufferId = -1) ∧
      (last = false → Stage parse d' (r.arrivals ++ [arrivalOf r.decoder d' part]) kind) := by
    cases kind with
    | unreadable => exact hStage.elim
    | unknown => exact hStage.elim
    | header series detail acqID =>
        obtain ⟨expected, hDetail, hInside⟩ := hStage
        have hLong := emits_header_le hDetail hEmits
        obtain ⟨hDue, hIdle, hNext⟩ :=
          hInside.next hDetail hConsistent hSound.taken series acqID hReceive
        refine ⟨hDue, fun _ => hIdle, fun hStill => ⟨expected, hDetail, hNext hStill ?_⟩⟩
        have hLeft := hMore hStill
        omega
    | image frame series hash acqID =>
        obtain ⟨hDue, hIdle, hNext⟩ :=
          InImage.next hStage hConsistent hSound.taken frame series hash acqID hReceive
        unfold FirstPart.Emits at hEmits
        refine ⟨hDue, fun hOver => hIdle ?_, fun hStill => hNext hStill ?_⟩
        · have hNoMore := hEnd hOver
          omega
        · have hLeft := hMore hStill
          omega
    | endOfSeries series acqID => exact hStage.elim
  obtain ⟨hDue, hIdle, hNext⟩ := hResult
  refine ⟨hIdle, fun hStill => ⟨kind, hKind', ?_⟩, emitted_received hKind' ?_ ?_⟩
  · rw [hArrivals]
    exact (hNext hStill).of_pool d'.pool.emptyBufferQueue []
  · rw [hEarlier]
    exact hOld
  · rw [hEarlier]
    exact hDue

/-- What a step preserves. -/
theorem Emitting.step {event : Event} (h : Emitting parse r) (hSound : Sound parse ids r)
    (hStream : ∀ message ∈ r.unfinished, Emittable parse message)
    (hStep : r.step parse event = some r') : Emitting parse r' := by
  cases event with
  | part =>
      obtain ⟨part, last, later, d', hNext, hReceive, rfl⟩ := Receiver.step_part hStep
      obtain ⟨more, rest, hUnfinished, hLast⟩ := Receiver.unfinished_next hNext d'
      have hLast : (last = true ∧ more = []) ∨ (last = false ∧ more ≠ []) := by
        rcases hLast with ⟨hEnd, hNone, _⟩ | ⟨hStill, hSome, _⟩
        · exact .inl ⟨hEnd, hNone⟩
        · exact .inr ⟨hStill, hSome⟩
      have hMessage := hStream _ (hUnfinished ▸ List.mem_cons_self)
      by_cases hComplete : r.complete = true
      · rw [Receiver.earlier, if_pos hComplete] at hMessage
        refine h.first hSound hComplete hMessage (fun hStill => ?_) hReceive
        rcases hLast with ⟨hEnd, _⟩ | ⟨_, hSome⟩
        · rw [hStill] at hEnd
          cases hEnd
        · exact hSome
      · rw [Receiver.earlier, if_neg hComplete] at hMessage
        exact h.later hSound (Bool.eq_false_iff.mpr hComplete) hMessage hLast hReceive
  | release id =>
      rw [Receiver.step] at hStep
      split at hStep
      · cases hStep
        refine ⟨h.boundary, fun hOpen => ?_, h.emitted⟩
        obtain ⟨kind, hKind, hStage⟩ := h.stage hOpen
        exact ⟨kind, hKind, hStage.of_pool (r.decoder.pool.emptyBufferQueue ++ [id])
          r.decoder.pool.readyCalls⟩
      · cases hStep

/-- In every run over messages the fan can emit, the calls for a message are for the
buffers that are due, in their order, and each carries what it is to carry. -/
theorem emitting_of_run (garbage : Uninitialised) (hIds : ids.Nodup)
    {messages : List (List Bytes)} (hMessages : ∀ message ∈ messages, Emittable parse message)
    {events : List Event}
    (hRun : Run (Receiver.step parse) always (.initial garbage ids messages) events r) :
    Emitting parse r ∧ Sound parse ids r ∧ ∀ message ∈ r.unfinished, Emittable parse message := by
  let inv (r : Receiver) : Prop := Emitting parse r ∧ Sound parse ids r ∧
    ∀ message ∈ r.unfinished, Emittable parse message
  have hInit : inv (.initial garbage ids messages) :=
    ⟨⟨fun _ => rfl, nofun, fun kind hKind => by cases hKind⟩, sound_initial garbage hIds messages,
      hMessages⟩
  refine hRun.invariant hInit ?_
  rintro s event t ⟨hEmitting, hSound, hStream⟩ _ hStep
  exact ⟨hEmitting.step hSound hStream hStep,
    hSound.step (guarded_of_emittable hStream event) hStep,
    fun message hMessage => hStream message (Receiver.unfinished_step hStep message hMessage)⟩

end Runs

/-- The JSON of a part can be read, whatever the header holds. -/
def ReadablePart (parse : Parser) (read : Value → FrameHeader → Option FrameHeader)
    (part : Bytes) : Prop :=
  ∃ doc, parse (cString part) = some doc ∧ ∀ h, (read doc h).isSome

/-- How the part of that number is read, if it is JSON. -/
def FirstPart.reader (n : Nat) : FirstPart → Option (Value → FrameHeader → Option FrameHeader)
  | header _ detail _ =>
      if detail = headerDetailAll ∧ headerPartType n ≠ none then some readDataHeader else none
  | image .. => if n = 2 then some readImaged else if n = 4 then some readTimes else none
  | _ => none

/-- No part of the message makes an assertion fail. -/
def Readable (parse : Parser) (message : List Bytes) : Prop :=
  ∀ kind, message.head?.bind (readFirstPart parse) = some kind →
    ∀ n, ∀ read ∈ kind.reader n, ∀ part ∈ numbered message n, ReadablePart parse read part

section Totality

variable {parse : Parser} {d : EigerFrameDecoder} {arrivals : List Arrival} {part : Bytes}
variable {last : Bool}

theorem documentAfter_readable {read : Value → FrameHeader → Option FrameHeader}
    (h : ReadablePart parse read part) :
    ∃ header, read (d.documentAfter parse part) d.currentHeader = some header := by
  obtain ⟨doc, hDoc, hRead⟩ := h
  rw [EigerFrameDecoder.documentAfter, hDoc]
  exact Option.isSome_iff_exists.mp (hRead d.currentHeader)

theorem InHeader.total {expected : Nat} {detail : Bytes}
    (h : InHeader parse d (arrivals.map Arrival.part) expected)
    (hDetail : ExpectedParts detail expected) (hConsistent : d.pool.Consistent)
    {series : Int} {acqID : Option Bytes}
    (hReadable : ∀ read ∈ (FirstPart.header series detail acqID).reader (arrivals.length + 1),
      ReadablePart parse read part) : ∃ d', d.receivePart parse part last = some d' := by
  have hSome : 1 ≤ arrivals.length := by
    have hStarted := List.length_pos_iff.mpr h.started
    rwa [List.length_map] at hStarted
  have hCounter := h.counter
  rw [List.length_map] at hCounter
  by_cases hOver : expected < arrivals.length + 1
  · rw [if_pos hOver] at hCounter
    exact (EigerFrameDecoder.appendix_goesOut hCounter h.parent h.plain).total hConsistent
  · rw [if_neg hOver] at hCounter
    have hNotFirst : d.currentMessagePart ≠ 1 := by
      rw [hCounter]
      omega
    rcases header_part_cases hDetail (n := arrivals.length + 1) (by omega) (by omega) series acqID
      with ⟨type, described, hData, _⟩ | ⟨type, _, hHeader, _⟩
    · rw [← hCounter] at hData
      exact (EigerFrameDecoder.data_goesOut h.parent h.plain hData
        (h.announced type hData)).total hConsistent
    · have hAll : detail = headerDetailAll := by
        rcases hDetail with ⟨_, rfl⟩ | ⟨_, rfl⟩ | ⟨rfl, _⟩
        · omega
        · have hTwo : arrivals.length + 1 = 2 := by omega
          rw [hTwo] at hHeader
          cases hHeader
        · rfl
      have hReader : readDataHeader ∈
          (FirstPart.header series detail acqID).reader (arrivals.length + 1) := by
        rw [FirstPart.reader, if_pos ⟨hAll, by rw [hHeader]; exact nofun⟩]
        rfl
      obtain ⟨header, hRead⟩ := documentAfter_readable (d := d) (hReadable _ hReader)
      rw [← hCounter] at hHeader
      have hRaw : ¬ Allocates d.currentParentMessageType d.currentMessagePart := by
        rw [h.parent]
        exact not_allocates_of_header hHeader
      rw [EigerFrameDecoder.raw_part hNotFirst hRaw,
        EigerFrameDecoder.processLater_described parse (d := d.stored part) h.plain hHeader,
        EigerFrameDecoder.processDataHeader]
      have hStored : ({ d.stored part with currentMessageType := type }.parseRaw parse
          part.length).readHeader readDataHeader =
          some { ({ d with currentMessageType := type } : EigerFrameDecoder).parsed parse part with
            currentHeader := header } :=
        (EigerFrameDecoder.readHeader_stored (d := { d with currentMessageType := type })
          readDataHeader).trans (congrArg (Option.map _) hRead)
      rw [hStored]
      exact ⟨_, rfl⟩

theorem InImage.total (h : InImage d arrivals) (hConsistent : d.pool.Consistent)
    {frame series : Int} {hash : Bytes} {acqID : Option Bytes}
    (hReadable : ∀ read ∈ (FirstPart.image frame series hash acqID).reader (arrivals.length + 1),
      ReadablePart parse read part) : ∃ d', d.receivePart parse part last = some d' := by
  have hSome : 1 ≤ arrivals.length := List.length_pos_iff.mpr h.started
  have hFew := h.few
  have hCounter := h.counter
  have hAt : arrivals.length = 1 ∨ arrivals.length = 2 ∨ arrivals.length = 3 ∨
      arrivals.length = 4 := by omega
  rcases hAt with hAt | hAt | hAt | hAt
  · rw [hAt] at hCounter hReadable
    obtain ⟨header, hRead⟩ := documentAfter_readable (d := d) (hReadable readImaged rfl)
    rw [EigerFrameDecoder.image_imaged hCounter h.parent h.type, hRead]
    exact ⟨_, rfl⟩
  · rw [hAt] at hCounter
    obtain ⟨pool, hStore, _⟩ :=
      BufferPool.storePayload_total (BufferPool.allocate_usable hConsistent) part
    rw [EigerFrameDecoder.image_blob hCounter h.parent h.type, hStore]
    exact ⟨_, rfl⟩
  · rw [hAt] at hReadable
    obtain ⟨header, hRead⟩ := documentAfter_readable (d := d) (hReadable readTimes rfl)
    have hBlob : numbered arrivals 3 = some arrivals[2] := List.getElem?_eq_getElem (by omega)
    obtain ⟨hDropping, hReady⟩ := h.blob hAt _ hBlob
    have hUsable : d.pool.Ready ∨ d.pool.Dropping := by
      cases hAvailable : arrivals[2].available with
      | false => exact .inr (hDropping hAvailable)
      | true => exact .inl (hReady hAvailable).1
    obtain ⟨e, hSend⟩ := EigerFrameDecoder.sendBuffer_total
      (d := { d.parsed parse part with currentHeader := header }) hUsable
    rw [hAt] at hCounter
    rw [EigerFrameDecoder.image_times hCounter h.parent h.type, hRead, Option.bind_some, hSend]
    exact ⟨_, rfl⟩
  · rw [hAt] at hCounter
    exact (EigerFrameDecoder.imageAppendix_goesOut hCounter h.parent h.type).total hConsistent

/-- A first part that can be read is always processed. -/
theorem first_total (hPart : d.currentMessagePart = 1) (hConsistent : d.pool.Consistent)
    {kind : FirstPart} (hRead : readFirstPart parse part = some kind) {count : Nat}
    (hEmits : kind.Emits count) : ∃ d', d.receivePart parse part last = some d' := by
  have hUsable := BufferPool.allocate_usable hConsistent
  have hStart : ∃ e, (d.parsed parse part).start parse part.length kind = some e := by
    cases kind with
    | unreadable => exact hEmits.elim
    | unknown => exact hEmits.elim
    | header series detail acqID =>
        have hExpect : ∃ e, (headerRead series (d.parsed parse part)).expectHeaderParts parse detail
            part.length = some e := by
          by_cases hNone : detail = headerDetailNone
          · obtain ⟨e, hSend⟩ := EigerFrameDecoder.sendBuffer_total
              (d := { headerRead series (d.parsed parse part) with
                currentMessageType := .globalHeaderNone }.allocateNextFrameBuffer) hUsable
            rw [hNone, expectHeaderParts_none (d := headerRead series (d.parsed parse part)) hPart,
              hSend]
            exact ⟨_, rfl⟩
          · rw [EigerFrameDecoder.expectHeaderParts, if_neg hNone]
            split <;> exact ⟨_, rfl⟩
        obtain ⟨e, hExpect⟩ := hExpect
        exact ⟨e.keepAcquisitionID acqID, congrArg (Option.map _) hExpect⟩
    | image frame series hash acqID => exact ⟨_, rfl⟩
    | endOfSeries series acqID =>
        exact EigerFrameDecoder.sendBuffer_total
          (d := ((d.parsed parse part).seriesEnded series acqID).allocateNextFrameBuffer) hUsable
  obtain ⟨e, hStart⟩ := hStart
  rw [EigerFrameDecoder.receivePart_first parse hPart, hRead, Option.bind_some, hStart]
  exact ⟨_, rfl⟩

/-- Where messages can be read, the next part is processed. -/
theorem next_total {r : Receiver} {ids : List Nat} (hEmitting : Emitting parse r)
    (hSound : Sound parse ids r) (hEmits : ∀ message ∈ r.unfinished, Emittable parse message)
    (hReadable : ∀ message ∈ r.unfinished, Readable parse message)
    (hMore : (nextPart r.stream).isSome) : (r.step parse .part).isSome := by
  obtain ⟨⟨part, last, later⟩, hNext⟩ := Option.isSome_iff_exists.mp hMore
  obtain ⟨more, rest, hUnfinished, _⟩ := Receiver.unfinished_next hNext r.decoder
  have hMem : r.earlier.map Arrival.part ++ part :: more ∈ r.unfinished := by
    rw [hUnfinished]
    exact List.mem_cons_self
  obtain ⟨kind, hKind, hCount⟩ := hEmits _ hMem
  have hRead := hReadable _ hMem kind hKind
  have hConsistent := hSound.owned.consistent
  have hReceive : ∃ d', r.decoder.receivePart parse part last = some d' := by
    by_cases hComplete : r.complete = true
    · rw [Receiver.earlier, if_pos hComplete] at hKind
      exact first_total (hSound.boundary hComplete) hConsistent hKind hCount
    · obtain ⟨other, hOther, hStage⟩ := hEmitting.stage (Bool.eq_false_iff.mpr hComplete)
      rw [Receiver.earlier, if_neg hComplete] at hKind hRead
      have hSame : kind = other := by
        obtain ⟨first, hFirst, hReadFirst⟩ := Option.bind_eq_some_iff.mp hOther
        have hFirst : (r.arrivals.map Arrival.part).head? = some first := hFirst
        rw [List.head?_append, hFirst] at hKind
        exact Option.some.inj (hKind.symm.trans hReadFirst)
      subst hSame
      have hNumber : numbered (r.arrivals.map Arrival.part ++ part :: more)
          (r.arrivals.length + 1) = some part := by
        rw [numbered, Nat.add_sub_cancel, List.getElem?_append_right (by simp)]
        simp
      have hThis := fun read hReader => hRead (r.arrivals.length + 1) read hReader part hNumber
      cases kind with
      | unreadable => exact hStage.elim
      | unknown => exact hStage.elim
      | header series detail acqID =>
          obtain ⟨expected, hDetail, hInside⟩ := hStage
          exact hInside.total hDetail hConsistent hThis
      | image frame series hash acqID => exact InImage.total hStage hConsistent hThis
      | endOfSeries series acqID => exact hStage.elim
  obtain ⟨d', hReceive⟩ := hReceive
  rw [Receiver.step, hNext, Option.bind_some]
  simp only [hReceive]
  rfl

end Totality

/-- In every state of a run over messages the fan can emit, the calls for the message
at hand are exactly for its buffers that are due, in order, each with what it is to
carry; and the run goes on to the end of the stream if the messages can be read. -/
theorem calls_follow_entries {parse : Parser} (garbage : Uninitialised) {ids : List Nat}
    (hIds : ids.Nodup) {messages : List (List Bytes)}
    (hMessages : ∀ message ∈ messages, Emittable parse message) {events : List Event}
    {r : Receiver}
    (hRun : Run (Receiver.step parse) always (.initial garbage ids messages) events r) :
    Emitted parse r ∧ ((∀ message ∈ messages, Readable parse message) →
      (nextPart r.stream).isSome → (r.step parse .part).isSome) := by
  obtain ⟨hEmitting, hSound, hStream⟩ := emitting_of_run garbage hIds hMessages hRun
  refine ⟨hEmitting.emitted, fun hReadable => next_total hEmitting hSound hStream ?_⟩
  exact fun message hMessage =>
    hReadable message (Receiver.unfinished_of_run hRun message hMessage)

/-- A header of two parts and its appendix take both buffers; the image after it is
still received. -/
theorem header_with_appendix_sent :
    ∃ r, Run (Receiver.step sampleParser) always
        (.initial zeroed [0, 1] [[sampleHeader.1, [1, 2], [9]], imageMessage])
        [.part, .part, .part] r ∧
      r.calls.map (fun call => call.buffer.header.messageType) =
        [.globalHeaderConfig, .globalHeaderAppendix] ∧
      Emitted sampleParser r ∧ (r.step sampleParser .part).isSome := by
  have hExec : (exec (Receiver.step sampleParser)
      (.initial zeroed [0, 1] [[sampleHeader.1, [1, 2], [9]], imageMessage])
      [.part, .part, .part]).map (fun r =>
        (r.calls.map (fun call => call.buffer.header.messageType), (nextPart r.stream).isSome)) =
      some ([.globalHeaderConfig, .globalHeaderAppendix], true) := by decide +kernel
  obtain ⟨r, hRun, hEnd⟩ := Option.map_eq_some_iff.mp hExec
  obtain ⟨hCalls, hMore⟩ := Prod.mk.inj hEnd
  have hRun := run_always_iff.mpr hRun
  have hHeader : ([sampleHeader.1, [1, 2], [9]] : List Bytes).head?.bind
      (readFirstPart sampleParser) = some (.header 1 headerDetailBasic (some (bytes "a"))) :=
    sampleHeader_read
  have hImage : imageMessage.head?.bind (readFirstPart sampleParser) =
      some (.image 5 1 (bytes "ab") (some (bytes "a"))) := sampleImage_read
  have hMessages : ∀ message ∈ [[sampleHeader.1, [1, 2], [9]], imageMessage],
      Emittable sampleParser message ∧ Readable sampleParser message := by
    intro message hMessage
    rcases List.mem_cons.mp hMessage with rfl | hMessage
    · refine ⟨⟨_, hHeader, .inr (.inl ⟨rfl, .inr rfl⟩)⟩, fun kind hKind n read hReader => ?_⟩
      cases hHeader.symm.trans hKind
      rw [FirstPart.reader, if_neg fun hAll => headerDetails_distinct.2.2 hAll.1] at hReader
      cases hReader
    · cases List.mem_singleton.mp hMessage
      refine ⟨⟨_, hImage, .inl rfl⟩, fun kind hKind n read hReader part hPart => ?_⟩
      cases hImage.symm.trans hKind
      have hDocs : sampleParser (cString sampleImaged.1) = some sampleImaged.2 ∧
          sampleParser (cString sampleTimes.1) = some sampleTimes.2 := ⟨rfl, rfl⟩
      rw [FirstPart.reader] at hReader
      split at hReader
      · next hTwo =>
          cases hReader
          subst hTwo
          cases hPart
          exact ⟨_, hDocs.1, fun h => rfl⟩
      split at hReader
      · next hFour =>
          cases hReader
          subst hFour
          cases hPart
          exact ⟨_, hDocs.2, fun h => rfl⟩
      · cases hReader
  obtain ⟨hEmitted, hTotal⟩ := calls_follow_entries zeroed (by decide)
    (fun message hMessage => (hMessages message hMessage).1) hRun
  exact ⟨r, hRun, hCalls, hEmitted,
    hTotal (fun message hMessage => (hMessages message hMessage).2) hMore⟩

def fullHeader : Bytes × Value :=
  (bytes "\x7b\"htype\":\"dheader-1.0\",\"series\":1,\"header_detail\":\"all\",\"acqID\":\"a\"\x7d",
    .object [(headerTypeKey, .string globalHeaderType), (seriesKey, .int 1),
      (headerDetailKey, .string headerDetailAll), (acquisitionIDKey, .string (bytes "a"))])

/-- A description with three sizes, and a type of more than seven bytes. -/
def wideDescription : Bytes × Value :=
  (bytes "\x7b\"shape\":[3,2,4],\"type\":\"float32le\"\x7d",
    .object [(shapeKey, .array [.int 3, .int 2, .int 4]),
      (dataTypeKey, .string (bytes "float32le"))])

def wideParser : Parser := .ofTexts [fullHeader, wideDescription]

/-- The flatfield between its description and those of the other two arrays. -/
def wideMessage : List Bytes :=
  [fullHeader.1, [1], wideDescription.1, [2], wideDescription.1, [3], wideDescription.1, [4]]

/-- The header of the flatfield holds two of the three sizes and the first seven bytes of the
type. -/
theorem wide_description_cut :
    ∃ r call, Emittable wideParser wideMessage ∧
      Run (Receiver.step wideParser) always (.initial zeroed [0, 1, 2, 3] [wideMessage])
        (List.replicate 8 .part) r ∧ r.calls[1]? = some call ∧
      call.buffer.header.messageType = .globalHeaderFlatfield ∧
      (call.buffer.header.shapeSizeX, call.buffer.header.shapeSizeY,
        call.buffer.header.shapeSizeZ) = (3, 2, 0) ∧
      call.buffer.header.dataType.text = bytes "float32" := by
  have hExec : (exec (Receiver.step wideParser) (.initial zeroed [0, 1, 2, 3] [wideMessage])
      (List.replicate 8 .part)).map (fun r => r.calls[1]?.map fun call =>
        let h := call.buffer.header
        (h.messageType, (h.shapeSizeX, h.shapeSizeY, h.shapeSizeZ), h.dataType.text)) =
      some (some (.globalHeaderFlatfield, (3, 2, 0), bytes "float32")) := by decide +kernel
  have hRead : readFirstPart wideParser fullHeader.1 =
      some (.header 1 headerDetailAll (some (bytes "a"))) := by decide +kernel
  obtain ⟨r, hRun, hCalls⟩ := Option.map_eq_some_iff.mp hExec
  obtain ⟨call, hCall, hHeader⟩ := Option.map_eq_some_iff.mp hCalls
  obtain ⟨hType, hRest⟩ := Prod.mk.inj hHeader
  obtain ⟨hShape, hText⟩ := Prod.mk.inj hRest
  exact ⟨r, call, ⟨_, hRead, .inr (.inr ⟨rfl, .inl rfl⟩)⟩, run_always_iff.mpr hRun, hCall, hType,
    hShape, hText⟩

end Eiger.Decoder
