import EigerDetector.Decoder.Receiver

/-! Who has which buffer, over whole runs of the receiver. -/
namespace Eiger.Decoder

open CharArrays FixedWidth Rapidjson Lending Transition

namespace BufferPool

variable {p p' : BufferPool} {data : Bytes} {header : FrameHeader} {frameNumber : Int}

/-- A copied payload changes neither the ledger nor the flag. -/
theorem storePayload_frame (h : p.storePayload data = some p') :
    p'.currentFrameBufferId = p.currentFrameBufferId ∧
      p'.droppingFrameData = p.droppingFrameData ∧ p'.readyCalls = p.readyCalls ∧
      p'.emptyBufferQueue = p.emptyBufferQueue := by
  obtain ⟨buffer, _, rfl⟩ := Option.map_eq_some_iff.mp h
  unfold setFrameBuffer
  split <;> exact ⟨rfl, rfl, rfl, rfl⟩

theorem Writable.storePayload (h : p.Writable) (hStore : p.storePayload data = some p') :
    p'.Writable := by
  obtain ⟨hID, hFlag, _⟩ := storePayload_frame hStore
  rw [Writable, hID, hFlag]
  exact h

/-- A send makes a call unless data is dropped. -/
theorem send_calls (h : p.send header frameNumber = some p') :
    (p.droppingFrameData = true ∧ p' = p) ∨
      (p.droppingFrameData = false ∧ ∃ call, call.bufferId = p.currentFrameBufferId ∧
        call.buffer.header = header ∧ p'.readyCalls = p.readyCalls ++ [call]) := by
  rw [BufferPool.send] at h
  split at h
  · next hDropping => exact .inl ⟨hDropping, (Option.some.inj h).symm⟩
  · next hKept =>
      obtain ⟨buffer, _, rfl⟩ := Option.map_eq_some_iff.mp h
      exact .inr ⟨Bool.eq_false_iff.mpr hKept, _, rfl, rfl, rfl⟩

/-- Whether an allocation ends in dropping data. -/
theorem dropping_allocate_iff (h : p.Consistent) :
    p.allocate.droppingFrameData = true ↔ ¬ p.Available := by
  constructor
  · intro hDropping hAvailable
    exact not_dropping_of_ready (allocate_ready h hAvailable) hDropping
  · exact fun hNone => (allocate_dropping hNone).dropped

end BufferPool

/-- The types of a message that go with its parent type. -/
def Compatible (parent : EigerMessageParentType) (type : EigerMessageType) : Prop :=
  match parent with
  | .global => Plain type
  | .imageData => type ≠ .endOfStream
  | .endOfSeries => type = .endOfStream

/-- Where the decoder stands inside a message of a kind. -/
def Within (d : EigerFrameDecoder) (received : Nat) : FirstPart → Prop
  | .unreadable => True
  | .unknown => True
  | .header .. => d.currentParentMessageType = .global
  | .image .. => d.currentParentMessageType = .imageData ∧
      d.currentMessagePart = received + 1 ∧
      (received < 5 → d.currentMessageType = .imageData) ∧
      (d.currentMessagePart = imageDataTimePart → d.pool.Writable)
  | .endOfSeries .. => True

/-- What holds in every state of a run whose unwanted parts are harmless. -/
structure Sound (parse : Parser) (ids : List Nat) (r : Receiver) : Prop where
  owned : r.decoder.pool.Owned ids r.downstream
  taken : r.decoder.pool.readyCalls = []
  compatible : Compatible r.decoder.currentParentMessageType r.decoder.currentMessageType
  position : 1 ≤ r.decoder.currentMessagePart
  boundary : r.complete = true → r.decoder.currentMessagePart = 1
  within : r.complete = false → r.decoder.currentMessagePart ≠ 1 ∧
    ∃ kind, r.parts.head?.bind (readFirstPart parse) = some kind ∧
      Within r.decoder r.arrivals.length kind

namespace EigerFrameDecoder

variable {parse : Parser} {ids : List Nat} {downstream : List ReadyCall}
variable {d d' a e : EigerFrameDecoder} {part : Bytes} {last : Bool}

theorem finish_frame (last : Bool) (e : EigerFrameDecoder) :
    (e.advance.frameMetaData last).pool = e.pool ∧
      (e.advance.frameMetaData last).currentMessageType = e.currentMessageType ∧
      (e.advance.frameMetaData last).currentParentMessageType = e.currentParentMessageType ∧
      (e.advance.frameMetaData last).numHeaderMessagesToExpect =
        e.numHeaderMessagesToExpect := by
  cases last <;> exact ⟨rfl, rfl, rfl, rfl⟩

theorem finish_part_more (e : EigerFrameDecoder) :
    (e.advance.frameMetaData false).currentMessagePart =
      if e.currentParentMessageType = .global ∧
          e.currentMessagePart + 1 > e.numHeaderMessagesToExpect then globalAppendixPart
      else e.currentMessagePart + 1 := rfl

/-- Only a global header has parts the counter skips. -/
theorem finish_part_image (h : e.currentParentMessageType = .imageData) :
    (e.advance.frameMetaData false).currentMessagePart = e.currentMessagePart + 1 := by
  rw [finish_part_more, h]
  rfl

/-- The counter has moved on unless the message is over. -/
theorem finish_part (h : 1 ≤ e.currentMessagePart) (last : Bool) :
    1 ≤ (e.advance.frameMetaData last).currentMessagePart ∧
      (last = true → (e.advance.frameMetaData last).currentMessagePart = 1) ∧
      (last = false → (e.advance.frameMetaData last).currentMessagePart ≠ 1) := by
  cases last with
  | true => exact ⟨le_refl 1, fun _ => rfl, nofun⟩
  | false =>
      rw [finish_part_more]
      split
      · exact ⟨by decide, nofun, fun _ => by decide⟩
      · exact ⟨by omega, nofun, fun _ => by omega⟩

/-- A part after the first is accepted, processed, and the counter moves on. -/
theorem receivePart_later_some (hPart : d.currentMessagePart ≠ 1)
    (h : d.receivePart parse part last = some d') :
    ∃ a e, d.accept part = some a ∧ LaterEffect a e ∧ d' = e.advance.frameMetaData last := by
  rw [receivePart_later parse hPart] at h
  obtain ⟨a, hAccept, hProcess⟩ := Option.bind_eq_some_iff.mp h
  obtain ⟨e, hLater, rfl⟩ := Option.map_eq_some_iff.mp hProcess
  have hSame := (accept_control hAccept).1
  exact ⟨a, e, hAccept, processLater_effect (by rw [hSame]; exact hPart) hLater, rfl⟩

theorem receivePart_first_some (hPart : d.currentMessagePart = 1)
    (h : d.receivePart parse part last = some d') :
    ∃ kind e, readFirstPart parse part = some kind ∧ StartEffect (d.parsed parse part) e kind ∧
      d' = e.advance.frameMetaData last := by
  rw [receivePart_first parse hPart] at h
  obtain ⟨kind, hRead, hStart⟩ := Option.bind_eq_some_iff.mp h
  obtain ⟨e, hEffect, rfl⟩ := Option.map_eq_some_iff.mp hStart
  exact ⟨kind, e, hRead, start_effect hPart hEffect, rfl⟩

/-- Where an accepted part went. -/
theorem accept_pool (h : d.accept part = some a) :
    (Allocates d.currentParentMessageType d.currentMessagePart ∧
      d.pool.allocate.storePayload part = some a.pool) ∨
    (¬ Allocates d.currentParentMessageType d.currentMessagePart ∧ a.pool = d.pool) := by
  unfold accept at h
  split at h
  · next hAllocates =>
      obtain ⟨pool, hStore, rfl⟩ := Option.map_eq_some_iff.mp h
      exact .inl ⟨hAllocates, hStore⟩
  · next hRaw =>
      cases h
      exact .inr ⟨hRaw, rfl⟩

theorem accept_calls (hAccept : d.accept part = some a) :
    a.pool.readyCalls = d.pool.readyCalls := by
  rcases accept_pool hAccept with ⟨_, hStore⟩ | ⟨_, hSame⟩
  · obtain ⟨_, _, hCalls, _⟩ := BufferPool.storePayload_frame hStore
    exact hCalls.trans d.pool.allocate_frame.1
  · rw [hSame]

theorem accept_owned (h : d.pool.Owned ids downstream) (hAccept : d.accept part = some a) :
    a.pool.Owned ids downstream := by
  rcases accept_pool hAccept with ⟨_, hStore⟩ | ⟨_, hSame⟩
  · exact h.allocate.storePayload h.writable_allocate hStore
  · rw [hSame]
    exact h

/-- After a part for a frame buffer there is a buffer to write to. -/
theorem accept_writable (h : d.pool.Owned ids downstream) (hAccept : d.accept part = some a)
    (hAllocates : Allocates d.currentParentMessageType d.currentMessagePart) :
    a.pool.Writable := by
  rcases accept_pool hAccept with ⟨_, hStore⟩ | ⟨hRaw, _⟩
  · exact h.writable_allocate.storePayload hStore
  · exact absurd hAllocates hRaw

/-- The flag after a part was accepted. -/
theorem accept_dropping (h : d.pool.Consistent) (hAccept : d.accept part = some a) :
    a.pool.droppingFrameData = true ↔
      if Allocates d.currentParentMessageType d.currentMessagePart then ¬ d.pool.Available
      else d.pool.droppingFrameData = true := by
  rcases accept_pool hAccept with ⟨hAllocates, hStore⟩ | ⟨hRaw, hSame⟩
  · obtain ⟨_, hFlag, _⟩ := BufferPool.storePayload_frame hStore
    rw [if_pos hAllocates, hFlag]
    exact BufferPool.dropping_allocate_iff h
  · rw [if_neg hRaw, hSame]

/-- The id that a call after an accepted part has is the one an allocation leaves. -/
theorem accept_id (hAccept : d.accept part = some a) (hHeld : a.pool.currentFrameBufferId ≠ -1) :
    a.pool.currentFrameBufferId = d.pool.allocate.currentFrameBufferId := by
  rcases accept_pool hAccept with ⟨_, hStore⟩ | ⟨_, hSame⟩
  · exact (BufferPool.storePayload_frame hStore).1
  · rw [hSame] at hHeld ⊢
    rw [BufferPool.allocate_of_held hHeld]

/-- A later part causes no call exactly if it finds the decoder quiet. -/
theorem later_calls_nil_iff (hPart : d.currentMessagePart ≠ 1) (hConsistent : d.pool.Consistent)
    (hTaken : d.pool.readyCalls = []) (h : d.receivePart parse part last = some d') :
    d'.pool.readyCalls = [] ↔ d.Quiet := by
  obtain ⟨a, e, hAccept, hEffect, rfl⟩ := receivePart_later_some hPart h
  obtain ⟨hSamePart, hSameType, _⟩ := accept_control hAccept
  have hCalls : a.pool.readyCalls = [] := (accept_calls hAccept).trans hTaken
  have hFlag := accept_dropping hConsistent hAccept
  have hPool := hEffect.pool
  rw [(finish_frame last e).1, Quiet, hSamePart.symm, hSameType.symm]
  rw [hSamePart.symm] at hFlag hPart
  by_cases hSends : SendsAt a.currentMessageType a.currentMessagePart
  · rw [if_pos hSends] at hPool
    obtain ⟨header, number, hSend, _⟩ := hPool
    rcases BufferPool.send_calls hSend with ⟨hDropping, hSame⟩ | ⟨hKept, call, _, _, hMade⟩
    · rw [hSame, hCalls]
      exact ⟨fun _ => .inr (.inr (hFlag.mp hDropping)), fun _ => rfl⟩
    · constructor
      · intro hNone
        rw [hMade] at hNone
        exact absurd hNone (List.append_ne_nil_of_right_ne_nil _ (List.cons_ne_nil _ _))
      · rintro (hFirst | hNoSend | hDropping)
        · exact absurd hFirst hPart
        · exact absurd hSends hNoSend
        · have hNow := hFlag.mpr hDropping
          rw [hKept] at hNow
          cases hNow
  · rw [if_neg hSends] at hPool
    rw [hPool, hCalls]
    exact ⟨fun _ => .inr (.inl hSends), fun _ => rfl⟩

end EigerFrameDecoder

section Steps

variable {parse : Parser} {ids : List Nat} {downstream : List ReadyCall} {r : Receiver}
variable {d d' a e : EigerFrameDecoder} {part : Bytes} {last : Bool}

theorem BufferPool.Owned.allocatedSend {p p' : BufferPool} {acquisitionID : CharArray 256}
    (h : p.Owned ids downstream) (hSent : AllocatedSend acquisitionID p p') :
    p'.Owned ids downstream := by
  obtain ⟨_, _, hSend, _⟩ := hSent
  exact h.allocate.send h.writable_allocate hSend

/-- The calls a decoder made are known downstream. -/
theorem BufferPool.Owned.taken (h : d.pool.Owned ids downstream) :
    d.callsTaken.pool.Owned ids (downstream ++ d.pool.readyCalls) := by
  have hLedger : d.callsTaken.pool.ledger (downstream ++ d.pool.readyCalls) =
      d.pool.ledger downstream := by
    show Ledger.mk _ _ ((downstream ++ d.pool.readyCalls ++ []).map ReadyCall.bufferId) = _
    rw [List.append_nil]
    rfl
  refine ⟨⟨fun hHeld => ?_, fun hDropping => ?_⟩, ?_, fun call hCall => ?_⟩
  · exact ⟨(h.consistent.ready hHeld).1, (h.consistent.ready hHeld).2⟩
  · have hDropped := h.consistent.dropping hDropping
    exact ⟨hDropped.1, hDropped.2, hDropped.3⟩
  · rw [hLedger]
    exact h.accounts
  · rw [show d.callsTaken.pool.readyCalls = [] from rfl, List.append_nil] at hCall
    exact h.intact call hCall

theorem surplusFrom_of_first {parts : List Bytes} {kind : FirstPart}
    (h : parts.head?.bind (readFirstPart parse) = some kind) (more : List Bytes) :
    surplusFrom parse (parts ++ more) = kind.surplus := by
  cases parts with
  | nil => cases h
  | cons first rest =>
      rw [surplusFrom, List.cons_append, List.head?_cons]
      rw [List.head?_cons] at h
      rw [h, Option.bind_some]

/-- What the first part of a message preserves. -/
theorem Sound.first (h : Sound parse ids r) (hComplete : r.complete = true)
    (later : List (List Bytes)) (hReceive : r.decoder.receivePart parse part last = some d') :
    Sound parse ids (r.received part last later d') := by
  have hFirst := h.boundary hComplete
  obtain ⟨kind, e, hRead, hEffect, rfl⟩ := EigerFrameDecoder.receivePart_first_some hFirst hReceive
  obtain ⟨hPool, hType, hParent, _⟩ := EigerFrameDecoder.finish_frame last e
  have hOwned : (r.decoder.parsed parse part).pool.Owned ids r.downstream := h.owned
  have hCompatible : Compatible (r.decoder.parsed parse part).currentParentMessageType
    (r.decoder.parsed parse part).currentMessageType := h.compatible
  have hParsed : (r.decoder.parsed parse part).currentMessagePart = 1 := hFirst
  have hResult : e.currentMessagePart = 1 ∧ e.pool.Owned ids r.downstream ∧
      Compatible e.currentParentMessageType e.currentMessageType := by
    cases kind with
    | unreadable =>
        cases hEffect
        exact ⟨hParsed, hOwned, hCompatible⟩
    | unknown =>
        cases hEffect
        exact ⟨hParsed, hOwned, hCompatible⟩
    | header series detail acqID =>
        obtain ⟨hPart, hGlobal, hPlain, _, hSent⟩ := hEffect
        rw [hGlobal]
        refine ⟨hPart.trans hParsed, ?_, hPlain⟩
        split at hSent
        · exact hOwned.allocatedSend hSent
        · rw [hSent]
          exact hOwned
    | image frame series hash acqID =>
        obtain ⟨hPart, hImage, hData, _, hSame⟩ := hEffect
        rw [hImage, hData, hSame]
        have hNotEnd : EigerMessageType.imageData ≠ .endOfStream := by decide
        exact ⟨hPart.trans hParsed, hOwned, hNotEnd⟩
    | endOfSeries series acqID =>
        obtain ⟨hPart, hEnd, hStream, _, hSent⟩ := hEffect
        rw [hEnd, hStream]
        exact ⟨hPart.trans hParsed, hOwned.allocatedSend hSent, rfl⟩
  obtain ⟨hPart, hOwned', hCompatible'⟩ := hResult
  obtain ⟨hPosition, hLast, hMore⟩ := EigerFrameDecoder.finish_part (ge_of_eq hPart) last
  refine ⟨?_, rfl, ?_, hPosition, hLast, fun hOpen => ⟨hMore hOpen, kind, ?_, ?_⟩⟩
  · refine BufferPool.Owned.taken ?_
    rw [hPool]
    exact hOwned'
  · show Compatible (e.advance.frameMetaData last).currentParentMessageType
      (e.advance.frameMetaData last).currentMessageType
    rw [hParent, hType]
    exact hCompatible'
  · rw [Receiver.received_parts, Receiver.earlier, if_pos hComplete]
    exact hRead
  · have hOpen : last = false := hOpen
    subst hOpen
    cases kind with
    | unreadable => trivial
    | unknown => trivial
    | header series detail acqID => exact hParent.trans hEffect.2.1
    | image frame series hash acqID =>
        have hNext : (e.advance.frameMetaData false).currentMessagePart = 2 := by
          rw [EigerFrameDecoder.finish_part_more, hEffect.2.1, hPart]
          rfl
        have hCount : (r.received part false later (e.advance.frameMetaData false)).arrivals.length
            = 1 := by
          rw [Receiver.received_length, Receiver.earlier, if_pos hComplete]
          rfl
        rw [hCount]
        refine ⟨hParent.trans hEffect.2.1, hNext, fun _ => hType.trans hEffect.2.2.1, ?_⟩
        intro hTime
        have hTwo : (2 : Int) = imageDataTimePart := hNext.symm.trans hTime
        cases hTwo
    | endOfSeries series acqID => trivial

/-- A wanted part that is followed by a send has a buffer to write to, or its data
is dropped. -/
theorem Sound.writable (h : Sound parse ids r) (hOpen : r.complete = false)
    (hQuiet : Unwanted parse (r.earlier.map Arrival.part ++ [part]) → r.decoder.Quiet)
    (hAccept : r.decoder.accept part = some a)
    (hSends : SendsAt a.currentMessageType a.currentMessagePart) : a.pool.Writable := by
  obtain ⟨hSamePart, hSameType, hSameParent, _⟩ := EigerFrameDecoder.accept_control hAccept
  obtain ⟨hLater, kind, hKind, hWithin⟩ := h.within hOpen
  rw [hSamePart, hSameType] at hSends
  by_cases hUnwanted : Unwanted parse (r.earlier.map Arrival.part ++ [part])
  · rcases hQuiet hUnwanted with hFirst | hNoSend | hDropping
    · exact absurd hFirst hLater
    · exact absurd hSends hNoSend
    · exact .inr ((EigerFrameDecoder.accept_dropping h.owned.consistent hAccept).mpr hDropping)
  · have hEarlier : r.earlier = r.arrivals := by
      rw [Receiver.earlier, hOpen]
      rfl
    have hParts : r.earlier.map Arrival.part = r.parts := by
      rw [hEarlier]
      rfl
    have hWanted : ∀ n, kind.surplus = some n → r.arrivals.length + 1 ≤ n := by
      intro n hSurplus
      by_contra hMore
      refine hUnwanted ⟨n, ?_, ?_⟩
      · rw [hParts, surplusFrom_of_first hKind]
        exact hSurplus
      · rw [hEarlier, List.length_append, List.length_map, List.length_singleton]
        omega
    have hReady := EigerFrameDecoder.accept_writable h.owned hAccept
    cases kind with
    | unreadable => exact absurd (hWanted 0 rfl) (by omega)
    | unknown => exact absurd (hWanted 0 rfl) (by omega)
    | header series detail acqID =>
        have hGlobal : r.decoder.currentParentMessageType = .global := hWithin
        have hPlain := h.compatible
        rw [hGlobal] at hPlain
        rw [SendsAt, if_neg hPlain.1, if_neg hPlain.2] at hSends
        refine hReady (.inr (.inr ?_))
        rw [hGlobal]
        simpa using hSends
    | image frame series hash acqID =>
        obtain ⟨hImage, _, hData, hTime⟩ := hWithin
        rw [SendsAt, if_pos (hData (hWanted 5 rfl))] at hSends
        rcases hSends with hAtTime | hAtAppendix
        · rcases EigerFrameDecoder.accept_pool hAccept with ⟨hAllocates, _⟩ | ⟨_, hSame⟩
          · exact hReady hAllocates
          · rw [hSame]
            exact hTime hAtTime
        · exact hReady (.inr (.inl ⟨hImage, hAtAppendix⟩))
    | endOfSeries series acqID =>
        have hOne := hWanted 1 rfl
        have hSome : r.parts ≠ [] := by
          intro hNone
          rw [hNone] at hKind
          cases hKind
        refine absurd (List.length_pos_iff.mpr hSome) ?_
        rw [Receiver.parts, List.length_map]
        omega

/-- A later part keeps the type of the message with its parent type. -/
theorem compatible_later {a e : EigerFrameDecoder} (hEffect : LaterEffect a e)
    (h : Compatible a.currentParentMessageType a.currentMessageType) :
    Compatible e.currentParentMessageType e.currentMessageType := by
  rw [hEffect.parent]
  rcases hEffect.type with hSame | ⟨hPlain, hNotEnd, _⟩
  · rw [hSame]
    exact h
  · cases hKnown : a.currentParentMessageType with
    | global => exact hPlain
    | imageData => exact hPlain.2
    | endOfSeries =>
        rw [hKnown] at h
        exact absurd h hNotEnd

/-- Where the decoder stands after a later part that is not the last. -/
theorem Within.later {a e : EigerFrameDecoder} {received : Nat} {kind : FirstPart}
    {downstream : List ReadyCall} (h : Within d received kind)
    (hOwned : d.pool.Owned ids downstream)
    (hAccept : d.accept part = some a) (hEffect : LaterEffect a e) :
    Within (e.advance.frameMetaData false) (received + 1) kind := by
  obtain ⟨hPool, hType, hParent, _⟩ := EigerFrameDecoder.finish_frame false e
  obtain ⟨hSamePart, hSameType, hSameParent, _⟩ := EigerFrameDecoder.accept_control hAccept
  cases kind with
  | unreadable => trivial
  | unknown => trivial
  | header series detail acqID =>
      exact (hParent.trans hEffect.parent).trans (hSameParent.trans h)
  | image frame series hash acqID =>
      obtain ⟨hImage, hCount, hData, _⟩ := h
      have hImage' : e.currentParentMessageType = .imageData :=
        hEffect.parent.trans (hSameParent.trans hImage)
      have hPart : e.currentMessagePart = received + 1 :=
        hEffect.part.trans (hSamePart.trans hCount)
      have hNumber : (e.advance.frameMetaData false).currentMessagePart = received + 1 + 1 := by
        rw [EigerFrameDecoder.finish_part_more, hImage', hPart]
        rfl
      refine ⟨hParent.trans hImage', ?_, fun hFew => ?_, fun hTime => ?_⟩
      · rw [hNumber]
        push_cast
        rfl
      · have hDataBefore : a.currentMessageType = .imageData :=
          hSameType.trans (hData (by omega))
        rcases hEffect.type with hSame | ⟨_, _, hAppendix⟩
        · exact hType.trans (hSame.trans hDataBefore)
        · have hAt := hAppendix hDataBefore
          rw [hSamePart, hCount, imageDataAppendixPart] at hAt
          omega
      · have hBlob : d.currentMessagePart = imageDataBlobPart := by
          have hFour : (received : Int) + 1 + 1 = 4 := hNumber.symm.trans hTime
          rw [hCount, imageDataBlobPart]
          omega
        have hReady := EigerFrameDecoder.accept_writable hOwned hAccept (.inl ⟨hImage, hBlob⟩)
        have hNoSend : ¬ SendsAt a.currentMessageType a.currentMessagePart := by
          have hFew : received < 5 := by
            rw [hCount, imageDataBlobPart] at hBlob
            omega
          rw [hSameType, hData hFew, hSamePart, hBlob]
          decide
        have hSame := hEffect.pool
        rw [if_neg hNoSend] at hSame
        rw [hPool, hSame]
        exact hReady
  | endOfSeries series acqID => trivial

/-- What a later part preserves. -/
theorem Sound.later (h : Sound parse ids r) (hOpen : r.complete = false)
    (hQuiet : Unwanted parse (r.earlier.map Arrival.part ++ [part]) → r.decoder.Quiet)
    (later : List (List Bytes)) (hReceive : r.decoder.receivePart parse part last = some d') :
    Sound parse ids (r.received part last later d') := by
  obtain ⟨hLater, kind, hKind, hWithin⟩ := h.within hOpen
  obtain ⟨a, e, hAccept, hEffect, rfl⟩ :=
    EigerFrameDecoder.receivePart_later_some hLater hReceive
  obtain ⟨hPool, hType, hParent, _⟩ := EigerFrameDecoder.finish_frame last e
  obtain ⟨hSamePart, hSameType, hSameParent, _⟩ := EigerFrameDecoder.accept_control hAccept
  have hAccepted := EigerFrameDecoder.accept_owned h.owned hAccept
  have hWritable := h.writable hOpen hQuiet hAccept
  have hOwned : e.pool.Owned ids r.downstream := by
    have hSent := hEffect.pool
    split at hSent
    · next hSends =>
        obtain ⟨_, _, hSend, _⟩ := hSent
        exact hAccepted.send (hWritable hSends) hSend
    · rw [hSent]
      exact hAccepted
  have hCompatible : Compatible e.currentParentMessageType e.currentMessageType := by
    refine compatible_later hEffect ?_
    rw [hSameParent, hSameType]
    exact h.compatible
  have hPosition : 1 ≤ e.currentMessagePart := by
    rw [hEffect.part, hSamePart]
    exact h.position
  obtain ⟨hNext, hLast, hMore⟩ := EigerFrameDecoder.finish_part hPosition last
  have hEarlier : r.earlier = r.arrivals := by
    rw [Receiver.earlier, hOpen]
    rfl
  refine ⟨?_, rfl, ?_, hNext, hLast, fun hStill => ⟨hMore hStill, kind, ?_, ?_⟩⟩
  · refine BufferPool.Owned.taken ?_
    rw [hPool]
    exact hOwned
  · show Compatible (e.advance.frameMetaData last).currentParentMessageType
      (e.advance.frameMetaData last).currentMessageType
    rw [hParent, hType]
    exact hCompatible
  · rw [Receiver.received_parts, hEarlier]
    obtain ⟨first, hFirst, hRead⟩ := Option.bind_eq_some_iff.mp hKind
    have hHead : (r.arrivals.map Arrival.part ++ [part]).head? = some first := by
      rw [List.head?_append, show r.arrivals.map Arrival.part = r.parts from rfl, hFirst]
      rfl
    rw [hHead]
    exact hRead
  · have hStill : last = false := hStill
    subst hStill
    rw [Receiver.received_length, hEarlier]
    exact hWithin.later h.owned hAccept hEffect

/-- What a release preserves. -/
theorem Sound.release (h : Sound parse ids r) {id : Int}
    (hLent : id ∈ r.downstream.map ReadyCall.bufferId) : Sound parse ids (r.released id) := by
  obtain ⟨call, hCall, hID⟩ := List.mem_map.mp hLent
  obtain ⟨found, before, after, _, hFound, hSplit, hErase⟩ :=
    List.exists_of_eraseP (p := fun call : ReadyCall => call.bufferId = id) hCall
      (decide_eq_true hID)
  have hFound : found.bufferId = id := of_decide_eq_true hFound
  have hRest : (r.released id).downstream = before ++ after := hErase
  have hBefore : r.decoder.pool.ledger r.downstream =
      ⟨r.decoder.pool.emptyBufferQueue, r.decoder.pool.held,
        before.map ReadyCall.bufferId ++ id :: after.map ReadyCall.bufferId⟩ := by
    rw [BufferPool.ledger, h.taken, List.append_nil, hSplit, List.map_append, List.map_cons,
      hFound]
  have hAfter : (r.released id).decoder.pool.ledger (r.released id).downstream =
      ⟨r.decoder.pool.emptyBufferQueue ++ [id], r.decoder.pool.held,
        before.map ReadyCall.bufferId ++ after.map ReadyCall.bufferId⟩ := by
    have hTaken : (r.released id).decoder.pool.readyCalls = [] := h.taken
    rw [BufferPool.ledger, hTaken, List.append_nil, hRest, List.map_append]
    rfl
  have hMove : Move (r.decoder.pool.ledger r.downstream)
      ((r.released id).decoder.pool.ledger (r.released id).downstream) := by
    rw [hBefore, hAfter]
    exact .giveBack _ _ _ _ _
  have hConsistent := h.owned.consistent
  refine ⟨⟨⟨fun hHeld => ?_, fun hDropping => ?_⟩, h.owned.accounts.moves (.single hMove),
    fun call hCall => ?_⟩, h.taken, h.compatible, h.position, h.boundary, h.within⟩
  · exact ⟨(hConsistent.ready hHeld).1, (hConsistent.ready hHeld).2⟩
  · have hDropped := hConsistent.dropping hDropping
    exact ⟨hDropped.1, hDropped.2, hDropped.3⟩
  · refine h.owned.intact call ?_
    rcases List.mem_append.mp hCall with hStill | hNew
    · exact List.mem_append_left _ (List.mem_of_mem_eraseP hStill)
    · exact List.mem_append_right _ hNew

/-- What a guarded step preserves. -/
theorem Sound.step {r' : Receiver} {event : Event} (h : Sound parse ids r)
    (hGuard : r.Guarded parse event) (hStep : r.step parse event = some r') :
    Sound parse ids r' := by
  cases event with
  | part =>
      obtain ⟨part, last, later, d', hNext, hReceive, rfl⟩ := Receiver.step_part hStep
      by_cases hComplete : r.complete = true
      · exact h.first hComplete later hReceive
      · exact h.later (Bool.eq_false_iff.mpr hComplete) (hGuard _ hNext) later hReceive
  | release id =>
      rw [Receiver.step] at hStep
      split at hStep
      · next hLent =>
          cases hStep
          exact h.release hLent
      · cases hStep

theorem sound_initial (garbage : Uninitialised) (hIds : ids.Nodup) (stream : List (List Bytes)) :
    Sound parse ids (.initial garbage ids stream) := by
  have hPlain : Plain .globalHeaderNone := ⟨by decide, by decide⟩
  refine ⟨⟨⟨fun hHeld => absurd rfl hHeld, nofun⟩, ⟨?_, ?_⟩, nofun⟩, rfl, hPlain, le_refl 1,
    fun _ => rfl, nofun⟩
  · show (ids.map Int.ofNat ++ [] ++ []).Perm (ids.map Int.ofNat)
    rw [List.append_nil, List.append_nil]
  · exact hIds.map fun _ _ hSame => Int.ofNat.inj hSame

end Steps

/-- No part of a message that is to cause no frame has caused one, every call so far
named a buffer, and what was handed over has not been written since. -/
structure Clean (parse : Parser) (r : Receiver) : Prop where
  silent : ∀ n ∈ surplusFrom parse r.parts, ∀ arrival ∈ r.arrivals.drop n, arrival.calls = []
  identified : ∀ call ∈ r.calls, call.bufferId ≠ -1
  intact : ∀ call ∈ r.downstream, r.decoder.pool.sharedBuffers call.bufferId = call.buffer

section Runs

variable {parse : Parser} {ids : List Nat} {r r' : Receiver}

theorem mem_drop_concat {α : Type*} {items : List α} {x y : α} {n : Nat}
    (h : y ∈ (items ++ [x]).drop n) : y ∈ items.drop n ∨ (y = x ∧ n < (items ++ [x]).length) := by
  rw [List.drop_append, List.mem_append] at h
  rcases h with hOld | hNew
  · exact .inl hOld
  · have hLength : n < (items ++ [x]).length := by
      by_contra hLong
      rw [List.length_append, List.length_singleton] at hLong
      rw [List.drop_of_length_le (by rw [List.length_singleton]; omega)] at hNew
      cases hNew
    exact .inr ⟨List.mem_singleton.mp (List.mem_of_mem_drop hNew), hLength⟩

/-- A guarded part that is to cause no frame causes no call. -/
theorem Sound.unwanted_silent {part : Bytes} {last : Bool} {d' : EigerFrameDecoder}
    (h : Sound parse ids r)
    (hQuiet : Unwanted parse (r.earlier.map Arrival.part ++ [part]) → r.decoder.Quiet)
    (hReceive : r.decoder.receivePart parse part last = some d')
    (hUnwanted : Unwanted parse (r.earlier.map Arrival.part ++ [part])) :
    d'.pool.readyCalls = [] := by
  by_cases hComplete : r.complete = true
  · have hFirst := h.boundary hComplete
    obtain ⟨kind, e, hRead, hEffect, rfl⟩ :=
      EigerFrameDecoder.receivePart_first_some hFirst hReceive
    have hKind : ([part] : List Bytes).head?.bind (readFirstPart parse) = some kind := hRead
    obtain ⟨n, hSurplus, hLength⟩ := hUnwanted
    rw [Receiver.earlier, if_pos hComplete] at hSurplus hLength
    have hSurplus : kind.surplus = some n := by
      rw [← surplusFrom_of_first hKind []]
      exact hSurplus
    have hNone : (r.decoder.parsed parse part).pool.readyCalls = [] := h.taken
    rw [(EigerFrameDecoder.finish_frame last e).1]
    cases kind with
    | unreadable =>
        rw [show e = _ from hEffect]
        exact hNone
    | unknown =>
        rw [show e = _ from hEffect]
        exact hNone
    | header series detail acqID => cases hSurplus
    | image frame series hash acqID =>
        cases hSurplus
        simp at hLength
    | endOfSeries series acqID =>
        cases hSurplus
        simp at hLength
  · have hLater := (h.within (Bool.eq_false_iff.mpr hComplete)).1
    exact (EigerFrameDecoder.later_calls_nil_iff hLater h.owned.consistent h.taken hReceive).mpr
      (hQuiet hUnwanted)

theorem Clean.step {event : Event} (hSound : Sound parse ids r) (h : Clean parse r)
    (hGuard : r.Guarded parse event) (hStep : r.step parse event = some r') :
    Clean parse r' := by
  have hNext := hSound.step hGuard hStep
  have hIntact : ∀ call ∈ r'.downstream,
      r'.decoder.pool.sharedBuffers call.bufferId = call.buffer :=
    fun call hCall => hNext.owned.intact call (List.mem_append_left _ hCall)
  cases event with
  | part =>
      obtain ⟨part, last, later, d', hPart, hReceive, rfl⟩ := Receiver.step_part hStep
      refine ⟨fun n hSurplus arrival hArrival => ?_, fun call hCall => ?_, hIntact⟩
      · rw [Receiver.received_parts] at hSurplus
        rcases mem_drop_concat hArrival with hOld | ⟨hNew, hLength⟩
        · by_cases hComplete : r.complete = true
          · rw [Receiver.earlier, if_pos hComplete, List.drop_nil] at hOld
            cases hOld
          · have hOpen := Bool.eq_false_iff.mpr hComplete
            obtain ⟨_, kind, hKind, _⟩ := hSound.within hOpen
            rw [Receiver.earlier, if_neg hComplete] at hSurplus hOld
            refine h.silent n ?_ arrival hOld
            have hSame := (surplusFrom_of_first hKind [part]).trans
              (surplusFrom_of_first hKind []).symm
            rw [List.append_nil] at hSame
            rw [← hSame]
            exact hSurplus
        · rw [hNew]
          refine hSound.unwanted_silent (hGuard _ hPart) hReceive ⟨n, hSurplus, ?_⟩
          rw [List.length_append, List.length_map, List.length_singleton]
          rw [List.length_append, List.length_singleton] at hLength
          exact hLength
      · rw [Receiver.calls, Receiver.received, List.flatMap_append, List.mem_append] at hCall
        rcases hCall with hOld | hNew
        · by_cases hComplete : r.complete = true
          · rw [Receiver.earlier, if_pos hComplete] at hOld
            cases hOld
          · rw [Receiver.earlier, if_neg hComplete] at hOld
            exact h.identified call hOld
        · have hDown : call ∈ (r.received part last later d').downstream := by
            refine List.mem_append_right _ ?_
            simpa using hNew
          refine hNext.owned.ne_of_mem (List.mem_append_right _ ?_)
          exact List.mem_map_of_mem (List.mem_append_left _ hDown)
  | release id =>
      rw [Receiver.step] at hStep
      split at hStep
      · cases hStep
        exact ⟨h.silent, h.identified, hIntact⟩
      · cases hStep

/-- An unwanted part that does not find the decoder quiet causes a call. -/
theorem Sound.unguarded_emits {event : Event} (h : Sound parse ids r)
    (hGuard : ¬ r.Guarded parse event) (hStep : r.step parse event = some r') :
    ¬ Clean parse r' := by
  cases event with
  | part =>
      obtain ⟨part, last, later, d', hPart, hReceive, rfl⟩ := Receiver.step_part hStep
      intro hClean
      refine hGuard fun next hNext hUnwanted => ?_
      have hSame : next = (part, last, later) := Option.some.inj (hNext.symm.trans hPart)
      subst hSame
      obtain ⟨n, hSurplus, hLength⟩ := hUnwanted
      by_cases hFirst : r.decoder.currentMessagePart = 1
      · exact .inl hFirst
      · refine (EigerFrameDecoder.later_calls_nil_iff hFirst h.owned.consistent h.taken
          hReceive).mp ?_
        rw [← Receiver.received_parts r part last later d'] at hSurplus
        refine hClean.silent n hSurplus
          ⟨part, r.decoder.pool.Available, d'.pool.readyCalls⟩ ?_
        have hWithin : n ≤ r.earlier.length := by
          rw [List.length_append, List.length_map, List.length_singleton] at hLength
          omega
        show _ ∈ (r.earlier ++ [_]).drop n
        rw [List.drop_append_of_le_length hWithin]
        exact List.mem_append_right _ List.mem_cons_self
  | release id => exact absurd trivial hGuard

/-- No malformed message causes a frame in a run, and no call goes wrong, exactly if
every unwanted part of the run finds the decoder quiet. -/
theorem clean_iff_guarded (garbage : Uninitialised) (hIds : ids.Nodup)
    {messages : List (List Bytes)} {events : List Event}
    (hExec : exec (Receiver.step parse) (.initial garbage ids messages) events = some r) :
    Along (Receiver.step parse) (Clean parse) (.initial garbage ids messages) events ↔
      Run (Receiver.step parse) (Receiver.Guarded parse) (.initial garbage ids messages)
        events r := by
  have hInit : Sound parse ids (.initial garbage ids messages) ∧
      Clean parse (.initial garbage ids messages) :=
    ⟨sound_initial garbage hIds messages, nofun, nofun, nofun⟩
  refine along_iff_run (fun s => Sound parse ids s ∧ Clean parse s) hInit (fun s hs => hs.2)
    (fun s event t hs hGuard hStep => ?_) (fun s event t hs hGuard hStep => ?_) hExec
  · exact ⟨hs.1.step hGuard hStep, .step hs.1 hs.2 hGuard hStep⟩
  · exact hs.1.unguarded_emits hGuard hStep

/-- A text that is no JSON, between an image and its release. -/
theorem clean_unreadable_part :
    ∃ r, exec (Receiver.step sampleParser) (.initial zeroed [0] [imageMessage, [bytes "x"]])
        [.part, .part, .part, .part, .part, .release 0] = some r ∧ r.downstream.length = 0 ∧
      Along (Receiver.step sampleParser) (Clean sampleParser)
        (.initial zeroed [0] [imageMessage, [bytes "x"]])
        [.part, .part, .part, .part, .part, .release 0] := by
  have hGuarded : (exec (guarded (Receiver.step sampleParser) (Receiver.Guarded sampleParser))
      (.initial zeroed [0] [imageMessage, [bytes "x"]])
      [.part, .part, .part, .part, .part, .release 0]).map (fun r => r.downstream.length) =
      some 0 := by decide +kernel
  obtain ⟨r, hRun, hEnd⟩ := Option.map_eq_some_iff.mp hGuarded
  have hRun := run_iff_exec_guarded.mpr hRun
  have hExec := hRun.executes
  exact ⟨r, hExec, hEnd, (clean_iff_guarded zeroed (by decide) hExec).mpr hRun⟩

/-- A second part after a text that is no JSON is taken for the appendix of a header,
and a sixth part of an image is handed over without a buffer. -/
theorem malformed_messages_cause_calls :
    (∃ r, exec (Receiver.step sampleParser) (.initial zeroed [0] [[bytes "x", [1]]])
        [.part, .part] = some r ∧ r.calls.map ReadyCall.bufferId = [0] ∧
      ¬ Clean sampleParser r) ∧
    ∃ r, exec (Receiver.step sampleParser) (.initial zeroed [0, 1] [imageMessage ++ [[1], [2]]])
        [.part, .part, .part, .part, .part, .part] = some r ∧
      r.calls.map ReadyCall.bufferId = [0, 1, -1] ∧ ¬ Clean sampleParser r := by
  constructor
  · have hExec : (exec (Receiver.step sampleParser) (.initial zeroed [0] [[bytes "x", [1]]])
        [.part, .part]).map (fun r => (r.calls.map ReadyCall.bufferId,
          surplusFrom sampleParser r.parts)) = some ([0], some 0) := by decide +kernel
    obtain ⟨r, hRun, hEnd⟩ := Option.map_eq_some_iff.mp hExec
    obtain ⟨hCalls, hSurplus⟩ := Prod.mk.inj hEnd
    refine ⟨r, hRun, hCalls, fun hClean => ?_⟩
    have hNone : r.calls = [] :=
      List.flatMap_eq_nil_iff.mpr fun arrival => hClean.silent 0 hSurplus arrival
    rw [hNone] at hCalls
    cases hCalls
  · have hExec : (exec (Receiver.step sampleParser)
        (.initial zeroed [0, 1] [imageMessage ++ [[1], [2]]])
        [.part, .part, .part, .part, .part, .part]).map
          (fun r => r.calls.map ReadyCall.bufferId) = some [0, 1, -1] := by decide +kernel
    obtain ⟨r, hRun, hCalls⟩ := Option.map_eq_some_iff.mp hExec
    refine ⟨r, hRun, hCalls, fun hClean => ?_⟩
    have hMinus : (-1 : Int) ∈ r.calls.map ReadyCall.bufferId := by
      rw [hCalls]
      decide
    obtain ⟨call, hCall, hID⟩ := List.mem_map.mp hMinus
    exact hClean.identified call hCall hID

/-- No part of a message the fan can emit is unwanted. -/
theorem Emittable.wanted {parts more : List Bytes} (h : Emittable parse (parts ++ more)) :
    ¬ Unwanted parse parts := by
  obtain ⟨kind, hKind, hEmits⟩ := h
  rintro ⟨n, hSurplus, hLength⟩
  obtain ⟨read, hRead, hKnown⟩ := Option.bind_eq_some_iff.mp hSurplus
  have hSame := surplusFrom_of_first hRead more
  have hWhole := surplusFrom_of_first hKind []
  rw [List.append_nil] at hWhole
  have hSurplus : kind.surplus = some n := by
    rw [← hWhole, hSame, hKnown]
  rw [List.length_append] at hEmits
  cases kind with
  | unreadable => exact hEmits
  | unknown => exact hEmits
  | header series detail acqID => cases hSurplus
  | image frame series hash acqID =>
      cases hSurplus
      unfold FirstPart.Emits at hEmits
      omega
  | endOfSeries series acqID =>
      cases hSurplus
      unfold FirstPart.Emits at hEmits
      omega

theorem guarded_of_emittable (hStream : ∀ message ∈ r.unfinished, Emittable parse message)
    (event : Event) : r.Guarded parse event := by
  cases event with
  | part =>
      rintro ⟨part, last, later⟩ hNext hUnwanted
      obtain ⟨more, rest, hUnfinished, _⟩ := Receiver.unfinished_next hNext r.decoder
      have hFirst := hStream _ (hUnfinished ▸ List.mem_cons_self)
      rw [← List.singleton_append, ← List.append_assoc] at hFirst
      exact absurd hUnwanted hFirst.wanted
  | release id => trivial

/-- In a run over messages the fan can emit no part is unwanted. -/
theorem sound_of_emittable (garbage : Uninitialised) (hIds : ids.Nodup)
    {messages : List (List Bytes)} (hMessages : ∀ message ∈ messages, Emittable parse message)
    {events : List Event}
    (hRun : Run (Receiver.step parse) always (.initial garbage ids messages) events r) :
    Sound parse ids r ∧ ∀ message ∈ r.unfinished, Emittable parse message := by
  let inv (r : Receiver) : Prop :=
    Sound parse ids r ∧ ∀ message ∈ r.unfinished, Emittable parse message
  have hInit : inv (.initial garbage ids messages) :=
    ⟨sound_initial garbage hIds messages, hMessages⟩
  refine hRun.invariant hInit ?_
  rintro s event t ⟨hSound, hStream⟩ _ hStep
  exact ⟨hSound.step (guarded_of_emittable hStream event) hStep,
    fun message hMessage => hStream message (Receiver.unfinished_step hStep message hMessage)⟩

theorem calls_of_allocatedSend {p p' : BufferPool} {acquisitionID : CharArray 256}
    (hTaken : p.readyCalls = []) (h : AllocatedSend acquisitionID p p') :
    ∀ call ∈ p'.readyCalls, call.bufferId = p.allocate.currentFrameBufferId := by
  obtain ⟨header, number, hSend, _⟩ := h
  have hNone : p.allocate.readyCalls = [] := by
    rw [p.allocate_frame.1, hTaken]
  rcases BufferPool.send_calls hSend with ⟨_, hSame⟩ | ⟨_, call, hID, _, hMade⟩
  · rw [hSame, hNone]
    exact nofun
  · rw [hMade, hNone]
    intro made hCall
    rw [List.mem_singleton.mp hCall]
    exact hID

/-- A call hands over the buffer that is held after an allocation. -/
theorem Sound.calls_held {part : Bytes} {last : Bool} {d' : EigerFrameDecoder}
    (h : Sound parse ids r)
    (hQuiet : Unwanted parse (r.earlier.map Arrival.part ++ [part]) → r.decoder.Quiet)
    (hReceive : r.decoder.receivePart parse part last = some d') :
    ∀ call ∈ d'.pool.readyCalls,
      call.bufferId = r.decoder.pool.allocate.currentFrameBufferId := by
  have hNone : ∀ call ∈ r.decoder.pool.readyCalls,
      call.bufferId = r.decoder.pool.allocate.currentFrameBufferId := by
    rw [h.taken]
    exact nofun
  by_cases hComplete : r.complete = true
  · have hFirst := h.boundary hComplete
    obtain ⟨kind, e, _, hEffect, rfl⟩ := EigerFrameDecoder.receivePart_first_some hFirst hReceive
    rw [(EigerFrameDecoder.finish_frame last e).1]
    cases kind with
    | unreadable =>
        rw [show e = _ from hEffect]
        exact hNone
    | unknown =>
        rw [show e = _ from hEffect]
        exact hNone
    | header series detail acqID =>
        have hSent := hEffect.2.2.2.2
        split at hSent
        · exact calls_of_allocatedSend h.taken hSent
        · rw [hSent]
          exact hNone
    | image frame series hash acqID =>
        rw [hEffect.2.2.2.2]
        exact hNone
    | endOfSeries series acqID => exact calls_of_allocatedSend h.taken hEffect.2.2.2.2
  · have hOpen := Bool.eq_false_iff.mpr hComplete
    obtain ⟨a, e, hAccept, hEffect, rfl⟩ :=
      EigerFrameDecoder.receivePart_later_some (h.within hOpen).1 hReceive
    have hCalls := EigerFrameDecoder.accept_calls hAccept
    rw [(EigerFrameDecoder.finish_frame last e).1]
    have hSent := hEffect.pool
    split at hSent
    · next hSends =>
        obtain ⟨header, number, hSend, _⟩ := hSent
        rcases BufferPool.send_calls hSend with ⟨_, hSame⟩ | ⟨hKept, call, hID, _, hMade⟩
        · rw [hSame, hCalls]
          exact hNone
        · rw [hMade, hCalls, h.taken]
          intro made hCall
          rw [List.mem_singleton.mp hCall, hID]
          refine EigerFrameDecoder.accept_id hAccept ?_
          rcases h.writable hOpen hQuiet hAccept hSends with hHeld | hDropping
          · exact hHeld
          · rw [hKept] at hDropping
            cases hDropping
    · rw [hSent, hCalls]
      exact hNone

/-- In how many of the three places a buffer is. -/
def BufferPool.places (id : Int) (downstream : List ReadyCall) (p : BufferPool) : Nat :=
  p.emptyBufferQueue.count id + (if p.currentFrameBufferId = id then 1 else 0) +
    (downstream.map ReadyCall.bufferId).count id

theorem BufferPool.Owned.places {p : BufferPool} {downstream : List ReadyCall}
    (h : p.Owned ids downstream) (hTaken : p.readyCalls = []) {n : Nat} (hMem : n ∈ ids) :
    p.places n downstream = 1 := by
  have hOnce := h.accounts.count_eq_one (List.mem_map_of_mem hMem)
  have hHeld : p.held = some (Int.ofNat n) ↔ p.currentFrameBufferId = n := by
    rw [BufferPool.held]
    split
    · next hNone =>
        rw [hNone]
        exact ⟨nofun, fun hSame => by cases hSame⟩
    · exact Option.some_inj
  rw [Ledger.count, BufferPool.ledger, hTaken, List.append_nil] at hOnce
  simp only [hHeld] at hOnce
  exact hOnce

/-- At any time of a run over messages the fan can emit, also after an allocation
within a part, each buffer is in exactly one place, and none is held while data is
dropped. A call hands over the buffer that is held. -/
theorem each_buffer_in_one_place (garbage : Uninitialised) (hIds : ids.Nodup)
    {messages : List (List Bytes)} (hMessages : ∀ message ∈ messages, Emittable parse message)
    {events : List Event}
    (hRun : Run (Receiver.step parse) always (.initial garbage ids messages) events r) :
    (∀ id ∈ ids, r.decoder.pool.places id r.downstream = 1 ∧
      r.decoder.pool.allocate.places id r.downstream = 1) ∧
    (r.decoder.pool.droppingFrameData = true → r.decoder.pool.currentFrameBufferId = -1) ∧
    (r.decoder.pool.allocate.droppingFrameData = true →
      r.decoder.pool.allocate.currentFrameBufferId = -1) ∧
    ∀ part last later d', nextPart r.stream = some (part, last, later) →
      r.decoder.receivePart parse part last = some d' → ∀ call ∈ d'.pool.readyCalls,
        call.bufferId ≠ -1 ∧
          call.bufferId = r.decoder.pool.allocate.currentFrameBufferId := by
  obtain ⟨hSound, hStream⟩ := sound_of_emittable garbage hIds hMessages hRun
  have hOwned := hSound.owned
  have hAllocated := hOwned.allocate
  have hTaken : r.decoder.pool.allocate.readyCalls = [] := by
    rw [r.decoder.pool.allocate_frame.1, hSound.taken]
  refine ⟨fun id hID => ⟨hOwned.places hSound.taken hID, hAllocated.places hTaken hID⟩,
    fun hDropping => (hOwned.consistent.dropping hDropping).none_held,
    fun hDropping => (hAllocated.consistent.dropping hDropping).none_held, ?_⟩
  intro part last later d' hNext hReceive call hCall
  have hGuard := guarded_of_emittable hStream .part
  have hStep : r.step parse .part = some (r.received part last later d') := by
    rw [Receiver.step, hNext, Option.bind_some]
    exact congrArg (Option.map fun d => r.received part last later d) hReceive
  have hNextSound := hSound.step hGuard hStep
  refine ⟨?_, hSound.calls_held (hGuard _ hNext) hReceive call hCall⟩
  refine hNextSound.owned.ne_of_mem (List.mem_append_right _ (List.mem_map_of_mem ?_))
  exact List.mem_append_left _ (List.mem_append_right _ hCall)

/-- One buffer serves an image and, once it is back, the end of the series. -/
theorem one_buffer_used_twice :
    ∃ r, Run (Receiver.step sampleParser) always
        (.initial zeroed [0] [imageMessage, [sampleEnd.1], imageMessage])
        [.part, .part, .part, .part, .release 0, .part, .part, .part] r ∧
      r.downstream.map ReadyCall.bufferId = [0] ∧
      r.decoder.pool.places (0 : Nat) r.downstream = 1 := by
  have hExec : (exec (Receiver.step sampleParser)
      (.initial zeroed [0] [imageMessage, [sampleEnd.1], imageMessage])
      [.part, .part, .part, .part, .release 0, .part, .part, .part]).map
        (fun r => r.downstream.map ReadyCall.bufferId) = some [0] := by decide +kernel
  obtain ⟨r, hRun, hEnd⟩ := Option.map_eq_some_iff.mp hExec
  have hRun := run_always_iff.mpr hRun
  have hMessages : ∀ message ∈ [imageMessage, [sampleEnd.1], imageMessage],
      Emittable sampleParser message := by
    intro message hMessage
    simp only [List.mem_cons, List.not_mem_nil, or_false] at hMessage
    rcases hMessage with rfl | rfl | rfl
    · exact imageMessage_emittable
    · exact sampleEnd_emittable
    · exact imageMessage_emittable
  exact ⟨r, hRun, hEnd,
    ((each_buffer_in_one_place zeroed (by decide) hMessages hRun).1 0 (by decide)).1⟩

end Runs

end Eiger.Decoder
