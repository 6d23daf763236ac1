import EigerDetector.Decoder.Sends

/-! Which acquisition ID the buffers of a message carry, whatever came before it. -/
namespace Eiger.Decoder

open CharArrays FixedWidth Rapidjson Transition

/-- What holds in every state of every run. -/
structure Steady (r : Receiver) : Prop where
  consistent : r.decoder.pool.Consistent
  taken : r.decoder.pool.readyCalls = []
  position : 1 ≤ r.decoder.currentMessagePart
  boundary : r.complete = true → r.decoder.currentMessagePart = 1
  within : r.complete = false → r.decoder.currentMessagePart ≠ 1 ∧ r.arrivals ≠ []

section Steps

variable {parse : Parser} {r r' : Receiver} {d' : EigerFrameDecoder} {part : Bytes} {last : Bool}

theorem consistent_of_allocatedSend {p p' : BufferPool} {acquisitionID : CharArray 256}
    (h : p.Consistent) (hSent : AllocatedSend acquisitionID p p') : p'.Consistent := by
  obtain ⟨_, _, hSend, _⟩ := hSent
  exact h.allocate.send hSend

theorem StartEffect.consistent {d e : EigerFrameDecoder} {kind : FirstPart}
    (h : StartEffect d e kind) (hConsistent : d.pool.Consistent) : e.pool.Consistent := by
  cases kind with
  | unreadable =>
      cases h
      exact hConsistent
  | unknown =>
      cases h
      exact hConsistent
  | header series detail acqID =>
      have hSent := h.2.2.2.2
      split at hSent
      · exact consistent_of_allocatedSend hConsistent hSent
      · rw [hSent]
        exact hConsistent
  | image frame series hash acqID =>
      rw [h.2.2.2.2]
      exact hConsistent
  | endOfSeries series acqID => exact consistent_of_allocatedSend hConsistent h.2.2.2.2

theorem StartEffect.counter {d e : EigerFrameDecoder} {kind : FirstPart}
    (h : StartEffect d e kind) : e.currentMessagePart = d.currentMessagePart := by
  cases kind with
  | unreadable => rw [show e = d from h]
  | unknown => rw [show e = d from h]
  | header series detail acqID => exact h.1
  | image frame series hash acqID => exact h.1
  | endOfSeries series acqID => exact h.1

/-- What the part that arrived did to the decoder, first part or not. -/
theorem Steady.processed (h : Steady r)
    (hReceive : r.decoder.receivePart parse part last = some d') :
    ∃ e, d' = e.advance.frameMetaData last ∧ 1 ≤ e.currentMessagePart ∧ e.pool.Consistent ∧
      ((r.complete = true ∧ ∃ kind, readFirstPart parse part = some kind ∧
        StartEffect (r.decoder.parsed parse part) e kind) ∨
      (r.complete = false ∧ ∃ a, r.decoder.accept part = some a ∧ LaterEffect a e)) := by
  by_cases hComplete : r.complete = true
  · obtain ⟨kind, e, hRead, hEffect, rfl⟩ :=
      EigerFrameDecoder.receivePart_first_some (h.boundary hComplete) hReceive
    have hCounter : 1 ≤ e.currentMessagePart := by
      rw [hEffect.counter]
      exact h.position
    exact ⟨e, rfl, hCounter, hEffect.consistent h.consistent,
      .inl ⟨hComplete, kind, hRead, hEffect⟩⟩
  · have hOpen := Bool.eq_false_iff.mpr hComplete
    obtain ⟨a, e, hAccept, hEffect, rfl⟩ :=
      EigerFrameDecoder.receivePart_later_some (h.within hOpen).1 hReceive
    have hAccepted : a.pool.Consistent := by
      rcases EigerFrameDecoder.accept_pool hAccept with ⟨_, hStore⟩ | ⟨_, hSame⟩
      · exact h.consistent.allocate.storePayload hStore
      · rw [hSame]
        exact h.consistent
    have hConsistent : e.pool.Consistent := by
      have hSent := hEffect.pool
      split at hSent
      · obtain ⟨_, _, hSend, _⟩ := hSent
        exact hAccepted.send hSend
      · rw [hSent]
        exact hAccepted
    have hCounter : 1 ≤ e.currentMessagePart := by
      rw [hEffect.part, (EigerFrameDecoder.accept_control hAccept).1]
      exact h.position
    exact ⟨e, rfl, hCounter, hConsistent, .inr ⟨hOpen, a, hAccept, hEffect⟩⟩

theorem Consistent_of_pool {p : BufferPool} (h : p.Consistent) (queue : List Int)
    (calls : List ReadyCall) :
    ({ p with emptyBufferQueue := queue, readyCalls := calls } : BufferPool).Consistent :=
  ⟨fun hHeld => ⟨(h.ready hHeld).1, (h.ready hHeld).2⟩, fun hDropping =>
    ⟨(h.dropping hDropping).1, (h.dropping hDropping).2, (h.dropping hDropping).3⟩⟩

/-- What every step preserves. -/
theorem Steady.step {event : Event} (h : Steady r) (hStep : r.step parse event = some r') :
    Steady r' := by
  cases event with
  | part =>
      obtain ⟨part, last, later, d', _, hReceive, rfl⟩ := Receiver.step_part hStep
      obtain ⟨e, rfl, hCounter, hConsistent, _⟩ := h.processed hReceive
      obtain ⟨hPosition, hLast, hMore⟩ := EigerFrameDecoder.finish_part hCounter last
      refine ⟨?_, rfl, hPosition, hLast, fun hOpen => ⟨hMore hOpen, ?_⟩⟩
      · rw [← (EigerFrameDecoder.finish_frame last e).1] at hConsistent
        exact Consistent_of_pool hConsistent _ []
      · exact List.append_ne_nil_of_right_ne_nil _ (List.cons_ne_nil _ _)
  | release id =>
      rw [Receiver.step] at hStep
      split at hStep
      · cases hStep
        exact ⟨Consistent_of_pool h.consistent _ _, h.taken, h.position, h.boundary, h.within⟩
      · cases hStep

theorem steady_initial (garbage : Uninitialised) (ids : List Nat) (stream : List (List Bytes)) :
    Steady (.initial garbage ids stream) :=
  ⟨⟨fun hHeld => absurd rfl hHeld, nofun⟩, rfl, le_refl 1, fun _ => rfl, nofun⟩

theorem steady_of_run {garbage : Uninitialised} {ids : List Nat} {messages : List (List Bytes)}
    {events : List Event}
    (hRun : Run (Receiver.step parse) always (.initial garbage ids messages) events r) :
    Steady r :=
  hRun.invariant (steady_initial garbage ids messages) fun _ _ _ h _ hStep => h.step hStep

end Steps

/-- The acquisition ID in a first part. -/
def FirstPart.acquisitionID : FirstPart → Option Bytes
  | unreadable => none
  | unknown => none
  | header _ _ acqID => acqID
  | image _ _ _ acqID => acqID
  | endOfSeries _ acqID => some acqID

/-- The header goes out while the acquisition ID is still to be looked for. -/
def FirstPart.SentUntagged : FirstPart → Prop
  | header _ detail _ => detail = headerDetailNone
  | _ => False

instance : DecidablePred FirstPart.SentUntagged
  | .unreadable => inferInstanceAs (Decidable False)
  | .unknown => inferInstanceAs (Decidable False)
  | .header _ detail _ => inferInstanceAs (Decidable (detail = headerDetailNone))
  | .image .. => inferInstanceAs (Decidable False)
  | .endOfSeries .. => inferInstanceAs (Decidable False)

def ReadyCall.acquisitionID (call : ReadyCall) : CharArray 256 :=
  call.buffer.header.acquisitionID

/-- What is known about the acquisition IDs of a message whose first part carries one. -/
structure Tagged (r : Receiver) (kind : FirstPart) (acqID : Bytes) : Prop where
  current : r.complete = false → r.decoder.currentHeader.acquisitionID = strncpy 256 acqID
  later : ∀ arrival ∈ r.arrivals.tail, ∀ call ∈ arrival.calls,
    call.acquisitionID = strncpy 256 acqID
  untagged : kind.SentUntagged ∧ r.before.pool.Available → ∀ arrival ∈ r.arrivals.head?,
    ∃ call, arrival.calls = [call] ∧ call.acquisitionID = r.before.currentHeader.acquisitionID
  first : ¬ (kind.SentUntagged ∧ r.before.pool.Available) → ∀ arrival ∈ r.arrivals.head?,
    ∀ call ∈ arrival.calls, call.acquisitionID = strncpy 256 acqID

section Messages

variable {parse : Parser} {r r' : Receiver} {d' : EigerFrameDecoder} {part : Bytes} {last : Bool}
variable {later : List (List Bytes)}

theorem StartEffect.tagged {d e : EigerFrameDecoder} {kind : FirstPart} {acqID : Bytes}
    (h : StartEffect d e kind) (hID : kind.acquisitionID = some acqID)
    (hConsistent : d.pool.Consistent) (hTaken : d.pool.readyCalls = []) :
    e.currentHeader.acquisitionID = strncpy 256 acqID ∧
      (kind.SentUntagged ∧ d.pool.Available → ∃ call, e.pool.readyCalls = [call] ∧
        call.acquisitionID = d.currentHeader.acquisitionID) ∧
      (¬ (kind.SentUntagged ∧ d.pool.Available) → ∀ call ∈ e.pool.readyCalls,
        call.acquisitionID = strncpy 256 acqID) := by
  cases kind with
  | unreadable => cases hID
  | unknown => cases hID
  | header series detail found =>
      obtain ⟨_, _, _, hTag, hSent⟩ := h
      have hFound : found = some acqID := hID
      subst hFound
      refine ⟨hTag, ?_⟩
      by_cases hNone : detail = headerDetailNone
      · rw [if_pos hNone] at hSent
        obtain ⟨header, number, hSend, hOld⟩ := hSent
        obtain ⟨_, hSilent, hCall⟩ := BufferPool.allocated_sent hConsistent hTaken hSend
        constructor
        · rintro ⟨_, hAvailable⟩
          obtain ⟨call, hCalls, _, hHeader⟩ := hCall hAvailable
          exact ⟨call, hCalls, by rw [ReadyCall.acquisitionID, hHeader, hOld]⟩
        · intro hNot
          rw [hSilent fun hAvailable => hNot ⟨hNone, hAvailable⟩]
          exact nofun
      · rw [if_neg hNone] at hSent
        refine ⟨fun hBoth => absurd hBoth.1 hNone, fun _ => ?_⟩
        rw [hSent, hTaken]
        exact nofun
  | image frame series hash found =>
      obtain ⟨_, _, _, hTag, hSame⟩ := h
      have hFound : found = some acqID := hID
      subst hFound
      refine ⟨hTag, fun hBoth => hBoth.1.elim, fun _ => ?_⟩
      rw [hSame, hTaken]
      exact nofun
  | endOfSeries series found =>
      obtain ⟨_, _, _, hTag, header, number, hSend, hOwn⟩ := h
      cases hID
      obtain ⟨_, hSilent, hCall⟩ := BufferPool.allocated_sent hConsistent hTaken hSend
      refine ⟨hTag, fun hBoth => hBoth.1.elim, fun _ => ?_⟩
      by_cases hAvailable : d.pool.Available
      · obtain ⟨call, hCalls, _, hHeader⟩ := hCall hAvailable
        rw [hCalls]
        intro made hMade
        rw [List.mem_singleton.mp hMade, ReadyCall.acquisitionID, hHeader, hOwn]
      · rw [hSilent hAvailable]
        exact nofun

/-- A later part sends the acquisition ID it finds, and leaves it. -/
theorem LaterEffect.tagged {d a e : EigerFrameDecoder} (h : LaterEffect a e)
    (hAccept : d.accept part = some a) (hTaken : d.pool.readyCalls = []) :
    e.currentHeader.acquisitionID = d.currentHeader.acquisitionID ∧
      ∀ call ∈ e.pool.readyCalls, call.acquisitionID = d.currentHeader.acquisitionID := by
  obtain ⟨_, _, _, _, hHeader, _⟩ := EigerFrameDecoder.accept_control hAccept
  have hCalls : a.pool.readyCalls = [] := (EigerFrameDecoder.accept_calls hAccept).trans hTaken
  refine ⟨by rw [h.acquisitionID, hHeader], ?_⟩
  have hSent := h.pool
  split at hSent
  · obtain ⟨header, number, hSend, hOwn⟩ := hSent
    rcases BufferPool.send_calls hSend with ⟨_, hSame⟩ | ⟨_, call, _, hCall, hMade⟩
    · rw [hSame, hCalls]
      exact nofun
    · rw [hMade, hCalls]
      intro made hMem
      rw [List.mem_singleton.mp hMem, ReadyCall.acquisitionID, hCall, hOwn, hHeader]
  · rw [hSent, hCalls]
    exact nofun

/-- What a part preserves. -/
theorem Tagged.received (hSteady : Steady r) {kind : FirstPart} {acqID : Bytes}
    (h : r.parts.head?.bind (readFirstPart parse) = some kind → Tagged r kind acqID)
    (hKind : (r.received part last later d').parts.head?.bind (readFirstPart parse) = some kind)
    (hID : kind.acquisitionID = some acqID)
    (hReceive : r.decoder.receivePart parse part last = some d') :
    Tagged (r.received part last later d') kind acqID := by
  obtain ⟨e, rfl, _, _, hPart⟩ := hSteady.processed hReceive
  have hPool := (EigerFrameDecoder.finish_frame last e).1
  rw [Receiver.received_parts] at hKind
  rcases hPart with ⟨hComplete, read, hRead, hEffect⟩ | ⟨hOpen, a, hAccept, hEffect⟩
  · have hEarlier : r.earlier = [] := if_pos hComplete
    have hBefore : (r.received part last later (e.advance.frameMetaData last)).before =
        r.decoder := if_pos hComplete
    have hArrivals : (r.received part last later (e.advance.frameMetaData last)).arrivals =
        [⟨part, r.decoder.pool.Available, (e.advance.frameMetaData last).pool.readyCalls⟩] := by
      rw [Receiver.received, hEarlier]
      rfl
    rw [hEarlier] at hKind
    cases hRead.symm.trans hKind
    obtain ⟨hTag, hUntagged, hTagged⟩ :=
      hEffect.tagged hID hSteady.consistent hSteady.taken
    rw [← hPool] at hUntagged hTagged
    refine ⟨fun hMore => ?_, ?_, fun hBoth arrival hArrival => ?_, fun hNot arrival hArrival => ?_⟩
    · have hMore : last = false := hMore
      subst hMore
      exact hTag
    · rw [hArrivals]
      intro arrival hArrival
      cases hArrival
    · rw [hBefore] at hBoth ⊢
      rw [hArrivals] at hArrival
      cases hArrival
      exact hUntagged hBoth
    · rw [hBefore] at hNot
      rw [hArrivals] at hArrival
      cases hArrival
      exact hTagged hNot
  · have hEarlier : r.earlier = r.arrivals := by
      rw [Receiver.earlier, hOpen]
      rfl
    have hBefore : (r.received part last later (e.advance.frameMetaData last)).before =
        r.before := by
      rw [Receiver.received, hOpen]
      rfl
    have hArrivals : (r.received part last later (e.advance.frameMetaData last)).arrivals =
        r.arrivals ++
          [⟨part, r.decoder.pool.Available, (e.advance.frameMetaData last).pool.readyCalls⟩] := by
      rw [Receiver.received, hEarlier]
    obtain ⟨first, rest, hSome⟩ := List.exists_cons_of_ne_nil (hSteady.within hOpen).2
    rw [hEarlier, hSome] at hKind
    have hOld := h (by rw [Receiver.parts, hSome]; exact hKind)
    obtain ⟨hTag, hTagged⟩ := hEffect.tagged hAccept hSteady.taken
    rw [hOld.current hOpen] at hTag hTagged
    rw [← hPool] at hTagged
    have hLater := hOld.later
    have hUntagged := hOld.untagged
    have hFirst := hOld.first
    rw [hSome] at hLater hUntagged hFirst
    refine ⟨fun hMore => ?_, ?_, ?_, ?_⟩
    · have hMore : last = false := hMore
      subst hMore
      exact hTag
    · rw [hArrivals, hSome]
      intro arrival hArrival
      rcases List.mem_append.mp hArrival with hEarly | hNew
      · exact hLater arrival hEarly
      · rw [List.mem_singleton.mp hNew]
        exact hTagged
    · rw [hBefore, hArrivals, hSome]
      exact hUntagged
    · rw [hBefore, hArrivals, hSome]
      exact hFirst

theorem tagged_of_run {garbage : Uninitialised} {ids : List Nat} {messages : List (List Bytes)}
    {events : List Event}
    (hRun : Run (Receiver.step parse) always (.initial garbage ids messages) events r)
    {kind : FirstPart} {acqID : Bytes}
    (hKind : r.parts.head?.bind (readFirstPart parse) = some kind)
    (hID : kind.acquisitionID = some acqID) : Tagged r kind acqID := by
  let inv (r : Receiver) : Prop := Steady r ∧
    (r.parts.head?.bind (readFirstPart parse) = some kind → Tagged r kind acqID)
  have hInit : inv (.initial garbage ids messages) :=
    ⟨steady_initial garbage ids messages, nofun⟩
  have hFinal := hRun.invariant hInit fun s event t hs _ hStep => ?_
  · exact hFinal.2 hKind
  · refine ⟨hs.1.step hStep, fun hRead => ?_⟩
    cases event with
    | part =>
        obtain ⟨part, last, later, d', _, hReceive, rfl⟩ := Receiver.step_part hStep
        exact .received hs.1 hs.2 hRead hID hReceive
    | release id =>
        rw [Receiver.step] at hStep
        split at hStep
        · cases hStep
          have hOld := hs.2 hRead
          exact ⟨hOld.current, hOld.later, hOld.untagged, hOld.first⟩
        · cases hStep

theorem readAcquisitionID_nulFree {doc : Value} {acqID : Bytes}
    (h : readAcquisitionID doc = some (some acqID)) : NulFree acqID := by
  obtain ⟨found, _, hFound⟩ := Option.bind_eq_some_iff.mp h
  split at hFound
  · obtain ⟨value, _, hValue⟩ := Option.bind_eq_some_iff.mp hFound
    obtain ⟨text, hText, hSame⟩ := Option.map_eq_some_iff.mp hValue
    cases hSame
    exact Value.getString_nulFree hText
  · cases hFound

theorem acquisitionID_nulFree {kind : FirstPart} {acqID : Bytes}
    (hRead : readFirstPart parse part = some kind) (hID : kind.acquisitionID = some acqID) :
    NulFree acqID := by
  unfold readFirstPart at hRead
  split at hRead
  · cases hRead
    cases hID
  obtain ⟨htype, _, hRead⟩ := Option.bind_eq_some_iff.mp hRead
  split at hRead
  · obtain ⟨series, _, hRead⟩ := Option.bind_eq_some_iff.mp hRead
    obtain ⟨detail, _, hRead⟩ := Option.bind_eq_some_iff.mp hRead
    obtain ⟨found, hFound, hRead⟩ := Option.bind_eq_some_iff.mp hRead
    cases hRead
    rw [show found = some acqID from hID] at hFound
    exact readAcquisitionID_nulFree hFound
  split at hRead
  · obtain ⟨frame, _, hRead⟩ := Option.bind_eq_some_iff.mp hRead
    obtain ⟨series, _, hRead⟩ := Option.bind_eq_some_iff.mp hRead
    obtain ⟨hash, _, hRead⟩ := Option.bind_eq_some_iff.mp hRead
    obtain ⟨found, hFound, hRead⟩ := Option.bind_eq_some_iff.mp hRead
    cases hRead
    rw [show found = some acqID from hID] at hFound
    exact readAcquisitionID_nulFree hFound
  split at hRead
  · obtain ⟨series, _, hRead⟩ := Option.bind_eq_some_iff.mp hRead
    obtain ⟨found, hFound, hRead⟩ := Option.bind_eq_some_iff.mp hRead
    cases hRead
    cases hID
    obtain ⟨value, _, hText⟩ := Option.bind_eq_some_iff.mp hFound
    exact Value.getString_nulFree hText
  · cases hRead
    cases hID

/-- Every buffer of a message carries its acquisition ID, unless its header is sent
before the ID is looked for, and the decoder still has another one. -/
theorem tagged_iff {garbage : Uninitialised} {ids : List Nat} {messages : List (List Bytes)}
    {events : List Event}
    (hRun : Run (Receiver.step parse) always (.initial garbage ids messages) events r)
    {kind : FirstPart} {acqID : Bytes}
    (hKind : r.parts.head?.bind (readFirstPart parse) = some kind)
    (hID : kind.acquisitionID = some acqID) (hShort : acqID.length ≤ 255) :
    (∀ call ∈ r.calls, call.acquisitionID.text = acqID) ↔
      (kind.SentUntagged → r.before.pool.Available →
        r.before.currentHeader.acquisitionID.text = acqID) := by
  have hTagged := tagged_of_run hRun hKind hID
  obtain ⟨first, hFirst, hRead⟩ := Option.bind_eq_some_iff.mp hKind
  have hText : (strncpy 256 acqID).text = acqID :=
    text_strncpy (acquisitionID_nulFree hRead hID) (by omega)
  obtain ⟨arrival, rest, hArrivals⟩ : ∃ arrival rest, r.arrivals = arrival :: rest := by
    cases hAll : r.arrivals with
    | nil =>
        rw [Receiver.parts, hAll] at hFirst
        cases hFirst
    | cons arrival rest => exact ⟨arrival, rest, rfl⟩
  have hCalls : r.calls = arrival.calls ++ rest.flatMap Arrival.calls := by
    rw [Receiver.calls, hArrivals, List.flatMap_cons]
  have hLater : ∀ call ∈ rest.flatMap Arrival.calls, call.acquisitionID.text = acqID := by
    intro call hCall
    obtain ⟨other, hOther, hMem⟩ := List.mem_flatMap.mp hCall
    have hTag := hTagged.later other (by rw [hArrivals]; exact hOther) call hMem
    rw [hTag, hText]
  constructor
  · intro hAll hAlone hAvailable
    obtain ⟨call, hCall, hOld⟩ :=
      hTagged.untagged ⟨hAlone, hAvailable⟩ arrival (by rw [hArrivals]; rfl)
    rw [← hOld]
    refine hAll call ?_
    rw [hCalls, hCall]
    exact List.mem_cons_self
  · intro hCondition call hCall
    rw [hCalls] at hCall
    rcases List.mem_append.mp hCall with hEarly | hMem
    · by_cases hBoth : kind.SentUntagged ∧ r.before.pool.Available
      · obtain ⟨sent, hSent, hOld⟩ := hTagged.untagged hBoth arrival (by rw [hArrivals]; rfl)
        rw [hSent] at hEarly
        rw [List.mem_singleton.mp hEarly, hOld]
        exact hCondition hBoth.1 hBoth.2
      · rw [hTagged.first hBoth arrival (by rw [hArrivals]; rfl) call hEarly, hText]
    · exact hLater call hMem

/-- The end of a series after a header, both with the same acquisition ID. -/
theorem tagged_header_and_end :
    ∃ r, Run (Receiver.step sampleParser) always
        (.initial zeroed [0, 1] [[sampleHeader.1, [1]], [sampleEnd.1]]) [.part, .part, .part] r ∧
      r.calls.length = 1 ∧ ∀ call ∈ r.calls, call.acquisitionID.text = bytes "a" := by
  have hExec : (exec (Receiver.step sampleParser)
      (.initial zeroed [0, 1] [[sampleHeader.1, [1]], [sampleEnd.1]]) [.part, .part, .part]).map
      (fun r => (r.calls.length, r.parts.head?.bind (readFirstPart sampleParser))) =
      some (1, some (.endOfSeries 1 (bytes "a"))) := by decide +kernel
  obtain ⟨r, hRun, hEnd⟩ := Option.map_eq_some_iff.mp hExec
  obtain ⟨hCalls, hKind⟩ := Prod.mk.inj hEnd
  have hRun := run_always_iff.mpr hRun
  exact ⟨r, hRun, hCalls, (tagged_iff hRun hKind rfl (by decide)).mpr fun hAlone => hAlone.elim⟩

def sampleHeaderNone : Bytes × Value :=
  (bytes "\x7b\"htype\":\"dheader-1.0\",\"series\":1,\"header_detail\":\"none\",\"acqID\":\"a\"\x7d",
    .object [(headerTypeKey, .string globalHeaderType), (seriesKey, .int 1),
      (headerDetailKey, .string headerDetailNone), (acquisitionIDKey, .string (bytes "a"))])

/-- A header without detail is handed over with an empty acquisition ID. -/
theorem header_none_untagged :
    ∃ r, Run (Receiver.step (.ofTexts [sampleHeaderNone])) always
        (.initial zeroed [0] [[sampleHeaderNone.1]]) [.part] r ∧
      r.parts.head?.bind (readFirstPart (.ofTexts [sampleHeaderNone])) =
        some (.header 1 headerDetailNone (some (bytes "a"))) ∧
      ∃ call ∈ r.calls, call.acquisitionID.text ≠ bytes "a" := by
  have hExec : (exec (Receiver.step (.ofTexts [sampleHeaderNone]))
      (.initial zeroed [0] [[sampleHeaderNone.1]]) [.part]).map (fun r =>
        (r.parts.head?.bind (readFirstPart (.ofTexts [sampleHeaderNone])),
          r.calls.map fun call => call.acquisitionID.text)) =
      some (some (.header 1 headerDetailNone (some (bytes "a"))), [[]]) := by decide +kernel
  obtain ⟨r, hRun, hEnd⟩ := Option.map_eq_some_iff.mp hExec
  obtain ⟨hKind, hCalls⟩ := Prod.mk.inj hEnd
  have hEmpty : ([] : Bytes) ∈ r.calls.map fun call => call.acquisitionID.text := by
    rw [hCalls]
    exact List.mem_cons_self
  obtain ⟨call, hCall, hText⟩ := List.mem_map.mp hEmpty
  refine ⟨r, run_always_iff.mpr hRun, hKind, call, hCall, ?_⟩
  rw [hText]
  decide

end Messages

end Eiger.Decoder
