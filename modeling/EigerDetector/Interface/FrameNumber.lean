import EigerDetector.Decoder.Numbering
import EigerDetector.Fan.FrameCounts
import EigerDetector.Interface.AcquisitionID
import EigerDetector.Plugin.Process

/-! The frame number of an image from the fan over the decoder to the plugin. The fan reads
it with 64 bits, the decoder and the name of a cache file have 32. -/
namespace Eiger.Interface

open CharArrays FixedWidth Rapidjson Transition Fan.EigerFan

/-- An image is published and pushed under this frame number. -/
def PublishesFrame (framework : ProcessPlugin.Framework) (frame : Int)
    (outputs : List ProcessPlugin.Output) : Prop :=
  ∃ json image, outputs = [.publishMeta framework.name (bytes "eiger-imagedata")
      (framework.str json) (framework.str json), .push image] ∧
    Value.findMember frameKey json.members = some (.int frame) ∧ image.frameNumber = frame

/-- Decoder, plugin and cache have this number for the image with the given part 1. -/
structure SameNumber (parse : Decoder.Parser) (part1 : Bytes) (frame : Int) : Prop where
  header : ∀ d : Decoder.EigerFrameDecoder, d.currentMessagePart = 1 →
    ∃ d', d.receivePart parse part1 false = some d' ∧ d'.currentHeader.frameNumber = frame
  handed : ∀ garbage ids messages events r, ids.Nodup →
    (∀ message ∈ messages, Decoder.Emittable parse message) →
    Run (Decoder.Receiver.step parse) always (.initial garbage ids messages) events r →
    r.parts.head? = some part1 → ∀ call ∈ r.calls, call.header.frameNumber = frame ∧
      (call.header.messageType = .imageData → ∀ framework outputs,
        ProcessPlugin.processFrame framework call.buffer = some outputs →
          PublishesFrame framework frame outputs)
  cached : ∀ name, Fan.imageFile frame name =
    bytes "image_" ++ Fan.padInt frame ++ bytes "_" ++ bytes name

/-- An image that the fan handled in a session and sent on to a consumer. -/
structure Forwarded (env : Fan.Environment) (vm : Fan.Options) (part1 : Bytes)
    (rest : List Bytes) (members : List (Bytes × Value)) (frame : Int) (s t : Fan.EigerFan) :
    Prop where
  reached : ∃ events,
    Run (Fan.session env) always (Fan.initial (Fan.parseArguments vm)) events s
  handled : Fan.session env s (.message (part1 :: rest)) = some t
  image : Fan.readFirstPart env part1 = some (.image members frame)
  nonneg : 0 ≤ frame
  sent : t.consumers ≠ s.consumers

/-- What a document has for an acquisition ID is a string. -/
def TextualID (members : List (Bytes × Value)) : Prop :=
  ∀ value, Value.findMember acquisitionIDKey members = some value → value.getString.isSome

section Plugin

variable {framework : ProcessPlugin.Framework} {buffer : Decoder.FrameBuffer}
variable {outputs : List ProcessPlugin.Output}

theorem processFrame_publishes (hType : buffer.header.messageType = .imageData)
    (h : ProcessPlugin.processFrame framework buffer = some outputs) :
    PublishesFrame framework buffer.header.frameNumber outputs := by
  obtain ⟨acqID, _, h⟩ := Option.bind_eq_some_iff.mp h
  simp only [hType] at h
  obtain ⟨metaData, _, h⟩ := Option.bind_eq_some_iff.mp h
  obtain ⟨json, hJson, h⟩ := Option.bind_eq_some_iff.mp h
  cases h
  refine ⟨json, _, rfl, ?_, rfl⟩
  obtain ⟨dataType, _, hJson⟩ := Option.bind_eq_some_iff.mp hJson
  obtain ⟨encoding, _, hJson⟩ := Option.bind_eq_some_iff.mp hJson
  obtain ⟨hash, _, hJson⟩ := Option.bind_eq_some_iff.mp hJson
  cases hJson
  rfl

end Plugin

section Reading

variable {env : Fan.Environment} {parse : Decoder.Parser} {part1 part : Bytes}
variable {members : List (Bytes × Value)} {frame series : Int} {hash id : Bytes}

/-- The members the handler of an image has looked up. -/
theorem image_members (h : Fan.readFirstPart env part1 = some (.image members frame)) :
    (Value.findMember headerTypeKey members).bind Value.getString = some imageHeaderType ∧
      Value.findMember frameKey members = some (.int frame) := by
  have hReads := Fan.readFirstPart_reads h
  generalize env.parse (cString part1) = doc at hReads
  cases hReads with
  | image hType hFrame =>
      obtain ⟨value, hFind, hInt⟩ := Option.bind_eq_some_iff.mp hFrame
      cases value with
      | int n =>
          rw [Value.getInt64] at hInt
          split at hInt
          · cases hInt
            exact ⟨hType, hFind⟩
          · cases hInt
      | _ => cases hInt

/-- The decoder's reading of a number is that of the fan up to its 32 bits. -/
theorem getInt_int (hNonneg : 0 ≤ frame) :
    (Value.int frame).getInt = if frame ≤ maxInt32 then some frame else none := by
  have hLow : minInt32 ≤ frame := by
    unfold minInt32
    omega
  rw [Value.getInt]
  simp only [hLow, true_and]

/-- The acquisition ID is there to be read after one was appended. -/
theorem readAcquisitionID_tagged :
    (∃ acqID, Decoder.readAcquisitionID (.object (members ++ [(acquisitionIDKey, .string id)])) =
      some acqID) ↔ TextualID members := by
  rw [Decoder.readAcquisitionID, Value.hasMember, Value.member, TextualID]
  cases hFind : Value.findMember acquisitionIDKey members with
  | none =>
      rw [Value.findMember_append_of_none hFind, Value.findMember, if_pos rfl]
      refine iff_of_true ⟨_, rfl⟩ fun value hValue => ?_
      cases hValue
  | some value =>
      rw [Value.findMember_append_of_some hFind]
      constructor
      · rintro ⟨acqID, hRead⟩ _ ⟨⟩
        obtain ⟨text, hText, _⟩ := Option.map_eq_some_iff.mp hRead
        rw [hText]
        rfl
      · intro hText
        obtain ⟨text, hText⟩ := Option.isSome_iff_exists.mp (hText value rfl)
        refine ⟨some text, ?_⟩
        show value.getString.map some = some (some text)
        rw [hText]
        rfl

/-- What the decoder reads of an image that the fan has tagged. -/
theorem readFirstPart_tagged (hNonneg : 0 ≤ frame)
    (hImage : Fan.readFirstPart env part1 = some (.image members frame))
    (hSeries : (Value.findMember seriesKey members).bind Value.getInt = some series)
    (hHash : (Value.findMember hashKey members).bind Value.getString = some hash)
    (hDoc : parse (cString part) =
      some (.object (members ++ [(acquisitionIDKey, .string id)]))) :
    Decoder.readFirstPart parse part = if frame ≤ maxInt32 then
      (Decoder.readAcquisitionID (.object (members ++ [(acquisitionIDKey, .string id)]))).map
        fun acqID => .image frame series hash acqID
      else none := by
  obtain ⟨hType, hFrame⟩ := image_members hImage
  have hType := Value.findMember_append_bind hType [(acquisitionIDKey, .string id)]
  have hFrame := Value.findMember_append_of_some hFrame [(acquisitionIDKey, .string id)]
  have hSeries := Value.findMember_append_bind hSeries [(acquisitionIDKey, .string id)]
  have hHash := Value.findMember_append_bind hHash [(acquisitionIDKey, .string id)]
  simp only [Decoder.readFirstPart, hDoc, Value.member, hType, hFrame, hSeries, hHash,
    Option.bind_eq_bind, Option.bind_some, getInt_int hNonneg, if_pos]
  rw [if_neg (by decide : ¬ imageHeaderType = globalHeaderType)]
  split
  · rw [Option.bind_some, Option.map_eq_bind]
    rfl
  · rfl

/-- The decoder reads it exactly when its number fits 32 bits and there is an ID to read. -/
theorem readFirstPart_tagged_iff (hNonneg : 0 ≤ frame)
    (hImage : Fan.readFirstPart env part1 = some (.image members frame))
    (hSeries : (Value.findMember seriesKey members).bind Value.getInt = some series)
    (hHash : (Value.findMember hashKey members).bind Value.getString = some hash)
    (hDoc : parse (cString part) =
      some (.object (members ++ [(acquisitionIDKey, .string id)]))) :
    (∃ acqID, Decoder.readFirstPart parse part = some (.image frame series hash acqID)) ↔
      frame ≤ maxInt32 ∧ TextualID members := by
  rw [readFirstPart_tagged hNonneg hImage hSeries hHash hDoc, ← readAcquisitionID_tagged]
  split
  · next hFits =>
      constructor
      · rintro ⟨acqID, hRead⟩
        obtain ⟨found, hFound, _⟩ := Option.map_eq_some_iff.mp hRead
        exact ⟨hFits, found, hFound⟩
      · rintro ⟨_, acqID, hFound⟩
        exact ⟨acqID, by rw [hFound]; rfl⟩
  · next hLarge =>
      constructor
      · rintro ⟨acqID, hRead⟩
        cases hRead
      · exact fun hBoth => absurd hBoth.1 hLarge

/-- A part 1 that is read as an image starts one with its number. -/
theorem receivePart_image {d : Decoder.EigerFrameDecoder} {acqID : Option Bytes}
    (hPart : d.currentMessagePart = 1)
    (hRead : Decoder.readFirstPart parse part = some (.image frame series hash acqID)) :
    ∃ d', d.receivePart parse part false = some d' ∧ d'.currentHeader.frameNumber = frame := by
  rw [Decoder.EigerFrameDecoder.receivePart_first parse hPart, hRead, Option.bind_some]
  refine ⟨_, rfl, ?_⟩
  show ((Decoder.EigerFrameDecoder.imageStarted frame series hash
    (d.parsed parse part)).keepAcquisitionID acqID).currentHeader.frameNumber = frame
  rw [(Decoder.keepAcquisitionID_header acqID _).1]
  rfl

end Reading

namespace Forwarded

variable {env : Fan.Environment} {vm : Fan.Options} {part1 : Bytes} {rest : List Bytes}
variable {members : List (Bytes × Value)} {frame : Int} {s t : Fan.EigerFan}

theorem idle (h : Forwarded env vm part1 rest members frame s t) :
    Fan.Idle (Fan.parseArguments vm) s := by
  obtain ⟨events, hRun⟩ := h.reached
  exact hRun.invariant (.initial (Fan.parseArguments_int32 vm).2)
    fun _ _ _ hIdle _ hStep => hIdle.step hStep

/-- The number picks the consumer and is counted as the last frame if it is the largest. -/
theorem uses (h : Forwarded env vm part1 rest members frame s t) :
    ∃ index, s.dispatch frame = some index ∧
      t.consumers = s.consumers.modify index.toNat
        (Fan.EigerConsumer.send (Fan.imageParts env s members rest)) ∧
      (t.lastFrameSent : Int) = max (s.lastFrameSent : Int) frame := by
  obtain ⟨index, hIndex, hShort | hSent | hLost⟩ := h.idle.image_counts h.image h.handled
  · exact absurd hShort.2.1 h.sent
  · obtain ⟨_, _, _, hConsumers, hCounts⟩ := hSent
    refine ⟨index, hIndex, hConsumers, ?_⟩
    have hLast : t.lastFrameSent =
        if s.lastFrameSent < toUInt64 frame then toUInt64 frame else s.lastFrameSent :=
      congrArg Fan.FrameCounts.lastFrameSent hCounts
    have hHigh := Fan.Counted.readFirstPart_frame h.image
    have hWide : (toUInt64 frame : Int) = frame :=
      toUInt64_of_range h.nonneg (by unfold maxInt64 at hHigh; omega)
    rw [hLast]
    split
    · omega
    · omega
  · exact absurd hLost.2.2.1 h.sent

end Forwarded

section Agreement

variable {env : Fan.Environment} {parse : Decoder.Parser} {vm : Fan.Options} {part1 part : Bytes}
variable {rest : List Bytes} {members : List (Bytes × Value)} {frame series : Int} {hash : Bytes}
variable {acqID : Option Bytes} {s t : Fan.EigerFan}

/-- An image which the decoder reads has its number everywhere, if it fits 32 bits. -/
theorem sameNumber_of_read (hNonneg : 0 ≤ frame) (hFits : frame ≤ maxInt32)
    (hRead : Decoder.readFirstPart parse part = some (.image frame series hash acqID)) :
    SameNumber parse part frame := by
  refine ⟨fun d hPart => receivePart_image hPart hRead, ?_, fun name => ?_⟩
  · intro garbage ids messages events r hIds hMessages hRun hFirst call hCall
    have hAt : Decoder.AtImage parse frame series hash acqID r := by
      rw [Decoder.AtImage, hFirst]
      exact hRead
    have hNumber := (Decoder.numbered_of_run garbage hIds hMessages hRun hAt).handed call hCall
    refine ⟨hNumber, fun hType framework outputs hOutputs => ?_⟩
    rw [← hNumber]
    exact processFrame_publishes hType hOutputs
  · have hLow : minInt32 ≤ frame := by
      unfold minInt32
      omega
    rw [Fan.imageFile, toInt32_of_range hLow hFits]

/-- The fan routes an image it forwards and counts the last frame by its number. Decoder,
plugin and cache have the same number exactly when it fits 32 bits and what the image has
for an acquisition ID, if anything, is a string. -/
theorem frame_numbers_agree_iff (h : Forwarded env vm part1 rest members frame s t)
    (hSeries : (Value.findMember seriesKey members).bind Value.getInt = some series)
    (hHash : (Value.findMember hashKey members).bind Value.getString = some hash)
    (hInverse : parse (cString (Fan.taggedPart env members s.currentAcquisitionID)) =
      some (.object (members ++ [(acquisitionIDKey, .string s.currentAcquisitionID)]))) :
    (∃ index, s.dispatch frame = some index ∧
      t.consumers = s.consumers.modify index.toNat
        (Fan.EigerConsumer.send (Fan.imageParts env s members rest)) ∧
      (t.lastFrameSent : Int) = max (s.lastFrameSent : Int) frame) ∧
    (SameNumber parse (Fan.taggedPart env members s.currentAcquisitionID) frame ↔
      frame ≤ maxInt32 ∧ TextualID members) := by
  refine ⟨h.uses, ?_⟩
  have hIff := readFirstPart_tagged_iff h.nonneg h.image hSeries hHash hInverse
  constructor
  · intro hSame
    obtain ⟨d', hReceive, _⟩ := hSame.header (Decoder.initial Decoder.zeroed []) rfl
    rw [Decoder.EigerFrameDecoder.receivePart_first parse rfl] at hReceive
    obtain ⟨kind, hRead, _⟩ := Option.bind_eq_some_iff.mp hReceive
    refine hIff.mp ?_
    have hTagged := readFirstPart_tagged h.nonneg h.image hSeries hHash hInverse
    rw [hTagged] at hRead ⊢
    split at hRead
    · next hFits =>
        rw [if_pos hFits]
        obtain ⟨acqID, hFound, _⟩ := Option.map_eq_some_iff.mp hRead
        exact ⟨acqID, by rw [hFound]; rfl⟩
    · cases hRead
  · intro hBoth
    obtain ⟨acqID, hRead⟩ := hIff.mpr hBoth
    exact sameNumber_of_read h.nonneg hBoth.1 hRead

end Agreement

/-- The members of an image with this number. -/
def numberedMembers (frame : Int) : List (Bytes × Value) :=
  [(headerTypeKey, .string imageHeaderType), (frameKey, .int frame), (seriesKey, .int 1),
    (hashKey, .string (bytes "ab"))]

def numberedEnvironment (frame : Int) : Fan.Environment :=
  .ofTexts [(Fan.objectText (.object (numberedMembers frame)), .object (numberedMembers frame))]

/-- The image as a fan without an acquisition ID sends it on. -/
def untitledImage (frame : Int) : Value :=
  .object (numberedMembers frame ++ [(acquisitionIDKey, .string [])])

def untitledParser (frame : Int) : Decoder.Parser :=
  .ofTexts [(Fan.objectText (untitledImage frame), untitledImage frame)]

/-- A fan whose consumer is connected. -/
def startedEvents : List Fan.SessionEvent := [.main (.monitor Fan.zmqEventAccepted 0), .startRx]

theorem small_number_agrees :
    ∃ s t, Forwarded (numberedEnvironment 5) Fan.defaultOptions
        (Fan.objectText (.object (numberedMembers 5))) [[1], [2], [3]] (numberedMembers 5) 5 s t ∧
      SameNumber (untitledParser 5) (Fan.objectText (untitledImage 5)) 5 := by
  obtain ⟨s, hRun, hID, t, hHandled, hSent⟩ : ∃ s,
      Run (Fan.session (numberedEnvironment 5)) always
        (Fan.initial (Fan.parseArguments Fan.defaultOptions)) startedEvents s ∧
      s.currentAcquisitionID = [] ∧ ∃ t,
      Fan.session (numberedEnvironment 5) s
        (.message [Fan.objectText (.object (numberedMembers 5)), [1], [2], [3]]) = some t ∧
      (t.consumers.map fun c => c.sendSocket.length) ≠
        s.consumers.map fun c => c.sendSocket.length :=
    ⟨_, run_always_iff.mpr rfl, rfl, _, rfl, by decide +kernel⟩
  have h : Forwarded (numberedEnvironment 5) Fan.defaultOptions
      (Fan.objectText (.object (numberedMembers 5))) [[1], [2], [3]] (numberedMembers 5) 5 s t :=
    ⟨⟨_, hRun⟩, hHandled, rfl, by decide, fun hSame => hSent (by rw [hSame])⟩
  have hInverse : untitledParser 5 (cString (Fan.taggedPart (numberedEnvironment 5)
      (numberedMembers 5) s.currentAcquisitionID)) = some (.object (numberedMembers 5 ++
        [(acquisitionIDKey, .string s.currentAcquisitionID)])) := by
    rw [hID]
    rfl
  have hAgree := (frame_numbers_agree_iff h rfl rfl hInverse).2.mpr ⟨by decide, by rintro _ ⟨⟩⟩
  rw [hID] at hAgree
  exact ⟨s, t, h, hAgree⟩

/-- One more than the largest number of 32 bits. -/
theorem large_number_refused :
    ∃ s t, Forwarded (numberedEnvironment 2147483648) Fan.defaultOptions
        (Fan.objectText (.object (numberedMembers 2147483648))) [[1], [2], [3]]
        (numberedMembers 2147483648) 2147483648 s t ∧ t.lastFrameSent = 2147483648 ∧
      (∀ d : Decoder.EigerFrameDecoder, d.currentMessagePart = 1 →
        d.receivePart (untitledParser 2147483648) (Fan.objectText (untitledImage 2147483648))
          false = none) ∧
      ¬ SameNumber (untitledParser 2147483648) (Fan.objectText (untitledImage 2147483648))
        2147483648 := by
  have hRefused : ∀ d : Decoder.EigerFrameDecoder, d.currentMessagePart = 1 →
      d.receivePart (untitledParser 2147483648) (Fan.objectText (untitledImage 2147483648))
        false = none := by
    intro d hPart
    rw [Decoder.EigerFrameDecoder.receivePart_first _ hPart]
    rfl
  obtain ⟨s, hRun, t, hHandled, hLast, hSent⟩ : ∃ s,
      Run (Fan.session (numberedEnvironment 2147483648)) always
        (Fan.initial (Fan.parseArguments Fan.defaultOptions)) startedEvents s ∧ ∃ t,
      Fan.session (numberedEnvironment 2147483648) s
        (.message [Fan.objectText (.object (numberedMembers 2147483648)), [1], [2], [3]]) =
          some t ∧ t.lastFrameSent = 2147483648 ∧
      (t.consumers.map fun c => c.sendSocket.length) ≠
        s.consumers.map fun c => c.sendSocket.length :=
    ⟨_, run_always_iff.mpr rfl, _, rfl, by decide +kernel, by decide +kernel⟩
  refine ⟨s, t, ⟨⟨_, hRun⟩, hHandled, rfl, by decide, fun hSame => hSent (by rw [hSame])⟩, hLast,
    hRefused, fun hSame => ?_⟩
  obtain ⟨d', hReceive, _⟩ := hSame.header (Decoder.initial Decoder.zeroed []) rfl
  rw [hRefused _ rfl] at hReceive
  cases hReceive

end Eiger.Interface
