import EigerDetector.Library.Join
import EigerDetector.Library.Transition

/-! The meta writer. Offsets come from the base class when a frame is written, the
metadata of the frame comes from the detector. -/
namespace Eiger.MetaWriter

open Join Transition

/-- A parsed document; an absent key raises. -/
abbrev Dict (Value : Type) := String → Option Value

def FRAME : String := "frame"
def SERIES : String := "series"

def DETECTOR_WRITE_FRAME_PARAMETERS : List String :=
  ["start_time", "stop_time", "real_time", "size", "hash", "encoding", "type"]

/-- What `_add_values` writes at an offset. -/
structure Write (Value : Type) where
  offset : Int
  values : List (String × Option Value)

structure EigerMetaWriter (Value : Type) where
  fileOpen : Bool
  series : Option Value
  frameDataMap : Value → Option (Dict Value)
  frameOffsetMap : Value → Option Int
  datasets : List (String × Value)
  written : List (Write Value)

namespace EigerMetaWriter

variable {Value : Type} [DecidableEq Value]

def initial : EigerMetaWriter Value := ⟨false, none, fun _ => none, fun _ => none, [], []⟩

def addValues (w : EigerMetaWriter Value) (parameters : List String) (data : Dict Value)
    (offset : Int) : EigerMetaWriter Value :=
  { w with written := w.written ++ [⟨offset, parameters.map fun key => (key, data key)⟩] }

/-- The base class opens a file that is not open yet. -/
def handleGlobalHeaderNone (w : EigerMetaWriter Value) (header : Dict Value) :
    Option (EigerMetaWriter Value) := do
  let series ← header SERIES
  pure { w with
    fileOpen := true
    series := some series
    datasets := w.datasets ++ [(SERIES, series)] }

def seriesValid (w : EigerMetaWriter Value) (header : Dict Value) : Option Bool := do
  let series ← header SERIES
  pure (decide (w.series = some series))

def handleImageData (w : EigerMetaWriter Value) (header data : Dict Value) :
    Option (EigerMetaWriter Value) := do
  let valid ← w.seriesValid header
  if valid then
    let frame ← data FRAME
    match w.frameOffsetMap frame with
    | some offset =>
        -- the warning reads the frame number of the header
        let _ ← header FRAME
        let popped := { w with frameOffsetMap := Function.update w.frameOffsetMap frame none }
        pure (popped.addValues DETECTOR_WRITE_FRAME_PARAMETERS data offset)
    | none =>
        pure { w with frameDataMap := Function.update w.frameDataMap frame (some data) }
  else pure w

/-- What the base class does when a frame has been written, as is assumed of it. -/
def handleWriteFrame (w : EigerMetaWriter Value) (frame : Value) (offset : Int) :
    EigerMetaWriter Value :=
  match w.frameDataMap frame with
  | some data =>
      let popped := { w with frameDataMap := Function.update w.frameDataMap frame none }
      popped.addValues DETECTOR_WRITE_FRAME_PARAMETERS data offset
  | none => { w with frameOffsetMap := Function.update w.frameOffsetMap frame (some offset) }

end EigerMetaWriter

inductive Message (Value : Type) where
  | globalHeaderNone (header : Dict Value)
  | imageData (header data : Dict Value)
  | writeFrame (frame : Value) (offset : Int)

section Join

variable {Value : Type} [DecidableEq Value]

def EigerMetaWriter.processMessage (w : EigerMetaWriter Value) :
    Message Value → Option (EigerMetaWriter Value)
  | .globalHeaderNone header => w.handleGlobalHeaderNone header
  | .imageData header data => w.handleImageData header data
  | .writeFrame frame offset => some (w.handleWriteFrame frame offset)

/-- An image data message of a series other than this one. -/
def Message.foreign (series : Value) : Message Value → Bool
  | .imageData header _ =>
      match header SERIES with
      | some other => decide (other ≠ series)
      | none => false
  | _ => false

/-- The global header of this series, which every frame processor reports. -/
def Message.announces (series : Value) : Message Value → Bool
  | .globalHeaderNone header => decide (header SERIES = some series)
  | _ => false

/-- The two messages of a frame. -/
structure FrameMessages (Value : Type) where
  frame : Value
  offset : Int
  header : Dict Value
  data : Dict Value

namespace FrameMessages

def writeFrame (m : FrameMessages Value) : Message Value := .writeFrame m.frame m.offset

def imageData (m : FrameMessages Value) : Message Value := .imageData m.header m.data

/-- Header and data name the frame, and the header its series. -/
structure OfSeries (series : Value) (m : FrameMessages Value) : Prop where
  series : m.header SERIES = some series
  header : m.header FRAME = some m.frame
  data : m.data FRAME = some m.frame

def entry (m : FrameMessages Value) : Value × Int × Dict Value := (m.frame, m.offset, m.data)

end FrameMessages

/-- The values of a frame, where they belong. -/
def writeOf : Value × Int × Dict Value → Write Value
  | (_, offset, data) =>
      ⟨offset, DETECTOR_WRITE_FRAME_PARAMETERS.map fun key => (key, data key)⟩

/-- The maps of the writer are those of a join, and it has written what has met. -/
structure Refines (series : Value) (before : List (Write Value)) (w : EigerMetaWriter Value)
    (t : Table Value Int (Dict Value)) : Prop where
  series : w.series = some series
  offsets : w.frameOffsetMap = t.lefts
  data : w.frameDataMap = t.rights
  written : w.written = before ++ t.pairs.map writeOf

variable {series : Value} {before : List (Write Value)} {w : EigerMetaWriter Value}
  {t : Table Value Int (Dict Value)}

theorem Refines.writeFrame (h : Refines series before w t) (frame : Value) (offset : Int) :
    Refines series before (w.handleWriteFrame frame offset) (t.arrive (.left frame offset)) := by
  obtain ⟨hSeries, hOffsets, hData, hWritten⟩ := h
  rw [EigerMetaWriter.handleWriteFrame, Table.arrive, hData]
  cases hWaits : t.rights frame with
  | some data =>
      refine ⟨hSeries, hOffsets, rfl, ?_⟩
      rw [List.map_append, ← List.append_assoc, ← hWritten]
      rfl
  | none =>
      have hUpdated : Function.update w.frameOffsetMap frame (some offset) =
          Function.update t.lefts frame (some offset) := by
        rw [hOffsets]
      exact ⟨hSeries, hUpdated, rfl, hWritten⟩

theorem seriesValid_eq {header : Dict Value} {other : Value} (h : header SERIES = some other) :
    w.seriesValid header = some (decide (w.series = some other)) := by
  rw [EigerMetaWriter.seriesValid, h]
  rfl

theorem Refines.imageData (h : Refines series before w t) {m : FrameMessages Value}
    (hMessage : m.OfSeries series) :
    ∃ w', w.handleImageData m.header m.data = some w' ∧
      Refines series before w' (t.arrive (.right m.frame m.data)) := by
  obtain ⟨hSeries, hOffsets, hData, hWritten⟩ := h
  have hValid : w.seriesValid m.header = some true := by
    rw [seriesValid_eq hMessage.series, hSeries, decide_eq_true rfl]
  rw [EigerMetaWriter.handleImageData, hValid, Table.arrive]
  simp only [Option.bind_eq_bind, Option.bind_some, if_true, hMessage.data, hMessage.header]
  rw [hOffsets]
  cases hWaits : t.lefts m.frame with
  | some offset =>
      refine ⟨_, rfl, hSeries, rfl, hData, ?_⟩
      rw [List.map_append, ← List.append_assoc, ← hWritten]
      rfl
  | none =>
      have hUpdated : Function.update w.frameDataMap m.frame (some m.data) =
          Function.update t.rights m.frame (some m.data) := by
        rw [hData]
      exact ⟨_, rfl, hSeries, rfl, hUpdated, hWritten⟩

/-- A message of another series is dropped. -/
theorem handleImageData_foreign {m : Message Value} (h : m.foreign series = true)
    (hSeries : w.series = some series) : w.processMessage m = some w := by
  cases m with
  | imageData header data =>
      rw [Message.foreign] at h
      split at h
      · next other hOther =>
          have hNe : some series ≠ some other := fun hSame =>
            of_decide_eq_true h (Option.some.inj hSame).symm
          have hInvalid : w.seriesValid header = some false := by
            rw [seriesValid_eq hOther, hSeries, decide_eq_false hNe]
          rw [EigerMetaWriter.processMessage, EigerMetaWriter.handleImageData, hInvalid]
          rfl
      · cases h
  | _ => cases h

theorem Refines.announces (h : Refines series before w t) {m : Message Value}
    (hMessage : m.announces series = true) :
    ∃ w', w.processMessage m = some w' ∧ Refines series before w' t := by
  cases m with
  | globalHeaderNone header =>
      have hHeader := of_decide_eq_true hMessage
      rw [EigerMetaWriter.processMessage, EigerMetaWriter.handleGlobalHeaderNone, hHeader]
      exact ⟨_, rfl, rfl, h.offsets, h.data, h.written⟩
  | _ => cases hMessage

/-- A message without a part in the join. -/
def Message.idle (series : Value) (m : Message Value) : Bool :=
  m.foreign series || m.announces series

/-- The messages which take part in it. -/
def joined (series : Value) (messages : List (Message Value)) : List (Message Value) :=
  messages.filter fun m => !m.idle series

def Message.arrival : Message Value → Option (Arrival Value Int (Dict Value))
  | .globalHeaderNone _ => none
  | .imageData _ data => (data FRAME).map fun frame => .right frame data
  | .writeFrame frame offset => some (.left frame offset)

def arrivalsOf (series : Value) (messages : List (Message Value)) :
    List (Arrival Value Int (Dict Value)) :=
  (joined series messages).filterMap Message.arrival

theorem Refines.idle (h : Refines series before w t) {m : Message Value}
    (hIdle : m.idle series = true) :
    ∃ w', w.processMessage m = some w' ∧ Refines series before w' t := by
  rcases Bool.or_eq_true_iff.mp hIdle with hForeign | hAnnounces
  · exact ⟨w, handleImageData_foreign hForeign h.series, h⟩
  · exact h.announces hAnnounces

/-- A message of a frame is handled as the join does. -/
theorem Refines.join (h : Refines series before w t) {frames : List (FrameMessages Value)}
    (hFrames : ∀ m ∈ frames, m.OfSeries series) {m : Message Value}
    (hMember : m ∈ frames.map FrameMessages.writeFrame ++ frames.map FrameMessages.imageData) :
    ∃ arrival w', m.arrival = some arrival ∧ w.processMessage m = some w' ∧
      Refines series before w' (t.arrive arrival) := by
  rcases List.mem_append.mp hMember with hWrite | hImage
  · obtain ⟨f, _, rfl⟩ := List.mem_map.mp hWrite
    exact ⟨_, _, rfl, rfl, h.writeFrame f.frame f.offset⟩
  · obtain ⟨f, hFrame, rfl⟩ := List.mem_map.mp hImage
    obtain ⟨w', hHandled, hNext⟩ := h.imageData (hFrames f hFrame)
    have hArrival : f.imageData.arrival = some (.right f.frame f.data) := by
      rw [FrameMessages.imageData, Message.arrival, (hFrames f hFrame).data]
      rfl
    exact ⟨_, w', hArrival, hHandled, hNext⟩

/-- Every message is handled, and those of the frames as the join does. -/
theorem Refines.processMessages (h : Refines series before w t)
    {frames : List (FrameMessages Value)} (hFrames : ∀ m ∈ frames, m.OfSeries series) {messages : List (Message Value)}
    (hMessages : ∀ m ∈ joined series messages,
      m ∈ frames.map FrameMessages.writeFrame ++ frames.map FrameMessages.imageData) :
    ∃ w', exec EigerMetaWriter.processMessage w messages = some w' ∧
      Refines series before w' ((arrivalsOf series messages).foldl Table.arrive t) := by
  induction messages generalizing w t with
  | nil => exact ⟨w, rfl, h⟩
  | cons m messages ih =>
      by_cases hIdle : m.idle series = true
      · have hJoined : joined series (m :: messages) = joined series messages :=
          List.filter_cons_of_neg (by rw [hIdle]; exact Bool.false_ne_true)
        rw [hJoined] at hMessages
        obtain ⟨w', hFirst, hMiddle⟩ := h.idle hIdle
        obtain ⟨w'', hRest, hEnd⟩ := ih hMiddle hMessages
        rw [exec, hFirst, Option.bind_some, arrivalsOf, hJoined]
        exact ⟨w'', hRest, hEnd⟩
      · have hJoined : joined series (m :: messages) = m :: joined series messages :=
          List.filter_cons_of_pos (by rw [Bool.eq_false_iff.mpr hIdle]; rfl)
        rw [hJoined] at hMessages
        obtain ⟨arrival, w', hArrival, hFirst, hMiddle⟩ :=
          h.join hFrames (hMessages m List.mem_cons_self)
        obtain ⟨w'', hRest, hEnd⟩ := ih hMiddle fun other hMember =>
          hMessages other (List.mem_cons_of_mem _ hMember)
        rw [exec, hFirst, Option.bind_some, arrivalsOf, hJoined,
          List.filterMap_cons_some hArrival]
        exact ⟨w'', hRest, hEnd⟩

omit [DecidableEq Value] in
theorem arrivals_of_frames {frames : List (FrameMessages Value)}
    (hFrames : ∀ m ∈ frames, m.OfSeries series) :
    (frames.map FrameMessages.writeFrame ++ frames.map FrameMessages.imageData).filterMap
      Message.arrival = arrivals (frames.map FrameMessages.entry) := by
  have hWrites : (frames.map FrameMessages.writeFrame).filterMap Message.arrival =
      frames.map fun m => .left m.frame m.offset := by
    rw [List.filterMap_map, ← List.filterMap_eq_map]
    rfl
  have hImages : (frames.map FrameMessages.imageData).filterMap Message.arrival =
      frames.map fun m => .right m.frame m.data := by
    rw [List.filterMap_map, ← List.filterMap_eq_map]
    refine List.filterMap_congr fun m hMember => ?_
    simp [FrameMessages.imageData, Message.arrival, (hFrames m hMember).data]
  rw [List.filterMap_append, hWrites, hImages, arrivals, List.map_map, List.map_map]
  rfl

end Join

variable {Value : Type} [DecidableEq Value]

/-- Any frames, any order of their two messages, and any messages of other series or
repeated headers between them: every frame is written once, at its own offset and with
its own values, and nothing is left in the maps. A message of another series changes
nothing. -/
theorem metadata_join_order_independent {w : EigerMetaWriter Value} {header : Dict Value}
    {start : EigerMetaWriter Value} {series : Value} {frames : List (FrameMessages Value)}
    {messages : List (Message Value)}
    (hHeader : start.handleGlobalHeaderNone header = some w) (hSeries : header SERIES = some series)
    (hData : ∀ frame, start.frameDataMap frame = none)
    (hOffsets : ∀ frame, start.frameOffsetMap frame = none)
    (hFrames : ∀ m ∈ frames, m.OfSeries series)
    (hDistinct : (frames.map FrameMessages.frame).Nodup)
    (hMessages : (joined series messages).Perm
      (frames.map FrameMessages.writeFrame ++ frames.map FrameMessages.imageData)) :
    ∃ w', exec EigerMetaWriter.processMessage w messages = some w' ∧
      (∃ added, w'.written = start.written ++ added ∧
        added.Perm (frames.map fun m => writeOf m.entry)) ∧
      (∀ frame, w'.frameDataMap frame = none) ∧ (∀ frame, w'.frameOffsetMap frame = none) ∧
      ∀ earlier m later, messages = earlier ++ m :: later → m.foreign series = true →
        ∃ v, exec EigerMetaWriter.processMessage w earlier = some v ∧
          v.processMessage m = some v := by
  have hStart : Refines series start.written w .empty := by
    rw [EigerMetaWriter.handleGlobalHeaderNone, hSeries] at hHeader
    cases hHeader
    exact ⟨rfl, funext hOffsets, funext hData, (List.append_nil _).symm⟩
  obtain ⟨w', hExec, hEnd⟩ := hStart.processMessages hFrames fun m => hMessages.mem_iff.mp
  have hOrder : (arrivalsOf series messages).Perm (arrivals (frames.map FrameMessages.entry)) := by
    rw [← arrivals_of_frames hFrames]
    exact hMessages.filterMap _
  have hKeys : ((frames.map FrameMessages.entry).map Prod.fst).Nodup := by
    rw [List.map_map]
    exact hDistinct
  obtain ⟨hPairs, hLefts, hRights⟩ := join_complete hKeys hOrder
  refine ⟨w', hExec, ⟨_, hEnd.written, ?_⟩, ?_, ?_, ?_⟩
  · have hWritten := hPairs.map writeOf
    rwa [List.map_map] at hWritten
  · intro frame
    rw [hEnd.data, hRights]
  · intro frame
    rw [hEnd.offsets, hLefts]
  · intro earlier m later hSplit hForeign
    have hEarlier : ∀ m ∈ joined series earlier, m ∈
        frames.map FrameMessages.writeFrame ++ frames.map FrameMessages.imageData := by
      intro other hMember
      refine hMessages.mem_iff.mp ?_
      rw [hSplit, joined, List.filter_append]
      exact List.mem_append_left _ hMember
    obtain ⟨v, hBefore, hMiddle⟩ := hStart.processMessages hFrames hEarlier
    exact ⟨v, hBefore, handleImageData_foreign hForeign hMiddle.series⟩

/-- A document of image data; the values differ from frame to frame. -/
def sampleDocument (series frame : Nat) : Dict Nat := fun key =>
  if key = SERIES then some series else if key = FRAME then some frame
  else if key ∈ DETECTOR_WRITE_FRAME_PARAMETERS then some (10 * frame) else none

def sampleFrames : List (FrameMessages Nat) :=
  [⟨0, 5, sampleDocument 7 0, sampleDocument 7 0⟩, ⟨1, 6, sampleDocument 7 1, sampleDocument 7 1⟩]

def sampleOrder : List (Message Nat) :=
  [.writeFrame 1 6, .imageData (sampleDocument 8 1) (sampleDocument 8 1),
    .imageData (sampleDocument 7 0) (sampleDocument 7 0), .globalHeaderNone (sampleDocument 7 0),
    .imageData (sampleDocument 7 1) (sampleDocument 7 1), .writeFrame 0 5]

theorem metadata_join_sample : ∃ w w' : EigerMetaWriter Nat,
    EigerMetaWriter.initial.handleGlobalHeaderNone (sampleDocument 7 0) = some w ∧
    exec EigerMetaWriter.processMessage w sampleOrder = some w' ∧
    w'.written.Perm (sampleFrames.map fun m => writeOf m.entry) ∧
    (∀ frame, w'.frameDataMap frame = none) ∧ ∀ frame, w'.frameOffsetMap frame = none := by
  have hFrames : ∀ m ∈ sampleFrames, m.OfSeries 7 := by
    intro m hMember
    rcases List.mem_cons.mp hMember with rfl | hMember
    · exact ⟨rfl, rfl, rfl⟩
    · rw [List.mem_singleton.mp hMember]
      exact ⟨rfl, rfl, rfl⟩
  have hJoined : joined 7 sampleOrder = [.writeFrame 1 6,
      .imageData (sampleDocument 7 0) (sampleDocument 7 0),
      .imageData (sampleDocument 7 1) (sampleDocument 7 1), .writeFrame 0 5] := rfl
  have hOrder : (joined 7 sampleOrder).Perm (sampleFrames.map FrameMessages.writeFrame ++
      sampleFrames.map FrameMessages.imageData) := by
    rw [hJoined]
    exact List.perm_append_singleton (Message.writeFrame 0 5) [_, _, _]
  have hHeader : EigerMetaWriter.initial.handleGlobalHeaderNone (sampleDocument 7 0) =
      some ⟨true, some 7, fun _ => none, fun _ => none, [(SERIES, 7)], []⟩ := rfl
  have hSeries : sampleDocument 7 0 SERIES = some 7 := rfl
  obtain ⟨w', hExec, ⟨added, hWritten, hAdded⟩, hData, hOffsets, _⟩ :=
    metadata_join_order_independent hHeader hSeries (fun _ => rfl) (fun _ => rfl) hFrames
      (by decide) hOrder
  refine ⟨_, w', hHeader, hExec, ?_, hData, hOffsets⟩
  rw [hWritten]
  exact hAdded

end Eiger.MetaWriter
