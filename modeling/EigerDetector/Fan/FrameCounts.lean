import EigerDetector.Fan.Dispatch
import EigerDetector.Fan.Latching
import EigerDetector.Fan.Session
import Mathlib.Algebra.GroupWithZero.Nat
import Mathlib.Data.Finset.Filter
import Mathlib.Data.Finset.Range

/-! The reported frame counts against the images that were really put on a socket. -/
namespace Eiger.Fan

open CharArrays Rapidjson FixedWidth Threads Multipart Transition EigerFan

/-- What the fan counts of the images since the last header. -/
structure FrameCounts where
  lastFrameSent : Nat
  numFramesSent : Nat
  numFramesConsumed : List Nat

def EigerFan.frameCounts (s : EigerFan) : FrameCounts where
  lastFrameSent := s.lastFrameSent
  numFramesSent := s.numFramesSent
  numFramesConsumed := s.numFramesConsumed

/-- One more image for the consumer at this index. -/
def FrameCounts.count (frame index : Int) (counts : FrameCounts) : FrameCounts where
  lastFrameSent :=
    if counts.lastFrameSent < toUInt64 frame then toUInt64 frame else counts.lastFrameSent
  numFramesSent := counts.numFramesSent + 1
  numFramesConsumed :=
    if 0 ≤ index then counts.numFramesConsumed.modify index.toNat (· + 1)
    else counts.numFramesConsumed

def FrameCounts.cleared (counts : FrameCounts) : FrameCounts where
  lastFrameSent := 0
  numFramesSent := 0
  numFramesConsumed := counts.numFramesConsumed.map fun _ => 0

section Messages

variable {env : Environment} {config : EigerFanConfig} {s t : EigerFan} {part1 : Bytes}
  {rest : List Bytes}

theorem frameCounts_sent (u : EigerFan) (sends : Sends) :
    (u.sent sends).frameCounts = u.frameCounts := by
  cases sends with
  | nothing => rfl
  | broadcast parts =>
      rw [EigerFan.sent, EigerFan.broadcast, forward_eq]
      rfl
  | image parts =>
      rw [EigerFan.sent, EigerFan.single, forward_eq]
      rfl

/-- Every header clears the counts, whether it is sent on or not. -/
theorem Idle.header_counts {members : List (Bytes × Value)} {series : Int} {detail : Bytes}
    (h : Idle config s) (hFirst : readFirstPart env part1 = some (.header members series detail))
    (hStep : session env s (.message (part1 :: rest)) = some t) :
    t.frameCounts = s.frameCounts.cleared := by
  obtain ⟨_, s₁, hScratch, ⟨_, rfl⟩ | ⟨_, _, rfl⟩⟩ := h.message_of_first hFirst hStep
  · have hCounts : s₁.frameCounts = s.frameCounts.cleared := by
      obtain ⟨_, _, _, rfl⟩ := hScratch
      rfl
    rw [← hCounts, ← frameCounts_sent s₁ ((FirstPart.header members series detail).plan env s
      rest).sends, Plan.apply, FirstPart.plan]
    rcases headerPlan_cases (taggedPart env members s.configuredAcquisitionID) detail rest with
      ⟨_, hPlan⟩ | ⟨_, hPlan⟩ | ⟨_, _, _, hPlan⟩ <;> rw [hPlan] <;> rfl
  · obtain ⟨_, _, _, rfl⟩ := hScratch
    rfl

/-- A message that is neither a header nor an image leaves the counts alone. -/
theorem Idle.other_counts {first : FirstPart} (h : Idle config s)
    (hFirst : readFirstPart env part1 = some first)
    (hNotHeader : ∀ members series detail, first ≠ .header members series detail)
    (hNotImage : ∀ members frame, first ≠ .image members frame)
    (hStep : session env s (.message (part1 :: rest)) = some t) :
    t.frameCounts = s.frameCounts := by
  obtain ⟨_, s₁, ⟨_, _, _, rfl⟩, ⟨_, rfl⟩ | ⟨_, _, rfl⟩⟩ := h.message_of_first hFirst hStep
  · cases first with
    | header members series detail => exact absurd rfl (hNotHeader members series detail)
    | image members frame => exact absurd rfl (hNotImage members frame)
    | unreadable => rfl
    | unknown => rfl
    | endOfSeries members =>
        exact frameCounts_sent _ (.broadcast [taggedPart env members s.currentAcquisitionID])
  · cases first with
    | header members series detail => exact absurd rfl (hNotHeader members series detail)
    | image members frame => exact absurd rfl (hNotImage members frame)
    | _ => rfl

/-- The parts of an image that are sent on. -/
def imageParts (env : Environment) (s : EigerFan) (members : List (Bytes × Value))
    (rest : List Bytes) : List (Bytes × Bool) :=
  frame (taggedPart env members s.currentAcquisitionID :: rest.take 4)

/-- An image is counted if its handler returns, be it early. -/
theorem Idle.image_counts {members : List (Bytes × Value)} {frame : Int}
    (h : Idle config s) (hFirst : readFirstPart env part1 = some (.image members frame))
    (hStep : session env s (.message (part1 :: rest)) = some t) :
    ∃ index, s.dispatch frame = some index ∧
      ((rest.length < 3 ∧ t.consumers = s.consumers ∧
        t.frameCounts = s.frameCounts.count frame index) ∨
      (3 ≤ rest.length ∧ s.CacheWrites env (min 5 (rest.length + 1)) ∧
        (s.consumerAt index).isSome ∧
        t.consumers = s.consumers.modify index.toNat
          (EigerConsumer.send (imageParts env s members rest)) ∧
        t.frameCounts = s.frameCounts.count frame index) ∨
      (3 ≤ rest.length ∧
        ¬ (s.CacheWrites env (min 5 (rest.length + 1)) ∧ (s.consumerAt index).isSome) ∧
        t.consumers = s.consumers ∧ t.frameCounts = s.frameCounts)) := by
  obtain ⟨hDispatch, s₁, ⟨_, _, _, rfl⟩, hSettled⟩ := h.message_of_first hFirst hStep
  obtain ⟨index, hIndex⟩ := Option.isSome_iff_exists.mp hDispatch
  refine ⟨index, hIndex, ?_⟩
  by_cases hLength : 3 ≤ rest.length
  · have hPlan : (FirstPart.image members frame).plan env s rest =
        ⟨.image (taggedPart env members s.currentAcquisitionID :: rest.take 4),
          [markState .dstrImage, countImage frame]⟩ := by
      rw [FirstPart.plan, imagePlan, if_pos hLength]
      rfl
    have hThrough : (FirstPart.image members frame).GoesThrough env s rest ↔
        s.CacheWrites env (min 5 (rest.length + 1)) ∧ (s.consumerAt index).isSome := by
      rw [FirstPart.GoesThrough, FirstPart.writes, if_pos hLength, hPlan]
      simp [Sends.Found, FirstPart.entered, hIndex, EigerFan.consumerAt]
    right
    rw [hThrough] at hSettled
    rcases hSettled with ⟨hGoes, rfl⟩ | ⟨hLost, forwarded, rfl⟩
    · refine .inl ⟨hLength, hGoes.1, hGoes.2, ?_, ?_⟩
      · rw [hPlan]
        simp [Plan.apply, EigerFan.sent, EigerFan.single, FirstPart.entered, hIndex, imageParts,
          reading, markState, countImage]
      · rw [hPlan, Plan.apply, EigerFan.sent, EigerFan.single, forward_eq, FirstPart.entered,
          hIndex]
        rfl
    · exact .inr ⟨hLength, hLost, rfl, rfl⟩
  · have hPlan : (FirstPart.image members frame).plan env s rest =
        ⟨.nothing, [countImage frame]⟩ := by
      rw [FirstPart.plan, imagePlan, if_neg hLength]
      rfl
    have hThrough : (FirstPart.image members frame).GoesThrough env s rest := by
      rw [FirstPart.GoesThrough, FirstPart.writes, if_neg hLength, hPlan]
      exact ⟨cacheWrites_zero env s, trivial⟩
    rcases hSettled with ⟨_, rfl⟩ | ⟨hLost, _⟩
    · rw [hPlan, Plan.apply, FirstPart.entered, hIndex]
      exact .inl ⟨by omega, rfl, rfl⟩
    · exact absurd hThrough hLost

end Messages

/-- An image that was put on a socket: its frame number and the ranks it went to. -/
structure DeliveredImage where
  frame : Int
  ranks : Finset Nat

/-- The ranks whose sockets took something in a step. -/
def reached (s t : EigerFan) : Finset Nat :=
  (Finset.range t.consumers.length).filter fun rank => t.output rank ≠ s.output rank

theorem reached_of_same {s t : EigerFan} (h : t.consumers = s.consumers) : reached s t = ∅ := by
  refine Finset.filter_eq_empty_iff.mpr fun rank _ hNe => hNe ?_
  rw [EigerFan.output, h, EigerFan.output]

theorem reached_of_modify {s t : EigerFan} {k : Nat} {parts : List (Bytes × Bool)}
    (h : t.consumers = s.consumers.modify k (EigerConsumer.send parts)) (hParts : parts ≠ []) :
    reached s t = if s.router.Connected k then {k} else ∅ := by
  have hOutput : ∀ rank, t.output rank =
      s.output rank ++ if rank = k ∧ s.router.Connected rank then parts else [] := by
    intro rank
    rw [EigerFan.output, h]
    exact output_single { s with currentConsumerIndexToSendTo := k } parts rank
  have hLength : t.consumers.length = s.consumers.length := by rw [h, List.length_modify]
  ext rank
  rw [reached, Finset.mem_filter, Finset.mem_range, hLength, hOutput]
  by_cases hConnected : s.router.Connected k
  · obtain ⟨c, hConsumer, _⟩ := (connected_iff s k).mp hConnected
    have hBound : k < s.consumers.length := (List.getElem?_eq_some_iff.mp hConsumer).1
    rw [if_pos hConnected, Finset.mem_singleton]
    constructor
    · rintro ⟨_, hNe⟩
      by_contra hRank
      exact hNe (by simp [hRank])
    · rintro rfl
      exact ⟨hBound, by simp [hConnected, hParts]⟩
  · have hOther : ¬ (rank = k ∧ s.router.Connected rank) := by
      rintro ⟨rfl, hRank⟩
      exact hConnected hRank
    rw [if_neg hConnected, if_neg hOther, List.append_nil]
    exact ⟨fun hMem => absurd rfl hMem.2, fun hMem => absurd hMem (Finset.notMem_empty _)⟩

/-- The largest frame number, or 0. -/
def maxFrame (images : List DeliveredImage) : Nat :=
  (images.map fun image => image.frame.toNat).foldl max 0

/-- The counts report these images, put on the sockets of so many consumers. -/
structure FrameCounts.Report (counts : FrameCounts) (consumers : Nat)
    (images : List DeliveredImage) : Prop where
  sent : counts.numFramesSent = images.length
  length : counts.numFramesConsumed.length = consumers
  consumed : ∀ rank < consumers, counts.numFramesConsumed[rank]? =
    some (images.countP fun image => rank ∈ image.ranks)
  sums : counts.numFramesConsumed.sum = counts.numFramesSent
  last : counts.lastFrameSent = maxFrame images

theorem sum_modify_succ {counts : List Nat} {k : Nat} (h : k < counts.length) :
    (counts.modify k (· + 1)).sum = counts.sum + 1 := by
  induction counts generalizing k with
  | nil => cases h
  | cons count counts ih =>
      cases k with
      | zero => simp; omega
      | succ k =>
          rw [List.modify_succ_cons, List.sum_cons, ih (Nat.lt_of_succ_lt_succ h), List.sum_cons]
          omega

namespace FrameCounts.Report

variable {counts : FrameCounts} {consumers : Nat} {images : List DeliveredImage}

theorem cleared (h : counts.Report consumers images) : counts.cleared.Report consumers [] := by
  refine ⟨rfl, ?_, ?_, ?_, rfl⟩
  · rw [FrameCounts.cleared, List.length_map, h.length]
  · intro rank hRank
    have hConsumed := h.consumed rank hRank
    rw [FrameCounts.cleared, List.getElem?_map, hConsumed]
    rfl
  · simp [FrameCounts.cleared]

/-- Counting an image reports it, if it was put on the socket it was counted for. -/
theorem count {frame index : Int} (h : counts.Report consumers images) (hLow : 0 ≤ frame)
    (hHigh : frame ≤ maxInt64) (hIndex : 0 ≤ index) (hBound : index.toNat < consumers) :
    (counts.count frame index).Report consumers (images ++ [⟨frame, {index.toNat}⟩]) := by
  have hFrame : toUInt64 frame = frame.toNat := by
    have hRange := toUInt64_of_range hLow (by unfold maxInt64 at hHigh; omega)
    omega
  refine ⟨?_, ?_, ?_, ?_, ?_⟩
  · rw [FrameCounts.count, List.length_append, h.sent]
    rfl
  · simp [FrameCounts.count, hIndex, h.length]
  · intro rank hRank
    have hConsumed := h.consumed rank hRank
    simp only [FrameCounts.count, if_pos hIndex, List.getElem?_modify, hConsumed,
      List.countP_append, List.countP_singleton, Finset.mem_singleton]
    by_cases hSame : rank = index.toNat
    · simp [hSame]
    · have hOther : ¬ index.toNat = rank := fun hEq => hSame hEq.symm
      simp [hSame, hOther]
  · simp only [FrameCounts.count, if_pos hIndex]
    rw [sum_modify_succ (by rw [h.length]; exact hBound), h.sums]
  · simp only [FrameCounts.count, hFrame, maxFrame, List.map_append, List.foldl_append,
      List.map_cons, List.map_nil, List.foldl_cons, List.foldl_nil, h.last]
    split <;> omega

end FrameCounts.Report

/-- The fan with the images that were put on a socket since the last header. -/
structure Counted where
  fan : EigerFan
  images : List DeliveredImage

namespace Counted

/-- The images since the last header after one more event, as the sockets show them. -/
def record (env : Environment) (s t : EigerFan) (images : List DeliveredImage) :
    SessionEvent → List DeliveredImage
  | .message (part1 :: _) =>
      match readFirstPart env part1 with
      | some (.header _ _ _) => []
      | some (.image _ frame) =>
          if reached s t = ∅ then images else images ++ [⟨frame, reached s t⟩]
      | _ => images
  | _ => images

def step (env : Environment) (w : Counted) (event : SessionEvent) : Option Counted :=
  (session env w.fan event).map fun t => ⟨t, record env w.fan t w.images event⟩

def initial (config : EigerFanConfig) : Counted := ⟨Fan.initial config, []⟩

/-- The counts report the images put on a socket since the last header. -/
def Faithful (w : Counted) : Prop :=
  w.fan.frameCounts.Report w.fan.consumers.length w.images

/-- An image is complete, and the consumer it is dispatched to is connected unless a
cache write throws before the sends. -/
def Delivers (env : Environment) (w : Counted) : SessionEvent → Prop
  | .message (part1 :: rest) =>
      ∀ members frame, readFirstPart env part1 = some (.image members frame) →
        3 ≤ rest.length ∧
        (w.fan.CacheWrites env (min 5 (rest.length + 1)) → ∀ index consumer,
          w.fan.dispatch frame = some index → w.fan.consumerAt index = some consumer →
          0 < consumer.connected)
  | _ => True

end Counted

/-- Images are numbered from 0. -/
def SessionEvent.FramesNonneg (env : Environment) : SessionEvent → Prop
  | .message (part1 :: _) =>
      ∀ members frame, readFirstPart env part1 = some (.image members frame) → 0 ≤ frame
  | _ => True

namespace Counted

variable {env : Environment} {config : EigerFanConfig} {w w' : Counted} {event : SessionEvent}

/-- An event which changes neither the counts nor the images. -/
theorem Faithful.unchanged (h : w.Faithful) (hIdle : Idle config w.fan)
    (hIdle' : Idle config w'.fan) (hCounts : w'.fan.frameCounts = w.fan.frameCounts)
    (hImages : w'.images = w.images) : w'.Faithful := by
  have hLength : w'.fan.consumers.length = w.fan.consumers.length := by
    rw [hIdle'.installed.consumers_length, hIdle.installed.consumers_length]
  rw [Faithful, hCounts, hImages, hLength]
  exact h

theorem session_counts {s t : EigerFan} (hStep : session env s event = some t)
    (hNotMessage : ∀ parts, event ≠ .message parts) : t.frameCounts = s.frameCounts := by
  cases event with
  | main event =>
      obtain ⟨_, _, _, _, _, _, _, _, _, _, _, _, _, _, rfl⟩ :=
        mainStep_commanded (session_main hStep)
      rfl
  | startRx =>
      rw [session_startRx hStep]
      rfl
  | message parts => exact absurd rfl (hNotMessage parts)

theorem readFirstPart_frame {part1 : Bytes} {members : List (Bytes × Value)} {frame : Int}
    (h : readFirstPart env part1 = some (.image members frame)) : frame ≤ maxInt64 := by
  have hRead := readFirstPart_reads h
  generalize env.parse (cString part1) = doc at hRead
  cases hRead with
  | image _ hFrame =>
      obtain ⟨_, _, hInt⟩ := Option.bind_eq_some_iff.mp hFrame
      exact (Value.getInt64_range hInt).2

theorem consumerAt_connected {s : EigerFan} {index : Int} {consumer : EigerConsumer}
    (h : s.consumerAt index = some consumer) :
    0 ≤ index ∧ index.toNat < s.consumers.length ∧
      (s.router.Connected index.toNat ↔ 0 < consumer.connected) := by
  obtain ⟨hLow, hHigh⟩ := (consumerAt_isSome_iff index).mp (by rw [h]; rfl)
  rw [EigerFan.consumerAt, if_pos hLow] at h
  refine ⟨hLow, hHigh, ?_⟩
  rw [connected_iff, h]
  simp

/-- A counted image that no socket took makes one count too many. -/
theorem not_report_count {counts : FrameCounts} {consumers : Nat} {images : List DeliveredImage}
    {frame index : Int} (h : counts.Report consumers images) :
    ¬ (counts.count frame index).Report consumers images := by
  intro hAgain
  have hSent : counts.numFramesSent + 1 = images.length := hAgain.sent
  rw [h.sent] at hSent
  omega

/-- An image that is delivered as it should keeps the counts faithful, and no other. -/
theorem image_faithful_iff {part1 : Bytes} {rest : List Bytes} {members : List (Bytes × Value)}
    {frame : Int} (h : w.Faithful) (hIdle : Idle config w.fan)
    (hFirst : readFirstPart env part1 = some (.image members frame)) (hFrame : 0 ≤ frame)
    (hStep : w.step env (.message (part1 :: rest)) = some w') :
    w'.Faithful ↔ w.Delivers env (.message (part1 :: rest)) := by
  obtain ⟨t, hSession, rfl⟩ := Option.map_eq_some_iff.mp hStep
  have hLength : t.consumers.length = w.fan.consumers.length := by
    rw [(hIdle.step hSession).installed.consumers_length, hIdle.installed.consumers_length]
  have hDelivers : w.Delivers env (.message (part1 :: rest)) ↔ 3 ≤ rest.length ∧
      (w.fan.CacheWrites env (min 5 (rest.length + 1)) → ∀ index consumer,
        w.fan.dispatch frame = some index → w.fan.consumerAt index = some consumer →
        0 < consumer.connected) := by
    constructor
    · exact fun hAll => hAll members frame hFirst
    · intro hThis _ _ hRead
      cases hFirst.symm.trans hRead
      exact hThis
  have hRecord : record env w.fan t w.images (.message (part1 :: rest)) =
      if reached w.fan t = ∅ then w.images else w.images ++ [⟨frame, reached w.fan t⟩] := by
    rw [record, hFirst]
  rw [hDelivers, Faithful, hRecord, hLength]
  obtain ⟨index, hIndex, hShort | hSent | hLost⟩ := hIdle.image_counts hFirst hSession
  · obtain ⟨hShort, hConsumers, hCounts⟩ := hShort
    rw [if_pos (reached_of_same hConsumers), hCounts]
    exact ⟨fun hReport => absurd hReport (not_report_count h), fun hAll => by omega⟩
  · obtain ⟨hComplete, hWrites, hAt, hConsumers, hCounts⟩ := hSent
    obtain ⟨consumer, hConsumer⟩ := Option.isSome_iff_exists.mp hAt
    obtain ⟨hLow, hHigh, hConnected⟩ := consumerAt_connected hConsumer
    have hParts : imageParts env w.fan members rest ≠ [] := by
      rw [imageParts, frame_cons]
      exact List.cons_ne_nil _ _
    rw [reached_of_modify hConsumers hParts, hCounts]
    by_cases hOpen : w.fan.router.Connected index.toNat
    · rw [if_pos hOpen, if_neg (Finset.singleton_ne_empty _)]
      refine iff_of_true (h.count hFrame (readFirstPart_frame hFirst) hLow hHigh) ⟨hComplete, ?_⟩
      intro _ other taken hOther hTaken
      cases hIndex.symm.trans hOther
      cases hConsumer.symm.trans hTaken
      exact hConnected.mp hOpen
    · rw [if_neg hOpen, if_pos rfl]
      refine iff_of_false (not_report_count h) fun hAll => hOpen (hConnected.mpr ?_)
      exact hAll.2 hWrites index consumer hIndex hConsumer
  · obtain ⟨hComplete, hNot, hConsumers, hCounts⟩ := hLost
    rw [if_pos (reached_of_same hConsumers), hCounts]
    refine iff_of_true h ⟨hComplete, fun hWrites other consumer hOther hConsumer => ?_⟩
    cases hIndex.symm.trans hOther
    exact absurd ⟨hWrites, by rw [hConsumer]; rfl⟩ hNot

theorem delivers_of_not_image {first : FirstPart} {part1 : Bytes} {rest : List Bytes}
    (hFirst : readFirstPart env part1 = some first)
    (hNotImage : ∀ members frame, first ≠ .image members frame) :
    w.Delivers env (.message (part1 :: rest)) := by
  intro members frame hImage
  cases hFirst.symm.trans hImage
  exact absurd rfl (hNotImage members frame)

/-- From faithful counts, an event leads to faithful counts exactly if it is no image
that goes missing. -/
theorem faithful_iff_delivers (h : w.Faithful) (hIdle : Idle config w.fan)
    (hFrames : event.FramesNonneg env) (hStep : w.step env event = some w') :
    w'.Faithful ↔ w.Delivers env event := by
  obtain ⟨t, hSession, hNext⟩ := Option.map_eq_some_iff.mp hStep
  have hIdle' : Idle config w'.fan := hNext ▸ hIdle.step hSession
  have hUnchanged : w'.fan.frameCounts = w.fan.frameCounts → w'.images = w.images → w'.Faithful :=
    h.unchanged hIdle hIdle'
  cases event with
  | main event =>
      cases hNext
      exact iff_of_true (hUnchanged (session_counts hSession nofun) rfl) trivial
  | startRx =>
      cases hNext
      exact iff_of_true (hUnchanged (session_counts hSession nofun) rfl) trivial
  | message parts =>
      obtain ⟨_, part1, rest, first, _, rfl, hFirst, _⟩ := hIdle.message hSession
      cases first with
      | image members frame =>
          exact image_faithful_iff h hIdle hFirst (hFrames members frame hFirst) hStep
      | header members series detail =>
          refine iff_of_true ?_ (delivers_of_not_image hFirst nofun)
          have hLength : t.consumers.length = w.fan.consumers.length := by
            rw [(hIdle.step hSession).installed.consumers_length, hIdle.installed.consumers_length]
          cases hNext
          rw [Faithful, hIdle.header_counts hFirst hSession, hLength, record, hFirst]
          exact h.cleared
      | _ =>
          refine iff_of_true (hUnchanged ?_ ?_) (delivers_of_not_image hFirst nofun)
          · cases hNext
            exact hIdle.other_counts hFirst nofun nofun hSession
          · cases hNext
            rw [record, hFirst]

theorem faithful_initial (config : EigerFanConfig) : (initial config).Faithful := by
  refine ⟨rfl, ?_, ?_, ?_, rfl⟩
  · exact List.length_replicate.trans List.length_replicate.symm
  · intro rank hRank
    have hBound : rank < config.numConsumers.toNat := by
      rwa [initial, Fan.initial, List.length_replicate] at hRank
    rw [initial, EigerFan.frameCounts, Fan.initial, List.getElem?_replicate, if_pos hBound]
    rfl
  · simp [initial, EigerFan.frameCounts, Fan.initial]

/-- Along every run the reported counts are those of the images put on a socket since
the last header, exactly if every image of the run is delivered as it should. -/
theorem faithful_iff_run {vm : Options} {events : List SessionEvent}
    (hFrames : ∀ event ∈ events, event.FramesNonneg env)
    (hExec : exec (step env) (initial (parseArguments vm)) events = some w) :
    Along (step env) Faithful (initial (parseArguments vm)) events ↔
      Run (step env) (Delivers env) (initial (parseArguments vm)) events w := by
  let inv := fun w : Counted => Idle (parseArguments vm) w.fan ∧ w.Faithful
  have hInit : inv (initial (parseArguments vm)) :=
    ⟨.initial (parseArguments_int32 vm).2, faithful_initial _⟩
  refine along_iff_run_of (SessionEvent.FramesNonneg env) inv hFrames hInit (fun _ h => h.2)
    ?_ ?_ hExec
  · intro w event w' h hProper hDelivers hStep
    obtain ⟨t, hSession, rfl⟩ := Option.map_eq_some_iff.mp hStep
    refine ⟨h.1.step hSession, ?_⟩
    exact (faithful_iff_delivers h.2 h.1 hProper hStep).mpr hDelivers
  · intro w event w' h hProper hMissing hStep
    exact fun hFaithful => hMissing ((faithful_iff_delivers h.2 h.1 hProper hStep).mp hFaithful)

/-- One consumer connects, and an acquisition begins. -/
def acquisitionStart : List SessionEvent :=
  [.main (.monitor zmqEventAccepted 0), .startRx, .message [objectText sampleHeader]]

theorem sampleEnvironment_parse {text : Bytes} {doc : Value}
    (h : sampleEnvironment.parse text = some doc) : doc = sampleHeader ∨ doc = sampleImage := by
  obtain ⟨⟨known, value⟩, hFind, rfl⟩ := Option.map_eq_some_iff.mp h
  rcases List.mem_cons.mp (List.mem_of_find?_eq_some hFind) with hPair | hPair
  · exact .inl (congrArg Prod.snd hPair)
  · exact .inr (congrArg Prod.snd (List.mem_singleton.mp hPair))

theorem framesNonneg_sample (event : SessionEvent) : event.FramesNonneg sampleEnvironment := by
  rcases event with _ | _ | (_ | ⟨part1, rest⟩)
  · trivial
  · trivial
  · trivial
  · intro members frame h
    rw [readFirstPart] at h
    split at h
    · cases h
    · next hParse =>
        rcases sampleEnvironment_parse hParse with hDoc | hDoc <;> cases hDoc <;> cases h
        decide
    · cases h

/-- A header and a complete image. -/
theorem faithful_iff_run_sample :
    ∃ w, exec (step sampleEnvironment) (initial (parseArguments defaultOptions))
        (acquisitionStart ++ [.message [objectText sampleImage, [1], [2], [3]]]) = some w ∧
      (Along (step sampleEnvironment) Faithful (initial (parseArguments defaultOptions))
          (acquisitionStart ++ [.message [objectText sampleImage, [1], [2], [3]]]) ↔
        Run (step sampleEnvironment) (Delivers sampleEnvironment)
          (initial (parseArguments defaultOptions))
          (acquisitionStart ++ [.message [objectText sampleImage, [1], [2], [3]]]) w) := by
  obtain ⟨w, hExec⟩ := Option.isSome_iff_exists.mp
    (by decide +kernel : (exec (step sampleEnvironment) (initial (parseArguments defaultOptions))
      (acquisitionStart ++ [.message [objectText sampleImage, [1], [2], [3]]])).isSome = true)
  exact ⟨w, hExec, faithful_iff_run (fun event _ => framesNonneg_sample event) hExec⟩

/-- An image of one part is counted, and so is one for a consumer that has gone, though
neither is put on a socket. -/
theorem missing_images_counted :
    (∃ w, exec (step sampleEnvironment) (initial (parseArguments defaultOptions))
        (acquisitionStart ++ [.message [objectText sampleImage]]) = some w ∧
      w.fan.numFramesSent = 1 ∧ w.images = [] ∧ ¬ w.Faithful) ∧
    ∃ w, exec (step sampleEnvironment) (initial (parseArguments defaultOptions))
        (acquisitionStart ++ [.main (.monitor zmqEventDisconnected 0),
          .message [objectText sampleImage, [1], [2], [3]]]) = some w ∧
      w.fan.numFramesSent = 1 ∧ w.images = [] ∧ ¬ w.Faithful := by
  have hUnfaithful : ∀ w : Counted, w.fan.numFramesSent = 1 ∧ w.images.length = 0 →
      w.fan.numFramesSent = 1 ∧ w.images = [] ∧ ¬ w.Faithful := by
    rintro w ⟨hSent, hNone⟩
    refine ⟨hSent, List.length_eq_zero_iff.mp hNone, fun hFaithful => ?_⟩
    have hCount : w.fan.numFramesSent = w.images.length := hFaithful.sent
    omega
  constructor
  · obtain ⟨w, hExec, hCounts⟩ := Option.map_eq_some_iff.mp
      (by decide +kernel : ((exec (step sampleEnvironment) (initial (parseArguments defaultOptions))
        (acquisitionStart ++ [.message [objectText sampleImage]])).map fun w =>
          (w.fan.numFramesSent, w.images.length)) = some (1, 0))
    exact ⟨w, hExec, hUnfaithful w (Prod.mk.inj hCounts)⟩
  · obtain ⟨w, hExec, hCounts⟩ := Option.map_eq_some_iff.mp
      (by decide +kernel : ((exec (step sampleEnvironment) (initial (parseArguments defaultOptions))
        (acquisitionStart ++ [.main (.monitor zmqEventDisconnected 0),
          .message [objectText sampleImage, [1], [2], [3]]])).map fun w =>
          (w.fan.numFramesSent, w.images.length)) = some (1, 0))
    exact ⟨w, hExec, hUnfaithful w (Prod.mk.inj hCounts)⟩

end Counted

end Eiger.Fan
