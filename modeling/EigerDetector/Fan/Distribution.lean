import EigerDetector.Fan.FrameCounts
import EigerDetector.Library.BlockCyclic

/-! The fan deals the images of an acquisition to its consumers in blocks. -/
namespace Eiger.Fan

open CharArrays Rapidjson FixedWidth Multipart Transition EigerFan BlockCyclic

/-- An image that was handled: the index it was dispatched to, and the ranks whose sockets
took anything meanwhile. -/
structure DispatchedImage where
  frame : Int
  index : Int
  ranks : Finset Nat

/-- The fan with the images it has handled. -/
structure Distribution where
  fan : EigerFan
  images : List DispatchedImage

/-- No header begins anew, and an image is complete and its cache writes do not throw. -/
def FirstPart.Continues (env : Environment) (s : EigerFan) (rest : List Bytes) :
    FirstPart → Prop
  | header .. => False
  | image .. => 3 ≤ rest.length ∧ s.CacheWrites env (min 5 (rest.length + 1))
  | _ => True

instance (env : Environment) (s : EigerFan) (rest : List Bytes) :
    DecidablePred (FirstPart.Continues env s rest)
  | .unreadable => .isTrue trivial
  | .unknown => .isTrue trivial
  | .header .. => .isFalse id
  | .image .. => inferInstanceAs (Decidable (3 ≤ rest.length ∧ _))
  | .endOfSeries _ => .isTrue trivial

namespace Distribution

/-- The image that was handled, if it was one. -/
def record (env : Environment) (s t : EigerFan) : SessionEvent → List DispatchedImage
  | .message (part1 :: _) =>
      match readFirstPart env part1 with
      | some (.image _ frame) => [⟨frame, t.currentConsumerIndexToSendTo, reached s t⟩]
      | _ => []
  | _ => []

def step (env : Environment) (w : Distribution) (event : SessionEvent) : Option Distribution :=
  (session env w.fan event).map fun t => ⟨t, w.images ++ record env w.fan t event⟩

/-- The acquisition goes on with the same offset and block size. -/
def Continues (env : Environment) (w : Distribution) : SessionEvent → Prop
  | .message (part1 :: rest) =>
      ∀ first ∈ readFirstPart env part1, first.Continues env w.fan rest
  | .main event => ∀ t ∈ mainStep env w.fan event, t.config.blockSize = w.fan.config.blockSize
  | _ => True

instance (env : Environment) (w : Distribution) (event : SessionEvent) :
    Decidable (w.Continues env event) :=
  match event with
  | .message (part1 :: _) => inferInstanceAs (Decidable (∀ first ∈ readFirstPart env part1, _))
  | .message [] => .isTrue trivial
  | .main event => inferInstanceAs (Decidable (∀ t ∈ mainStep env w.fan event, _))
  | .startRx => .isTrue trivial

end Distribution

section Messages

variable {env : Environment} {config : EigerFanConfig} {s t : EigerFan} {part1 : Bytes}
  {rest : List Bytes} {first : FirstPart} {frame : Int}

/-- What a whole message may change, whether its sends throw or not. -/
theorem Idle.message_handled (h : Idle config s) (hFirst : readFirstPart env part1 = some first)
    (hStep : session env s (.message (part1 :: rest)) = some t) :
    ∃ u, t = reading [] [] 0 u ∧
      EigerFan.Handled (first.entered (s.arrived (part1 :: rest))) u := by
  have hDispatch : first.Dispatches (s.arrived (part1 :: rest)) := by
    have hOwn := (h.message_of_first hFirst hStep).1
    cases first <;> exact hOwn
  by_cases hState : s.state = .waitingConsumers
  · rw [session_message_waiting hState] at hStep
    cases hStep
  · have hQueue : (s.arrived (part1 :: rest)).rxSocket.queue =
        Multipart.frame (part1 :: rest) ++ [] := (List.append_nil _).symm
    obtain ⟨u, hReceive, hHandled⟩ := receive_total env hQueue hFirst hDispatch
    rw [session_message h.queue hState, hReceive] at hStep
    cases hStep
    exact ⟨u, rfl, hHandled⟩

/-- Only a header sets the offset in force. -/
theorem Idle.message_settings (h : Idle config s) (hFirst : readFirstPart env part1 = some first)
    (hNotHeader : ∀ members series detail, first ≠ .header members series detail)
    (hStep : session env s (.message (part1 :: rest)) = some t) :
    t.currentOffset = s.currentOffset ∧ t.config = s.config := by
  obtain ⟨u, rfl, hHandled⟩ := h.message_handled hFirst hStep
  obtain ⟨_, _, _, _, _, _, _, _, _, rfl⟩ := hHandled
  cases first with
  | header members series detail => exact absurd rfl (hNotHeader members series detail)
  | _ => exact ⟨rfl, rfl⟩

theorem Idle.image_index {members : List (Bytes × Value)} (h : Idle config s)
    (hFirst : readFirstPart env part1 = some (.image members frame))
    (hStep : session env s (.message (part1 :: rest)) = some t) :
    t.currentConsumerIndexToSendTo = (s.dispatch frame).getD 0 := by
  obtain ⟨u, rfl, hHandled⟩ := h.message_handled hFirst hStep
  obtain ⟨_, _, _, _, _, _, _, _, _, rfl⟩ := hHandled
  rfl

end Messages

/-- The frame number counts from the offset without going below zero or out of 64 bits. -/
def EigerFan.InRange (s : EigerFan) (frame : Int) : Prop :=
  0 ≤ frame ∧ 0 ≤ frame + s.currentOffset ∧ frame + s.currentOffset ≤ maxInt64

/-- The owner of an image when the consumers get blocks of images in turn. -/
def EigerFan.ownerOf (s : EigerFan) (frame : Int) : Nat :=
  owner s.config.numConsumers.toNat s.config.blockSize.toNat (frame + s.currentOffset).toNat

section Dispatching

variable {config : EigerFanConfig} {s : EigerFan} {frame : Int}

/-- The index an image is dispatched to is that of its owner. -/
theorem dispatch_owner (h : Installed config s) (hNum : 1 ≤ s.config.numConsumers)
    (hNumInt : s.config.numConsumers ≤ maxInt32) (hBlock : 1 ≤ s.config.blockSize)
    (hRange : s.InRange frame) : s.dispatch frame = some (s.ownerOf frame : Int) := by
  obtain ⟨hFrame, hLow, hHigh⟩ := hRange
  rw [dispatch_eq_tmod h hFrame hHigh hNum hNumInt (by omega)]
  rw [Int.tdiv_eq_ediv_of_nonneg hLow,
    Int.tmod_eq_emod_of_nonneg (Int.ediv_nonneg hLow (by omega)), ownerOf, owner]
  push_cast
  rw [Int.toNat_of_nonneg hLow, Int.toNat_of_nonneg (by omega), Int.toNat_of_nonneg (by omega)]

/-- Two images have the same owner exactly if their block numbers are congruent. -/
theorem ownerOf_eq_iff {other : Int} (hNum : 1 ≤ s.config.numConsumers)
    (hBlock : 1 ≤ s.config.blockSize) (hRange : s.InRange frame) (hRange' : s.InRange other) :
    s.ownerOf frame = s.ownerOf other ↔
      (frame + s.currentOffset) / s.config.blockSize ≡
        (other + s.currentOffset) / s.config.blockSize [ZMOD s.config.numConsumers] := by
  have hCast : ∀ number : Int, 0 ≤ number + s.currentOffset → (s.ownerOf number : Int) =
      (number + s.currentOffset) / s.config.blockSize % s.config.numConsumers := by
    intro number hNumber
    rw [ownerOf, owner]
    push_cast
    rw [Int.toNat_of_nonneg hNumber, Int.toNat_of_nonneg (by omega),
      Int.toNat_of_nonneg (by omega)]
  rw [Int.ModEq, ← hCast frame hRange.2.1, ← hCast other hRange'.2.1, Nat.cast_inj]

end Dispatching

/-- The settings under which images are dealt to a consumer. -/
structure EigerFan.Deals (config : EigerFanConfig) (s : EigerFan) : Prop where
  idle : Idle config s
  consumers : 1 ≤ s.config.numConsumers
  consumersInt : s.config.numConsumers ≤ maxInt32
  block : 1 ≤ s.config.blockSize
  counters : s.numFramesConsumed.length = s.config.numConsumers.toNat

/-- How often a consumer was counted. -/
def EigerFan.consumed (s : EigerFan) (rank : Nat) : Nat := (s.numFramesConsumed[rank]?).getD 0

namespace Distribution

/-- Since a state each image went to its owner and was counted for it. -/
structure Dealt (config : EigerFanConfig) (s : EigerFan) (w : Distribution) : Prop where
  deals : w.fan.Deals config
  config_eq : w.fan.config = s.config
  offset : w.fan.currentOffset = s.currentOffset
  placed : ∀ image ∈ w.images, s.InRange image.frame →
    image.index = s.ownerOf image.frame ∧ image.ranks ⊆ {s.ownerOf image.frame}
  counted : (∀ image ∈ w.images, s.InRange image.frame) → ∀ rank,
    w.fan.consumed rank = s.consumed rank +
      w.images.countP fun image => s.ownerOf image.frame = rank

variable {env : Environment} {config : EigerFanConfig} {s t : EigerFan} {w w' : Distribution}
  {event : SessionEvent}

theorem dealt_start (h : s.Deals config) : Dealt config s ⟨s, []⟩ := by
  refine ⟨h, rfl, rfl, fun image hImage => ?_, fun _ rank => ?_⟩
  · cases hImage
  · rw [List.countP_nil, Nat.add_zero]

/-- An event which is no image and keeps settings and counts. -/
theorem Dealt.unchanged (h : Dealt config s w) (hIdle : Idle config t)
    (hConfig : t.config = w.fan.config) (hOffset : t.currentOffset = w.fan.currentOffset)
    (hCounts : t.numFramesConsumed = w.fan.numFramesConsumed) :
    Dealt config s ⟨t, w.images⟩ := by
  obtain ⟨hDeals, hSame, hOld, hPlaced, hCounted⟩ := h
  refine ⟨⟨hIdle, ?_, ?_, ?_, ?_⟩, hConfig.trans hSame, hOffset.trans hOld, hPlaced,
    fun hRange rank => ?_⟩
  · rw [hConfig]
    exact hDeals.consumers
  · rw [hConfig]
    exact hDeals.consumersInt
  · rw [hConfig]
    exact hDeals.block
  · rw [hCounts, hConfig]
    exact hDeals.counters
  · rw [← hCounted hRange rank]
    show (t.numFramesConsumed[rank]?).getD 0 = (w.fan.numFramesConsumed[rank]?).getD 0
    rw [hCounts]

theorem count_length (counts : FrameCounts) (frame index : Int) :
    (counts.count frame index).numFramesConsumed.length = counts.numFramesConsumed.length := by
  show (if 0 ≤ index then counts.numFramesConsumed.modify index.toNat (· + 1)
    else counts.numFramesConsumed).length = _
  split
  · exact List.length_modify ..
  · rfl

theorem count_consumed (counts : FrameCounts) (frame : Int) (rank : Nat) :
    (counts.count frame rank).numFramesConsumed =
      counts.numFramesConsumed.modify rank (· + 1) := by
  simp [FrameCounts.count]

theorem getD_modify_succ {counts : List Nat} {k : Nat} (h : k < counts.length) (rank : Nat) :
    ((counts.modify k (· + 1))[rank]?).getD 0 =
      (counts[rank]?).getD 0 + if k = rank then 1 else 0 := by
  rw [List.getElem?_modify]
  by_cases hSame : k = rank
  · subst hSame
    simp [h]
  · simp [hSame]

theorem reached_subset {k : Nat} {parts : List (Bytes × Bool)}
    (h : t.consumers = s.consumers.modify k (EigerConsumer.send parts)) (hParts : parts ≠ []) :
    reached s t ⊆ {k} := by
  rw [reached_of_modify h hParts]
  split
  · exact Finset.Subset.refl _
  · exact Finset.empty_subset _

/-- A complete image in range goes to its owner and is counted for it. -/
theorem Dealt.image_sent {part1 : Bytes} {rest : List Bytes} {members : List (Bytes × Value)}
    {frame : Int} (h : Dealt config s w)
    (hFirst : readFirstPart env part1 = some (.image members frame))
    (hContinues : 3 ≤ rest.length ∧ w.fan.CacheWrites env (min 5 (rest.length + 1)))
    (hStep : session env w.fan (.message (part1 :: rest)) = some t) (hRange : s.InRange frame) :
    s.ownerOf frame < s.config.numConsumers.toNat ∧
      w.fan.dispatch frame = some (s.ownerOf frame : Int) ∧
      t.consumers = w.fan.consumers.modify (s.ownerOf frame)
        (EigerConsumer.send (imageParts env w.fan members rest)) ∧
      t.frameCounts = w.fan.frameCounts.count frame (s.ownerOf frame) := by
  obtain ⟨hIdle, hNum, hNumInt, hBlock, _⟩ := h.deals
  have hOwner : w.fan.ownerOf frame = s.ownerOf frame := by
    rw [EigerFan.ownerOf, h.config_eq, h.offset, EigerFan.ownerOf]
  have hDispatch : w.fan.dispatch frame = some (s.ownerOf frame : Int) := by
    rw [← hOwner]
    refine dispatch_owner hIdle.installed hNum hNumInt hBlock ?_
    rw [EigerFan.InRange, h.offset]
    exact hRange
  have hBound : s.ownerOf frame < s.config.numConsumers.toNat :=
    owner_lt (by rw [h.config_eq] at hNum; omega) _
  have hAt : (w.fan.consumerAt (s.ownerOf frame)).isSome := by
    refine (consumerAt_isSome_iff _).mpr ⟨Int.natCast_nonneg _, ?_⟩
    rw [Int.toNat_natCast, hIdle.length_eq, h.config_eq]
    exact hBound
  refine ⟨hBound, hDispatch, ?_⟩
  obtain ⟨index, hIndex, hShort | hSent | hLost⟩ := hIdle.image_counts hFirst hStep
  · exact absurd hContinues.1 (by omega)
  · cases hDispatch.symm.trans hIndex
    obtain ⟨_, _, _, hConsumers, hCounts⟩ := hSent
    rw [Int.toNat_natCast] at hConsumers
    exact ⟨hConsumers, hCounts⟩
  · cases hDispatch.symm.trans hIndex
    exact absurd ⟨hContinues.2, hAt⟩ hLost.2.1

theorem Dealt.image {part1 : Bytes} {rest : List Bytes} {members : List (Bytes × Value)}
    {frame : Int} (h : Dealt config s w)
    (hFirst : readFirstPart env part1 = some (.image members frame))
    (hContinues : 3 ≤ rest.length ∧ w.fan.CacheWrites env (min 5 (rest.length + 1)))
    (hStep : session env w.fan (.message (part1 :: rest)) = some t) :
    Dealt config s
      ⟨t, w.images ++ [⟨frame, t.currentConsumerIndexToSendTo, reached w.fan t⟩]⟩ := by
  obtain ⟨hIdle, hNum, hNumInt, hBlock, hLength⟩ := h.deals
  obtain ⟨hOffset, hConfig⟩ := hIdle.message_settings hFirst nofun hStep
  have hSent := h.image_sent hFirst hContinues hStep
  have hSame : t.numFramesConsumed.length = w.fan.numFramesConsumed.length := by
    obtain ⟨index, _, hShort | hSent | hLost⟩ := hIdle.image_counts hFirst hStep
    · exact (congrArg (fun counts => counts.numFramesConsumed.length) hShort.2.2).trans
        (count_length _ _ _)
    · exact (congrArg (fun counts => counts.numFramesConsumed.length) hSent.2.2.2.2).trans
        (count_length _ _ _)
    · exact congrArg (fun counts => counts.numFramesConsumed.length) hLost.2.2.2
  refine ⟨⟨hIdle.step hStep, ?_, ?_, ?_, ?_⟩, hConfig.trans h.config_eq, hOffset.trans h.offset,
    ?_, ?_⟩
  · rw [hConfig]
    exact hNum
  · rw [hConfig]
    exact hNumInt
  · rw [hConfig]
    exact hBlock
  · rw [hSame, hConfig]
    exact hLength
  · intro image hImage hRange
    rcases List.mem_append.mp hImage with hOld | hNew
    · exact h.placed image hOld hRange
    · rw [List.mem_singleton.mp hNew] at hRange ⊢
      obtain ⟨_, hDispatch, hConsumers, _⟩ := hSent hRange
      refine ⟨?_, reached_subset hConsumers ?_⟩
      · show t.currentConsumerIndexToSendTo = _
        rw [hIdle.image_index hFirst hStep, hDispatch]
        rfl
      · rw [imageParts, frame_cons]
        exact List.cons_ne_nil _ _
  · intro hRange rank
    have hOld := h.counted (fun image hImage => hRange image (List.mem_append_left _ hImage)) rank
    obtain ⟨hBound, _, _, hCounts⟩ := hSent (hRange _ (List.mem_append_right _
      (List.mem_singleton.mpr rfl)))
    have hConsumed : t.numFramesConsumed =
        w.fan.numFramesConsumed.modify (s.ownerOf frame) (· + 1) :=
      (congrArg FrameCounts.numFramesConsumed hCounts).trans (count_consumed _ _ _)
    rw [List.countP_append, List.countP_singleton, ← Nat.add_assoc, ← hOld]
    show (t.numFramesConsumed[rank]?).getD 0 = _
    rw [hConsumed, getD_modify_succ (by rw [hLength, h.config_eq]; exact hBound)]
    simp only [EigerFan.consumed, decide_eq_true_eq]

/-- Every event with which the acquisition continues keeps the images dealt. -/
theorem Dealt.step (h : Dealt config s w) (hContinues : w.Continues env event)
    (hStep : w.step env event = some w') : Dealt config s w' := by
  obtain ⟨t, hSession, rfl⟩ := Option.map_eq_some_iff.mp hStep
  have hIdle := h.deals.idle
  have hIdle' := hIdle.step hSession
  have hKeeps : record env w.fan t event = [] → t.config = w.fan.config →
      t.currentOffset = w.fan.currentOffset → t.frameCounts = w.fan.frameCounts →
      Dealt config s ⟨t, w.images ++ record env w.fan t event⟩ := by
    intro hNone hConfig hOffset hCounts
    rw [hNone, List.append_nil]
    exact h.unchanged hIdle' hConfig hOffset (congrArg FrameCounts.numFramesConsumed hCounts)
  cases event with
  | main event =>
      have hCounts := Counted.session_counts hSession nofun
      have hMain := session_main hSession
      have hBlock : t.config.blockSize = w.fan.config.blockSize := hContinues t hMain
      obtain ⟨_, _, _, _, _, _, _, _, _, _, _, _, _, block, rfl⟩ := mainStep_commanded hMain
      have hSame : block = w.fan.config.blockSize := hBlock
      subst hSame
      exact hKeeps rfl rfl rfl hCounts
  | startRx =>
      have hStart := session_startRx hSession
      subst hStart
      exact hKeeps rfl rfl rfl rfl
  | message parts =>
      obtain ⟨_, part1, rest, first, _, rfl, hFirst, _⟩ := hIdle.message hSession
      have hGoesOn : first.Continues env w.fan rest := hContinues first hFirst
      have hOther : (∀ members series detail, first ≠ .header members series detail) →
          (∀ members frame, first ≠ .image members frame) →
          record env w.fan t (.message (part1 :: rest)) = [] →
          Dealt config s ⟨t, w.images ++ record env w.fan t (.message (part1 :: rest))⟩ := by
        intro hNotHeader hNotImage hNone
        obtain ⟨hOffset, hConfig⟩ := hIdle.message_settings hFirst hNotHeader hSession
        exact hKeeps hNone hConfig hOffset
          (hIdle.other_counts hFirst hNotHeader hNotImage hSession)
      cases first with
      | header members series detail => exact hGoesOn.elim
      | image members frame =>
          have hRecord : record env w.fan t (.message (part1 :: rest)) =
              [⟨frame, t.currentConsumerIndexToSendTo, reached w.fan t⟩] := by
            rw [record, hFirst]
          rw [hRecord]
          exact h.image hFirst hGoesOn hSession
      | unreadable => exact hOther nofun nofun (by rw [record, hFirst])
      | unknown => exact hOther nofun nofun (by rw [record, hFirst])
      | endOfSeries members => exact hOther nofun nofun (by rw [record, hFirst])

theorem dealt_of_run {events : List SessionEvent} (h : s.Deals config)
    (hRun : Run (step env) (Continues env) ⟨s, []⟩ events w) : Dealt config s w :=
  hRun.invariant (dealt_start h) fun _ _ _ hDealt hContinues hStep => hDealt.step hContinues hStep

/-- The images are those of a window of frames, in some order. -/
def Window (first : Int) (count : Nat) (w : Distribution) : Prop :=
  (w.images.map DispatchedImage.frame).Perm ((List.range count).map fun k : Nat => first + k)

/-- Whatever its order, each image of a window of frames went to one consumer, two of them
to the same one exactly if their blocks are congruent, and what they added to the counts
differs by at most a block, and not at all if every consumer had its turn equally often. -/
structure Shared (s : EigerFan) (first : Int) (count : Nat) (w : Distribution) : Prop where
  one : ∀ image ∈ w.images, 0 ≤ image.index ∧ image.index < s.config.numConsumers ∧
    image.ranks ⊆ {image.index.toNat}
  blocks : ∀ image ∈ w.images, ∀ other ∈ w.images, image.index = other.index ↔
    (image.frame + s.currentOffset) / s.config.blockSize ≡
      (other.frame + s.currentOffset) / s.config.blockSize [ZMOD s.config.numConsumers]
  grown : ∀ rank, s.consumed rank ≤ w.fan.consumed rank
  balanced : ∀ rank < s.config.numConsumers.toNat, ∀ other < s.config.numConsumers.toNat,
    w.fan.consumed rank - s.consumed rank ≤
      w.fan.consumed other - s.consumed other + s.config.blockSize.toNat
  equal : s.config.numConsumers.toNat * s.config.blockSize.toNat ∣ count →
    ∀ rank < s.config.numConsumers.toNat,
      w.fan.consumed rank - s.consumed rank = count / s.config.numConsumers.toNat

theorem inRange_of_window {first : Int} {count : Nat} (hWindow : w.Window first count)
    (hFirst : 0 ≤ first) (hLow : 0 ≤ first + s.currentOffset)
    (hHigh : first + count - 1 + s.currentOffset ≤ maxInt64) :
    ∀ image ∈ w.images, s.InRange image.frame := by
  intro image hImage
  have hFrame := hWindow.subset (List.mem_map_of_mem hImage)
  obtain ⟨k, hBound, hSame⟩ := List.mem_map.mp hFrame
  have hBound := List.mem_range.mp hBound
  rw [EigerFan.InRange, ← hSame]
  omega

/-- What was counted for a consumer in a window is its share of it. -/
theorem Dealt.grown_eq {first : Int} {count : Nat} (h : Dealt config s w)
    (hWindow : w.Window first count) (hLow : 0 ≤ first + s.currentOffset)
    (hRange : ∀ image ∈ w.images, s.InRange image.frame) (rank : Nat) :
    w.fan.consumed rank = s.consumed rank + share s.config.numConsumers.toNat
      s.config.blockSize.toNat rank (first + s.currentOffset).toNat count := by
  rw [h.counted hRange rank]
  congr 1
  refine countP_of_perm ?_
  have hMap := hWindow.map fun frame => (frame + s.currentOffset).toNat
  rw [List.map_map, List.map_map] at hMap
  refine hMap.trans (List.Perm.of_eq (List.map_congr_left fun k _ => ?_))
  show (first + (k : Int) + s.currentOffset).toNat = (first + s.currentOffset).toNat + k
  omega

/-- There is a counter for each consumer in every state of a session. -/
theorem counters_step (hIdle : Idle config s) (hStep : session env s event = some t)
    (h : s.numFramesConsumed.length = s.config.numConsumers.toNat) :
    t.numFramesConsumed.length = t.config.numConsumers.toNat := by
  have hConfig : t.config.numConsumers = s.config.numConsumers := by
    rw [(hIdle.step hStep).installed.numConsumers, hIdle.installed.numConsumers]
  rw [hConfig, ← h]
  have hSame : t.frameCounts = s.frameCounts →
      t.numFramesConsumed.length = s.numFramesConsumed.length :=
    congrArg fun counts : FrameCounts => counts.numFramesConsumed.length
  cases event with
  | main event => exact hSame (Counted.session_counts hStep nofun)
  | startRx => exact hSame (Counted.session_counts hStep nofun)
  | message parts =>
      obtain ⟨_, part1, rest, first, _, rfl, hFirst, _⟩ := hIdle.message hStep
      have hCount : ∀ frame index, t.frameCounts = s.frameCounts.count frame index →
          t.numFramesConsumed.length = s.numFramesConsumed.length := fun frame index hCounts =>
        (congrArg (fun counts => counts.numFramesConsumed.length) hCounts).trans
          (count_length _ frame index)
      cases first with
      | header members series detail =>
          have hCleared := congrArg (fun counts => counts.numFramesConsumed.length)
            (hIdle.header_counts hFirst hStep)
          exact hCleared.trans (List.length_map _)
      | image members frame =>
          obtain ⟨index, _, hShort | hSent | hLost⟩ := hIdle.image_counts hFirst hStep
          · exact hCount frame index hShort.2.2
          · exact hCount frame index hSent.2.2.2.2
          · exact hSame hLost.2.2.2
      | unreadable => exact hSame (hIdle.other_counts hFirst nofun nofun hStep)
      | unknown => exact hSame (hIdle.other_counts hFirst nofun nofun hStep)
      | endOfSeries members => exact hSame (hIdle.other_counts hFirst nofun nofun hStep)

theorem counters_initial (config : EigerFanConfig) :
    (Fan.initial config).numFramesConsumed.length =
      (Fan.initial config).config.numConsumers.toNat := List.length_replicate

/-- Any state of a session deals images, given a consumer and a proper block size. -/
theorem deals_of_run {vm : Options} {events : List SessionEvent}
    (hReached : Run (session env) always (Fan.initial (parseArguments vm)) events s)
    (hNum : 1 ≤ s.config.numConsumers) (hBlock : 1 ≤ s.config.blockSize) :
    s.Deals (parseArguments vm) := by
  obtain ⟨hNumInt, hBlockInt⟩ := parseArguments_int32 vm
  let inv (s : EigerFan) : Prop := Idle (parseArguments vm) s ∧
    s.numFramesConsumed.length = s.config.numConsumers.toNat
  have hInit : inv (Fan.initial (parseArguments vm)) :=
    ⟨.initial hBlockInt, counters_initial (parseArguments vm)⟩
  have hFinal := hReached.invariant hInit fun _ _ _ hOld _ hStep =>
    ⟨hOld.1.step hStep, counters_step hOld.1 hStep hOld.2⟩
  refine ⟨hFinal.1, hNum, ?_, hBlock, hFinal.2⟩
  rw [hFinal.1.installed.numConsumers]
  exact hNumInt.2

/-- From any state of a session on, the images of a window of frames are dealt in blocks,
whatever else happens to the fan that leaves offset and block size alone. -/
theorem dealt_in_blocks {vm : Options} {before events : List SessionEvent} {first : Int}
    {count : Nat}
    (hReached : Run (session env) always (Fan.initial (parseArguments vm)) before s)
    (hNum : 1 ≤ s.config.numConsumers) (hBlock : 1 ≤ s.config.blockSize)
    (hRun : Run (step env) (Continues env) ⟨s, []⟩ events w) (hWindow : w.Window first count)
    (hFirst : 0 ≤ first) (hLow : 0 ≤ first + s.currentOffset)
    (hHigh : first + count - 1 + s.currentOffset ≤ maxInt64) : w.Shared s first count := by
  have hDeals := deals_of_run hReached hNum hBlock
  have hDealt := dealt_of_run hDeals hRun
  have hRange := inRange_of_window hWindow hFirst hLow hHigh
  have hGrown := hDealt.grown_eq hWindow hLow hRange
  have hPos : 0 < s.config.blockSize.toNat := by omega
  have hAdded : ∀ rank, w.fan.consumed rank - s.consumed rank = share s.config.numConsumers.toNat
      s.config.blockSize.toNat rank (first + s.currentOffset).toNat count := by
    intro rank
    rw [hGrown, Nat.add_sub_cancel_left]
  refine ⟨fun image hImage => ?_, fun image hImage other hOther => ?_, fun rank => ?_,
    fun rank hRank other hOther => ?_, fun hTurns rank hRank => ?_⟩
  · obtain ⟨hIndex, hRanks⟩ := hDealt.placed image hImage (hRange image hImage)
    have hBound : s.ownerOf image.frame < s.config.numConsumers.toNat := owner_lt (by omega) _
    rw [hIndex, Int.toNat_natCast]
    exact ⟨Int.natCast_nonneg _, by omega, hRanks⟩
  · rw [(hDealt.placed image hImage (hRange image hImage)).1,
      (hDealt.placed other hOther (hRange other hOther)).1, Nat.cast_inj]
    exact ownerOf_eq_iff hNum hBlock (hRange image hImage) (hRange other hOther)
  · rw [hGrown]
    exact Nat.le_add_right _ _
  · rw [hAdded, hAdded]
    exact share_balanced hPos hRank hOther
  · rw [hAdded]
    exact share_of_dvd hPos hRank hTurns

/-- An image of which the fan reads nothing but the frame number. -/
def bareImage (frame : Int) : Value :=
  .object [(headerTypeKey, .string imageHeaderType), (frameKey, .int frame)]

def bareEnvironment : Environment :=
  .ofTexts [(objectText (bareImage 0), bareImage 0), (objectText (bareImage 1), bareImage 1)]

/-- Two images in the wrong order for two consumers. -/
theorem two_images_dealt :
    ∃ s w, Run (session bareEnvironment) always
        (Fan.initial (parseArguments { defaultOptions with consumers := 2 }))
        [.main (.monitor zmqEventAccepted 0), .main (.monitor zmqEventAccepted 1), .startRx] s ∧
      Run (step bareEnvironment) (Continues bareEnvironment) ⟨s, []⟩
        [.message [objectText (bareImage 1), [1], [2], [3]],
          .message [objectText (bareImage 0), [1], [2], [3]]] w ∧
      w.Shared s 0 2 := by
  have hExec : ((exec (session bareEnvironment)
      (Fan.initial (parseArguments { defaultOptions with consumers := 2 }))
      [.main (.monitor zmqEventAccepted 0), .main (.monitor zmqEventAccepted 1), .startRx]).bind
      fun s =>
        (exec (guarded (step bareEnvironment) (Continues bareEnvironment)) ⟨s, []⟩
          [.message [objectText (bareImage 1), [1], [2], [3]],
            .message [objectText (bareImage 0), [1], [2], [3]]]).map fun w =>
          (s.config.numConsumers, s.config.blockSize, s.currentOffset,
            w.images.map DispatchedImage.frame)) = some (2, 1, 0, [1, 0]) := by decide +kernel
  obtain ⟨s, hStart, hDealt⟩ := Option.bind_eq_some_iff.mp hExec
  obtain ⟨w, hGuarded, hSeen⟩ := Option.map_eq_some_iff.mp hDealt
  obtain ⟨hNum, hSeen⟩ := Prod.mk.inj hSeen
  obtain ⟨hBlock, hSeen⟩ := Prod.mk.inj hSeen
  obtain ⟨hOffset, hFrames⟩ := Prod.mk.inj hSeen
  have hReached := run_always_iff.mpr hStart
  have hRun := run_iff_exec_guarded.mpr hGuarded
  have hWindow : w.Window 0 2 := by
    rw [Window, hFrames]
    exact List.Perm.swap 0 1 []
  exact ⟨s, w, hReached, hRun, dealt_in_blocks hReached (by omega) (by omega) hRun hWindow
    (le_refl 0) (by omega) (by rw [hOffset]; decide)⟩

end Distribution

end Eiger.Fan
