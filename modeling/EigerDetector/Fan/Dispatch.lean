import EigerDetector.Fan.Operation
import EigerDetector.Fan.Preparation

/-! The arithmetic that picks the consumer of an image, for every configuration
that start-up and control messages can install. -/
namespace Eiger.Fan

open CharArrays Rapidjson FixedWidth Transition EigerFan

/-- The sum stays within 64 bits, no division faults, and the index is that of a
consumer. -/
def EigerFan.DispatchSafe (s : EigerFan) (frame : Int) : Prop :=
  minInt64 ≤ frame + s.currentOffset ∧ frame + s.currentOffset ≤ maxInt64 ∧
    ∃ index, s.dispatch frame = some index ∧ 0 ≤ index ∧ index < s.config.numConsumers ∧
      (s.consumerAt index).isSome

/-- There is a consumer, the block size is not zero, the sum stays below 2^63,
and the sum and the block size have the same sign or the number of whole blocks
in the sum is a multiple of the number of consumers. -/
def EigerFan.DispatchCondition (s : EigerFan) (frame : Int) : Prop :=
  1 ≤ s.config.numConsumers ∧ s.config.blockSize ≠ 0 ∧ frame + s.currentOffset ≤ maxInt64 ∧
    ((0 ≤ frame + s.currentOffset ∧ 0 < s.config.blockSize) ∨
      (frame + s.currentOffset ≤ 0 ∧ s.config.blockSize < 0) ∨
      s.config.numConsumers ∣
        (((frame + s.currentOffset).natAbs / s.config.blockSize.natAbs : Nat) : Int))

/-- Within range, the dispatch is a truncated quotient and remainder. -/
theorem dispatch_eq_tmod {config : EigerFanConfig} {s : EigerFan} {frame : Int}
    (h : Installed config s) (hFrame : 0 ≤ frame) (hSum : frame + s.currentOffset ≤ maxInt64)
    (hNum : 1 ≤ s.config.numConsumers) (hNumInt : s.config.numConsumers ≤ maxInt32)
    (hBlock : s.config.blockSize ≠ 0) :
    s.dispatch frame =
      some (((frame + s.currentOffset).tdiv s.config.blockSize).tmod s.config.numConsumers) := by
  obtain ⟨hOffsetLow, _⟩ := h.currentOffset
  unfold minInt32 at hOffsetLow
  have hStore : toInt64 (frame + s.currentOffset) = frame + s.currentOffset :=
    toInt64_of_range (by unfold minInt64; omega) hSum
  have hDiv : int64Div (toInt64 (frame + s.currentOffset)) s.config.blockSize =
      some ((frame + s.currentOffset).tdiv s.config.blockSize) := by
    rw [hStore, int64Div, if_neg]
    unfold minInt64
    omega
  have hRem : int64Rem ((frame + s.currentOffset).tdiv s.config.blockSize)
        s.config.numConsumers =
      some (((frame + s.currentOffset).tdiv s.config.blockSize).tmod s.config.numConsumers) := by
    rw [int64Rem, if_neg]
    omega
  have hHigh := Int.tmod_lt_of_pos ((frame + s.currentOffset).tdiv s.config.blockSize)
    (by omega : 0 < s.config.numConsumers)
  have hLow := Int.lt_tmod_of_pos ((frame + s.currentOffset).tdiv s.config.blockSize)
    (by omega : 0 < s.config.numConsumers)
  unfold maxInt32 at hNumInt
  rw [EigerFan.dispatch, dispatchIndex, hDiv, Option.bind_eq_bind, Option.bind_some, hRem,
    Option.bind_some, toInt32_of_range (by unfold minInt32; omega) (by unfold maxInt32; omega)]
  rfl

theorem parseArguments_int32 (vm : Options) :
    IsInt32 (parseArguments vm).numConsumers ∧ IsInt32 (parseArguments vm).blockSize := by
  simp only [parseArguments]
  exact ⟨isInt32_toInt32 vm.consumers, isInt32_toInt32 vm.blocksize⟩

/-- In every reachable state and for every image, the dispatch is safe exactly
under the condition on the settings in force and the frame number. -/
theorem dispatchSafe_iff_condition {env : Environment} {vm : Options} {events : List FanEvent}
    {s : EigerFan} {frame : Int}
    (hRun : Run (operate env) always (initial (parseArguments vm)) events s)
    (hFrame : 0 ≤ frame) :
    s.DispatchSafe frame ↔ s.DispatchCondition frame := by
  obtain ⟨hConsumersInt, hBlockInt⟩ := parseArguments_int32 vm
  have hInstalled := installed_reachable hBlockInt hRun
  have hNumInt : s.config.numConsumers ≤ maxInt32 := by
    rw [hInstalled.numConsumers]
    exact hConsumersInt.2
  obtain ⟨hOffsetLow, _⟩ := hInstalled.currentOffset
  unfold minInt32 at hOffsetLow
  constructor
  · rintro ⟨_, hSum, index, hIndex, hLow, hHigh, _⟩
    have hNum : 1 ≤ s.config.numConsumers := by omega
    have hBlock : s.config.blockSize ≠ 0 := by
      intro hZero
      rw [EigerFan.dispatch, dispatchIndex, hZero, int64Div, if_pos (.inl rfl)] at hIndex
      cases hIndex
    rw [dispatch_eq_tmod hInstalled hFrame hSum hNum hNumInt hBlock] at hIndex
    cases hIndex
    have hSign := (tmod_nonneg_iff (by omega : 0 < s.config.numConsumers)).mp hLow
    exact ⟨hNum, hBlock, hSum, (tdiv_nonneg_or_dvd_iff hBlock).mp hSign⟩
  · rintro ⟨hNum, hBlock, hSum, hSign⟩
    have hLow := (tmod_nonneg_iff (by omega : 0 < s.config.numConsumers)).mpr
      ((tdiv_nonneg_or_dvd_iff hBlock).mpr hSign)
    have hHigh := Int.tmod_lt_of_pos ((frame + s.currentOffset).tdiv s.config.blockSize)
      (by omega : 0 < s.config.numConsumers)
    refine ⟨by unfold minInt64; omega, hSum, _,
      dispatch_eq_tmod hInstalled hFrame hSum hNum hNumInt hBlock, hLow, hHigh, ?_⟩
    rw [EigerFan.consumerAt, if_pos hLow, List.getElem?_eq_getElem (by
      rw [hInstalled.consumers_length, ← hInstalled.numConsumers]
      omega)]
    rfl

def settingsCommand : Bytes :=
  bytes ("\x7b\"msg_val\":\"configure\",\"id\":1," ++
    "\"params\":\x7b\"offset\":3,\"block_size\":4\x7d\x7d")

def settingsHeader : Value :=
  .object [(headerTypeKey, .string globalHeaderType), (seriesKey, .int 7),
    (headerDetailKey, .string headerDetailNone)]

def firstImage : Value := .object [(headerTypeKey, .string imageHeaderType), (frameKey, .int 0)]

def settingsEnvironment : Environment :=
  .ofTexts [(settingsCommand, .object [(controlCmdKey, .string controlConfigure),
      (controlIDKey, .int 1), (controlParamKey, .object [(controlOffset, .int 3),
        (controlBlockSize, .int 4)])]),
    (objectText settingsHeader, settingsHeader), (objectText firstImage, firstImage)]

/-- An offset and a block size for two consumers, and a header that takes the offset. -/
def settingsEvents : List FanEvent :=
  [.main (.monitor zmqEventAccepted 0), .main (.monitor zmqEventAccepted 1), .startRx,
    .main (.control settingsCommand [7]), .arrive [objectText settingsHeader], .receive]

/-- The tenth image is the first of the fourth block. -/
theorem dispatchSafe_of_settings :
    ∃ s, Run (operate settingsEnvironment) always
        (initial (parseArguments { defaultOptions with consumers := 2 })) settingsEvents s ∧
      (s.controlSocket.map fun reply => reply.2.member (bytes "msg_type")) =
        [some (.string (bytes "ack"))] ∧
      s.currentOffset = 3 ∧ s.config.blockSize = 4 ∧ s.dispatch 9 = some 1 ∧ s.DispatchSafe 9 := by
  have hSeen : (exec (operate settingsEnvironment)
      (initial (parseArguments { defaultOptions with consumers := 2 })) settingsEvents).map
        (fun s => (s.controlSocket.map fun reply => reply.2.member (bytes "msg_type"),
          s.currentOffset, s.config.blockSize, s.config.numConsumers, s.dispatch 9)) =
      some ([some (.string (bytes "ack"))], 3, 4, 2, some 1) := by
    rfl
  obtain ⟨s, hExec, hValues⟩ := Option.map_eq_some_iff.mp hSeen
  obtain ⟨hReply, hOffset, hBlock, hNum, hIndex⟩ := by simpa only [Prod.mk.injEq] using hValues
  have hRun := run_always_iff.mpr hExec
  have hCondition : s.DispatchCondition 9 := by
    rw [EigerFan.DispatchCondition, hOffset, hBlock, hNum]
    decide
  have hSafe := (dispatchSafe_iff_condition hRun (by decide)).mpr hCondition
  exact ⟨s, hRun, hReply, hOffset, hBlock, hIndex, hSafe⟩

def blockSizeCommand : Bytes :=
  bytes "\x7b\"msg_val\":\"configure\",\"id\":1,\"params\":\x7b\"block_size\":0\x7d\x7d"

def blockSizeEnvironment : Environment :=
  .ofTexts [(blockSizeCommand, .object [(controlCmdKey, .string controlConfigure),
      (controlIDKey, .int 1), (controlParamKey, .object [(controlBlockSize, .int 0)])]),
    (objectText firstImage, firstImage)]

def blockSizeEvents : List FanEvent :=
  [.main (.monitor zmqEventAccepted 0), .startRx, .main (.control blockSizeCommand [7]),
    .arrive [objectText firstImage, [1], [2], [3]]]

/-- A block size of zero is acknowledged, and the next image divides by it. -/
theorem block_size_zero_faults :
    ∃ s, Run (operate blockSizeEnvironment) always (initial (parseArguments defaultOptions))
        blockSizeEvents s ∧
      (s.controlSocket.map fun (_, reply) => reply.member (bytes "msg_type")) =
        [some (.string (bytes "ack"))] ∧
      readFirstPart blockSizeEnvironment (objectText firstImage) =
        some (.image [(headerTypeKey, .string imageHeaderType), (frameKey, .int 0)] 0) ∧
      s.dispatch 0 = none ∧ ¬ s.DispatchSafe 0 := by
  refine ⟨_, run_always_iff.mpr rfl, rfl, rfl, rfl, ?_⟩
  rintro ⟨_, _, index, hIndex, _⟩
  cases hIndex

end Eiger.Fan
