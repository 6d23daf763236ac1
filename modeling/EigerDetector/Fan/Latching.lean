import EigerDetector.Fan.Handling

/-! What a global header takes over when it arrives, whether or not it is then
sent on. -/
namespace Eiger.Fan

open CharArrays Rapidjson Multipart EigerFan

/-- What identifies and counts the acquisition in progress. -/
structure Progress where
  currentOffset : Int
  configuredOffset : Int
  currentAcquisitionID : Bytes
  currentSeries : Int
  state : EigerFanState
  lastFrameSent : Nat
  numFramesSent : Nat
  numFramesConsumed : List Nat
  deriving DecidableEq

def EigerFan.progress (s : EigerFan) : Progress where
  currentOffset := s.currentOffset
  configuredOffset := s.configuredOffset
  currentAcquisitionID := s.currentAcquisitionID
  currentSeries := s.currentSeries
  state := s.state
  lastFrameSent := s.lastFrameSent
  numFramesSent := s.numFramesSent
  numFramesConsumed := s.numFramesConsumed

/-- What a header of this series makes of the progress. -/
def Progress.latched (configuredAcquisitionID : Bytes) (series : Int) (p : Progress) :
    Progress where
  currentOffset := p.configuredOffset
  configuredOffset := 0
  currentAcquisitionID := configuredAcquisitionID
  currentSeries := series
  state := p.state
  lastFrameSent := 0
  numFramesSent := 0
  numFramesConsumed := p.numFramesConsumed.map fun _ => 0

/-- The detail names more parts than follow the first one. -/
def TooShort (detail : Bytes) (rest : List Bytes) : Prop :=
  (detail = headerDetailBasic ∧ rest.length < 1) ∨ (detail = headerDetailAll ∧ rest.length < 7)

def UnknownDetail (detail : Bytes) : Prop :=
  detail ≠ headerDetailNone ∧ detail ≠ headerDetailBasic ∧ detail ≠ headerDetailAll

instance (detail : Bytes) (rest : List Bytes) : Decidable (TooShort detail rest) :=
  inferInstanceAs (Decidable (_ ∨ _))

instance (detail : Bytes) : Decidable (UnknownDetail detail) :=
  inferInstanceAs (Decidable (_ ∧ _))

theorem headerPlan_of_tooShort {part1 detail : Bytes} {rest : List Bytes}
    (h : TooShort detail rest) : headerPlan part1 detail rest = rejected := by
  obtain ⟨hNoneBasic, hNoneAll, hBasicAll⟩ := headerDetails_distinct
  unfold headerPlan
  rcases h with ⟨rfl, hLength⟩ | ⟨rfl, hLength⟩
  · rw [if_neg hNoneBasic.symm, if_pos rfl, if_neg (by omega)]
  · rw [if_neg hNoneAll.symm, if_neg hBasicAll.symm, if_pos rfl, if_neg (by omega)]

theorem headerPlan_of_unknownDetail {part1 detail : Bytes} {rest : List Bytes}
    (h : UnknownDetail detail) :
    headerPlan part1 detail rest = ⟨.nothing, [markState .dstrHeader]⟩ := by
  unfold headerPlan
  rw [if_neg h.1, if_neg h.2.1, if_neg h.2.2]

/-- A header is too short, or its detail is unknown, or it is sent on. -/
theorem headerPlan_cases (part1 detail : Bytes) (rest : List Bytes) :
    (TooShort detail rest ∧ headerPlan part1 detail rest = rejected) ∨
      (UnknownDetail detail ∧
        headerPlan part1 detail rest = ⟨.nothing, [markState .dstrHeader]⟩) ∨
      (¬ TooShort detail rest ∧ ¬ UnknownDetail detail ∧
        ∃ count, headerPlan part1 detail rest = headerSent (part1 :: rest.take count)) := by
  by_cases hShort : TooShort detail rest
  · exact .inl ⟨hShort, headerPlan_of_tooShort hShort⟩
  · by_cases hUnknown : UnknownDetail detail
    · exact .inr (.inl ⟨hUnknown, headerPlan_of_unknownDetail hUnknown⟩)
    · refine .inr (.inr ⟨hShort, hUnknown, ?_⟩)
      unfold headerPlan
      split
      · exact ⟨1, rfl⟩
      · next hNone =>
          split
          · next hBasic =>
              rw [if_pos (by_contra fun hLength => hShort (.inl ⟨hBasic, by omega⟩))]
              exact ⟨2, rfl⟩
          · next hBasic =>
              split
              · next hAll =>
                  rw [if_pos (by_contra fun hLength => hShort (.inr ⟨hAll, by omega⟩))]
                  exact ⟨8, rfl⟩
              · next hAll => exact absurd ⟨hNone, hBasic, hAll⟩ hUnknown

/-- What a header of this series takes over when it arrives is there already. -/
structure EigerFan.Latched (s : EigerFan) (series : Int) : Prop where
  configuredOffset : s.configuredOffset = 0
  currentOffset : s.currentOffset = 0
  acquisitionID : s.currentAcquisitionID = s.configuredAcquisitionID
  series : s.currentSeries = series
  lastFrameSent : s.lastFrameSent = 0
  numFramesSent : s.numFramesSent = 0
  numFramesConsumed : ∀ n ∈ s.numFramesConsumed, n = 0

theorem latched_progress_iff {s : EigerFan} {series : Int} :
    s.progress.latched s.configuredAcquisitionID series = s.progress ↔ s.Latched series := by
  have hCounts : s.numFramesConsumed.map (fun _ => 0) = s.numFramesConsumed ↔
      ∀ n ∈ s.numFramesConsumed, n = 0 := by
    constructor
    · intro hMap n hMem
      rw [← hMap] at hMem
      obtain ⟨_, _, rfl⟩ := List.mem_map.mp hMem
      rfl
    · intro hZero
      exact (List.map_congr_left fun n hMem => (hZero n hMem).symm).trans (List.map_id _)
  constructor
  · intro hSame
    obtain ⟨hCurrent, hConfigured, hID, hSeries, _, hLast, hSent, hConsumed⟩ :=
      Progress.mk.inj hSame
    have hZero : s.configuredOffset = 0 := hConfigured.symm
    have hOffset : s.currentOffset = 0 := hCurrent.symm.trans hZero
    exact ⟨hZero, hOffset, hID.symm, hSeries.symm, hLast.symm, hSent.symm, hCounts.mp hConsumed⟩
  · rintro ⟨hConfigured, hCurrent, hID, hSeries, hLast, hSent, hConsumed⟩
    simp only [EigerFan.progress, Progress.latched, hConfigured, hCurrent, hID, hSeries, hLast,
      hSent, hCounts.mpr hConsumed]

instance (s : EigerFan) (series : Int) : Decidable (s.Latched series) :=
  decidable_of_iff _ latched_progress_iff

section Headers

variable {env : Environment} {s : EigerFan} {part1 : Bytes} {rest : List Bytes}
  {tail : List (Bytes × Bool)} {members : List (Bytes × Value)} {series : Int} {detail : Bytes}

/-- A rejected header sends nothing and is latched all the same. One of unknown detail is
taken for one that was sent on, if it goes through the cache. -/
theorem receive_rejected_header (hQueue : s.rxSocket.queue = frame (part1 :: rest) ++ tail)
    (hFirst : readFirstPart env part1 = some (.header members series detail))
    (hRejected : TooShort detail rest ∨ UnknownDetail detail) :
    ∃ t, receive env s = .returned t () ∧ t.consumers = s.consumers ∧
      t.forwardSocket = s.forwardSocket ∧
      { t.progress with state := s.state } =
        s.progress.latched s.configuredAcquisitionID series ∧
      t.state = if UnknownDetail detail ∧ s.CacheWrites env 1 then .dstrHeader else s.state := by
  have hEntered : ∀ s₁, Scratch ((FirstPart.header members series detail).entered s) s₁ →
      s₁.consumers = s.consumers ∧ s₁.forwardSocket = s.forwardSocket ∧
        { s₁.progress with state := s.state } =
          s.progress.latched s.configuredAcquisitionID series ∧ s₁.state = s.state := by
    rintro s₁ ⟨_, _, _, rfl⟩
    exact ⟨rfl, rfl, rfl, rfl⟩
  have hUnsent : ∀ plan, headerPlan (taggedPart env members s.configuredAcquisitionID) detail rest =
      plan → plan.sends = .nothing → ∃ s₁, Scratch ((FirstPart.header members series detail).entered
        s) s₁ ∧ ((s.CacheWrites env ((FirstPart.header members series detail).writes rest) ∧
          receive env s = .returned (EigerFan.reading [] tail 0 (plan.apply s₁)) ()) ∨
        (¬ s.CacheWrites env ((FirstPart.header members series detail).writes rest) ∧
          receive env s = .returned (EigerFan.reading [] tail 0 s₁) ())) := by
    rintro plan rfl hSends
    refine receive_returns env hQueue hFirst trivial ?_
    rw [FirstPart.plan, hSends]
    trivial
  rcases hRejected with hShort | hUnknown
  · have hKnown : ¬ (UnknownDetail detail ∧ s.CacheWrites env 1) := by
      rintro ⟨hUnknown, _⟩
      rcases hShort with ⟨hBasic, _⟩ | ⟨hAll, _⟩
      · exact hUnknown.2.1 hBasic
      · exact hUnknown.2.2 hAll
    obtain ⟨s₁, hScratch, hReceive⟩ := hUnsent _ (headerPlan_of_tooShort hShort) rfl
    obtain ⟨hConsumers, hForward, hLatched, hState⟩ := hEntered s₁ hScratch
    refine ⟨EigerFan.reading [] tail 0 s₁, ?_, hConsumers, hForward, hLatched, ?_⟩
    · rcases hReceive with ⟨_, hReceive⟩ | ⟨_, hReceive⟩ <;> exact hReceive
    · rw [if_neg hKnown]
      exact hState
  · obtain ⟨s₁, hScratch, hReceive⟩ := hUnsent _ (headerPlan_of_unknownDetail hUnknown) rfl
    obtain ⟨hConsumers, hForward, hLatched, hState⟩ := hEntered s₁ hScratch
    have hWrites : (FirstPart.header members series detail).writes rest = 1 := by
      rw [FirstPart.writes, if_neg hUnknown.1, if_neg hUnknown.2.1, if_neg hUnknown.2.2]
    rw [hWrites] at hReceive
    rcases hReceive with ⟨hCaches, hReceive⟩ | ⟨hThrows, hReceive⟩
    · refine ⟨_, hReceive, hConsumers, hForward, hLatched, ?_⟩
      rw [if_pos ⟨hUnknown, hCaches⟩]
      rfl
    · refine ⟨_, hReceive, hConsumers, hForward, hLatched, ?_⟩
      rw [if_neg fun h => hThrows h.2]
      exact hState

/-- A rejected header leaves the progress as it is exactly if it finds everything it takes
over, and the state it sets, there already. -/
theorem rejected_header_progress_iff (hQueue : s.rxSocket.queue = frame (part1 :: rest) ++ tail)
    (hFirst : readFirstPart env part1 = some (.header members series detail))
    (hRejected : TooShort detail rest ∨ UnknownDetail detail) :
    ∃ t, receive env s = .returned t () ∧
      (t.progress = s.progress ↔ s.Latched series ∧
        (UnknownDetail detail → s.CacheWrites env 1 → s.state = .dstrHeader)) := by
  obtain ⟨t, hReceive, _, _, hLatched, hState⟩ := receive_rejected_header hQueue hFirst hRejected
  refine ⟨t, hReceive, ?_⟩
  have hProgress : t.progress = s.progress ↔
      { t.progress with state := s.state } = s.progress ∧ t.state = s.state := by
    constructor
    · intro hSame
      have hStates : t.state = s.state := congrArg Progress.state hSame
      rw [← hStates]
      exact ⟨hSame, rfl⟩
    · rintro ⟨hSame, hStates⟩
      rw [← hStates] at hSame
      exact hSame
  rw [hProgress, hLatched, latched_progress_iff, hState]
  refine and_congr_right fun _ => ?_
  split
  · next hTaken => exact ⟨fun hSame _ _ => hSame.symm, fun h => (h hTaken.1 hTaken.2).symm⟩
  · next hTaken => exact ⟨fun _ hUnknown hCaches => absurd ⟨hUnknown, hCaches⟩ hTaken, fun _ => rfl⟩

/-- Every header takes over the configured offset and uses it up. -/
theorem receive_header (hQueue : s.rxSocket.queue = frame (part1 :: rest) ++ tail)
    (hFirst : readFirstPart env part1 = some (.header members series detail)) :
    ∃ t, receive env s = .returned t () ∧ t.currentOffset = s.configuredOffset ∧
      t.configuredOffset = 0 ∧ t.currentAcquisitionID = s.configuredAcquisitionID := by
  obtain ⟨t, hReceive, hHandled⟩ := receive_total env hQueue hFirst trivial
  obtain ⟨_, _, _, _, _, _, _, _, _, rfl⟩ := hHandled
  exact ⟨_, hReceive, rfl, rfl, rfl⟩

/-- A handler that returns has taken its message off the queue. -/
theorem receive_handled {first : FirstPart} {t : EigerFan}
    (hQueue : s.rxSocket.queue = frame (part1 :: rest) ++ tail)
    (hFirst : readFirstPart env part1 = some first) (hReceive : receive env s = .returned t ()) :
    ∃ u, t = EigerFan.reading [] tail 0 u ∧ EigerFan.Handled (first.entered s) u := by
  have hDispatch := dispatches_of_returned env hQueue hFirst hReceive
  obtain ⟨u, hTotal, hHandled⟩ := receive_total env hQueue hFirst hDispatch
  rw [hTotal] at hReceive
  cases hReceive
  exact ⟨u, rfl, hHandled⟩

/-- No other message touches what was latched. -/
theorem receive_not_header {first : FirstPart} {t : EigerFan}
    (hQueue : s.rxSocket.queue = frame (part1 :: rest) ++ tail)
    (hFirst : readFirstPart env part1 = some first)
    (hNotHeader : ∀ members series detail, first ≠ .header members series detail)
    (hReceive : receive env s = .returned t ()) :
    t.currentOffset = s.currentOffset ∧ t.configuredOffset = s.configuredOffset ∧
      t.currentAcquisitionID = s.currentAcquisitionID := by
  obtain ⟨u, rfl, _, _, _, _, _, _, _, _, _, rfl⟩ := receive_handled hQueue hFirst hReceive
  cases first with
  | header members series detail => exact absurd rfl (hNotHeader members series detail)
  | _ => exact ⟨rfl, rfl, rfl⟩

end Headers

end Eiger.Fan
