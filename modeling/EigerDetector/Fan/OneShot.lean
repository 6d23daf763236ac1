import EigerDetector.Fan.Store

/-! The offset that is configured for one acquisition, and the headers that are not sent
on: they should leave the acquisition in progress and the offset alone. -/
namespace Eiger.Fan

open CharArrays Rapidjson Threads Multipart Transition EigerFan

/-- A header that has its parts, and neither a cache write nor a send of which throws. -/
def HeaderForwarded (env : Environment) (s : EigerFan) (rest : List Bytes)
    (members : List (Bytes × Value)) (series : Int) (detail : Bytes) : Prop :=
  ¬ TooShort detail rest ∧ ¬ UnknownDetail detail ∧
    (FirstPart.header members series detail).GoesThrough env s rest

instance (env : Environment) (s : EigerFan) (rest : List Bytes) (members : List (Bytes × Value))
    (series : Int) (detail : Bytes) :
    Decidable (HeaderForwarded env s rest members series detail) :=
  inferInstanceAs (Decidable (_ ∧ _ ∧ _ ∧ _))

/-- A header that is not sent on finds no offset, neither configured nor in force; one that is
rejected finds all that it takes over there already, with the state that it sets. -/
def FirstPart.SparedBy (env : Environment) (s : EigerFan) (rest : List Bytes) : FirstPart → Prop
  | header members series detail =>
      ¬ HeaderForwarded env s rest members series detail →
        s.configuredOffset = 0 ∧ s.currentOffset = 0 ∧
        (TooShort detail rest ∨ UnknownDetail detail → s.Latched series ∧
          (UnknownDetail detail → s.CacheWrites env 1 → s.state = .dstrHeader))
  | _ => True

instance (env : Environment) (s : EigerFan) (rest : List Bytes) :
    DecidablePred (FirstPart.SparedBy env s rest)
  | .header _ _ _ => inferInstanceAs (Decidable (¬ _ → _))
  | .image _ _ => .isTrue trivial
  | .endOfSeries _ => .isTrue trivial
  | .unreadable => .isTrue trivial
  | .unknown => .isTrue trivial

/-- The fan with the offset that waits for the next header that is sent on, and the one that
the last of them brought with it. -/
structure OneShot where
  fan : EigerFan
  pending : Int
  applied : Int

namespace OneShot

/-- The offset that waits, and the one in force, after an event. -/
def offsets (env : Environment) (w : OneShot) : SessionEvent → Int × Int
  | .message (part1 :: rest) =>
      match readFirstPart env part1 with
      | some (.header members series detail) =>
          if HeaderForwarded env w.fan rest members series detail then (0, w.pending)
          else (w.pending, w.applied)
      | _ => (w.pending, w.applied)
  | event =>
      let named := (configuredParams env event).bind fun params =>
        (params.member controlOffset).bind Value.getInt
      (named.getD w.pending, w.applied)

def step (env : Environment) (w : OneShot) (event : SessionEvent) : Option OneShot :=
  (session env w.fan event).map fun t =>
    ⟨t, (w.offsets env event).1, (w.offsets env event).2⟩

def initial (config : EigerFanConfig) : OneShot := ⟨Fan.initial config, 0, 0⟩

/-- The members of the fan are these offsets. -/
def Held (w : OneShot) : Prop :=
  w.fan.configuredOffset = w.pending ∧ w.fan.currentOffset = w.applied

/-- The offset is applied to exactly the headers that are sent on, and a header that is
rejected leaves the acquisition in progress as it was. -/
def Untouched (env : Environment) (w : OneShot) (event : SessionEvent) : Prop :=
  ∀ w', w.step env event = some w' → w'.Held ∧
    ∀ part1 rest members series detail, event = .message (part1 :: rest) →
      readFirstPart env part1 = some (.header members series detail) →
      TooShort detail rest ∨ UnknownDetail detail → w'.fan.progress = w.fan.progress

/-- The headers among the messages. -/
def Spared (env : Environment) (w : OneShot) : SessionEvent → Prop
  | .message (part1 :: rest) =>
      ∀ first ∈ readFirstPart env part1, first.SparedBy env w.fan rest
  | _ => True

instance (env : Environment) (w : OneShot) : (event : SessionEvent) →
    Decidable (w.Spared env event)
  | .message (part1 :: _) => inferInstanceAs (Decidable (∀ first ∈ readFirstPart env part1, _))
  | .message [] => .isTrue trivial
  | .main _ => .isTrue trivial
  | .startRx => .isTrue trivial

section Messages

variable {env : Environment} {config : EigerFanConfig} {s t : EigerFan} {part1 : Bytes}
  {rest : List Bytes}

/-- A message that was handled is one that the rx thread returned from. -/
theorem receive_of_session (hIdle : Idle config s)
    (hStep : session env s (.message (part1 :: rest)) = some t) :
    receive env (s.arrived (part1 :: rest)) = .returned t () := by
  obtain ⟨hState, _⟩ := hIdle.message hStep
  rw [session_message hIdle.queue hState] at hStep
  split at hStep
  · next u _ hReceive =>
      cases hStep
      exact hReceive
  · cases hStep

theorem arrived_queue : (s.arrived (part1 :: rest)).rxSocket.queue = frame (part1 :: rest) ++ [] :=
  (List.append_nil _).symm

/-- A header takes the configured offset, sent on or not. -/
theorem header_offsets {members : List (Bytes × Value)} {series : Int} {detail : Bytes}
    (hIdle : Idle config s)
    (hFirst : readFirstPart env part1 = some (.header members series detail))
    (hStep : session env s (.message (part1 :: rest)) = some t) :
    t.currentOffset = s.configuredOffset ∧ t.configuredOffset = 0 := by
  obtain ⟨u, hReceive, hCurrent, hConfigured, _⟩ := receive_header arrived_queue hFirst
  cases (receive_of_session hIdle hStep).symm.trans hReceive
  exact ⟨hCurrent, hConfigured⟩

theorem other_offsets {first : FirstPart} (hIdle : Idle config s)
    (hFirst : readFirstPart env part1 = some first)
    (hOther : ∀ members series detail, first ≠ .header members series detail)
    (hStep : session env s (.message (part1 :: rest)) = some t) :
    t.currentOffset = s.currentOffset ∧ t.configuredOffset = s.configuredOffset := by
  obtain ⟨hCurrent, hConfigured, _⟩ :=
    receive_not_header arrived_queue hFirst hOther (receive_of_session hIdle hStep)
  exact ⟨hCurrent, hConfigured⟩

theorem rejected_progress_iff {members : List (Bytes × Value)} {series : Int} {detail : Bytes}
    (hIdle : Idle config s)
    (hFirst : readFirstPart env part1 = some (.header members series detail))
    (hRejected : TooShort detail rest ∨ UnknownDetail detail)
    (hStep : session env s (.message (part1 :: rest)) = some t) :
    t.progress = s.progress ↔ s.Latched series ∧
      (UnknownDetail detail → s.CacheWrites env 1 → s.state = .dstrHeader) := by
  obtain ⟨u, hReceive, hSame⟩ := rejected_header_progress_iff arrived_queue hFirst hRejected
  cases (receive_of_session hIdle hStep).symm.trans hReceive
  have hLatched : (s.arrived (part1 :: rest)).Latched series ↔ s.Latched series :=
    latched_progress_iff.symm.trans (latched_progress_iff (s := s))
  rw [hLatched] at hSame
  exact hSame

/-- A command moves the configured offset if it names one, and nothing else moves either. -/
theorem other_event_offsets {event : SessionEvent} (hIdle : Idle config s)
    (hOther : ∀ parts, event ≠ .message parts) (hStep : session env s event = some t) :
    t.currentOffset = s.currentOffset ∧
      t.configuredOffset = ((configuredParams env event).bind fun params =>
        (params.member controlOffset).bind Value.getInt).getD s.configuredOffset := by
  cases event with
  | message parts => exact absurd rfl (hOther parts)
  | startRx =>
      rw [session_startRx hStep]
      exact ⟨rfl, rfl⟩
  | main event =>
      have hMain := session_main hStep
      cases event with
      | monitor event rank =>
          cases hMain
          unfold handleMonitorMessage
          simp only
          split
          · exact ⟨rfl, rfl⟩
          · split <;> exact ⟨rfl, rfl⟩
      | forwardMonitor event =>
          cases hMain
          unfold handleForwardMonitorMessage
          split
          · exact ⟨rfl, rfl⟩
          · split <;> exact ⟨rfl, rfl⟩
      | control message idMessage =>
          obtain ⟨replies, ⟨hNone, rfl⟩ | ⟨params, hParams, _, rfl⟩⟩ :=
            Store.control_configuredBy hIdle hMain
          · have hNone : configuredParams env (.main (.control message idMessage)) = none := hNone
            rw [hNone]
            exact ⟨rfl, rfl⟩
          · have hParams : configuredParams env (.main (.control message idMessage)) =
                some (.object params) := hParams
            obtain ⟨_, _, _, _, hShut⟩ := Store.shutDownBy_sentOn env params s
            rw [hParams]
            unfold EigerFan.configuredBy
            rw [hShut]
            exact ⟨rfl, rfl⟩

end Messages

section Runs

variable {env : Environment} {config : EigerFanConfig} {w w' : OneShot} {event : SessionEvent}

/-- A message that was handled has parts, and a first one that can be read. -/
theorem message_read {parts : List Bytes} {t : EigerFan} (hIdle : Idle config w.fan)
    (hStep : session env w.fan (.message parts) = some t) :
    ∃ part1 rest first, parts = part1 :: rest ∧ readFirstPart env part1 = some first := by
  obtain ⟨_, part1, rest, first, _, hParts, hFirst, _⟩ := hIdle.message hStep
  exact ⟨part1, rest, first, hParts, hFirst⟩

theorem not_forwarded_of_rejected {s : EigerFan} {rest : List Bytes}
    {members : List (Bytes × Value)} {series : Int} {detail : Bytes}
    (h : TooShort detail rest ∨ UnknownDetail detail) :
    ¬ HeaderForwarded env s rest members series detail := by
  rintro ⟨hShort, hUnknown, _⟩
  exact h.elim hShort hUnknown

theorem spared_message_iff {part1 : Bytes} {rest : List Bytes} {first : FirstPart}
    (hFirst : readFirstPart env part1 = some first) :
    w.Spared env (.message (part1 :: rest)) ↔ first.SparedBy env w.fan rest := by
  simp only [Spared, hFirst, Option.mem_def, Option.some.injEq, forall_eq']

/-- While the fan holds the offsets, an event leaves untouched what it should exactly if it
spares it. -/
theorem untouched_iff (hIdle : Idle config w.fan) (hHeld : w.Held)
    (hStep : w.step env event = some w') : w.Untouched env event ↔ w.Spared env event := by
  obtain ⟨hConfigured, hCurrent⟩ := hHeld
  obtain ⟨t, hSession, hAfter⟩ := Option.map_eq_some_iff.mp hStep
  have hOnly : w.Untouched env event ↔ w'.Held ∧
      ∀ part1 rest members series detail, event = .message (part1 :: rest) →
        readFirstPart env part1 = some (.header members series detail) →
        TooShort detail rest ∨ UnknownDetail detail → w'.fan.progress = w.fan.progress := by
    constructor
    · exact fun hAll => hAll w' hStep
    · intro hOne v hSame
      cases hStep.symm.trans hSame
      exact hOne
  rw [hOnly, ← hAfter]
  by_cases hMessage : ∃ parts, event = .message parts
  · obtain ⟨parts, rfl⟩ := hMessage
    obtain ⟨part1, rest, first, rfl, hFirst⟩ := message_read hIdle hSession
    by_cases hHeader : ∃ members series detail, first = .header members series detail
    · obtain ⟨members, series, detail, rfl⟩ := hHeader
      obtain ⟨hTaken, hUsed⟩ := header_offsets hIdle hFirst hSession
      have hProgress : (∀ part1' rest' members' series' detail',
            SessionEvent.message (part1 :: rest) = .message (part1' :: rest') →
            readFirstPart env part1' = some (.header members' series' detail') →
            TooShort detail' rest' ∨ UnknownDetail detail' → t.progress = w.fan.progress) ↔
          (TooShort detail rest ∨ UnknownDetail detail → t.progress = w.fan.progress) := by
        constructor
        · exact fun h => h part1 rest members series detail rfl hFirst
        · rintro h _ _ _ _ _ ⟨⟩ hSame hRejected
          cases hFirst.symm.trans hSame
          exact h hRejected
      rw [hProgress, Held, offsets, spared_message_iff hFirst, FirstPart.SparedBy, hFirst]
      simp only [hTaken, hUsed]
      by_cases hForwarded : HeaderForwarded env w.fan rest members series detail
      · rw [if_pos hForwarded]
        have hAccepted : ¬ (TooShort detail rest ∨ UnknownDetail detail) :=
          fun h => not_forwarded_of_rejected h hForwarded
        exact ⟨fun _ h => absurd hForwarded h,
          fun _ => ⟨⟨rfl, hConfigured⟩, fun h => absurd h hAccepted⟩⟩
      · rw [if_neg hForwarded, ← hConfigured, ← hCurrent]
        constructor
        · rintro ⟨⟨hZero, hSame⟩, hKept⟩ _
          refine ⟨hZero.symm, hSame.symm.trans hZero.symm, fun hRejected => ?_⟩
          exact (rejected_progress_iff hIdle hFirst hRejected hSession).mp (hKept hRejected)
        · intro h
          obtain ⟨hZero, hNone, hKept⟩ := h hForwarded
          refine ⟨⟨hZero.symm, hZero.trans hNone.symm⟩, fun hRejected => ?_⟩
          exact (rejected_progress_iff hIdle hFirst hRejected hSession).mpr (hKept hRejected)
    · have hOther : ∀ members series detail, first ≠ .header members series detail :=
        fun members series detail h => hHeader ⟨members, series, detail, h⟩
      obtain ⟨hSame, hLeft⟩ := other_offsets hIdle hFirst hOther hSession
      have hOffsets : w.offsets env (.message (part1 :: rest)) = (w.pending, w.applied) := by
        rw [offsets, hFirst]
        cases first with
        | header members series detail => exact absurd rfl (hOther members series detail)
        | _ => rfl
      have hSpared : w.Spared env (.message (part1 :: rest)) := by
        rw [spared_message_iff hFirst]
        cases first with
        | header members series detail => exact absurd rfl (hOther members series detail)
        | _ => trivial
      rw [Held, hOffsets]
      refine ⟨fun _ => hSpared,
        fun _ => ⟨⟨hLeft.trans hConfigured, hSame.trans hCurrent⟩, ?_⟩⟩
      rintro _ _ members series detail ⟨⟩ h
      exact absurd (Option.some.inj (hFirst.symm.trans h)) (hOther members series detail)
  · have hOther : ∀ parts, event ≠ .message parts := fun parts h => hMessage ⟨parts, h⟩
    obtain ⟨hSame, hLeft⟩ := other_event_offsets hIdle hOther hSession
    have hSpared : w.Spared env event := by
      cases event with
      | message parts => exact absurd rfl (hOther parts)
      | main event => trivial
      | startRx => trivial
    refine ⟨fun _ => hSpared, fun _ => ⟨?_, fun part1 rest _ _ _ h => absurd h (hOther _)⟩⟩
    rw [Held, hSame, hLeft, hConfigured, hCurrent]
    cases event with
    | message parts => exact absurd rfl (hOther parts)
    | main event => exact ⟨rfl, rfl⟩
    | startRx => exact ⟨rfl, rfl⟩

theorem run_untouched_iff {events : List SessionEvent} (hRun : Run (step env) always w events w')
    (hIdle : Idle config w.fan) (hHeld : w.Held) :
    Run (step env) (Untouched env) w events w' ↔ Run (step env) (Spared env) w events w' := by
  induction hRun with
  | nil => exact ⟨fun _ => .nil _, fun _ => .nil _⟩
  | @cons w v w' event events _ first rest ih =>
      obtain ⟨t, hSession, hAfter⟩ := Option.map_eq_some_iff.mp first
      have hIdle' : Idle config v.fan := hAfter ▸ hIdle.step hSession
      have hOne := untouched_iff hIdle hHeld first
      constructor
      · intro h
        cases h with
        | cons guard first' rest' =>
            cases first.symm.trans first'
            exact .cons (hOne.mp guard) first ((ih hIdle' (guard v first).1).mp rest')
      · intro h
        cases h with
        | cons guard first' rest' =>
            cases first.symm.trans first'
            have hUntouched := hOne.mpr guard
            exact .cons hUntouched first ((ih hIdle' (hUntouched v first).1).mpr rest')

/-- A rejected header sends nothing, and takes over everything that a header takes over. In a
run from the start-up the headers that are not sent on leave the acquisition in progress alone,
and the offset to the next header that is sent on, exactly if each of them finds there already
what it takes over. -/
theorem rejected_headers_untouched_iff {vm : Options} {events : List SessionEvent}
    (hRun : Run (step env) always (initial (parseArguments vm)) events w) :
    (Run (step env) (Untouched env) (initial (parseArguments vm)) events w ↔
      Run (step env) (Spared env) (initial (parseArguments vm)) events w) ∧
    ∀ s part1 rest tail members series detail,
      s.rxSocket.queue = frame (part1 :: rest) ++ tail →
      readFirstPart env part1 = some (.header members series detail) →
      TooShort detail rest ∨ UnknownDetail detail →
      ∃ t, receive env s = .returned t () ∧ t.consumers = s.consumers ∧
        t.forwardSocket = s.forwardSocket ∧
        { t.progress with state := s.state } =
          s.progress.latched s.configuredAcquisitionID series ∧
        t.state = if UnknownDetail detail ∧ s.CacheWrites env 1 then .dstrHeader else s.state :=
  ⟨run_untouched_iff hRun (.initial (parseArguments_int32 vm).2) ⟨rfl, rfl⟩,
    fun _ _ _ _ _ _ _ hQueue hFirst hRejected =>
      receive_rejected_header hQueue hFirst hRejected⟩

end Runs

end OneShot

def offsetCommand : Bytes :=
  bytes "\x7b\"msg_val\":\"configure\",\"id\":1,\"params\":\x7b\"offset\":1\x7d\x7d"

/-- A header which promises a second part. -/
def onePartHeader : List (Bytes × Value) :=
  [(headerTypeKey, .string globalHeaderType), (seriesKey, .int 7),
    (headerDetailKey, .string headerDetailBasic)]

def offsetEnvironment : Environment :=
  .ofTexts [(offsetCommand, .object [(controlCmdKey, .string controlConfigure),
      (controlIDKey, .int 1), (controlParamKey, .object [(controlOffset, .int 1)])]),
    (objectText (.object onePartHeader), .object onePartHeader),
    (objectText sampleHeader, sampleHeader)]

/-- A one-part header in an acquisition of the same series, then an offset for the next. -/
def sparedEvents : List SessionEvent :=
  [.main (.monitor zmqEventAccepted 0), .startRx, .message [objectText sampleHeader],
    .message [objectText (.object onePartHeader)], .main (.control offsetCommand [7]),
    .message [objectText sampleHeader]]

/-- The header that lacks a part changes nothing, and the offset goes to the one sent on. -/
theorem offset_applied_to_sampleHeader :
    ∃ w, Run (OneShot.step offsetEnvironment) (OneShot.Untouched offsetEnvironment)
        (.initial (parseArguments defaultOptions)) sparedEvents w ∧
      w.fan.currentOffset = 1 ∧ w.fan.configuredOffset = 0 := by
  have hExec : (exec (guarded (OneShot.step offsetEnvironment) (OneShot.Spared offsetEnvironment))
      (.initial (parseArguments defaultOptions)) sparedEvents).map
        (fun w => (w.fan.currentOffset, w.fan.configuredOffset)) = some (1, 0) := by
    decide +kernel
  obtain ⟨w, hGuarded, hOffsets⟩ := Option.map_eq_some_iff.mp hExec
  have hRun := run_iff_exec_guarded.mpr hGuarded
  have hAlways : Run (OneShot.step offsetEnvironment) always
      (.initial (parseArguments defaultOptions)) sparedEvents w :=
    hRun.mono fun _ _ _ => trivial
  obtain ⟨hCurrent, hConfigured⟩ := Prod.mk.inj hOffsets
  exact ⟨w, (OneShot.rejected_headers_untouched_iff hAlways).1.mpr hRun, hCurrent, hConfigured⟩

/-- The fan with a configured offset and a header of one part in front of it. -/
def offsetEvents : List FanEvent :=
  [.main (.monitor zmqEventAccepted 0), .startRx, .main (.control offsetCommand [7]),
    .arrive [objectText (.object onePartHeader)]]

/-- A header without its second part is sent to nobody and uses up the offset. -/
theorem rejected_header_changes_progress :
    ∃ s t, Run (operate offsetEnvironment) always (initial (parseArguments defaultOptions))
        offsetEvents s ∧
      s.rxSocket.queue = frame [objectText (.object onePartHeader)] ∧
      readFirstPart offsetEnvironment (objectText (.object onePartHeader)) =
        some (.header onePartHeader 7 headerDetailBasic) ∧
      receive offsetEnvironment s = .returned t () ∧ t.consumers = s.consumers ∧
      s.configuredOffset = 1 ∧ t.configuredOffset = 0 ∧ t.progress ≠ s.progress := by
  refine ⟨_, _, run_always_iff.mpr rfl, rfl, rfl, rfl, rfl, rfl, rfl, ?_⟩
  decide

end Eiger.Fan
