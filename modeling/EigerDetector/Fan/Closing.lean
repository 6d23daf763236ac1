import EigerDetector.Fan.Dispatch
import EigerDetector.Fan.Latching
import EigerDetector.Fan.Session

/-! What the consumers have open, and what a close ends. The fan decides by its own
state, series and acquisition ID, which are not set where the headers are sent. -/
namespace Eiger.Fan

open CharArrays Rapidjson FixedWidth Threads Multipart Transition EigerFan

/-- The fan takes itself to be inside an acquisition. -/
def EigerFan.InAcquisition (s : EigerFan) : Prop := s.state = .dstrHeader ∨ s.state = .dstrImage

instance (s : EigerFan) : Decidable s.InAcquisition := inferInstanceAs (Decidable (_ ∨ _))

/-- The document of a header as it is sent on. -/
def headerDocument (members : List (Bytes × Value)) (acquisitionID : Bytes) : Value :=
  .object (members ++ [(acquisitionIDKey, .string acquisitionID)])

section Effects

variable {env : Environment} {config : EigerFanConfig} {s t : EigerFan} {part1 : Bytes}
  {rest : List Bytes}

theorem output_of_consumers (h : t.consumers = s.consumers) (rank : Nat) :
    t.output rank = s.output rank := by
  rw [EigerFan.output, h, EigerFan.output]

/-- A header changes series and acquisition ID in any case; it is sent, or only marks
the state, or leaves no other trace. -/
theorem Idle.header_effect {members : List (Bytes × Value)} {series : Int} {detail : Bytes}
    (h : Idle config s) (hFirst : readFirstPart env part1 = some (.header members series detail))
    (hStep : session env s (.message (part1 :: rest)) = some t) :
    t.currentSeries = series ∧ t.currentAcquisitionID = s.configuredAcquisitionID ∧
      ((¬ TooShort detail rest ∧ ¬ UnknownDetail detail ∧
        (FirstPart.header members series detail).GoesThrough env s rest ∧
        t.state = .dstrHeader ∧ ∃ count, ∀ rank, t.output rank = s.output rank ++
          if s.router.Connected rank then
            frame (env.write (headerDocument members s.configuredAcquisitionID) ::
              rest.take count)
          else []) ∨
      (UnknownDetail detail ∧ (FirstPart.header members series detail).GoesThrough env s rest ∧
        t.state = .dstrHeader ∧ t.consumers = s.consumers) ∨
      ((TooShort detail rest ∨
          ¬ (FirstPart.header members series detail).GoesThrough env s rest) ∧
        t.state = s.state ∧ t.consumers = s.consumers)) := by
  obtain ⟨_, s₁, ⟨_, _, _, rfl⟩, ⟨hThrough, rfl⟩ | ⟨hLost, _, rfl⟩⟩ :=
    h.message_of_first hFirst hStep
  · rw [FirstPart.plan]
    rcases headerPlan_cases (taggedPart env members s.configuredAcquisitionID) detail rest with
      ⟨hShort, hPlan⟩ | ⟨hUnknown, hPlan⟩ | ⟨hShort, hUnknown, count, hPlan⟩
    · rw [hPlan]
      exact ⟨rfl, rfl, .inr (.inr ⟨.inl hShort, rfl, rfl⟩)⟩
    · rw [hPlan]
      exact ⟨rfl, rfl, .inr (.inl ⟨hUnknown, hThrough, rfl, rfl⟩)⟩
    · rw [hPlan, Plan.apply, headerSent, EigerFan.sent, EigerFan.broadcast, forward_eq]
      refine ⟨rfl, rfl, .inl ⟨hShort, hUnknown, hThrough, rfl, count, fun rank => ?_⟩⟩
      exact output_broadcast s _ rank
  · exact ⟨rfl, rfl, .inr (.inr ⟨.inr hLost, rfl, rfl⟩)⟩

/-- An image that is sent marks the state. -/
theorem Idle.image_effect {members : List (Bytes × Value)} {number : Int}
    (h : Idle config s) (hFirst : readFirstPart env part1 = some (.image members number))
    (hStep : session env s (.message (part1 :: rest)) = some t) :
    t.currentSeries = s.currentSeries ∧ t.currentAcquisitionID = s.currentAcquisitionID ∧
      (∀ rank, ∃ parts, t.output rank = s.output rank ++ parts) ∧
      ((3 ≤ rest.length ∧ (FirstPart.image members number).GoesThrough env s rest ∧
        t.state = .dstrImage) ∨ t.state = s.state) := by
  obtain ⟨_, s₁, ⟨_, _, _, rfl⟩, ⟨hThrough, rfl⟩ | ⟨_, _, rfl⟩⟩ :=
    h.message_of_first hFirst hStep
  · rw [FirstPart.plan, imagePlan]
    split
    · next hLength =>
        rw [Plan.apply, imageSent, Plan.andThen, EigerFan.sent, EigerFan.single, forward_eq]
        refine ⟨rfl, rfl, fun rank => ?_, .inl ⟨hLength, hThrough, rfl⟩⟩
        have hOutput := output_single
          { s with currentConsumerIndexToSendTo := (s.dispatch number).getD 0 }
          (frame (taggedPart env members s.currentAcquisitionID :: rest.take 4)) rank
        exact ⟨_, hOutput⟩
    · exact ⟨rfl, rfl, fun rank => ⟨[], (List.append_nil _).symm⟩, .inr rfl⟩
  · exact ⟨rfl, rfl, fun rank => ⟨[], (List.append_nil _).symm⟩, .inr rfl⟩

/-- An end message is sent to everyone, or leaves no trace. -/
theorem Idle.end_effect {members : List (Bytes × Value)}
    (h : Idle config s) (hFirst : readFirstPart env part1 = some (.endOfSeries members))
    (hStep : session env s (.message (part1 :: rest)) = some t) :
    t.currentSeries = s.currentSeries ∧ t.currentAcquisitionID = s.currentAcquisitionID ∧
      ((t.state = .waitingStream ∧ ∀ rank, t.output rank = s.output rank ++
        if s.router.Connected rank then
          [(taggedPart env members s.currentAcquisitionID, false)]
        else []) ∨
      (t.state = s.state ∧ t.consumers = s.consumers)) := by
  obtain ⟨_, s₁, ⟨_, _, _, rfl⟩, ⟨_, rfl⟩ | ⟨_, _, rfl⟩⟩ := h.message_of_first hFirst hStep
  · rw [FirstPart.plan, Plan.apply, EigerFan.sent, EigerFan.broadcast, forward_eq]
    exact ⟨rfl, rfl, .inl ⟨rfl, fun rank => output_broadcast s _ rank⟩⟩
  · exact ⟨rfl, rfl, .inr ⟨rfl, rfl⟩⟩

/-- Other messages leave no trace. -/
theorem Idle.other_effect {first : FirstPart} (h : Idle config s)
    (hFirst : readFirstPart env part1 = some first)
    (hOther : first = .unreadable ∨ first = .unknown)
    (hStep : session env s (.message (part1 :: rest)) = some t) :
    t.currentSeries = s.currentSeries ∧ t.currentAcquisitionID = s.currentAcquisitionID ∧
      t.state = s.state ∧ t.consumers = s.consumers := by
  obtain ⟨_, s₁, ⟨_, _, _, rfl⟩, ⟨_, rfl⟩ | ⟨_, _, rfl⟩⟩ := h.message_of_first hFirst hStep <;>
    rcases hOther with rfl | rfl <;> exact ⟨rfl, rfl, rfl, rfl⟩

/-- What is not the last event of the main thread leaves state and sockets alone. -/
theorem mainStep_running {event : MainEvent} (h : mainStep env s event = some t)
    (hRunning : t.killRequested = false) :
    t.state = s.state ∧ ∀ rank, t.output rank = s.output rank := by
  cases event with
  | monitor event rank =>
      have hLog := fun i => mainStep_log h (.consumer i)
      refine ⟨?_, fun i => (hLog i).resolve_right fun ⟨_, _, _, _, hEvent, _⟩ => nomatch hEvent⟩
      cases h
      unfold handleMonitorMessage
      simp only
      split
      · rfl
      · split <;> rfl
  | forwardMonitor event =>
      have hLog := fun i => mainStep_log h (.consumer i)
      refine ⟨?_, fun i => (hLog i).resolve_right fun ⟨_, _, _, _, hEvent, _⟩ => nomatch hEvent⟩
      cases h
      unfold handleForwardMonitorMessage
      split
      · rfl
      · split <;> rfl
  | control message idMessage =>
      obtain ⟨u, replies, rfl, ⟨rfl, _⟩ | ⟨params, reply, _, hConfigure⟩⟩ :=
        handleControlMessage_cases h
      · exact ⟨rfl, fun _ => rfl⟩
      · obtain ⟨closed, hClosed, _, _, _, _, _, _, _, rfl⟩ := configure_cases hConfigure
        rcases configureShutdown_cases hClosed with ⟨rfl, _⟩ | ⟨rfl, _⟩ | ⟨_, _, _, _, rfl⟩
        · exact ⟨rfl, fun _ => rfl⟩
        · cases hRunning
        · cases hRunning

/-- A fan that still runs has not been asked to stop before. -/
theorem session_running {event : SessionEvent} (h : session env s event = some t)
    (hRunning : t.killRequested = false) : s.killRequested = false := by
  cases event with
  | main event =>
      rw [session, operate] at h
      split at h
      · cases h
      · next hKill => exact Bool.eq_false_iff.mpr hKill
  | startRx =>
      rw [session_startRx h] at hRunning
      exact hRunning
  | message parts => exact (session_message_killRequested h).symm.trans hRunning

end Effects

/-- What the header document a consumer has open says, and where its text is. -/
structure OpenFor (env : Environment) (s : EigerFan) (rank : Nat) (header : Value) : Prop where
  inAcquisition : s.InAcquisition
  series : header.member seriesKey = some (.int s.currentSeries)
  acquisitionID : header.member acquisitionIDKey = some (.string s.currentAcquisitionID)
  sent : ∃ before parts after, s.output rank =
    before ++ frame (env.write header :: parts) ++ after

/-- The fan's view of the acquisition is that of a consumer. -/
def Matches (env : Environment) (s : EigerFan) (rank : Nat) : Option Value → Prop
  | some header => OpenFor env s rank header
  | none => ¬ s.InAcquisition

/-- Same series and acquisition ID as those in force. -/
def EigerFan.SameAcquisition (s : EigerFan) (series : Int) : Prop :=
  series = s.currentSeries ∧ s.configuredAcquisitionID = s.currentAcquisitionID

/-- A header that is not sent on changes neither series nor acquisition ID inside an
acquisition, one of unknown detail comes inside the same acquisition, and one that is
sent on has no other acquisition ID of its own. -/
structure HeaderInStep (env : Environment) (s : EigerFan) (rest : List Bytes)
    (members : List (Bytes × Value)) (series : Int) (detail : Bytes) : Prop where
  unsent : TooShort detail rest ∨
      ¬ (FirstPart.header members series detail).GoesThrough env s rest →
    s.InAcquisition → s.SameAcquisition series
  unknown : UnknownDetail detail →
    (FirstPart.header members series detail).GoesThrough env s rest →
    s.InAcquisition ∧ s.SameAcquisition series
  sent : ¬ TooShort detail rest → ¬ UnknownDetail detail →
    (FirstPart.header members series detail).GoesThrough env s rest →
    ∀ value, Value.findMember acquisitionIDKey members = some value →
      value = .string s.configuredAcquisitionID

/-- The fan with the header each consumer has open. -/
structure Watched where
  fan : EigerFan
  opened : Nat → Option Value

namespace Watched

/-- What a consumer has open after an event: the header its socket took, nothing after
an end message its socket took. -/
def watch (env : Environment) (s t : EigerFan) (opened : Nat → Option Value) :
    SessionEvent → Nat → Option Value
  | .message (part1 :: _), rank =>
      if t.output rank = s.output rank then opened rank
      else match readFirstPart env part1 with
        | some (.header members _ _) =>
            some (headerDocument members s.configuredAcquisitionID)
        | some (.endOfSeries _) => none
        | _ => opened rank
  | _, rank => opened rank

def step (env : Environment) (w : Watched) (event : SessionEvent) : Option Watched :=
  (session env w.fan event).map fun t => ⟨t, watch env w.fan t w.opened event⟩

def initial (config : EigerFanConfig) : Watched := ⟨Fan.initial config, fun _ => none⟩

/-- Every consumer is connected when a message is handled. -/
def Connected (w : Watched) : SessionEvent → Prop
  | .message _ => ∀ consumer ∈ w.fan.consumers, 0 < consumer.connected
  | _ => True

instance (w : Watched) : (event : SessionEvent) → Decidable (w.Connected event)
  | .main _ => .isTrue trivial
  | .startRx => .isTrue trivial
  | .message _ => inferInstanceAs (Decidable (∀ consumer ∈ _, _))

/-- The messages keep the fan in step with the consumers. -/
def InStep (env : Environment) (w : Watched) : SessionEvent → Prop
  | .message (part1 :: rest) =>
      (∀ members series detail,
        readFirstPart env part1 = some (.header members series detail) →
        HeaderInStep env w.fan rest members series detail) ∧
      ∀ members number, readFirstPart env part1 = some (.image members number) →
        3 ≤ rest.length → (FirstPart.image members number).GoesThrough env w.fan rest →
        w.fan.InAcquisition
  | _ => True

/-- A close sends each consumer that has a header open one end message of the same
series and acquisition ID, and nothing to the others. -/
def ClosesOpened (env : Environment) (w : Watched) (t : EigerFan) : Prop :=
  ∀ rank < w.fan.consumers.length,
    match w.opened rank with
    | some header =>
        (∃ series acquisitionID,
          (fabricatedEnd series acquisitionID).member seriesKey = header.member seriesKey ∧
          (fabricatedEnd series acquisitionID).member acquisitionIDKey =
            header.member acquisitionIDKey ∧
          t.output rank = w.fan.output rank ++
            [(env.write (fabricatedEnd series acquisitionID), false)]) ∧
        ∃ before parts after, w.fan.output rank =
          before ++ frame (env.write header :: parts) ++ after
    | none => t.output rank = w.fan.output rank

end Watched

section Views

variable {env : Environment} {config : EigerFanConfig} {s t : EigerFan} {rank : Nat}

/-- What neither the state nor the acquisition in progress nor what was sent undoes. -/
theorem Matches.keep {opened : Option Value} (h : Matches env s rank opened)
    (hState : t.InAcquisition ↔ s.InAcquisition)
    (hSame : s.InAcquisition → t.currentSeries = s.currentSeries ∧
      t.currentAcquisitionID = s.currentAcquisitionID)
    (hOutput : ∃ parts, t.output rank = s.output rank ++ parts) : Matches env t rank opened := by
  cases opened with
  | none => exact fun hOpen => h (hState.mp hOpen)
  | some header =>
      obtain ⟨hIn, hSeries, hID, before, parts, after, hSent⟩ := h
      obtain ⟨hSameSeries, hSameID⟩ := hSame hIn
      obtain ⟨added, hOutput⟩ := hOutput
      refine ⟨hState.mpr hIn, ?_, ?_, before, parts, after ++ added, ?_⟩
      · rw [hSameSeries]
        exact hSeries
      · rw [hSameID]
        exact hID
      · rw [hOutput, hSent, List.append_assoc]

theorem output_unchanged (h : t.consumers = s.consumers) :
    ∃ parts, t.output rank = s.output rank ++ parts :=
  ⟨[], by rw [output_of_consumers h, List.append_nil]⟩

theorem readFirstPart_series {part1 : Bytes} {members : List (Bytes × Value)} {series : Int}
    {detail : Bytes} (h : readFirstPart env part1 = some (.header members series detail)) :
    Value.findMember seriesKey members = some (.int series) := by
  have hRead := readFirstPart_reads h
  generalize env.parse (cString part1) = doc at hRead
  cases hRead with
  | header _ hSeries =>
      obtain ⟨value, hFind, hInt⟩ := Option.bind_eq_some_iff.mp hSeries
      cases value with
      | int n =>
          rw [Value.getInt] at hInt
          split at hInt
          · cases hInt
            exact hFind
          · cases hInt
      | _ => cases hInt

theorem headerDocument_series {members : List (Bytes × Value)} {series : Int}
    (acquisitionID : Bytes) (h : Value.findMember seriesKey members = some (.int series)) :
    (headerDocument members acquisitionID).member seriesKey = some (.int series) :=
  Value.findMember_append_of_some h _

theorem headerDocument_acquisitionID {members : List (Bytes × Value)} {acquisitionID : Bytes}
    (h : ∀ value, Value.findMember acquisitionIDKey members = some value →
      value = .string acquisitionID) :
    (headerDocument members acquisitionID).member acquisitionIDKey =
      some (.string acquisitionID) := by
  rw [headerDocument, Value.member]
  cases hOwn : Value.findMember acquisitionIDKey members with
  | none =>
      rw [Value.findMember_append_of_none hOwn, Value.findMember, if_pos rfl]
  | some value =>
      rw [Value.findMember_append_of_some hOwn, h value hOwn]

theorem connected_of_all (h : ∀ consumer ∈ s.consumers, 0 < consumer.connected)
    (hRank : rank < s.consumers.length) : s.router.Connected rank :=
  (connected_iff s rank).mpr ⟨s.consumers[rank], List.getElem?_eq_getElem hRank,
    h _ (List.getElem_mem hRank)⟩

end Views

namespace Watched

variable {env : Environment} {config : EigerFanConfig} {w : Watched} {t : EigerFan} {rank : Nat}

/-- A header in step leaves the fan's view of the acquisition that of every consumer. -/
theorem header_matches {part1 : Bytes} {rest : List Bytes} {members : List (Bytes × Value)}
    {series : Int} {detail : Bytes} (hIdle : Idle config w.fan)
    (hFirst : readFirstPart env part1 = some (.header members series detail))
    (hOpen : w.fan.router.Connected rank)
    (hHeader : HeaderInStep env w.fan rest members series detail)
    (hStep : session env w.fan (.message (part1 :: rest)) = some t)
    (h : Matches env w.fan rank (w.opened rank)) :
    Matches env t rank (watch env w.fan t w.opened (.message (part1 :: rest)) rank) := by
  obtain ⟨hSeries, hID, hSent | hUnknown | hUnsent⟩ := hIdle.header_effect hFirst hStep
  · obtain ⟨hShort, hKnown, hThrough, hState, count, hOutput⟩ := hSent
    have hTaken := hOutput rank
    rw [if_pos hOpen] at hTaken
    have hGrown : t.output rank ≠ w.fan.output rank := by
      rw [hTaken, frame_cons]
      simp
    rw [watch, if_neg hGrown, hFirst]
    refine ⟨.inl hState, ?_, ?_, w.fan.output rank, rest.take count, [], ?_⟩
    · rw [hSeries]
      exact headerDocument_series _ (readFirstPart_series hFirst)
    · rw [hID]
      exact headerDocument_acquisitionID (hHeader.sent hShort hKnown hThrough)
    · rw [hTaken, List.append_nil]
  · -- nothing is sent, but the state is marked
    obtain ⟨hDetail, hThrough, hState, hConsumers⟩ := hUnknown
    obtain ⟨hIn, hSame⟩ := hHeader.unknown hDetail hThrough
    rw [watch, if_pos (output_of_consumers hConsumers rank)]
    refine h.keep (iff_of_true (.inl hState) hIn) (fun _ => ?_) (output_unchanged hConsumers)
    exact ⟨hSeries.trans hSame.1, hID.trans hSame.2⟩
  · obtain ⟨hNot, hState, hConsumers⟩ := hUnsent
    rw [watch, if_pos (output_of_consumers hConsumers rank)]
    refine h.keep ?_ (fun hIn => ?_) (output_unchanged hConsumers)
    · rw [EigerFan.InAcquisition, hState, EigerFan.InAcquisition]
    · have hSame := hHeader.unsent hNot hIn
      exact ⟨hSeries.trans hSame.1, hID.trans hSame.2⟩

/-- A message that keeps the fan in step leaves its view of the acquisition that of
every consumer. -/
theorem message_matches {parts : List Bytes} (hIdle : Idle config w.fan)
    (hConnected : w.Connected (.message parts)) (hInStep : w.InStep env (.message parts))
    (hStep : session env w.fan (.message parts) = some t)
    (hRank : rank < w.fan.consumers.length) (h : Matches env w.fan rank (w.opened rank)) :
    Matches env t rank (watch env w.fan t w.opened (.message parts) rank) := by
  obtain ⟨_, part1, rest, first, _, rfl, hFirst, _⟩ := hIdle.message hStep
  have hOpen : w.fan.router.Connected rank := connected_of_all hConnected hRank
  cases first with
  | header members series detail =>
      exact header_matches hIdle hFirst hOpen (hInStep.1 members series detail hFirst) hStep h
  | image members number =>
      obtain ⟨hSeries, hID, hOutput, hState⟩ := hIdle.image_effect hFirst hStep
      have hWatch : watch env w.fan t w.opened (.message (part1 :: rest)) rank =
          w.opened rank := by
        rw [watch, hFirst]
        exact ite_self _
      rw [hWatch]
      refine h.keep ?_ (fun _ => ⟨hSeries, hID⟩) (hOutput rank)
      rcases hState with ⟨hLength, hThrough, hImage⟩ | hSame
      · exact iff_of_true (.inr hImage) (hInStep.2 members number hFirst hLength hThrough)
      · rw [EigerFan.InAcquisition, hSame, EigerFan.InAcquisition]
  | endOfSeries members =>
      obtain ⟨hSeries, hID, ⟨hState, hOutput⟩ | ⟨hState, hConsumers⟩⟩ :=
        hIdle.end_effect hFirst hStep
      · have hTaken := hOutput rank
        rw [if_pos hOpen] at hTaken
        have hGrown : t.output rank ≠ w.fan.output rank := by
          rw [hTaken]
          simp
        rw [watch, if_neg hGrown, hFirst]
        rintro (hHeader | hImage)
        · cases hState.symm.trans hHeader
        · cases hState.symm.trans hImage
      · rw [watch, if_pos (output_of_consumers hConsumers rank)]
        refine h.keep ?_ (fun _ => ⟨hSeries, hID⟩) (output_unchanged hConsumers)
        rw [EigerFan.InAcquisition, hState, EigerFan.InAcquisition]
  | _ =>
      obtain ⟨hSeries, hID, hState, hConsumers⟩ :=
        hIdle.other_effect hFirst (by simp) hStep
      rw [watch, if_pos (output_of_consumers hConsumers rank)]
      refine h.keep ?_ (fun _ => ⟨hSeries, hID⟩) (output_unchanged hConsumers)
      rw [EigerFan.InAcquisition, hState, EigerFan.InAcquisition]

/-- While the fan runs, it and every consumer agree on the acquisition. -/
structure Agrees (env : Environment) (config : EigerFanConfig) (w : Watched) : Prop where
  idle : Idle config w.fan
  views : w.fan.killRequested = false →
    ∀ rank < w.fan.consumers.length, Matches env w.fan rank (w.opened rank)

theorem agrees_initial {config : EigerFanConfig} (hBlock : IsInt32 config.blockSize) :
    Agrees env config (initial config) where
  idle := .initial hBlock
  views := by
    rintro - rank - (hHeader | hImage)
    · cases hHeader
    · cases hImage

/-- Agreement survives every event in step. -/
theorem Agrees.step {event : SessionEvent} {w' : Watched} (h : Agrees env config w)
    (hConnected : w.Connected event) (hInStep : w.InStep env event)
    (hStep : w.step env event = some w') : Agrees env config w' := by
  obtain ⟨t, hSession, rfl⟩ := Option.map_eq_some_iff.mp hStep
  have hIdle : Idle config t := h.idle.step hSession
  refine ⟨hIdle, fun hRunning rank hRank => ?_⟩
  have hBefore : rank < w.fan.consumers.length := by
    rwa [h.idle.installed.consumers_length, ← hIdle.installed.consumers_length]
  have hView := h.views (session_running hSession hRunning) rank hBefore
  cases event with
  | main event =>
      have hMain := session_main hSession
      obtain ⟨hState, hOutput⟩ := mainStep_running hMain hRunning
      obtain ⟨_, _, _, _, _, _, _, _, _, _, _, _, _, _, rfl⟩ := mainStep_commanded hMain
      refine hView.keep ?_ (fun _ => ⟨rfl, rfl⟩) ⟨[], ?_⟩
      · rw [EigerFan.InAcquisition, hState, EigerFan.InAcquisition]
      · rw [hOutput, List.append_nil]
  | startRx =>
      have hWaiting : w.fan.state = .waitingConsumers := by
        rw [session, operate] at hSession
        split at hSession
        · next hReady => exact hReady.1
        · cases hSession
      cases session_startRx hSession
      refine hView.keep (iff_of_false ?_ ?_) (fun _ => ⟨rfl, rfl⟩) (output_unchanged rfl)
      · rintro (hHeader | hImage)
        · cases hHeader
        · cases hImage
      · rintro (hHeader | hImage)
        · cases hWaiting.symm.trans hHeader
        · cases hWaiting.symm.trans hImage
  | message parts => exact message_matches h.idle hConnected hInStep hSession hBefore hView

end Watched

section Close

variable {env : Environment} {s t : EigerFan}

/-- A close command that is handled is one of the configure command, before any
parameter is set. -/
theorem handleControlMessage_close {message idMessage : Bytes}
    (hClose : closeRequested env message = true)
    (h : handleControlMessage env message idMessage s = some t) :
    ∃ closed, s.closeStream env = some closed ∧ t.consumers = closed.consumers := by
  obtain ⟨u, replies, rfl, ⟨rfl, hNone⟩ | ⟨params, reply, hParams, hConfigure⟩⟩ :=
    handleControlMessage_cases h
  · rw [closeRequested, hNone] at hClose
    cases hClose
  · rw [closeRequested, hParams] at hClose
    obtain ⟨hKill, hHas⟩ := of_decide_eq_true hClose
    obtain ⟨next, hShutdown, _, _, _, _, _, _, _, rfl⟩ := configure_cases hConfigure
    rcases configureShutdown_cases hShutdown with
      ⟨_, _, hMissing⟩ | ⟨_, hKilled⟩ | ⟨closed, _, _, hClosed, rfl⟩
    · cases hHas.symm.trans hMissing
    · cases hKill.symm.trans hKilled
    · exact ⟨closed, hClosed, rfl⟩

theorem closeStream_output {rank : Nat} (h : s.closeStream env = some t)
    (hPos : 1 ≤ s.config.numConsumers)
    (hLength : s.consumers.length = s.config.numConsumers.toNat) :
    t.output rank = s.output rank ++
      if s.InAcquisition ∧ s.router.Connected rank then [(s.endMessage env, false)] else [] := by
  unfold EigerFan.closeStream at h
  split at h
  · next hIn =>
      unfold EigerFan.sendFabricatedEndMessage sendMessageToAllConsumers at h
      simp only [run_sendToAll env _ hPos hLength, Option.some.injEq] at h
      rw [← h]
      have hOutput := output_broadcast s [(s.endMessage env, false)] rank
      by_cases hOpen : s.router.Connected rank
      · rw [if_pos hOpen] at hOutput
        rw [if_pos ⟨hIn, hOpen⟩]
        exact hOutput
      · rw [if_neg hOpen] at hOutput
        rw [if_neg fun hBoth => hOpen hBoth.2]
        exact hOutput
  · next hOut =>
      cases h
      rw [if_neg fun hBoth => hOut hBoth.1, List.append_nil]

end Close

namespace Watched

/-- After every run of events in step with all consumers connected, a close sends one
end message of the right series and acquisition ID to the consumers that have a header
open, and nothing to the others. -/
theorem close_ends_opened {env : Environment} {vm : Options} {events : List SessionEvent}
    {w : Watched} {message idMessage : Bytes} {t : EigerFan}
    (hRun : Run (step env) (fun w event => w.Connected event ∧ w.InStep env event)
      (initial (parseArguments vm)) events w)
    (hConnected : ∀ consumer ∈ w.fan.consumers, 0 < consumer.connected)
    (hClose : closeRequested env message = true)
    (hStep : session env w.fan (.main (.control message idMessage)) = some t) :
    w.ClosesOpened env t := by
  have hAgrees : Agrees env (parseArguments vm) w :=
    hRun.invariant (agrees_initial (parseArguments_int32 vm).2)
      fun _ _ _ h hAllowed hStep => h.step hAllowed.1 hAllowed.2 hStep
  have hRunning : w.fan.killRequested = false := by
    rw [session, operate] at hStep
    split at hStep
    · cases hStep
    · next hKill => exact Bool.eq_false_iff.mpr hKill
  obtain ⟨closed, hClosed, hConsumers⟩ := handleControlMessage_close hClose (session_main hStep)
  intro rank hRank
  have hLength := hAgrees.idle.length_eq
  have hOutput : t.output rank = w.fan.output rank ++
      if w.fan.InAcquisition ∧ w.fan.router.Connected rank then
        [(w.fan.endMessage env, false)] else [] := by
    rw [output_of_consumers hConsumers rank]
    exact closeStream_output hClosed (by omega) hLength
  have hView := hAgrees.views hRunning rank hRank
  have hOpen : w.fan.router.Connected rank := connected_of_all hConnected hRank
  cases hOpened : w.opened rank with
  | none =>
      rw [hOpened] at hView
      rw [if_neg fun hBoth => hView hBoth.1, List.append_nil] at hOutput
      exact hOutput
  | some header =>
      rw [hOpened] at hView
      rw [if_pos ⟨hView.inAcquisition, hOpen⟩] at hOutput
      refine ⟨⟨w.fan.currentSeries, w.fan.currentAcquisitionID, ?_, ?_, hOutput⟩, hView.sent⟩
      · rw [hView.series]
        rfl
      · rw [hView.acquisitionID]
        rfl

def closeCommand : Value :=
  .object [(controlIDKey, .int 1), (controlCmdKey, .string controlConfigure),
    (controlParamKey, .object [(controlClose, .bool true)])]

/-- A header of no known detail. -/
def unknownHeader : Value :=
  .object [(headerTypeKey, .string globalHeaderType), (seriesKey, .int 8),
    (headerDetailKey, .string (bytes "some"))]

/-- A header that is rejected when nothing follows it. -/
def basicHeader : Value :=
  .object [(headerTypeKey, .string globalHeaderType), (seriesKey, .int 8),
    (headerDetailKey, .string headerDetailBasic)]

def closingEnvironment : Environment :=
  .ofTexts [(objectText sampleHeader, sampleHeader), (objectText unknownHeader, unknownHeader),
    (objectText basicHeader, basicHeader), (objectText closeCommand, closeCommand)]

/-- One consumer connects, and headers arrive. -/
def headersArrive (headers : List Value) : List SessionEvent :=
  [.main (.monitor zmqEventAccepted 0), .startRx] ++
    headers.map fun header => .message [objectText header]

/-- What the fan sends for the first header, and the end message for a series. -/
def sampleHeaderOpened : List (Bytes × Bool) :=
  frame [bytes "\x7b\"htype\":\"dheader-1.0\",\"series\":7,\"header_detail\":\"none\",\"acqID\":\"\"\x7d"]

def sampleEnd (series : Int) : List (Bytes × Bool) :=
  frame [objectText (fabricatedEnd series [])]

theorem inStep_sampleHeader {w : Watched} (hState : w.fan.state = .waitingStream) :
    w.InStep closingEnvironment (.message [objectText sampleHeader]) := by
  have hFirst : readFirstPart closingEnvironment (objectText sampleHeader) =
      some (.header [(headerTypeKey, .string globalHeaderType), (seriesKey, .int 7),
        (headerDetailKey, .string headerDetailNone)] 7 headerDetailNone) := rfl
  have hOut : ¬ w.fan.InAcquisition := by
    rw [EigerFan.InAcquisition, hState]
    decide
  refine ⟨fun members series detail hHeader => ?_, fun members number hImage => ?_⟩
  · cases hFirst.symm.trans hHeader
    exact ⟨fun _ hIn => absurd hIn hOut, fun hUnknown => absurd rfl hUnknown.1, fun _ _ _ => nofun⟩
  · cases hFirst.symm.trans hImage

/-- A header is sent, and the close ends its series. -/
theorem close_ends_sampleHeader :
    ∃ (w : Watched) (t : EigerFan), session closingEnvironment w.fan
        (.main (.control (objectText closeCommand) [])) = some t ∧
      t.output 0 = sampleHeaderOpened ++ sampleEnd 7 ∧ w.ClosesOpened closingEnvironment t := by
  obtain ⟨w, t, hRun, hConnected, hStep, hOutput⟩ : ∃ w t,
      Run (step closingEnvironment)
        (fun w event => w.Connected event ∧ w.InStep closingEnvironment event)
        (initial (parseArguments defaultOptions)) (headersArrive [sampleHeader]) w ∧
      (∀ consumer ∈ w.fan.consumers, 0 < consumer.connected) ∧
      session closingEnvironment w.fan (.main (.control (objectText closeCommand) [])) = some t ∧
      t.output 0 = sampleHeaderOpened ++ sampleEnd 7 := by
    refine ⟨_, _, .cons ⟨trivial, trivial⟩ rfl (.cons ⟨trivial, trivial⟩ rfl
      (.cons ⟨?_, inStep_sampleHeader rfl⟩ rfl (.nil _))), ?_, rfl, ?_⟩
    · decide +kernel
    · decide +kernel
    · decide +kernel
  exact ⟨w, t, hStep, hOutput, close_ends_opened hRun hConnected (by decide +kernel) hStep⟩

/-- A header of unknown detail is sent to nobody, yet the close sends an end message; a
header that is rejected changes the series of the end message. -/
theorem close_out_of_step :
    (∃ w t, Run (step closingEnvironment) Connected (initial (parseArguments defaultOptions))
        (headersArrive [unknownHeader]) w ∧
      (∀ consumer ∈ w.fan.consumers, 0 < consumer.connected) ∧
      session closingEnvironment w.fan (.main (.control (objectText closeCommand) [])) = some t ∧
      w.fan.output 0 = [] ∧ t.output 0 = sampleEnd 8 ∧ ¬ w.ClosesOpened closingEnvironment t) ∧
    ∃ w t, Run (step closingEnvironment) Connected (initial (parseArguments defaultOptions))
        (headersArrive [sampleHeader, basicHeader]) w ∧
      (∀ consumer ∈ w.fan.consumers, 0 < consumer.connected) ∧
      session closingEnvironment w.fan (.main (.control (objectText closeCommand) [])) = some t ∧
      w.fan.output 0 = sampleHeaderOpened ∧ t.output 0 = sampleHeaderOpened ++ sampleEnd 8 ∧
      ¬ w.ClosesOpened closingEnvironment t := by
  constructor
  · obtain ⟨w, t, hRun, hLength, hConnected, hStep, hOpened, hBefore, hAfter⟩ : ∃ w t,
        Run (step closingEnvironment) Connected (initial (parseArguments defaultOptions))
          (headersArrive [unknownHeader]) w ∧
        w.fan.consumers.length = 1 ∧ (∀ consumer ∈ w.fan.consumers, 0 < consumer.connected) ∧
        session closingEnvironment w.fan (.main (.control (objectText closeCommand) [])) = some t ∧
        w.opened 0 = none ∧ w.fan.output 0 = [] ∧ t.output 0 = sampleEnd 8 := by
      refine ⟨_, _, run_iff_exec_guarded.mpr rfl, ?_, ?_, rfl, ?_, ?_, ?_⟩
      · decide +kernel
      · decide +kernel
      · rfl
      · decide +kernel
      · decide +kernel
    refine ⟨w, t, hRun, hConnected, hStep, hBefore, hAfter, fun hCloses => ?_⟩
    have hNothing := hCloses 0 (by omega)
    rw [hOpened, hBefore, hAfter] at hNothing
    cases hNothing
  · obtain ⟨w, t, header, hRun, hLength, hConnected, hStep, hOpened, hSeries, hID, hBefore,
        hAfter⟩ : ∃ w t header,
        Run (step closingEnvironment) Connected (initial (parseArguments defaultOptions))
          (headersArrive [sampleHeader, basicHeader]) w ∧
        w.fan.consumers.length = 1 ∧ (∀ consumer ∈ w.fan.consumers, 0 < consumer.connected) ∧
        session closingEnvironment w.fan (.main (.control (objectText closeCommand) [])) = some t ∧
        w.opened 0 = some header ∧ header.member seriesKey = some (.int 7) ∧
        header.member acquisitionIDKey = some (.string []) ∧
        w.fan.output 0 = sampleHeaderOpened ∧ t.output 0 = sampleHeaderOpened ++ sampleEnd 8 := by
      refine ⟨_, _, _, run_iff_exec_guarded.mpr rfl, ?_, ?_, rfl, rfl, rfl, rfl, ?_, ?_⟩
      · decide +kernel
      · decide +kernel
      · decide +kernel
      · decide +kernel
    refine ⟨w, t, hRun, hConnected, hStep, hBefore, hAfter, fun hCloses => ?_⟩
    have hEnd := hCloses 0 (by omega)
    rw [hOpened, hBefore, hAfter] at hEnd
    obtain ⟨⟨series, acquisitionID, hSameSeries, hSameID, hSent⟩, _⟩ := hEnd
    cases hSameSeries.trans hSeries
    cases hSameID.trans hID
    exact absurd (List.append_cancel_left hSent) (by decide +kernel)

end Watched

end Eiger.Fan
