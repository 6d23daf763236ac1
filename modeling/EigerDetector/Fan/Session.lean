import EigerDetector.Fan.Assertions
import EigerDetector.Fan.Sockets

/-! The fan with its stream messages handled one at a time, and what handling one
of them comes to: its plan as a whole, or no send to a consumer at all. -/
namespace Eiger.Fan

open CharArrays Rapidjson FixedWidth Threads Rx Multipart Transition EigerFan

/-- Every `consumers.at` of the sends finds its consumer. -/
def Sends.Found (s : EigerFan) : Sends → Prop
  | .nothing => True
  | .broadcast _ => 1 ≤ s.config.numConsumers
  | .image parts => parts = [] ∨ (s.consumerAt s.currentConsumerIndexToSendTo).isSome

instance (s : EigerFan) : (sends : Sends) → Decidable (sends.Found s)
  | .nothing => .isTrue trivial
  | .broadcast _ => inferInstanceAs (Decidable (_ ≤ _))
  | .image parts => inferInstanceAs (Decidable (parts = [] ∨ _))

theorem Sends.found_congr {s t : EigerFan} (sends : Sends) (hConfig : t.config = s.config)
    (hConsumers : t.consumers = s.consumers)
    (hIndex : t.currentConsumerIndexToSendTo = s.currentConsumerIndexToSendTo) :
    sends.Found t ↔ sends.Found s := by
  cases sends with
  | nothing => exact Iff.rfl
  | broadcast parts => rw [Found, Found, hConfig]
  | image parts => rw [Found, Found, EigerFan.consumerAt, EigerFan.consumerAt, hConsumers, hIndex]

/-- Neither a cache write nor a send of the handler throws. -/
def FirstPart.GoesThrough (env : Environment) (s : EigerFan) (rest : List Bytes)
    (first : FirstPart) : Prop :=
  s.CacheWrites env (first.writes rest) ∧
    (first.plan env s rest).sends.Found (first.entered s)

section Sending

variable (env : Environment) {s : EigerFan}

theorem consumerAt_isSome_iff (rank : Int) :
    (s.consumerAt rank).isSome ↔ 0 ≤ rank ∧ rank.toNat < s.consumers.length := by
  rw [EigerFan.consumerAt]
  split
  · next hLow => simp [hLow]
  · next hLow => simp [hLow]

theorem run_send_found {sends : Sends}
    (hLength : s.consumers.length = s.config.numConsumers.toNat) (hFound : sends.Found s) :
    (Plan.send sends).run (answer env) s = .returned (s.sent sends) () := by
  cases sends with
  | nothing => rfl
  | broadcast parts => exact run_sendToAll env (frame parts) hFound hLength
  | image parts =>
      rcases hFound with rfl | hAt
      · rw [EigerFan.sent, frame_nil, single_nil]
        rfl
      · obtain ⟨hLow, hHigh⟩ := (consumerAt_isSome_iff _).mp hAt
        exact run_sendImageParts env (frame parts) s hLow hHigh

/-- A send that throws has reached no consumer. -/
theorem run_send_lost {sends : Sends} (hLost : ¬ sends.Found s) :
    ∃ forwarded, (Plan.send sends).run (answer env) s =
      .failed { s with forwardSocket := forwarded } .exception := by
  cases sends with
  | nothing => exact absurd trivial hLost
  | broadcast parts =>
      have hNone : s.config.numConsumers ≤ 0 := by
        rw [Sends.Found] at hLost
        omega
      rw [Plan.send, run_sendToAll_nobody env _ hNone, forward_eq]
      exact ⟨_, rfl⟩
  | image parts =>
      cases parts with
      | nil => exact absurd (.inl rfl) hLost
      | cons part parts =>
          have hAt : s.consumerAt s.currentConsumerIndexToSendTo = none :=
            Option.not_isSome_iff_eq_none.mp fun hSome => hLost (.inr hSome)
          have hForwarded : (s.forward [(part, !parts.isEmpty)]).sendTo
              s.currentConsumerIndexToSendTo [(part, !parts.isEmpty)] = none := by
            rw [EigerFan.sendTo, EigerFan.consumerAt, forward_consumers, ← EigerFan.consumerAt, hAt]
            rfl
          have hAnswer : answer env (.sendMessageToSingleConsumer part (!parts.isEmpty)) s =
              some (s.forward [(part, !parts.isEmpty)], false) := by
            rw [answer, EigerFan.sendToSingle, forward_index, hForwarded]
          rw [forward_eq] at hAnswer
          rw [Plan.send, frame_cons, sendImageParts]
          exact ⟨_, Program.run_act_some (answer env) hAnswer _⟩

end Sending

/-- One whole stream message, exactly: its plan is carried out if no cache write and
no send throws; otherwise the handler gives up before anything reaches a consumer. -/
theorem receive_settled (env : Environment) {s : EigerFan} {part1 : Bytes} {rest : List Bytes}
    {tail : List (Bytes × Bool)} {first : FirstPart}
    (hQueue : s.rxSocket.queue = frame (part1 :: rest) ++ tail)
    (hFirst : readFirstPart env part1 = some first) (hDispatch : first.Dispatches s)
    (hLength : s.consumers.length = s.config.numConsumers.toNat) :
    ∃ s₁, Scratch (first.entered s) s₁ ∧
      ((first.GoesThrough env s rest ∧
        receive env s = .returned (reading [] tail 0 ((first.plan env s rest).apply s₁)) ()) ∨
      (¬ first.GoesThrough env s rest ∧ ∃ forwarded,
        receive env s =
          .returned (reading [] tail 0 { s₁ with forwardSocket := forwarded }) ())) := by
  have hPrepared : PreparedBy env tail (first.entered s) rest (first.writes rest) s
      (first.plan env s rest) ((prepare env part1).run (answer env) (reading rest tail s.more s)) :=
    prepare_preparedBy hFirst hDispatch
  obtain ⟨s₁, rest₁, more₁, hScratch, hRest, ⟨hWrites, hRun⟩ | ⟨hThrows, hRun⟩⟩ := hPrepared
  · refine ⟨s₁, hScratch, ?_⟩
    have hFound : (first.plan env s rest).sends.Found (first.entered s) ↔
        (first.plan env s rest).sends.Found (reading rest₁ tail more₁ s₁) := by
      obtain ⟨_, _, _, rfl⟩ := hScratch
      exact (Sends.found_congr _ rfl rfl rfl).symm
    by_cases hSends : (first.plan env s rest).sends.Found (first.entered s)
    · have hLength₁ : (reading rest₁ tail more₁ s₁).consumers.length =
          (reading rest₁ tail more₁ s₁).config.numConsumers.toNat := by
        obtain ⟨_, _, _, rfl⟩ := hScratch
        cases first <;> exact hLength
      have hExecute := run_execute_of_send env _ (run_send_found env hLength₁ (hFound.mp hSends))
      rw [apply_reading _ _ _ _ (plan_steady rest s env first)] at hExecute
      exact .inl ⟨⟨hWrites, hSends⟩, receive_executed env hQueue hRest hRun (.inl hExecute)⟩
    · obtain ⟨forwarded, hSend⟩ := run_send_lost env fun h => hSends (hFound.mpr h)
      have hExecute := Program.run_bind_failed (answer env) hSend fun _ =>
        Plan.update (first.plan env s rest).updates
      refine .inr ⟨fun h => hSends h.2, forwarded, ?_⟩
      exact receive_executed env hQueue hRest hRun (.inr hExecute)
  · refine ⟨s₁, hScratch, .inr ⟨fun h => hThrows h.1, s₁.forwardSocket, ?_⟩⟩
    exact receive_thrown env hQueue hRest hRun

/-- What the fan meets when messages are handled one at a time. -/
inductive SessionEvent where
  | main (event : MainEvent)
  | startRx
  | message (parts : List Bytes)

/-- A whole message arrives and is handled before anything else happens. -/
def session (env : Environment) (s : EigerFan) : SessionEvent → Option EigerFan
  | .main event => operate env s (.main event)
  | .startRx => operate env s .startRx
  | .message parts => (operate env s (.arrive parts)).bind fun t => operate env t .receive

theorem session_main {env : Environment} {s t : EigerFan} {event : MainEvent}
    (h : session env s (.main event) = some t) : mainStep env s event = some t := by
  rw [session, operate] at h
  split at h
  · cases h
  · exact h

theorem session_startRx {env : Environment} {s t : EigerFan}
    (h : session env s .startRx = some t) : t = { s with state := .waitingStream } := by
  rw [session, operate] at h
  split at h
  · cases h
    rfl
  · cases h

/-- No message of the stream asks the fan to stop. -/
theorem session_message_killRequested {env : Environment} {s t : EigerFan} {parts : List Bytes}
    (h : session env s (.message parts) = some t) : t.killRequested = s.killRequested := by
  obtain ⟨u, hArrive, hReceive⟩ : ∃ u, operate env s (.arrive parts) = some u ∧
      operate env u .receive = some t := Option.bind_eq_some_iff.mp h
  rw [operate] at hArrive
  rw [operate] at hReceive
  split at hReceive
  · cases hReceive
  · have hFrame := receive_frame env u
    split at hReceive
    · next hReturned =>
        rw [hReturned] at hFrame
        cases hReceive
        split at hArrive
        · cases hArrive
        · cases hArrive
          exact hFrame.killRequested
    · cases hReceive

/-- The arrival of a message in front of an empty queue. -/
def EigerFan.arrived (s : EigerFan) (parts : List Bytes) : EigerFan :=
  { s with rxSocket := { s.rxSocket with queue := frame parts } }

/-- Once started, the fan handles the message that arrives. -/
theorem session_message {env : Environment} {s : EigerFan} {parts : List Bytes}
    (hQueue : s.rxSocket.queue = []) (hState : s.state ≠ .waitingConsumers) :
    session env s (.message parts) =
      match receive env (s.arrived parts) with
      | .returned t _ => some t
      | _ => none := by
  rw [session, operate, if_neg hState, hQueue, List.nil_append]
  exact if_neg hState

/-- Before that, none arrives. -/
theorem session_message_waiting {env : Environment} {s : EigerFan} {parts : List Bytes}
    (hState : s.state = .waitingConsumers) : session env s (.message parts) = none := by
  rw [session, operate, if_pos hState]
  rfl

/-- A message whose first part cannot be read, or without one, is not handled. -/
theorem session_message_unread {env : Environment} {s : EigerFan} {parts : List Bytes}
    (hQueue : s.rxSocket.queue = [])
    (hUnread : ∀ part1 rest, parts = part1 :: rest → readFirstPart env part1 = none) :
    session env s (.message parts) = none := by
  by_cases hState : s.state = .waitingConsumers
  · exact session_message_waiting hState
  · rw [session_message hQueue hState]
    cases parts with
    | nil => rfl
    | cons part1 rest =>
        have hArrived : (s.arrived (part1 :: rest)).rxSocket.queue = frame (part1 :: rest) ++ [] :=
          (List.append_nil _).symm
        obtain ⟨u, hPrepare⟩ : ∃ u, (prepare env part1).run (answer env)
            (reading rest [] s.more (s.arrived (part1 :: rest))) = .failed u .abort :=
          prepare_aborts (hUnread part1 rest rfl)
        rw [receive_aborts env hArrived hPrepare]

/-- Between two messages nothing is left to be received, and there is a consumer for
each rank. -/
structure Idle (config : EigerFanConfig) (s : EigerFan) : Prop where
  queue : s.rxSocket.queue = []
  installed : Installed config s

namespace Idle

variable {env : Environment} {config : EigerFanConfig} {s t : EigerFan}

theorem length_eq (h : Idle config s) : s.consumers.length = s.config.numConsumers.toNat := by
  rw [h.installed.consumers_length, h.installed.numConsumers]

theorem goesThrough_arrived (first : FirstPart) (parts rest : List Bytes) :
    first.GoesThrough env (s.arrived parts) rest ↔ first.GoesThrough env s rest := by
  cases first <;> exact and_congr Iff.rfl (Sends.found_congr _ rfl rfl rfl)

theorem plan_arrived (first : FirstPart) (parts rest : List Bytes) :
    first.plan env (s.arrived parts) rest = first.plan env s rest := by
  cases first <;> rfl

/-- A message that was handled was readable, and either its plan was carried out or
nothing was sent to a consumer. -/
theorem message {parts : List Bytes} (h : Idle config s)
    (hStep : session env s (.message parts) = some t) :
    s.state ≠ .waitingConsumers ∧ ∃ part1 rest first s₁, parts = part1 :: rest ∧
      readFirstPart env part1 = some first ∧ first.Dispatches s ∧
      Scratch (first.entered s) s₁ ∧
      ((first.GoesThrough env s rest ∧
        t = reading [] [] 0 ((first.plan env s rest).apply s₁)) ∨
      (¬ first.GoesThrough env s rest ∧ ∃ forwarded,
        t = reading [] [] 0 { s₁ with forwardSocket := forwarded })) := by
  have hState : s.state ≠ .waitingConsumers := by
    intro hWaiting
    rw [session_message_waiting hWaiting] at hStep
    cases hStep
  refine ⟨hState, ?_⟩
  obtain ⟨part1, rest, first, rfl, hFirst⟩ : ∃ part1 rest first, parts = part1 :: rest ∧
      readFirstPart env part1 = some first := by
    by_contra hNone
    rw [session_message_unread h.queue fun part1 rest hParts =>
      Option.eq_none_iff_forall_ne_some.mpr fun first hFirst =>
        hNone ⟨part1, rest, first, hParts, hFirst⟩] at hStep
    cases hStep
  rw [session_message h.queue hState] at hStep
  split at hStep
  · next u _ hReturned =>
      cases hStep
      have hQueue : (s.arrived (part1 :: rest)).rxSocket.queue = frame (part1 :: rest) ++ [] :=
        (List.append_nil _).symm
      have hDispatch : first.Dispatches (s.arrived (part1 :: rest)) :=
        dispatches_of_returned env hQueue hFirst hReturned
      obtain ⟨s₁, hScratch, hSettled⟩ :=
        receive_settled env hQueue hFirst hDispatch h.length_eq
      refine ⟨part1, rest, first, { s₁ with rxSocket := s.rxSocket }, rfl, hFirst, ?_, ?_, ?_⟩
      · cases first <;> exact hDispatch
      · obtain ⟨_, _, _, rfl⟩ := hScratch
        cases first <;> exact ⟨_, _, _, rfl⟩
      · rw [goesThrough_arrived, plan_arrived] at hSettled
        rcases hSettled with ⟨hThrough, hReturn⟩ | ⟨hLost, forwarded, hReturn⟩
        · cases hReturned.symm.trans hReturn
          refine .inl ⟨hThrough, ?_⟩
          have hSteady := plan_steady rest s env first
          rw [← apply_reading _ _ _ _ hSteady, ← apply_reading _ _ _ _ hSteady]
          rfl
        · cases hReturned.symm.trans hReturn
          exact .inr ⟨hLost, forwarded, rfl⟩
  · cases hStep

/-- The same for a message whose first part is known. -/
theorem message_of_first {part1 : Bytes} {rest : List Bytes} {first : FirstPart} (h : Idle config s)
    (hFirst : readFirstPart env part1 = some first)
    (hStep : session env s (.message (part1 :: rest)) = some t) :
    first.Dispatches s ∧ ∃ s₁, Scratch (first.entered s) s₁ ∧
      ((first.GoesThrough env s rest ∧
        t = reading [] [] 0 ((first.plan env s rest).apply s₁)) ∨
      (¬ first.GoesThrough env s rest ∧ ∃ forwarded,
        t = reading [] [] 0 { s₁ with forwardSocket := forwarded })) := by
  obtain ⟨_, _, _, read, s₁, hParts, hRead, hDispatch, hScratch, hSettled⟩ := h.message hStep
  cases hParts
  cases hFirst.symm.trans hRead
  exact ⟨hDispatch, s₁, hScratch, hSettled⟩

theorem initial {config : EigerFanConfig} (hBlock : IsInt32 config.blockSize) :
    Idle config (Fan.initial config) :=
  ⟨rfl, installed_initial hBlock⟩

/-- Every event of a session leaves nothing to be received. -/
theorem step {event : SessionEvent} (h : Idle config s)
    (hStep : session env s event = some t) : Idle config t := by
  cases event with
  | main event =>
      refine ⟨?_, h.installed.mainStep (session_main hStep)⟩
      rw [(mainStep_reception (session_main hStep)).1]
      exact h.queue
  | startRx =>
      rw [session_startRx hStep]
      exact ⟨h.queue, { h.installed with }⟩
  | message parts =>
      obtain ⟨u, hArrive, hReceive⟩ := Option.bind_eq_some_iff.mp hStep
      refine ⟨?_, (h.installed.operate hArrive).operate hReceive⟩
      obtain ⟨_, _, _, _, _, _, _, _, _, ⟨_, rfl⟩ | ⟨_, _, rfl⟩⟩ := h.message hStep
      · rfl
      · rfl

end Idle

end Eiger.Fan
