import EigerDetector.Fan.Replies

/-! Both threads of the fan, with each of their actions as a step: the loops of the threads,
the handlers of the main thread as programs, and how these compare to handling at one go. -/
namespace Eiger.Fan

open CharArrays Rapidjson FixedWidth Threads Rx Multipart Transition EigerFan

/-- The sockets the main thread receives from. -/
inductive Channel where
  | control
  | monitor (rank : Nat)
  | forwardMonitor
  deriving DecidableEq

/-- The atomic actions of the main thread. An attempt is what it does at one go. -/
inductive MainAction where
  | shared (action : RxAction)
  | recv (channel : Channel)
  | getsockopt (channel : Channel)
  | attempt (use : EigerFan → Option EigerFan)

/-- What an action answers. An attempt answers false if it throws or an assertion fails. -/
@[reducible] def MainAction.Reply : MainAction → Type
  | shared action => action.Reply
  | recv _ => Bytes
  | getsockopt _ => Unit
  | attempt _ => Bool

/-- The members with the sockets the main thread receives from. -/
structure Process where
  fan : EigerFan
  channels : Channel → RxSocket

/-- The value of `ZMQ_RCVMORE`. -/
def RxSocket.moreValue (socket : RxSocket) : Int := if socket.rcvMore then 1 else 0

/-- `socket->getsockopt(ZMQ_RCVMORE, &more, &more_size)`. -/
def EigerFan.getsockopt (socket : RxSocket) (s : EigerFan) : EigerFan :=
  { s with more := socket.moreValue }

def answerMain (env : Environment) : (action : MainAction) → Process →
    Option (Process × action.Reply)
  | .shared action, p => (answer env action p.fan).map fun (fan, reply) =>
      ({ p with fan := fan }, reply)
  | .recv channel, p =>
      match (p.channels channel).queue with
      | [] => none
      | (part, more) :: queue =>
          some ({ p with channels := Function.update p.channels channel ⟨queue, more⟩ }, part)
  | .getsockopt channel, p => some ({ p with fan := p.fan.getsockopt (p.channels channel) }, ())
  | .attempt use, p =>
      match use p.fan with
      | none => some (p, false)
      | some fan => some ({ p with fan := fan }, true)

abbrev Main := Program MainAction MainAction.Reply Failure

namespace Main

def perform (action : MainAction) : Main action.Reply := Program.perform action

/-- Code on the members that both threads use. -/
def shared {A : Type} : Rx A → Main A
  | .done a => .done a
  | .fail e => .fail e
  | .act action next => .act (.shared action) fun reply => shared (next reply)

def recv (channel : Channel) : Main Bytes := perform (.recv channel)

def attempt (use : EigerFan → Option EigerFan) : Main Unit := do
  if ← perform (.attempt use) then pure () else .fail .abort

/-- `socket.getsockopt(ZMQ_RCVMORE, &more, &more_size)` and the test of `more`. -/
def moreParts (channel : Channel) : Main Bool := do
  perform (.getsockopt channel)
  let s ← perform (.shared .members)
  pure (s.more = moreMessages)

/-- Drop what is left of the message. The fuel bounds the parts still queued. -/
def drainSurplusParts (channel : Channel) : Nat → Main Unit
  | 0 => pure ()
  | fuel + 1 => do
      if ← moreParts channel then
        let _messagePartExtra ← recv channel
        drainSurplusParts channel fuel
      else pure ()

end Main

open Main (shared attempt)

/-- The number in the first 16 bits of a monitor message. -/
def eventCode (message : Bytes) : Nat :=
  (message.getD 0 0).toNat + 256 * (message.getD 1 0).toNat

/-- What both monitor handlers do around the counting. -/
def handleMonitored (channel : Channel) (count : Nat → EigerFan → EigerFan) (fuel : Nat) :
    Main Unit := do
  let message ← Main.recv channel
  if ← Main.moreParts channel then
    let _messagePart2 ← Main.recv channel
    shared (assign (count (eventCode message)))
  else shared (assign (count (eventCode message)))
  Main.drainSurplusParts channel fuel

/-- `SendFabricatedEndMessage`, action by action. -/
def sendFabricatedEnd (env : Environment) : Rx Unit := do
  let s ← members
  sendMessageToAllConsumers
    (env.write (fabricatedEnd s.currentSeries s.currentAcquisitionID)) false
  assign (markState .dstrEnd)

/-- `Stop`. -/
def stopping : Rx Unit := do
  assign fun s => { s with killRequested := true }
  assign (markState .killRequested)

/-- Kill, or else close, action by action. -/
def shutdown (env : Environment) (params : Value) : Rx Unit := do
  if ← access (params.hasMember controlKill) then stopping
  else if ← access (params.hasMember controlClose) then
    let s ← members
    if s.state = .dstrHeader ∨ s.state = .dstrImage then
      sendFabricatedEnd env
      stopping
    else stopping
  else pure ()

/-- The reply to the parameters so far. -/
def shutdownReply (params : Value) : Value :=
  if params.hasMember controlKill = some true ∨ params.hasMember controlClose = some true then
    controlResponseOk
  else controlResponseNoCfgParam

/-- Stamp a reply, repeat the id of the message in it and send it. -/
def sendReply (env : Environment) (idMessage : Bytes) (ctrlDocument reply : Value)
    (s : EigerFan) : Option EigerFan := do
  let stamped ← reply.addMember (bytes "timestamp")
    (.string (env.timestamp s.controlSocket.length))
  let msgId ← (ctrlDocument.member controlIDKey).bind Value.getInt
  let statusDocument ← stamped.addMember controlIDKey (.int (toUInt32 msgId))
  pure { s with controlSocket := s.controlSocket ++ [(idMessage, statusDocument)] }

/-- The end of `HandleControlMessage` for a configure command. -/
def finishConfigure (env : Environment) (message idMessage : Bytes) (params : Value)
    (s : EigerFan) : Option EigerFan := do
  let doc ← env.parse (cString message)
  let (t, reply) ← configureSettings env params (s, shutdownReply params)
  sendReply env idMessage doc reply t

/-- `HandleControlMessage` for any other message. -/
def finishControl (env : Environment) (message idMessage : Bytes) (s : EigerFan) :
    Option EigerFan := do
  let (ctrlDocument, t, reply) ← interpretControl env message s
  sendReply env idMessage ctrlDocument reply t

/-- `HandleControlMessage`, action by action. -/
def handleControl (env : Environment) (fuel : Nat) : Main Unit := do
  let idMessage ← Main.recv .control
  let message ← Main.recv .control
  match (env.parse (cString message)).bind configureParams with
  | some params =>
      shared (shutdown env params)
      attempt (finishConfigure env message idMessage params)
  | none => attempt (finishControl env message idMessage)
  Main.drainSurplusParts .control fuel

/-- A count that leaves the flag alone. -/
def keepingMore (use : EigerFan → EigerFan) (s : EigerFan) : EigerFan :=
  { use s with more := s.more }

/-- The handler of the message that is queued, in `fuel` parts at most. -/
def handler (env : Environment) (fuel : Nat) : Channel → Main Unit
  | .control => handleControl env fuel
  | .monitor rank =>
      handleMonitored (.monitor rank) (fun code => keepingMore (handleMonitorMessage code rank)) fuel
  | .forwardMonitor =>
      handleMonitored .forwardMonitor (fun code => keepingMore (handleForwardMonitorMessage code)) fuel

/-! Where nothing interferes, the programs of the main thread do what its handlers do. -/

section Alone

variable (env : Environment) (s : EigerFan) (channels : Channel → RxSocket)

theorem result_shared {A : Type} (p : Rx A) :
    ((shared p).run (answerMain env) ⟨s, channels⟩).result =
      (p.run (answer env) s).result.map fun (t, a) => (⟨t, channels⟩, a) := by
  induction p generalizing s with
  | done a => rfl
  | fail e => rfl
  | act action next ih =>
      rw [shared, Program.run, Program.run, answerMain]
      cases answer env action s with
      | none => rfl
      | some result => exact ih result.2 result.1

theorem result_attempt (use : EigerFan → Option EigerFan) :
    ((attempt use).run (answerMain env) ⟨s, channels⟩).result =
      (use s).map fun t => (⟨t, channels⟩, ()) := by
  rw [attempt, Main.perform, Program.perform, Program.act_bind, Program.run, answerMain]
  cases use s <;> rfl

theorem result_sendFabricatedEnd :
    ((sendFabricatedEnd env).run (answer env) s).result =
      (s.sendFabricatedEndMessage env).map fun t => (t, ()) := by
  have hEnd : (sendFabricatedEnd env).run (answer env) s =
      (sendMessageToAllConsumers (env.write (fabricatedEnd s.currentSeries
        s.currentAcquisitionID)) false >>= fun _ => assign (markState .dstrEnd)).run
        (answer env) s := rfl
  rw [hEnd, Program.result_bind, EigerFan.sendFabricatedEndMessage]
  simp only
  cases (sendMessageToAllConsumers (env.write (fabricatedEnd s.currentSeries
    s.currentAcquisitionID)) false).run (answer env) s <;> rfl

/-- The close of a stream that may be open. -/
theorem result_close :
    ((members >>= fun u => if u.state = .dstrHeader ∨ u.state = .dstrImage then
        sendFabricatedEnd env >>= fun _ => stopping else stopping).run (answer env) s).result =
      (s.closeStream env).map fun t => (t.stop, ()) := by
  have hMembers : (members >>= fun u => if u.state = .dstrHeader ∨ u.state = .dstrImage then
      sendFabricatedEnd env >>= fun _ => stopping else stopping).run (answer env) s =
      (if s.state = .dstrHeader ∨ s.state = .dstrImage then
        sendFabricatedEnd env >>= fun _ => stopping else stopping).run (answer env) s := rfl
  rw [hMembers, EigerFan.closeStream]
  split
  · rw [Program.result_bind, result_sendFabricatedEnd]
    cases s.sendFabricatedEndMessage env <;> rfl
  · rfl

/-- A shutdown action by action. -/
theorem result_shutdown (params reply : Value) :
    ((shutdown env params).run (answer env) s).result =
      (configureShutdown env params (s, reply)).map fun (t, _) => (t, ()) := by
  rw [configureShutdown, shutdown]
  cases hKill : params.hasMember controlKill with
  | none => rfl
  | some kill =>
      cases kill with
      | true => rfl
      | false =>
          cases hClose : params.hasMember controlClose with
          | none => rfl
          | some close =>
              cases close with
              | false => rfl
              | true =>
                  refine (result_close env s).trans ?_
                  cases s.closeStream env <;> rfl

theorem run_recv_bind {A : Type} {channel : Channel} {part : Bytes} {more : Bool}
    {queue : List (Bytes × Bool)} (hQueue : (channels channel).queue = (part, more) :: queue)
    (f : Bytes → Main A) :
    (Main.recv channel >>= f).run (answerMain env) ⟨s, channels⟩ =
      (f part).run (answerMain env) ⟨s, Function.update channels channel ⟨queue, more⟩⟩ := by
  have hAnswer : answerMain env (.recv channel) ⟨s, channels⟩ =
      some (⟨s, Function.update channels channel ⟨queue, more⟩⟩, part) := by
    rw [answerMain]
    simp only [hQueue]
  exact Program.run_act_some (answerMain env) hAnswer _

theorem run_moreParts_bind {A : Type} (channel : Channel) (f : Bool → Main A) :
    (Main.moreParts channel >>= f).run (answerMain env) ⟨s, channels⟩ =
      (f (channels channel).rcvMore).run (answerMain env)
        ⟨s.getsockopt (channels channel), channels⟩ := by
  have hTest : decide ((s.getsockopt (channels channel)).more = moreMessages) =
      (channels channel).rcvMore := by
    rw [EigerFan.getsockopt, RxSocket.moreValue]
    cases (channels channel).rcvMore <;> rfl
  show (f (decide ((s.getsockopt (channels channel)).more = moreMessages))).run _ _ = _
  rw [hTest]

/-- The flag of the last part ends the draining. -/
theorem run_drain_last (channel : Channel) {fuel : Nat} (hFuel : 0 < fuel)
    (hLast : (channels channel).rcvMore = false) :
    (Main.drainSurplusParts channel fuel).run (answerMain env) ⟨s, channels⟩ =
      .returned ⟨{ s with more := 0 }, channels⟩ () := by
  obtain ⟨fuel, rfl⟩ := Nat.exists_eq_succ_of_ne_zero hFuel.ne'
  rw [Main.drainSurplusParts, run_moreParts_bind, EigerFan.getsockopt, RxSocket.moreValue, hLast]
  rfl

theorem controlCommand_of_configureParams {doc params : Value}
    (h : configureParams doc = some params) :
    controlCommand env doc s = configure env params s := by
  obtain ⟨command, hCommand, h⟩ := Option.bind_eq_some_iff.mp h
  split at h
  · next hConfigure =>
      subst hConfigure
      obtain ⟨value, hValue, hText⟩ := Option.bind_eq_some_iff.mp hCommand
      obtain ⟨hStatus, hConfig, hVersion, hCommands⟩ := controlConfigure_distinct
      cases doc with
      | object members =>
          have hParams : Value.findMember controlParamKey members = some params := h
          rw [controlCommand_of_command hValue hText, if_neg hStatus.symm, if_neg hConfig.symm,
            if_neg hVersion.symm, if_neg hCommands.symm, if_pos rfl, hParams]
      | _ => cases hValue
  · cases h

/-- The reply of a shutdown is decided by the parameters. -/
theorem configureShutdown_shutdownReply {params : Value} {next : EigerFan × Value}
    (h : configureShutdown env params (s, controlResponseNoCfgParam) = some next) :
    next.2 = shutdownReply params := by
  rw [shutdownReply]
  rcases configureShutdown_cases h with
    ⟨rfl, hKill, hClose⟩ | ⟨rfl, hKill⟩ | ⟨closed, hKill, hClose, hClosed, rfl⟩
  · rw [hKill, hClose, if_neg (by simp)]
  · rw [hKill, if_pos (.inl rfl)]
  · rw [hClose, if_pos (.inr rfl)]

/-- Interpreting a control message and then replying is handling it. -/
theorem handleControlMessage_eq (message idMessage : Bytes) :
    handleControlMessage env message idMessage s =
      (finishControl env message idMessage s).map fun t => { t with more := 0 } := by
  rw [handleControlMessage, finishControl]
  cases interpretControl env message s with
  | none => rfl
  | some next =>
      obtain ⟨doc, t, reply⟩ := next
      simp only [Option.bind_eq_bind, Option.bind_some, sendReply]
      cases reply.addMember (bytes "timestamp")
        (.string (env.timestamp t.controlSocket.length)) with
      | none => rfl
      | some stamped =>
          simp only [Option.bind_some]
          cases (doc.member controlIDKey).bind Value.getInt with
          | none => rfl
          | some msgId =>
              simp only [Option.bind_some]
              cases stamped.addMember controlIDKey (.int (toUInt32 msgId)) <;> rfl

/-- A configure command is a shutdown followed by the rest. -/
theorem finishControl_of_params {message idMessage : Bytes} {params : Value}
    (hParams : (env.parse (cString message)).bind configureParams = some params) :
    finishControl env message idMessage s =
      (configureShutdown env params (s, controlResponseNoCfgParam)).bind fun (t, _) =>
        finishConfigure env message idMessage params t := by
  obtain ⟨doc, hDoc, hConfigure⟩ := Option.bind_eq_some_iff.mp hParams
  have hCommand : interpretControl env message s =
      (configure env params s).map fun next => (doc, next) := by
    rw [interpretControl, hDoc]
    simp only
    rw [controlCommand_of_configureParams env s hConfigure]
  rw [finishControl, hCommand, configure_eq]
  cases hShutdown : configureShutdown env params (s, controlResponseNoCfgParam) with
  | none => rfl
  | some next =>
      obtain ⟨t, reply⟩ := next
      have hReply : reply = shutdownReply params := configureShutdown_shutdownReply env s hShutdown
      simp only [Option.bind_some, Option.bind_eq_bind]
      rw [finishConfigure, hDoc, hReply]
      simp only [Option.bind_some, Option.bind_eq_bind]
      cases configureSettings env params (t, shutdownReply params) <;> rfl

/-- A control message handled alone. -/
theorem result_handleControl {idMessage message : Bytes} {queue : List (Bytes × Bool)}
    {fuel : Nat} (hFuel : 0 < fuel)
    (hQueue : (channels .control).queue = (idMessage, true) :: (message, false) :: queue) :
    ((handleControl env fuel).run (answerMain env) ⟨s, channels⟩).result =
      (handleControlMessage env message idMessage s).map fun t =>
        (⟨t, Function.update channels .control ⟨queue, false⟩⟩, ()) := by
  have hSecond : (Function.update channels .control ⟨(message, false) :: queue, true⟩
      .control).queue = (message, false) :: queue := by rw [Function.update_self]
  rw [handleControl, run_recv_bind env s channels hQueue, run_recv_bind env s _ hSecond,
    Function.update_idem, handleControlMessage_eq]
  have hLast : (Function.update channels .control ⟨queue, false⟩ .control).rcvMore = false := by
    rw [Function.update_self]
  have hDrained : ∀ u : Option EigerFan, ((u.map fun t => (Process.mk t (Function.update channels
      .control ⟨queue, false⟩), ())).bind fun (p, _) =>
        ((Main.drainSurplusParts .control fuel).run (answerMain env) p).result) =
      (u.map fun t => { t with more := 0 }).map fun t =>
        (⟨t, Function.update channels .control ⟨queue, false⟩⟩, ()) := by
    intro u
    cases u with
    | none => rfl
    | some t => exact congrArg Outcome.result (run_drain_last env t _ .control hFuel hLast)
  cases hParams : (env.parse (cString message)).bind configureParams with
  | none => rw [Program.result_bind, result_attempt, hDrained]
  | some params =>
      rw [Program.result_bind, result_shared, result_shutdown env s params controlResponseNoCfgParam,
        finishControl_of_params env s hParams, ← hDrained]
      cases configureShutdown env params (s, controlResponseNoCfgParam) with
      | none => rfl
      | some next =>
          simp only [Option.map_some, Option.bind_some]
          rw [Program.result_bind, result_attempt]

/-- A monitor message handled alone. -/
theorem result_handleMonitored {channel : Channel} {count handled : Nat → EigerFan → EigerFan}
    {message endpoint : Bytes} {queue : List (Bytes × Bool)} {fuel : Nat} (hFuel : 0 < fuel)
    (hQueue : (channels channel).queue = (message, true) :: (endpoint, false) :: queue)
    (hCount : ∀ code u more, { count code { u with more := more } with more := 0 } =
      handled code u) :
    ((handleMonitored channel count fuel).run (answerMain env) ⟨s, channels⟩).result =
      some (⟨handled (eventCode message) s, Function.update channels channel ⟨queue, false⟩⟩,
        ()) := by
  have hSecond : (Function.update channels channel ⟨(endpoint, false) :: queue, true⟩ channel).queue =
      (endpoint, false) :: queue := by rw [Function.update_self]
  have hMore : (Function.update channels channel ⟨(endpoint, false) :: queue, true⟩
      channel).rcvMore = true := by rw [Function.update_self]
  have hLast : (Function.update channels channel ⟨queue, false⟩ channel).rcvMore = false := by
    rw [Function.update_self]
  rw [handleMonitored, run_recv_bind env s channels hQueue, run_moreParts_bind, hMore]
  simp only [if_true]
  rw [run_recv_bind env _ _ hSecond, Function.update_idem, Program.result_bind, result_shared]
  show ((Main.drainSurplusParts channel fuel).run (answerMain env)
    ⟨count (eventCode message) _, _⟩).result = _
  rw [run_drain_last env _ _ channel hFuel hLast, EigerFan.getsockopt, hCount]
  rfl

theorem keepingMore_monitor (rank code : Nat) (s : EigerFan) (more : Int) :
    { keepingMore (handleMonitorMessage code rank) { s with more := more } with more := 0 } =
      handleMonitorMessage code rank s := by
  unfold keepingMore handleMonitorMessage
  simp only
  split
  · rfl
  · split <;> rfl

theorem keepingMore_forwardMonitor (code : Nat) (s : EigerFan) (more : Int) :
    { keepingMore (handleForwardMonitorMessage code) { s with more := more } with more := 0 } =
      handleForwardMonitorMessage code s := by
  unfold keepingMore handleForwardMonitorMessage
  simp only
  split
  · rfl
  · split <;> rfl

/-- The messages of both monitors, as the main thread handles them at one go. -/
theorem result_handler_monitor {rank : Nat} {message endpoint : Bytes}
    {queue : List (Bytes × Bool)} {fuel : Nat} (hFuel : 0 < fuel)
    (hQueue : (channels (.monitor rank)).queue = (message, true) :: (endpoint, false) :: queue) :
    ((handler env fuel (.monitor rank)).run (answerMain env) ⟨s, channels⟩).result =
      some (⟨handleMonitorMessage (eventCode message) rank s,
        Function.update channels (.monitor rank) ⟨queue, false⟩⟩, ()) :=
  result_handleMonitored env s channels hFuel hQueue (keepingMore_monitor rank)

theorem result_handler_forwardMonitor {message endpoint : Bytes} {queue : List (Bytes × Bool)}
    {fuel : Nat} (hFuel : 0 < fuel)
    (hQueue : (channels .forwardMonitor).queue = (message, true) :: (endpoint, false) :: queue) :
    ((handler env fuel .forwardMonitor).run (answerMain env) ⟨s, channels⟩).result =
      some (⟨handleForwardMonitorMessage (eventCode message) s,
        Function.update channels .forwardMonitor ⟨queue, false⟩⟩, ()) :=
  result_handleMonitored env s channels hFuel hQueue keepingMore_forwardMonitor

end Alone

/-- Where the rx thread is in `HandleRxSocket`: it tests for a kill, waits for a message, and
handles it. -/
inductive RxThread where
  | unstarted
  | testing
  | waiting
  | handling (rest : Rx Unit)
  | finished

/-- Where the main thread is in `run`: between two messages, inside a handler, or closing the
sockets that are left. -/
inductive MainThread where
  | serving
  | handling (rest : Main Unit)
  | closing (left : List Socket)

structure ThreadPair where
  process : Process
  closed : List Socket
  main : MainThread
  rx : RxThread

/-- What happens next: the rx thread is started, a message reaches one of the sockets, or
one of the threads takes its next step. -/
inductive ThreadEvent where
  | startRx
  | arrive (message : List Bytes)
  | deliver (channel : Channel) (message : List Bytes)
  | serve (channel : Channel)
  | leave
  | main
  | rx

/-- The order in which `run` closes the sockets. -/
def EigerFan.socketsToClose (s : EigerFan) : List Socket :=
  (List.range s.config.numConsumers.toNat).map Socket.consumer ++ [.forward]

/-- The sockets that the action sends on where the tests in front of the sends let it. -/
def RxAction.targets (s : EigerFan) : RxAction → List Socket
  | .forward _ => [.forward]
  | .sendTo rank _ => if 0 ≤ rank then [.consumer rank.toNat] else []
  | .sendMessageToSingleConsumer _ _ =>
      if 0 ≤ s.currentConsumerIndexToSendTo then
        [.forward, .consumer s.currentConsumerIndexToSendTo.toNat]
      else [.forward]
  | _ => []

namespace ThreadPair

def initial (config : EigerFanConfig) : ThreadPair :=
  ⟨⟨Fan.initial config, fun _ => ⟨[], false⟩⟩, [], .serving, .unstarted⟩

def withFan (w : ThreadPair) (fan : EigerFan) : ThreadPair :=
  { w with process := { w.process with fan := fan } }

/-- One step of the rx thread. -/
def rxStep (env : Environment) (w : ThreadPair) : Option ThreadPair :=
  match w.rx with
  | .testing =>
      some { w with rx := if w.process.fan.killRequested then .finished else .waiting }
  | .waiting =>
      match w.process.fan.rxSocket.queue with
      | [] => none
      | (message, more) :: queue =>
          some { w.withFan { w.process.fan with rxSocket := ⟨queue, more⟩ } with
            rx := .handling (handleStreamMessage env w.process.fan.rxSocket.queue.length message) }
  | .handling (.act action next) =>
      -- what comes of a send on a closed socket is up to the library
      if ∃ socket ∈ action.targets w.process.fan, w.process.fan.Open socket ∧ socket ∈ w.closed then
        none
      else (answer env action w.process.fan).map fun (fan, reply) =>
        { w.withFan fan with rx := .handling (next reply) }
  | .handling (.done _) => some { w with rx := .testing }
  | _ => none

/-- One step of the main thread that goes on with what it is at. -/
def mainStep (env : Environment) (w : ThreadPair) : Option ThreadPair :=
  match w.main with
  | .handling (.act action next) =>
      (answerMain env action w.process).map fun (process, reply) =>
        { w with process := process, main := .handling (next reply) }
  | .handling (.done _) => some { w with main := .serving }
  | .closing (socket :: left) =>
      some { w with closed := socket :: w.closed, main := .closing left }
  | _ => none

def started (w : ThreadPair) : Bool :=
  match w.rx with
  | .unstarted => false
  | _ => true

/-- Neither thread has ended the process by an assertion or an exception. -/
def alive (w : ThreadPair) : Bool :=
  match w.main, w.rx with
  | .handling (.fail _), _ => false
  | _, .handling (.fail _) => false
  | _, _ => true

def step (env : Environment) (w : ThreadPair) (event : ThreadEvent) : Option ThreadPair :=
  if ¬ w.alive then none
  else match event with
  | .startRx =>
      match w.main, w.rx with
      | .serving, .unstarted =>
          if w.process.fan.killRequested then none
          else (operate env w.process.fan .startRx).map fun fan =>
            { w.withFan fan with rx := .testing }
      | _, _ => none
  | .arrive message =>
      match w.rx with
      | .unstarted => none
      | .finished => none
      | _ =>
          -- a message has at least one part
          if message.isEmpty then none
          else some (w.withFan { w.process.fan with
            rxSocket := { w.process.fan.rxSocket with
              queue := w.process.fan.rxSocket.queue ++ frame message } })
  | .deliver channel message =>
      some { w with process := { w.process with
        channels := Function.update w.process.channels channel
          { w.process.channels channel with
            queue := (w.process.channels channel).queue ++ frame message } } }
  | .serve channel =>
      match w.main with
      | .serving =>
          -- only before the rx thread is started, monitors polled with a kill are still served
          if w.process.fan.killRequested ∧ (w.started ∨ channel = .control) ∨
              (w.process.channels channel).queue.isEmpty then none
          else some { w with
            main := .handling (handler env (w.process.channels channel).queue.length channel) }
      | _ => none
  | .leave =>
      match w.main with
      | .serving =>
          if w.process.fan.killRequested then
            some { w with main := .closing w.process.fan.socketsToClose }
          else none
      | _ => none
  | .main => w.mainStep env
  | .rx => w.rxStep env

variable {env : Environment} {w w' : ThreadPair}

/-- What a step of the rx thread can be. -/
theorem rxStep_cases (h : w.rxStep env = some w') :
    (w.rx = .testing ∧
        w' = { w with rx := if w.process.fan.killRequested then .finished else .waiting }) ∨
      (w.rx = .waiting ∧ ∃ message more queue,
        w.process.fan.rxSocket.queue = (message, more) :: queue ∧
        w' = { w.withFan { w.process.fan with rxSocket := ⟨queue, more⟩ } with
          rx := .handling (handleStreamMessage env w.process.fan.rxSocket.queue.length message) }) ∨
      (∃ action next fan reply, w.rx = .handling (.act action next) ∧
        answer env action w.process.fan = some (fan, reply) ∧
        w' = { w.withFan fan with rx := .handling (next reply) }) ∨
      (∃ result, w.rx = .handling (.done result) ∧ w' = { w with rx := .testing }) := by
  rw [rxStep] at h
  split at h
  · next hRx =>
      cases h
      exact .inl ⟨hRx, rfl⟩
  · next hRx =>
      split at h
      · cases h
      · next message more queue hQueue =>
          cases h
          exact .inr (.inl ⟨hRx, message, more, queue, hQueue, rfl⟩)
  · next action next hRx =>
      split at h
      · cases h
      · obtain ⟨⟨fan, reply⟩, hAnswer, rfl⟩ := Option.map_eq_some_iff.mp h
        exact .inr (.inr (.inl ⟨action, next, fan, reply, hRx, hAnswer, rfl⟩))
  · next result hRx =>
      cases h
      exact .inr (.inr (.inr ⟨result, hRx, rfl⟩))
  · cases h

/-- What a step of the main thread can be. -/
theorem mainStep_cases (h : w.mainStep env = some w') :
    (∃ action next process reply, w.main = .handling (.act action next) ∧
        answerMain env action w.process = some (process, reply) ∧
        w' = { w with process := process, main := .handling (next reply) }) ∨
      (∃ result, w.main = .handling (.done result) ∧ w' = { w with main := .serving }) ∨
      (∃ socket left, w.main = .closing (socket :: left) ∧
        w' = { w with closed := socket :: w.closed, main := .closing left }) := by
  rw [mainStep] at h
  split at h
  · next action next hMain =>
      obtain ⟨⟨process, reply⟩, hAnswer, rfl⟩ := Option.map_eq_some_iff.mp h
      exact .inl ⟨action, next, process, reply, hMain, hAnswer, rfl⟩
  · next result hMain =>
      cases h
      exact .inr (.inl ⟨result, hMain, rfl⟩)
  · next socket left hMain =>
      cases h
      exact .inr (.inr ⟨socket, left, hMain, rfl⟩)
  · cases h

/-- The detector can send, as the rx thread has its socket. -/
def listening (w : ThreadPair) : Bool :=
  match w.rx with
  | .unstarted => false
  | .finished => false
  | _ => true

/-- What a step was, by its event. -/
theorem step_cases {event : ThreadEvent} (h : w.step env event = some w') :
    match event with
    | .startRx => w.main = .serving ∧ w.rx = .unstarted ∧ w.process.fan.killRequested = false ∧
        w.process.fan.state = .waitingConsumers ∧
        w' = { w.withFan { w.process.fan with state := .waitingStream } with rx := .testing }
    | .arrive message => w.listening = true ∧ message ≠ [] ∧
        w' = w.withFan { w.process.fan with rxSocket := { w.process.fan.rxSocket with
          queue := w.process.fan.rxSocket.queue ++ frame message } }
    | .deliver channel message =>
        w' = { w with process := { w.process with
          channels := Function.update w.process.channels channel
            { w.process.channels channel with
              queue := (w.process.channels channel).queue ++ frame message } } }
    | .serve channel => w.main = .serving ∧
        (w.process.fan.killRequested = true → w.started = false ∧ channel ≠ .control) ∧
        w' = { w with
          main := .handling (handler env (w.process.channels channel).queue.length channel) }
    | .leave => w.main = .serving ∧ w.process.fan.killRequested = true ∧
        w' = { w with main := .closing w.process.fan.socketsToClose }
    | .main => w.mainStep env = some w'
    | .rx => w.rxStep env = some w' := by
  unfold step at h
  split at h
  · cases h
  · cases event with
    | startRx =>
        simp only at h
        split at h
        · next hMain hRx =>
            split at h
            · cases h
            · next hRunning =>
                obtain ⟨fan, hFan, rfl⟩ := Option.map_eq_some_iff.mp h
                rw [operate] at hFan
                split at hFan
                · next hReady =>
                    cases hFan
                    exact ⟨hMain, hRx, Bool.eq_false_iff.mpr hRunning, hReady.1, rfl⟩
                · cases hFan
        · cases h
    | arrive message =>
        simp only at h
        split at h
        · cases h
        · cases h
        · next hUnstarted hUnfinished =>
            split at h
            · cases h
            · next hParts =>
                cases h
                refine ⟨?_, fun hNil => hParts (List.isEmpty_iff.mpr hNil), rfl⟩
                unfold listening
                split
                · next hRx => exact absurd hRx hUnstarted
                · next hRx => exact absurd hRx hUnfinished
                · rfl
    | deliver channel message =>
        cases h
        rfl
    | serve channel =>
        simp only at h
        split at h
        · next hMain =>
            split at h
            · cases h
            · next hServes =>
                cases h
                refine ⟨hMain, fun hKill => ⟨?_, fun hControl => ?_⟩, rfl⟩
                · by_contra hStarted
                  exact hServes (.inl ⟨hKill, .inl (Bool.not_eq_false _ ▸ hStarted)⟩)
                · exact hServes (.inl ⟨hKill, .inr hControl⟩)
        · cases h
    | leave =>
        simp only at h
        split at h
        · next hMain =>
            split at h
            · next hKill =>
                cases h
                exact ⟨hMain, hKill, rfl⟩
            · cases h
        · cases h
    | main => exact h
    | rx => exact h

/-- A consumer connects, and its monitor is handled. -/
def consumerConnects : List ThreadEvent :=
  [.deliver (.monitor 0) [[32, 0], [0]], .serve (.monitor 0)] ++ List.replicate 8 .main

end ThreadPair

end Eiger.Fan
