import EigerDetector.Fan.Stream

/-! The main thread of the fan: control messages, connection monitors and the
start-up. An assertion or an exception here ends the process, as nothing
catches it: such a handler has no result. -/
namespace Eiger.Fan

open CharArrays Rapidjson FixedWidth Threads

/-- The parsed command line and configuration file options. -/
structure Options where
  threads : Nat
  consumers : Nat
  eigerport : Bytes
  fanport : Nat
  ctrlport : Bytes
  addr : Bytes
  contextThreads : Nat
  blocksize : Nat

/-- The settings `parse_arguments` installs. The unsigned options are stored
through `int` parameters, and nothing checks their range. -/
def parseArguments (vm : Options) : EigerFanConfig :=
  { defaultConfig with
    numThreads := toInt32 vm.threads
    numConsumers := toInt32 vm.consumers
    eigerChannelPort := vm.eigerport
    fanChannelPortStart := toInt32 vm.fanport
    ctrlChannelPort := vm.ctrlport
    eigerChannelAddress := vm.addr
    numZmqContextThreads := toInt32 vm.contextThreads
    blockSize := toInt32 vm.blocksize }

/-- The options when none is given. -/
def defaultOptions : Options where
  threads := 2
  consumers := 1
  eigerport := bytes "9999"
  fanport := 31600
  ctrlport := bytes "5559"
  addr := bytes "localhost"
  contextThreads := 1
  blocksize := 1

/-- `END_STREAM_MESSAGE` as it is parsed. -/
def endStreamMessage : List (Bytes × Value) :=
  [(headerTypeKey, .string endHeaderType), (seriesKey, .int 1)]

/-- The end message sent on a close, with the series set and the ID added. -/
def fabricatedEnd (currentSeries : Int) (currentAcquisitionID : Bytes) : Value :=
  let members := endStreamMessage.map fun (key, value) =>
    if key = seriesKey then (key, .int currentSeries) else (key, value)
  .object (members ++ [(acquisitionIDKey, .string currentAcquisitionID)])

/-- A reply before the time stamp and the id are added to it. -/
def response (msgType msgVal : String) (params : Value) : Value :=
  .object [(bytes "msg_type", .string (bytes msgType)), (bytes "msg_val", .string (bytes msgVal)),
    (bytes "params", params)]

def errorParams (text : String) : Value := .object [(bytes "error:", .string (bytes text))]

def controlResponseOk : Value := response "ack" "configure" (.object [])
def controlResponseUnable : Value :=
  response "nack" "configure" (errorParams "Unable to process control command")
def controlResponseNoParam : Value := response "nack" "configure" (errorParams "No parameter")
def controlResponseNoCfgParam : Value :=
  response "nack" "configure" (errorParams "No recognised configure parameter")

namespace EigerFan

def getNumberOfConnectedConsumers (s : EigerFan) : Int :=
  ((s.consumers.take s.config.numConsumers.toNat).filter fun c => 0 < c.connected).length

def expectedConsumersConnected (s : EigerFan) : Bool :=
  (s.consumers.take s.config.numConsumers.toNat).all fun c => c.connected = 1

def stop (s : EigerFan) : EigerFan := { s with killRequested := true, state := .killRequested }

/-- `SendFabricatedEndMessage`; no result where `consumers.at` throws. -/
def sendFabricatedEndMessage (env : Environment) (s : EigerFan) : Option EigerFan :=
  let message := env.write (fabricatedEnd s.currentSeries s.currentAcquisitionID)
  match (sendMessageToAllConsumers message false).run (answer env) s with
  | .returned t _ => some { t with state := .dstrEnd }
  | _ => none

/-- A close inside an acquisition ends it for the consumers first. -/
def closeStream (env : Environment) (s : EigerFan) : Option EigerFan :=
  if s.state = .dstrHeader ∨ s.state = .dstrImage then s.sendFabricatedEndMessage env else some s

def statusParams (s : EigerFan) : Value :=
  .object [(bytes "state", .string s.state.getStateString),
    (bytes "num_conn", .int s.getNumberOfConnectedConsumers),
    (bytes "series", .int s.currentSeries),
    (bytes "frame", .int s.lastFrameSent),
    (bytes "messages_received", .int s.messagesReceived),
    (bytes "frames_sent", .int s.numFramesSent),
    (bytes "fan_offset", .int s.currentOffset)]

def configurationParams (s : EigerFan) : Value :=
  .object [(bytes "num_threads", .int s.config.numThreads),
    (bytes "num_zmq_context_threads", .int s.config.numZmqContextThreads),
    (bytes "num_consumers", .int s.config.numConsumers),
    (bytes "ctrl_channel_port", .string s.config.ctrlChannelPort),
    (bytes "eiger_channel_address", .string s.config.eigerChannelAddress),
    (bytes "eiger_channel_port", .string s.config.eigerChannelPort),
    (bytes "fan_channel_port_start", .int s.config.fanChannelPortStart),
    (controlAcqID, .string s.configuredAcquisitionID),
    (controlBlockSize, .int s.config.blockSize),
    (controlOffset, .int s.configuredOffset),
    (controlFwdStream, .bool s.forwardStream),
    (controlDevShmCache, .bool s.devShmCache)]

/-- `remove_all(DEV_SHM_PATH)`; no result where it throws. -/
def removeCache (env : Environment) (s : EigerFan) : Option EigerFan :=
  if env.removeAll s.fileCalls then
    some { s with
      files := fun path => if (devShmPath ++ bytes "/").isPrefixOf path then none else s.files path
      fileCalls := s.fileCalls + 1 }
  else none

def setDevShmCache (env : Environment) (value : Bool) (s : EigerFan) : Option EigerFan :=
  let t := { s with devShmCache := value }
  if value then some t else t.removeCache env

end EigerFan

def versionParams (env : Environment) : Value :=
  .object [(bytes "version", .object [(bytes "eiger-detector", .object [
    (bytes "full", .string env.versionFull),
    (bytes "major", .int env.versionMajor),
    (bytes "minor", .int env.versionMinor),
    (bytes "patch", .int env.versionPatch),
    (bytes "short", .string env.versionShort)])])]

/-- One recognised member of the parameters: read it, use it, answer OK. -/
def configureParam {A : Type} (params : Value) (key : Bytes) (read : Value → Option A)
    (use : A → EigerFan → Option EigerFan) (current : EigerFan × Value) :
    Option (EigerFan × Value) := do
  if ← params.hasMember key then
    let a ← (params.member key).bind read
    let s ← use a current.1
    pure (s, controlResponseOk)
  else pure current

/-- Kill, or else close. -/
def configureShutdown (env : Environment) (params : Value) (current : EigerFan × Value) :
    Option (EigerFan × Value) := do
  let (s, _) := current
  if ← params.hasMember controlKill then pure (s.stop, controlResponseOk)
  else if ← params.hasMember controlClose then
    let closed ← s.closeStream env
    pure (closed.stop, controlResponseOk)
  else pure current

/-- The parameters that are looked for after a shutdown. -/
def configureSettings (env : Environment) (params : Value) (current : EigerFan × Value) :
    Option (EigerFan × Value) := do
  let current ← configureParam params controlOffset Value.getInt
    (fun value s => some { s with configuredOffset := value }) current
  let current ← configureParam params controlAcqID Value.getString
    (fun value s => some { s with configuredAcquisitionID := value }) current
  let current ← configureParam params controlFwdStream Value.getBool
    (fun value s => some { s with forwardStream := value }) current
  let current ← configureParam params controlDevShmCache Value.getBool
    (EigerFan.setDevShmCache env) current
  configureParam params controlBlockSize Value.getInt
    (fun value s => some { s with config := { s.config with blockSize := value } }) current

/-- The parameters of a configure command, in the order they are looked for. -/
def configure (env : Environment) (params : Value) (s : EigerFan) :
    Option (EigerFan × Value) := do
  let current ← configureShutdown env params (s, controlResponseNoCfgParam)
  configureSettings env params current

theorem configure_eq (env : Environment) (params : Value) (s : EigerFan) :
    configure env params s = (configureShutdown env params (s, controlResponseNoCfgParam)).bind
      (configureSettings env params) := rfl

/-- The command of a parsed control message: the new state and the reply. -/
def controlCommand (env : Environment) (ctrlDocument : Value) (s : EigerFan) :
    Option (EigerFan × Value) := do
  if ← ctrlDocument.hasMember controlCmdKey then
    let command ← (ctrlDocument.member controlCmdKey).bind Value.getString
    if command = controlStatus then pure (s, response "ack" "status" s.statusParams)
    else if command = controlReqConfig then
      pure (s, response "ack" "request_configuration" s.configurationParams)
    else if command = controlReqVersion then
      pure (s, response "ack" "request_version" (versionParams env))
    else if command = controlReqCommands then pure (s, controlResponseOk)
    else if command = controlConfigure then
      if ← ctrlDocument.hasMember controlParamKey then
        let params ← ctrlDocument.member controlParamKey
        configure env params s
      else pure (s, controlResponseNoParam)
    else pure (s, controlResponseUnable)
  else pure (s, controlResponseUnable)

/-- The parsed document with the state and the reply after its command. A text
that does not parse leaves a null document. -/
def interpretControl (env : Environment) (message : Bytes) (s : EigerFan) :
    Option (Value × EigerFan × Value) :=
  match env.parse (cString message) with
  | none => some (.null, s, controlResponseUnable)
  | some doc => (controlCommand env doc s).map fun next => (doc, next)

/-- `HandleControlMessage`. The reply repeats the id of the message, and the
look-up of the id fails in a null document. -/
def handleControlMessage (env : Environment) (message idMessage : Bytes) (s : EigerFan) :
    Option EigerFan := do
  let (ctrlDocument, t, reply) ← interpretControl env message s
  let stamped ← reply.addMember (bytes "timestamp")
    (.string (env.timestamp t.controlSocket.length))
  let msgId ← (ctrlDocument.member controlIDKey).bind Value.getInt
  let statusDocument ← stamped.addMember controlIDKey (.int (toUInt32 msgId))
  pure { t with controlSocket := t.controlSocket ++ [(idMessage, statusDocument)], more := 0 }

/-- The parameters of a document that is a configure command. -/
def configureParams (ctrlDocument : Value) : Option Value := do
  let command ← (ctrlDocument.member controlCmdKey).bind Value.getString
  if command = controlConfigure then ctrlDocument.member controlParamKey else none

/-- The message asks for a close, and for no kill in its place. -/
def closeRequested (env : Environment) (message : Bytes) : Bool :=
  match (env.parse (cString message)).bind configureParams with
  | some params => params.hasMember controlKill = some false ∧
      params.hasMember controlClose = some true
  | none => false

/-- Handling the message sends an end message. -/
def closesStream (env : Environment) (message : Bytes) (s : EigerFan) : Bool :=
  closeRequested env message ∧ (s.state = .dstrHeader ∨ s.state = .dstrImage)

section Inversion

variable {env : Environment}

theorem controlConfigure_distinct :
    controlStatus ≠ controlConfigure ∧ controlReqConfig ≠ controlConfigure ∧
      controlReqVersion ≠ controlConfigure ∧ controlReqCommands ≠ controlConfigure := by
  refine ⟨?_, ?_, ?_, ?_⟩ <;> decide

theorem member_of_hasMember_false {key : Bytes} {doc : Value} {found : Bool}
    (h : doc.hasMember key = some found) (hFound : found = false) : doc.member key = none := by
  cases doc with
  | object members =>
      rw [Value.hasMember, hFound, Option.some.injEq, Option.isSome_eq_false_iff,
        Option.isNone_iff_eq_none] at h
      exact h
  | _ => rfl

/-- A parameter is absent, or it is read, used and answered with OK. -/
theorem configureParam_cases {A : Type} {params : Value} {key : Bytes} {read : Value → Option A}
    {use : A → EigerFan → Option EigerFan} {current next : EigerFan × Value}
    (h : configureParam params key read use current = some next) :
    next = current ∨ ∃ a, (params.member key).bind read = some a ∧
      use a current.1 = some next.1 ∧ next.2 = controlResponseOk := by
  obtain ⟨found, _, h⟩ := Option.bind_eq_some_iff.mp h
  split at h
  · obtain ⟨a, hRead, h⟩ := Option.bind_eq_some_iff.mp h
    obtain ⟨t, hUse, h⟩ := Option.bind_eq_some_iff.mp h
    cases h
    exact .inr ⟨a, hRead, hUse, rfl⟩
  · cases h
    exact .inl rfl

theorem configureShutdown_cases {params : Value} {current next : EigerFan × Value}
    (h : configureShutdown env params current = some next) :
    (next = current ∧ params.hasMember controlKill = some false ∧
        params.hasMember controlClose = some false) ∨
      (next = (current.1.stop, controlResponseOk) ∧ params.hasMember controlKill = some true) ∨
      ∃ closed, params.hasMember controlKill = some false ∧
        params.hasMember controlClose = some true ∧
        current.1.closeStream env = some closed ∧ next = (closed.stop, controlResponseOk) := by
  obtain ⟨kill, hKill, h⟩ := Option.bind_eq_some_iff.mp h
  cases kill with
  | true =>
      cases h
      exact .inr (.inl ⟨rfl, hKill⟩)
  | false =>
      obtain ⟨close, hClose, h⟩ := Option.bind_eq_some_iff.mp h
      cases close with
      | true =>
          obtain ⟨closed, hClosed, h⟩ := Option.bind_eq_some_iff.mp h
          cases h
          exact .inr (.inr ⟨closed, hKill, hClose, hClosed, rfl⟩)
      | false =>
          cases h
          exact .inl ⟨rfl, hKill, hClose⟩

/-- The states differ only in what the parameters of a configure command set. -/
def Configured (s t : EigerFan) : Prop :=
  ∃ offset acquisitionID forward cache files calls block, t = { s with
    configuredOffset := offset
    configuredAcquisitionID := acquisitionID
    forwardStream := forward
    devShmCache := cache
    files := files
    fileCalls := calls
    config := { s.config with blockSize := block } }

theorem Configured.refl (s : EigerFan) : Configured s s := ⟨_, _, _, _, _, _, _, rfl⟩

theorem Configured.trans {s t u : EigerFan} (left : Configured s t) (right : Configured t u) :
    Configured s u := by
  obtain ⟨_, _, _, _, _, _, _, rfl⟩ := left
  obtain ⟨_, _, _, _, _, _, _, rfl⟩ := right
  exact ⟨_, _, _, _, _, _, _, rfl⟩

theorem configureParam_configured {A : Type} {params : Value} {key : Bytes}
    {read : Value → Option A} {use : A → EigerFan → Option EigerFan}
    {current next : EigerFan × Value}
    (h : configureParam params key read use current = some next)
    (hUse : ∀ a s t, use a s = some t → Configured s t) : Configured current.1 next.1 := by
  rcases configureParam_cases h with rfl | ⟨a, _, hUsed, _⟩
  · exact .refl _
  · exact hUse a _ _ hUsed

theorem setDevShmCache_configured {value : Bool} {s t : EigerFan}
    (h : s.setDevShmCache env value = some t) : Configured s t := by
  unfold EigerFan.setDevShmCache at h
  simp only at h
  split at h
  · cases h
    exact ⟨_, _, _, _, _, _, _, rfl⟩
  · unfold EigerFan.removeCache at h
    split at h
    · cases h
      exact ⟨_, _, _, _, _, _, _, rfl⟩
    · cases h

theorem configureSettings_configured {params : Value} {current next : EigerFan × Value}
    (h : configureSettings env params current = some next) : Configured current.1 next.1 := by
  obtain ⟨moved, hMoved, h⟩ := Option.bind_eq_some_iff.mp h
  obtain ⟨named, hNamed, h⟩ := Option.bind_eq_some_iff.mp h
  obtain ⟨forwarded, hForwarded, h⟩ := Option.bind_eq_some_iff.mp h
  obtain ⟨cached, hCached, hBlock⟩ := Option.bind_eq_some_iff.mp h
  have hAssigned : ∀ f : EigerFan → EigerFan, (∀ u, Configured u (f u)) →
      ∀ u v, some (f u) = some v → Configured u v := by
    rintro f hf u v hSome
    cases hSome
    exact hf u
  have hStep : ∀ {A : Type} {key : Bytes} {read : Value → Option A} {f : A → EigerFan → EigerFan}
      {current next : EigerFan × Value},
      configureParam params key read (fun a s => some (f a s)) current = some next →
      (∀ a u, Configured u (f a u)) → Configured current.1 next.1 :=
    fun hParam hf => configureParam_configured hParam fun a => hAssigned _ (hf a)
  refine (hStep hMoved fun _ _ => ⟨_, _, _, _, _, _, _, rfl⟩).trans ?_
  refine (hStep hNamed fun _ _ => ⟨_, _, _, _, _, _, _, rfl⟩).trans ?_
  refine (hStep hForwarded fun _ _ => ⟨_, _, _, _, _, _, _, rfl⟩).trans ?_
  refine (configureParam_configured hCached fun _ _ _ => setDevShmCache_configured).trans ?_
  exact hStep hBlock fun _ _ => ⟨_, _, _, _, _, _, _, rfl⟩

/-- A configure command looks for a shutdown and then sets its parameters. -/
theorem configure_cases {params reply : Value} {s t : EigerFan}
    (h : configure env params s = some (t, reply)) :
    ∃ closed, configureShutdown env params (s, controlResponseNoCfgParam) = some closed ∧
      Configured closed.1 t := by
  rw [configure_eq] at h
  obtain ⟨closed, hClosed, hSettings⟩ := Option.bind_eq_some_iff.mp h
  exact ⟨closed, hClosed, configureSettings_configured hSettings⟩

/-- Only a configure command with parameters changes the state. -/
theorem controlCommand_cases {ctrlDocument : Value} {s : EigerFan} {next : EigerFan × Value}
    (h : controlCommand env ctrlDocument s = some next) :
    (next.1 = s ∧ configureParams ctrlDocument = none) ∨
      ∃ params, configureParams ctrlDocument = some params ∧
        configure env params s = some next := by
  obtain ⟨known, hKnown, h⟩ := Option.bind_eq_some_iff.mp h
  split at h
  · obtain ⟨command, hCommand, h⟩ := Option.bind_eq_some_iff.mp h
    have hParams : configureParams ctrlDocument =
        if command = controlConfigure then ctrlDocument.member controlParamKey else none := by
      rw [configureParams, hCommand]
      rfl
    obtain ⟨hStatus, hReqConfig, hReqVersion, hReqCommands⟩ := controlConfigure_distinct
    rw [hParams]
    split at h
    · next hIs =>
        cases h
        exact .inl ⟨rfl, if_neg (hIs ▸ hStatus)⟩
    · split at h
      · next hIs =>
          cases h
          exact .inl ⟨rfl, if_neg (hIs ▸ hReqConfig)⟩
      · split at h
        · next hIs =>
            cases h
            exact .inl ⟨rfl, if_neg (hIs ▸ hReqVersion)⟩
        · split at h
          · next hIs =>
              cases h
              exact .inl ⟨rfl, if_neg (hIs ▸ hReqCommands)⟩
          · split at h
            · next hIs =>
                rw [if_pos hIs]
                obtain ⟨hasParams, hHas, h⟩ := Option.bind_eq_some_iff.mp h
                split at h
                · obtain ⟨params, hMember, h⟩ := Option.bind_eq_some_iff.mp h
                  exact .inr ⟨params, hMember, h⟩
                · next hMissing =>
                    cases h
                    exact .inl ⟨rfl, member_of_hasMember_false hHas (by simpa using hMissing)⟩
            · next hIs =>
                cases h
                exact .inl ⟨rfl, if_neg hIs⟩
  · next hMissing =>
      cases h
      refine .inl ⟨rfl, ?_⟩
      rw [configureParams, member_of_hasMember_false hKnown (by simpa using hMissing)]
      rfl

/-- A control message is configured or not, and then answered. -/
theorem handleControlMessage_cases {message idMessage : Bytes} {s t : EigerFan}
    (h : handleControlMessage env message idMessage s = some t) :
    ∃ u replies, t = { u with controlSocket := replies, more := 0 } ∧
      ((u = s ∧ (env.parse (cString message)).bind configureParams = none) ∨
        ∃ params reply, (env.parse (cString message)).bind configureParams = some params ∧
          configure env params s = some (u, reply)) := by
  obtain ⟨⟨ctrlDocument, u, reply⟩, hCommand, h⟩ := Option.bind_eq_some_iff.mp h
  obtain ⟨stamped, _, h⟩ := Option.bind_eq_some_iff.mp h
  obtain ⟨msgId, _, h⟩ := Option.bind_eq_some_iff.mp h
  obtain ⟨statusDocument, _, h⟩ := Option.bind_eq_some_iff.mp h
  cases h
  refine ⟨u, _, rfl, ?_⟩
  unfold interpretControl at hCommand
  split at hCommand
  · next hParse =>
      cases hCommand
      exact .inl ⟨rfl, by rw [hParse]; rfl⟩
  · next doc hParse =>
      obtain ⟨handled, hHandled, hPair⟩ := Option.map_eq_some_iff.mp hCommand
      cases hPair
      rw [hParse, Option.bind_some]
      rcases controlCommand_cases hHandled with hSame | ⟨params, hParams, hConfigure⟩
      · exact .inl hSame
      · exact .inr ⟨params, reply, hParams, hConfigure⟩

end Inversion

/-- Event codes of the connection monitor: a number in the first 16 bits. -/
def zmqEventAccepted : Nat := 0x0020
def zmqEventDisconnected : Nat := 0x0200

/-- `HandleMonitorMessage` for one rank. -/
def handleMonitorMessage (event rank : Nat) (s : EigerFan) : EigerFan :=
  let connect (change : Int → Int) : List EigerConsumer :=
    s.consumers.modify rank fun c => { c with connected := change c.connected }
  if event = zmqEventAccepted then
    { s with consumers := connect (· + 1), more := 0 }
  else if event = zmqEventDisconnected then
    { s with consumers := connect fun n => if n - 1 < 0 then 0 else n - 1, more := 0 }
  else { s with more := 0 }

/-- `HandleForwardMonitorMessage`, which lets the count go below zero. -/
def handleForwardMonitorMessage (event : Nat) (s : EigerFan) : EigerFan :=
  if event = zmqEventAccepted then
    { s with numConnectedForwardingSockets := s.numConnectedForwardingSockets + 1, more := 0 }
  else if event = zmqEventDisconnected then
    { s with numConnectedForwardingSockets := s.numConnectedForwardingSockets - 1, more := 0 }
  else { s with more := 0 }

/-- One event handled by the main thread. -/
inductive MainEvent where
  | control (message idMessage : Bytes)
  | monitor (event rank : Nat)
  | forwardMonitor (event : Nat)

def mainStep (env : Environment) (s : EigerFan) : MainEvent → Option EigerFan
  | .control message idMessage => handleControlMessage env message idMessage s
  | .monitor event rank => some (handleMonitorMessage event rank s)
  | .forwardMonitor event => some (handleForwardMonitorMessage event s)

end Eiger.Fan
