import EigerDetector.Fan.Latching
import EigerDetector.Fan.Reconfiguration
import EigerDetector.Fan.Replies
import EigerDetector.Fan.Session

/-! The fan as a store of what was configured. A configure command sets the
parameters it names and no others, a global header uses the offset up, and a
request reads the store back. -/
namespace Eiger.Fan

open CharArrays Rapidjson FixedWidth Threads Multipart Transition EigerFan

/-- A parameter as it is read, if it is named. -/
def parameter {A : Type} (params : List (Bytes × Value)) (key : Bytes) (read : Value → Option A) :
    Option A :=
  (Value.findMember key params).bind read

namespace EigerFan

/-- The end of an acquisition is made up for the consumers. -/
def closed (env : Environment) (s : EigerFan) : EigerFan :=
  if s.state = .dstrHeader ∨ s.state = .dstrImage then
    { s.broadcast [(s.endMessage env, false)] with state := .dstrEnd }
  else s

/-- A kill takes precedence over a close. -/
def shutDownBy (env : Environment) (params : List (Bytes × Value)) (s : EigerFan) : EigerFan :=
  if hasKey params controlKill then s.stop
  else if hasKey params controlClose then (s.closed env).stop
  else s

/-- What a configure command makes of the fan: a parameter it does not name keeps its value. -/
def configuredBy (env : Environment) (params : List (Bytes × Value)) (s : EigerFan) : EigerFan :=
  let t := s.shutDownBy env params
  let cache := parameter params controlDevShmCache Value.getBool
  { t with
    configuredOffset := (parameter params controlOffset Value.getInt).getD t.configuredOffset
    configuredAcquisitionID :=
      (parameter params controlAcqID Value.getString).getD t.configuredAcquisitionID
    forwardStream := (parameter params controlFwdStream Value.getBool).getD t.forwardStream
    devShmCache := cache.getD t.devShmCache
    files := fun path =>
      if cache = some false ∧ (devShmPath ++ bytes "/").isPrefixOf path then none
      else t.files path
    fileCalls := if cache = some false then t.fileCalls + 1 else t.fileCalls
    config := { t.config with
      blockSize := (parameter params controlBlockSize Value.getInt).getD t.config.blockSize } }

end EigerFan

section Configure

variable {env : Environment} {params : List (Bytes × Value)} {s : EigerFan}

/-- A parameter that is there is read, used and answered with OK. -/
theorem configureParam_of_member {A : Type} {key : Bytes} {read : Value → Option A}
    {use : A → EigerFan → Option EigerFan} {current : EigerFan × Value} {value : Value}
    (hFind : Value.findMember key params = some value) :
    configureParam (.object params) key read use current =
      (read value).bind fun a => (use a current.1).map fun t => (t, controlResponseOk) := by
  rw [configureParam, Value.hasMember, Value.member, hFind, Option.bind_eq_bind, Option.bind_some,
    Option.isSome_some, if_pos rfl, Option.bind_some]
  cases read value with
  | none => rfl
  | some a =>
      rw [Option.bind_eq_bind, Option.bind_some, Option.bind_some]
      cases use a current.1 <;> rfl

/-- A parameter that is stored keeps its old value if it is not named. -/
theorem configureParam_stored {A : Type} {key : Bytes} {read : Value → Option A}
    {store : A → EigerFan → EigerFan} {current next : EigerFan × Value} (get : EigerFan → A)
    (hGet : ∀ u, store (get u) u = u)
    (h : configureParam (.object params) key read (fun a s => some (store a s)) current =
      some next) :
    next.1 = store ((parameter params key read).getD (get current.1)) current.1 := by
  cases hFind : Value.findMember key params with
  | none =>
      rw [configureParam_missing h (by rw [hasKey, hFind]; rfl), parameter, hFind]
      exact (hGet current.1).symm
  | some value =>
      rw [configureParam_of_member hFind] at h
      obtain ⟨a, hRead, h⟩ := Option.bind_eq_some_iff.mp h
      cases h
      rw [parameter, hFind, Option.bind_some, hRead, Option.getD_some]

/-- Switching the cache off removes its files. -/
theorem configureParam_devShmCache {current next : EigerFan × Value}
    (h : configureParam (.object params) controlDevShmCache Value.getBool
      (EigerFan.setDevShmCache env) current = some next) :
    next.1 =
      let cache := parameter params controlDevShmCache Value.getBool
      { current.1 with
        devShmCache := cache.getD current.1.devShmCache
        files := fun path =>
          if cache = some false ∧ (devShmPath ++ bytes "/").isPrefixOf path then none
          else current.1.files path
        fileCalls := if cache = some false then current.1.fileCalls + 1
          else current.1.fileCalls } := by
  cases hFind : Value.findMember controlDevShmCache params with
  | none =>
      rw [configureParam_missing h (by rw [hasKey, hFind]; rfl), parameter, hFind]
      simp
  | some value =>
      rw [configureParam_of_member hFind] at h
      obtain ⟨on, hRead, h⟩ := Option.bind_eq_some_iff.mp h
      obtain ⟨t, hSet, h⟩ := Option.map_eq_some_iff.mp h
      cases h
      rw [parameter, hFind, Option.bind_some, hRead]
      cases on with
      | true =>
          cases hSet
          simp
      | false =>
          unfold EigerFan.setDevShmCache EigerFan.removeCache at hSet
          simp only [Bool.false_eq_true, if_false] at hSet
          split at hSet
          · cases hSet
            simp
          · cases hSet

theorem closeStream_closed {t : EigerFan}
    (hLength : s.consumers.length = s.config.numConsumers.toNat)
    (h : s.closeStream env = some t) : t = s.closed env := by
  have hSome : (s.closeStream env).isSome := by
    rw [h]
    rfl
  have hPos := (closeStream_isSome_iff hLength).mp hSome
  unfold EigerFan.closeStream at h
  unfold EigerFan.closed
  split at h
  · next hIn =>
      unfold EigerFan.sendFabricatedEndMessage sendMessageToAllConsumers at h
      simp only [run_sendToAll env _ (hPos hIn) hLength, Option.some.injEq] at h
      rw [if_pos hIn, ← h]
      rfl
  · next hOut =>
      cases h
      rw [if_neg hOut]

theorem configureShutdown_shutDownBy {reply : Value} {next : EigerFan × Value}
    (hLength : s.consumers.length = s.config.numConsumers.toNat)
    (h : configureShutdown env (.object params) (s, reply) = some next) :
    next.1 = s.shutDownBy env params := by
  have hHas : ∀ {key : Bytes} {found : Bool},
      (Value.object params).hasMember key = some found → hasKey params key = found :=
    fun hFound => Option.some.inj hFound
  unfold EigerFan.shutDownBy
  rcases configureShutdown_cases h with
    ⟨rfl, hKill, hClose⟩ | ⟨rfl, hKill⟩ | ⟨t, hKill, hClose, hClosed, rfl⟩
  · rw [hHas hKill, hHas hClose]
    rfl
  · rw [hHas hKill]
    rfl
  · rw [hHas hKill, hHas hClose, closeStream_closed hLength hClosed]
    rfl

/-- A configure command that goes through changes what it names, and nothing else. -/
theorem configure_configuredBy {next : EigerFan × Value}
    (hLength : s.consumers.length = s.config.numConsumers.toNat)
    (h : configure env (.object params) s = some next) : next.1 = s.configuredBy env params := by
  obtain ⟨⟨closed, _⟩, hClosed, h⟩ := Option.bind_eq_some_iff.mp h
  obtain ⟨⟨moved, _⟩, hMoved, h⟩ := Option.bind_eq_some_iff.mp h
  obtain ⟨⟨named, _⟩, hNamed, h⟩ := Option.bind_eq_some_iff.mp h
  obtain ⟨⟨forwarded, _⟩, hForwarded, h⟩ := Option.bind_eq_some_iff.mp h
  obtain ⟨⟨cached, _⟩, hCached, hBlock⟩ := Option.bind_eq_some_iff.mp h
  have hShut : closed = _ := configureShutdown_shutDownBy hLength hClosed
  have hOffset : moved = _ :=
    configureParam_stored EigerFan.configuredOffset (fun _ => rfl) hMoved
  have hID : named = _ :=
    configureParam_stored EigerFan.configuredAcquisitionID (fun _ => rfl) hNamed
  have hForward : forwarded = _ :=
    configureParam_stored EigerFan.forwardStream (fun _ => rfl) hForwarded
  have hCache : cached = _ := configureParam_devShmCache hCached
  apply (configureParam_stored (fun u => u.config.blockSize) (fun _ => rfl) hBlock).trans
  clear hClosed hMoved hNamed hForwarded hCached hBlock
  subst hCache hForward hID hOffset hShut
  rfl

end Configure

/-- The parameters of a configure command. -/
def configuredParams (env : Environment) : SessionEvent → Option Value
  | .main (.control message _) => (env.parse (cString message)).bind configureParams
  | _ => none

/-- A message whose first part is a global header. -/
def isGlobalHeader (env : Environment) : SessionEvent → Bool
  | .message (part1 :: _) => decide
      (((env.parse (cString part1)).bind fun doc => doc.member headerTypeKey).bind
        Value.getString = some globalHeaderType)
  | _ => false

/-- What was configured, each parameter as it stood in the message that named it. -/
structure Store where
  acquisitionID : Value
  blockSize : Value
  offset : Value
  forwardStream : Value
  devShmCache : Value

namespace Store

def initial (config : EigerFanConfig) : Store where
  acquisitionID := .string []
  blockSize := .int config.blockSize
  offset := .int 0
  forwardStream := .bool false
  devShmCache := .bool false

/-- The command that names a parameter last counts, and a header uses the offset up. -/
def step (env : Environment) (x : Store) (event : SessionEvent) : Store :=
  let named (key : Bytes) (value : Value) :=
    ((configuredParams env event).bind fun params => params.member key).getD value
  { acquisitionID := named controlAcqID x.acquisitionID
    blockSize := named controlBlockSize x.blockSize
    offset := if isGlobalHeader env event then .int 0 else named controlOffset x.offset
    forwardStream := named controlFwdStream x.forwardStream
    devShmCache := named controlDevShmCache x.devShmCache }

def after (env : Environment) (x : Store) (events : List SessionEvent) : Store :=
  events.foldl (step env) x

/-- The members of the fan hold the store. Of the acquisition ID they hold what stands
before its first NUL. -/
structure Holds (x : Store) (s : EigerFan) : Prop where
  acquisitionID : x.acquisitionID.getString = some s.configuredAcquisitionID
  blockSize : x.blockSize = .int s.config.blockSize
  offset : x.offset = .int s.configuredOffset
  forwardStream : x.forwardStream = .bool s.forwardStream
  devShmCache : x.devShmCache = .bool s.devShmCache

theorem holds_initial (config : EigerFanConfig) : (initial config).Holds (Fan.initial config) :=
  ⟨rfl, rfl, rfl, rfl, rfl⟩

section Steps

variable {env : Environment} {params : List (Bytes × Value)} {key : Bytes}

theorem getInt_eq {value : Value} {n : Int} (h : value.getInt = some n) : value = .int n := by
  cases value with
  | int m =>
      rw [Value.getInt] at h
      split at h
      · cases h
        rfl
      · cases h
  | _ => cases h

theorem getBool_eq {value : Value} {b : Bool} (h : value.getBool = some b) : value = .bool b := by
  cases value with
  | bool c =>
      cases h
      rfl
  | _ => cases h

/-- A value that is read back as it was stays what it was when it is stored. -/
theorem named_eq {A : Type} {read : Value → Option A} {embed : A → Value} {old : Value} {a : A}
    (hRead : ∀ value a, read value = some a → value = embed a)
    (hReadable : Readable params key read) (hOld : old = embed a) :
    (Value.findMember key params).getD old = embed ((parameter params key read).getD a) := by
  rw [parameter]
  cases hFind : Value.findMember key params with
  | none => exact hOld
  | some value =>
      obtain ⟨b, hValue⟩ := Option.isSome_iff_exists.mp (hReadable value hFind)
      rw [Option.bind_some, hValue, Option.getD_some, Option.getD_some]
      exact hRead value b hValue

theorem named_getString {old : Value} {text : Bytes}
    (hReadable : Readable params key Value.getString) (hOld : old.getString = some text) :
    ((Value.findMember key params).getD old).getString =
      some ((parameter params key Value.getString).getD text) := by
  rw [parameter]
  cases hFind : Value.findMember key params with
  | none => exact hOld
  | some value =>
      obtain ⟨b, hValue⟩ := Option.isSome_iff_exists.mp (hReadable value hFind)
      rw [Option.bind_some, hValue]
      exact hValue

/-- A shutdown sends, and changes nothing that is configured. -/
theorem shutDownBy_sentOn (env : Environment) (params : List (Bytes × Value)) (s : EigerFan) :
    ∃ consumers forwardSocket killRequested state, s.shutDownBy env params = { s with
      consumers := consumers
      forwardSocket := forwardSocket
      killRequested := killRequested
      state := state } := by
  unfold EigerFan.shutDownBy EigerFan.closed EigerFan.broadcast
  split
  · exact ⟨_, _, _, _, rfl⟩
  · split
    · split
      · rw [forward_eq]
        exact ⟨_, _, _, _, rfl⟩
      · exact ⟨_, _, _, _, rfl⟩
    · exact ⟨_, _, _, _, rfl⟩

theorem holds_configuredBy {x : Store} {s : EigerFan} {event : SessionEvent} (h : x.Holds s)
    (hParams : configuredParams env event = some (.object params))
    (hHeader : isGlobalHeader env event = false) (hReadable : ParamsReadable env s params) :
    (x.step env event).Holds (s.configuredBy env params) := by
  obtain ⟨_, _, _, _, hShut⟩ := shutDownBy_sentOn env params s
  unfold EigerFan.configuredBy step
  rw [hShut, hParams, hHeader]
  exact ⟨named_getString hReadable.acquisitionID h.acquisitionID,
    named_eq (fun _ _ => getInt_eq) hReadable.blockSize h.blockSize,
    named_eq (fun _ _ => getInt_eq) hReadable.offset h.offset,
    named_eq (fun _ _ => getBool_eq) hReadable.forwardStream h.forwardStream,
    named_eq (fun _ _ => getBool_eq) hReadable.devShmCache h.devShmCache⟩

/-- An event that configures nothing and is no header leaves the store alone. -/
theorem step_of_neither {x : Store} {event : SessionEvent}
    (hParams : configuredParams env event = none) (hHeader : isGlobalHeader env event = false) :
    x.step env event = x := by
  rw [step, hParams, hHeader]
  rfl

/-- A control message that was handled was configured, if it was a configure command. -/
theorem control_configuredBy {config : EigerFanConfig} {s t : EigerFan}
    {message idMessage : Bytes} (hIdle : Idle config s)
    (h : handleControlMessage env message idMessage s = some t) :
    ∃ replies, ((env.parse (cString message)).bind configureParams = none ∧
        t = { s with controlSocket := replies, more := 0 }) ∨
      ∃ params, (env.parse (cString message)).bind configureParams = some (.object params) ∧
        ParamsReadable env s params ∧
        t = { s.configuredBy env params with controlSocket := replies, more := 0 } := by
  obtain ⟨u, replies, rfl, ⟨rfl, hNone⟩ | ⟨value, reply, hParams, hConfigure⟩⟩ :=
    handleControlMessage_cases h
  · exact ⟨replies, .inl ⟨hNone, rfl⟩⟩
  · obtain ⟨params, rfl⟩ := configure_of_params hConfigure
    have hConfigured : u = s.configuredBy env params :=
      configure_configuredBy hIdle.length_eq hConfigure
    refine ⟨replies, .inr ⟨params, hParams, ?_, by rw [hConfigured]⟩⟩
    exact (configure_some_iff hIdle.length_eq).mp ⟨_, hConfigure⟩

/-- A stream message that was handled uses the offset up if it is a global header. -/
theorem message_configured {config : EigerFanConfig} {s t : EigerFan} {parts : List Bytes}
    (hIdle : Idle config s) (h : session env s (.message parts) = some t) :
    t.configuredAcquisitionID = s.configuredAcquisitionID ∧ t.config = s.config ∧
      t.forwardStream = s.forwardStream ∧ t.devShmCache = s.devShmCache ∧
      t.more = 0 ∧ t.configuredOffset =
        if isGlobalHeader env (.message parts) then 0 else s.configuredOffset := by
  obtain ⟨hState, part1, rest, first, _, rfl, hFirst, _⟩ := hIdle.message h
  rw [session_message hIdle.queue hState] at h
  split at h
  · next u _ hReceive =>
      cases h
      have hQueue : (s.arrived (part1 :: rest)).rxSocket.queue = frame (part1 :: rest) ++ [] :=
        (List.append_nil _).symm
      obtain ⟨_, rfl, _, _, _, _, _, _, _, _, _, rfl⟩ := receive_handled hQueue hFirst hReceive
      have hRead := readFirstPart_reads hFirst
      have hHeader : isGlobalHeader env (.message (part1 :: rest)) = decide
          (((env.parse (cString part1)).bind fun doc => doc.member headerTypeKey).bind
            Value.getString = some globalHeaderType) := rfl
      rw [hHeader]
      generalize env.parse (cString part1) = doc at hRead ⊢
      cases hRead with
      | unreadable => exact ⟨rfl, rfl, rfl, rfl, rfl, rfl⟩
      | unknown hType hOther =>
          rw [Option.bind_some, Value.member, hType,
            decide_eq_false fun h => hOther (Option.some.inj h)]
          exact ⟨rfl, rfl, rfl, rfl, rfl, rfl⟩
      | header hType =>
          rw [Option.bind_some, Value.member, hType, decide_eq_true rfl]
          exact ⟨rfl, rfl, rfl, rfl, rfl, rfl⟩
      | image hType =>
          rw [Option.bind_some, Value.member, hType, decide_eq_false (by decide)]
          exact ⟨rfl, rfl, rfl, rfl, rfl, rfl⟩
      | endOfSeries hType =>
          rw [Option.bind_some, Value.member, hType, decide_eq_false (by decide)]
          exact ⟨rfl, rfl, rfl, rfl, rfl, rfl⟩
  · cases h

/-- Every event takes the store with the members that hold it. -/
theorem Holds.step {config : EigerFanConfig} {x : Store} {s t : EigerFan} {event : SessionEvent}
    (h : x.Holds s) (hIdle : Idle config s) (hStep : session env s event = some t) :
    (x.step env event).Holds t := by
  cases event with
  | main event =>
      have hMain := session_main hStep
      cases event with
      | control message idMessage =>
          obtain ⟨replies, ⟨hNone, rfl⟩ | ⟨params, hParams, hReadable, rfl⟩⟩ :=
            control_configuredBy hIdle hMain
          · have hNone : configuredParams env (.main (.control message idMessage)) = none := hNone
            rw [step_of_neither hNone rfl]
            exact { h with }
          · have hParams : configuredParams env (.main (.control message idMessage)) =
                some (.object params) := hParams
            exact { holds_configuredBy h hParams rfl hReadable with }
      | monitor event rank =>
          rw [step_of_neither rfl rfl]
          cases hMain
          unfold handleMonitorMessage
          split
          · exact { h with }
          · split <;> exact { h with }
      | forwardMonitor event =>
          rw [step_of_neither rfl rfl]
          cases hMain
          unfold handleForwardMonitorMessage
          split
          · exact { h with }
          · split <;> exact { h with }
  | startRx =>
      rw [step_of_neither rfl rfl, session_startRx hStep]
      exact { h with }
  | message parts =>
      obtain ⟨hID, hConfig, hForward, hCache, _, hOffset⟩ := message_configured hIdle hStep
      constructor
      · rw [hID]
        exact h.acquisitionID
      · rw [hConfig]
        exact h.blockSize
      · rw [hOffset]
        show (if isGlobalHeader env (.message parts) then Value.int 0 else x.offset) = _
        rw [h.offset]
        split <;> rfl
      · rw [hForward]
        exact h.forwardStream
      · rw [hCache]
        exact h.devShmCache

/-- Between two events no part is left to be asked for. -/
theorem more_step {config : EigerFanConfig} {s t : EigerFan} {event : SessionEvent}
    (hMore : s.more = 0) (hIdle : Idle config s) (hStep : session env s event = some t) :
    t.more = 0 := by
  cases event with
  | main event =>
      have hMain := session_main hStep
      cases event with
      | control message idMessage =>
          obtain ⟨_, _, rfl, _⟩ := handleControlMessage_cases hMain
          rfl
      | monitor event rank =>
          cases hMain
          unfold handleMonitorMessage
          split
          · rfl
          · split <;> rfl
      | forwardMonitor event =>
          cases hMain
          unfold handleForwardMonitorMessage
          split
          · rfl
          · split <;> rfl
  | startRx =>
      rw [session_startRx hStep]
      exact hMore
  | message parts => exact (message_configured hIdle hStep).2.2.2.2.1

/-- Every run takes the store with the fan. -/
theorem Holds.run {config : EigerFanConfig} {x : Store} {s t : EigerFan}
    {events : List SessionEvent} (hRun : Run (session env) always s events t) (h : x.Holds s)
    (hIdle : Idle config s) (hMore : s.more = 0) :
    (x.after env events).Holds t ∧ Idle config t ∧ t.more = 0 := by
  induction hRun generalizing x with
  | nil => exact ⟨h, hIdle, hMore⟩
  | cons _ first rest ih =>
      exact ih (h.step hIdle first) (hIdle.step first) (more_step hMore hIdle first)

end Steps

/-- A reply to a request for the configuration reads the store back. -/
def ReadBack (x : Store) (reply : Value) : Prop :=
  ∃ params, reply.member (bytes "params") = some params ∧
    params.member controlAcqID = some x.acquisitionID ∧
    params.member controlBlockSize = some x.blockSize ∧
    params.member controlOffset = some x.offset ∧
    params.member controlFwdStream = some x.forwardStream ∧
    params.member controlDevShmCache = some x.devShmCache

/-- The acquisition ID has no NUL in it. -/
def Legible (x : Store) : Prop := ∃ text, x.acquisitionID = .string text ∧ NulFree text

theorem Holds.readBack_iff {x : Store} {s : EigerFan} {reply : Value} (h : x.Holds s)
    (hReply : reply.member (bytes "params") = some s.configurationParams) :
    x.ReadBack reply ↔ x.Legible := by
  constructor
  · rintro ⟨params, hParams, hID, _⟩
    cases hReply.symm.trans hParams
    have hSame : Value.string s.configuredAcquisitionID = x.acquisitionID := Option.some.inj hID
    exact ⟨_, hSame.symm, Value.getString_nulFree h.acquisitionID⟩
  · rintro ⟨text, hText, hFree⟩
    refine ⟨_, hReply, ?_, ?_, ?_, ?_, ?_⟩
    · have hID := h.acquisitionID
      rw [hText, Value.getString, cString_of_nulFree hFree] at hID
      rw [hText, Option.some.inj hID]
      rfl
    · rw [h.blockSize]
      rfl
    · rw [h.offset]
      rfl
    · rw [h.forwardStream]
      rfl
    · rw [h.devShmCache]
      rfl

end Store

/-- The command of a control message, as it is compared. -/
def commandOf (members : List (Bytes × Value)) : Option Bytes :=
  (Value.findMember controlCmdKey members).bind Value.getString

/-- The known parameters have the types they are to have. -/
structure KnownTyped (params : List (Bytes × Value)) : Prop where
  offset : ∀ value, Value.findMember controlOffset params = some value → ∃ n, value = .int n
  acquisitionID : ∀ value, Value.findMember controlAcqID params = some value →
    ∃ text, value = .string text
  forwardStream : ∀ value, Value.findMember controlFwdStream params = some value →
    ∃ b, value = .bool b
  devShmCache : ∀ value, Value.findMember controlDevShmCache params = some value →
    ∃ b, value = .bool b
  blockSize : ∀ value, Value.findMember controlBlockSize params = some value → ∃ n, value = .int n

/-- A string command, an integer id and, for a configure command, an object of parameters. -/
structure WellTyped (members : List (Bytes × Value)) : Prop where
  command : ∃ text, Value.findMember controlCmdKey members = some (.string text)
  id : ∃ n, Value.findMember controlIDKey members = some (.int n)
  params : commandOf members = some controlConfigure →
    ∃ params, Value.findMember controlParamKey members = some (.object params) ∧ KnownTyped params

/-- The integers are 32-bit ones, a close in the middle of an acquisition has a consumer to
send its end message to, and switching the cache off removes its files. -/
structure ParamsAnswerable (env : Environment) (s : EigerFan) (params : List (Bytes × Value)) :
    Prop where
  offset : ∀ n, Value.findMember controlOffset params = some (.int n) → IsInt32 n
  blockSize : ∀ n, Value.findMember controlBlockSize params = some (.int n) → IsInt32 n
  close : hasKey params controlKill = false → hasKey params controlClose = true →
    s.state = .dstrHeader ∨ s.state = .dstrImage → 1 ≤ s.config.numConsumers
  removal : Value.findMember controlDevShmCache params = some (.bool false) →
    env.removeAll s.fileCalls = true

/-- What a well-typed message needs besides its types to be answered. -/
structure Answerable (env : Environment) (s : EigerFan) (members : List (Bytes × Value)) :
    Prop where
  id : ∀ n, Value.findMember controlIDKey members = some (.int n) → IsInt32 n
  params : commandOf members = some controlConfigure →
    ∀ params, Value.findMember controlParamKey members = some (.object params) →
      ParamsAnswerable env s params

theorem getInt_isSome_iff {n : Int} : (Value.int n).getInt.isSome ↔ IsInt32 n := by
  rw [Value.getInt]
  split
  · next hRange => exact ⟨fun _ => hRange, fun _ => rfl⟩
  · next hRange => exact ⟨fun hSome => (by cases hSome), fun h => absurd h hRange⟩

theorem KnownTyped.readable_iff {env : Environment} {s : EigerFan}
    {params : List (Bytes × Value)} (h : KnownTyped params) :
    ParamsReadable env s params ↔ ParamsAnswerable env s params := by
  constructor
  · intro hReadable
    refine ⟨fun n hFind => ?_, fun n hFind => ?_, hReadable.close, fun hFind => ?_⟩
    · exact getInt_isSome_iff.mp (hReadable.offset _ hFind)
    · exact getInt_isSome_iff.mp (hReadable.blockSize _ hFind)
    · exact hReadable.removal (by rw [hFind]; rfl)
  · intro hAnswerable
    refine ⟨hAnswerable.close, fun value hFind => ?_, fun value hFind => ?_, fun value hFind => ?_,
      fun value hFind => ?_, fun hOff => ?_, fun value hFind => ?_⟩
    · obtain ⟨n, rfl⟩ := h.offset value hFind
      exact getInt_isSome_iff.mpr (hAnswerable.offset n hFind)
    · obtain ⟨text, rfl⟩ := h.acquisitionID value hFind
      rfl
    · obtain ⟨b, rfl⟩ := h.forwardStream value hFind
      rfl
    · obtain ⟨b, rfl⟩ := h.devShmCache value hFind
      rfl
    · obtain ⟨value, hFind, hValue⟩ := Option.bind_eq_some_iff.mp hOff
      rw [Store.getBool_eq hValue] at hFind
      exact hAnswerable.removal hFind
    · obtain ⟨n, rfl⟩ := h.blockSize value hFind
      exact getInt_isSome_iff.mpr (hAnswerable.blockSize n hFind)

theorem WellTyped.readable_iff {env : Environment} {s : EigerFan} {message : Bytes}
    {members : List (Bytes × Value)} (h : WellTyped members)
    (hParse : env.parse (cString message) = some (.object members)) :
    ControlReadable env s message ↔ Answerable env s members := by
  obtain ⟨n, hID⟩ := h.id
  constructor
  · rintro ⟨members', hParse', hInt, hCommand, hConfigure⟩
    cases hParse.symm.trans hParse'
    refine ⟨fun m hFind => ?_, fun hIs params hFind => ?_⟩
    · rw [hFind] at hInt
      exact getInt_isSome_iff.mp hInt
    · obtain ⟨params', hParams, hReadable⟩ := hConfigure hIs _ hFind
      cases hParams
      obtain ⟨params', hFind', hTyped⟩ := h.params hIs
      cases hFind.symm.trans hFind'
      exact hTyped.readable_iff.mp hReadable
  · intro hAnswerable
    refine ⟨members, hParse, ?_, fun value hFind => ?_, fun hIs value hFind => ?_⟩
    · rw [hID]
      exact getInt_isSome_iff.mpr (hAnswerable.id n hID)
    · obtain ⟨text, hText⟩ := h.command
      cases hText.symm.trans hFind
      rfl
    · obtain ⟨params, hFind', hTyped⟩ := h.params hIs
      cases hFind'.symm.trans hFind
      exact ⟨params, rfl, hTyped.readable_iff.mpr (hAnswerable.params hIs params hFind)⟩

def Acked (reply : Value) : Prop :=
  reply.member (bytes "msg_type") = some (.string (bytes "ack"))

/-- The message is answered as a store is to answer it. -/
def Lawful (env : Environment) (x : Store) (message idMessage : Bytes)
    (members : List (Bytes × Value)) (s : EigerFan) : Prop :=
  ∃ t reply, handleControlMessage env message idMessage s = some t ∧
    t.controlSocket = s.controlSocket ++ [(idMessage, reply)] ∧
    (commandOf members = some controlConfigure → (Acked reply ↔ configures members = true)) ∧
    (commandOf members ≠ some controlConfigure ∨ ¬ Acked reply →
      t = { s with controlSocket := t.controlSocket }) ∧
    (commandOf members = some controlConfigure → Acked reply → ∃ params,
      Value.findMember controlParamKey members = some (.object params) ∧
        t = { s.configuredBy env params with controlSocket := t.controlSocket }) ∧
    (commandOf members = some controlReqConfig → x.ReadBack reply)

section Answers

variable {env : Environment} {message idMessage : Bytes} {members : List (Bytes × Value)}
  {s t : EigerFan}

/-- The reply of the command goes out with the time and the id added. -/
theorem handled_reply (hParse : env.parse (cString message) = some (.object members))
    (h : handleControlMessage env message idMessage s = some t) :
    ∃ u reply sent, controlCommand env (.object members) s = some (u, reply) ∧
      (∀ key value, reply.member key = some value → sent.member key = some value) ∧
      t = { u with controlSocket := s.controlSocket ++ [(idMessage, sent)], more := 0 } := by
  obtain ⟨⟨doc, u, reply⟩, hInterpret, h⟩ := Option.bind_eq_some_iff.mp h
  obtain ⟨stamped, hStamped, h⟩ := Option.bind_eq_some_iff.mp h
  obtain ⟨msgId, _, h⟩ := Option.bind_eq_some_iff.mp h
  obtain ⟨sent, hSent, h⟩ := Option.bind_eq_some_iff.mp h
  cases h
  rw [interpretControl, hParse] at hInterpret
  obtain ⟨next, hCommand, hNext⟩ := Option.map_eq_some_iff.mp hInterpret
  cases hNext
  refine ⟨u, reply, sent, hCommand, fun key value hMember => ?_, ?_⟩
  · exact Value.member_addMember (Value.member_addMember hMember hStamped) hSent
  · rw [show u.controlSocket = s.controlSocket from controlCommand_controlSocket hCommand]

theorem acked_iff_carriesOut {u : EigerFan} {reply sent : Value}
    (hCommand : controlCommand env (.object members) s = some (u, reply))
    (hKept : ∀ key value, reply.member key = some value → sent.member key = some value) :
    Acked sent ↔ carriesOut (.object members) = true := by
  have hAnswers := controlCommand_answers hCommand
  rw [Answers] at hAnswers
  split at hAnswers
  · next hCarries => exact ⟨fun _ => hCarries, fun _ => hKept _ _ hAnswers⟩
  · next hCarries =>
      refine ⟨fun hAck => ?_, fun h => absurd h hCarries⟩
      have hNack := hKept _ _ hAnswers.1
      rw [Acked, hNack] at hAck
      exact absurd (Value.string.inj (Option.some.inj hAck)) (by decide)

theorem carriesOut_of_configure (h : commandOf members = some controlConfigure) :
    carriesOut (.object members) = configures members := by
  obtain ⟨value, hFind, hText⟩ := Option.bind_eq_some_iff.mp h
  have hOther : controlConfigure ∉ requestCommands := by decide
  rw [carriesOut_of_command hFind hText, decide_eq_false hOther, decide_eq_true rfl,
    Bool.false_or, Bool.true_and]

theorem unchanged_of_not_configure {u : EigerFan} {reply : Value}
    (hOther : commandOf members ≠ some controlConfigure)
    (hCommand : controlCommand env (.object members) s = some (u, reply)) : u = s := by
  rcases controlCommand_cases hCommand with ⟨hSame, _⟩ | ⟨params, hParams, _⟩
  · exact hSame
  · obtain ⟨command, hText, hParams⟩ := Option.bind_eq_some_iff.mp hParams
    split at hParams
    · next hConfigure =>
        rw [hConfigure] at hText
        exact absurd hText hOther
    · cases hParams

/-- A configure command with something to configure changes what it names. -/
theorem configuredBy_of_configures {u : EigerFan} {reply : Value}
    (hLength : s.consumers.length = s.config.numConsumers.toNat)
    (hConfigure : commandOf members = some controlConfigure)
    (hConfigures : configures members = true)
    (hCommand : controlCommand env (.object members) s = some (u, reply)) :
    ∃ params, Value.findMember controlParamKey members = some (.object params) ∧
      u = s.configuredBy env params := by
  obtain ⟨value, hFind, hText⟩ := Option.bind_eq_some_iff.mp hConfigure
  obtain ⟨hStatus, hConfig, hVersion, hCommands⟩ := controlConfigure_distinct
  rw [configures] at hConfigures
  split at hConfigures
  · next params hParams =>
      rw [controlCommand_of_command hFind hText, if_neg hStatus.symm, if_neg hConfig.symm,
        if_neg hVersion.symm, if_neg hCommands.symm, if_pos rfl, hParams] at hCommand
      exact ⟨params, hParams, configure_configuredBy hLength hCommand⟩
  · cases hConfigures

theorem configuredBy_more {params : List (Bytes × Value)} (s : EigerFan) :
    (s.configuredBy env params).more = s.more := by
  obtain ⟨_, _, _, _, hShut⟩ := Store.shutDownBy_sentOn env params s
  unfold EigerFan.configuredBy
  rw [hShut]

/-- Apart from what is read back, a message that is handled is answered as it should. -/
theorem lawful_iff_of_handled {config : EigerFanConfig} {x : Store}
    (hParse : env.parse (cString message) = some (.object members))
    (hIdle : Idle config s) (hMore : s.more = 0) (hHolds : x.Holds s)
    (h : handleControlMessage env message idMessage s = some t) :
    Lawful env x message idMessage members s ↔
      (commandOf members = some controlReqConfig → x.Legible) := by
  obtain ⟨u, reply, sent, hCommand, hKept, hAfter⟩ := handled_reply hParse h
  have hAcked : Acked sent ↔ carriesOut (.object members) = true :=
    acked_iff_carriesOut hCommand hKept
  have hSocket : t.controlSocket = s.controlSocket ++ [(idMessage, sent)] := by rw [hAfter]
  have hSame : u = s → t = { s with controlSocket := t.controlSocket } := by
    rintro rfl
    rw [hAfter]
    exact congrArg (fun more => { u with
      controlSocket := u.controlSocket ++ [(idMessage, sent)], more := more }) hMore.symm
  have hReq : commandOf members = some controlReqConfig → (x.ReadBack sent ↔ x.Legible) := by
    intro hReqConfig
    obtain ⟨value, hFind, hText⟩ := Option.bind_eq_some_iff.mp hReqConfig
    have hOther : controlReqConfig ≠ controlStatus := by decide
    rw [controlCommand_of_command hFind hText, if_neg hOther, if_pos rfl] at hCommand
    cases hCommand
    exact hHolds.readBack_iff (hKept _ _ rfl)
  constructor
  · rintro ⟨t', sent', hHandle', hSocket', _, _, _, hRead⟩ hReqConfig
    cases h.symm.trans hHandle'
    have hSent : sent = sent' := by
      have hSockets := hSocket.symm.trans hSocket'
      simpa using hSockets
    exact (hReq hReqConfig).mp (hSent ▸ hRead hReqConfig)
  · intro hLegible
    refine ⟨t, sent, h, hSocket, fun hConfigure => ?_, fun hNot => hSame ?_,
      fun hConfigure hAck => ?_, fun hReqConfig => (hReq hReqConfig).mpr (hLegible hReqConfig)⟩
    · rw [hAcked, carriesOut_of_configure hConfigure]
    · rcases hNot with hOther | hNack
      · exact unchanged_of_not_configure hOther hCommand
      · have hAnswers := controlCommand_answers hCommand
        rw [Answers, if_neg fun hCarries => hNack (hAcked.mpr hCarries)] at hAnswers
        exact hAnswers.2
    · have hConfigures := hAcked.mp hAck
      rw [carriesOut_of_configure hConfigure] at hConfigures
      obtain ⟨params, hParams, hConfigured⟩ :=
        configuredBy_of_configures hIdle.length_eq hConfigure hConfigures hCommand
      refine ⟨params, hParams, ?_⟩
      rw [hAfter, hConfigured]
      exact congrArg (fun more => { s.configuredBy env params with
        controlSocket := s.controlSocket ++ [(idMessage, sent)], more := more })
        (hMore.symm.trans (configuredBy_more s).symm)

end Answers

/-- After any run of one message at a time, a well-typed control message is answered as the
store is to answer it exactly if nothing ends the process and, where the store is read
back, the acquisition ID named last has no NUL in it. -/
theorem lawful_iff {env : Environment} {vm : Options} {events : List SessionEvent} {s : EigerFan}
    {message idMessage : Bytes} {members : List (Bytes × Value)}
    (hRun : Run (session env) always (initial (parseArguments vm)) events s)
    (hParse : env.parse (cString message) = some (.object members)) (hTyped : WellTyped members) :
    Lawful env ((Store.initial (parseArguments vm)).after env events) message idMessage members s ↔
      Answerable env s members ∧
        (commandOf members = some controlReqConfig →
          ((Store.initial (parseArguments vm)).after env events).Legible) := by
  obtain ⟨hHolds, hIdle, hMore⟩ := (Store.holds_initial (parseArguments vm)).run hRun
    (Idle.initial (parseArguments_int32 vm).2) rfl
  rw [← hTyped.readable_iff hParse]
  constructor
  · intro hLawful
    have hHandled := hLawful
    obtain ⟨t, _, h, _⟩ := hHandled
    exact ⟨readable_of_handled hIdle.length_eq h,
      (lawful_iff_of_handled hParse hIdle hMore hHolds h).mp hLawful⟩
  · rintro ⟨hReadable, hLegible⟩
    obtain ⟨t, _, h, _⟩ := (replies_iff_readable_of_length hIdle.length_eq).mpr hReadable
    exact (lawful_iff_of_handled hParse hIdle hMore hHolds h).mpr hLegible

def requestMembers : List (Bytes × Value) :=
  [(controlCmdKey, .string controlReqConfig), (controlIDKey, .int 2)]

def requestText : Bytes := objectText (.object requestMembers)

/-- An environment with a configure command of one parameter and a request to read it back. -/
def readBackEnvironment (key : Bytes) (value : Value) : Environment :=
  .ofTexts [(commandText, configureCommand key value), (requestText, .object requestMembers)]

theorem requestMembers_wellTyped : WellTyped requestMembers :=
  ⟨⟨_, rfl⟩, ⟨_, rfl⟩, fun hConfigure => absurd hConfigure (by decide)⟩

/-- An acquisition ID is read back as it was configured. -/
theorem acquisitionID_read_back :
    ∃ s, Run (session (readBackEnvironment controlAcqID (.string (bytes "scan")))) always
        (initial (parseArguments defaultOptions)) [.main (.control commandText [7])] s ∧
      Lawful (readBackEnvironment controlAcqID (.string (bytes "scan")))
        ((Store.initial (parseArguments defaultOptions)).after
          (readBackEnvironment controlAcqID (.string (bytes "scan")))
          [.main (.control commandText [7])]) requestText [7] requestMembers s := by
  obtain ⟨s, hRun⟩ : ∃ s, Run (session (readBackEnvironment controlAcqID (.string (bytes "scan"))))
      always (initial (parseArguments defaultOptions)) [.main (.control commandText [7])] s :=
    ⟨_, run_always_iff.mpr rfl⟩
  refine ⟨s, hRun, (lawful_iff hRun rfl requestMembers_wellTyped).mpr ⟨⟨fun n hFind => ?_,
    fun hConfigure => absurd hConfigure (by decide)⟩, fun _ => ⟨bytes "scan", rfl, by decide⟩⟩⟩
  cases hFind
  exact ⟨by decide, by decide⟩

/-- Of an acquisition ID with a NUL in it only what stands before the NUL is read back. -/
theorem acquisitionID_cut_off :
    ∃ s t reply, Run (session (readBackEnvironment controlAcqID (.string [97, 0, 98]))) always
        (initial (parseArguments defaultOptions)) [.main (.control commandText [7])] s ∧
      handleControlMessage (readBackEnvironment controlAcqID (.string [97, 0, 98])) requestText [7]
        s = some t ∧
      t.controlSocket = s.controlSocket ++ [([7], reply)] ∧
      (reply.member (bytes "params")).bind (Value.member controlAcqID) = some (.string [97]) ∧
      ¬ Lawful (readBackEnvironment controlAcqID (.string [97, 0, 98]))
        ((Store.initial (parseArguments defaultOptions)).after
          (readBackEnvironment controlAcqID (.string [97, 0, 98]))
          [.main (.control commandText [7])]) requestText [7] requestMembers s := by
  obtain ⟨s, t, reply, hRun, hHandled, hSent, hCut⟩ : ∃ s t reply,
      Run (session (readBackEnvironment controlAcqID (.string [97, 0, 98]))) always
        (initial (parseArguments defaultOptions)) [.main (.control commandText [7])] s ∧
      handleControlMessage (readBackEnvironment controlAcqID (.string [97, 0, 98])) requestText [7]
        s = some t ∧
      t.controlSocket = s.controlSocket ++ [([7], reply)] ∧
      (reply.member (bytes "params")).bind (Value.member controlAcqID) = some (.string [97]) :=
    ⟨_, _, _, run_always_iff.mpr rfl, rfl, rfl, rfl⟩
  refine ⟨s, t, reply, hRun, hHandled, hSent, hCut, fun hLawful => ?_⟩
  obtain ⟨hHolds, hIdle, hMore⟩ := (Store.holds_initial (parseArguments defaultOptions)).run hRun
    (Idle.initial (parseArguments_int32 defaultOptions).2) rfl
  obtain ⟨text, hText, hFree⟩ :=
    (lawful_iff_of_handled rfl hIdle hMore hHolds hHandled).mp hLawful rfl
  have hNamed : Value.string [97, 0, 98] = .string text := hText
  rw [← Value.string.inj hNamed] at hFree
  exact absurd hFree (by decide)

end Eiger.Fan
