import EigerDetector.Fan.Atomicity
import EigerDetector.Fan.Dispatch

/-! The control messages the fan replies to. A reply is sent once everything is
read; what fails on the way ends the process without one. -/
namespace Eiger.Fan

open CharArrays Rapidjson Threads Rx Multipart Transition EigerFan

/-- The parameters a configure command looks for. -/
def configureKeys : List Bytes :=
  [controlKill, controlClose, controlOffset, controlAcqID, controlFwdStream, controlDevShmCache,
    controlBlockSize]

/-- The commands which ask and change nothing. -/
def requestCommands : List Bytes :=
  [controlStatus, controlReqConfig, controlReqVersion, controlReqCommands]

def hasKey (members : List (Bytes × Value)) (key : Bytes) : Bool :=
  (Value.findMember key members).isSome

/-- The parameters hold something to configure. -/
def configures (members : List (Bytes × Value)) : Bool :=
  match Value.findMember controlParamKey members with
  | some (.object params) => configureKeys.any (hasKey params)
  | _ => false

/-- The document is a request, or a configure command with something to configure. -/
def carriesOut : Value → Bool
  | .object members =>
      match (Value.findMember controlCmdKey members).bind Value.getString with
      | some command => decide (command ∈ requestCommands) ||
          decide (command = controlConfigure) && configures members
      | none => false
  | _ => false

/-- A member, if there is one, can be read. -/
def Readable {A : Type} (members : List (Bytes × Value)) (key : Bytes)
    (read : Value → Option A) : Prop :=
  ∀ value, Value.findMember key members = some value → (read value).isSome

/-- The parameters have the types they are read with, a close in the middle of an
acquisition has a consumer to send its end message to, and switching the cache
off removes its files. -/
structure ParamsReadable (env : Environment) (s : EigerFan) (params : List (Bytes × Value)) :
    Prop where
  close : hasKey params controlKill = false → hasKey params controlClose = true →
    s.state = .dstrHeader ∨ s.state = .dstrImage → 1 ≤ s.config.numConsumers
  offset : Readable params controlOffset Value.getInt
  acquisitionID : Readable params controlAcqID Value.getString
  forwardStream : Readable params controlFwdStream Value.getBool
  devShmCache : Readable params controlDevShmCache Value.getBool
  removal : (Value.findMember controlDevShmCache params).bind Value.getBool = some false →
    env.removeAll s.fileCalls = true
  blockSize : Readable params controlBlockSize Value.getInt

/-- The command, if there is one, is a string, and the parameters of a configure
command, if it has them, are an object. -/
def CommandReadable (env : Environment) (s : EigerFan) (members : List (Bytes × Value)) : Prop :=
  Readable members controlCmdKey Value.getString ∧
    ((Value.findMember controlCmdKey members).bind Value.getString = some controlConfigure →
      ∀ value, Value.findMember controlParamKey members = some value →
        ∃ params, value = .object params ∧ ParamsReadable env s params)

/-- The document is an object with an integer id and a readable command. -/
def ControlReadable (env : Environment) (s : EigerFan) (message : Bytes) : Prop :=
  ∃ members, env.parse (cString message) = some (.object members) ∧
    ((Value.findMember controlIDKey members).bind Value.getInt).isSome ∧
    CommandReadable env s members

/-- One reply, to the sender: an ack if the command is carried out. Otherwise it is
a nack, and nothing else happened. -/
def Replies (env : Environment) (message idMessage : Bytes) (s : EigerFan) : Prop :=
  ∃ t reply, handleControlMessage env message idMessage s = some t ∧
    t.controlSocket = s.controlSocket ++ [(idMessage, reply)] ∧
    if (env.parse (cString message)).any carriesOut then
      reply.member (bytes "msg_type") = some (.string (bytes "ack"))
    else reply.member (bytes "msg_type") = some (.string (bytes "nack")) ∧
      t = { s with controlSocket := t.controlSocket, more := 0 }

section Params

variable {env : Environment} {params : List (Bytes × Value)}

/-- A parameter that is not there, or can be read and used. -/
theorem configureParam_some_iff {A : Type} {key : Bytes} {read : Value → Option A}
    {use : A → EigerFan → Option EigerFan} {current : EigerFan × Value} :
    (∃ next, configureParam (.object params) key read use current = some next) ↔
      ∀ value, Value.findMember key params = some value →
        ∃ a, read value = some a ∧ (use a current.1).isSome := by
  rw [configureParam, Value.hasMember, Value.member, Option.bind_eq_bind, Option.bind_some]
  cases hFind : Value.findMember key params with
  | none =>
      refine ⟨fun _ value hFound => ?_, fun _ => ⟨_, rfl⟩⟩
      cases hFound
  | some value =>
      rw [Option.isSome_some, if_pos rfl, Option.bind_some]
      constructor
      · rintro ⟨next, hNext⟩ _ ⟨⟩
        obtain ⟨a, hRead, hNext⟩ := Option.bind_eq_some_iff.mp hNext
        obtain ⟨t, hUse, _⟩ := Option.bind_eq_some_iff.mp hNext
        exact ⟨a, hRead, by rw [hUse]; rfl⟩
      · intro hAll
        obtain ⟨a, hRead, hUse⟩ := hAll value rfl
        obtain ⟨t, hUse⟩ := Option.isSome_iff_exists.mp hUse
        refine ⟨(t, controlResponseOk), ?_⟩
        simp only [hRead, hUse, Option.bind_eq_bind, Option.bind_some]
        rfl

/-- Only the parameters that are there change the reply. -/
theorem configureParam_reply {A : Type} {key : Bytes} {read : Value → Option A}
    {use : A → EigerFan → Option EigerFan} {current next : EigerFan × Value}
    (h : configureParam (.object params) key read use current = some next) :
    next.2 = if hasKey params key then controlResponseOk else current.2 := by
  rw [configureParam, Value.hasMember, Value.member, Option.bind_eq_bind, Option.bind_some] at h
  rw [hasKey]
  split at h
  · next hFound =>
      obtain ⟨a, _, h⟩ := Option.bind_eq_some_iff.mp h
      obtain ⟨t, _, h⟩ := Option.bind_eq_some_iff.mp h
      cases h
      rw [if_pos hFound]
  · next hFound =>
      cases h
      rw [if_neg hFound]

/-- A parameter which is stored and nothing more. -/
theorem configureParam_stored_iff {A : Type} {key : Bytes} {read : Value → Option A}
    {store : A → EigerFan → EigerFan} {current : EigerFan × Value} :
    (∃ next, configureParam (.object params) key read (fun a s => some (store a s)) current =
      some next) ↔ Readable params key read := by
  rw [configureParam_some_iff]
  constructor
  · intro hAll value hFind
    obtain ⟨a, hRead, _⟩ := hAll value hFind
    rw [hRead]
    rfl
  · intro hReadable value hFind
    obtain ⟨a, hRead⟩ := Option.isSome_iff_exists.mp (hReadable value hFind)
    exact ⟨a, hRead, rfl⟩

theorem configureParam_stored_fileCalls {A : Type} {key : Bytes} {read : Value → Option A}
    {store : A → EigerFan → EigerFan} {current next : EigerFan × Value}
    (h : configureParam (.object params) key read (fun a s => some (store a s)) current = some next)
    (hStore : ∀ a u, (store a u).fileCalls = u.fileCalls) :
    next.1.fileCalls = current.1.fileCalls := by
  rcases configureParam_cases h with rfl | ⟨a, _, hUse, _⟩
  · rfl
  · rw [← Option.some.inj hUse, hStore]

theorem setDevShmCache_isSome_iff {value : Bool} {s : EigerFan} :
    (s.setDevShmCache env value).isSome ↔ (value = false → env.removeAll s.fileCalls = true) := by
  unfold EigerFan.setDevShmCache EigerFan.removeCache
  cases value with
  | true => exact ⟨fun _ => nofun, fun _ => rfl⟩
  | false =>
      simp only [Bool.false_eq_true, if_false, true_imp_iff]
      split
      · next hRemoved => exact ⟨fun _ => hRemoved, fun _ => rfl⟩
      · next hKept => exact ⟨nofun, fun hRemoved => absurd hRemoved hKept⟩

theorem configureParam_devShmCache_iff {current : EigerFan × Value} :
    (∃ next, configureParam (.object params) controlDevShmCache Value.getBool
      (EigerFan.setDevShmCache env) current = some next) ↔
      Readable params controlDevShmCache Value.getBool ∧
        ((Value.findMember controlDevShmCache params).bind Value.getBool = some false →
          env.removeAll current.1.fileCalls = true) := by
  rw [configureParam_some_iff]
  constructor
  · intro hAll
    constructor
    · intro value hFind
      obtain ⟨a, hRead, _⟩ := hAll value hFind
      rw [hRead]
      rfl
    · intro hOff
      obtain ⟨value, hFind, hValue⟩ := Option.bind_eq_some_iff.mp hOff
      obtain ⟨a, hRead, hUse⟩ := hAll value hFind
      rw [hRead] at hValue
      exact setDevShmCache_isSome_iff.mp hUse (Option.some.inj hValue)
  · rintro ⟨hReadable, hRemoval⟩ value hFind
    obtain ⟨a, hRead⟩ := Option.isSome_iff_exists.mp (hReadable value hFind)
    refine ⟨a, hRead, setDevShmCache_isSome_iff.mpr fun hOff => hRemoval ?_⟩
    rw [hFind, Option.bind_some, hRead, hOff]

/-- The end message goes out if there is a consumer for each rank, and at least one. -/
theorem closeStream_isSome_iff {s : EigerFan}
    (hLength : s.consumers.length = s.config.numConsumers.toNat) :
    (s.closeStream env).isSome ↔
      (s.state = .dstrHeader ∨ s.state = .dstrImage → 1 ≤ s.config.numConsumers) := by
  unfold EigerFan.closeStream
  split
  · next hOpen =>
      unfold EigerFan.sendFabricatedEndMessage sendMessageToAllConsumers
      simp only
      by_cases hPos : 1 ≤ s.config.numConsumers
      · rw [run_sendToAll env _ hPos hLength]
        exact ⟨fun _ _ => hPos, fun _ => rfl⟩
      · rw [run_sendToAll_nobody env _ (by omega)]
        exact ⟨nofun, fun hSome => absurd (hSome hOpen) hPos⟩
  · next hClosed => exact ⟨fun _ hOpen => absurd hOpen hClosed, fun _ => rfl⟩

theorem configureShutdown_some_iff {s : EigerFan} {reply : Value} :
    (∃ next, configureShutdown env (.object params) (s, reply) = some next) ↔
      (hasKey params controlKill = false → hasKey params controlClose = true →
        (s.closeStream env).isSome) := by
  rw [configureShutdown, hasKey, hasKey]
  simp only [Value.hasMember, Option.bind_eq_bind, Option.bind_some]
  cases hKill : (Value.findMember controlKill params).isSome with
  | true =>
      refine ⟨fun _ hAbsent => ?_, fun _ => ⟨_, rfl⟩⟩
      cases hAbsent
  | false =>
      cases hClose : (Value.findMember controlClose params).isSome with
      | false =>
          refine ⟨fun _ _ hPresent => ?_, fun _ => ⟨_, rfl⟩⟩
          cases hPresent
      | true =>
          simp only [Bool.false_eq_true, if_false, if_true, true_imp_iff]
          constructor
          · rintro ⟨next, hNext⟩
            obtain ⟨closed, hClosed, _⟩ := Option.bind_eq_some_iff.mp hNext
            rw [hClosed]
            rfl
          · intro hCloses
            obtain ⟨closed, hClosed⟩ := Option.isSome_iff_exists.mp hCloses
            rw [hClosed, Option.bind_some]
            exact ⟨_, rfl⟩

theorem configureShutdown_reply {current next : EigerFan × Value}
    (h : configureShutdown env (.object params) current = some next) :
    next.1.fileCalls = current.1.fileCalls ∧
      next.2 = if hasKey params controlKill ∨ hasKey params controlClose then controlResponseOk
        else current.2 := by
  have hHas : ∀ {key : Bytes} {found : Bool},
      (Value.object params).hasMember key = some found → hasKey params key = found :=
    fun hFound => Option.some.inj hFound
  rcases configureShutdown_cases h with
    ⟨rfl, hKill, hClose⟩ | ⟨rfl, hKill⟩ | ⟨closed, hKill, hClose, hClosed, rfl⟩
  · rw [hHas hKill, hHas hClose]
    exact ⟨rfl, rfl⟩
  · rw [hHas hKill, if_pos (.inl rfl)]
    exact ⟨rfl, rfl⟩
  · obtain ⟨_, _, ⟨_, _, rfl⟩, rfl⟩ := closeStream_sentOn hClosed
    rw [hHas hClose, if_pos (.inr rfl)]
    exact ⟨rfl, rfl⟩

/-- A configure command is carried out exactly if its parameters are readable. -/
theorem configure_some_iff {s : EigerFan}
    (hLength : s.consumers.length = s.config.numConsumers.toNat) :
    (∃ next, configure env (.object params) s = some next) ↔ ParamsReadable env s params := by
  constructor
  · rintro ⟨next, hNext⟩
    obtain ⟨closed, hClosed, hNext⟩ := Option.bind_eq_some_iff.mp hNext
    obtain ⟨moved, hMoved, hNext⟩ := Option.bind_eq_some_iff.mp hNext
    obtain ⟨named, hNamed, hNext⟩ := Option.bind_eq_some_iff.mp hNext
    obtain ⟨forwarded, hForwarded, hNext⟩ := Option.bind_eq_some_iff.mp hNext
    obtain ⟨cached, hCached, hBlock⟩ := Option.bind_eq_some_iff.mp hNext
    have hCalls : forwarded.1.fileCalls = s.fileCalls := by
      rw [configureParam_stored_fileCalls hForwarded fun _ _ => rfl,
        configureParam_stored_fileCalls hNamed fun _ _ => rfl,
        configureParam_stored_fileCalls hMoved fun _ _ => rfl, (configureShutdown_reply hClosed).1]
    obtain ⟨hCache, hRemoval⟩ := configureParam_devShmCache_iff.mp ⟨_, hCached⟩
    rw [hCalls] at hRemoval
    refine ⟨fun hKill hClose => ?_, ?_, ?_, ?_, hCache, hRemoval, ?_⟩
    · exact (closeStream_isSome_iff hLength).mp
        (configureShutdown_some_iff.mp ⟨_, hClosed⟩ hKill hClose)
    · exact configureParam_stored_iff.mp ⟨_, hMoved⟩
    · exact configureParam_stored_iff.mp ⟨_, hNamed⟩
    · exact configureParam_stored_iff.mp ⟨_, hForwarded⟩
    · exact configureParam_stored_iff.mp ⟨_, hBlock⟩
  · intro h
    obtain ⟨closed, hClosed⟩ : ∃ next,
        configureShutdown env (.object params) (s, controlResponseNoCfgParam) = some next :=
      configureShutdown_some_iff.mpr fun hKill hClose =>
        (closeStream_isSome_iff hLength).mpr (h.close hKill hClose)
    obtain ⟨moved, hMoved⟩ : ∃ next,
        configureParam (.object params) controlOffset Value.getInt
          (fun value s => some { s with configuredOffset := value }) closed = some next :=
      configureParam_stored_iff.mpr h.offset
    obtain ⟨named, hNamed⟩ : ∃ next,
        configureParam (.object params) controlAcqID Value.getString
          (fun value s => some { s with configuredAcquisitionID := value }) moved = some next :=
      configureParam_stored_iff.mpr h.acquisitionID
    obtain ⟨forwarded, hForwarded⟩ : ∃ next,
        configureParam (.object params) controlFwdStream Value.getBool
          (fun value s => some { s with forwardStream := value }) named = some next :=
      configureParam_stored_iff.mpr h.forwardStream
    have hCalls : forwarded.1.fileCalls = s.fileCalls := by
      rw [configureParam_stored_fileCalls hForwarded fun _ _ => rfl,
        configureParam_stored_fileCalls hNamed fun _ _ => rfl,
        configureParam_stored_fileCalls hMoved fun _ _ => rfl, (configureShutdown_reply hClosed).1]
    have hRemoval := h.removal
    rw [← hCalls] at hRemoval
    obtain ⟨cached, hCached⟩ := configureParam_devShmCache_iff.mpr ⟨h.devShmCache, hRemoval⟩
    obtain ⟨next, hNext⟩ : ∃ next,
        configureParam (.object params) controlBlockSize Value.getInt
          (fun value s => some { s with config := { s.config with blockSize := value } }) cached =
            some next :=
      configureParam_stored_iff.mpr h.blockSize
    refine ⟨next, ?_⟩
    simp only [configure, configureSettings, hClosed, hMoved, hNamed, hForwarded, hCached,
      Option.bind_eq_bind, Option.bind_some]
    exact hNext

/-- The reply says whether there was a parameter to configure. -/
theorem configure_reply {s : EigerFan} {next : EigerFan × Value}
    (h : configure env (.object params) s = some next) :
    next.2 = if configureKeys.any (hasKey params) then controlResponseOk
      else controlResponseNoCfgParam := by
  obtain ⟨closed, hClosed, h⟩ := Option.bind_eq_some_iff.mp h
  obtain ⟨moved, hMoved, h⟩ := Option.bind_eq_some_iff.mp h
  obtain ⟨named, hNamed, h⟩ := Option.bind_eq_some_iff.mp h
  obtain ⟨forwarded, hForwarded, h⟩ := Option.bind_eq_some_iff.mp h
  obtain ⟨cached, hCached, hBlock⟩ := Option.bind_eq_some_iff.mp h
  rw [configureParam_reply hBlock, configureParam_reply hCached, configureParam_reply hForwarded,
    configureParam_reply hNamed, configureParam_reply hMoved, (configureShutdown_reply hClosed).2]
  simp only [configureKeys, List.any_cons, List.any_nil, Bool.or_false, Bool.or_eq_true]
  grind

theorem configureParam_missing {A : Type} {key : Bytes} {read : Value → Option A}
    {use : A → EigerFan → Option EigerFan} {current next : EigerFan × Value}
    (h : configureParam (.object params) key read use current = some next)
    (hMissing : hasKey params key = false) : next = current := by
  rw [hasKey] at hMissing
  rw [configureParam, Value.hasMember, hMissing] at h
  exact (Option.some.inj h).symm

/-- Without a parameter to configure nothing changes. -/
theorem configure_unchanged {s : EigerFan} {next : EigerFan × Value}
    (h : configure env (.object params) s = some next)
    (hNothing : configureKeys.any (hasKey params) = false) : next.1 = s := by
  obtain ⟨closed, hClosed, h⟩ := Option.bind_eq_some_iff.mp h
  obtain ⟨moved, hMoved, h⟩ := Option.bind_eq_some_iff.mp h
  obtain ⟨named, hNamed, h⟩ := Option.bind_eq_some_iff.mp h
  obtain ⟨forwarded, hForwarded, h⟩ := Option.bind_eq_some_iff.mp h
  obtain ⟨cached, hCached, hBlock⟩ := Option.bind_eq_some_iff.mp h
  simp only [configureKeys, List.any_cons, List.any_nil, Bool.or_false,
    Bool.or_eq_false_iff] at hNothing
  obtain ⟨hKill, hClose, hOffset, hID, hForward, hCache, hSize⟩ := hNothing
  have hOpen : closed = (s, controlResponseNoCfgParam) := by
    rw [hasKey] at hKill hClose
    rw [configureShutdown, Value.hasMember, hKill, Value.hasMember, hClose] at hClosed
    exact (Option.some.inj hClosed).symm
  rw [configureParam_missing hBlock hSize, configureParam_missing hCached hCache,
    configureParam_missing hForwarded hForward, configureParam_missing hNamed hID,
    configureParam_missing hMoved hOffset, hOpen]

end Params

section Commands

variable {env : Environment} {members : List (Bytes × Value)} {s : EigerFan}

/-- What a reply says of its command. -/
def Answers (doc : Value) (s : EigerFan) (next : EigerFan × Value) : Prop :=
  if carriesOut doc then next.2.member (bytes "msg_type") = some (.string (bytes "ack"))
  else next.2.member (bytes "msg_type") = some (.string (bytes "nack")) ∧ next.1 = s

theorem configure_of_params {value : Value} {next : EigerFan × Value}
    (h : configure env value s = some next) : ∃ params, value = .object params := by
  cases value with
  | object params => exact ⟨params, rfl⟩
  | _ => cases h

/-- With a command the reply is the one of its branch. -/
theorem controlCommand_of_command {value : Value} {command : Bytes}
    (hCommand : Value.findMember controlCmdKey members = some value)
    (hText : value.getString = some command) :
    controlCommand env (.object members) s =
      if command = controlStatus then some (s, response "ack" "status" s.statusParams)
      else if command = controlReqConfig then
        some (s, response "ack" "request_configuration" s.configurationParams)
      else if command = controlReqVersion then
        some (s, response "ack" "request_version" (versionParams env))
      else if command = controlReqCommands then some (s, controlResponseOk)
      else if command = controlConfigure then
        match Value.findMember controlParamKey members with
        | some params => configure env params s
        | none => some (s, controlResponseNoParam)
      else some (s, controlResponseUnable) := by
  simp only [controlCommand, Value.hasMember, Value.member, hCommand, hText, Option.isSome_some,
    if_true, Option.bind_eq_bind, Option.bind_some]
  cases Value.findMember controlParamKey members <;> rfl

theorem controlCommand_some_iff (hLength : s.consumers.length = s.config.numConsumers.toNat) :
    (∃ next, controlCommand env (.object members) s = some next) ↔
      CommandReadable env s members := by
  rw [CommandReadable, Readable]
  cases hCommand : Value.findMember controlCmdKey members with
  | none =>
      rw [controlCommand, Value.hasMember, hCommand]
      refine ⟨fun _ => ⟨?_, ?_⟩, fun _ => ⟨_, rfl⟩⟩
      · rintro _ ⟨⟩
      · rintro ⟨⟩
  | some value =>
      cases hText : value.getString with
      | none =>
          rw [controlCommand, Value.hasMember, Value.member, hCommand, Option.bind_some]
          constructor
          · rintro ⟨next, hNext⟩
            simp only [hText, Option.isSome_some, Option.bind_eq_bind, Option.bind_some,
              if_true] at hNext
            cases hNext
          · rintro ⟨hReadable, _⟩
            have hSome := hReadable value rfl
            rw [hText] at hSome
            cases hSome
      | some command =>
          have hReadable : ∀ v, some value = some v → v.getString.isSome := by
            rintro _ ⟨⟩
            rw [hText]
            rfl
          rw [controlCommand_of_command hCommand hText, Option.bind_some, hText]
          by_cases hConfigure : command = controlConfigure
          · obtain ⟨hStatus, hConfig, hVersion, hCommands⟩ := controlConfigure_distinct
            rw [hConfigure, if_neg hStatus.symm, if_neg hConfig.symm, if_neg hVersion.symm,
              if_neg hCommands.symm, if_pos rfl]
            cases hParams : Value.findMember controlParamKey members with
            | none =>
                refine ⟨fun _ => ⟨hReadable, fun _ => ?_⟩, fun _ => ⟨_, rfl⟩⟩
                rintro _ ⟨⟩
            | some paramsValue =>
                constructor
                · rintro ⟨next, hNext⟩
                  refine ⟨hReadable, fun _ => ?_⟩
                  rintro _ ⟨⟩
                  obtain ⟨params, rfl⟩ := configure_of_params hNext
                  exact ⟨params, rfl, (configure_some_iff hLength).mp ⟨_, hNext⟩⟩
                · rintro ⟨_, hAll⟩
                  obtain ⟨params, rfl, hReadableParams⟩ := hAll rfl _ rfl
                  exact (configure_some_iff hLength).mpr hReadableParams
          · refine ⟨fun _ => ⟨hReadable, fun hIs => absurd (Option.some.inj hIs) hConfigure⟩,
              fun _ => ?_⟩
            rw [if_neg hConfigure]
            split
            · exact ⟨_, rfl⟩
            · split
              · exact ⟨_, rfl⟩
              · split
                · exact ⟨_, rfl⟩
                · split <;> exact ⟨_, rfl⟩

theorem carriesOut_of_command {value : Value} {command : Bytes}
    (hCommand : Value.findMember controlCmdKey members = some value)
    (hText : value.getString = some command) :
    carriesOut (.object members) = (decide (command ∈ requestCommands) ||
      decide (command = controlConfigure) && configures members) := by
  rw [carriesOut, hCommand, Option.bind_some, hText]

theorem controlCommand_answers {next : EigerFan × Value}
    (h : controlCommand env (.object members) s = some next) :
    Answers (.object members) s next := by
  rw [Answers]
  cases hCommand : Value.findMember controlCmdKey members with
  | none =>
      rw [controlCommand, Value.hasMember, hCommand] at h
      cases h
      rw [carriesOut, hCommand]
      exact ⟨rfl, rfl⟩
  | some value =>
      cases hText : value.getString with
      | none =>
          rw [controlCommand, Value.hasMember, Value.member, hCommand] at h
          simp only [hText, Option.isSome_some, Option.bind_eq_bind, Option.bind_some,
            if_true] at h
          cases h
      | some command =>
          rw [controlCommand_of_command hCommand hText] at h
          rw [carriesOut_of_command hCommand hText]
          by_cases hRequest : command ∈ requestCommands
          · rw [decide_eq_true hRequest, Bool.true_or, if_pos rfl]
            simp only [requestCommands, List.mem_cons, List.not_mem_nil, or_false] at hRequest
            split at h
            · cases h
              rfl
            · split at h
              · cases h
                rfl
              · split at h
                · cases h
                  rfl
                · split at h
                  · cases h
                    rfl
                  · next hStatus hConfig hVersion hCommands =>
                      rcases hRequest with rfl | rfl | rfl | rfl
                      · exact absurd rfl hStatus
                      · exact absurd rfl hConfig
                      · exact absurd rfl hVersion
                      · exact absurd rfl hCommands
          · rw [decide_eq_false hRequest, Bool.false_or]
            simp only [requestCommands, List.mem_cons, List.not_mem_nil, or_false,
              not_or] at hRequest
            obtain ⟨hStatus, hConfig, hVersion, hCommands⟩ := hRequest
            rw [if_neg hStatus, if_neg hConfig, if_neg hVersion, if_neg hCommands] at h
            split at h
            · next hConfigure =>
                rw [decide_eq_true hConfigure, Bool.true_and, configures]
                split at h
                · next paramsValue hParams =>
                    obtain ⟨params, rfl⟩ := configure_of_params h
                    rw [hParams]
                    have hReply := configure_reply h
                    simp only
                    split
                    · next hSome =>
                        rw [hReply, if_pos hSome]
                        rfl
                    · next hNothing =>
                        rw [hReply, if_neg hNothing]
                        exact ⟨rfl, configure_unchanged h (Bool.eq_false_iff.mpr hNothing)⟩
                · next hParams =>
                    cases h
                    rw [hParams]
                    exact ⟨rfl, rfl⟩
            · next hConfigure =>
                cases h
                rw [decide_eq_false hConfigure, Bool.false_and]
                exact ⟨rfl, rfl⟩

/-- No command sends anything on the control socket itself. -/
theorem controlCommand_controlSocket {doc : Value} {next : EigerFan × Value}
    (h : controlCommand env doc s = some next) : next.1.controlSocket = s.controlSocket := by
  obtain ⟨t, reply⟩ := next
  rcases controlCommand_cases h with ⟨hSame, _⟩ | ⟨params, _, hConfigure⟩
  · exact congrArg EigerFan.controlSocket hSame
  · obtain ⟨closed, hClosed, _, _, _, _, _, _, _, rfl⟩ := configure_cases hConfigure
    rcases configureShutdown_cases hClosed with
      ⟨rfl, _⟩ | ⟨rfl, _⟩ | ⟨ended, _, _, hEnded, rfl⟩
    · rfl
    · rfl
    · obtain ⟨_, _, ⟨_, _, rfl⟩, rfl⟩ := closeStream_sentOn hEnded
      rfl

/-- A reply is an object, to which the time and the id are added. -/
theorem handleControlMessage_of_reply {message idMessage : Bytes} {doc reply value : Value}
    {t : EigerFan} {msgId : Int}
    (hInterpret : interpretControl env message s = some (doc, t, reply))
    (hReply : reply.member (bytes "msg_type") = some value)
    (hId : (doc.member controlIDKey).bind Value.getInt = some msgId) :
    ∃ sent, sent.member (bytes "msg_type") = some value ∧
      handleControlMessage env message idMessage s =
        some { t with controlSocket := t.controlSocket ++ [(idMessage, sent)], more := 0 } := by
  have hAdds : ∀ {doc : Value} (key : Bytes) (extra : Value),
      doc.member (bytes "msg_type") = some value → ∃ doc', doc.addMember key extra = some doc' := by
    intro doc key extra hMember
    obtain ⟨_, _, hAdded⟩ := Value.addMember_isSome_of_member hMember extra
    exact ⟨_, hAdded⟩
  obtain ⟨stamped, hStamped⟩ := hAdds (bytes "timestamp")
    (.string (env.timestamp t.controlSocket.length)) hReply
  have hKept := Value.member_addMember hReply hStamped
  obtain ⟨sent, hSent⟩ := hAdds controlIDKey (.int (FixedWidth.toUInt32 msgId)) hKept
  refine ⟨_, Value.member_addMember hKept hSent, ?_⟩
  rw [handleControlMessage, hInterpret]
  simp only [hStamped, hId, hSent, Option.bind_eq_bind, Option.bind_some]
  rfl

/-- A message that was handled was read. -/
theorem readable_of_handled {message idMessage : Bytes} {t : EigerFan}
    (hLength : s.consumers.length = s.config.numConsumers.toNat)
    (h : handleControlMessage env message idMessage s = some t) :
    ControlReadable env s message := by
  obtain ⟨⟨doc, u, answer⟩, hInterpret, h⟩ := Option.bind_eq_some_iff.mp h
  obtain ⟨stamped, _, h⟩ := Option.bind_eq_some_iff.mp h
  obtain ⟨msgId, hId, _⟩ := Option.bind_eq_some_iff.mp h
  unfold interpretControl at hInterpret
  split at hInterpret
  · cases hInterpret
    cases hId
  · next parsed hParse =>
      obtain ⟨next, hCommand, hNext⟩ := Option.map_eq_some_iff.mp hInterpret
      cases hNext
      cases doc with
      | object members =>
          refine ⟨members, hParse, ?_, (controlCommand_some_iff hLength).mp ⟨_, hCommand⟩⟩
          rw [show (Value.findMember controlIDKey members).bind Value.getInt = some msgId from hId]
          rfl
      | _ => cases hId

end Commands

/-- With one consumer for each rank, the fan replies as it should exactly to the
messages it can read. -/
theorem replies_iff_readable_of_length {env : Environment} {message idMessage : Bytes}
    {s : EigerFan} (hLength : s.consumers.length = s.config.numConsumers.toNat) :
    Replies env message idMessage s ↔ ControlReadable env s message := by
  constructor
  · rintro ⟨t, reply, hHandle, _⟩
    exact readable_of_handled hLength hHandle
  · rintro ⟨members, hParse, hId, hReadable⟩
    obtain ⟨msgId, hId⟩ := Option.isSome_iff_exists.mp hId
    obtain ⟨⟨t, reply⟩, hCommand⟩ := (controlCommand_some_iff hLength).mpr hReadable
    have hInterpret : interpretControl env message s = some (.object members, t, reply) := by
      rw [interpretControl, hParse]
      simp only [hCommand]
      rfl
    have hAnswers := controlCommand_answers hCommand
    have hSocket : t.controlSocket = s.controlSocket := controlCommand_controlSocket hCommand
    rw [Answers] at hAnswers
    split at hAnswers
    · next hCarries =>
        obtain ⟨sent, hType, hHandle⟩ := handleControlMessage_of_reply hInterpret hAnswers hId
        refine ⟨_, sent, hHandle, by rw [hSocket], ?_⟩
        rw [hParse, Option.any_some, if_pos hCarries]
        exact hType
    · next hCarries =>
        obtain ⟨sent, hType, hHandle⟩ := handleControlMessage_of_reply hInterpret hAnswers.1 hId
        refine ⟨_, sent, hHandle, by rw [hSocket], ?_⟩
        rw [hParse, Option.any_some, if_neg hCarries]
        refine ⟨hType, ?_⟩
        rw [show t = s from hAnswers.2]

section Reachable

variable {env : Environment} {config : EigerFanConfig}

/-- Between the sends of the rx thread, too, there is a consumer for each rank. -/
theorem installed_step {w w' : System} {event : SystemEvent}
    (h : Installed config w.fan ∧ w.rx.Uses Routine anything)
    (hStep : w.step env event = some w') :
    Installed config w'.fan ∧ w'.rx.Uses Routine anything := by
  obtain ⟨hFan, hRx⟩ := h
  have hKeep : ∀ action (s t : EigerFan) (reply : action.Reply), Routine action →
      Installed config s → answer env action s = some (t, reply) → Installed config t :=
    fun action s t reply hRoutine hInstalled hAnswer =>
      hInstalled.frame (.of_routine action s t reply hRoutine hAnswer)
  cases event with
  | main event =>
      rw [System.step] at hStep
      split at hStep
      · obtain ⟨fan, hMain, rfl⟩ := Option.map_eq_some_iff.mp hStep
        exact ⟨hFan.operate hMain, hRx⟩
      · cases hStep
  | startRx =>
      obtain ⟨fan, hStart, rfl⟩ := Option.map_eq_some_iff.mp hStep
      exact ⟨hFan.operate hStart, hRx⟩
  | arrive message =>
      obtain ⟨fan, hArrive, rfl⟩ := Option.map_eq_some_iff.mp hStep
      exact ⟨hFan.operate hArrive, hRx⟩
  | begin =>
      rw [System.step] at hStep
      split at hStep
      · cases hStep
      · cases hStep
        exact (handleRxSocket_uses env).settle_keep (answer env) hKeep hidden hFan
  | send =>
      rw [System.step] at hStep
      split at hStep
      · next action next hThread =>
          split at hStep
          · cases hStep
          · obtain ⟨⟨fan, reply⟩, hAnswer, rfl⟩ := Option.map_eq_some_iff.mp hStep
            rw [hThread] at hRx
            exact (hRx.2 reply).settle_keep (answer env) hKeep hidden
              (hKeep action _ _ reply hRx.1 hFan hAnswer)
      · cases hStep

end Reachable

/-- In every reachable state, between any two sends of the rx thread, the fan replies
as it should exactly to the control messages it can read. -/
theorem replies_iff_readable {env : Environment} {vm : Options} {events : List SystemEvent}
    {w : System} (message idMessage : Bytes)
    (hRun : Run (System.step env) always (System.initial (parseArguments vm)) events w) :
    Replies env message idMessage w.fan ↔ ControlReadable env w.fan message := by
  let inv := fun w : System =>
    Installed (parseArguments vm) w.fan ∧ w.rx.Uses Routine (anything : Unit → Prop)
  have hInit : inv (System.initial (parseArguments vm)) :=
    ⟨installed_initial (parseArguments_int32 vm).2, trivial⟩
  have hInstalled := (hRun.invariant hInit fun _ _ _ h _ hStep => installed_step h hStep).1
  refine replies_iff_readable_of_length ?_
  rw [hInstalled.consumers_length, hInstalled.numConsumers]

/-- A header has been sent to both consumers, and one part of an image to the first. -/
def imagePartSent : List SystemEvent :=
  [.main (.monitor zmqEventAccepted 0), .main (.monitor zmqEventAccepted 1), .startRx,
    .arrive [objectText settingsHeader], .begin] ++ List.replicate 3 .send ++
    [.arrive [objectText firstImage, [1], [2], [3]], .begin, .send]

/-- An offset and a block size are configured in the middle of an image. -/
theorem replies_to_settings :
    ∃ w, Run (System.step settingsEnvironment) always
        (System.initial (parseArguments { defaultOptions with consumers := 2 })) imagePartSent w ∧
      w.partsSent = 1 ∧ w.idle = false ∧ Replies settingsEnvironment settingsCommand [7] w.fan := by
  have hSeen : (exec (System.step settingsEnvironment)
      (System.initial (parseArguments { defaultOptions with consumers := 2 }))
        imagePartSent).any (fun w => w.partsSent == 1 && !w.idle) = true := by
    decide +kernel
  obtain ⟨w, hExec, hSent⟩ := (Option.any_eq_true _ _).mp hSeen
  rw [Bool.and_eq_true, Bool.not_eq_true'] at hSent
  have hRun := run_always_iff.mpr hExec
  refine ⟨w, hRun, eq_of_beq hSent.1, hSent.2,
    (replies_iff_readable settingsCommand [7] hRun).mpr ⟨_, rfl, rfl, ?_, fun _ value hValue => ?_⟩⟩
  · rintro value ⟨⟩
    rfl
  · cases hValue
    refine ⟨_, rfl, fun _ hClose => ?_, ?_, ?_, ?_, ?_, fun hRemoval => ?_, ?_⟩
    · cases hClose
    · rintro value ⟨⟩
      rfl
    · rintro value ⟨⟩
    · rintro value ⟨⟩
    · rintro value ⟨⟩
    · cases hRemoval
    · rintro value ⟨⟩
      rfl

def statusCommand : Value :=
  .object [(controlCmdKey, .string controlStatus), (controlIDKey, .int 1)]

def statusEnvironment : Environment := .ofTexts [(objectText statusCommand, statusCommand)]

/-- A text that is no JSON gets no reply: it ends the process, at any time. -/
theorem no_reply_to_text :
    Run (System.step statusEnvironment) always (System.initial (parseArguments defaultOptions)) []
      (System.initial (parseArguments defaultOptions)) ∧
    statusEnvironment.parse (cString (bytes "status")) = none ∧
    handleControlMessage statusEnvironment (bytes "status") [7]
      (initial (parseArguments defaultOptions)) = none ∧
    ¬ Replies statusEnvironment (bytes "status") [7] (initial (parseArguments defaultOptions)) := by
  refine ⟨.nil _, by decide, by decide, ?_⟩
  rintro ⟨t, reply, hHandle, _⟩
  cases hHandle

end Eiger.Fan
