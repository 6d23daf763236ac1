import EigerDetector.Fan.Control
import EigerDetector.Fan.Plan
import EigerDetector.Library.Transition

/-! The fan as a whole: the main thread and the rx thread over the same members,
with each handler as one step. -/
namespace Eiger.Fan

open CharArrays Rapidjson FixedWidth Threads Rx Transition

/-- The assignments to members in the code of the rx thread. -/
inductive Assigned : (EigerFan → EigerFan) → Prop where
  | jsonDocument (doc : Value) : Assigned fun s => { s with jsonDocument := doc }
  | currentOffset : Assigned fun s => { s with currentOffset := s.configuredOffset }
  | configuredOffset : Assigned fun s => { s with configuredOffset := 0 }
  | lastFrameSent : Assigned fun s => { s with lastFrameSent := 0 }
  | messagesReceived : Assigned fun s => { s with messagesReceived := 1 }
  | numFramesSent : Assigned fun s => { s with numFramesSent := 0 }
  | numFramesConsumed :
      Assigned fun s => { s with numFramesConsumed := s.numFramesConsumed.map fun _ => 0 }
  | currentAcquisitionID :
      Assigned fun s => { s with currentAcquisitionID := s.configuredAcquisitionID }
  | currentSeries (series : Int) : Assigned fun s => { s with currentSeries := series }
  | currentConsumerIndexToSendTo (index : Int) :
      Assigned fun s => { s with currentConsumerIndexToSendTo := index }
  | state (state : EigerFanState) : Assigned (markState state)
  | countImage (frame : Int) : Assigned (countImage frame)

/-- No other thread can tell that the action was performed. -/
def hidden : RxAction → Bool
  | .forward _ => false
  | .sendTo _ _ => false
  | .sendMessageToSingleConsumer _ _ => false
  | _ => true

/-- The actions of the rx thread: any but an assignment that is not in the code. -/
def Routine : RxAction → Prop
  | .assign update => Assigned update
  | _ => True

/-- The actions of a preparation. -/
def Silent (action : RxAction) : Prop := Routine action ∧ hidden action = true

section Actions

variable (env : Environment)

/-- The plans of a preparation only set the state and count the image. -/
def Plan.Proper (plan : Plan) : Prop := ∀ f ∈ plan.updates, Assigned f

abbrev anything {A : Type} : A → Prop := fun _ => True

theorem members_uses : members.Uses Silent anything := .perform ⟨trivial, rfl⟩

theorem recv_uses : recv.Uses Silent anything := .perform ⟨trivial, rfl⟩

theorem assign_uses {update : EigerFan → EigerFan} (h : Assigned update) :
    (assign update).Uses Silent anything := .perform ⟨h, rfl⟩

theorem access_uses {A : Type} (a : Option A) : (access a).Uses Silent anything := by
  cases a <;> trivial

theorem unlessThrown_uses (returned : Bool) : (unlessThrown returned).Uses Silent anything := by
  cases returned <;> trivial

theorem moreParts_uses : moreParts.Uses Silent anything :=
  .seq (.perform ⟨trivial, rfl⟩) fun _ => .seq members_uses fun _ => trivial

theorem writeMessageToFile_uses (message filename : Bytes) :
    (writeMessageToFile message filename).Uses Silent anything :=
  .seq (.perform ⟨trivial, rfl⟩) fun returned => unlessThrown_uses returned

theorem addAcquisitionIDToPart1_uses : (addAcquisitionIDToPart1 env).Uses Silent anything := by
  refine .seq members_uses fun s => .seq (access_uses _) fun doc => ?_
  exact .seq (assign_uses (.jsonDocument doc)) fun _ => trivial

theorem recvHeaderParts_uses (first count : Nat) :
    (recvHeaderParts first count).Uses Silent anything := by
  induction count generalizing first with
  | zero => trivial
  | succ count ih =>
      refine .seq moreParts_uses fun more => ?_
      split
      · refine .seq recv_uses fun part => .seq (writeMessageToFile_uses _ _) fun _ => ?_
        refine .seq (ih (first + 1)) fun parts => ?_
        cases parts <;> trivial
      · trivial

theorem rejected_proper : rejected.Proper := fun _ hf => absurd hf List.not_mem_nil

theorem marked_proper (sends : Sends) (state : EigerFanState) :
    (Plan.mk sends [markState state]).Proper := by
  intro f hf
  rw [List.mem_singleton.mp hf]
  exact .state state

theorem Plan.Proper.andThen {plan : Plan} {f : EigerFan → EigerFan} (h : plan.Proper)
    (hf : Assigned f) : (plan.andThen f).Proper := by
  intro g hg
  rcases List.mem_append.mp hg with hOld | hNew
  · exact h g hOld
  · rw [List.mem_singleton.mp hNew]
    exact hf

theorem prepareDetailedHeader_uses (part1 : Bytes) (expected : Nat) :
    (prepareDetailedHeader part1 expected).Uses Silent Plan.Proper := by
  refine .seq (recvHeaderParts_uses 1 expected) fun parts => ?_
  cases parts with
  | none => exact rejected_proper
  | some parts =>
      refine .seq moreParts_uses fun more => ?_
      split
      · refine .seq recv_uses fun part => .seq (writeMessageToFile_uses _ _) fun _ => ?_
        exact marked_proper _ _
      · exact marked_proper _ _

theorem prepareGlobalHeader_uses : (prepareGlobalHeader env).Uses Silent Plan.Proper := by
  refine .seq (addAcquisitionIDToPart1_uses env) fun part1 => .seq members_uses fun s => ?_
  refine .seq (access_uses _) fun series => ?_
  refine .seq (assign_uses (.currentSeries series)) fun _ => ?_
  refine .seq (access_uses _) fun detail => .seq (writeMessageToFile_uses _ _) fun _ => ?_
  split
  · refine .seq moreParts_uses fun more => ?_
    split
    · refine .seq recv_uses fun part => .seq (writeMessageToFile_uses _ _) fun _ => ?_
      exact marked_proper _ _
    · exact marked_proper _ _
  · split
    · exact prepareDetailedHeader_uses part1 1
    · split
      · exact prepareDetailedHeader_uses part1 7
      · exact marked_proper _ _

theorem prepareImageData_uses (frame : Int) :
    (prepareImageData env frame).Uses Silent Plan.Proper := by
  refine .seq moreParts_uses fun more => ?_
  split
  · refine .seq (addAcquisitionIDToPart1_uses env) fun part1 => ?_
    refine .seq recv_uses fun part2 => .seq moreParts_uses fun more => ?_
    split
    · refine .seq recv_uses fun part3 => .seq moreParts_uses fun more => ?_
      split
      · refine .seq recv_uses fun part4 => .seq (writeMessageToFile_uses _ _) fun _ => ?_
        refine .seq (writeMessageToFile_uses _ _) fun _ => ?_
        refine .seq (writeMessageToFile_uses _ _) fun _ => ?_
        refine .seq (writeMessageToFile_uses _ _) fun _ => .seq moreParts_uses fun more => ?_
        split
        · refine .seq recv_uses fun part => .seq (writeMessageToFile_uses _ _) fun _ => ?_
          exact marked_proper _ _
        · exact marked_proper _ _
      · exact rejected_proper
    · exact rejected_proper
  · exact rejected_proper

theorem prepareEndOfSeries_uses : (prepareEndOfSeries env).Uses Silent Plan.Proper := by
  refine .seq (addAcquisitionIDToPart1_uses env) fun part1 => ?_
  exact .seq (writeMessageToFile_uses _ _) fun _ => marked_proper _ _

theorem latching_uses : latching.Uses Silent anything := by
  refine .seq (assign_uses .currentOffset) fun _ => ?_
  refine .seq (assign_uses .configuredOffset) fun _ => ?_
  refine .seq (assign_uses .lastFrameSent) fun _ => ?_
  refine .seq (assign_uses .messagesReceived) fun _ => ?_
  refine .seq (assign_uses .numFramesSent) fun _ => ?_
  refine .seq (assign_uses .numFramesConsumed) fun _ => ?_
  exact assign_uses .currentAcquisitionID

/-- A preparation stays hidden. -/
theorem prepare_uses (message : Bytes) : (prepare env message).Uses Silent Plan.Proper := by
  rw [prepare]
  split
  · exact rejected_proper
  · next doc _ =>
      refine .seq (assign_uses (.jsonDocument doc)) fun _ => ?_
      refine .seq (access_uses _) fun htype => ?_
      split
      · exact .seq latching_uses fun _ => prepareGlobalHeader_uses env
      · split
        · refine .seq (access_uses _) fun frame => .seq members_uses fun s => ?_
          refine .seq (access_uses _) fun index => ?_
          refine .seq (assign_uses (.currentConsumerIndexToSendTo index)) fun _ => ?_
          refine .bind (prepareImageData_uses env frame) fun plan hPlan => ?_
          exact hPlan.andThen (.countImage frame)
        · split
          · refine .bind (prepareEndOfSeries_uses env) fun plan hPlan => ?_
            exact hPlan.andThen (.state .waitingStream)
          · exact rejected_proper

theorem update_uses {fs : List (EigerFan → EigerFan)} (h : ∀ f ∈ fs, Assigned f) :
    (Plan.update fs).Uses Silent anything := by
  induction fs with
  | nil => trivial
  | cons f fs ih =>
      refine .seq (assign_uses (h f List.mem_cons_self)) fun _ => ih fun g hg => ?_
      exact h g (List.mem_cons_of_mem _ hg)

/-- Draining only tests for parts and receives them. -/
theorem drainSurplusParts_within {allowed : RxAction → Prop} (hFetch : allowed .getsockopt)
    (hTest : allowed .members) (hReceive : allowed .recv) (fuel : Nat) :
    (drainSurplusParts fuel).Uses allowed anything := by
  induction fuel with
  | zero => trivial
  | succ fuel ih =>
      have hMore : moreParts.Uses allowed anything :=
        .seq (.perform hFetch) fun _ => .seq (.perform hTest) fun _ => trivial
      refine .seq hMore fun more => ?_
      split
      · exact .seq (.perform hReceive) fun _ => ih
      · trivial

theorem drainSurplusParts_uses (fuel : Nat) :
    (drainSurplusParts fuel).Uses Silent anything :=
  drainSurplusParts_within ⟨trivial, rfl⟩ ⟨trivial, rfl⟩ ⟨trivial, rfl⟩ fuel

theorem sendToRanks_uses (parts : List (Bytes × Bool)) (ranks : List Int) :
    (sendToRanks parts ranks).Uses Routine anything := by
  induction ranks with
  | nil => trivial
  | cons rank ranks ih =>
      refine .seq (.perform trivial) fun returned => ?_
      exact .seq ((unlessThrown_uses returned).mono fun _ h => h.1) fun _ => ih

theorem sendToAll_uses (parts : List (Bytes × Bool)) :
    (sendToAll parts).Uses Routine anything := by
  refine .seq (members_uses.mono fun _ h => h.1) fun _ => ?_
  exact .seq (.perform trivial) fun _ => sendToRanks_uses parts _

theorem sendImageParts_uses (parts : List (Bytes × Bool)) :
    (sendImageParts parts).Uses Routine anything := by
  induction parts with
  | nil => trivial
  | cons part parts ih =>
      refine .seq (.seq (.perform trivial) fun returned => ?_) fun _ => ih
      exact (unlessThrown_uses returned).mono fun _ h => h.1

theorem execute_uses {plan : Plan} (h : plan.Proper) :
    plan.execute.Uses Routine anything := by
  refine .seq ?_ fun _ => (update_uses h).mono fun _ hSilent => hSilent.1
  cases plan.sends with
  | nothing => trivial
  | broadcast parts => exact sendToAll_uses _
  | image parts => exact sendImageParts_uses _

/-- The handler of a stream message performs routine actions only. -/
theorem handleStreamMessage_uses (fuel : Nat) (message : Bytes) :
    (handleStreamMessage env fuel message).Uses Routine anything := by
  refine .seq (.onFailure ?_ fun e => ?_) fun _ =>
    (drainSurplusParts_uses _).mono fun _ h => h.1
  · rw [dispatchStreamMessage_eq]
    exact .bind ((prepare_uses env message).mono fun _ h => h.1) fun plan hPlan =>
      execute_uses hPlan
  · cases e <;> trivial

theorem handleRxSocket_uses : (handleRxSocket env).Uses Routine anything := by
  refine .seq (members_uses.mono fun _ h => h.1) fun s => ?_
  exact .seq (recv_uses.mono fun _ h => h.1) fun message => handleStreamMessage_uses env _ message

end Actions

/-- What the rx thread can change of the members it shares with the main thread:
a header takes over the configured offset and ID, and clears the offset. -/
structure RxFrame (s t : EigerFan) : Prop where
  config : t.config = s.config
  connected : t.consumers.map EigerConsumer.connected = s.consumers.map EigerConsumer.connected
  configuredOffset : t.configuredOffset = s.configuredOffset ∨ t.configuredOffset = 0
  currentOffset : t.currentOffset = s.currentOffset ∨ t.currentOffset = s.configuredOffset ∨
    t.currentOffset = 0
  configuredAcquisitionID : t.configuredAcquisitionID = s.configuredAcquisitionID
  currentAcquisitionID : t.currentAcquisitionID = s.currentAcquisitionID ∨
    t.currentAcquisitionID = s.configuredAcquisitionID
  numConnectedForwardingSockets :
    t.numConnectedForwardingSockets = s.numConnectedForwardingSockets
  forwardStream : t.forwardStream = s.forwardStream
  devShmCache : t.devShmCache = s.devShmCache
  killRequested : t.killRequested = s.killRequested
  controlSocket : t.controlSocket = s.controlSocket

namespace RxFrame

theorem refl (s : EigerFan) : RxFrame s s :=
  ⟨rfl, rfl, .inl rfl, .inl rfl, rfl, .inl rfl, rfl, rfl, rfl, rfl, rfl⟩

theorem trans {s t u : EigerFan} (left : RxFrame s t) (right : RxFrame t u) : RxFrame s u where
  config := right.config.trans left.config
  connected := right.connected.trans left.connected
  configuredOffset := by
    rcases right.configuredOffset with h | h
    · rw [h]
      exact left.configuredOffset
    · exact .inr h
  currentOffset := by
    rcases right.currentOffset with h | h | h
    · rw [h]
      exact left.currentOffset
    · rw [h]
      exact .inr left.configuredOffset
    · exact .inr (.inr h)
  configuredAcquisitionID := right.configuredAcquisitionID.trans left.configuredAcquisitionID
  currentAcquisitionID := by
    rcases right.currentAcquisitionID with h | h
    · rw [h]
      exact left.currentAcquisitionID
    · exact .inr (h.trans left.configuredAcquisitionID)
  numConnectedForwardingSockets :=
    right.numConnectedForwardingSockets.trans left.numConnectedForwardingSockets
  forwardStream := right.forwardStream.trans left.forwardStream
  devShmCache := right.devShmCache.trans left.devShmCache
  killRequested := right.killRequested.trans left.killRequested
  controlSocket := right.controlSocket.trans left.controlSocket

theorem of_assigned {update : EigerFan → EigerFan} (h : Assigned update) (s : EigerFan) :
    RxFrame s (update s) := by
  cases h with
  | currentOffset => exact { refl s with currentOffset := .inr (.inl rfl) }
  | configuredOffset => exact { refl s with configuredOffset := .inr rfl }
  | currentAcquisitionID => exact { refl s with currentAcquisitionID := .inr rfl }
  | _ => exact { refl s with }

theorem of_forward (parts : List (Bytes × Bool)) (s : EigerFan) : RxFrame s (s.forward parts) := by
  unfold EigerFan.forward
  split
  · exact { refl s with }
  · exact refl s

theorem map_connected_modify (parts : List (Bytes × Bool)) (rank : Nat)
    (consumers : List EigerConsumer) :
    (consumers.modify rank (EigerConsumer.send parts)).map EigerConsumer.connected =
      consumers.map EigerConsumer.connected := by
  apply List.ext_getElem?
  intro i
  rw [List.getElem?_map, List.getElem?_modify, List.getElem?_map]
  cases consumers[i]? with
  | none => split <;> rfl
  | some c =>
      split
      · simp only [Option.map_some, Option.map_eq_map, Option.some.injEq]
        unfold EigerConsumer.send
        split <;> rfl
      · rfl

theorem of_sendTo {s t : EigerFan} {rank : Int} {parts : List (Bytes × Bool)}
    (h : s.sendTo rank parts = some t) : RxFrame s t := by
  obtain ⟨c, _, rfl⟩ := Option.map_eq_some_iff.mp h
  exact { refl s with connected := map_connected_modify parts rank.toNat s.consumers }

theorem of_writeMessageToFile (env : Environment) (message filename : Bytes) (s : EigerFan) :
    RxFrame s (s.writeMessageToFile env message filename).1 := by
  unfold EigerFan.writeMessageToFile
  split
  · simp only
    split <;> exact { refl s with }
  · exact refl s

/-- Every routine action of the rx thread stays within the frame. -/
theorem of_routine {env : Environment} (action : RxAction) (s s' : EigerFan)
    (reply : action.Reply) (hRoutine : Routine action)
    (h : answer env action s = some (s', reply)) : RxFrame s s' := by
  cases action with
  | members => cases h; exact refl s
  | assign update =>
      cases h
      exact of_assigned hRoutine s
  | recv =>
      rw [answer] at h
      split at h
      · cases h
      · cases h
        exact { refl s with }
  | getsockopt => cases h; exact { refl s with }
  | writeMessageToFile message filename =>
      have hWritten := of_writeMessageToFile env message filename s
      rw [Option.some.inj h] at hWritten
      exact hWritten
  | forward parts => cases h; exact of_forward parts s
  | sendTo rank parts =>
      rw [answer] at h
      split at h
      · cases h
        exact refl s
      · next sent hSend =>
          cases h
          exact of_sendTo hSend
  | sendMessageToSingleConsumer message sndmore =>
      rw [answer, Option.some.injEq] at h
      unfold EigerFan.sendToSingle at h
      simp only at h
      split at h
      · cases h
        exact of_forward _ s
      · next sent hSend =>
          cases h
          exact (of_forward _ s).trans (of_sendTo hSend)

end RxFrame

/-- A program of routine actions stays within the frame, however it ends. -/
theorem run_frame {env : Environment} {A : Type} {p : Rx A} {post : A → Prop}
    (h : p.Uses Routine post) (s : EigerFan) :
    RxFrame s (p.run (answer env) s).state :=
  h.run (fun action t t' reply hRoutine hFrame hAnswer =>
    hFrame.trans (.of_routine action t t' reply hRoutine hAnswer)) (.refl s)

theorem receive_frame (env : Environment) (s : EigerFan) : RxFrame s (receive env s).state :=
  run_frame (handleRxSocket_uses env) s

/-- One event of the whole fan. -/
inductive FanEvent where
  | main (event : MainEvent)
  | startRx
  | arrive (message : List Bytes)
  | receive

/-- The main thread handles events until a kill is requested. The rx thread is
started when all consumers are connected, and from then on whole messages of
the detector arrive at its socket and are handled one by one. -/
def operate (env : Environment) (s : EigerFan) : FanEvent → Option EigerFan
  | .main event => if s.killRequested then none else mainStep env s event
  | .startRx =>
      if s.state = .waitingConsumers ∧ s.expectedConsumersConnected then
        some { s with state := .waitingStream }
      else none
  | .arrive message =>
      if s.state = .waitingConsumers then none
      else some { s with
        rxSocket := { s.rxSocket with queue := s.rxSocket.queue ++ Multipart.frame message } }
  | .receive =>
      if s.state = .waitingConsumers then none
      else match receive env s with
        | .returned t _ => some t
        | _ => none

/-- What start-up and control messages promise of the numbers in the dispatch. -/
structure Installed (config : EigerFanConfig) (s : EigerFan) : Prop where
  numConsumers : s.config.numConsumers = config.numConsumers
  consumers_length : s.consumers.length = config.numConsumers.toNat
  blockSize : IsInt32 s.config.blockSize
  configuredOffset : IsInt32 s.configuredOffset
  currentOffset : IsInt32 s.currentOffset

theorem isInt32_zero : IsInt32 0 := ⟨by decide, by decide⟩

theorem installed_initial {config : EigerFanConfig} (h : IsInt32 config.blockSize) :
    Installed config (initial config) :=
  ⟨rfl, List.length_replicate, h, isInt32_zero, isInt32_zero⟩

namespace Installed

variable {config : EigerFanConfig} {s t : EigerFan}

theorem frame (h : Installed config s) (hFrame : RxFrame s t) : Installed config t := by
  have hLength : t.consumers.length = s.consumers.length := by
    simpa using congrArg List.length hFrame.connected
  refine ⟨?_, hLength.trans h.consumers_length, ?_, ?_, ?_⟩
  · rw [hFrame.config, h.numConsumers]
  · rw [hFrame.config]
    exact h.blockSize
  · rcases hFrame.configuredOffset with hOffset | hOffset
    · rw [hOffset]
      exact h.configuredOffset
    · rw [hOffset]
      exact isInt32_zero
  · rcases hFrame.currentOffset with hOffset | hOffset | hOffset
    · rw [hOffset]
      exact h.currentOffset
    · rw [hOffset]
      exact h.configuredOffset
    · rw [hOffset]
      exact isInt32_zero

end Installed

theorem sendFabricatedEndMessage_frame {env : Environment} {s t : EigerFan}
    (h : s.sendFabricatedEndMessage env = some t) : RxFrame s t := by
  unfold EigerFan.sendFabricatedEndMessage at h
  simp only at h
  split at h
  · next u _ hRun =>
      have hFrame : RxFrame s ((sendMessageToAllConsumers (env.write (fabricatedEnd s.currentSeries
          s.currentAcquisitionID)) false).run (answer env) s).state :=
        run_frame (sendToAll_uses _) s
      rw [hRun] at hFrame
      cases h
      exact hFrame.trans { RxFrame.refl u with }
  · cases h

theorem closeStream_frame {env : Environment} {s t : EigerFan}
    (h : s.closeStream env = some t) : RxFrame s t := by
  unfold EigerFan.closeStream at h
  split at h
  · exact sendFabricatedEndMessage_frame h
  · cases h
    exact RxFrame.refl s

namespace Installed

variable {env : Environment} {config : EigerFanConfig} {s t : EigerFan}

theorem setDevShmCache {value : Bool} (h : Installed config s)
    (ht : s.setDevShmCache env value = some t) : Installed config t := by
  unfold EigerFan.setDevShmCache at ht
  simp only at ht
  split at ht
  · cases ht
    exact { h with }
  · unfold EigerFan.removeCache at ht
    split at ht
    · cases ht
      exact { h with }
    · cases ht

/-- The promises of the start-up survive every configure command. -/
theorem configure {params reply : Value} (h : Installed config s)
    (ht : configure env params s = some (t, reply)) : Installed config t := by
  obtain ⟨closed, hClosed, ht⟩ := Option.bind_eq_some_iff.mp ht
  obtain ⟨moved, hMoved, ht⟩ := Option.bind_eq_some_iff.mp ht
  obtain ⟨named, hNamed, ht⟩ := Option.bind_eq_some_iff.mp ht
  obtain ⟨forwarded, hForwarded, ht⟩ := Option.bind_eq_some_iff.mp ht
  obtain ⟨cached, hCached, hBlock⟩ := Option.bind_eq_some_iff.mp ht
  have hClosed : Installed config closed.1 := by
    rcases configureShutdown_cases hClosed with ⟨rfl, _⟩ | ⟨rfl, _⟩ | ⟨ended, _, _, hEnded, rfl⟩
    · exact h
    · exact { h with }
    · exact { h.frame (closeStream_frame hEnded) with }
  have hMoved : Installed config moved.1 := by
    rcases configureParam_cases hMoved with rfl | ⟨offset, hRead, hUse, _⟩
    · exact hClosed
    · obtain ⟨value, _, hValue⟩ := Option.bind_eq_some_iff.mp hRead
      rw [← Option.some.inj hUse]
      exact { hClosed with configuredOffset := Value.getInt_range hValue }
  have hNamed : Installed config named.1 := by
    rcases configureParam_cases hNamed with rfl | ⟨acquisitionID, _, hUse, _⟩
    · exact hMoved
    · rw [← Option.some.inj hUse]
      exact { hMoved with }
  have hForwarded : Installed config forwarded.1 := by
    rcases configureParam_cases hForwarded with rfl | ⟨value, _, hUse, _⟩
    · exact hNamed
    · rw [← Option.some.inj hUse]
      exact { hNamed with }
  have hCached : Installed config cached.1 := by
    rcases configureParam_cases hCached with rfl | ⟨value, _, hUse, _⟩
    · exact hForwarded
    · exact hForwarded.setDevShmCache hUse
  rcases configureParam_cases hBlock with hSame | ⟨block, hRead, hUse, _⟩
  · rw [← hSame] at hCached
    exact hCached
  · obtain ⟨value, _, hValue⟩ := Option.bind_eq_some_iff.mp hRead
    cases hUse
    exact { hCached with blockSize := Value.getInt_range hValue }

theorem control {message idMessage : Bytes} (h : Installed config s)
    (ht : handleControlMessage env message idMessage s = some t) : Installed config t := by
  obtain ⟨u, replies, rfl, ⟨rfl, _⟩ | ⟨params, reply, _, hConfigure⟩⟩ :=
    handleControlMessage_cases ht
  · exact { h with }
  · exact { h.configure hConfigure with }

theorem mainStep {event : MainEvent} (h : Installed config s) (ht : mainStep env s event = some t) :
    Installed config t := by
  cases event with
  | control message idMessage => exact h.control ht
  | monitor event rank =>
      cases ht
      unfold handleMonitorMessage
      simp only
      split
      · exact { h with consumers_length := (List.length_modify ..).trans h.consumers_length }
      · split
        · exact { h with consumers_length := (List.length_modify ..).trans h.consumers_length }
        · exact { h with }
  | forwardMonitor event =>
      cases ht
      unfold handleForwardMonitorMessage
      split
      · exact { h with }
      · split <;> exact { h with }

theorem operate {event : FanEvent} (h : Installed config s) (ht : operate env s event = some t) :
    Installed config t := by
  cases event with
  | main event =>
      rw [Fan.operate] at ht
      split at ht
      · cases ht
      · exact h.mainStep ht
  | startRx =>
      rw [Fan.operate] at ht
      split at ht
      · cases ht
        exact { h with }
      · cases ht
  | arrive message =>
      rw [Fan.operate] at ht
      split at ht
      · cases ht
      · cases ht
        exact { h with }
  | receive =>
      rw [Fan.operate] at ht
      split at ht
      · cases ht
      · have hFrame := receive_frame env s
        split at ht
        · next u _ hReceive =>
            rw [hReceive] at hFrame
            cases ht
            exact h.frame hFrame
        · cases ht

end Installed

/-- In every reachable state the dispatch works on the consumers there are, with
a block size and offsets of 32 bits. -/
theorem installed_reachable {env : Environment} {config : EigerFanConfig} {events : List FanEvent}
    {s : EigerFan} (hBlock : IsInt32 config.blockSize)
    (hRun : Run (operate env) always (initial config) events s) : Installed config s :=
  hRun.invariant (installed_initial hBlock) fun _ _ _ h _ ht => h.operate ht

end Eiger.Fan
