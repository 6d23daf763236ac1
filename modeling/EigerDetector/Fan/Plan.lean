import EigerDetector.Fan.Stream

/-! Every handler first works on its own socket and members and only then
sends. This module splits it at that point: a preparation no other thread can
observe decides on a plan, and the plan is what gets sent. -/
namespace Eiger.Fan

open CharArrays Rapidjson FixedWidth Threads Rx Multipart

/-- The sends of one message: none, all parts to everyone, or the parts one by
one to the dispatched consumer. -/
inductive Sends where
  | nothing
  | broadcast (parts : List Bytes)
  | image (parts : List Bytes)

/-- What is left of a handler after its preparation. -/
structure Plan where
  sends : Sends
  updates : List (EigerFan → EigerFan)

namespace Plan

def send : Sends → Rx Unit
  | .nothing => .done ()
  | .broadcast parts => sendToAll (frame parts)
  | .image parts => sendImageParts (frame parts)

def update : List (EigerFan → EigerFan) → Rx Unit
  | [] => .done ()
  | f :: fs => do
      assign f
      update fs

def execute (plan : Plan) : Rx Unit := do
  send plan.sends
  update plan.updates

/-- Add what the caller does after the handler. -/
def andThen (plan : Plan) (f : EigerFan → EigerFan) : Plan :=
  { plan with updates := plan.updates ++ [f] }

theorem update_append (fs : List (EigerFan → EigerFan)) (f : EigerFan → EigerFan) :
    update (fs ++ [f]) = (update fs >>= fun _ => assign f) := by
  induction fs with
  | nil => rfl
  | cons g fs ih =>
      rw [List.cons_append, update, update, ih, Program.bind_assoc]

theorem execute_andThen (plan : Plan) (f : EigerFan → EigerFan) :
    (plan.andThen f).execute = (plan.execute >>= fun _ => assign f) := by
  rw [execute, execute, andThen, update_append, Program.bind_assoc]

end Plan

open Plan

def markState (state : EigerFanState) (s : EigerFan) : EigerFan := { s with state := state }

/-- Nothing is sent, and the message leaves no further trace. -/
def rejected : Plan := ⟨.nothing, []⟩

def headerSent (parts : List Bytes) : Plan := ⟨.broadcast parts, [markState .dstrHeader]⟩

def prepareDetailedHeader (newPart1message : Bytes) (expected : Nat) : Rx Plan := do
  match ← recvHeaderParts 1 expected with
  | none => pure rejected
  | some parts =>
      if ← moreParts then
        let messageAppendix ← recv
        writeMessageToFile messageAppendix (bytes "start_appendix")
        pure (headerSent (newPart1message :: parts ++ [messageAppendix]))
      else pure (headerSent (newPart1message :: parts))

def prepareGlobalHeader (env : Environment) : Rx Plan := do
  let newPart1message ← addAcquisitionIDToPart1 env
  let s ← members
  let series ← access ((s.jsonDocument.member seriesKey).bind Value.getInt)
  assign fun s => { s with currentSeries := series }
  let headerDetail ← access ((s.jsonDocument.member headerDetailKey).bind Value.getString)
  writeMessageToFile newPart1message (bytes "start_0")
  if headerDetail = headerDetailNone then
    if ← moreParts then
      let messageAppendix ← recv
      writeMessageToFile messageAppendix (bytes "start_appendix")
      pure (headerSent [newPart1message, messageAppendix])
    else pure (headerSent [newPart1message])
  else if headerDetail = headerDetailBasic then
    prepareDetailedHeader newPart1message 1
  else if headerDetail = headerDetailAll then
    prepareDetailedHeader newPart1message 7
  else pure ⟨.nothing, [markState .dstrHeader]⟩

def imageSent (parts : List Bytes) : Plan := ⟨.image parts, [markState .dstrImage]⟩

def prepareImageData (env : Environment) (frameNumber : Int) : Rx Plan := do
  if ← moreParts then
    let newPart1message ← addAcquisitionIDToPart1 env
    let messagePart2 ← recv
    if ← moreParts then
      let messagePart3 ← recv
      if ← moreParts then
        let messagePart4 ← recv
        writeMessageToFile newPart1message (imageFile frameNumber "0")
        writeMessageToFile messagePart2 (imageFile frameNumber "1")
        writeMessageToFile messagePart3 (imageFile frameNumber "2")
        writeMessageToFile messagePart4 (imageFile frameNumber "3")
        if ← moreParts then
          let messageAppendix ← recv
          writeMessageToFile messageAppendix (imageFile frameNumber "appendix")
          pure (imageSent [newPart1message, messagePart2, messagePart3, messagePart4,
            messageAppendix])
        else pure (imageSent [newPart1message, messagePart2, messagePart3, messagePart4])
      else pure rejected
    else pure rejected
  else pure rejected

def prepareEndOfSeries (env : Environment) : Rx Plan := do
  let newPart1message ← addAcquisitionIDToPart1 env
  writeMessageToFile newPart1message (bytes "end")
  pure ⟨.broadcast [newPart1message], [markState .dstrEnd]⟩

/-- The latching at the start of an acquisition. -/
def latch (s : EigerFan) : EigerFan :=
  { s with
    currentOffset := s.configuredOffset
    configuredOffset := 0
    lastFrameSent := 0
    messagesReceived := 1
    numFramesSent := 0
    numFramesConsumed := s.numFramesConsumed.map fun _ => 0
    currentAcquisitionID := s.configuredAcquisitionID }

/-- The assignments of `latch` one by one, as the source makes them. -/
def latching : Rx Unit := do
  assign fun s => { s with currentOffset := s.configuredOffset }
  assign fun s => { s with configuredOffset := 0 }
  assign fun s => { s with lastFrameSent := 0 }
  assign fun s => { s with messagesReceived := 1 }
  assign fun s => { s with numFramesSent := 0 }
  assign fun s => { s with numFramesConsumed := s.numFramesConsumed.map fun _ => 0 }
  assign fun s => { s with currentAcquisitionID := s.configuredAcquisitionID }

def prepare (env : Environment) (message : Bytes) : Rx Plan :=
  match env.parse (cString message) with
  | none => pure rejected
  | some doc => do
      assign fun s => { s with jsonDocument := doc }
      let htype ← access ((doc.member headerTypeKey).bind Value.getString)
      if htype = globalHeaderType then
        latching
        prepareGlobalHeader env
      else if htype = imageHeaderType then
        let frame ← access ((doc.member frameKey).bind Value.getInt64)
        let s ← members
        let index ← access (dispatchIndex frame s.currentOffset s.config.blockSize
          s.config.numConsumers)
        assign fun s => { s with currentConsumerIndexToSendTo := index }
        return (← prepareImageData env frame).andThen (countImage frame)
      else if htype = endHeaderType then
        return (← prepareEndOfSeries env).andThen (markState .waitingStream)
      else pure rejected

theorem ite_bind {A B : Type} (c : Prop) [Decidable c] (p q : Rx A) (f : A → Rx B) :
    ((if c then p else q) >>= f) = if c then p >>= f else q >>= f := by
  split <;> rfl

theorem handleDetailedHeader_eq (newPart1message : Bytes) (expected : Nat) :
    handleDetailedHeader newPart1message expected =
      prepareDetailedHeader newPart1message expected >>= execute := by
  rw [handleDetailedHeader, prepareDetailedHeader, Program.bind_assoc]
  congr 1
  funext parts
  cases parts with
  | none => rfl
  | some parts =>
      simp only [Program.bind_assoc, ite_bind]
      rfl

theorem handleGlobalHeaderMessage_eq (env : Environment) :
    handleGlobalHeaderMessage env = prepareGlobalHeader env >>= execute := by
  simp only [handleGlobalHeaderMessage, prepareGlobalHeader, Program.bind_assoc, ite_bind,
    handleDetailedHeader_eq]
  rfl

theorem handleImageDataMessage_eq (env : Environment) (frameNumber : Int) :
    handleImageDataMessage env frameNumber = prepareImageData env frameNumber >>= execute := by
  simp only [handleImageDataMessage, prepareImageData, Program.bind_assoc, ite_bind]
  rfl

theorem handleEndOfSeriesMessage_eq (env : Environment) :
    handleEndOfSeriesMessage env = prepareEndOfSeries env >>= execute := by
  simp only [handleEndOfSeriesMessage, prepareEndOfSeries, Program.bind_assoc]
  rfl

/-- The handlers prepare and then execute what the preparation decided on. -/
theorem dispatchStreamMessage_eq (env : Environment) (message : Bytes) :
    dispatchStreamMessage env message = prepare env message >>= execute := by
  rw [dispatchStreamMessage, prepare]
  cases env.parse (cString message) with
  | none => rfl
  | some doc =>
      simp only [latching, handleGlobalHeaderMessage_eq, handleImageDataMessage_eq,
        handleEndOfSeriesMessage_eq, Program.bind_assoc, ite_bind, Program.pure_eq,
        Program.done_bind, execute_andThen]
      rfl

end Eiger.Fan
