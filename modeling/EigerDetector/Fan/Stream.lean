import EigerDetector.Fan.State
import EigerDetector.Library.Multipart

/-! The code of the rx thread for one message of the detector stream. Logging is
left out. An exception is caught around the handlers; a failed assertion or a
faulting division ends the process. -/
namespace Eiger.Fan

open CharArrays Rapidjson FixedWidth Threads

/-- Why a handler did not return: a C++ exception, or the end of the process. -/
inductive Failure where
  | exception
  | abort
  deriving DecidableEq, Repr

/-- The atomic actions of the rx thread. -/
inductive RxAction where
  | members
  | assign (update : EigerFan → EigerFan)
  | recv
  | getsockopt
  | writeMessageToFile (message filename : Bytes)
  | forward (parts : List (Bytes × Bool))
  | sendTo (rank : Int) (parts : List (Bytes × Bool))
  | sendMessageToSingleConsumer (message : Bytes) (sndmore : Bool)

/-- What an action answers. A send or a cache write answers false if it throws. -/
@[reducible] def RxAction.Reply : RxAction → Type
  | members => EigerFan
  | assign _ => Unit
  | recv => Bytes
  | getsockopt => Unit
  | writeMessageToFile _ _ => Bool
  | forward _ => Unit
  | sendTo _ _ => Bool
  | sendMessageToSingleConsumer _ _ => Bool

/-- The effect of one action. Receiving waits while the queue is empty. -/
def answer (env : Environment) : (action : RxAction) → EigerFan →
    Option (EigerFan × action.Reply)
  | .members, s => some (s, s)
  | .assign update, s => some (update s, ())
  | .recv, s =>
      match s.rxSocket.queue with
      | [] => none
      | (part, more) :: queue => some ({ s with rxSocket := ⟨queue, more⟩ }, part)
  | .getsockopt, s => some ({ s with more := if s.rxSocket.rcvMore then 1 else 0 }, ())
  | .writeMessageToFile message filename, s => some (s.writeMessageToFile env message filename)
  | .forward parts, s => some (s.forward parts, ())
  | .sendTo rank parts, s =>
      match s.sendTo rank parts with
      | none => some (s, false)
      | some sent => some (sent, true)
  | .sendMessageToSingleConsumer message sndmore, s => some (s.sendToSingle message sndmore)

abbrev Rx := Program RxAction RxAction.Reply Failure

namespace Rx

def perform (action : RxAction) : Rx action.Reply := Program.perform action

def members : Rx EigerFan := perform .members
def assign (update : EigerFan → EigerFan) : Rx Unit := perform (.assign update)
def recv : Rx Bytes := perform .recv

/-- `socket->getsockopt(ZMQ_RCVMORE, &more, &more_size)` and the test of `more`. -/
def moreParts : Rx Bool := do
  perform .getsockopt
  let s ← members
  pure (s.more = moreMessages)

/-- A rapidjson access; its assertion ends the process. -/
def access {A : Type} : Option A → Rx A
  | some a => .done a
  | none => .fail .abort

/-- Continue if the action did not throw. -/
def unlessThrown (returned : Bool) : Rx Unit :=
  if returned then .done () else .fail .exception

def writeMessageToFile (message filename : Bytes) : Rx Unit := do
  unlessThrown (← perform (.writeMessageToFile message filename))

end Rx

open Rx

/-- `PadInt`: at least six characters, filled with zeroes on the left. -/
def padInt (value : Int) : Bytes :=
  let digits := bytes (toString value)
  List.replicate (6 - digits.length) 48 ++ digits

/-- The cache file name of part `part` of an image. -/
def imageFile (frameNumber : Int) (part : String) : Bytes :=
  bytes "image_" ++ padInt (toInt32 frameNumber) ++ bytes "_" ++ bytes part

/-- The ranks in the order of the send loops: all but the last, then the last. -/
def sendOrder (numConsumersToSendTo : Int) : List Int :=
  (List.range (numConsumersToSendTo - 1).toNat).map Int.ofNat ++ [numConsumersToSendTo - 1]

/-- Give each rank in turn a copy of the parts. -/
def sendToRanks (parts : List (Bytes × Bool)) : List Int → Rx Unit
  | [] => .done ()
  | rank :: ranks => do
      unlessThrown (← perform (.sendTo rank parts))
      sendToRanks parts ranks

/-- The loop over forwarding socket and consumers both senders below share. -/
def sendToAll (parts : List (Bytes × Bool)) : Rx Unit := do
  let s ← members
  perform (.forward parts)
  sendToRanks parts (sendOrder s.config.numConsumers)

def sendMessageToAllConsumers (message : Bytes) (sndmore : Bool) : Rx Unit :=
  sendToAll [(message, sndmore)]

/-- `SendMessagesToAllConsumers`: all parts but the last go with `ZMQ_SNDMORE`. -/
def sendMessagesToAllConsumers (messageList : List Bytes) : Rx Unit :=
  sendToAll (Multipart.frame messageList)

def sendMessageToSingleConsumer (message : Bytes) (sndmore : Bool) : Rx Unit := do
  unlessThrown (← perform (.sendMessageToSingleConsumer message sndmore))

/-- The member the fan adds to part 1: the current acquisition ID as a string. -/
def withAcquisitionID (doc : Value) (acquisitionID : Bytes) : Option Value :=
  doc.addMember acquisitionIDKey (.string acquisitionID)

/-- `AddAcquisitionIDToPart1`: append the member to the parsed document and
serialise the result. -/
def addAcquisitionIDToPart1 (env : Environment) : Rx Bytes := do
  let s ← members
  let doc ← access (withAcquisitionID s.jsonDocument s.currentAcquisitionID)
  assign fun s => { s with jsonDocument := doc }
  pure (env.write doc)

/-- Receive parts `first + 1`, `first + 2`, ... of a global header, each of which
must be there. `none` is the early return on a missing part. -/
def recvHeaderParts (first : Nat) : Nat → Rx (Option (List Bytes))
  | 0 => pure (some [])
  | count + 1 => do
      if ← moreParts then
        let part ← recv
        writeMessageToFile part (bytes "start_" ++ bytes (toString first))
        match ← recvHeaderParts (first + 1) count with
        | none => pure none
        | some parts => pure (some (part :: parts))
      else pure none

/-- The end of `HandleGlobalHeaderMessage`. -/
def finishGlobalHeader : Rx Unit :=
  assign fun s => { s with state := .dstrHeader }

/-- Headers of detail basic and all: the expected parts, then an appendix if
there is one, then all of them to every consumer. -/
def handleDetailedHeader (newPart1message : Bytes) (expected : Nat) : Rx Unit := do
  match ← recvHeaderParts 1 expected with
  | none => pure ()
  | some parts =>
      if ← moreParts then
        let messageAppendix ← recv
        writeMessageToFile messageAppendix (bytes "start_appendix")
        sendMessagesToAllConsumers (newPart1message :: parts ++ [messageAppendix])
      else sendMessagesToAllConsumers (newPart1message :: parts)
      finishGlobalHeader

def handleGlobalHeaderMessage (env : Environment) : Rx Unit := do
  let newPart1message ← addAcquisitionIDToPart1 env
  let s ← members
  let series ← access ((s.jsonDocument.member seriesKey).bind Value.getInt)
  assign fun s => { s with currentSeries := series }
  let headerDetail ← access ((s.jsonDocument.member headerDetailKey).bind Value.getString)
  writeMessageToFile newPart1message (bytes "start_0")
  if headerDetail = headerDetailNone then
    if ← moreParts then
      let messageAppendix ← recv
      writeMessageToFile messageAppendix (bytes "start_appendix")
      sendMessagesToAllConsumers [newPart1message, messageAppendix]
    else sendMessageToAllConsumers newPart1message false
    finishGlobalHeader
  else if headerDetail = headerDetailBasic then
    handleDetailedHeader newPart1message 1
  else if headerDetail = headerDetailAll then
    handleDetailedHeader newPart1message 7
  else
    -- an unexpected detail is logged, and the header still counts as received
    finishGlobalHeader

/-- The part sends of one image, in order; the flag of the last one is 0. -/
def sendImageParts : List (Bytes × Bool) → Rx Unit
  | [] => .done ()
  | (part, sndmore) :: parts => do
      sendMessageToSingleConsumer part sndmore
      sendImageParts parts

def finishImageData : Rx Unit :=
  assign fun s => { s with state := .dstrImage }

def handleImageDataMessage (env : Environment) (frameNumber : Int) : Rx Unit := do
  if ← moreParts then
    let newPart1message ← addAcquisitionIDToPart1 env
    let messagePart2 ← recv
    if ← moreParts then
      let messagePart3 ← recv
      if ← moreParts then
        let messagePart4 ← recv
        writeMessageToFile newPart1message (imageFile frameNumber "0")
        writeMessageToFile messagePart2 (imageFile frameNumber "1")
        writeMessageToFile messagePart3 (imageFile frameNumber "2")
        writeMessageToFile messagePart4 (imageFile frameNumber "3")
        if ← moreParts then
          let messageAppendix ← recv
          writeMessageToFile messageAppendix (imageFile frameNumber "appendix")
          sendImageParts [(newPart1message, true), (messagePart2, true), (messagePart3, true),
            (messagePart4, true), (messageAppendix, false)]
        else
          sendImageParts [(newPart1message, true), (messagePart2, true), (messagePart3, true),
            (messagePart4, false)]
        finishImageData
      else pure ()
    else pure ()
  else pure ()

def handleEndOfSeriesMessage (env : Environment) : Rx Unit := do
  let newPart1message ← addAcquisitionIDToPart1 env
  writeMessageToFile newPart1message (bytes "end")
  sendMessageToAllConsumers newPart1message false
  assign fun s => { s with state := .dstrEnd }

/-- `((frame + currentOffset) / block_size) % num_consumers` in 64 bits, stored
into an `int`; no result where the division faults. -/
def dispatchIndex (frame currentOffset blockSize numConsumers : Int) : Option Int := do
  let block ← int64Div (toInt64 (frame + currentOffset)) blockSize
  let index ← int64Rem block numConsumers
  pure (toInt32 index)

/-- Count a handled image. The frame number is compared as an unsigned one, and a
consumer index outside of the counters is only logged. -/
def countImage (frame : Int) (s : EigerFan) : EigerFan :=
  { s with
    lastFrameSent := if s.lastFrameSent < toUInt64 frame then toUInt64 frame else s.lastFrameSent
    numFramesSent := s.numFramesSent + 1
    numFramesConsumed :=
      if 0 ≤ s.currentConsumerIndexToSendTo then
        s.numFramesConsumed.modify s.currentConsumerIndexToSendTo.toNat (· + 1)
      else s.numFramesConsumed }

/-- The handlers by `htype`, inside the `try` block. -/
def dispatchStreamMessage (env : Environment) (message : Bytes) : Rx Unit :=
  match env.parse (cString message) with
  | none => pure ()
  | some doc => do
      assign fun s => { s with jsonDocument := doc }
      let htype ← access ((doc.member headerTypeKey).bind Value.getString)
      if htype = globalHeaderType then
        -- the start of an acquisition: take over what was configured for it
        assign fun s => { s with currentOffset := s.configuredOffset }
        assign fun s => { s with configuredOffset := 0 }
        assign fun s => { s with lastFrameSent := 0 }
        assign fun s => { s with messagesReceived := 1 }
        assign fun s => { s with numFramesSent := 0 }
        assign fun s => { s with numFramesConsumed := s.numFramesConsumed.map fun _ => 0 }
        assign fun s => { s with currentAcquisitionID := s.configuredAcquisitionID }
        handleGlobalHeaderMessage env
      else if htype = imageHeaderType then
        let frame ← access ((doc.member frameKey).bind Value.getInt64)
        let s ← members
        let index ← access (dispatchIndex frame s.currentOffset s.config.blockSize
          s.config.numConsumers)
        assign fun s => { s with currentConsumerIndexToSendTo := index }
        handleImageDataMessage env frame
        assign (countImage frame)
      else if htype = endHeaderType then
        handleEndOfSeriesMessage env
        assign fun s => { s with state := .waitingStream }
      else pure ()

/-- Drop what is left of the message. The fuel bounds the parts still queued. -/
def drainSurplusParts : Nat → Rx Unit
  | 0 => pure ()
  | fuel + 1 => do
      if ← moreParts then
        let _messagePartExtra ← recv
        drainSurplusParts fuel
      else pure ()

/-- The `catch` blocks around the handlers, which only log. -/
def caught : Failure → Rx Unit
  | .exception => pure ()
  | .abort => .fail .abort

/-- `HandleStreamMessage`: exceptions end the handler, not the draining. -/
def handleStreamMessage (env : Environment) (fuel : Nat) (message : Bytes) : Rx Unit := do
  (dispatchStreamMessage env message).onFailure caught
  drainSurplusParts fuel

/-- One round of `HandleRxSocket`. The queue holds the whole message when its
first part is received, so its length bounds the parts to drain. -/
def handleRxSocket (env : Environment) : Rx Unit := do
  let s ← members
  let message ← recv
  handleStreamMessage env s.rxSocket.queue.length message

/-- One stream message handled without interference. -/
def receive (env : Environment) (s : EigerFan) : Outcome EigerFan Failure Unit :=
  (handleRxSocket env).run (answer env) s

end Eiger.Fan
