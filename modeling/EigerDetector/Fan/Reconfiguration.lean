import EigerDetector.Fan.Dispatch
import EigerDetector.Fan.Session
import EigerDetector.Library.Coupling

/-! Two runs of the fan over the same messages, configured differently after the
header. What the header latched is out of reach of the commands; the block size is
not. -/
namespace Eiger.Fan

open CharArrays Rapidjson FixedWidth Threads Rx Multipart Transition EigerFan Program Outcome

/-- What a configure command may set between two headers, its replies, and what of the
handling of a message is not sent: the flag of the last part, the index of the last
dispatch and the counts by index. -/
structure Settings where
  configuredOffset : Int
  configuredAcquisitionID : Bytes
  blockSize : Int
  controlSocket : List (Bytes × Value)
  more : Int
  currentConsumerIndexToSendTo : Int
  numFramesConsumed : List Nat

namespace EigerFan

def settings (s : EigerFan) : Settings where
  configuredOffset := s.configuredOffset
  configuredAcquisitionID := s.configuredAcquisitionID
  blockSize := s.config.blockSize
  controlSocket := s.controlSocket
  more := s.more
  currentConsumerIndexToSendTo := s.currentConsumerIndexToSendTo
  numFramesConsumed := s.numFramesConsumed

def withSettings (s : EigerFan) (x : Settings) : EigerFan :=
  { s with
    configuredOffset := x.configuredOffset
    configuredAcquisitionID := x.configuredAcquisitionID
    config := { s.config with blockSize := x.blockSize }
    controlSocket := x.controlSocket
    more := x.more
    currentConsumerIndexToSendTo := x.currentConsumerIndexToSendTo
    numFramesConsumed := x.numFramesConsumed }

/-- The states differ in settings only, with this relation between the indices of the
last dispatch. -/
def Beside (indices : Int → Int → Prop) (s t : EigerFan) : Prop :=
  ∃ x, t = s.withSettings x ∧
    indices s.currentConsumerIndexToSendTo x.currentConsumerIndexToSendTo

/-- The states differ in settings only. -/
abbrev Apart (s t : EigerFan) : Prop := Beside (fun _ _ => True) s t

theorem Beside.apart {indices : Int → Int → Prop} {s t : EigerFan} (h : Beside indices s t) :
    Apart s t := by
  obtain ⟨x, rfl, _⟩ := h
  exact ⟨x, rfl, trivial⟩

theorem Apart.refl (s : EigerFan) : Apart s s := ⟨s.settings, rfl, trivial⟩

theorem Apart.symm {s t : EigerFan} (h : Apart s t) : Apart t s := by
  obtain ⟨x, rfl, _⟩ := h
  exact ⟨s.settings, rfl, trivial⟩

theorem Apart.trans {s t u : EigerFan} (left : Apart s t) (right : Apart t u) : Apart s u := by
  obtain ⟨x, rfl, _⟩ := left
  obtain ⟨y, rfl, _⟩ := right
  exact ⟨y, rfl, trivial⟩

end EigerFan

section Blindness

variable {env : Environment} {indices : Int → Int → Prop} {A : Type}

theorem blind_members {g : EigerFan → Rx A} (hSame : ∀ s x, g (s.withSettings x) = g s)
    (hg : ∀ s, Blind (answer env) (Beside indices) (g s)) :
    Blind (answer env) (Beside indices) (members >>= g) := by
  rintro s t ⟨x, rfl, hIndices⟩
  rw [run_members, run_members, hSame]
  exact hg s _ _ ⟨x, rfl, hIndices⟩

/-- An action that commutes with other settings is answered alike. -/
theorem answersAlike_of_commutes {action : RxAction}
    (hIndex : ∀ s s' reply, answer env action s = some (s', reply) →
      s'.currentConsumerIndexToSendTo = s.currentConsumerIndexToSendTo)
    (hCommutes : ∀ s x, answer env action (s.withSettings x) =
      (answer env action s).map fun next => (next.1.withSettings x, next.2)) :
    AnswersAlike (answer env) (Beside indices) action := by
  rintro s t ⟨x, rfl, hIndices⟩
  rw [hCommutes]
  cases hAnswer : answer env action s with
  | none => exact .inl ⟨rfl, rfl⟩
  | some next =>
      refine .inr ⟨next.1, next.1.withSettings x, next.2, rfl, rfl, x, rfl, ?_⟩
      rw [hIndex s next.1 next.2 hAnswer]
      exact hIndices

theorem blind_assign {f : EigerFan → EigerFan}
    (hIndex : ∀ s, (f s).currentConsumerIndexToSendTo = s.currentConsumerIndexToSendTo)
    (hCommutes : ∀ s x, f (s.withSettings x) = (f s).withSettings x) :
    Blind (answer env) (Beside indices) (assign f) := by
  refine blind_perform (answer env) (answersAlike_of_commutes ?_ fun s x => ?_)
  · rintro s s' reply ⟨⟩
    exact hIndex s
  · exact congrArg (fun u => some (u, ())) (hCommutes s x)

theorem blind_access (a : Option A) : Blind (answer env) (Beside indices) (access a) := by
  cases a with
  | none => exact blind_fail (answer env) _
  | some a => exact blind_done (answer env) a

theorem blind_unlessThrown (returned : Bool) :
    Blind (answer env) (Beside indices) (unlessThrown returned) := by
  cases returned with
  | false => exact blind_fail (answer env) _
  | true => exact blind_done (answer env) ()

theorem blind_recv : Blind (answer env) (Beside indices) recv := by
  refine blind_perform (answer env) (answersAlike_of_commutes ?_ fun s x => ?_)
  · intro s s' reply h
    rw [answer] at h
    split at h
    · cases h
    · cases h
      rfl
  · cases hQueue : s.rxSocket.queue with
    | nil => simp [answer, withSettings, hQueue]
    | cons part queue => simp [answer, withSettings, hQueue]

theorem blind_moreParts : Blind (answer env) (Beside indices) moreParts := by
  rintro s t ⟨x, rfl, hIndices⟩
  exact .returned ⟨{ x with more := if s.rxSocket.rcvMore then 1 else 0 }, rfl, hIndices⟩ _

theorem writeMessageToFile_withSettings (message filename : Bytes) (s : EigerFan) (x : Settings) :
    (s.withSettings x).writeMessageToFile env message filename =
      ((s.writeMessageToFile env message filename).1.withSettings x,
        (s.writeMessageToFile env message filename).2) := by
  cases hCache : s.devShmCache with
  | false => simp [EigerFan.writeMessageToFile, withSettings, hCache]
  | true =>
      cases hCreate : (env.fileSystem s.fileCalls).createDirectories <;>
        simp [EigerFan.writeMessageToFile, withSettings, cachePath, hCache, hCreate]

theorem blind_writeMessageToFile (message filename : Bytes) :
    Blind (answer env) (Beside indices) (Rx.writeMessageToFile message filename) := by
  refine .bind (blind_perform (answer env) (answersAlike_of_commutes ?_ fun s x => ?_))
    blind_unlessThrown
  · intro s s' reply h
    have hState : (s.writeMessageToFile env message filename).1 = s' :=
      congrArg Prod.fst (Option.some.inj h)
    obtain ⟨_, _, _, hSame⟩ := writeMessageToFile_scratch env s message filename
    rw [← hState, hSame]
  · exact congrArg some (writeMessageToFile_withSettings message filename s x)

theorem blind_addAcquisitionIDToPart1 :
    Blind (answer env) (Beside indices) (addAcquisitionIDToPart1 env) := by
  refine blind_members (fun _ _ => rfl) fun s => .bind (blind_access _) fun doc => ?_
  exact .bind (blind_assign (fun _ => rfl) fun _ _ => rfl) fun _ => blind_done (answer env) _

theorem blind_prepareImageData (frame : Int) :
    Blind (answer env) (Beside indices) (prepareImageData env frame) := by
  refine .bind blind_moreParts fun more => ?_
  split
  · refine .bind blind_addAcquisitionIDToPart1 fun part1 => .bind blind_recv fun part2 => ?_
    refine .bind blind_moreParts fun more => ?_
    split
    · refine .bind blind_recv fun part3 => .bind blind_moreParts fun more => ?_
      split
      · refine .bind blind_recv fun part4 => .bind (blind_writeMessageToFile _ _) fun _ => ?_
        refine .bind (blind_writeMessageToFile _ _) fun _ => ?_
        refine .bind (blind_writeMessageToFile _ _) fun _ => ?_
        refine .bind (blind_writeMessageToFile _ _) fun _ => .bind blind_moreParts fun more => ?_
        split
        · refine .bind blind_recv fun part => .bind (blind_writeMessageToFile _ _) fun _ => ?_
          exact blind_done (answer env) _
        · exact blind_done (answer env) _
      · exact blind_done (answer env) _
    · exact blind_done (answer env) _
  · exact blind_done (answer env) _

theorem forward_withSettings (parts : List (Bytes × Bool)) (s : EigerFan) (x : Settings) :
    (s.withSettings x).forward parts = (s.forward parts).withSettings x := by
  rw [forward_eq, forward_eq]
  rfl

theorem sendTo_withSettings (rank : Int) (parts : List (Bytes × Bool)) (s : EigerFan)
    (x : Settings) :
    (s.withSettings x).sendTo rank parts = (s.sendTo rank parts).map fun t => t.withSettings x := by
  rw [EigerFan.sendTo, EigerFan.sendTo, Option.map_map]
  rfl

theorem blind_sendToRanks (parts : List (Bytes × Bool)) (ranks : List Int) :
    Blind (answer env) (Beside indices) (sendToRanks parts ranks) := by
  induction ranks with
  | nil => exact blind_done (answer env) ()
  | cons rank ranks ih =>
      refine .bind (blind_perform (answer env) (answersAlike_of_commutes ?_ fun s x => ?_))
        fun sent => .bind (blind_unlessThrown sent) fun _ => ih
      · intro s s' reply h
        rw [answer] at h
        split at h
        · cases h
          rfl
        · next hSend =>
            cases h
            obtain ⟨_, _, rfl⟩ := Option.map_eq_some_iff.mp hSend
            rfl
      · rw [answer, answer, sendTo_withSettings]
        cases s.sendTo rank parts <;> rfl

theorem blind_sendToAll (parts : List (Bytes × Bool)) :
    Blind (answer env) (Beside indices) (sendToAll parts) := by
  refine blind_members (fun _ _ => rfl) fun s => ?_
  refine .bind (blind_perform (answer env) (answersAlike_of_commutes ?_ fun s x => ?_))
    fun _ => blind_sendToRanks parts _
  · intro s s' reply h
    cases h
    exact forward_index parts s
  · exact congrArg (fun u => some (u, ())) (forward_withSettings parts s x)

theorem sendToSingle_withSettings (message : Bytes) (sndmore : Bool) {s : EigerFan} {x : Settings}
    (hIndex : s.currentConsumerIndexToSendTo = x.currentConsumerIndexToSendTo) :
    (s.withSettings x).sendToSingle message sndmore =
      ((s.sendToSingle message sndmore).1.withSettings x,
        (s.sendToSingle message sndmore).2) := by
  have hSend : ((s.withSettings x).forward [(message, sndmore)]).sendTo
      x.currentConsumerIndexToSendTo [(message, sndmore)] =
      ((s.forward [(message, sndmore)]).sendTo s.currentConsumerIndexToSendTo
        [(message, sndmore)]).map fun t => t.withSettings x := by
    rw [forward_withSettings, sendTo_withSettings, hIndex]
  have hOther : ((s.withSettings x).forward [(message, sndmore)]).currentConsumerIndexToSendTo =
      x.currentConsumerIndexToSendTo := forward_index _ _
  rw [EigerFan.sendToSingle, EigerFan.sendToSingle, hOther, hSend, forward_index]
  cases (s.forward [(message, sndmore)]).sendTo s.currentConsumerIndexToSendTo
      [(message, sndmore)] with
  | none => exact congrArg (fun u => (u, false)) (forward_withSettings _ s x)
  | some t => rfl

/-- The part sends of an image depend on the index alone. -/
theorem blind_sendImageParts (parts : List (Bytes × Bool)) :
    Blind (answer env) (Beside Eq) (sendImageParts parts) := by
  induction parts with
  | nil => exact blind_done (answer env) ()
  | cons part parts ih =>
      refine .bind (.bind (blind_perform (answer env) ?_) blind_unlessThrown) fun _ => ih
      rintro s t ⟨x, rfl, hIndex⟩
      exact .inr ⟨_, _, _, rfl, congrArg some (sendToSingle_withSettings part.1 part.2 hIndex),
        x, rfl, (sendToSingle_log s part.1 part.2).1.trans hIndex⟩

theorem blind_drainSurplusParts (fuel : Nat) :
    Blind (answer env) (Beside indices) (drainSurplusParts fuel) := by
  induction fuel with
  | zero => exact blind_done (answer env) ()
  | succ fuel ih =>
      refine .bind blind_moreParts fun more => ?_
      split
      · exact .bind blind_recv fun _ => ih
      · exact blind_done (answer env) ()

theorem blind_markState (state : EigerFanState) :
    Blind (answer env) (Beside indices) (assign (markState state)) :=
  blind_assign (fun _ => rfl) fun _ _ => rfl

theorem blind_countImage (frame : Int) :
    Blind (answer env) (Beside indices) (assign (countImage frame)) := by
  rintro s t ⟨x, rfl, hIndices⟩
  let counted := (countImage frame (s.withSettings x)).numFramesConsumed
  exact .returned ⟨{ x with numFramesConsumed := counted }, rfl, hIndices⟩ ()

theorem blind_handleEndOfSeriesMessage :
    Blind (answer env) (Beside indices) (handleEndOfSeriesMessage env) := by
  refine .bind blind_addAcquisitionIDToPart1 fun part1 => ?_
  refine .bind (blind_writeMessageToFile _ _) fun _ => .bind (blind_sendToAll _) fun _ => ?_
  exact blind_markState .dstrEnd

theorem blind_caught (e : Failure) : Blind (answer env) (Beside indices) (caught e) := by
  cases e with
  | exception => exact blind_done (answer env) ()
  | abort => exact blind_fail (answer env) _

end Blindness

section Dispatch

variable {env : Environment} {part1 : Bytes}

/-- The handlers of a message other than a header, once its first part is known. -/
def FirstPart.handler (env : Environment) : FirstPart → Rx Unit
  | .image members frame => do
      assign fun s => { s with jsonDocument := .object members }
      let s ← Rx.members
      let index ← access (dispatchIndex frame s.currentOffset s.config.blockSize
        s.config.numConsumers)
      assign fun s => { s with currentConsumerIndexToSendTo := index }
      handleImageDataMessage env frame
      assign (countImage frame)
  | .endOfSeries members => do
      assign fun s => { s with jsonDocument := .object members }
      handleEndOfSeriesMessage env
      assign (markState .waitingStream)
  | _ => pure ()

theorem dispatch_of_first {first : FirstPart} (hFirst : readFirstPart env part1 = some first)
    (hNotHeader : ∀ members series detail, first ≠ .header members series detail) :
    dispatchStreamMessage env part1 = first.handler env ∨
      ∃ doc, dispatchStreamMessage env part1 =
        (assign fun s => { s with jsonDocument := doc }) := by
  obtain ⟨hHeaderImage, hHeaderEnd, hImageEnd⟩ := headerTypes_distinct
  have hRead := readFirstPart_reads hFirst
  unfold dispatchStreamMessage
  generalize env.parse (cString part1) = doc at hRead ⊢
  cases hRead with
  | unreadable => exact .inl rfl
  | @unknown members _ hType hHeader hImage hEnd =>
      simp only [Value.member, hType, access, Program.done_bind, if_neg hHeader, if_neg hImage,
        if_neg hEnd]
      exact .inr ⟨.object members, rfl⟩
  | header => exact absurd rfl (hNotHeader _ _ _)
  | image hType hFrame =>
      simp only [Value.member, hType, hFrame, access, Program.done_bind, if_neg hHeaderImage.symm,
        if_true]
      exact .inl rfl
  | endOfSeries hType =>
      simp only [Value.member, hType, access, Program.done_bind, if_neg hHeaderEnd.symm,
        if_neg hImageEnd.symm, if_true]
      exact .inl rfl

end Dispatch

/-- The dispatch of an image faults in both states or in neither, and a complete image
goes to the same index. -/
structure Aligned (s t : EigerFan) (frame : Int) (rest : List Bytes) : Prop where
  faults : s.dispatch frame = none ↔ t.dispatch frame = none
  index : 3 ≤ rest.length → s.dispatch frame = t.dispatch frame

section Messages

variable {env : Environment} {part1 : Bytes} {rest : List Bytes} {tail : List (Bytes × Bool)}
  {more : Int} {s t : EigerFan}

theorem blind_imageSent (parts : List Bytes) :
    Blind (answer env) (Beside Eq) (imageSent parts).execute := by
  refine .bind (blind_sendImageParts _) fun _ => .bind (blind_markState .dstrImage) fun _ => ?_
  exact blind_done (answer env) ()

/-- An image that is sent on is sent alike if its index is the same; one that is too
short is not sent in any case. -/
theorem handleImageDataMessage_coupled {members : List (Bytes × Value)} {frame : Int}
    (h : Beside (fun i j => 3 ≤ rest.length → i = j)
      (reading rest tail more { s with jsonDocument := .object members }) t) :
    Coupled Apart
      ((handleImageDataMessage env frame).run (answer env)
        (reading rest tail more { s with jsonDocument := .object members }))
      ((handleImageDataMessage env frame).run (answer env) t) := by
  have hPrepared : PreparedBy env tail s rest ((FirstPart.image members frame).writes rest) s
      (imagePlan (taggedPart env members s.currentAcquisitionID) rest)
      ((prepareImageData env frame).run (answer env)
        (reading rest tail more { s with jsonDocument := .object members })) :=
    prepareImageData_prepared members frame
  rw [handleImageDataMessage_eq]
  refine coupled_bind (answer env) (blind_prepareImageData frame _ _ h)
    (fun _ _ hBeside => hBeside.apart) fun plan s' t' hRun hBeside => ?_
  have hPlan : plan = imagePlan (taggedPart env members s.currentAcquisitionID) rest := by
    obtain ⟨_, _, _, _, _, ⟨_, hReturned⟩ | ⟨_, hFailed⟩⟩ := hPrepared
    · rw [hReturned] at hRun
      cases hRun
      rfl
    · rw [hFailed] at hRun
      cases hRun
  rw [hPlan, imagePlan]
  split
  · next hLength =>
      obtain ⟨x, rfl, hIndex⟩ := hBeside
      exact (blind_imageSent _ s' _ ⟨x, rfl, hIndex hLength⟩).mono fun _ _ hNext => hNext.apart
  · exact .returned hBeside.apart ()

/-- The handlers of a message other than a header are coupled, if its dispatch is
aligned. -/
theorem handler_coupled {first : FirstPart}
    (h : Apart (reading rest tail more s) t)
    (hAligned : ∀ members frame, first = .image members frame → Aligned s t frame rest) :
    Coupled Apart ((first.handler env).run (answer env) (reading rest tail more s))
      ((first.handler env).run (answer env) t) := by
  cases first with
  | image members frame =>
      obtain ⟨x, rfl, _⟩ := h
      obtain ⟨hFaults, hIndex⟩ := hAligned members frame rfl
      rw [FirstPart.handler, run_assign, run_assign, run_members, run_members]
      change Coupled Apart ((access (s.dispatch frame) >>= _).run (answer env) _)
        ((access (((reading rest tail more s).withSettings x).dispatch frame) >>= _).run
          (answer env) _)
      cases hLeft : s.dispatch frame with
      | none =>
          have hApart : Apart (reading rest tail more { s with jsonDocument := .object members })
              ((reading rest tail more { s with
                jsonDocument := .object members }).withSettings x) := ⟨x, rfl, trivial⟩
          rw [hFaults.mp hLeft]
          exact Coupled.failed hApart Failure.abort
      | some i =>
          cases hRight : ((reading rest tail more s).withSettings x).dispatch frame with
          | none => cases hLeft.symm.trans (hFaults.mpr hRight)
          | some j =>
              have hSame : 3 ≤ rest.length → i = j := by
                intro hLength
                rw [hLeft, hRight] at hIndex
                exact Option.some.inj (hIndex hLength)
              rw [access, access, Program.done_bind, Program.done_bind, run_assign, run_assign]
              refine coupled_bind (answer env) (handleImageDataMessage_coupled
                (s := { s with currentConsumerIndexToSendTo := i })
                ⟨{ x with currentConsumerIndexToSendTo := j }, rfl, hSame⟩) (fun _ _ h => h) ?_
              exact fun _ s' t' _ hNext => blind_countImage frame s' t' hNext
  | endOfSeries members =>
      have hBlind : Blind (answer env) (Beside fun _ _ => True)
          ((FirstPart.endOfSeries members).handler env) := by
        refine .bind (blind_assign (fun _ => rfl) fun _ _ => rfl) fun _ => ?_
        exact .bind blind_handleEndOfSeriesMessage fun _ => blind_markState .waitingStream
      exact hBlind _ _ h
  | _ => exact .returned h ()

/-- Two fans that differ in settings only handle a message alike, unless it is a header
or the dispatch tells the settings apart. -/
theorem receive_coupled {first : FirstPart} (h : Apart s t)
    (hQueue : s.rxSocket.queue = frame (part1 :: rest) ++ tail)
    (hFirst : readFirstPart env part1 = some first)
    (hNotHeader : ∀ members series detail, first ≠ .header members series detail)
    (hAligned : ∀ members frame, first = .image members frame → Aligned s t frame rest) :
    Coupled Apart (receive env s) (receive env t) := by
  obtain ⟨x, rfl, _⟩ := h
  have hInside : Apart (reading rest tail s.more s)
      (reading rest tail (s.withSettings x).more (s.withSettings x)) := ⟨x, rfl, trivial⟩
  have hQueue' : (s.withSettings x).rxSocket.queue = frame (part1 :: rest) ++ tail := hQueue
  have hInsideAligned : ∀ members frame, first = .image members frame → Aligned s
      (reading rest tail (s.withSettings x).more (s.withSettings x)) frame rest :=
    fun members frame hImage =>
      ⟨(hAligned members frame hImage).faults, (hAligned members frame hImage).index⟩
  have hDispatch : Coupled Apart
      ((dispatchStreamMessage env part1).run (answer env) (reading rest tail s.more s))
      ((dispatchStreamMessage env part1).run (answer env)
        (reading rest tail (s.withSettings x).more (s.withSettings x))) := by
    rcases dispatch_of_first hFirst hNotHeader with hEq | ⟨doc, hEq⟩
    · rw [hEq]
      exact handler_coupled hInside hInsideAligned
    · rw [hEq]
      exact .returned ⟨x, rfl, trivial⟩ ()
  rw [receive_eq env hQueue, receive_eq env hQueue', handleStreamMessage]
  refine coupled_bind (answer env) (coupled_onFailure (answer env) hDispatch blind_caught)
    (fun _ _ h => h) fun _ s' t' _ hNext => ?_
  exact blind_drainSurplusParts _ s' t' hNext

/-- The message is no header. -/
def Continues (env : Environment) (parts : List Bytes) : Prop :=
  ∀ part1 rest members series detail, parts = part1 :: rest →
    readFirstPart env part1 ≠ some (.header members series detail)

/-- The dispatch of the message, if it is an image, does not tell the states apart. -/
def AlignedAt (env : Environment) (s t : EigerFan) (parts : List Bytes) : Prop :=
  ∀ part1 rest members frame, parts = part1 :: rest →
    readFirstPart env part1 = some (.image members frame) → Aligned s t frame rest

/-- The fan handles such a message in both states or in neither. -/
theorem session_message_apart {parts : List Bytes} (h : Apart s t)
    (hQueue : s.rxSocket.queue = []) (hContinues : Continues env parts)
    (hAligned : AlignedAt env s t parts) :
    (session env s (.message parts) = none ∧ session env t (.message parts) = none) ∨
      ∃ s' t', session env s (.message parts) = some s' ∧
        session env t (.message parts) = some t' ∧ Apart s' t' := by
  obtain ⟨x, rfl, _⟩ := h
  have hQueue' : (s.withSettings x).rxSocket.queue = [] := hQueue
  by_cases hState : s.state = .waitingConsumers
  · exact .inl ⟨session_message_waiting hState, session_message_waiting hState⟩
  by_cases hRead : ∀ part1 rest, parts = part1 :: rest → readFirstPart env part1 = none
  · exact .inl ⟨session_message_unread hQueue hRead, session_message_unread hQueue' hRead⟩
  obtain ⟨part1, rest, rfl, first, hFirst⟩ : ∃ part1 rest, parts = part1 :: rest ∧
      ∃ first, readFirstPart env part1 = some first := by
    by_contra hNone
    refine hRead fun part1 rest hParts => Option.eq_none_iff_forall_ne_some.mpr ?_
    exact fun first hFirst => hNone ⟨part1, rest, hParts, first, hFirst⟩
  have hCoupled : Coupled Apart (receive env (s.arrived (part1 :: rest)))
      (receive env ((s.withSettings x).arrived (part1 :: rest))) := by
    refine receive_coupled ⟨x, rfl, trivial⟩ (List.append_nil _).symm hFirst ?_ ?_
    · rintro members series detail rfl
      exact hContinues part1 rest members series detail rfl hFirst
    · rintro members frame rfl
      have hSame := hAligned part1 rest members frame rfl hFirst
      exact ⟨hSame.faults, hSame.index⟩
  rw [session_message hQueue hState, session_message hQueue' hState]
  generalize receive env (s.arrived (part1 :: rest)) = left at hCoupled
  generalize receive env ((s.withSettings x).arrived (part1 :: rest)) = right at hCoupled
  cases hCoupled with
  | returned hNext result => exact .inr ⟨_, _, rfl, rfl, hNext⟩
  | failed hNext failure => exact .inl ⟨rfl, rfl⟩
  | blocked hNext => exact .inl ⟨rfl, rfl⟩

end Messages

/-- A configure command of offset, acquisition ID and block size only, or a request. -/
def Adjusts (env : Environment) (message : Bytes) : Prop :=
  ∀ params, (env.parse (cString message)).bind configureParams = some params →
    params.member controlKill = none ∧ params.member controlClose = none ∧
      params.member controlFwdStream = none ∧ params.member controlDevShmCache = none

/-- No shutdown is asked for. -/
def KeepsRunning (env : Environment) (message : Bytes) : Prop :=
  ∀ params, (env.parse (cString message)).bind configureParams = some params →
    params.member controlKill = none ∧ params.member controlClose = none

section Commands

variable {env : Environment} {params : Value} {A : Type}

theorem not_hasMember_of_member {key : Bytes} (h : params.member key = none) :
    params.hasMember key ≠ some true := by
  cases params with
  | object members =>
      rw [Value.member] at h
      rw [Value.hasMember, h]
      intro hHas
      cases hHas
  | _ =>
      intro hHas
      cases hHas

theorem configureShutdown_absent {current next : EigerFan × Value}
    (hKill : params.member controlKill = none) (hClose : params.member controlClose = none)
    (h : configureShutdown env params current = some next) : next = current := by
  rcases configureShutdown_cases h with ⟨hSame, _⟩ | ⟨_, hHas⟩ | ⟨_, _, hHas, _⟩
  · exact hSame
  · exact absurd hHas (not_hasMember_of_member hKill)
  · exact absurd hHas (not_hasMember_of_member hClose)

theorem configureParam_absent {key : Bytes} {read : Value → Option A}
    {use : A → EigerFan → Option EigerFan} {current next : EigerFan × Value}
    (hMember : params.member key = none)
    (h : configureParam params key read use current = some next) : next = current := by
  rcases configureParam_cases h with hSame | ⟨a, hRead, _⟩
  · exact hSame
  · rw [hMember] at hRead
    cases hRead

/-- The same parameter of the same command keeps the states apart in settings only. -/
theorem configureParam_apart {key : Bytes} {read : Value → Option A}
    {use : A → EigerFan → Option EigerFan} {current other next next' : EigerFan × Value}
    (h : configureParam params key read use current = some next)
    (h' : configureParam params key read use other = some next')
    (hApart : Apart current.1 other.1)
    (hUse : ∀ a s x s' t', use a s = some s' → use a (s.withSettings x) = some t' →
      Apart s' t') : Apart next.1 next'.1 := by
  obtain ⟨found, hFound, h⟩ := Option.bind_eq_some_iff.mp h
  obtain ⟨found', hFound', h'⟩ := Option.bind_eq_some_iff.mp h'
  cases hFound.symm.trans hFound'
  cases found with
  | false =>
      cases h
      cases h'
      exact hApart
  | true =>
      obtain ⟨a, hRead, h⟩ := Option.bind_eq_some_iff.mp h
      obtain ⟨a', hRead', h'⟩ := Option.bind_eq_some_iff.mp h'
      cases hRead.symm.trans hRead'
      obtain ⟨s', hUsed, h⟩ := Option.bind_eq_some_iff.mp h
      obtain ⟨t', hUsed', h'⟩ := Option.bind_eq_some_iff.mp h'
      cases h
      cases h'
      obtain ⟨x, hOther, _⟩ := hApart
      rw [hOther] at hUsed'
      exact hUse a current.1 x s' t' hUsed hUsed'

theorem setDevShmCache_apart {value : Bool} {s s' t' : EigerFan} {x : Settings}
    (h : s.setDevShmCache env value = some s')
    (h' : (s.withSettings x).setDevShmCache env value = some t') : Apart s' t' := by
  cases value with
  | true =>
      cases h
      cases h'
      exact ⟨x, rfl, trivial⟩
  | false =>
      have hRemoved : env.removeAll s.fileCalls = true := by
        by_contra hThrows
        rw [EigerFan.setDevShmCache, EigerFan.removeCache] at h
        simp only [Bool.false_eq_true, if_false, if_neg hThrows] at h
        cases h
      rw [EigerFan.setDevShmCache, EigerFan.removeCache] at h h'
      simp only [Bool.false_eq_true, if_false] at h h'
      rw [if_pos hRemoved] at h
      rw [if_pos (show env.removeAll (s.withSettings x).fileCalls = true from hRemoved)] at h'
      cases h
      cases h'
      exact ⟨x, rfl, trivial⟩

/-- The same command in both runs, without a shutdown. -/
theorem configure_apart {s t s' t' : EigerFan} {reply reply' : Value} (hApart : Apart s t)
    (hKill : params.member controlKill = none) (hClose : params.member controlClose = none)
    (h : configure env params s = some (s', reply))
    (h' : configure env params t = some (t', reply')) : Apart s' t' := by
  obtain ⟨closed, hClosed, h⟩ := Option.bind_eq_some_iff.mp h
  obtain ⟨moved, hMoved, h⟩ := Option.bind_eq_some_iff.mp h
  obtain ⟨named, hNamed, h⟩ := Option.bind_eq_some_iff.mp h
  obtain ⟨forwarded, hForwarded, h⟩ := Option.bind_eq_some_iff.mp h
  obtain ⟨cached, hCached, hBlock⟩ := Option.bind_eq_some_iff.mp h
  obtain ⟨closed', hClosed', h'⟩ := Option.bind_eq_some_iff.mp h'
  obtain ⟨moved', hMoved', h'⟩ := Option.bind_eq_some_iff.mp h'
  obtain ⟨named', hNamed', h'⟩ := Option.bind_eq_some_iff.mp h'
  obtain ⟨forwarded', hForwarded', h'⟩ := Option.bind_eq_some_iff.mp h'
  obtain ⟨cached', hCached', hBlock'⟩ := Option.bind_eq_some_iff.mp h'
  have hClosedApart : Apart closed.1 closed'.1 := by
    rw [configureShutdown_absent hKill hClose hClosed,
      configureShutdown_absent hKill hClose hClosed']
    exact hApart
  have hMovedApart := configureParam_apart hMoved hMoved' hClosedApart (by
    rintro value u x _ _ ⟨⟩ ⟨⟩
    exact ⟨{ x with configuredOffset := value }, rfl, trivial⟩)
  have hNamedApart := configureParam_apart hNamed hNamed' hMovedApart (by
    rintro value u x _ _ ⟨⟩ ⟨⟩
    exact ⟨{ x with configuredAcquisitionID := value }, rfl, trivial⟩)
  have hForwardedApart := configureParam_apart hForwarded hForwarded' hNamedApart (by
    rintro value u x _ _ ⟨⟩ ⟨⟩
    exact ⟨x, rfl, trivial⟩)
  have hCachedApart := configureParam_apart hCached hCached' hForwardedApart
    fun _ _ _ _ _ => setDevShmCache_apart
  exact configureParam_apart hBlock hBlock' hCachedApart (by
    rintro value u x _ _ ⟨⟩ ⟨⟩
    exact ⟨{ x with blockSize := value }, rfl, trivial⟩)

theorem configureParam_setting {key : Bytes} {read : Value → Option A}
    {use : A → EigerFan → Option EigerFan} {current next : EigerFan × Value}
    (h : configureParam params key read use current = some next)
    (hUse : ∀ a s t, use a s = some t → Apart s t) : Apart current.1 next.1 := by
  rcases configureParam_cases h with rfl | ⟨a, _, hUsed, _⟩
  · exact Apart.refl _
  · exact hUse a _ _ hUsed

/-- A command of offset, acquisition ID and block size changes settings only. -/
theorem configure_setting {s s' : EigerFan} {reply : Value}
    (hKill : params.member controlKill = none) (hClose : params.member controlClose = none)
    (hForward : params.member controlFwdStream = none)
    (hCache : params.member controlDevShmCache = none)
    (h : configure env params s = some (s', reply)) : Apart s s' := by
  obtain ⟨closed, hClosed, h⟩ := Option.bind_eq_some_iff.mp h
  obtain ⟨moved, hMoved, h⟩ := Option.bind_eq_some_iff.mp h
  obtain ⟨named, hNamed, h⟩ := Option.bind_eq_some_iff.mp h
  obtain ⟨forwarded, hForwarded, h⟩ := Option.bind_eq_some_iff.mp h
  obtain ⟨cached, hCached, hBlock⟩ := Option.bind_eq_some_iff.mp h
  have hMovedApart : Apart s moved.1 := by
    rw [configureShutdown_absent hKill hClose hClosed] at hMoved
    refine configureParam_setting hMoved ?_
    rintro value u _ ⟨⟩
    exact ⟨{ u.settings with configuredOffset := value }, rfl, trivial⟩
  have hNamedApart : Apart moved.1 named.1 := by
    refine configureParam_setting hNamed ?_
    rintro value u _ ⟨⟩
    exact ⟨{ u.settings with configuredAcquisitionID := value }, rfl, trivial⟩
  have hBlockApart : Apart named.1 s' := by
    rw [configureParam_absent hCache hCached, configureParam_absent hForward hForwarded] at hBlock
    refine configureParam_setting hBlock ?_
    rintro value u _ ⟨⟩
    exact ⟨{ u.settings with blockSize := value }, rfl, trivial⟩
  exact hMovedApart.trans (hNamedApart.trans hBlockApart)

theorem apart_replied {s t : EigerFan} (h : Apart s t) (replies replies' : List (Bytes × Value))
    (more more' : Int) :
    Apart { s with controlSocket := replies, more := more }
      { t with controlSocket := replies', more := more' } := by
  obtain ⟨x, rfl, _⟩ := h
  exact ⟨{ x with controlSocket := replies', more := more' }, rfl, trivial⟩

/-- A command for one of the runs. -/
theorem control_setting {message idMessage : Bytes} {s t : EigerFan}
    (hAdjusts : Adjusts env message) (h : handleControlMessage env message idMessage s = some t) :
    Apart s t := by
  obtain ⟨u, replies, rfl, ⟨rfl, _⟩ | ⟨params, reply, hParams, hConfigure⟩⟩ :=
    handleControlMessage_cases h
  · exact apart_replied (Apart.refl u) u.controlSocket replies u.more 0
  · obtain ⟨hKill, hClose, hForward, hCache⟩ := hAdjusts params hParams
    have hSetting := configure_setting hKill hClose hForward hCache hConfigure
    exact apart_replied hSetting s.controlSocket replies s.more 0

/-- A command for both of the runs. -/
theorem control_apart {message idMessage : Bytes} {s t s' t' : EigerFan} (hApart : Apart s t)
    (hKeeps : KeepsRunning env message)
    (h : handleControlMessage env message idMessage s = some s')
    (h' : handleControlMessage env message idMessage t = some t') : Apart s' t' := by
  obtain ⟨u, replies, rfl, hHandled⟩ := handleControlMessage_cases h
  obtain ⟨v, replies', rfl, hHandled'⟩ := handleControlMessage_cases h'
  refine apart_replied ?_ replies replies' 0 0
  rcases hHandled with ⟨rfl, hNone⟩ | ⟨params, reply, hParams, hConfigure⟩
  · rcases hHandled' with ⟨rfl, _⟩ | ⟨params, _, hParams, _⟩
    · exact hApart
    · cases hNone.symm.trans hParams
  · rcases hHandled' with ⟨rfl, hNone⟩ | ⟨params', reply', hParams', hConfigure'⟩
    · cases hNone.symm.trans hParams
    · cases hParams.symm.trans hParams'
      obtain ⟨hKill, hClose⟩ := hKeeps params hParams
      exact configure_apart hApart hKill hClose hConfigure hConfigure'

end Commands

/-- What two fans side by side meet: the same event, or a command for one of them. -/
inductive PairEvent where
  | both (event : SessionEvent)
  | left (message idMessage : Bytes)
  | right (message idMessage : Bytes)

namespace PairEvent

/-- Two runs with the same messages and connections, each with commands of its own. -/
def step (env : Environment) (pair : EigerFan × EigerFan) : PairEvent →
    Option (EigerFan × EigerFan)
  | both event => do
      let s ← session env pair.1 event
      let t ← session env pair.2 event
      pure (s, t)
  | left message idMessage => do
      let s ← session env pair.1 (.main (.control message idMessage))
      pure (s, pair.2)
  | right message idMessage => do
      let t ← session env pair.2 (.main (.control message idMessage))
      pure (pair.1, t)

/-- What happens between a header and the next one: no header, no shutdown, and the
runs differ in offset, acquisition ID and block size only. -/
def Within (env : Environment) : PairEvent → Prop
  | both (.message parts) => Continues env parts
  | both (.main (.control message _)) => KeepsRunning env message
  | both _ => True
  | left message _ => Adjusts env message
  | right message _ => Adjusts env message

/-- The block sizes in force lead an image to the same index. -/
def SameDispatch (env : Environment) (pair : EigerFan × EigerFan) : PairEvent → Prop
  | both (.message parts) => AlignedAt env pair.1 pair.2 parts
  | _ => True

end PairEvent

section Pairs

variable {env : Environment} {config : EigerFanConfig}

theorem monitor_apart {s t : EigerFan} (h : Apart s t) (code rank : Nat) :
    Apart (handleMonitorMessage code rank s) (handleMonitorMessage code rank t) := by
  obtain ⟨x, rfl, _⟩ := h
  unfold handleMonitorMessage
  simp only
  split
  · exact ⟨{ x with more := 0 }, rfl, trivial⟩
  · split <;> exact ⟨{ x with more := 0 }, rfl, trivial⟩

theorem forwardMonitor_apart {s t : EigerFan} (h : Apart s t) (code : Nat) :
    Apart (handleForwardMonitorMessage code s) (handleForwardMonitorMessage code t) := by
  obtain ⟨x, rfl, _⟩ := h
  unfold handleForwardMonitorMessage
  split
  · exact ⟨{ x with more := 0 }, rfl, trivial⟩
  · split <;> exact ⟨{ x with more := 0 }, rfl, trivial⟩

theorem started_apart {s t : EigerFan} (h : Apart s t) :
    Apart { s with state := .waitingStream } { t with state := .waitingStream } := by
  obtain ⟨x, rfl, _⟩ := h
  exact ⟨x, rfl, trivial⟩

/-- One step of both runs keeps them apart in settings only. -/
theorem pair_step {pair pair' : EigerFan × EigerFan} {label : PairEvent}
    (hIdle : Idle config pair.1) (hApart : Apart pair.1 pair.2)
    (hWithin : label.Within env) (hSame : label.SameDispatch env pair)
    (hStep : PairEvent.step env pair label = some pair') :
    Idle config pair'.1 ∧ Apart pair'.1 pair'.2 := by
  cases label with
  | both event =>
      obtain ⟨s, hLeft, hStep⟩ := Option.bind_eq_some_iff.mp hStep
      obtain ⟨t, hRight, hStep⟩ := Option.bind_eq_some_iff.mp hStep
      cases hStep
      refine ⟨hIdle.step hLeft, ?_⟩
      match event with
      | .message parts =>
          rcases session_message_apart hApart hIdle.queue hWithin hSame with
            ⟨hNone, _⟩ | ⟨_, _, hLeft', hRight', hNext⟩
          · cases hLeft.symm.trans hNone
          · cases hLeft.symm.trans hLeft'
            cases hRight.symm.trans hRight'
            exact hNext
      | .main (.control message idMessage) =>
          exact control_apart hApart hWithin (session_main hLeft) (session_main hRight)
      | .main (.monitor code rank) =>
          cases session_main hLeft
          cases session_main hRight
          exact monitor_apart hApart code rank
      | .main (.forwardMonitor code) =>
          cases session_main hLeft
          cases session_main hRight
          exact forwardMonitor_apart hApart code
      | .startRx =>
          rw [session_startRx hLeft, session_startRx hRight]
          exact started_apart hApart
  | left message idMessage =>
      obtain ⟨s, hLeft, hStep⟩ := Option.bind_eq_some_iff.mp hStep
      cases hStep
      exact ⟨hIdle.step hLeft,
        (control_setting hWithin (session_main hLeft)).symm.trans hApart⟩
  | right message idMessage =>
      obtain ⟨t, hRight, hStep⟩ := Option.bind_eq_some_iff.mp hStep
      cases hStep
      exact ⟨hIdle, hApart.trans (control_setting hWithin (session_main hRight))⟩

/-- Two runs which are the same up to a header and configured differently from there
on send every message of the acquisition to the same consumers with the same bytes, as
long as the block sizes lead each image to the same index. -/
theorem acquisition_unaffected {vm : Options} {before : List SessionEvent}
    {labels : List PairEvent} {u s t : EigerFan} {parts : List Bytes}
    (hStart : Run (session env) always (initial (parseArguments vm)) before u)
    (hRun : Run (PairEvent.step env)
      (fun pair label => label.Within env ∧ label.SameDispatch env pair) (u, u) labels (s, t))
    (hContinues : Continues env parts) (hAligned : AlignedAt env s t parts) :
    s.consumers = t.consumers ∧
      (session env s (.message parts)).map EigerFan.consumers =
        (session env t (.message parts)).map EigerFan.consumers := by
  have hIdle : Idle (parseArguments vm) u :=
    hStart.invariant (.initial (parseArguments_int32 vm).2) fun _ _ _ h _ hStep => h.step hStep
  let inv := fun pair : EigerFan × EigerFan =>
    Idle (parseArguments vm) pair.1 ∧ Apart pair.1 pair.2
  have hInit : inv (u, u) := ⟨hIdle, Apart.refl u⟩
  obtain ⟨hFirst, hApart⟩ := hRun.invariant hInit fun pair label pair' h hAllowed hStep =>
    pair_step h.1 h.2 hAllowed.1 hAllowed.2 hStep
  have hConsumers : ∀ {s t : EigerFan}, Apart s t → s.consumers = t.consumers := by
    rintro s t ⟨x, rfl, _⟩
    rfl
  refine ⟨hConsumers hApart, ?_⟩
  rcases session_message_apart hApart hFirst.queue hContinues hAligned with
    ⟨hNone, hNone'⟩ | ⟨s', t', hLeft, hRight, hNext⟩
  · rw [hNone, hNone']
  · rw [hLeft, hRight]
    exact congrArg some (hConsumers hNext)

end Pairs

def secondImage : Value := .object [(headerTypeKey, .string imageHeaderType), (frameKey, .int 1)]

/-- A configure command with one parameter. -/
def configureCommand (key : Bytes) (value : Value) : Value :=
  .object [(controlCmdKey, .string controlConfigure), (controlIDKey, .int 1),
    (controlParamKey, .object [(key, value)])]

def commandText : Bytes := bytes "command"

/-- An environment in which the command is one parameter. -/
def configuredEnvironment (key : Bytes) (value : Value) : Environment :=
  .ofTexts [(commandText, configureCommand key value), (objectText sampleHeader, sampleHeader),
    (objectText secondImage, secondImage)]

def acqidEnvironment : Environment := configuredEnvironment controlAcqID (.string (bytes "next"))

def twoConsumers : Options := { defaultOptions with consumers := 2 }

/-- Two consumers connect, and an acquisition begins. -/
def twoConsumersStart : List SessionEvent :=
  [.main (.monitor zmqEventAccepted 0), .main (.monitor zmqEventAccepted 1), .startRx,
    .message [objectText sampleHeader]]

def secondImageParts : List Bytes := [objectText secondImage, [1], [2], [3]]

/-- An acquisition ID configured for one of the runs does not reach the image. -/
theorem acquisition_unaffected_by_acqid :
    ∃ u s t, Run (session acqidEnvironment) always (initial (parseArguments twoConsumers))
        twoConsumersStart u ∧
      PairEvent.step acqidEnvironment (u, u) (.right commandText [7]) = some (s, t) ∧
      s.configuredAcquisitionID ≠ t.configuredAcquisitionID ∧
      s.consumers = t.consumers ∧
      (session acqidEnvironment s (.message secondImageParts)).map EigerFan.consumers =
        (session acqidEnvironment t (.message secondImageParts)).map EigerFan.consumers := by
  obtain ⟨u, t, hStart, hStep, hDiffer, hAligned⟩ : ∃ u t,
      Run (session acqidEnvironment) always (initial (parseArguments twoConsumers))
        twoConsumersStart u ∧
      PairEvent.step acqidEnvironment (u, u) (.right commandText [7]) = some (u, t) ∧
      u.configuredAcquisitionID ≠ t.configuredAcquisitionID ∧
      Aligned u t 1 [[1], [2], [3]] :=
    ⟨_, _, run_always_iff.mpr rfl, rfl, by decide, Iff.rfl, fun _ => rfl⟩
  have hCommand : (PairEvent.right commandText [7]).Within acqidEnvironment := by
    rintro params ⟨⟩
    exact ⟨rfl, rfl, rfl, rfl⟩
  have hSame : (PairEvent.right commandText [7]).SameDispatch acqidEnvironment (u, u) := trivial
  refine ⟨u, u, t, hStart, hStep, hDiffer,
    acquisition_unaffected hStart (.cons ⟨hCommand, hSame⟩ hStep (.nil _)) ?_ ?_⟩
  · rintro part1 rest members series detail ⟨⟩ hHeader
    cases hHeader
  · rintro part1 rest members frame ⟨⟩ hImage
    cases hImage
    exact hAligned

def blockSizeTwoEnvironment : Environment := configuredEnvironment controlBlockSize (.int 2)

/-- A block size configured for one of the runs after the header sends the next image to
another consumer. -/
theorem block_size_read_live :
    ∃ u s t s' t', Run (session blockSizeTwoEnvironment) always
        (initial (parseArguments twoConsumers)) twoConsumersStart u ∧
      Adjusts blockSizeTwoEnvironment commandText ∧
      PairEvent.step blockSizeTwoEnvironment (u, u) (.right commandText [7]) = some (s, t) ∧
      PairEvent.step blockSizeTwoEnvironment (s, t) (.both (.message secondImageParts)) =
        some (s', t') ∧
      s'.output 0 = s.output 0 ∧ s'.output 1 ≠ s.output 1 ∧
      t'.output 0 ≠ t.output 0 ∧ t'.output 1 = t.output 1 := by
  refine ⟨_, _, _, _, _, run_always_iff.mpr rfl, ?_, rfl, rfl, rfl, ?_, ?_, rfl⟩
  · rintro params ⟨⟩
    exact ⟨rfl, rfl, rfl, rfl⟩
  · decide +kernel
  · decide +kernel

end Eiger.Fan
