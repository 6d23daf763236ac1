import EigerDetector.Decoder.Parts
import EigerDetector.Library.Lending

/-! The buffers of the decoder as a ledger: the empty ones are free, the current one
is held, and those handed over are lent out until they come back. -/
namespace Eiger.Decoder

open CharArrays FixedWidth Lending

namespace BufferPool

/-- The buffer that is held; -1 stands for none. -/
def held (p : BufferPool) : Option Int :=
  if p.currentFrameBufferId = -1 then none else some p.currentFrameBufferId

def ledger (p : BufferPool) (downstream : List ReadyCall) : Ledger Int :=
  ⟨p.emptyBufferQueue, p.held, (downstream ++ p.readyCalls).map ReadyCall.bufferId⟩

/-- An allocation would end with a buffer. -/
def Available (p : BufferPool) : Prop :=
  p.currentFrameBufferId ≠ -1 ∨ p.emptyBufferQueue ≠ []

instance (p : BufferPool) : Decidable p.Available := inferInstanceAs (Decidable (_ ∨ _))

/-- What is written goes to the buffer whose id a send would hand over. -/
structure Ready (p : BufferPool) : Prop where
  kept : p.droppingFrameData = false
  location : p.currentFrameBuffer = .shared p.currentFrameBufferId

/-- What is written goes nowhere, and a send hands nothing over. -/
structure Dropping (p : BufferPool) : Prop where
  dropped : p.droppingFrameData = true
  location : p.currentFrameBuffer = .dropped
  none_held : p.currentFrameBufferId = -1

/-- The flag and the pointer agree with the id. -/
structure Consistent (p : BufferPool) : Prop where
  ready : p.currentFrameBufferId ≠ -1 → p.Ready
  dropping : p.droppingFrameData = true → p.Dropping

/-- The pool as it is after data was written to its current buffer. -/
def write (edit : FrameBuffer → FrameBuffer) (p : BufferPool) : BufferPool :=
  { p with
    sharedBuffers := Function.update p.sharedBuffers p.currentFrameBufferId
      (edit (p.sharedBuffers p.currentFrameBufferId)) }

def putPayload (data : Bytes) (buffer : FrameBuffer) : FrameBuffer :=
  { buffer with payload := buffer.payload.store data }

def putHeader (header : FrameHeader) (buffer : FrameBuffer) : FrameBuffer :=
  { buffer with header := header }

/-- The call a send makes. -/
def call (header : FrameHeader) (frameNumber : Int) (p : BufferPool) : ReadyCall :=
  ⟨p.currentFrameBufferId, frameNumber, putHeader header (p.sharedBuffers p.currentFrameBufferId)⟩

/-- The pool after its buffer was handed over. -/
def handOver (header : FrameHeader) (frameNumber : Int) (p : BufferPool) : BufferPool :=
  { p.write (putHeader header) with
    readyCalls := p.readyCalls ++ [p.call header frameNumber]
    currentFrameBufferId := -1 }

/-- The pool after the one buffer whose content is lost was written. -/
def waste (edit : FrameBuffer → FrameBuffer) (p : BufferPool) : BufferPool :=
  { p with droppedFrameBuffer := edit p.droppedFrameBuffer }

variable {p p' : BufferPool} {data : Bytes} {header : FrameHeader} {frameNumber : Int}

theorem write_self (p : BufferPool) (edit : FrameBuffer → FrameBuffer) :
    (p.write edit).sharedBuffers p.currentFrameBufferId =
      edit (p.sharedBuffers p.currentFrameBufferId) := Function.update_self ..

theorem Ready.frameBuffer (h : p.Ready) :
    p.frameBuffer = some (p.sharedBuffers p.currentFrameBufferId) := by
  rw [BufferPool.frameBuffer, h.location]

theorem Ready.setFrameBuffer (h : p.Ready) (edit : FrameBuffer → FrameBuffer) :
    p.setFrameBuffer (edit (p.sharedBuffers p.currentFrameBufferId)) = p.write edit := by
  unfold BufferPool.setFrameBuffer
  split
  · next hNull => cases h.location.symm.trans hNull
  · next hDropped => cases h.location.symm.trans hDropped
  · next hShared =>
      cases h.location.symm.trans hShared
      rfl

theorem Ready.storePayload (h : p.Ready) (data : Bytes) :
    p.storePayload data = some (p.write (putPayload data)) := by
  rw [BufferPool.storePayload, h.frameBuffer, Option.map_some]
  exact congrArg some (h.setFrameBuffer (putPayload data))

theorem Ready.send (h : p.Ready) (header : FrameHeader) (frameNumber : Int) :
    p.send header frameNumber = some (p.handOver header frameNumber) := by
  have hWrite := h.setFrameBuffer (putHeader header)
  rw [BufferPool.send, if_neg (by rw [h.kept]; exact Bool.false_ne_true), h.frameBuffer,
    Option.map_some, handOver, ← hWrite]
  rfl

theorem Dropping.storePayload (h : p.Dropping) (data : Bytes) :
    p.storePayload data = some (p.waste (putPayload data)) := by
  have hBuffer : p.frameBuffer = some p.droppedFrameBuffer := by
    rw [frameBuffer, h.location]
  have hWaste : ∀ buffer, p.setFrameBuffer buffer = { p with droppedFrameBuffer := buffer } := by
    intro buffer
    unfold setFrameBuffer
    split
    · next hNull => cases h.location.symm.trans hNull
    · rfl
    · next hShared => cases h.location.symm.trans hShared
  rw [BufferPool.storePayload, hBuffer, Option.map_some, hWaste]
  rfl

theorem Dropping.send (h : p.Dropping) (header : FrameHeader) (frameNumber : Int) :
    p.send header frameNumber = some p := by
  rw [BufferPool.send, if_pos h.dropped]

theorem allocate_of_held (h : p.currentFrameBufferId ≠ -1) : p.allocate = p := by
  rw [allocate, if_neg h]

theorem allocate_of_empty (h : p.currentFrameBufferId = -1) (hQueue : p.emptyBufferQueue = []) :
    p.allocate = { p with
      currentFrameBuffer := .dropped
      droppingFrameData := true
      framesDropped := p.framesDropped + 1 } := by
  rw [allocate, if_pos h, hQueue]

theorem allocate_of_free {id : Int} {queue : List Int} (h : p.currentFrameBufferId = -1)
    (hQueue : p.emptyBufferQueue = id :: queue) : p.allocate = { p with
      currentFrameBufferId := id
      emptyBufferQueue := queue
      currentFrameBuffer := .shared id
      droppingFrameData := false } := by
  rw [allocate, if_pos h, hQueue]

/-- An allocation keeps what is held, takes the first free buffer, or drops data. -/
theorem allocate_cases (p : BufferPool) :
    (p.currentFrameBufferId ≠ -1 ∧ p.allocate = p) ∨
    (p.currentFrameBufferId = -1 ∧ p.emptyBufferQueue = [] ∧ p.allocate = { p with
      currentFrameBuffer := .dropped
      droppingFrameData := true
      framesDropped := p.framesDropped + 1 }) ∨
    (∃ id queue, p.currentFrameBufferId = -1 ∧ p.emptyBufferQueue = id :: queue ∧
      p.allocate = { p with
        currentFrameBufferId := id
        emptyBufferQueue := queue
        currentFrameBuffer := .shared id
        droppingFrameData := false }) := by
  by_cases hHeld : p.currentFrameBufferId = -1
  · by_cases hQueue : p.emptyBufferQueue = []
    · exact .inr (.inl ⟨hHeld, hQueue, allocate_of_empty hHeld hQueue⟩)
    · obtain ⟨id, queue, hFree⟩ := List.exists_cons_of_ne_nil hQueue
      exact .inr (.inr ⟨id, queue, hHeld, hFree, allocate_of_free hHeld hFree⟩)
  · exact .inl ⟨hHeld, allocate_of_held hHeld⟩

/-- An allocation touches no buffer and makes no call. -/
theorem allocate_frame (p : BufferPool) :
    p.allocate.readyCalls = p.readyCalls ∧ p.allocate.sharedBuffers = p.sharedBuffers ∧
      p.allocate.droppedFrameBuffer = p.droppedFrameBuffer := by
  rcases p.allocate_cases with ⟨_, h⟩ | ⟨_, _, h⟩ | ⟨id, queue, _, _, h⟩
  · rw [h]
    exact ⟨rfl, rfl, rfl⟩
  · rw [h]
    exact ⟨rfl, rfl, rfl⟩
  · rw [h]
    exact ⟨rfl, rfl, rfl⟩

theorem allocate_ready (h : p.Consistent) (hAvailable : p.Available) : p.allocate.Ready := by
  rcases p.allocate_cases with ⟨hHeld, hSame⟩ | ⟨hNone, hQueue, _⟩ | ⟨id, queue, _, _, hTaken⟩
  · rw [hSame]
    exact h.ready hHeld
  · rcases hAvailable with hHeld | hFree
    · exact absurd hNone hHeld
    · exact absurd hQueue hFree
  · rw [hTaken]
    exact ⟨rfl, rfl⟩

theorem allocate_dropping (hAvailable : ¬ p.Available) : p.allocate.Dropping := by
  have hNone : p.currentFrameBufferId = -1 := by
    by_contra hHeld
    exact hAvailable (.inl hHeld)
  have hQueue : p.emptyBufferQueue = [] := by
    by_contra hFree
    exact hAvailable (.inr hFree)
  rw [allocate_of_empty hNone hQueue]
  exact ⟨rfl, rfl, hNone⟩

theorem not_dropping_of_ready (h : p.Ready) : ¬ p.droppingFrameData = true := by
  rw [h.kept]
  exact Bool.false_ne_true

namespace Consistent

theorem allocate (h : p.Consistent) : p.allocate.Consistent := by
  by_cases hAvailable : p.Available
  · have hReady := allocate_ready h hAvailable
    exact ⟨fun _ => hReady, fun hDropping => absurd hDropping (not_dropping_of_ready hReady)⟩
  · have hDropping := allocate_dropping hAvailable
    exact ⟨fun hHeld => absurd hDropping.none_held hHeld, fun _ => hDropping⟩

theorem storePayload (h : p.Consistent) (hStore : p.storePayload data = some p') :
    p'.Consistent := by
  obtain ⟨buffer, _, rfl⟩ := Option.map_eq_some_iff.mp hStore
  unfold setFrameBuffer
  split
  · exact h
  · exact ⟨fun hHeld => ⟨(h.ready hHeld).1, (h.ready hHeld).2⟩, fun hDropping =>
      ⟨hDropping, (h.dropping hDropping).2, (h.dropping hDropping).3⟩⟩
  · exact ⟨fun hHeld => ⟨(h.ready hHeld).1, (h.ready hHeld).2⟩, fun hDropping =>
      ⟨hDropping, (h.dropping hDropping).2, (h.dropping hDropping).3⟩⟩

theorem send (h : p.Consistent) (hSend : p.send header frameNumber = some p') :
    p'.Consistent := by
  rw [BufferPool.send] at hSend
  split at hSend
  · cases hSend
    exact h
  · next hKept =>
      obtain ⟨buffer, _, rfl⟩ := Option.map_eq_some_iff.mp hSend
      refine ⟨fun hHeld => absurd rfl hHeld, fun hDropping => absurd ?_ hKept⟩
      have hFlag : (p.setFrameBuffer (putHeader header buffer)).droppingFrameData =
          p.droppingFrameData := by
        unfold setFrameBuffer
        split <;> rfl
      rw [← hFlag]
      exact hDropping

end Consistent

/-- Every buffer is accounted for, and those downstream hold what they were sent with. -/
structure Owned (ids : List Nat) (downstream : List ReadyCall) (p : BufferPool) : Prop where
  consistent : p.Consistent
  accounts : (p.ledger downstream).Accounts (ids.map Int.ofNat)
  intact : ∀ call ∈ downstream ++ p.readyCalls, p.sharedBuffers call.bufferId = call.buffer

/-- The next send hands over a buffer that is held, or nothing. -/
def Writable (p : BufferPool) : Prop :=
  p.currentFrameBufferId ≠ -1 ∨ p.droppingFrameData = true

namespace Owned

variable {ids : List Nat} {downstream : List ReadyCall}

theorem ne_of_mem (h : p.Owned ids downstream) {id : Int}
    (hMem : id ∈ (p.ledger downstream).all) : id ≠ -1 := by
  obtain ⟨n, _, rfl⟩ := List.mem_map.mp (h.accounts.perm.subset hMem)
  exact fun hNegative => by cases hNegative

theorem free_ne (h : p.Owned ids downstream) {id : Int} {queue : List Int}
    (hQueue : p.emptyBufferQueue = id :: queue) : id ≠ -1 := by
  refine h.ne_of_mem (List.mem_append_left _ (List.mem_append_left _ ?_))
  show id ∈ p.emptyBufferQueue
  rw [hQueue]
  exact List.mem_cons_self

theorem held_of_ne {p : BufferPool} (h : p.currentFrameBufferId ≠ -1) :
    p.held = some p.currentFrameBufferId := if_neg h

theorem held_of_eq {p : BufferPool} (h : p.currentFrameBufferId = -1) : p.held = none := if_pos h

/-- What an allocation does to the ledger. -/
theorem moves_allocate (h : p.Owned ids downstream) :
    Moves (p.ledger downstream) (p.allocate.ledger downstream) := by
  rcases p.allocate_cases with ⟨_, hSame⟩ | ⟨hNone, _, hEmpty⟩ | ⟨id, queue, hNone, hQueue, hTaken⟩
  · rw [hSame]
  · rw [hEmpty]
    exact .refl
  · have hBefore : p.ledger downstream =
        ⟨id :: queue, none, (downstream ++ p.readyCalls).map ReadyCall.bufferId⟩ := by
      rw [ledger, hQueue, held_of_eq hNone]
    have hAfter : p.allocate.ledger downstream =
        ⟨queue, some id, (downstream ++ p.readyCalls).map ReadyCall.bufferId⟩ := by
      rw [hTaken, ledger, held_of_ne (h.free_ne hQueue)]
    rw [hBefore, hAfter]
    exact .single (.acquire id queue _)

theorem allocate (h : p.Owned ids downstream) : p.allocate.Owned ids downstream := by
  obtain ⟨hCalls, hShared, _⟩ := p.allocate_frame
  refine ⟨h.consistent.allocate, h.accounts.moves h.moves_allocate, ?_⟩
  rw [hCalls, hShared]
  exact h.intact

/-- After an allocation there is a buffer to write to. -/
theorem writable_allocate (h : p.Owned ids downstream) : p.allocate.Writable := by
  rcases p.allocate_cases with ⟨hHeld, hSame⟩ | ⟨_, _, hEmpty⟩ | ⟨id, queue, _, hQueue, hTaken⟩
  · rw [hSame]
    exact .inl hHeld
  · rw [hEmpty]
    exact .inr rfl
  · rw [hTaken]
    exact .inl (h.free_ne hQueue)

/-- Writing to a buffer that is held leaves those downstream alone. -/
theorem write (h : p.Owned ids downstream) (hHeld : p.currentFrameBufferId ≠ -1)
    (edit : FrameBuffer → FrameBuffer) : (p.write edit).Owned ids downstream := by
  have hReady := h.consistent.ready hHeld
  have hKept := not_dropping_of_ready hReady
  refine ⟨⟨fun _ => ⟨hReady.1, hReady.2⟩, fun hDropping => absurd hDropping hKept⟩,
    h.accounts, fun call hCall => ?_⟩
  have hLent : call.bufferId ∈ (p.ledger downstream).lent := List.mem_map_of_mem hCall
  have hOther : call.bufferId ≠ p.currentFrameBufferId := by
    intro hSame
    refine h.accounts.not_lent_of_held (held_of_ne hHeld) ?_
    rw [← hSame]
    exact hLent
  show Function.update p.sharedBuffers _ _ call.bufferId = call.buffer
  rw [Function.update_of_ne hOther]
  exact h.intact call hCall

theorem waste (h : p.Owned ids downstream) (edit : FrameBuffer → FrameBuffer) :
    (p.waste edit).Owned ids downstream :=
  ⟨⟨fun hHeld => ⟨(h.consistent.ready hHeld).1, (h.consistent.ready hHeld).2⟩,
    fun hDropping => ⟨hDropping, (h.consistent.dropping hDropping).2,
      (h.consistent.dropping hDropping).3⟩⟩, h.accounts, h.intact⟩

theorem storePayload (h : p.Owned ids downstream) (hWritable : p.Writable)
    (hStore : p.storePayload data = some p') : p'.Owned ids downstream := by
  rcases hWritable with hHeld | hDropping
  · rw [(h.consistent.ready hHeld).storePayload] at hStore
    cases hStore
    exact h.write hHeld _
  · rw [(h.consistent.dropping hDropping).storePayload] at hStore
    cases hStore
    exact h.waste _

/-- What a send of a held buffer does to the ledger. -/
theorem move_handOver (hHeld : p.currentFrameBufferId ≠ -1) (header : FrameHeader)
    (frameNumber : Int) :
    Move (p.ledger downstream) ((p.handOver header frameNumber).ledger downstream) := by
  have hBefore : p.ledger downstream = ⟨p.emptyBufferQueue, some p.currentFrameBufferId,
      (downstream ++ p.readyCalls).map ReadyCall.bufferId⟩ := by
    rw [ledger, held_of_ne hHeld]
  have hAfter : (p.handOver header frameNumber).ledger downstream = ⟨p.emptyBufferQueue, none,
      (downstream ++ p.readyCalls).map ReadyCall.bufferId ++ [p.currentFrameBufferId]⟩ := by
    rw [ledger, held_of_eq rfl]
    show Ledger.mk p.emptyBufferQueue none ((downstream ++ (p.readyCalls ++
      [p.call header frameNumber])).map ReadyCall.bufferId) = _
    rw [← List.append_assoc, List.map_append]
    rfl
  rw [hBefore, hAfter]
  exact .lend _ _ _

theorem handOver (h : p.Owned ids downstream) (hHeld : p.currentFrameBufferId ≠ -1)
    (header : FrameHeader) (frameNumber : Int) :
    (p.handOver header frameNumber).Owned ids downstream := by
  have hWritten := h.write hHeld (putHeader header)
  have hKept := not_dropping_of_ready (h.consistent.ready hHeld)
  refine ⟨⟨fun hNext => absurd rfl hNext, fun hDropping => absurd hDropping hKept⟩,
    h.accounts.moves (.single (move_handOver hHeld header frameNumber)), fun call hCall => ?_⟩
  have hCall : call ∈ downstream ++ (p.readyCalls ++ [p.call header frameNumber]) := hCall
  rw [← List.append_assoc, List.mem_append] at hCall
  rcases hCall with hEarlier | hNew
  · exact hWritten.intact call hEarlier
  · rw [List.mem_singleton.mp hNew]
    exact Function.update_self ..

/-- A send hands over the buffer that is held, or nothing while data is dropped. -/
theorem send_cases (h : p.Owned ids downstream) (hWritable : p.Writable)
    (hSend : p.send header frameNumber = some p') :
    (p.currentFrameBufferId ≠ -1 ∧ p' = p.handOver header frameNumber) ∨
      (p.droppingFrameData = true ∧ p' = p) := by
  rcases hWritable with hHeld | hDropping
  · rw [(h.consistent.ready hHeld).send] at hSend
    exact .inl ⟨hHeld, (Option.some.inj hSend).symm⟩
  · rw [(h.consistent.dropping hDropping).send] at hSend
    exact .inr ⟨hDropping, (Option.some.inj hSend).symm⟩

theorem send (h : p.Owned ids downstream) (hWritable : p.Writable)
    (hSend : p.send header frameNumber = some p') : p'.Owned ids downstream := by
  rcases h.send_cases hWritable hSend with ⟨hHeld, rfl⟩ | ⟨_, rfl⟩
  · exact h.handOver hHeld header frameNumber
  · exact h

end Owned

end BufferPool

end Eiger.Decoder
