import EigerDetector.Decoder.Sends

/-! The buffers that each kind of message is to be handed over in. -/
namespace Eiger.Decoder

open CharArrays FixedWidth Rapidjson Transition

/-- A buffer that a message fills: its type, the parts at which it is allocated and
sent, the part behind its header and the part its header describes, by number. -/
structure Entry where
  type : EigerMessageType
  allocatedAt : Nat
  sentAt : Nat
  carried : Option Nat
  described : Option Nat

/-- The buffers of a message that begins with this part, as far as it goes. -/
def FirstPart.entries : FirstPart → List Entry
  | unreadable => []
  | unknown => []
  | header _ detail _ =>
      if detail = headerDetailNone then
        [⟨.globalHeaderNone, 1, 1, none, none⟩, ⟨.globalHeaderAppendix, 2, 2, some 2, none⟩]
      else if detail = headerDetailBasic then
        [⟨.globalHeaderConfig, 2, 2, some 2, none⟩,
          ⟨.globalHeaderAppendix, 3, 3, some 3, none⟩]
      else
        [⟨.globalHeaderConfig, 2, 2, some 2, none⟩,
          ⟨.globalHeaderFlatfield, 4, 4, some 4, some 3⟩,
          ⟨.globalHeaderMask, 6, 6, some 6, some 5⟩,
          ⟨.globalHeaderCountrate, 8, 8, some 8, some 7⟩,
          ⟨.globalHeaderAppendix, 9, 9, some 9, none⟩]
  | image .. => [⟨.imageData, 3, 4, some 3, none⟩, ⟨.imageAppendix, 5, 5, some 5, none⟩]
  | endOfSeries .. => [⟨.endOfStream, 1, 1, none, none⟩]

/-- The item of that number; the first one has the number 1. -/
def numbered {α : Type*} (items : List α) (n : Nat) : Option α := items[n - 1]?

/-- The parts that arrived include the one at which the buffer is sent, and a buffer
was available at the one that allocates it. -/
def Entry.due (arrivals : List Arrival) (e : Entry) : Bool :=
  e.sentAt ≤ arrivals.length && (numbered arrivals e.allocatedAt).any Arrival.available

/-- The header carries the shape and the type of the document. -/
structure Describes (doc : Value) (h : FrameHeader) : Prop where
  shape : ∀ shape ∈ doc.member shapeKey,
    match shape.elements? with
    | some (s0 :: s1 :: _) => ∃ x y, s0.getInt = some x ∧ s1.getInt = some y ∧
        h.shapeSizeX = toUInt32 x ∧ h.shapeSizeY = toUInt32 y ∧ h.shapeSizeZ = 0
    | _ => h.shapeSizeX = 0 ∧ h.shapeSizeY = 0 ∧ h.shapeSizeZ = 0
  type : ∀ type ∈ (doc.member dataTypeKey).bind Value.getString, h.dataType.text = type.take 7

/-- What a call hands over for an entry, given the parts of the message. -/
structure Carries (parse : Parser) (parts : List Bytes) (e : Entry) (call : ReadyCall) :
    Prop where
  type : call.buffer.header.messageType = e.type
  payload : ∀ n ∈ e.carried, ∀ part ∈ numbered parts n,
    call.buffer.payload.load part.length = part ∧
      (part.length < 2 ^ 32 → call.buffer.header.dataSize = part.length)
  description : ∀ n ∈ e.described, ∀ part ∈ numbered parts n,
    ∀ doc ∈ parse (cString part), Describes doc call.buffer.header

/-- The calls for the message at hand are for the buffers that are due. -/
def Emitted (parse : Parser) (r : Receiver) : Prop :=
  ∀ kind, r.parts.head?.bind (readFirstPart parse) = some kind →
    List.Forall₂ (Carries parse r.parts) (kind.entries.filter fun e => e.due r.arrivals) r.calls

section Entries

variable {parse : Parser} {kind : FirstPart} {e : Entry}

theorem numbered_append {α : Type*} {items : List α} {n : Nat} (hLow : 1 ≤ n)
    (hHigh : n ≤ items.length) (more : List α) : numbered (items ++ more) n = numbered items n :=
  List.getElem?_append_left (by omega)

theorem numbered_concat {α : Type*} (items : List α) (x : α) :
    numbered (items ++ [x]) (items.length + 1) = some x := by
  rw [numbered, Nat.add_sub_cancel]
  exact List.getElem?_concat_length

theorem numbered_map {α β : Type*} (f : α → β) (items : List α) (n : Nat) :
    numbered (items.map f) n = (numbered items n).map f := List.getElem?_map

/-- The numbers in an entry stay within the message up to where it is sent. -/
structure Entry.Ordered (e : Entry) : Prop where
  allocated : 1 ≤ e.allocatedAt ∧ e.allocatedAt ≤ e.sentAt
  carried : ∀ n ∈ e.carried, 1 ≤ n ∧ n ≤ e.sentAt
  described : ∀ n ∈ e.described, 1 ≤ n ∧ n ≤ e.sentAt

theorem entries_ordered (hMem : e ∈ kind.entries) : e.Ordered := by
  have hNone : ∀ type n, (Entry.mk type (n + 1) (n + 1) none none).Ordered := fun type n =>
    ⟨⟨Nat.succ_pos _, le_refl _⟩, nofun, nofun⟩
  have hSelf : ∀ type n, (Entry.mk type (n + 1) (n + 1) (some (n + 1)) none).Ordered :=
    fun type n => ⟨⟨Nat.succ_pos _, le_refl _⟩, by rintro _ ⟨⟩; simp, nofun⟩
  have hData : ∀ type n, (Entry.mk type (n + 2) (n + 2) (some (n + 2)) (some (n + 1))).Ordered :=
    fun type n => ⟨⟨Nat.succ_pos _, le_refl _⟩, by rintro _ ⟨⟩; simp, by rintro _ ⟨⟩; simp⟩
  cases kind with
  | unreadable => cases hMem
  | unknown => cases hMem
  | header series detail acqID =>
      rw [FirstPart.entries] at hMem
      split at hMem
      · simp only [List.mem_cons, List.not_mem_nil, or_false] at hMem
        rcases hMem with rfl | rfl
        · exact hNone _ 0
        · exact hSelf _ 1
      split at hMem
      · simp only [List.mem_cons, List.not_mem_nil, or_false] at hMem
        rcases hMem with rfl | rfl
        · exact hSelf _ 1
        · exact hSelf _ 2
      · simp only [List.mem_cons, List.not_mem_nil, or_false] at hMem
        rcases hMem with rfl | rfl | rfl | rfl | rfl
        · exact hSelf _ 1
        · exact hData _ 2
        · exact hData _ 4
        · exact hData _ 6
        · exact hSelf _ 8
  | image frame series hash acqID =>
      rw [FirstPart.entries] at hMem
      simp only [List.mem_cons, List.not_mem_nil, or_false] at hMem
      rcases hMem with rfl | rfl
      · exact ⟨⟨by decide, by decide⟩, by rintro _ ⟨⟩; decide, nofun⟩
      · exact hSelf _ 4
  | endOfSeries series acqID =>
      rw [FirstPart.entries] at hMem
      rw [List.mem_singleton.mp hMem]
      exact hNone _ 0

theorem entries_sorted (kind : FirstPart) :
    kind.entries.Pairwise fun e e' => e.sentAt < e'.sentAt := by
  cases kind with
  | unreadable => exact .nil
  | unknown => exact .nil
  | header series detail acqID =>
      rw [FirstPart.entries]
      split
      · simp
      · split
        · simp
        · simp
  | image frame series hash acqID => simp [FirstPart.entries]
  | endOfSeries series acqID => simp [FirstPart.entries]

/-- In a list that is sorted by a number, a filter which lets one more number pass
adds what has this number. -/
theorem filter_sorted {α : Type*} {f : α → Nat} {q q' : α → Bool} {k : Nat} {items : List α}
    (hSorted : items.Pairwise fun x y => f x < f y)
    (hSame : ∀ x ∈ items, f x ≤ k → q' x = q x) (hOld : ∀ x, k < f x → q x = false)
    (hNew : ∀ x, k + 1 < f x → q' x = false) :
    items.filter q' = items.filter q ++ (items.filter fun x => f x = k + 1).filter q' := by
  induction items with
  | nil => rfl
  | cons x items ih =>
      obtain ⟨hFirst, hRest⟩ := List.pairwise_cons.mp hSorted
      have hTail := ih hRest fun y hy => hSame y (List.mem_cons_of_mem x hy)
      rcases Nat.lt_trichotomy (f x) (k + 1) with hBelow | hAt | hAbove
      · have hNo : ¬ f x = k + 1 := by omega
        rw [List.filter_cons, List.filter_cons, List.filter_cons,
          hSame x List.mem_cons_self (by omega),
          if_neg (show ¬ decide (f x = k + 1) = true by simp [hNo]), hTail]
        split <;> rfl
      · have hNone : items.filter q = [] := List.filter_eq_nil_iff.mpr fun y hy => by
          rw [hOld y (by have := hFirst y hy; omega)]
          exact Bool.false_ne_true
        have hNone' : items.filter q' = [] := List.filter_eq_nil_iff.mpr fun y hy => by
          rw [hNew y (by have := hFirst y hy; omega)]
          exact Bool.false_ne_true
        have hOnly : items.filter (fun y => f y = k + 1) = [] :=
          List.filter_eq_nil_iff.mpr fun y hy => by
            have hLater := hFirst y hy
            simp only [decide_eq_true_eq]
            omega
        have hHead : q x = false := hOld x (by omega)
        simp [List.filter_cons, hHead, hAt, hNone, hNone', hOnly]
      · have hHead : q x = false := hOld x (by omega)
        have hHead' : q' x = false := hNew x hAbove
        have hNo : ¬ f x = k + 1 := by omega
        rw [List.filter_cons, List.filter_cons, List.filter_cons, hHead, hHead', hTail]
        simp [hNo]

/-- What is due after one more part. -/
theorem filter_due_concat (kind : FirstPart) (arrivals : List Arrival) (arrival : Arrival) :
    (kind.entries.filter fun e => e.due (arrivals ++ [arrival])) =
      (kind.entries.filter fun e => e.due arrivals) ++
        (kind.entries.filter fun e => e.sentAt = arrivals.length + 1).filter
          fun e => e.due (arrivals ++ [arrival]) := by
  refine filter_sorted (entries_sorted kind) (fun e hMem hOld => ?_) (fun e hLater => ?_)
    fun e hLater => ?_
  · obtain ⟨hLow, hHigh⟩ := (entries_ordered hMem).allocated
    rw [Entry.due, Entry.due, numbered_append hLow (hHigh.trans hOld), List.length_append]
    simp only [decide_eq_true hOld, Bool.true_and,
      decide_eq_true (show e.sentAt ≤ arrivals.length + [arrival].length by omega)]
  · have hNot : ¬ e.sentAt ≤ arrivals.length := by omega
    rw [Entry.due, decide_eq_false hNot, Bool.false_and]
  · have hNot : ¬ e.sentAt ≤ (arrivals ++ [arrival]).length := by
      rw [List.length_append, List.length_singleton]
      omega
    rw [Entry.due, decide_eq_false hNot, Bool.false_and]

/-- More parts change nothing about what was carried before. -/
theorem Carries.mono {parts : List Bytes} {call : ReadyCall} (h : Carries parse parts e call)
    (hOrdered : e.Ordered) (hSent : e.sentAt ≤ parts.length) (more : List Bytes) :
    Carries parse (parts ++ more) e call := by
  refine ⟨h.type, fun n hn => ?_, fun n hn => ?_⟩
  · obtain ⟨hLow, hHigh⟩ := hOrdered.carried n hn
    rw [numbered_append hLow (hHigh.trans hSent)]
    exact h.payload n hn
  · obtain ⟨hLow, hHigh⟩ := hOrdered.described n hn
    rw [numbered_append hLow (hHigh.trans hSent)]
    exact h.description n hn

/-- The calls of one more part are for the buffers that are sent at it. -/
theorem emitted_concat {arrivals : List Arrival} {arrival : Arrival} {calls : List ReadyCall}
    (hOld : List.Forall₂ (Carries parse (arrivals.map Arrival.part))
      (kind.entries.filter fun e => e.due arrivals) calls)
    (hNew : List.Forall₂ (Carries parse ((arrivals ++ [arrival]).map Arrival.part))
      ((kind.entries.filter fun e => e.sentAt = arrivals.length + 1).filter
        fun e => e.due (arrivals ++ [arrival])) arrival.calls) :
    List.Forall₂ (Carries parse ((arrivals ++ [arrival]).map Arrival.part))
      (kind.entries.filter fun e => e.due (arrivals ++ [arrival])) (calls ++ arrival.calls) := by
  rw [filter_due_concat]
  refine List.rel_append ?_ hNew
  rw [List.forall₂_iff_get] at hOld ⊢
  obtain ⟨hLength, hCarries⟩ := hOld
  refine ⟨hLength, fun i hi hi' => ?_⟩
  have hMem := List.get_mem (kind.entries.filter fun e => e.due arrivals) ⟨i, hi⟩
  obtain ⟨hEntry, hDue⟩ := List.mem_filter.mp hMem
  have hSent : ((kind.entries.filter fun e => e.due arrivals).get ⟨i, hi⟩).sentAt ≤
      (arrivals.map Arrival.part).length := by
    rw [List.length_map]
    exact of_decide_eq_true (Bool.and_eq_true_iff.mp hDue).1
  rw [List.map_append]
  exact (hCarries i hi hi').mono (entries_ordered hEntry) hSent _

/-- The one buffer that is sent at a part is sent if there was one to allocate. -/
theorem emitted_one {arrivals : List Arrival} {arrival allocator : Arrival}
    (hAt : (kind.entries.filter fun e => e.sentAt = arrivals.length + 1) = [e])
    (hAllocator : numbered (arrivals ++ [arrival]) e.allocatedAt = some allocator)
    (hSilent : allocator.available = false → arrival.calls = [])
    (hCall : allocator.available = true → ∃ call, arrival.calls = [call] ∧
      Carries parse ((arrivals ++ [arrival]).map Arrival.part) e call) :
    List.Forall₂ (Carries parse ((arrivals ++ [arrival]).map Arrival.part))
      ((kind.entries.filter fun e => e.sentAt = arrivals.length + 1).filter
        fun e => e.due (arrivals ++ [arrival])) arrival.calls := by
  have hMem : e ∈ kind.entries.filter fun e => e.sentAt = arrivals.length + 1 := by
    rw [hAt]
    exact List.mem_cons_self
  have hSent : e.sentAt = arrivals.length + 1 := of_decide_eq_true (List.mem_filter.mp hMem).2
  have hDue : e.due (arrivals ++ [arrival]) = allocator.available := by
    rw [Entry.due, hSent, hAllocator, List.length_append, List.length_singleton]
    simp
  rw [hAt]
  cases hAvailable : allocator.available with
  | false =>
      rw [hSilent hAvailable, List.filter_cons, hDue, hAvailable]
      exact .nil
  | true =>
      obtain ⟨call, hCalls, hCarries⟩ := hCall hAvailable
      rw [hCalls, List.filter_cons, hDue, hAvailable]
      exact .cons hCarries .nil

/-- No buffer is sent at a part, and no call is made. -/
theorem emitted_none {arrivals : List Arrival} {arrival : Arrival}
    (hAt : (kind.entries.filter fun e => e.sentAt = arrivals.length + 1) = [])
    (hCalls : arrival.calls = []) :
    List.Forall₂ (Carries parse ((arrivals ++ [arrival]).map Arrival.part))
      ((kind.entries.filter fun e => e.sentAt = arrivals.length + 1).filter
        fun e => e.due (arrivals ++ [arrival])) arrival.calls := by
  rw [hAt, hCalls]
  exact .nil

theorem describes_of_read {doc : Value} {h h' : FrameHeader}
    (hRead : readDataHeader doc h = some h') : Describes doc h' := by
  obtain ⟨shape, hShape, hRead⟩ := Option.bind_eq_some_iff.mp hRead
  obtain ⟨h₁, hSizes, hType⟩ := Option.bind_eq_some_iff.mp hRead
  obtain ⟨type, hText, hType⟩ := Option.bind_eq_some_iff.mp hType
  cases hType
  constructor
  · intro other hOther
    cases hShape.symm.trans hOther
    unfold readDataShape at hSizes
    generalize shape.elements? = elements at hSizes ⊢
    rcases elements with _ | _ | ⟨s0, _ | ⟨s1, more⟩⟩
    · cases hSizes
      exact ⟨rfl, rfl, rfl⟩
    · cases hSizes
      exact ⟨rfl, rfl, rfl⟩
    · cases hSizes
      exact ⟨rfl, rfl, rfl⟩
    · obtain ⟨x, hx, hSizes⟩ := Option.bind_eq_some_iff.mp hSizes
      obtain ⟨y, hy, hSizes⟩ := Option.bind_eq_some_iff.mp hSizes
      cases hSizes
      exact ⟨x, y, hx, hy, rfl, rfl, rfl⟩
  · intro other hOther
    cases hText.symm.trans hOther
    refine text_strncpy_terminated ?_ 7
    obtain ⟨value, _, hString⟩ := Option.bind_eq_some_iff.mp hText
    exact Value.getString_nulFree hString

end Entries

end Eiger.Decoder
