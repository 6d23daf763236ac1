import EigerDetector.Pipeline.Receivers

/-! Where the images of a detector end up: the data of each image is handed on at most once
in the whole pipeline, and by the receiver of the rank that the image belongs to. -/
namespace Eiger.Pipeline

open CharArrays FixedWidth Rapidjson Multipart Transition Decoder

/-- The images that a receiver has handed on. -/
def imagesHanded (c : FrameReceiver) : List ReadyCall :=
  c.handed.filter fun call => call.buffer.header.messageType = .imageData

def Due.IsImage (due : Due) : Prop := due.entry.type = .imageData

instance (due : Due) : Decidable due.IsImage := inferInstanceAs (Decidable (_ = _))

/-- The call hands on the image which is the message of that number: under the frame number
that the detector gave it, and with the data that the detector sent. -/
def HandsImage (env : Fan.Environment) (messages : List (List Bytes)) (k : Nat)
    (call : ReadyCall) : Prop :=
  ∃ part1 part2 blob rest members frame,
    messages[k]? = some (part1 :: part2 :: blob :: rest) ∧
    Fan.readFirstPart env part1 = some (.image members frame) ∧
    call.header.frameNumber = frame ∧ call.buffer.payload.load blob.length = blob ∧
    (blob.length < 2 ^ 32 → call.buffer.header.dataSize = blob.length)

/-- Whatever is in the first of two related lists has a partner in the second. -/
theorem partner_of_mem {A B : Type} {related : A → B → Prop} {left : List A} {right : List B}
    (h : List.Forall₂ related left right) {a : A} (hMem : a ∈ left) : ∃ b ∈ right, related a b := by
  induction h with
  | nil => cases hMem
  | cons hHead _ ih =>
      rcases List.mem_cons.mp hMem with rfl | hMem
      · exact ⟨_, List.mem_cons_self, hHead⟩
      · obtain ⟨b, hRight, hRelated⟩ := ih hMem
        exact ⟨b, List.mem_cons_of_mem _ hRight, hRelated⟩

section Dues

variable {parse : Parser} {delivered : List (Nat × List Bytes)} {parts : List Bytes} {k : Nat}
variable {e : Entry} {rank : Nat} {history : List (Fan.Router × Fan.Delivery)}

theorem mem_dueOf {due : Due} :
    due ∈ dueOf parse delivered ↔
      (due.index, due.parts) ∈ delivered ∧ due.entry ∈ entriesOf parse due.parts := by
  rw [dueOf, List.mem_flatMap]
  constructor
  · rintro ⟨⟨k, parts⟩, hMem, hDue⟩
    obtain ⟨entry, hEntry, rfl⟩ := List.mem_map.mp hDue
    exact ⟨hMem, hEntry⟩
  · rintro ⟨hMem, hEntry⟩
    exact ⟨_, hMem, List.mem_map.mpr ⟨due.entry, hEntry, rfl⟩⟩

theorem mem_deliveredTo : (k, parts) ∈ deliveredTo rank history ↔
    ∃ r delivery, history[k]? = some (r, delivery) ∧ parts ∈ delivery.to r rank := by
  rw [deliveredTo, List.mem_flatMap]
  constructor
  · rintro ⟨⟨⟨r, delivery⟩, index⟩, hMem, hParts⟩
    obtain ⟨sent, hSent, hPair⟩ := List.mem_map.mp hParts
    cases hPair
    exact ⟨r, delivery, List.mem_zipIdx_iff_getElem?.mp hMem, hSent⟩
  · rintro ⟨r, delivery, hAt, hParts⟩
    exact ⟨((r, delivery), k), List.mem_zipIdx_iff_getElem?.mpr hAt,
      List.mem_map.mpr ⟨parts, hParts, rfl⟩⟩

/-- A message with image data is an image, and its third part is the data. -/
theorem image_entry (hEntry : e ∈ entriesOf parse parts) (hType : e.type = .imageData) :
    e = ⟨.imageData, 3, 4, some 3, none⟩ ∧ 4 ≤ parts.length ∧ ∃ frame series hash acqID,
      parts.head?.bind (readFirstPart parse) = some (.image frame series hash acqID) := by
  rw [entriesOf] at hEntry
  split at hEntry
  · cases hEntry
  · next kind hKind =>
      obtain ⟨hMem, hSent⟩ := List.mem_filter.mp hEntry
      have hSent := of_decide_eq_true hSent
      cases kind with
      | unreadable => cases hMem
      | unknown => cases hMem
      | header series detail acqID =>
          rw [FirstPart.entries] at hMem
          split at hMem
          · simp only [List.mem_cons, List.not_mem_nil, or_false] at hMem
            rcases hMem with rfl | rfl <;> cases hType
          split at hMem
          · simp only [List.mem_cons, List.not_mem_nil, or_false] at hMem
            rcases hMem with rfl | rfl <;> cases hType
          · simp only [List.mem_cons, List.not_mem_nil, or_false] at hMem
            rcases hMem with rfl | rfl | rfl | rfl | rfl <;> cases hType
      | image frame series hash acqID =>
          rw [FirstPart.entries] at hMem
          simp only [List.mem_cons, List.not_mem_nil, or_false] at hMem
          rcases hMem with rfl | rfl
          · exact ⟨rfl, hSent, frame, series, hash, acqID, hKind⟩
          · cases hType
      | endOfSeries series acqID =>
          rw [FirstPart.entries] at hMem
          rw [List.mem_singleton.mp hMem] at hType
          cases hType

/-- There is at most one of them in a message. -/
theorem image_entries_sorted (parse : Parser) (parts : List Bytes) :
    ((entriesOf parse parts).filter fun e => e.type = .imageData).Pairwise fun _ _ => False := by
  have hSorted : (entriesOf parse parts).Pairwise fun e e' => e.sentAt < e'.sentAt := by
    rw [entriesOf]
    split
    · exact .nil
    · exact (entries_sorted _).sublist List.filter_sublist
  refine (hSorted.sublist List.filter_sublist).imp_of_mem fun {e e'} hMem hMem' hBefore => ?_
  obtain ⟨hEntry, hType⟩ := List.mem_filter.mp hMem
  obtain ⟨hEntry', hType'⟩ := List.mem_filter.mp hMem'
  rw [(image_entry hEntry (of_decide_eq_true hType)).1,
    (image_entry hEntry' (of_decide_eq_true hType')).1] at hBefore
  exact Nat.lt_irrefl _ hBefore

/-- Each message is delivered to a rank at most once, in the order of the stream. -/
theorem deliveredTo_sorted (rank : Nat) (history : List (Fan.Router × Fan.Delivery)) :
    (deliveredTo rank history).Pairwise fun m m' => m.1 < m'.1 := by
  have hIndices : history.zipIdx.Pairwise fun x y => x.2 < y.2 := by
    rw [← List.pairwise_map, List.zipIdx_map_snd]
    exact List.pairwise_lt_range' ..
  rw [deliveredTo, List.pairwise_flatMap]
  refine ⟨fun x _ => ?_, hIndices.imp fun hBefore y hy z hz => ?_⟩
  · obtain ⟨⟨r, delivery⟩, k⟩ := x
    cases delivery with
    | nobody => exact .nil
    | everyone parts =>
        simp only [Fan.Delivery.to]
        split
        · exact List.pairwise_singleton _ _
        · exact .nil
    | one target parts =>
        simp only [Fan.Delivery.to]
        split
        · exact List.pairwise_singleton _ _
        · exact .nil
  · obtain ⟨_, _, rfl⟩ := List.mem_map.mp hy
    obtain ⟨_, _, rfl⟩ := List.mem_map.mp hz
    exact hBefore

/-- So is the data of each image due to it. -/
theorem imagesDue_sorted (h : delivered.Pairwise fun m m' => m.1 < m'.1) :
    ((dueOf parse delivered).filter fun due => due.IsImage).Pairwise
      fun due due' => due.index < due'.index := by
  rw [dueOf, List.filter_flatMap, List.pairwise_flatMap]
  refine ⟨fun message _ => ?_, h.imp fun hBefore due hDue due' hDue' => ?_⟩
  · rw [List.filter_map, List.pairwise_map]
    exact (image_entries_sorted parse message.2).imp False.elim
  · obtain ⟨_, _, rfl⟩ := List.mem_map.mp (List.mem_filter.mp hDue).1
    obtain ⟨_, _, rfl⟩ := List.mem_map.mp (List.mem_filter.mp hDue').1
    exact hBefore

end Dues

section Owners

variable {env : Fan.Environment} {parse : Parser} {message parts : List Bytes} {rank : Nat}
variable {r : Fan.Router} {delivery : Fan.Delivery} {e : Entry}

/-- What carries the data of an image is the image as the detector sent it, with its first part
tagged, at the rank that it belongs to. -/
theorem Routed.image (h : Routed env parse message (r, delivery))
    (hParts : parts ∈ delivery.to r rank) (hEntry : e ∈ entriesOf parse parts)
    (hType : e.type = .imageData) :
    ∃ part1 rest members frame, message = part1 :: rest ∧
      Fan.readFirstPart env part1 = some (.image members frame) ∧ rank = r.rank frame ∧
      3 ≤ rest.length ∧
      parts = Fan.taggedPart env members r.currentAcquisitionID :: rest.take 4 ∧
      ∃ series hash acqID,
        parts.head?.bind (readFirstPart parse) = some (.image frame series hash acqID) := by
  obtain ⟨_, _, number, series, hash, acqID, hImage⟩ := image_entry hEntry hType
  obtain ⟨part1, rest, first, rfl, hFirst, hDetector, hRoute⟩ := h
  simp only at hRoute
  subst hRoute
  obtain ⟨members, hMembers, hHead, _⟩ :=
    Interface.routed_parts hFirst (Interface.mem_to hParts)
  obtain ⟨kind, hTagged, hRead⟩ := hDetector.tagged hFirst hMembers
  have hKind : kind = .image number series hash acqID := by
    rw [hHead] at hImage
    exact Option.some.inj (hRead.symm.trans hImage)
  subst hKind
  cases hTagged with
  | image members _ =>
      simp only [Fan.Router.route, hFirst] at hParts
      split at hParts
      · next hLong =>
          simp only [Fan.Delivery.to] at hParts
          split at hParts
          · next hOwner =>
              rw [List.mem_singleton.mp hParts] at hImage ⊢
              exact ⟨part1, rest, members, number, rfl, hFirst, hOwner.1, hLong, rfl, series,
                hash, acqID, hImage⟩
          · cases hParts
      · cases hParts

/-- An image that is delivered has its data due to the rank. -/
theorem Routed.image_due (h : Routed env parse message (r, .one rank parts)) :
    (⟨.imageData, 3, 4, some 3, none⟩ : Entry) ∈ entriesOf parse parts := by
  obtain ⟨part1, rest, first, rfl, hFirst, hDetector, hRoute⟩ := h
  simp only [Fan.Router.route, hFirst] at hRoute
  cases first with
  | unreadable => cases hRoute
  | unknown => cases hRoute
  | header members series detail =>
      simp only at hRoute
      split at hRoute
      · cases hRoute
      split at hRoute
      · cases hRoute
      split at hRoute
      · cases hRoute
      · cases hRoute
  | image members frame =>
      simp only at hRoute
      split at hRoute
      · next hLong =>
          cases hRoute
          obtain ⟨kind, hTagged, hRead⟩ := hDetector.tagged hFirst rfl
          cases hTagged with
          | image members frame series hash acqID =>
              have hHead : (Fan.taggedPart env members r.currentAcquisitionID ::
                  rest.take 4).head?.bind (readFirstPart parse) =
                    some (.image frame series hash acqID) := hRead
              rw [entriesOf, hHead]
              refine List.mem_filter.mpr ⟨List.mem_cons_self, ?_⟩
              rw [decide_eq_true_iff, List.length_cons, List.length_take]
              show 4 ≤ _
              omega
      · cases hRoute
  | endOfSeries members => cases hRoute

/-- What carries the data of an image hands it on. -/
theorem Routed.handsImage {messages : List (List Bytes)} {k : Nat} {call : ReadyCall}
    (h : Routed env parse message (r, delivery)) (hMessage : messages[k]? = some message)
    (hParts : parts ∈ delivery.to r rank) (hEntry : e ∈ entriesOf parse parts)
    (hType : e.type = .imageData) (hCarried : (Due.mk k parts e).CarriedBy parse call) :
    HandsImage env messages k call := by
  obtain ⟨hSame, _⟩ := image_entry hEntry hType
  obtain ⟨part1, rest, members, frame, rfl, hFirst, _, hLong, rfl, series, hash, acqID, hImage⟩ :=
    h.image hParts hEntry hType
  obtain ⟨part2, blob, part4, others, rfl⟩ : ∃ part2 blob part4 others,
      rest = part2 :: blob :: part4 :: others := by
    rcases rest with _ | ⟨part2, _ | ⟨blob, _ | ⟨part4, others⟩⟩⟩
    · cases hLong
    · simp at hLong
    · simp at hLong
    · exact ⟨part2, blob, part4, others, rfl⟩
  obtain ⟨hLoad, hSize⟩ := hCarried.carries.payload 3 (by rw [hSame]; rfl) blob rfl
  exact ⟨part1, part2, blob, part4 :: others, members, frame, hMessage, hFirst,
    hCarried.number frame series hash acqID hImage, hLoad, hSize⟩

end Owners

section Pipeline

variable {env : Fan.Environment} {parse : Parser} {garbage : Uninitialised} {ids : List Nat}
variable {fan : Fan.EigerFan} {messages : List (List Bytes)} {events : List Event} {w : System}

/-- What was routed in a run are the first of the messages, one by one. -/
theorem routed_of_run (hStarts : Starts messages fan) (hIds : ids.Nodup)
    (hRun : Run (System.step env parse) (System.Allowed env parse) (.initial fan garbage ids)
      events w) {k : Nat} {routed : Fan.Router × Fan.Delivery}
    (hAt : (deliveries env fan.router messages (fanEvents events))[k]? = some routed) :
    ∃ message, messages[k]? = some message ∧ Routed env parse message routed := by
  obtain ⟨a, hFollows⟩ :=
    (follows_start hStarts hIds False).run hRun (fun _ _ h => h) False.elim
  obtain ⟨consumed, hOffered, hRouted⟩ := hFollows.routed
  rw [List.nil_append] at hRouted
  obtain ⟨hLength, hEach⟩ := List.forall₂_iff_get.mp hRouted
  obtain ⟨hk, hGet⟩ := List.getElem?_eq_some_iff.mp hAt
  have hk' : k < consumed.length := by
    rw [hLength]
    exact hk
  refine ⟨consumed[k], ?_, ?_⟩
  · rw [hOffered, List.getElem?_append_left hk']
    exact List.getElem?_eq_getElem hk'
  · rw [← hGet]
    exact hEach k hk' hk

/-- Which messages the images were that each rank has handed on: in the order of the stream,
and none at two ranks. -/
structure Origins (env : Fan.Environment) (messages : List (List Bytes)) (w : System)
    (origin : Nat → List Nat) : Prop where
  hands : ∀ rank, List.Forall₂ (HandsImage env messages) (origin rank)
    (imagesHanded (w.receivers rank))
  sorted : ∀ rank, (origin rank).Pairwise (· < ·)
  once : ∀ rank rank' k, k ∈ origin rank → k ∈ origin rank' → rank = rank'

/-- The images that were handed on have their origins in the stream, and a receiver which took
everything and never lacked a buffer left none out. -/
theorem origins_of_run (hStarts : Starts messages fan) (hIds : ids.Nodup)
    (hRun : Run (System.step env parse) (System.Allowed env parse) (.initial fan garbage ids)
      events w) :
    ∃ origin, Origins env messages w origin ∧
      (Run (System.step env parse) System.Supplied (.initial fan garbage ids) events w →
        ∀ rank, (w.receivers rank).taken = (w.fan.output rank).length →
          ∀ k r parts, (deliveries env fan.router messages (fanEvents events))[k]? =
            some (r, .one rank parts) → r.Connected rank → k ∈ origin rank) := by
  choose chosen hSub hCarried hAll using handed_of_run hStarts hIds hRun
  have hDue : ∀ rank, ∀ due ∈ (chosen rank).filter fun due => due.IsImage, due.IsImage ∧
      due.entry ∈ entriesOf parse due.parts ∧ ∃ r delivery message,
        messages[due.index]? = some message ∧ due.parts ∈ delivery.to r rank ∧
        (deliveries env fan.router messages (fanEvents events))[due.index]? =
          some (r, delivery) ∧ Routed env parse message (r, delivery) := by
    intro rank due hMem
    obtain ⟨hChosen, hImage⟩ := List.mem_filter.mp hMem
    obtain ⟨hDelivered, hEntry⟩ := mem_dueOf.mp ((hSub rank).subset hChosen)
    obtain ⟨r, delivery, hAt, hParts⟩ := mem_deliveredTo.mp hDelivered
    obtain ⟨message, hMessage, hRouted⟩ := routed_of_run hStarts hIds hRun hAt
    exact ⟨of_decide_eq_true hImage, hEntry, r, delivery, message, hMessage, hParts, hAt, hRouted⟩
  refine ⟨fun rank => ((chosen rank).filter fun due => due.IsImage).map Due.index,
    ⟨fun rank => ?_, fun rank => ?_, fun rank rank' k hMem hMem' => ?_⟩,
    fun hSupplied rank hTaken k r parts hAt hConnected => ?_⟩
  · rw [List.forall₂_map_left_iff]
    have hImages : List.Forall₂ (Due.CarriedBy parse)
        ((chosen rank).filter fun due => due.IsImage) (imagesHanded (w.receivers rank)) := by
      refine List.rel_filter (fun due call hCall => ?_) (hCarried rank)
      show decide due.IsImage = true ↔ decide (_ = _) = true
      rw [decide_eq_true_iff, decide_eq_true_iff, hCall.carries.type]
      exact Iff.rfl
    refine ((List.forall₂_and_left _ _).mpr ⟨hDue rank, hImages⟩).imp fun due call hBoth => ?_
    obtain ⟨⟨hImage, hEntry, r, delivery, message, hMessage, hParts, _, hRouted⟩, hCall⟩ := hBoth
    exact hRouted.handsImage hMessage hParts hEntry hImage hCall
  · rw [List.pairwise_map]
    exact (imagesDue_sorted (deliveredTo_sorted rank _)).sublist ((hSub rank).filter _)
  · obtain ⟨due, hDueMem, rfl⟩ := List.mem_map.mp hMem
    obtain ⟨due', hDueMem', hIndex⟩ := List.mem_map.mp hMem'
    obtain ⟨hImage, hEntry, r, delivery, message, hMessage, hParts, hAt, hRouted⟩ :=
      hDue rank due hDueMem
    obtain ⟨hImage', hEntry', r', delivery', message', hMessage', hParts', hAt', hRouted'⟩ :=
      hDue rank' due' hDueMem'
    rw [hIndex] at hMessage' hAt'
    cases hMessage.symm.trans hMessage'
    cases hAt.symm.trans hAt'
    obtain ⟨part1, rest, members, frame, rfl, hFirst, hOwner, _⟩ :=
      hRouted.image hParts hEntry hImage
    obtain ⟨_, _, members', frame', hSame, hFirst', hOwner', _⟩ :=
      hRouted'.image hParts' hEntry' hImage'
    cases hSame
    cases hFirst.symm.trans hFirst'
    rw [hOwner, hOwner']
  · obtain ⟨message, _, hRouted⟩ := routed_of_run hStarts hIds hRun hAt
    refine List.mem_map.mpr ⟨⟨k, parts, ⟨.imageData, 3, 4, some 3, none⟩⟩, ?_, rfl⟩
    refine List.mem_filter.mpr ⟨?_, decide_eq_true rfl⟩
    rw [hAll rank hSupplied hTaken]
    refine mem_dueOf.mpr ⟨mem_deliveredTo.mpr ⟨r, _, hAt, ?_⟩, hRouted.image_due⟩
    rw [Fan.Delivery.to, if_pos ⟨rfl, hConnected⟩]
    exact List.mem_singleton_self parts

/-- In every interleaving, each image that a receiver has handed on is one of the messages of
the detector, with its frame number and its data as they were sent. A receiver hands images
on in the order of the stream, and no image is handed on twice, by one receiver or by two.
None is left out by a receiver that has taken all parts and never lacked a buffer. -/
theorem images_handed_once (hStarts : Starts messages fan) (hIds : ids.Nodup)
    (hRun : Run (System.step env parse) (System.Allowed env parse) (.initial fan garbage ids)
      events w) :
    ∃ origin : Nat → List Nat,
      (∀ rank, List.Forall₂ (HandsImage env messages) (origin rank)
        (imagesHanded (w.receivers rank)) ∧ (origin rank).Pairwise (· < ·)) ∧
      (∀ rank rank' k, k ∈ origin rank → k ∈ origin rank' → rank = rank') ∧
      (Run (System.step env parse) System.Supplied (.initial fan garbage ids) events w →
        ∀ rank, (w.receivers rank).taken = (w.fan.output rank).length →
          ∀ k r parts, (deliveries env fan.router messages (fanEvents events))[k]? =
            some (r, .one rank parts) → r.Connected rank → k ∈ origin rank) := by
  obtain ⟨origin, hOrigins, hAll⟩ := origins_of_run hStarts hIds hRun
  exact ⟨origin, fun rank => ⟨hOrigins.hands rank, hOrigins.sorted rank⟩, hOrigins.once, hAll⟩

end Pipeline

theorem sample_image_handed :
    ∃ w origin, Run (System.step sampleEnvironment sampleParser)
        (System.Allowed sampleEnvironment sampleParser) (.initial sampleFan zeroed [0, 1])
        sampleEvents w ∧
      List.Forall₂ (HandsImage sampleEnvironment sampleMessages) origin
        (imagesHanded (w.receivers 1)) ∧ 1 ∈ origin := by
  obtain ⟨w, hRun, hTaken⟩ := sampleRun
  have hAllowed := hRun.mono fun _ _ h => h.1
  obtain ⟨origin, hHanded, _, hAll⟩ := images_handed_once sampleStarts (by decide) hAllowed
  obtain ⟨r, parts, hAt, hConnected⟩ : ∃ r parts,
      (deliveries sampleEnvironment sampleFan.router sampleMessages (fanEvents sampleEvents))[1]? =
        some (r, .one 1 parts) ∧ r.Connected 1 := ⟨_, _, rfl, rfl⟩
  exact ⟨w, origin 1, hAllowed, (hHanded 1).1,
    hAll (hRun.mono fun _ _ h => h.2) 1 hTaken 1 r parts hAt hConnected⟩

end Eiger.Pipeline
