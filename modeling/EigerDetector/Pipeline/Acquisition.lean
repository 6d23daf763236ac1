import EigerDetector.Meta.Handlers
import EigerDetector.Pipeline.Images

/-! From the messages of a detector to the rows of the meta writer: fan, frame receivers,
process plugins and meta writer in a chain. -/
namespace Eiger.Pipeline

open CharArrays FixedWidth Rapidjson Multipart Transition Decoder MetaWriter Join

/-- The message of an image as the detector sends it, and what it says once its first part
has this acquisition ID. -/
def SentAs (env : Fan.Environment) (parse : Parser) (id : Bytes) (message : List Bytes)
    (m : ImageMessage) : Prop :=
  m.Fits ∧ ∃ part1 part2 part4 more members,
    message = part1 :: part2 :: m.blob :: part4 :: more ∧
    env.parse (cString part1) = some (.object members) ∧
    m.FirstSays (.object (members ++ [(acquisitionIDKey, .string id)])) ∧
    (∃ doc, parse (cString part2) = some doc ∧ m.SecondSays doc) ∧
    ∃ doc, parse (cString part4) = some doc ∧ m.FourthSays doc

/-- The message was dealt to one rank, and this was connected. -/
def isDealt : Option (Fan.Router × Fan.Delivery) → Bool
  | some (r, .one rank _) => decide (r.Connected rank)
  | _ => false

/-- The numbers of the messages that were dealt to a connected rank. -/
def dealt (history : List (Fan.Router × Fan.Delivery)) : List Nat :=
  (List.range history.length).filter fun k => isDealt history[k]?

/-- An acquisition: each image that is dealt says what is said of it, belongs to the series
and has a frame number of its own. -/
structure Acquires (env : Fan.Environment) (parse : Parser) (messages : List (List Bytes))
    (history : List (Fan.Router × Fan.Delivery)) (series : Nat) (said : Nat → ImageMessage) :
    Prop where
  sent : ∀ k r rank parts message, history[k]? = some (r, .one rank parts) →
    messages[k]? = some message → SentAs env parse r.currentAcquisitionID message (said k)
  series : ∀ k ∈ dealt history, (said k).series = series
  distinct : ∀ k ∈ dealt history, ∀ k' ∈ dealt history, (said k).frame = (said k').frame → k = k'

/-- What the meta writer writes of an image: its own values at the offset of its frame. -/
def rowSaid (m : ImageMessage) (offset : Int) : Write PyValue :=
  ⟨offset, [("start_time", some (.int m.startTime)), ("stop_time", some (.int m.stopTime)),
    ("real_time", some (.int m.realTime)), ("size", some (.int m.size)),
    ("hash", some (.str m.hash)), ("encoding", some (.str m.encoding)),
    ("type", some (.str m.dataType))]⟩

section Dealing

variable {env : Fan.Environment} {parse : Parser} {message parts : List Bytes} {rank k : Nat}
variable {r : Fan.Router} {delivery : Fan.Delivery} {e : Entry}
variable {history : List (Fan.Router × Fan.Delivery)} {m : ImageMessage}

theorem mem_dealt : k ∈ dealt history ↔
    ∃ r rank parts, history[k]? = some (r, .one rank parts) ∧ r.Connected rank := by
  rw [dealt, List.mem_filter, List.mem_range]
  constructor
  · rintro ⟨hk, hDealt⟩
    obtain ⟨⟨r, delivery⟩, hAt⟩ : ∃ routed, history[k]? = some routed :=
      ⟨_, List.getElem?_eq_getElem hk⟩
    rw [hAt] at hDealt
    cases delivery with
    | nobody => cases hDealt
    | everyone parts => cases hDealt
    | one rank parts => exact ⟨r, rank, parts, hAt, of_decide_eq_true hDealt⟩
  · rintro ⟨r, rank, parts, hAt, hConnected⟩
    refine ⟨(List.getElem?_eq_some_iff.mp hAt).1, ?_⟩
    rw [hAt]
    exact decide_eq_true hConnected

theorem dealt_nodup (history : List (Fan.Router × Fan.Delivery)) : (dealt history).Nodup :=
  List.nodup_range.filter _

/-- The data of an image is dealt to one rank. -/
theorem Routed.dealt (h : Routed env parse message (r, delivery))
    (hParts : parts ∈ delivery.to r rank) (hEntry : e ∈ entriesOf parse parts)
    (hType : e.type = .imageData) : delivery = .one rank parts ∧ r.Connected rank := by
  obtain ⟨part1, rest, members, frame, rfl, hFirst, _, hLong, _⟩ := h.image hParts hEntry hType
  obtain ⟨_, _, _, hSame, _, _, hRoute⟩ := h
  cases hSame
  simp only [Fan.Router.route, hFirst, if_pos hLong] at hRoute
  subst hRoute
  simp only [Fan.Delivery.to] at hParts
  split at hParts
  · next hOwner =>
      rw [List.mem_singleton.mp hParts, ← hOwner.1]
      exact ⟨rfl, hOwner.2⟩
  · cases hParts

/-- The parts that are dealt of an image say what the detector said. -/
theorem Routed.saidBy (h : Routed env parse message (r, delivery))
    (hParts : parts ∈ delivery.to r rank) (hEntry : e ∈ entriesOf parse parts)
    (hType : e.type = .imageData) (hSent : SentAs env parse r.currentAcquisitionID message m) :
    m.SaidBy parse parts := by
  obtain ⟨part1, rest, members, frame, rfl, hFirst, _, hLong, rfl, _⟩ :=
    h.image hParts hEntry hType
  obtain ⟨hFits, _, part2, part4, more, members', hMessage, hDoc, hSays, hSecond, hFourth⟩ := hSent
  cases hMessage
  obtain ⟨_, _, first, hSame, hRead, hDetector, _⟩ := h
  cases hSame
  cases hFirst.symm.trans hRead
  have hReads := Fan.readFirstPart_reads hFirst
  rw [hDoc] at hReads
  cases hReads
  have hTagged := hDetector.readBack _ rfl
  exact ⟨hFits, _, part2, part4, more.take 1, rfl, ⟨_, hTagged, hSays⟩, hSecond, hFourth⟩

/-- Nothing connects another rank than those that are there. -/
theorem deliveries_connected {messages : List (List Bytes)} {events : List Fan.Event}
    {r : Fan.Router} {routed : Fan.Router × Fan.Delivery}
    (hMem : routed ∈ deliveries env r messages events) :
    routed.1.connected.length = r.connected.length := by
  induction events generalizing r messages with
  | nil => cases hMem
  | cons event events ih =>
      cases event with
      | change change =>
          rw [ih hMem]
          cases change <;> simp [Fan.Router.change]
      | receive =>
          rcases messages with _ | ⟨_ | ⟨part1, rest⟩, messages⟩
          · cases hMem
          · cases hMem
          · rcases List.mem_cons.mp hMem with rfl | hMem
            · rfl
            · rw [ih hMem, (Fan.Router.after_fixed env r part1).2.2]

end Dealing

section Ranks

variable {env : Fan.Environment} {parse : Parser} {garbage : Uninitialised} {ids : List Nat}
variable {fan : Fan.EigerFan} {messages : List (List Bytes)} {events : List Event} {w : System}
variable {series : Nat} {said : Nat → ImageMessage} {rank : Nat}

/-- The images due to a rank, by their numbers in the stream. -/
def imagesDue (env : Fan.Environment) (parse : Parser) (fan : Fan.EigerFan)
    (messages : List (List Bytes)) (events : List Event) (rank : Nat) : List Nat :=
  ((dueTo env parse fan messages events rank).filter fun due => due.IsImage).map Due.index

/-- What is due for an image was dealt to the rank as the detector sent it. -/
theorem dealt_of_due (hStarts : Starts messages fan) (hIds : ids.Nodup)
    (hRun : Run (System.step env parse) (System.Allowed env parse) (.initial fan garbage ids)
      events w) {due : Due} (hDue : due ∈ dueTo env parse fan messages events rank)
    (hImage : due.IsImage) :
    ∃ r message,
      (deliveries env fan.router messages (fanEvents events))[due.index]? =
        some (r, .one rank due.parts) ∧ r.Connected rank ∧ messages[due.index]? = some message ∧
      ∀ m, SentAs env parse r.currentAcquisitionID message m → m.SaidBy parse due.parts := by
  obtain ⟨hDelivered, hEntry⟩ := mem_dueOf.mp hDue
  obtain ⟨r, delivery, hAt, hParts⟩ := mem_deliveredTo.mp hDelivered
  obtain ⟨message, hMessage, hRouted⟩ := routed_of_run hStarts hIds hRun hAt
  obtain ⟨rfl, hConnected⟩ := hRouted.dealt hParts hEntry hImage
  exact ⟨r, message, hAt, hConnected, hMessage,
    fun m hSent => hRouted.saidBy hParts hEntry hImage hSent⟩

theorem mem_imagesDue (hStarts : Starts messages fan) (hIds : ids.Nodup)
    (hRun : Run (System.step env parse) (System.Allowed env parse) (.initial fan garbage ids)
      events w) {k : Nat} :
    k ∈ imagesDue env parse fan messages events rank ↔ ∃ r parts,
      (deliveries env fan.router messages (fanEvents events))[k]? = some (r, .one rank parts) ∧
        r.Connected rank := by
  constructor
  · intro hMem
    obtain ⟨due, hDue, rfl⟩ := List.mem_map.mp hMem
    obtain ⟨hDue, hImage⟩ := List.mem_filter.mp hDue
    obtain ⟨r, _, hAt, hConnected, _⟩ :=
      dealt_of_due hStarts hIds hRun hDue (of_decide_eq_true hImage)
    exact ⟨r, due.parts, hAt, hConnected⟩
  · rintro ⟨r, parts, hAt, hConnected⟩
    obtain ⟨message, _, hRouted⟩ := routed_of_run hStarts hIds hRun hAt
    refine List.mem_map.mpr ⟨⟨k, parts, ⟨.imageData, 3, 4, some 3, none⟩⟩, ?_, rfl⟩
    refine List.mem_filter.mpr ⟨?_, decide_eq_true rfl⟩
    refine mem_dueOf.mpr ⟨mem_deliveredTo.mpr ⟨r, _, hAt, ?_⟩, hRouted.image_due⟩
    rw [Fan.Delivery.to, if_pos ⟨rfl, hConnected⟩]
    exact List.mem_singleton_self parts

/-- The images due to all ranks are those that were dealt, each once. -/
theorem imagesDue_perm (hStarts : Starts messages fan) (hIds : ids.Nodup)
    (hRun : Run (System.step env parse) (System.Allowed env parse) (.initial fan garbage ids)
      events w) :
    ((List.range fan.consumers.length).flatMap (imagesDue env parse fan messages events)).Perm
      (dealt (deliveries env fan.router messages (fanEvents events))) := by
  refine (List.perm_ext_iff_of_nodup ?_ (dealt_nodup _)).mpr fun k => ?_
  · refine List.nodup_flatMap.mpr ⟨fun rank _ => ?_, ?_⟩
    · have hSorted : (imagesDue env parse fan messages events rank).Pairwise (· < ·) := by
        rw [imagesDue, List.pairwise_map]
        exact imagesDue_sorted (deliveredTo_sorted rank _)
      exact hSorted.imp fun hLess => Nat.ne_of_lt hLess
    · refine List.nodup_range.imp fun {rank rank'} hOther k hMem hMem' => ?_
      obtain ⟨r, parts, hAt, _⟩ := (mem_imagesDue hStarts hIds hRun).mp hMem
      obtain ⟨r', parts', hAt', _⟩ := (mem_imagesDue hStarts hIds hRun).mp hMem'
      cases hAt.symm.trans hAt'
      exact hOther rfl
  · rw [List.mem_flatMap, mem_dealt]
    constructor
    · rintro ⟨rank, _, hMem⟩
      obtain ⟨r, parts, hAt, hConnected⟩ := (mem_imagesDue hStarts hIds hRun).mp hMem
      exact ⟨r, rank, parts, hAt, hConnected⟩
    · rintro ⟨r, rank, parts, hAt, hConnected⟩
      refine ⟨rank, List.mem_range.mpr ?_, (mem_imagesDue hStarts hIds hRun).mpr
        ⟨r, parts, hAt, hConnected⟩⟩
      have hLength := deliveries_connected (List.mem_of_getElem? hAt)
      have hRank := (List.getElem?_eq_some_iff.mp hConnected).1
      rw [hLength, Fan.EigerFan.router, List.length_map] at hRank
      exact hRank

/-- A receiver that took everything and never lacked a buffer has handed on all images due to
it, each under the header that it says and with its blob. -/
theorem images_headed (hStarts : Starts messages fan) (hIds : ids.Nodup)
    (hRun : Run (System.step env parse) (System.Allowed env parse) (.initial fan garbage ids)
      events w)
    (hSupplied : Run (System.step env parse) System.Supplied (.initial fan garbage ids) events w)
    (hTaken : (w.receivers rank).taken = (w.fan.output rank).length)
    (hAcquires : Acquires env parse messages
      (deliveries env fan.router messages (fanEvents events)) series said) :
    List.Forall₂ (fun k call => call.buffer.header = (said k).header ∧ (said k).Fits ∧
        call.buffer.payload.load (said k).blob.length = (said k).blob)
      (imagesDue env parse fan messages events rank) (imagesHanded (w.receivers rank)) := by
  obtain ⟨chosen, _, hCarried, hAll⟩ := handed_of_run hStarts hIds hRun rank
  rw [hAll hSupplied hTaken] at hCarried
  have hImages : List.Forall₂ (Due.CarriedBy parse)
      ((dueTo env parse fan messages events rank).filter fun due => due.IsImage)
      (imagesHanded (w.receivers rank)) := by
    refine List.rel_filter (fun due call hCall => ?_) hCarried
    show decide due.IsImage = true ↔ decide (_ = _) = true
    rw [decide_eq_true_iff, decide_eq_true_iff, hCall.carries.type]
    exact Iff.rfl
  rw [imagesDue, List.forall₂_map_left_iff]
  refine ((List.forall₂_and_left _ _).mpr ⟨fun due hMem => hMem, hImages⟩).imp
    fun due call hBoth => ?_
  obtain ⟨hMem, hCall⟩ := hBoth
  obtain ⟨hDue, hImage⟩ := List.mem_filter.mp hMem
  have hImage := of_decide_eq_true hImage
  obtain ⟨r, message, hAt, _, hMessage, hSaid⟩ := dealt_of_due hStarts hIds hRun hDue hImage
  have hSaid := hSaid _ (hAcquires.sent _ _ _ _ _ hAt hMessage)
  have hEntry := (image_entry (mem_dueOf.mp hDue).2 hImage).1
  have hType : call.header.messageType = .imageData := hCall.carries.type.trans hImage
  refine ⟨hCall.header _ hSaid hType, hSaid.1, ?_⟩
  obtain ⟨_, first, second, fourth, more, hParts, _⟩ := hSaid
  refine (hCall.carries.payload 3 (by rw [hEntry]; rfl) _ ?_).1
  rw [hParts]
  rfl

end Ranks

section Recording

variable {framework : ProcessPlugin.Framework} {lib : Libraries} {m : ImageMessage}
variable {buffer : FrameBuffer} {series : Nat} {said : Nat → ImageMessage} {c : FrameReceiver}

/-- What the plugin publishes about an image is what the image says. -/
theorem jsonOf_said (hFits : m.Fits) (hHeader : buffer.header = m.header) :
    jsonOf buffer.header = some m.json := by
  have hID : ProcessPlugin.readText m.header.acquisitionID = some m.acqID :=
    ProcessPlugin.readText_strncpy hFits.acqID.1 (Nat.lt_succ_of_le hFits.acqID.2)
  rw [hHeader, jsonOf, hID, Option.bind_eq_bind, Option.bind_some]
  exact ImageMessage.imageJson_header hFits

theorem sane_of_said (hFits : m.Fits) (hHeader : buffer.header = m.header)
    (hBlob : buffer.payload.load m.blob.length = m.blob)
    (hLoads : lib.loads (framework.str m.json) = some (documentOf m.json)) :
    Sane framework lib series buffer where
  legible := by
    obtain ⟨frame, hOutput, _⟩ := ImageMessage.processFrame_header framework hFits hHeader hBlob
    rw [hOutput]
    rfl
  parsed := by
    rw [jsonOf_said hFits hHeader]
    rintro _ ⟨⟩
    exact hLoads
  faultless := by
    rw [faultOf, hHeader]
    rfl
  series := by
    rw [hHeader]
    rintro (hType | hType)
    · cases hType
    · cases hType

/-- The values of an image that the join is about. -/
def entrySaid (m : ImageMessage) (offset : Int) : PyValue × Int × Dict PyValue :=
  (.int m.frame, offset, (documentOf m.json).get)

theorem arrival_said (hFits : m.Fits) (hHeader : buffer.header = m.header)
    (hSeries : m.series = series) :
    (Input.process buffer).arrival series =
      some (.right (.int m.frame) (documentOf m.json).get) := by
  have hSame : (toUInt32 m.series : Int) = m.series :=
    ImageMessage.toUInt32_of_nonneg hFits.series
  have hNumber : buffer.header.series = series := by
    rw [hHeader]
    show toUInt32 m.series = series
    omega
  have hJoins : (Input.process buffer).joins series = true := by
    rw [Input.joins, hNumber, hHeader]
    exact Bool.and_eq_true_iff.mpr ⟨decide_eq_true rfl, decide_eq_true rfl⟩
  rw [Input.arrival, if_pos hJoins, imageData, jsonOf_said hFits hHeader, hHeader]
  rfl

/-- What a receiver has handed on adds its images to the join. -/
theorem arrivals_handed {numbers : List Nat}
    (hHanded : List.Forall₂ (fun k call => call.buffer.header = (said k).header ∧ (said k).Fits ∧
      call.buffer.payload.load (said k).blob.length = (said k).blob) numbers (imagesHanded c))
    (hSeries : ∀ k ∈ numbers, (said k).series = series) :
    (c.handed.map ReadyCall.buffer).filterMap (fun buffer =>
        (Input.process buffer).arrival series) =
      numbers.map fun k => .right (.int (said k).frame) (documentOf (said k).json).get := by
  have hImages : (c.handed.map ReadyCall.buffer).filterMap (fun buffer =>
      (Input.process buffer).arrival series) = (imagesHanded c).filterMap fun call =>
        (Input.process call.buffer).arrival series := by
    rw [List.filterMap_map, imagesHanded, List.filterMap_filter]
    refine List.filterMap_congr fun call _ => ?_
    by_cases hType : call.buffer.header.messageType = .imageData
    · rw [if_pos (decide_eq_true hType)]
      rfl
    · rw [if_neg (by rw [decide_eq_false hType]; exact Bool.false_ne_true)]
      refine if_neg ?_
      rw [Input.joins, decide_eq_false hType, Bool.false_and]
      exact Bool.false_ne_true
  rw [hImages]
  generalize imagesHanded c = calls at hHanded
  induction hHanded with
  | nil => rfl
  | @cons k call numbers calls hCall _ ih =>
      have hNow := arrival_said hCall.2.1 hCall.1 (hSeries k List.mem_cons_self)
      rw [List.filterMap_cons, hNow, List.map_cons,
        ← ih fun k hMem => hSeries k (List.mem_cons_of_mem _ hMem)]

end Recording

section Chain

variable {env : Fan.Environment} {parse : Parser} {garbage : Uninitialised} {ids : List Nat}
variable {fan : Fan.EigerFan} {messages : List (List Bytes)} {events : List Event} {w : System}
variable {series : Nat} {said : Nat → ImageMessage} {framework : ProcessPlugin.Framework}
variable {lib : Libraries} {offset : Nat → Int} {inputs : List Input}

/-- What the frame processors do, in any order: every buffer that was handed on by one of the
ranks is processed, and each of these images is written once, at its offset. A header comes
first. -/
structure Processes (w : System) (ranks : Nat) (numbers : List Nat) (said : Nat → ImageMessage)
    (offset : Nat → Int) (inputs : List Input) : Prop where
  processed : (inputs.filterMap Input.buffer?).Perm
    ((List.range ranks).flatMap fun rank => (w.receivers rank).handed.map ReadyCall.buffer)
  written : (inputs.filterMap Input.written?).Perm
    (numbers.map fun k => ((said k).frame, offset k))
  first : ∃ buffer rest, inputs = .process buffer :: rest ∧
    (buffer.header.messageType = .globalHeaderNone ∨
      buffer.header.messageType = .globalHeaderConfig)

/-- A whole acquisition, in every interleaving of the fan with its receivers, and in whatever
order the frame processors come to what they were handed: if the receivers took everything and
never lacked a buffer, then every handler of the meta writer succeeds, and for each image that
was dealt the detector's own values are written, once and at the offset of its frame. Nothing
is left waiting. -/
theorem detector_values_recorded (hLib : lib.Documented) (hStarts : Starts messages fan)
    (hIds : ids.Nodup)
    (hRun : Run (System.step env parse) (System.Allowed env parse) (.initial fan garbage ids)
      events w)
    (hSupplied : Run (System.step env parse) System.Supplied (.initial fan garbage ids) events w)
    (hTaken : ∀ rank < fan.consumers.length,
      (w.receivers rank).taken = (w.fan.output rank).length)
    (hAcquires : Acquires env parse messages
      (deliveries env fan.router messages (fanEvents events)) series said)
    (hLoads : ∀ k ∈ dealt (deliveries env fan.router messages (fanEvents events)),
      lib.loads (framework.str (said k).json) = some (documentOf (said k).json))
    (hOthers : ∀ rank < fan.consumers.length, ∀ call ∈ (w.receivers rank).handed,
      call.header.messageType ≠ .imageData → Sane framework lib series call.buffer)
    (hInputs : Processes w fan.consumers.length
      (dealt (deliveries env fan.router messages (fanEvents events))) said offset inputs)
    {start : MetaState} (hData : ∀ frame, start.writer.frameDataMap frame = none)
    (hOffsets : ∀ frame, start.writer.frameOffsetMap frame = none) :
    ∃ published final, inputs.mapM (Input.event framework lib) = some published ∧
      exec (MetaState.step lib) start published = some final ∧
      (∃ rows, final.writer.written = start.writer.written ++ rows ∧
        rows.Perm ((dealt (deliveries env fan.router messages (fanEvents events))).map
          fun k => rowSaid (said k) (offset k))) ∧
      (∀ frame, final.writer.frameDataMap frame = none) ∧
      ∀ frame, final.writer.frameOffsetMap frame = none := by
  have hImages : ∀ rank < fan.consumers.length, List.Forall₂ (fun k call =>
      call.buffer.header = (said k).header ∧ (said k).Fits ∧
        call.buffer.payload.load (said k).blob.length = (said k).blob)
      (imagesDue env parse fan messages events rank) (imagesHanded (w.receivers rank)) :=
    fun rank hRank => images_headed hStarts hIds hRun hSupplied (hTaken rank hRank) hAcquires
  have hDealt : ∀ rank, ∀ k ∈ imagesDue env parse fan messages events rank,
      k ∈ dealt (deliveries env fan.router messages (fanEvents events)) := by
    intro rank k hMem
    obtain ⟨r, parts, hAt, hConnected⟩ := (mem_imagesDue hStarts hIds hRun).mp hMem
    exact mem_dealt.mpr ⟨r, rank, parts, hAt, hConnected⟩
  have hBuffers : ∀ buffer ∈ inputs.filterMap Input.buffer?,
      Sane framework lib series buffer := by
    intro buffer hMem
    obtain ⟨rank, hRank, hHanded⟩ := List.mem_flatMap.mp (hInputs.processed.mem_iff.mp hMem)
    have hRank := List.mem_range.mp hRank
    obtain ⟨call, hCall, rfl⟩ := List.mem_map.mp hHanded
    by_cases hType : call.header.messageType = .imageData
    · have hImage : call ∈ imagesHanded (w.receivers rank) :=
        List.mem_filter.mpr ⟨hCall, decide_eq_true hType⟩
      obtain ⟨k, hMem, hHeader, hFits, hBlob⟩ := partner_of_mem (hImages rank hRank).flip hImage
      exact sane_of_said hFits hHeader hBlob (hLoads k (hDealt rank k hMem))
    · exact hOthers rank hRank call hCall hType
  have hSane : ∀ input ∈ inputs, input.Sane framework lib series := by
    intro input hMem
    cases input with
    | process buffer => exact hBuffers buffer (List.mem_filterMap.mpr ⟨_, hMem, rfl⟩)
    | writeFrame frame offset => trivial
  have hKeys : (((dealt (deliveries env fan.router messages (fanEvents events))).map
      fun k => entrySaid (said k) (offset k)).map Prod.fst).Nodup := by
    rw [List.map_map]
    refine List.Nodup.map_on (fun k hk k' hk' hSame => ?_) (dealt_nodup _)
    exact hAcquires.distinct k hk k' hk' (PyValue.int.inj hSame)
  have hArrivals : (inputs.filterMap (Input.arrival series)).Perm
      (arrivals ((dealt (deliveries env fan.router messages (fanEvents events))).map
        fun k => entrySaid (said k) (offset k))) := by
    have hLefts := hInputs.written.map fun entry : Int × Int =>
      (Arrival.left (PyValue.int entry.1) entry.2 : Arrival PyValue Int (Dict PyValue))
    have hRights := hInputs.processed.filterMap fun buffer =>
      (Input.process buffer).arrival series
    have hRanks : ((List.range fan.consumers.length).flatMap fun rank =>
        (w.receivers rank).handed.map ReadyCall.buffer).filterMap (fun buffer =>
          (Input.process buffer).arrival series) =
        ((List.range fan.consumers.length).flatMap
          (imagesDue env parse fan messages events)).map fun k =>
            .right (.int (said k).frame) (documentOf (said k).json).get := by
      rw [List.filterMap_flatMap, List.map_flatMap]
      refine List.flatMap_congr fun rank hRank => ?_
      exact arrivals_handed (hImages rank (List.mem_range.mp hRank)) fun k hMem =>
        hAcquires.series k (hDealt rank k hMem)
    rw [hRanks] at hRights
    refine (arrivals_split inputs).trans ((hLefts.append (hRights.trans
      ((imagesDue_perm hStarts hIds hRun).map _))).trans ?_)
    rw [arrivals, List.map_map, List.map_map, List.map_map]
    exact .refl _
  obtain ⟨buffer, rest, rfl, hHeader⟩ := hInputs.first
  obtain ⟨hFirst, hRest⟩ := List.forall_mem_cons.mp hSane
  obtain ⟨event, middle, hEvent, hStep, hRefines, _⟩ :=
    Sane.begins hLib hFirst hHeader hData hOffsets
  have hNoImage : (Input.process buffer).arrival series = none := by
    refine if_neg ?_
    rw [Input.joins]
    rcases hHeader with hType | hType
    · rw [hType]
      exact Bool.false_ne_true
    · rw [hType]
      exact Bool.false_ne_true
  rw [List.filterMap_cons_none hNoImage] at hArrivals
  obtain ⟨published, final, hPublished, hExec, ⟨rows, hWritten, hRows⟩, hNoData, hNoOffset, _⟩ :=
    inputs_recorded hLib hRefines hRest hKeys hArrivals
  refine ⟨event :: published, final, ?_, ?_, ⟨rows, hWritten, ?_⟩, hNoData, hNoOffset⟩
  · rw [List.mapM_cons, hEvent, hPublished]
    rfl
  · rw [exec, hStep, Option.bind_some, hExec]
  · rw [List.map_map] at hRows
    exact hRows

end Chain

/-- Both receivers take everything. -/
def wholeEvents : List Event := sampleEvents ++ [.part 0]

/-- What is said about the header that is sent before its ID is known, and about the image. -/
def wholeLibraries : Libraries :=
  documented (loadsOf ImageMessage.sampleFramework
    [{ ImageMessage.sample.header with
        messageType := .globalHeaderNone, acquisitionID := strncpy 256 [] },
      ImageMessage.sample.header])

theorem wholeRun : ∃ w, Run (System.step sampleEnvironment sampleParser)
      (fun w event => w.Allowed sampleEnvironment sampleParser event ∧ w.Supplied event)
      (.initial sampleFan zeroed [0, 1]) wholeEvents w ∧
    (∀ rank < 2, (w.receivers rank).taken = (w.fan.output rank).length) ∧
    (∀ rank < 2, ∀ call ∈ (w.receivers rank).handed, call.header.messageType ≠ .imageData →
      Sane ImageMessage.sampleFramework wholeLibraries 1 call.buffer) ∧
    (w.receivers 1).handed.head?.map (fun call => call.header.messageType) =
      some .globalHeaderNone := by
  refine ⟨_, .cons ⟨allowed_receive rfl rfl rfl nofun sampleHeader_fromDetector, trivial⟩ rfl
    (.cons ⟨trivial, ?_⟩ rfl (.cons ⟨allowed_receive rfl rfl rfl ?_
      (sampleImage_fromDetector rfl), trivial⟩ rfl (.cons ⟨trivial, ?_⟩ rfl
      (.cons ⟨trivial, ?_⟩ rfl (.cons ⟨trivial, ?_⟩ rfl (.cons ⟨trivial, ?_⟩ rfl
        (.cons ⟨trivial, ?_⟩ rfl (.nil _)))))))), ?_, ?_, ?_⟩
  · decide +kernel
  · rintro members frame ⟨⟩
    decide
  all_goals decide +kernel

theorem wholeAcquires : Acquires sampleEnvironment sampleParser sampleMessages
    (deliveries sampleEnvironment sampleFan.router sampleMessages (fanEvents wholeEvents)) 1
    fun _ => ImageMessage.sample where
  sent k r rank parts message hAt hMessage := by
    rcases k with _ | _ | k
    · cases hAt
    · cases hAt
      cases hMessage
      exact ⟨ImageMessage.sample_fits, _, _, _, _, _, rfl, rfl, ⟨rfl, rfl, rfl, rfl, rfl⟩,
        ⟨sampleImaged.2, rfl, rfl, rfl, rfl, rfl⟩, ⟨sampleTimes.2, rfl, rfl, rfl, rfl⟩⟩
    · cases hAt
  series := fun _ _ => rfl
  distinct := by
    have hOne : dealt (deliveries sampleEnvironment sampleFan.router sampleMessages
        (fanEvents wholeEvents)) = [1] := by
      decide +kernel
    rw [hOne]
    intro k hk k' hk' _
    rw [List.mem_singleton.mp hk, List.mem_singleton.mp hk']

theorem sample_values_recorded : ∃ (w : System) (inputs : List Input) (published : List WriterEvent)
    (final : MetaState),
    Run (System.step sampleEnvironment sampleParser)
      (System.Allowed sampleEnvironment sampleParser) (.initial sampleFan zeroed [0, 1])
      wholeEvents w ∧
    inputs.mapM (Input.event ImageMessage.sampleFramework wholeLibraries) = some published ∧
    exec (MetaState.step wholeLibraries) ⟨.initial, []⟩ published = some final ∧
    final.writer.written = [rowSaid ImageMessage.sample 40] := by
  obtain ⟨w, hRun, hTaken, hOthers, hFirst⟩ := wholeRun
  have hAllowed := hRun.mono fun _ _ h => h.1
  have hOne : dealt (deliveries sampleEnvironment sampleFan.router sampleMessages
      (fanEvents wholeEvents)) = [1] := by
    decide +kernel
  have hInputs : Processes w 2 [1] (fun _ => ImageMessage.sample) (fun _ => 40)
      (((w.receivers 1).handed ++ (w.receivers 0).handed).map
        (fun call => .process call.buffer) ++ [.writeFrame 5 40]) := by
    refine ⟨?_, ?_, ?_⟩
    · rw [List.filterMap_append, List.filterMap_map]
      have hBuffers : ∀ calls : List ReadyCall, calls.filterMap (Input.buffer? ∘
          fun call => .process call.buffer) = calls.map ReadyCall.buffer := by
        intro calls
        rw [← List.filterMap_eq_map]
        rfl
      rw [hBuffers, List.map_append]
      have hRanks : (List.range 2).flatMap (fun rank =>
          (w.receivers rank).handed.map ReadyCall.buffer) =
          (w.receivers 0).handed.map ReadyCall.buffer ++
            ((w.receivers 1).handed.map ReadyCall.buffer ++ []) := rfl
      rw [hRanks, List.append_nil]
      refine List.Perm.trans ?_ List.perm_append_comm
      exact .of_eq (List.append_nil _)
    · rw [List.filterMap_append, List.filterMap_map]
      have hNone : ∀ calls : List ReadyCall, calls.filterMap (Input.written? ∘
          fun call => .process call.buffer) = [] := by
        intro calls
        exact List.filterMap_eq_nil_iff.mpr fun _ _ => rfl
      rw [hNone]
      exact .refl _
    · obtain ⟨call, hCall, hType⟩ := Option.map_eq_some_iff.mp hFirst
      obtain ⟨calls, hCalls⟩ := List.head?_eq_some_iff.mp hCall
      rw [hCalls]
      exact ⟨call.buffer, _, rfl, .inl hType⟩
  have hLoads : wholeLibraries.loads (ImageMessage.sampleFramework.str ImageMessage.sample.json) =
      some (documentOf ImageMessage.sample.json) := by
    decide +kernel
  have hNoData : ∀ frame, (⟨.initial, []⟩ : MetaState).writer.frameDataMap frame = none :=
    fun _ => rfl
  obtain ⟨published, final, hPublished, hExec, ⟨rows, hWritten, hRows⟩, _⟩ :=
    detector_values_recorded (documented_documented _) sampleStarts (by decide) hAllowed
      (hRun.mono fun _ _ h => h.2) hTaken wholeAcquires (fun _ _ => hLoads) hOthers
      (by rw [hOne]; exact hInputs) hNoData fun _ => rfl
  rw [hOne] at hRows
  refine ⟨w, _, published, final, hAllowed, hPublished, hExec, ?_⟩
  rw [hWritten, List.perm_singleton.mp hRows]
  rfl

end Eiger.Pipeline
