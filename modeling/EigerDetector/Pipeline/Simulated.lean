import EigerDetector.Pipeline.Images
import EigerDetector.Simulator.FrameSimulator

/-! The frame simulator in front of the fan and its receivers. -/
namespace Eiger.Pipeline

open CharArrays FixedWidth Rapidjson Multipart Transition Decoder

/-- A message with a first part that the fan and the decoder can make something of. -/
def Sent (env : Fan.Environment) (message : List Bytes) : Prop :=
  ∃ part1 rest first, message = part1 :: rest ∧ Fan.readFirstPart env part1 = some first ∧
    Interface.Wanted first

/-- No write to the cache throws for the next message, the decoder reads back what the fan is
going to write of it, and the offset leaves no number below zero. -/
def System.Faithful (env : Fan.Environment) (parse : Parser) (w : System) : Event → Prop
  | .fan .receive => ∀ part1 rest tail, w.fan.rxSocket.queue = frame (part1 :: rest) ++ tail →
      w.fan.Caches env part1 rest ∧ ∀ first, Fan.readFirstPart env part1 = some first →
        (∀ members frame, first = .image members frame → 0 ≤ w.fan.router.frameIndex frame) ∧
        ∀ members ∈ Interface.membersOf first,
          Interface.ReadBack env parse (Interface.tagOf w.fan.router first) members
  | event => w.Allowed env parse event

/-- The frame numbers of the images that a receiver has handed on. -/
def framesHanded (c : FrameReceiver) : List Int :=
  (imagesHanded c).map fun call => call.header.frameNumber

section Sources

variable {env : Fan.Environment} {parse : Parser} {ids : List Nat}
variable {offered : List (List Bytes)} {history : List (Fan.Router × Fan.Delivery)}
variable {a : Fan.FanOut} {w w' : System} {events : List Event}

/-- Messages with proper first parts can be received in any faithful run. -/
theorem Follows.allowed_receive (h : Follows env parse ids False offered history a w)
    (hSent : ∀ message ∈ offered, Sent env message)
    (hFaithful : w.Faithful env parse (.fan .receive)) : w.Allowed env parse (.fan .receive) := by
  intro part1 rest tail hQueue
  obtain ⟨hCaches, hFirst⟩ := hFaithful part1 rest tail hQueue
  obtain ⟨consumed, hOffered, _⟩ := h.routed
  rw [h.refines.queue] at hQueue
  cases hMessages : a.messages with
  | nil =>
      rw [hMessages, stream_nil, frame_cons] at hQueue
      cases hQueue
  | cons message messages =>
      have hMem : message ∈ a.messages := hMessages ▸ List.mem_cons_self
      rw [hMessages, stream_cons] at hQueue
      obtain ⟨hSame, _⟩ := frame_append_inj (h.messages message hMem) (List.cons_ne_nil _ _) hQueue
      obtain ⟨part1', rest', first, hParts, hRead, hWanted⟩ := hSent message (by
        rw [hOffered]
        exact List.mem_append_right _ hMem)
      cases hParts.symm.trans hSame
      obtain ⟨hIndex, _⟩ := hFirst first hRead
      refine ⟨⟨first, hRead, hIndex⟩, hCaches, fun other hOther => ?_⟩
      cases hRead.symm.trans hOther
      exact ⟨hWanted, (hFirst first hRead).2⟩

theorem Follows.allowed_run (h : Follows env parse ids False offered history a w)
    (hSent : ∀ message ∈ offered, Sent env message)
    (hRun : Run (System.step env parse) (System.Faithful env parse) w events w') :
    Run (System.step env parse) (System.Allowed env parse) w events w' := by
  induction hRun generalizing history a with
  | nil => exact .nil _
  | @cons w v w' event events guard first rest ih =>
      have hAllowed : w.Allowed env parse event := by
        cases event with
        | fan event =>
            cases event with
            | receive => exact h.allowed_receive hSent guard
            | change change => exact guard
        | part rank => trivial
        | release rank id => trivial
      have hOne : Run (System.step env parse) (System.Allowed env parse) w [event] v :=
        .cons hAllowed first (.nil _)
      obtain ⟨b, hNext⟩ := h.run hOne (fun _ _ h => h) False.elim
      exact .cons hAllowed first (ih hNext)

end Sources

section Recording

/-- The members that the header of the simulator is written of. -/
def simulatedHeader : List (Bytes × Value) :=
  [(headerTypeKey, .string globalHeaderType), (seriesKey, .int 1),
    (headerDetailKey, .string headerDetailBasic)]

def simulatedEnd : List (Bytes × Value) :=
  [(headerTypeKey, .string endHeaderType), (seriesKey, .int 1)]

/-- The recorded image: what the four files say, the first of them in the document `members`
with the series set. -/
structure Recorded (sim : Simulator.Environment) (options : Simulator.Options)
    (members : List (Bytes × Value)) (first : Int) (part2 blob part4 : Bytes) : Prop where
  document : ∃ line original, Simulator.getSingleLineFromFile sim
      (Simulator.filePath options (bytes "_1")) = some line ∧
    sim.parse (cString line) = some (.object original) ∧
    Simulator.setMember seriesKey 1 original = some members
  description : Simulator.getSingleLineFromFile sim
    (Simulator.filePath options (bytes "_2")) = some part2
  image : sim.files (Simulator.filePath options (bytes "_3")) = some blob
  times : Simulator.getSingleLineFromFile sim
    (Simulator.filePath options (bytes "_4")) = some part4
  kind : Value.findMember headerTypeKey members = some (.string imageHeaderType)
  number : Value.findMember frameKey members = some (.int first)
  hash : ((Value.findMember hashKey members).bind Value.getString).isSome
  acquisitionID : Interface.TextualID members
  low : 0 ≤ first
  high : first + options.frames.toNat ≤ maxInt32

/-- The fan reads what the simulator has written, and the texts that are fixed. -/
structure Understood (sim : Simulator.Environment) (env : Fan.Environment) (frames : Nat)
    (members : List (Bytes × Value)) (first : Int) : Prop where
  header : sim.parse Simulator.headerJson = some (.object simulatedHeader)
  headerText : env.parse (cString (Simulator.accept sim (.object simulatedHeader))) =
    some (.object simulatedHeader)
  images : ∀ i < frames, env.parse (cString (Simulator.accept sim
      (.object (Simulator.numbered (first + (i : Nat)) members)))) =
    some (.object (Simulator.numbered (first + (i : Nat)) members))
  ending : env.parse (cString Simulator.endJson) = some (.object simulatedEnd)

variable {sim : Simulator.Environment} {options : Simulator.Options}
variable {members : List (Bytes × Value)} {first : Int} {part2 blob part4 : Bytes}
variable {env : Fan.Environment} {messages : List (List Bytes)}

/-- The message of a frame. -/
def simulatedImage (sim : Simulator.Environment) (members : List (Bytes × Value)) (first : Int)
    (part2 blob part4 : Bytes) (i : Nat) : List Bytes :=
  [Simulator.accept sim (.object (Simulator.numbered (first + i) members)), part2, blob, part4]

theorem simulate_eq (h : Recorded sim options members first part2 blob part4) :
    Simulator.simulate sim options = some (Simulator.sendHeader sim options.acquisitionID ::
      (List.range options.frames.toNat).map (simulatedImage sim members first part2 blob part4) ++
        [[Simulator.endJson]]) := by
  obtain ⟨line, original, hLine, hParse, hSeries⟩ := h.document
  have hLow : minInt32 ≤ first := le_trans (by decide) h.low
  have hImages : Simulator.sendImageData sim options =
      some ((List.range options.frames.toNat).map
        (simulatedImage sim members first part2 blob part4)) := by
    rw [Simulator.sendImageData, h.image]
    simp only [hLine, h.description, h.times, hParse, hSeries, Option.bind_eq_bind,
      Option.bind_some]
    exact Simulator.sendFrames_eq h.number hLow h.high
  rw [Simulator.simulate, hImages]
  rfl

/-- What the fan reads of the header. -/
theorem header_read (h : Understood sim env options.frames.toNat members first) :
    Fan.readFirstPart env (Simulator.accept sim ((sim.parse Simulator.headerJson).getD .null)) =
      some (.header simulatedHeader 1 headerDetailBasic) := by
  rw [h.header, Option.getD_some, Fan.readFirstPart, h.headerText]
  rfl

theorem end_read (h : Understood sim env options.frames.toNat members first) :
    Fan.readFirstPart env Simulator.endJson = some (.endOfSeries simulatedEnd) := by
  rw [Fan.readFirstPart, h.ending]
  rfl

/-- A frame of the simulator has its own number, and everything else of the recorded one. -/
theorem numbered_members (h : Recorded sim options members first part2 blob part4) (i : Nat) :
    Value.findMember frameKey (Simulator.numbered (first + i) members) =
        some (.int (first + i)) ∧
      ∀ key ≠ frameKey, Value.findMember key (Simulator.numbered (first + i) members) =
        Value.findMember key members := by
  obtain ⟨next, hNext⟩ := Simulator.setMember_of_found h.number (first + i)
  rw [Simulator.numbered, hNext, Option.getD_some]
  exact ⟨Simulator.findMember_setMember hNext,
    fun key hKey => Simulator.findMember_setMember_ne hKey hNext⟩

theorem image_read (h : Recorded sim options members first part2 blob part4)
    (hUnderstood : Understood sim env options.frames.toNat members first) {i : Nat}
    (hi : i < options.frames.toNat) :
    Fan.readFirstPart env
        (Simulator.accept sim (.object (Simulator.numbered (first + i) members))) =
      some (.image (Simulator.numbered (first + i) members) (first + i)) := by
  obtain ⟨hFrame, hOthers⟩ := numbered_members h i
  have hLow := h.low
  have hHigh := h.high
  have hFits : minInt64 ≤ first + i ∧ first + i ≤ maxInt64 := by
    simp only [minInt64, maxInt64, maxInt32] at *
    omega
  have hType := (hOthers headerTypeKey (by decide)).trans h.kind
  have hKind : (Value.string imageHeaderType).getString = some imageHeaderType := by decide
  have hNumber : (Value.int (first + i)).getInt64 = some (first + i) := by
    rw [Value.getInt64, if_pos hFits]
  rw [Fan.readFirstPart, hUnderstood.images i hi]
  simp only [hType, hFrame, hKind, hNumber, Option.bind_eq_bind, Option.bind_some]
  rfl

/-- All that the simulator sends, a detector could have sent. -/
theorem simulated_sent (h : Recorded sim options members first part2 blob part4)
    (hUnderstood : Understood sim env options.frames.toNat members first)
    (hSimulated : Simulator.simulate sim options = some messages) :
    ∀ message ∈ messages, Sent env message := by
  rw [simulate_eq h] at hSimulated
  cases hSimulated
  intro message hMem
  rcases List.mem_append.mp hMem with hMem | hMem
  · rcases List.mem_cons.mp hMem with rfl | hMem
    · refine ⟨_, _, _, rfl, header_read hUnderstood, ?_⟩
      rintro value ⟨⟩
    · obtain ⟨i, hi, rfl⟩ := List.mem_map.mp hMem
      have hi := List.mem_range.mp hi
      refine ⟨_, _, _, rfl, image_read h hUnderstood hi, ?_⟩
      obtain ⟨_, hOthers⟩ := numbered_members h i
      obtain ⟨line, original, _, _, hSeries⟩ := h.document
      have hLow := h.low
      have hHigh := h.high
      refine ⟨by omega, by omega, ?_, ?_, ?_⟩
      · intro value hValue
        rw [hOthers _ (by decide)] at hValue
        exact h.acquisitionID value hValue
      · rw [hOthers _ (by decide), Simulator.findMember_setMember hSeries]
        rfl
      · rw [hOthers _ (by decide)]
        exact h.hash
  · rw [List.mem_singleton.mp hMem]
    refine ⟨_, _, _, rfl, end_read hUnderstood, ?_, rfl⟩
    rintro value ⟨⟩

/-- A whole image goes to the rank that it belongs to. -/
theorem image_routed (r : Fan.Router) {part1 : Bytes} {rest : List Bytes} {frame : Int}
    (hRead : Fan.readFirstPart env part1 = some (.image members frame)) (hLong : 3 ≤ rest.length) :
    r.route env part1 rest = .one (r.rank frame)
      (Fan.taggedPart env members r.currentAcquisitionID :: rest.take 4) := by
  rw [Fan.Router.route, hRead]
  exact if_pos hLong

/-- An image in the stream of the simulator is one of its frames. -/
theorem frame_of_handed (h : Recorded sim options members first part2 blob part4)
    (hUnderstood : Understood sim env options.frames.toNat members first)
    (hSimulated : Simulator.simulate sim options = some messages) {k : Nat} {call : ReadyCall}
    (hHands : HandsImage env messages k call) :
    1 ≤ k ∧ k ≤ options.frames.toNat ∧ call.header.frameNumber = first + (k - 1 : Nat) ∧
      call.buffer.payload.load blob.length = blob := by
  obtain ⟨part1, second, sent, rest, others, frame, hMessage, hRead, hNumber, hLoad, _⟩ := hHands
  rw [simulate_eq h] at hSimulated
  cases hSimulated
  cases k with
  | zero =>
      cases hMessage
      cases hRead.symm.trans (header_read hUnderstood)
  | succ i =>
      rw [List.cons_append, List.getElem?_cons_succ] at hMessage
      by_cases hi : i < options.frames.toNat
      · rw [List.getElem?_append_left (by simpa using hi), List.getElem?_map,
          List.getElem?_range hi] at hMessage
        cases hMessage
        cases hRead.symm.trans (image_read h hUnderstood hi)
        exact ⟨by omega, by omega, hNumber, hLoad⟩
      · rw [List.getElem?_append_right (by simpa using hi)] at hMessage
        obtain ⟨_, hSame⟩ := List.getElem?_eq_some_iff.mp hMessage
        simp at hSame

/-- The image with a given number is at its place in the stream. -/
theorem message_of_frame (h : Recorded sim options members first part2 blob part4)
    (hSimulated : Simulator.simulate sim options = some messages) {i : Nat}
    (hi : i < options.frames.toNat) :
    messages[i + 1]? = some (simulatedImage sim members first part2 blob part4 i) := by
  rw [simulate_eq h] at hSimulated
  cases hSimulated
  rw [List.cons_append, List.getElem?_cons_succ, List.getElem?_append_left (by simpa using hi),
    List.getElem?_map, List.getElem?_range hi]
  rfl

end Recording

section Simulation

variable {sim : Simulator.Environment} {options : Simulator.Options}
variable {members : List (Bytes × Value)} {first : Int} {part2 blob part4 : Bytes}
variable {env : Fan.Environment} {parse : Parser} {garbage : Uninitialised} {ids : List Nat}
variable {fan : Fan.EigerFan} {messages : List (List Bytes)} {events : List Event} {w : System}

/-- Everything the simulator sends for its frames, in every interleaving of the fan with its
receivers: what a receiver hands on as images are frames of the simulator, numbered from the
recorded number on and each with the recorded image, in ascending order and no number at two
receivers. A frame that was routed to a connected rank has been handed on there, if the
receiver took everything and never lacked a buffer. -/
theorem simulated_images_handed (hRecorded : Recorded sim options members first part2 blob part4)
    (hUnderstood : Understood sim env options.frames.toNat members first)
    (hSimulated : Simulator.simulate sim options = some messages)
    (hStarts : Starts messages fan) (hIds : ids.Nodup)
    (hRun : Run (System.step env parse) (System.Faithful env parse) (.initial fan garbage ids)
      events w) :
    (∀ rank, (framesHanded (w.receivers rank)).Pairwise (· < ·) ∧
      ∀ call ∈ imagesHanded (w.receivers rank),
        first ≤ call.header.frameNumber ∧
        call.header.frameNumber < first + options.frames.toNat ∧
        call.buffer.payload.load blob.length = blob) ∧
    (∀ rank rank' frame, frame ∈ framesHanded (w.receivers rank) →
      frame ∈ framesHanded (w.receivers rank') → rank = rank') ∧
    (Run (System.step env parse) System.Supplied (.initial fan garbage ids) events w →
      ∀ i < options.frames.toNat, ∀ r delivery,
        (deliveries env fan.router messages (fanEvents events))[i + 1]? = some (r, delivery) →
          r.Connected (r.rank (first + i)) →
          (w.receivers (r.rank (first + i))).taken =
            (w.fan.output (r.rank (first + i))).length →
          first + i ∈ framesHanded (w.receivers (r.rank (first + i)))) := by
  have hAllowed := (follows_start hStarts hIds False).allowed_run
    (simulated_sent hRecorded hUnderstood hSimulated) hRun
  obtain ⟨origin, hOrigins, hAll⟩ := origins_of_run hStarts hIds hAllowed
  have hNumbers : ∀ rank, List.Forall₂ (fun k call => 1 ≤ k ∧ k ≤ options.frames.toNat ∧
      call.header.frameNumber = first + (k - 1 : Nat) ∧
      call.buffer.payload.load blob.length = blob) (origin rank)
      (imagesHanded (w.receivers rank)) := fun rank =>
    (hOrigins.hands rank).imp fun k call hHands =>
      frame_of_handed hRecorded hUnderstood hSimulated hHands
  have hFrames : ∀ rank, framesHanded (w.receivers rank) =
      (origin rank).map fun k => first + (k - 1 : Nat) := by
    intro rank
    have hEqual : List.Forall₂ (· = ·) ((origin rank).map fun k => first + ((k - 1 : Nat) : Int))
        (framesHanded (w.receivers rank)) := by
      rw [framesHanded, List.forall₂_map_left_iff, List.forall₂_map_right_iff]
      exact (hNumbers rank).imp fun k call hNumber => hNumber.2.2.1.symm
    exact (List.forall₂_eq_eq_eq ▸ hEqual).symm
  have hPositive : ∀ rank, ∀ k ∈ origin rank, 1 ≤ k := by
    intro rank k hMem
    obtain ⟨call, _, hNumber⟩ := partner_of_mem (hNumbers rank) hMem
    exact hNumber.1
  refine ⟨fun rank => ⟨?_, fun call hMem => ?_⟩, fun rank rank' frame hMem hMem' => ?_,
    fun hSupplied i hi r delivery hAt hConnected hTaken => ?_⟩
  · rw [hFrames, List.pairwise_map]
    refine (hOrigins.sorted rank).imp_of_mem fun {k k'} hMem _ hLess => ?_
    have := hPositive rank k hMem
    omega
  · obtain ⟨k, _, hLow, hHigh, hNumber, hLoad⟩ :=
      partner_of_mem (hNumbers rank).flip hMem
    exact ⟨by omega, by omega, hLoad⟩
  · rw [hFrames] at hMem hMem'
    obtain ⟨k, hOrigin, hFrame⟩ := List.mem_map.mp hMem
    obtain ⟨k', hOrigin', hFrame'⟩ := List.mem_map.mp hMem'
    have := hPositive rank k hOrigin
    have := hPositive rank' k' hOrigin'
    have hSame : k = k' := by omega
    exact hOrigins.once rank rank' k hOrigin (hSame ▸ hOrigin')
  · obtain ⟨message, hMessage, part1, rest, kind, rfl, hRead, _, hRoute⟩ :=
      routed_of_run hStarts hIds hAllowed hAt
    cases hMessage.symm.trans (message_of_frame hRecorded hSimulated hi)
    cases hRead.symm.trans (image_read hRecorded hUnderstood hi)
    have hDelivery : delivery = _ := hRoute.trans (image_routed r hRead (le_refl 3))
    rw [hDelivery] at hAt
    have hOrigin := hAll hSupplied _ hTaken _ _ _ hAt hConnected
    rw [hFrames]
    exact List.mem_map.mpr ⟨i + 1, hOrigin, by simp⟩

end Simulation

/-- Without a cache, the next first part decides about a faithful step. -/
theorem faithful_receive {env : Fan.Environment} {parse : Parser} {w : System} {part1 : Bytes}
    {more : Bool} {first : Fan.FirstPart} (hQueue : w.fan.rxSocket.queue.head? = some (part1, more))
    (hFirst : Fan.readFirstPart env part1 = some first) (hOff : w.fan.devShmCache = false)
    (hFrame : ∀ members frame, first = .image members frame → 0 ≤ w.fan.router.frameIndex frame)
    (hReadBack : ∀ members ∈ Interface.membersOf first,
      Interface.ReadBack env parse (Interface.tagOf w.fan.router first) members) :
    w.Faithful env parse (.fan .receive) := by
  intro other rest tail hSplit
  rw [hSplit, frame_cons] at hQueue
  cases hQueue
  refine ⟨Fan.EigerFan.caches_of_off hOff, fun same hSame => ?_⟩
  cases hFirst.symm.trans hSame
  exact ⟨hFrame, hReadBack⟩

def recordedFiles : List (Bytes × Bytes) :=
  [(bytes "streamfile_1", Fan.objectText (.object (Interface.numberedMembers 5))),
    (bytes "streamfile_2", sampleImaged.1), (bytes "streamfile_3", [7, 8]),
    (bytes "streamfile_4", sampleTimes.1)]

def sampleSimulator : Simulator.Environment where
  parse := Parser.ofTexts [(Simulator.headerJson, .object simulatedHeader),
    (Fan.objectText (.object (Interface.numberedMembers 5)),
      .object (Interface.numberedMembers 5))]
  write := Fan.objectText
  files path := recordedFiles.lookup path

def sampleOptions : Simulator.Options := ⟨false, none, bytes "streamfile", bytes "test", 1⟩

def simulatedMessages : List (List Bytes) :=
  [Simulator.sendHeader sampleSimulator (bytes "test"),
    simulatedImage sampleSimulator (Interface.numberedMembers 5) 5 sampleImaged.1 [7, 8]
      sampleTimes.1 0, [Simulator.endJson]]

def simulatedEnvironment : Fan.Environment :=
  .ofTexts [(Fan.objectText (.object simulatedHeader), .object simulatedHeader),
    (Fan.objectText (.object (Interface.numberedMembers 5)),
      .object (Interface.numberedMembers 5)), (Simulator.endJson, .object simulatedEnd)]

def simulatedParser : Parser :=
  .ofTexts [(Fan.objectText (taggedMembers simulatedHeader), taggedMembers simulatedHeader),
    (Fan.objectText (taggedMembers (Interface.numberedMembers 5)),
      taggedMembers (Interface.numberedMembers 5)), sampleImaged, sampleTimes]

def simulatedFan : Fan.EigerFan :=
  { sampleFan with rxSocket := ⟨stream simulatedMessages, false⟩ }

theorem sampleRecorded : Recorded sampleSimulator sampleOptions (Interface.numberedMembers 5) 5
    sampleImaged.1 [7, 8] sampleTimes.1 where
  document := ⟨Fan.objectText (.object (Interface.numberedMembers 5)), Interface.numberedMembers 5,
    by decide +kernel, rfl, rfl⟩
  description := by decide +kernel
  image := by decide +kernel
  times := by decide +kernel
  kind := rfl
  number := rfl
  hash := by decide
  acquisitionID := nofun
  low := by decide
  high := by decide

theorem sampleUnderstood :
    Understood sampleSimulator simulatedEnvironment sampleOptions.frames.toNat
      (Interface.numberedMembers 5) 5 where
  header := rfl
  headerText := rfl
  images i hi := by
    obtain rfl : i = 0 := Nat.lt_one_iff.mp hi
    rfl
  ending := rfl

theorem simulatedStarts : Starts simulatedMessages simulatedFan where
  ready := ⟨by decide, by decide, by decide, by decide⟩
  queue := rfl
  parts := by decide
  output := by
    intro rank
    rcases rank with _ | _ | rank <;> rfl

/-- The second receiver takes the parts of the header and of the image. -/
def simulatedEvents : List Event :=
  [.fan .receive, .fan .receive, .part 1, .part 1, .part 1, .part 1, .part 1, .part 1, .part 1]

theorem simulatedRun : ∃ w, Run (System.step simulatedEnvironment simulatedParser)
      (fun w event => w.Faithful simulatedEnvironment simulatedParser event ∧ w.Supplied event)
      (.initial simulatedFan zeroed [0, 1, 2, 3]) simulatedEvents w ∧
    (w.receivers 1).taken = (w.fan.output 1).length := by
  have hHeader := header_read sampleUnderstood
  have hImage := image_read sampleRecorded sampleUnderstood (i := 0) (by decide)
  refine ⟨_, .cons ⟨faithful_receive rfl hHeader rfl nofun ?_, trivial⟩ rfl
    (.cons ⟨faithful_receive rfl hImage rfl ?_ ?_, trivial⟩ rfl
      (.cons ⟨trivial, ?_⟩ rfl (.cons ⟨trivial, ?_⟩ rfl (.cons ⟨trivial, ?_⟩ rfl
        (.cons ⟨trivial, ?_⟩ rfl (.cons ⟨trivial, ?_⟩ rfl (.cons ⟨trivial, ?_⟩ rfl
          (.cons ⟨trivial, ?_⟩ rfl (.nil _))))))))), ?_⟩
  · rintro _ ⟨⟩
    rfl
  · rintro members frame ⟨⟩
    decide
  · rintro _ ⟨⟩
    rfl
  all_goals first | rfl | decide +kernel

theorem sample_simulated_handed :
    ∃ w, Run (System.step simulatedEnvironment simulatedParser)
        (System.Faithful simulatedEnvironment simulatedParser)
        (.initial simulatedFan zeroed [0, 1, 2, 3]) simulatedEvents w ∧
      (5 : Int) ∈ framesHanded (w.receivers 1) := by
  obtain ⟨w, hRun, hTaken⟩ := simulatedRun
  have hFaithful := hRun.mono fun _ _ h => h.1
  have hSimulated : Simulator.simulate sampleSimulator sampleOptions = some simulatedMessages := by
    decide +kernel
  obtain ⟨_, _, hAll⟩ := simulated_images_handed sampleRecorded sampleUnderstood hSimulated
    simulatedStarts (by decide) hFaithful
  exact ⟨w, hFaithful, hAll (hRun.mono fun _ _ h => h.2) 0 (by decide) _ _ rfl (by decide +kernel)
    hTaken⟩

end Eiger.Pipeline
