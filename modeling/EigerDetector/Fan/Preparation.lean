import EigerDetector.Fan.Plan

/-! What the preparation of a stream message does to the fan, for every message
whose first part has the fields the handlers read. -/
namespace Eiger.Fan

open CharArrays Rapidjson FixedWidth Threads Rx Multipart

namespace EigerFan

/-- The next calls of the cache go through, if it is on. -/
def CacheWrites (env : Environment) (count : Nat) (s : EigerFan) : Prop :=
  s.devShmCache = true →
    ∀ call < count, (env.fileSystem (s.fileCalls + call)).createDirectories = true

instance (env : Environment) (count : Nat) (s : EigerFan) : Decidable (s.CacheWrites env count) :=
  inferInstanceAs (Decidable (s.devShmCache = true → ∀ call < count, _))

theorem cacheWrites_zero (env : Environment) (s : EigerFan) : s.CacheWrites env 0 :=
  fun _ _ hCall => absurd hCall (Nat.not_lt_zero _)

/-- The first write goes through, and then the others do. -/
theorem cacheWrites_succ (env : Environment) (message filename : Bytes) (count : Nat)
    (s : EigerFan) :
    s.CacheWrites env (count + 1) ↔ (s.writeMessageToFile env message filename).2 = true ∧
      (s.writeMessageToFile env message filename).1.CacheWrites env count := by
  cases hCache : s.devShmCache with
  | false =>
      have hSame : s.writeMessageToFile env message filename = (s, true) := by
        rw [writeMessageToFile, hCache]
        rfl
      have hOff : ∀ n, s.CacheWrites env n := by
        intro n hOn
        rw [hCache] at hOn
        cases hOn
      rw [hSame]
      exact ⟨fun _ => ⟨rfl, hOff count⟩, fun _ => hOff (count + 1)⟩
  | true =>
      rw [writeMessageToFile, hCache, if_pos rfl]
      cases hCreate : (env.fileSystem s.fileCalls).createDirectories with
      | false =>
          constructor
          · intro hAll
            have hFirst := hAll hCache 0 (Nat.succ_pos _)
            rw [Nat.add_zero, hCreate] at hFirst
            cases hFirst
          · intro hNever
            simp only [hCreate, Bool.false_eq_true, if_false, false_and] at hNever
      | true =>
          simp only [hCreate, if_true, true_and]
          constructor
          · intro hAll _ call hCall
            have hNext := hAll hCache (call + 1) (Nat.succ_lt_succ hCall)
            rwa [Nat.add_comm call, ← Nat.add_assoc] at hNext
          · intro hAll _ call hCall
            cases call with
            | zero => exact hCreate
            | succ call =>
                have hNext := hAll rfl call (Nat.lt_of_succ_lt_succ hCall)
                rwa [Nat.add_assoc, Nat.add_comm 1] at hNext

/-- The rx thread is inside a message: `rest` of its parts are still queued in
front of `tail`. -/
def reading (rest : List Bytes) (tail : List (Bytes × Bool)) (more : Int) (s : EigerFan) :
    EigerFan :=
  { s with rxSocket := ⟨frame rest ++ tail, !rest.isEmpty⟩, more := more }

/-- The states differ only in what no other message depends on: the parsed
document and the cache files. -/
def Scratch (s s' : EigerFan) : Prop :=
  ∃ doc files calls, s' = { s with jsonDocument := doc, files := files, fileCalls := calls }

theorem Scratch.refl (s : EigerFan) : Scratch s s := ⟨_, _, _, rfl⟩

theorem Scratch.trans {s t u : EigerFan} (left : Scratch s t) (right : Scratch t u) :
    Scratch s u := by
  obtain ⟨_, _, _, rfl⟩ := left
  obtain ⟨doc, files, calls, rfl⟩ := right
  exact ⟨doc, files, calls, rfl⟩

theorem Scratch.document {s t : EigerFan} (h : Scratch s t) (doc : Value) :
    Scratch s { t with jsonDocument := doc } :=
  h.trans ⟨doc, _, _, rfl⟩

end EigerFan

open EigerFan

section Steps

variable {A : Type} (env : Environment) (rest : List Bytes) (tail : List (Bytes × Bool))
  (more : Int) (s : EigerFan)

theorem run_members (g : EigerFan → Rx A) :
    (members >>= g).run (answer env) s = (g s).run (answer env) s := rfl

theorem run_assign (f : EigerFan → EigerFan) (g : Unit → Rx A) :
    (assign f >>= g).run (answer env) s = (g ()).run (answer env) (f s) := rfl

/-- The flag of the part received last says whether the message has another. -/
theorem run_moreParts (g : Bool → Rx A) :
    (moreParts >>= g).run (answer env) (reading rest tail more s) =
      (g (!rest.isEmpty)).run (answer env)
        (reading rest tail (if rest.isEmpty then 0 else 1) s) := by
  cases rest <;> rfl

theorem run_recv (part : Bytes) (g : Bytes → Rx A) :
    (recv >>= g).run (answer env) (reading (part :: rest) tail more s) =
      (g part).run (answer env) (reading rest tail more s) := by
  cases rest <;> rfl

theorem reading_writeMessageToFile (message filename : Bytes) :
    (reading rest tail more s).writeMessageToFile env message filename =
      (reading rest tail more (s.writeMessageToFile env message filename).1,
        (s.writeMessageToFile env message filename).2) := by
  cases hCache : s.devShmCache with
  | false => simp [EigerFan.writeMessageToFile, reading, hCache]
  | true =>
      cases hCreate : (env.fileSystem s.fileCalls).createDirectories <;>
        simp [EigerFan.writeMessageToFile, reading, cachePath, hCache, hCreate]

theorem writeMessageToFile_scratch (message filename : Bytes) :
    Scratch s (s.writeMessageToFile env message filename).1 := by
  unfold EigerFan.writeMessageToFile
  split
  · simp only
    split
    · exact ⟨_, _, _, rfl⟩
    · exact ⟨_, _, _, rfl⟩
  · exact Scratch.refl s

end Steps

/-- A preparation from inside a message ends inside the same message with its result,
or one of its cache writes throws; in both cases from `base` only scratch members changed. -/
def PreparedBy {A : Type} (env : Environment) (tail : List (Bytes × Bool)) (base : EigerFan)
    (rest : List Bytes) (count : Nat) (start : EigerFan) (result : A)
    (outcome : Outcome EigerFan Failure A) : Prop :=
  ∃ s rest' more, Scratch base s ∧ rest' <:+ rest ∧
    ((start.CacheWrites env count ∧ outcome = .returned (reading rest' tail more s) result) ∨
      (¬ start.CacheWrites env count ∧ outcome = .failed (reading rest' tail more s) .exception))

namespace PreparedBy

variable {A : Type} {env : Environment} {tail : List (Bytes × Bool)} {base s : EigerFan}
  {rest rest' : List Bytes} {more : Int} {result : A} {count : Nat}

/-- The number of writes that go through depends on the cache only. -/
theorem of_cache {start : EigerFan} {outcome : Outcome EigerFan Failure A}
    (h : PreparedBy env tail base rest count s result outcome)
    (hCache : start.devShmCache = s.devShmCache) (hCalls : start.fileCalls = s.fileCalls) :
    PreparedBy env tail base rest count start result outcome := by
  have hWrites : start.CacheWrites env count ↔ s.CacheWrites env count := by
    rw [CacheWrites, CacheWrites, hCache, hCalls]
  obtain ⟨s', rest', more, hScratch, hRest, hOutcome⟩ := h
  rw [← hWrites] at hOutcome
  exact ⟨s', rest', more, hScratch, hRest, hOutcome⟩

theorem done {start : EigerFan} (hScratch : Scratch base s) (hRest : rest' <:+ rest) :
    PreparedBy env tail base rest 0 start result (.returned (reading rest' tail more s) result) :=
  ⟨s, rest', more, hScratch, hRest, .inl ⟨cacheWrites_zero env start, rfl⟩⟩

theorem write {message filename : Bytes} {g : Unit → Rx A}
    (hScratch : Scratch base s) (hRest : rest' <:+ rest)
    (next : ∀ s₁, Scratch base s₁ →
      PreparedBy env tail base rest count s₁ result
        ((g ()).run (answer env) (reading rest' tail more s₁))) :
    PreparedBy env tail base rest (count + 1) s result
      ((writeMessageToFile message filename >>= g).run (answer env)
        (reading rest' tail more s)) := by
  have hStep : answer env (.writeMessageToFile message filename) (reading rest' tail more s) =
      some (reading rest' tail more (s.writeMessageToFile env message filename).1,
        (s.writeMessageToFile env message filename).2) :=
    congrArg some (reading_writeMessageToFile env rest' tail more s message filename)
  have hAfter := hScratch.trans (writeMessageToFile_scratch env s message filename)
  have hRun : (writeMessageToFile message filename >>= g).run (answer env)
        (reading rest' tail more s) =
      (unlessThrown (s.writeMessageToFile env message filename).2 >>= g).run (answer env)
        (reading rest' tail more (s.writeMessageToFile env message filename).1) :=
    Program.run_act_some (answer env) hStep _
  have hWrites := cacheWrites_succ env message filename count s
  rw [hRun]
  cases hReply : (s.writeMessageToFile env message filename).2 with
  | true =>
      rw [hReply, eq_self_iff_true, true_and] at hWrites
      obtain ⟨s', rest₁, more₁, hScratch', hRest', hOutcome⟩ := next _ hAfter
      rw [← hWrites] at hOutcome
      exact ⟨s', rest₁, more₁, hScratch', hRest', hOutcome⟩
  | false =>
      rw [hReply] at hWrites
      have hThrows : ¬ s.CacheWrites env (count + 1) := fun h => by cases (hWrites.mp h).1
      exact ⟨_, rest', more, hAfter, hRest, .inr ⟨hThrows, rfl⟩⟩

/-- The expected header parts are taken off the message, or it is too short. -/
theorem headerParts {expected after : Nat} (first : Nat) {g : Option (List Bytes) → Rx A}
    (hScratch : Scratch base s) (hRest : rest' <:+ rest)
    (enough : expected ≤ rest'.length → ∀ s₁ more₁, Scratch base s₁ →
      PreparedBy env tail base rest after s₁ result
        ((g (some (rest'.take expected))).run (answer env)
          (reading (rest'.drop expected) tail more₁ s₁)))
    (short : rest'.length < expected → ∀ s₁ more₁ rest₁, Scratch base s₁ → rest₁ <:+ rest' →
      PreparedBy env tail base rest 0 s₁ result
        ((g none).run (answer env) (reading rest₁ tail more₁ s₁))) :
    PreparedBy env tail base rest
      (if expected ≤ rest'.length then expected + after else rest'.length) s result
      ((recvHeaderParts first expected >>= g).run (answer env) (reading rest' tail more s)) := by
  induction expected generalizing first rest' s more g with
  | zero =>
      rw [if_pos (Nat.zero_le _), Nat.zero_add]
      exact enough (Nat.zero_le _) s more hScratch
  | succ expected ih =>
      rw [recvHeaderParts, Program.bind_assoc, run_moreParts]
      cases rest' with
      | nil => exact short (Nat.succ_pos _) s 0 [] hScratch (List.suffix_refl _)
      | cons part parts =>
          simp only [List.isEmpty_cons, Bool.not_false, if_true, Program.bind_assoc]
          rw [run_recv]
          have hCount : (if expected + 1 ≤ (part :: parts).length then expected + 1 + after
                else (part :: parts).length) =
              (if expected ≤ parts.length then expected + after else parts.length) + 1 := by
            rw [List.length_cons]
            split <;> split <;> omega
          rw [hCount]
          refine write hScratch ((List.suffix_cons part parts).trans hRest) fun s₁ hs₁ => ?_
          refine ih (first + 1) hs₁ ((List.suffix_cons part parts).trans hRest) ?_ ?_
          · intro hLength s₂ more₂ hs₂
            exact enough (by simpa using hLength) s₂ more₂ hs₂
          · intro hLength s₂ more₂ rest₂ hs₂ hRest₂
            exact short (by simpa using hLength) s₂ more₂ rest₂ hs₂
              (hRest₂.trans (List.suffix_cons part parts))

/-- Mapping the result of a preparation keeps what it did. -/
theorem map {B : Type} {p : Rx A} {start : EigerFan} (f : A → B)
    (h : PreparedBy env tail base rest count s result (p.run (answer env) start)) :
    PreparedBy env tail base rest count s (f result)
      ((p >>= fun a => pure (f a)).run (answer env) start) := by
  obtain ⟨s', rest₁, more₁, hScratch, hRest, ⟨hWrites, hRun⟩ | ⟨hThrows, hRun⟩⟩ := h
  · exact ⟨s', rest₁, more₁, hScratch, hRest,
      .inl ⟨hWrites, Program.run_bind_returned (answer env) hRun _⟩⟩
  · exact ⟨s', rest₁, more₁, hScratch, hRest,
      .inr ⟨hThrows, Program.run_bind_failed (answer env) hRun _⟩⟩

end PreparedBy

/-- What the handlers read of the first part of a message. -/
inductive FirstPart where
  | unreadable
  | unknown
  | header (members : List (Bytes × Value)) (series : Int) (detail : Bytes)
  | image (members : List (Bytes × Value)) (frame : Int)
  | endOfSeries (members : List (Bytes × Value))

/-- Read a first part as the handlers do; `none` where an assertion fails. -/
def readFirstPart (env : Environment) (message : Bytes) : Option FirstPart :=
  match env.parse (cString message) with
  | none => some .unreadable
  | some (.object members) => do
      let htype ← (Value.findMember headerTypeKey members).bind Value.getString
      if htype = globalHeaderType then
        let series ← (Value.findMember seriesKey members).bind Value.getInt
        let detail ← (Value.findMember headerDetailKey members).bind Value.getString
        some (.header members series detail)
      else if htype = imageHeaderType then
        let frame ← (Value.findMember frameKey members).bind Value.getInt64
        some (.image members frame)
      else if htype = endHeaderType then some (.endOfSeries members)
      else some .unknown
  | some _ => none

/-- What the first part was read from: the text is no JSON, or an object with the
members the handler looks up. -/
inductive FirstPart.ReadFrom : Option Value → FirstPart → Prop where
  | unreadable : ReadFrom none .unreadable
  | unknown {members : List (Bytes × Value)} {htype : Bytes}
      (hType : (Value.findMember headerTypeKey members).bind Value.getString = some htype)
      (hHeader : htype ≠ globalHeaderType) (hImage : htype ≠ imageHeaderType)
      (hEnd : htype ≠ endHeaderType) :
      ReadFrom (some (.object members)) .unknown
  | header {members : List (Bytes × Value)} {series : Int} {detail : Bytes}
      (hType : (Value.findMember headerTypeKey members).bind Value.getString =
        some globalHeaderType)
      (hSeries : (Value.findMember seriesKey members).bind Value.getInt = some series)
      (hDetail : (Value.findMember headerDetailKey members).bind Value.getString = some detail) :
      ReadFrom (some (.object members)) (.header members series detail)
  | image {members : List (Bytes × Value)} {frame : Int}
      (hType : (Value.findMember headerTypeKey members).bind Value.getString =
        some imageHeaderType)
      (hFrame : (Value.findMember frameKey members).bind Value.getInt64 = some frame) :
      ReadFrom (some (.object members)) (.image members frame)
  | endOfSeries {members : List (Bytes × Value)}
      (hType : (Value.findMember headerTypeKey members).bind Value.getString =
        some endHeaderType) :
      ReadFrom (some (.object members)) (.endOfSeries members)

theorem readFirstPart_reads {env : Environment} {message : Bytes} {first : FirstPart}
    (h : readFirstPart env message = some first) :
    first.ReadFrom (env.parse (cString message)) := by
  rw [readFirstPart] at h
  generalize env.parse (cString message) = doc at h ⊢
  split at h
  · cases h
    exact .unreadable
  · obtain ⟨htype, hType, h⟩ := Option.bind_eq_some_iff.mp h
    split at h
    · next hHeader =>
        obtain ⟨series, hSeries, h⟩ := Option.bind_eq_some_iff.mp h
        obtain ⟨detail, hDetail, h⟩ := Option.bind_eq_some_iff.mp h
        cases h
        exact .header (hHeader ▸ hType) hSeries hDetail
    · next hHeader =>
        split at h
        · next hImage =>
            obtain ⟨frame, hFrame, h⟩ := Option.bind_eq_some_iff.mp h
            cases h
            exact .image (hImage ▸ hType) hFrame
        · next hImage =>
            split at h
            · next hEnd =>
                cases h
                exact .endOfSeries (hEnd ▸ hType)
            · next hEnd =>
                cases h
                exact .unknown hType hHeader hImage hEnd
  · cases h

/-- Part 1 as it is sent on: the acquisition ID is its last member. -/
def taggedPart (env : Environment) (members : List (Bytes × Value)) (acquisitionID : Bytes) :
    Bytes :=
  env.write (.object (members ++ [(acquisitionIDKey, .string acquisitionID)]))

def headerPlan (part1 detail : Bytes) (rest : List Bytes) : Plan :=
  if detail = headerDetailNone then headerSent (part1 :: rest.take 1)
  else if detail = headerDetailBasic then
    if 1 ≤ rest.length then headerSent (part1 :: rest.take 2) else rejected
  else if detail = headerDetailAll then
    if 7 ≤ rest.length then headerSent (part1 :: rest.take 8) else rejected
  else ⟨.nothing, [markState .dstrHeader]⟩

def imagePlan (part1 : Bytes) (rest : List Bytes) : Plan :=
  if 3 ≤ rest.length then imageSent (part1 :: rest.take 4) else rejected

/-- The index an image is dispatched to in the state it is handled in. -/
def EigerFan.dispatch (s : EigerFan) (frame : Int) : Option Int :=
  dispatchIndex frame s.currentOffset s.config.blockSize s.config.numConsumers

namespace FirstPart

/-- The members after the preparation, scratch members aside. -/
def entered (s : EigerFan) : FirstPart → EigerFan
  | header _ series _ => { latch s with currentSeries := series }
  | image _ frame => { s with currentConsumerIndexToSendTo := (s.dispatch frame).getD 0 }
  | _ => s

/-- The plan for a message with this first part and those that follow. -/
def plan (env : Environment) (s : EigerFan) (rest : List Bytes) : FirstPart → Plan
  | unreadable => rejected
  | unknown => rejected
  | header members _ detail =>
      headerPlan (taggedPart env members s.configuredAcquisitionID) detail rest
  | image members frame =>
      (imagePlan (taggedPart env members s.currentAcquisitionID) rest).andThen (countImage frame)
  | endOfSeries members =>
      ⟨.broadcast [taggedPart env members s.currentAcquisitionID],
        [markState .dstrEnd, markState .waitingStream]⟩

/-- How often the preparation writes to the cache. -/
def writes (rest : List Bytes) : FirstPart → Nat
  | unreadable => 0
  | unknown => 0
  | header _ _ detail =>
      1 + if detail = headerDetailNone then min 1 rest.length
        else if detail = headerDetailBasic then min 2 rest.length
        else if detail = headerDetailAll then min 8 rest.length
        else 0
  | image _ _ => if 3 ≤ rest.length then min 5 (rest.length + 1) else 0
  | endOfSeries _ => 1

/-- The division of the dispatch does not fault. -/
def Dispatches (s : EigerFan) : FirstPart → Prop
  | image _ frame => (s.dispatch frame).isSome
  | _ => True

end FirstPart

section Preparations

variable {env : Environment} {tail : List (Bytes × Bool)} {base s : EigerFan}
  {rest rest' : List Bytes} {more : Int}

/-- The acquisition ID is added to an object, whatever its members. -/
theorem run_addAcquisitionIDToPart1 {A : Type} (members : List (Bytes × Value))
    (g : Bytes → Rx A) :
    (addAcquisitionIDToPart1 env >>= g).run (answer env)
        (reading rest tail more { s with jsonDocument := .object members }) =
      (g (taggedPart env members s.currentAcquisitionID)).run (answer env)
        (reading rest tail more
          { s with
            jsonDocument :=
              .object (members ++ [(acquisitionIDKey, .string s.currentAcquisitionID)]) }) := rfl

theorem prepareDetailedHeader_prepared (part1 : Bytes) (expected : Nat)
    (hScratch : Scratch base s) (hRest : rest' <:+ rest) :
    PreparedBy env tail base rest (min (expected + 1) rest'.length) s
      (if expected ≤ rest'.length then headerSent (part1 :: rest'.take (expected + 1))
        else rejected)
      ((prepareDetailedHeader part1 expected).run (answer env) (reading rest' tail more s)) := by
  have hCount : min (expected + 1) rest'.length =
      if expected ≤ rest'.length then expected + (if expected < rest'.length then 1 else 0)
        else rest'.length := by
    split
    · split <;> omega
    · omega
  rw [hCount]
  refine PreparedBy.headerParts 1 hScratch hRest ?_ ?_
  · intro hLength s₁ more₁ hs₁
    rw [if_pos hLength, run_moreParts]
    cases hDrop : rest'.drop expected with
    | nil =>
        have hAll : rest'.length ≤ expected := List.drop_eq_nil_iff.mp hDrop
        rw [List.take_of_length_le (by omega), List.take_of_length_le hAll, if_neg (by omega)]
        exact PreparedBy.done hs₁ (List.nil_suffix)
    | cons messageAppendix left =>
        have hSuffix : messageAppendix :: left <:+ rest' := hDrop ▸ List.drop_suffix _ _
        have hTake : rest'.take (expected + 1) = rest'.take expected ++ [messageAppendix] := by
          rw [List.take_add_one, ← List.head?_drop, hDrop]
          rfl
        have hLonger : expected < rest'.length := by
          have hDropped := congrArg List.length hDrop
          rw [List.length_drop, List.length_cons] at hDropped
          omega
        simp only [List.isEmpty_cons, Bool.not_false, if_true]
        rw [run_recv, if_pos hLonger]
        refine PreparedBy.write hs₁ ?_ fun s₂ hs₂ => ?_
        · exact (List.suffix_cons _ _).trans (hSuffix.trans hRest)
        · rw [hTake]
          exact PreparedBy.done hs₂ ((List.suffix_cons _ _).trans (hSuffix.trans hRest))
  · intro hLength s₁ more₁ rest₁ hs₁ hRest₁
    rw [if_neg (by omega)]
    exact PreparedBy.done hs₁ (hRest₁.trans hRest)

theorem prepareGlobalHeader_prepared {members : List (Bytes × Value)} {series : Int}
    {detail : Bytes}
    (hSeries : (Value.findMember seriesKey members).bind Value.getInt = some series)
    (hDetail : (Value.findMember headerDetailKey members).bind Value.getString = some detail) :
    PreparedBy env tail { s with currentSeries := series } rest
      ((FirstPart.header members series detail).writes rest) s
      (headerPlan (taggedPart env members s.currentAcquisitionID) detail rest)
      ((prepareGlobalHeader env).run (answer env)
        (reading rest tail more { s with jsonDocument := .object members })) := by
  have hSeries' := Value.findMember_append_bind hSeries
    [(acquisitionIDKey, .string s.currentAcquisitionID)]
  have hDetail' := Value.findMember_append_bind hDetail
    [(acquisitionIDKey, .string s.currentAcquisitionID)]
  rw [prepareGlobalHeader, run_addAcquisitionIDToPart1, run_members]
  simp only [reading, Value.member, hSeries', hDetail', access, Program.done_bind]
  rw [run_assign]
  have hBase : Scratch { s with currentSeries := series }
      { s with
        currentSeries := series
        jsonDocument :=
          .object (members ++ [(acquisitionIDKey, .string s.currentAcquisitionID)]) } :=
    ⟨_, _, _, rfl⟩
  rw [FirstPart.writes, Nat.add_comm 1]
  refine PreparedBy.of_cache ?_ rfl rfl
  refine PreparedBy.write hBase (List.suffix_refl rest) fun s₁ hs₁ => ?_
  rw [headerPlan]
  split
  · rw [run_moreParts]
    cases rest with
    | nil => exact PreparedBy.done hs₁ (List.suffix_refl _)
    | cons messageAppendix left =>
        have hOne : min 1 (messageAppendix :: left).length = 1 := by simp
        simp only [List.isEmpty_cons, Bool.not_false, if_true]
        rw [run_recv, hOne]
        exact PreparedBy.write hs₁ (List.suffix_cons _ _) fun s₂ hs₂ =>
          PreparedBy.done hs₂ (List.suffix_cons _ _)
  · split
    · exact prepareDetailedHeader_prepared _ 1 hs₁ (List.suffix_refl rest)
    · split
      · exact prepareDetailedHeader_prepared _ 7 hs₁ (List.suffix_refl rest)
      · exact PreparedBy.done hs₁ (List.suffix_refl rest)

theorem prepareImageData_prepared (members : List (Bytes × Value)) (frameNumber : Int) :
    PreparedBy env tail s rest ((FirstPart.image members frameNumber).writes rest) s
      (imagePlan (taggedPart env members s.currentAcquisitionID) rest)
      ((prepareImageData env frameNumber).run (answer env)
        (reading rest tail more { s with jsonDocument := .object members })) := by
  have hBase : ∀ doc, Scratch s { s with jsonDocument := doc } := fun doc => ⟨doc, _, _, rfl⟩
  rw [prepareImageData, run_moreParts, imagePlan, FirstPart.writes]
  rcases rest with _ | ⟨messagePart2, _ | ⟨messagePart3, _ | ⟨messagePart4, left⟩⟩⟩
  · exact PreparedBy.done (hBase _) (List.suffix_refl _)
  · simp only [List.isEmpty_cons, Bool.not_false, if_true]
    rw [run_addAcquisitionIDToPart1, run_recv, run_moreParts]
    exact PreparedBy.done (hBase _) (List.suffix_cons _ _)
  · simp only [List.isEmpty_cons, Bool.not_false, if_true]
    rw [run_addAcquisitionIDToPart1, run_recv, run_moreParts]
    simp only [List.isEmpty_cons, Bool.not_false, if_true]
    rw [run_recv, run_moreParts]
    exact PreparedBy.done (hBase _) List.nil_suffix
  · have hLeft : left <:+ messagePart2 :: messagePart3 :: messagePart4 :: left :=
      ⟨[messagePart2, messagePart3, messagePart4], rfl⟩
    have hLength : 3 ≤ (messagePart2 :: messagePart3 :: messagePart4 :: left).length := by simp
    rw [if_pos hLength, if_pos hLength]
    simp only [List.isEmpty_cons, Bool.not_false, if_true]
    rw [run_addAcquisitionIDToPart1, run_recv, run_moreParts]
    simp only [List.isEmpty_cons, Bool.not_false, if_true]
    rw [run_recv, run_moreParts]
    simp only [List.isEmpty_cons, Bool.not_false, if_true]
    rw [run_recv]
    have hCount : min 5 ((messagePart2 :: messagePart3 :: messagePart4 :: left).length + 1) =
        (if left.isEmpty then 0 else 1) + 1 + 1 + 1 + 1 := by
      cases left <;> simp
    rw [hCount]
    refine PreparedBy.of_cache (s := { s with
      jsonDocument :=
        .object (members ++ [(acquisitionIDKey, .string s.currentAcquisitionID)]) }) ?_ rfl rfl
    refine PreparedBy.write (hBase _) hLeft fun s₁ hs₁ => ?_
    refine PreparedBy.write hs₁ hLeft fun s₂ hs₂ => ?_
    refine PreparedBy.write hs₂ hLeft fun s₃ hs₃ => ?_
    refine PreparedBy.write hs₃ hLeft fun s₄ hs₄ => ?_
    rw [run_moreParts]
    cases left with
    | nil => exact PreparedBy.done hs₄ hLeft
    | cons messageAppendix surplus =>
        simp only [List.isEmpty_cons, Bool.not_false, if_true]
        rw [run_recv]
        have hSurplus := (List.suffix_cons messageAppendix surplus).trans hLeft
        exact PreparedBy.write hs₄ hSurplus fun s₅ hs₅ => PreparedBy.done hs₅ hSurplus

theorem prepareEndOfSeries_prepared (members : List (Bytes × Value)) :
    PreparedBy env tail s rest 1 s
      ⟨.broadcast [taggedPart env members s.currentAcquisitionID], [markState .dstrEnd]⟩
      ((prepareEndOfSeries env).run (answer env)
        (reading rest tail more { s with jsonDocument := .object members })) := by
  rw [prepareEndOfSeries, run_addAcquisitionIDToPart1]
  refine PreparedBy.of_cache (s := { s with
    jsonDocument :=
      .object (members ++ [(acquisitionIDKey, .string s.currentAcquisitionID)]) }) ?_ rfl rfl
  exact PreparedBy.write ⟨_, _, _, rfl⟩ (List.suffix_refl rest) fun s₁ hs₁ =>
    PreparedBy.done hs₁ (List.suffix_refl rest)

/-- The preparation of every message whose first part reads well, with the number of
cache writes it takes. -/
theorem prepare_preparedBy {message : Bytes} {first : FirstPart}
    (hFirst : readFirstPart env message = some first) (hDispatch : first.Dispatches s) :
    PreparedBy env tail (first.entered s) rest (first.writes rest) s (first.plan env s rest)
      ((prepare env message).run (answer env) (reading rest tail more s)) := by
  obtain ⟨hHeaderImage, hHeaderEnd, hImageEnd⟩ := headerTypes_distinct
  have hRead := readFirstPart_reads hFirst
  rw [prepare]
  generalize env.parse (cString message) = doc at hRead ⊢
  cases hRead with
  | unreadable => exact PreparedBy.done (Scratch.refl s) (List.suffix_refl rest)
  | unknown hType hHeader hImage hEnd =>
      simp only [Value.member, hType, access, Program.done_bind, if_neg hHeader, if_neg hImage,
        if_neg hEnd]
      rw [run_assign]
      exact PreparedBy.done ⟨_, _, _, rfl⟩ (List.suffix_refl rest)
  | header hType hSeries hDetail =>
      simp only [Value.member, hType, access, Program.done_bind, if_true]
      rw [run_assign]
      exact prepareGlobalHeader_prepared (s := latch s) hSeries hDetail
  | @image members frame hType hFrame =>
      obtain ⟨index, hIndex⟩ := Option.isSome_iff_exists.mp hDispatch
      have hIndex' : dispatchIndex frame s.currentOffset s.config.blockSize
          s.config.numConsumers = some index := hIndex
      simp only [Value.member, hType, hFrame, access, Program.done_bind, if_neg hHeaderImage.symm,
        if_true]
      rw [run_assign, run_members]
      simp only [reading, hIndex', Program.done_bind]
      rw [run_assign]
      simp only [FirstPart.entered, FirstPart.plan, hIndex, Option.getD_some]
      exact (prepareImageData_prepared
        (s := { s with currentConsumerIndexToSendTo := index }) members frame).map _
  | @endOfSeries members hType =>
      simp only [Value.member, hType, access, Program.done_bind, if_neg hHeaderEnd.symm,
        if_neg hImageEnd.symm, if_true]
      rw [run_assign]
      exact (prepareEndOfSeries_prepared members).map _

/-- A division that faults in the dispatch ends the process. -/
theorem prepare_faults {message : Bytes} {members : List (Bytes × Value)} {frame : Int}
    (hFirst : readFirstPart env message = some (.image members frame))
    (hDispatch : s.dispatch frame = none) :
    ∃ t, (prepare env message).run (answer env) (reading rest tail more s) =
      .failed t .abort := by
  have hRead := readFirstPart_reads hFirst
  rw [prepare]
  generalize env.parse (cString message) = doc at hRead ⊢
  cases hRead with
  | image hType hFrame =>
      have hDispatch' : dispatchIndex frame s.currentOffset s.config.blockSize
          s.config.numConsumers = none := hDispatch
      simp only [Value.member, hType, hFrame, access, Program.done_bind,
        if_neg headerTypes_distinct.1.symm, if_true]
      rw [run_assign, run_members]
      simp only [reading, hDispatch']
      exact ⟨_, rfl⟩

end Preparations

end Eiger.Fan
