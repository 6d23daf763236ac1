import EigerDetector.Fan.Stream
import EigerDetector.Library.Transition

/-! The files of the message cache over any sequence of `WriteMessageToFile`
calls. The rename is made whatever became of `open` and `write`, and the
temporary file is opened without being truncated. -/
namespace Eiger.Fan

open CharArrays Rapidjson Threads Rx Transition EigerFan

/-- No message is cached under a name that ends like a temporary file. -/
def FinalName (path : Bytes) : Prop := ¬ bytes ".tmp" <:+ path

instance (path : Bytes) : Decidable (FinalName path) := inferInstanceAs (Decidable (¬ _))

theorem tmpPath_not_final (path : Bytes) : ¬ FinalName (tmpPath path) :=
  fun h => h (List.suffix_append path _)

theorem FinalName.ne_tmpPath {path : Bytes} (h : FinalName path) (other : Bytes) :
    path ≠ tmpPath other := by
  rintro rfl
  exact tmpPath_not_final other h

section Names

/-- Only the last byte of a name matters. -/
theorem finalName_of_getLast {path : Bytes} {b : UInt8} (hLast : path.getLast? = some b)
    (hb : b ≠ 112) : FinalName path := by
  rintro ⟨stem, rfl⟩
  rw [List.getLast?_append] at hLast
  cases hLast
  exact hb rfl

/-- A part is cached under a final name only. -/
def CachesFinal : RxAction → Prop
  | .writeMessageToFile _ filename => ∀ s : EigerFan, FinalName (s.cachePath filename)
  | _ => True

theorem getLast?_append_of_some {stem name : Bytes} {b : UInt8} (h : name.getLast? = some b) :
    (stem ++ name).getLast? = some b := by
  rw [List.getLast?_append, h, Option.some_or]

/-- A number ends in a digit. -/
theorem getLast_toString (n : Nat) : ∃ b ≠ 112, (bytes (toString n)).getLast? = some b := by
  have hDigits : (toString n).toList = Nat.toDigits 10 n := Nat.toList_repr
  have hLast := List.getLast?_eq_getLast_of_ne_nil (Nat.toDigits_ne_nil (n := n) (b := 10))
  refine ⟨_, fun hSame => ?_, by rw [bytes, hDigits, List.getLast?_map, hLast]; rfl⟩
  have hDigit := Nat.isDigit_of_mem_toDigits (by omega) (le_refl 10) (List.getLast_mem
    (Nat.toDigits_ne_nil (n := n) (b := 10)))
  have hBound := (Char.isDigit_iff_toNat.mp hDigit).2
  have hByte := congrArg UInt8.toNat hSame
  rw [UInt8.toNat_ofNat'] at hByte
  have hNine : '9'.toNat = 57 := rfl
  have hLetter : UInt8.toNat 112 = 112 := rfl
  omega

theorem members_cachesFinal : members.Uses CachesFinal fun _ => True := .perform trivial

theorem assign_cachesFinal (update : EigerFan → EigerFan) :
    (assign update).Uses CachesFinal fun _ => True := .perform trivial

theorem recv_cachesFinal : recv.Uses CachesFinal fun _ => True := .perform trivial

theorem access_cachesFinal {A : Type} (a : Option A) :
    (access a).Uses CachesFinal fun _ => True := by
  cases a <;> trivial

theorem moreParts_cachesFinal : moreParts.Uses CachesFinal fun _ => True :=
  .seq (.perform trivial) fun _ => .seq members_cachesFinal fun _ => trivial

theorem unlessThrown_cachesFinal (returned : Bool) :
    (unlessThrown returned).Uses CachesFinal fun _ => True := by
  cases returned <;> trivial

theorem writeMessageToFile_cachesFinal {filename : Bytes} {b : UInt8}
    (hLast : filename.getLast? = some b) (hb : b ≠ 112) (message : Bytes) :
    (writeMessageToFile message filename).Uses CachesFinal fun _ => True :=
  .seq (.perform fun _ => finalName_of_getLast (getLast?_append_of_some hLast) hb)
    unlessThrown_cachesFinal

theorem sendToAll_cachesFinal (parts : List (Bytes × Bool)) :
    (sendToAll parts).Uses CachesFinal fun _ => True := by
  refine .seq members_cachesFinal fun s => .seq (.perform trivial) fun _ => ?_
  induction sendOrder s.config.numConsumers with
  | nil => trivial
  | cons rank ranks ih =>
      exact .seq (.perform trivial) fun returned =>
        .seq (unlessThrown_cachesFinal returned) fun _ => ih

theorem sendImageParts_cachesFinal (parts : List (Bytes × Bool)) :
    (sendImageParts parts).Uses CachesFinal fun _ => True := by
  induction parts with
  | nil => trivial
  | cons part parts ih =>
      exact .seq (.seq (.perform trivial) unlessThrown_cachesFinal) fun _ => ih

theorem addAcquisitionIDToPart1_cachesFinal (env : Environment) :
    (addAcquisitionIDToPart1 env).Uses CachesFinal fun _ => True := by
  refine .seq members_cachesFinal fun s => .seq (access_cachesFinal _) fun doc => ?_
  exact .seq (assign_cachesFinal _) fun _ => trivial

theorem recvHeaderParts_cachesFinal (first count : Nat) :
    (recvHeaderParts first count).Uses CachesFinal fun _ => True := by
  induction count generalizing first with
  | zero => trivial
  | succ count ih =>
      obtain ⟨b, hb, hLast⟩ := getLast_toString first
      refine .seq moreParts_cachesFinal fun more => ?_
      split
      · refine .seq recv_cachesFinal fun part => ?_
        refine .seq (writeMessageToFile_cachesFinal (getLast?_append_of_some hLast) hb part)
          fun _ => ?_
        refine .seq (ih (first + 1)) fun parts => ?_
        cases parts <;> trivial
      · trivial

theorem handleDetailedHeader_cachesFinal (part1 : Bytes) (expected : Nat) :
    (handleDetailedHeader part1 expected).Uses CachesFinal fun _ => True := by
  refine .seq (recvHeaderParts_cachesFinal 1 expected) fun parts => ?_
  cases parts with
  | none => trivial
  | some parts =>
      refine .seq moreParts_cachesFinal fun more => ?_
      split
      · refine .seq recv_cachesFinal fun appendix => ?_
        refine .seq (writeMessageToFile_cachesFinal rfl (by decide) appendix) fun _ => ?_
        exact .seq (sendToAll_cachesFinal _) fun _ => assign_cachesFinal _
      · exact .seq (sendToAll_cachesFinal _) fun _ => assign_cachesFinal _

theorem handleGlobalHeaderMessage_cachesFinal (env : Environment) :
    (handleGlobalHeaderMessage env).Uses CachesFinal fun _ => True := by
  refine .seq (addAcquisitionIDToPart1_cachesFinal env) fun part1 => ?_
  refine .seq members_cachesFinal fun s => .seq (access_cachesFinal _) fun series => ?_
  refine .seq (assign_cachesFinal _) fun _ => .seq (access_cachesFinal _) fun detail => ?_
  refine .seq (writeMessageToFile_cachesFinal rfl (by decide) part1) fun _ => ?_
  split
  · refine .seq moreParts_cachesFinal fun more => ?_
    split
    · refine .seq recv_cachesFinal fun appendix => ?_
      refine .seq (writeMessageToFile_cachesFinal rfl (by decide) appendix) fun _ => ?_
      exact .seq (sendToAll_cachesFinal _) fun _ => assign_cachesFinal _
    · exact .seq (sendToAll_cachesFinal _) fun _ => assign_cachesFinal _
  · split
    · exact handleDetailedHeader_cachesFinal part1 1
    · split
      · exact handleDetailedHeader_cachesFinal part1 7
      · exact assign_cachesFinal _

theorem imageFile_cachesFinal (frame : Int) {part : String} {b : UInt8}
    (hLast : (bytes part).getLast? = some b) (hb : b ≠ 112) (message : Bytes) :
    (writeMessageToFile message (imageFile frame part)).Uses CachesFinal fun _ => True :=
  writeMessageToFile_cachesFinal (getLast?_append_of_some hLast) hb message

theorem handleImageDataMessage_cachesFinal (env : Environment) (frame : Int) :
    (handleImageDataMessage env frame).Uses CachesFinal fun _ => True := by
  refine .seq moreParts_cachesFinal fun more => ?_
  split
  · refine .seq (addAcquisitionIDToPart1_cachesFinal env) fun part1 => ?_
    refine .seq recv_cachesFinal fun part2 => .seq moreParts_cachesFinal fun more => ?_
    split
    · refine .seq recv_cachesFinal fun part3 => .seq moreParts_cachesFinal fun more => ?_
      split
      · refine .seq recv_cachesFinal fun part4 => ?_
        refine .seq (imageFile_cachesFinal frame rfl (by decide) part1) fun _ => ?_
        refine .seq (imageFile_cachesFinal frame rfl (by decide) part2) fun _ => ?_
        refine .seq (imageFile_cachesFinal frame rfl (by decide) part3) fun _ => ?_
        refine .seq (imageFile_cachesFinal frame rfl (by decide) part4) fun _ => ?_
        refine .seq moreParts_cachesFinal fun more => ?_
        split
        · refine .seq recv_cachesFinal fun appendix => ?_
          refine .seq (imageFile_cachesFinal frame rfl (by decide) appendix) fun _ => ?_
          exact .seq (sendImageParts_cachesFinal _) fun _ => assign_cachesFinal _
        · exact .seq (sendImageParts_cachesFinal _) fun _ => assign_cachesFinal _
      · trivial
    · trivial
  · trivial

theorem handleEndOfSeriesMessage_cachesFinal (env : Environment) :
    (handleEndOfSeriesMessage env).Uses CachesFinal fun _ => True := by
  refine .seq (addAcquisitionIDToPart1_cachesFinal env) fun part1 => ?_
  refine .seq (writeMessageToFile_cachesFinal rfl (by decide) part1) fun _ => ?_
  exact .seq (sendToAll_cachesFinal _) fun _ => assign_cachesFinal _

theorem dispatchStreamMessage_cachesFinal (env : Environment) (message : Bytes) :
    (dispatchStreamMessage env message).Uses CachesFinal fun _ => True := by
  rw [dispatchStreamMessage]
  split
  · trivial
  · refine .seq (assign_cachesFinal _) fun _ => .seq (access_cachesFinal _) fun htype => ?_
    split
    · refine .seq (assign_cachesFinal _) fun _ => .seq (assign_cachesFinal _) fun _ => ?_
      refine .seq (assign_cachesFinal _) fun _ => .seq (assign_cachesFinal _) fun _ => ?_
      refine .seq (assign_cachesFinal _) fun _ => .seq (assign_cachesFinal _) fun _ => ?_
      exact .seq (assign_cachesFinal _) fun _ => handleGlobalHeaderMessage_cachesFinal env
    · split
      · refine .seq (access_cachesFinal _) fun frame => .seq members_cachesFinal fun s => ?_
        refine .seq (access_cachesFinal _) fun index => .seq (assign_cachesFinal _) fun _ => ?_
        exact .seq (handleImageDataMessage_cachesFinal env frame) fun _ => assign_cachesFinal _
      · split
        · exact .seq (handleEndOfSeriesMessage_cachesFinal env) fun _ => assign_cachesFinal _
        · trivial

theorem drainSurplusParts_cachesFinal (fuel : Nat) :
    (drainSurplusParts fuel).Uses CachesFinal fun _ => True := by
  induction fuel with
  | zero => trivial
  | succ fuel ih =>
      refine .seq moreParts_cachesFinal fun more => ?_
      split
      · exact .seq recv_cachesFinal fun _ => ih
      · trivial

/-- Every message is cached under a final name, whatever is received. -/
theorem handleRxSocket_cachesFinal (env : Environment) :
    (handleRxSocket env).Uses CachesFinal fun _ => True := by
  refine .seq members_cachesFinal fun s => .seq recv_cachesFinal fun message => ?_
  refine .seq ?_ fun _ => drainSurplusParts_cachesFinal _
  refine .onFailure (dispatchStreamMessage_cachesFinal env message) fun e => ?_
  cases e <;> trivial

end Names

namespace FileCalls

/-- `write` put down the full size. -/
def WritesAll (calls : FileCalls) (message : Bytes) : Prop :=
  calls.openFile = true ∧ ∃ count ∈ calls.written, message.length ≤ count

instance (calls : FileCalls) (message : Bytes) : Decidable (calls.WritesAll message) :=
  inferInstanceAs (Decidable (_ ∧ _))

/-- What `open` and `write` make of the temporary file. -/
def leaves (calls : FileCalls) (message : Bytes) (tmp : Option Bytes) : Option Bytes :=
  if calls.openFile then
    some (message.take (calls.written.getD 0) ++
      (tmp.getD []).drop (message.take (calls.written.getD 0)).length)
  else tmp

/-- When the rename is made, the temporary file is not there, or a full write has
covered all that it held. Otherwise its bytes are those of the last whole message or
those already shown. -/
def Intact (calls : FileCalls) (message : Bytes) (tmp final whole : Option Bytes) : Prop :=
  calls.rename = true →
    if calls.WritesAll message then
      (tmp.getD []).length ≤ message.length ∨
        final = some (message ++ (tmp.getD []).drop message.length)
    else if calls.openFile then
      let count := calls.written.getD 0
      let torn := message.take count ++ (tmp.getD []).drop count
      final = some torn ∨ whole = some torn
    else tmp = none ∨ final = tmp ∨ whole = tmp

instance (calls : FileCalls) (message : Bytes) (tmp final whole : Option Bytes) :
    Decidable (calls.Intact message tmp final whole) := by
  unfold Intact
  infer_instance

end FileCalls

section Calls

variable (calls : FileCalls) (path message : Bytes) (files : Bytes → Option Bytes)

theorem ne_tmpPath (path : Bytes) : path ≠ tmpPath path := by
  intro hSame
  have hLength := congrArg List.length hSame
  rw [tmpPath, List.length_append] at hLength
  have hSuffix : (bytes ".tmp").length = 4 := rfl
  omega

/-- What a call shows under the final name: what is left in the temporary file if there
is one to rename, and else what was there. -/
theorem writeCalls_path : writeCalls calls path message files path =
    if calls.rename then (calls.leaves message (files (tmpPath path))).or (files path)
    else files path := by
  have hPath := ne_tmpPath path
  obtain ⟨createDirectories, openFile, written, rename⟩ := calls
  cases openFile <;> cases written <;> cases rename <;> cases hTmp : files (tmpPath path) <;>
    simp [writeCalls, FileCalls.leaves, hPath, hTmp]

/-- A call touches no file besides its own two. -/
theorem writeCalls_other {other : Bytes} (hPath : other ≠ path) (hTmp : other ≠ tmpPath path) :
    writeCalls calls path message files other = files other := by
  obtain ⟨createDirectories, openFile, written, rename⟩ := calls
  cases openFile <;> cases written <;> cases rename <;> cases hFile : files (tmpPath path) <;>
    simp [writeCalls, hPath, hTmp, hFile]

end Calls

/-- A full write leaves the message and what the temporary file held behind it. -/
theorem FileCalls.leaves_of_writesAll {calls : FileCalls} {message : Bytes}
    (h : calls.WritesAll message) (tmp : Option Bytes) :
    calls.leaves message tmp = some (message ++ (tmp.getD []).drop message.length) := by
  obtain ⟨hOpen, count, hCount, hFull⟩ := h
  have hWritten : calls.written = some count := hCount
  rw [leaves, if_pos hOpen, hWritten, Option.getD_some, List.take_of_length_le hFull]

/-- A short or failed write leaves what it wrote and the older bytes behind it. -/
theorem FileCalls.leaves_of_torn {calls : FileCalls} {message : Bytes}
    (h : ¬ calls.WritesAll message) (hOpen : calls.openFile = true) (tmp : Option Bytes) :
    calls.leaves message tmp = some (message.take (calls.written.getD 0) ++
      (tmp.getD []).drop (calls.written.getD 0)) := by
  have hShort : calls.written.getD 0 ≤ message.length := by
    cases hWritten : calls.written with
    | none => exact Nat.zero_le _
    | some count =>
        by_contra hLong
        exact h ⟨hOpen, count, hWritten, Nat.le_of_lt (Nat.lt_of_not_le hLong)⟩
  rw [leaves, if_pos hOpen, List.length_take, Nat.min_eq_left hShort]

/-- The older bytes make no difference exactly if there are none behind the message. -/
theorem append_drop_eq_self {message old : Bytes} :
    message ++ old.drop message.length = message ↔ old.length ≤ message.length := by
  rw [List.append_right_eq_self, List.drop_eq_nil_iff]

/-- The condition on the outcomes and the files before the call is exact. -/
theorem FileCalls.intact_iff (calls : FileCalls) (message : Bytes)
    (tmp final whole : Option Bytes) :
    calls.Intact message tmp final whole ↔
      ∀ content, (if calls.rename then (calls.leaves message tmp).or final else final) =
          some content →
        final = some content ∨
          (if calls.WritesAll message then some message else whole) = some content := by
  cases hRename : calls.rename with
  | false =>
      refine ⟨fun _ content hShown => .inl hShown, fun _ hTrue => ?_⟩
      rw [hRename] at hTrue
      cases hTrue
  | true =>
      simp only [Intact, hRename, if_true, forall_const]
      by_cases hAll : calls.WritesAll message
      · simp only [if_pos hAll, leaves_of_writesAll hAll, Option.some_or, Option.some.injEq,
          forall_eq']
        rw [← append_drop_eq_self, or_comm, eq_comm (a := message)]
      · simp only [if_neg hAll]
        cases hOpen : calls.openFile with
        | true => simp [leaves_of_torn hAll hOpen]
        | false =>
            rw [leaves, hOpen, if_neg Bool.false_ne_true, if_neg Bool.false_ne_true]
            cases tmp with
            | none => exact ⟨fun _ content hShown => .inl hShown, fun _ => .inl rfl⟩
            | some left => simp

/-- The fan with two records: the files before the last call, and the last message for
each path whose write fully succeeded. -/
structure CacheRun where
  fan : EigerFan
  before : Bytes → Option Bytes
  whole : Bytes → Option Bytes

/-- A call of `WriteMessageToFile`, or whatever else happens to the fan and the files
before the next one. -/
inductive CacheEvent where
  | writeMessageToFile (message filename : Bytes)
  | elsewhere (fan : EigerFan)

namespace CacheRun

/-- Any fan in front of any files, before the first call. -/
def start (fan : EigerFan) : CacheRun := ⟨fan, fan.files, fun _ => none⟩

def step (env : Environment) (w : CacheRun) : CacheEvent → Option CacheRun
  | .writeMessageToFile message filename =>
      let calls := env.fileSystem w.fan.fileCalls
      let written := w.fan.devShmCache = true ∧ calls.createDirectories = true ∧
        calls.WritesAll message
      some
        { fan := (w.fan.writeMessageToFile env message filename).1
          before := w.fan.files
          whole := if written then
              Function.update w.whole (w.fan.cachePath filename) (some message)
            else w.whole }
  | .elsewhere fan => some { w with fan := fan, before := fan.files }

/-- What is visible under a final name is the last whole message or what was there
before the call. -/
def Untorn (w : CacheRun) : Prop :=
  ∀ path, FinalName path → ∀ content, w.fan.files path = some content →
    w.before path = some content ∨ w.whole path = some content

/-- A call that reaches the file system finds there what it can rename. -/
def Intact (env : Environment) (w : CacheRun) : CacheEvent → Prop
  | .writeMessageToFile message filename =>
      let calls := env.fileSystem w.fan.fileCalls
      let path := w.fan.cachePath filename
      w.fan.devShmCache = true → calls.createDirectories = true → FinalName path →
        calls.Intact message (w.fan.files (tmpPath path)) (w.fan.files path) (w.whole path)
  | .elsewhere _ => True

instance (env : Environment) (w : CacheRun) : (event : CacheEvent) → Decidable (w.Intact env event)
  | .writeMessageToFile _ _ => inferInstanceAs (Decidable (_ → _ → _ → FileCalls.Intact _ _ _ _ _))
  | .elsewhere _ => .isTrue trivial

/-- A call that reaches the file system changes one final name. -/
theorem untorn_written {env : Environment} {w t : CacheRun} {message filename : Bytes}
    (hCache : w.fan.devShmCache = true)
    (hCreate : (env.fileSystem w.fan.fileCalls).createDirectories = true)
    (hStep : w.step env (.writeMessageToFile message filename) = some t) :
    t.Untorn ↔ w.Intact env (.writeMessageToFile message filename) := by
  let calls := env.fileSystem w.fan.fileCalls
  let path := w.fan.cachePath filename
  have hFiles : t.fan.files = writeCalls calls path message w.fan.files := by
    cases hStep
    simp only [EigerFan.writeMessageToFile, if_pos hCache, if_pos hCreate]
    rfl
  have hBefore : t.before = w.fan.files := by
    cases hStep
    rfl
  have hWhole : t.whole path = if calls.WritesAll message then some message else w.whole path := by
    cases hStep
    by_cases hAll : calls.WritesAll message
    · show (if _ ∧ _ ∧ calls.WritesAll message then _ else _ : Bytes → Option Bytes) path = _
      rw [if_pos ⟨hCache, hCreate, hAll⟩, if_pos hAll, Function.update_self]
    · show (if _ ∧ _ ∧ calls.WritesAll message then _ else _ : Bytes → Option Bytes) path = _
      rw [if_neg fun h => hAll h.2.2, if_neg hAll]
  have hShown := writeCalls_path calls path message w.fan.files
  constructor
  · intro hUntorn _ _ hFinal
    refine (FileCalls.intact_iff calls message _ _ _).mpr fun content hContent => ?_
    have hKept := hUntorn path hFinal content (by rw [hFiles, hShown, hContent])
    rwa [hBefore, hWhole] at hKept
  · intro hIntact other hFinal content hContent
    by_cases hOther : other = path
    · subst hOther
      rw [hFiles, hShown] at hContent
      rw [hBefore, hWhole]
      exact (FileCalls.intact_iff calls message _ _ _).mp (hIntact hCache hCreate hFinal)
        content hContent
    · rw [hFiles, writeCalls_other calls path message _ hOther (hFinal.ne_tmpPath path)] at hContent
      exact .inl (hBefore ▸ hContent)

/-- A step leaves no torn file exactly if what it finds can be renamed. -/
theorem untorn_step {env : Environment} {w t : CacheRun} {event : CacheEvent}
    (hStep : w.step env event = some t) : t.Untorn ↔ w.Intact env event := by
  cases event with
  | elsewhere fan =>
      cases hStep
      exact ⟨fun _ => trivial, fun _ _ _ _ hContent => .inl hContent⟩
  | writeMessageToFile message filename =>
      by_cases hCache : w.fan.devShmCache = true
      · by_cases hCreate : (env.fileSystem w.fan.fileCalls).createDirectories = true
        · exact untorn_written hCache hCreate hStep
        · refine ⟨fun _ _ hCreated => absurd hCreated hCreate,
            fun _ _ _ content hContent => .inl ?_⟩
          cases hStep
          simpa only [EigerFan.writeMessageToFile, if_pos hCache, if_neg hCreate] using hContent
      · refine ⟨fun _ hOn => absurd hOn hCache, fun _ _ _ content hContent => .inl ?_⟩
        cases hStep
        simpa only [EigerFan.writeMessageToFile, if_neg hCache] using hContent

end CacheRun

open CacheRun

/-- A file in the cache is never seen torn exactly if every rename finds a whole
message in the temporary file, or none. -/
theorem cache_untorn_iff {env : Environment} {fan : EigerFan} {events : List CacheEvent}
    {w : CacheRun} (hExec : exec (CacheRun.step env) (start fan) events = some w) :
    Along (CacheRun.step env) Untorn (start fan) events ↔
      Run (CacheRun.step env) (CacheRun.Intact env) (start fan) events w :=
  along_iff_run Untorn (fun _ _ _ hContent => .inl hContent) (fun _ h => h)
    (fun _ _ _ _ hIntact hStep => (untorn_step hStep).mpr hIntact)
    (fun _ _ _ _ hTorn hStep h => hTorn ((untorn_step hStep).mp h)) hExec

/-- A fan that caches what it receives, in front of an empty `/dev/shm`. -/
def cachingFan : EigerFan := { initial defaultConfig with devShmCache := true }

def cachedImage : Bytes := cachingFan.cachePath (bytes "image_1_0")

/-- File system calls in which `write` and `rename` end as given. -/
def writesEnding (written : Option Nat) (rename : Bool) : Environment :=
  { Environment.ofTexts [] with fileSystem := fun _ => ⟨true, true, written, rename⟩ }

/-- On a full `/dev/shm` the write fails, and an empty file is shown. -/
theorem full_cache_shows_empty_file :
    ∃ w, Run (CacheRun.step (writesEnding none true)) always (start cachingFan)
        [.writeMessageToFile [1, 2, 3] (bytes "image_1_0")] w ∧
      w.before cachedImage = none ∧ w.whole cachedImage = none ∧
      w.fan.files cachedImage = some [] ∧
      ¬ Along (CacheRun.step (writesEnding none true)) Untorn (start cachingFan)
        [.writeMessageToFile [1, 2, 3] (bytes "image_1_0")] := by
  refine ⟨_, run_always_iff.mpr rfl, by decide +kernel, by decide +kernel, by decide +kernel, ?_⟩
  rintro ⟨_, hAlong⟩
  have hShown := hAlong _ rfl cachedImage (by decide) [] (by decide +kernel)
  exact absurd hShown (by decide +kernel)

/-- The rename of the second message fails, and the call for the third cannot open the
temporary file but renames it. -/
def lateRename : Environment :=
  { Environment.ofTexts [] with
    fileSystem := fun call =>
      if call = 1 then ⟨true, true, some 3, false⟩
      else if call = 2 then ⟨true, false, none, true⟩
      else ⟨true, true, some 3, true⟩ }

def threeMessages : List CacheEvent :=
  [.writeMessageToFile [1, 2, 3] (bytes "image_1_0"),
    .writeMessageToFile [4, 5, 6] (bytes "image_1_0"),
    .writeMessageToFile [7, 8, 9] (bytes "image_1_0")]

/-- The second message is shown late, but whole. -/
theorem late_rename_shows_whole_message :
    ∃ w, exec (CacheRun.step lateRename) (start cachingFan) threeMessages = some w ∧
      w.fan.files cachedImage = some [4, 5, 6] ∧
      Along (CacheRun.step lateRename) Untorn (start cachingFan) threeMessages := by
  have hExec : (exec (guarded (CacheRun.step lateRename) (CacheRun.Intact lateRename))
      (start cachingFan) threeMessages).map (fun w => w.fan.files cachedImage) =
      some (some [4, 5, 6]) := by decide +kernel
  obtain ⟨w, hGuarded, hShown⟩ := Option.map_eq_some_iff.mp hExec
  have hRun := run_iff_exec_guarded.mpr hGuarded
  exact ⟨w, hRun.executes, hShown, (cache_untorn_iff hRun.executes).mpr hRun⟩

end Eiger.Fan
