import EigerDetector.Control.Loops
import EigerDetector.Control.Refresh

/-! Which byte strings the live view takes apart, and what it publishes of them. -/
namespace Eiger.Server

open CharArrays Threads

section Format

/-- One entry of the directory of a little-endian TIFF file. -/
structure TiffEntry where
  tag : Nat
  type : Nat
  count : Nat
  field : Nat
  deriving DecidableEq

/-- The number in some bytes from an offset on. -/
def tiffNumber (tiff : Bytes) (offset size : Nat) : Nat :=
  littleEndian ((tiff.drop offset).take size)

def tiffEntry (tiff : Bytes) (offset : Nat) : TiffEntry where
  tag := tiffNumber tiff offset 2
  type := tiffNumber tiff (offset + 2) 2
  count := tiffNumber tiff (offset + 4) 4
  field := tiffNumber tiff (offset + 8) 4

/-- One SHORT or one LONG stands in the field itself, from its first byte on. -/
def TiffEntry.inlineValue (entry : TiffEntry) : Option Nat :=
  if entry.count = 1 ∧ entry.type = 3 then some (entry.field % 65536)
  else if entry.count = 1 ∧ entry.type = 4 then some entry.field
  else none

def directoryOffset (tiff : Bytes) : Nat := tiffNumber tiff 4 4

def directoryCount (tiff : Bytes) : Nat := tiffNumber tiff (directoryOffset tiff) 2

def directory (tiff : Bytes) : List TiffEntry :=
  (List.range (directoryCount tiff)).map fun i =>
    tiffEntry tiff (directoryOffset tiff + 2 + 12 * i)

/-- An image in one strip. -/
structure TiffImage where
  width : Nat
  height : Nat
  bits : Nat
  stripOffset : Nat

/-- The size of the strip in bytes. -/
def TiffImage.size (image : TiffImage) : Nat := image.width * image.height * image.bits / 8

/-- A tag that occurs once, with its value inline. -/
def HasOnce (entries : List TiffEntry) (tag value : Nat) : Prop :=
  ∃ entry, entries.filter (fun e => e.tag = tag) = [entry] ∧ entry.inlineValue = some value

/-- A little-endian TIFF file with a directory inside it which describes an image in one strip
inside it. -/
structure Describes (tiff : Bytes) (image : TiffImage) : Prop where
  byteOrder : tiff.take 4 = [0x49, 0x49, 0x2A, 0x00]
  header : 8 ≤ tiff.length
  count : directoryCount tiff ≤ 32767
  inside : directoryOffset tiff + 2 + 12 * directoryCount tiff ≤ tiff.length
  width : HasOnce (directory tiff) 256 image.width
  height : HasOnce (directory tiff) 257 image.height
  bits : HasOnce (directory tiff) 258 image.bits
  stripOffset : HasOnce (directory tiff) 273 image.stripOffset
  rowsPerStrip : HasOnce (directory tiff) 278 image.height
  wholeBytes : 8 ∣ image.bits
  strip : image.stripOffset + image.size ≤ tiff.length

/-- The promise: a file that describes an image has it published once, with its header in
front of its data. Of any other byte string nothing is published, and it raises nothing. -/
structure Decodes (env : Environment) (s : EigerDetector) (tiff : Bytes) : Prop where
  accepts : ∀ image, Describes tiff image → ∃ t header,
    readDetectorLiveImage.run (answer env) s = .returned t () ∧
      t.published = s.published ++ [(header, (tiff.drop image.stripOffset).take image.size)] ∧
      header.shape = [toString image.height, toString image.width] ∧
      header.dtype = "uint" ++ toString image.bits
  rejects : (¬ ∃ image, Describes tiff image) → ∃ t,
    readDetectorLiveImage.run (answer env) s = .returned t () ∧ t.published = s.published

end Format

section Reading

/-- Bytes of a file from its start, or all of them counted from its end. -/
def Inside (length : Nat) (start : Int) (size : Nat) : Prop :=
  0 ≤ start ∧ start + size ≤ length ∨ -length ≤ start ∧ start + size < 0

instance (length : Nat) (start : Int) (size : Nat) : Decidable (Inside length start size) :=
  inferInstanceAs (Decidable (_ ∧ _ ∨ _ ∧ _))

/-- The signed number in some bytes. -/
def signedAt (tiff : Bytes) (start : Int) (size : Nat) : Int :=
  (littleEndian (slice tiff start (start + size)) : Int).bmod (256 ^ size)

/-- The offset of the directory as it is read, and how many entries are read. -/
def indexOffset (tiff : Bytes) : Int := signedAt tiff 4 4

def numberOfTags (tiff : Bytes) : Nat := (signedAt tiff (indexOffset tiff) 2).toNat

/-- The tag and the value of an entry, as they are read. -/
def readEntry (tiff : Bytes) (tagOffset : Int) : Int × Int :=
  (signedAt tiff tagOffset 2, signedAt tiff (tagOffset + 8) 4)

def readEntries (tiff : Bytes) (offset : Int) (count : Nat) : List (Int × Int) :=
  (List.range count).map fun i : Nat => readEntry tiff (offset + 2 + i * 12)

/-- The directory can be read: header, count and entries. -/
def DirectoryReadable (tiff : Bytes) : Prop :=
  8 ≤ tiff.length ∧ Inside tiff.length (indexOffset tiff) (2 + 12 * numberOfTags tiff)

/-- The last entry with a tag counts. -/
def lastValue (tag : Int) (entries : List (Int × Int)) : Option Int :=
  entries.reverse.lookup tag

/-- The entries give all values of an image, none of them negative, which is in one strip. -/
structure Complete (entries : List (Int × Int)) (tags : ImageTags) : Prop where
  width : lastValue TIFF_ID_IMAGEWIDTH entries = some tags.width
  height : lastValue TIFF_ID_IMAGEHEIGHT entries = some tags.height
  bitdepth : lastValue TIFF_ID_BITDEPTH entries = some tags.bitdepth
  rowsPerStrip : lastValue TIFF_ID_ROWSPERSTRIP entries = some tags.rowsPerStrip
  stripOffset : lastValue TIFF_ID_STRIPOFFSETS entries = some tags.stripOffset
  valid : tags.Valid

/-- What is read of the directory gives an image. -/
def GivesImage (tiff : Bytes) : Prop :=
  ∃ tags, Complete (readEntries tiff (indexOffset tiff) (numberOfTags tiff)) tags

variable {tiff : Bytes} {start stop offset : Int} {size : Nat}

theorem slice_length_iff (hSize : 0 < size) (hStop : stop = start + size) :
    (slice tiff start stop).length = size ↔ Inside tiff.length start size := by
  subst hStop
  simp only [slice, Inside, List.length_drop, List.length_take]
  split_ifs <;> omega

/-- A number is read if its bytes are all there. -/
theorem unpack_slice (hSize : 0 < size) (hStop : stop = start + size) :
    unpack size (slice tiff start stop) =
      if Inside tiff.length start size then .ok (signedAt tiff start size)
      else .error .structError := by
  rw [unpack, if_congr (slice_length_iff hSize hStop) rfl rfl, hStop]
  rfl

theorem ok_bind {A B : Type} (a : A) (f : A → Except PyException B) :
    (Except.ok a >>= f) = f a := rfl

/-- What an entry changes of the values so far. -/
def ImageTags.store (tags : ImageTags) (entry : Int × Int) : ImageTags :=
  if entry.1 = TIFF_ID_IMAGEWIDTH then { tags with width := entry.2 }
  else if entry.1 = TIFF_ID_IMAGEHEIGHT then { tags with height := entry.2 }
  else if entry.1 = TIFF_ID_BITDEPTH then { tags with bitdepth := entry.2 }
  else if entry.1 = TIFF_ID_ROWSPERSTRIP then { tags with rowsPerStrip := entry.2 }
  else if entry.1 = TIFF_ID_STRIPOFFSETS then { tags with stripOffset := entry.2 }
  else tags

/-- An entry is read if its four numbers are there, which stand side by side. -/
theorem readTag_eq (tags : ImageTags) :
    readTag tiff offset tags =
      if Inside tiff.length offset 12 then .ok (tags.store (readEntry tiff offset))
      else .error .structError := by
  have hTag : unpack 2 (slice tiff offset (offset + 2)) = _ := unpack_slice (by decide) rfl
  have hType : unpack 2 (slice tiff (offset + 2) (offset + 4)) = _ :=
    unpack_slice (by decide) (by omega)
  have hCount : unpack 4 (slice tiff (offset + 4) (offset + 8)) = _ :=
    unpack_slice (by decide) (by omega)
  have hValue : unpack 4 (slice tiff (offset + 8) (offset + 12)) = _ :=
    unpack_slice (by decide) (by omega)
  have hWhole : Inside tiff.length offset 12 ↔ Inside tiff.length offset 2 ∧
      Inside tiff.length (offset + 2) 2 ∧ Inside tiff.length (offset + 4) 4 ∧
      Inside tiff.length (offset + 8) 4 := by
    simp only [Inside]
    omega
  rw [readTag, hTag, hType, hCount, hValue, if_congr hWhole rfl rfl]
  by_cases h₁ : Inside tiff.length offset 2
  · by_cases h₂ : Inside tiff.length (offset + 2) 2
    · by_cases h₃ : Inside tiff.length (offset + 4) 4
      · by_cases h₄ : Inside tiff.length (offset + 8) 4
        · simp only [h₁, h₂, h₃, h₄, if_true, and_self]
          exact congrArg Except.ok (by rw [ImageTags.store, readEntry])
        · simp only [h₁, h₂, h₃, h₄, if_true, if_false, and_false]
          rfl
      · simp only [h₁, h₂, h₃, if_true, if_false, and_false, false_and]
        rfl
    · simp only [h₁, h₂, if_true, if_false, and_false, false_and]
      rfl
  · simp only [h₁, if_false, false_and]
    rfl

/-- The entries of the loop, from an index on. -/
theorem readTags_eq (tagIndex count : Nat) (tags : ImageTags) :
    readTags tiff offset tagIndex count tags =
      if ∀ i ∈ List.range' tagIndex count, Inside tiff.length (offset + 2 + i * 12) 12 then
        .ok (((List.range' tagIndex count).map fun i : Nat =>
          readEntry tiff (offset + 2 + i * 12)).foldl ImageTags.store tags)
      else .error .structError := by
  induction count generalizing tagIndex tags with
  | zero => simp [readTags]
  | succ count ih =>
      rw [readTags, readTag_eq, List.range'_succ, List.map_cons, List.foldl_cons,
        if_congr List.forall_mem_cons rfl rfl]
      by_cases hFirst : Inside tiff.length (offset + 2 + tagIndex * 12) 12
      · simp only [hFirst, if_true, true_and]
        exact ih (tagIndex + 1) _
      · simp only [hFirst, if_false, false_and]
        rfl

/-- The entries follow on the count, and each other. -/
theorem inside_directory (length : Nat) (offset : Int) (count : Nat) :
    Inside length offset (2 + 12 * count) ↔ Inside length offset 2 ∧
      ∀ i ∈ List.range count, Inside length (offset + 2 + i * 12) 12 := by
  induction count with
  | zero => simp
  | succ count ih =>
      have hLast : Inside length offset (2 + 12 * (count + 1)) ↔
          Inside length offset (2 + 12 * count) ∧
            Inside length (offset + 2 + count * 12) 12 := by
        simp only [Inside]
        omega
      rw [hLast, ih, List.range_succ, List.forall_mem_append, List.forall_mem_singleton, and_assoc]

/-- The values after all entries. -/
def readValues (tiff : Bytes) : ImageTags :=
  (readEntries tiff (indexOffset tiff) (numberOfTags tiff)).foldl ImageTags.store
    ⟨-1, -1, -1, -1, -1⟩

instance (tiff : Bytes) : Decidable (DirectoryReadable tiff) :=
  inferInstanceAs (Decidable (_ ∧ _))

/-- A file that cannot be read raises, and so does one with an image. -/
theorem liveImage_eq (tiff : Bytes) :
    liveImage 200 tiff =
      if DirectoryReadable tiff then if (readValues tiff).Valid then .error .typeError else .ok none
      else .error .structError := by
  have hHeader : unpack 4 (slice tiff 4 8) = _ := unpack_slice (by decide) rfl
  have hCount : unpack 2 (slice tiff (indexOffset tiff) (indexOffset tiff + 2)) = _ :=
    unpack_slice (by decide) rfl
  have hTags : readTags tiff (indexOffset tiff) 0 (numberOfTags tiff) ⟨-1, -1, -1, -1, -1⟩ =
      if ∀ i ∈ List.range' 0 (numberOfTags tiff),
          Inside tiff.length (indexOffset tiff + 2 + i * 12) 12 then
        .ok (readValues tiff)
      else .error .structError := by
    rw [readTags_eq, readValues, readEntries, List.range_eq_range']
  have hLength : Inside tiff.length 4 4 ↔ 8 ≤ tiff.length := by
    simp only [Inside]
    omega
  have hReadable : DirectoryReadable tiff ↔ 8 ≤ tiff.length ∧
      Inside tiff.length (indexOffset tiff) 2 ∧
      ∀ i ∈ List.range' 0 (numberOfTags tiff),
        Inside tiff.length (indexOffset tiff + 2 + i * 12) 12 := by
    rw [DirectoryReadable, inside_directory, List.range_eq_range']
  rw [liveImage, if_neg (by decide), hHeader, if_congr hLength rfl rfl]
  by_cases h₁ : 8 ≤ tiff.length
  · rw [if_pos h₁, ok_bind, show signedAt tiff 4 4 = indexOffset tiff from rfl, hCount]
    by_cases h₂ : Inside tiff.length (indexOffset tiff) 2
    · rw [if_pos h₂, ok_bind, show (signedAt tiff (indexOffset tiff) 2).toNat = numberOfTags tiff
        from rfl, hTags]
      by_cases h₃ : ∀ i ∈ List.range' 0 (numberOfTags tiff),
          Inside tiff.length (indexOffset tiff + 2 + i * 12) 12
      · rw [if_pos h₃, ok_bind, if_pos (hReadable.mpr ⟨h₁, h₂, h₃⟩)]
        rfl
      · rw [if_neg h₃, if_neg fun h => h₃ (hReadable.mp h).2.2]
        rfl
    · rw [if_neg h₂, if_neg fun h => h₂ (hReadable.mp h).2.1]
      rfl
  · rw [if_neg h₁, if_neg fun h => h₁ (hReadable.mp h).1]
    rfl

end Reading

section Values

theorem lastValue_concat (tag : Int) (entries : List (Int × Int)) (entry : Int × Int) :
    lastValue tag (entries ++ [entry]) =
      if entry.1 = tag then some entry.2 else lastValue tag entries := by
  rw [lastValue, List.reverse_append, List.reverse_singleton, List.singleton_append,
    List.lookup_cons]
  split_ifs with hSame
  · simp [hSame]
  · rw [beq_false_of_ne (Ne.symm hSame)]
    rfl

/-- The tags are different, so an entry sets the value of its own tag. -/
theorem store_eq (tags : ImageTags) (entry : Int × Int) :
    tags.store entry = {
      width := if entry.1 = TIFF_ID_IMAGEWIDTH then entry.2 else tags.width
      height := if entry.1 = TIFF_ID_IMAGEHEIGHT then entry.2 else tags.height
      bitdepth := if entry.1 = TIFF_ID_BITDEPTH then entry.2 else tags.bitdepth
      rowsPerStrip := if entry.1 = TIFF_ID_ROWSPERSTRIP then entry.2 else tags.rowsPerStrip
      stripOffset := if entry.1 = TIFF_ID_STRIPOFFSETS then entry.2 else tags.stripOffset } := by
  simp only [ImageTags.store, TIFF_ID_IMAGEWIDTH, TIFF_ID_IMAGEHEIGHT, TIFF_ID_BITDEPTH,
    TIFF_ID_ROWSPERSTRIP, TIFF_ID_STRIPOFFSETS]
  by_cases hWidth : entry.1 = 256
  · simp [hWidth]
  · by_cases hHeight : entry.1 = 257
    · simp [hHeight]
    · by_cases hBitdepth : entry.1 = 258
      · simp [hBitdepth]
      · by_cases hRows : entry.1 = 278
        · simp [hRows]
        · by_cases hStrip : entry.1 = 273
          · simp [hStrip]
          · simp [hWidth, hHeight, hBitdepth, hRows, hStrip]

theorem foldl_store (entries : List (Int × Int)) (tags : ImageTags) :
    entries.foldl ImageTags.store tags = {
      width := (lastValue TIFF_ID_IMAGEWIDTH entries).getD tags.width
      height := (lastValue TIFF_ID_IMAGEHEIGHT entries).getD tags.height
      bitdepth := (lastValue TIFF_ID_BITDEPTH entries).getD tags.bitdepth
      rowsPerStrip := (lastValue TIFF_ID_ROWSPERSTRIP entries).getD tags.rowsPerStrip
      stripOffset := (lastValue TIFF_ID_STRIPOFFSETS entries).getD tags.stripOffset } := by
  have hValue : ∀ (c : Prop) [Decidable c] (value old : Int) (last : Option Int),
      (if c then some value else last).getD old = if c then value else last.getD old := by
    intro c _ value old last
    split_ifs <;> rfl
  induction entries using List.reverseRecOn with
  | nil => rfl
  | append_singleton entries entry ih =>
      rw [List.foldl_append, List.foldl_cons, List.foldl_nil, store_eq, ih]
      simp only [lastValue_concat, hValue]

theorem lastValue_of_getD {tag : Int} {entries : List (Int × Int)}
    (hNonneg : (lastValue tag entries).getD (-1) > -1) :
    lastValue tag entries = some ((lastValue tag entries).getD (-1)) := by
  cases hLast : lastValue tag entries with
  | none =>
      rw [hLast] at hNonneg
      exact absurd hNonneg (by decide)
  | some last => rfl

theorem complete_of_valid {entries : List (Int × Int)}
    (hValid : (entries.foldl ImageTags.store ⟨-1, -1, -1, -1, -1⟩).Valid) :
    Complete entries (entries.foldl ImageTags.store ⟨-1, -1, -1, -1, -1⟩) := by
  rw [foldl_store] at hValid ⊢
  have hParts := hValid
  obtain ⟨hWidth, hHeight, hBitdepth, hRows, hStrip⟩ := hParts
  have hRowsHigh := hHeight
  rw [← hRows] at hRowsHigh
  exact ⟨lastValue_of_getD hWidth, lastValue_of_getD hHeight, lastValue_of_getD hBitdepth,
    lastValue_of_getD hRowsHigh, lastValue_of_getD hStrip, hValid⟩

/-- The values describe an image exactly if each of them has been set. -/
theorem valid_readValues_iff (tiff : Bytes) : (readValues tiff).Valid ↔ GivesImage tiff := by
  constructor
  · intro hValid
    exact ⟨readValues tiff, complete_of_valid hValid⟩
  · rintro ⟨tags, hTags⟩
    have hSame : readValues tiff = tags := by
      rw [readValues, foldl_store, hTags.width, hTags.height, hTags.bitdepth, hTags.rowsPerStrip,
        hTags.stripOffset]
      rfl
    rw [hSame]
    exact hTags.valid

end Values

section Runs

variable {env : Environment} {s : EigerDetector} {tiff : Bytes} {text : Text}

/-- The request for the next image. -/
def nextImage : Request := .get .detectorMonitor "images/next"

theorem run_readDetectorLiveImage (hReply : env.respond s.log nextImage = some ⟨200, tiff, text⟩) :
    readDetectorLiveImage.run (answer env) s =
      (liftExcept (liveImage 200 tiff) >>= publish).run (answer env)
        { s with log := s.log ++ [nextImage] } := by
  have hRequest := run_request env nextImage s
  rw [hReply] at hRequest
  exact Program.run_bind_returned (answer env) hRequest _

/-- Nothing is ever published: either the string gives no image, or the run fails. -/
theorem returned_iff (hReply : env.respond s.log nextImage = some ⟨200, tiff, text⟩)
    (t : EigerDetector) : readDetectorLiveImage.run (answer env) s = .returned t () ↔
      (DirectoryReadable tiff ∧ ¬ GivesImage tiff) ∧
        t = { s with log := s.log ++ [nextImage] } := by
  rw [run_readDetectorLiveImage hReply, liveImage_eq, ← valid_readValues_iff]
  split_ifs with hReadable hValid
  · exact ⟨fun hRun => (by cases hRun), fun h => absurd hValid h.1.2⟩
  · refine ⟨fun hRun => ?_, fun h => ?_⟩
    · cases hRun
      exact ⟨⟨hReadable, hValid⟩, rfl⟩
    · rw [h.2]
      rfl
  · exact ⟨fun hRun => (by cases hRun), fun h => absurd h.1.1 hReadable⟩

/-- A byte string is decoded as it should be exactly if it describes no image, its directory
can be read, and what is read of the directory gives no image. -/
theorem decodes_iff (hReply : env.respond s.log nextImage = some ⟨200, tiff, text⟩) :
    Decodes env s tiff ↔
      (¬ ∃ image, Describes tiff image) ∧ DirectoryReadable tiff ∧ ¬ GivesImage tiff := by
  constructor
  · intro hDecodes
    have hNone : ¬ ∃ image, Describes tiff image := by
      rintro ⟨image, hImage⟩
      obtain ⟨t, header, hRun, hPublished, _⟩ := hDecodes.accepts image hImage
      obtain ⟨_, rfl⟩ := (returned_iff hReply t).mp hRun
      simp at hPublished
    obtain ⟨t, hRun, _⟩ := hDecodes.rejects hNone
    exact ⟨hNone, ((returned_iff hReply t).mp hRun).1⟩
  · rintro ⟨hNone, hParts⟩
    constructor
    · intro image hImage
      exact absurd ⟨image, hImage⟩ hNone
    · intro _
      exact ⟨_, (returned_iff hReply _).mpr ⟨hParts, rfl⟩, rfl⟩

/-- The live view is on, and a reply is these bytes. -/
def Environment.showing (tiff : Bytes) : Environment := .constant (some ⟨200, tiff, .other⟩)

/-- A directory that does not say how many rows there are in a strip. -/
def unstrippedImage : Bytes :=
  [0x49, 0x49, 0x2A, 0, 10, 0, 0, 0, 17, 34, 4, 0,
    0, 1, 3, 0, 1, 0, 0, 0, 2, 0, 0, 0,
    1, 1, 3, 0, 1, 0, 0, 0, 1, 0, 0, 0,
    2, 1, 3, 0, 1, 0, 0, 0, 8, 0, 0, 0,
    17, 1, 4, 0, 1, 0, 0, 0, 8, 0, 0, 0]

theorem unstrippedImage_decodes :
    Decodes (.showing unstrippedImage) (sampleServer []) unstrippedImage := by
  have hReadable : DirectoryReadable unstrippedImage := by decide +kernel
  have hDirectory : (directory unstrippedImage).filter (fun e => e.tag = 278) = [] := by
    decide +kernel
  have hEntries : lastValue TIFF_ID_ROWSPERSTRIP (readEntries unstrippedImage
      (indexOffset unstrippedImage) (numberOfTags unstrippedImage)) = none := by
    decide +kernel
  have hReply : (Environment.showing unstrippedImage).respond (sampleServer []).log nextImage =
      some ⟨200, unstrippedImage, .other⟩ := rfl
  apply (decodes_iff hReply).mpr
  refine ⟨?_, hReadable, ?_⟩
  · rintro ⟨image, hImage⟩
    obtain ⟨entry, hOnce, _⟩ := hImage.rowsPerStrip
    rw [hDirectory] at hOnce
    cases hOnce
  · rintro ⟨tags, hTags⟩
    have hRows := hTags.rowsPerStrip
    rw [hEntries] at hRows
    cases hRows

/-- An image of two pixels by one, of eight bits each. -/
def smallImage : Bytes :=
  [0x49, 0x49, 0x2A, 0, 10, 0, 0, 0, 17, 34, 5, 0,
    0, 1, 3, 0, 1, 0, 0, 0, 2, 0, 0, 0,
    1, 1, 3, 0, 1, 0, 0, 0, 1, 0, 0, 0,
    2, 1, 3, 0, 1, 0, 0, 0, 8, 0, 0, 0,
    17, 1, 4, 0, 1, 0, 0, 0, 8, 0, 0, 0,
    22, 1, 3, 0, 1, 0, 0, 0, 1, 0, 0, 0]

theorem smallImage_describes : Describes smallImage ⟨2, 1, 8, 8⟩ where
  byteOrder := rfl
  header := by decide
  count := by decide +kernel
  inside := by decide +kernel
  width := ⟨⟨256, 3, 1, 2⟩, by decide +kernel, rfl⟩
  height := ⟨⟨257, 3, 1, 1⟩, by decide +kernel, rfl⟩
  bits := ⟨⟨258, 3, 1, 8⟩, by decide +kernel, rfl⟩
  stripOffset := ⟨⟨273, 4, 1, 8⟩, by decide +kernel, rfl⟩
  rowsPerStrip := ⟨⟨278, 3, 1, 1⟩, by decide +kernel, rfl⟩
  wholeBytes := by decide
  strip := by decide

theorem live_view_not_always_decodes : ¬ ∀ (env : Environment) (s : EigerDetector) (tiff : Bytes)
    (text : Text), env.respond s.log nextImage = some ⟨200, tiff, text⟩ → Decodes env s tiff := by
  intro hClaim
  obtain ⟨t, header, hRun, _⟩ :=
    (hClaim (.showing smallImage) (sampleServer []) smallImage .other rfl).accepts _
      smallImage_describes
  have hFailed : readDetectorLiveImage.run (answer (.showing smallImage)) (sampleServer []) =
      .failed _ .typeError := rfl
  rw [hFailed] at hRun
  cases hRun

end Runs

end Eiger.Server
