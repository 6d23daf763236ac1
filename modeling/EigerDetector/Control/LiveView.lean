import EigerDetector.Control.Values
import Mathlib.Algebra.Group.Nat.Defs

/-! The live view of the monitor interface: a TIFF file is taken apart by hand. -/
namespace Eiger.Server

open CharArrays

def TIFF_ID_IMAGEWIDTH : Int := 256
def TIFF_ID_IMAGEHEIGHT : Int := 257
def TIFF_ID_BITDEPTH : Int := 258
def TIFF_ID_STRIPOFFSETS : Int := 273
def TIFF_ID_ROWSPERSTRIP : Int := 278

/-- `content[start:stop]`. A negative bound counts from the end. -/
def slice (content : Bytes) (start stop : Int) : Bytes :=
  let position (i : Int) : Nat :=
    if i < 0 then (i + content.length).toNat else min i.toNat content.length
  (content.take (position stop)).drop (position start)

/-- The number with these bytes, the lowest first. -/
def littleEndian : Bytes → Nat
  | [] => 0
  | b :: bytes => b.toNat + 256 * littleEndian bytes

/-- `struct.unpack` of one signed number of `size` bytes in the byte order of the machine. -/
def unpack (size : Nat) (hdr : Bytes) : Except PyException Int :=
  if hdr.length = size then .ok ((littleEndian hdr : Int).bmod (256 ^ size))
  else .error .structError

/-- What the tags say of the image. -/
structure ImageTags where
  width : Int
  height : Int
  bitdepth : Int
  rowsPerStrip : Int
  stripOffset : Int
  deriving DecidableEq

/-- One entry of the image file directory. -/
def readTag (tiff : Bytes) (tagOffset : Int) (tags : ImageTags) : Except PyException ImageTags := do
  let tagID ← unpack 2 (slice tiff tagOffset (tagOffset + 2))
  let _tagDataType ← unpack 2 (slice tiff (tagOffset + 2) (tagOffset + 4))
  let _tagDataCount ← unpack 4 (slice tiff (tagOffset + 4) (tagOffset + 8))
  let tagDataOffset ← unpack 4 (slice tiff (tagOffset + 8) (tagOffset + 12))
  pure
    (if tagID = TIFF_ID_IMAGEWIDTH then { tags with width := tagDataOffset }
    else if tagID = TIFF_ID_IMAGEHEIGHT then { tags with height := tagDataOffset }
    else if tagID = TIFF_ID_BITDEPTH then { tags with bitdepth := tagDataOffset }
    else if tagID = TIFF_ID_ROWSPERSTRIP then { tags with rowsPerStrip := tagDataOffset }
    else if tagID = TIFF_ID_STRIPOFFSETS then { tags with stripOffset := tagDataOffset }
    else tags)

/-- The entries from `tagIndex` on. -/
def readTags (tiff : Bytes) (indexOffset : Int) (tagIndex : Nat) :
    Nat → ImageTags → Except PyException ImageTags
  | 0, tags => .ok tags
  | count + 1, tags => do
      let tags ← readTag tiff (indexOffset + 2 + tagIndex * 12) tags
      readTags tiff indexOffset (tagIndex + 1) count tags

/-- The tags describe an image in one strip. -/
def ImageTags.Valid (tags : ImageTags) : Prop :=
  tags.width > -1 ∧ tags.height > -1 ∧ tags.bitdepth > -1 ∧ tags.rowsPerStrip = tags.height ∧
    tags.stripOffset > -1

instance (tags : ImageTags) : Decidable tags.Valid :=
  inferInstanceAs (Decidable (_ ∧ _ ∧ _ ∧ _ ∧ _))

/-- What is published in front of the data of an image. -/
structure FrameHeader where
  frameNum : Nat
  acquisitionID : String
  dtype : String
  dsize : Rat
  dataset : String
  compression : Nat
  shape : List String
  deriving DecidableEq

def ImageTags.frameHeader (tags : ImageTags) (frameNumber : Nat) : FrameHeader where
  frameNum := frameNumber
  acquisitionID := ""
  dtype := "uint" ++ toString tags.bitdepth
  dsize := tags.bitdepth / 8
  dataset := "data"
  compression := 0
  shape := [toString tags.height, toString tags.width]

/-- `content[start:start + size]` where the size is computed with `/`. That makes it a float,
which is no index. -/
def sliceOfQuotient (_content : Bytes) (_start : Int) (_size : Rat) : Except PyException Bytes :=
  .error .typeError

/-- `read_detector_live_image` from the reply on: the image to publish, if there is one. -/
def liveImage (statusCode : Nat) (tiff : Bytes) :
    Except PyException (Option (ImageTags × Bytes)) :=
  if statusCode ≠ 200 then .ok none
  else do
    let indexOffset ← unpack 4 (slice tiff 4 8)
    let numberOfTags ← unpack 2 (slice tiff indexOffset (indexOffset + 2))
    let tags ← readTags tiff indexOffset 0 numberOfTags.toNat ⟨-1, -1, -1, -1, -1⟩
    if tags.Valid then do
      let frameData ← sliceOfQuotient tiff tags.stripOffset
        (tags.width * tags.height * tags.bitdepth / 8)
      pure (some (tags, frameData))
    else pure none

end Eiger.Server
