import EigerDetector.Simulator.Recording
import EigerDetector.Json

/-! The frame simulator. It sends a header, one recorded image under as many frame numbers as
it is asked for, and an end message. -/
namespace Eiger.Simulator

open CharArrays FixedWidth Rapidjson

/-- The JSON reader and writer of the simulator, and the files that it can open. -/
structure Environment where
  parse : Bytes → Option Value
  write : Value → Bytes
  files : Files

structure Options where
  stream : Bool
  filepath : Option Bytes
  filepattern : Bytes
  acquisitionID : Bytes
  frames : Int

/-- `SetInt` on the value of a member, which has to be there. -/
def setMember (key : Bytes) (n : Int) : List (Bytes × Value) → Option (List (Bytes × Value))
  | [] => none
  | (name, value) :: rest =>
      if name = key then some ((name, .int n) :: rest)
      else (setMember key n rest).map fun rest => (name, value) :: rest

section Sending

variable (env : Environment)

/-- `Accept`, and then `GetString` into a string. -/
def accept (doc : Value) : Bytes := cString (env.write doc)

def headerJson : Bytes :=
  bytes "\x7b\"htype\":\"dheader-1.0\", \"series\": 1, \"header_detail\": \"basic\"\x7d"

def headerConfig : Bytes := bytes "\x7b\"auto_summation\": true, \"photon_energy\": 12658\x7d"

def appendix (acqID : Bytes) : Bytes := bytes "\x7b\"acqID\":\"" ++ acqID ++ bytes "\"\x7d"

/-- `sendHeader`. A document that was not parsed is null. -/
def sendHeader (acqID : Bytes) : List Bytes :=
  [accept env ((env.parse headerJson).getD .null), headerConfig, appendix acqID]

/-- The text up to the end of the line. -/
def firstLine (content : Bytes) : Bytes := content.takeWhile fun b => b ≠ 10

/-- `getSingleLineFromFile`, which ends the process if there is no such file. -/
def getSingleLineFromFile (file : Bytes) : Option Bytes := (env.files file).map firstLine

/-- One message for each frame. The number in the document goes up once its text is written;
what does not fit an `int` has no result. -/
def sendFrames (part2 blob part4 : Bytes) :
    Nat → List (Bytes × Value) → Option (List (List Bytes))
  | 0, _ => some []
  | frames + 1, members => do
      let frame ← (Value.findMember frameKey members).bind Value.getInt
      let next ← if frame < maxInt32 then setMember frameKey (frame + 1) members else none
      let messages ← sendFrames part2 blob part4 frames next
      some ([accept env (.object members), part2, blob, part4] :: messages)

def filePath (options : Options) (suffix : Bytes) : Bytes :=
  match options.filepath with
  | some filepath => filepath ++ bytes "/" ++ options.filepattern ++ suffix
  | none => options.filepattern ++ suffix

/-- `sendImageData`. Without the image nothing is sent; the series is always the first. -/
def sendImageData (options : Options) : Option (List (List Bytes)) :=
  match env.files (filePath options (bytes "_3")) with
  | none => some []
  | some blob => do
      let jsonP1 ← getSingleLineFromFile env (filePath options (bytes "_1"))
      let part2 ← getSingleLineFromFile env (filePath options (bytes "_2"))
      let part4 ← getSingleLineFromFile env (filePath options (bytes "_4"))
      match env.parse (cString jsonP1) with
      | some (.object members) => do
          let members ← setMember seriesKey 1 members
          sendFrames env part2 blob part4 options.frames.toNat members
      | _ => none

def endJson : Bytes := bytes "\x7b\"htype\": \"dseries_end-1.0\", \"series\": 1\x7d"

/-- `simulate`, unless it replays a recorded stream. -/
def simulate (options : Options) : Option (List (List Bytes)) :=
  (sendImageData env options).map fun images =>
    sendHeader env options.acquisitionID :: images ++ [[endJson]]

end Sending

section Members

variable {key other : Bytes} {n : Int} {members members' : List (Bytes × Value)} {value : Value}

/-- A member that is there can be set. -/
theorem setMember_of_found (h : Value.findMember key members = some value) (n : Int) :
    ∃ members', setMember key n members = some members' := by
  induction members with
  | nil => cases h
  | cons head rest ih =>
      obtain ⟨name, first⟩ := head
      rw [Value.findMember] at h
      rw [setMember]
      split at h
      · next hName => exact ⟨_, if_pos hName⟩
      · next hName =>
          obtain ⟨rest', hRest⟩ := ih h
          rw [if_neg hName, hRest]
          exact ⟨_, rfl⟩

/-- A member is found as it was set. -/
theorem findMember_setMember (h : setMember key n members = some members') :
    Value.findMember key members' = some (.int n) := by
  induction members generalizing members' with
  | nil => cases h
  | cons head rest ih =>
      obtain ⟨name, first⟩ := head
      rw [setMember] at h
      split at h
      · next hName =>
          cases h
          rw [Value.findMember, if_pos hName]
      · next hName =>
          obtain ⟨rest', hRest, rfl⟩ := Option.map_eq_some_iff.mp h
          rw [Value.findMember, if_neg hName]
          exact ih hRest

/-- Another member stays as it is. -/
theorem findMember_setMember_ne (hOther : other ≠ key)
    (h : setMember key n members = some members') :
    Value.findMember other members' = Value.findMember other members := by
  induction members generalizing members' with
  | nil => cases h
  | cons head rest ih =>
      obtain ⟨name, first⟩ := head
      rw [setMember] at h
      split at h
      · next hName =>
          cases h
          rw [Value.findMember, Value.findMember, if_neg (hName ▸ hOther.symm),
            if_neg (hName ▸ hOther.symm)]
      · next hName =>
          obtain ⟨rest', hRest, rfl⟩ := Option.map_eq_some_iff.mp h
          rw [Value.findMember, Value.findMember, ih hRest]

/-- Setting a member twice is setting it once. -/
theorem setMember_setMember (h : setMember key n members = some members') (m : Int) :
    setMember key m members' = setMember key m members := by
  induction members generalizing members' with
  | nil => cases h
  | cons head rest ih =>
      obtain ⟨name, first⟩ := head
      rw [setMember] at h
      split at h
      · next hName =>
          cases h
          rw [setMember, setMember, if_pos hName, if_pos hName]
      · next hName =>
          obtain ⟨rest', hRest, rfl⟩ := Option.map_eq_some_iff.mp h
          rw [setMember, setMember, if_neg hName, if_neg hName, ih hRest]

end Members

section Frames

variable {env : Environment} {part2 blob part4 : Bytes}

/-- The document under a frame number. -/
def numbered (frame : Int) (members : List (Bytes × Value)) : List (Bytes × Value) :=
  (setMember frameKey frame members).getD members

/-- Setting the number that is there changes nothing. -/
theorem setMember_same {frame : Int} {members : List (Bytes × Value)}
    (h : Value.findMember frameKey members = some (.int frame)) :
    setMember frameKey frame members = some members := by
  induction members with
  | nil => cases h
  | cons head rest ih =>
      obtain ⟨name, first⟩ := head
      rw [Value.findMember] at h
      rw [setMember]
      split at h
      · next hName =>
          cases h
          exact if_pos hName
      · next hName =>
          rw [if_neg hName, ih h]
          rfl

/-- The frames are numbered from the number in the document on. -/
theorem sendFrames_eq {frame : Int} {members : List (Bytes × Value)} {frames : Nat}
    (hFrame : Value.findMember frameKey members = some (.int frame))
    (hLow : minInt32 ≤ frame) (hHigh : frame + frames ≤ maxInt32) :
    sendFrames env part2 blob part4 frames members =
      some ((List.range frames).map fun i : Nat =>
        [accept env (.object (numbered (frame + i) members)), part2, blob, part4]) := by
  induction frames generalizing frame members with
  | zero => rfl
  | succ frames ih =>
      obtain ⟨next, hNext⟩ := setMember_of_found hFrame (frame + 1)
      have hRead : (Value.findMember frameKey members).bind Value.getInt = some frame := by
        rw [hFrame, Option.bind_some, Value.getInt, if_pos ⟨hLow, by push_cast at hHigh; omega⟩]
      have hRest := ih (findMember_setMember hNext) (by omega) (by push_cast at hHigh; omega)
      rw [sendFrames, hRead]
      simp only [Option.bind_eq_bind, Option.bind_some]
      rw [if_pos (by push_cast at hHigh; omega), hNext, Option.bind_some, hRest, Option.bind_some,
        List.range_succ_eq_map, List.map_cons, List.map_map]
      have hFirst : numbered (frame + (0 : Nat)) members = members := by
        rw [numbered, Int.natCast_zero, Int.add_zero, setMember_same hFrame, Option.getD_some]
      have hLater : ∀ i : Nat, numbered (frame + 1 + i) next =
          numbered (frame + (i + 1 : Nat)) members := by
        intro i
        obtain ⟨last, hLast⟩ := setMember_of_found hFrame (frame + (i + 1 : Nat))
        have hSum : frame + 1 + (i : Int) = frame + (i + 1 : Nat) := by
          push_cast
          omega
        rw [numbered, numbered, hSum, setMember_setMember hNext, hLast, Option.getD_some,
          Option.getD_some]
      rw [hFirst]
      simp only [hLater]
      rfl

end Frames

end Eiger.Simulator
