import EigerDetector.Decoder.Tagging
import EigerDetector.Fan.Preparation

/-! The acquisition ID from the fan to the decoder. The fan appends its own as the last
member of part 1, and the decoder takes the first member of that name. -/
namespace Eiger.Interface

open CharArrays Rapidjson Threads

/-- The string the decoder takes for the acquisition ID of a part 1. -/
def extractedAcquisitionID (parse : Decoder.Parser) (part : Bytes) : Option Bytes :=
  (parse (cString part)).bind fun doc => (doc.member acquisitionIDKey).bind Value.getString

/-- Before the fan adds to it a document has no acquisition ID, or the first one it has is
the fan's. -/
def Unclaimed (doc : Value) (acquisitionID : Bytes) : Prop :=
  ∀ value, doc.member acquisitionIDKey = some value → value.getString = some acquisitionID

/-- The handlers go on with these kinds of part 1. -/
def Accepted : Fan.FirstPart → Prop
  | .header .. => True
  | .image .. => True
  | .endOfSeries .. => True
  | _ => False

section Extraction

variable {parse : Decoder.Parser} {env : Fan.Environment} {message part : Bytes} {doc : Value}
variable {s t : Fan.EigerFan}

theorem readAcquisitionID_eq {doc : Value} {acqID : Option Bytes}
    (h : Decoder.readAcquisitionID doc = some acqID) :
    (doc.member acquisitionIDKey).bind Value.getString = acqID := by
  cases doc with
  | object members =>
      rw [Decoder.readAcquisitionID, Value.hasMember] at h
      rw [Value.member] at h ⊢
      cases hFind : Value.findMember acquisitionIDKey members with
      | none =>
          rw [hFind] at h
          cases h
          rfl
      | some value =>
          rw [hFind] at h
          obtain ⟨text, hText, rfl⟩ := Option.map_eq_some_iff.mp h
          exact hText
  | _ => cases h

/-- Whatever kind of part 1 the decoder reads, this is the acquisition ID it finds. -/
theorem acquisitionID_read {kind : Decoder.FirstPart}
    (hDoc : parse (cString part) = some doc)
    (h : Decoder.readFirstPart parse part = some kind) (hKind : kind ≠ .unknown) :
    kind.acquisitionID = extractedAcquisitionID parse part := by
  rw [extractedAcquisitionID, hDoc, Option.bind_some]
  simp only [Decoder.readFirstPart, hDoc] at h
  obtain ⟨htype, _, h⟩ := Option.bind_eq_some_iff.mp h
  split at h
  · obtain ⟨series, _, h⟩ := Option.bind_eq_some_iff.mp h
    obtain ⟨detail, _, h⟩ := Option.bind_eq_some_iff.mp h
    obtain ⟨acqID, hID, h⟩ := Option.bind_eq_some_iff.mp h
    cases h
    exact (readAcquisitionID_eq hID).symm
  split at h
  · obtain ⟨frame, _, h⟩ := Option.bind_eq_some_iff.mp h
    obtain ⟨series, _, h⟩ := Option.bind_eq_some_iff.mp h
    obtain ⟨hash, _, h⟩ := Option.bind_eq_some_iff.mp h
    obtain ⟨acqID, hID, h⟩ := Option.bind_eq_some_iff.mp h
    cases h
    exact (readAcquisitionID_eq hID).symm
  split at h
  · obtain ⟨series, _, h⟩ := Option.bind_eq_some_iff.mp h
    obtain ⟨acqID, hID, h⟩ := Option.bind_eq_some_iff.mp h
    cases h
    exact hID.symm
  · cases h
    exact absurd rfl hKind

/-- The member is added to the document at its end, whatever is in it. -/
theorem addAcquisitionIDToPart1_eq
    (h : (Fan.addAcquisitionIDToPart1 env).run (Fan.answer env) { s with jsonDocument := doc } =
      .returned t part) :
    ∃ members, doc = .object members ∧ part = env.write t.jsonDocument ∧
      t.jsonDocument = .object (members ++ [(acquisitionIDKey, .string s.currentAcquisitionID)]) := by
  cases doc with
  | object members =>
      cases h
      exact ⟨members, rfl, rfl, rfl⟩
  | _ => cases h

theorem read_unknown (hDoc : parse (cString part) = some doc)
    (h : Decoder.readFirstPart parse part = some .unknown) :
    ∃ htype, (doc.member headerTypeKey).bind Value.getString = some htype ∧
      htype ≠ globalHeaderType ∧ htype ≠ imageHeaderType ∧ htype ≠ endHeaderType := by
  simp only [Decoder.readFirstPart, hDoc] at h
  obtain ⟨htype, hType, h⟩ := Option.bind_eq_some_iff.mp h
  refine ⟨htype, hType, ?_⟩
  split at h
  · obtain ⟨series, _, h⟩ := Option.bind_eq_some_iff.mp h
    obtain ⟨detail, _, h⟩ := Option.bind_eq_some_iff.mp h
    obtain ⟨acqID, _, h⟩ := Option.bind_eq_some_iff.mp h
    cases h
  next hHeader =>
  split at h
  · obtain ⟨frame, _, h⟩ := Option.bind_eq_some_iff.mp h
    obtain ⟨series, _, h⟩ := Option.bind_eq_some_iff.mp h
    obtain ⟨hash, _, h⟩ := Option.bind_eq_some_iff.mp h
    obtain ⟨acqID, _, h⟩ := Option.bind_eq_some_iff.mp h
    cases h
  next hImage =>
  split at h
  · obtain ⟨series, _, h⟩ := Option.bind_eq_some_iff.mp h
    obtain ⟨acqID, _, h⟩ := Option.bind_eq_some_iff.mp h
    cases h
  next hEnd => exact ⟨hHeader, hImage, hEnd⟩

/-- What the handlers go on with has one of the three types. -/
theorem accepted_type {first : Fan.FirstPart} {members : List (Bytes × Value)}
    (hAccepted : Accepted first) (h : first.ReadFrom (some (.object members))) :
    (Value.findMember headerTypeKey members).bind Value.getString = some globalHeaderType ∨
      (Value.findMember headerTypeKey members).bind Value.getString = some imageHeaderType ∨
      (Value.findMember headerTypeKey members).bind Value.getString = some endHeaderType := by
  cases h with
  | unknown => exact hAccepted.elim
  | header hType _ _ => exact .inl hType
  | image hType _ => exact .inr (.inl hType)
  | endOfSeries hType => exact .inr (.inr hType)

/-- The decoder knows the type of a part 1 that the handlers go on with. -/
theorem tagged_not_unknown {first : Fan.FirstPart} {members : List (Bytes × Value)}
    {added : Bytes × Value} (hAccepted : Accepted first)
    (h : first.ReadFrom (some (.object members)))
    (hDoc : parse (cString part) = some (.object (members ++ [added]))) :
    Decoder.readFirstPart parse part ≠ some .unknown := by
  intro hUnknown
  obtain ⟨htype, hType, hHeader, hImage, hEnd⟩ := read_unknown hDoc hUnknown
  have hSame : ∀ known, (Value.findMember headerTypeKey members).bind Value.getString =
      some known → htype = known := by
    intro known hKnown
    have hFound := Value.findMember_append_bind hKnown [added]
    exact Option.some.inj (hType.symm.trans hFound)
  rcases accepted_type hAccepted h with hKnown | hKnown | hKnown
  · exact hHeader (hSame _ hKnown)
  · exact hImage (hSame _ hKnown)
  · exact hEnd (hSame _ hKnown)

/-- The appended ID is the one that is found where no other was there before it. -/
theorem found_iff_unclaimed {members : List (Bytes × Value)} {acquisitionID : Bytes}
    (hID : NulFree acquisitionID) :
    (Value.findMember acquisitionIDKey (members ++ [(acquisitionIDKey, .string acquisitionID)])).bind
        Value.getString = some acquisitionID ↔ Unclaimed (.object members) acquisitionID := by
  rw [Unclaimed, Value.member]
  cases hFind : Value.findMember acquisitionIDKey members with
  | none =>
      rw [Value.findMember_append_of_none hFind, Value.findMember, if_pos rfl, Option.bind_some,
        Value.getString, cString_of_nulFree hID]
      refine iff_of_true rfl fun value hValue => ?_
      cases hValue
  | some value =>
      rw [Value.findMember_append_of_some hFind, Option.bind_some]
      constructor
      · rintro hText _ ⟨⟩
        exact hText
      · intro hAll
        exact hAll value rfl

/-- The decoder takes the fan's acquisition ID from what the fan makes of a part 1 exactly
when the part had no acquisition ID, or had the fan's as its first one. What was in the part
always stays as it was. The text that was written is assumed to be read back. -/
theorem fan_id_wins_iff {first : Fan.FirstPart} (hParse : env.parse (cString message) = some doc)
    (hRead : Fan.readFirstPart env message = some first) (hAccepted : Accepted first)
    (hID : NulFree s.currentAcquisitionID)
    (hTagged : (Fan.addAcquisitionIDToPart1 env).run (Fan.answer env)
      { s with jsonDocument := doc } = .returned t part)
    (hInverse : parse (cString (env.write t.jsonDocument)) = some t.jsonDocument) :
    (extractedAcquisitionID parse part = some s.currentAcquisitionID ↔
      Unclaimed doc s.currentAcquisitionID) ∧
    (∀ kind, Decoder.readFirstPart parse part = some kind →
      kind.acquisitionID = extractedAcquisitionID parse part) ∧
    ∃ members, doc = .object members ∧ parse (cString part) =
      some (.object (members ++ [(acquisitionIDKey, .string s.currentAcquisitionID)])) := by
  obtain ⟨members, rfl, rfl, hDocument⟩ := addAcquisitionIDToPart1_eq hTagged
  rw [hDocument] at hInverse ⊢
  have hReads := Fan.readFirstPart_reads hRead
  rw [hParse] at hReads
  refine ⟨?_, fun kind hKind => ?_, members, rfl, hInverse⟩
  · rw [extractedAcquisitionID, hInverse, Option.bind_some]
    exact found_iff_unclaimed hID
  · refine acquisitionID_read hInverse hKind ?_
    rintro rfl
    exact tagged_not_unknown hAccepted hReads hInverse hKind

end Extraction

/-- The first part of an image as the detector sends it. -/
def plainImage : Value :=
  .object [(headerTypeKey, .string imageHeaderType), (frameKey, .int 5), (seriesKey, .int 1),
    (hashKey, .string (bytes "ab"))]

/-- The same part as another fan forwards it. -/
def forwardedImage : Value :=
  .object [(headerTypeKey, .string imageHeaderType), (frameKey, .int 5), (seriesKey, .int 1),
    (hashKey, .string (bytes "ab")), (acquisitionIDKey, .string (bytes "first"))]

def taggedWith (doc : Value) (acquisitionID : Bytes) : Value :=
  (Fan.withAcquisitionID doc acquisitionID).getD .null

/-- A fan whose current acquisition ID is `second`. -/
def secondFan : Fan.EigerFan :=
  { Fan.initial Fan.defaultConfig with currentAcquisitionID := bytes "second" }

def textEnvironment (doc : Value) : Fan.Environment := .ofTexts [(Fan.objectText doc, doc)]

def taggedParser (doc : Value) : Decoder.Parser :=
  .ofTexts [(Fan.objectText (taggedWith doc (bytes "second")),
    taggedWith doc (bytes "second"))]

theorem plain_image_tagged :
    ∃ t part, (Fan.addAcquisitionIDToPart1 (textEnvironment plainImage)).run
        (Fan.answer (textEnvironment plainImage)) { secondFan with jsonDocument := plainImage } =
          .returned t part ∧
      extractedAcquisitionID (taggedParser plainImage) part = some (bytes "second") := by
  have hParse : (textEnvironment plainImage).parse (cString (Fan.objectText plainImage)) =
      some plainImage := rfl
  have hTagged : (Fan.addAcquisitionIDToPart1 (textEnvironment plainImage)).run
      (Fan.answer (textEnvironment plainImage)) { secondFan with jsonDocument := plainImage } =
        .returned { secondFan with jsonDocument := taggedWith plainImage (bytes "second") }
          (Fan.objectText (taggedWith plainImage (bytes "second"))) := rfl
  refine ⟨_, _, hTagged, ?_⟩
  refine (fan_id_wins_iff hParse rfl trivial (by decide) hTagged rfl).1.mpr ?_
  rintro _ ⟨⟩

theorem forwarded_image_keeps_first :
    ∃ t part, Fan.readFirstPart (textEnvironment forwardedImage) (Fan.objectText forwardedImage) =
        some (.image [(headerTypeKey, .string imageHeaderType), (frameKey, .int 5),
          (seriesKey, .int 1), (hashKey, .string (bytes "ab")),
          (acquisitionIDKey, .string (bytes "first"))] 5) ∧
      (Fan.addAcquisitionIDToPart1 (textEnvironment forwardedImage)).run
        (Fan.answer (textEnvironment forwardedImage))
        { secondFan with jsonDocument := forwardedImage } = .returned t part ∧
      taggedParser forwardedImage (cString part) = some t.jsonDocument ∧
      extractedAcquisitionID (taggedParser forwardedImage) part = some (bytes "first") ∧
      extractedAcquisitionID (taggedParser forwardedImage) part ≠ some (bytes "second") := by
  refine ⟨_, _, rfl, rfl, rfl, rfl, ?_⟩
  intro h
  exact absurd h (by decide)

end Eiger.Interface
