import EigerDetector.Fan.FanOut
import EigerDetector.Interface.FrameNumber

/-! What the fan makes of the messages of a detector is what a frame decoder can take. -/
namespace Eiger.Interface

open CharArrays FixedWidth Rapidjson

/-- Beyond what the fan reads itself: what the decoder is going to read of a first part
that the fan goes on with. -/
def Wanted : Fan.FirstPart → Prop
  | .header members _ _ => TextualID members
  | .image members frame => 0 ≤ frame ∧ frame ≤ maxInt32 ∧ TextualID members ∧
      ((Value.findMember seriesKey members).bind Value.getInt).isSome ∧
      ((Value.findMember hashKey members).bind Value.getString).isSome
  | .endOfSeries members => TextualID members ∧
      ((Value.findMember seriesKey members).bind Value.getInt).isSome
  | _ => True

/-- The acquisition ID that a first part of this kind is tagged with. -/
def tagOf (r : Fan.Router) : Fan.FirstPart → Bytes
  | .header _ _ _ => r.configuredAcquisitionID
  | _ => r.currentAcquisitionID

/-- The members of a first part which the fan tags. -/
def membersOf : Fan.FirstPart → Option (List (Bytes × Value))
  | .header members _ _ => some members
  | .image members _ => some members
  | .endOfSeries members => some members
  | _ => none

/-- The decoder reads back what the fan has written of these members. -/
def ReadBack (env : Fan.Environment) (parse : Decoder.Parser) (id : Bytes)
    (members : List (Bytes × Value)) : Prop :=
  parse (cString (Fan.taggedPart env members id)) =
    some (.object (members ++ [(acquisitionIDKey, .string id)]))

/-- The first part of a message as a detector sends it. -/
structure FromDetector (env : Fan.Environment) (parse : Decoder.Parser) (r : Fan.Router)
    (first : Fan.FirstPart) : Prop where
  wanted : Wanted first
  readBack : ∀ members ∈ membersOf first, ReadBack env parse (tagOf r first) members

section Reading

variable {env : Fan.Environment} {parse : Decoder.Parser} {part1 part : Bytes}
variable {members : List (Bytes × Value)} {series : Int} {detail id : Bytes}

theorem readFirstPart_tagged_header
    (hHeader : Fan.readFirstPart env part1 = some (.header members series detail))
    (hText : TextualID members)
    (hDoc : parse (cString part) =
      some (.object (members ++ [(acquisitionIDKey, .string id)]))) :
    ∃ acqID, Decoder.readFirstPart parse part = some (.header series detail acqID) := by
  have hReads := Fan.readFirstPart_reads hHeader
  generalize env.parse (cString part1) = doc at hReads
  cases hReads with
  | header hType hSeries hDetail =>
      obtain ⟨acqID, hID⟩ : ∃ acqID, Decoder.readAcquisitionID
          (.object (members ++ [(acquisitionIDKey, .string id)])) = some acqID :=
        readAcquisitionID_tagged.mpr hText
      have hType := Value.findMember_append_bind hType [(acquisitionIDKey, .string id)]
      have hSeries := Value.findMember_append_bind hSeries [(acquisitionIDKey, .string id)]
      have hDetail := Value.findMember_append_bind hDetail [(acquisitionIDKey, .string id)]
      refine ⟨acqID, ?_⟩
      simp only [Decoder.readFirstPart, hDoc, Value.member, hType, hSeries, hDetail, hID,
        Option.bind_eq_bind, Option.bind_some, if_pos]

/-- An end message always has an acquisition ID by the time the decoder reads it. -/
theorem readFirstPart_tagged_end
    (hEnd : Fan.readFirstPart env part1 = some (.endOfSeries members))
    (hText : TextualID members)
    (hSeries : (Value.findMember seriesKey members).bind Value.getInt = some series)
    (hDoc : parse (cString part) =
      some (.object (members ++ [(acquisitionIDKey, .string id)]))) :
    ∃ acqID, Decoder.readFirstPart parse part = some (.endOfSeries series acqID) := by
  have hReads := Fan.readFirstPart_reads hEnd
  generalize env.parse (cString part1) = doc at hReads
  cases hReads with
  | endOfSeries hType =>
      have hType := Value.findMember_append_bind hType [(acquisitionIDKey, .string id)]
      have hSeries := Value.findMember_append_bind hSeries [(acquisitionIDKey, .string id)]
      obtain ⟨acqID, hID⟩ : ∃ acqID, (Value.findMember acquisitionIDKey
          (members ++ [(acquisitionIDKey, .string id)])).bind Value.getString = some acqID := by
        cases hFind : Value.findMember acquisitionIDKey members with
        | none =>
            rw [Value.findMember_append_of_none hFind]
            exact ⟨_, rfl⟩
        | some value =>
            rw [Value.findMember_append_of_some hFind]
            exact Option.isSome_iff_exists.mp (hText value hFind)
      refine ⟨acqID, ?_⟩
      simp only [Decoder.readFirstPart, hDoc, Value.member, hType, hSeries, hID,
        Option.bind_eq_bind, Option.bind_some, if_pos]
      rw [if_neg (by decide : ¬ endHeaderType = globalHeaderType),
        if_neg (by decide : ¬ endHeaderType = imageHeaderType)]

end Reading

/-- What the decoder reads of a first part that the fan has tagged. -/
inductive Tagged : Fan.FirstPart → Decoder.FirstPart → Prop where
  | header (members : List (Bytes × Value)) (series : Int) (detail : Bytes)
      (acqID : Option Bytes) :
      Tagged (.header members series detail) (.header series detail acqID)
  | image (members : List (Bytes × Value)) (frame series : Int) (hash : Bytes)
      (acqID : Option Bytes) :
      Tagged (.image members frame) (.image frame series hash acqID)
  | endOfSeries (members : List (Bytes × Value)) (series : Int) (acqID : Bytes) :
      Tagged (.endOfSeries members) (.endOfSeries series acqID)

section Delivering

variable {env : Fan.Environment} {parse : Decoder.Parser} {r : Fan.Router} {part1 : Bytes}
variable {rest parts : List Bytes} {first : Fan.FirstPart} {rank : Nat}

/-- The decoder reads every first part of a detector once the fan has tagged it. -/
theorem FromDetector.tagged (h : FromDetector env parse r first)
    (hFirst : Fan.readFirstPart env part1 = some first) {members : List (Bytes × Value)}
    (hMembers : members ∈ membersOf first) :
    ∃ kind, Tagged first kind ∧
      Decoder.readFirstPart parse (Fan.taggedPart env members (tagOf r first)) = some kind := by
  have hDoc := h.readBack members hMembers
  cases first with
  | unreadable => cases hMembers
  | unknown => cases hMembers
  | header members series detail =>
      cases hMembers
      obtain ⟨acqID, hRead⟩ := readFirstPart_tagged_header hFirst h.wanted hDoc
      exact ⟨_, .header members series detail acqID, hRead⟩
  | image members frame =>
      cases hMembers
      obtain ⟨hNonneg, hFits, hText, hSeries, hHash⟩ := h.wanted
      obtain ⟨series, hSeries⟩ := Option.isSome_iff_exists.mp hSeries
      obtain ⟨hash, hHash⟩ := Option.isSome_iff_exists.mp hHash
      obtain ⟨acqID, hRead⟩ :=
        (readFirstPart_tagged_iff hNonneg hFirst hSeries hHash hDoc).mpr ⟨hFits, hText⟩
      exact ⟨_, .image members frame series hash acqID, hRead⟩
  | endOfSeries members =>
      cases hMembers
      obtain ⟨hText, hSeries⟩ := h.wanted
      obtain ⟨series, hSeries⟩ := Option.isSome_iff_exists.mp hSeries
      obtain ⟨acqID, hRead⟩ := readFirstPart_tagged_end hFirst hText hSeries hDoc
      exact ⟨_, .endOfSeries members series acqID, hRead⟩

/-- The parts the router delivers of a message, whoever gets them. -/
def partsOf : Fan.Delivery → Option (List Bytes)
  | .nobody => none
  | .everyone parts => some parts
  | .one _ parts => some parts

theorem mem_to {delivery : Fan.Delivery} (h : parts ∈ delivery.to r rank) :
    partsOf delivery = some parts := by
  cases delivery with
  | nobody => cases h
  | everyone sent =>
      rw [Fan.Delivery.to] at h
      split at h
      · rw [List.mem_singleton.mp h]
        rfl
      · cases h
  | one target sent =>
      rw [Fan.Delivery.to] at h
      split at h
      · rw [List.mem_singleton.mp h]
        rfl
      · cases h

/-- What is delivered begins with the tagged first part and is as long as the decoder
expects of it. -/
theorem routed_parts (hFirst : Fan.readFirstPart env part1 = some first)
    (h : partsOf (r.route env part1 rest) = some parts) :
    ∃ members ∈ membersOf first, parts.head? = some (Fan.taggedPart env members (tagOf r first)) ∧
      ∀ kind, Tagged first kind → kind.Emits parts.length := by
  rw [Fan.Router.route, hFirst] at h
  cases first with
  | unreadable => cases h
  | unknown => cases h
  | header members series detail =>
      refine ⟨members, rfl, ?_⟩
      simp only at h
      split at h
      · next hNone =>
          cases h
          refine ⟨rfl, fun kind hKind => ?_⟩
          cases hKind
          refine .inl ⟨hNone, ?_⟩
          rw [List.length_cons, List.length_take]
          omega
      split at h
      · next hBasic =>
          cases h
          refine ⟨rfl, fun kind hKind => ?_⟩
          cases hKind
          refine .inr (.inl ⟨hBasic.1, ?_⟩)
          rw [List.length_cons, List.length_take]
          omega
      split at h
      · next hAll =>
          cases h
          refine ⟨rfl, fun kind hKind => ?_⟩
          cases hKind
          refine .inr (.inr ⟨hAll.1, ?_⟩)
          rw [List.length_cons, List.length_take]
          omega
      · cases h
  | image members frame =>
      refine ⟨members, rfl, ?_⟩
      simp only at h
      split at h
      · next hLong =>
          cases h
          refine ⟨rfl, fun kind hKind => ?_⟩
          cases hKind
          show _ = 4 ∨ _ = 5
          rw [List.length_cons, List.length_take]
          omega
      · cases h
  | endOfSeries members =>
      cases h
      refine ⟨members, rfl, rfl, fun kind hKind => ?_⟩
      cases hKind
      rfl

/-- Whatever is delivered of a detector's message is a message the decoder can take. -/
theorem FromDetector.emittable (h : FromDetector env parse r first)
    (hFirst : Fan.readFirstPart env part1 = some first)
    (hParts : parts ∈ (r.route env part1 rest).to r rank) : Decoder.Emittable parse parts := by
  obtain ⟨members, hMembers, hHead, hEmits⟩ := routed_parts hFirst (mem_to hParts)
  obtain ⟨kind, hTagged, hRead⟩ := h.tagged hFirst hMembers
  exact ⟨kind, by rw [hHead]; exact hRead, hEmits kind hTagged⟩

end Delivering

end Eiger.Interface
