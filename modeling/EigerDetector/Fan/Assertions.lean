import EigerDetector.Fan.Handling
import EigerDetector.Fan.Operation

/-! The stream messages the fan survives. The handlers read members of the first
part without a test, and the assertions behind these reads are no exceptions. -/
namespace Eiger.Fan

open CharArrays Rapidjson FixedWidth Threads Rx Multipart Transition EigerFan

/-- The members which the handler of this header type reads are there, with the
types it reads. -/
def MembersReadable (members : List (Bytes × Value)) : Prop :=
  ∃ htype, (Value.findMember headerTypeKey members).bind Value.getString = some htype ∧
    (htype = globalHeaderType →
      ((Value.findMember seriesKey members).bind Value.getInt).isSome ∧
      ((Value.findMember headerDetailKey members).bind Value.getString).isSome) ∧
    (htype = imageHeaderType → ((Value.findMember frameKey members).bind Value.getInt64).isSome)

/-- Not JSON at all, or an object with readable members. -/
def PartReadable (env : Environment) (message : Bytes) : Prop :=
  ∀ doc, env.parse (cString message) = some doc →
    ∃ members, doc = .object members ∧ MembersReadable members

section Reading

variable {env : Environment} {message : Bytes}

theorem readFirstPart_members {members : List (Bytes × Value)}
    (hParse : env.parse (cString message) = some (.object members)) :
    (readFirstPart env message).isSome ↔ MembersReadable members := by
  obtain ⟨hHeaderImage, _, _⟩ := headerTypes_distinct
  rw [readFirstPart, hParse]
  constructor
  · intro hRead
    obtain ⟨read, hRead⟩ := Option.isSome_iff_exists.mp hRead
    obtain ⟨htype, hType, hRead⟩ := Option.bind_eq_some_iff.mp hRead
    refine ⟨htype, hType, fun hHeader => ?_, fun hImage => ?_⟩
    · rw [if_pos hHeader] at hRead
      obtain ⟨series, hSeries, hRead⟩ := Option.bind_eq_some_iff.mp hRead
      obtain ⟨detail, hDetail, _⟩ := Option.bind_eq_some_iff.mp hRead
      exact ⟨by rw [hSeries]; rfl, by rw [hDetail]; rfl⟩
    · have hNotHeader : htype ≠ globalHeaderType := by
        rw [hImage]
        exact hHeaderImage.symm
      rw [if_neg hNotHeader, if_pos hImage] at hRead
      obtain ⟨frame, hFrame, _⟩ := Option.bind_eq_some_iff.mp hRead
      rw [hFrame]
      rfl
  · rintro ⟨htype, hType, hHeaderReads, hImageReads⟩
    simp only [hType, Option.bind_eq_bind, Option.bind_some]
    split
    · next hHeader =>
        obtain ⟨hSeries, hDetail⟩ := hHeaderReads hHeader
        obtain ⟨series, hSeries⟩ := Option.isSome_iff_exists.mp hSeries
        obtain ⟨detail, hDetail⟩ := Option.isSome_iff_exists.mp hDetail
        rw [hSeries, hDetail]
        rfl
    · split
      · next hImage =>
          obtain ⟨frame, hFrame⟩ := Option.isSome_iff_exists.mp (hImageReads hImage)
          rw [hFrame]
          rfl
      · split <;> rfl

theorem readFirstPart_isSome_iff :
    (readFirstPart env message).isSome ↔ PartReadable env message := by
  cases hParse : env.parse (cString message) with
  | none =>
      rw [readFirstPart, hParse, PartReadable, hParse]
      refine ⟨fun _ doc hDoc => ?_, fun _ => rfl⟩
      cases hDoc
  | some doc =>
      cases doc with
      | object members =>
          rw [readFirstPart_members hParse, PartReadable, hParse]
          constructor
          · rintro hReadable _ ⟨⟩
            exact ⟨members, rfl, hReadable⟩
          · intro hReadable
            obtain ⟨_, ⟨⟩, hMembers⟩ := hReadable _ rfl
            exact hMembers
      | _ =>
          rw [readFirstPart, hParse, PartReadable, hParse]
          constructor
          · intro hRead
            cases hRead
          · intro hReadable
            obtain ⟨_, ⟨⟩, _⟩ := hReadable _ rfl

end Reading

section Survival

variable {env : Environment} {s : EigerFan} {part1 : Bytes} {rest : List Bytes}
  {tail : List (Bytes × Bool)} {more : Int}

theorem eq_none_of_bind_some {A B : Type} {read : Option A} {f : A → B}
    (h : (read.bind fun a => some (f a)) = none) : read = none := by
  cases read with
  | none => rfl
  | some a => cases h

/-- The added acquisition ID does not stand in for a member that is missing. -/
theorem findMember_tagged {A : Type} {key : Bytes} {members : List (Bytes × Value)}
    {read : Value → Option A} {acquisitionID : Bytes} (hKey : key ≠ acquisitionIDKey)
    (h : (Value.findMember key members).bind read = none) :
    (Value.findMember key (members ++ [(acquisitionIDKey, .string acquisitionID)])).bind read =
      none := by
  cases hFind : Value.findMember key members with
  | none =>
      rw [Value.findMember_append_of_none hFind, Value.findMember, if_neg hKey.symm]
      rfl
  | some value =>
      rw [Value.findMember_append_of_some hFind]
      rwa [hFind] at h

theorem prepareGlobalHeader_aborts {members : List (Bytes × Value)}
    (h : (Value.findMember seriesKey members).bind Value.getInt = none ∨
      (Value.findMember headerDetailKey members).bind Value.getString = none) :
    ∃ t, (prepareGlobalHeader env).run (answer env)
      (reading rest tail more { s with jsonDocument := .object members }) = .failed t .abort := by
  have hSeriesKey : seriesKey ≠ acquisitionIDKey := by decide
  have hDetailKey : headerDetailKey ≠ acquisitionIDKey := by decide
  rw [prepareGlobalHeader, run_addAcquisitionIDToPart1, run_members]
  cases hSeries : (Value.findMember seriesKey members).bind Value.getInt with
  | none =>
      simp only [reading, Value.member, findMember_tagged hSeriesKey hSeries, access]
      exact ⟨_, rfl⟩
  | some series =>
      have hDetail : (Value.findMember headerDetailKey members).bind Value.getString = none := by
        rcases h with hNone | hNone
        · rw [hSeries] at hNone
          cases hNone
        · exact hNone
      simp only [reading, Value.member, Value.findMember_append_bind hSeries,
        findMember_tagged hDetailKey hDetail, access, Program.done_bind]
      rw [run_assign]
      exact ⟨_, rfl⟩

/-- A first part which cannot be read fails an assertion in its handler. -/
theorem prepare_aborts (h : readFirstPart env part1 = none) :
    ∃ t, (prepare env part1).run (answer env) (reading rest tail more s) = .failed t .abort := by
  rw [readFirstPart] at h
  rw [prepare]
  cases hParse : env.parse (cString part1) with
  | none =>
      rw [hParse] at h
      cases h
  | some doc =>
      rw [hParse] at h
      cases doc with
      | object members =>
          simp only [Option.bind_eq_bind] at h
          simp only [Value.member]
          rw [run_assign]
          cases hType : (Value.findMember headerTypeKey members).bind Value.getString with
          | none =>
              simp only [access]
              exact ⟨_, rfl⟩
          | some htype =>
              rw [hType, Option.bind_some] at h
              simp only [access, Program.done_bind]
              split
              · next hHeader =>
                  rw [if_pos hHeader] at h
                  have hMissing : (Value.findMember seriesKey members).bind Value.getInt = none ∨
                      (Value.findMember headerDetailKey members).bind Value.getString = none := by
                    rw [or_iff_not_imp_left]
                    intro hSeries
                    obtain ⟨series, hSeries⟩ := Option.ne_none_iff_exists'.mp hSeries
                    rw [hSeries, Option.bind_some] at h
                    exact eq_none_of_bind_some h
                  exact prepareGlobalHeader_aborts (s := latch s) hMissing
              · next hHeader =>
                  rw [if_neg hHeader] at h
                  split
                  · next hImage =>
                      rw [if_pos hImage] at h
                      have hFrame : (Value.findMember frameKey members).bind Value.getInt64 =
                          none := eq_none_of_bind_some h
                      simp only [hFrame]
                      exact ⟨_, rfl⟩
                  · next hImage =>
                      rw [if_neg hImage] at h
                      split at h <;> cases h
      | _ => exact ⟨_, rfl⟩

/-- With valid settings no division of the dispatch faults. -/
theorem dispatches_of_valid (first : FirstPart) (hConsumers : 1 ≤ s.config.numConsumers)
    (hBlock : 1 ≤ s.config.blockSize) : first.Dispatches s := by
  cases first with
  | image members frame =>
      rw [FirstPart.Dispatches, EigerFan.dispatch, dispatchIndex, int64Div, if_neg (by omega),
        Option.bind_eq_bind, Option.bind_some, int64Rem, if_neg (by omega)]
      rfl
  | _ => trivial

/-- With valid settings the rx thread gets to the next message exactly if the first
part is readable; otherwise the process ends. -/
theorem survives_iff_partReadable (hQueue : s.rxSocket.queue = frame (part1 :: rest) ++ tail)
    (hConsumers : 1 ≤ s.config.numConsumers) (hBlock : 1 ≤ s.config.blockSize) :
    ((∃ t, receive env s = .returned t () ∧ t.rxSocket.queue = tail) ↔ PartReadable env part1) ∧
      (¬ PartReadable env part1 → ∃ t, receive env s = .failed t .abort) := by
  have hAborts : ¬ PartReadable env part1 → ∃ t, receive env s = .failed t .abort := by
    intro hUnreadable
    rw [← readFirstPart_isSome_iff, Option.not_isSome_iff_eq_none] at hUnreadable
    obtain ⟨t, hPrepare⟩ : ∃ t, (prepare env part1).run (answer env)
        (reading rest tail s.more s) = .failed t .abort := prepare_aborts hUnreadable
    exact ⟨t, receive_aborts env hQueue hPrepare⟩
  refine ⟨⟨?_, ?_⟩, hAborts⟩
  · rintro ⟨t, hReturned, _⟩
    by_contra hUnreadable
    obtain ⟨u, hAborted⟩ := hAborts hUnreadable
    rw [hAborted] at hReturned
    cases hReturned
  · intro hReadable
    obtain ⟨first, hFirst⟩ := Option.isSome_iff_exists.mp (readFirstPart_isSome_iff.mpr hReadable)
    have hDispatches := dispatches_of_valid first hConsumers hBlock
    obtain ⟨t, hReturned, _⟩ := receive_total env hQueue hFirst hDispatches
    exact ⟨_, hReturned, rfl⟩

end Survival

/-- A series number that is no number. -/
def mistypedHeader : Value :=
  .object [(headerTypeKey, .string globalHeaderType), (seriesKey, .string (bytes "7")),
    (headerDetailKey, .string headerDetailNone)]

def wellTypedHeader : Value :=
  .object [(headerTypeKey, .string globalHeaderType), (seriesKey, .int 7),
    (headerDetailKey, .string headerDetailNone)]

def headerEnvironment : Environment :=
  .ofTexts [(objectText mistypedHeader, mistypedHeader),
    (objectText wellTypedHeader, wellTypedHeader)]

/-- A header in front of a fan with its consumer connected. -/
def headerEvents (header : Value) : List FanEvent :=
  [.main (.monitor zmqEventAccepted 0), .startRx, .arrive [objectText header]]

/-- The well-typed header in front of a fresh fan. -/
theorem survives_wellTypedHeader :
    ∃ t, receive headerEnvironment { initial defaultConfig with
        rxSocket := ⟨frame [objectText wellTypedHeader], false⟩ } = .returned t () ∧
      t.rxSocket.queue = [] := by
  have hQueue : frame [objectText wellTypedHeader] =
      frame (objectText wellTypedHeader :: []) ++ [] := rfl
  refine (survives_iff_partReadable hQueue (by decide) (by decide)).1.mpr ?_
  rintro _ ⟨⟩
  exact ⟨_, rfl, _, rfl, fun _ => ⟨rfl, rfl⟩, nofun⟩

/-- A header whose series is a string ends the process in a reachable state. -/
theorem mistyped_series_aborts :
    ∃ s t, Run (operate headerEnvironment) always (initial (parseArguments defaultOptions))
        (headerEvents mistypedHeader) s ∧
      s.rxSocket.queue = frame [objectText mistypedHeader] ∧ 1 ≤ s.config.numConsumers ∧
      1 ≤ s.config.blockSize ∧ receive headerEnvironment s = .failed t .abort ∧
      ¬ ∃ u, receive headerEnvironment s = .returned u () := by
  refine ⟨_, _, run_always_iff.mpr rfl, rfl, by decide, by decide, rfl, ?_⟩
  rintro ⟨_, ⟨⟩⟩

end Eiger.Fan
