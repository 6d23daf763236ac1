import EigerDetector.Control.Detector

/-! The status parameters: what the parameter tree shows of them, and what the status poller
reads. -/
namespace Eiger.Server

open Threads

namespace Json

/-- `item[key] = value`. -/
def setItem (item : Json) (key : String) (value : Json) : Except PyException Json :=
  match item with
  | dict members => .ok (dict (setMember key value members))
  | _ => .error .typeError

/-- `get_meta`. -/
def getMeta (item : Json) : Except PyException (List (String × Json)) := do
  let entry (name shown : String) : Except PyException (List (String × Json)) := do
    if ← item.contains name then
      let value ← item.subscript name
      pure [(shown, value)]
    else pure []
  let min ← entry "min" "min"
  let max ← entry "max" "max"
  let allowedValues ← entry "allowed_values" "allowed_values"
  let unit ← entry "unit" "units"
  pure (min ++ max ++ allowedValues ++ unit)

end Json

/-- An entry of the parameter tree for a status, whose accessor has captured an object.
Recorded beside it is where the status is read, and what the read gave. -/
structure StatusEntry where
  status : String
  uri : Uri
  path : String
  reply : Json
  item : Json

/-- The accessor of an entry. The object it has captured is no attribute any more. -/
def StatusEntry.get (entry : StatusEntry) : Except PyException Json := entry.item.getValue

section Registration

def readStatus (uri : Uri) (path : String) : Code Json := do
  let r ← request (.get uri path)
  pure (parseResponse r)

/-- The links are shown as an enumeration. -/
def shownItem (status : String) (reply : Json) : Except PyException Json :=
  if "link_".toList <:+: status.toList then
    reply.setItem "allowed_values" (.list [.str "down", .str "up"])
  else .ok reply

def registerReply (uri : Uri) (status path : String) (reply : Json) : Code (List StatusEntry) := do
  let item ← liftExcept (shownItem status reply)
  let _ ← setattr status item
  let _ ← liftExcept item.getMeta
  pure [⟨status, uri, path, reply, item⟩]

/-- One status at the start. -/
def registerStatus (uri : Uri) (status path : String) : Code (List StatusEntry) := do
  let reply ← readStatus uri path
  match reply with
  | .null => do
      let _ ← perform (.addMissingParameter status)
      pure []
  | reply => registerReply uri status path reply

/-- Two of the links may fail. They are shown as down. -/
def registerDetectorStatus (status : String) : Code (List StatusEntry) :=
  (registerStatus .detectorStatus status status).onFailure fun e =>
    if status = "link_2" ∨ status = "link_3" then pure [] else .fail e

def registerBoardStatus (status : String) : Code (List StatusEntry) :=
  registerStatus .detectorStatus status ("board_000/" ++ status)

def registerBuildStatus (status : String) : Code (List StatusEntry) :=
  registerStatus .detectorStatus status ("builder/" ++ status)

def registerStreamStatus (status : String) : Code (List StatusEntry) :=
  registerStatus .streamStatus status status

/-- The entries of a group. -/
def registerAll (register : String → Code (List StatusEntry)) :
    List String → Code (List StatusEntry)
  | [] => pure []
  | status :: rest => do
      let entries ← register status
      let others ← registerAll register rest
      pure (entries ++ others)

/-- The part of the constructor which is about statuses. -/
def registerStatuses : Code (List StatusEntry) := do
  let detector ← registerAll registerDetectorStatus DETECTOR_STATUS
  let board ← registerAll registerBoardStatus DETECTOR_BOARD_STATUS
  let build ← registerAll registerBuildStatus DETECTOR_BUILD_STATUS
  let stream ← registerAll registerStreamStatus STREAM_STATUS
  pure (detector ++ board ++ build ++ stream)

end Registration

section Poller

/-- `try` with `except: pass`. -/
def suppressed (code : Code Unit) : Code Unit := code.onFailure fun _ => pure ()

def pollStatus (status path : String) : Code Unit := do
  let reply ← readStatus .detectorStatus path
  setattr status reply

/-- Two of the links are not polled on a small detector. -/
def pollLink (status : String) : Code Unit := do
  let description ← getattr "description"
  let value ← liftExcept description.getValue
  let small ← liftExcept (value.contains "500K")
  if small then pure () else pollStatus status status

def pollDetectorStatus (status : String) : Code Unit := do
  let missingParameters ← perform .getMissingParameters
  if status ∈ missingParameters then pure ()
  else if status = "link_2" ∨ status = "link_3" then suppressed (pollLink status)
  else suppressed (pollStatus status status)

def pollAll (poll : String → Code Unit) : List String → Code Unit
  | [] => pure ()
  | status :: rest => do
      poll status
      pollAll poll rest

/-- One iteration of `do_check_status`. -/
def checkStatus : Code Unit := do
  pollAll pollDetectorStatus DETECTOR_STATUS
  let acquisitionComplete : Bool ← perform (.getFlag .acquisitionComplete)
  if acquisitionComplete then suppressed (fetchStaleParameters false 1) else pure ()
  pollAll (fun status => suppressed (pollStatus status ("board_000/" ++ status)))
    DETECTOR_BOARD_STATUS
  pollAll (fun status => suppressed (pollStatus status ("builder/" ++ status)))
    DETECTOR_BUILD_STATUS
  let _ ← perform (.sleep (.float (1 / 2)))

/-- The first iterations of `do_check_status`. -/
def doCheckStatus : Nat → Code Unit
  | 0 => pure ()
  | iterations + 1 => do
      let executing : Bool ← perform (.getFlag .executing)
      if executing then do
        checkStatus
        doCheckStatus iterations
      else pure ()

end Poller

section Reads

/-- What a read of a status gives, if it succeeds. -/
def readReply (env : Environment) (log : List Request) (uri : Uri) (path : String) : Option Json :=
  match env.respond log (.get uri path) with
  | none => none
  | some response =>
      match parseResponse response with
      | .null => none
      | reply => some reply

/-- What a request gives, if it is a successful read of this status. -/
def Request.reply (env : Environment) (uri : Uri) (path : String) (log : List Request) :
    Request → Option Json
  | .get uri' path' => if uri' = uri ∧ path' = path then readReply env log uri path else none
  | .put _ _ _ => none

/-- What the last successful read of a status gives among some requests. -/
def lastRead (env : Environment) (uri : Uri) (path : String) :
    List Request → List Request → Option Json
  | _, [] => none
  | log, r :: later =>
      (lastRead env uri path (log ++ [r]) later).or (r.reply env uri path log)

/-- The promise: an entry shows what was read last, by the poller or at the start. -/
def Shown (env : Environment) (entries : List StatusEntry) (log : List Request)
    (t : EigerDetector) : Prop :=
  ∀ entry ∈ entries, entry.get =
    ((lastRead env entry.uri entry.path log (t.log.drop log.length)).getD entry.reply).getValue

variable {env : Environment} {uri : Uri} {path : String} {log : List Request}

theorem Request.reply_some {r : Request} {reply : Json}
    (h : r.reply env uri path log = some reply) :
    r = .get uri path ∧ readReply env log uri path = some reply := by
  cases r with
  | get uri' path' =>
      rw [Request.reply] at h
      split at h
      · next hSame =>
          obtain ⟨rfl, rfl⟩ := hSame
          exact ⟨rfl, h⟩
      · cases h
  | put uri' item data => cases h

theorem lastRead_some {later : List Request} {reply : Json}
    (h : lastRead env uri path log later = some reply) :
    ∃ before after, later = before ++ .get uri path :: after ∧
      readReply env (log ++ before) uri path = some reply := by
  induction later generalizing log with
  | nil => cases h
  | cons r later ih =>
      rw [lastRead, Option.or_eq_some_iff] at h
      rcases h with hLater | ⟨_, hFirst⟩
      · obtain ⟨before, after, rfl, hRead⟩ := ih hLater
        exact ⟨r :: before, after, rfl, by simpa using hRead⟩
      · obtain ⟨rfl, hRead⟩ := Request.reply_some hFirst
        exact ⟨[], later, rfl, by simpa using hRead⟩

theorem lastRead_concat {later : List Request} {reply : Json}
    (h : readReply env (log ++ later) uri path = some reply) :
    lastRead env uri path log (later ++ [.get uri path]) = some reply := by
  induction later generalizing log with
  | nil =>
      rw [List.append_nil] at h
      simp [lastRead, Request.reply, h]
  | cons r later ih =>
      rw [List.cons_append, lastRead, ih (by simpa using h)]
      rfl

/-- An action makes one request at most. -/
theorem answer_log {env : Environment} {action : Action} {s s' : EigerDetector}
    {reply : action.Reply} (h : answer env action s = some (s', reply)) :
    s'.log = s.log ∨ ∃ r, s'.log = s.log ++ [r] := by
  cases action with
  | request r =>
      cases h
      exact .inr ⟨r, rfl⟩
  | _ =>
      cases h
      exact .inl rfl

/-- A run only adds to the requests. -/
theorem log_grows {A : Type} (env : Environment) (p : Code A) (s : EigerDetector) :
    ∀ t ∈ p.states (answer env) s,
      s.log <+: t.log ∧ t.log <+: (p.run (answer env) s).state.log := by
  apply Program.states_related (answer env) (fun _ => List.prefix_rfl)
    (fun _ _ _ hFirst hLast => hFirst.trans hLast)
  intro action t t' reply hAnswer
  rcases answer_log hAnswer with hSame | ⟨r, hMore⟩
  · rw [hSame]
  · rw [hMore]
    exact List.prefix_append _ _

/-- A run goes through the state after each of its requests. -/
theorem exists_state_after {A : Type} (p : Code A) {s : EigerDetector} {before after : List Request}
    {r : Request} (hLog : (p.run (answer env) s).state.log = before ++ r :: after)
    (hLength : s.log.length ≤ before.length) :
    ∃ t ∈ p.states (answer env) s, t.log = before ++ [r] := by
  induction p generalizing s with
  | done a | fail e =>
      have hLengths := congrArg List.length hLog
      simp only [Program.run, Outcome.state, List.length_append, List.length_cons] at hLengths
      omega
  | act action next ih =>
      rw [Program.run] at hLog
      rw [Program.states]
      cases hAnswer : answer env action s with
      | none =>
          rw [hAnswer] at hLog
          have hLengths := congrArg List.length hLog
          simp only [Outcome.state, List.length_append, List.length_cons] at hLengths
          omega
      | some result =>
          rw [hAnswer] at hLog
          have hStart := Program.mem_states_start (answer env) (next result.2) result.1
          by_cases hEarlier : result.1.log.length ≤ before.length
          · obtain ⟨t, hMember, hState⟩ := ih result.2 hLog hEarlier
            exact ⟨t, List.mem_cons_of_mem _ hMember, hState⟩
          · -- the request is the one just made
            refine ⟨result.1, List.mem_cons_of_mem _ hStart, ?_⟩
            have hPrefix := (log_grows env _ _ _ hStart).2
            rcases answer_log hAnswer with hSame | ⟨r', hMore⟩
            · rw [hSame] at hEarlier
              exact absurd hLength hEarlier
            · have hLengths : result.1.log.length = (before ++ [r]).length := by
                rw [hMore] at hEarlier ⊢
                simp only [List.length_append, List.length_singleton] at hEarlier ⊢
                omega
              have hOther : before ++ [r] <+:
                  ((next result.2).run (answer env) result.1).state.log :=
                ⟨after, by rw [hLog]; simp⟩
              exact (List.prefix_of_prefix_length_le hPrefix hOther hLengths.le).eq_of_length
                hLengths

end Reads

section Entries

/-- The value of an entry is that of the read at the start. -/
def Registered (entries : List StatusEntry) : Prop :=
  ∀ entry ∈ entries, entry.get = entry.reply.getValue

theorem lookup_setMember {key name : String} (value : Json) (hOther : name ≠ key)
    (members : List (String × Json)) :
    (setMember key value members).lookup name = members.lookup name := by
  have hNot : (name == key) = false := beq_false_of_ne hOther
  induction members with
  | nil => simp [setMember, List.lookup_cons, hNot]
  | cons member members ih =>
      obtain ⟨name', old⟩ := member
      rw [setMember]
      split_ifs with hSame
      · subst hSame
        simp [List.lookup_cons, hNot]
      · rw [List.lookup_cons, List.lookup_cons, ih]

/-- Another member leaves the value alone. -/
theorem getValue_shownItem {status : String} {reply item : Json}
    (h : shownItem status reply = .ok item) : item.getValue = reply.getValue := by
  rw [shownItem] at h
  split_ifs at h
  · cases reply with
    | dict members =>
        cases h
        have hKey : "value" ≠ "allowed_values" := by decide
        simp only [Json.getValue, Json.contains, Json.subscript, lookup_setMember _ hKey]
    | _ => cases h
  · cases h
    rfl

theorem uses_liftExcept_ok {A : Type} (outcome : Except PyException A) :
    (liftExcept outcome).Uses (fun _ => True) fun a => outcome = .ok a := by
  cases outcome with
  | ok a => rfl
  | error e => trivial

theorem uses_registerStatus (uri : Uri) (status path : String) :
    (registerStatus uri status path).Uses (fun _ => True) Registered := by
  have hReply : ∀ reply, (registerReply uri status path reply).Uses (fun _ => True)
      Registered := by
    intro reply
    apply (uses_liftExcept_ok (shownItem status reply)).bind
    intro item hItem
    refine ⟨trivial, fun _ => ?_⟩
    apply (uses_liftExcept_ok item.getMeta).bind
    intro _ _ entry hMember
    rw [List.mem_singleton] at hMember
    rw [hMember]
    exact getValue_shownItem hItem
  refine ⟨trivial, fun response => ?_⟩
  cases response with
  | none => trivial
  | some response =>
      change Program.Uses _ _ (match parseResponse response with
        | .null => _
        | reply => registerReply uri status path reply)
      split
      · exact ⟨trivial, fun _ _ hMember => absurd hMember List.not_mem_nil⟩
      · exact hReply _

theorem uses_registerAll {register : String → Code (List StatusEntry)}
    (h : ∀ status, (register status).Uses (fun _ => True) Registered) (group : List String) :
    (registerAll register group).Uses (fun _ => True) Registered := by
  induction group with
  | nil => simp [registerAll, Program.Uses, Registered]
  | cons status rest ih =>
      apply (h status).bind
      intro entries hEntries
      apply ih.bind
      intro others hOthers entry hMember
      rcases List.mem_append.mp hMember with hFirst | hRest
      · exact hEntries entry hFirst
      · exact hOthers entry hRest

theorem uses_registerStatuses : registerStatuses.Uses (fun _ => True) Registered := by
  have hDetector : ∀ status, (registerDetectorStatus status).Uses (fun _ => True) Registered := by
    intro status
    apply (uses_registerStatus _ _ _).onFailure
    intro e
    split_ifs
    · simp [Program.Uses, Registered]
    · trivial
  apply (uses_registerAll hDetector _).bind
  intro detector hDetector
  apply (uses_registerAll (fun _ => uses_registerStatus _ _ _) _).bind
  intro board hBoard
  apply (uses_registerAll (fun _ => uses_registerStatus _ _ _) _).bind
  intro build hBuild
  apply (uses_registerAll (fun _ => uses_registerStatus _ _ _) _).bind
  intro stream hStream entry hMember
  simp only [List.mem_append] at hMember
  rcases hMember with ((hMember | hMember) | hMember) | hMember
  · exact hDetector entry hMember
  · exact hBoard entry hMember
  · exact hBuild entry hMember
  · exact hStream entry hMember

variable {env : Environment} {s start : EigerDetector} {entries : List StatusEntry}

/-- The entries show what is read last exactly if each successful read of the poller gives the
value of the start. -/
theorem status_shown_iff (iterations : Nat)
    (hStart : registerStatuses.run (answer env) s = .returned start entries) :
    (∀ t ∈ (doCheckStatus iterations).states (answer env) start,
        Shown env entries start.log t) ↔
      ∀ entry ∈ entries, ∀ before after reply,
        ((doCheckStatus iterations).run (answer env) start).state.log =
          before ++ .get entry.uri entry.path :: after → start.log.length ≤ before.length →
        readReply env before entry.uri entry.path = some reply →
        reply.getValue = entry.reply.getValue := by
  have hRegistered : Registered entries := uses_registerStatuses.returned hStart
  constructor
  · intro hShown entry hEntry before after reply hLog hLength hReply
    obtain ⟨t, hMember, hState⟩ := exists_state_after _ hLog hLength
    have hPrefix : start.log <+: before ++ [.get entry.uri entry.path] := by
      rw [← hState]
      exact (log_grows env _ _ t hMember).1
    obtain ⟨later, rfl⟩ :=
      List.prefix_of_prefix_length_le hPrefix (List.prefix_append _ _) hLength
    have hValue := hShown t hMember entry hEntry
    rw [hState, List.append_assoc, List.drop_left, lastRead_concat hReply,
      Option.getD_some] at hValue
    rw [← hValue]
    exact hRegistered entry hEntry
  · intro hReads t hMember entry hEntry
    rw [hRegistered entry hEntry]
    obtain ⟨hFirst, hLast⟩ := log_grows env _ _ t hMember
    obtain ⟨later, hLater⟩ := hFirst
    obtain ⟨rest, hRest⟩ := hLast
    cases hRead : lastRead env entry.uri entry.path start.log (t.log.drop start.log.length) with
    | none => rfl
    | some reply =>
        rw [← hLater, List.drop_left] at hRead
        obtain ⟨before, after, rfl, hReply⟩ := lastRead_some hRead
        have hSplit : ((doCheckStatus iterations).run (answer env) start).state.log =
            (start.log ++ before) ++ .get entry.uri entry.path :: (after ++ rest) := by
          rw [← hRest, ← hLater]
          simp
        exact (hReads entry hEntry _ _ reply hSplit (by simp) hReply).symm

/-- All statuses have the value 0 at all times. -/
theorem status_shown_sample : ∃ start entries,
    registerStatuses.run (answer (.listing 0 [])) (sampleServer []) = .returned start entries ∧
    entries.map StatusEntry.status =
      DETECTOR_STATUS ++ DETECTOR_BOARD_STATUS ++ DETECTOR_BUILD_STATUS ++ STREAM_STATUS ∧
    ∀ t ∈ (doCheckStatus 2).states (answer (.listing 0 [])) start,
      Shown (.listing 0 []) entries start.log t := by
  obtain ⟨start, entries, hStart, hStatuses, hReplies⟩ : ∃ start entries,
      registerStatuses.run (answer (.listing 0 [])) (sampleServer []) = .returned start entries ∧
      entries.map StatusEntry.status =
        DETECTOR_STATUS ++ DETECTOR_BOARD_STATUS ++ DETECTOR_BUILD_STATUS ++ STREAM_STATUS ∧
      entries.map StatusEntry.reply = List.replicate 12 (.dict [("value", .int 0)]) :=
    ⟨_, _, rfl, rfl, rfl⟩
  refine ⟨start, entries, hStart, hStatuses, (status_shown_iff 2 hStart).mpr ?_⟩
  intro entry hEntry before after reply _ _ hReply
  have hMember := List.mem_map_of_mem (f := StatusEntry.reply) hEntry
  rw [hReplies] at hMember
  rw [List.eq_of_mem_replicate hMember]
  cases hReply
  rfl

/-- A detector that counts its requests. -/
def Environment.counting : Environment :=
  { Environment.constant none with
    respond := fun log _ => some ⟨200, [], .json (.dict [("value", .int log.length)])⟩ }

/-- The tree still shows the state of the start when the poller has read another. -/
theorem status_not_always_shown : ¬ ∀ (env : Environment) (iterations : Nat)
    (s start : EigerDetector) (entries : List StatusEntry),
    registerStatuses.run (answer env) s = .returned start entries →
    ∀ t ∈ (doCheckStatus iterations).states (answer env) start,
      Shown env entries start.log t := by
  intro hClaim
  obtain ⟨start, entry, entries, hStart, hEntry, hLength, after, hLog⟩ : ∃ start entry entries,
      registerStatuses.run (answer .counting) (sampleServer []) =
        .returned start (entry :: entries) ∧
      (entry.uri = .detectorStatus ∧ entry.path = "state" ∧ entry.get = .ok (.int 0)) ∧
      start.log.length = 12 ∧ ∃ after,
        ((doCheckStatus 1).run (answer .counting) start).state.log =
          start.log ++ .get .detectorStatus "state" :: after :=
    ⟨_, _, _, rfl, ⟨rfl, rfl, rfl⟩, rfl, _, rfl⟩
  obtain ⟨hUri, hPath, hValue⟩ := hEntry
  obtain ⟨t, hMember, hState⟩ := exists_state_after _ hLog le_rfl
  have hShown := hClaim .counting 1 _ start _ hStart t hMember entry List.mem_cons_self
  have hReply : readReply .counting (start.log ++ []) .detectorStatus "state" =
      some (.dict [("value", .int start.log.length)]) := by
    rw [List.append_nil]
    rfl
  rw [hState, List.drop_left, hUri, hPath, hValue] at hShown
  rw [← List.nil_append [Request.get Uri.detectorStatus "state"], lastRead_concat hReply,
    hLength] at hShown
  cases hShown

end Entries

end Eiger.Server
