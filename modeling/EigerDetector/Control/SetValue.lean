import EigerDetector.Control.Refresh

/-! Setting a parameter and refreshing what has changed with it. -/
namespace Eiger.Server

open Threads
open Control (DETECTOR_CONFIG STREAM_CONFIG Fetchable)

/-- Where a parameter is written. -/
def writeUri (item : String) : Option Uri :=
  if item ∈ DETECTOR_CONFIG then some .detectorConfig
  else if item ∈ STREAM_CONFIG then some .streamConfig
  else if item ∈ FW_CONFIG then some .filewriterConfig
  else none

/-- Where the detector holds what the attribute of this name caches. The modes of the
interfaces are cached under other names. -/
def ownUri (name : String) : Option (Uri × String) :=
  if name ∈ DETECTOR_CONFIG then some (.detectorConfig, name)
  else if name = "mode" then none
  else if name ∈ STREAM_CONFIG then some (.streamConfig, name)
  else if name ∈ FW_CONFIG then some (.filewriterConfig, name)
  else if name ∈ DETECTOR_STATUS then some (.detectorStatus, name)
  else if name ∈ DETECTOR_BOARD_STATUS then some (.detectorStatus, "board_000/" ++ name)
  else if name ∈ DETECTOR_BUILD_STATUS then some (.detectorStatus, "builder/" ++ name)
  else if name ∈ STREAM_STATUS then some (.streamStatus, name)
  else none

def Request.IsGet (r : Request) : Prop := ∃ uri item, r = .get uri item

/-- From here on reads change nothing in the detector. -/
def Environment.Steady (env : Environment) (log : List Request) : Prop :=
  ∀ gets : List Request, (∀ r ∈ gets, r.IsGet) → ∀ uri item,
    env.respond (log ++ gets) (.get uri item) = env.respond log (.get uri item)

/-- The names in the response to a put. -/
def listedNames (response : Json) : List String :=
  match response with
  | .list names => Json.names names
  | _ => []

section Steady

variable {env : Environment} {log : List Request}

theorem Environment.Steady.read {gets : List Request} (h : env.Steady log)
    (hGets : ∀ r ∈ gets, r.IsGet) (uri : Uri) (item : String) :
    env.read (log ++ gets) uri item = env.read log uri item := by
  rw [Environment.read, Environment.read, h gets hGets]

theorem requests_isGet (rs : List Read) : ∀ r ∈ requests rs, r.IsGet := by
  induction rs with
  | nil => simp [requests]
  | cons read rs ih =>
      obtain ⟨cfg, outcome⟩ := read
      cases outcome with
      | ok param =>
          rw [requests, List.forall_mem_cons]
          exact ⟨⟨_, _, rfl⟩, ih⟩
      | error e =>
          rw [requests, List.forall_mem_singleton]
          exact ⟨_, _, rfl⟩

/-- Each read gives what the detector holds. -/
theorem Environment.Steady.mem_reads {gets : List Request} {cfgs : List String} {x : Read}
    (h : env.Steady log) (hGets : ∀ r ∈ gets, r.IsGet)
    (hMember : x ∈ reads env (log ++ gets) cfgs) :
    ∃ uri, fetchUri x.1 = some uri ∧ x.2 = env.read log uri x.1 := by
  induction cfgs generalizing gets with
  | nil => cases hMember
  | cons cfg cfgs ih =>
      rw [reads] at hMember
      split at hMember
      · next uri hUri =>
          rcases List.mem_cons.mp hMember with rfl | hLater
          · exact ⟨uri, hUri, h.read hGets uri cfg⟩
          · rw [List.append_assoc] at hLater
            apply ih _ hLater
            intro r hMember
            rcases List.mem_append.mp hMember with hOld | hNew
            · exact hGets r hOld
            · exact ⟨_, _, List.mem_singleton.mp hNew⟩
      · exact ih hGets hMember

end Steady

section Runs

variable {env : Environment} {item : String} {uri : Uri}

theorem run_setattr (env : Environment) (name : String) (value : Json) (s : EigerDetector) :
    (setattr name value).run (answer env) s =
      .returned { s with attributes := Function.update s.attributes name (some value) } () :=
  rfl

theorem run_writeValue (env : Environment) (hUri : writeUri item = some uri) (value : Json)
    (s : EigerDetector) :
    (writeValue item value).run (answer env) s =
      match env.respond s.log (.put uri item (some value)) with
      | some response => .returned { s with log := s.log ++ [.put uri item (some value)] }
          (parseResponse response)
      | none => .failed { s with log := s.log ++ [.put uri item (some value)] }
          .requestException := by
  have hWrite : writeValue item value = writeConfig uri item value := by
    rw [writeUri] at hUri
    rw [writeValue]
    split_ifs at hUri ⊢ <;> cases hUri <;> rfl
  have hRequest := run_request env (.put uri item (some value)) s
  rw [hWrite, writeConfig]
  cases hResponse : env.respond s.log (.put uri item (some value)) with
  | none =>
      rw [hResponse] at hRequest
      rw [Program.run_bind_failed (answer env) hRequest]
  | some response =>
      rw [hResponse] at hRequest
      rw [Program.run_bind_returned (answer env) hRequest]
      rfl

theorem readValue_of_writeUri (hUri : writeUri item = some uri) :
    readValue item = readConfig uri item := by
  rw [writeUri] at hUri
  rw [readValue]
  split_ifs at hUri ⊢ <;> cases hUri <;> rfl

/-- A put that is answered with a list makes its names stale. -/
theorem run_setValue_list {value written : Json} {response : Response} {names : List Json}
    {s : EigerDetector} (hUri : writeUri item = some uri)
    (hOption : optionValue item value = .ok written)
    (hPut : env.respond s.log (.put uri item (some written)) = some response)
    (hList : parseResponse response = .list names) :
    (setValue item value).run (answer env) s =
      .returned { s with
        log := s.log ++ [.put uri item (some written)]
        staleParameters := s.staleParameters ++ Json.names names } () := by
  have hLift := run_liftExcept env (optionValue item value) s
  rw [hOption] at hLift
  have hWrite := run_writeValue env hUri written s
  simp only [hPut, hList] at hWrite
  rw [setValue, hOption, Program.run_bind_returned (answer env) hLift,
    Program.run_bind_returned (answer env) hWrite]
  rfl

/-- A put that is answered with nothing is followed by a read. -/
theorem run_setValue_null {value written param : Json} {response : Response} {s : EigerDetector}
    (hUri : writeUri item = some uri) (hOption : optionValue item value = .ok written)
    (hPut : env.respond s.log (.put uri item (some written)) = some response)
    (hNull : parseResponse response = .null)
    (hRead : env.read (s.log ++ [.put uri item (some written)]) uri item = .ok param) :
    (setValue item value).run (answer env) s =
      .returned { s with
        log := s.log ++ [.put uri item (some written)] ++ [.get uri item]
        attributes := Function.update s.attributes item (some param) } () := by
  have hLift := run_liftExcept env (optionValue item value) s
  rw [hOption] at hLift
  have hWrite := run_writeValue env hUri written s
  simp only [hPut, hNull] at hWrite
  have hRun := run_readConfig env uri item
    { s with log := s.log ++ [.put uri item (some written)] }
  dsimp only at hRun
  rw [hRead] at hRun
  rw [setValue, hOption, Program.run_bind_returned (answer env) hLift,
    Program.run_bind_returned (answer env) hWrite]
  dsimp only
  rw [readValue_of_writeUri hUri, Program.run_bind_returned (answer env) hRun, run_setattr]

end Runs

section Law

variable {env : Environment} {log : List Request} {item name : String}

/-- The attribute has the value which the detector holds, if the parameter is in the tree. -/
def Cached (env : Environment) (log : List Request) (s : EigerDetector) (name : String) : Prop :=
  name ∉ s.missingParameters → ∀ uri path, ownUri name = some (uri, path) →
    ∃ value, env.read log uri path = .ok value ∧ s.attributes name = some value

/-- The promise: nothing is stale, and these attributes have the values of the detector. -/
structure Lawful (env : Environment) (names : List String) (s : EigerDetector) : Prop where
  stale : s.staleParameters = []
  cached : ∀ name ∈ names, Cached env s.log s name

/-- The read of a parameter succeeds, if it is one that is fetched. -/
def Readable (env : Environment) (log : List Request) (name : String) : Prop :=
  ∀ uri, fetchUri name = some uri → ∃ value, env.read log uri name = .ok value

/-- A parameter that is fetched is read where the detector holds it. -/
theorem fetchUri_of_own {uri : Uri} {path : String} (hFetchable : Fetchable name)
    (hOwn : ownUri name = some (uri, path)) : fetchUri name = some uri ∧ path = name := by
  rw [Fetchable] at hFetchable
  rw [ownUri] at hOwn
  rw [fetchUri]
  split_ifs at hOwn ⊢ <;> simp_all

theorem ownUri_of_writeUri {uri : Uri} (hUri : writeUri item = some uri) (hMode : item ≠ "mode") :
    ownUri item = some (uri, item) := by
  rw [writeUri] at hUri
  rw [ownUri]
  split_ifs at hUri ⊢ <;> simp_all

/-- A refresh of parameters that can be read stores what the detector holds. -/
theorem run_refresh_steady (gets : List Request) (s : EigerDetector) (blocking : Bool)
    (depth : Nat) (hSteady : env.Steady log) (hGets : ∀ r ∈ gets, r.IsGet)
    (hLog : s.log = log ++ gets)
    (hReads : ∀ name ∈ s.staleParameters, Readable env log name) :
    ∃ s', (fetchStaleParameters blocking (depth + 1)).run (answer env) s = .returned s' () ∧
      s'.staleParameters = [] ∧ s'.missingParameters = s.missingParameters ∧
      (∀ uri path, env.read s'.log uri path = env.read log uri path) ∧
      ∀ name, if name ∈ s.staleParameters ∧ Fetchable name then Cached env log s' name
        else s'.attributes name = s.attributes name := by
  have hMember : ∀ x ∈ s.reads env, ∃ uri value, fetchUri x.1 = some uri ∧
      env.read log uri x.1 = .ok value ∧ x.2 = .ok value := by
    intro x hMember
    have hStale := (mem_reads.mp (List.mem_map_of_mem hMember)).1
    rw [EigerDetector.reads, hLog] at hMember
    obtain ⟨uri, hUri, hRead⟩ := hSteady.mem_reads hGets hMember
    obtain ⟨value, hValue⟩ := hReads x.1 hStale uri hUri
    exact ⟨uri, value, hUri, hValue, hRead.trans hValue⟩
  have hAll : ∀ x ∈ s.reads env, ¬ x.Aborts := by
    rintro x hRead ⟨e, hAborts⟩
    obtain ⟨_, value, _, _, hOk⟩ := hMember x hRead
    rw [hOk] at hAborts
    cases hAborts
  have hRun := run_fetchStaleParameters env blocking depth s
  rw [raised_eq_none.mpr hAll] at hRun
  refine ⟨_, hRun, rfl, rfl, ?_, fun name => ?_⟩
  · intro uri path
    rw [EigerDetector.storeReads, hLog, List.append_assoc]
    apply hSteady.read
    intro r hRequest
    rcases List.mem_append.mp hRequest with hOld | hNew
    · exact hGets r hOld
    · exact requests_isGet _ r hNew
  · split_ifs with hStale
    · obtain ⟨x, hRead, rfl⟩ := List.mem_map.mp (mem_reads.mpr hStale)
      obtain ⟨uri, value, hUri, hValue, hOk⟩ := hMember x hRead
      obtain ⟨before, after, hSplit⟩ := List.append_of_mem hRead
      intro _ uri' path hOwn
      obtain ⟨hSame, rfl⟩ := fetchUri_of_own hStale.2 hOwn
      cases hUri.symm.trans hSame
      have hMade : Made (s.reads env) before (x.1, x.2) after :=
        ⟨hSplit, fun y hBefore => hAll y (by rw [hSplit]; exact List.mem_append_left _ hBefore)⟩
      refine ⟨value, hValue, hMade.stored.trans ?_⟩
      rw [hOk, afterRead]
    · exact storeReads_of_not_mem fun hRead => hStale (mem_reads.mp hRead)

/-- A value is written and its response handled; then the stale parameters are fetched. -/
def setAndRefresh (item : String) (value : Json) (blocking : Bool) (depth : Nat) : Code Unit := do
  setValue item value
  fetchStaleParameters blocking depth

/-- After a put and a refresh everything listed has the value of the detector exactly if what
is not refreshed had it before. -/
theorem set_then_refresh_iff {uri : Uri} {value written reply : Json} {response : Response}
    {s : EigerDetector} (blocking : Bool) (depth : Nat) (hUri : writeUri item = some uri)
    (hMode : item ≠ "mode") (hOption : optionValue item value = .ok written)
    (hPut : env.respond s.log (.put uri item (some written)) = some response)
    (hReply : parseResponse response = reply)
    (hShape : reply = .null ∨ ∃ names, reply = .list names ∧ item ∈ Json.names names)
    (hSteady : env.Steady (s.log ++ [.put uri item (some written)]))
    (hRead : ∃ value, env.read (s.log ++ [.put uri item (some written)]) uri item = .ok value)
    (hReads : ∀ name ∈ s.staleParameters ++ listedNames reply,
      Readable env (s.log ++ [.put uri item (some written)]) name) :
    ∃ s', (setAndRefresh item value blocking (depth + 1)).run (answer env) s = .returned s' () ∧
      (Lawful env (item :: listedNames reply) s' ↔
        ∀ name ∈ listedNames reply, ¬ Fetchable name →
          Cached env (s.log ++ [.put uri item (some written)]) s name) := by
  have hOwn := ownUri_of_writeUri hUri hMode
  rcases hShape with rfl | ⟨names, rfl, hListed⟩
  · obtain ⟨param, hRead⟩ := hRead
    have hSet := run_setValue_null hUri hOption hPut hReply hRead
    obtain ⟨s', hRun, hStale, hMissing, hLog, hAttributes⟩ := run_refresh_steady [.get uri item]
      { s with
        log := s.log ++ [.put uri item (some written)] ++ [.get uri item]
        attributes := Function.update s.attributes item (some param) }
      blocking depth hSteady (by simp [Request.IsGet]) rfl
      fun name hMember => hReads name (List.mem_append_left _ hMember)
    refine ⟨s', (Program.run_bind_returned (answer env) hSet _).trans hRun, ?_⟩
    have hNone : listedNames .null = [] := rfl
    rw [hNone]
    refine ⟨fun _ => by simp, fun _ => ⟨hStale, ?_⟩⟩
    intro name hName hPresent uri' path hOwn'
    rw [List.mem_singleton] at hName
    subst hName
    cases hOwn.symm.trans hOwn'
    rw [hLog]
    have hItem := hAttributes name
    split_ifs at hItem
    · exact hItem hPresent uri name hOwn
    · exact ⟨param, hRead, hItem.trans (Function.update_self _ _ _)⟩
  · have hSet := run_setValue_list hUri hOption hPut hReply
    obtain ⟨s', hRun, hStale, hMissing, hLog, hAttributes⟩ := run_refresh_steady []
      { s with
        log := s.log ++ [.put uri item (some written)]
        staleParameters := s.staleParameters ++ Json.names names }
      blocking depth hSteady (by simp) (List.append_nil _).symm hReads
    refine ⟨s', (Program.run_bind_returned (answer env) hSet _).trans hRun, ?_⟩
    constructor
    · intro hLawful name hName hNot hPresent uri' path hOwn'
      rw [← hMissing] at hPresent
      obtain ⟨value, hRead, hCached⟩ :=
        hLawful.cached name (List.mem_cons_of_mem _ hName) hPresent uri' path hOwn'
      have hKept := hAttributes name
      rw [if_neg fun h => hNot h.2] at hKept
      exact ⟨value, (hLog uri' path).symm.trans hRead, hKept.symm.trans hCached⟩
    · intro hCached
      refine ⟨hStale, fun name hName hPresent uri' path hOwn' => ?_⟩
      have hMember : name ∈ Json.names names := by
        rcases List.mem_cons.mp hName with rfl | hOther
        · exact hListed
        · exact hOther
      have hName := hAttributes name
      rw [hLog]
      split_ifs at hName with hFetched
      · exact hName hPresent uri' path hOwn'
      · rw [hMissing] at hPresent
        have hNot : ¬ Fetchable name := fun hFetchable =>
          hFetched ⟨List.mem_append_right _ hMember, hFetchable⟩
        obtain ⟨value, hRead, hOld⟩ := hCached name hMember hNot hPresent uri' path hOwn'
        exact ⟨value, hRead, hName.trans hOld⟩

/-- A put of the count time which changes the frame time too. -/
theorem set_then_refresh_sample : ∃ s', (setAndRefresh "count_time" (.float 1) false 1).run
    (answer (.listing 1 ["frame_time"])) (sampleServer []) = .returned s' () ∧
    Lawful (.listing 1 ["frame_time"]) ["count_time", "count_time", "frame_time"]
      s' := by
  have hUri : writeUri "count_time" = some .detectorConfig := rfl
  have hReads : ∀ log uri name, name ∈ ["count_time", "frame_time"] → fetchUri name = some uri →
      ∃ value, (Environment.listing 1 ["frame_time"]).read log uri name =
        .ok value := by
    intro log uri name hName _
    simp only [List.mem_cons, List.not_mem_nil, or_false] at hName
    rcases hName with rfl | rfl <;> exact ⟨_, rfl⟩
  have hPut : (Environment.listing 1 ["frame_time"]).respond (sampleServer []).log
      (.put .detectorConfig "count_time" (some (.float 1))) =
        some ⟨200, [], .json (.list [.str "count_time", .str "frame_time"])⟩ := rfl
  obtain ⟨s', hRun, hLaw⟩ := set_then_refresh_iff false 0 hUri (by decide)
    rfl hPut rfl (.inr ⟨_, rfl, List.mem_cons_self⟩) (fun _ _ _ _ => rfl) ⟨_, rfl⟩
    (by exact fun name hName uri hUri => hReads _ uri name hName hUri)
  refine ⟨s', hRun, hLaw.mpr fun name hName hNot => absurd ?_ hNot⟩
  have hNames : name ∈ ["count_time", "frame_time"] := hName
  simp only [List.mem_cons, List.not_mem_nil, or_false] at hNames
  rcases hNames with rfl | rfl <;> decide +kernel

/-- A put of `compression_enabled` that is answered with a list. -/
theorem set_then_refresh_not_always : ¬ ∀ (env : Environment) (item : String) (uri : Uri)
    (value : Json) (names : List String) (response : Response) (s s' : EigerDetector),
    writeUri item = some uri → item ≠ "mode" → optionValue item value = .ok value →
    env.respond s.log (.put uri item (some value)) = some response →
    parseResponse response = .list (names.map .str) → item ∈ names →
    (∀ log, env.Steady log) → (∀ log uri item, ¬ IsOption item →
      ∃ value, env.read log uri item = .ok value) →
    (setAndRefresh item value false 1).run (answer env) s = .returned s' () →
    Lawful env (item :: names) s' := by
  intro hClaim
  have hRun : (setAndRefresh "compression_enabled" (.bool true) false 1).run
      (answer (.listing 1 [])) (sampleServer []) = .returned _ () := rfl
  have hLawful := hClaim (.listing 1 []) "compression_enabled"
    .filewriterConfig (.bool true) ["compression_enabled"] _ _ _ rfl (by decide) rfl rfl rfl
    List.mem_cons_self (fun _ _ _ _ _ => rfl) ?_ hRun
  · obtain ⟨value, hRead, hCached⟩ := hLawful.cached "compression_enabled" List.mem_cons_self
      (by simp [sampleServer, initial]) .filewriterConfig "compression_enabled" rfl
    cases hRead
    cases hCached
  · intro log uri item hOther
    exact ⟨_, interceptReply_of_not_option hOther _⟩

end Law

end Eiger.Server
