import EigerDetector.Definitions
import EigerDetector.Library.Multipart
import Mathlib.Data.Nat.Digits.Defs
import Mathlib.Logic.Function.Basic

/-! A recorded stream and its replay. The recorder writes each part to a file of its own, and
the simulator sends the files again with the flags that its author has seen. -/
namespace Eiger.Simulator

open CharArrays Multipart

/-- The files by their paths. -/
abbrev Files := Bytes → Option Bytes

/-- The name of the file for the n-th part. -/
def streamFile (n : Nat) : Bytes := bytes "streamfile_" ++ bytes (toString n)

section Recorder

/-- The files in its directory, and the number of the next part. -/
structure StreamWriter where
  files : Files
  messageReceived : Nat

/-- Write the next part. Whether more parts follow is not asked. -/
def StreamWriter.receive (directory : Bytes) (w : StreamWriter) (message : Bytes × Bool) :
    StreamWriter where
  files := Function.update w.files (directory ++ streamFile w.messageReceived) (some message.1)
  messageReceived := w.messageReceived + 1

/-- Everything that arrives is written. -/
def record (directory : Bytes) (files : Files) (received : List (Bytes × Bool)) : StreamWriter :=
  received.foldl (StreamWriter.receive directory) ⟨files, 1⟩

end Recorder

section Replay

variable (files : Files) (filepath : Option Bytes)

/-- `SendFileMessage`. Of a file that cannot be opened nothing is sent. -/
def sendFileMessage (filePath : Bytes) (more : Bool) : List (Bytes × Bool) :=
  match files (filepath.getD [] ++ filePath) with
  | some content => [(content, more)]
  | none => []

/-- The files that are sent, and whether more is announced. -/
def fileMessages : List (Bytes × Bool) :=
  [(bytes "streamfile_1", true), (bytes "streamfile_2", true), (bytes "streamfile_3", true),
    (bytes "streamfile_4", true), (bytes "streamfile_5", true), (bytes "streamfile_6", true),
    (bytes "streamfile_7", true), (bytes "streamfile_8", true), (bytes "streamfile_9", false),
    (bytes "streamfile_10", true), (bytes "streamfile_11", true), (bytes "streamfile_12", true),
    (bytes "streamfile_13", false),
    (bytes "streamfile_14", true), (bytes "streamfile_15", true), (bytes "streamfile_16", true),
    (bytes "streamfile_17", false),
    (bytes "streamfile_18", true), (bytes "streamfile_19", true), (bytes "streamfile_20", true),
    (bytes "streamfile_21", false),
    (bytes "streamfile_22", false)]

/-- `simulate` in stream mode. -/
def simulateStream : List (Bytes × Bool) :=
  fileMessages.flatMap fun message => sendFileMessage files filepath message.1 message.2

end Replay

section RoundTrip

variable {directory : Bytes} {files : Files}

theorem bytes_toString_injective : Function.Injective fun n : Nat => bytes (toString n) := by
  have hRead : ∀ n : Nat, (bytes (toString n)).map (fun b => Char.ofNat b.toNat) =
      Nat.toDigits 10 n := by
    intro n
    have hDigits : (toString n).toList = Nat.toDigits 10 n := Nat.toList_repr
    rw [bytes, hDigits, List.map_map]
    refine (List.map_congr_left fun c hChar => ?_).trans (List.map_id _)
    have hDigit := Nat.isDigit_of_mem_toDigits (by omega) (le_refl 10) hChar
    have hBound := (Char.isDigit_iff_toNat.mp hDigit).2
    have hNine : '9'.toNat = 57 := rfl
    have hByte : (UInt8.ofNat c.toNat).toNat = c.toNat := by
      rw [UInt8.toNat_ofNat']
      omega
    simp only [Function.comp_apply, hByte, Char.ofNat_toNat, id]
  intro n m hSame
  have hDigits : Nat.toDigits 10 n = Nat.toDigits 10 m := by
    rw [← hRead n, ← hRead m]
    exact congrArg _ hSame
  rw [← Nat.ofDigitChars_toDigits (n := n) (b := 10) (by omega) (by omega), hDigits,
    Nat.ofDigitChars_toDigits (by omega) (by omega)]

theorem path_injective : Function.Injective fun n => directory ++ streamFile n := by
  intro n m hSame
  exact bytes_toString_injective (List.append_cancel_left (List.append_cancel_left hSame))

/-- The recorder has one file for each part it received. -/
theorem record_files (received : List (Bytes × Bool)) (w : StreamWriter) (n : Nat) :
    (received.foldl (StreamWriter.receive directory) w).files (directory ++ streamFile n) =
      if w.messageReceived ≤ n ∧ n < w.messageReceived + received.length then
        received[n - w.messageReceived]?.map Prod.fst
      else w.files (directory ++ streamFile n) := by
  induction received generalizing w with
  | nil =>
      rw [List.foldl_nil, if_neg]
      simp
  | cons message received ih =>
      rw [List.foldl_cons, ih]
      by_cases hFirst : n = w.messageReceived
      · subst hFirst
        rw [if_neg, if_pos]
        · simp [StreamWriter.receive]
        · simp
        · simp [StreamWriter.receive]
      · have hPath : directory ++ streamFile n ≠ directory ++ streamFile w.messageReceived :=
          path_injective.ne hFirst
        have hIndex : w.messageReceived < n →
            (message :: received)[n - w.messageReceived]? =
              received[n - (w.messageReceived + 1)]? := by
          intro hLater
          obtain ⟨k, rfl⟩ := Nat.exists_eq_add_of_lt hLater
          rw [show w.messageReceived + k + 1 - w.messageReceived = k + 1 by omega,
            show w.messageReceived + k + 1 - (w.messageReceived + 1) = k by omega,
            List.getElem?_cons_succ]
        simp only [StreamWriter.receive, Function.update_of_ne hPath, List.length_cons]
        by_cases hIn : w.messageReceived + 1 ≤ n ∧ n < w.messageReceived + 1 + received.length
        · rw [if_pos hIn, if_pos (by omega), hIndex (by omega)]
        · rw [if_neg hIn, if_neg (by omega)]

/-- The names of the files that are sent are those of the recorder, in order. -/
theorem fileMessages_names :
    fileMessages =
      (flags [9, 4, 4, 4, 1]).zipIdx.map fun item => (streamFile (item.2 + 1), item.1) := by
  decide +kernel

/-- What is recorded is sent again as far as there are files, with the flags of the script. -/
theorem simulateStream_record (hFresh : ∀ n, files (directory ++ streamFile n) = none)
    (received : List (Bytes × Bool)) :
    simulateStream (record directory files received).files (some directory) =
      (received.map Prod.fst).zip (flags [9, 4, 4, 4, 1]) := by
  have hFile : ∀ k, (record directory files received).files (directory ++ streamFile (k + 1)) =
      (received.map Prod.fst)[k]? := by
    intro k
    rw [record, record_files, List.getElem?_map]
    simp only [Nat.le_add_left, true_and, Nat.add_sub_cancel]
    split
    · rfl
    · next hEnd =>
        rw [List.getElem?_eq_none (by omega), hFresh]
        rfl
  have hSend : ∀ (pattern : List Bool) (parts : List Bytes) (start : Nat),
      (∀ k, (record directory files received).files (directory ++ streamFile (start + k + 1)) =
        parts[k]?) →
      (pattern.zipIdx start).flatMap (fun item => sendFileMessage
        (record directory files received).files (some directory) (streamFile (item.2 + 1)) item.1) =
        parts.zip pattern := by
    intro pattern
    induction pattern with
    | nil => simp
    | cons more pattern ih =>
        intro parts start hParts
        have hFirst := hParts 0
        rw [Nat.add_zero] at hFirst
        have hRest := ih parts.tail (start + 1) fun k => by
          rw [show start + 1 + k + 1 = start + (k + 1) + 1 by omega, hParts, List.getElem?_tail]
        rw [List.zipIdx_cons, List.flatMap_cons, hRest]
        show sendFileMessage _ _ (streamFile (start + 1)) more ++ _ = _
        rw [sendFileMessage, Option.getD_some, hFirst]
        cases parts with
        | nil => rfl
        | cons part parts => rfl
  rw [simulateStream, fileMessages_names, List.flatMap_map]
  exact hSend _ _ 0 fun k => by rw [Nat.zero_add, hFile]

/-- A recorded stream is sent again as it was exactly if its messages have nine parts, three
times four parts and one part, or it ends after some of these. -/
theorem replay_iff {messages : List (List Bytes)}
    (hFresh : ∀ n, files (directory ++ streamFile n) = none)
    (hParts : ∀ message ∈ messages, message ≠ []) :
    simulateStream (record directory files (stream messages)).files (some directory) =
      stream messages ↔ messages.map List.length <+: [9, 4, 4, 4, 1] := by
  have hLengths : ∀ n ∈ messages.map List.length, n ≠ 0 := by
    intro n hMem
    obtain ⟨message, hMessage, rfl⟩ := List.mem_map.mp hMem
    exact fun hNone => hParts message hMessage (List.length_eq_zero_iff.mp hNone)
  have hZip : ∀ (sent : List (Bytes × Bool)) (pattern : List Bool),
      (sent.map Prod.fst).zip pattern = sent ↔ sent.map Prod.snd <+: pattern := by
    intro sent
    induction sent with
    | nil => simp
    | cons item sent ih =>
        intro pattern
        cases pattern with
        | nil => simp
        | cons more pattern =>
            rw [List.map_cons, List.map_cons, List.zip_cons_cons, List.cons_prefix_cons, ← ih]
            obtain ⟨part, flag⟩ := item
            simp [eq_comm]
  rw [simulateStream_record hFresh, hZip, flags_stream,
    flags_prefix hLengths (by decide)]

/-- A header in nine parts and an image are sent again; a header in three parts comes back as
the start of a longer message. -/
theorem replayed_sample :
    simulateStream (record [] (fun _ => none)
      (stream [List.replicate 9 [7], List.replicate 4 [8]])).files (some []) =
        stream [List.replicate 9 [7], List.replicate 4 [8]] ∧
    simulateStream (record [] (fun _ => none) (stream [List.replicate 3 [7]])).files (some []) ≠
      stream [List.replicate 3 [7]] := by
  constructor
  · exact (replay_iff (fun _ => rfl) (by decide)).mpr (by decide)
  · exact mt (replay_iff (fun _ => rfl) (by decide)).mp (by decide)

end RoundTrip

end Eiger.Simulator
