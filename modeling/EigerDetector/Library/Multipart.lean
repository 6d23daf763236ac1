import Mathlib.Data.List.Basic
import Mathlib.Data.List.Flatten
import Mathlib.Data.List.Induction
import Mathlib.Data.List.Perm.Subperm

/-! Multipart messages on an ordered link. A part travels with a flag which says
that more parts of the same message follow, and the receiver sees one flat
sequence of flagged parts. -/
namespace Multipart

variable {Part : Type*}

/-- The flat sequence of one message: every part but the last carries the flag. -/
def frame : List Part → List (Part × Bool)
  | [] => []
  | [last] => [(last, false)]
  | part :: next :: rest => (part, true) :: frame (next :: rest)

/-- Several messages one after the other on the same link. -/
def stream (messages : List (List Part)) : List (Part × Bool) :=
  messages.flatMap frame

/-- Parts sent so far of a message whose last part is still to come. -/
def opened (parts : List Part) : List (Part × Bool) :=
  parts.map fun part => (part, true)

@[simp] theorem frame_nil : frame ([] : List Part) = [] := rfl

@[simp] theorem frame_singleton (last : Part) : frame [last] = [(last, false)] := rfl

@[simp] theorem frame_cons_cons (part next : Part) (rest : List Part) :
    frame (part :: next :: rest) = (part, true) :: frame (next :: rest) := rfl

/-- The first part of a message is flagged exactly when something follows it. -/
theorem frame_cons (part : Part) (rest : List Part) :
    frame (part :: rest) = (part, !rest.isEmpty) :: frame rest := by
  cases rest with
  | nil => rfl
  | cons next rest => rfl

theorem frame_concat (parts : List Part) (last : Part) :
    frame (parts ++ [last]) = opened parts ++ [(last, false)] := by
  induction parts with
  | nil => rfl
  | cons part parts ih =>
      rw [List.cons_append, frame_cons, ih]
      simp [opened]

theorem frame_length (parts : List Part) : (frame parts).length = parts.length := by
  induction parts with
  | nil => rfl
  | cons part parts ih => rw [frame_cons, List.length_cons, List.length_cons, ih]

theorem frame_map_fst (parts : List Part) : (frame parts).map Prod.fst = parts := by
  induction parts with
  | nil => rfl
  | cons part parts ih => rw [frame_cons, List.map_cons, ih]

@[simp] theorem opened_nil : opened ([] : List Part) = [] := rfl

theorem opened_map_fst (parts : List Part) : (opened parts).map Prod.fst = parts := by
  simp [opened, Function.comp_def]

theorem opened_concat (parts : List Part) (part : Part) :
    opened (parts ++ [part]) = opened parts ++ [(part, true)] := by
  simp [opened]

@[simp] theorem stream_nil : stream ([] : List (List Part)) = [] := rfl

@[simp] theorem stream_cons (message : List Part) (messages : List (List Part)) :
    stream (message :: messages) = frame message ++ stream messages := rfl

@[simp] theorem stream_append (first second : List (List Part)) :
    stream (first ++ second) = stream first ++ stream second := by
  simp [stream]

theorem stream_concat (messages : List (List Part)) (message : List Part) :
    stream (messages ++ [message]) = stream messages ++ frame message := by
  simp

/-- The part sent last has announced another one. -/
def MidMessage (log : List (Part × Bool)) : Prop := log.getLast?.map Prod.snd = some true

instance (log : List (Part × Bool)) : Decidable (MidMessage log) :=
  inferInstanceAs (Decidable (_ = _))

/-- The log consists of whole messages, each taken from those on offer. -/
def Whole (offered : List (List Part)) (log : List (Part × Bool)) : Prop :=
  ∃ messages, messages.Subperm offered ∧ log = stream messages

/-- Whole messages from those on offer, and then the parts sent so far of one more. -/
def Begun (offered : List (List Part)) (sent : List Part) (log : List (Part × Bool)) : Prop :=
  ∃ messages, messages.Subperm offered ∧ log = stream messages ++ opened sent

theorem not_midMessage_stream (messages : List (List Part)) : ¬ MidMessage (stream messages) := by
  have hFrame : ∀ parts : List Part, ¬ MidMessage (frame parts) := by
    intro parts
    rcases List.eq_nil_or_concat parts with rfl | ⟨front, last, rfl⟩
    · simp [MidMessage]
    · rw [List.concat_eq_append, frame_concat]
      simp [MidMessage]
  induction messages using List.reverseRecOn with
  | nil => simp [MidMessage]
  | append_singleton messages message ih =>
      rw [stream_concat]
      cases message with
      | nil => simpa using ih
      | cons part rest =>
          have hNonempty : frame (part :: rest) ≠ [] := by
            rw [frame_cons]
            exact List.cons_ne_nil _ _
          rw [MidMessage, List.getLast?_append_of_ne_nil _ hNonempty]
          exact hFrame (part :: rest)

theorem Whole.not_midMessage {offered : List (List Part)} {log : List (Part × Bool)}
    (h : Whole offered log) : ¬ MidMessage log := by
  obtain ⟨messages, _, rfl⟩ := h
  exact not_midMessage_stream messages

theorem Begun.midMessage {offered : List (List Part)} {sent : List Part}
    {log : List (Part × Bool)} (h : Begun offered sent log) (hSent : sent ≠ []) :
    MidMessage log := by
  obtain ⟨messages, _, rfl⟩ := h
  rcases List.eq_nil_or_concat sent with rfl | ⟨front, last, rfl⟩
  · exact absurd rfl hSent
  · rw [List.concat_eq_append, opened_concat]
    simp [MidMessage]

theorem begun_nil {offered : List (List Part)} {log : List (Part × Bool)} :
    Begun offered [] log ↔ Whole offered log := by
  simp [Begun, Whole]

theorem whole_nil (offered : List (List Part)) : Whole offered ([] : List (Part × Bool)) :=
  ⟨[], List.nil_subperm, rfl⟩

theorem Whole.mono {offered offered' : List (List Part)} {log : List (Part × Bool)}
    (h : Whole offered log) (hOffered : offered.Subperm offered') : Whole offered' log := by
  obtain ⟨messages, hMessages, rfl⟩ := h
  exact ⟨messages, hMessages.trans hOffered, rfl⟩

theorem Begun.mono {offered offered' : List (List Part)} {sent : List Part}
    {log : List (Part × Bool)} (h : Begun offered sent log) (hOffered : offered.Subperm offered') :
    Begun offered' sent log := by
  obtain ⟨messages, hMessages, rfl⟩ := h
  exact ⟨messages, hMessages.trans hOffered, rfl⟩

theorem Begun.send {offered : List (List Part)} {sent : List Part} {log : List (Part × Bool)}
    (h : Begun offered sent log) (part : Part) :
    Begun offered (sent ++ [part]) (log ++ [(part, true)]) := by
  obtain ⟨messages, hMessages, rfl⟩ := h
  exact ⟨messages, hMessages, by rw [opened_concat, List.append_assoc]⟩

/-- The last part completes the message that was begun. -/
theorem Begun.complete {offered : List (List Part)} {sent : List Part}
    {log : List (Part × Bool)} (h : Begun offered sent log) (part : Part) :
    Whole ((sent ++ [part]) :: offered) (log ++ [(part, false)]) := by
  obtain ⟨messages, hMessages, rfl⟩ := h
  refine ⟨messages ++ [sent ++ [part]], ?_, ?_⟩
  · have hPerm : (messages ++ [sent ++ [part]]).Perm ((sent ++ [part]) :: messages) :=
      List.perm_append_singleton _ _
    exact hPerm.subperm.trans ((List.subperm_cons _).mpr hMessages)
  · rw [stream_concat, frame_concat, List.append_assoc]

/-- A message sent as a whole. -/
theorem Whole.send {offered : List (List Part)} {log : List (Part × Bool)}
    (h : Whole offered log) (message : List Part) :
    Whole (message :: offered) (log ++ frame message) := by
  obtain ⟨messages, hMessages, rfl⟩ := h
  refine ⟨messages ++ [message], ?_, (stream_concat _ _).symm⟩
  exact (List.perm_append_singleton _ _).subperm.trans ((List.subperm_cons _).mpr hMessages)

/-- What is left of a message after some of its parts: the next part is flagged
exactly when it is not the last. -/
theorem frame_split {parts sent : List Part} {part : Part} {more : Bool}
    {left : List (Part × Bool)} (h : opened sent ++ (part, more) :: left = frame parts) :
    (left = [] ∧ more = false ∧ parts = sent ++ [part]) ∨
      (left ≠ [] ∧ more = true ∧ opened (sent ++ [part]) ++ left = frame parts) := by
  induction sent generalizing parts with
  | nil =>
      cases parts with
      | nil => cases h
      | cons first rest =>
          rw [frame_cons] at h
          obtain ⟨hFirst, hLeft⟩ := List.cons.inj h
          cases hFirst
          cases rest with
          | nil => exact .inl ⟨hLeft, rfl, rfl⟩
          | cons next rest =>
              refine .inr ⟨?_, rfl, ?_⟩
              · rw [hLeft, frame_cons]
                exact List.cons_ne_nil _ _
              · rw [hLeft, frame_cons part]
                rfl
  | cons first sent ih =>
      cases parts with
      | nil => cases h
      | cons first' rest =>
          rw [frame_cons] at h
          obtain ⟨hFirst, hRest⟩ := List.cons.inj h
          obtain ⟨rfl, hMore⟩ := Prod.mk.inj hFirst
          rcases ih hRest with ⟨hLeft, hLast, rfl⟩ | ⟨hLeft, hMid, hFrame⟩
          · exact .inl ⟨hLeft, hLast, rfl⟩
          · refine .inr ⟨hLeft, hMid, ?_⟩
            rw [frame_cons, ← hFrame, ← hMore]
            rfl

/-- One more part goes out through a gate. The log stays a sequence of messages
if the gate is open in the middle of a message exactly on that message's log. -/
theorem send_part {offered : List (List Part)} {parts sent : List Part} {part : Part}
    {more : Bool} {left log : List (Part × Bool)} {gate : Prop} [Decidable gate]
    (hParts : opened sent ++ (part, more) :: left = frame parts)
    (hLog : Whole offered log ∨ Begun offered sent log)
    (hGate : sent ≠ [] → (gate ↔ MidMessage log)) :
    Whole offered (log ++ if gate then [(part, more)] else []) ∨
      (gate ∧ (left = [] → Whole (parts :: offered) (log ++ [(part, more)])) ∧
        (left ≠ [] → Begun offered (sent ++ [part]) (log ++ [(part, more)]))) := by
  by_cases hOpen : gate
  · have hBegun : Begun offered sent log := by
      rcases hLog with hWhole | hBegun
      · by_cases hNil : sent = []
        · rw [hNil]
          exact begun_nil.mpr hWhole
        · exact absurd ((hGate hNil).mp hOpen) hWhole.not_midMessage
      · exact hBegun
    rcases frame_split hParts with ⟨hLeft, rfl, rfl⟩ | ⟨hLeft, rfl, _⟩
    · exact .inr ⟨hOpen, fun _ => hBegun.complete part, fun h => absurd hLeft h⟩
    · exact .inr ⟨hOpen, fun h => absurd h hLeft, fun _ => hBegun.send part⟩
  · rw [if_neg hOpen, List.append_nil]
    rcases hLog with hWhole | hBegun
    · exact .inl hWhole
    · by_cases hNil : sent = []
      · subst hNil
        exact .inl (begun_nil.mp hBegun)
      · exact absurd ((hGate hNil).mpr (hBegun.midMessage hNil)) hOpen

/-- Split off the first message whose last part has arrived. -/
def takeMessage : List (Part × Bool) → Option (List Part × List (Part × Bool))
  | [] => none
  | (part, false) :: rest => some ([part], rest)
  | (part, true) :: rest => (takeMessage rest).map fun (parts, left) => (part :: parts, left)

theorem takeMessage_some {log rest : List (Part × Bool)} {parts : List Part}
    (h : takeMessage log = some (parts, rest)) : parts ≠ [] ∧ log = frame parts ++ rest := by
  induction log generalizing parts rest with
  | nil => cases h
  | cons head log ih =>
      obtain ⟨part, more⟩ := head
      cases more with
      | false =>
          cases h
          exact ⟨List.cons_ne_nil _ _, rfl⟩
      | true =>
          obtain ⟨⟨tail, left⟩, hTail, hParts⟩ := Option.map_eq_some_iff.mp h
          cases hParts
          obtain ⟨hNonempty, rfl⟩ := ih hTail
          obtain ⟨next, tail, rfl⟩ := List.exists_cons_of_ne_nil hNonempty
          exact ⟨List.cons_ne_nil _ _, rfl⟩

theorem takeMessage_frame {parts : List Part} (h : parts ≠ []) (rest : List (Part × Bool)) :
    takeMessage (frame parts ++ rest) = some (parts, rest) := by
  induction parts with
  | nil => exact absurd rfl h
  | cons part parts ih =>
      cases parts with
      | nil => rfl
      | cons next parts =>
          rw [frame_cons_cons, List.cons_append, takeMessage, ih (List.cons_ne_nil _ _)]
          rfl

/-- A log starts with one message only. -/
theorem frame_append_inj {parts parts' : List Part} {rest rest' : List (Part × Bool)}
    (hParts : parts ≠ []) (hParts' : parts' ≠ [])
    (h : frame parts ++ rest = frame parts' ++ rest') : parts = parts' ∧ rest = rest' := by
  have hTake := takeMessage_frame hParts rest
  rw [h, takeMessage_frame hParts' rest'] at hTake
  cases hTake
  exact ⟨rfl, rfl⟩

/-- Messages at the start of a log of messages are the first of them. -/
theorem stream_prefix {messages messages' : List (List Part)} (h : ∀ m ∈ messages, m ≠ [])
    (h' : ∀ m ∈ messages', m ≠ []) :
    stream messages <+: stream messages' ↔ messages <+: messages' := by
  induction messages generalizing messages' with
  | nil => simp
  | cons message messages ih =>
      have hMessage := h message List.mem_cons_self
      cases messages' with
      | nil =>
          obtain ⟨part, parts, rfl⟩ := List.exists_cons_of_ne_nil hMessage
          simp [frame_cons]
      | cons message' messages' =>
          have hRest := ih (fun m hMem => h m (List.mem_cons_of_mem _ hMem))
            fun m hMem => h' m (List.mem_cons_of_mem _ hMem)
          rw [List.cons_prefix_cons, ← hRest]
          constructor
          · rintro ⟨tail, hTail⟩
            rw [stream_cons, stream_cons, List.append_assoc] at hTail
            obtain ⟨hSame, hTail⟩ := frame_append_inj hMessage (h' message' List.mem_cons_self) hTail
            exact ⟨hSame, tail, hTail⟩
          · rintro ⟨rfl, tail, hTail⟩
            refine ⟨tail, ?_⟩
            rw [stream_cons, stream_cons, List.append_assoc, hTail]

theorem frame_map {Part' : Type*} (f : Part → Part') (parts : List Part) :
    frame (parts.map f) = (frame parts).map fun item => (f item.1, item.2) := by
  induction parts with
  | nil => rfl
  | cons part parts ih =>
      rw [List.map_cons, frame_cons, frame_cons, ih, List.map_cons, List.isEmpty_map]

theorem stream_map {Part' : Type*} (f : Part → Part') (messages : List (List Part)) :
    stream (messages.map (List.map f)) = (stream messages).map fun item => (f item.1, item.2) := by
  induction messages with
  | nil => rfl
  | cons message messages ih =>
      rw [List.map_cons, stream_cons, stream_cons, List.map_append, ih, frame_map]

/-- The flags of messages of these numbers of parts. -/
def flags (lengths : List Nat) : List Bool :=
  (stream (lengths.map fun n => List.replicate n ())).map Prod.snd

theorem flags_stream (messages : List (List Part)) :
    (stream messages).map Prod.snd = flags (messages.map List.length) := by
  have hUnits : messages.map (List.map fun _ => ()) =
      (messages.map List.length).map fun n => List.replicate n () := by
    rw [List.map_map]
    refine List.map_congr_left fun message _ => ?_
    exact List.map_const' ..
  rw [flags, ← hUnits, stream_map, List.map_map]
  rfl

/-- The flags tell how many parts each message has. -/
theorem flags_prefix {lengths lengths' : List Nat} (h : ∀ n ∈ lengths, n ≠ 0)
    (h' : ∀ n ∈ lengths', n ≠ 0) : flags lengths <+: flags lengths' ↔ lengths <+: lengths' := by
  let units := List.map fun n => List.replicate n ()
  have hUnits : ∀ ls : List Nat, (∀ n ∈ ls, n ≠ 0) → ∀ m ∈ units ls, m ≠ [] := by
    intro ls hPositive m hMem
    obtain ⟨n, hn, rfl⟩ := List.mem_map.mp hMem
    simpa using hPositive n hn
  have hSnd : Function.Injective (Prod.snd : Unit × Bool → Bool) := by
    rintro ⟨_, b⟩ ⟨_, b'⟩ hSame
    exact congrArg (Prod.mk ()) hSame
  have hReplicate : Function.Injective fun n => List.replicate n () :=
    List.replicate_left_injective ()
  rw [flags, flags, List.prefix_map_iff_of_injective hSnd,
    stream_prefix (hUnits lengths h) (hUnits lengths' h'),
    List.prefix_map_iff_of_injective hReplicate]

/-- The messages of a log whose last part is there, each with all of its parts. -/
def completed : List (Part × Bool) → List (List Part)
  | [] => []
  | (part, false) :: rest => [part] :: completed rest
  | (part, true) :: rest =>
      match completed rest with
      | [] => []
      | message :: messages => (part :: message) :: messages

@[simp] theorem completed_nil : completed ([] : List (Part × Bool)) = [] := rfl

theorem completed_frame_append {parts : List Part} (h : parts ≠ []) (rest : List (Part × Bool)) :
    completed (frame parts ++ rest) = parts :: completed rest := by
  induction parts with
  | nil => exact absurd rfl h
  | cons part parts ih =>
      cases parts with
      | nil => rfl
      | cons next parts =>
          rw [frame_cons_cons, List.cons_append, completed, ih (List.cons_ne_nil _ _)]

/-- Whole messages in front of a log are all completed. -/
theorem completed_stream_append {messages : List (List Part)} (h : ∀ m ∈ messages, m ≠ [])
    (rest : List (Part × Bool)) :
    completed (stream messages ++ rest) = messages ++ completed rest := by
  induction messages with
  | nil => rfl
  | cons message messages ih =>
      have hRest := ih fun m hMember => h m (List.mem_cons_of_mem _ hMember)
      rw [stream_cons, List.append_assoc, completed_frame_append (h message List.mem_cons_self),
        hRest, List.cons_append]

/-- There are as many of them as there are parts without the flag. -/
theorem completed_length (log : List (Part × Bool)) :
    (completed log).length = log.countP fun item => !item.2 := by
  induction log with
  | nil => rfl
  | cons head log ih =>
      obtain ⟨part, more⟩ := head
      cases more with
      | false => simp [completed, ih]
      | true =>
          have hCount : ((part, true) :: log).countP (fun item => !item.2) =
              log.countP fun item => !item.2 := by
            simp
          rw [hCount, ← ih, completed]
          split
          · next hNone => rw [hNone]
          · next hSome => rw [hSome, List.length_cons, List.length_cons]

end Multipart
