import Mathlib.Data.List.Basic
import Mathlib.Tactic.SplitIfs

/-! Texts with placeholders. A dollar sign in front of a name, in braces or not, stands for the
value of the name, and two dollar signs stand for one. A text is scanned character by character,
or put together from pieces. -/
namespace Templates

abbrev Text := List Char

/-- Values by name. The first entry with a name counts. -/
abbrev Macros := List (Text × Text)

def startsName (c : Char) : Bool := c.isAlpha || c = '_'

def inName (c : Char) : Bool := c.isAlphanum || c = '_'

def isName : Text → Bool
  | [] => false
  | c :: cs => startsName c && cs.all inName

/-- What is being scanned: the text itself, what comes after a dollar sign, or a name. -/
inductive Scanning where
  | plain
  | delimiter
  | named (name : Text)
  | braced (name : Text)

/-- The rest of a text with its values in place, unless a dollar sign has neither a name nor
another one after it, or a name has no value. -/
def scan (macros : Macros) : Scanning → Text → Option Text
  | .plain, [] => some []
  | .plain, c :: cs =>
      if c = '$' then scan macros .delimiter cs else (scan macros .plain cs).map (c :: ·)
  | .delimiter, [] => none
  | .delimiter, c :: cs =>
      if c = '$' then (scan macros .plain cs).map ('$' :: ·)
      else if c = '\x7b' then scan macros (.braced []) cs
      else if startsName c then scan macros (.named [c]) cs
      else none
  | .named name, [] => macros.lookup name
  | .named name, c :: cs =>
      if inName c then scan macros (.named (name ++ [c])) cs
      else (macros.lookup name).bind fun value =>
        if c = '$' then (scan macros .delimiter cs).map (value ++ ·)
        else (scan macros .plain cs).map fun rest => value ++ c :: rest
  | .braced _, [] => none
  | .braced name, c :: cs =>
      if c = '\x7d' ∧ name ≠ [] then
        (macros.lookup name).bind fun value => (scan macros .plain cs).map (value ++ ·)
      else if isName (name ++ [c]) then scan macros (.braced (name ++ [c])) cs
      else none

def substitute (macros : Macros) (template : Text) : Option Text := scan macros .plain template

inductive Piece where
  | plain (text : Text)
  | dollar
  | named (name : Text)
  | braced (name : Text)

namespace Piece

def render : Piece → Text
  | plain text => text
  | dollar => ['$', '$']
  | named name => '$' :: name
  | braced name => '$' :: '\x7b' :: (name ++ ['\x7d'])

def value (macros : Macros) : Piece → Option Text
  | plain text => some text
  | dollar => some ['$']
  | named name => macros.lookup name
  | braced name => macros.lookup name

/-- The piece is scanned as such in front of this text. -/
def separate (rest : Text) : Piece → Bool
  | plain text => text.all (· ≠ '$')
  | dollar => true
  | named name => isName name && rest.head?.all fun c => !inName c
  | braced name => isName name

end Piece

def render (pieces : List Piece) : Text := pieces.flatMap Piece.render

/-- The values of the pieces, one after the other. -/
def fill (macros : Macros) : List Piece → Option Text
  | [] => some []
  | piece :: pieces =>
      (piece.value macros).bind fun value => (fill macros pieces).map (value ++ ·)

def separate : List Piece → Bool
  | [] => true
  | piece :: pieces => piece.separate (render pieces) && separate pieces

variable {macros : Macros} {text name : Text} {pieces : List Piece}

theorem scan_plain_append (h : ∀ c ∈ text, c ≠ '$') (rest : Text) :
    scan macros .plain (text ++ rest) = (scan macros .plain rest).map (text ++ ·) := by
  induction text with
  | nil => exact Option.map_id'.symm
  | cons c text ih =>
      obtain ⟨hPlain, hText⟩ := List.forall_mem_cons.mp h
      rw [List.cons_append, scan, if_neg hPlain, ih hText, Option.map_map]
      rfl

theorem scan_named_append (h : ∀ c ∈ text, inName c = true) (rest : Text) :
    scan macros (.named name) (text ++ rest) = scan macros (.named (name ++ text)) rest := by
  induction text generalizing name with
  | nil => rw [List.append_nil, List.nil_append]
  | cons c text ih =>
      obtain ⟨hName, hText⟩ := List.forall_mem_cons.mp h
      rw [List.cons_append, scan, if_pos hName, ih hText, List.append_assoc, List.singleton_append]

/-- A name ends where no more of it follows. -/
theorem scan_named_stop {rest : Text} (h : rest.head?.all (fun c => !inName c) = true) :
    scan macros (.named name) rest =
      (macros.lookup name).bind fun value => (scan macros .plain rest).map (value ++ ·) := by
  cases rest with
  | nil => simp [scan]
  | cons c rest =>
      have hStop : ¬ inName c = true := by simpa using h
      simp only [scan, if_neg hStop]
      congr 1
      funext value
      split_ifs
      · rfl
      · rw [Option.map_map]
        rfl

theorem scan_braced_append (hName : name ≠ []) (hFirst : isName name = true)
    (h : ∀ c ∈ text, inName c = true) (rest : Text) :
    scan macros (.braced name) (text ++ '\x7d' :: rest) =
      (macros.lookup (name ++ text)).bind fun value =>
        (scan macros .plain rest).map (value ++ ·) := by
  induction text generalizing name with
  | nil => rw [List.nil_append, scan, if_pos ⟨rfl, hName⟩, List.append_nil]
  | cons c text ih =>
      obtain ⟨hIn, hText⟩ := List.forall_mem_cons.mp h
      have hOpen : ¬ (c = '\x7d' ∧ name ≠ []) := by
        rintro ⟨rfl, _⟩
        exact absurd hIn (by decide)
      have hLonger : isName (name ++ [c]) = true := by
        cases name with
        | nil => cases hFirst
        | cons first name => simpa [isName, hIn] using hFirst
      rw [List.cons_append, scan, if_neg hOpen, if_pos hLonger, ih (by simp) hLonger hText,
        List.append_assoc, List.singleton_append]

/-- A piece is scanned to its value. -/
theorem scan_piece {piece : Piece} {rest : Text} (h : piece.separate rest = true) :
    scan macros .plain (piece.render ++ rest) =
      (piece.value macros).bind fun value => (scan macros .plain rest).map (value ++ ·) := by
  cases piece with
  | plain text =>
      have hPlain : ∀ c ∈ text, c ≠ '$' := by simpa [Piece.separate] using h
      exact scan_plain_append hPlain rest
  | dollar => rfl
  | named name =>
      obtain ⟨hName, hStop⟩ := Bool.and_eq_true_iff.mp h
      cases name with
      | nil => cases hName
      | cons c name =>
          obtain ⟨hFirst, hAll⟩ := Bool.and_eq_true_iff.mp hName
          have hDollar : c ≠ '$' := by
            rintro rfl
            exact absurd hFirst (by decide)
          have hBrace : c ≠ '\x7b' := by
            rintro rfl
            exact absurd hFirst (by decide)
          rw [Piece.render, List.cons_append, List.cons_append, scan, if_pos rfl, scan,
            if_neg hDollar, if_neg hBrace, if_pos hFirst,
            scan_named_append (List.all_eq_true.mp hAll), scan_named_stop hStop]
          rfl
  | braced name =>
      cases name with
      | nil => cases h
      | cons c name =>
          obtain ⟨hFirst, hAll⟩ := Bool.and_eq_true_iff.mp h
          have hOpen : isName [c] = true := by simpa [isName] using hFirst
          have hScanned : scan macros (.braced [c]) (name ++ '\x7d' :: rest) =
              (macros.lookup ([c] ++ name)).bind fun value =>
                (scan macros .plain rest).map (value ++ ·) :=
            scan_braced_append (by simp) hOpen (List.all_eq_true.mp hAll) rest
          have hSame : Piece.render (.braced (c :: name)) ++ rest =
              '$' :: '\x7b' :: c :: (name ++ '\x7d' :: rest) := by simp [Piece.render]
          rw [hSame, scan, if_pos rfl, scan, if_neg (by decide), if_pos rfl, scan,
            if_neg (fun hEnd => hEnd.2 rfl), List.nil_append, if_pos hOpen, hScanned]
          rfl

/-- A template put together from separate pieces is filled piece by piece. -/
theorem substitute_render (h : separate pieces = true) :
    substitute macros (render pieces) = fill macros pieces := by
  rw [substitute]
  induction pieces with
  | nil => rfl
  | cons piece pieces ih =>
      obtain ⟨hPiece, hRest⟩ := Bool.and_eq_true_iff.mp h
      have hSplit : render (piece :: pieces) = piece.render ++ render pieces := List.flatMap_cons
      rw [hSplit, scan_piece hPiece, ih hRest, fill]

theorem fill_append {macros : Macros} (first second : List Piece) :
    fill macros (first ++ second) = (fill macros first).bind fun value =>
      (fill macros second).map (value ++ ·) := by
  induction first with
  | nil => simp [fill]
  | cons piece first ih =>
      rw [List.cons_append, fill, fill, ih]
      cases piece.value macros with
      | none => rfl
      | some value =>
          cases fill macros first with
          | none => rfl
          | some rest => simp [Function.comp_def, List.append_assoc]

end Templates
