import Mathlib.Data.List.Basic
import Mathlib.Data.List.TakeWhile

/-! Fixed-size character arrays as C programs use them: text is what stands
before the first NUL, and `strncpy` pads with NULs but need not leave one. -/
namespace CharArrays

abbrev Bytes := List UInt8

/-- What a `const char*` reader sees of a byte string. -/
def cString (text : Bytes) : Bytes := text.takeWhile (· ≠ 0)

/-- Text without an embedded NUL, which a `const char*` reader sees whole. -/
def NulFree (text : Bytes) : Prop := 0 ∉ text

instance (text : Bytes) : Decidable (NulFree text) :=
  inferInstanceAs (Decidable (0 ∉ text))

theorem cString_of_nulFree {text : Bytes} (h : NulFree text) : cString text = text := by
  apply List.takeWhile_eq_self_iff.mpr
  intro b hb
  simp only [decide_not, Bool.not_eq_eq_eq_not, Bool.not_true, decide_eq_false_iff_not]
  rintro rfl
  exact h hb

theorem cString_nulFree (text : Bytes) : NulFree (cString text) := by
  intro h
  simpa using List.mem_takeWhile_imp h

/-- A `char` array of a fixed size. -/
structure CharArray (size : Nat) where
  bytes : Bytes
  length_eq : bytes.length = size

namespace CharArray

variable {size : Nat}

/-- The text in the array, for a reader that stops at the first NUL. -/
def text (a : CharArray size) : Bytes := cString a.bytes

/-- Some byte of the array is NUL, so a reader stops inside it. -/
def Terminated (a : CharArray size) : Prop := 0 ∈ a.bytes

instance (a : CharArray size) : Decidable a.Terminated :=
  inferInstanceAs (Decidable (0 ∈ a.bytes))

/-- `a[i] = value`. -/
def set (a : CharArray size) (i : Nat) (value : UInt8) : CharArray size :=
  ⟨a.bytes.set i value, by rw [List.length_set, a.length_eq]⟩

end CharArray

/-- `strncpy(dst, src, size)` into an array of that size. -/
def strncpy (size : Nat) (src : Bytes) : CharArray size :=
  ⟨(src ++ List.replicate size 0).take size, by simp⟩

theorem strncpy_bytes_of_le {size : Nat} {src : Bytes} (h : src.length ≤ size) :
    (strncpy size src).bytes = src ++ List.replicate (size - src.length) 0 := by
  simp [strncpy, List.take_append, List.take_of_length_le h, List.take_replicate]

theorem cString_append_zero {text : Bytes} (h : NulFree text) (rest : Bytes) :
    cString (text ++ 0 :: rest) = text := by
  have hAll : ∀ b ∈ text, (decide (b ≠ 0)) = true := by
    intro b hb
    simp only [ne_eq, decide_not, Bool.not_eq_eq_eq_not, Bool.not_true, decide_eq_false_iff_not]
    rintro rfl
    exact h hb
  rw [cString, List.takeWhile_append_of_pos hAll]
  simp

/-- Text which leaves room for a terminator is read back unchanged. -/
theorem text_strncpy {size : Nat} {src : Bytes} (hNul : NulFree src) (h : src.length < size) :
    (strncpy size src).text = src := by
  obtain ⟨k, hk⟩ : ∃ k, size - src.length = k + 1 := ⟨size - src.length - 1, by omega⟩
  rw [CharArray.text, strncpy_bytes_of_le (by omega), hk, List.replicate_succ]
  exact cString_append_zero hNul _

theorem strncpy_terminated {size : Nat} {src : Bytes} (h : src.length < size) :
    (strncpy size src).Terminated := by
  rw [CharArray.Terminated, strncpy_bytes_of_le (by omega)]
  exact List.mem_append_right _ (List.mem_replicate.mpr ⟨by omega, rfl⟩)

/-- Text of the full size leaves no terminator. -/
theorem strncpy_terminated_iff {size : Nat} {src : Bytes} (hNul : NulFree src) :
    (strncpy size src).Terminated ↔ src.length < size := by
  refine ⟨fun hMem => ?_, strncpy_terminated⟩
  by_contra hLong
  have hBytes : (strncpy size src).bytes = src.take size := by
    show (src ++ List.replicate size 0).take size = _
    rw [List.take_append_of_le_length (by omega)]
  rw [CharArray.Terminated, hBytes] at hMem
  exact hNul (List.mem_of_mem_take hMem)

theorem terminated_set_zero {size i : Nat} (a : CharArray size) (h : i < size) :
    (a.set i 0).Terminated := by
  have hInside : i < a.bytes.length := by
    rw [a.length_eq]
    exact h
  exact List.mem_set hInside 0

/-- A terminator in the first place leaves no text. -/
theorem text_set_zero {size : Nat} (a : CharArray size) : (a.set 0 0).text = [] := by
  show cString (a.bytes.set 0 0) = []
  cases a.bytes <;> rfl

/-- A terminator in the last place cuts the text off there. -/
theorem text_strncpy_terminated {src : Bytes} (hNul : NulFree src) (size : Nat) :
    ((strncpy (size + 1) src).set size 0).text = src.take size := by
  have hBytes : ((strncpy (size + 1) src).set size 0).bytes =
      (src ++ List.replicate (size + 1) 0).take size ++ [0] := by
    show ((src ++ List.replicate (size + 1) 0).take (size + 1)).set size 0 = _
    rw [List.set_eq_take_append_cons_drop, if_pos (by simp), List.take_take,
      Nat.min_eq_left (Nat.le_succ size), List.drop_eq_nil_of_le (by simp)]
  have hFree : NulFree (src.take size) := fun hMem => hNul (List.mem_of_mem_take hMem)
  rw [CharArray.text, hBytes, List.take_append, List.take_replicate, List.append_assoc]
  cases min (size - src.length) (size + 1) with
  | zero => exact cString_append_zero hFree []
  | succ k => exact cString_append_zero hFree _

/-- The bytes from some address on. -/
def Memory := Nat → UInt8

namespace Memory

/-- Copy bytes to the start of the memory. -/
def store (data : Bytes) (m : Memory) : Memory := fun i => data.getD i (m i)

/-- The first bytes of the memory. -/
def load (m : Memory) (n : Nat) : Bytes := (List.range n).map fun i => m i

theorem load_store (data : Bytes) (m : Memory) : (m.store data).load data.length = data := by
  apply List.ext_getElem
  · rw [load, List.length_map, List.length_range]
  · intro i _ hi
    simp [load, store, hi]

end Memory

end CharArrays
