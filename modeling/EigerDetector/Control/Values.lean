import EigerDetector.Library.CharArray
import Mathlib.Data.List.Infix
import Mathlib.Data.Rat.Defs

/-! The values the control server gets from the detector, and the options it shows by
their index. What raises in Python has an exception here. -/
namespace Eiger.Server

inductive PyException where
  | requestException
  | typeError
  | keyError
  | attributeError
  | indexError
  | valueError
  | structError
  | overflowError
  | unboundLocalError
  | recursionError
  | parameterTreeError
  deriving DecidableEq

/-- What `json.loads` returns. `null` is `None`, a finite float is a rational number,
and the members of an object have different names. -/
inductive Json where
  | null
  | bool (b : Bool)
  | int (n : Int)
  | float (q : Rat)
  | str (text : String)
  | list (elements : List Json)
  | dict (members : List (String × Json))

/-- `members[key] = value`. -/
def setMember (key : String) (value : Json) : List (String × Json) → List (String × Json)
  | [] => [(key, value)]
  | (name, old) :: members =>
      if name = key then (name, value) :: members else (name, old) :: setMember key value members

namespace Json

def isStr (text : String) : Json → Bool
  | str t => t = text
  | _ => false

def isDict : Json → Bool
  | dict _ => true
  | _ => false

/-- `item[key]` for a text as the key. -/
def subscript (key : String) : Json → Except PyException Json
  | dict members =>
      match members.lookup key with
      | some value => .ok value
      | none => .error .keyError
  | _ => .error .typeError

/-- `key in item`, which finds a text in a text and an element in a list. -/
def contains (key : String) : Json → Except PyException Bool
  | dict members => .ok (members.lookup key).isSome
  | str text => .ok (decide (key.toList <:+: text.toList))
  | list elements => .ok (elements.any (isStr key))
  | _ => .error .typeError

/-- `get_value`. -/
def getValue (item : Json) : Except PyException Json := do
  if ← item.contains "value" then item.subscript "value" else pure null

/-- `triggers < value`. -/
def lessThan (triggers : Nat) : Json → Except PyException Bool
  | int n => .ok (decide ((triggers : Int) < n))
  | bool b => .ok (decide (triggers < b.toNat))
  | float q => .ok (decide ((triggers : Rat) < q))
  | _ => .error .typeError

/-- The elements that are texts. Others match no parameter and are dropped here, where Python
raises an exception for one that cannot be hashed, when the list is made a set. -/
def names : List Json → List String
  | [] => []
  | str text :: elements => text :: names elements
  | _ :: elements => names elements

end Json

section Integers

def isSpace (c : Char) : Bool :=
  decide (9 ≤ c.toNat ∧ c.toNat ≤ 13 ∨ 28 ≤ c.toNat ∧ c.toNat ≤ 32 ∨
    c.toNat ∈ [133, 160, 5760, 8232, 8233, 8239, 8287, 12288] ∨
    8192 ≤ c.toNat ∧ c.toNat ≤ 8202)

/-- Decimal digits, with single underscores between them. Only ASCII digits are read here, where
Python also reads the decimal digits of other scripts. -/
def decimal (value : Nat) : List Char → Option Nat
  | [] => none
  | [c] => if c.isDigit then some (10 * value + (c.toNat - 48)) else none
  | c :: '_' :: cs => if c.isDigit then decimal (10 * value + (c.toNat - 48)) cs else none
  | c :: cs => if c.isDigit then decimal (10 * value + (c.toNat - 48)) cs else none

/-- `int(text)`, for a text whose digits are ASCII digits. -/
def intOfText (text : String) : Option Int :=
  let stripped := ((text.toList.dropWhile isSpace).reverse.dropWhile isSpace).reverse
  match stripped with
  | '-' :: digits => (decimal 0 digits).map fun n => -(n : Int)
  | '+' :: digits => (decimal 0 digits).map Int.ofNat
  | digits => (decimal 0 digits).map Int.ofNat

/-- `int(value)`, which truncates a float. -/
def toInt : Json → Except PyException Int
  | .int n => .ok n
  | .bool b => .ok b.toNat
  | .float q => .ok (q.num.tdiv q.den)
  | .str text =>
      match intOfText text with
      | some n => .ok n
      | none => .error .valueError
  | _ => .error .typeError

/-- `time.sleep(duration)`: the time is no less than zero, and its nanoseconds fit in 64 bits.
Python rounds to nanoseconds first, which differs within one of them of these bounds. -/
def sleep (duration : Json) : Except PyException Unit :=
  let sleepFor (seconds : Rat) : Except PyException Unit :=
    if seconds < 0 then .error .valueError
    else if seconds * 10 ^ 9 < 2 ^ 63 then .ok ()
    else .error .overflowError
  match duration with
  | .int n => sleepFor n
  | .bool b => sleepFor b.toNat
  | .float q => sleepFor q
  | _ => .error .typeError

/-- `elements[i]`, which counts from the end for a negative index. -/
def atIndex {A : Type} (elements : List A) (i : Int) : Except PyException A :=
  let position := if i < 0 then i + elements.length else i
  if position < 0 then .error .indexError
  else
    match elements[position.toNat]? with
    | some a => .ok a
    | none => .error .indexError

end Integers

/-- An enumeration whose values are shown by their index. -/
structure EigerOption where
  options : List String

namespace EigerOption

def getAllowedValues (o : EigerOption) : Json :=
  .list ((List.range o.options.length).map fun i => .str (toString i))

def getOption (o : EigerOption) (idx : Json) : Except PyException String := do
  atIndex o.options (← toInt idx)

/-- `str(options.index(val))`. -/
def getIndex (o : EigerOption) (val : Json) : Except PyException String :=
  match val with
  | .str text =>
      if text ∈ o.options then .ok (toString (o.options.idxOf text)) else .error .valueError
  | _ => .error .valueError

end EigerOption

def option_config_options : List (String × EigerOption) :=
  [("compression", ⟨["lz4", "bslz4"]⟩), ("trigger_mode", ⟨["ints", "inte", "exts", "exte"]⟩),
    ("header_detail", ⟨["all", "basic", "none"]⟩), ("mode", ⟨["disabled", "enabled"]⟩)]

/-- The item is one of `option_config_items`. -/
def IsOption (item : String) : Prop := (option_config_options.lookup item).isSome

instance (item : String) : Decidable (IsOption item) := inferInstanceAs (Decidable (_ = true))

/-- `intercept_reply`: show an option by its index. -/
def interceptReply (item : String) (reply : Json) : Except PyException Json :=
  match option_config_options.lookup item with
  | none => .ok reply
  | some o => do
      let value ← reply.subscript "value"
      let idx ← o.getIndex value
      match reply with
      | .dict members => pure (.dict (setMember "allowed_values" o.getAllowedValues
          (setMember "value" (.str idx) members)))
      | _ => .error .typeError

theorem interceptReply_of_not_option {item : String} (h : ¬ IsOption item) (reply : Json) :
    interceptReply item reply = .ok reply := by
  have hNone : option_config_options.lookup item = none := by
    rwa [IsOption, Bool.not_eq_true, Option.isSome_eq_false_iff, Option.isNone_iff_eq_none] at h
  rw [interceptReply, hNone]

example : intOfText " +1_0 " = some 10 ∧ intOfText "1__0" = none ∧ intOfText "-3" = some (-3) := by
  decide +kernel

end Eiger.Server
