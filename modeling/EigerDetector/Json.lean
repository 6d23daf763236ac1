import EigerDetector.Library.CharArray
import EigerDetector.Library.FixedWidth

/-! The JSON documents the applications exchange, with the accessors of the
vendored rapidjson. An accessor whose assertion fails ends the process: it has
no result here. -/
namespace Rapidjson

open CharArrays FixedWidth

/-- A parsed value. Members keep the order of the text and may repeat. Integer
literals outside 64 bits are stored as doubles, which no accessor below reads. -/
inductive Value where
  | null
  | bool (b : Bool)
  | int (n : Int)
  | double (bits : UInt64)
  | string (text : Bytes)
  | array (elements : List Value)
  | object (members : List (Bytes × Value))

namespace Value

/-- `FindMember`: the first member of that name. -/
def findMember (key : Bytes) : List (Bytes × Value) → Option Value
  | [] => none
  | (name, value) :: rest => if name = key then some value else findMember key rest

/-- `operator[]` with a name: asserts an object which has the member. -/
def member (key : Bytes) : Value → Option Value
  | object members => findMember key members
  | _ => none

/-- `HasMember`: asserts an object. -/
def hasMember (key : Bytes) : Value → Option Bool
  | object members => some (findMember key members).isSome
  | _ => none

/-- `AddMember`: asserts an object and appends without looking for the name. -/
def addMember (doc : Value) (key : Bytes) (value : Value) : Option Value :=
  match doc with
  | object members => some (object (members ++ [(key, value)]))
  | _ => none

/-- `GetString`, copied into a `std::string`. -/
def getString : Value → Option Bytes
  | string text => some (cString text)
  | _ => none

/-- `GetInt`: asserts an integer that fits 32 bits. -/
def getInt : Value → Option Int
  | int n => if minInt32 ≤ n ∧ n ≤ maxInt32 then some n else none
  | _ => none

/-- `GetInt64`: asserts an integer that fits 64 bits. -/
def getInt64 : Value → Option Int
  | int n => if minInt64 ≤ n ∧ n ≤ maxInt64 then some n else none
  | _ => none

def getBool : Value → Option Bool
  | bool b => some b
  | _ => none

/-- The elements of an array; `none` when `IsArray` does not hold. -/
def elements? : Value → Option (List Value)
  | array elements => some elements
  | _ => none

theorem findMember_append_of_some {key : Bytes} {members : List (Bytes × Value)} {value : Value}
    (h : findMember key members = some value) (more : List (Bytes × Value)) :
    findMember key (members ++ more) = some value := by
  induction members with
  | nil => cases h
  | cons head rest ih =>
      obtain ⟨name, first⟩ := head
      rw [List.cons_append, findMember]
      rw [findMember] at h
      split
      · next hName => rwa [if_pos hName] at h
      · next hName =>
          rw [if_neg hName] at h
          exact ih h

theorem findMember_append_of_none {key : Bytes} {members : List (Bytes × Value)}
    (h : findMember key members = none) (more : List (Bytes × Value)) :
    findMember key (members ++ more) = findMember key more := by
  induction members with
  | nil => rfl
  | cons head rest ih =>
      obtain ⟨name, first⟩ := head
      rw [findMember] at h
      split at h
      · cases h
      · next hName => rw [List.cons_append, findMember, if_neg hName, ih h]

theorem findMember_append_bind {A : Type} {key : Bytes} {members : List (Bytes × Value)}
    {read : Value → Option A} {a : A} (h : (findMember key members).bind read = some a)
    (more : List (Bytes × Value)) : (findMember key (members ++ more)).bind read = some a := by
  obtain ⟨value, hFind, hRead⟩ := Option.bind_eq_some_iff.mp h
  rw [findMember_append_of_some hFind, Option.bind_some, hRead]

/-- A member which is already there is found before an appended one. -/
theorem member_addMember {key added : Bytes} {value extra doc doc' : Value}
    (h : doc.member key = some value) (hAdd : doc.addMember added extra = some doc') :
    doc'.member key = some value := by
  cases doc with
  | object members =>
      cases hAdd
      exact findMember_append_of_some h _
  | _ => cases h

theorem addMember_isSome_of_member {key added : Bytes} {value doc : Value}
    (h : doc.member key = some value) (extra : Value) :
    ∃ members, doc = object members ∧
      doc.addMember added extra = some (object (members ++ [(added, extra)])) := by
  cases doc with
  | object members => exact ⟨members, rfl, rfl⟩
  | _ => cases h

theorem getString_nulFree {v : Value} {text : Bytes} (h : v.getString = some text) :
    NulFree text := by
  cases v with
  | string raw =>
      cases h
      exact cString_nulFree raw
  | _ => cases h

theorem getInt_range {v : Value} {n : Int} (h : v.getInt = some n) :
    minInt32 ≤ n ∧ n ≤ maxInt32 := by
  cases v with
  | int m =>
      rw [getInt] at h
      split at h
      · next hRange =>
          cases h
          exact hRange
      · cases h
  | _ => cases h

theorem getInt64_range {v : Value} {n : Int} (h : v.getInt64 = some n) :
    minInt64 ≤ n ∧ n ≤ maxInt64 := by
  cases v with
  | int m =>
      rw [getInt64] at h
      split at h
      · next hRange =>
          cases h
          exact hRange
      · cases h
  | _ => cases h

end Value

end Rapidjson
