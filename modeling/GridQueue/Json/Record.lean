/-
# `GridQueue.Json.Record` — reading records

A record is written as an object of named members, in any order and
possibly with members nobody asked for, or as an array of the fields in
their order.  A name that is asked for must not occur twice.  A missing
member of an object is an absent value; of an array only fields with a
default may be missing, at its end.
-/
import GridQueue.Json.Basic

namespace GridQueue.Json

/-- The fields of a record, as they were found. -/
structure Record where
  /-- Written as an array. -/
  positional : Bool
  value? : String → Option Json

def member? (name : String) : List (String × Json) → Option Json
  | [] => none
  | (k, j) :: rest => if k = name then some j else member? name rest

def namesOnce (names : List String) (members : List (String × Json)) : Bool :=
  names.all fun n => (members.filter fun m => m.1 == n).length ≤ 1

/-- The fields of these names, given as an object. -/
def namedRecord? (names : List String) : Json → Option Record
  | obj members =>
      if namesOnce names members then some ⟨false, fun n => member? n members⟩ else none
  | _ => none

/-- The fields of these names, given as an object or as an array. -/
def record? (names : List String) (j : Json) : Option Record :=
  match j with
  | arr items =>
      if items.length ≤ names.length then
        some ⟨true, fun n => items[names.idxOf n]?⟩
      else none
  | _ => namedRecord? names j

namespace Record

variable {α : Type}

def required (r : Record) (name : String) (read : Json → Option α) : Option α :=
  (r.value? name).bind read

/-- Reads a value that may be null. -/
def nullable (read : Json → Option α) : Json → Option (Option α)
  | null => some none
  | j => (read j).map some

/-- A field that may be null, and absent from an object. -/
def optional (r : Record) (name : String) (read : Json → Option α) : Option (Option α) :=
  match r.value? name with
  | none => if r.positional then none else some none
  | some j => nullable read j

def defaulted (r : Record) (name : String) (default : α) (read : Json → Option α) : Option α :=
  match r.value? name with
  | none => some default
  | some j => read j

end Record

/-! ## Single values -/

def str? : Json → Option String
  | str s => some s
  | _ => none

def bool? : Json → Option Bool
  | bool b => some b
  | _ => none

/-- A number; an integer is rounded to the nearest float. -/
def float? : Json → Option Float
  | float x => some x
  | int n => some (Float.ofInt n)
  | _ => none

def intWithin? (low high : Int) : Json → Option Int
  | int n => if low ≤ n ∧ n ≤ high then some n else none
  | _ => none

/-- An integer of 64 bits with sign. -/
def int64? : Json → Option Int := intWithin? (-0x8000000000000000) (0x8000000000000000 - 1)

/-- An integer of 32 bits with sign. -/
def int32? : Json → Option Int := intWithin? (-0x80000000) (0x80000000 - 1)

def list? {α : Type} (read : Json → Option α) : Json → Option (List α)
  | arr items => items.mapM read
  | _ => none

/-- An integer of 64 bits without sign. -/
def uint64? (j : Json) : Option Nat := (intWithin? 0 (0x10000000000000000 - 1) j).map Int.toNat

/-- A text out of a fixed choice.  The choice may also be written as an
object that names it and has null inside; within a tagged value the
inside may as well be an empty object. -/
def choice? {α : Type} (withinTagged : Bool) (read : String → Option α) : Json → Option α
  | str s => read s
  | obj [(s, null)] => read s
  | obj [(s, obj [])] => if withinTagged then read s else none
  | _ => none

/-! ## Tagged values -/

/-- A value that says what it is by a tag among its members, or as the
first item of an array. -/
structure Tagged where
  tag : Json
  rest : Json

/-- Takes the tag of a value.  The value is read as a whole before its
kind is known, so all of it must be readable. -/
def tagged? (tag : String) : Json → Option Tagged
  | obj members =>
      if allMembersReadable members && namesOnce [tag] members then
        (member? tag members).map fun t => ⟨t, obj (members.filter fun m => m.1 != tag)⟩
      else none
  | arr (t :: rest) => if allReadable rest then some ⟨t, arr rest⟩ else none
  | _ => none

/-- The kind named by a tag; where positions are allowed, the tag may
also be the kind's position among all kinds. -/
def kind? {α : Type} (positions : Bool) (kinds : List (String × α)) : Json → Option α
  | str s => kinds.lookup s
  | int n => if positions && 0 ≤ n then (kinds[n.toNat]?).map (·.2) else none
  | _ => none

end GridQueue.Json
