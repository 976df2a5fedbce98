/-
# `GridQueue.Json.Parser` — the value of a JSON text

The tokens of a text are read from left to right by a machine whose
stack holds the arrays and objects that are still open.  Arrays and
objects nested deeper than the limit are read, so that the rest of the
text can be, but have no value.
-/
import GridQueue.Json.Token

namespace GridQueue.Json

/-- An array or object that is still open, its parts last first. -/
inductive Frame
  | arr (items : List Json)
  | obj (members : List (String × Json)) (readable : Bool) (key : Option String)

/-- What may come next. -/
inductive Expect
  | value
  /-- a value or the end of an empty array -/
  | item
  /-- a name or the end of an empty object -/
  | member
  | key
  | colon
  /-- a comma or the end of what is open -/
  | next

/-- The state of the machine: the open arrays and objects, innermost
first, and the value once the text is complete. -/
structure Reading where
  expect : Expect := .value
  stack : List Frame := []
  result : Option Json := none

namespace Reading

/-- How many arrays and objects may be open at once. -/
def depthLimit : Nat := 127

/-- Puts a finished value where it belongs. -/
def deliver (r : Reading) (j : Json) : Reading :=
  match r.stack with
  | [] => ⟨.next, [], some j⟩
  | .arr items :: rest => ⟨.next, .arr (j :: items) :: rest, none⟩
  | .obj members readable (some k) :: rest =>
      ⟨.next, .obj ((k, j) :: members) readable none :: rest, none⟩
  | .obj members _ none :: rest => ⟨.next, .obj members false none :: rest, none⟩

def close (r : Reading) (rest : List Frame) (j : Json) : Reading :=
  { r with stack := rest }.deliver (if rest.length < depthLimit then j else .unreadable)

def enter (r : Reading) (expect : Expect) (f : Frame) : Reading :=
  { r with expect, stack := f :: r.stack }

def startValue (r : Reading) : Token → Option Reading
  | .openArr => some (r.enter .item (.arr []))
  | .openObj => some (r.enter .member (.obj [] true none))
  | .leaf j => some (r.deliver j)
  | .text s => some (r.deliver (s.elim .unreadable .str))
  | _ => none

def startMember (r : Reading) : Token → Option Reading
  | .text s =>
      match r.stack with
      | .obj members readable _ :: rest =>
          some ⟨.colon, .obj members (readable && s.isSome) s :: rest, none⟩
      | _ => none
  | _ => none

/-- Takes the end of the innermost array or object. -/
def finish (r : Reading) : Token → Option Reading
  | .closeArr =>
      match r.stack with
      | .arr items :: rest => some (r.close rest (.arr items.reverse))
      | _ => none
  | .closeObj =>
      match r.stack with
      | .obj members readable _ :: rest =>
          some (r.close rest (if readable then .obj members.reverse else .unreadable))
      | _ => none
  | _ => none

def step (r : Reading) (t : Token) : Option Reading :=
  match r.expect with
  | .value => r.startValue t
  | .item => (r.finish t).or (r.startValue t)
  | .member => (r.finish t).or (r.startMember t)
  | .key => r.startMember t
  | .colon =>
      match t with
      | .colon => some { r with expect := .value }
      | _ => none
  | .next =>
      match t, r.stack with
      | .comma, .arr _ :: _ => some { r with expect := .value }
      | .comma, .obj _ _ _ :: _ => some { r with expect := .key }
      | _, _ => r.finish t

end Reading

def ofTokens? (ts : List Token) : Option Json :=
  (ts.foldlM Reading.step {}).bind (·.result)

def ofText? (s : String) : Option Json :=
  (Token.ofText? s).bind ofTokens?

end GridQueue.Json
