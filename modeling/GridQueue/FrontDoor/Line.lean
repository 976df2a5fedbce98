/-
# `GridQueue.FrontDoor.Line` — one command a line, one reply a line

A line is a JSON object with a command and, if the caller wants to pair
replies with requests, a member `id` of any value.  The reply repeats it
and holds the answer under `ok` or a code and a message under `error`.

The message for a line that cannot be read ends with a colon and the words
of the library that reads it: what was expected, and in which column.  The
reader here gives no reasons, so `Reply.unparseable` takes those words as
they come.
-/
import GridQueue.Error
import GridQueue.Json.Ordered
import GridQueue.Json.Parser
import GridQueue.Wire.Command

namespace GridQueue

namespace FrontDoor

/-- A line that was understood. -/
structure Request where
  /-- What the caller wants repeated. -/
  id : Json
  command : Command

/-- Takes the member `id`, which may be absent, out of the members of a
line. -/
def takeId? (members : List (String × Json)) : Option (Json × List (String × Json)) :=
  if Json.namesOnce ["id"] members then
    let id := (Json.member? "id" members).getD .null
    if id.isReadable then some (id.ordered, members.filter fun m => m.1 != "id") else none
  else none

def Request.ofJson? : Json → Option Request
  | .obj members => do
      let (id, rest) ← takeId? members
      let command ← Command.ofJson? true (.obj rest)
      some ⟨id, command⟩
  | _ => none

def Request.ofText? (line : String) : Option Request :=
  (Json.ofText? line).bind Request.ofJson?

/-- What a reply says. -/
inductive Body
  | ok (response : Response)
  | error (code message : String)

/-- A reply. -/
structure Reply where
  id : Json
  body : Body

/-- The reply to a line that could not be read, with what the reader has to
say of it. -/
def Reply.unparseable (complaint : String) : Reply :=
  ⟨.null, .error "invalid" ("unparseable command" ++ complaint)⟩

def Reply.ofResult (id : Json) : Except CommandError Response → Reply
  | .ok response => ⟨id, .ok response⟩
  | .error e => ⟨id, .error e.code e.message⟩

/-- The reply does not report an error. -/
def Reply.isOk (r : Reply) : Bool :=
  match r.body with
  | .ok _ => true
  | .error _ _ => false

def Reply.toJson (r : Reply) : Json :=
  .obj
    [("id", r.id),
     match r.body with
     | .ok response => ("ok", response.toJson)
     | .error code message =>
         ("error", .obj [("code", .str code), ("message", .str message)])]

/-- A line without the carriage return at its end. -/
def stripReturn (line : List Char) : List Char :=
  if line.getLast? = some '\r' then line.dropLast else line

/-- The lines of the input that ask for something; blank lines do not. -/
def requestLines (input : String) : List String :=
  ((input.toList.splitOnP (· == '\n')).map fun line => String.ofList (stripReturn line)).filter
    fun line => !Text.isBlankText line

end FrontDoor

end GridQueue
