/-
# `GridQueue.Wire.Credential` — tokens and requests for them as JSON

The token service is sent a `TokenRequest` and answers with a `Token`.  A
request names the kind of token that is asked for, of which there is one; a
request for any other kind is not read.  A token may come without a serial
number.
-/
import GridQueue.Credential
import GridQueue.Json.Record

namespace GridQueue

open Json

/-- The only kind of token the broker asks for. -/
def TokenRequest.kind : String := "job_token"

def TokenRequest.toJson (r : TokenRequest) : Json :=
  .obj
    [("principal", .str r.principal),
     ("username", .str r.username),
     ("kind", .str TokenRequest.kind),
     ("extension", .str r.extension),
     ("validity_secs", .int r.validitySeconds)]

def TokenRequest.ofJson? (j : Json) : Option TokenRequest := do
  let r ← j.record? ["principal", "username", "kind", "extension", "validity_secs"]
  let principal ← r.required "principal" str?
  let username ← r.required "username" str?
  let _ ← r.required "kind" (choice? false fun s => if s = TokenRequest.kind then some () else none)
  let extension ← r.required "extension" str?
  let validitySeconds ← r.required "validity_secs" uint64?
  some { principal, username, extension, validitySeconds }

def Token.toJson (t : Token) : Json :=
  .obj
    [("certificate", .str t.certificate),
     ("private_key", .str t.privateKey),
     ("serial", opt .str t.serial)]

def Token.ofJson? (j : Json) : Option Token := do
  let r ← j.record? ["certificate", "private_key", "serial"]
  let certificate ← r.required "certificate" str?
  let privateKey ← r.required "private_key" str?
  let serial ← r.defaulted "serial" none (Record.nullable str?)
  some ⟨certificate, privateKey, serial⟩

end GridQueue
