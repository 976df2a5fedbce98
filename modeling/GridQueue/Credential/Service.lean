/-
# `GridQueue.Credential.Service` — the token service over the network

Tokens are asked for and revoked by posting the request as JSON under the
service's address:

    <base>/tokens          issues a token
    <base>/tokens/revoke   revokes it

An answer counts as success if its status is from 200 to 299; then the
body of an issued token is JSON with a certificate and a key, neither of
them empty.  How posts travel is left open: a program makes them as calls.

Bodies are texts here.  Two answers are left out by that: a body that is
not UTF-8, which no JSON reader takes either and which a refusal quotes with
replacement characters, and one that breaks off while it is read.
-/
import GridQueue.Error
import GridQueue.Json.Parser
import GridQueue.Json.Printer
import GridQueue.Program
import GridQueue.Wire.Credential

namespace GridQueue

/-- A text that is posted to an address. -/
structure Post where
  url : String
  contentType : String := "application/json"
  body : String
  deriving DecidableEq

/-- What comes back from an address, all of it received and in UTF-8. -/
structure PostReply where
  status : Nat
  body : String
  deriving DecidableEq

/-- The status says that the request was fulfilled. -/
def PostReply.isSuccess (r : PostReply) : Bool := 200 ≤ r.status && r.status < 300

/-- Programs that post; a post is answered, or fails for a reason. -/
abbrev Posting := Program Post fun _ => Except String PostReply

/-- A token service by its address. -/
structure TokenService where
  base : String
  deriving DecidableEq

namespace TokenService

/-- The service at an address, which may be written with slashes at its
end. -/
def ofUrl (url : String) : TokenService :=
  ⟨String.ofList (url.toList.reverse.dropWhile (· == '/')).reverse⟩

def post (s : TokenService) (path : String) (r : TokenRequest) : Post :=
  { url := s.base ++ path, body := r.toJson.render }

/-- The post that asks for a token. -/
def issuePost (s : TokenService) (r : TokenRequest) : Post := s.post "/tokens" r

def revokePost (s : TokenService) (r : TokenRequest) : Post := s.post "/tokens/revoke" r

/-- What a refusal says: its `message`, or else all of it. -/
def refusalText (body : String) : String :=
  ((Json.ofText? body).bind fun j => do
    (← j.record? ["message"]).required "message" Json.str?).getD body

def bodyOf : Except String PostReply → Except CredentialError String
  | .error e => .error (.unreachable e)
  | .ok r =>
      if r.isSuccess then .ok r.body else .error (.rejected r.status (refusalText r.body))

def tokenOf (body : String) : Except CredentialError Token :=
  match (Json.ofText? body).bind Token.ofJson? with
  | none => .error (.malformed "unreadable token")
  | some t =>
      if t.certificate.isEmpty || t.privateKey.isEmpty then
        .error (.malformed "empty certificate or key")
      else .ok t

def issue (s : TokenService) (r : TokenRequest) : Posting (Except CredentialError Token) := do
  let reply ← Program.perform (s.issuePost r)
  return bodyOf reply >>= tokenOf

/-- Has the token of a request revoked. -/
def revoke (s : TokenService) (r : TokenRequest) : Posting (Except CredentialError Unit) := do
  let reply ← Program.perform (s.revokePost r)
  return match bodyOf reply with
    | .ok _ => .ok ()
    | .error e => .error (.revocationFailed e.message)

end TokenService

/-- A network on which no address can be reached. -/
def noNetwork (reason : String) (σ : Type) :
    Program.Answering Post (fun _ => Except String PostReply) σ :=
  fun _ s => (some (.error reason), s)

end GridQueue
