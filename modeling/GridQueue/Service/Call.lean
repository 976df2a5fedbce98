/-
# `GridQueue.Service.Call` — what the broker's programs may do

Everything the broker does to the world outside is one of these calls:
operations of the job store, questions to the site directory and the
token service, readings of the clock and of a steady clock, and notes
for the metrics.
-/
import GridQueue.Credential
import GridQueue.Error
import GridQueue.Metrics.Event
import GridQueue.Program
import GridQueue.Site
import GridQueue.Store.Call

namespace GridQueue

/-- A call of one of the broker's collaborators. -/
inductive Call
  | store (c : StoreCall)
  /-- what a site requires -/
  | lookup (ce site : String)
  /-- a token is asked for -/
  | issue (request : TokenRequest)
  /-- whatever was issued for a request is to be invalid -/
  | revoke (request : TokenRequest)
  | now
  /-- the time since some moment that stays the same -/
  | stopwatch
  | note (event : Metrics.Event)

def Call.Answer : Call → Type
  | store c => Except StoreError c.Value
  | lookup _ _ => Except DirectoryError Site.Requirements
  | issue _ => Except CredentialError Token
  | revoke _ => Except CredentialError Unit
  | now => Instant
  | stopwatch => Span
  | note _ => Unit

abbrev Action := Program Call Call.Answer

namespace Action

def store (c : StoreCall) : Action (Except StoreError c.Value) := Program.perform (Call.store c)

def lookup (ce site : String) : Action (Except DirectoryError Site.Requirements) :=
  Program.perform (Call.lookup ce site)

def issue (request : TokenRequest) : Action (Except CredentialError Token) :=
  Program.perform (Call.issue request)

/-- Has the token of a request revoked. -/
def revoke (request : TokenRequest) : Action (Except CredentialError Unit) :=
  Program.perform (Call.revoke request)

def now : Action Instant := Program.perform Call.now

def stopwatch : Action Span := Program.perform Call.stopwatch

def note (event : Metrics.Event) : Action Unit := Program.perform (Call.note event)

/-- Calls the job store for an effect whose failure changes nothing. -/
def attempt (c : StoreCall) : Action Unit := do
  let _ ← store c

end Action

end GridQueue
