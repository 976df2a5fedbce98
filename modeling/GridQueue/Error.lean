/-
# `GridQueue.Error` — what can go wrong

Errors are causes; `message` puts each into words, the cause of a cause
included.  Outcomes that are part of the work, such as finding nothing to
run, are no errors.  An error is transient if the same call may succeed
later.

    DatabaseError ──▸ StoreError ─────────┐
    MigrationError ──▸ StoreError         ├──▸ BrokerError ──▸ CommandError
    DirectoryError, CredentialError ──────┘

The caller of a command is told a code, by which it knows what to do next,
and the message.
-/
import GridQueue.Time.Span

namespace GridQueue

/-- What a database or the way to it can answer instead of rows. -/
inductive DatabaseError
  | io (detail : String)
  | poolTimedOut
  | poolClosed
  | workerCrashed
  | rowNotFound
  | columnDecode (index detail : String)
  | decode (detail : String)
  | protocol (detail : String)
  | columnNotFound (name : String)
  | configuration (detail : String)
  | tls (detail : String)
  /-- the server refused the statement -/
  | refused (detail : String)
  deriving DecidableEq

namespace DatabaseError

def message : DatabaseError → String
  | io m => "error communicating with database: " ++ m
  | poolTimedOut => "pool timed out while waiting for an open connection"
  | poolClosed => "attempted to acquire a connection on a closed pool"
  | workerCrashed => "attempted to communicate with a crashed background worker"
  | rowNotFound =>
      "no rows returned by a query that expected to return at least one row"
  | columnDecode i m => "error occurred while decoding column " ++ i ++ ": " ++ m
  | decode m => "error occurred while decoding: " ++ m
  | protocol m => "encountered unexpected or invalid data: " ++ m
  | columnNotFound n => "no column found for name: " ++ n
  | configuration m => "error with configuration: " ++ m
  | tls m => "error occurred while attempting to establish a TLS connection: " ++ m
  | refused m => "error returned from database: " ++ m

end DatabaseError

/-- Why a change of the database's layout stopped. -/
inductive MigrationError
  | failed (name detail : String)
  | database (e : DatabaseError)
  deriving DecidableEq

def MigrationError.message : MigrationError → String
  | failed name m => "Migration '" ++ name ++ "' failed: " ++ m
  | database e => "Database error: " ++ e.message

/-- Errors of the job store. -/
inductive StoreError
  /-- the operation did not finish within its limit -/
  | timeout (operation : String) (limit : Span)
  /-- the store could not be reached -/
  | connection (detail : String)
  | query (e : DatabaseError)
  /-- the named record does not exist -/
  | notFound (what : String)
  /-- a stored value has no meaning here -/
  | corrupt (detail : String)
  | migration (e : MigrationError)
  deriving DecidableEq

namespace StoreError

def message : StoreError → String
  | timeout operation limit =>
      "Store operation '" ++ operation ++ "' timed out after " ++ limit.text
  | connection m => "Store connection failed: " ++ m
  | query e => "Query failed: " ++ e.message
  | notFound what => "Record not found: " ++ what
  | corrupt m => "Corrupt row: " ++ m
  | migration e => "Migration error: " ++ e.message

def isTransient : StoreError → Bool
  | timeout _ _ | connection _ => true
  | query _ | notFound _ | corrupt _ | migration _ => false

/-- A database error as an error of the store: losing the way to the
database is a lost connection, and an unreadable value a corrupt row. -/
def ofDatabase (e : DatabaseError) : StoreError :=
  match e with
  | .io _ | .poolTimedOut | .poolClosed | .workerCrashed => connection e.message
  | .rowNotFound => notFound e.message
  | .columnDecode _ _ | .decode _ => corrupt e.message
  | .protocol _ | .columnNotFound _ | .configuration _ | .tls _ | .refused _ => query e

end StoreError

/-- Errors of the token service. -/
inductive CredentialError
  | unreachable (detail : String)
  | rejected (code : Nat) (detail : String)
  | malformed (detail : String)
  | revocationFailed (detail : String)
  deriving DecidableEq

def CredentialError.message : CredentialError → String
  | unreachable m => "Token service unreachable: " ++ m
  | rejected code m => "Token request rejected (" ++ toString code ++ "): " ++ m
  | malformed m => "Malformed token response: " ++ m
  | revocationFailed m => "Token revocation failed: " ++ m

/-- Errors of the site directory. -/
inductive DirectoryError
  | unavailable (detail : String)
  | load (path reason : String)
  | io (detail : String)
  | yaml (detail : String)
  deriving DecidableEq

namespace DirectoryError

def message : DirectoryError → String
  | unavailable m => "Site directory unavailable: " ++ m
  | load path reason =>
      "Failed to load site directory from '" ++ path ++ "': " ++ reason
  | io m => "IO error: " ++ m
  | yaml m => "YAML parsing error: " ++ m

def isTransient : DirectoryError → Bool
  | unavailable _ => true
  | load _ _ | io _ | yaml _ => false

end DirectoryError

/-- Errors of a match. -/
inductive BrokerError
  | store (e : StoreError)
  | directory (e : DirectoryError)
  /-- a job was claimed, but no credential could be had for it -/
  | credential (jobId : Int) (e : CredentialError)
  | invalidRequest (reason : String)
  deriving DecidableEq

namespace BrokerError

def message : BrokerError → String
  | store e => e.message
  | directory e => e.message
  | credential jobId e =>
      "Credential issuance failed for job " ++ toString jobId ++ ": " ++ e.message
  | invalidRequest reason => "Invalid match request: " ++ reason

def isTransient : BrokerError → Bool
  | store e => e.isTransient
  | directory e => e.isTransient
  | credential _ _ | invalidRequest _ => false

end BrokerError

/-- Errors of a command. -/
inductive CommandError
  | broker (e : BrokerError)
  | store (e : StoreError)
  | invalid (reason : String)
  /-- commands are no longer taken -/
  | shuttingDown
  deriving DecidableEq

namespace CommandError

def message : CommandError → String
  | broker e => e.message
  | store e => e.message
  | invalid reason => "Invalid command: " ++ reason
  | shuttingDown => "Broker is shutting down"

/-- The word by which a caller tells what to do next. -/
def code : CommandError → String
  | broker e =>
      if e.isTransient then "transient"
      else
        match e with
        | .credential _ _ => "credential"
        | .store _ | .directory _ | .invalidRequest _ => "internal"
  | store e => if e.isTransient then "transient" else "internal"
  | invalid _ => "invalid"
  | shuttingDown => "unavailable"

end CommandError

end GridQueue
