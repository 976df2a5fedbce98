/-
# `GridQueue.Credential` — tokens for jobs

Every hand-out of a job comes with a token of its own.  A request names
the job and the number of the hand-out in its extension, so that no two
hand-outs ask for the same token.

    41/2      the second hand-out of job 41

The service is asked to revoke a token by the request that it was issued
for.  In messages a token is shown by its serial; its key is in none.
-/
import GridQueue.Text.Quoted
import GridQueue.Time.Instant

namespace GridQueue

/-- A request for the token of one hand-out of one job. -/
structure TokenRequest where
  /-- In whose name the broker asks. -/
  principal : String
  /-- The account the job runs as. -/
  username : String
  /-- The job and how often it was handed out. -/
  extension : String
  validitySeconds : Nat
  deriving DecidableEq

/-- The request for the current hand-out of a job. -/
def TokenRequest.forJob (principal username : String) (jobId resubmission : Int)
    (validity : Span) : TokenRequest :=
  { principal
    username
    extension := toString jobId ++ "/" ++ toString resubmission
    validitySeconds := validity.seconds }

/-- The credential that goes with a job. -/
structure Token where
  certificate : String
  privateKey : String
  serial : Option String
  deriving DecidableEq

/-- A token in messages, without its key. -/
def Token.display (t : Token) : String :=
  "JobToken \x7b serial: "
    ++ (match t.serial with
        | none => "None"
        | some s => "Some(" ++ Text.quote s ++ ")")
    ++ ", private_key: \"<redacted>\" \x7d"

end GridQueue
