/-
# `GridQueue.Service.Backend` — collaborators outside the process

In operation the job store is in a database, tokens come from a service
on the network, and the site directory was read when the process started.
Each call of the broker is then a program of its own: a conversation with
the database, a post, or nothing but a look into the directory.
-/
import GridQueue.Credential.Service
import GridQueue.Service.Call
import GridQueue.Store.Database

namespace GridQueue

/-- What the process asks of the world outside. -/
inductive Outside
  | database (c : Sql.Exchange)
  | post (p : Post)
  | now
  | stopwatch
  | note (event : Metrics.Event)

def Outside.Answer : Outside → Type
  | database c => c.Answer
  | post _ => Except String PostReply
  | now => Instant
  | stopwatch => Span
  | note _ => Unit

abbrev Process := Program Outside Outside.Answer

namespace Process

def talk {α : Type} (p : Sql.Talk α) : Process α :=
  p.interpret fun c => Program.perform (A := Outside.Answer) (.database c)

def posting {α : Type} (p : Posting α) : Process α :=
  p.interpret fun c => Program.perform (A := Outside.Answer) (.post c)

end Process

/-- What the broker's collaborators are in operation. -/
structure Backend where
  timeouts : Timeouts
  tokens : TokenService
  directory : Site.Directory

namespace Backend

/-- Carries out a call of the broker. -/
def carryOut (b : Backend) : (c : Call) → Process c.Answer
  | .store c => Process.talk (Querying.perform b.timeouts c).run
  | .lookup ce site => pure (.ok (b.directory.lookup ce site))
  | .issue request => Process.posting (b.tokens.issue request)
  | .revoke request => Process.posting (b.tokens.revoke request)
  | .now => Program.perform (A := Outside.Answer) .now
  | .stopwatch => Program.perform (A := Outside.Answer) .stopwatch
  | .note event => Program.perform (A := Outside.Answer) (.note event)

/-- Carries out a program of the broker. -/
def run {α : Type} (b : Backend) (p : Action α) : Process α := p.interpret b.carryOut

end Backend

end GridQueue
