/-
# `GridQueue.Simulation.Session` — an instance in a simulated environment

A session holds an environment and at most one worker pool, takes lines
at the front door, and can serve as a whole: one cycle of each periodic
task, then the lines of the front door, then shutdown.

    answerLine        hands in a line and waits for its reply
    lineLater         hands it in, for `collectReplies` to wait
    lineAbandoned     hands it in, and nobody waits
    serve             a whole instance, to the end of its input

Workers run only while somebody waits (`settle`), and then they take what
was handed in before, in its order.
-/
import GridQueue.Config
import GridQueue.FairShare.Batch
import GridQueue.Json.Printer
import GridQueue.Liveness
import GridQueue.Simulation.Crew

namespace GridQueue.Simulation

/-- An instance in an environment. -/
structure Session where
  config : Config
  env : Environment
  /-- The pool with the replies so far. -/
  desk : Option (Pool FrontDoor.Request × List (Nat × FrontDoor.Reply)) := none
  nextTicket : Nat := 0
  /-- Lines whose replies were not collected yet: those that could not be
  read have theirs. -/
  expected : List (Nat ⊕ FrontDoor.Reply) := []
  /-- What the reply to a line that cannot be read says of the line.  It is
  left out where nothing else is said. -/
  complaint : String → String := fun _ => ""

namespace Session

def run {α : Type} (s : Session) (p : Action α) : Option α × Session :=
  let (a, env) := s.env.run p
  (a, { s with env })

/-- The pool at work, if there is one. -/
def crew? (s : Session) : Option Crew :=
  s.desk.map fun d => { env := s.env, pool := d.1, replies := d.2 }

/-- Takes over what a pool at work did. -/
def withCrew (s : Session) (c : Crew) : Session :=
  { s with env := c.env, desk := some (c.pool, c.replies) }

/-- The pool at work; a new one is started if there is none. -/
def crew (s : Session) : Crew :=
  match s.crew? with
  | some c => c
  | none =>
      let c : Crew := { env := s.env, pool := { settings := {} } }
      match c.start with
      | .ok c => c
      | .error _ => c

/-- A new pool in the place of the old one, whose commands are refused. -/
def newPool (s : Session) (settings : PoolSettings) : Except PoolError Session := do
  let settings ← settings.checked
  let replies := match s.crew? with
    | some c => c.refuse.replies
    | none => []
  return { s with desk := some ({ settings }, replies) }

def startPool (s : Session) : Except PoolError Session := do
  match s.crew? with
  | none => .error .notRunning
  | some c => return s.withCrew (← c.start)

def shutdownPool (s : Session) : Except PoolError Unit × Session :=
  match s.crew? with
  | none => (.error .notRunning, s)
  | some c =>
      let (result, c) := c.shutdown
      (result, s.withCrew c)

/-- Hands in a line; what is to be expected is the reply itself or a
ticket for it. -/
def submitLine (s : Session) (line : String) : (Nat ⊕ FrontDoor.Reply) × Session :=
  let s := s.withCrew s.crew
  match FrontDoor.Request.ofText? line with
  | none => (.inr (.unparseable (s.complaint line)), s)
  | some r =>
      let ticket := s.nextTicket
      (.inl ticket, { s.withCrew (s.crew.submit ticket r) with nextTicket := ticket + 1 })

/-- Lets the workers work until none can take a command. -/
def settle (s : Session) : Session :=
  match s.crew? with
  | none => s
  | some c => s.withCrew (c.settle s.config.broker)

/-- The reply that was expected, if it is there. -/
def collect? (s : Session) : Nat ⊕ FrontDoor.Reply → Option FrontDoor.Reply
  | .inr r => some r
  | .inl ticket => s.desk.bind fun d => d.2.lookup ticket

/-- Hands in a line and waits for its reply. -/
def answerLine (s : Session) (line : String) : Option FrontDoor.Reply × Session :=
  let (e, s) := s.submitLine line
  let s := s.settle
  (s.collect? e, s)

/-- Hands in a line whose reply is collected later. -/
def lineLater (s : Session) (line : String) : Session :=
  let (e, s) := s.submitLine line
  { s with expected := s.expected ++ [e] }

/-- Hands in a line and gives up on its reply.  A command that finds no
room at once is given up, too. -/
def lineAbandoned (s : Session) (line : String) : Session :=
  let (e, s') := s.submitLine line
  match e, s'.desk with
  | .inl ticket, some (pool, replies) =>
      let pool := { pool with waiting := pool.waiting.filter fun c => c.1 != ticket }
      { s' with desk := some (pool, replies) }
  | _, _ => s'

/-- Waits for the replies of all lines handed in before. -/
def collectReplies (s : Session) : List FrontDoor.Reply × Session :=
  let s := s.settle
  (s.expected.filterMap s.collect?, { s with expected := [] })

/-! ## Serving -/

def runTasks (s : Session) : Session :=
  let (_, s) := s.run (Liveness.cycle s.config.liveness s.config.instanceName)
  let (_, s) := s.run
    (FairShare.batchIfDue s.config.scope s.config.instanceName s.config.priorityInterval)
  s

/-- The order of replies that came in any order: by the identifier's
text, successes first. -/
def precedes (x y : FrontDoor.Reply) : Bool :=
  let a := x.id.render
  let b := y.id.render
  decide (a < b) || (a == b && (x.isOk || !y.isOk))

/-- Serves until the input at the front door ends. -/
def serve (s : Session) (input : String) : List FrontDoor.Reply × Session :=
  let own := s.settle
  let inner := { own with desk := some ({ settings := own.config.pool }, []), expected := [] }
  let inner := match inner.startPool with
    | .ok started => started
    | .error _ => inner
  let inner := inner.runTasks
  let inner := (FrontDoor.requestLines input).foldl lineLater inner
  let (replies, inner) := inner.collectReplies
  let (_, inner) := inner.shutdownPool
  (replies.mergeSort precedes,
    { own with env := inner.env, nextTicket := inner.nextTicket })

end Session

end GridQueue.Simulation
