/-
# `GridQueue.Simulation.Crew` — a worker pool at work

The workers of a pool run commands of the front door against an
environment, one after another in the order they were taken.  A command
that never returns keeps its worker for good.  One that is ended by a
counter takes its worker with it, and its caller, who loses the other end of
the reply, is told that the pool shuts down.
-/
import GridQueue.Command.Dispatch
import GridQueue.FrontDoor.Line
import GridQueue.Pool.Queue
import GridQueue.Simulation.Environment

namespace GridQueue.Simulation

/-- A pool, the environment its workers work in, and the replies so far,
by ticket. -/
structure Crew where
  env : Environment
  pool : Pool FrontDoor.Request
  replies : List (Nat × FrontDoor.Reply) := []

namespace Crew

def note (c : Crew) (event : Metrics.Event) : Crew :=
  { c with env := { c.env with metrics := c.env.metrics.record event } }

def noteDepth (c : Crew) : Crew := c.note (.queueDepth c.pool.queue.length)

/-- Hands a reply to whoever holds a ticket. -/
def reply (c : Crew) (ticket : Nat) (r : FrontDoor.Reply) : Crew :=
  { c with replies := c.replies ++ [(ticket, r)] }

def submit (c : Crew) (ticket : Nat) (r : FrontDoor.Request) : Crew :=
  if c.pool.isOpen then
    let room := c.pool.queue.length < c.pool.settings.capacity
    let c := { c with pool := c.pool.submit ticket r }
    if room then c.noteDepth else c
  else c.reply ticket (.ofResult r.id (.error .shuttingDown))

/-- Runs a command that was just taken. -/
def serve (settings : BrokerSettings) (c : Crew) (ticket : Nat) (r : FrontDoor.Request) :
    Crew :=
  match c.env.run (r.command.dispatch settings) with
  | (none, env) =>
      if env.overran then
        { c with env, pool := c.pool.lose }.reply ticket (.ofResult r.id (.error .shuttingDown))
      else { c with env }
  | (some result, env) =>
      { c with env, pool := c.pool.finish ticket (Command.succeeded result) }.reply ticket
        (.ofResult r.id result)

theorem pool_serve (settings : BrokerSettings) (c : Crew) (ticket : Nat)
    (r : FrontDoor.Request) : (c.serve settings ticket r).pool.backlog = c.pool.backlog := by
  unfold serve
  split
  · split <;> rfl
  · rfl

/-- Lets the workers work until none can take a command. -/
def settle (settings : BrokerSettings) (c : Crew) : Crew :=
  match _h : c.pool.take with
  | none => c
  | some ((ticket, r), pool) =>
      let taken := { c with pool }.noteDepth
      settle settings (taken.serve settings ticket r)
  termination_by c.pool.backlog
  decreasing_by
    rw [pool_serve]
    exact Pool.backlog_take _h

def start (c : Crew) : Except PoolError Crew := do
  let pool ← c.pool.start
  return { c with pool }.note (.workers pool.settings.workers)

def refuse (c : Crew) : Crew :=
  (c.pool.queue ++ c.pool.waiting).foldl
    (fun c e => c.reply e.1 (.ofResult e.2.id (.error .shuttingDown))) c

/-- Stops the workers and closes the pool. -/
def shutdown (c : Crew) : Except PoolError Unit × Crew :=
  match c.pool.stop with
  | .error e => (.error e, c)
  | .ok pool =>
      let c := { c with pool }.refuse
      let c := { c with pool := c.pool.close }
      (c.pool.outcome, (c.note (.workers 0)).note (.queueDepth 0))

end Crew

end GridQueue.Simulation
