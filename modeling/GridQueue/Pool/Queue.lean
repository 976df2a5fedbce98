/-
# `GridQueue.Pool.Queue` — the life of a worker pool

Commands wait in a bounded queue, first come first served, until a
worker takes them.  A pool is created, runs, is told to stop and is
closed; it never runs again.  Each operation is one step of its life:

    submit   a command enters the queue, or waits for room
    receive  the oldest command leaves the queue
    take     a worker that finds no signal takes the oldest command
    finish   a worker is done with its command
    lose     a worker ended with its command
    stop     workers take no further commands
    close    everything that still waits is refused

The pool does not look into commands, which are known by tickets.
-/
import GridQueue.Pool.Basic

namespace GridQueue

/-- Where a pool is in its life. -/
inductive Pool.Phase
  | created
  | running
  | stopping
  | closed
  deriving DecidableEq

/-- A pool for commands of type `κ`. -/
structure Pool (κ : Type) where
  settings : PoolSettings
  phase : Pool.Phase := .created
  /-- Commands in the queue, oldest first. -/
  queue : List (Nat × κ) := []
  /-- Commands without room in the queue, oldest first. -/
  waiting : List (Nat × κ) := []
  /-- Commands in the hands of workers. -/
  busy : List (Nat × κ) := []
  completed : Nat := 0
  failed : Nat := 0
  /-- How many workers ended with the commands in their hands. -/
  lost : Nat := 0

namespace Pool

variable {κ : Type}

def isOpen (p : Pool κ) : Bool := p.phase != .closed

/-- What the pool has done so far. -/
def stats (p : Pool κ) : PoolStats :=
  { workers := p.settings.workers
    active := p.busy.length
    completed := p.completed
    failed := p.failed }

/-- A command is handed in at a pool that is open. -/
def submit (p : Pool κ) (ticket : Nat) (c : κ) : Pool κ :=
  if p.queue.length < p.settings.capacity then
    { p with queue := p.queue ++ [(ticket, c)] }
  else { p with waiting := p.waiting ++ [(ticket, c)] }

/-- The oldest command, if there is one; it leaves room for the oldest of
those that wait. -/
def receive (p : Pool κ) : Option ((Nat × κ) × Pool κ) :=
  match p.queue with
  | [] => none
  | c :: rest =>
      some (c,
        { p with
          queue := rest ++ p.waiting.take 1
          waiting := p.waiting.drop 1
          busy := p.busy ++ [c] })

/-- The oldest command, if the pool runs and a worker is free. -/
def take (p : Pool κ) : Option ((Nat × κ) × Pool κ) :=
  if p.phase = .running ∧ p.busy.length < p.settings.workers then p.receive else none

/-- The worker that holds a ticket is done. -/
def finish (p : Pool κ) (ticket : Nat) (success : Bool) : Pool κ :=
  { p with
    busy := p.busy.filter fun c => c.1 != ticket
    completed := p.completed + (if success then 1 else 0)
    failed := p.failed + (if success then 0 else 1) }

/-- A worker ended with its command, which stays in its hands. -/
def lose (p : Pool κ) : Pool κ := { p with lost := p.lost + 1 }

def start (p : Pool κ) : Except PoolError (Pool κ) :=
  match p.phase with
  | .created => .ok { p with phase := .running }
  | .running | .stopping => .error .alreadyRunning
  | .closed => .error .closed

def stop (p : Pool κ) : Except PoolError (Pool κ) :=
  match p.phase with
  | .running => .ok { p with phase := .stopping }
  | .created | .stopping | .closed => .error .notRunning

/-- The tickets that are refused when the pool closes. -/
def refused (p : Pool κ) : List Nat := (p.queue ++ p.waiting).map (·.1)

def close (p : Pool κ) : Pool κ :=
  { p with phase := .closed, queue := [], waiting := [] }

/-- How the shutdown of a pool ends: in time unless a worker that is there
still holds a command. -/
def outcome (p : Pool κ) : Except PoolError Unit :=
  if p.busy.length ≤ p.lost then .ok ()
  else .error (.shutdownTimeout p.settings.shutdownTimeout)

/-- The commands that no worker took yet. -/
def backlog (p : Pool κ) : Nat := p.queue.length + p.waiting.length

theorem backlog_receive {p q : Pool κ} {c : Nat × κ} (h : p.receive = some (c, q)) :
    q.backlog < p.backlog := by
  unfold receive at h
  split at h
  · cases h
  · next hq =>
      obtain ⟨-, rfl⟩ := Prod.mk.injEq .. ▸ Option.some.inj h
      simp only [backlog, hq, List.length_append, List.length_take, List.length_drop,
        List.length_cons]
      omega

theorem receive_of_take {p : Pool κ} {taken : (Nat × κ) × Pool κ} (h : p.take = some taken) :
    p.receive = some taken := by
  unfold take at h
  split at h
  · exact h
  · cases h

theorem backlog_take {p q : Pool κ} {c : Nat × κ} (h : p.take = some (c, q)) :
    q.backlog < p.backlog :=
  backlog_receive (receive_of_take h)

end Pool

end GridQueue
