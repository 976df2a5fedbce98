/-
# `GridQueue.Simulation.Environment` — collaborators that live in memory

The broker's programs run against a store in memory, a fixed site
directory, a token service that issues a token for every request, and a
clock that shows what it is set to; the steady clock stands still.  A
list of faults makes calls fail on demand.

Counters may be checked.  Then a call that makes one leave its width ends
the task that made the call, in the middle of what it writes (`overrun?`).
Unchecked, the counter goes on as the store's own operations have it.
-/
import GridQueue.Metrics.Basic
import GridQueue.Simulation.Fault
import GridQueue.Store.Memory

namespace GridQueue

/-- What stands in the store when a call ends midway because a counter would
leave its width. -/
def Store.overrun? (s : Store) (now : Instant) : StoreCall → Option Store
  | .claimWaiting aggregateId target =>
      match s.firstWaiting? aggregateId with
      | none => none
      | some j =>
          if FitsInt32 (j.resubmission + 1) then none
          else
            let row := claimed j target now
            some (s.insertJob
              { row with resubmission := j.resubmission, lastHeartbeat := j.lastHeartbeat })
  | .decrement aggregateId _ =>
      match s.aggregates.get? aggregateId with
      | none => none
      | some a => if FitsInt64 (a.counter - 1) then none else some s
  | .adjustCounters ce site assigned waiting =>
      let q := { s.queueOr ce site now with ce, site }
      if ¬ FitsInt64 (q.assigned + assigned) then some (s.putQueue q)
      else if ¬ FitsInt64 (q.waiting + waiting) then
        some (s.putQueue { q with assigned := max (q.assigned + assigned) 0 })
      else none
  | _ => none

namespace Simulation

/-- A request that reached the token service. -/
inductive TokenEvent
  | issued (request : TokenRequest)
  | revoked (request : TokenRequest)
  deriving DecidableEq

/-- The state of the collaborators. -/
structure Environment where
  clock : Instant
  store : Store := {}
  directory : Site.Directory := []
  /-- What reached the token service, in order. -/
  tokenLog : List TokenEvent := []
  metrics : Metrics := {}
  faults : List Fault := []
  /-- No counter may leave its width. -/
  checked : Bool := true
  /-- One did, and the task at work came to its end. -/
  overran : Bool := false

namespace Environment

/-- The token that is issued for a request. -/
def tokenFor (request : TokenRequest) : Token :=
  { certificate := "cert-" ++ request.extension
    privateKey := "key-" ++ request.username
    serial := none }

def storeCall (env : Environment) (c : StoreCall) :
    Option (Except StoreError c.Value) × Environment :=
  let (effect, faults) := trigger c.name env.faults
  let env := { env with faults }
  match effect with
  | some .hang => (none, env)
  | some .empty => (some (.ok c.nothing), env)
  | some (.store e) => (some (.error e), env)
  | _ =>
      match if env.checked then env.store.overrun? env.clock c else none with
      | some store => (none, { env with store, overran := true })
      | none =>
          let (result, store) := env.store.perform env.clock c
          (some result, { env with store })

/-- Answers a question to the site directory. -/
def lookupCall (env : Environment) (ce site : String) :
    Option (Except DirectoryError Site.Requirements) × Environment :=
  let (effect, faults) := trigger "lookup" env.faults
  let env := { env with faults }
  match effect with
  | some .hang => (none, env)
  | some .empty => (some (.ok {}), env)
  | some (.directory e) => (some (.error e), env)
  | _ => (some (.ok (env.directory.lookup ce site)), env)

def issueCall (env : Environment) (request : TokenRequest) :
    Option (Except CredentialError Token) × Environment :=
  let (effect, faults) := trigger "issue" env.faults
  let env := { env with faults, tokenLog := env.tokenLog ++ [.issued request] }
  match effect with
  | some .hang => (none, env)
  | some (.credential e) => (some (.error e), env)
  | _ => (some (.ok (tokenFor request)), env)

def revokeCall (env : Environment) (request : TokenRequest) :
    Option (Except CredentialError Unit) × Environment :=
  let (effect, faults) := trigger "revoke" env.faults
  let env := { env with faults, tokenLog := env.tokenLog ++ [.revoked request] }
  match effect with
  | some .hang => (none, env)
  | some (.credential e) => (some (.error e), env)
  | _ => (some (.ok ()), env)

def answer : Program.Answering Call Call.Answer Environment
  | .store c, env => env.storeCall c
  | .lookup ce site, env => env.lookupCall ce site
  | .issue request, env => env.issueCall request
  | .revoke request, env => env.revokeCall request
  | .now, env => (some env.clock, env)
  | .stopwatch, env => (some ⟨0⟩, env)
  | .note event, env => (some (), { env with metrics := env.metrics.record event })

/-- Runs a program; there is no value if one of its calls never returns or
ends it. -/
def run {α : Type} (env : Environment) (p : Action α) : Option α × Environment :=
  Program.run answer p { env with overran := false }

end Environment

end Simulation

end GridQueue
