/-
# `GridQueue.Proofs.Partners` — a program that is served alone

Where no other program comes between two calls, the answers are a
function of the store: the store in memory answers for itself, and the
other collaborators answer as the `Partners` say.  `serve` is the
execution of a program in this way, and `serve_bind` takes programs in
sequence apart.

That is one of the ways in which a program may go.  What is said of all of
them is proved elsewhere, from the protocol of the program or from the
world it runs in; `serve` shows that there is one, and computes what
becomes of a given store.

The last section has a small store and an agent, to which general results
are applied.
-/
import GridQueue.Matching.Broker
import GridQueue.Store.Memory

namespace GridQueue

/-- How the collaborators other than the store answer. -/
structure Partners where
  requirements : String → String → Site.Requirements := fun _ _ => {}
  issue : TokenRequest → Except CredentialError Token
  revoke : TokenRequest → Except CredentialError Unit := fun _ => .ok ()
  /-- What the clock shows. -/
  now : Instant := ⟨0, false⟩

namespace Partners

variable {α β : Type} {p : Partners} {s s' : Store}

/-- The answer to a call, and the store after it. -/
def reply (p : Partners) : (c : Call) → Store → c.Answer × Store
  | .store c, s => s.perform p.now c
  | .lookup ce site, s => (.ok (p.requirements ce site), s)
  | .issue request, s => (p.issue request, s)
  | .revoke request, s => (p.revoke request, s)
  | .now, s => (p.now, s)
  | .stopwatch, s => (⟨0⟩, s)
  | .note _, s => ((), s)

/-- Serves a program to its end. -/
def serve (p : Partners) : Action α → Store → α × Store
  | .done a, s => (a, s)
  | .call c next, s => p.serve (next (p.reply c s).1) (p.reply c s).2

theorem serve_bind (action : Action α) (f : α → Action β) (s : Store) :
    p.serve (action >>= f) s = p.serve (f (p.serve action s).1) (p.serve action s).2 := by
  induction action generalizing s with
  | done a => rfl
  | call c next ih => exact ih _ _

/-! ## Attempts -/

open Matching

theorem serve_attempt_ok {x : Attempt α} {f : α → Attempt β} {a : α}
    (h : p.serve x.run s = (.ok a, s')) : p.serve (x >>= f).run s = p.serve (f a).run s' := by
  rw [ExceptT.run_bind, serve_bind, h]

theorem serve_ask_bind {c : StoreCall} {v : c.Value} {f : c.Value → Attempt β}
    (h : s.perform p.now c = (.ok v, s')) :
    p.serve (ask c >>= f).run s = p.serve (f v).run s' := by
  have hstore : p.serve (Action.store c) s = (.ok v, s') := h
  refine serve_attempt_ok ?_
  rw [ask, ExceptT.run_mk, serve_bind, hstore]
  rfl

theorem serve_map (x : Attempt α) (f : α → β) (s : Store) :
    p.serve (do return f (← x) : Attempt β).run s =
      ((p.serve x.run s).1.map f, (p.serve x.run s).2) := by
  rw [ExceptT.run_bind, serve_bind]
  cases (p.serve x.run s).1 <;> rfl

end Partners

/-! ## A small store, to try things out -/

/-- A job that an agent runs as the first hand-out. -/
def runningJob (id : Int) : Job :=
  { id
    status := .running
    owner := ⟨"alice", "submit"⟩
    site := some "site"
    ce := some "ce"
    execHost := some "host"
    jdl := ""
    priority := 0
    price := 0.0
    resubmission := 1
    aggregateId := none
    split := none
    masterJob := false
    submittedAt := ⟨0, false⟩
    lastHeartbeat := none }

/-- A job of an aggregate that was never handed out. -/
def waitingJob (id aggregateId : Int) : Job :=
  { runningJob id with
    status := .waiting
    site := none
    ce := none
    execHost := none
    resubmission := 0
    aggregateId := some aggregateId }

/-- An aggregate that stands for so many jobs and may run anywhere. -/
def openAggregate (id counter : Int) : Aggregate :=
  { id
    counter
    user := "alice"
    sites := []
    ces := []
    excludedCes := []
    packages := []
    partitions := []
    excludedPartitions := []
    ttl := 3600
    disk := 0
    priority := 1.0
    price := 1.0
    oldestJob := 0
    remoteAllowed := false
    remoteTimeout := none
    idleSince := ⟨0, false⟩ }

/-- The record of a user that runs nothing. -/
def idleRecord (user : String) : FairShare.Record :=
  { user
    usage :=
      { priority := 1.0, running := 0, maxParallel := 100, last24h := 0, maxTotal := 1000000 }
    userload := 0.0
    weight := 1.0 }

/-- A waiting job, and the aggregate that stands for it. -/
def storeOfOne (jobId aggregateId : Int) : Store :=
  (({} : Store).insertJob (waitingJob jobId aggregateId)).insertAggregate
    (openAggregate aggregateId 1)

/-- The same with a job whose last hand-out had the greatest number. -/
def storeOfLast (jobId aggregateId : Int) : Store :=
  (({} : Store).insertJob
    { waitingJob jobId aggregateId with resubmission := 0x80000000 - 1 }).insertAggregate
    (openAggregate aggregateId 1)

/-- An agent that can take a job of such an aggregate. -/
def agentRequest : Matching.Request :=
  { ce := "ce", site := "site", host := "host", ttl := 7200 }

/-- A token service that gives the same token to everyone. -/
def generousPartners : Partners :=
  { issue := fun _ => .ok ⟨"certificate", "key", none⟩ }

/-- What the agent gets with the first hand-out of such a job. -/
def firstHandOut (jobId : Int) (tier : Matching.Tier) : Matching.AssignedJob :=
  { jobId
    resubmission := 1
    jdl := ""
    owner := ⟨"alice", "submit"⟩
    token := ⟨"certificate", "key", none⟩
    tier }

end GridQueue
