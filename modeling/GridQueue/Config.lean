/-
# `GridQueue.Config` — the configuration of an instance

Every value has a default and can be set by an environment variable; only
the database must be named.  Variables are read in a fixed order and the
first one that cannot be read is reported; then the values are checked
against `rules`, again in order.
-/
import GridQueue.Decimal.Integer
import GridQueue.Settings
import GridQueue.Store.Basic
import GridQueue.Text.Blank

namespace GridQueue

/-- Why there is no configuration. -/
inductive ConfigError
  | missing (name : String)
  | invalid (name detail : String)
  | refused (reason : String)
  deriving DecidableEq

def ConfigError.message : ConfigError → String
  | missing v => "Missing environment variable: " ++ v
  | invalid v m => "Invalid value for " ++ v ++ ": " ++ m
  | refused m => "Configuration validation failed: " ++ m

/-- The configuration of an instance. -/
structure Config where
  databaseUrl : String := "postgres://localhost/grid_broker"
  maxConnections : Nat := 16
  timeouts : Timeouts := {}
  workers : Nat := 8
  queueCapacity : Nat := 256
  liveness : LivenessSettings := {}
  priorityInterval : Span := .ofSeconds 300
  /-- Recompute the weights of active users only. -/
  priorityActiveOnly : Bool := true
  broker : BrokerSettings := {}
  tokenServiceUrl : Option String := none
  /-- The file of the site directory; no site has requirements without
  one. -/
  siteDirectory : Option String := none
  /-- The name under which this instance takes turns with others. -/
  instanceName : String
  /-- The file to write counts to. -/
  metricsFile : Option String := none

namespace Config

/-- The name of an instance: that of its host, or else of its process. -/
def defaultName (hostName : Option String) (processName : String) : String :=
  ((hostName.filter fun h => !Text.isBlankText h)).getD processName

/-- The part of the configuration for the worker pool. -/
def pool (c : Config) : PoolSettings :=
  { workers := c.workers, capacity := c.queueCapacity }

def scope (c : Config) : Scope := if c.priorityActiveOnly then .activeOnly else .all

/-! ## Checks -/

def positive (d : Span) : Bool := decide (0 < d.nanos)

/-- What must hold of a configuration, and what is said if it does not. -/
def rules : List ((Config → Bool) × String) :=
  [(fun c => c.databaseUrl != "", "database_url cannot be empty"),
   (fun c => c.maxConnections != 0, "max_connections must be greater than 0"),
   (fun c => positive c.timeouts.query && positive c.timeouts.claim,
     "query_timeout and claim_timeout must be greater than 0"),
   (fun c => c.workers != 0, "workers must be greater than 0"),
   (fun c => c.queueCapacity != 0, "command_queue_capacity must be greater than 0"),
   (fun c => positive c.liveness.interval && positive c.priorityInterval,
     "liveness_interval and priority_interval must be greater than 0"),
   (fun c => positive c.liveness.zombieAfter, "zombie_after must be greater than 0"),
   (fun c => decide (c.liveness.interval.nanos ≤ c.liveness.zombieAfter.nanos),
     "liveness_interval cannot exceed zombie_after"),
   (fun c => decide (0 ≤ c.broker.remoteTimeout), "remote_timeout_secs cannot be negative"),
   (fun c => positive c.broker.tokenValidity, "token_validity must be greater than 0"),
   (fun c => !Text.isBlankText c.broker.principal, "token_principal cannot be empty"),
   (fun c => !Text.isBlankText c.instanceName, "instance cannot be empty")]

/-- The configuration if it meets every rule. -/
def checked (c : Config) : Except ConfigError Config :=
  match rules.find? fun r => !r.1 c with
  | some r => .error (.refused r.2)
  | none => .ok c

/-! ## Environment variables -/

/-- A value in an environment variable that cannot be read. -/
def unreadable {α : Type} (name value : String) : Except ConfigError α :=
  .error (.invalid name ("could not parse '" ++ value ++ "'"))

def readNat (bound : Nat) (name value : String) : Except ConfigError Nat :=
  match Decimal.unsigned? (Text.trimChars value.toList) with
  | some n => if n < bound then .ok n else unreadable name value
  | none => unreadable name value

/-- An integer of 64 bits with sign. -/
def readInt (name value : String) : Except ConfigError Int :=
  match Decimal.signed? (Text.trimChars value.toList) with
  | some n => if -0x8000000000000000 ≤ n ∧ n < 0x8000000000000000 then .ok n else unreadable name value
  | none => unreadable name value

def readSeconds (name value : String) : Except ConfigError Span :=
  (readNat 0x10000000000000000 name value).map Span.ofSeconds

def readBool (name value : String) : Except ConfigError Bool :=
  let word := String.ofList (value.toList.map Char.toLower)
  if ["true", "1", "yes", "on"].contains word then .ok true
  else if ["false", "0", "no", "off"].contains word then .ok false
  else .error (.invalid name ("expected boolean value, got '" ++ value ++ "'"))

/-- A variable and what its value changes. -/
structure Variable where
  name : String
  set : Config → String → Except ConfigError Config

/-- A variable whose value is read in one way and put into one place. -/
def variableOf {α : Type} (name : String) (read : String → String → Except ConfigError α)
    (put : Config → α → Config) : Variable :=
  ⟨name, fun c value => (read name value).map (put c)⟩

def textVariable (name : String) (put : Config → String → Config) : Variable :=
  ⟨name, fun c value => .ok (put c value)⟩

/-- The variables that may be set, in the order they are read. -/
def known : List Variable :=
  [variableOf "BROKER_DB_MAX_CONNECTIONS" (readNat 0x100000000)
     fun c n => { c with maxConnections := n },
   variableOf "BROKER_QUERY_TIMEOUT_SECS" readSeconds
     fun c d => { c with timeouts := { c.timeouts with query := d } },
   variableOf "BROKER_CLAIM_TIMEOUT_SECS" readSeconds
     fun c d => { c with timeouts := { c.timeouts with claim := d } },
   variableOf "BROKER_WORKERS" (readNat 0x10000000000000000) fun c n => { c with workers := n },
   variableOf "BROKER_COMMAND_QUEUE_CAPACITY" (readNat 0x10000000000000000)
     fun c n => { c with queueCapacity := n },
   variableOf "BROKER_LIVENESS_INTERVAL_SECS" readSeconds
     fun c d => { c with liveness := { c.liveness with interval := d } },
   variableOf "BROKER_ZOMBIE_AFTER_SECS" readSeconds
     fun c d => { c with liveness := { c.liveness with zombieAfter := d } },
   variableOf "BROKER_EXPIRE_AFTER_SECS" readSeconds
     fun c d => { c with liveness := { c.liveness with expireAfter := d } },
   variableOf "BROKER_PRIORITY_INTERVAL_SECS" readSeconds
     fun c d => { c with priorityInterval := d },
   variableOf "BROKER_PRIORITY_ACTIVE_ONLY" readBool
     fun c b => { c with priorityActiveOnly := b },
   variableOf "BROKER_REMOTE_TIMEOUT_SECS" readInt
     fun c n => { c with broker := { c.broker with remoteTimeout := n } },
   variableOf "BROKER_TOKEN_VALIDITY_SECS" readSeconds
     fun c d => { c with broker := { c.broker with tokenValidity := d } },
   textVariable "BROKER_TOKEN_PRINCIPAL"
     fun c s => { c with broker := { c.broker with principal := s } },
   textVariable "BROKER_TOKEN_SERVICE_URL" fun c s => { c with tokenServiceUrl := some s },
   textVariable "BROKER_SITE_DIRECTORY" fun c s => { c with siteDirectory := some s },
   textVariable "BROKER_INSTANCE" fun c s => { c with instanceName := s },
   textVariable "BROKER_METRICS_FILE" fun c s => { c with metricsFile := some s }]

/-- Takes a variable into account if it is set. -/
def apply (env : String → Option String) (c : Config) (v : Variable) :
    Except ConfigError Config :=
  match env v.name with
  | some value => v.set c value
  | none => .ok c

def ofEnv (env : String → Option String) (processName : String) :
    Except ConfigError Config := do
  match env "DATABASE_URL" with
  | none => .error (.missing "DATABASE_URL")
  | some url =>
      let start : Config :=
        { databaseUrl := url, instanceName := defaultName (env "HOSTNAME") processName }
      let c ← known.foldlM (apply env) start
      c.checked

end Config

end GridQueue
