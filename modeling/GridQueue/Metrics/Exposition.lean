/-
# `GridQueue.Metrics.Exposition` — the text form of the counts

Each family of samples has a name, a help line, a kind and its samples;
families stand in the order of their names, samples in the order of
their label values.
-/
import GridQueue.Decimal.Layout
import GridQueue.Metrics.Basic

namespace GridQueue.Metrics

/-- The value of a sample. -/
inductive Number
  | count (n : Nat)
  | real (x : Float)

namespace Number

def layout : Decimal.Layout :=
  { maxWhole := none
    maxZeros := none
    keepFraction := false
    tie := .up
    infinity := "inf"
    notANumber := "NaN" }

def text : Number → String
  | count n => toString n
  | real x => layout.render x

def isZero : Number → Bool
  | count n => n == 0
  | real x => x == 0.0

end Number

/-- One line of values. -/
structure Sample where
  name : String
  /-- Names and values of the labels. -/
  labels : List (String × String)
  value : Number

namespace Sample

/-- A character within the value of a label. -/
def escape (c : Char) : List Char :=
  match c with
  | '\\' => ['\\', '\\']
  | '"' => ['\\', '"']
  | '\n' => ['\\', 'n']
  | c => [c]

def labelText (label : String × String) : String :=
  label.1 ++ "=\"" ++ String.ofList (label.2.toList.flatMap escape) ++ "\""

def key (s : Sample) : String :=
  if s.labels.isEmpty then s.name
  else s.name ++ "\x7b" ++ String.intercalate "," (s.labels.map labelText) ++ "\x7d"

def line (s : Sample) : String := s.key ++ " " ++ s.value.text

end Sample

/-- The kind of a family. -/
inductive Kind
  | counter
  | gauge
  | histogram

def Kind.name : Kind → String
  | counter => "counter"
  | gauge => "gauge"
  | histogram => "histogram"

/-- Samples that belong together. -/
structure Family where
  name : String
  help : String
  kind : Kind
  samples : List Sample

namespace Family

def ofCount (kind : Kind) (name help : String) (n : Nat) : Family :=
  ⟨name, help, kind, [⟨name, [], .count n⟩]⟩

/-- A count for each combination of labels that occurred. -/
def ofTally (name help : String) (labels : List String) (t : Tally) : Family :=
  ⟨name, help, .counter, t.entries.map fun e => ⟨name, labels.zip e.1, .count e.2⟩⟩

/-- A distribution: the values up to each bound, their sum and their
number. -/
def ofHistogram (name help : String) (h : Histogram) : Family :=
  let bucket (bound : String) (n : Nat) : Sample :=
    ⟨name ++ "_bucket", [("le", bound)], .count n⟩
  ⟨name, help, .histogram,
    (h.cumulative.map fun b => bucket (Number.layout.render b.1) b.2)
      ++ [bucket "+Inf" h.count, ⟨name ++ "_sum", [], .real h.sum⟩,
          ⟨name ++ "_count", [], .count h.count⟩]⟩

/-- The lines of a family; none if it has no samples. -/
def lines (f : Family) : List String :=
  if f.samples.isEmpty then []
  else
    ("# HELP " ++ f.name ++ " " ++ f.help) :: ("# TYPE " ++ f.name ++ " " ++ f.kind.name)
      :: f.samples.map Sample.line

end Family

/-- Every family, in the order of their names. -/
def families (m : Metrics) : List Family :=
  [.ofCount .gauge "grid_broker_active_workers" "Number of active workers" m.workers,
   .ofCount .counter "grid_broker_claim_conflicts_total" "Claims lost to a concurrent matcher"
     m.claimConflicts,
   .ofCount .gauge "grid_broker_command_queue_depth" "Commands waiting for a worker"
     m.queueDepth,
   .ofTally "grid_broker_commands_total" "Dispatched commands" ["command", "result"]
     m.commands,
   .ofCount .counter "grid_broker_credential_failures_total" "Credential issuance failures"
     m.credentialFailures,
   .ofHistogram "grid_broker_liveness_sweep_seconds" "Liveness sweep duration in seconds"
     m.sweepLength,
   .ofTally "grid_broker_liveness_transitions_total" "Jobs moved by the liveness monitor"
     ["result", "to"] m.silentJobs,
   .ofHistogram "grid_broker_match_latency_seconds" "Match request latency in seconds"
     m.matchLatency,
   .ofTally "grid_broker_match_requests_total" "Total match requests" ["outcome", "tier"]
     m.matchRequests,
   .ofHistogram "grid_broker_priority_batch_seconds" "Priority batch duration in seconds"
     m.batchLength,
   .ofTally "grid_broker_priority_updates_total" "Computed priority writes" ["result"]
     m.weightWrites,
   .ofHistogram "grid_broker_priority_write_seconds"
     "Single priority row write duration in seconds" m.writeLength]

def lines (m : Metrics) : List String := m.families.flatMap Family.lines

def text (m : Metrics) : String := String.join (m.lines.map (· ++ "\n"))

def nonzero (m : Metrics) : List Sample :=
  (m.families.flatMap Family.samples).filter fun s => !s.value.isZero

end GridQueue.Metrics
