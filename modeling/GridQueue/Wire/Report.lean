/-
# `GridQueue.Wire.Report` — reports of periodic tasks as JSON

A report is written for the operator and never read back.  The report of a
sweep says whether the sweep took place at all; spans are whole
milliseconds.
-/
import GridQueue.FairShare.Batch
import GridQueue.Json.Basic
import GridQueue.Liveness

namespace GridQueue

open Json

def Liveness.PassCounts.toJson (c : Liveness.PassCounts) : Json :=
  .obj
    [("candidates", .int c.candidates),
     ("moved", .int c.moved),
     ("skipped", .int c.skipped),
     ("failed", .int c.failed)]

def Liveness.Report.toJson : Liveness.Report → Json
  | skipped => .obj [("result", .str "skipped")]
  | completed zombie expired duration =>
      .obj
        [("result", .str "completed"),
         ("zombie", zombie.toJson),
         ("expired", expired.toJson),
         ("duration_ms", .int duration.millis)]

def FairShare.BatchReport.toJson (r : FairShare.BatchReport) : Json :=
  .obj
    [("rows", .int r.rows),
     ("updated", .int r.updated),
     ("failed", .int r.failed),
     ("quota_exceeded", .int r.overQuota),
     ("duration", .int r.duration.millis)]

end GridQueue
