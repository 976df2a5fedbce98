/-
# `GridQueue.Proofs.Accounting.Done` — what a task books is decided by its end

A `Done` is a task with what it ended with.  What matters of it to an
operator is read off the end alone:

    answer?        how a request for work was answered
    command?       the name of a command, and whether it succeeded
    commandLine?   the line of a command in the trace of a job
    sweep?         the report of a sweep
    batch?         the report of a batch

`Task.enters` says that exactly the deeds that go with these show, whatever
was answered on the way.

The deeds of a task are those of its answer, the line of its command and
what it notes at its end, one list after another (`Done.deeds`).  What is
noted shows in the counts alone (`isNoted`), so the lines and the hand-outs
of a task are read off the first two.
-/
import GridQueue.Proofs.Accounting.Programs

namespace GridQueue

/-! ## Tasks that are done -/

/-- A task, and what it ended with. -/
structure Done where
  task : Task
  result : task.Result

namespace Done

/-- The answer to the request for work in a task, and the computing element
it went to. -/
def answer? : Done → Option (String × Except BrokerError Matching.Outcome)
  | ⟨.request _ r, result⟩ => some (r.ce, result)
  | ⟨.command _ (.matchJob r), result⟩ => (Command.answer? result).map fun a => (r.ce, a)
  | _ => none

/-- The name of a command, and whether it succeeded. -/
def command? : Done → Option (String × Bool)
  | ⟨.command _ c, result⟩ => some (c.name, Command.succeeded result)
  | _ => none

def sweep? : Done → Option Liveness.Report
  | ⟨.sweep _ _, .ok report⟩ | ⟨.cycle _ _, .ok report⟩ => some report
  | _ => none

def batch? : Done → Option FairShare.BatchReport
  | ⟨.batch _, .ok report⟩ | ⟨.batchIfDue _ _ _, .ok (some report)⟩ => some report
  | _ => none

/-- The line of a command that asks for no work. -/
def commandLine? : Done → Option (Int × String × String)
  | ⟨.command _ c, result⟩ => c.line? result
  | _ => none

/-- The line that the answer to a request for work adds to the trace of a
job: for a hand-out, and for a claim that was taken back. -/
def answerLine? (ce : String) : Except BrokerError Matching.Outcome → Option (Int × String × String)
  | .ok (.assigned job) => some (job.jobId, Matching.traceTag, "job assigned to " ++ ce)
  | .error (.credential jobId e) =>
      some (jobId, Matching.traceTag, "credential issuance failed: " ++ e.message)
  | _ => none

/-- The lines a task adds to traces. -/
def allLines (d : Done) : List (Int × String × String) :=
  (d.answer?.bind fun a => answerLine? a.1 a.2).toList ++ d.commandLine?.toList

/-- What a line says, if it is for this job. -/
def pick (jobId : Int) (line : Int × String × String) : Option (String × String) :=
  if line.1 = jobId then some line.2 else none

/-- The lines a task adds to the trace of a job. -/
def lines (d : Done) (jobId : Int) : List (String × String) := d.allLines.filterMap (pick jobId)

/-- The jobs a sweep moved to a status of this name. -/
def moved (d : Done) (target : String) : Nat :=
  match d.sweep? with
  | some (.completed zombie expired _) =>
      (if target = Status.zombie.name then zombie.moved else 0)
        + (if target = Status.expired.name then expired.moved else 0)
  | some .skipped | none => 0

def updated (d : Done) : Nat :=
  match d.batch? with
  | some report => report.updated
  | none => 0

/-- A claim found that another had taken the last job. -/
def isConflict (d : Done) : Bool :=
  match d.answer? with
  | some (_, .ok (.nothingToRun .claimConflict)) => true
  | _ => false

/-- No token could be had for a claimed job. -/
def lacksToken (d : Done) : Bool :=
  match d.answer? with
  | some (_, .error (.credential _ _)) => true
  | _ => false

/-- A job was handed to an agent of this computing element. -/
def handsOutTo (ce : String) (d : Done) : Bool :=
  match d.answer? with
  | some (ce', .ok (.assigned _)) => ce' == ce
  | _ => false

/-- What sweeps, batches and the ends of commands book. -/
def notes (d : Done) : List Deed :=
  d.sweep?.elim [] Liveness.reportDeeds ++ d.batch?.elim [] FairShare.reportDeeds
    ++ d.command?.elim [] fun c => [.commandEnded c.1 c.2]

def deeds (d : Done) : List Deed :=
  (d.answer?.elim [] fun a => Matching.answerDeeds a.1 a.2)
    ++ d.commandLine?.toList.map Deed.ofLine ++ d.notes

end Done

/-- What a task ends with goes with the task: a request for work was
answered. -/
def Done.Sound (d : Done) : Prop := d.task.request?.isSome = d.answer?.isSome

/-- A program books what its task ends with. -/
def Task.EntersResult (t : Task) (p : Action t.Result) : Prop :=
  Enters p fun deeds result => deeds = Done.deeds ⟨t, result⟩ ∧ Done.Sound ⟨t, result⟩

theorem Command.EntersLine.dispatch {settings : BrokerSettings} {c : Command}
    (h : EntersLine (c.execute settings) c) (hrequest : (Task.command settings c).request? = none)
    (hanswer : ∀ result, Done.answer? ⟨.command settings c, result⟩ = none) :
    (Task.command settings c).EntersResult (c.dispatch settings) := by
  refine enters_dispatch (h.mono ?_)
  rintro _ result rfl
  let d : Done := ⟨.command settings c, result⟩
  have hd : d.answer? = none := hanswer result
  refine ⟨?_, ?_⟩
  · show _ = d.deeds
    rw [Done.deeds, hd]
    exact congrArg (· ++ _) (List.nil_append _).symm
  · show d.task.request?.isSome = d.answer?.isSome
    rw [hd, hrequest]
    rfl

theorem Done.deeds_of_sweep? (d : Done) (hanswer : d.answer? = none)
    (hline : d.commandLine? = none) (hbatch : d.batch? = none) (hcommand : d.command? = none) :
    d.deeds = d.sweep?.elim [] Liveness.reportDeeds := by
  rw [deeds, notes, hanswer, hline, hbatch, hcommand]
  simp only [Option.elim_none, Option.toList_none, List.map_nil, List.append_nil, List.nil_append]

theorem Done.deeds_of_batch? (d : Done) (hanswer : d.answer? = none)
    (hline : d.commandLine? = none) (hsweep : d.sweep? = none) (hcommand : d.command? = none) :
    d.deeds = d.batch?.elim [] FairShare.reportDeeds := by
  rw [deeds, notes, hanswer, hline, hsweep, hcommand]
  simp only [Option.elim_none, Option.toList_none, List.map_nil, List.append_nil, List.nil_append]

theorem Task.enters (t : Task) : t.EntersResult t.program := by
  cases t with
  | request settings r =>
    refine (Matching.enters_matchJob settings r).mono ?_
    rintro _ result rfl
    refine ⟨?_, rfl⟩
    show _ = Matching.answerDeeds r.ce result ++ [] ++ []
    simp only [List.append_nil]
  | command settings c =>
    cases c with
    | matchJob r =>
      refine Command.enters_dispatch ((Command.enters_runMatch settings r).mono ?_)
      rintro _ result ⟨answer, hanswer, rfl⟩
      let d : Done := ⟨.command settings (.matchJob r), result⟩
      have hd : d.answer? = some (r.ce, answer) := congrArg (Option.map (Prod.mk r.ce)) hanswer
      refine ⟨?_, ?_⟩
      · show _ = d.deeds
        rw [Done.deeds, hd]
        exact congrArg (· ++ _) (List.append_nil _).symm
      · show d.task.request?.isSome = d.answer?.isSome
        rw [hd]
        rfl
    | getJobs ids =>
      refine Command.EntersLine.dispatch ?_ rfl fun _ => rfl
      exact Command.enters_runGetJobs ids
    | setJobStatus jobId n status =>
      refine Command.EntersLine.dispatch ?_ rfl fun _ => rfl
      exact Command.enters_respond rfl fun _ => rfl
    | heartbeat jobId n =>
      refine Command.EntersLine.dispatch ?_ rfl fun _ => rfl
      exact Command.enters_respond rfl fun _ => rfl
    | appendTrace jobId tag message =>
      refine Command.EntersLine.dispatch ?_ rfl fun _ => rfl
      exact Command.enters_runAppendTrace jobId tag message
    | forceJobStatus jobId status =>
      refine Command.EntersLine.dispatch ?_ rfl fun _ => rfl
      exact Command.enters_runForce jobId status
  | sweep settings now =>
    refine (Liveness.enters_sweep settings now).mono ?_
    rintro _ (_ | report) rfl
    · exact ⟨rfl, rfl⟩
    · let d : Done := ⟨.sweep settings now, .ok report⟩
      exact ⟨(d.deeds_of_sweep? rfl rfl rfl rfl).symm, rfl⟩
  | cycle settings owner =>
    refine (Liveness.enters_cycle settings owner).mono ?_
    rintro _ (_ | report) rfl
    · exact ⟨rfl, rfl⟩
    · let d : Done := ⟨.cycle settings owner, .ok report⟩
      exact ⟨(d.deeds_of_sweep? rfl rfl rfl rfl).symm, rfl⟩
  | batch scope =>
    refine (FairShare.enters_batch scope).mono ?_
    rintro _ (_ | report) rfl
    · exact ⟨rfl, rfl⟩
    · let d : Done := ⟨.batch scope, .ok report⟩
      exact ⟨(d.deeds_of_batch? rfl rfl rfl rfl).symm, rfl⟩
  | batchIfDue scope owner interval =>
    refine (FairShare.enters_batchIfDue scope owner interval).mono ?_
    rintro _ (_ | _ | report) rfl
    · exact ⟨rfl, rfl⟩
    · exact ⟨rfl, rfl⟩
    · let d : Done := ⟨.batchIfDue scope owner interval, .ok (some report)⟩
      exact ⟨(d.deeds_of_batch? rfl rfl rfl rfl).symm, rfl⟩

/-! ## What a task adds to queues and traces -/

namespace Deed

/-- A deed that shows in the counts alone. -/
def isNoted : Deed → Bool
  | handedOut _ | traced _ _ _ => false
  | _ => true

variable {deeds : List Deed}

theorem filterMap_line?_of_isNoted (h : ∀ d ∈ deeds, d.isNoted = true) (jobId : Int) :
    deeds.filterMap (line? jobId) = [] := by
  rw [List.filterMap_eq_nil_iff]
  intro d hd
  cases d with
  | traced => exact absurd (h _ hd) Bool.false_ne_true
  | _ => rfl

theorem count_handedOut_of_isNoted (h : ∀ d ∈ deeds, d.isNoted = true) (ce : String) :
    deeds.count (.handedOut ce) = 0 := by
  rw [List.count_eq_zero]
  exact fun hmem => absurd (h _ hmem) Bool.false_ne_true

end Deed

namespace Done

theorem isNoted_reportDeeds (report : Liveness.Report) :
    ∀ deed ∈ Liveness.reportDeeds report, deed.isNoted = true := by
  intro deed hdeed
  cases report with
  | skipped => cases hdeed
  | completed zombie expired duration =>
    rcases List.mem_append.mp hdeed with hdeed | hdeed
    · rw [List.eq_of_mem_replicate hdeed]
      rfl
    · rw [List.eq_of_mem_replicate hdeed]
      rfl

theorem isNoted_notes (d : Done) : ∀ deed ∈ d.notes, deed.isNoted = true := by
  intro deed hdeed
  rcases List.mem_append.mp hdeed with hdeed | hdeed
  · rcases List.mem_append.mp hdeed with hdeed | hdeed
    · cases hsweep : d.sweep? with
      | none => simp [hsweep] at hdeed
      | some report =>
        rw [hsweep] at hdeed
        exact isNoted_reportDeeds report deed hdeed
    · cases hbatch : d.batch? with
      | none => simp [hbatch] at hdeed
      | some report =>
        rw [hbatch] at hdeed
        rw [List.eq_of_mem_replicate hdeed]
        rfl
  · cases hcommand : d.command? with
    | none => simp [hcommand] at hdeed
    | some c =>
      rw [hcommand] at hdeed
      rw [List.mem_singleton.mp hdeed]
      rfl

theorem filterMap_line?_answerDeeds (jobId : Int) (ce : String)
    (r : Except BrokerError Matching.Outcome) :
    (Matching.answerDeeds ce r).filterMap (Deed.line? jobId) =
      (answerLine? ce r).toList.filterMap (pick jobId) := by
  match r with
  | .ok (.assigned job) => rfl
  | .ok (.installPackages packages tier) => rfl
  | .ok (.nothingToRun reason) => cases reason <;> rfl
  | .error e => cases e <;> rfl

theorem filterMap_line?_deeds (d : Done) (jobId : Int) :
    d.deeds.filterMap (Deed.line? jobId) = d.lines jobId := by
  have hanswer : (d.answer?.elim [] fun a => Matching.answerDeeds a.1 a.2).filterMap
      (Deed.line? jobId) = (d.answer?.bind fun a => answerLine? a.1 a.2).toList.filterMap
        (pick jobId) := by
    cases d.answer? with
    | none => rfl
    | some a => exact filterMap_line?_answerDeeds jobId a.1 a.2
  have hcommand : (d.commandLine?.toList.map Deed.ofLine).filterMap (Deed.line? jobId) =
      d.commandLine?.toList.filterMap (pick jobId) := List.filterMap_map
  rw [deeds, List.filterMap_append, List.filterMap_append, hanswer, hcommand,
    Deed.filterMap_line?_of_isNoted d.isNoted_notes, List.append_nil, lines, allLines,
    List.filterMap_append]

theorem count_handedOut_deeds (d : Done) (ce : String) :
    d.deeds.count (.handedOut ce) = if d.handsOutTo ce then 1 else 0 := by
  have hanswer : (d.answer?.elim [] fun a => Matching.answerDeeds a.1 a.2).count (.handedOut ce) =
      if d.handsOutTo ce then 1 else 0 := by
    rw [handsOutTo]
    match d.answer? with
    | none => rfl
    | some (ce', .ok (.assigned job)) =>
      show ([.traced _ _ _, .handedOut ce'] ++ [.matchEnded _ _] : List Deed).count _ = _
      simp [List.count_cons]
    | some (ce', .ok (.installPackages packages tier)) => rfl
    | some (ce', .ok (.nothingToRun reason)) => cases reason <;> rfl
    | some (ce', .error e) => cases e <;> rfl
  have hlines : (d.commandLine?.toList.map Deed.ofLine).count (.handedOut ce) = 0 := by
    rw [List.count_eq_zero]
    rintro hmem
    obtain ⟨line, -, hline⟩ := List.mem_map.mp hmem
    cases hline
  rw [deeds, List.count_append, List.count_append, hanswer, hlines,
    Deed.count_handedOut_of_isNoted d.isNoted_notes]
  rfl

end Done

end GridQueue
