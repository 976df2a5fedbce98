/-
# `GridQueue.Proofs.Accounting.History` — the books agree with what happened

Tasks are executed one after another on a steady store whose counts are
kept; a history is the list of what they ended with.  Each quantity an
operator reads grows by what each task adds to it (`Quantity.due`), the
queue of a computing element by the jobs handed to its agents, and the
trace of a job by the lines of each task, in their order.

`accounts_agree` says so of every history: whatever the directory and the
token service answer, and whatever the clock shows.  It counts hand-outs to
the agents of a computing element as long as 64 bits hold them; from there
the counter starts over (`full_counter_starts_over`).

Hand-outs and lines are counted in the deeds of a history, in their order;
`Quantity.countP_history` is the induction, and what one task adds was
found in `GridQueue.Proofs.Accounting.Done`.  A history that begins on any
books can be computed for given partners (`finishAll`), as the day at the
end is.
-/
import GridQueue.Proofs.Accounting.Done

namespace GridQueue

/-! ## What a task adds to a quantity -/

theorem Matching.countP_deeds_requests (ce : String) (r : Except BrokerError Matching.Outcome)
    (outcome tier : String) :
    (Matching.deeds ce r).countP (Quantity.requests outcome tier).counts = 0 := by
  match r with
  | .ok (.assigned job) => rfl
  | .ok (.installPackages packages tier) => rfl
  | .ok (.nothingToRun reason) => cases reason <;> rfl
  | .error e => cases e <;> rfl

namespace Quantity

/-- What an answer to a request for work adds to a quantity. -/
def ofAnswer : Quantity → Except BrokerError Matching.Outcome → Nat
  | requests outcome tier, r => if Matching.resultLabels r = (outcome, tier) then 1 else 0
  | allRequests, _ | latencies, _ => 1
  | claimConflicts, .ok (.nothingToRun .claimConflict) => 1
  | credentialFailures, .error (.credential _ _) => 1
  | _, _ => 0

theorem countP_answerDeeds (q : Quantity) (ce : String)
    (r : Except BrokerError Matching.Outcome) :
    (Matching.answerDeeds ce r).countP q.counts = q.ofAnswer r := by
  cases q with
  | requests outcome tier =>
    have hlabels : counts (.requests outcome tier) (.matchEnded (Matching.resultLabels r).1
        (Matching.resultLabels r).2) = true ↔ Matching.resultLabels r = (outcome, tier) := by
      rw [counts, beq_iff_eq, Deed.matchEnded.injEq, Prod.ext_iff]
    rw [Matching.answerDeeds, List.countP_append, Matching.countP_deeds_requests,
      List.countP_singleton, Nat.zero_add]
    simp only [hlabels, ofAnswer]
  | _ =>
    match r with
    | .ok (.assigned job) => rfl
    | .ok (.installPackages packages tier) => rfl
    | .ok (.nothingToRun reason) => cases reason <;> rfl
    | .error e => cases e <;> rfl

theorem countP_lines (q : Quantity) (lines : List (Int × String × String)) :
    (lines.map Deed.ofLine).countP q.counts = 0 := by
  rw [List.countP_map, List.countP_eq_zero]
  intro line _
  cases q <;> exact Bool.false_ne_true

/-- What the report of a sweep adds to a quantity. -/
def ofReport : Quantity → Liveness.Report → Nat
  | silentJobs target, .completed zombie expired _ =>
      (if target = Status.zombie.name then zombie.moved else 0)
        + (if target = Status.expired.name then expired.moved else 0)
  | _, _ => 0

theorem countP_passDeeds (target : String) (status : Status) (counts : Liveness.PassCounts) :
    (Liveness.passDeeds status counts).countP (silentJobs target).counts =
      if target = status.name then counts.moved else 0 := by
  have hcounts : (silentJobs target).counts (.silentJob status.name) = true ↔
      target = status.name := by
    rw [Quantity.counts, beq_iff_eq, Deed.silentJob.injEq, eq_comm]
  rw [Liveness.passDeeds, List.countP_replicate]
  simp only [hcounts]

theorem countP_reportDeeds (q : Quantity) (report : Liveness.Report) :
    (Liveness.reportDeeds report).countP q.counts = q.ofReport report := by
  cases report with
  | skipped => cases q <;> rfl
  | completed zombie expired duration =>
    cases q with
    | silentJobs target =>
      rw [Liveness.reportDeeds, List.countP_append, countP_passDeeds, countP_passDeeds, ofReport]
    | _ =>
      rw [Liveness.reportDeeds, List.countP_append, Liveness.passDeeds, Liveness.passDeeds,
        List.countP_replicate, List.countP_replicate]
      rfl

/-- What the report of a batch adds to a quantity. -/
def ofBatch : Quantity → FairShare.BatchReport → Nat
  | weightWrites, report => report.updated
  | _, _ => 0

theorem countP_batchDeeds (q : Quantity) (report : FairShare.BatchReport) :
    (FairShare.reportDeeds report).countP q.counts = q.ofBatch report := by
  rw [FairShare.reportDeeds, List.countP_replicate]
  cases q <;> rfl

/-- What the end of a command adds to a quantity. -/
def ofCommand : Quantity → String × Bool → Nat
  | commands name success, c => if c = (name, success) then 1 else 0
  | _, _ => 0

theorem countP_commandEnded (q : Quantity) (c : String × Bool) :
    [Deed.commandEnded c.1 c.2].countP q.counts = q.ofCommand c := by
  cases q with
  | commands name success =>
    have hcounts : (commands name success).counts (.commandEnded c.1 c.2) = true ↔
        c = (name, success) := by
      rw [counts, beq_iff_eq, Deed.commandEnded.injEq, Prod.ext_iff]
    rw [List.countP_singleton]
    simp only [hcounts, ofCommand]
  | _ => rfl

/-- What a task adds to a quantity by what it ended with. -/
def due (q : Quantity) (d : Done) : Nat :=
  (d.answer?.elim 0 fun a => q.ofAnswer a.2) + d.sweep?.elim 0 q.ofReport
    + d.batch?.elim 0 q.ofBatch + d.command?.elim 0 q.ofCommand

theorem countP_elim {α : Type} (q : Quantity) {o : Option α} {of : α → List Deed} {n : α → Nat}
    (h : ∀ a, (of a).countP q.counts = n a) : (o.elim [] of).countP q.counts = o.elim 0 n := by
  cases o with
  | none => rfl
  | some a => exact h a

theorem countP_deeds (q : Quantity) (d : Done) : d.deeds.countP q.counts = q.due d := by
  have hanswer : (d.answer?.elim [] fun a => Matching.answerDeeds a.1 a.2).countP q.counts =
      d.answer?.elim 0 fun a => q.ofAnswer a.2 :=
    q.countP_elim fun a => q.countP_answerDeeds a.1 a.2
  have hnotes : d.notes.countP q.counts = d.sweep?.elim 0 q.ofReport + d.batch?.elim 0 q.ofBatch
      + d.command?.elim 0 q.ofCommand := by
    rw [Done.notes, List.countP_append, List.countP_append, q.countP_elim q.countP_reportDeeds,
      q.countP_elim q.countP_batchDeeds, q.countP_elim q.countP_commandEnded]
  rw [Done.deeds, List.countP_append, List.countP_append, hanswer, countP_lines, hnotes, due]
  simp only [Nat.add_zero, Nat.add_assoc]

end Quantity

/-! ## Histories -/

/-- Tasks are executed one after another, each from its first call to its
last. -/
inductive Handled : Office → List Done → Office → Prop
  | nil {b} : Handled b [] b
  | cons {b t result b₁ history b'} : t.program.Yields office b result b₁ →
      Handled b₁ history b' → Handled b (⟨t, result⟩ :: history) b'

variable {b b' : Office} {history : List Done}

theorem Handled.booked (h : Handled b history b') :
    Booked (history.flatMap Done.deeds) b b' ∧ ∀ d ∈ history, d.Sound := by
  induction h with
  | nil => exact ⟨.refl _, fun _ hd => nomatch hd⟩
  | @cons b t result b₁ history b' hyields _ ih =>
    obtain ⟨deeds, ⟨rfl, hsound⟩, hbooked⟩ := t.enters hyields
    exact ⟨hbooked.trans ih.1, List.forall_mem_cons.mpr ⟨hsound, ih.2⟩⟩

theorem Quantity.countP_history (q : Quantity) (history : List Done) :
    (history.flatMap Done.deeds).countP q.counts = (history.map q.due).sum := by
  rw [List.countP_flatMap]
  exact congrArg List.sum (List.map_congr_left fun d _ => q.countP_deeds d)

/-- Where each task adds one or nothing, the tasks that add one are
counted. -/
theorem sum_map_eq_countP {w : Done → Nat} {p : Done → Bool}
    (h : ∀ d ∈ history, w d = if p d then 1 else 0) : (history.map w).sum = history.countP p := by
  induction history with
  | nil => rfl
  | cons d rest ih =>
    obtain ⟨hd, hrest⟩ := List.forall_mem_cons.mp h
    rw [List.map_cons, List.sum_cons, hd, ih hrest, List.countP_cons, Nat.add_comm]

theorem count_handedOut_history (history : List Done) (ce : String) :
    (history.flatMap Done.deeds).count (.handedOut ce) = history.countP (Done.handsOutTo ce) := by
  rw [List.count_flatMap]
  exact sum_map_eq_countP fun d _ => d.count_handedOut_deeds ce

theorem elim_zero {α : Type} {f : α → Nat} (h : ∀ a, f a = 0) (o : Option α) : o.elim 0 f = 0 := by
  cases o with
  | none => rfl
  | some a => exact h a

theorem Quantity.due_of_answers {q : Quantity} (hsweep : ∀ report, q.ofReport report = 0)
    (hbatch : ∀ report, q.ofBatch report = 0) (hcommand : ∀ c, q.ofCommand c = 0) (d : Done) :
    q.due d = d.answer?.elim 0 fun a => q.ofAnswer a.2 := by
  rw [due, elim_zero hsweep, elim_zero hbatch, elim_zero hcommand]
  rfl

theorem Quantity.due_of_others {q : Quantity} (hanswer : ∀ r, q.ofAnswer r = 0) (d : Done) :
    q.due d = d.sweep?.elim 0 q.ofReport + d.batch?.elim 0 q.ofBatch
      + d.command?.elim 0 q.ofCommand := by
  rw [due, elim_zero fun a : String × _ => hanswer a.2, Nat.zero_add]

theorem Quantity.due_eq (q : Quantity) (d : Done) (hd : d.Sound) :
    q.due d =
      match q with
      | commands name success => if d.command? = some (name, success) then 1 else 0
      | requests outcome tier =>
          if d.answer?.map (fun a => Matching.resultLabels a.2) = some (outcome, tier) then 1 else 0
      | allRequests | latencies => if d.task.request?.isSome then 1 else 0
      | claimConflicts => if d.isConflict then 1 else 0
      | credentialFailures => if d.lacksToken then 1 else 0
      | silentJobs target => d.moved target
      | weightWrites => d.updated := by
  cases q with
  | commands name success =>
    rw [due_of_others (fun _ => rfl), elim_zero (f := ofReport _) fun _ => rfl,
      elim_zero (f := ofBatch _) fun _ => rfl]
    cases d.command? <;> simp only [ofCommand, Option.elim_none, Option.elim_some,
      Option.some.injEq, reduceCtorEq, if_false, Nat.zero_add]
  | requests outcome tier =>
    rw [due_of_answers (fun _ => rfl) (fun _ => rfl) (fun _ => rfl)]
    cases d.answer? <;> simp only [ofAnswer, Option.elim_none, Option.elim_some, Option.map_none,
      Option.map_some, Option.some.injEq, reduceCtorEq, if_false]
  | allRequests | latencies =>
    rw [due_of_answers (fun _ => rfl) (fun _ => rfl) (fun _ => rfl), hd]
    cases d.answer? <;> rfl
  | claimConflicts =>
    rw [due_of_answers (fun _ => rfl) (fun _ => rfl) (fun _ => rfl), Done.isConflict]
    match d.answer? with
    | none => rfl
    | some (_, .ok (.assigned _)) => rfl
    | some (_, .ok (.installPackages _ _)) => rfl
    | some (_, .ok (.nothingToRun reason)) => cases reason <;> rfl
    | some (_, .error _) => rfl
  | credentialFailures =>
    rw [due_of_answers (fun _ => rfl) (fun _ => rfl) (fun _ => rfl), Done.lacksToken]
    match d.answer? with
    | none => rfl
    | some (_, .ok _) => rfl
    | some (_, .error e) => cases e <;> rfl
  | silentJobs target =>
    rw [due_of_others (fun _ => rfl), elim_zero (f := ofBatch _) fun _ => rfl,
      elim_zero (f := ofCommand _) fun _ => rfl]
    unfold Done.moved
    match d.sweep? with
    | none => rfl
    | some .skipped => rfl
    | some (.completed _ _ _) => rfl
  | weightWrites =>
    rw [due_of_others (fun _ => rfl), elim_zero (f := ofReport _) fun _ => rfl,
      elim_zero (f := ofCommand _) fun _ => rfl, Nat.zero_add, Done.updated]
    cases d.batch? <;> rfl

/-- What an operator reads after a history is what was there before, and
exactly what the tasks of the history ended with. -/
structure Accounts (history : List Done) (b b' : Office) : Prop where
  commands : ∀ name success, b'.2.commands.count [name, Metrics.resultLabel success] =
    b.2.commands.count [name, Metrics.resultLabel success] +
      history.countP fun d => d.command? = some (name, success)
  requests : ∀ outcome tier, b'.2.matchRequests.count [outcome, tier] =
    b.2.matchRequests.count [outcome, tier] +
      history.countP fun d =>
        d.answer?.map (fun a => Matching.resultLabels a.2) = some (outcome, tier)
  /-- each request for work was answered -/
  answered : ∀ d ∈ history, d.task.request?.isSome = d.answer?.isSome
  /-- and counted under some labels -/
  allRequests : b'.2.matchRequests.total =
    b.2.matchRequests.total + history.countP (·.task.request?.isSome)
  /-- and its time was taken -/
  latencies : b'.2.matchLatency.count =
    b.2.matchLatency.count + history.countP (·.task.request?.isSome)
  claimConflicts : b'.2.claimConflicts = b.2.claimConflicts + history.countP Done.isConflict
  credentialFailures :
    b'.2.credentialFailures = b.2.credentialFailures + history.countP Done.lacksToken
  silentJobs : ∀ target, b'.2.silentJobs.count [Metrics.moveLabel true, target] =
    b.2.silentJobs.count [Metrics.moveLabel true, target] + (history.map (·.moved target)).sum
  weightWrites : b'.2.weightWrites.count [Metrics.resultLabel true] =
    b.2.weightWrites.count [Metrics.resultLabel true] + (history.map (·.updated)).sum
  assigned : ∀ ce, b'.1.assigned ce = b.1.assigned ce + history.countP (Done.handsOutTo ce)
  traces : ∀ jobId, ∃ lines, b'.1.jobTrace jobId = b.1.jobTrace jobId ++ lines ∧
    lines.map (·.text) = history.flatMap (·.lines jobId)

/-- The books agree with what happened: after every history of commands,
sweeps and batches on a steady store, an operator reads exactly what they
ended with, as long as the jobs that were handed to the agents of each
computing element can be counted in 64 bits. -/
theorem accounts_agree (h : Handled b history b') (hstart : ∀ ce, 0 ≤ b.1.assigned ce)
    (hroom : ∀ ce, FitsInt64 (b.1.assigned ce + history.countP (Done.handsOutTo ce))) :
    Accounts history b b' := by
  obtain ⟨hbooked, hsound⟩ := h.booked
  have hcounted : ∀ q : Quantity, q.read b'.2 = q.read b.2 + (history.map q.due).sum := by
    intro q
    rw [hbooked.counted, q.countP_history]
  have hone : ∀ (q : Quantity) (p : Done → Bool),
      (∀ d ∈ history, q.due d = if p d then 1 else 0) →
      q.read b'.2 = q.read b.2 + history.countP p := by
    intro q p hp
    rw [hcounted, sum_map_eq_countP hp]
  refine
    { commands := fun name success => hone (.commands name success) _ fun d hd => ?_
      requests := fun outcome tier => hone (.requests outcome tier) _ fun d hd => ?_
      answered := hsound
      allRequests := hone .allRequests _ fun d hd => Quantity.due_eq _ d (hsound d hd)
      latencies := hone .latencies _ fun d hd => Quantity.due_eq _ d (hsound d hd)
      claimConflicts := hone .claimConflicts _ fun d hd => Quantity.due_eq _ d (hsound d hd)
      credentialFailures := hone .credentialFailures _ fun d hd =>
        Quantity.due_eq _ d (hsound d hd)
      silentJobs := fun target => ?_
      weightWrites := ?_
      assigned := fun ce => ?_
      traces := fun jobId => ?_ }
  case refine_1 | refine_2 =>
    rw [Quantity.due_eq _ d (hsound d hd)]
    simp only [decide_eq_true_eq]
  case refine_3 =>
    refine (hcounted (.silentJobs target)).trans (congrArg (_ + List.sum ·) ?_)
    exact List.map_congr_left fun d hd => Quantity.due_eq _ d (hsound d hd)
  case refine_4 =>
    refine (hcounted .weightWrites).trans (congrArg (_ + List.sum ·) ?_)
    exact List.map_congr_left fun d hd => Quantity.due_eq _ d (hsound d hd)
  case refine_5 =>
    have hcount := count_handedOut_history history ce
    rw [← hcount]
    exact hbooked.assigned ce (hstart ce) (hcount ▸ hroom ce)
  case refine_6 =>
    obtain ⟨lines, hlines, htext⟩ := hbooked.traces jobId
    refine ⟨lines, hlines, htext.trans ?_⟩
    rw [List.filterMap_flatMap]
    exact congrArg (List.flatMap · history) (funext fun d => d.filterMap_line?_deeds jobId)

/-! ### A day -/

namespace Partners

variable {α : Type}

/-- Answers a call and keeps the counts. -/
def handle (p : Partners) (c : Call) (b : Office) : c.Answer × Office :=
  ((p.reply c b.1).1, (p.reply c b.1).2, b.2.after c)

def finish (p : Partners) : Action α → Office → α × Office
  | .done a, b => (a, b)
  | .call c next, b => p.finish (next (p.handle c b).1) (p.handle c b).2

theorem yields_finish (p : Partners) (program : Action α) (b : Office) :
    program.Yields office b (p.finish program b).1 (p.finish program b).2 := by
  induction program generalizing b with
  | done a => exact ⟨rfl, rfl⟩
  | call c next ih =>
    exact ⟨_, _, ⟨Surroundings.steady_reply p c b.1, rfl⟩, ih (p.handle c b).1 (p.handle c b).2⟩

def finishAll (p : Partners) : List Task → Office → List Done × Office
  | [], b => ([], b)
  | t :: rest, b =>
      let done := p.finish t.program b
      let later := p.finishAll rest done.2
      (⟨t, done.1⟩ :: later.1, later.2)

theorem handled_finishAll (p : Partners) (tasks : List Task) (b : Office) :
    Handled b (p.finishAll tasks b).1 (p.finishAll tasks b).2 := by
  induction tasks generalizing b with
  | nil => exact .nil
  | cons t rest ih => exact .cons (p.yields_finish t.program b) (ih _)

end Partners

/-- A job is handed out and killed, another request finds nothing, and a
weight is written. -/
def day : List Task :=
  [.command {} (.matchJob agentRequest), .command {} (.forceJobStatus 7 .killed),
   .command {} (.matchJob agentRequest), .batch .all]

theorem accounts_agree_of_day :
    let b : Office := ((storeOfOne 7 1).insertRecord (idleRecord "bob"), {})
    let history := (generousPartners.finishAll day b).1
    let b' := (generousPartners.finishAll day b).2
    Handled b history b' ∧ (∀ ce, 0 ≤ b.1.assigned ce) ∧ Accounts history b b' ∧
      b'.2.commands.count ["match_job", "success"] = 2 ∧
      b'.2.matchRequests.count ["assigned", "full"] = 1 ∧ b'.2.matchRequests.total = 2 ∧
      b'.2.weightWrites.count ["success"] = 1 ∧ b'.1.assigned "ce" = 1 ∧
      (b'.1.jobTrace 7).map (·.text) =
        [("state", "job assigned to ce"), ("admin", "status forced to KILLED")] := by
  intro b history b'
  have hhandled : Handled b history b' := generousPartners.handled_finishAll day b
  have hstart : ∀ ce, 0 ≤ b.1.assigned ce := fun _ => le_refl _
  have hroom : ∀ ce, FitsInt64 (b.1.assigned ce + history.countP (Done.handsOutTo ce)) := by
    intro ce
    have hcount : history.countP (Done.handsOutTo ce) ≤ 4 := List.countP_le_length
    have hzero : b.1.assigned ce = 0 := rfl
    unfold FitsInt64
    omega
  exact ⟨hhandled, hstart, accounts_agree hhandled hstart hroom, by decide +kernel,
    by decide +kernel, by decide +kernel, by decide +kernel, by decide +kernel, by decide +kernel⟩

/-- A queue that counted as many hand-outs as it can. -/
def fullQueue : SiteQueue :=
  { Store.newQueue "ce" "site" ⟨0, false⟩ with assigned := 0x8000000000000000 - 1 }

/-- One more hand-out to its agents is counted as none at all. -/
theorem full_counter_starts_over :
    let b : Office := ((storeOfOne 7 1).putQueue fullQueue, {})
    let done := generousPartners.finishAll [.command {} (.matchJob agentRequest)] b
    Handled b done.1 done.2 ∧ (∀ ce, 0 ≤ b.1.assigned ce) ∧
      done.1.countP (Done.handsOutTo "ce") = 1 ∧
      b.1.assigned "ce" = 0x8000000000000000 - 1 ∧ done.2.1.assigned "ce" = 0 ∧
      ¬ Accounts done.1 b done.2 := by
  intro b done
  have hone : done.1.countP (Done.handsOutTo "ce") = 1 := by decide +kernel
  have hbefore : b.1.assigned "ce" = 0x8000000000000000 - 1 := by decide +kernel
  have hafter : done.2.1.assigned "ce" = 0 := by decide +kernel
  refine ⟨generousPartners.handled_finishAll _ b, fun ce => ?_, hone, hbefore, hafter, fun h => ?_⟩
  · rw [Store.assigned_putQueue]
    split
    · decide
    · exact le_refl _
  · have hgrown := h.assigned "ce"
    rw [hone, hbefore, hafter] at hgrown
    omega

end GridQueue
