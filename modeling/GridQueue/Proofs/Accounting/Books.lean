/-
# `GridQueue.Proofs.Accounting.Books` — what is counted and written down

An operator sees the counts, the queues of the computing elements and the
traces, and nothing else of what the broker does.  A `Deed` is one thing
that shows there; `Booked` says that of a store and its counts before and
after, exactly some deeds show, in this order in the traces.  One call
books one deed or none (`booked_note`, `booked_trace`, `booked_handOut`,
`booked_quiet`), and deeds in sequence add up (`Booked.trans`).

A quantity is read from the counts at some labels.  It goes up by the
number of the deeds that count for it, which is what makes the counts of a
day a matter of counting deeds in a list (`Quantity.read_record`).  The
assigned jobs of a computing element go up by its hand-outs, as long as 64
bits hold the sum.
-/
import GridQueue.Metrics.Basic
import GridQueue.Proofs.Surroundings
import Mathlib.Algebra.Order.Ring.Nat

namespace GridQueue

/-! ## Sums of counts -/

/-- All that was counted, whatever its labels. -/
def Tally.total (t : Tally) : Nat := (Table.values t).sum

namespace Table

variable {κ : Type} [Ord κ]

theorem sum_place (k : κ) (n : Nat) : ∀ l : List (κ × Nat),
    ((place k n l).map (·.2)).sum + (lookup k l).getD 0 = (l.map (·.2)).sum + n
  | [] => by simp only [place, lookup, List.map_cons, List.map_nil, List.sum_cons, List.sum_nil,
      Option.getD_none, Nat.add_zero, Nat.zero_add]
  | (k', m) :: rest => by
      rw [place, lookup]
      cases hcmp : compare k k' with
      | lt =>
        simp only [List.map_cons, List.sum_cons, Option.getD_none]
        omega
      | eq =>
        simp only [List.map_cons, List.sum_cons, Option.getD_some]
        omega
      | gt =>
        have ih := sum_place k n rest
        simp only [List.map_cons, List.sum_cons]
        omega

end Table

theorem Tally.total_add (t : Tally) (labels : List String) :
    (t.add labels).total = t.total + 1 := by
  have hsum := Table.sum_place labels (t.count labels + 1) t.entries
  have hcount : t.count labels = (Table.lookup labels t.entries).getD 0 := rfl
  have htotal : (t.add labels).total =
      ((Table.place labels (t.count labels + 1) t.entries).map (·.2)).sum := rfl
  have hbefore : t.total = (t.entries.map (·.2)).sum := rfl
  omega

/-! ## Deeds -/

/-- Something that shows in the books. -/
inductive Deed
  | commandEnded (name : String) (success : Bool)
  | matchEnded (outcome tier : String)
  | claimConflict
  | credentialFailure
  /-- a silent job was moved -/
  | silentJob (target : String)
  /-- the weight of a user was written -/
  | weightWritten
  /-- a job was handed to an agent of a computing element -/
  | handedOut (ce : String)
  /-- a line was added to the trace of a job -/
  | traced (jobId : Int) (tag message : String)
  deriving DecidableEq

namespace Deed

def isMatch : Deed → Bool
  | matchEnded _ _ => true
  | _ => false

/-- The line a deed adds to the trace of a job. -/
def line? (jobId : Int) : Deed → Option (String × String)
  | traced id tag message => if id = jobId then some (tag, message) else none
  | _ => none

def ofEvent? : Metrics.Event → Option Deed
  | .commandEnded name success => some (commandEnded name success)
  | .matchEnded outcome tier _ => some (matchEnded outcome tier)
  | .claimConflict => some claimConflict
  | .credentialFailure => some credentialFailure
  | .silentJob target true => some (silentJob target)
  | .weightWritten true _ => some weightWritten
  | .silentJob _ false | .weightWritten false _ | .sweepEnded _ | .batchEnded _ | .queueDepth _
  | .workers _ => none

end Deed

/-! ## Quantities -/

/-- A count that an operator can read. -/
inductive Quantity
  | commands (name : String) (success : Bool)
  | requests (outcome tier : String)
  /-- all counts of requests for work, added up -/
  | allRequests
  /-- the requests for work whose time was taken -/
  | latencies
  | claimConflicts
  | credentialFailures
  | silentJobs (target : String)
  | weightWrites

namespace Quantity

/-- What the counts say of a quantity. -/
def read : Quantity → Metrics → Nat
  | commands name success, m => m.commands.count [name, Metrics.resultLabel success]
  | requests outcome tier, m => m.matchRequests.count [outcome, tier]
  | allRequests, m => m.matchRequests.total
  | latencies, m => m.matchLatency.count
  | claimConflicts, m => m.claimConflicts
  | credentialFailures, m => m.credentialFailures
  | silentJobs target, m => m.silentJobs.count [Metrics.moveLabel true, target]
  | weightWrites, m => m.weightWrites.count [Metrics.resultLabel true]

/-- The deeds a quantity is about. -/
def counts : Quantity → Deed → Bool
  | commands name success, d => d == .commandEnded name success
  | requests outcome tier, d => d == .matchEnded outcome tier
  | allRequests, d | latencies, d => d.isMatch
  | claimConflicts, d => d == .claimConflict
  | credentialFailures, d => d == .credentialFailure
  | silentJobs target, d => d == .silentJob target
  | weightWrites, d => d == .weightWritten

theorem resultLabel_inj {a b : Bool} :
    Metrics.resultLabel a = Metrics.resultLabel b ↔ a = b := by
  cases a <;> cases b <;> decide

theorem count_add_labels (t : Tally) {labels labels' : List String} {d d' : Deed}
    (h : labels = labels' ↔ d' = d) :
    (t.add labels').count labels = t.count labels + [d'].countP (· == d) := by
  rw [Tally.count_add, List.countP_singleton]
  simp only [h, beq_iff_eq]

theorem read_record (q : Quantity) (m : Metrics) (e : Metrics.Event) :
    q.read (m.record e) = q.read m + (Deed.ofEvent? e).toList.countP q.counts := by
  cases e with
  | commandEnded name' success' =>
    cases q with
    | commands name success =>
      refine count_add_labels _ ?_
      simp only [List.cons.injEq, resultLabel_inj, and_true, Deed.commandEnded.injEq, eq_comm]
    | _ => rfl
  | matchEnded outcome' tier' seconds =>
    cases q with
    | requests outcome tier =>
      refine count_add_labels _ ?_
      simp only [List.cons.injEq, and_true, Deed.matchEnded.injEq, eq_comm]
    | allRequests => exact Tally.total_add _ _
    | _ => rfl
  | silentJob target' moved =>
    cases q with
    | silentJobs target =>
      cases moved with
      | true =>
        refine count_add_labels _ ?_
        simp only [List.cons.injEq, and_true, true_and, Deed.silentJob.injEq, eq_comm]
      | false =>
        refine (Tally.count_add ..).trans (congrArg _ (if_neg fun hlabels => ?_))
        exact absurd (List.cons.inj hlabels).1 (by decide)
    | _ => cases moved <;> rfl
  | weightWritten success seconds =>
    cases q with
    | weightWrites =>
      refine (Tally.count_add ..).trans ?_
      cases success <;> rfl
    | _ => cases success <;> rfl
  | claimConflict | credentialFailure | sweepEnded | batchEnded | queueDepth | workers =>
    cases q <;> rfl

end Quantity

/-! ## The assigned jobs of a computing element -/

namespace Store

variable {s : Store} {now : Instant}

/-- How many jobs were handed to the agents of a computing element. -/
def assigned (s : Store) (ce : String) : Int := ((s.queues.get? ce).map (·.assigned)).getD 0

theorem assigned_queueOr (s : Store) (ce site : String) (now : Instant) :
    (s.queueOr ce site now).assigned = s.assigned ce := by
  rw [queueOr, assigned]
  cases s.queues.get? ce <;> rfl

theorem assigned_putQueue (s : Store) (q : SiteQueue) (ce : String) :
    (s.putQueue q).assigned ce = if ce = q.ce then q.assigned else s.assigned ce := by
  rw [assigned, get?_putQueue]
  split
  next => rfl
  next => rfl

theorem assigned_putQueue_of_eq {q : SiteQueue} (h : q.assigned = s.assigned q.ce) (ce : String) :
    (s.putQueue q).assigned ce = s.assigned ce := by
  rw [assigned_putQueue]
  split
  next hce => rw [h, hce]
  next => rfl

theorem perform_assigned {c : StoreCall}
    (h : ∀ ce site assigned waiting, c ≠ .adjustCounters ce site assigned waiting) (ce : String) :
    (s.perform now c).2.assigned ce = s.assigned ce := by
  cases c with
  | adjustCounters ce site assigned waiting => exact absurd rfl (h ce site assigned waiting)
  | setQueueStatus ce' site status =>
    refine assigned_putQueue_of_eq ?_ ce
    split <;> exact assigned_queueOr s ce' site now
  | setQueueBlocked ce' blocked =>
    exact assigned_putQueue_of_eq (assigned_queueOr s ce' "" now) ce
  | _ => rw [assigned, perform_queues (by simp only [StoreCall.writes]; decide), assigned]

theorem assigned_adjustCounters {ce ce' : String} (site : String)
    (h : ce' = ce → 0 ≤ s.assigned ce ∧ FitsInt64 (s.assigned ce + 1)) :
    (s.adjustCounters ce site 1 (-1) now).assigned ce' =
      s.assigned ce' + if ce' = ce then 1 else 0 := by
  rw [adjustCounters, assigned_putQueue]
  split
  next hsame =>
    obtain ⟨hpos, hfits⟩ := h hsame
    rw [hsame, assigned_queueOr, wrapInt64_of_fits hfits]
    exact max_eq_left (Int.add_nonneg hpos Int.one_nonneg)
  next => exact (Int.add_zero _).symm

end Store

/-! ## Books -/

/-- What a line of a trace says, without when. -/
def TraceEntry.text (e : TraceEntry) : String × String := (e.tag, e.message)

/-- A store, and what was counted of it. -/
abbrev Office := Store × Metrics

/-- From one moment to another these deeds show and nothing else, those of
the traces in this order.  Hand-outs are counted in 64 bits: as long as these
hold them all. -/
structure Booked (deeds : List Deed) (b b' : Office) : Prop where
  counted : ∀ q : Quantity, q.read b'.2 = q.read b.2 + deeds.countP q.counts
  assigned : ∀ ce, 0 ≤ b.1.assigned ce →
    FitsInt64 (b.1.assigned ce + deeds.count (.handedOut ce)) →
    b'.1.assigned ce = b.1.assigned ce + deeds.count (.handedOut ce)
  traces : ∀ jobId, ∃ lines, b'.1.jobTrace jobId = b.1.jobTrace jobId ++ lines ∧
    lines.map (·.text) = deeds.filterMap (Deed.line? jobId)

namespace Booked

variable {deeds deeds' : List Deed} {b b₁ b' : Office}

theorem refl (b : Office) : Booked [] b b where
  counted _ := rfl
  assigned _ _ _ := (Int.add_zero _).symm
  traces _ := ⟨[], (List.append_nil _).symm, rfl⟩

theorem trans (h : Booked deeds b b₁) (h' : Booked deeds' b₁ b') :
    Booked (deeds ++ deeds') b b' where
  counted q := by rw [h'.counted, h.counted, List.countP_append, Nat.add_assoc]
  assigned ce hstart hfits := by
    rw [List.count_append, Int.natCast_add, ← Int.add_assoc] at hfits ⊢
    -- what was counted up on the way is below what is counted up to
    have hway : FitsInt64 (b.1.assigned ce + deeds.count (.handedOut ce)) := by
      unfold FitsInt64 at hfits ⊢
      omega
    have hbetween := h.assigned ce hstart hway
    rw [← hbetween] at hfits ⊢
    exact h'.assigned ce (by omega) hfits
  traces jobId := by
    obtain ⟨lines, hlines, htext⟩ := h.traces jobId
    obtain ⟨lines', hlines', htext'⟩ := h'.traces jobId
    refine ⟨lines ++ lines', ?_, ?_⟩
    · rw [hlines', hlines, List.append_assoc]
    · rw [List.map_append, htext, htext', List.filterMap_append]

end Booked

/-! ## Calls -/

def Metrics.after (m : Metrics) : Call → Metrics
  | .note event => m.record event
  | .store _ | .lookup _ _ | .issue _ | .revoke _ | .now | .stopwatch => m

/-- The world of a steady store whose counts are kept. -/
def office : World Call Call.Answer Office :=
  fun c b a b' => Surroundings.steady.world c b.1 a b'.1 ∧ b'.2 = b.2.after c

def Call.shows : Call → Bool
  | .note _ | .store (.appendTrace _ _ _) | .store (.adjustCounters _ _ _ _) => true
  | _ => false

theorem Call.writes_ne_traces {c : Call} (hc : c.shows = false) : c.writes ≠ some .traces := by
  intro hwrites
  cases c with
  | store c =>
    cases c with
    | appendTrace => cases hc
    | _ => cases hwrites
  | _ => cases hwrites

section Calls

variable {b b' : Office}

theorem Deed.count_ofEvent? (event : Metrics.Event) (ce : String) :
    (ofEvent? event).toList.count (.handedOut ce) = 0 := by
  cases event with
  | silentJob target moved => cases moved <;> rfl
  | weightWritten success seconds => cases success <;> rfl
  | _ => rfl

theorem Deed.line?_ofEvent? (event : Metrics.Event) (jobId : Int) :
    (ofEvent? event).toList.filterMap (line? jobId) = [] := by
  cases event with
  | silentJob target moved => cases moved <;> rfl
  | weightWritten success seconds => cases success <;> rfl
  | _ => rfl

theorem booked_note {event : Metrics.Event} {a : Unit} (h : office (.note event) b a b') :
    Booked (Deed.ofEvent? event).toList b b' := by
  obtain ⟨hstore, hmetrics⟩ := h
  have hsame : b'.1 = b.1 := hstore
  refine ⟨fun q => ?_, fun ce _ _ => ?_, fun jobId => ⟨[], ?_, ?_⟩⟩
  · rw [hmetrics]
    exact q.read_record b.2 event
  · rw [hsame, Deed.count_ofEvent?]
    exact (Int.add_zero _).symm
  · rw [hsame, List.append_nil]
  · exact (Deed.line?_ofEvent? event jobId).symm

theorem booked_trace {jobId : Int} {tag message : String} {a : Except StoreError Unit}
    (h : office (.store (.appendTrace jobId tag message)) b a b') :
    Booked [.traced jobId tag message] b b' := by
  obtain ⟨hstore, hmetrics⟩ := h
  obtain ⟨now, hperform⟩ := Surroundings.steady_store hstore
  have hs : b.1.appendTrace jobId tag message now = b'.1 := congrArg Prod.snd hperform
  refine ⟨fun q => ?_, fun ce _ _ => ?_, fun id => ?_⟩
  · rw [hmetrics]
    cases q <;> rfl
  · rw [← hs]
    exact (Int.add_zero _).symm
  · rw [← hs]
    let line : TraceEntry := ⟨jobId, now, tag, message⟩
    refine ⟨[line].filter fun t => t.jobId = id, List.filter_append _ _, ?_⟩
    rw [List.filter_singleton, List.filterMap_cons, Deed.line?]
    by_cases hid : jobId = id
    · rw [if_pos hid, decide_eq_true hid]
      rfl
    · rw [if_neg hid, decide_eq_false hid]
      rfl

theorem booked_handOut {ce site : String} {a : Except StoreError Unit}
    (h : office (.store (.adjustCounters ce site 1 (-1))) b a b') :
    Booked [.handedOut ce] b b' := by
  obtain ⟨hstore, hmetrics⟩ := h
  obtain ⟨now, hperform⟩ := Surroundings.steady_store hstore
  have hs : b.1.adjustCounters ce site 1 (-1) now = b'.1 := congrArg Prod.snd hperform
  refine ⟨fun q => ?_, fun ce' hstart hfits => ?_, fun id => ⟨[], ?_, rfl⟩⟩
  · rw [hmetrics]
    cases q <;> rfl
  · have hcount : ([Deed.handedOut ce].count (.handedOut ce') : Int) =
        if ce' = ce then 1 else 0 := by
      by_cases hce : ce' = ce
      · rw [hce, List.count_singleton_self, if_pos rfl]
        rfl
      · rw [if_neg hce, List.count_eq_zero.mpr (by simpa using hce)]
        rfl
    rw [hcount] at hfits ⊢
    rw [← hs]
    refine Store.assigned_adjustCounters site ?_
    rintro rfl
    rw [if_pos rfl] at hfits
    exact ⟨hstart, hfits⟩
  · rw [← hs, List.append_nil]
    rfl

theorem booked_quiet {c : Call} {a : c.Answer} (hc : c.shows = false) (h : office c b a b') :
    Booked [] b b' := by
  obtain ⟨hstore, hmetrics⟩ := h
  have hcounts : b'.2 = b.2 := by
    rw [hmetrics]
    cases c with
    | note event => cases hc
    | _ => rfl
  have htraces : b'.1.traces = b.1.traces := by
    exact Surroundings.world_same (q := .traces) hstore (Call.writes_ne_traces hc)
  have hassigned : ∀ ce, b'.1.assigned ce = b.1.assigned ce := by
    intro ce
    cases c with
    | store c =>
      obtain ⟨now, hperform⟩ := Surroundings.steady_store hstore
      rw [← show (b.1.perform now c).2 = b'.1 from congrArg Prod.snd hperform]
      refine Store.perform_assigned ?_ ce
      rintro _ _ _ _ rfl
      cases hc
    | lookup | issue | revoke => rw [hstore.2]
    | now | stopwatch | note => rw [show b'.1 = b.1 from hstore]
  refine ⟨fun q => ?_, fun ce _ _ => ?_, fun jobId => ⟨[], ?_, rfl⟩⟩
  · rw [hcounts]
    rfl
  · rw [hassigned]
    exact (Int.add_zero _).symm
  · rw [Store.jobTrace, htraces, List.append_nil]
    rfl

end Calls

end GridQueue
