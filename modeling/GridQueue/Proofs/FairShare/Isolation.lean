/-
# `GridQueue.Proofs.FairShare.Isolation` — a batch in which some writes fail

`balking stuck` is the world in which the weights of some users cannot be
written: such a write is answered with an error, whichever it is, and has
no effect.  Nothing else fails.  What a batch leaves of the store there is
what it found, rated for some users (`Store.rateIf`):

| the program                  | rates the users                        |
| :--------------------------- | :------------------------------------- |
| `writeWeight` of a record    | its user, unless stuck                 |
| `writeWeights` of records    | their users, but for the stuck ones    |
| `batch` in a scope           | all of the scope, but for stuck ones   |
| `batchEach` of users         | these users, but for the stuck ones    |

Rating reads only base fields, which it does not change.  So ratings may
be joined (`Store.rateIf_rateIf`), in any order and any number of times.
-/
import GridQueue.Proofs.FairShare.Exclusion
import GridQueue.Proofs.Table
import GridQueue.Proofs.Yield

namespace GridQueue

open FairShare Program

/-! ## Rating the users of a kind -/

/-- The store with the weights of the users of a kind computed anew. -/
def Store.rateIf (s : Store) (kind : String → Usage Float → Bool) : Store :=
  { s with
    records := s.records.mapValues fun r => if kind r.user r.usage then r.rated else r
    recordsKeyed := s.recordsKeyed.mapValues fun r => by split <;> rfl }

namespace Store

variable {s s' : Store} {kind kind' : String → Usage Float → Bool} {user : String} {r : Record}

theorem sameBut_rateIf (s : Store) (kind : String → Usage Float → Bool) :
    SameBut .records s (s.rateIf kind) := by
  constructor
  intro q hq
  cases q with
  | records => exact absurd rfl hq
  | _ => rfl

theorem get?_rateIf : (s.rateIf kind).records.get? user =
    (s.records.get? user).map fun r => if kind user r.usage then r.rated else r := by
  refine Table.get?_mapValues.trans ?_
  cases hr : s.records.get? user with
  | none => rfl
  | some r =>
    have huser : r.user = user := s.recordsKeyed user r hr
    simp only [Option.map_some, huser]

/-- Stores that differ in records at most, and not in what is found there. -/
theorem ext_records (hsame : SameBut .records s s')
    (hrecords : ∀ user, s'.records.get? user = s.records.get? user) : s' = s := by
  have hall : ∀ q, Same q s s' := fun q => by
    by_cases hq : q = .records
    · rw [hq]
      exact Table.ext_get? hrecords
    · exact hsame.same q hq
  have hjobs : s'.jobs = s.jobs := hall .jobs
  have haggregates : s'.aggregates = s.aggregates := hall .aggregates
  have htable : s'.records = s.records := hall .records
  have hqueues : s'.queues = s.queues := hall .queues
  have htraces : s'.traces = s.traces := hall .traces
  have hmarkers : s'.markers = s.markers := hall .markers
  cases s
  cases s'
  subst hjobs haggregates htable hqueues htraces hmarkers
  rfl

theorem rateIf_congr
    (h : ∀ user r, s.records.get? user = some r → kind user r.usage = kind' user r.usage) :
    s.rateIf kind = s.rateIf kind' := by
  refine ext_records ((sameBut_rateIf s kind').symm.trans (sameBut_rateIf s kind)) fun user => ?_
  rw [get?_rateIf, get?_rateIf]
  cases hr : s.records.get? user with
  | none => rfl
  | some r => simp only [Option.map_some, h user r hr]

theorem rateIf_false : s.rateIf (fun _ _ => false) = s := by
  refine ext_records (sameBut_rateIf ..) fun user => ?_
  rw [get?_rateIf]
  cases s.records.get? user <;> rfl

/-- To rate users of one kind and then those of another is to rate all of
them at once. -/
theorem rateIf_rateIf :
    (s.rateIf kind).rateIf kind' = s.rateIf fun user u => kind user u || kind' user u := by
  refine ext_records ((sameBut_rateIf ..).symm.trans
    ((sameBut_rateIf ..).trans (sameBut_rateIf ..))) fun user => ?_
  rw [get?_rateIf, get?_rateIf, get?_rateIf, Option.map_map]
  cases s.records.get? user with
  | none => rfl
  | some r =>
    have husage : (if kind user r.usage then r.rated else r).usage = r.usage := by split <;> rfl
    rw [Option.map_some, Option.map_some, Function.comp_apply, husage]
    cases kind user r.usage <;> cases kind' user r.usage <;> rfl

/-- What is rated differently is of a user whose kind is different. -/
theorem exists_of_rateIf_ne
    (h : (s.rateIf kind).records.get? user ≠ (s.rateIf kind').records.get? user) :
    ∃ r, s.records.get? user = some r ∧ kind user r.usage ≠ kind' user r.usage := by
  rw [get?_rateIf, get?_rateIf] at h
  cases hr : s.records.get? user with
  | none =>
    rw [hr] at h
    exact absurd rfl h
  | some r =>
    refine ⟨r, rfl, fun hkinds => h ?_⟩
    rw [hr, Option.map_some, Option.map_some, hkinds]

theorem insertRecord_rated (hr : s.records.get? r.user = some r) :
    s.insertRecord r.rated = s.rateIf fun user _ => user = r.user := by
  refine ext_records ((sameBut_rateIf ..).symm.trans (sameBut_insertRecord ..)) fun user => ?_
  rw [get?_rateIf]
  refine Table.get?_insert.trans ?_
  change (if user = r.user then _ else _) = _
  by_cases huser : user = r.user
  · rw [if_pos huser, huser, hr, Option.map_some, if_pos (decide_eq_true rfl)]
  · rw [if_neg huser]
    cases s.records.get? user with
    | none => rfl
    | some t => rw [Option.map_some, if_neg (by rwa [decide_eq_true_iff])]

theorem priorityRecords_eq_filter_rates (s : Store) (scope : Scope) :
    s.priorityRecords scope = s.records.values.filter (scope.rates ·.usage) := by
  cases scope with
  | all => exact (List.filter_eq_self.mpr fun _ _ => rfl).symm
  | activeOnly => rfl

end Store

/-! ## A store that balks -/

/-- A store in memory to which the weights of some users cannot be
written.  Nothing else fails. -/
def balking (stuck : String → Bool) : World Call Call.Answer Store
  | .store (.updatePriority user load weight), s, a, s' =>
      if stuck user then (∃ e, a = .error e) ∧ s' = s
      else ∃ now, s.perform now (.updatePriority user load weight) = (a, s')
  | c, s, a, s' => Surroundings.steady.world c s a s'

namespace FairShare

variable {stuck : String → Bool} {s s' : Store} {scope : Scope} {r : Record}
  {report report' : BatchReport} {records : List Record}

/-- A report after these records were gone through. -/
def BatchReport.counting (stuck : String → Bool) (report : BatchReport) (records : List Record) :
    BatchReport :=
  { report with
    updated := report.updated + records.countP fun r => !stuck r.user
    failed := report.failed + records.countP fun r => stuck r.user
    overQuota := report.overQuota +
      records.countP fun r => !stuck r.user && decide r.usage.OverQuota }

theorem BatchReport.counting_cons :
    report.counting stuck (r :: records) =
      (report.counting stuck [r]).counting stuck records := by
  rw [← List.singleton_append]
  simp only [counting, List.countP_append, Nat.add_assoc]

theorem BatchReport.counting_perm {records' : List Record} (h : records.Perm records') :
    report.counting stuck records = report.counting stuck records' := by
  simp only [counting, h.countP_eq]

theorem Usage.overQuota_share (u : Usage Float) :
    u.share.verdict.overQuota = decide u.OverQuota := by
  unfold share
  by_cases htime : u.last24h > u.maxTotal
  · rw [if_pos htime]
    exact (decide_eq_true (.inl htime)).symm
  · rw [if_neg htime]
    by_cases hcores : u.running > u.maxParallel
    · rw [if_pos hcores]
      exact (decide_eq_true (.inr hcores)).symm
    · have hwithin : decide u.OverQuota = false := decide_eq_false (not_or.mpr ⟨htime, hcores⟩)
      rw [if_neg hcores, hwithin]
      split <;> rfl

/-! ### One write -/

section Write

variable {load weight : Float} {answer : Except StoreError Unit}

theorem balking_write_of_stuck (hstuck : stuck r.user = true) :
    balking stuck (.store (.updatePriority r.user load weight)) s answer s' ↔
      (∃ e, answer = .error e) ∧ s' = s := by
  change (if stuck r.user then _ else _) ↔ _
  rw [if_pos hstuck]
  rfl

theorem balking_write (hr : s.records.get? r.user = some r) (hfree : stuck r.user = false) :
    balking stuck (.store (.updatePriority r.user load weight)) s answer s' ↔
      answer = .ok () ∧ s' = s.insertRecord { r with userload := load, weight } := by
  have hperform : ∀ now, s.perform now (.updatePriority r.user load weight) =
      (.ok (), s.insertRecord { r with userload := load, weight }) := fun _ => by
    simp only [Store.perform, Store.updatePriority, hr]
  simp only [balking, hfree, Bool.false_eq_true, if_false, hperform]
  constructor
  · rintro ⟨_, heq⟩
    cases heq
    exact ⟨rfl, rfl⟩
  · rintro ⟨rfl, rfl⟩
    exact ⟨⟨0, false⟩, rfl⟩

/-- A record that is in the store is rated unless its user is stuck, and
it is counted as what came of it. -/
theorem writeWeight_yields_iff (hr : s.records.get? r.user = some r) :
    (writeWeight report r).Yields (balking stuck) s report' s' ↔
      report' = report.counting stuck [r] ∧
        s' = s.rateIf fun user _ => !stuck user && decide (user = r.user) := by
  cases hstuck : stuck r.user with
  | true =>
    have hnone : (s.rateIf fun user _ => !stuck user && decide (user = r.user)) = s := by
      refine (Store.rateIf_congr fun user _ _ => ?_).trans Store.rateIf_false
      by_cases huser : user = r.user <;> simp [huser, hstuck]
    have hcount : report.counting stuck [r] = { report with failed := report.failed + 1 } := by
      simp [BatchReport.counting, hstuck]
    rw [hnone, hcount]
    constructor
    · rintro ⟨started, _, rfl, result, _, hwrite, ended, _, rfl, h⟩
      obtain ⟨⟨e, rfl⟩, rfl⟩ := (balking_write_of_stuck hstuck).mp hwrite
      obtain ⟨_, _, rfl, rfl, rfl⟩ := h
      exact ⟨rfl, rfl⟩
    · rintro ⟨rfl, rfl⟩
      exact ⟨⟨0⟩, _, rfl, .error (.connection ""), _,
        (balking_write_of_stuck hstuck).mpr ⟨⟨_, rfl⟩, rfl⟩, ⟨0⟩, _, rfl, (), _, rfl, rfl, rfl⟩
  | false =>
    have hone : (s.rateIf fun user _ => !stuck user && decide (user = r.user)) =
        s.insertRecord r.rated := by
      refine (Store.rateIf_congr fun user _ _ => ?_).trans (Store.insertRecord_rated hr).symm
      by_cases huser : user = r.user <;> simp [huser, hstuck]
    have hcount : report.counting stuck [r] =
        { report with
          updated := report.updated + 1
          overQuota := report.overQuota + if r.usage.share.verdict.overQuota then 1 else 0 } := by
      simp [BatchReport.counting, hstuck, Usage.overQuota_share, List.countP_singleton]
    rw [hone, hcount]
    constructor
    · rintro ⟨started, _, rfl, result, _, hwrite, ended, _, rfl, h⟩
      obtain ⟨rfl, rfl⟩ := (balking_write hr hstuck).mp hwrite
      obtain ⟨_, _, rfl, rfl, rfl⟩ := h
      exact ⟨rfl, rfl⟩
    · rintro ⟨rfl, rfl⟩
      exact ⟨⟨0⟩, _, rfl, .ok (), _, (balking_write hr hstuck).mpr ⟨rfl, rfl⟩, ⟨0⟩, _, rfl,
        (), _, rfl, rfl, rfl⟩

end Write

/-! ### All writes -/

/-- Records of several users that are in the store: their users are
rated, but for those who are stuck. -/
theorem writeWeights_yields_iff (hdistinct : records.Pairwise (·.user ≠ ·.user))
    (hrecords : ∀ r ∈ records, s.records.get? r.user = some r) :
    (writeWeights report records).Yields (balking stuck) s report' s' ↔
      report' = report.counting stuck records ∧
        s' = s.rateIf fun user _ => !stuck user && records.any (·.user = user) := by
  induction records generalizing report s with
  | nil =>
    have hnone :
        (s.rateIf fun user _ => !stuck user && [].any (fun r : Record => r.user = user)) = s :=
      (Store.rateIf_congr fun _ _ _ => Bool.and_false _).trans Store.rateIf_false
    rw [hnone]
    rfl
  | cons r rest ih =>
    obtain ⟨hne, hdistinct⟩ := List.pairwise_cons.mp hdistinct
    have hr := hrecords r (List.mem_cons_self ..)
    -- the records to come are of other users, and so as they were
    have hrest : ∀ t ∈ rest,
        (s.rateIf fun user _ => !stuck user && decide (user = r.user)).records.get? t.user =
          some t := fun t ht => by
      rw [Store.get?_rateIf, hrecords t (List.mem_cons_of_mem _ ht),
        decide_eq_false (hne t ht).symm]
      simp
    have hstore : (s.rateIf fun user _ => !stuck user && (r :: rest).any (·.user = user)) =
        (s.rateIf fun user _ => !stuck user && decide (user = r.user)).rateIf
          fun user _ => !stuck user && rest.any (·.user = user) := by
      rw [Store.rateIf_rateIf]
      refine Store.rateIf_congr fun user _ _ => ?_
      rw [List.any_cons, ← Bool.and_or_distrib_left, decide_eq_decide.mpr eq_comm]
    rw [hstore, BatchReport.counting_cons, writeWeights, yields_bind]
    constructor
    · rintro ⟨_, _, hone, hmore⟩
      obtain ⟨rfl, rfl⟩ := (writeWeight_yields_iff hr).mp hone
      exact (ih hdistinct hrest).mp hmore
    · rintro h
      exact ⟨_, _, (writeWeight_yields_iff hr).mpr ⟨rfl, rfl⟩, (ih hdistinct hrest).mpr h⟩

/-! ### Batches -/

theorem balking_read {answer : Except StoreError (List Record)} :
    balking stuck (.store (.priorityRecords scope)) s answer s' ↔
      answer = .ok (s.priorityRecords scope) ∧ s' = s := by
  constructor
  · intro h
    obtain ⟨_, hperform⟩ := Surroundings.steady_store h
    cases hperform
    exact ⟨rfl, rfl⟩
  · rintro ⟨rfl, rfl⟩
    exact .inl ⟨⟨0, false⟩, rfl⟩

/-- What a batch comes to, whatever time it takes. -/
theorem batch_yields_iff {result : Except StoreError BatchReport} :
    (batch scope).Yields (balking stuck) s result s' ↔
      (∃ duration, result = .ok
        { BatchReport.counting stuck { rows := (s.priorityRecords scope).length }
            (s.priorityRecords scope) with duration }) ∧
        s' = s.rateIf fun user u => !stuck user && scope.rates u := by
  have hstore : (s.rateIf fun user u => !stuck user && scope.rates u) =
      s.rateIf fun user _ => !stuck user && (s.priorityRecords scope).any (·.user = user) := by
    refine Store.rateIf_congr fun user r hr => congrArg (!stuck user && ·) ?_
    have huser : r.user = user := s.recordsKeyed user r hr
    rw [Bool.eq_iff_iff, List.any_eq_true]
    constructor
    · intro hrates
      exact ⟨r, Store.mem_priorityRecords.mpr ⟨huser.symm ▸ hr, hrates⟩, decide_eq_true huser⟩
    · rintro ⟨t, ht, htuser⟩
      obtain ⟨ht, hrates⟩ := Store.mem_priorityRecords.mp ht
      rw [of_decide_eq_true htuser, hr] at ht
      cases ht
      exact hrates
  have hwrites {report report' : BatchReport} {s' : Store} :
      (writeWeights report (s.priorityRecords scope)).Yields (balking stuck) s report' s' ↔
        report' = report.counting stuck (s.priorityRecords scope) ∧
          s' = s.rateIf fun user _ =>
            !stuck user && (s.priorityRecords scope).any (·.user = user) :=
    writeWeights_yields_iff (s.pairwise_priorityRecords scope) fun r hr =>
      (Store.mem_priorityRecords.mp hr).1
  rw [hstore]
  constructor
  · rintro ⟨started, _, rfl, answer, _, hread, h⟩
    obtain ⟨rfl, rfl⟩ := balking_read.mp hread
    obtain ⟨_, _, hw, ended, _, rfl, _, _, rfl, rfl, rfl⟩ :=
      (yields_bind (p := writeWeights _ (Store.priorityRecords _ scope))).mp h
    obtain ⟨rfl, rfl⟩ := hwrites.mp hw
    exact ⟨⟨_, rfl⟩, rfl⟩
  · rintro ⟨⟨duration, rfl⟩, rfl⟩
    exact ⟨⟨0⟩, _, rfl, _, _, balking_read.mpr ⟨rfl, rfl⟩,
      (yields_bind (p := writeWeights _ (s.priorityRecords scope))).mpr
        ⟨_, _, hwrites.mpr ⟨rfl, rfl⟩, duration, _, rfl, (), _, rfl, rfl, rfl⟩⟩

/-- Goes through users, one at a time: the records are read anew, and the
weight is written of the one that is the user's. -/
def rateEach : BatchReport → List String → Action (Except StoreError BatchReport)
  | report, [] => return .ok report
  | report, user :: rest => do
      match ← Action.store (.priorityRecords .all) with
      | .error e => return .error e
      | .ok records =>
          let own := records.filter (·.user = user)
          let report ← writeWeights { report with rows := report.rows + own.length } own
          rateEach report rest

def batchEach (users : List String) : Action (Except StoreError BatchReport) := do
  let started ← Action.stopwatch
  match ← rateEach {} users with
  | .error e => return .error e
  | .ok report =>
      let duration := Span.between started (← Action.stopwatch)
      Action.note (.batchEnded duration.inSeconds)
      return .ok { report with duration }

def recordsOf (s : Store) (users : List String) : List Record :=
  users.flatMap fun user => (s.records.get? user).toList

theorem filter_priorityRecords (s : Store) (user : String) :
    (s.priorityRecords .all).filter (·.user = user) = (s.records.get? user).toList :=
  s.recordsKeyed.filter_values user

theorem writeOwn_yields_iff (user : String) :
    (writeWeights report ((s.priorityRecords .all).filter (·.user = user))).Yields
        (balking stuck) s report' s' ↔
      report' = report.counting stuck (s.records.get? user).toList ∧
        s' = s.rateIf fun user' _ => !stuck user' && decide (user' = user) := by
  rw [filter_priorityRecords]
  cases hr : s.records.get? user with
  | none =>
    have hnone : (s.rateIf fun user' _ => !stuck user' && decide (user' = user)) = s := by
      refine (Store.rateIf_congr fun user' r hr' => ?_).trans Store.rateIf_false
      have hne : user' ≠ user := fun heq => by rw [heq, hr] at hr'; cases hr'
      rw [decide_eq_false hne, Bool.and_false]
    rw [hnone]
    rfl
  | some r =>
    have huser : r.user = user := s.recordsKeyed user r hr
    refine (writeWeights_yields_iff (List.pairwise_singleton ..) fun t ht => ?_).trans ?_
    · rw [List.mem_singleton.mp ht, huser, hr]
    · simp only [Option.toList, List.any_cons, List.any_nil, Bool.or_false, huser,
        eq_comm (a := user)]

theorem rateEach_yields_iff {users : List String} (hnodup : users.Nodup)
    {result : Except StoreError BatchReport} :
    (rateEach report users).Yields (balking stuck) s result s' ↔
      result = .ok
          (BatchReport.counting stuck
            { report with rows := report.rows + (recordsOf s users).length } (recordsOf s users)) ∧
        s' = s.rateIf fun user _ => !stuck user && decide (user ∈ users) := by
  induction users generalizing report s with
  | nil =>
    have hnone : (s.rateIf fun user _ => !stuck user && decide (user ∈ ([] : List String))) = s :=
      (Store.rateIf_congr fun _ _ _ => by simp).trans Store.rateIf_false
    rw [hnone]
    rfl
  | cons user rest ih =>
    obtain ⟨hnew, hnodup⟩ := List.nodup_cons.mp hnodup
    -- the users to come have the records they had
    have hrest : recordsOf (s.rateIf fun user' _ => !stuck user' && decide (user' = user)) rest =
        recordsOf s rest := by
      refine List.flatMap_congr fun user' hin => ?_
      have hne : user' ≠ user := fun heq => hnew (heq ▸ hin)
      rw [Store.get?_rateIf]
      simp [hne]
    have hstore : (s.rateIf fun user' _ => !stuck user' && decide (user' ∈ user :: rest)) =
        (s.rateIf fun user' _ => !stuck user' && decide (user' = user)).rateIf
          fun user' _ => !stuck user' && decide (user' ∈ rest) := by
      rw [Store.rateIf_rateIf]
      refine Store.rateIf_congr fun user' _ _ => ?_
      rw [← Bool.and_or_distrib_left, ← Bool.decide_or]
      simp only [List.mem_cons]
    have hcount : BatchReport.counting stuck
          { report with rows := report.rows + (recordsOf s (user :: rest)).length }
          (recordsOf s (user :: rest)) =
        let one := BatchReport.counting stuck
          { report with
            rows := report.rows + ((s.priorityRecords .all).filter (·.user = user)).length }
          (s.records.get? user).toList
        BatchReport.counting stuck { one with rows := one.rows + (recordsOf s rest).length }
          (recordsOf s rest) := by
      rw [filter_priorityRecords]
      simp only [recordsOf, List.flatMap_cons, BatchReport.counting, List.length_append,
        List.countP_append, Nat.add_assoc]
    rw [hstore, hcount, ← hrest, ← ih hnodup]
    constructor
    · rintro ⟨answer, _, hread, h⟩
      obtain ⟨rfl, rfl⟩ := balking_read.mp hread
      obtain ⟨_, _, hw, hmore⟩ := (yields_bind (p := writeWeights _ _)).mp h
      obtain ⟨rfl, rfl⟩ := (writeOwn_yields_iff user).mp hw
      exact hmore
    · intro hmore
      exact ⟨_, _, balking_read.mpr ⟨rfl, rfl⟩, (yields_bind (p := writeWeights _ _)).mpr
        ⟨_, _, (writeOwn_yields_iff user).mpr ⟨rfl, rfl⟩, hmore⟩⟩

theorem recordsOf_keys (s : Store) : recordsOf s s.records.keys = s.records.values := by
  have hentries : ∀ e ∈ s.records.entries, (s.records.get? e.1).toList = [e.2] := fun e he => by
    rw [Table.get?_eq_some_iff.mpr he]
    rfl
  rw [recordsOf, Table.keys, List.flatMap_map, List.flatMap_congr hentries]
  exact List.map_eq_flatMap.symm

/-- In whatever order the users come, it is the same as a batch of all. -/
theorem batchEach_yields_iff {users : List String} (h : users.Perm s.records.keys)
    {result : Except StoreError BatchReport} :
    (batchEach users).Yields (balking stuck) s result s' ↔
      (batch .all).Yields (balking stuck) s result s' := by
  have hnodup : users.Nodup := h.nodup_iff.mpr s.records.nodup_keys
  have hrecords : (recordsOf s users).Perm (s.priorityRecords .all) := by
    rw [show s.priorityRecords .all = s.records.values from rfl, ← recordsOf_keys]
    exact h.flatMap_right _
  have hstore : (s.rateIf fun user _ => !stuck user && decide (user ∈ users)) =
      s.rateIf fun user u => !stuck user && Scope.all.rates u := by
    refine Store.rateIf_congr fun user r hr => congrArg (!stuck user && ·) ?_
    exact decide_eq_true (h.mem_iff.mpr (Table.mem_keys.mpr ⟨r, hr⟩))
  rw [batch_yields_iff, ← hstore, ← hrecords.length_eq, ← BatchReport.counting_perm hrecords]
  constructor
  · rintro ⟨started, _, rfl, hrest⟩
    obtain ⟨_, _, heach, hend⟩ := (yields_bind (p := rateEach {} users)).mp hrest
    obtain ⟨rfl, rfl⟩ := (rateEach_yields_iff hnodup).mp heach
    obtain ⟨ended, _, rfl, _, _, rfl, rfl, rfl⟩ := hend
    exact ⟨⟨Span.between started ended, by simp only [Nat.zero_add]⟩, rfl⟩
  · rintro ⟨⟨duration, rfl⟩, rfl⟩
    refine ⟨⟨0⟩, _, rfl, (yields_bind (p := rateEach {} users)).mpr
      ⟨_, _, (rateEach_yields_iff hnodup).mpr ⟨rfl, rfl⟩, duration, _, rfl, (), _, rfl, ?_, rfl⟩⟩
    simp only [Nat.zero_add, Span.between, Nat.sub_zero]

/-! ## Isolation -/

/-- The users of the scope have the load and the weight of their own base
fields, but for the stuck ones.  All else is as it was. -/
structure Isolated (scope : Scope) (stuck : String → Bool) (s s' : Store) : Prop where
  others : Store.SameBut .records s s'
  absent : ∀ user, s.records.get? user = none → s'.records.get? user = none
  written : ∀ user r, s.records.get? user = some r →
    scope.rates r.usage = true → stuck user = false →
      s'.records.get? user =
        some { r with userload := r.usage.share.userload, weight := r.usage.share.weight }
  kept : ∀ user r, s.records.get? user = some r →
    (scope.rates r.usage = false ∨ stuck user = true) → s'.records.get? user = some r

/-- A report that counts the users of the scope, each once, by what became
of them. -/
structure Accounted (scope : Scope) (stuck : String → Bool) (s : Store) (report : BatchReport) :
    Prop where
  rows : report.rows = s.records.values.countP fun r => scope.rates r.usage
  split : report.rows = report.updated + report.failed
  failed : report.failed = s.records.values.countP fun r => scope.rates r.usage && stuck r.user
  overQuota : report.overQuota = s.records.values.countP fun r =>
    scope.rates r.usage && !stuck r.user && decide r.usage.OverQuota

theorem isolated_rateIf (scope : Scope) (stuck : String → Bool) (s : Store) :
    Isolated scope stuck s (s.rateIf fun user u => !stuck user && scope.rates u) where
  others := Store.sameBut_rateIf ..
  absent user h := by rw [Store.get?_rateIf, h, Option.map_none]
  written user r h hrates hfree := by
    rw [Store.get?_rateIf, h, Option.map_some, hrates, hfree]
    rfl
  kept user r h hnot := by
    rw [Store.get?_rateIf, h, Option.map_some]
    rcases hnot with hnot | hnot <;> simp [hnot]

theorem accounted_counting (scope : Scope) (stuck : String → Bool) (s : Store) (duration : Span) :
    Accounted scope stuck s
      { BatchReport.counting stuck { rows := (s.priorityRecords scope).length }
          (s.priorityRecords scope) with duration } := by
  have hcount (p : Record → Bool) : (s.priorityRecords scope).countP p =
      s.records.values.countP fun r => scope.rates r.usage && p r := by
    rw [Store.priorityRecords_eq_filter_rates, List.countP_filter]
    exact List.countP_congr fun r _ => by rw [Bool.and_comm]
  refine ⟨?_, ?_, ?_, ?_⟩
  · simp only [BatchReport.counting, Store.priorityRecords_eq_filter_rates,
      List.countP_eq_length_filter]
  · simp only [BatchReport.counting, Nat.zero_add]
    rw [Nat.add_comm, List.length_eq_countP_add_countP fun r => stuck r.user]
    simp only [Bool.not_eq_true, Bool.decide_eq_false]
  · simp only [BatchReport.counting, Nat.zero_add, hcount]
  · simp only [BatchReport.counting, Nat.zero_add, hcount, Bool.and_assoc]

/-- Whichever users cannot be written, a batch comes to its end with a
report, rates all others in its scope, and changes and counts as it
should.  A batch after it, in which nothing fails, changes records of
users that could not be written, and leaves what one would have left to
begin with.  Of all users, a batch comes to the same as one user by user,
in any order. -/
theorem batch_isolates_rows (scope : Scope) (stuck : String → Bool) (s : Store) :
    (∃ result s', (batch scope).Yields (balking stuck) s result s') ∧
      (∀ result s', (batch scope).Yields (balking stuck) s result s' →
        (∃ report, result = .ok report ∧ Accounted scope stuck s report) ∧
          Isolated scope stuck s s' ∧
          ∀ again s'', (batch scope).Yields (balking fun _ => false) s' again s'' →
            Isolated scope (fun _ => false) s s'' ∧
              ∀ user, s''.records.get? user ≠ s'.records.get? user →
                ∃ r, s.records.get? user = some r ∧ scope.rates r.usage = true ∧
                  stuck user = true) ∧
      ∀ users : List String, users.Perm s.records.keys → ∀ result s',
        (batchEach users).Yields (balking stuck) s result s' ↔
          (batch .all).Yields (balking stuck) s result s' := by
  refine ⟨⟨_, _, batch_yields_iff.mpr ⟨⟨⟨0⟩, rfl⟩, rfl⟩⟩, ?_, fun users h _ _ =>
    batchEach_yields_iff h⟩
  rintro result s' h
  obtain ⟨⟨duration, rfl⟩, rfl⟩ := batch_yields_iff.mp h
  refine ⟨⟨_, rfl, accounted_counting scope stuck s duration⟩, isolated_rateIf scope stuck s, ?_⟩
  rintro again s'' h'
  obtain ⟨-, rfl⟩ := batch_yields_iff.mp h'
  have hboth : ((s.rateIf fun user u => !stuck user && scope.rates u).rateIf fun user u =>
      !(fun _ : String => false) user && scope.rates u) =
        s.rateIf fun user u => !(fun _ : String => false) user && scope.rates u := by
    rw [Store.rateIf_rateIf]
    refine Store.rateIf_congr fun user r _ => ?_
    cases stuck user <;> cases scope.rates r.usage <;> rfl
  refine ⟨hboth ▸ isolated_rateIf scope _ s, fun user hne => ?_⟩
  -- the second batch differs from the first one in who is stuck only
  rw [hboth] at hne
  obtain ⟨r, hr, hkinds⟩ := Store.exists_of_rateIf_ne hne
  refine ⟨r, hr, ?_⟩
  cases hrates : scope.rates r.usage with
  | false =>
    rw [hrates, Bool.and_false, Bool.and_false] at hkinds
    exact absurd rfl hkinds
  | true =>
    cases hstuck : stuck user with
    | false =>
      rw [hstuck] at hkinds
      exact absurd rfl hkinds
    | true => exact ⟨rfl, rfl⟩

/-- Two users, of whom the second is over a quota. -/
def storeOfTwoRecords : Store :=
  storeOfRecord.insertRecord ⟨"bob", usingCores 11, 0.0, 1.0⟩

/-- The first one's weight cannot be written, and the second one is
excluded. -/
theorem batch_isolates_rows_of_two :
    ∃ report s', (batch .all).Yields (balking (· == "alice")) storeOfTwoRecords (.ok report) s' ∧
      report.rows = 2 ∧ report.updated = 1 ∧ report.failed = 1 ∧ report.overQuota = 1 ∧
      s'.records.get? "alice" = storeOfRecord.records.get? "alice" ∧ s'.Excludes "bob" ∧
      (batchEach ["bob", "alice"]).Yields (balking (· == "alice")) storeOfTwoRecords
        (.ok report) s' := by
  obtain ⟨⟨result, s', h⟩, hafter, heach⟩ :=
    batch_isolates_rows .all (· == "alice") storeOfTwoRecords
  obtain ⟨⟨report, rfl, hreport⟩, hstore, -⟩ := hafter result s' h
  have hrows : report.rows = 2 := hreport.rows
  have hfailed : report.failed = 1 := hreport.failed
  have hsplit := hreport.split
  refine ⟨report, s', h, hrows, by omega, hfailed, hreport.overQuota, ?_, ?_, ?_⟩
  · exact hstore.kept "alice" ⟨"alice", usingCores 0, 0.0, 1.0⟩ rfl (.inr rfl)
  · exact ⟨_, hstore.written "bob" ⟨"bob", usingCores 11, 0.0, 1.0⟩ rfl rfl rfl,
      decide_eq_true ((usingCores 11).weight_le_zero_iff.mpr (.inr (by decide)))⟩
  · exact (heach ["bob", "alice"] (.swap ..) _ _).mpr h

end FairShare

end GridQueue
