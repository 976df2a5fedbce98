/-
# `GridQueue.Proofs.Store.Bookkeeping` — a database keeps the books as a store in memory

Beside its jobs a store keeps books: the counters of aggregates, the
fair-share records of users, the queues of computing elements and the
markers of shared tasks.  Each book is one table whose rows are told apart
by one name, and each call about it is one statement:

| call              | table               | statement                      |
| :---------------- | :------------------ | :----------------------------- |
| `decrement`       | `waiting_aggregate` | update                         |
| `updatePriority`  | `priority_quota`    | update; an error if it missed  |
| `priorityRecords` | `priority_quota`    | select, sorted                 |
| `siteQueue`       | `site_queue`        | select                         |
| `adjustCounters`  | `site_queue`        | insert or change               |
| `setQueueStatus`  | `site_queue`        | insert or change               |
| `setQueueBlocked` | `site_queue`        | insert or change               |
| `acquireMarker`   | `task_markers`      | insert, or change if it is old |

A row that is inserted gets the defaults of the layout where the statement
gives nothing, and these are what a queue in memory starts with.  If the
tables hold the books of a store (`Mirrors`), each call ends alike in both
(`Mirrors.ends`), and so do calls in a row (`Mirrors.endAlike`).
-/
import GridQueue.Proofs.Sql.Keyed
import GridQueue.Proofs.Store.Effect
import GridQueue.Proofs.Store.Limits
import GridQueue.Proofs.Store.Reading
import GridQueue.Proofs.Store.Talk
import GridQueue.Proofs.Table
import GridQueue.Store.Memory
import GridQueue.Store.Schema

namespace GridQueue

open Sql StoreStatement

/-! ## The books -/

def aggregateMapping : Mapping Int Aggregate :=
  { layout := Schema.waitingAggregate
    key := "entry_id"
    name := (·.id)
    row := Aggregate.toRow
    value := .int
    key_eq := rfl
    row_key := fun _ => rfl
    order_value := Value.order?_int }

def recordMapping : Mapping String FairShare.Record :=
  { layout := Schema.priorityQuota
    key := "user_name"
    name := (·.user)
    row := FairShare.Record.toRow
    value := .text
    key_eq := rfl
    row_key := fun _ => rfl
    order_value := Value.order?_text }

def queueMapping : Mapping String SiteQueue :=
  { layout := Schema.siteQueue
    key := "ce"
    name := (·.ce)
    row := SiteQueue.toRow
    value := .text
    key_eq := rfl
    row_key := fun _ => rfl
    order_value := Value.order?_text }

/-- Markers by the names they stand at. -/
def markerMapping : Mapping String (String × Marker) :=
  { layout := Schema.taskMarkers
    key := "name"
    name := (·.1)
    row := fun m => markerRow m.1 m.2.owner m.2.takenAt
    value := .text
    key_eq := rfl
    row_key := fun _ => rfl
    order_value := Value.order?_text }

/-- The marker at a name, with the name. -/
def Store.marker? (s : Store) (name : String) : Option (String × Marker) :=
  (s.markers.get? name).map (name, ·)

/-- The tables of the books hold what the store has in them. -/
structure Mirrors (d : Database) (s : Store) : Prop where
  aggregates : d.Keeps aggregateMapping s.aggregates.get?
  records : d.Keeps recordMapping s.records.get?
  queues : d.Keeps queueMapping s.queues.get?
  markers : d.Keeps markerMapping s.marker?

def bookTables : List String := ["waiting_aggregate", "priority_quota", "site_queue", "task_markers"]

/-- Alone with a database, a program ends with a value or an error; the
books are those of a store then, and the other tables are as they were. -/
def EndsMirroring (now : Instant) {α : Type} (p : Querying α) (d : Database)
    (r : Except StoreError α) (s' : Store) : Prop :=
  ∃ d', p.Ends now d r d' ∧ Mirrors d' s' ∧
    ∀ name, name ∉ bookTables → d'.table? name = d.table? name

/-! ## The books in memory -/

namespace SiteQueue

/-- The counters change, and stay at zero or above. -/
def adjust (q : SiteQueue) (site : String) (assigned waiting : Int) : SiteQueue :=
  { q with
    site
    assigned := max (wrapInt64 (q.assigned + assigned)) 0
    waiting := max (wrapInt64 (q.waiting + waiting)) 0 }

/-- The queue has a status, perhaps another one. -/
def report (q : SiteQueue) (status : String) (now : Instant) : SiteQueue :=
  if q.status = status then q else { q with status, statusChangedAt := now }

/-- The queue is blocked or opened. -/
def block (q : SiteQueue) (blocked : Bool) (now : Instant) : SiteQueue :=
  { q with
    blocked
    status := if blocked then "blocked" else "open"
    statusChangedAt := now }

theorem report_ce (q : SiteQueue) (status : String) (now : Instant) :
    (q.report status now).ce = q.ce := by
  unfold report
  split <;> rfl

end SiteQueue

namespace Store

theorem queueOr_ce (s : Store) (ce site : String) (now : Instant) :
    (s.queueOr ce site now).ce = ce := by
  unfold queueOr
  cases hq : s.queues.get? ce with
  | none => rfl
  | some q => exact s.queuesKeyed _ _ hq

variable {s s' : Store} {ce site status : String} {now : Instant}

theorem adjustCounters_eq {assigned waiting : Int} :
    s.adjustCounters ce site assigned waiting now =
      s.putQueue ((s.queueOr ce site now).adjust site assigned waiting) := by
  rw [SiteQueue.adjust, s.queueOr_ce]
  rfl

theorem setQueueStatus_eq : s.setQueueStatus ce site status now =
    s.putQueue ((s.queueOr ce site now).report status now) := by
  have hce := s.queueOr_ce ce site now
  unfold setQueueStatus
  generalize s.queueOr ce site now = q at hce ⊢
  subst hce
  rfl

theorem setQueueBlocked_eq {blocked : Bool} : s.setQueueBlocked ce blocked now =
    s.putQueue ((s.queueOr ce "" now).block blocked now) := by
  rw [SiteQueue.block, s.queueOr_ce]
  rfl

theorem acquireMarker_eq {name owner : String} {minAge : Span} {at_ oldest : Instant}
    (hback : at_.back? minAge = some oldest) :
    s.acquireMarker name owner minAge at_ =
      if (s.markers.get? name).all fun m => decide (m.takenAt.nanos ≤ oldest.nanos) then
        (.ok true, { s with markers := s.markers.insert name ⟨at_, owner⟩ })
      else (.ok false, s) := by
  rw [acquireMarker, isDue, hback]
  cases s.markers.get? name with
  | none => rfl
  | some m => cases hdue : decide (m.takenAt.nanos ≤ oldest.nanos) <;> simp [hdue]

theorem marker?_insert (s : Store) (name : String) (m : Marker) :
    ({ s with markers := s.markers.insert name m } : Store).marker? =
      Function.update s.marker? name (some (name, m)) := by
  funext other
  rw [marker?, Table.get?_insert_eq_update]
  by_cases h : other = name
  · subst h
    rw [Function.update_self, Function.update_self]
    rfl
  · rw [Function.update_of_ne h, Function.update_of_ne h]
    rfl

theorem marker?_congr (h : s'.markers = s.markers) : s'.marker? = s.marker? := by
  funext name
  rw [marker?, h, marker?]

theorem priorityRecords_eq_filter (s : Store) (scope : Scope) :
    s.priorityRecords scope =
      s.records.values.filter fun r => !decide (scope = .activeOnly) || r.hasRecentUsage := by
  cases scope with
  | all => exact (List.filter_true _).symm
  | activeOnly => rfl

end Store

section Bookkeeping

variable {α : Type} {now : Instant} {t : Timeouts} {d d' : Database} {s s' : Store}

/-! ## One book is written -/

namespace Mirrors

theorem write_aggregates (hd : Mirrors d s) (hs : Store.SameBut .aggregates s s')
    (h : d.Written aggregateMapping s'.aggregates.get? d') : Mirrors d' s' where
  aggregates := h.keeps
  records := hs.same .records nofun ▸ hd.records.of_written h (by decide)
  queues := hs.same .queues nofun ▸ hd.queues.of_written h (by decide)
  markers := Store.marker?_congr (hs.same .markers nofun) ▸ hd.markers.of_written h (by decide)

theorem write_records (hd : Mirrors d s) (hs : Store.SameBut .records s s')
    (h : d.Written recordMapping s'.records.get? d') : Mirrors d' s' where
  aggregates := hs.same .aggregates nofun ▸ hd.aggregates.of_written h (by decide)
  records := h.keeps
  queues := hs.same .queues nofun ▸ hd.queues.of_written h (by decide)
  markers := Store.marker?_congr (hs.same .markers nofun) ▸ hd.markers.of_written h (by decide)

theorem write_queues (hd : Mirrors d s) (hs : Store.SameBut .queues s s')
    (h : d.Written queueMapping s'.queues.get? d') : Mirrors d' s' where
  aggregates := hs.same .aggregates nofun ▸ hd.aggregates.of_written h (by decide)
  records := hs.same .records nofun ▸ hd.records.of_written h (by decide)
  queues := h.keeps
  markers := Store.marker?_congr (hs.same .markers nofun) ▸ hd.markers.of_written h (by decide)

theorem write_markers (hd : Mirrors d s) (hs : Store.SameBut .markers s s')
    (h : d.Written markerMapping s'.marker? d') : Mirrors d' s' where
  aggregates := hs.same .aggregates nofun ▸ hd.aggregates.of_written h (by decide)
  records := hs.same .records nofun ▸ hd.records.of_written h (by decide)
  queues := hs.same .queues nofun ▸ hd.queues.of_written h (by decide)
  markers := h.keeps

/-- A statement writes a book, and what follows it sends no other. -/
theorem of_writes {κ β : Type} [Ord κ] [DecidableEq κ] {m : Mapping κ β} {find : κ → Option β}
    {operation : String} {limit : Span} {st : Statement} {params : List Value} {n : Nat}
    {f : Reply → Querying α} {r : Except StoreError α} (hw : d.Writes now st params n m find)
    (hbook : m.layout.table ∈ bookTables) (hd : ∀ d', d.Written m find d' → Mirrors d' s')
    (hf : ∀ d', (f { rows := [], affected := n }).Ends now d' r d') :
    EndsMirroring now (Querying.bounded operation limit st params >>= f) d r s' := by
  obtain ⟨d', hexecute, hwritten⟩ := hw
  refine ⟨d', .bind (.bounded hexecute) (hf d'), hd d' hwritten, fun name hname => ?_⟩
  refine hwritten.others name fun heq => hname ?_
  rw [heq]
  exact hbook

theorem reads (hd : Mirrors d s) {p : Querying α} {r : Except StoreError α} (h : p.Ends now d r d) :
    EndsMirroring now p d r s := ⟨d, h, hd, fun _ _ => rfl⟩

/-! ## Counters of aggregates -/

/-- The counter stays at zero or above, and a local claim is when the
aggregate was last served. -/
theorem apply_decrement {a : Aggregate} {isLocal : Bool} {set : Assignments}
    {w : Sql.Surroundings} {b : Bindings} (hcounter : FitsInt64 (a.counter - 1))
    (hidle : a.idleSince.IsTimestamp) (hnow : now.IsTimestamp)
    (hvalues : set.values w b = [("counter", Value.greatest (.int (a.counter - 1)) (.int 0)),
      ("idle_since", if (Value.bool isLocal).isTrue then .time now else .time a.idleSince)]) :
    set.applied? Schema.waitingAggregate w b a.toRow = .ok (Aggregate.toRow { a with
      counter := max (a.counter - 1) 0
      idleSince := if isLocal then now else a.idleSince }) := by
  rw [Value.greatest_int] at hvalues
  cases isLocal with
  | true =>
    have hfits : Schema.waitingAggregate.Fits
        [("counter", .int (max (a.counter - 1) 0)), ("idle_since", .time now)] :=
      .cons hcounter.max_zero (.cons hnow .nil)
    exact Assignments.applied?_of_fits hvalues hfits
  | false =>
    have hfits : Schema.waitingAggregate.Fits
        [("counter", .int (max (a.counter - 1) 0)), ("idle_since", .time a.idleSince)] :=
      .cons hcounter.max_zero (.cons hidle .nil)
    exact Assignments.applied?_of_fits hvalues hfits

theorem decrement (hd : Mirrors d s) (hnow : now.IsTimestamp) {aggregateId : Int} {isLocal : Bool}
    (hfits : (StoreCall.decrement aggregateId isLocal).FitsTables s) :
    EndsMirroring now (Querying.perform t (.decrement aggregateId isLocal)) d (.ok ())
      (s.decrement aggregateId isLocal now) := by
  cases ha : s.aggregates.get? aggregateId with
  | none =>
    have hsame : s.decrement aggregateId isLocal now = s := by rw [Store.decrement, ha]
    rw [hsame]
    exact of_writes (hd.aggregates.update_none rfl ha) (by decide)
      (fun _ h => hd.write_aggregates (.refl _ _) h) fun _ => .of_gives (.pure ())
  | some a =>
    obtain ⟨hcounter, hidle⟩ := hfits a ha
    obtain rfl : a.id = aggregateId := s.aggregatesKeyed _ _ ha
    rw [Store.decrement_of_get? ha]
    refine of_writes (hd.aggregates.update_some rfl ha
      (apply_decrement hcounter hidle hnow rfl) rfl) (by decide)
      (fun _ h => ?_) fun _ => .of_gives (.pure ())
    refine hd.write_aggregates (Store.sameBut_insertAggregate ..) ?_
    rwa [Store.insertAggregate, Table.get?_insert_eq_update]

/-! ## Fair-share records -/

theorem updatePriority (hd : Mirrors d s) (user : String) (userload weight : Float) :
    EndsMirroring now (Querying.perform t (.updatePriority user userload weight)) d
      (s.perform now (.updatePriority user userload weight)).1
      (s.perform now (.updatePriority user userload weight)).2 := by
  cases hr : s.records.get? user with
  | none =>
    have hmissing : s.perform now (.updatePriority user userload weight) =
        (.error (.notFound ("Priority record " ++ user)), s) := by
      simp only [Store.perform, Store.updatePriority, hr]
    rw [hmissing]
    exact of_writes (hd.records.update_none rfl hr) (by decide)
      (fun _ h => hd.write_records (.refl _ _) h) fun _ => .throw _
  | some r =>
    obtain rfl : r.user = user := s.recordsKeyed _ _ hr
    have hwritten : s.perform now (.updatePriority r.user userload weight) =
        (.ok (), s.insertRecord { r with userload, weight }) := by
      simp only [Store.perform, Store.updatePriority, hr]
    rw [hwritten]
    have hfits : Schema.priorityQuota.Fits
        [("userload", .real userload), ("computed_priority", .real weight)] :=
      .cons trivial (.cons trivial .nil)
    refine of_writes (hd.records.update_some (x := { r with userload, weight }) rfl hr
      (Assignments.applied?_of_fits rfl hfits) rfl) (by decide) (fun _ h => ?_)
      fun _ => .of_gives (.pure ())
    refine hd.write_records (Store.sameBut_insertRecord ..) ?_
    rwa [Store.insertRecord, Table.get?_insert_eq_update]

theorem priorityRecords (hd : Mirrors d s) (scope : Scope) :
    EndsMirroring now (Querying.perform t (.priorityRecords scope)) d
      (.ok (s.priorityRecords scope)) s := by
  refine hd.reads (.of_gives (.bind (.bounded (Database.execute_select _))
    (.allRows (f := FairShare.Record.toRow) ?_ fun _ _ => rfl)))
  rw [Store.priorityRecords_eq_filter]
  let w := d.surroundings [.bool (scope = .activeOnly)] now []
  refine hd.records.select_sorted s.recordsKeyed w.params now _ fun r => ?_
  let b : Bindings := [(recordMapping.layout.table, r.toRow)]
  have hall : (same (.param 1) (.bool false)).eval w b =
      .bool (decide (decide (scope = .activeOnly) = false)) := by
    rw [same, Expr.eval_compare rfl, Comparison.holds_eq]
  have hrunning : (Expr.compare .gt (col "running") (.int 0)).eval w b =
      .bool (decide (0 < r.usage.running)) := Expr.eval_gt_int rfl rfl
  have hlast : (Expr.compare .gt (col "total_running_time_last24h") (.int 0)).eval w b =
      .bool (decide (0 < r.usage.last24h)) := Expr.eval_gt_int rfl rfl
  refine (congrArg Value.isTrue (Expr.eval_or (Expr.eval_or hall hrunning) hlast)).trans ?_
  rw [Value.isTrue_bool, FairShare.Record.hasRecentUsage, Bool.or_assoc]
  cases scope <;> rfl

/-! ## Queues of computing elements -/

theorem siteQueue (hd : Mirrors d s) (ce : String) :
    EndsMirroring now (Querying.perform t (.siteQueue ce)) d (.ok (s.queues.get? ce)) s :=
  hd.reads (.of_gives (.bind (.bounded (Database.execute_select _))
    (.firstRow (f := SiteQueue.toRow) (hd.queues.select rfl now _) fun _ _ => rfl)))

/-- A queue is written: a new one as the change would leave it, and one that
is there is changed. -/
theorem putQueue (hd : Mirrors d s) {i : Insert} {set : Assignments} {params : List Value}
    {given : List (String × Value)} {operation ce site : String} {f : SiteQueue → SiteQueue}
    {x : SiteQueue} (hx : f (Store.newQueue ce site now) = x)
    (hi : queueMapping.Supplies i (d.surroundings params now []) given x)
    (hc : i.conflict = some { key := "ce", set })
    (hset : ∀ q : SiteQueue, s.queues.get? ce = some q →
      set.applied? Schema.siteQueue (d.surroundings params now []) (queueMapping.conflict q x)
        q.toRow = .ok (f q).toRow)
    (hname : ∀ q, (f q).ce = q.ce) :
    EndsMirroring now (Querying.command t operation (.ofInsert i) params) d (.ok ())
      (s.putQueue (f (s.queueOr ce site now))) := by
  have hxname : queueMapping.name x = ce := hx ▸ hname _
  have hwritten : ∀ d', d.Written queueMapping
      (Function.update s.queues.get? ce (some (f (s.queueOr ce site now)))) d' →
      Mirrors d' (s.putQueue (f (s.queueOr ce site now))) := by
    intro d' h
    refine hd.write_queues (Store.sameBut_putQueue ..) ?_
    rwa [Store.putQueue, Table.get?_insert_eq_update, hname, Store.queueOr_ce]
  refine of_writes (n := 1) ?_ (by decide) hwritten fun _ => .of_gives (.pure ())
  cases hq : s.queues.get? ce with
  | none =>
    have hnew : s.queueOr ce site now = Store.newQueue ce site now := by rw [Store.queueOr, hq]; rfl
    have h := hd.queues.insert_none hi (by rwa [hxname])
    rwa [hxname, ← hx, ← hnew] at h
  | some q =>
    have hold : s.queueOr ce site now = q := by rw [Store.queueOr, hq]; rfl
    have hfound : s.queues.get? (queueMapping.name x) = some q := by rwa [hxname]
    have hsame : (f q).ce = queueMapping.name x := by
      rw [hname, hxname]
      exact s.queuesKeyed _ _ hq
    have h := hd.queues.insert_some hi hfound hc rfl rfl (hset q hq) hsame
    rwa [hxname, ← hold] at h

theorem fits_toRow {q : SiteQueue}
    (hnames : ∀ name ∈ [q.ce, q.site], (Kind.varchar 255).Fits (.text name))
    (hstatus : (Kind.varchar 64).Fits (.text q.status)) (hassigned : FitsInt64 q.assigned)
    (hwaiting : FitsInt64 q.waiting) (hchanged : q.statusChangedAt.IsTimestamp) :
    Schema.siteQueue.Fits q.toRow := by
  obtain ⟨hce, hnames⟩ := List.forall_mem_cons.mp hnames
  have hsite := List.forall_mem_singleton.mp hnames
  exact .cons hce (.cons hsite (.cons hstatus (.cons trivial
    (.cons hassigned (.cons hwaiting (.cons hchanged .nil))))))

theorem fits_open : (Kind.varchar 64).Fits (.text "open") := ⟨by decide, by decide⟩

theorem fitsInt64_zero : FitsInt64 0 := by decide

theorem adjustCounters (hd : Mirrors d s) (hnow : now.IsTimestamp) {ce site : String}
    {assigned waiting : Int}
    (hfits : (StoreCall.adjustCounters ce site assigned waiting).FitsTables s) :
    EndsMirroring now (Querying.perform t (.adjustCounters ce site assigned waiting)) d (.ok ())
      (s.adjustCounters ce site assigned waiting now) := by
  obtain ⟨hnames, hchanges, hcounters⟩ := hfits
  have hassigned := hchanges assigned (by simp)
  have hwaiting := hchanges waiting (by simp)
  rw [Store.adjustCounters_eq]
  have hx : (Store.newQueue ce site now).adjust site assigned waiting =
      { Store.newQueue ce site now with assigned := max assigned 0, waiting := max waiting 0 } := by
    simp only [SiteQueue.adjust, Store.newQueue, Int.zero_add, wrapInt64_of_fits hassigned,
      wrapInt64_of_fits hwaiting]
  have hrow := fits_toRow (q := { Store.newQueue ce site now with
      assigned := max assigned 0, waiting := max waiting 0 })
    hnames fits_open hassigned.max_zero hwaiting.max_zero hnow
  refine hd.putQueue (f := fun q => q.adjust site assigned waiting) hx
    (.of_fits rfl rfl (fun _ => ?_) hrow) rfl (fun q hq => ?_) fun _ => rfl
  · show [("ce", .text ce), ("site", .text site), ("status", .text "open"), ("blocked", .bool false),
      ("assigned", Value.greatest (.int assigned) (.int 0)),
      ("waiting", Value.greatest (.int waiting) (.int 0)), ("status_changed_at", .time now)] = _
    rw [Value.greatest_int, Value.greatest_int]
    rfl
  · obtain ⟨hassigned', hwaiting'⟩ := hcounters q hq
    have hvalues : Schema.siteQueue.Fits [("site", .text site),
        ("assigned", .int (max (q.assigned + assigned) 0)),
        ("waiting", .int (max (q.waiting + waiting) 0))] :=
      .cons (hnames site (by simp))
        (.cons hassigned'.max_zero (.cons hwaiting'.max_zero .nil))
    refine (Assignments.applied?_of_fits ?_ hvalues).trans ?_
    · show [("site", Value.text site),
        ("assigned", Value.greatest (.int (q.assigned + assigned)) (.int 0)),
        ("waiting", Value.greatest (.int (q.waiting + waiting)) (.int 0))] = _
      rw [Value.greatest_int, Value.greatest_int]
    · rw [SiteQueue.adjust, wrapInt64_of_fits hassigned', wrapInt64_of_fits hwaiting']
      rfl

/-- A name that is longer than its column is refused, and nothing changes. -/
theorem adjustCounters_refused (hd : Mirrors d s) {ce site : String} {assigned waiting : Int}
    (htext : Kind.isText ce = true) (hlong : (ce.toList.drop 255).all (· == ' ') = false) :
    (Querying.perform t (.adjustCounters ce site assigned waiting)).Ends now d
      (.error (.query (.refused "value too long for type character varying(255)"))) d := by
  obtain ⟨l, -, ht⟩ := hd.queues
  have hce : Schema.siteQueue.storeIn? "ce" (.text ce) =
      .error (.refused "value too long for type character varying(255)") :=
    Kind.store?_of_long htext hlong
  have hexecute : d.execute now StoreStatement.adjustCounters
      [.text ce, .text site, .int assigned, .int waiting] =
        .error (.refused "value too long for type character varying(255)") := by
    refine Database.execute_refused ?_
    refine (Database.runPart_insert ht).trans (Insert.run_refused rfl ?_)
    exact Layout.store?_of_refused (l := Schema.siteQueue) .nil hce
  exact .bind_error (.refused hexecute)

theorem setQueueStatus (hd : Mirrors d s) (hnow : now.IsTimestamp) {ce site status : String}
    (hfits : (StoreCall.setQueueStatus ce site status).FitsTables s) :
    EndsMirroring now (Querying.perform t (.setQueueStatus ce site status)) d (.ok ())
      (s.setQueueStatus ce site status now) := by
  obtain ⟨hnames, hstatus, hchanged⟩ := hfits
  rw [Store.setQueueStatus_eq]
  -- a new queue changes just now, also if it has the status already
  have hx : (Store.newQueue ce site now).report status now =
      { Store.newQueue ce site now with status } := by
    by_cases hsame : (Store.newQueue ce site now).status = status
    · rw [SiteQueue.report, if_pos hsame, ← hsame]
    · rw [SiteQueue.report, if_neg hsame]
      rfl
  have hrow := fits_toRow (q := { Store.newQueue ce site now with status }) hnames hstatus
    fitsInt64_zero fitsInt64_zero hnow
  refine hd.putQueue (f := fun q => q.report status now) hx (.of_fits rfl rfl (fun _ => rfl) hrow)
    rfl (fun q hq => ?_) fun q => q.report_ce status now
  have hother : (Expr.compare .ne (present "status") (excluded "status")).eval
      (d.surroundings [.text ce, .text site, .text status] now [])
      (queueMapping.conflict q { Store.newQueue ce site now with status }) =
        .bool !decide (q.status = status) := Expr.eval_ne_text rfl rfl
  have hvalues : Schema.siteQueue.Fits [("status", .text status), ("status_changed_at",
      .time (if q.status = status then q.statusChangedAt else now))] := by
    refine .cons hstatus (.cons ?_ .nil)
    split
    · exact hchanged q hq
    · exact hnow
  refine (Assignments.applied?_of_fits ?_ hvalues).trans ?_
  · show [("status", Value.text status),
      ("status_changed_at", if (Expr.eval _ _ (.compare .ne (present "status")
        (excluded "status"))).isTrue then .time now else .time q.statusChangedAt)] = _
    rw [hother, Value.isTrue_bool]
    by_cases hsame : q.status = status
    · rw [decide_eq_true hsame, if_pos hsame]
      rfl
    · rw [decide_eq_false hsame, if_neg hsame]
      rfl
  · by_cases hsame : q.status = status
    · rw [SiteQueue.report, if_pos hsame, if_pos hsame, ← hsame]
      rfl
    · rw [SiteQueue.report, if_neg hsame, if_neg hsame]
      rfl

theorem setQueueBlocked (hd : Mirrors d s) (hnow : now.IsTimestamp) {ce : String}
    (hce : (Kind.varchar 255).Fits (.text ce)) (blocked : Bool) :
    EndsMirroring now (Querying.perform t (.setQueueBlocked ce blocked)) d (.ok ())
      (s.setQueueBlocked ce blocked now) := by
  rw [Store.setQueueBlocked_eq]
  have hstatus : (Kind.varchar 64).Fits (.text (if blocked then "blocked" else "open")) := by
    cases blocked <;> exact ⟨by decide, by decide⟩
  have hnames : ∀ name ∈ [ce, ""], (Kind.varchar 255).Fits (.text name) :=
    List.forall_mem_cons.mpr ⟨hce, List.forall_mem_singleton.mpr ⟨by decide, by decide⟩⟩
  have hrow := fits_toRow (q := (Store.newQueue ce "" now).block blocked now) hnames hstatus
    fitsInt64_zero fitsInt64_zero hnow
  refine hd.putQueue (f := fun q => q.block blocked now) rfl
    (.of_fits rfl rfl (fun _ => ?_) hrow) rfl (fun q _ => ?_) fun _ => rfl
  · cases blocked <;> rfl
  · have hvalues : Schema.siteQueue.Fits [("blocked", .bool blocked),
        ("status", .text (if blocked then "blocked" else "open")),
        ("status_changed_at", .time now)] :=
      .cons trivial (.cons hstatus (.cons hnow .nil))
    exact Assignments.applied?_of_fits rfl hvalues

/-! ## Markers -/

theorem acquireMarker (hd : Mirrors d s) {name owner : String} {minAge : Span} {at_ : Instant}
    (hfits : (StoreCall.acquireMarker name owner minAge at_).FitsTables s) :
    EndsMirroring now (Querying.perform t (.acquireMarker name owner minAge at_)) d
      (s.acquireMarker name owner minAge at_).1 (s.acquireMarker name owner minAge at_).2 := by
  obtain ⟨hname, howner, hat, hback⟩ := hfits
  rw [Querying.perform, Querying.acquireMarker]
  cases hcountable : at_.back? minAge with
  | none =>
    rw [Store.acquireMarker, Store.isDue, hcountable]
    exact hd.reads (.throw _)
  | some oldest =>
    obtain rfl : at_.back minAge = oldest := by
      unfold Instant.back? at hcountable
      split at hcountable
      · exact Option.some.inj hcountable
      · cases hcountable
    rw [Store.acquireMarker_eq hcountable]
    dsimp only
    rw [show at_.inMicros = at_ from hat.1,
      show (at_.back minAge).inMicros = at_.back minAge from hback.1]
    generalize at_.back minAge = oldest
    let x : String × Marker := (name, ⟨at_, owner⟩)
    have hrow : Schema.taskMarkers.Fits (markerMapping.row x) :=
      .cons hname (.cons howner (.cons hat .nil))
    have htaken : ∀ d', d.Written markerMapping (Function.update s.marker? name (some x)) d' →
        Mirrors d' { s with markers := s.markers.insert name ⟨at_, owner⟩ } := by
      intro d' h
      refine hd.write_markers (Store.sameBut_markers ..) ?_
      rwa [Store.marker?_insert]
    cases hm : s.markers.get? name with
    | none =>
      have hfind : s.marker? name = none := by rw [Store.marker?, hm]; rfl
      exact of_writes (hd.markers.insert_none (x := x) (.of_fits rfl rfl (fun _ => rfl) hrow) hfind)
        (by decide) htaken fun _ => .of_gives (.pure true)
    | some m =>
      have hfind : s.marker? name = some (name, m) := by rw [Store.marker?, hm]; rfl
      have hpasses : ((Expr.compare .le (.column "task_markers" "last_executed") (.param 4)).eval
          (d.surroundings [.text name, .text owner, .time at_, .time oldest] now [])
          (markerMapping.conflict (name, m) x)).isTrue =
            decide (m.takenAt.nanos ≤ oldest.nanos) := by
        rw [Expr.eval_le_time (t := m.takenAt) (u := oldest) rfl rfl, Value.isTrue_bool]
      by_cases hdue : m.takenAt.nanos ≤ oldest.nanos
      · rw [decide_eq_true hdue] at hpasses
        simp only [Option.all_some, decide_eq_true hdue, if_true]
        have hvalues : Schema.taskMarkers.Fits
            [("owner", .text owner), ("last_executed", .time at_)] :=
          .cons howner (.cons hat .nil)
        exact of_writes (hd.markers.insert_some (x := x) (.of_fits rfl rfl (fun _ => rfl) hrow)
          hfind rfl rfl ((Conflict.passes_of_condition rfl).trans hpasses) (y := x)
          (Assignments.applied?_of_fits rfl hvalues) rfl) (by decide)
          htaken fun _ => .of_gives (.pure true)
      · rw [decide_eq_false hdue] at hpasses
        simp only [Option.all_some, decide_eq_false hdue, Bool.false_eq_true, if_false]
        exact of_writes (hd.markers.insert_kept (x := x) (.of_fits rfl rfl (fun _ => rfl) hrow)
          hfind rfl rfl ((Conflict.passes_of_condition rfl).trans hpasses)) (by decide)
          (fun _ h => hd.write_markers (.refl _ _) h) fun _ => .of_gives (.pure false)

/-! ## All calls -/

end Mirrors

def StoreCall.isBookkeeping : StoreCall → Bool
  | decrement _ _ | acquireMarker _ _ _ _ | priorityRecords _ | updatePriority _ _ _
  | siteQueue _ | adjustCounters _ _ _ _ | setQueueStatus _ _ _ | setQueueBlocked _ _ => true
  | _ => false

/-- What a database answers is what the store answers, and its books are
those of the store after. -/
theorem Mirrors.ends (t : Timeouts) (hnow : now.IsTimestamp) {c : StoreCall}
    (hc : c.isBookkeeping = true) (hfits : c.FitsTables s) (hd : Mirrors d s) :
    EndsMirroring now (Querying.perform t c) d (s.perform now c).1 (s.perform now c).2 := by
  cases c with
  | decrement => exact hd.decrement hnow hfits
  | acquireMarker => exact hd.acquireMarker hfits
  | priorityRecords scope => exact hd.priorityRecords scope
  | updatePriority user userload weight => exact hd.updatePriority user userload weight
  | siteQueue ce => exact hd.siteQueue ce
  | adjustCounters => exact hd.adjustCounters hnow hfits
  | setQueueStatus => exact hd.setQueueStatus hnow hfits
  | setQueueBlocked ce blocked => exact hd.setQueueBlocked hnow hfits blocked
  | _ => exact absurd hc Bool.false_ne_true

/-- A database whose books are those of a store answers each call about
them as the store does, with the same value or the same error, if its
tables have room for the call.  Its books are those of the store after,
whether or not a row was there before, and its other tables are as they
were. -/
theorem database_keeps_books_as_memory (t : Timeouts) (hnow : now.IsTimestamp) {c : StoreCall}
    (hc : c.isBookkeeping = true) (hfits : c.FitsTables s) (hd : Mirrors d s) :
    ∃ d', (Querying.perform t c).Ends now d (s.perform now c).1 d' ∧
      Mirrors d' (s.perform now c).2 ∧
      ∀ name, name ∉ bookTables → d'.table? name = d.table? name := hd.ends t hnow hc hfits

def Store.books (s : Store) : Database :=
  { tables :=
      [⟨Schema.waitingAggregate, s.aggregates.values.map Aggregate.toRow⟩,
       ⟨Schema.priorityQuota, s.records.values.map FairShare.Record.toRow⟩,
       ⟨Schema.siteQueue, s.queues.values.map SiteQueue.toRow⟩,
       ⟨Schema.taskMarkers, s.markers.entries.map markerMapping.row⟩] }

theorem Store.mirrors_books (s : Store) : Mirrors s.books s where
  aggregates := ⟨s.aggregates.values, s.aggregatesKeyed.filter_values, rfl⟩
  records := ⟨s.records.values, s.recordsKeyed.filter_values, rfl⟩
  queues := ⟨s.queues.values, s.queuesKeyed.filter_values, rfl⟩
  markers := ⟨s.markers.entries, s.markers.filter_entries, rfl⟩

/-- A queue that was not there is made in both stores; it cannot count below
zero. -/
theorem database_keeps_books_as_memory_of_new_queue :
    let s : Store := {}
    let c := StoreCall.adjustCounters "ce" "site" 2 (-1)
    let now := Instant.ofMillis 0
    now.IsTimestamp ∧ c.isBookkeeping = true ∧ c.FitsTables s ∧ Mirrors s.books s ∧
      s.queues.get? "ce" = none ∧
      (s.perform now c).2.queues.get? "ce" = some ⟨"ce", "site", "open", false, 2, 0, now⟩ ∧
      ∃ d', (Querying.perform {} c).Ends now s.books (.ok ()) d' ∧
        Mirrors d' (s.perform now c).2 := by
  intro s c now
  have hnow : now.IsTimestamp := by decide
  have hd : Mirrors s.books s := s.mirrors_books
  have hnames : ∀ name ∈ ["ce", "site"],
      name.toList.length ≤ 255 ∧ Kind.isText name = true := by decide
  have hfits : c.FitsTables s := ⟨hnames, by decide, nofun⟩
  obtain ⟨d', hends, hd', -⟩ := database_keeps_books_as_memory {} hnow (c := c) rfl hfits hd
  exact ⟨hnow, rfl, hfits, hd, rfl, by decide +kernel, d', hends, hd'⟩

/-- A computing element may have a name of any length in memory; in a
database its queue is not made if the name is longer than its column. -/
theorem long_element_is_refused :
    let s : Store := {}
    let ce := String.ofList (List.replicate 256 'c')
    let c := StoreCall.adjustCounters ce "site" 1 0
    let now := Instant.ofMillis 0
    c.isBookkeeping = true ∧ Mirrors s.books s ∧ now.IsTimestamp ∧ (s.perform now c).1 = .ok () ∧
      (Querying.perform {} c).Ends now s.books
        (.error (.query (.refused "value too long for type character varying(255)"))) s.books := by
  intro s ce c now
  refine ⟨rfl, s.mirrors_books, by decide, rfl, s.mirrors_books.adjustCounters_refused ?_ ?_⟩
  · rw [Kind.isText, String.toList_ofList, List.all_replicate]
    decide
  · rw [String.toList_ofList, List.drop_replicate, List.all_replicate]
    decide

/-- Calls that are made one after another, each at its own time, end alike
in both stores. -/
def EndAlike (t : Timeouts) : List (Instant × StoreCall) → Database → Store → Prop
  | [], d, s => Mirrors d s
  | (now, c) :: rest, d, s =>
      ∃ d', (Querying.perform t c).Ends now d (s.perform now c).1 d' ∧
        EndAlike t rest d' (s.perform now c).2

/-- The books never drift apart. -/
theorem Mirrors.endAlike (t : Timeouts) : ∀ {calls : List (Instant × StoreCall)} {d : Database}
    {s : Store}, (∀ e ∈ calls, e.2.isBookkeeping = true) → StoreCall.AllFitTables calls s →
      Mirrors d s → EndAlike t calls d s
  | [], _, _, _, _, hd => hd
  | (now, c) :: rest, d, s, hcalls, hfits, hd => by
      obtain ⟨hnow, hc, hrest⟩ := hfits
      obtain ⟨d', hends, hd', -⟩ := hd.ends t hnow (hcalls (now, c) (List.mem_cons_self ..)) hc
      exact ⟨d', hends, endAlike t (fun e he => hcalls e (List.mem_cons_of_mem _ he)) hrest hd'⟩

end Bookkeeping

end GridQueue
