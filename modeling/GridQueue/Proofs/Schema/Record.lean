/-
# `GridQueue.Proofs.Schema.Record` — which parts of the schema are recorded

The parts that are in place have a row each in `_migrations`, in the order
in which they were recorded.  Three statements of a runner are about this
table, and all others leave it alone:

    prepare    the table is there, with what it had in it
    recorded   a row is found if and only if the part is recorded
    record     the part is recorded after the others, if it was not

The parts themselves are told apart by their names, and each of their
statements by the table or the index that it creates.

`Records d names` is the state of the table, with the names in the order in
which they were recorded.  It is carried over by any replay of statements
that are quiet, that is, about other tables (`Records.replay`), so what
runners do between two statements about it does not matter.
-/
import GridQueue.Proofs.Sql.Keyed
import GridQueue.Proofs.Sql.Server
import GridQueue.Store.Migration
import Mathlib.Data.List.Pairwise

namespace GridQueue

open Sql

namespace Migration

/-! ## The parts -/

/-- What a statement of the schema creates. -/
def subject : Statement → String
  | .createTable l => l.table
  | .createIndex i => i.name
  | .query _ | .lock => ""

/-- The statement creates a table or an index of the schema. -/
def isSchema : Statement → Bool
  | .createTable l => l.table != Schema.migrationRecord.table
  | .createIndex _ => true
  | .query _ | .lock => false

theorem names_nodup : (all.map (·.name)).Nodup := by decide

theorem flatMap_statements_all : all.flatMap (·.statements) =
    Schema.tables.map .createTable ++ Schema.indexes.map .createIndex := rfl

theorem statements_nodup : (all.flatMap (·.statements)).Nodup := by
  refine List.Nodup.of_map subject ?_
  rw [flatMap_statements_all]
  decide

theorem name_fits : ∀ m ∈ all, (Kind.varchar 255).Fits (.text m.name) :=
  show ∀ m ∈ all, m.name.toList.length ≤ 255 ∧ Kind.isText m.name = true by decide

theorem statements_ne_nil : ∀ m ∈ all, m.statements ≠ [] := by decide

variable {m : Migration} {s : Statement} {n : Nat} {rest : List Migration}

theorem isSchema_of_mem (hm : m ∈ all) (hs : s ∈ m.statements) : isSchema s = true := by
  have hall : (all.flatMap (·.statements)).all isSchema = true := by
    rw [flatMap_statements_all]
    decide
  exact List.all_eq_true.mp hall s (List.mem_flatMap.mpr ⟨m, hm, hs⟩)

/-- The statements of a part leave alone what stands in the tables. -/
theorem isQuiet_of_mem (hm : m ∈ all) (hs : s ∈ m.statements) : s.IsQuiet := by
  have hschema : isSchema s = true := isSchema_of_mem hm hs
  cases s with
  | createTable | createIndex | lock => exact trivial
  | query q => cases hschema

theorem eq_of_mem_statements {m' : Migration} (hm : m ∈ all) (hm' : m' ∈ all)
    (hs : s ∈ m.statements) (hs' : s ∈ m'.statements) : m = m' := by
  by_contra hne
  have : Std.Symm (Function.onFun List.Disjoint fun m : Migration => m.statements) :=
    ⟨fun _ _ h => h.symm⟩
  exact (List.nodup_flatMap.mp statements_nodup).2.forall hm hm' hne hs hs'

theorem name_mem_take_iff (hm : all.drop n = m :: rest) (k : Nat) :
    m.name ∈ (all.take k).map (·.name) ↔ n < k := by
  have hget : all[n]? = some m := by
    rw [← List.head?_drop, hm]
    rfl
  obtain ⟨hn, rfl⟩ := List.getElem?_eq_some_iff.mp hget
  rw [List.map_take, List.mem_take_iff_getElem]
  constructor
  · rintro ⟨j, hj, hname⟩
    have hj' : j < (all.map (·.name)).length := by omega
    have hn' : n < (all.map (·.name)).length := by rwa [List.length_map]
    have heq : (all.map (·.name))[j] = (all.map (·.name))[n] := by rw [hname, List.getElem_map]
    have hindex : j = n := names_nodup.getElem_inj_iff.mp heq
    omega
  · intro hk
    exact ⟨n, by simpa using ⟨hk, hn⟩, List.getElem_map ..⟩

/-! ## The table -/

/-- A part that is in place, as a row. -/
def Applied.toRow (a : Applied) : Row :=
  [("name", .text a.name), ("applied_at", .time a.appliedAt)]

/-- Parts that are in place by their names. -/
def appliedMapping : Mapping String Applied :=
  { layout := Schema.migrationRecord
    key := "name"
    name := (·.name)
    row := Applied.toRow
    value := .text
    key_eq := rfl
    row_key := fun _ => rfl
    order_value := Value.order?_text }

/-- The parts with these names are recorded, in this order. -/
def Records (d : Database) (names : List String) : Prop :=
  names.Nodup ∧ ∃ l : List Applied, l.map (·.name) = names ∧
    d.table? Schema.migrationRecord.table = some ⟨Schema.migrationRecord, l.map Applied.toRow⟩

/-- The names that are recorded, in the order in which the rows stand. -/
def recordedNames (d : Database) : List String :=
  (d.rowsOf Schema.migrationRecord.table).filterMap fun r => (r.get "name").text?

variable {d d' : Database} {names : List String} {now : Instant} {name : String} {es : List Entry}

theorem Records.recordedNames_eq (h : Records d names) : recordedNames d = names := by
  obtain ⟨-, l, rfl, ht⟩ := h
  rw [recordedNames, Database.rowsOf, ht]
  refine List.filterMap_map.trans ?_
  exact congrFun List.filterMap_eq_map l

theorem recordedNames_of_none (h : d.table? Schema.migrationRecord.table = none) :
    recordedNames d = [] := by
  rw [recordedNames, Database.rowsOf, h]
  rfl

theorem Records.of_tables (h : Records d names)
    (hkeeps : ∀ name t, d.table? name = some t → d'.table? name = some t) : Records d' names := by
  obtain ⟨hnodup, l, hl, ht⟩ := h
  exact ⟨hnodup, l, hl, hkeeps _ _ ht⟩

theorem Records.replay (h : Records d names) (hquiet : ∀ e ∈ es, e.statement.IsQuiet) :
    ∃ d', d.replay es = .ok d' ∧ Records d' names := by
  obtain ⟨d', hreplay, hkeeps⟩ := d.replay_of_isQuiet hquiet
  exact ⟨d', hreplay, h.of_tables hkeeps⟩

theorem Records.prepare (h : Records d names) :
    Records (d.create Schema.migrationRecord) names := by
  refine h.of_tables fun name t ht => ?_
  rw [Database.table?_create, ht]
  rfl

theorem Records.prepare_of_none (h : d.table? Schema.migrationRecord.table = none) :
    Records (d.create Schema.migrationRecord) [] := by
  refine ⟨.nil, [], rfl, ?_⟩
  rw [Database.table?_create, h, if_pos rfl]
  rfl

theorem isQuiet_recorded : recorded.IsQuiet := ⟨rfl, _, rfl⟩

theorem Records.recorded (h : Records d names) (now : Instant) (name : String) :
    ∃ reply, d.execute now recorded [.text name] = .ok (reply, d) ∧
      (reply.rows.isEmpty = true ↔ name ∉ names) := by
  obtain ⟨hnodup, l, rfl, ht⟩ := h
  have hkeeps : d.Keeps appliedMapping _ := ⟨l, appliedMapping.lists_find hnodup, ht⟩
  refine ⟨_, Database.execute_select _, ?_⟩
  have hparam : [Value.text name][0]? = some (appliedMapping.value name) := rfl
  have hrun := hkeeps.select hparam now [⟨.column "" "name", ""⟩]
  refine (Bool.eq_iff_iff.mp (congrArg List.isEmpty hrun)).trans ?_
  rw [List.isEmpty_map, List.isEmpty_iff, Option.toList_eq_nil_iff, List.find?_eq_none,
    List.mem_map, not_exists]
  exact forall_congr' fun a => by rw [decide_eq_true_iff, not_and]; rfl

theorem store?_applied (hfits : (Kind.varchar 255).Fits (.text name)) :
    Schema.migrationRecord.store? [("name", .text name), ("applied_at", .time now)] =
      .ok (Applied.toRow ⟨name, now.inMicros⟩) :=
  Layout.store?_cons (Kind.store?_of_fits hfits) (Layout.store?_cons rfl rfl)

theorem Records.record (h : Records d names) (hname : name ∉ names)
    (hfits : (Kind.varchar 255).Fits (.text name)) (now : Instant) :
    ∃ reply d', d.execute now record [.text name] = .ok (reply, d') ∧
      Records d' (names ++ [name]) := by
  obtain ⟨hnodup, l, rfl, ht⟩ := h
  have hsupplies : appliedMapping.Supplies ⟨"_migrations", ["name"], .values [.param 1], none⟩
      (d.surroundings [.text name] now []) [("name", .text name)] ⟨name, now.inMicros⟩ :=
    ⟨rfl, rfl, fun _ => store?_applied hfits⟩
  have hfind : l.find? (fun a => decide (appliedMapping.name a = name)) = none := by
    refine List.find?_eq_none.mpr fun a ha heq => hname ?_
    rw [← of_decide_eq_true heq]
    exact List.mem_map_of_mem ha
  have hadd := hsupplies.add_none (appliedMapping.lists_find hnodup) hfind
  refine ⟨_, _, Database.execute_insert ht hsupplies hadd, ?_, l ++ [⟨name, now.inMicros⟩], ?_, ?_⟩
  · exact List.nodup_append.mpr ⟨hnodup, List.nodup_singleton name, by simpa using hname⟩
  · exact List.map_append
  · refine Database.table?_write.trans ((if_pos rfl).trans ?_)
    exact congrArg _ ht

end Migration

end GridQueue
