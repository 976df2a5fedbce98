/-
# `GridQueue.Proofs.Sql.Keyed` — statements that name one row

A `Mapping` says how records stand in a table: every record has a row, and
the key column of the row has the name of the record.  A table keeps a
look-up by name (`Keeps`) if its rows are those of the records that the
look-up finds, in any order.  What a statement does to the row it names is
then said of the look-up, at that name:

    select    the record that is found
    update    nothing, or the record that is found is changed
    insert    the record is added, or the one that is found is changed,
              or the statement leaves it as it is

as long as the columns take what is written.  The other names, and the
other tables, are as they were (`Written`).

An insert is the only one of these that may fail in two ways: a column may
refuse a value, and a row of the same name may be there.  `Supplies` is the
first of the two out of the way, and the row it supplies; the conflict
clause says what becomes of the second (`Supplies.resolve_passing`,
`Supplies.resolve_failing`).
-/
import GridQueue.Proofs.Sql.Condition
import GridQueue.Proofs.Sql.Rows
import GridQueue.Proofs.Table

namespace GridQueue.Sql

/-! ## Records in a table -/

/-- How records stand in a table whose rows are told apart by their names. -/
structure Mapping (κ α : Type) [Ord κ] where
  layout : Layout
  /-- The column with the name. -/
  key : String
  name : α → κ
  row : α → Row
  value : κ → Value
  key_eq : layout.key? = some key
  row_key : ∀ a, (row a).get key = value (name a)
  order_value : ∀ j k, (value j).order? (value k) = some (compare j k)

variable {κ α : Type} [Ord κ] [DecidableEq κ] {m : Mapping κ α} {find : κ → Option α}
  {l : List α} {a x : α} {k : κ} {w : Surroundings}

namespace Mapping

/-- A list has the records that a look-up finds, each of them once. -/
def Lists (m : Mapping κ α) (find : κ → Option α) (l : List α) : Prop :=
  ∀ k, (l.filter fun a => decide (m.name a = k)) = (find k).toList

/-- The condition that a row has the name in parameter 1. -/
def isNamed (m : Mapping κ α) : Expr := .compare .eq (.column "" m.key) (.param 1)

/-- The update of the row with the name in parameter 1. -/
def update (m : Mapping κ α) (set : Assignments) : Update :=
  { target := ⟨m.layout.table, ""⟩, set, condition := m.isNamed }

namespace Lists

theorem mem_iff (h : m.Lists find l) : a ∈ l ↔ find (m.name a) = some a := by
  have hfilter : a ∈ l ↔ a ∈ l.filter fun b => decide (m.name b = m.name a) := by
    rw [List.mem_filter]
    simp only [decide_true, and_true]
  rw [hfilter, h, Option.mem_toList]

theorem nodup_names (h : m.Lists find l) : (l.map m.name).Nodup := by
  rw [List.nodup_iff_count_le_one]
  intro k
  have hcount : (l.map m.name).count k = (l.filter fun a => decide (m.name a = k)).length := by
    rw [List.count, List.countP_map, List.countP_eq_length_filter]
    rfl
  rw [hcount, h]
  exact Option.length_toList_le

theorem eq_of_name (h : m.Lists find l) (ha : find k = some a) {b : α} (hb : b ∈ l)
    (hk : m.name b = k) : b = a := by
  have hfound := h.mem_iff.mp hb
  rw [hk, ha] at hfound
  exact (Option.some.inj hfound).symm

theorem name_eq (h : m.Lists find l) (ha : find k = some a) : m.name a = k := by
  have hmem : a ∈ l.filter fun b => decide (m.name b = k) := by
    rw [h, ha]
    exact List.mem_singleton_self a
  exact of_decide_eq_true (List.mem_filter.mp hmem).2

theorem mem_of_find (h : m.Lists find l) (ha : find k = some a) : a ∈ l := by
  rw [h.mem_iff, h.name_eq ha]
  exact ha

theorem perm_values [Std.TransOrd κ] [Std.LawfulEqOrd κ] {table : Table κ α}
    (h : m.Lists table.get? l) (hkeyed : table.KeyedBy m.name) : l.Perm table.values := by
  refine (List.perm_ext_iff_of_nodup h.nodup_names.of_map hkeyed.nodup_names.of_map).mpr ?_
  intro a
  rw [h.mem_iff, hkeyed.mem_values]

theorem any_name (h : m.Lists find l) (k : κ) :
    (l.any fun a => decide (m.name a = k)) = (find k).isSome := by
  rw [← List.isSome_find?, ← List.head?_filter, h, Option.head?_toList]

theorem append (h : m.Lists find l) (hx : find (m.name x) = none) :
    m.Lists (Function.update find (m.name x) (some x)) (l ++ [x]) := by
  intro k
  rw [List.filter_append, h]
  by_cases hk : k = m.name x
  · subst hk
    rw [hx, Function.update_self, List.filter_singleton, decide_eq_true rfl]
    rfl
  · rw [Function.update_of_ne hk, List.filter_singleton, decide_eq_false (Ne.symm hk)]
    exact List.append_nil _

theorem replace (h : m.Lists find l) (ha : find (m.name x) = some a) :
    m.Lists (Function.update find (m.name x) (some x))
      (l.map fun b => if m.name b = m.name x then x else b) := by
  intro k
  have hname : ((fun b => decide (m.name b = k)) ∘ fun b => if m.name b = m.name x then x else b) =
      fun b => decide (m.name b = k) := by
    funext b
    rw [Function.comp_apply]
    split
    · next hb => rw [hb]
    · rfl
  rw [List.filter_map, hname, h]
  by_cases hk : k = m.name x
  · subst hk
    rw [ha, Function.update_self, Option.toList_some, List.map_singleton, if_pos (h.name_eq ha)]
    rfl
  · rw [Function.update_of_ne hk]
    cases hb : find k with
    | none => rfl
    | some b =>
      rw [Option.toList_some, List.map_singleton, if_neg]
      rw [h.name_eq hb]
      exact hk

end Lists

/-- A list without a name that stands twice has what is found in it. -/
theorem lists_find (h : (l.map m.name).Nodup) :
    m.Lists (fun k => l.find? fun a => decide (m.name a = k)) l := by
  intro k
  induction l with
  | nil => rfl
  | cons a rest ih =>
      obtain ⟨ha, hrest⟩ := List.nodup_cons.mp h
      by_cases hk : m.name a = k
      · subst hk
        have hnone : rest.filter (fun b => decide (m.name b = m.name a)) = [] := by
          refine List.filter_eq_nil_iff.mpr fun b hb hname => ha ?_
          rw [← of_decide_eq_true hname]
          exact List.mem_map_of_mem hb
        simp only [List.filter_cons, List.find?_cons, decide_true, if_true, hnone]
        rfl
      · simp only [List.filter_cons, List.find?_cons, hk, decide_false, Bool.false_eq_true, if_false]
        exact ih hrest

theorem map_row_replace (m : Mapping κ α) (l : List α) (x : α) :
    (l.map fun b => if m.name b = m.name x then x else b).map m.row =
      l.map fun b => if m.name b = m.name x then m.row x else m.row b := by
  rw [List.map_map]
  refine List.map_congr_left fun b _ => ?_
  rw [Function.comp_apply, apply_ite m.row]

/-- An insertion supplies one row, which is that of a record once it is
filled up and went through the columns. -/
structure Supplies (m : Mapping κ α) (i : Insert) (w : Surroundings)
    (given : List (String × Value)) (x : α) : Prop where
  table_eq : i.table = m.layout.table
  supplied_eq : i.supplied w = [given]
  stored : ∀ rows, m.layout.store? (m.layout.newRow rows w.now given) = .ok (m.row x)

omit [DecidableEq κ] in
theorem Supplies.of_fits {i : Insert} {given : List (String × Value)}
    (htable : i.table = m.layout.table) (hsupplied : i.supplied w = [given])
    (hnew : ∀ rows, m.layout.newRow rows w.now given = m.row x) (hfits : m.layout.Fits (m.row x)) :
    m.Supplies i w given x :=
  ⟨htable, hsupplied, fun rows => by rw [hnew, Layout.store?_of_fits hfits]⟩

/-- What an expression can name where the row of a record is there already. -/
def conflict (m : Mapping κ α) (a x : α) : Bindings :=
  [(m.layout.table, m.row a), ("EXCLUDED", m.row x)]

end Mapping

/-- The row that is there may be changed. -/
def Conflict.passes (c : Conflict) (w : Surroundings) (b : Bindings) : Bool :=
  match c.condition with
  | none => true
  | some e => (e.eval w b).isTrue

theorem Conflict.passes_of_condition {c : Conflict} {e : Expr} {b : Bindings}
    (h : c.condition = some e) : c.passes w b = (e.eval w b).isTrue := by
  rw [passes, h]

namespace Insert

/-- A row that is there is changed: it has the key of the new one and
passes. -/
def changes (i : Insert) (c : Conflict) (w : Surroundings) (new r : Row) : Bool :=
  sameKey c.key r new && c.passes w [(i.table, r), ("EXCLUDED", new)]

/-- Where every change goes through, the rows are what is made of them. -/
theorem resolve_eq {i : Insert} {c : Conflict} {t : Layout} {p : Progress} {new : Row} {g : Row → Row}
    (hset : ∀ r ∈ p.rows, i.changes c w new r = true →
      c.set.applied? t w [(i.table, r), ("EXCLUDED", new)] r = .ok (g r)) :
    i.resolve c t w p new =
      .ok { rows := p.rows.map fun r => if i.changes c w new r then g r else r
            affected := p.affected + p.rows.countP (i.changes c w new) } := by
  have hrows : (p.rows.map id).mapM (fun r => if i.changes c w new r then
      c.set.applied? t w [(i.table, r), ("EXCLUDED", new)] r else .ok r) =
        .ok (p.rows.map fun r => if i.changes c w new r then g r else r) := by
    refine mapM_map_ok fun r hr => ?_
    by_cases hchanges : i.changes c w new r = true
    · rw [id_eq, if_pos hchanges, if_pos hchanges]
      exact hset r hr hchanges
    · rw [id_eq, if_neg hchanges, if_neg hchanges]
  rw [List.map_id] at hrows
  unfold resolve
  exact (congrArg (· >>= _) hrows).trans rfl

end Insert

/-! ## What a statement reads -/

theorem Bindings.column_one (source : String) (r : Row) (name : String) :
    Bindings.column [(source, r)] "" name = r.get name := by
  rw [column, if_pos rfl, List.find?_singleton]
  cases hhas : r.has name with
  | true => rfl
  | false =>
    have hlookup : r.lookup name = none := by
      rw [List.lookup_eq_none_iff]
      intro c hc
      have hne := List.any_eq_false.mp hhas c hc
      rw [bne_iff_ne]
      rintro rfl
      exact hne (beq_self_eq_true _)
    rw [Row.get, hlookup]
    rfl

namespace Mapping

variable [Std.LawfulEqOrd κ]

theorem eval_isNamed (m : Mapping κ α) (hk : w.params[0]? = some (m.value k)) (source : String)
    (a : α) : m.isNamed.eval w [(source, m.row a)] = .bool (decide (m.name a = k)) := by
  have hparam : (Expr.param 1).eval w [(source, m.row a)] = m.value k := by
    rw [Expr.eval, if_neg Nat.one_ne_zero, hk]
    rfl
  have hcolumn : (Expr.column "" m.key).eval w [(source, m.row a)] = m.value (m.name a) :=
    (Bindings.column_one source (m.row a) m.key).trans (m.row_key a)
  rw [isNamed, Expr.eval_compare (o := compare (m.name a) k), Comparison.holds_eq]
  rw [hcolumn, hparam, m.order_value]

/-- Two rows have the same key if their records have the same name. -/
theorem sameKey_row (m : Mapping κ α) (a b : α) :
    Insert.sameKey m.key (m.row a) (m.row b) = decide (m.name a = m.name b) := by
  rw [Insert.sameKey, m.row_key, m.row_key, m.order_value]
  exact Comparison.holds_eq (m.name a) (m.name b)

variable {i : Insert} {c : Conflict} {given : List (String × Value)}

theorem Supplies.add_none (hi : m.Supplies i w given x) (hl : m.Lists find l)
    (hfind : find (m.name x) = none) :
    i.add m.layout w ⟨l.map m.row, 0⟩ given = .ok ⟨(l ++ [x]).map m.row, 1⟩ := by
  have hfree : ((l.map m.row).any fun r => Insert.sameKey m.key r (m.row x)) = false := by
    simp only [List.any_map, Function.comp_def, m.sameKey_row, hl.any_name, hfind,
      Option.isSome_none]
  have hadd : i.add m.layout w ⟨l.map m.row, 0⟩ given =
      .ok ⟨l.map m.row ++ [m.row x], 0 + 1⟩ := by
    unfold Insert.add
    rw [hi.stored, m.key_eq]
    exact if_neg (Bool.eq_false_iff.mp hfree)
  rw [hadd, List.map_append]
  rfl

/-- Otherwise the statement says what becomes of the row that is there. -/
theorem Supplies.add_some (hi : m.Supplies i w given x) (hl : m.Lists find l)
    (hfind : find (m.name x) = some a) (hc : i.conflict = some c) :
    i.add m.layout w ⟨l.map m.row, 0⟩ given =
      i.resolve c m.layout w ⟨l.map m.row, 0⟩ (m.row x) := by
  have htaken : ((l.map m.row).any fun r => Insert.sameKey m.key r (m.row x)) = true := by
    simp only [List.any_map, Function.comp_def, m.sameKey_row, hl.any_name, hfind,
      Option.isSome_some]
  unfold Insert.add
  rw [hi.stored, m.key_eq, hc]
  exact if_pos htaken

theorem Supplies.changes_row (hi : m.Supplies i w given x) (hl : m.Lists find l)
    (hfind : find (m.name x) = some a) (hkey : c.key = m.key) {b : α} (hb : b ∈ l) :
    i.changes c w (m.row x) (m.row b) =
      (decide (m.name b = m.name x) && c.passes w (m.conflict a x)) := by
  rw [Insert.changes, hkey, m.sameKey_row]
  by_cases hname : m.name b = m.name x
  · rw [hl.eq_of_name hfind hb hname, hi.table_eq]
    rfl
  · simp only [hname, decide_false, Bool.false_and]

theorem Supplies.resolve_passing (hi : m.Supplies i w given x) (hl : m.Lists find l)
    (hfind : find (m.name x) = some a) (hkey : c.key = m.key)
    (hpasses : c.passes w (m.conflict a x) = true) {y : α}
    (hset : c.set.applied? m.layout w (m.conflict a x) (m.row a) = .ok (m.row y))
    (hname : m.name y = m.name x) :
    i.resolve c m.layout w ⟨l.map m.row, 0⟩ (m.row x) =
      .ok ⟨(l.map fun b => if m.name b = m.name y then y else b).map m.row, 1⟩ := by
  have hchanges : ∀ b ∈ l, i.changes c w (m.row x) (m.row b) = decide (m.name b = m.name y) := by
    intro b hb
    rw [hi.changes_row hl hfind hkey hb, hpasses, Bool.and_true, hname]
  have hcount : (l.map m.row).countP (i.changes c w (m.row x)) = 1 := by
    have hcongr : ∀ b ∈ l, (i.changes c w (m.row x) ∘ m.row) b = true ↔
        decide (m.name b = m.name y) = true := fun b hb =>
      Bool.eq_iff_iff.mp (hchanges b hb)
    rw [List.countP_map, List.countP_congr hcongr, List.countP_eq_length_filter, hl, hname, hfind]
    rfl
  have happly : ∀ r ∈ l.map m.row, i.changes c w (m.row x) r = true →
      c.set.applied? m.layout w [(i.table, r), ("EXCLUDED", m.row x)] r = .ok (m.row y) := by
    intro r hr hr'
    obtain ⟨b, hb, rfl⟩ := List.mem_map.mp hr
    rw [hchanges b hb] at hr'
    rw [hl.eq_of_name hfind hb ((of_decide_eq_true hr').trans hname), hi.table_eq]
    exact hset
  have hrows : ((l.map m.row).map fun r => if i.changes c w (m.row x) r then m.row y else r) =
      (l.map fun b => if m.name b = m.name y then y else b).map m.row := by
    rw [m.map_row_replace, List.map_map]
    refine List.map_congr_left fun b hb => ?_
    rw [Function.comp_apply, hchanges b hb]
    simp only [decide_eq_true_eq]
  rw [Insert.resolve_eq happly, hcount, hrows]

theorem Supplies.resolve_failing (hi : m.Supplies i w given x) (hl : m.Lists find l)
    (hfind : find (m.name x) = some a) (hkey : c.key = m.key)
    (hfails : c.passes w (m.conflict a x) = false) :
    i.resolve c m.layout w ⟨l.map m.row, 0⟩ (m.row x) = .ok ⟨l.map m.row, 0⟩ := by
  have hchanges : ∀ r ∈ l.map m.row, ¬ i.changes c w (m.row x) r = true := by
    intro r hr
    obtain ⟨b, hb, rfl⟩ := List.mem_map.mp hr
    rw [hi.changes_row hl hfind hkey hb, hfails, Bool.and_false]
    exact Bool.false_ne_true
  have hnothing : ∀ r ∈ l.map m.row, i.changes c w (m.row x) r = true →
      c.set.applied? m.layout w [(i.table, r), ("EXCLUDED", m.row x)] r = .ok r :=
    fun r hr hr' => absurd hr' (hchanges r hr)
  rw [Insert.resolve_eq hnothing, List.countP_eq_zero.mpr hchanges]
  simp only [ite_self, List.map_id']

omit [DecidableEq κ] [Std.LawfulEqOrd κ] in
theorem Supplies.run_eq (hi : m.Supplies i w given x) {rows : List Row} {p : Insert.Progress}
    (hrows : w.rowsOf m.layout.table = rows)
    (hadd : i.add m.layout w ⟨rows, 0⟩ given = .ok p) :
    i.run m.layout w =
      .ok { rows := [], affected := p.affected, written := some (m.layout.table, p.rows) } := by
  rw [Insert.run, hi.supplied_eq, hi.table_eq, hrows, List.foldlM_cons, hadd]
  rfl

end Mapping

namespace Database

/-- The table of a mapping has the rows of the records that a look-up
finds, in any order. -/
def Keeps (d : Database) (m : Mapping κ α) (find : κ → Option α) : Prop :=
  ∃ l, m.Lists find l ∧ d.table? m.layout.table = some ⟨m.layout, l.map m.row⟩

/-- Another database, in which one table keeps a look-up and the others
are as they were. -/
structure Written (d : Database) (m : Mapping κ α) (find : κ → Option α) (d' : Database) :
    Prop where
  keeps : d'.Keeps m find
  others : ∀ name, name ≠ m.layout.table → d'.table? name = d.table? name

/-- A statement changes so many rows of a table, which keeps a look-up
then. -/
def Writes (d : Database) (now : Instant) (s : Statement) (params : List Value) (affected : Nat)
    (m : Mapping κ α) (find : κ → Option α) : Prop :=
  ∃ d', d.execute now s params = .ok ({ rows := [], affected }, d') ∧ d.Written m find d'

variable {d d' : Database} {now : Instant} {params : List Value}

theorem Keeps.of_written {κ' α' : Type} [Ord κ'] [DecidableEq κ'] {m' : Mapping κ' α'}
    {find' : κ' → Option α'} (h : d.Keeps m' find') (hd' : d.Written m find d')
    (hne : m'.layout.table ≠ m.layout.table) : d'.Keeps m' find' := by
  obtain ⟨l, hl, ht⟩ := h
  exact ⟨l, hl, (hd'.others _ hne).trans ht⟩

theorem rowsOf_of_table? {layout : Layout} {rows : List Row} {name : String}
    (h : d.table? name = some ⟨layout, rows⟩) : d.rowsOf name = rows := by
  rw [rowsOf, h]
  rfl

theorem written_write {rows : List Row} (ht : d.table? m.layout.table = some ⟨m.layout, rows⟩)
    (hl : m.Lists find l) : d.Written m find (d.write m.layout.table (l.map m.row)) := by
  refine ⟨⟨l, hl, ?_⟩, fun name hname => ?_⟩
  · rw [table?_write, if_pos rfl, ht]
    rfl
  · rw [table?_write, if_neg hname]

variable [Std.LawfulEqOrd κ]

/-! ## Selecting -/

theorem Keeps.select (h : d.Keeps m find) (hk : params[0]? = some (m.value k)) (now : Instant)
    (outputs : List Output) :
    ({ outputs, source := ⟨m.layout.table, ""⟩, condition := some m.isNamed } : Select).run
      (d.surroundings params now []) = (find k).toList.map fun a =>
        Select.output (d.surroundings params now []) [(m.layout.table, m.row a)] outputs := by
  obtain ⟨l, hl, ht⟩ := h
  rw [← hl k]
  refine Select.run_unordered (f := m.row) (rowsOf_of_table? ht) (fun _ _ => rfl) (fun a _ => ?_)
    rfl rfl
  exact (congrArg Value.isTrue (m.eval_isNamed hk _ a)).trans (Value.isTrue_bool _)

/-- Where a query sorts by the name, the rows come in the order of the
records. -/
theorem Keeps.select_sorted [Std.TransOrd κ] {table : Table κ α} (h : d.Keeps m table.get?)
    (hkeyed : table.KeyedBy m.name) (params : List Value) (now : Instant) (outputs : List Output)
    {condition : Expr} {p : α → Bool}
    (hp : ∀ a, (condition.eval (d.surroundings params now []) [(m.layout.table, m.row a)]).isTrue =
      p a) :
    ({ outputs, source := ⟨m.layout.table, ""⟩, condition := some condition
       order := [(.column "" m.key, .implicit)] } : Select).run (d.surroundings params now []) =
      (table.values.filter p).map fun a =>
        Select.output (d.surroundings params now []) [(m.layout.table, m.row a)] outputs := by
  obtain ⟨l, hl, ht⟩ := h
  have hcompare : ∀ a b : α, Select.compareBy (d.surroundings params now [])
      [(m.layout.table, m.row a)] [(m.layout.table, m.row b)] [(.column "" m.key, .implicit)] =
        compare (m.name a) (m.name b) := by
    intro a b
    refine Ordering.then_eq.trans ?_
    refine Value.rank_of_order? ?_
    simp only [Expr.eval, Bindings.column_one, m.row_key, m.order_value]
  refine (Select.run_map (f := m.row) (g := fun a => [(m.layout.table, m.row a)]) (p := p)
    (rowsOf_of_table? ht) (fun _ _ => rfl) ?_ rfl).trans ?_
  · exact fun a _ => hp a
  simp only [hcompare, hkeyed.mergeSort_filter (hl.perm_values hkeyed)]

/-! ## Updating -/

section Updating

variable {set : Assignments}

theorem partner?_update (hk : params[0]? = some (m.value k)) (now : Instant) (a : α) :
    (m.update set).partner? (d.surroundings params now []) (m.row a) =
      if m.name a = k then some [] else none := by
  show List.find? (fun b => (m.isNamed.eval _ ((m.layout.table, m.row a) :: b)).isTrue) [[]] = _
  rw [List.find?_singleton, m.eval_isNamed hk, Value.isTrue_bool]
  simp only [decide_eq_true_eq]

theorem Keeps.update_none (h : d.Keeps m find) (hk : params[0]? = some (m.value k))
    (hfind : find k = none) : d.Writes now (.ofUpdate (m.update set)) params 0 m find := by
  obtain ⟨l, hl, ht⟩ := h
  have hmiss : ∀ a ∈ l, (m.update set).partner? (d.surroundings params now []) (m.row a) = none := by
    intro a ha
    rw [partner?_update hk, if_neg]
    rintro rfl
    rw [hl.mem_iff.mp ha] at hfind
    cases hfind
  have hrun := Update.run_miss (t := m.layout) (rowsOf_of_table? ht) hmiss
  exact ⟨_, execute_update (m.update set) ht hrun, written_write ht hl⟩

theorem Keeps.update_some (h : d.Keeps m find) (hk : params[0]? = some (m.value k))
    (hfind : find k = some a)
    (hset : set.applied? m.layout (d.surroundings params now []) [(m.layout.table, m.row a)]
      (m.row a) = .ok (m.row x)) (hname : m.name x = k) :
    d.Writes now (.ofUpdate (m.update set)) params 1 m (Function.update find k (some x)) := by
  subst hname
  obtain ⟨l, hl, ht⟩ := h
  have hsame : m.name a = m.name x := hl.name_eq hfind
  have hmiss : ∀ b ∈ l, m.name b ≠ m.name a →
      (m.update set).partner? (d.surroundings params now []) (m.row b) = none := by
    intro b _ hb
    rw [partner?_update hk, if_neg (hsame ▸ hb)]
  have hhit : (m.update set).partner? (d.surroundings params now []) (m.row a) = some [] := by
    rw [partner?_update hk, if_pos hsame]
  have hrows : (d.surroundings params now []).rowsOf (m.update set).target.table = l.map m.row :=
    rowsOf_of_table? ht
  have hnames : (l.map m.name).Nodup := hl.nodup_names
  have hset' : (m.update set).set.applied? m.layout (d.surroundings params now [])
      [((m.update set).target.name, m.row a)] (m.row a) = .ok (m.row x) := hset
  have hrun := Update.run_hit hrows hnames (hl.mem_of_find hfind) hmiss hhit hset'
  rw [hsame, ← m.map_row_replace] at hrun
  exact ⟨_, execute_update (m.update set) ht hrun, written_write ht (hl.replace hfind)⟩

end Updating

/-! ## Inserting -/

section Inserting

variable {i : Insert} {c : Conflict} {given : List (String × Value)}

omit [DecidableEq κ] [Std.LawfulEqOrd κ] in
theorem execute_insert {p : Insert.Progress} {rows : List Row}
    (ht : d.table? m.layout.table = some ⟨m.layout, rows⟩)
    (hi : m.Supplies i (d.surroundings params now []) given x)
    (hadd : i.add m.layout (d.surroundings params now []) ⟨rows, 0⟩ given = .ok p) :
    d.execute now (.ofInsert i) params =
      .ok ({ rows := [], affected := p.affected }, d.write m.layout.table p.rows) := by
  have hpart : d.runPart (d.surroundings params now []) (.insert i) =
      .ok { rows := [], affected := p.affected, written := some (m.layout.table, p.rows) } := by
    rw [runPart_insert (hi.table_eq ▸ ht)]
    exact hi.run_eq (rowsOf_of_table? ht) hadd
  exact runParts_nil hpart

/-- The name is free: the row is added. -/
theorem Keeps.insert_none (h : d.Keeps m find)
    (hi : m.Supplies i (d.surroundings params now []) given x) (hfind : find (m.name x) = none) :
    d.Writes now (.ofInsert i) params 1 m (Function.update find (m.name x) (some x)) := by
  obtain ⟨l, hl, ht⟩ := h
  exact ⟨_, execute_insert ht hi (hi.add_none hl hfind), written_write ht (hl.append hfind)⟩

/-- The name is taken: the row that is there is changed if it passes. -/
theorem Keeps.insert_some (h : d.Keeps m find)
    (hi : m.Supplies i (d.surroundings params now []) given x) (hfind : find (m.name x) = some a)
    (hc : i.conflict = some c) (hkey : c.key = m.key)
    (hpasses : c.passes (d.surroundings params now []) (m.conflict a x) = true) {y : α}
    (hset : c.set.applied? m.layout (d.surroundings params now []) (m.conflict a x) (m.row a) =
      .ok (m.row y)) (hname : m.name y = m.name x) :
    d.Writes now (.ofInsert i) params 1 m (Function.update find (m.name x) (some y)) := by
  obtain ⟨l, hl, ht⟩ := h
  have hadd := hi.add_some hl hfind hc
  rw [hi.resolve_passing hl hfind hkey hpasses hset hname] at hadd
  rw [← hname] at hfind ⊢
  exact ⟨_, execute_insert ht hi hadd, written_write ht (hl.replace hfind)⟩

theorem Keeps.insert_kept (h : d.Keeps m find)
    (hi : m.Supplies i (d.surroundings params now []) given x) (hfind : find (m.name x) = some a)
    (hc : i.conflict = some c) (hkey : c.key = m.key)
    (hfails : c.passes (d.surroundings params now []) (m.conflict a x) = false) :
    d.Writes now (.ofInsert i) params 0 m find := by
  obtain ⟨l, hl, ht⟩ := h
  have hadd := hi.add_some hl hfind hc
  rw [hi.resolve_failing hl hfind hkey hfails] at hadd
  exact ⟨_, execute_insert ht hi hadd, written_write ht hl⟩

end Inserting

end Database

end GridQueue.Sql
