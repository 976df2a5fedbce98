/-
# `GridQueue.Proofs.Sql.Rows` — what statements do with listed rows

Where the rows of a table are those of a list of records, what a part of
a query finds, changes and returns can be said about the records:

    select    the records it accepts, sorted
    update    one record has partners and is changed, or none is
    execute   one part after another, with the rows of those before
    write     a table has new rows, and no other table has

Nothing here is about jobs.

`rowsOf` gives the rows of a table in the order in which they stand, and
the list of records comes in that order too.  A result that is sorted does
not depend on it but for ties; one that is not sorted does, and its users
say so up to a permutation.

What is refused comes to the top in the same way: a column that refuses a
value ends the row, the part and the statement (`run_refused`,
`runParts_refused`, `execute_refused`).
-/
import GridQueue.Proofs.Sql.Limits
import Mathlib.Data.List.Nodup

namespace GridQueue.Sql

variable {α : Type} {w : Surroundings} {l : List α} {f : α → Row}

/-! ## Selecting -/

namespace Select

variable {s : Select} {g : α → Bindings} {p : α → Bool}

/-- The rows that a query accepts, as they stand. -/
def accepted (s : Select) (w : Surroundings) : List Bindings :=
  ((w.rowsOf s.source.table).flatMap (s.joined w)).filter (s.accepts w)

theorem accepted_map (hrows : w.rowsOf s.source.table = l.map f)
    (hjoined : ∀ x ∈ l, s.joined w (f x) = [g x]) (hp : ∀ x ∈ l, s.accepts w (g x) = p x) :
    s.accepted w = (l.filter p).map g := by
  have hflat : (w.rowsOf s.source.table).flatMap (s.joined w) = l.map g := by
    rw [hrows, List.flatMap_map, List.map_eq_flatMap]
    exact List.flatMap_congr hjoined
  have hfilter : l.filter (s.accepts w ∘ g) = l.filter p := List.filter_congr hp
  rw [accepted, hflat, List.filter_map, hfilter]

theorem sorted_map (hrows : w.rowsOf s.source.table = l.map f)
    (hjoined : ∀ x ∈ l, s.joined w (f x) = [g x]) (hp : ∀ x ∈ l, s.accepts w (g x) = p x) :
    (s.accepted w).mergeSort (fun a b => compareBy w a b s.order != .gt) =
      ((l.filter p).mergeSort fun x y => compareBy w (g x) (g y) s.order != .gt).map g := by
  rw [accepted_map hrows hjoined hp]
  refine Eq.symm (List.map_mergeSort ?_)
  intro x _ y _
  rfl

theorem found_eq (s : Select) (w : Surroundings) : s.found w =
    match s.limit with
    | some n => ((s.accepted w).mergeSort fun a b => compareBy w a b s.order != .gt).take n
    | none => (s.accepted w).mergeSort fun a b => compareBy w a b s.order != .gt := rfl

theorem run_map (hrows : w.rowsOf s.source.table = l.map f)
    (hjoined : ∀ x ∈ l, s.joined w (f x) = [g x]) (hp : ∀ x ∈ l, s.accepts w (g x) = p x)
    (hlimit : s.limit = none) :
    s.run w = ((l.filter p).mergeSort fun x y => compareBy w (g x) (g y) s.order != .gt).map
      fun x => output w (g x) s.outputs := by
  rw [run, found_eq, hlimit]
  simp only [sorted_map hrows hjoined hp, List.map_map]
  rfl

theorem run_map_first (hrows : w.rowsOf s.source.table = l.map f)
    (hjoined : ∀ x ∈ l, s.joined w (f x) = [g x]) (hp : ∀ x ∈ l, s.accepts w (g x) = p x)
    (hlimit : s.limit = some 1) :
    s.run w = (((l.filter p).mergeSort fun x y =>
      compareBy w (g x) (g y) s.order != .gt).head?.toList).map fun x =>
        output w (g x) s.outputs := by
  rw [run, found_eq, hlimit]
  simp only [sorted_map hrows hjoined hp]
  cases (l.filter p).mergeSort fun x y => compareBy w (g x) (g y) s.order != .gt <;> rfl

/-- Where nothing is said about their order, the rows come as they stand. -/
theorem run_unordered (hrows : w.rowsOf s.source.table = l.map f)
    (hjoined : ∀ x ∈ l, s.joined w (f x) = [g x]) (hp : ∀ x ∈ l, s.accepts w (g x) = p x)
    (hlimit : s.limit = none) (horder : s.order = []) :
    s.run w = (l.filter p).map fun x => output w (g x) s.outputs := by
  rw [run_map hrows hjoined hp hlimit, horder, List.mergeSort_of_pairwise]
  exact List.pairwise_of_forall fun _ _ => rfl

/-- Nothing is asked but the columns. -/
theorem run_plain (hjoin : s.join = none) (hcondition : s.condition = none)
    (hlimit : s.limit = none) (horder : s.order = []) :
    s.run w = (w.rowsOf s.source.table).map fun r => output w [(s.source.name, r)] s.outputs := by
  have hrun := run_unordered (s := s) (w := w) (f := id) (g := fun r => [(s.source.name, r)])
    (p := fun _ => true) (List.map_id _).symm (fun r _ => by rw [joined, hjoin]; rfl)
    (fun r _ => by rw [accepts, hcondition]) hlimit horder
  rw [List.filter_true] at hrun
  exact hrun

end Select

/-! ## Updating -/

namespace Update

variable {κ : Type} [DecidableEq κ] {u : Update} {t : Layout} {key : α → κ} {x : α}
  {b : Bindings} {new : Row}

theorem change?_of_none {r : Row} (h : u.partner? w r = none) :
    u.change? t w r = .ok (r, none) := by
  rw [change?, h]

theorem change?_of_some {r : Row} (h : u.partner? w r = some b)
    (hset : u.set.applied? t w ((u.target.name, r) :: b) r = .ok new) :
    u.change? t w r =
      .ok (new, some (Select.output w ((u.target.name, new) :: b) u.returning)) := by
  simp only [change?, h, hset]
  rfl

theorem run_map {change : α → Row × Option Row} (hrows : w.rowsOf u.target.table = l.map f)
    (hchange : ∀ y ∈ l, u.change? t w (f y) = .ok (change y)) {returned written : List Row}
    (hreturned : (l.filterMap fun y => (change y).2) = returned)
    (hwritten : (l.map fun y => (change y).1) = written) :
    u.run t w =
      .ok { rows := if u.returning.isEmpty then [] else returned
            affected := returned.length
            written := some (u.target.table, written) } := by
  have hreturned' : (l.map change).filterMap (·.2) = returned :=
    List.filterMap_map.trans hreturned
  have hwritten' : (l.map change).map (·.1) = written := List.map_map.trans hwritten
  rw [run, hrows, mapM_map_ok hchange, ← hreturned', ← hwritten']
  rfl

theorem run_miss (hrows : w.rowsOf u.target.table = l.map f)
    (hmiss : ∀ y ∈ l, u.partner? w (f y) = none) :
    u.run t w = .ok { rows := [], affected := 0, written := some (u.target.table, l.map f) } := by
  have hchange : ∀ y ∈ l, u.change? t w (f y) = .ok (f y, none) := fun y hy =>
    change?_of_none (hmiss y hy)
  have hrun := run_map hrows hchange (List.filterMap_eq_nil_iff.mpr fun _ _ => rfl) rfl
  rwa [ite_self] at hrun

theorem run_hit (hrows : w.rowsOf u.target.table = l.map f)
    (hkeys : (l.map key).Nodup) (hx : x ∈ l)
    (hmiss : ∀ y ∈ l, key y ≠ key x → u.partner? w (f y) = none)
    (hhit : u.partner? w (f x) = some b)
    (hset : u.set.applied? t w ((u.target.name, f x) :: b) (f x) = .ok new) :
    u.run t w =
      .ok { rows := if u.returning.isEmpty then []
              else [Select.output w ((u.target.name, new) :: b) u.returning]
            affected := 1
            written := some (u.target.table, l.map fun y => if key y = key x then new else f y) } := by
  let row := Select.output w ((u.target.name, new) :: b) u.returning
  let change : α → Row × Option Row := fun y =>
    if key y = key x then (new, some row) else (f y, none)
  have hinj : ∀ y ∈ l, key y = key x → y = x := fun y hy =>
    List.inj_on_of_nodup_map hkeys hy hx
  have hchange : ∀ y ∈ l, u.change? t w (f y) = .ok (change y) := by
    intro y hy
    by_cases hy' : key y = key x
    · rw [hinj y hy hy', change?_of_some hhit hset]
      exact congrArg Except.ok (if_pos rfl).symm
    · rw [change?_of_none (hmiss y hy hy')]
      exact congrArg Except.ok (if_neg hy').symm
  have hreturned : (l.filterMap fun y => (change y).2) = [row] := by
    obtain ⟨before, after, rfl⟩ := List.append_of_mem hx
    obtain ⟨-, hcons, hbefore⟩ := List.pairwise_append.mp (List.pairwise_map.mp hkeys)
    obtain ⟨hafter, -⟩ := List.pairwise_cons.mp hcons
    have hnone : ∀ rest : List α, (∀ y ∈ rest, key y ≠ key x) →
        (rest.filterMap fun y => (change y).2) = [] := fun rest hrest =>
      List.filterMap_eq_nil_iff.mpr fun y hy => congrArg Prod.snd (if_neg (hrest y hy))
    have hone : (change x).2 = some row := congrArg Prod.snd (if_pos rfl)
    rw [List.filterMap_append, hnone before fun y hy => hbefore y hy x (List.mem_cons_self ..),
      List.filterMap_cons, hone, hnone after fun y hy => (hafter y hy).symm]
    rfl
  exact run_map hrows hchange hreturned
    (List.map_congr_left fun y _ => apply_ite Prod.fst ..)

theorem run_refused {e : DatabaseError} (hrows : w.rowsOf u.target.table = l.map f) (hx : x ∈ l)
    (hmiss : ∀ y ∈ l, key y ≠ key x → u.partner? w (f y) = none)
    (hkeys : (l.map key).Nodup) (hhit : u.partner? w (f x) = some b)
    (hset : u.set.applied? t w ((u.target.name, f x) :: b) (f x) = .error e) :
    u.run t w = .error e := by
  have hchange : u.change? t w (f x) = .error e := by
    simp only [change?, hhit, hset]
    rfl
  have hall : ∀ y ∈ l, u.change? t w (f y) = .error e ∨ ∃ c, u.change? t w (f y) = .ok c := by
    intro y hy
    by_cases hy' : key y = key x
    · rw [List.inj_on_of_nodup_map hkeys hy hx hy']
      exact .inl hchange
    · exact .inr ⟨_, change?_of_none (hmiss y hy hy')⟩
  rw [run, hrows, mapM_map_error hx hchange hall]
  rfl

end Update

theorem Insert.run_refused {i : Insert} {t : Layout} {given : List (String × Value)}
    {e : DatabaseError} (hsupplied : i.supplied w = [given])
    (h : t.store? (t.newRow (w.rowsOf i.table) w.now given) = .error e) :
    i.run t w = .error e := by
  have hadd : i.add t w { rows := w.rowsOf i.table } given = .error e := by
    unfold Insert.add
    rw [h]
    rfl
  rw [Insert.run, hsupplied, List.foldlM_cons, hadd]
  rfl

/-! ## Statements -/

namespace Database

variable {d after : Database} {params : List Value} {now : Instant} {last : Part}
  {returned : List (String × List Row)} {name : String} {p : Part}
  {rest : List (String × Part)} {o : Outcome}

/-- One part is carried out, and its rows are there for the next. -/
theorem runParts_cons (h : d.runPart (d.surroundings params now returned) p = .ok o) :
    d.runParts params now last returned after ((name, p) :: rest) =
      d.runParts params now last ((name, o.rows) :: returned) (after.keep o) rest := by
  rw [runParts, h]
  rfl

theorem runParts_part {s : Select} {rows : List Row}
    (h : s.run (d.surroundings params now returned) = rows) :
    d.runParts params now last returned after ((name, .select s) :: rest) =
      d.runParts params now last ((name, rows) :: returned) after rest := by
  subst h
  rfl

theorem runPart_update (u : Update) {t : Relation} (ht : d.table? u.target.table = some t) :
    d.runPart w (.update u) = u.run t.layout w := by
  rw [runPart, layoutOf, ht]
  rfl

theorem runPart_insert {i : Insert} {t : Relation} (ht : d.table? i.table = some t) :
    d.runPart w (.insert i) = i.run t.layout w := by
  rw [runPart, layoutOf, ht]
  rfl

theorem runParts_update (u : Update) {t : Relation} (ht : d.table? u.target.table = some t)
    (h : u.run t.layout (d.surroundings params now returned) = .ok o) :
    d.runParts params now last returned after ((name, .update u) :: rest) =
      d.runParts params now last ((name, o.rows) :: returned) (after.keep o) rest :=
  runParts_cons ((runPart_update u ht).trans h)

theorem runParts_refused {e : DatabaseError}
    (h : d.runPart (d.surroundings params now returned) p = .error e) :
    d.runParts params now last returned after ((name, p) :: rest) = .error e := by
  rw [runParts, h]
  rfl

theorem runParts_nil (h : d.runPart (d.surroundings params now returned) last = .ok o) :
    d.runParts params now last returned after [] =
      .ok ({ rows := o.rows, affected := o.affected }, after.keep o) := by
  rw [runParts, h]
  rfl

theorem runParts_select {s : Select} (hjoin : s.join = none) (hcondition : s.condition = none)
    (hlimit : s.limit = none) (horder : s.order = []) {rows : List Row}
    (hrows : (d.surroundings params now returned).rowsOf s.source.table = rows) :
    d.runParts params now (.select s) returned after [] =
      .ok ({ rows := rows.map fun r =>
               Select.output (d.surroundings params now returned) [(s.source.name, r)] s.outputs
             affected := rows.length }, after) := by
  have hrun := s.run_plain (w := d.surroundings params now returned) hjoin hcondition hlimit horder
  rw [hrows] at hrun
  have hlast : d.runPart (d.surroundings params now returned) (.select s) =
      .ok { rows := s.run (d.surroundings params now returned)
            affected := (s.run (d.surroundings params now returned)).length } := rfl
  rw [runParts_nil hlast, hrun, List.length_map]
  rfl

theorem execute_refused {e : DatabaseError}
    (h : d.runPart (d.surroundings params now []) last = .error e) :
    d.execute now (.query { last }) params = .error e := by
  rw [execute, runParts, h]
  rfl

theorem execute_select (s : Select) : d.execute now (.ofSelect s) params =
    .ok ({ rows := s.run (d.surroundings params now [])
           affected := (s.run (d.surroundings params now [])).length }, d) := rfl

theorem execute_update (u : Update) {t : Relation} (ht : d.table? u.target.table = some t)
    (h : u.run t.layout (d.surroundings params now []) = .ok o) :
    d.execute now (.ofUpdate u) params =
      .ok ({ rows := o.rows, affected := o.affected }, d.keep o) :=
  runParts_nil ((runPart_update u ht).trans h)

end Database

/-! ## Writing -/

namespace Database

variable {d : Database} {name other : String} {rows : List Row}

theorem table?_write : (d.write name rows).table? other =
    if other = name then (d.table? name).map fun t => { t with rows } else d.table? other := by
  have hsame : ((fun t : Relation => t.layout.table == other) ∘ fun t =>
      if t.layout.table = name then { t with rows } else t) = fun t => t.layout.table == other := by
    funext t
    simp only [Function.comp_apply]
    split <;> rfl
  have hname : ∀ t, d.table? other = some t → t.layout.table = other := fun t ht =>
    beq_iff_eq.mp (List.find?_some (p := fun t : Relation => t.layout.table == other) ht)
  have hwrite : (d.write name rows).table? other = (d.table? other).map fun t =>
      if t.layout.table = name then { t with rows } else t := by
    rw [write, table?, List.find?_map, hsame, table?]
  rw [hwrite]
  by_cases hother : other = name
  · subst hother
    rw [if_pos rfl]
    exact Option.map_congr fun t ht => if_pos (hname t ht)
  · rw [if_neg hother]
    refine (Option.map_congr fun t ht => ?_).trans Option.map_id'
    exact if_neg fun h => hother ((hname t ht).symm.trans h)

end Database

end GridQueue.Sql
