/-
# `GridQueue.Proofs.Table` — tables by their look-ups and by their rows

A table is known by its look-ups (`ext_get?`).  Its rows stand in the
order of their keys, so a row that is changed or replaced keeps its
place.  Rows that are looked up one by one, in any order and with
repetitions, come in that order once they are sorted, each once
(`KeyedBy.sorted_lookups`).

| the look-up of    | at `k`                          | elsewhere     |
| :---------------- | :------------------------------ | :------------ |
| one row inserted  | that row                        | as before     |
| a list of rows    | the last one named `k`, if any  | as before     |

If no two rows of the list have the same name, the last one named `k` is
the only one, and the list may come in any order (`lastNamed_perm`).
-/
import GridQueue.Table
import Mathlib.Data.List.Induction
import Mathlib.Data.List.Nodup
import Mathlib.Data.List.Sort

namespace GridQueue.Table

variable {κ α β : Type} [Ord κ]

@[simp] theorem values_mapValues {t : Table κ α} {f : α → β} :
    (t.mapValues f).values = t.values.map f := by
  simp [values, mapValues]

variable [Std.TransOrd κ] [Std.LawfulEqOrd κ]

omit [Std.LawfulEqOrd κ] in
/-- Rows in ascending order of their names are known by what they are. -/
theorem eq_of_pairwise_lt (name : α → κ) {l m : List α}
    (hl : l.Pairwise fun a b => compare (name a) (name b) = .lt)
    (hm : m.Pairwise fun a b => compare (name a) (name b) = .lt)
    (h : ∀ a, a ∈ l ↔ a ∈ m) : l = m := by
  have hirrefl : Std.Irrefl fun a b : α => compare (name a) (name b) = .lt :=
    ⟨fun a ha => by simp at ha⟩
  have hantisymm : Std.Antisymm fun a b : α => compare (name a) (name b) = .lt :=
    ⟨fun a b hab hba => absurd (Std.TransCmp.lt_trans hab hba) (hirrefl.irrefl a)⟩
  exact List.Pairwise.eq_of_mem_iff hl hm h

theorem ext_get? {t u : Table κ α} (h : ∀ k, t.get? k = u.get? k) : t = u := by
  have hentries : t.entries = u.entries := by
    refine eq_of_pairwise_lt Prod.fst t.sorted u.sorted ?_
    rintro ⟨k, a⟩
    rw [← get?_eq_some_iff, ← get?_eq_some_iff, h]
  cases t
  cases u
  cases hentries
  rfl

omit [Std.LawfulEqOrd κ] in
theorem place_of_lt {k : κ} {a : α} : ∀ {l : List (κ × α)}, (∀ e ∈ l, compare e.1 k = .lt) →
    place k a l = l ++ [(k, a)]
  | [], _ => rfl
  | (k', b) :: rest, h => by
      have hgt : compare k k' = .gt :=
        Std.OrientedCmp.gt_iff_lt.mpr (h _ (List.mem_cons_self ..))
      rw [place, hgt]
      exact congrArg ((k', b) :: ·) (place_of_lt fun e he => h e (List.mem_cons_of_mem _ he))

/-- Entries that come after those of a table, one after the other, are
added to it as they are. -/
theorem entries_foldl_insert {l : List (κ × α)} : ∀ {t : Table κ α},
    ((t.entries ++ l).Pairwise fun a b => compare a.1 b.1 = .lt) →
      (l.foldl (fun t e => t.insert e.1 e.2) t).entries = t.entries ++ l := by
  induction l with
  | nil => exact fun _ => (List.append_nil _).symm
  | cons e rest ih =>
      intro t h
      have hlast : (t.insert e.1 e.2).entries = t.entries ++ [e] :=
        place_of_lt fun d hd => (List.pairwise_append.mp h).2.2 d hd e (List.mem_cons_self ..)
      rw [List.foldl_cons, ih, hlast, List.append_assoc, List.singleton_append]
      rwa [hlast, List.append_assoc, List.singleton_append]

theorem ofList_entries (t : Table κ α) : ofList t.entries = t := by
  refine ext_get? fun k => ?_
  rw [get?, ofList, entries_foldl_insert (t := empty) t.sorted]
  rfl

theorem get?_insert_eq_update [DecidableEq κ] {t : Table κ α} {k : κ} {a : α} :
    (t.insert k a).get? = Function.update t.get? k (some a) := by
  funext j
  rw [get?_insert, Function.update_apply]

theorem insert_insert [DecidableEq κ] {t : Table κ α} {k : κ} {a b : α} :
    (t.insert k a).insert k b = t.insert k b := by
  refine ext_get? fun j => ?_
  rw [get?_insert, get?_insert, get?_insert]
  split <;> rfl

theorem eq_toList_of_mem_iff {l : List α} {o : Option α} (hl : l.Nodup)
    (h : ∀ a, a ∈ l ↔ o = some a) : l = o.toList := by
  cases o with
  | none =>
    refine List.eq_nil_iff_forall_not_mem.mpr fun a ha => ?_
    cases (h a).mp ha
  | some a =>
    refine List.perm_singleton.mp ((List.perm_ext_iff_of_nodup hl (List.nodup_singleton a)).mpr
      fun b => ?_)
    rw [h, List.mem_singleton, Option.some_inj, eq_comm]

theorem KeyedBy.nodup_names {name : α → κ} {t : Table κ α} (h : t.KeyedBy name) :
    (t.values.map name).Nodup := by
  refine List.pairwise_map.mpr (h.pairwise_values.imp ?_)
  intro a b hlt heq
  rw [heq, Std.ReflOrd.compare_self] at hlt
  cases hlt

omit [Std.TransOrd κ] in
theorem nodup_keys (t : Table κ α) : t.keys.Nodup :=
  List.pairwise_map.mpr <| t.sorted.imp fun {a b} hlt heq => by
    rw [heq, Std.ReflOrd.compare_self] at hlt
    cases hlt

theorem mem_keys {t : Table κ α} {k : κ} : k ∈ t.keys ↔ ∃ a, t.get? k = some a := by
  simp only [keys, List.mem_map, get?_eq_some_iff]
  constructor
  · rintro ⟨⟨k, a⟩, he, rfl⟩
    exact ⟨a, he⟩
  · rintro ⟨a, he⟩
    exact ⟨(k, a), he, rfl⟩

theorem KeyedBy.filter_values [DecidableEq κ] {name : α → κ} {t : Table κ α} (h : t.KeyedBy name)
    (k : κ) : (t.values.filter fun a => decide (name a = k)) = (t.get? k).toList := by
  refine eq_toList_of_mem_iff (h.nodup_names.of_map.filter _) fun a => ?_
  rw [List.mem_filter, h.mem_values, decide_eq_true_iff]
  constructor
  · rintro ⟨ha, rfl⟩
    exact ha
  · intro ha
    have hk := h k a ha
    exact ⟨hk ▸ ha, hk⟩

theorem filter_entries [DecidableEq κ] (t : Table κ α) (k : κ) :
    (t.entries.filter fun e => decide (e.1 = k)) = ((t.get? k).map (k, ·)).toList := by
  refine eq_toList_of_mem_iff (t.nodup_keys.of_map.filter _) fun e => ?_
  rw [List.mem_filter, decide_eq_true_iff, Option.map_eq_some_iff, ← Prod.mk.eta (p := e),
    ← get?_eq_some_iff]
  constructor
  · rintro ⟨he, rfl⟩
    exact ⟨e.2, he, rfl⟩
  · rintro ⟨a, ha, heq⟩
    cases heq
    exact ⟨ha, rfl⟩

theorem KeyedBy.filter_perm [DecidableEq κ] {name : α → κ} {t : Table κ α} (h : t.KeyedBy name)
    {l : List α} (hl : l.Perm t.values) (k : κ) :
    (l.filter fun a => decide (name a = k)) = (t.get? k).toList := by
  have hperm := hl.filter fun a => decide (name a = k)
  rw [h.filter_values] at hperm
  cases ha : t.get? k with
  | none =>
    rw [ha] at hperm
    exact List.perm_nil.mp hperm
  | some a =>
    rw [ha] at hperm
    exact List.perm_singleton.mp hperm

omit [Std.LawfulEqOrd κ] in
theorem pairwise_mergeSort (name : α → κ) (l : List α) :
    (l.mergeSort fun a b => compare (name a) (name b) != .gt).Pairwise
      fun a b => (compare (name a) (name b)).isLE := by
  have hle : ∀ a b : α, (compare (name a) (name b) != .gt) = (compare (name a) (name b)).isLE :=
    fun a b => by cases compare (name a) (name b) <;> rfl
  simp only [hle]
  refine List.pairwise_mergeSort ?_ ?_ _
  · intro a b c hab hbc
    exact Std.TransCmp.isLE_trans hab hbc
  · intro a b
    have hswap : compare (name b) (name a) = (compare (name a) (name b)).swap :=
      Std.OrientedCmp.eq_swap
    rw [hswap]
    cases compare (name a) (name b) <;> rfl

/-- Sorted by their names, rows in any other order are those of the table. -/
theorem KeyedBy.mergeSort_filter {name : α → κ} {t : Table κ α} (h : t.KeyedBy name) {l : List α}
    (hl : l.Perm t.values) (p : α → Bool) :
    ((l.filter p).mergeSort fun a b => compare (name a) (name b) != .gt) = t.values.filter p := by
  refine List.Perm.eq_of_pairwise ?_ (pairwise_mergeSort name _) ?_
    ((List.mergeSort_perm _ _).trans (hl.filter p))
  · intro a b ha hb hab hba
    have hname : name a = name b :=
      Std.LawfulEqCmp.eq_of_compare (Std.OrientedCmp.isLE_antisymm hab hba)
    have ha' := h.mem_values.mp
      (hl.mem_iff.mp (List.mem_of_mem_filter ((List.mergeSort_perm _ _).mem_iff.mp ha)))
    rw [hname, h.mem_values.mp (List.mem_of_mem_filter hb)] at ha'
    exact (Option.some.inj ha').symm
  · refine (h.pairwise_values.imp ?_).filter p
    intro a b hlt
    rw [hlt]
    rfl

theorem KeyedBy.values_insert_eq_map [DecidableEq κ] {name : α → κ} {t : Table κ α}
    (h : t.KeyedBy name) {a b : α} (ha : t.get? (name b) = some a) :
    (t.insert (name b) b).values = t.values.map fun c => if name c = name b then b else c := by
  have heq : t.insert (name b) b = t.mapValues fun c => if name c = name b then b else c := by
    refine ext_get? fun k => ?_
    rw [get?_insert, get?_mapValues]
    by_cases hk : k = name b
    · rw [if_pos hk, hk, ha, Option.map_some, if_pos (h _ _ ha)]
    · rw [if_neg hk]
      cases hc : t.get? k with
      | none => rfl
      | some c => rw [Option.map_some, if_neg (by rw [h k c hc]; exact hk)]
  rw [heq, values_mapValues]

/-! ## Look-ups one by one -/

section Repetitions

variable {r : α → α → Bool} {a b c : α} {l : List α}

theorem eraseRepsBy_loop (a : α) (l acc : List α) :
    List.eraseRepsBy.loop r a l acc = acc.reverse ++ List.eraseRepsBy r (a :: l) := by
  induction l generalizing a acc with
  | nil =>
    show (a :: acc).reverse = acc.reverse ++ [a]
    exact List.reverse_cons
  | cons b rest ih =>
    have hcons : ∀ acc, List.eraseRepsBy.loop r a (b :: rest) acc =
        if r a b then List.eraseRepsBy.loop r a rest acc
        else List.eraseRepsBy.loop r b rest (a :: acc) := by
      intro acc
      rw [List.eraseRepsBy.loop]
      cases r a b <;> rfl
    rw [List.eraseRepsBy, hcons, hcons]
    split
    · exact ih a acc
    · rw [ih b, ih b, List.reverse_cons, List.reverse_singleton, List.append_assoc]

theorem eraseRepsBy_cons_cons : List.eraseRepsBy r (a :: b :: l) =
    if r a b then List.eraseRepsBy r (a :: l) else a :: List.eraseRepsBy r (b :: l) := by
  rw [List.eraseRepsBy, List.eraseRepsBy.loop]
  cases r a b with
  | true => rfl
  | false => exact eraseRepsBy_loop b l [a]

theorem mem_of_mem_eraseRepsBy (h : c ∈ List.eraseRepsBy r (a :: l)) : c ∈ a :: l := by
  induction l generalizing a with
  | nil => exact h
  | cons b rest ih =>
    rw [eraseRepsBy_cons_cons] at h
    split at h
    · exact (List.mem_cons.mp (ih h)).elim (· ▸ List.mem_cons_self ..)
        fun h => List.mem_cons_of_mem _ (List.mem_cons_of_mem _ h)
    · rcases List.mem_cons.mp h with rfl | h
      · exact List.mem_cons_self ..
      · exact List.mem_cons_of_mem _ (ih h)

end Repetitions

section Names

variable [DecidableEq κ] {name : α → κ} {a b : α} {l : List α}

omit [Ord κ] [Std.TransOrd κ] [Std.LawfulEqOrd κ] in
/-- Where rows with one name are one row, only repetitions are lost. -/
theorem mem_eraseRepsBy (h : ∀ b ∈ a :: l, ∀ c ∈ a :: l, name b = name c → b = c) :
    b ∈ List.eraseRepsBy (fun b c => name b == name c) (a :: l) ↔ b ∈ a :: l := by
  refine ⟨mem_of_mem_eraseRepsBy, ?_⟩
  induction l generalizing a with
  | nil => exact id
  | cons c rest ih =>
    have hrest : ∀ d ∈ c :: rest, ∀ e ∈ c :: rest, name d = name e → d = e := fun d hd e he =>
      h d (List.mem_cons_of_mem _ hd) e (List.mem_cons_of_mem _ he)
    intro hb
    rw [eraseRepsBy_cons_cons]
    split
    · next heq =>
      obtain rfl : a = c := h a (List.mem_cons_self ..) c
        (List.mem_cons_of_mem _ (List.mem_cons_self ..)) (beq_iff_eq.mp heq)
      refine ih hrest ((List.mem_cons.mp hb).elim (fun hb => ?_) id)
      exact hb ▸ List.mem_cons_self ..
    · rcases List.mem_cons.mp hb with rfl | hb
      · exact List.mem_cons_self ..
      · exact List.mem_cons_of_mem _ (ih hrest hb)

theorem pairwise_eraseRepsBy
    (h : (a :: l).Pairwise fun b c => (compare (name b) (name c)).isLE) :
    (List.eraseRepsBy (fun b c => name b == name c) (a :: l)).Pairwise
      fun b c => compare (name b) (name c) = .lt := by
  induction l generalizing a with
  | nil => exact List.pairwise_singleton ..
  | cons b rest ih =>
    obtain ⟨ha, hrest⟩ := List.pairwise_cons.mp h
    rw [eraseRepsBy_cons_cons]
    split
    · refine ih (List.pairwise_cons.mpr ⟨fun c hc => ha c (List.mem_cons_of_mem _ hc), ?_⟩)
      exact (List.pairwise_cons.mp hrest).2
    · next hne =>
      refine List.pairwise_cons.mpr ⟨fun c hc => ?_, ih hrest⟩
      have hab : compare (name a) (name b) = .lt := by
        refine (Ordering.isLE_iff_eq_lt_or_eq_eq.mp (ha b (List.mem_cons_self ..))).resolve_right ?_
        exact fun heq => hne (beq_iff_eq.mpr (Std.LawfulEqCmp.eq_of_compare heq))
      rcases List.mem_cons.mp (mem_of_mem_eraseRepsBy hc) with rfl | hc
      · exact hab
      · exact Std.TransCmp.lt_of_lt_of_isLE hab ((List.pairwise_cons.mp hrest).1 c hc)

omit [Std.TransOrd κ] [Std.LawfulEqOrd κ] [DecidableEq κ] in
theorem KeyedBy.mem_lookups {t : Table κ α} (h : t.KeyedBy name) {ks : List κ} :
    a ∈ ks.filterMap t.get? ↔ name a ∈ ks ∧ t.get? (name a) = some a := by
  rw [List.mem_filterMap]
  constructor
  · rintro ⟨k, hk, ha⟩
    obtain rfl := h k a ha
    exact ⟨hk, ha⟩
  · exact fun ⟨hk, ha⟩ => ⟨name a, hk, ha⟩

/-- To look keys up one by one, sort what is found and drop repetitions is
to go over the table once. -/
theorem KeyedBy.sorted_lookups {t : Table κ α} (h : t.KeyedBy name) (ks : List κ) :
    (((ks.filterMap t.get?).mergeSort fun a b => compare (name a) (name b) != .gt).eraseRepsBy
      fun a b => name a == name b) = t.values.filter fun a => ks.contains (name a) := by
  have hsorted := pairwise_mergeSort name (ks.filterMap t.get?)
  have hmem : ∀ a, a ∈ (ks.filterMap t.get?).mergeSort
      (fun a b => compare (name a) (name b) != .gt) ↔ name a ∈ ks ∧ t.get? (name a) = some a :=
    fun a => (List.mergeSort_perm _ _).mem_iff.trans h.mem_lookups
  have hscan : ∀ a, a ∈ (t.values.filter fun a => ks.contains (name a)) ↔
      name a ∈ ks ∧ t.get? (name a) = some a := fun a => by
    rw [List.mem_filter, h.mem_values, List.contains_iff_mem, and_comm]
  have hvalues := h.pairwise_values.filter fun a => ks.contains (name a)
  generalize (ks.filterMap t.get?).mergeSort _ = l at hsorted hmem
  cases l with
  | nil =>
    refine (List.eq_nil_iff_forall_not_mem.mpr fun a ha => ?_).symm
    exact List.not_mem_nil ((hmem a).mpr ((hscan a).mp ha))
  | cons a rest =>
    refine eq_of_pairwise_lt name (pairwise_eraseRepsBy hsorted) hvalues fun b => ?_
    rw [mem_eraseRepsBy ?_, hmem, hscan]
    intro b hb c hc hname
    have hb' := ((hmem b).mp hb).2
    rw [hname, ((hmem c).mp hc).2] at hb'
    exact (Option.some.inj hb').symm

/-! ## Rows that come in any order -/

omit [Ord κ] [Std.TransOrd κ] [Std.LawfulEqOrd κ] in
/-- The row that stays if rows with one name replace each other: the last
one. -/
def lastNamed (name : α → κ) (l : List α) (k : κ) : Option α :=
  (l.filter fun a => name a = k).getLast?

omit [Ord κ] [Std.TransOrd κ] [Std.LawfulEqOrd κ] in
theorem lastNamed_concat (l : List α) (a : α) (k : κ) :
    lastNamed name (l ++ [a]) k = if name a = k then some a else lastNamed name l k := by
  rw [lastNamed, List.filter_append, List.filter_singleton]
  by_cases h : name a = k
  · simp [h]
  · simp [h, lastNamed]

theorem get?_foldl_insert (t : Table κ α) (l : List α) (k : κ) :
    (l.foldl (fun t a => t.insert (name a) a) t).get? k = (lastNamed name l k).or (t.get? k) := by
  induction l using List.reverseRecOn with
  | nil => rfl
  | append_singleton l a ih =>
    rw [List.foldl_concat, get?_insert, lastNamed_concat, ih]
    by_cases h : k = name a
    · rw [if_pos h, if_pos h.symm, Option.some_or]
    · rw [if_neg h, if_neg (Ne.symm h)]

omit [Ord κ] [Std.TransOrd κ] [Std.LawfulEqOrd κ] in
/-- Where no row replaces another the same ones stay in any order. -/
theorem lastNamed_perm {l l' : List α} (h : l'.Perm l) (hnames : (l.map name).Nodup) (k : κ) :
    lastNamed name l' k = lastNamed name l k := by
  have hperm := h.filter fun a => decide (name a = k)
  have hnodup : ((l.filter fun a => decide (name a = k)).map name).Nodup :=
    hnames.sublist (List.filter_sublist.map _)
  have hname : ∀ a ∈ l.filter fun a => decide (name a = k), name a = k := fun a ha =>
    of_decide_eq_true (List.mem_filter.mp ha).2
  rw [lastNamed, lastNamed]
  revert hperm hnodup hname
  match l.filter fun a => decide (name a = k) with
  | [] => exact fun hperm _ _ => by rw [List.perm_nil.mp hperm]
  | [a] => exact fun hperm _ _ => by rw [List.perm_singleton.mp hperm]
  | a :: b :: rest =>
    intro _ hnodup hname
    refine absurd ?_ (List.nodup_cons.mp hnodup).1
    rw [hname a (List.mem_cons_self ..), List.map_cons,
      hname b (List.mem_cons_of_mem _ (List.mem_cons_self ..))]
    exact List.mem_cons_self ..

end Names

end GridQueue.Table
