/-
# `GridQueue.Table` — finite maps in key order

A table is the list of its entries, keys strictly ascending.  The order
is part of the type, so a table has one representation.  Each operation
is pinned down by what it does to the look-up (`get?_empty`,
`get?_insert`, `get?_mapValues`).  A table of records that name their
own key, each of which stands at that key, is `KeyedBy` the name.
-/

namespace GridQueue

/-- A finite map whose entries stand in ascending order of their keys. -/
structure Table (κ α : Type) [Ord κ] where
  entries : List (κ × α)
  sorted : entries.Pairwise fun a b => compare a.1 b.1 = .lt

namespace Table

variable {κ α β : Type} [Ord κ]

/-! ## Look-up and order on lists of entries -/

def lookup (k : κ) : List (κ × α) → Option α
  | [] => none
  | (k', a) :: rest =>
      match compare k k' with
      | .lt => none
      | .eq => some a
      | .gt => lookup k rest

/-- Puts a value at its key's place, in the stead of an earlier one. -/
def place (k : κ) (a : α) : List (κ × α) → List (κ × α)
  | [] => [(k, a)]
  | (k', b) :: rest =>
      match compare k k' with
      | .lt => (k, a) :: (k', b) :: rest
      | .eq => (k, a) :: rest
      | .gt => (k', b) :: place k a rest

theorem mem_place [Std.TransOrd κ] [Std.LawfulEqOrd κ] {k : κ} {a : α} {e : κ × α} :
    ∀ {l : List (κ × α)}, e ∈ place k a l → e.1 = k ∨ e ∈ l
  | [], h => by
      simp only [place, List.mem_singleton] at h
      exact .inl (by rw [h])
  | (k', b) :: rest, h => by
      unfold place at h
      split at h
      · rcases List.mem_cons.mp h with rfl | h
        · exact .inl rfl
        · exact .inr h
      · rcases List.mem_cons.mp h with rfl | h
        · exact .inl rfl
        · exact .inr (List.mem_cons_of_mem _ h)
      · rcases List.mem_cons.mp h with rfl | h
        · exact .inr (List.mem_cons_self ..)
        · rcases mem_place h with h | h
          · exact .inl h
          · exact .inr (List.mem_cons_of_mem _ h)

theorem pairwise_place [Std.TransOrd κ] [Std.LawfulEqOrd κ] {k : κ} {a : α} :
    ∀ {l : List (κ × α)}, l.Pairwise (fun x y => compare x.1 y.1 = .lt) →
      (place k a l).Pairwise fun x y => compare x.1 y.1 = .lt
  | [], _ => List.pairwise_singleton ..
  | (k', b) :: rest, h => by
      have hr := List.pairwise_cons.mp h
      unfold place
      split
      · rename_i hc
        refine List.pairwise_cons.mpr ⟨fun e he => ?_, h⟩
        rcases List.mem_cons.mp he with rfl | he
        · exact hc
        · exact Std.TransCmp.lt_trans hc (hr.1 e he)
      · rename_i hc
        have := Std.LawfulEqCmp.eq_of_compare hc
        subst this
        exact List.pairwise_cons.mpr ⟨hr.1, hr.2⟩
      · rename_i hc
        refine List.pairwise_cons.mpr ⟨fun e he => ?_, pairwise_place hr.2⟩
        rcases mem_place he with he | he
        · rw [he]; exact Std.OrientedCmp.gt_iff_lt.mp hc
        · exact hr.1 e he

/-! ## Operations -/

def empty : Table κ α := ⟨[], .nil⟩

instance : EmptyCollection (Table κ α) := ⟨empty⟩
instance : Inhabited (Table κ α) := ⟨empty⟩

/-- The value at `k`, if there is an entry. -/
def get? (t : Table κ α) (k : κ) : Option α := lookup k t.entries

/-- Whether there is an entry at `k`. -/
def contains (t : Table κ α) (k : κ) : Bool := (t.get? k).isSome

def keys (t : Table κ α) : List κ := t.entries.map (·.1)

/-- The values in the order of their keys. -/
def values (t : Table κ α) : List α := t.entries.map (·.2)

/-- Sets the value at `k`. -/
def insert [Std.TransOrd κ] [Std.LawfulEqOrd κ] (t : Table κ α) (k : κ) (a : α) :
    Table κ α :=
  ⟨place k a t.entries, pairwise_place t.sorted⟩

/-- Applies `f` to every value. -/
def mapValues (f : α → β) (t : Table κ α) : Table κ β :=
  ⟨t.entries.map fun e => (e.1, f e.2), by
    rw [List.pairwise_map]; exact t.sorted⟩

/-- The table of a list of entries, a later entry replacing an earlier
one with the same key. -/
def ofList [Std.TransOrd κ] [Std.LawfulEqOrd κ] (l : List (κ × α)) : Table κ α :=
  l.foldl (fun t e => t.insert e.1 e.2) empty

/-! ## Laws -/

theorem lookup_place [DecidableEq κ] [Std.TransOrd κ] [Std.LawfulEqOrd κ] {k j : κ} {a : α} :
    ∀ {l : List (κ × α)}, l.Pairwise (fun x y => compare x.1 y.1 = .lt) →
      lookup j (place k a l) = if j = k then some a else lookup j l
  | [], _ => by
      simp only [place, lookup]
      split <;> rename_i h
      · rw [if_neg]; rintro rfl; simp at h
      · rw [if_pos (Std.LawfulEqCmp.eq_of_compare h)]
      · rw [if_neg]; rintro rfl; simp at h
  | (k', b) :: rest, h => by
      have hr := List.pairwise_cons.mp h
      unfold place
      split
      · rename_i hc
        simp only [lookup]
        split <;> rename_i hj
        · rw [if_neg (by rintro rfl; simp at hj),
            Std.TransCmp.lt_trans hj hc]
        · rw [if_pos (Std.LawfulEqCmp.eq_of_compare hj)]
        · rw [if_neg (by rintro rfl; simp at hj)]
      · rename_i hc
        have := Std.LawfulEqCmp.eq_of_compare hc
        subst this
        simp only [lookup]
        split <;> rename_i hj
        · rw [if_neg (by rintro rfl; simp at hj)]
        · rw [if_pos (Std.LawfulEqCmp.eq_of_compare hj)]
        · rw [if_neg (by rintro rfl; simp at hj)]
      · rename_i hc
        simp only [lookup]
        split <;> rename_i hj
        · rw [if_neg]; rintro rfl; rw [hc] at hj; cases hj
        · rw [if_neg]; rintro rfl; rw [hc] at hj; cases hj
        · exact lookup_place hr.2

@[simp] theorem get?_empty {k : κ} : (empty : Table κ α).get? k = none := rfl

theorem get?_insert [DecidableEq κ] [Std.TransOrd κ] [Std.LawfulEqOrd κ]
    {t : Table κ α} {k j : κ} {a : α} :
    (t.insert k a).get? j = if j = k then some a else t.get? j :=
  lookup_place t.sorted

theorem lookup_map {f : α → β} {k : κ} :
    ∀ {l : List (κ × α)}, lookup k (l.map fun e => (e.1, f e.2)) = (lookup k l).map f
  | [] => rfl
  | (k', a) :: rest => by
      simp only [List.map_cons, lookup]
      split
      · rfl
      · rfl
      · exact lookup_map

@[simp] theorem get?_mapValues {t : Table κ α} {f : α → β} {k : κ} :
    (t.mapValues f).get? k = (t.get? k).map f :=
  lookup_map

theorem lookup_eq_some_iff [Std.TransOrd κ] [Std.LawfulEqOrd κ] {k : κ} {a : α} :
    ∀ {l : List (κ × α)}, l.Pairwise (fun x y => compare x.1 y.1 = .lt) →
      (lookup k l = some a ↔ (k, a) ∈ l)
  | [], _ => by simp [lookup]
  | (k', b) :: rest, h => by
      have hr := List.pairwise_cons.mp h
      simp only [lookup, List.mem_cons, Prod.mk.injEq]
      split <;> rename_i hj
      · constructor
        · intro h; cases h
        · rintro (⟨rfl, _⟩ | hm)
          · simp at hj
          · have := Std.TransCmp.lt_trans hj (hr.1 _ hm)
            simp at this
      · have := Std.LawfulEqCmp.eq_of_compare hj
        subst this
        constructor
        · intro h; exact .inl ⟨rfl, (Option.some.inj h).symm⟩
        · rintro (⟨_, rfl⟩ | hm)
          · rfl
          · have := hr.1 _ hm
            simp at this
      · rw [lookup_eq_some_iff hr.2]
        constructor
        · exact .inr
        · rintro (⟨rfl, _⟩ | hm)
          · simp at hj
          · exact hm

theorem get?_eq_some_iff [Std.TransOrd κ] [Std.LawfulEqOrd κ]
    {t : Table κ α} {k : κ} {a : α} :
    t.get? k = some a ↔ (k, a) ∈ t.entries :=
  lookup_eq_some_iff t.sorted

theorem mem_values [Std.TransOrd κ] [Std.LawfulEqOrd κ] {t : Table κ α} {a : α} :
    a ∈ t.values ↔ ∃ k, t.get? k = some a := by
  simp only [values, List.mem_map, get?_eq_some_iff]
  constructor
  · rintro ⟨⟨k, b⟩, hmem, rfl⟩
    exact ⟨k, hmem⟩
  · rintro ⟨k, hmem⟩
    exact ⟨(k, a), hmem, rfl⟩

/-! ## Records that name their key -/

/-- Every value stands at the key it names. -/
def KeyedBy (name : α → κ) (t : Table κ α) : Prop :=
  ∀ k a, t.get? k = some a → name a = k

theorem keyedBy_empty {name : α → κ} : (empty : Table κ α).KeyedBy name :=
  fun _ _ h => nomatch h

theorem KeyedBy.insert [DecidableEq κ] [Std.TransOrd κ] [Std.LawfulEqOrd κ]
    {name : α → κ} {t : Table κ α} (h : t.KeyedBy name) (a : α) :
    (t.insert (name a) a).KeyedBy name := by
  intro k b hb
  rw [get?_insert] at hb
  split at hb
  · next hk => rw [← Option.some.inj hb, hk]
  · exact h k b hb

theorem KeyedBy.mem_values [Std.TransOrd κ] [Std.LawfulEqOrd κ] {name : α → κ} {t : Table κ α}
    (h : t.KeyedBy name) {a : α} : a ∈ t.values ↔ t.get? (name a) = some a := by
  rw [Table.mem_values]
  constructor
  · rintro ⟨k, hk⟩
    rwa [h k a hk]
  · exact fun ha => ⟨name a, ha⟩

/-- Records may be changed in anything but their names. -/
theorem KeyedBy.mapValues {name : α → κ} {t : Table κ α} (h : t.KeyedBy name) {f : α → α}
    (hf : ∀ a, name (f a) = name a) : (t.mapValues f).KeyedBy name := by
  intro k b hb
  rw [get?_mapValues] at hb
  obtain ⟨a, ha, rfl⟩ := Option.map_eq_some_iff.mp hb
  exact (hf a).trans (h k a ha)

theorem KeyedBy.pairwise_values [Std.TransOrd κ] [Std.LawfulEqOrd κ] {name : α → κ}
    {t : Table κ α} (h : t.KeyedBy name) :
    t.values.Pairwise fun a b => compare (name a) (name b) = .lt := by
  refine List.pairwise_map.mpr (t.sorted.imp_of_mem fun ha hb hlt => ?_)
  rwa [h _ _ (get?_eq_some_iff.mpr ha), h _ _ (get?_eq_some_iff.mpr hb)]

theorem KeyedBy.values_insert [Std.TransOrd κ] [Std.LawfulEqOrd κ] {name : α → κ} {t : Table κ α}
    (h : t.KeyedBy name) {a b : α} (ha : t.values = [a]) (hname : name b = name a) :
    (t.insert (name b) b).values = [b] := by
  obtain ⟨⟨k, c⟩, he, hc⟩ := List.map_eq_singleton_iff.mp ha
  have hk : name b = k := by
    rw [hname, ← hc]
    exact h k c (get?_eq_some_iff.mpr (he ▸ List.mem_singleton_self _))
  change (place (name b) b t.entries).map (·.2) = [b]
  rw [he, place, hk, Std.ReflOrd.compare_self]
  rfl

end Table

end GridQueue
