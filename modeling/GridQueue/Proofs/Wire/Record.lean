/-
# `GridQueue.Proofs.Wire.Record` — records read back from their members

What is read of a record depends on the members it is asked for, and
these must be there once.  `Carries members fields` says that they are,
with these values; members that nobody asks for and the order of all do
not matter.

    carries_of_perm   the fields in any order, among members of other names
    without           without a member of another name
    record?           the record can be read by the names of the fields
    member?           and each field has its value
    tagged?           if one of the members is a tag, the others are the rest
-/
import GridQueue.Json.Record
import GridQueue.Json.Ordered
import GridQueue.Proofs.Table
import GridQueue.Width

namespace GridQueue.Json

def members : Json → List (String × Json)
  | obj members => members
  | _ => []

/-! ## Fields of an object -/

section Fields

variable {α β : Type} {members : List (String × Json)} {names : List String} {name : String}
  {j : Json} {read : Json → Option α} {default : α}

/-- The fields of an object, by their names. -/
def Record.named (members : List (String × Json)) : Record :=
  ⟨false, fun n => member? n members⟩

theorem record?_obj (h : namesOnce names members = true) :
    (obj members).record? names = some (.named members) :=
  if_pos h

namespace Record

@[simp] theorem value?_named : (named members).value? name = member? name members := rfl

theorem required_eq_some {a : α} (h : member? name members = some j) (hread : read j = some a) :
    (named members).required name read = some a := by
  rw [required, value?_named, h, Option.bind_some, hread]

theorem required_of_missing (h : member? name members = none) :
    (named members).required name read = none := by
  rw [required, value?_named, h, Option.bind_none]

theorem defaulted_eq_some {a : α} (h : member? name members = some j) (hread : read j = some a) :
    (named members).defaulted name default read = some a := by
  rw [defaulted, value?_named, h]
  exact hread

theorem defaulted_of_missing (h : member? name members = none) :
    (named members).defaulted name default read = some default := by
  rw [defaulted, value?_named, h]

theorem required_of_filter {kept : Bool} {a : α}
    (h : member? name members = if kept then some j else none) (hread : read j = some a) :
    (named members).required name read = if kept then some a else none := by
  cases kept with
  | false => exact required_of_missing h
  | true => exact required_eq_some h hread

theorem defaulted_of_filter {kept : Bool} {a : α}
    (h : member? name members = if kept then some j else none) (hread : read j = some a) :
    (named members).defaulted name default read = some (if kept then a else default) := by
  cases kept with
  | false => exact defaulted_of_missing h
  | true => exact defaulted_eq_some h hread

end Record

theorem member?_filter {kept : String → Bool} :
    member? name (members.filter fun m => kept m.1) =
      if kept name then member? name members else none := by
  induction members with
  | nil => simp [member?]
  | cons m rest ih =>
      by_cases hm : m.1 = name <;> by_cases hk : kept m.1 <;> simp_all [member?]

theorem namesOnce_filter {kept : String → Bool} (h : namesOnce names members = true) :
    namesOnce names (members.filter fun m => kept m.1) = true := by
  refine List.all_eq_true.mpr fun n hn => ?_
  have hle := of_decide_eq_true (List.all_eq_true.mp h n hn)
  exact decide_eq_true ((List.filter_sublist.filter _).length_le.trans hle)

/-- What comes after something that was read if a member is there. -/
theorem bind_of_filter {kept : Bool} {x : Option α} {a : α} (h : x = if kept then some a else none)
    (next : α → Option β) : (x >>= next) = if kept then next a else none := by
  rw [h]
  cases kept <;> rfl

theorem bind_of_read {x : Option α} {a : α} (h : x = some a) (next : α → Option β) :
    (x >>= next) = next a := by
  rw [h]
  rfl

end Fields

/-! ## Members that are there once -/

/-- Each of the fields is among the members, and nothing else of its
name. -/
def Carries (members fields : List (String × Json)) : Prop :=
  ∀ f ∈ fields, (members.filter fun m => m.1 == f.1) = [f]

section Carries

variable {members fields extra : List (String × Json)} {name tag : String} {j : Json}

theorem filter_of_nodup (h : (fields.map (·.1)).Nodup) {f : String × Json} (hf : f ∈ fields) :
    (fields.filter fun m => m.1 == f.1) = [f] := by
  induction fields with
  | nil => cases hf
  | cons g rest ih =>
      obtain ⟨hg, hrest⟩ := List.nodup_cons.mp h
      rcases List.mem_cons.mp hf with rfl | hf
      · have hnone : (rest.filter fun m => m.1 == f.1) = [] := by
          refine List.filter_eq_nil_iff.mpr fun m hm hname => hg ?_
          exact List.mem_map.mpr ⟨m, hm, beq_iff_eq.mp hname⟩
        rw [List.filter_cons, if_pos (beq_self_eq_true f.1), hnone]
      · have hne : ¬ (g.1 == f.1) = true := fun heq =>
          hg (List.mem_map.mpr ⟨f, hf, (beq_iff_eq.mp heq).symm⟩)
        rw [List.filter_cons, if_neg hne, ih hrest hf]

theorem carries_of_perm (hperm : members.Perm (fields ++ extra))
    (hnodup : (fields.map (·.1)).Nodup) (hextra : ∀ m ∈ extra, m.1 ∉ fields.map (·.1)) :
    Carries members fields := by
  intro f hf
  have hnone : (extra.filter fun m => m.1 == f.1) = [] := by
    refine List.filter_eq_nil_iff.mpr fun m hm hname => hextra m hm ?_
    exact List.mem_map.mpr ⟨f, hf, (beq_iff_eq.mp hname).symm⟩
  have hfilter := hperm.filter fun m => m.1 == f.1
  rw [List.filter_append, hnone, List.append_nil, filter_of_nodup hnodup hf] at hfilter
  exact List.perm_singleton.mp hfilter

theorem carries_self (hnodup : (fields.map (·.1)).Nodup) : Carries fields fields :=
  fun _ hf => filter_of_nodup hnodup hf

namespace Carries

variable (h : Carries members fields)
include h

theorem subset {fewer : List (String × Json)} (hsub : fewer ⊆ fields) : Carries members fewer :=
  fun f hf => h f (hsub hf)

theorem without (hname : name ∉ fields.map (·.1)) :
    Carries (members.filter fun m => m.1 != name) fields := by
  intro f hf
  rw [List.filter_filter, ← h f hf]
  refine List.filter_congr fun m _ => ?_
  by_cases hm : m.1 = f.1
  · have hne : m.1 ≠ name := fun heq => hname (List.mem_map.mpr ⟨f, hf, hm.symm.trans heq⟩)
    simp [hm, hm ▸ hne]
  · simp [hm]

theorem member? (hf : (name, j) ∈ fields) : member? name members = some j := by
  have hfound (l : List (String × Json)) :
      Json.member? name l = ((l.filter fun m => m.1 == name).head?).map (·.2) := by
    induction l with
    | nil => rfl
    | cons m rest ih =>
        by_cases hm : m.1 = name
        · simp [Json.member?, hm]
        · simpa [Json.member?, hm] using ih
  rw [hfound, h _ hf]
  rfl

theorem found : ∀ f ∈ fields, Json.member? f.1 members = some f.2 := fun _ hf => h.member? hf

theorem namesOnce {names : List String} (hnames : names ⊆ fields.map (·.1)) :
    namesOnce names members = true := by
  refine List.all_eq_true.mpr fun n hn => ?_
  obtain ⟨f, hf, rfl⟩ := List.mem_map.mp (hnames hn)
  rw [h f hf]
  rfl

theorem record? {names : List String} (hnames : names ⊆ fields.map (·.1)) :
    (obj members).record? names = some (.named members) :=
  record?_obj (h.namesOnce hnames)

theorem tagged? (hread : allMembersReadable members = true) (htag : (tag, j) ∈ fields) :
    (obj members).tagged? tag = some ⟨j, obj (members.filter fun m => m.1 != tag)⟩ := by
  have honce : Json.namesOnce [tag] members = true :=
    h.namesOnce (by simpa using ⟨j, htag⟩)
  simp [Json.tagged?, hread, honce, h.member? htag]

end Carries

/-- What says by a tag what it is is read by the reader of its kind, from
the other members. -/
theorem read_kind {α : Type} {kinds : List (String × (Json → Option α))} {read : Json → Option α}
    {kind : String} {positions : Bool} {a : α} (hkind : kinds.lookup kind = some read)
    (h : Carries members ((tag, str kind) :: fields)) (hnames : (tag :: fields.map (·.1)).Nodup)
    (hreadable : allMembersReadable members = true)
    (hread : ∀ rest, Carries rest fields → read (obj rest) = some a) :
    (do
      let t ← (obj members).tagged? tag
      let read ← kind? positions kinds t.tag
      read t.rest) = some a := by
  rw [bind_of_read (h.tagged? hreadable (List.mem_cons_self ..)), kind?, bind_of_read hkind]
  exact hread _ ((h.subset (List.subset_cons_self ..)).without (List.nodup_cons.mp hnames).1)

end Carries

/-! ## Readable values -/

theorem allReadable_iff {items : List Json} :
    allReadable items = true ↔ ∀ j ∈ items, j.isReadable = true := by
  induction items with
  | nil => simp [allReadable]
  | cons j rest ih => simp [allReadable, ih]

theorem allMembersReadable_iff {members : List (String × Json)} :
    allMembersReadable members = true ↔ ∀ m ∈ members, m.2.isReadable = true := by
  induction members with
  | nil => simp [allMembersReadable]
  | cons m rest ih => simp [allMembersReadable, ih]

@[simp] theorem isReadable_strs (l : List String) : (strs l).isReadable = true :=
  allReadable_iff.mpr fun j hj => by
    obtain ⟨s, -, rfl⟩ := List.mem_map.mp hj
    rfl

@[simp] theorem isReadable_opt_str (s : Option String) : (opt str s).isReadable = true := by
  cases s <;> rfl

/-! ## Single values -/

section Values

variable {α : Type}

theorem int64?_int {n : Int} (h : FitsInt64 n) : int64? (int n) = some n := if_pos h

theorem int32?_int {n : Int} (h : FitsInt32 n) : int32? (int n) = some n := if_pos h

theorem uint64?_int {n : Nat} (h : n < 0x10000000000000000) : uint64? (int n) = some n := by
  have hn : (0 : Int) ≤ n ∧ (n : Int) ≤ 0x10000000000000000 - 1 := by omega
  rw [uint64?, intWithin?, if_pos hn]
  rfl

theorem list?_map {read : Json → Option α} {write : α → Json} {l : List α}
    (h : ∀ a ∈ l, read (write a) = some a) : list? read (arr (l.map write)) = some l := by
  rw [list?]
  induction l with
  | nil => rfl
  | cons a rest ih =>
      rw [List.map_cons, List.mapM_cons, h a (List.mem_cons_self ..),
        ih fun b hb => h b (List.mem_cons_of_mem _ hb)]
      rfl

@[simp] theorem list?_strs (l : List String) : list? str? (strs l) = some l :=
  list?_map fun _ _ => rfl

@[simp] theorem nullable_opt_str (s : Option String) :
    Record.nullable str? (opt str s) = some s := by
  cases s <;> rfl

@[simp] theorem str?_str (s : String) : str? (str s) = some s := rfl

@[simp] theorem bool?_bool (b : Bool) : bool? (bool b) = some b := rfl

@[simp] theorem choice?_str {withinTagged : Bool} {read : String → Option α} (s : String) :
    choice? withinTagged read (str s) = read s := rfl

end Values

/-! ## Values in order -/

mutual

/-- The members of every object stand in the order of their names, each
name once. -/
def IsOrdered : Json → Prop
  | arr items => AllOrdered items
  | obj members =>
      members.Pairwise (fun a b => compare a.1 b.1 = .lt) ∧ AllMembersOrdered members
  | null | bool _ | int _ | float _ | str _ | unreadable => True

def AllOrdered : List Json → Prop
  | [] => True
  | j :: rest => IsOrdered j ∧ AllOrdered rest

def AllMembersOrdered : List (String × Json) → Prop
  | [] => True
  | (_, j) :: rest => IsOrdered j ∧ AllMembersOrdered rest

end

mutual

theorem ordered_of_isOrdered : ∀ {j : Json}, j.IsOrdered → j.ordered = j
  | arr items, h => congrArg arr (orderedItems_of_allOrdered h)
  | obj members, ⟨hsorted, hall⟩ => by
      rw [ordered, orderedMembers_of_allOrdered hall]
      exact congrArg obj (congrArg Table.entries (Table.ofList_entries ⟨members, hsorted⟩))
  | null, _ | bool _, _ | int _, _ | float _, _ | str _, _ | unreadable, _ => rfl

theorem orderedItems_of_allOrdered : ∀ {items : List Json}, AllOrdered items →
    orderedItems items = items
  | [], _ => rfl
  | _ :: _, ⟨h, hrest⟩ => by
      rw [orderedItems, ordered_of_isOrdered h, orderedItems_of_allOrdered hrest]

theorem orderedMembers_of_allOrdered : ∀ {members : List (String × Json)},
    AllMembersOrdered members → orderedMembers members = members
  | [], _ => rfl
  | (_, _) :: _, ⟨h, hrest⟩ => by
      rw [orderedMembers, ordered_of_isOrdered h, orderedMembers_of_allOrdered hrest]

end

end GridQueue.Json
