/-
# `GridQueue.Proofs.NameSet` — sets of names by what they have

A set of names is known by the names it has (`ext_has`), so the list it is
made of may come in any order and with repetitions (`ofNames_eq`), and two
lists one after the other make the union (`ofNames_append`).

A question about a set is the same question about its list (`mem_names`,
`contains_names`), and a set is read again from its own list
(`ofNames_names`).  That is how what is said of lists of names, in the
order in which somebody wrote them, comes to be said of sets.
-/
import GridQueue.NameSet
import GridQueue.Proofs.Table

namespace GridQueue.NameSet

variable {a b : NameSet} {names : List String} {name : String}

theorem has_iff_get? : a.has name = true ↔ Table.get? a name = some () := by
  rw [has, Table.contains, Option.isSome_iff_exists]
  constructor
  · rintro ⟨u, h⟩
    exact h
  · exact fun h => ⟨(), h⟩

theorem has_insert {n : String} :
    NameSet.has (Table.insert a n ()) name = true ↔ name = n ∨ a.has name = true := by
  rw [has_iff_get?, Table.get?_insert, has_iff_get?]
  split
  · next h => exact iff_of_true rfl (.inl h)
  · next h => exact (or_iff_right h).symm

/-- The names of a list that are put into a set one after another. -/
theorem has_foldl_insert (a : NameSet) :
    NameSet.has (names.foldl (fun t n => t.insert n ()) a) name = true ↔
      a.has name = true ∨ name ∈ names := by
  induction names generalizing a with
  | nil => simp
  | cons n rest ih =>
    rw [List.foldl_cons, ih, has_insert, List.mem_cons, or_comm (a := name = n), or_assoc]

theorem has_ofNames : (ofNames names).has name = true ↔ name ∈ names := by
  rw [ofNames, Table.ofList, List.foldl_map, has_foldl_insert]
  simp [has, Table.contains]

theorem mem_names : name ∈ a.names ↔ a.has name = true := by
  rw [names, Table.mem_keys, has, Table.contains, Option.isSome_iff_exists]

theorem contains_names (a : NameSet) : a.names.contains = a.has := by
  funext name
  rw [Bool.eq_iff_iff, List.contains_iff_mem, mem_names]

theorem ext_has (h : ∀ name, a.has name = true ↔ b.has name = true) : a = b := by
  refine Table.ext_get? fun name => Option.ext fun u => ?_
  exact has_iff_get?.symm.trans ((h name).trans has_iff_get?)

theorem ofNames_eq (h : ∀ name, name ∈ names ↔ name ∈ a.names) : ofNames names = a :=
  ext_has fun name => by rw [has_ofNames, h, mem_names]

theorem ofNames_names (a : NameSet) : ofNames a.names = a := ofNames_eq fun _ => .rfl

def union (a b : NameSet) : NameSet := ofNames (a.names ++ b.names)

theorem has_union : (a.union b).has name = true ↔ a.has name = true ∨ b.has name = true := by
  rw [union, has_ofNames, List.mem_append, mem_names, mem_names]

theorem ofNames_append (l m : List String) :
    ofNames (l ++ m) = (ofNames l).union (ofNames m) :=
  ext_has fun name => by
    rw [has_union, has_ofNames, has_ofNames, has_ofNames, List.mem_append]

end GridQueue.NameSet
