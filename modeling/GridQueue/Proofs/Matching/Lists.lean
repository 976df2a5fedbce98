/-
# `GridQueue.Proofs.Matching.Lists` — how lists of partitions and packages are read

Agents and site directories spell the same list in many ways.

|           | partitions                 | packages                 |
| :-------- | :------------------------- | :----------------------- |
| separator | a comma or a colon         | a comma or white space   |
| item      | no white space at its ends | a run without separators |
| result    | the items in order         | the set of the items     |

Both are read by splitting a text, trimming the pieces and dropping the
empty ones, so for both the result of a text of two parts is that of the
parts.  What is read are items, and items that are joined again are read
back, partitions as the list and packages as the set that they were.

Both readers are `Text.items` at a separator of their own, so each result
is a case of one in `GridQueue.Proofs.Text.Items`.  Packages need a word
more: their separators include white space, so that a package is a run and
nothing has to be trimmed, and repetitions go when the list becomes a set.
-/
import GridQueue.Matching.Request
import GridQueue.Proofs.NameSet
import GridQueue.Proofs.Text.Items

namespace GridQueue

/-! ## Partitions -/

namespace Matching

variable {c : Char}

theorem isPartitionSeparator_iff : isPartitionSeparator c = true ↔ c = ',' ∨ c = ':' := by
  rw [isPartitionSeparator, Bool.or_eq_true, beq_iff_eq, beq_iff_eq]

abbrev IsPartition : String → Prop := Text.IsItem isPartitionSeparator

theorem partitions_intercalate (hc : isPartitionSeparator c = true) {l : List String}
    (hl : ∀ x ∈ l, IsPartition x) : partitions (String.intercalate (String.singleton c) l) = l :=
  (Text.joined_intercalate hc l).items_eq hl

end Matching

/-! ## Packages -/

namespace Inventory

variable {c : Char} {name : String}

theorem isSeparator_iff : isSeparator c = true ↔ c = ',' ∨ Text.isBlank c = true := by
  rw [isSeparator, Bool.or_eq_true, beq_iff_eq]

theorem isSeparator_of_isBlank (c : Char) (h : Text.isBlank c = true) : isSeparator c = true :=
  isSeparator_iff.mpr (.inr h)

/-- What can be read back from a report: a name is not empty, and nothing
in it separates names. -/
def IsName (name : String) : Prop :=
  name ≠ "" ∧ ∀ c ∈ name.toList, isSeparator c = false

instance (name : String) : Decidable (IsName name) :=
  have : Decidable (∀ c ∈ name.toList, isSeparator c = false) := List.decidableBAll _ name.toList
  inferInstanceAs (Decidable (_ ∧ _))

theorem IsName.isItem (h : IsName name) : Text.IsItem isSeparator name :=
  ⟨h.1, h.2, Text.isTrimmed_of_unseparated isSeparator_of_isBlank h.2⟩

theorem read_eq_installed (report : Option String) : read report false =
    .installed (NameSet.ofNames (Text.items isSeparator (report.getD ""))) := rfl

theorem read_append (hc : isSeparator c = true) (s t : String) :
    ∃ a b, read (some s) false = .installed a ∧ read (some t) false = .installed b ∧
      read (some (s ++ String.singleton c ++ t)) false = .installed (a.union b) := by
  refine ⟨_, _, rfl, rfl, ?_⟩
  rw [read_eq_installed, Option.getD_some, Text.items_append hc, NameSet.ofNames_append]
  rfl

theorem exists_read_eq_installed (report : Option String) :
    ∃ installed, read report false = .installed installed ∧ ∀ name, installed.has name = true ↔
      name ≠ "" ∧ Text.IsRun isSeparator (report.getD "").toList name.toList := by
  refine ⟨_, rfl, fun name => ?_⟩
  rw [NameSet.has_ofNames, Text.mem_items_iff isSeparator_of_isBlank]

/-- A set of names is read back from any text in which they are joined. -/
theorem read_joined {names : NameSet} (hnames : ∀ name ∈ names.names, IsName name)
    {l : List String} (hl : ∀ name, name ∈ l ↔ name ∈ names.names) {s : String}
    (hs : Text.Joined isSeparator l s) : read (some s) false = .installed names := by
  have hitems : ∀ name ∈ l, Text.IsItem isSeparator name := fun name h =>
    (hnames name ((hl name).mp h)).isItem
  rw [read_eq_installed, Option.getD_some, hs.items_eq hitems, NameSet.ofNames_eq hl]

end Inventory

/-! ## Both lists -/

open Matching

/-- Lists are read in a normal form.  To read a list of partitions in two
parts, with a comma or colon between them, is to read the parts; what is
read are partitions, and partitions that are joined are read back, so what
was read can be joined and read again.  To read a report of packages in
two parts is to unite the two sets; a report names its longest runs
without a separator, and a set of names is read back from any text in
which they are joined, in any order, with repetitions and with more
separators than are needed. -/
theorem lists_are_read_in_normal_form :
    (∀ c, c = ',' ∨ c = ':' → ∀ s t,
      partitions (s ++ String.singleton c ++ t) = partitions s ++ partitions t) ∧
    (∀ s, ∀ x ∈ partitions s, IsPartition x) ∧
    (∀ c, c = ',' ∨ c = ':' → ∀ l, (∀ x ∈ l, IsPartition x) →
      partitions (String.intercalate (String.singleton c) l) = l) ∧
    (∀ c, c = ',' ∨ c = ':' → ∀ s,
      partitions (String.intercalate (String.singleton c) (partitions s)) = partitions s) ∧
    (∀ c, c = ',' ∨ Text.isBlank c = true → ∀ s t, ∃ a b,
      Inventory.read (some s) false = .installed a ∧
      Inventory.read (some t) false = .installed b ∧
      Inventory.read (some (s ++ String.singleton c ++ t)) false = .installed (a.union b)) ∧
    (∀ report, ∃ installed, Inventory.read report false = .installed installed ∧
      ∀ name, installed.has name = true ↔
        name ≠ "" ∧ Text.IsRun Inventory.isSeparator (report.getD "").toList name.toList) ∧
    ∀ names : NameSet, (∀ name ∈ names.names, Inventory.IsName name) →
      ∀ l, (∀ name, name ∈ l ↔ name ∈ names.names) → ∀ s, Text.Joined Inventory.isSeparator l s →
        Inventory.read (some s) false = .installed names :=
  ⟨fun _ hc => Text.items_append (isPartitionSeparator_iff.mpr hc),
    fun _ _ => Text.isItem_of_mem_items,
    fun _ hc _ => partitions_intercalate (isPartitionSeparator_iff.mpr hc),
    fun _ hc _ => (Text.joined_intercalate (isPartitionSeparator_iff.mpr hc) _).items_items,
    fun _ hc => Inventory.read_append (Inventory.isSeparator_iff.mpr hc),
    Inventory.exists_read_eq_installed,
    fun _ hnames _ hl _ hs => Inventory.read_joined hnames hl hs⟩

/-- A list of partitions is read and joined at colons.  Two packages, one
of them named twice, are joined with two spaces and a comma. -/
theorem lists_are_read_in_normal_form_of_spellings :
    partitions "cpu, gpu:high mem,," = ["cpu", "gpu", "high mem"] ∧
      IsPartition "high mem" ∧ partitions "cpu:gpu:high mem" = ["cpu", "gpu", "high mem"] ∧
      Inventory.read (some "root  geant,root") false =
        .installed (NameSet.ofNames ["geant", "root"]) ∧
      Text.IsRun Inventory.isSeparator "root  geant,root".toList "geant".toList := by
  obtain ⟨-, hitem, -, hjoin, -, hruns, hjoined⟩ := lists_are_read_in_normal_form
  have hread : partitions "cpu, gpu:high mem,," = ["cpu", "gpu", "high mem"] := by decide +kernel
  have hagain := hjoin ':' (.inr rfl) "cpu, gpu:high mem,,"
  rw [hread] at hagain
  -- nothing stands between the two spaces
  have htext : Text.Joined Inventory.isSeparator ["root", "geant", "root"] "root  geant,root" :=
    .append (c := ',') rfl
      (.append (c := ' ') rfl (.append (c := ' ') rfl (.single "root") .nil) (.single "geant"))
      (.single "root")
  have hset : Inventory.read (some "root  geant,root") false =
      .installed (NameSet.ofNames ["geant", "root"]) := by
    refine hjoined _ (by decide +kernel) _ (fun name => ?_) _ htext
    rw [NameSet.mem_names, NameSet.has_ofNames]
    grind
  refine ⟨hread, hitem "cpu, gpu:high mem,," _ (by simp [hread]), hagain, hset, ?_⟩
  obtain ⟨installed, hinstalled, hnames⟩ := hruns (some "root  geant,root")
  obtain rfl : NameSet.ofNames ["geant", "root"] = installed := by
    rw [hset] at hinstalled
    exact Inventory.installed.inj hinstalled
  exact ((hnames "geant").mp (NameSet.has_ofNames.mpr (by simp))).2

end GridQueue
