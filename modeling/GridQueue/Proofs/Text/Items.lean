/-
# `GridQueue.Proofs.Text.Items` — lists that stand in one text

People write a list with white space around its items, and with
separators where none are needed:

    text      " cpu, gpu :highmem,,"
    pieces    " cpu"  " gpu "  "highmem"  ""  ""
    items     "cpu"   "gpu"    "highmem"

A separator divides the items of a text (`items_append`), and what comes
out are items (`IsItem`), each of which is read as itself.  So however
items are joined, they are read back (`Joined.items_eq`).  Where white
space separates too, there is nothing to trim, and the items are the
longest runs without a separator (`mem_items_iff`).

The induction of this module is on the separators of a text: either there
is none, or the text is a first piece, a separator and a rest
(`separated_induction`).
-/
import GridQueue.Text.Blank
import Mathlib.Data.List.DropRight
import Mathlib.Data.List.Induction

namespace GridQueue.Text

/-! ## The ends of a text -/

/-- There is no white space at either end. -/
structure IsTrimmed (cs : List Char) : Prop where
  head : ∀ c ∈ cs.head?, isBlank c = false
  last : ∀ c ∈ cs.getLast?, isBlank c = false

variable {isSeparator : Char → Bool}

section Trimming

variable {cs : List Char}

theorem trimChars_eq_rdropWhile : trimChars cs = (cs.dropWhile isBlank).rdropWhile isBlank := rfl

theorem isTrimmed_trimChars (cs : List Char) : IsTrimmed (trimChars cs) := by
  rw [trimChars_eq_rdropWhile]
  refine ⟨fun c hc => ?_, fun c hc => ?_⟩
  · -- what is taken off at the end leaves the head where it is
    obtain ⟨rest, hrest⟩ := List.rdropWhile_prefix isBlank (cs.dropWhile isBlank)
    have hhead : (cs.dropWhile isBlank).head? = some c := by
      rw [← hrest, List.head?_append, hc, Option.some_or]
    have hnot := List.head?_dropWhile_not isBlank cs
    rwa [hhead] at hnot
  · obtain ⟨hne, rfl⟩ := List.mem_getLast?_eq_getLast hc
    exact Bool.eq_false_iff.mpr (List.rdropWhile_last_not isBlank _ hne)

theorem IsTrimmed.trimChars_eq (h : IsTrimmed cs) : trimChars cs = cs := by
  have hdrop : cs.dropWhile isBlank = cs := by
    cases cs with
    | nil => rfl
    | cons c rest => rw [List.dropWhile_cons_of_neg (by simp [h.head c rfl])]
  rw [trimChars_eq_rdropWhile, hdrop, List.rdropWhile_eq_self_iff]
  intro hne
  simp [h.last _ (List.getLast?_eq_some_getLast hne)]

theorem mem_of_mem_trimChars {c : Char} (h : c ∈ trimChars cs) : c ∈ cs :=
  (List.dropWhile_sublist isBlank).subset ((List.rdropWhile_prefix isBlank _).subset h)

end Trimming

/-! ## The pieces of a text -/

variable (isSeparator) in
/-- A text without separators, or one that is followed by a separator and
another text. -/
theorem separated_induction {motive : List Char → Prop}
    (piece : ∀ w, (∀ c ∈ w, isSeparator c = false) → motive w)
    (more : ∀ w c rest, (∀ c ∈ w, isSeparator c = false) → isSeparator c = true →
      motive rest → motive (w ++ c :: rest)) (cs : List Char) : motive cs := by
  suffices h : ∀ w, (∀ c ∈ w, isSeparator c = false) → motive (w ++ cs) from
    h [] (List.forall_mem_nil _)
  induction cs with
  | nil =>
    intro w hw
    rw [List.append_nil]
    exact piece w hw
  | cons c rest ih =>
    intro w hw
    cases hc : isSeparator c with
    | true => exact more w c rest hw hc (ih [] (List.forall_mem_nil _))
    | false =>
      rw [List.append_cons]
      exact ih (w ++ [c]) (List.forall_mem_append.mpr ⟨hw, List.forall_mem_singleton.mpr hc⟩)

/-- A run of characters that do not separate, as long as it can be. -/
structure IsRun (isSeparator : Char → Bool) (cs w : List Char) : Prop where
  unseparated : ∀ c ∈ w, isSeparator c = false
  bounded : ∃ before after, cs = before ++ w ++ after ∧
    (∀ c ∈ before.getLast?, isSeparator c = true) ∧ ∀ c ∈ after.head?, isSeparator c = true

/-- The pieces of a text are its runs, with an empty one where a separator
has no run at a side. -/
theorem mem_splitOnP_iff {cs w : List Char} :
    w ∈ cs.splitOnP isSeparator ↔ IsRun isSeparator cs w := by
  constructor
  · induction cs using separated_induction isSeparator with
    | piece v hv =>
      rw [List.splitOnP_eq_singleton hv, List.mem_singleton]
      rintro rfl
      exact ⟨hv, [], [], by simp, nofun, nofun⟩
    | more v c rest hv hc ih =>
      rw [List.splitOnP_append_cons_of_forall_mem hv c hc, List.mem_cons]
      rintro (rfl | hw)
      · exact ⟨hv, [], c :: rest, by simp, nofun, by simpa using hc⟩
      · obtain ⟨hrun, before, after, rfl, hbefore, hafter⟩ := ih hw
        refine ⟨hrun, v ++ c :: before, after, by simp, ?_, hafter⟩
        cases before with
        | nil => simpa using hc
        | cons b before => simpa [List.getLast?_cons] using hbefore
  · rintro ⟨hw, before, after, rfl, hbefore, hafter⟩
    -- a separator on the right, or the end of the text
    have hright : w ∈ (w ++ after).splitOnP isSeparator := by
      cases after with
      | nil =>
        rw [List.append_nil, List.splitOnP_eq_singleton hw]
        exact List.mem_singleton_self w
      | cons c after =>
        rw [List.splitOnP_append_cons_of_forall_mem hw c (hafter c rfl)]
        exact List.mem_cons_self ..
    induction before using List.reverseRecOn with
    | nil => exact hright
    | append_singleton before c =>
      have hc : isSeparator c = true := hbefore c (by simp)
      rw [List.append_assoc, List.append_assoc, List.singleton_append,
        List.splitOnP_append_cons _ _ hc]
      exact List.mem_append_right _ hright

/-- Where white space separates, a text without separators has none at its
ends. -/
theorem isTrimmed_of_unseparated (hblank : ∀ c, isBlank c = true → isSeparator c = true)
    {w : List Char} (hw : ∀ c ∈ w, isSeparator c = false) : IsTrimmed w := by
  have hnone : ∀ c ∈ w, isBlank c = false := by
    intro c hc
    cases h : isBlank c with
    | false => rfl
    | true => exact absurd (hblank c h) (by simp [hw c hc])
  exact ⟨fun c hc => hnone c (List.mem_of_mem_head? hc),
    fun c hc => hnone c (List.mem_of_mem_getLast? hc)⟩

/-! ## Items -/

/-- What can be read back: it is not empty, nothing in it separates, and
there is no white space at its ends. -/
structure IsItem (isSeparator : Char → Bool) (x : String) : Prop where
  ne_empty : x ≠ ""
  unseparated : ∀ c ∈ x.toList, isSeparator c = false
  trimmed : IsTrimmed x.toList

section Items

variable {s x : String}

theorem mem_items_iff_trimChars : x ∈ items isSeparator s ↔
    x ≠ "" ∧ ∃ w, IsRun isSeparator s.toList w ∧ trimChars w = x.toList := by
  simp only [items, List.mem_map, List.mem_filter, mem_splitOnP_iff, decide_eq_true_eq]
  constructor
  · rintro ⟨-, ⟨⟨w, hrun, rfl⟩, hne⟩, rfl⟩
    exact ⟨by simpa using hne, w, hrun, by simp⟩
  · rintro ⟨hne, w, hrun, htrim⟩
    exact ⟨x.toList, ⟨⟨w, hrun, htrim⟩, mt String.toList_eq_nil_iff.mp hne⟩, String.ofList_toList⟩

theorem isItem_of_mem_items (h : x ∈ items isSeparator s) : IsItem isSeparator x := by
  obtain ⟨hne, w, hrun, htrim⟩ := mem_items_iff_trimChars.mp h
  refine ⟨hne, fun c hc => hrun.unseparated c ?_, htrim ▸ isTrimmed_trimChars w⟩
  exact mem_of_mem_trimChars (htrim ▸ hc)

theorem items_append {c : Char} (hc : isSeparator c = true) (s t : String) :
    items isSeparator (s ++ String.singleton c ++ t) =
      items isSeparator s ++ items isSeparator t := by
  have htext : (s ++ String.singleton c ++ t).toList = s.toList ++ c :: t.toList := by
    simp
  unfold items
  rw [htext, List.splitOnP_append_cons _ _ hc, List.map_append, List.filter_append,
    List.map_append]

theorem IsItem.items (h : IsItem isSeparator x) : items isSeparator x = [x] := by
  have hlist : x.toList ≠ [] := mt String.toList_eq_nil_iff.mp h.ne_empty
  unfold Text.items
  rw [List.splitOnP_eq_singleton h.unseparated, List.map_singleton, h.trimmed.trimChars_eq,
    List.filter_singleton, decide_eq_true hlist]
  simp

theorem mem_items_iff (hblank : ∀ c, isBlank c = true → isSeparator c = true) :
    x ∈ items isSeparator s ↔ x ≠ "" ∧ IsRun isSeparator s.toList x.toList := by
  have htrim {w : List Char} (hrun : IsRun isSeparator s.toList w) : trimChars w = w :=
    (isTrimmed_of_unseparated hblank hrun.unseparated).trimChars_eq
  rw [mem_items_iff_trimChars]
  refine and_congr_right fun _ => ⟨?_, fun hrun => ⟨_, hrun, htrim hrun⟩⟩
  rintro ⟨w, hrun, hw⟩
  rwa [← hw, htrim hrun]

end Items

/-! ## Joined texts -/

/-- Texts with separators between them, and more separators anywhere. -/
inductive Joined (isSeparator : Char → Bool) : List String → String → Prop
  | nil : Joined isSeparator [] ""
  | single (x : String) : Joined isSeparator [x] x
  | append {l m : List String} {s t : String} {c : Char} (hc : isSeparator c = true)
      (hs : Joined isSeparator l s) (ht : Joined isSeparator m t) :
      Joined isSeparator (l ++ m) (s ++ String.singleton c ++ t)

section Joining

variable {l : List String} {s t : String}

theorem joined_intercalate {c : Char} (hc : isSeparator c = true) (l : List String) :
    Joined isSeparator l (String.intercalate (String.singleton c) l) := by
  induction l with
  | nil => exact .nil
  | cons x rest ih =>
      cases rest with
      | nil =>
        rw [String.intercalate_singleton]
        exact .single x
      | cons y rest =>
        rw [String.intercalate_cons_cons]
        exact .append hc (.single x) ih

theorem Joined.items_eq_flatMap (h : Joined isSeparator l s) :
    items isSeparator s = l.flatMap (items isSeparator) := by
  induction h with
  | nil => rfl
  | single x => exact (List.flatMap_singleton ..).symm
  | append hc _ _ ihs iht => rw [items_append hc, ihs, iht, List.flatMap_append]

theorem Joined.items_eq (h : Joined isSeparator l s) (hitems : ∀ x ∈ l, IsItem isSeparator x) :
    items isSeparator s = l := by
  rw [h.items_eq_flatMap, List.flatMap_congr fun x hx => (hitems x hx).items,
    List.flatMap_singleton']

theorem Joined.items_items (h : Joined isSeparator (items isSeparator t) s) :
    items isSeparator s = items isSeparator t :=
  h.items_eq fun _ => isItem_of_mem_items

end Joining

end GridQueue.Text
