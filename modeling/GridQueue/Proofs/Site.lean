/-
# `GridQueue.Proofs.Site` — which entry of the directory counts

A look-up walks through the entries once, with one entry kept in hand.
What it comes to can be said without the walk:

| among the entries of the site    | what counts             |
| :------------------------------- | :---------------------- |
| one names the computing element  | the first one that does |
| none does, one is for all of it  | the first one for all   |
| neither                          | nothing is required     |

Entries of other sites and of other elements are in none of these lines.
Nor does it matter where the entries for all of a site stand among those
that name an element: the two kinds are searched apart (`lookup_congr`).

`Decides` is this table as a relation, with one constructor for each line,
and `decides_lookup` with `Decides.eq_lookup` make it a description of the
look-up: it holds of its result and of nothing else.
-/
import GridQueue.Site
import Mathlib.Logic.Relation

namespace GridQueue.Site

namespace Entry

/-- The entry is for this computing element of the site, by its name. -/
def Names (ce site : String) (e : Entry) : Prop := e.site = site ∧ e.ce = some ce

/-- The entry is for all of the site. -/
def Spans (site : String) (e : Entry) : Prop := e.site = site ∧ e.ce = none

instance (ce site : String) (e : Entry) : Decidable (e.Names ce site) :=
  inferInstanceAs (Decidable (_ ∧ _))

instance (site : String) (e : Entry) : Decidable (e.Spans site) :=
  inferInstanceAs (Decidable (_ ∧ _))

variable {ce site : String} {e : Entry}

theorem Names.not_spans (h : e.Names ce site) : ¬ e.Spans site := by
  intro hspans
  cases h.2.symm.trans hspans.2

theorem Spans.not_names (h : e.Spans site) : ¬ e.Names ce site := fun hnames => hnames.not_spans h

end Entry

namespace Directory

variable {d d' : Directory} {ce site : String} {r : Requirements}

/-- The first entry that names the element. -/
def named? (d : Directory) (ce site : String) : Option Entry := d.find? (·.Names ce site)

/-- The first entry for all of the site. -/
def spanning? (d : Directory) (site : String) : Option Entry := d.find? (·.Spans site)

theorem named?_cons {e : Entry} : named? (e :: d) ce site =
    if e.Names ce site then some e else d.named? ce site := by
  split
  · next h => exact List.find?_cons_of_pos (decide_eq_true h)
  · next h => exact List.find?_cons_of_neg (by simpa using h)

theorem spanning?_cons {e : Entry} : spanning? (e :: d) site =
    if e.Spans site then some e else d.spanning? site := by
  split
  · next h => exact List.find?_cons_of_pos (decide_eq_true h)
  · next h => exact List.find?_cons_of_neg (by simpa using h)

/-! ## The walk -/

/-- The rest of a walk, with what was kept so far. -/
theorem search_eq (kept : Option Entry) (d : Directory) : search ce site kept d =
    (((d.named? ce site).or (kept.or (d.spanning? site))).map (·.requirements)).getD {} := by
  induction d generalizing kept with
  | nil => simp [search, named?, spanning?]
  | cons e rest ih =>
    rw [search, named?_cons, spanning?_cons]
    by_cases hsite : e.site = site
    · rw [if_pos hsite]
      cases hce : e.ce with
      | none =>
        have hspans : e.Spans site := ⟨hsite, hce⟩
        rw [if_neg hspans.not_names, if_pos hspans]
        dsimp only
        rw [ih, Option.or_assoc, Option.some_or]
      | some name =>
        have hone : ¬ e.Spans site := fun hspans => nomatch hce.symm.trans hspans.2
        rw [if_neg hone]
        dsimp only
        by_cases hname : name = ce
        · have hnames : e.Names ce site := ⟨hsite, hname ▸ hce⟩
          rw [if_pos hname, if_pos hnames, Option.some_or]
          rfl
        · have hother : ¬ e.Names ce site := fun hnames =>
            hname (Option.some.inj (hce.symm.trans hnames.2))
          rw [if_neg hname, if_neg hother, ih]
    · have hother : ¬ e.Names ce site := fun hnames => hsite hnames.1
      have hone : ¬ e.Spans site := fun hspans => hsite hspans.1
      rw [if_neg hsite, if_neg hother, if_neg hone, ih]

theorem lookup_eq : d.lookup ce site =
    (((d.named? ce site).or (d.spanning? site)).map (·.requirements)).getD {} := by
  rw [lookup, search_eq, Option.none_or]

theorem lookup_congr (hnamed : d.named? ce site = d'.named? ce site)
    (hspanning : d.spanning? site = d'.spanning? site) : d.lookup ce site = d'.lookup ce site := by
  rw [lookup_eq, lookup_eq, hnamed, hspanning]

/-! ## What counts -/

/-- What the entries of a directory require at an element, said without a
walk through them. -/
inductive Decides (d : Directory) (ce site : String) : Requirements → Prop
  | named {before e after} : d = before ++ e :: after → e.Names ce site →
      (∀ b ∈ before, ¬ b.Names ce site) → Decides d ce site e.requirements
  | spanning {before e after} : (∀ b ∈ d, ¬ b.Names ce site) → d = before ++ e :: after →
      e.Spans site → (∀ b ∈ before, ¬ b.Spans site) → Decides d ce site e.requirements
  | nothing : (∀ b ∈ d, ¬ b.Names ce site) → (∀ b ∈ d, ¬ b.Spans site) → Decides d ce site {}

theorem named?_eq_none : d.named? ce site = none ↔ ∀ b ∈ d, ¬ b.Names ce site := by
  simp [named?]

theorem named?_eq_some {e : Entry} : d.named? ce site = some e ↔
    e.Names ce site ∧ ∃ before after, d = before ++ e :: after ∧
      ∀ b ∈ before, ¬ b.Names ce site := by
  simp [named?, List.find?_eq_some_iff_append]

theorem spanning?_eq_none : d.spanning? site = none ↔ ∀ b ∈ d, ¬ b.Spans site := by
  simp [spanning?]

theorem spanning?_eq_some {e : Entry} : d.spanning? site = some e ↔
    e.Spans site ∧ ∃ before after, d = before ++ e :: after ∧ ∀ b ∈ before, ¬ b.Spans site := by
  simp [spanning?, List.find?_eq_some_iff_append]

theorem decides_lookup (d : Directory) (ce site : String) :
    d.Decides ce site (d.lookup ce site) := by
  rw [lookup_eq]
  cases hnamed : d.named? ce site with
  | some e =>
    obtain ⟨he, before, after, hd, hfirst⟩ := named?_eq_some.mp hnamed
    exact .named hd he hfirst
  | none =>
    have hnone := named?_eq_none.mp hnamed
    cases hspanning : d.spanning? site with
    | some e =>
      obtain ⟨he, before, after, hd, hfirst⟩ := spanning?_eq_some.mp hspanning
      exact .spanning hnone hd he hfirst
    | none => exact .nothing hnone (spanning?_eq_none.mp hspanning)

theorem Decides.eq_lookup (h : d.Decides ce site r) : r = d.lookup ce site := by
  rw [lookup_eq]
  cases h with
  | @named before e after hd he hfirst =>
    rw [named?_eq_some.mpr ⟨he, before, after, hd, hfirst⟩]
    rfl
  | @spanning before e after hnone hd he hfirst =>
    rw [named?_eq_none.mpr hnone, spanning?_eq_some.mpr ⟨he, before, after, hd, hfirst⟩]
    rfl
  | nothing hnone hnone' =>
    rw [named?_eq_none.mpr hnone, spanning?_eq_none.mpr hnone']
    rfl

/-! ## What does not matter -/

/-- The entries that a look-up is about. -/
def concerning (d : Directory) (ce site : String) : Directory :=
  d.filter fun e => e.Names ce site ∨ e.Spans site

theorem named?_concerning : (d.concerning ce site).named? ce site = d.named? ce site := by
  rw [named?, concerning, List.find?_filter]
  refine congrArg (List.find? · d) (funext fun e => ?_)
  by_cases h : e.Names ce site <;> simp [h]

theorem spanning?_concerning (ce : String) :
    (d.concerning ce site).spanning? site = d.spanning? site := by
  rw [spanning?, concerning, List.find?_filter]
  refine congrArg (List.find? · d) (funext fun e => ?_)
  by_cases h : e.Spans site <;> simp [h]

theorem lookup_of_concerning (h : d.concerning ce site = d'.concerning ce site) :
    d.lookup ce site = d'.lookup ce site := by
  refine lookup_congr ?_ ?_
  · rw [← named?_concerning, h, named?_concerning]
  · rw [← spanning?_concerning ce, h, spanning?_concerning ce]

/-- An entry for all of a site was moved past its neighbour, which names an
element of some site. -/
inductive Passes : Directory → Directory → Prop
  | mk {before after : List Entry} {e f : Entry} : e.ce = none → f.ce ≠ none →
      Passes (before ++ e :: f :: after) (before ++ f :: e :: after)

/-- A search that skips one of two neighbours finds the same when they
change places. -/
theorem find?_swap {p : Entry → Bool} {before after : List Entry} {e f : Entry}
    (h : p e = false ∨ p f = false) :
    (before ++ e :: f :: after).find? p = (before ++ f :: e :: after).find? p := by
  rw [List.find?_append, List.find?_append]
  rcases h with h | h
  · simp only [List.find?_cons, h]
  · simp only [List.find?_cons, h]

theorem Passes.lookup_eq (h : Passes d d') (ce site : String) :
    d.lookup ce site = d'.lookup ce site := by
  obtain ⟨he, hf⟩ := h
  exact lookup_congr (find?_swap (.inl (by simp [Entry.Names, he])))
    (find?_swap (.inr (by simp [Entry.Spans, hf])))

/-- What an element of a site requires is decided by the first entry that
names the element, or else by the first one for all of the site, or else
there is nothing; so by no other entry, and not by where the entries for
all of a site stand among those that name an element. -/
theorem named_entry_goes_before_spanning_one :
    (∀ (d : Directory) ce site r, d.Decides ce site r ↔ r = d.lookup ce site) ∧
      (∀ (d d' : Directory) ce site, d.concerning ce site = d'.concerning ce site →
        d.lookup ce site = d'.lookup ce site) ∧
      ∀ d d' : Directory, Relation.EqvGen Passes d d' →
        ∀ ce site, d.lookup ce site = d'.lookup ce site := by
  refine ⟨fun d ce site r => ⟨Decides.eq_lookup, ?_⟩, fun d d' ce site => lookup_of_concerning, ?_⟩
  · rintro rfl
    exact decides_lookup d ce site
  · intro d d' h ce site
    induction h with
    | rel _ _ hpass => exact hpass.lookup_eq ce site
    | refl => rfl
    | symm _ _ _ ih => exact ih.symm
    | trans _ _ _ _ _ ih ih' => exact ih.trans ih'

/-- The entry for the whole site stands before that of its element, and is
moved behind it. -/
theorem named_entry_goes_before_spanning_one_of_moved_entry :
    let all : Entry := ⟨"CERN", none, { partition := some "cpu" }⟩
    let gpu : Entry := ⟨"CERN", some "GPU", { partition := some "gpu" }⟩
    Relation.EqvGen Passes [all, gpu] [gpu, all] ∧
      Decides [all, gpu] "GPU" "CERN" gpu.requirements ∧
      lookup [all, gpu] "GPU" "CERN" = gpu.requirements ∧
      lookup [gpu, all] "GPU" "CERN" = gpu.requirements ∧
      concerning [all, gpu] "LCG" "CERN" = concerning [all] "LCG" "CERN" ∧
      lookup [all, gpu] "LCG" "CERN" = lookup [all] "LCG" "CERN" := by
  intro all gpu
  obtain ⟨hdecides, hconcerning, hmoved⟩ := named_entry_goes_before_spanning_one
  have hpass : Relation.EqvGen Passes [all, gpu] [gpu, all] :=
    .rel _ _ (@Passes.mk [] [] all gpu rfl (Option.some_ne_none "GPU"))
  have hfirst : Decides [all, gpu] "GPU" "CERN" gpu.requirements :=
    @Decides.named _ _ _ [all] gpu [] rfl ⟨rfl, rfl⟩ (by decide)
  have hlookup := (hdecides _ _ _ _).mp hfirst
  have hsame : concerning [all, gpu] "LCG" "CERN" = concerning [all] "LCG" "CERN" := by decide
  exact ⟨hpass, hfirst, hlookup.symm, (hmoved _ _ hpass _ _).symm.trans hlookup.symm, hsame,
    hconcerning _ _ _ _ hsame⟩

end Directory

end GridQueue.Site
