import Mathlib.Data.List.Nodup
import Mathlib.Data.List.Perm.Basic

/-!
# Rows under keys

A table is a list of rows with distinct keys, in whatever order.  A patch takes
the rows of some keys away and puts others in, and the difference of two tables
is a patch that makes the second of the first.
-/

namespace WhatsGoingOn
namespace KeyedRows

variable {κ ρ : Type} {key : ρ → κ}

/-- No two rows have the same key. -/
def Distinct (key : ρ → κ) (rows : List ρ) : Prop :=
  (rows.map key).Nodup

theorem Distinct.filter {rows : List ρ} (distinct : Distinct key rows)
    (keep : ρ → Bool) : Distinct key (rows.filter keep) :=
  List.Nodup.sublist (List.filter_sublist.map _) distinct

theorem Distinct.perm {rows others : List ρ}
    (distinct : Distinct key rows) (perm : rows.Perm others) :
    Distinct key others :=
  (perm.map key).nodup distinct

variable [DecidableEq κ]

instance (rows : List ρ) : Decidable (Distinct key rows) :=
  inferInstanceAs (Decidable (rows.map key).Nodup)

/-- The row that a table has under a key. -/
def rowAt (key : ρ → κ) (rows : List ρ) (place : κ) : Option ρ :=
  rows.find? fun row => key row = place

@[simp] theorem rowAt_nil (place : κ) : rowAt key [] place = none := rfl

theorem rowAt_cons (row : ρ) (rows : List ρ) (place : κ) :
    rowAt key (row :: rows) place =
      if key row = place then some row else rowAt key rows place := by
  unfold rowAt
  by_cases same : key row = place <;> simp [same]

theorem rowAt_append (rows more : List ρ) (place : κ) :
    rowAt key (rows ++ more) place =
      (rowAt key rows place).or (rowAt key more place) :=
  List.find?_append

/-- A row is found under its key. -/
theorem key_of_rowAt {rows : List ρ} {place : κ} {row : ρ}
    (found : rowAt key rows place = some row) : key row = place := by
  simpa using List.find?_some found

theorem mem_of_rowAt {rows : List ρ} {place : κ} {row : ρ}
    (found : rowAt key rows place = some row) : row ∈ rows :=
  List.mem_of_find?_eq_some found

theorem rowAt_eq_none {rows : List ρ} {place : κ} :
    rowAt key rows place = none ↔ ∀ row ∈ rows, key row ≠ place := by
  simp [rowAt]

/-- The rows that a condition on keys lets through. -/
theorem rowAt_filter (rows : List ρ) (keep : κ → Bool) (place : κ) :
    rowAt key (rows.filter fun row => keep (key row)) place =
      if keep place then rowAt key rows place else none := by
  induction rows with
  | nil => simp
  | cons row rows inductionHypothesis =>
      rw [List.filter_cons, rowAt_cons]
      split
      · rename_i kept
        rw [rowAt_cons, inductionHypothesis]
        by_cases same : key row = place
        · simp [← same, kept]
        · simp [same]
      · rename_i dropped
        rw [inductionHypothesis]
        by_cases same : key row = place
        · simp [← same, dropped]
        · simp [same]

/-- A row of a table is what the table has under its key. -/
theorem mem_iff_rowAt {rows : List ρ} (distinct : Distinct key rows)
    {row : ρ} : row ∈ rows ↔ rowAt key rows (key row) = some row := by
  constructor
  · intro member
    induction rows with
    | nil => cases member
    | cons first rows inductionHypothesis =>
        obtain ⟨new, distinct⟩ := List.nodup_cons.mp distinct
        rw [rowAt_cons]
        rcases List.mem_cons.mp member with rfl | later
        · rw [if_pos rfl]
        · have apart : key first ≠ key row := by
            intro same
            exact new (same ▸ List.mem_map_of_mem later)
          rw [if_neg apart]
          exact inductionHypothesis distinct later
  · exact mem_of_rowAt

theorem rowAt_of_mem {rows : List ρ} (distinct : Distinct key rows)
    {row : ρ} (member : row ∈ rows) :
    rowAt key rows (key row) = some row :=
  (mem_iff_rowAt distinct).mp member

/-- Two tables are the same, in some order, when they have the same under every
key. -/
theorem perm_iff_rowAt {rows others : List ρ}
    (distinct : Distinct key rows) (apart : Distinct key others) :
    rows.Perm others ↔ rowAt key rows = rowAt key others := by
  constructor
  · intro perm
    funext place
    cases found : rowAt key others place with
    | none =>
        rw [rowAt_eq_none] at found ⊢
        exact fun row member => found row (perm.mem_iff.mp member)
    | some row =>
        have member := perm.mem_iff.mpr (mem_of_rowAt found)
        rw [← key_of_rowAt found]
        exact rowAt_of_mem distinct member
  · intro same
    rw [List.perm_ext_iff_of_nodup distinct.of_map apart.of_map]
    intro row
    rw [mem_iff_rowAt distinct, mem_iff_rowAt apart, same]

/-! ## Rows that come to a table -/

/-- Put a row in the place of the one with its key, or at the end. -/
def upsert (key : ρ → κ) (rows : List ρ) (row : ρ) : List ρ :=
  match rows.findIdx? fun current => key current = key row with
  | some index => rows.set index row
  | none => rows ++ [row]

/-- The first row with the key gives way to the new one. -/
theorem upsert_cons (first row : ρ) (rows : List ρ) :
    upsert key (first :: rows) row =
      if key first = key row then row :: rows
      else first :: upsert key rows row := by
  unfold upsert
  by_cases same : key first = key row
  · simp [List.findIdx?_cons, same]
  · simp only [List.findIdx?_cons, same, decide_false, Bool.false_eq_true,
      if_false]
    cases List.findIdx? (fun current => decide (key current = key row)) rows
    · rfl
    · rfl

/-- After a row is put in place it is found under its key. -/
theorem rowAt_upsert (rows : List ρ) (row : ρ) (place : κ) :
    rowAt key (upsert key rows row) place =
      if key row = place then some row else rowAt key rows place := by
  induction rows with
  | nil =>
      change rowAt key [row] place = _
      rw [rowAt_cons]
  | cons first rows inductionHypothesis =>
      rw [upsert_cons]
      split
      · rename_i same
        rw [rowAt_cons, rowAt_cons, same]
        split <;> rfl
      · rename_i apart
        rw [rowAt_cons, rowAt_cons, inductionHypothesis]
        by_cases here : key first = place
        · subst here
          simp [Ne.symm apart]
        · simp [here]

/-- A row that is put in place adds its key, if it is new. -/
theorem keys_upsert (rows : List ρ) (row : ρ) :
    (upsert key rows row).map key =
      if key row ∈ rows.map key then rows.map key
      else rows.map key ++ [key row] := by
  induction rows with
  | nil => simp [upsert]
  | cons first rows inductionHypothesis =>
      rw [upsert_cons]
      by_cases same : key first = key row
      · simp [same]
      · rw [if_neg same, List.map_cons, inductionHypothesis]
        simp only [List.map_cons, List.mem_cons, Ne.symm same, false_or]
        split <;> simp

theorem distinct_upsert {rows : List ρ} (distinct : Distinct key rows)
    (row : ρ) : Distinct key (upsert key rows row) := by
  unfold Distinct
  rw [keys_upsert]
  split
  · exact distinct
  · rename_i new
    exact List.nodup_append.mpr ⟨distinct, List.nodup_singleton _, by
      rintro place inside _ last rfl
      rw [List.mem_singleton] at last
      exact new (last ▸ inside)⟩

/-- Of rows that are put in place each is found under its key. -/
theorem rowAt_upserts {upserts : List ρ} (distinct : Distinct key upserts)
    (rows : List ρ) (place : κ) :
    rowAt key (upserts.foldl (upsert key) rows) place =
      (rowAt key upserts place).or (rowAt key rows place) := by
  induction upserts generalizing rows with
  | nil => rfl
  | cons row upserts inductionHypothesis =>
      obtain ⟨new, distinct⟩ := List.nodup_cons.mp distinct
      rw [List.foldl_cons, inductionHypothesis distinct, rowAt_upsert,
        rowAt_cons]
      by_cases same : key row = place
      · have missing : rowAt key upserts place = none := by
          rw [rowAt_eq_none]
          rintro other member rfl
          exact new (same ▸ List.mem_map_of_mem member)
        simp [same, missing]
      · simp [same]

theorem distinct_upserts {rows : List ρ} (distinct : Distinct key rows)
    (upserts : List ρ) :
    Distinct key (upserts.foldl (upsert key) rows) := by
  induction upserts generalizing rows with
  | nil => exact distinct
  | cons row upserts inductionHypothesis =>
      exact inductionHypothesis (distinct_upsert distinct row)

/-! ## Rows that leave a table -/

theorem rowAt_removes (removes : List κ) (rows : List ρ) (place : κ) :
    rowAt key (removes.foldl (fun rows removed =>
        rows.filter fun row => key row ≠ removed) rows) place =
      if place ∈ removes then none else rowAt key rows place := by
  induction removes generalizing rows with
  | nil => simp
  | cons removed removes inductionHypothesis =>
      rw [List.foldl_cons, inductionHypothesis,
        rowAt_filter rows (fun place => place ≠ removed)]
      by_cases same : place = removed <;> simp [same]

theorem distinct_removes {rows : List ρ} (distinct : Distinct key rows)
    (removes : List κ) :
    Distinct key (removes.foldl (fun rows removed =>
      rows.filter fun row => key row ≠ removed) rows) := by
  induction removes generalizing rows with
  | nil => exact distinct
  | cons removed removes inductionHypothesis =>
      exact inductionHypothesis (distinct.filter _)

/-! ## Patches -/

/-- What a table has under its keys after a patch. -/
def patched (removes : List κ) (upserts : List ρ) (key : ρ → κ)
    (table : κ → Option ρ) : κ → Option ρ := fun place =>
  (rowAt key upserts place).or
    (if place ∈ removes then none else table place)

/-- A way to apply patches to tables.  A patch may write the keys that it takes
away in a way of its own. -/
structure Applies {γ : Type} (key : ρ → κ) (keyOf : γ → κ)
    (apply : List ρ → List γ → List ρ → List ρ) : Prop where
  distinct : ∀ {rows upserts : List ρ} (removes : List γ),
    Distinct key rows → Distinct key upserts →
      Distinct key (apply rows removes upserts)
  rowAt : ∀ {rows upserts : List ρ} (removes : List γ),
    Distinct key rows → Distinct key upserts →
      rowAt key (apply rows removes upserts) =
        patched (removes.map keyOf) upserts key (rowAt key rows)

/-- A table may be put into another order after a patch. -/
theorem Applies.perm {γ : Type} {keyOf : γ → κ}
    {apply sorted : List ρ → List γ → List ρ → List ρ}
    (applies : Applies key keyOf apply)
    (same : ∀ rows removes upserts,
      (sorted rows removes upserts).Perm (apply rows removes upserts)) :
    Applies key keyOf sorted where
  distinct := by
    intro rows upserts removes held distinct
    exact (applies.distinct removes held distinct).perm
      (same rows removes upserts).symm
  rowAt := by
    intro rows upserts removes held distinct
    rw [← applies.rowAt removes held distinct]
    have unique := applies.distinct removes held distinct
    exact (perm_iff_rowAt (unique.perm (same rows removes upserts).symm)
      unique).mp (same rows removes upserts)

/-- Taking rows away and putting others at the end. -/
theorem applies_append {γ : Type} (key : ρ → κ) (keyOf : γ → κ) :
    Applies key keyOf fun rows removes upserts =>
      rows.filter (fun row =>
        !(removes.map keyOf).contains (key row) &&
          !(upserts.map key).contains (key row)) ++ upserts where
  distinct := by
    intro rows upserts removes held distinct
    unfold Distinct
    rw [List.map_append]
    apply List.nodup_append.mpr
    refine ⟨held.filter _, distinct, ?_⟩
    rintro place inside _ last rfl
    obtain ⟨row, kept, rfl⟩ := List.mem_map.mp inside
    have apart := (List.mem_filter.mp kept).2
    simp only [List.contains_eq_mem, Bool.and_eq_true, Bool.not_eq_true',
      decide_eq_false_iff_not] at apart
    exact apart.2 last
  rowAt := by
    intro rows upserts removes held distinct
    funext place
    unfold patched
    rw [rowAt_append, rowAt_filter rows fun place =>
      !(removes.map keyOf).contains place && !(upserts.map key).contains place]
    cases sent : KeyedRows.rowAt key upserts place with
    | some row =>
        have inside : place ∈ upserts.map key := by
          rw [← key_of_rowAt sent]
          exact List.mem_map_of_mem (mem_of_rowAt sent)
        simp [inside]
    | none =>
        have outside : place ∉ upserts.map key := by
          intro inside
          obtain ⟨row, member, same⟩ := List.mem_map.mp inside
          exact rowAt_eq_none.mp sent row member same
        by_cases removed : place ∈ removes.map keyOf <;>
          simp [outside, removed]

/-- Taking rows away and putting others in, in the places of rows with their
keys. -/
theorem applies_upserts {γ : Type} (key : ρ → κ) (keyOf : γ → κ) :
    Applies key keyOf fun rows removes upserts =>
      upserts.foldl (upsert key)
        (rows.filter fun row => !(removes.map keyOf).contains (key row)) where
  distinct := by
    intro rows upserts removes held _
    exact distinct_upserts (held.filter _) upserts
  rowAt := by
    intro rows upserts removes _ distinct
    funext place
    rw [rowAt_upserts distinct, rowAt_filter rows fun place =>
      !(removes.map keyOf).contains place]
    unfold patched
    by_cases removed : place ∈ removes.map keyOf <;> simp [removed]

/-- A patch is the difference of two tables. -/
structure Exact (key : ρ → κ) (previous next : List ρ)
    (removes : List κ) (upserts : List ρ) : Prop where
  distinct : Distinct key upserts
  removes : ∀ {place : κ}, place ∈ removes ↔
    rowAt key previous place ≠ none ∧ rowAt key next place = none
  upserts : ∀ {place : κ} {row : ρ}, rowAt key upserts place = some row ↔
    rowAt key next place = some row ∧ rowAt key previous place ≠ some row

namespace Exact

variable {previous next upserts : List ρ} {removes : List κ}

/-- The difference of two tables makes the second of the first. -/
theorem patched_eq (exact : Exact key previous next removes upserts) :
    patched removes upserts key (rowAt key previous) = rowAt key next := by
  funext place
  unfold patched
  cases sent : rowAt key upserts place with
  | some row =>
      rw [Option.some_or]
      exact (exact.upserts.mp sent).1.symm
  | none =>
      have unchanged {row : ρ} (there : rowAt key next place = some row) :
          rowAt key previous place = some row := by
        by_contra changed
        rw [exact.upserts.mpr ⟨there, changed⟩] at sent
        cases sent
      rw [Option.none_or]
      split
      · rename_i removed
        exact (exact.removes.mp removed).2.symm
      · rename_i kept
        cases there : rowAt key next place with
        | some row => exact unchanged there
        | none =>
            by_contra old
            exact kept (exact.removes.mpr ⟨old, there⟩)

/-- What it takes away it does not put in. -/
theorem disjoint (exact : Exact key previous next removes upserts)
    {row : ρ} (sent : row ∈ upserts) : key row ∉ removes := by
  intro removed
  have gone := (exact.removes.mp removed).2
  rw [(exact.upserts.mp (rowAt_of_mem exact.distinct sent)).1] at gone
  cases gone

/-- There is nothing to it where the tables are the same. -/
theorem empty_iff (exact : Exact key previous next removes upserts) :
    (removes = [] ∧ upserts = []) ↔ rowAt key previous = rowAt key next := by
  constructor
  · rintro ⟨rfl, rfl⟩
    rw [← exact.patched_eq]
    funext place
    simp [patched]
  · intro same
    constructor
    · rw [List.eq_nil_iff_forall_not_mem]
      intro place removed
      obtain ⟨old, gone⟩ := exact.removes.mp removed
      rw [same] at old
      exact old gone
    · rw [List.eq_nil_iff_forall_not_mem]
      intro row sent
      obtain ⟨there, changed⟩ :=
        exact.upserts.mp (rowAt_of_mem exact.distinct sent)
      rw [same] at changed
      exact changed there

end Exact

/-- Applying the difference of two tables to the first gives the second. -/
theorem Applies.exact
    {γ : Type} {keyOf : γ → κ}
    {apply : List ρ → List γ → List ρ → List ρ}
    {rows previous next upserts : List ρ} {removes : List γ}
    (applies : Applies key keyOf apply)
    (exact : Exact key previous next (removes.map keyOf) upserts)
    (held : Distinct key previous) (distinct : Distinct key next)
    (same : rows.Perm previous) :
    (apply rows removes upserts).Perm next := by
  have unique := held.perm same.symm
  rw [perm_iff_rowAt (applies.distinct removes unique exact.distinct) distinct,
    applies.rowAt removes unique exact.distinct,
    (perm_iff_rowAt unique held).mp same, exact.patched_eq]

end KeyedRows
end WhatsGoingOn
