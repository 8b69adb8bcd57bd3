import Mathlib.Data.List.Nodup
import Mathlib.Data.List.Perm.Basic
import Mathlib.Order.Lattice

/-!
# Maps as ascending association lists

A finite map is the list of its entries with strictly ascending keys.
Insertion replaces the value of a key that is already present.  Inserting the
entries of a list one after another sorts a list with distinct keys and keeps
a list that is ascending already.
-/

namespace WhatsGoingOn

instance instLinearOrderUInt64 : LinearOrder UInt64 where
  le_refl := UInt64.le_refl
  le_trans _ _ _ := UInt64.le_trans
  le_antisymm _ _ := UInt64.le_antisymm
  le_total := UInt64.le_total
  lt_iff_le_not_ge left right := by
    simp only [UInt64.lt_iff_toNat_lt, UInt64.le_iff_toNat_le]
    omega
  toDecidableLE := inferInstance
  toDecidableEq := inferInstance
  toDecidableLT := inferInstance
  min_def _ _ := rfl
  max_def _ _ := rfl

namespace SortedMap

variable {κ α β : Type}

/-- Keys of an association list, in order. -/
def keys (entries : List (κ × α)) : List κ :=
  entries.map Prod.fst

@[simp] theorem keys_nil : keys ([] : List (κ × α)) = [] := rfl

@[simp] theorem keys_cons (entry : κ × α) (rest : List (κ × α)) :
    keys (entry :: rest) = entry.1 :: keys rest := rfl

@[simp] theorem keys_append (left right : List (κ × α)) :
    keys (left ++ right) = keys left ++ keys right :=
  List.map_append

@[simp] theorem keys_map (transform : α → β) (map : List (κ × α)) :
    keys (map.map fun entry => (entry.1, transform entry.2)) =
      keys map := by
  simp [keys, Function.comp_def]

variable [LinearOrder κ]

/-- The first entry with the key decides a lookup. -/
theorem lookup_cons_eq (key : κ) (entry : κ × α) (rest : List (κ × α)) :
    (entry :: rest).lookup key =
      if key = entry.1 then some entry.2 else rest.lookup key := by
  rw [List.lookup_cons]
  by_cases same : key = entry.1
  · rw [beq_iff_eq.mpr same, if_pos same]
  · rw [beq_eq_false_iff_ne.mpr same, if_neg same]

/-- Strictly ascending keys. -/
def Ascending (entries : List (κ × α)) : Prop :=
  entries.Pairwise fun left right => left.1 < right.1

instance (entries : List (κ × α)) : Decidable (Ascending entries) :=
  inferInstanceAs (Decidable (entries.Pairwise _))

/-- Add an entry, replacing the value of a key that is already present. -/
def insert (key : κ) (value : α) : List (κ × α) → List (κ × α)
  | [] => [(key, value)]
  | entry :: rest =>
      if key < entry.1 then (key, value) :: entry :: rest
      else if key = entry.1 then (key, value) :: rest
      else entry :: insert key value rest

@[simp] theorem insert_nil (key : κ) (value : α) :
    insert key value [] = [(key, value)] := rfl

theorem insert_cons
    (key : κ) (value : α) (entry : κ × α) (rest : List (κ × α)) :
    insert key value (entry :: rest) =
      if key < entry.1 then (key, value) :: entry :: rest
      else if key = entry.1 then (key, value) :: rest
      else entry :: insert key value rest := rfl

/-- Insert every entry of a list, from left to right. -/
def insertAll (entries map : List (κ × α)) : List (κ × α) :=
  entries.foldl (fun map entry => insert entry.1 entry.2 map) map

@[simp] theorem insertAll_nil (map : List (κ × α)) :
    insertAll [] map = map := rfl

@[simp] theorem insertAll_cons
    (entry : κ × α) (rest map : List (κ × α)) :
    insertAll (entry :: rest) map =
      insertAll rest (insert entry.1 entry.2 map) := rfl

/-- An entry of the map is the one inserted or was there before. -/
theorem mem_insert
    {key : κ} {value : α} {entry : κ × α} {map : List (κ × α)}
    (member : entry ∈ insert key value map) :
    entry = (key, value) ∨ entry ∈ map := by
  induction map with
  | nil => simpa using member
  | cons head rest inductionHypothesis =>
      rw [insert_cons] at member
      split at member
      · simpa using member
      · split at member
        · simp only [List.mem_cons] at member ⊢
          tauto
        · simp only [List.mem_cons] at member ⊢
          rcases member with same | inRest
          · exact .inr (.inl same)
          · rcases inductionHypothesis inRest with same | old
            · exact .inl same
            · exact .inr (.inr old)

/-- The keys after an insertion are the old keys and the new one. -/
theorem mem_keys_insert
    {key other : κ} {value : α} {map : List (κ × α)} :
    other ∈ keys (insert key value map) ↔
      other = key ∨ other ∈ keys map := by
  induction map with
  | nil => simp
  | cons head rest inductionHypothesis =>
      rw [insert_cons]
      split
      · simp
      · split
        · rename_i same
          simp [same]
        · rw [keys_cons, List.mem_cons, inductionHypothesis, keys_cons,
            List.mem_cons]
          tauto

/-- The entries list distinct keys, none of which the map has. -/
def Fresh (entries : List (κ × α)) (map : List (κ × β)) : Prop :=
  (keys entries).Nodup ∧ ∀ key ∈ keys entries, key ∉ keys map

omit [LinearOrder κ] in
theorem fresh_empty (entries : List (κ × α)) :
    Fresh entries ([] : List (κ × β)) ↔ (keys entries).Nodup := by
  simp [Fresh]

/-- A first entry is new, and the others stay new once it is inserted. -/
theorem fresh_cons
    (entry : κ × α) (rest : List (κ × α))
    (value : β) (map : List (κ × β)) :
    Fresh (entry :: rest) map ↔
      entry.1 ∉ keys map ∧ Fresh rest (insert entry.1 value map) := by
  simp only [Fresh, keys_cons, List.nodup_cons, List.forall_mem_cons,
    mem_keys_insert, not_or]
  constructor
  · rintro ⟨⟨notInRest, distinct⟩, absent, disjoint⟩
    refine ⟨absent, distinct, fun key member => ⟨?_, disjoint key member⟩⟩
    rintro rfl
    exact notInRest member
  · rintro ⟨absent, distinct, disjoint⟩
    refine ⟨⟨fun member => ?_, distinct⟩, absent, ?_⟩
    · exact (disjoint entry.1 member).1 rfl
    · exact fun key member => (disjoint key member).2

/-- Insertion keeps the keys ascending. -/
theorem ascending_insert
    (key : κ) (value : α) {map : List (κ × α)}
    (ascending : Ascending map) :
    Ascending (insert key value map) := by
  induction map with
  | nil => simp [Ascending]
  | cons head rest inductionHypothesis =>
      obtain ⟨below, restAscending⟩ := List.pairwise_cons.mp ascending
      rw [insert_cons]
      split
      · rename_i keyBelow
        refine List.pairwise_cons.mpr ⟨?_, ascending⟩
        intro entry member
        rcases List.mem_cons.mp member with rfl | inRest
        · exact keyBelow
        · exact lt_trans keyBelow (below entry inRest)
      · split
        · rename_i notBelow same
          exact List.pairwise_cons.mpr
            ⟨by simpa [same] using below, restAscending⟩
        · rename_i notBelow different
          refine List.pairwise_cons.mpr
            ⟨?_, inductionHypothesis restAscending⟩
          intro entry member
          rcases mem_insert member with rfl | inRest
          · exact lt_of_le_of_ne (not_lt.mp notBelow) (Ne.symm different)
          · exact below entry inRest

/-- An inserted key is found, and every other key keeps its value. -/
theorem lookup_insert
    (key other : κ) (value : α) (map : List (κ × α)) :
    (insert key value map).lookup other =
      if other = key then some value else map.lookup other := by
  induction map with
  | nil => rw [insert_nil, lookup_cons_eq]
  | cons head rest inductionHypothesis =>
      rw [insert_cons]
      split
      · rw [lookup_cons_eq]
      · split
        · rename_i notBelow equal
          rw [lookup_cons_eq, lookup_cons_eq, ← equal]
          by_cases same : other = key <;> simp [same]
        · rename_i notBelow different
          rw [lookup_cons_eq, inductionHypothesis, lookup_cons_eq]
          by_cases atHead : other = head.1
          · have notKey : ¬ head.1 = key := Ne.symm different
            simp [atHead, notKey]
          · simp [atHead]

/-- Inserting a new key only adds its entry. -/
theorem perm_insert
    {key : κ} (value : α) {map : List (κ × α)}
    (absent : key ∉ keys map) :
    (insert key value map).Perm ((key, value) :: map) := by
  induction map with
  | nil => exact List.Perm.refl _
  | cons head rest inductionHypothesis =>
      simp only [keys_cons, List.mem_cons, not_or] at absent
      rw [insert_cons]
      split
      · exact List.Perm.refl _
      · rw [if_neg absent.1]
        exact ((inductionHypothesis absent.2).cons head).trans
          (List.Perm.swap (key, value) head rest)

theorem length_insert_le (key : κ) (value : α) (map : List (κ × α)) :
    (insert key value map).length ≤ map.length + 1 := by
  induction map with
  | nil => exact Nat.le_refl _
  | cons head rest inductionHypothesis =>
      rw [insert_cons]
      split
      · exact Nat.le_refl _
      · split
        · exact Nat.le_succ _
        · exact Nat.succ_le_succ inductionHypothesis

/-- Inserting a key above all others appends its entry. -/
theorem insert_of_above
    {key : κ} (value : α) {map : List (κ × α)}
    (above : ∀ entry ∈ map, entry.1 < key) :
    insert key value map = map ++ [(key, value)] := by
  induction map with
  | nil => rfl
  | cons head rest inductionHypothesis =>
      have headBelow := above head List.mem_cons_self
      have restAbove := fun entry member =>
        above entry (List.mem_cons_of_mem head member)
      rw [insert_cons, if_neg (not_lt.mpr (le_of_lt headBelow)),
        if_neg (ne_of_gt headBelow), inductionHypothesis restAbove]
      rfl

theorem ascending_insertAll
    (entries : List (κ × α)) {map : List (κ × α)}
    (ascending : Ascending map) :
    Ascending (insertAll entries map) := by
  induction entries generalizing map with
  | nil => exact ascending
  | cons head rest inductionHypothesis =>
      exact inductionHypothesis (ascending_insert head.1 head.2 ascending)

/-- Inserting entries with distinct new keys only adds them. -/
theorem perm_insertAll
    {entries map : List (κ × α)}
    (fresh : Fresh entries map) :
    (insertAll entries map).Perm (entries ++ map) := by
  induction entries generalizing map with
  | nil => exact List.Perm.refl _
  | cons head rest inductionHypothesis =>
      obtain ⟨headAbsent, restFresh⟩ :=
        (fresh_cons head rest head.2 map).mp fresh
      calc
        insertAll (head :: rest) map
            = insertAll rest (insert head.1 head.2 map) := rfl
        (insertAll rest (insert head.1 head.2 map)).Perm
            (rest ++ insert head.1 head.2 map) :=
          inductionHypothesis restFresh
        (rest ++ insert head.1 head.2 map).Perm (rest ++ head :: map) :=
          List.Perm.append_left rest (perm_insert head.2 headAbsent)
        (rest ++ head :: map).Perm (head :: (rest ++ map)) :=
          List.perm_middle

/-- Sorting entries with distinct keys permutes them. -/
theorem perm_sort
    {entries : List (κ × α)}
    (distinct : (keys entries).Nodup) :
    (insertAll entries []).Perm entries := by
  have permutation : (insertAll entries []).Perm (entries ++ []) :=
    perm_insertAll ((fresh_empty entries).mpr distinct)
  rwa [List.append_nil] at permutation

/-- Inserting ascending entries above all present keys appends them. -/
theorem insertAll_of_above
    {entries map : List (κ × α)}
    (ascending : Ascending entries)
    (above : ∀ entry ∈ entries, ∀ present ∈ map, present.1 < entry.1) :
    insertAll entries map = map ++ entries := by
  induction entries generalizing map with
  | nil => simp
  | cons head rest inductionHypothesis =>
      obtain ⟨below, restAscending⟩ := List.pairwise_cons.mp ascending
      have headAbove := above head List.mem_cons_self
      have restAbove : ∀ entry ∈ rest,
          ∀ present ∈ map ++ [(head.1, head.2)], present.1 < entry.1 := by
        intro entry inRest present inMap
        rcases List.mem_append.mp inMap with old | new
        · exact above entry (List.mem_cons_of_mem head inRest) present old
        · rw [List.mem_singleton.mp new]
          exact below entry inRest
      rw [insertAll_cons, insert_of_above head.2 headAbove,
        inductionHypothesis restAscending restAbove, List.append_assoc]
      rfl

/-- Sorting an ascending list changes nothing. -/
theorem insertAll_of_ascending
    {entries : List (κ × α)}
    (ascending : Ascending entries) :
    insertAll entries [] = entries := by
  rw [insertAll_of_above ascending (by simp), List.nil_append]

/-- Distinct keys: an ascending list repeats no key. -/
theorem Ascending.nodup {entries : List (κ × α)}
    (ascending : Ascending entries) : (keys entries).Nodup := by
  rw [keys, List.Nodup, List.pairwise_map]
  exact ascending.imp fun below => ne_of_lt below

/-- Lookups do not depend on the order of entries with distinct keys. -/
theorem lookup_of_perm
    {left right : List (κ × α)}
    (perm : left.Perm right)
    (distinct : (keys left).Nodup)
    (key : κ) :
    left.lookup key = right.lookup key := by
  induction perm with
  | nil => rfl
  | cons entry _ inductionHypothesis =>
      rw [keys_cons, List.nodup_cons] at distinct
      rw [lookup_cons_eq, lookup_cons_eq, inductionHypothesis distinct.2]
  | swap first second rest =>
      simp only [keys_cons, List.nodup_cons, List.mem_cons, not_or]
        at distinct
      rw [lookup_cons_eq, lookup_cons_eq, lookup_cons_eq, lookup_cons_eq]
      by_cases atFirst : key = first.1
      · have notSecond : ¬ first.1 = second.1 := Ne.symm distinct.1.1
        simp [atFirst, notSecond]
      · simp [atFirst]
  | trans firstPerm _ firstHypothesis secondHypothesis =>
      have middleDistinct :=
        (firstPerm.map Prod.fst).nodup_iff.mp distinct
      rw [firstHypothesis distinct, secondHypothesis middleDistinct]

/-- A key is found exactly when some entry carries it. -/
theorem lookup_isSome_iff (key : κ) (map : List (κ × α)) :
    (map.lookup key).isSome ↔ key ∈ keys map := by
  rw [List.lookup_isSome_iff, keys, List.mem_map]
  constructor
  · rintro ⟨entry, member, same⟩
    exact ⟨entry, member, (beq_iff_eq.mp same).symm⟩
  · rintro ⟨entry, member, same⟩
    exact ⟨entry, member, beq_iff_eq.mpr same.symm⟩

/-- A lookup returns the value of some entry. -/
theorem mem_of_lookup
    {key : κ} {value : α} {map : List (κ × α)}
    (found : map.lookup key = some value) : (key, value) ∈ map := by
  obtain ⟨front, back, rfl, _⟩ := List.lookup_eq_some_iff.mp found
  simp

/-- With distinct keys, every entry is found. -/
theorem lookup_of_mem
    {key : κ} {value : α} {map : List (κ × α)}
    (distinct : (keys map).Nodup)
    (member : (key, value) ∈ map) : map.lookup key = some value := by
  induction map with
  | nil => cases member
  | cons head rest inductionHypothesis =>
      rw [keys_cons, List.nodup_cons] at distinct
      rw [lookup_cons_eq]
      rcases List.mem_cons.mp member with atHead | inRest
      · simp [← atHead]
      · have notHead : ¬ key = head.1 := by
          intro same
          exact distinct.1
            (same ▸ List.mem_map_of_mem (f := Prod.fst) inRest)
        simp [notHead, inductionHypothesis distinct.2 inRest]

/-- Taking a key out leaves the others. -/
theorem lookup_filter_ne (key other : κ) (map : List (κ × α)) :
    (map.filter fun entry => entry.1 != key).lookup other =
      if other = key then none else map.lookup other := by
  induction map with
  | nil => simp
  | cons head rest inductionHypothesis =>
      rw [List.filter_cons, lookup_cons_eq]
      by_cases gone : head.1 = key
      · rw [if_neg (by simp [gone]), inductionHypothesis, gone]
        by_cases same : other = key <;> simp [same]
      · rw [if_pos (by simpa using gone), lookup_cons_eq,
          inductionHypothesis]
        by_cases same : other = head.1
        · simp [same, gone]
        · simp [same]

/-- Lookups commute with a map over the values. -/
theorem lookup_map
    (transform : α → β) (key : κ) (map : List (κ × α)) :
    (map.map fun entry => (entry.1, transform entry.2)).lookup key =
      (map.lookup key).map transform := by
  induction map with
  | nil => rfl
  | cons head rest inductionHypothesis =>
      rw [List.map_cons, lookup_cons_eq, lookup_cons_eq,
        inductionHypothesis]
      split <;> rfl

theorem ascending_map
    (transform : α → β) {map : List (κ × α)}
    (ascending : Ascending map) :
    Ascending (map.map fun entry => (entry.1, transform entry.2)) := by
  rw [Ascending, List.pairwise_map]
  exact ascending

end SortedMap
end WhatsGoingOn
