import Mathlib.Data.List.Basic
import Mathlib.Logic.Function.Basic

/-!
# Change logs

A table is a partial function of its keys.  A change gives a key a value, or
takes its value away, and a log of changes is replayed from the first to the
last.  For each key the last change of it decides.
-/

namespace WhatsGoingOn
namespace ChangeLog

variable {κ ν : Type*}

/-- What a key has after a change. -/
structure Change (κ ν : Type*) where
  key : κ
  value : Option ν
  deriving DecidableEq, Repr

/-- No key gets a value after a change that took its value away. -/
def RemovesForGood (log : List (Change κ ν)) : Prop :=
  log.Pairwise fun earlier later =>
    earlier.key = later.key → earlier.value = none → later.value = none

theorem removesForGood_concat {log : List (Change κ ν)}
    {change : Change κ ν} :
    RemovesForGood (log ++ [change]) ↔
      RemovesForGood log ∧ ∀ earlier ∈ log,
        earlier.key = change.key → earlier.value = none →
          change.value = none := by
  unfold RemovesForGood
  rw [List.pairwise_append]
  simp

variable [DecidableEq κ]

instance [DecidableEq ν] (log : List (Change κ ν)) :
    Decidable (RemovesForGood log) :=
  inferInstanceAs (Decidable (log.Pairwise fun earlier later =>
    earlier.key = later.key → earlier.value = none → later.value = none))

/-- A table after a change. -/
def Change.apply (table : κ → Option ν) (change : Change κ ν) :
    κ → Option ν :=
  Function.update table change.key change.value

/-- A table after a log of changes. -/
def replay (table : κ → Option ν) (log : List (Change κ ν)) :
    κ → Option ν :=
  log.foldl Change.apply table

/-- What the last change of a key says, if there is one. -/
def latest (key : κ) : List (Change κ ν) → Option (Option ν)
  | [] => none
  | change :: log =>
      (latest key log).or (if change.key = key then some change.value else none)

section Replay

variable {table : κ → Option ν} {log : List (Change κ ν)} {key : κ}

/-- The last change of a key decides, and without one the table does. -/
theorem replay_apply (table : κ → Option ν) (log : List (Change κ ν))
    (key : κ) :
    replay table log key = (latest key log).getD (table key) := by
  induction log generalizing table with
  | nil => rfl
  | cons change log inductionHypothesis =>
      refine (inductionHypothesis (change.apply table)).trans ?_
      cases later : latest key log with
      | some value => simp [latest, later]
      | none =>
          by_cases same : change.key = key
          · subst same
            simp [latest, later, Change.apply]
          · have other : key ≠ change.key := fun equal => same equal.symm
            simp [latest, later, same, Change.apply,
              Function.update_of_ne other]

theorem latest_append (key : κ) (early late : List (Change κ ν)) :
    latest key (early ++ late) = (latest key late).or (latest key early) := by
  induction early with
  | nil => simp [latest]
  | cons change early inductionHypothesis =>
      simp [latest, inductionHypothesis, Option.or_assoc]

theorem latest_concat (key : κ) (log : List (Change κ ν))
    (change : Change κ ν) :
    latest key (log ++ [change]) =
      if change.key = key then some change.value else latest key log := by
  rw [latest_append]
  by_cases same : change.key = key <;> simp [latest, same]

/-- The last change of a key is a change of that key. -/
theorem mem_of_latest {value : Option ν}
    (last : latest key log = some value) : ⟨key, value⟩ ∈ log := by
  induction log with
  | nil => cases last
  | cons change log inductionHypothesis =>
      rcases Option.or_eq_some_iff.mp last with later | ⟨-, here⟩
      · exact List.mem_cons_of_mem _ (inductionHypothesis later)
      · split at here
        · rename_i same
          cases here
          subst same
          exact List.mem_cons_self
        · cases here

/-- A key whose value was taken away for good has no value in the end. -/
theorem RemovesForGood.latest
    (forGood : RemovesForGood log) (removed : ⟨key, none⟩ ∈ log) :
    latest key log = some none := by
  induction log with
  | nil => cases removed
  | cons change log inductionHypothesis =>
      rw [RemovesForGood, List.pairwise_cons] at forGood
      obtain ⟨after, rest⟩ := forGood
      rcases List.mem_cons.mp removed with same | later
      · subst same
        cases found : ChangeLog.latest key log with
        | none => simp [ChangeLog.latest, found]
        | some value =>
            have gone : value = none :=
              after _ (mem_of_latest found) rfl rfl
            simp [ChangeLog.latest, found, gone]
      · simp [ChangeLog.latest, inductionHypothesis rest later]

end Replay

end ChangeLog
end WhatsGoingOn
