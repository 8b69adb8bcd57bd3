import Mathlib.Data.List.Induction
import WhatsGoingOn.Library.Reader

/-!
# Reading one value after another

What a reader reads when it is applied again and again, each time to what the
time before has left.  A stable reader reads as much when more input follows, so
that a stream can be read from its parts as they come.
-/

namespace WhatsGoingOn
namespace Reader

variable {ε ρ α β : Type} {reader : Reader ε ρ α}

/-- A reader reads some values from the front of a byte string, and leaves the
rest. -/
inductive Reads (reader : Reader ε ρ α) :
    List UInt8 → List α → List UInt8 → Prop
  | done (bytes : List UInt8) : Reads reader bytes [] bytes
  | next {bytes middle rest : List UInt8} {value : α} {values : List α}
      (first : (reader bytes).outcome = .ok (value, middle))
      (later : Reads reader middle values rest) :
      Reads reader bytes (value :: values) rest

namespace Reads

variable {bytes middle rest other : List UInt8} {values more : List α}

/-- More input changes nothing of what is read. -/
theorem append {ending : ε} (stable : Stable ending reader)
    (reads : Reads reader bytes values rest) (extra : List UInt8) :
    Reads reader (bytes ++ extra) values (rest ++ extra) := by
  induction reads with
  | done bytes => exact .done _
  | next first later inductionHypothesis =>
      exact .next (stable.ok _ extra _ _ first) inductionHypothesis

/-- The values that are read determine what is left. -/
theorem rest_unique
    (reads : Reads reader bytes values rest)
    (again : Reads reader bytes values other) : rest = other := by
  induction reads with
  | done bytes =>
      cases again
      rfl
  | next first later inductionHypothesis =>
      cases again with
      | next same following =>
          rw [first] at same
          cases same
          exact inductionHypothesis following

/-- A reader that fails on what it leaves reads just one list of values. -/
theorem unique {failure second : ε}
    (reads : Reads reader bytes values rest)
    (ends : (reader rest).outcome = .error failure)
    (again : Reads reader bytes more other)
    (stops : (reader other).outcome = .error second) :
    values = more ∧ rest = other := by
  induction reads generalizing more with
  | done bytes =>
      cases again with
      | done => exact ⟨rfl, rfl⟩
      | next first later =>
          rw [ends] at first
          cases first
  | next first later inductionHypothesis =>
      cases again with
      | done =>
          rw [stops] at first
          cases first
      | next same following =>
          rw [first] at same
          cases same
          obtain ⟨rfl, rfl⟩ := inductionHypothesis ends following
          exact ⟨rfl, rfl⟩

/-- What is read of a byte string that a reader has read from before. -/
theorem after {failure : ε}
    (reads : Reads reader bytes values middle)
    (all : Reads reader bytes more rest)
    (ends : (reader rest).outcome = .error failure) :
    ∃ later, more = values ++ later ∧ Reads reader middle later rest := by
  induction reads generalizing more with
  | done bytes => exact ⟨more, rfl, all⟩
  | next first later inductionHypothesis =>
      cases all with
      | done =>
          rw [ends] at first
          cases first
      | next same following =>
          rw [first] at same
          cases same
          obtain ⟨others, rfl, reads⟩ := inductionHypothesis following
          exact ⟨others, rfl, reads⟩

end Reads

/-- A reader that takes a byte for every value reads until it fails. -/
theorem exists_reads
    (shortens : ∀ bytes value rest,
      (reader bytes).outcome = .ok (value, rest) →
        rest.length < bytes.length)
    (bytes : List UInt8) :
    ∃ values rest failure, Reads reader bytes values rest ∧
      (reader rest).outcome = .error failure := by
  induction length : bytes.length using Nat.strongRecOn generalizing bytes with
  | _ bound inductionHypothesis =>
      cases outcome : (reader bytes).outcome with
      | error failure => exact ⟨[], bytes, failure, .done bytes, outcome⟩
      | ok result =>
          obtain ⟨value, middle⟩ := result
          have shorter := shortens bytes value middle outcome
          obtain ⟨values, rest, failure, later, ends⟩ :=
            inductionHypothesis middle.length (length ▸ shorter) middle rfl
          exact ⟨value :: values, rest, failure, .next outcome later, ends⟩

/-! ## Values in pairs -/

/-- Read two values. -/
def pair (reader : Reader ε ρ α) : Reader ε ρ (α × α) := do
  let first ← reader
  let second ← reader
  pure (first, second)

/-- Values in pairs.  One that is left over is dropped. -/
def pairs : List α → List (α × α)
  | first :: second :: values => (first, second) :: pairs values
  | _ => []

/-- The pairs of some values are those of a front part that holds them all. -/
theorem pairs_take {count : Nat} {values : List α}
    (most : values.length / 2 * 2 ≤ count) :
    pairs (values.take count) = pairs values := by
  induction values using List.twoStepInduction generalizing count with
  | nil => simp
  | singleton value => cases count <;> simp [pairs]
  | cons_cons first second values inductionHypothesis _ =>
      simp only [List.length_cons] at most
      obtain ⟨count, rfl⟩ : ∃ fewer, count = fewer + 2 :=
        ⟨count - 2, by omega⟩
      simp only [List.take_succ_cons, pairs]
      rw [inductionHypothesis (by omega)]

theorem Stable.pair {ending : ε} (stable : Stable ending reader) :
    Stable ending reader.pair :=
  stable.bind fun _ => stable.bind fun _ => Stable.pure _

/-- A pair is read as its first and then its second value. -/
theorem pair_eq_ok {bytes rest : List UInt8} {first second : α} :
    (reader.pair bytes).outcome = .ok ((first, second), rest) ↔
      ∃ middle, (reader bytes).outcome = .ok (first, middle) ∧
        (reader middle).outcome = .ok (second, rest) := by
  unfold Reader.pair
  rw [bind_eq_ok]
  constructor
  · rintro ⟨value, middle, early, late⟩
    obtain ⟨other, after, last, returned⟩ := bind_eq_ok.mp late
    simp only [pure_apply, Except.ok.injEq, Prod.mk.injEq] at returned
    obtain ⟨⟨rfl, rfl⟩, rfl⟩ := returned
    exact ⟨middle, early, last⟩
  · rintro ⟨middle, early, late⟩
    refine ⟨first, middle, early, ?_⟩
    exact bind_eq_ok.mpr ⟨second, rest, late, rfl⟩

/-- A pair fails with its first or its second value. -/
theorem pair_eq_error {bytes : List UInt8} {failure : ε} :
    (reader.pair bytes).outcome = .error failure ↔
      (reader bytes).outcome = .error failure ∨
        ∃ value middle, (reader bytes).outcome = .ok (value, middle) ∧
          (reader middle).outcome = .error failure := by
  unfold Reader.pair
  rw [bind_eq_error]
  apply or_congr_right
  apply exists_congr
  intro value
  apply exists_congr
  intro middle
  apply and_congr_right
  intro _
  rw [bind_eq_error]
  simp

/-- Reading values is reading them in pairs, and the one that is left over. -/
theorem Reads.pairs {bytes rest : List UInt8} {values : List α}
    (reads : Reads reader bytes values rest) :
    ∃ middle left, Reads reader.pair bytes (Reader.pairs values) middle ∧
      Reads reader middle left rest ∧ left.length = values.length % 2 := by
  induction values using List.twoStepInduction generalizing bytes with
  | nil => exact ⟨bytes, [], .done _, reads, by simp⟩
  | singleton value => exact ⟨bytes, [value], .done _, reads, by simp⟩
  | cons_cons first second values inductionHypothesis _ =>
      cases reads with
      | next early later =>
          cases later with
          | next late later =>
              obtain ⟨middle, left, paired, unpaired, few⟩ :=
                inductionHypothesis later
              refine ⟨middle, left,
                .next (pair_eq_ok.mpr ⟨_, early, late⟩) paired, unpaired, ?_⟩
              simp only [List.length_cons]
              omega

/-- A reader of pairs fails where the reader does, before two values. -/
theorem Reads.pair_error {bytes rest : List UInt8} {values : List α}
    {failure : ε}
    (reads : Reads reader bytes values rest) (few : values.length < 2)
    (fails : (reader rest).outcome = .error failure) :
    (reader.pair bytes).outcome = .error failure := by
  rw [pair_eq_error]
  cases reads with
  | done => exact Or.inl fails
  | next first later =>
      cases later with
      | done => exact Or.inr ⟨_, _, first, fails⟩
      | next second later =>
          simp only [List.length_cons] at few
          omega

/-- At most one value is read before a first pair that fails. -/
theorem Reads.length_lt_of_pair_error
    {bytes rest : List UInt8} {values : List α} {failure : ε}
    (reads : Reads reader bytes values rest)
    (fails : (reader.pair bytes).outcome = .error failure) :
    values.length < 2 := by
  cases reads with
  | done => exact Nat.zero_lt_two
  | next first later =>
      cases later with
      | done => exact Nat.one_lt_two
      | next second later =>
          rw [pair_eq_ok.mpr ⟨_, first, second⟩] at fails
          cases fails

end Reader
end WhatsGoingOn
