import Mathlib.Data.List.Nodup
import Mathlib.Data.List.Perm.Subperm
import WhatsGoingOn.Library.Text

/-!
# The dialog of a pairing request

The user of a Windows machine confirms a pairing by choosing the code that the
client shows among four.
-/

namespace WhatsGoingOn
namespace Windows

open Text

/-- What the dialog shows. -/
structure PairingConfirmationModel where
  confirmationCode : String
  clientLabel : String
  deriving DecidableEq, Repr

/-- The label without blanks at its ends, or words in its place. -/
def pairingClientLabel (label : String) : String :=
  let label := trim label
  if label.isEmpty then "Unknown client" else label

/-- The first two digits of the code, or zeros. -/
def normalizeConfirmationCode (code : String) : String :=
  let digits := (code.toList.filter Char.isDigit).take 2
  if digits.length = 2 then String.ofList digits else "00"

/-- The next state of the generator, modulo 2^64. -/
def lcgNext (seed : UInt64) : UInt64 :=
  seed * 6364136223846793005 + 1

/-- `confirmation_candidate_seed` at a time. -/
def confirmationCandidateSeed (timeSeed : UInt64) (code : String) : UInt64 :=
  code.toUTF8.toList.foldl
    (fun seed byte => ((seed <<< 5) ||| (seed >>> 59)) ^^^ byte.toUInt64)
    (timeSeed ^^^ 0x9e3779b97f4a7c15)

/-- A number below a hundred with two digits. -/
def twoDigits (number : Nat) : String :=
  if number < 10 then "0" ++ toString number else toString number

/-- Draw candidates until there are four, at most so many times. -/
def drawCandidates : Nat → UInt64 → List String → UInt64 × List String
  | 0, seed, candidates => (seed, candidates)
  | draws + 1, seed, candidates =>
      if candidates.length < 4 then
        let seed := lcgNext seed
        let candidate := twoDigits (seed % 100).toNat
        drawCandidates draws seed
          (if candidate ∈ candidates then candidates
          else candidates ++ [candidate])
      else (seed, candidates)

/-- Exchange the candidates at some indices, from the last, with earlier
ones. -/
def shuffleCandidates : List Nat → UInt64 → Array String → Array String
  | [], _, candidates => candidates
  | index :: indices, seed, candidates =>
      let seed := lcgNext seed
      shuffleCandidates indices seed
        (candidates.swapIfInBounds index (seed.toNat % (index + 1)))

/-- The code and three others.  Four draws are enough, by
`length_drawCandidates`. -/
def confirmationCodeCandidates (timeSeed : UInt64) (code : String) :
    List String :=
  let normalized := normalizeConfirmationCode code
  let (seed, candidates) :=
    drawCandidates 4 (confirmationCandidateSeed timeSeed normalized)
      [normalized]
  (shuffleCandidates [3, 2, 1] seed candidates.toArray).toList

/-- What a dialog shows. -/
structure ConfirmationDialog where
  message : String
  options : List String
  deriving DecidableEq, Repr

/-- The dialog that `confirm_pairing_request_owned` opens. -/
def confirmationDialog
    (timeSeed : UInt64) (model : PairingConfirmationModel) :
    ConfirmationDialog where
  message :=
    "Client:\n" ++ pairingClientLabel model.clientLabel ++
      "\n\nSelect the two-digit code shown on that client."
  options := confirmationCodeCandidates timeSeed model.confirmationCode

/-- `CMD_OPTION_BASE`. -/
def cmdOptionBase : Int := 2100

/-- The option of the button that ends a dialog, if it is one of an option. -/
def ConfirmationDialog.selected (dialog : ConfirmationDialog) (button : Int) :
    Option String :=
  let index := button - cmdOptionBase
  if index < 0 then none else dialog.options[index.toNat]?

/-! ## Four draws -/

/-- Modulo four the generator counts. -/
theorem lcgNext_mod_four (seed : UInt64) :
    (lcgNext seed).toNat % 4 = (seed.toNat + 1) % 4 := by
  unfold lcgNext
  simp only [UInt64.toNat_add, UInt64.toNat_mul, UInt64.reduceToNat]
  omega

/-- The number that two digits show. -/
def shownNumber (digits : String) : Nat :=
  digits.toList.foldl (fun number digit => 10 * number + (digit.toNat - 48)) 0

theorem shownNumber_twoDigits :
    ∀ number < 100, shownNumber (twoDigits number) = number := by
  decide

/-- Some numbers have been drawn, each a number of draws ago.  With those to
come there are four. -/
theorem length_drawCandidates_of_seen
    {draws : Nat} {seed : UInt64} {candidates : List String}
    (seen : List Nat)
    (count : seen.length + draws = 4)
    (distinct : seen.Nodup)
    (ages : ∀ number ∈ seen, number < 100 ∧
      ∃ age < seen.length, (number + age) % 4 = seed.toNat % 4)
    (drawn : ∀ number ∈ seen, twoDigits number ∈ candidates)
    (few : candidates.length ≤ 4) :
    (drawCandidates draws seed candidates).2.length = 4 := by
  induction draws generalizing seed candidates seen with
  | zero =>
      have distinctTexts : (seen.map twoDigits).Nodup :=
        distinct.map_on fun first firstSeen second secondSeen same => by
          rw [← shownNumber_twoDigits first (ages first firstSeen).1, same,
            shownNumber_twoDigits second (ages second secondSeen).1]
      have among : seen.map twoDigits ⊆ candidates := by
        intro text present
        obtain ⟨number, numberSeen, rfl⟩ := List.mem_map.mp present
        exact drawn number numberSeen
      have fits := (List.subperm_of_subset distinctTexts among).length_le
      rw [List.length_map] at fits
      simp only [drawCandidates]
      omega
  | succ draws inductionHypothesis =>
      simp only [drawCandidates]
      split
      · rename_i missing
        have next := lcgNext_mod_four seed
        have value : (lcgNext seed % 100).toNat =
            (lcgNext seed).toNat % 100 := by
          simp [UInt64.toNat_mod]
        rw [value]
        apply inductionHypothesis ((lcgNext seed).toNat % 100 :: seen)
        · simp only [List.length_cons]
          omega
        · refine List.nodup_cons.mpr ⟨fun present => ?_, distinct⟩
          obtain ⟨-, age, young, same⟩ := ages _ present
          omega
        · intro number present
          rcases List.mem_cons.mp present with rfl | before
          · exact ⟨by omega, 0, by simp, by omega⟩
          · obtain ⟨small, age, young, same⟩ := ages number before
            refine ⟨small, age + 1, ?_, by omega⟩
            simpa using young
        · intro number present
          rcases List.mem_cons.mp present with rfl | before
          · split <;> simp [*]
          · have old := drawn number before
            split <;> simp [old]
        · split
          · exact few
          · simp only [List.length_append, List.length_singleton]
            omega
      · simp only
        omega

/-- The loop that draws candidates ends after four draws. -/
theorem length_drawCandidates (seed : UInt64) (code : String) :
    (drawCandidates 4 seed [code]).2.length = 4 :=
  length_drawCandidates_of_seen [] rfl List.nodup_nil
    (by simp) (by simp) (by simp)

end Windows
end WhatsGoingOn
