import Mathlib.Data.List.Basic

/-!
# Broadcast channels

A channel keeps the values sent last, up to its capacity.  Every receiver reads
them at its own pace, from the moment it subscribed.  One that has fallen behind
the oldest value kept is told how many it has missed, and goes on there.

What has been sent is a list, and a receiver is its place in that list.
-/

namespace WhatsGoingOn
namespace Broadcast

variable {α : Type*}

/-- What a receiver gets: a value, or word that it has missed some. -/
inductive Received (α : Type*) where
  | value (value : α)
  | lagged (missed : Nat)
  deriving DecidableEq, Repr

/-- What a receiver at some place gets next, and its new place. -/
def receive (capacity : Nat) (sent : List α) (place : Nat) :
    Option (Received α × Nat) :=
  if place + capacity < sent.length then
    some (.lagged (sent.length - capacity - place), sent.length - capacity)
  else (sent[place]?).map fun value => (.value value, place + 1)

section Receive

variable {capacity place next : Nat} {sent : List α} {value : α}

/-- A receiver gets the next value while it is within the capacity. -/
theorem receive_eq_value :
    receive capacity sent place = some (.value value, next) ↔
      sent.length ≤ place + capacity ∧ sent[place]? = some value ∧
        next = place + 1 := by
  unfold receive
  split
  · rename_i behind
    simp only [Option.some.injEq, Prod.mk.injEq, reduceCtorEq, false_and,
      false_iff, not_and]
    intro within
    omega
  · rename_i within
    simp only [Option.map_eq_some_iff, Prod.mk.injEq, Received.value.injEq]
    constructor
    · rintro ⟨found, lookup, rfl, rfl⟩
      exact ⟨Nat.le_of_not_lt within, lookup, rfl⟩
    · rintro ⟨-, lookup, rfl⟩
      exact ⟨value, lookup, rfl, rfl⟩

/-- A receiver that has fallen behind goes on with the oldest value kept. -/
theorem receive_eq_lagged {missed : Nat} :
    receive capacity sent place = some (.lagged missed, next) ↔
      place + capacity < sent.length ∧
        missed = sent.length - capacity - place ∧
        next = sent.length - capacity := by
  unfold receive
  split
  · rename_i behind
    simp only [Option.some.injEq, Prod.mk.injEq, Received.lagged.injEq]
    constructor
    · rintro ⟨rfl, rfl⟩
      exact ⟨behind, rfl, rfl⟩
    · rintro ⟨-, rfl, rfl⟩
      exact ⟨rfl, rfl⟩
  · rename_i within
    simp [within]

/-- A receiver never reads beyond what was sent, nor goes back. -/
theorem receive_place
    {received : Received α}
    (got : receive capacity sent place = some (received, next)) :
    place < next ∧ next ≤ sent.length := by
  cases received with
  | value value =>
      obtain ⟨-, found, rfl⟩ := receive_eq_value.mp got
      have bound := (List.getElem?_eq_some_iff.mp found).1
      omega
  | lagged missed =>
      obtain ⟨behind, -, rfl⟩ := receive_eq_lagged.mp got
      omega

end Receive

/-! ## What a receiver has read -/

/-- The values sent from one place up to another. -/
def between (sent : List α) (start place : Nat) : List α :=
  (sent.take place).drop start

section Between

variable {sent : List α} {start place : Nat} {value : α}

@[simp] theorem between_self (sent : List α) (place : Nat) :
    between sent place place = [] := by
  simp [between]

/-- Reading a value adds it. -/
theorem between_succ
    (ordered : start ≤ place) (found : sent[place]? = some value) :
    between sent start (place + 1) = between sent start place ++ [value] := by
  obtain ⟨inside, equal⟩ := List.getElem?_eq_some_iff.mp found
  unfold between
  rw [List.take_add_one, found, Option.toList_some, List.drop_append_of_le_length]
  rw [List.length_take]
  omega

/-- Sending more changes nothing of what has been read. -/
theorem between_append
    (inside : place ≤ sent.length) (more : List α) :
    between (sent ++ more) start place = between sent start place := by
  unfold between
  rw [List.take_append_of_le_length inside]

/-- All that was sent is what came before a receiver, what it has read, and
what it has not read yet. -/
theorem take_append_between
    (ordered : start ≤ place) (sent : List α) :
    sent.take start ++ (between sent start place ++ sent.drop place) =
      sent := by
  have early : sent.take start = (sent.take place).take start := by
    rw [List.take_take, Nat.min_eq_left ordered]
  unfold between
  rw [early, ← List.append_assoc, List.take_append_drop,
    List.take_append_drop]

/-- What a receiver has not read at one place it reads up to another, or has
not read there either. -/
theorem drop_eq_between_append
    (ordered : start ≤ place) (sent : List α) :
    sent.drop start = between sent start place ++ sent.drop place :=
  List.append_cancel_left ((List.take_append_drop start sent).trans
    (take_append_between ordered sent).symm)

/-- What has been read was sent at a place on the way. -/
theorem exists_of_mem_between
    (member : value ∈ between sent start place) :
    ∃ position, start ≤ position ∧ position < place ∧
      sent[position]? = some value := by
  obtain ⟨offset, lookup⟩ := List.mem_iff_getElem?.mp member
  unfold between at lookup
  rw [List.getElem?_drop] at lookup
  have bound := (List.getElem?_eq_some_iff.mp lookup).1
  rw [List.length_take] at bound
  have inside : start + offset < place := by omega
  rw [List.getElem?_take_of_lt inside] at lookup
  exact ⟨start + offset, Nat.le_add_right _ _, inside, lookup⟩

end Between

end Broadcast
end WhatsGoingOn
