import Mathlib.Data.List.Basic

/-!
# Loops that read until a decoder is satisfied

A loop that appends what it reads to a buffer, and tries to decode the buffer
after each read.  It returns what the decoder makes of the whole input, unless
a part of the input that a read ends at is decoded as something else.
-/

namespace WhatsGoingOn

/-- A limit of the length of the buffer, the errors of the loop, and what the
decoder makes of a buffer, which is nothing where it waits for more. -/
structure ReadLoop (β ε ρ : Type) where
  limit : Nat
  closed : ε
  tooLarge : ε
  decode : List β → Option (Except ε ρ)

namespace ReadLoop

variable {β ε ρ : Type}

/-- Read chunks.  A read of nothing, and the end of the chunks, say that the
writer has closed. -/
def read (loop : ReadLoop β ε ρ) (buffered : List β) :
    List (List β) → Except ε ρ
  | [] => .error loop.closed
  | chunk :: chunks =>
      if chunk.length = 0 then .error loop.closed
      else
        let buffered := buffered ++ chunk
        if loop.limit < buffered.length then .error loop.tooLarge
        else
          match loop.decode buffered with
          | some result => result
          | none => loop.read buffered chunks

/-- The buffers after each chunk but the last one. -/
def parts (buffered : List β) : List (List β) → List (List β)
  | [] => []
  | [_] => []
  | chunk :: next :: chunks =>
      (buffered ++ chunk) :: parts (buffered ++ chunk) (next :: chunks)

variable {loop : ReadLoop β ε ρ} {buffered : List β} {chunks : List (List β)}
  {result : Except ε ρ}

/-- A part is a strict part of the whole input. -/
theorem prefix_of_mem_parts {part : List β}
    (nonempty : ∀ chunk ∈ chunks, chunk ≠ [])
    (member : part ∈ parts buffered chunks) :
    part <+: buffered ++ chunks.flatten ∧
      part ≠ buffered ++ chunks.flatten := by
  induction chunks generalizing buffered with
  | nil => cases member
  | cons chunk chunks inductionHypothesis =>
      cases chunks with
      | nil => cases member
      | cons next chunks =>
          rw [List.flatten_cons, ← List.append_assoc]
          rcases List.mem_cons.mp member with rfl | member
          · refine ⟨List.prefix_append _ _, fun same => ?_⟩
            have rest : (next :: chunks).flatten = [] := by simpa using same
            rw [List.flatten_cons, List.append_eq_nil_iff] at rest
            exact nonempty next (.tail _ (.head _)) rest.1
          · exact inductionHypothesis
              (fun other known => nonempty other (.tail _ known)) member

/-- The loop returns what the first part is decoded as that is decoded, or else
the whole input. -/
theorem read_eq (nonempty : ∀ chunk ∈ chunks, chunk ≠ [])
    (some : chunks ≠ [])
    (within : (buffered ++ chunks.flatten).length ≤ loop.limit)
    (whole : loop.decode (buffered ++ chunks.flatten) = .some result) :
    loop.read buffered chunks =
      ((parts buffered chunks).findSome? loop.decode).getD result := by
  induction chunks generalizing buffered with
  | nil => exact absurd rfl some
  | cons chunk chunks inductionHypothesis =>
      rw [List.flatten_cons, ← List.append_assoc] at within whole
      have read := List.length_eq_zero_iff.not.mpr (nonempty chunk (.head _))
      have small : ¬ loop.limit < (buffered ++ chunk).length := by
        rw [List.length_append] at within
        omega
      rw [ReadLoop.read, if_neg read]
      dsimp only
      rw [if_neg small]
      cases chunks with
      | nil =>
          rw [List.flatten_nil, List.append_nil] at whole
          rw [whole]
          rfl
      | cons next chunks =>
          rw [parts, List.findSome?_cons]
          cases loop.decode (buffered ++ chunk) with
          | none =>
              exact inductionHypothesis
                (fun other known => nonempty other (.tail _ known))
                (List.cons_ne_nil _ _) within whole
          | some early => rfl

/-- A part does not mislead a loop that is to return a result. -/
def Harmless (loop : ReadLoop β ε ρ) (result : Except ε ρ) (part : List β) :
    Prop :=
  loop.decode part = none ∨ loop.decode part = some result

/-- The loop returns the decoding of the whole input exactly where no part
misleads it.  A part that is decoded as the whole input is would keep the loop
from the parts that follow. -/
theorem read_eq_iff (nonempty : ∀ chunk ∈ chunks, chunk ≠ [])
    (some : chunks ≠ [])
    (within : (buffered ++ chunks.flatten).length ≤ loop.limit)
    (whole : loop.decode (buffered ++ chunks.flatten) = .some result)
    (early : ∀ part ∈ parts buffered chunks, loop.decode part = .some result →
      ∀ other ∈ parts buffered chunks, loop.Harmless result other) :
    loop.read buffered chunks = result ↔
      ∀ part ∈ parts buffered chunks, loop.Harmless result part := by
  rw [read_eq nonempty some within whole]
  cases found : (parts buffered chunks).findSome? loop.decode with
  | none =>
      rw [List.findSome?_eq_none_iff] at found
      exact ⟨fun _ part member => .inl (found part member), fun _ => rfl⟩
  | some first =>
      obtain ⟨part, member, decoded⟩ := List.exists_of_findSome?_eq_some found
      constructor
      · intro same
        have same : first = result := same
        rw [same] at decoded
        exact early part member decoded
      · intro harmless
        rcases harmless part member with missing | same
        · rw [missing] at decoded
          cases decoded
        · rw [same] at decoded
          cases decoded
          rfl

end ReadLoop
end WhatsGoingOn
