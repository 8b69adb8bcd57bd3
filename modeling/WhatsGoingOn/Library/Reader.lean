import Mathlib.Data.List.Basic

/-!
# Byte readers

A reader consumes bytes from the front of a byte string.  It either returns a
value with the unread bytes or fails, and it reports every buffer it requested
on the way, also when it fails later.  One failure, called the ending, stands
for an input that stops too early.

Properties of readers that sequencing preserves carry over to counted loops.
Three of them are:

* a reader is *consuming* when the unread bytes are a suffix of the input;
* a reader is *stable* when more input changes neither its value nor any
  failure other than the ending;
* two readers *agree up to* a length when they behave alike on every input of
  at most that length.
-/

namespace WhatsGoingOn

/-- The requests of one read, and its value with the unread bytes or its
failure. -/
structure ReadResult (ε ρ α : Type) where
  /-- Buffers requested so far, in order. -/
  requests : List ρ
  /-- Value and unread bytes, or the failure. -/
  outcome : Except ε (α × List UInt8)

/-- A reader with failures in `ε` and buffer requests in `ρ`. -/
def Reader (ε ρ α : Type) : Type :=
  List UInt8 → ReadResult ε ρ α

namespace Reader

variable {ε ρ α β σ : Type}

/-- Return a value without reading. -/
protected def pure (value : α) : Reader ε ρ α := fun bytes =>
  ⟨[], .ok (value, bytes)⟩

/-- Fail without reading. -/
def fail (failure : ε) : Reader ε ρ α := fun _ =>
  ⟨[], .error failure⟩

/-- Run a reader and continue with its value on the unread bytes. -/
protected def bind
    (reader : Reader ε ρ α)
    (next : α → Reader ε ρ β) : Reader ε ρ β := fun bytes =>
  match (reader bytes).outcome with
  | .ok (value, rest) =>
      ⟨(reader bytes).requests ++ (next value rest).requests,
        (next value rest).outcome⟩
  | .error failure => ⟨(reader bytes).requests, .error failure⟩

instance : Monad (Reader ε ρ) where
  pure := Reader.pure
  bind := Reader.bind

/-- Read one byte. -/
def byte (ending : ε) : Reader ε ρ UInt8 := fun bytes =>
  match bytes with
  | [] => ⟨[], .error ending⟩
  | first :: rest => ⟨[], .ok (first, rest)⟩

/-- Read exactly `count` bytes. -/
def take (ending : ε) (count : Nat) : Reader ε ρ (List UInt8) := fun bytes =>
  if count ≤ bytes.length then
    ⟨[], .ok (bytes.take count, bytes.drop count)⟩
  else
    ⟨[], .error ending⟩

/-- Report a buffer request, described from the number of unread bytes, and
fail when it is refused. -/
def request
    (describe : Nat → ρ)
    (granted : Bool)
    (refusal : ε) : Reader ε ρ Unit := fun bytes =>
  ⟨[describe bytes.length],
    if granted then .ok ((), bytes) else .error refusal⟩

/-- Run the body `count` times, threading a state. -/
def loop (body : σ → Reader ε ρ σ) : Nat → σ → Reader ε ρ σ
  | 0, state => pure state
  | count + 1, state => body state >>= loop body count

/-! ## Evaluation -/

@[simp] theorem pure_apply (value : α) (bytes : List UInt8) :
    (pure value : Reader ε ρ α) bytes = ⟨[], .ok (value, bytes)⟩ := rfl

@[simp] theorem fail_apply (failure : ε) (bytes : List UInt8) :
    (fail failure : Reader ε ρ α) bytes = ⟨[], .error failure⟩ := rfl

@[simp] theorem byte_nil (ending : ε) :
    (byte ending : Reader ε ρ UInt8) [] = ⟨[], .error ending⟩ := rfl

@[simp] theorem byte_cons (ending : ε) (first : UInt8) (rest : List UInt8) :
    (byte ending : Reader ε ρ UInt8) (first :: rest) =
      ⟨[], .ok (first, rest)⟩ := rfl

theorem take_append
    (ending : ε) {count : Nat} {front : List UInt8}
    (length : front.length = count)
    (rest : List UInt8) :
    (take ending count : Reader ε ρ (List UInt8)) (front ++ rest) =
      ⟨[], .ok (front, rest)⟩ := by
  subst length
  simp [take]

/-- Taking bytes gives the front of the input, if there are as many. -/
theorem take_eq_ok
    {ending : ε} {count : Nat} {bytes front rest : List UInt8} :
    (take ending count (ρ := ρ) bytes).outcome = .ok (front, rest) ↔
      front.length = count ∧ bytes = front ++ rest := by
  constructor
  · intro read
    unfold take at read
    split at read
    · rename_i fits
      simp only [Except.ok.injEq, Prod.mk.injEq] at read
      rw [← read.1, ← read.2]
      exact ⟨List.length_take_of_le fits, (List.take_append_drop _ _).symm⟩
    · cases read
  · rintro ⟨length, rfl⟩
    rw [take_append ending length]

theorem request_apply
    (describe : Nat → ρ) (granted : Bool) (refusal : ε)
    (bytes : List UInt8) :
    request describe granted refusal bytes =
      ⟨[describe bytes.length],
        if granted then .ok ((), bytes) else .error refusal⟩ := rfl

theorem loop_zero (body : σ → Reader ε ρ σ) (state : σ) :
    loop body 0 state = pure state := rfl

theorem loop_succ (body : σ → Reader ε ρ σ) (count : Nat) (state : σ) :
    loop body (count + 1) state = body state >>= loop body count := rfl

theorem bind_of_ok
    {reader : Reader ε ρ α} {bytes rest : List UInt8} {value : α}
    (read : (reader bytes).outcome = .ok (value, rest))
    (next : α → Reader ε ρ β) :
    (reader >>= next) bytes =
      ⟨(reader bytes).requests ++ (next value rest).requests,
        (next value rest).outcome⟩ := by
  change Reader.bind reader next bytes = _
  unfold Reader.bind
  rw [read]

theorem bind_of_error
    {reader : Reader ε ρ α} {bytes : List UInt8} {failure : ε}
    (failed : (reader bytes).outcome = .error failure)
    (next : α → Reader ε ρ β) :
    (reader >>= next) bytes =
      ⟨(reader bytes).requests, .error failure⟩ := by
  change Reader.bind reader next bytes = _
  unfold Reader.bind
  rw [failed]

/-- A sequence succeeds exactly when both of its parts do. -/
theorem bind_eq_ok
    {reader : Reader ε ρ α} {next : α → Reader ε ρ β}
    {bytes rest : List UInt8} {result : β} :
    ((reader >>= next) bytes).outcome = .ok (result, rest) ↔
      ∃ value middle, (reader bytes).outcome = .ok (value, middle) ∧
        (next value middle).outcome = .ok (result, rest) := by
  cases outcome : (reader bytes).outcome with
  | error failure => simp [bind_of_error outcome]
  | ok pair =>
      obtain ⟨value, middle⟩ := pair
      simp [bind_of_ok outcome]

/-- A sequence fails exactly when one of its parts does. -/
theorem bind_eq_error
    {reader : Reader ε ρ α} {next : α → Reader ε ρ β}
    {bytes : List UInt8} {failure : ε} :
    ((reader >>= next) bytes).outcome = .error failure ↔
      (reader bytes).outcome = .error failure ∨
        ∃ value middle, (reader bytes).outcome = .ok (value, middle) ∧
          (next value middle).outcome = .error failure := by
  cases outcome : (reader bytes).outcome with
  | error failure => simp [bind_of_error outcome]
  | ok pair =>
      obtain ⟨value, middle⟩ := pair
      simp [bind_of_ok outcome]

/-- The requests of a sequence are those of its parts that ran. -/
theorem mem_requests_bind
    {reader : Reader ε ρ α} {next : α → Reader ε ρ β}
    {bytes : List UInt8} {entry : ρ} :
    entry ∈ ((reader >>= next) bytes).requests ↔
      entry ∈ (reader bytes).requests ∨
        ∃ value middle, (reader bytes).outcome = .ok (value, middle) ∧
          entry ∈ (next value middle).requests := by
  cases outcome : (reader bytes).outcome with
  | error failure => simp [bind_of_error outcome]
  | ok pair =>
      obtain ⟨value, middle⟩ := pair
      simp [bind_of_ok outcome]

/-! ## Continuations -/

/-- The later read decides the outcome of the whole read, and its requests are
among those of the whole read. -/
structure ContinuesAs (whole later : ReadResult ε ρ α) : Prop where
  outcome : whole.outcome = later.outcome
  requests : later.requests ⊆ whole.requests

namespace ContinuesAs

theorem refl (result : ReadResult ε ρ α) : ContinuesAs result result :=
  ⟨rfl, List.Subset.refl _⟩

theorem trans
    {first second third : ReadResult ε ρ α}
    (left : ContinuesAs first second)
    (right : ContinuesAs second third) : ContinuesAs first third :=
  ⟨left.outcome.trans right.outcome,
    List.Subset.trans right.requests left.requests⟩

theorem bind
    {reader : Reader ε ρ α} {bytes rest : List UInt8} {value : α}
    (read : (reader bytes).outcome = .ok (value, rest))
    (next : α → Reader ε ρ β) :
    ContinuesAs ((reader >>= next) bytes) (next value rest) := by
  rw [bind_of_ok read]
  exact ⟨rfl, List.subset_append_right _ _⟩

end ContinuesAs

/-- A part of a read: where it fails the whole read fails alike, and the
whole read makes its requests. -/
structure Includes
    (whole : ReadResult ε ρ α) (part : ReadResult ε ρ β) : Prop where
  failure : ∀ failure,
    part.outcome = .error failure → whole.outcome = .error failure
  requests : part.requests ⊆ whole.requests

namespace Includes

theorem trans
    {γ : Type} {first : ReadResult ε ρ α} {second : ReadResult ε ρ β}
    {third : ReadResult ε ρ γ}
    (left : Includes first second)
    (right : Includes second third) : Includes first third :=
  ⟨fun failure failed => left.failure failure (right.failure failure failed),
    List.Subset.trans right.requests left.requests⟩

/-- A sequence includes its first part. -/
theorem bind_first
    (reader : Reader ε ρ α) (next : α → Reader ε ρ β)
    (bytes : List UInt8) :
    Includes ((reader >>= next) bytes) (reader bytes) where
  failure := fun _ failed => bind_eq_error.mpr (.inl failed)
  requests := fun _ member => mem_requests_bind.mpr (.inl member)

end Includes

/-- A read includes what it continues as. -/
theorem ContinuesAs.includes
    {whole later : ReadResult ε ρ α}
    (continues : ContinuesAs whole later) : Includes whole later :=
  ⟨fun _ failed => continues.outcome.trans failed, continues.requests⟩

/-! ## Congruences -/

/-- A relation between readers that returning and sequencing preserve. -/
structure Congruence
    (related : ∀ α : Type, Reader ε ρ α → Reader ε ρ α → Prop) : Prop where
  pure : ∀ {α : Type} (value : α),
    related α (Pure.pure value) (Pure.pure value)
  bind : ∀ {α β : Type} {left right : Reader ε ρ α}
    {nextLeft nextRight : α → Reader ε ρ β},
    related α left right →
      (∀ value, related β (nextLeft value) (nextRight value)) →
        related β (left >>= nextLeft) (right >>= nextRight)

/-- Loops of related bodies are related. -/
theorem Congruence.loop
    {related : ∀ α : Type, Reader ε ρ α → Reader ε ρ α → Prop}
    (congruence : Congruence related)
    {left right : σ → Reader ε ρ σ}
    (step : ∀ state, related σ (left state) (right state))
    (count : Nat) (state : σ) :
    related σ (Reader.loop left count state)
      (Reader.loop right count state) := by
  induction count generalizing state with
  | zero => exact congruence.pure state
  | succ count inductionHypothesis =>
      exact congruence.bind (step state) inductionHypothesis

/-! ## Consuming readers -/

/-- The unread bytes are a suffix of the input. -/
def Consuming (reader : Reader ε ρ α) : Prop :=
  ∀ bytes value rest,
    (reader bytes).outcome = .ok (value, rest) → rest <:+ bytes

namespace Consuming

theorem pure (value : α) : Consuming (Pure.pure value : Reader ε ρ α) := by
  intro bytes result rest read
  simp only [pure_apply, Except.ok.injEq, Prod.mk.injEq] at read
  obtain ⟨rfl, rfl⟩ := read
  exact List.suffix_refl bytes

theorem fail (failure : ε) :
    Consuming (Reader.fail failure : Reader ε ρ α) := by
  intro bytes result rest read
  simp at read

theorem byte (ending : ε) :
    Consuming (Reader.byte ending : Reader ε ρ UInt8) := by
  intro bytes result rest read
  cases bytes with
  | nil => simp at read
  | cons first tail =>
      simp only [byte_cons, Except.ok.injEq, Prod.mk.injEq] at read
      rw [← read.2]
      exact List.suffix_cons first tail

theorem take (ending : ε) (count : Nat) :
    Consuming (Reader.take ending count : Reader ε ρ (List UInt8)) := by
  intro bytes result rest read
  unfold Reader.take at read
  split at read
  · simp only [Except.ok.injEq, Prod.mk.injEq] at read
    rw [← read.2]
    exact List.drop_suffix count bytes
  · cases read

theorem request (describe : Nat → ρ) (granted : Bool) (refusal : ε) :
    Consuming (Reader.request describe granted refusal) := by
  intro bytes result rest read
  rw [request_apply] at read
  cases granted <;> simp_all

theorem bind
    {reader : Reader ε ρ α} {next : α → Reader ε ρ β}
    (first : Consuming reader)
    (second : ∀ value, Consuming (next value)) :
    Consuming (reader >>= next) := by
  intro bytes result rest read
  obtain ⟨value, middle, readFirst, readSecond⟩ := bind_eq_ok.mp read
  exact (second value middle result rest readSecond).trans
    (first bytes value middle readFirst)

theorem congruence :
    Congruence fun (α : Type) (left right : Reader ε ρ α) =>
      left = right ∧ Consuming left where
  pure := fun value => ⟨rfl, pure value⟩
  bind := by
    rintro α β left right nextLeft nextRight ⟨rfl, first⟩ second
    have same : nextLeft = nextRight := funext fun value => (second value).1
    exact ⟨by rw [same], bind first fun value => (second value).2⟩

end Consuming

/-! ## Stable readers -/

/-- More input changes neither the value nor a failure other than the
ending. -/
structure Stable (ending : ε) (reader : Reader ε ρ α) : Prop where
  /-- A value is kept, and the new bytes stay unread. -/
  ok : ∀ bytes more value rest,
    (reader bytes).outcome = .ok (value, rest) →
      (reader (bytes ++ more)).outcome = .ok (value, rest ++ more)
  /-- A failure that is not the ending is kept. -/
  error : ∀ bytes more failure,
    (reader bytes).outcome = .error failure → failure ≠ ending →
      (reader (bytes ++ more)).outcome = .error failure

namespace Stable

variable {ending : ε}

theorem pure (value : α) :
    Stable ending (Pure.pure value : Reader ε ρ α) where
  ok := by
    intro bytes more result rest read
    simp only [pure_apply, Except.ok.injEq, Prod.mk.injEq] at read ⊢
    exact ⟨read.1, by rw [read.2]⟩
  error := by
    intro bytes more failure failed
    simp at failed

theorem fail (failure : ε) :
    Stable ending (Reader.fail failure : Reader ε ρ α) where
  ok := by
    intro bytes more result rest read
    simp at read
  error := by
    intro bytes more reported failed _
    simpa using failed

/-- Reading a byte does not depend on what follows it. -/
theorem byte : Stable ending (Reader.byte ending : Reader ε ρ UInt8) where
  ok := by
    intro bytes more result rest read
    cases bytes with
    | nil => simp at read
    | cons first tail =>
        simp only [List.cons_append, byte_cons, Except.ok.injEq,
          Prod.mk.injEq] at read ⊢
        exact ⟨read.1, by rw [read.2]⟩
  error := by
    intro bytes more failure failed notEnding
    cases bytes with
    | nil =>
        simp only [byte_nil, Except.error.injEq] at failed
        exact absurd failed.symm notEnding
    | cons first tail => simp at failed

/-- Taking bytes does not depend on what follows them. -/
theorem take (count : Nat) :
    Stable ending (Reader.take ending count : Reader ε ρ (List UInt8)) where
  ok := by
    intro bytes more result rest read
    unfold Reader.take at read ⊢
    split at read
    · rename_i fits
      have fitsMore : count ≤ (bytes ++ more).length := by
        rw [List.length_append]
        omega
      simp only [Except.ok.injEq, Prod.mk.injEq] at read
      rw [if_pos fitsMore, List.take_append_of_le_length fits,
        List.drop_append_of_le_length fits, read.1, read.2]
    · cases read
  error := by
    intro bytes more failure failed notEnding
    unfold Reader.take at failed
    split at failed
    · cases failed
    · simp only [Except.error.injEq] at failed
      exact absurd failed.symm notEnding

theorem request (describe : Nat → ρ) (granted : Bool) (refusal : ε) :
    Stable ending (Reader.request describe granted refusal) where
  ok := by
    intro bytes more result rest read
    rw [request_apply] at read ⊢
    cases granted <;> simp_all
  error := by
    intro bytes more failure failed _
    rw [request_apply] at failed ⊢
    cases granted <;> simp_all

/-- Readers that do not depend on what follows do not, one after the other. -/
theorem bind
    {reader : Reader ε ρ α} {next : α → Reader ε ρ β}
    (first : Stable ending reader)
    (second : ∀ value, Stable ending (next value)) :
    Stable ending (reader >>= next) where
  ok := by
    intro bytes more result rest read
    obtain ⟨value, middle, readFirst, readSecond⟩ := bind_eq_ok.mp read
    exact bind_eq_ok.mpr ⟨value, middle ++ more,
      first.ok bytes more value middle readFirst,
      (second value).ok middle more result rest readSecond⟩
  error := by
    intro bytes more failure failed notEnding
    rcases bind_eq_error.mp failed with
      failedFirst | ⟨value, middle, readFirst, failedSecond⟩
    · exact bind_eq_error.mpr
        (.inl (first.error bytes more failure failedFirst notEnding))
    · exact bind_eq_error.mpr (.inr ⟨value, middle ++ more,
        first.ok bytes more value middle readFirst,
        (second value).error middle more failure failedSecond notEnding⟩)

theorem congruence :
    Congruence fun (α : Type) (left right : Reader ε ρ α) =>
      left = right ∧ Stable ending left where
  pure := fun value => ⟨rfl, pure value⟩
  bind := by
    rintro α β left right nextLeft nextRight ⟨rfl, first⟩ second
    have same : nextLeft = nextRight := funext fun value => (second value).1
    exact ⟨by rw [same], bind first fun value => (second value).2⟩

/-- Where a stable reader uses a whole input, it reports the ending on every
strict prefix of that input. -/
theorem ending_of_strict_prefix
    {reader : Reader ε ρ α}
    (stable : Stable ending reader)
    {front more : List UInt8} {value : α}
    (read : (reader (front ++ more)).outcome = .ok (value, []))
    (strict : more ≠ []) :
    (reader front).outcome = .error ending := by
  cases outcome : (reader front).outcome with
  | ok pair =>
      obtain ⟨other, rest⟩ := pair
      have extended := stable.ok front more other rest outcome
      rw [read] at extended
      simp only [Except.ok.injEq, Prod.mk.injEq] at extended
      have empty := List.append_eq_nil_iff.mp extended.2.symm
      exact absurd empty.2 strict
  | error failure =>
      by_cases isEnding : failure = ending
      · rw [isEnding]
      · have extended := stable.error front more failure outcome isEnding
        rw [read] at extended
        cases extended

end Stable

/-! ## Readers that agree on short inputs -/

/-- Two readers behave alike on every input of at most `bound` bytes. -/
def AgreeUpTo (bound : Nat) (left right : Reader ε ρ α) : Prop :=
  ∀ bytes, bytes.length ≤ bound → left bytes = right bytes

namespace AgreeUpTo

variable {bound : Nat}

theorem refl (reader : Reader ε ρ α) : AgreeUpTo bound reader reader :=
  fun _ _ => rfl

/-- Readers that agree up to a bound do, one after the other. -/
theorem bind
    {left right : Reader ε ρ α} {nextLeft nextRight : α → Reader ε ρ β}
    (first : AgreeUpTo bound left right)
    (consuming : Consuming left)
    (second : ∀ value,
      AgreeUpTo bound (nextLeft value) (nextRight value)) :
    AgreeUpTo bound (left >>= nextLeft) (right >>= nextRight) := by
  intro bytes short
  have same := first bytes short
  cases outcome : (left bytes).outcome with
  | error failure =>
      rw [bind_of_error outcome, bind_of_error (by rw [← same]; exact outcome),
        same]
  | ok pair =>
      obtain ⟨value, middle⟩ := pair
      have middleShort : middle.length ≤ bound :=
        Nat.le_trans (consuming bytes value middle outcome).length_le short
      rw [bind_of_ok outcome, bind_of_ok (by rw [← same]; exact outcome),
        same, second value middle middleShort]

theorem congruence :
    Congruence fun (α : Type) (left right : Reader ε ρ α) =>
      AgreeUpTo bound left right ∧ Consuming left where
  pure := fun value => ⟨refl _, Consuming.pure value⟩
  bind := fun first second =>
    ⟨bind first.1 first.2 fun value => (second value).1,
      Consuming.bind first.2 fun value => (second value).2⟩

/-- After one byte has been read, agreement is needed on shorter inputs
only. -/
theorem byte_bind
    (ending : ε)
    {left right : UInt8 → Reader ε ρ β}
    (after : ∀ first, AgreeUpTo bound (left first) (right first)) :
    AgreeUpTo (bound + 1)
      (Reader.byte ending >>= left) (Reader.byte ending >>= right) := by
  intro bytes short
  cases bytes with
  | nil => rfl
  | cons first rest =>
      have restShort : rest.length ≤ bound := by
        rw [List.length_cons] at short
        omega
      have read :
          (Reader.byte ending (ρ := ρ) (first :: rest)).outcome =
            .ok (first, rest) := rfl
      rw [bind_of_ok read, bind_of_ok read, after first rest restShort]

end AgreeUpTo
end Reader
end WhatsGoingOn
