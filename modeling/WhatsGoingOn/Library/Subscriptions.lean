import Mathlib.Data.List.Basic

/-!
# Subscriptions that supersede each other

A view holds one subscription at most.  Starting the next one cancels the one
before it, which cannot be taken back at once: it may still be told something,
and finds then that it was cancelled.
-/

namespace WhatsGoingOn

/-- How far a subscription is. -/
inductive SubscriptionStage where
  | opening
  | receiving
  | ended
  deriving DecidableEq, Repr

/-- A subscription to a topic, and where its answer stands. -/
structure Subscription (τ : Type*) where
  topic : τ
  cancelled : Bool
  stage : SubscriptionStage
  deriving DecidableEq, Repr

/-- All subscriptions that were started, and which one is current. -/
structure Subscriptions (τ : Type*) where
  started : List (Subscription τ)
  current : Option Nat
  deriving DecidableEq, Repr

namespace Subscriptions

variable {τ : Type*} {subscriptions : Subscriptions τ}

/-- Nothing was started yet. -/
def empty : Subscriptions τ where
  started := []
  current := none

/-- Cancel the current subscription. -/
def stop (subscriptions : Subscriptions τ) : Subscriptions τ :=
  match subscriptions.current with
  | none => subscriptions
  | some index =>
      { started := subscriptions.started.modify index fun subscription =>
          { subscription with cancelled := true }
        current := none }

/-- Start a subscription in place of the current one. -/
def start (topic : τ) (subscriptions : Subscriptions τ) : Subscriptions τ where
  started := subscriptions.stop.started ++ [⟨topic, false, .opening⟩]
  current := some subscriptions.stop.started.length

/-- A subscription has come to a stage. -/
def reach (index : Nat) (stage : SubscriptionStage)
    (subscriptions : Subscriptions τ) : Subscriptions τ :=
  { subscriptions with
    started := subscriptions.started.modify index fun subscription =>
      { subscription with stage := stage } }

/-- The topic of the current subscription. -/
def topic (subscriptions : Subscriptions τ) : Option τ :=
  subscriptions.current.bind fun index =>
    subscriptions.started[index]?.map (·.topic)

@[simp] theorem reach_current (index : Nat) (stage : SubscriptionStage) :
    (subscriptions.reach index stage).current = subscriptions.current := rfl

@[simp] theorem stop_current : subscriptions.stop.current = none := by
  unfold stop
  split
  · assumption
  · rfl

@[simp] theorem length_stop :
    subscriptions.stop.started.length = subscriptions.started.length := by
  unfold stop
  split
  · rfl
  · exact List.length_modify ..

@[simp] theorem length_start (topic : τ) :
    (subscriptions.start topic).started.length =
      subscriptions.started.length + 1 := by
  simp [start]

@[simp] theorem length_reach (index : Nat) (stage : SubscriptionStage) :
    (subscriptions.reach index stage).started.length =
      subscriptions.started.length :=
  List.length_modify ..

@[simp] theorem topic_start (topic : τ) :
    (subscriptions.start topic).topic = some topic := by
  simp [start, Subscriptions.topic]

@[simp] theorem topic_reach (index : Nat) (stage : SubscriptionStage) :
    (subscriptions.reach index stage).topic = subscriptions.topic := by
  unfold topic
  rw [reach_current]
  refine Option.bind_congr fun other _ => ?_
  rw [reach, List.getElem?_modify, Option.map_eq_map, Option.map_map]
  refine Option.map_congr fun subscription _ => ?_
  rw [Function.comp_apply]
  split <;> rfl

theorem topic_of_current_eq_none (nothing : subscriptions.current = none) :
    subscriptions.topic = none := by
  rw [topic, nothing, Option.bind_none]

/-! ## The one that is not cancelled -/

/-- The current subscription, and no other one, is not cancelled. -/
structure Sound (subscriptions : Subscriptions τ) : Prop where
  live : ∀ index subscription,
    subscriptions.started[index]? = some subscription →
      (subscription.cancelled = false ↔ subscriptions.current = some index)
  inRange : ∀ index, subscriptions.current = some index →
    index < subscriptions.started.length

namespace Sound

theorem empty : Sound (empty : Subscriptions τ) where
  live := by simp [Subscriptions.empty]
  inRange := by simp [Subscriptions.empty]

/-- Stopping cancels the current subscription. -/
theorem stop (sound : subscriptions.Sound) : subscriptions.stop.Sound where
  live := by
    intro index subscription found
    rw [stop_current]
    refine iff_of_false (fun alive => ?_) (fun impossible => by
      cases impossible)
    unfold Subscriptions.stop at found
    cases isCurrent : subscriptions.current with
    | none =>
        rw [isCurrent] at found
        have wasCurrent := (sound.live index subscription found).mp alive
        rw [isCurrent] at wasCurrent
        cases wasCurrent
    | some current =>
        rw [isCurrent] at found
        rw [List.getElem?_modify, Option.map_eq_map,
          Option.map_eq_some_iff] at found
        obtain ⟨before, wasThere, rfl⟩ := found
        split at alive
        · cases alive
        · rename_i different
          have wasCurrent := (sound.live index before wasThere).mp alive
          rw [isCurrent] at wasCurrent
          exact different (Option.some.inj wasCurrent)
  inRange := by
    intro index isCurrent
    rw [stop_current] at isCurrent
    cases isCurrent

/-- Starting makes the new subscription the only one that is not cancelled. -/
theorem start (sound : subscriptions.Sound) (topic : τ) :
    (subscriptions.start topic).Sound where
  live := by
    intro index subscription found
    rw [Subscriptions.start] at found ⊢
    rcases Nat.lt_or_ge index subscriptions.stop.started.length with
      before | after
    · rw [List.getElem?_append_left before] at found
      have cancelled := sound.stop.live index subscription found
      rw [stop_current] at cancelled
      refine iff_of_false (fun alive => ?_) (fun isLast => ?_)
      · cases cancelled.mp alive
      · exact absurd (Option.some.inj isLast) (Nat.ne_of_gt before)
    · rw [List.getElem?_append_right after, List.getElem?_singleton] at found
      split at found
      · rename_i isLast
        cases found
        have same : subscriptions.stop.started.length = index := by omega
        exact iff_of_true rfl (congrArg some same)
      · cases found
  inRange := by
    rintro index ⟨⟩
    simp [Subscriptions.start]

/-- The stage of a subscription changes nothing of which is current. -/
theorem reach (sound : subscriptions.Sound) (index : Nat)
    (stage : SubscriptionStage) : (subscriptions.reach index stage).Sound where
  live := by
    intro other subscription found
    rw [Subscriptions.reach, List.getElem?_modify, Option.map_eq_map,
      Option.map_eq_some_iff] at found
    obtain ⟨before, wasThere, rfl⟩ := found
    have live := sound.live other before wasThere
    rw [reach_current]
    split <;> exact live
  inRange := by
    intro other isCurrent
    rw [length_reach]
    exact sound.inRange other isCurrent

/-- Without a topic nothing is current. -/
theorem current_eq_none (sound : subscriptions.Sound)
    (nothing : subscriptions.topic = none) : subscriptions.current = none := by
  cases isCurrent : subscriptions.current with
  | none => rfl
  | some index =>
      have inRange := sound.inRange index isCurrent
      rw [topic, isCurrent, Option.bind_some, Option.map_eq_none_iff,
        List.getElem?_eq_none_iff] at nothing
      exact absurd inRange (Nat.not_lt_of_le nothing)

end Sound

/-- A topic is that of the current subscription. -/
theorem topic_eq_some {topic : τ} (found : subscriptions.topic = some topic) :
    ∃ index subscription, subscriptions.current = some index ∧
      subscriptions.started[index]? = some subscription ∧
        subscription.topic = topic := by
  obtain ⟨index, isCurrent, there⟩ := Option.bind_eq_some_iff.mp found
  obtain ⟨subscription, started, same⟩ := Option.map_eq_some_iff.mp there
  exact ⟨index, subscription, isCurrent, started, same⟩

end Subscriptions
end WhatsGoingOn
