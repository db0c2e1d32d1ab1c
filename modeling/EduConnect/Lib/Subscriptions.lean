import Mathlib.Data.List.Nodup
import Mathlib.Logic.Function.Basic

/-!
# Subscriptions held in fields

A screen listens to streams and keeps each subscription in a field, one for each stream.  Listening
again overwrites the field without ending the subscription it held, which nobody can cancel any
more.
-/

namespace Lib

/-- The active subscriptions, with their numbers, and the ones the fields hold. -/
structure Subscriptions (κ : Type) where
  next : ℕ := 0
  active : List (κ × ℕ) := []
  held : κ → Option ℕ := fun _ => none

namespace Subscriptions

variable {κ : Type} [DecidableEq κ]

/-- `field = stream.listen(..)`. -/
def listen (s : Subscriptions κ) (k : κ) : Subscriptions κ where
  next := s.next + 1
  active := s.active ++ [(k, s.next)]
  held := Function.update s.held k (some s.next)

/-- `field?.cancel()`. -/
def cancel (s : Subscriptions κ) (k : κ) : Subscriptions κ :=
  match s.held k with
  | none => s
  | some n => { s with active := s.active.filter (· ≠ (k, n)) }

def listenAll (s : Subscriptions κ) (ks : List κ) : Subscriptions κ := ks.foldl listen s

def cancelAll (s : Subscriptions κ) (ks : List κ) : Subscriptions κ := ks.foldl cancel s

/-- At most one subscription of each stream is active. -/
def AtMostOne (s : Subscriptions κ) : Prop := (s.active.map Prod.fst).Nodup

instance (s : Subscriptions κ) : Decidable s.AtMostOne :=
  inferInstanceAs (Decidable (s.active.map Prod.fst).Nodup)

/-- Each active subscription is of one of the streams `ks` and held in its field. -/
def Tracked (s : Subscriptions κ) (ks : List κ) : Prop :=
  ∀ a ∈ s.active, a.1 ∈ ks ∧ s.held a.1 = some a.2

variable {s : Subscriptions κ} {ks : List κ}

omit [DecidableEq κ] in
theorem tracked_of_empty (h : s.active = []) : s.Tracked ks := by
  intro a ha
  rw [h] at ha
  cases ha

theorem active_listenAll (s : Subscriptions κ) (ks : List κ) :
    (s.listenAll ks).active.map Prod.fst = s.active.map Prod.fst ++ ks := by
  induction ks generalizing s with
  | nil => exact (List.append_nil _).symm
  | cons k ks ih =>
    show ((s.listen k).listenAll ks).active.map Prod.fst = _
    rw [ih, listen, List.map_append, List.append_assoc]
    rfl

theorem next_listenAll (s : Subscriptions κ) (ks : List κ) :
    (s.listenAll ks).next = s.next + ks.length := by
  induction ks generalizing s with
  | nil => rfl
  | cons k ks ih =>
    show ((s.listen k).listenAll ks).next = _
    rw [ih]
    show s.next + 1 + ks.length = s.next + (ks.length + 1)
    omega

theorem next_cancelAll (s : Subscriptions κ) (ks : List κ) : (s.cancelAll ks).next = s.next := by
  induction ks generalizing s with
  | nil => rfl
  | cons k ks ih =>
    show ((s.cancel k).cancelAll ks).next = _
    rw [ih, cancel]
    rcases s.held k with _ | n <;> rfl

theorem active_cancelAll_subset (s : Subscriptions κ) (ks : List κ) :
    (s.cancelAll ks).active ⊆ s.active ∧ (s.cancelAll ks).held = s.held := by
  induction ks generalizing s with
  | nil => exact ⟨List.Subset.refl _, rfl⟩
  | cons k ks ih =>
    obtain ⟨hsub, hheld⟩ := ih (s.cancel k)
    have hcancel : (s.cancel k).active ⊆ s.active ∧ (s.cancel k).held = s.held := by
      unfold cancel
      rcases s.held k with _ | n
      · exact ⟨List.Subset.refl _, rfl⟩
      · exact ⟨List.filter_subset_self _, rfl⟩
    exact ⟨List.Subset.trans hsub hcancel.1, hheld.trans hcancel.2⟩

theorem not_mem_cancel {k : κ} {n : ℕ} (h : s.held k = some n) : (k, n) ∉ (s.cancel k).active := by
  unfold cancel
  rw [h]
  intro hmem
  exact of_decide_eq_true (List.mem_filter.mp hmem).2 rfl

theorem not_mem_cancelAll {a : κ × ℕ} (hk : a.1 ∈ ks) (h : s.held a.1 = some a.2) :
    a ∉ (s.cancelAll ks).active := by
  induction ks generalizing s with
  | nil => cases hk
  | cons k ks ih =>
    have hcancel := active_cancelAll_subset s [k]
    rcases List.mem_cons.mp hk with rfl | hk
    · exact fun hmem => not_mem_cancel h ((active_cancelAll_subset (s.cancel a.1) ks).1 hmem)
    · exact ih hk (hcancel.2 ▸ h)

/-- Tracked subscriptions can all be cancelled. -/
theorem active_cancelAll_of_tracked (h : s.Tracked ks) : (s.cancelAll ks).active = [] := by
  refine List.eq_nil_iff_forall_not_mem.mpr fun a ha => ?_
  obtain ⟨hk, hheld⟩ := h a ((active_cancelAll_subset s ks).1 ha)
  exact not_mem_cancelAll hk hheld ha

omit [DecidableEq κ] in
theorem Tracked.mono {ks' : List κ} (h : s.Tracked ks) (hsub : ks ⊆ ks') : s.Tracked ks' :=
  fun a ha => ⟨hsub (h a ha).1, (h a ha).2⟩

/-- Listening keeps track, where no stream is listened to twice. -/
theorem held_listenAll (hs : ∀ a ∈ s.active, a.1 ∉ ks ∧ s.held a.1 = some a.2) (hks : ks.Nodup) :
    ∀ a ∈ (s.listenAll ks).active, (s.listenAll ks).held a.1 = some a.2 := by
  induction ks generalizing s with
  | nil => exact fun a ha => (hs a ha).2
  | cons k ks ih =>
    obtain ⟨hnot, hks⟩ := List.nodup_cons.mp hks
    refine ih (fun a ha => ?_) hks
    rcases List.mem_append.mp ha with ha | ha
    · obtain ⟨hk, hheld⟩ := hs a ha
      have hne : a.1 ≠ k := fun h => hk (h ▸ List.mem_cons_self)
      exact ⟨fun h => hk (List.mem_cons_of_mem k h), (Function.update_of_ne hne _ _).trans hheld⟩
    · obtain rfl := List.mem_singleton.mp ha
      exact ⟨hnot, Function.update_self _ _ _⟩

/-- Listening to each stream, none of which was listened to, keeps track of all. -/
theorem tracked_listenAll (h : s.active = []) (hks : ks.Nodup) : (s.listenAll ks).Tracked ks := by
  intro a ha
  have hkeys := active_listenAll s ks
  rw [h] at hkeys
  refine ⟨?_, held_listenAll (fun a ha => ?_) hks a ha⟩
  · have hmem := List.mem_map_of_mem (f := Prod.fst) ha
    rwa [hkeys] at hmem
  · rw [h] at ha
    cases ha

theorem atMostOne_listenAll (h : s.active = []) (hks : ks.Nodup) : (s.listenAll ks).AtMostOne := by
  unfold AtMostOne
  rw [active_listenAll, h]
  exact hks

/-- Listening to a stream that is listened to leaves two of its subscriptions active. -/
theorem not_atMostOne_listenAll {k : κ} (h : k ∈ s.active.map Prod.fst) (hk : k ∈ ks) :
    ¬(s.listenAll ks).AtMostOne := by
  unfold AtMostOne
  rw [active_listenAll]
  exact fun hnodup => (List.nodup_append.mp hnodup).2.2 k h k hk rfl

end Subscriptions

end Lib
