/-
Maps whose values expire.

A value is valid for some time and never becomes valid again.  Readers of a map see only the values
that are valid when they read, so the expired ones can be removed at any time.

Two maps agree from an instant on (`AgreeFrom`) if no reader can tell them apart then or later.  The
relation is kept when the time passes and when both maps are changed in the same way; the main
results are `AgreeFrom.erase_expired` and `AgreeFrom.cleanup`: a map agrees with what is left of it
when one expired value, or all of them, are removed.
-/
import ExternalPodAutoscaler.Lib.Maps

namespace ExternalPodAutoscaler.Lib

/-- When values are valid: a value that is not valid any more does not become valid again. -/
structure Expiring (W : Type) where
  valid : ℕ → W → Bool
  valid_of_le : ∀ {t t' : ℕ} {w : W}, t ≤ t' → valid t' w = true → valid t w = true

namespace Expiring

variable {K W : Type} [DecidableEq K] (E : Expiring W)

/-- The value that a reader of the map sees. -/
def readAt (now : ℕ) (m : AList fun _ : K => W) (k : K) : Option W :=
  (m.lookup k).filter (E.valid now)

/-- The entries with valid values. -/
def cleanup (now : ℕ) (m : AList fun _ : K => W) : AList fun _ : K => W :=
  ⟨m.entries.filter fun entry => E.valid now entry.2, m.nodupKeys.sublist List.filter_sublist⟩

/-- No reader can tell the maps apart, from an instant on. -/
def AgreeFrom (now : ℕ) (m m' : AList fun _ : K => W) : Prop :=
  ∀ t k, now ≤ t → E.readAt t m k = E.readAt t m' k

variable {E} {now t : ℕ} {m m' : AList fun _ : K => W} {k : K} {w : W}

lemma readAt_eq_some_iff :
    E.readAt now m k = some w ↔ m.lookup k = some w ∧ E.valid now w = true :=
  Option.filter_eq_some_iff

/-- A value that cannot be read is never read later. -/
lemma readAt_eq_none_of_le (hle : now ≤ t) (h : E.readAt now m k = none) :
    E.readAt t m k = none := by
  rw [readAt, Option.filter_eq_none_iff] at h ⊢
  intro w hw hvalid
  exact h w hw (E.valid_of_le hle hvalid)

lemma readAt_insert (k' : K) :
    E.readAt now (m.insert k w) k' =
      if k' = k then (some w).filter (E.valid now) else E.readAt now m k' := by
  by_cases hk : k' = k
  · subst hk
    rw [if_pos rfl, readAt, AList.lookup_insert]
  · rw [if_neg hk, readAt, AList.lookup_insert_ne hk, readAt]

lemma readAt_erase (k' : K) :
    E.readAt now (m.erase k) k' = if k' = k then none else E.readAt now m k' := by
  by_cases hk : k' = k
  · subst hk
    rw [if_pos rfl, readAt, AList.lookup_erase]
    rfl
  · rw [if_neg hk, readAt, AList.lookup_erase_ne hk, readAt]

lemma lookup_cleanup_eq_some_iff :
    (E.cleanup now m).lookup k = some w ↔ m.lookup k = some w ∧ E.valid now w = true := by
  rw [← Option.mem_def, ← Option.mem_def, AList.mem_lookup_iff, AList.mem_lookup_iff]
  exact List.mem_filter

namespace AgreeFrom

lemma refl (now : ℕ) (m : AList fun _ : K => W) : E.AgreeFrom now m m := fun _ _ _ => rfl

lemma symm (h : E.AgreeFrom now m m') : E.AgreeFrom now m' m := fun t k hle => (h t k hle).symm

lemma trans {m'' : AList fun _ : K => W} (h : E.AgreeFrom now m m')
    (h' : E.AgreeFrom now m' m'') : E.AgreeFrom now m m'' := fun t k hle =>
  (h t k hle).trans (h' t k hle)

/-- Agreement lasts. -/
lemma of_le (h : E.AgreeFrom now m m') (hle : now ≤ t) : E.AgreeFrom t m m' := fun t' k hle' =>
  h t' k (Nat.le_trans hle hle')

lemma insert (h : E.AgreeFrom now m m') (k : K) (w : W) :
    E.AgreeFrom now (m.insert k w) (m'.insert k w) := by
  intro t k' hle
  rw [readAt_insert, readAt_insert, h t k' hle]

lemma erase (h : E.AgreeFrom now m m') (k : K) : E.AgreeFrom now (m.erase k) (m'.erase k) := by
  intro t k' hle
  rw [readAt_erase, readAt_erase, h t k' hle]

/-- **An expired value can be removed.** -/
theorem erase_expired (h : E.readAt now m k = none) : E.AgreeFrom now (m.erase k) m := by
  intro t k' hle
  rw [readAt_erase]
  split
  · rename_i hk
    rw [hk, readAt_eq_none_of_le hle h]
  · rfl

/-- **All expired values can be removed.** -/
theorem cleanup (now : ℕ) (m : AList fun _ : K => W) : E.AgreeFrom now (E.cleanup now m) m := by
  intro t k hle
  ext w
  rw [readAt_eq_some_iff, readAt_eq_some_iff, lookup_cleanup_eq_some_iff]
  constructor
  · rintro ⟨⟨hw, -⟩, hvalid⟩
    exact ⟨hw, hvalid⟩
  · rintro ⟨hw, hvalid⟩
    exact ⟨⟨hw, E.valid_of_le hle hvalid⟩, hvalid⟩

end AgreeFrom

end Expiring

end ExternalPodAutoscaler.Lib
