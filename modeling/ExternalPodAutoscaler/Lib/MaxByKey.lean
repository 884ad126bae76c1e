/-
The last of the greatest elements of a list under a key.

An election over a set that is only available in some enumeration order picks an
element of greatest key; when several elements share the greatest key, the last of
them in the enumeration wins.  This file sets up that selection on lists, relates it to
`List.argmax`, and shows when its result does not depend on the enumeration:
exactly when a single element has the greatest key
(`maxByKey_agree_iff`), and, for a list that is the concatenation of two separately
enumerated parts, when the last part that holds a greatest element holds only one
(`maxByKey_append_agree_iff`).
-/
import Mathlib.Data.List.MinMax
import Mathlib.Data.List.Perm.Basic

namespace ExternalPodAutoscaler.Lib

variable {α κ : Type*} [LinearOrder κ]

/-- The last of the elements of `l` with the greatest key, `none` for the empty list. -/
def maxByKey (key : α → κ) (l : List α) : Option α := l.reverse.argmax key

/-- `a` is an element of `l` of greatest key. -/
def HasMaxKey (key : α → κ) (l : List α) (a : α) : Prop := a ∈ l ∧ ∀ b ∈ l, key b ≤ key a

variable {key : α → κ} {l l₁ l₂ : List α} {a b m : α}

@[simp] lemma maxByKey_nil : maxByKey key ([] : List α) = none := rfl

@[simp] lemma maxByKey_eq_none : maxByKey key l = none ↔ l = [] := by
  simp [maxByKey]

lemma maxByKey_concat (key : α → κ) (l : List α) (a : α) :
    maxByKey key (l ++ [a]) = Option.casesOn (maxByKey key l) (some a)
      fun c => if key a < key c then some c else some a := by
  simp [maxByKey, List.argmax_cons]

lemma maxByKey_mem (h : maxByKey key l = some m) : m ∈ l := by
  have := List.argmax_mem (Option.mem_def.2 h)
  simpa using this

lemma key_le_of_maxByKey (h : maxByKey key l = some m) (ha : a ∈ l) : key a ≤ key m :=
  List.le_of_mem_argmax (List.mem_reverse.2 ha) (Option.mem_def.2 h)

lemma maxByKey_hasMaxKey (h : maxByKey key l = some m) : HasMaxKey key l m :=
  ⟨maxByKey_mem h, fun _ => key_le_of_maxByKey h⟩

lemma exists_maxByKey (key : α → κ) (h : l ≠ []) : ∃ m, maxByKey key l = some m :=
  Option.ne_none_iff_exists'.1 (maxByKey_eq_none.not.2 h)

lemma HasMaxKey.key_eq (ha : HasMaxKey key l a) (hb : HasMaxKey key l b) : key a = key b :=
  le_antisymm (hb.2 a ha.1) (ha.2 b hb.1)

lemma HasMaxKey.perm (h : l₁.Perm l₂) (ha : HasMaxKey key l₁ a) : HasMaxKey key l₂ a :=
  ⟨h.subset ha.1, fun b hb => ha.2 b (h.symm.subset hb)⟩

/-- The last element wins against every other element of greatest key. -/
lemma maxByKey_concat_of_top (ha : ∀ b ∈ l, key b ≤ key a) :
    maxByKey key (l ++ [a]) = some a := by
  rw [maxByKey_concat]
  cases h : maxByKey key l with
  | none => rfl
  | some c => simp [(ha c (maxByKey_mem h)).not_gt]

/-- An element of greatest key is selected when the enumeration ends with it. -/
lemma HasMaxKey.exists_perm (ha : HasMaxKey key l a) :
    ∃ l', l'.Perm l ∧ maxByKey key l' = some a := by
  obtain ⟨s, t, rfl⟩ := List.append_of_mem ha.1
  refine ⟨(s ++ t) ++ [a], ?_, maxByKey_concat_of_top fun b hb => ha.2 b ?_⟩
  · exact (List.perm_append_singleton a (s ++ t)).trans List.perm_middle.symm
  · simp only [List.mem_append, List.mem_cons] at hb ⊢
    tauto

/-- With a single element of greatest key the selection is that element. -/
lemma HasMaxKey.maxByKey_eq (ha : HasMaxKey key l a) (huniq : ∀ b, HasMaxKey key l b → b = a) :
    maxByKey key l = some a := by
  obtain ⟨m, hm⟩ := exists_maxByKey key (List.ne_nil_of_mem ha.1)
  rw [hm, huniq m (maxByKey_hasMaxKey hm)]

/-- Pairwise distinct keys leave a single element of greatest key. -/
lemma HasMaxKey.eq_of_injOn (hinj : ∀ a ∈ l, ∀ b ∈ l, key a = key b → a = b)
    (ha : HasMaxKey key l a) (hb : HasMaxKey key l b) : a = b :=
  hinj a ha.1 b hb.1 (ha.key_eq hb)

/-- Over an enumeration whose keys are pairwise distinct the selection is the element of
greatest key. -/
lemma maxByKey_eq_some_iff (hinj : ∀ a ∈ l, ∀ b ∈ l, key a = key b → a = b) :
    maxByKey key l = some m ↔ HasMaxKey key l m :=
  ⟨maxByKey_hasMaxKey, fun hm => hm.maxByKey_eq fun _ hb => hb.eq_of_injOn hinj hm⟩

/-- The selection over an enumeration whose keys are pairwise distinct is the same for
every order. -/
lemma maxByKey_perm (hinj : ∀ a ∈ l₁, ∀ b ∈ l₁, key a = key b → a = b) (h : l₁.Perm l₂) :
    maxByKey key l₁ = maxByKey key l₂ := by
  rcases eq_or_ne l₁ [] with rfl | hne
  · rw [List.nil_perm.1 h]
  · obtain ⟨m, hm⟩ := exists_maxByKey key hne
    have htop := maxByKey_hasMaxKey hm
    rw [hm, (htop.perm h).maxByKey_eq fun b hb => (hb.perm h.symm).eq_of_injOn hinj htop]

/-- All enumerations of a list select the same element exactly when a single element has
the greatest key. -/
theorem maxByKey_agree_iff :
    (∀ l₁ l₂ : List α, l₁.Perm l → l₂.Perm l → maxByKey key l₁ = maxByKey key l₂) ↔
      ∀ a b, HasMaxKey key l a → HasMaxKey key l b → a = b := by
  constructor
  · intro hagree a b ha hb
    obtain ⟨la, hla, hma⟩ := ha.exists_perm
    obtain ⟨lb, hlb, hmb⟩ := hb.exists_perm
    have := hagree la lb hla hlb
    rw [hma, hmb] at this
    exact Option.some_injective _ this
  · intro huniq l₁ l₂ h₁ h₂
    rcases eq_or_ne l [] with rfl | hne
    · rw [List.perm_nil.1 h₁, List.perm_nil.1 h₂]
    · obtain ⟨m, hm⟩ := exists_maxByKey key hne
      have htop := maxByKey_hasMaxKey hm
      rw [(htop.perm h₁.symm).maxByKey_eq fun b hb => huniq b m (hb.perm h₁) htop,
        (htop.perm h₂.symm).maxByKey_eq fun b hb => huniq b m (hb.perm h₂) htop]

/-! ### Two separately enumerated parts -/

/-- Over a concatenation, the second part wins unless the first part has a strictly
greater key. -/
lemma maxByKey_append (key : α → κ) (l₁ l₂ : List α) :
    maxByKey key (l₁ ++ l₂) = Option.casesOn (maxByKey key l₂) (maxByKey key l₁)
      fun b => Option.casesOn (maxByKey key l₁) (some b)
        fun a => if key b < key a then some a else some b := by
  induction l₂ using List.reverseRecOn with
  | nil => simp
  | append_singleton l₂ x ih =>
      rw [← List.append_assoc, maxByKey_concat, maxByKey_concat, ih]
      rcases maxByKey key l₁ with _ | a <;> rcases maxByKey key l₂ with _ | b
      · rfl
      · dsimp only
        split <;> rfl
      · rfl
      · dsimp only
        by_cases hba : key b < key a <;> by_cases hxb : key x < key b <;>
          by_cases hxa : key x < key a <;> simp [hba, hxb, hxa]
        · exact absurd (hxb.trans hba) hxa
        · exact absurd (lt_of_lt_of_le hxa (not_lt.1 hba)) hxb

/-- The selected element is at least as great as those before it, and greater than those
after it. -/
lemma maxByKey_eq_some_iff_exists_append : maxByKey key l = some a ↔
    ∃ before after, l = before ++ a :: after ∧ (∀ b ∈ before, key b ≤ key a) ∧
      ∀ b ∈ after, key b < key a := by
  constructor
  · intro h
    induction l using List.reverseRecOn with
    | nil => cases h
    | append_singleton l x ih =>
        rw [maxByKey_concat] at h
        rcases hc : maxByKey key l with _ | c
        · obtain rfl : l = [] := maxByKey_eq_none.1 hc
          obtain rfl : x = a := by simpa using h
          exact ⟨[], [], rfl, by simp, by simp⟩
        · rw [hc] at h
          dsimp only at h
          split at h
          · rename_i hlt
            obtain rfl : c = a := Option.some.inj h
            obtain ⟨before, after, rfl, hbefore, hafter⟩ := ih hc
            refine ⟨before, after ++ [x], by simp, hbefore, fun b hb => ?_⟩
            rcases List.mem_append.1 hb with hb | hb
            · exact hafter b hb
            · exact List.mem_singleton.1 hb ▸ hlt
          · rename_i hge
            obtain rfl : x = a := Option.some.inj h
            refine ⟨l, [], rfl, fun b hb => ?_, by simp⟩
            exact (key_le_of_maxByKey hc hb).trans (not_lt.1 hge)
  · rintro ⟨before, after, rfl, hbefore, hafter⟩
    rw [List.append_cons, maxByKey_append, maxByKey_concat_of_top hbefore]
    rcases hb : maxByKey key after with _ | b
    · rfl
    · exact if_pos (hafter b (maxByKey_mem hb))

/-- When the second part holds an element of greatest key, the selection over the
concatenation is the selection over the second part. -/
lemma maxByKey_append_right (ha : HasMaxKey key (l₁ ++ l₂) a) (hmem : a ∈ l₂) :
    maxByKey key (l₁ ++ l₂) = maxByKey key l₂ := by
  obtain ⟨b, hb⟩ := exists_maxByKey key (List.ne_nil_of_mem hmem)
  rw [maxByKey_append, hb]
  rcases h₁ : maxByKey key l₁ with _ | c
  · rfl
  · have hca : key c ≤ key a := ha.2 c (List.mem_append_left _ (maxByKey_mem h₁))
    have hab : key a ≤ key b := key_le_of_maxByKey hb hmem
    simp [(hca.trans hab).not_gt]

/-- When the second part holds no element of greatest key, the selection over the
concatenation is the selection over the first part. -/
lemma maxByKey_append_left (h : ∀ a ∈ l₂, ¬ HasMaxKey key (l₁ ++ l₂) a) :
    maxByKey key (l₁ ++ l₂) = maxByKey key l₁ := by
  rcases hm : maxByKey key (l₁ ++ l₂) with _ | m
  · have hnil : l₁ ++ l₂ = [] := maxByKey_eq_none.1 hm
    rw [(List.append_eq_nil_iff.1 hnil).1, maxByKey_nil]
  · have htop := maxByKey_hasMaxKey hm
    rcases h₂ : maxByKey key l₂ with _ | b
    · rw [maxByKey_append, h₂] at hm
      exact hm.symm
    · rw [maxByKey_append, h₂] at hm
      rcases h₁ : maxByKey key l₁ with _ | c
      · rw [h₁] at hm
        have hbm : b = m := by simpa using hm
        exact absurd (hbm ▸ htop) (h b (maxByKey_mem h₂))
      · rw [h₁] at hm
        dsimp only at hm
        split at hm
        · exact hm.symm
        · have hbm : b = m := by simpa using hm
          exact absurd (hbm ▸ htop) (h b (maxByKey_mem h₂))

lemma HasMaxKey.append_perm {l₁' l₂' : List α} (h₁ : l₁.Perm l₁') (h₂ : l₂.Perm l₂')
    (ha : HasMaxKey key (l₁ ++ l₂) a) : HasMaxKey key (l₁' ++ l₂') a :=
  ha.perm (h₁.append h₂)

/-- Two parts enumerated separately select the same element in every order exactly when
the second part holds at most one element of greatest key, and, if it holds none, the
first part holds at most one. -/
theorem maxByKey_append_agree_iff :
    (∀ k₁ k₂ m₁ m₂ : List α, k₁.Perm l₁ → m₁.Perm l₁ → k₂.Perm l₂ → m₂.Perm l₂ →
        maxByKey key (k₁ ++ k₂) = maxByKey key (m₁ ++ m₂)) ↔
      (∀ a ∈ l₂, ∀ b ∈ l₂, HasMaxKey key (l₁ ++ l₂) a → HasMaxKey key (l₁ ++ l₂) b → a = b) ∧
      ((∀ a ∈ l₂, ¬ HasMaxKey key (l₁ ++ l₂) a) →
        ∀ a b, HasMaxKey key (l₁ ++ l₂) a → HasMaxKey key (l₁ ++ l₂) b → a = b) := by
  -- an element of greatest key of the whole that lies in a part tops that part
  have top_left : ∀ a, a ∈ l₁ → HasMaxKey key (l₁ ++ l₂) a → HasMaxKey key l₁ a := fun a hmem ha =>
    ⟨hmem, fun b hb => ha.2 b (List.mem_append_left _ hb)⟩
  have top_right : ∀ a, a ∈ l₂ → HasMaxKey key (l₁ ++ l₂) a → HasMaxKey key l₂ a := fun a hmem ha =>
    ⟨hmem, fun b hb => ha.2 b (List.mem_append_right _ hb)⟩
  constructor
  · intro hagree
    refine ⟨fun a ha b hb hta htb => ?_, fun hnone a b hta htb => ?_⟩
    · obtain ⟨k, hk, hka⟩ := (top_right a ha hta).exists_perm
      obtain ⟨m, hm, hmb⟩ := (top_right b hb htb).exists_perm
      have := hagree l₁ k l₁ m (List.Perm.refl _) (List.Perm.refl _) hk hm
      rw [maxByKey_append_right (hta.append_perm (List.Perm.refl _) hk.symm)
          (hk.symm.subset ha), hka,
        maxByKey_append_right (htb.append_perm (List.Perm.refl _) hm.symm)
          (hm.symm.subset hb), hmb] at this
      exact Option.some_injective _ this
    · have left_of : ∀ c, HasMaxKey key (l₁ ++ l₂) c → c ∈ l₁ := fun c hc =>
        (List.mem_append.1 hc.1).resolve_right fun hmem => hnone c hmem hc
      obtain ⟨k, hk, hka⟩ := (top_left a (left_of a hta) hta).exists_perm
      obtain ⟨m, hm, hmb⟩ := (top_left b (left_of b htb) htb).exists_perm
      have := hagree k l₂ m l₂ hk hm (List.Perm.refl _) (List.Perm.refl _)
      rw [maxByKey_append_left fun c hc hct =>
          hnone c hc (hct.append_perm hk (List.Perm.refl _)), hka,
        maxByKey_append_left fun c hc hct =>
          hnone c hc (hct.append_perm hm (List.Perm.refl _)), hmb] at this
      exact Option.some_injective _ this
  · rintro ⟨hright, hleft⟩ k₁ k₂ m₁ m₂ hk₁ hm₁ hk₂ hm₂
    by_cases hex : ∃ a ∈ l₂, HasMaxKey key (l₁ ++ l₂) a
    · obtain ⟨a, ha, hta⟩ := hex
      rw [maxByKey_append_right (hta.append_perm hk₁.symm hk₂.symm) (hk₂.symm.subset ha),
        maxByKey_append_right (hta.append_perm hm₁.symm hm₂.symm) (hm₂.symm.subset ha)]
      refine maxByKey_agree_iff.2 (fun b c hb hc => ?_) k₂ m₂ hk₂ hm₂
      have whole : ∀ d, HasMaxKey key l₂ d → HasMaxKey key (l₁ ++ l₂) d := fun d hd =>
        ⟨List.mem_append_right _ hd.1, fun e he => (hta.2 e he).trans (hd.2 a ha)⟩
      exact hright b hb.1 c hc.1 (whole b hb) (whole c hc)
    · have hnone : ∀ a ∈ l₂, ¬ HasMaxKey key (l₁ ++ l₂) a := fun a ha hta => hex ⟨a, ha, hta⟩
      exact maxByKey_agree_iff.2 (hleft hnone) _ _ (hk₁.append hk₂) (hm₁.append hm₂)

end ExternalPodAutoscaler.Lib
