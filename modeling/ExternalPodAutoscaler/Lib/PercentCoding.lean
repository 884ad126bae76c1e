/-
Percent coding.

A percent-encoded text writes bytes as a percent sign and two hexadecimal digits.  Decoding
takes every such escape to its byte and every other character to its bytes in UTF-8; encoding
writes the characters of a set as the escapes of their bytes and keeps all others, percent signs
included.

Decoding does not see an encoding (`percentDecode_percentEncode`).  It makes no text longer, and
gives exactly the texts without escapes back (`percentDecode_eq_iff`, `length_percentDecode_le`).
-/
import Mathlib.Algebra.GroupWithZero.Nat
import Mathlib.Data.List.Infix
import Mathlib.Tactic.Common

namespace ExternalPodAutoscaler.Lib

/-- Hexadecimal digits. -/
def isHexDigit (c : Char) : Bool :=
  ('0' ≤ c && c ≤ '9') || ('a' ≤ c && c ≤ 'f') || ('A' ≤ c && c ≤ 'F')

/-- The value of a hexadecimal digit. -/
def hexValue (c : Char) : ℕ :=
  if c ≤ '9' then c.toNat - '0'.toNat
  else if c ≤ 'F' then c.toNat - 'A'.toNat + 10
  else c.toNat - 'a'.toNat + 10

/-- The hexadecimal digit of a value, with the letters in upper case. -/
def hexDigit (n : ℕ) : Char :=
  if n < 10 then Char.ofNat ('0'.toNat + n) else Char.ofNat ('A'.toNat + n - 10)

/-- The bytes of a text in UTF-8. -/
def utf8Bytes (s : List Char) : List UInt8 := s.flatMap String.utf8EncodeChar

/-- The bytes of a percent-encoded text. -/
def percentDecode : List Char → List UInt8
  | c :: a :: b :: s =>
    if c = '%' ∧ isHexDigit a ∧ isHexDigit b then
      UInt8.ofNat (16 * hexValue a + hexValue b) :: percentDecode s
    else String.utf8EncodeChar c ++ percentDecode (a :: b :: s)
  | c :: s => String.utf8EncodeChar c ++ percentDecode s
  | [] => []

/-- The text of a percent-encoded text, unless its bytes are no text. -/
def decodeText (s : List Char) : Option String := String.fromUTF8? (percentDecode s).toByteArray

/-- The escape of a byte. -/
def escape (b : UInt8) : List Char := ['%', hexDigit (b.toNat / 16), hexDigit (b.toNat % 16)]

/-- Writes the characters of a set as escapes. -/
def percentEncode (p : Char → Bool) (s : List Char) : List Char :=
  s.flatMap fun c => if p c then (String.utf8EncodeChar c).flatMap escape else [c]

/-- The text has an escape. -/
def HasEscape (s : List Char) : Prop :=
  ∃ a b, isHexDigit a = true ∧ isHexDigit b = true ∧ ['%', a, b] <:+: s

variable {p : Char → Bool} {a b c : Char} {s t : List Char}

/-! ### Decoding -/

/-- The text starts with an escape. -/
def StartsWithEscape (s : List Char) : Prop :=
  ∃ a b t, s = '%' :: a :: b :: t ∧ isHexDigit a = true ∧ isHexDigit b = true

lemma StartsWithEscape.hasEscape (h : StartsWithEscape s) : HasEscape s := by
  obtain ⟨a, b, t, rfl, ha, hb⟩ := h
  exact ⟨a, b, ha, hb, [], t, rfl⟩

lemma HasEscape.cons (h : HasEscape s) (c : Char) : HasEscape (c :: s) := by
  obtain ⟨a, b, ha, hb, hinfix⟩ := h
  exact ⟨a, b, ha, hb, hinfix.trans (List.suffix_cons c s).isInfix⟩

lemma hasEscape_cons_iff : HasEscape (c :: s) ↔ StartsWithEscape (c :: s) ∨ HasEscape s := by
  constructor
  · rintro ⟨a, b, ha, hb, hinfix⟩
    rcases List.infix_cons_iff.1 hinfix with ⟨t, ht⟩ | hinfix
    · exact Or.inl ⟨a, b, t, ht.symm, ha, hb⟩
    · exact Or.inr ⟨a, b, ha, hb, hinfix⟩
  · rintro (h | h)
    · exact h.hasEscape
    · exact h.cons c

lemma percentDecode_escape (ha : isHexDigit a = true) (hb : isHexDigit b = true) :
    percentDecode ('%' :: a :: b :: s) =
      UInt8.ofNat (16 * hexValue a + hexValue b) :: percentDecode s := by
  rw [percentDecode, if_pos ⟨rfl, ha, hb⟩]

lemma percentDecode_cons (h : ¬ StartsWithEscape (c :: s)) :
    percentDecode (c :: s) = String.utf8EncodeChar c ++ percentDecode s := by
  rcases s with _ | ⟨a, _ | ⟨b, t⟩⟩
  · rfl
  · rfl
  · rw [percentDecode, if_neg]
    rintro ⟨rfl, ha, hb⟩
    exact h ⟨a, b, t, rfl, ha, hb⟩

/-- Decoding, one escape or one other character at a time. -/
theorem percentDecode_induction {motive : List Char → Prop} (nil : motive [])
    (escape : ∀ a b s, isHexDigit a = true → isHexDigit b = true → motive s →
      motive ('%' :: a :: b :: s))
    (other : ∀ c s, ¬ StartsWithEscape (c :: s) → motive s → motive (c :: s)) (s : List Char) :
    motive s := by
  induction s using percentDecode.induct with
  | case1 c a b s h ih =>
      obtain ⟨rfl, ha, hb⟩ := h
      exact escape a b s ha hb ih
  | case2 c a b s h ih =>
      refine other c _ ?_ ih
      rintro ⟨a', b', t, heq, ha, hb⟩
      obtain ⟨rfl, rfl, rfl, rfl⟩ : c = '%' ∧ a = a' ∧ b = b' ∧ s = t := by simpa using heq
      exact h ⟨rfl, ha, hb⟩
  | case3 c s h ih =>
      refine other c s ?_ ih
      rintro ⟨a, b, t, heq, -, -⟩
      exact h a b t (List.cons.inj heq).2
  | case4 => exact nil

@[simp] lemma utf8Bytes_cons : utf8Bytes (c :: s) = String.utf8EncodeChar c ++ utf8Bytes s := rfl

lemma utf8Bytes_eq_nil_iff : utf8Bytes s = [] ↔ s = [] := by
  rcases s with _ | ⟨c, s⟩
  · exact iff_of_true rfl rfl
  · simp

/-- A text without escapes is decoded to its bytes. -/
lemma percentDecode_eq_utf8Bytes (h : ¬ HasEscape s) : percentDecode s = utf8Bytes s := by
  induction s with
  | nil => rfl
  | cons c s ih =>
      rw [hasEscape_cons_iff, not_or] at h
      rw [percentDecode_cons h.1, ih h.2, utf8Bytes_cons]

/-- Decoding makes no text longer, and each text with an escape shorter. -/
lemma length_percentDecode_le (s : List Char) :
    (percentDecode s).length ≤ (s.map Char.utf8Size).sum ∧
    (HasEscape s → (percentDecode s).length < (s.map Char.utf8Size).sum) := by
  induction s using percentDecode_induction with
  | nil =>
      refine ⟨le_refl _, ?_⟩
      rintro ⟨a, b, -, -, hinfix⟩
      simp at hinfix
  | escape a b s ha hb ih =>
      have hsize : '%'.utf8Size = 1 := by decide
      have hlt : (percentDecode ('%' :: a :: b :: s)).length <
          (('%' :: a :: b :: s).map Char.utf8Size).sum := by
        rw [percentDecode_escape ha hb]
        have hpos := a.utf8Size_pos
        simp only [List.length_cons, List.map_cons, List.sum_cons]
        omega
      exact ⟨hlt.le, fun _ => hlt⟩
  | other c s h ih =>
      rw [percentDecode_cons h, hasEscape_cons_iff, or_iff_right h]
      simp only [List.length_append, String.length_utf8EncodeChar, List.map_cons, List.sum_cons]
      exact ⟨by omega, fun hs => by have := ih.2 hs; omega⟩

lemma length_utf8Bytes (s : List Char) : (utf8Bytes s).length = (s.map Char.utf8Size).sum := by
  induction s with
  | nil => rfl
  | cons c s ih => simp [ih]

lemma percentDecode_eq_nil_iff : percentDecode s = [] ↔ s = [] := by
  refine ⟨fun h => ?_, fun h => h ▸ rfl⟩
  induction s using percentDecode_induction with
  | nil => rfl
  | escape a b s ha hb ih =>
      rw [percentDecode_escape ha hb] at h
      cases h
  | other c s hs ih =>
      rw [percentDecode_cons hs] at h
      exact absurd (List.append_eq_nil_iff.1 h).1 String.utf8EncodeChar_ne_nil

/-- The texts that are decoded to their own bytes are those without escapes. -/
lemma percentDecode_eq_iff : percentDecode s = utf8Bytes s ↔ ¬ HasEscape s := by
  refine ⟨fun h hescape => ?_, percentDecode_eq_utf8Bytes⟩
  have hlt := (length_percentDecode_le s).2 hescape
  rw [h, length_utf8Bytes] at hlt
  exact lt_irrefl _ hlt

lemma decodeText_eq_some_iff {text : String} :
    decodeText s = some text ↔ percentDecode s = utf8Bytes text.toList := by
  have hbytes : (utf8Bytes text.toList).toByteArray = text.toByteArray := String.utf8Encode_toList
  have hinj : percentDecode s = utf8Bytes text.toList ↔
      (percentDecode s).toByteArray = text.toByteArray := by
    rw [← hbytes]
    refine ⟨congrArg _, fun h => ?_⟩
    rw [← List.toList_data_toByteArray (l := percentDecode s), h, List.toList_data_toByteArray]
  rw [hinj, decodeText, String.fromUTF8?]
  split
  · rename_i hvalid
    rw [Option.some.injEq, ← String.toByteArray_inj]
    rfl
  · rename_i hvalid
    refine iff_of_false nofun fun h => hvalid ?_
    rw [h]
    exact text.isValidUTF8

/-! ### Encoding -/

lemma isHexDigit_hexDigit {n : ℕ} (hn : n < 16) :
    isHexDigit (hexDigit n) = true ∧ hexValue (hexDigit n) = n := by
  have hall : ∀ n < 16, isHexDigit (hexDigit n) = true ∧ hexValue (hexDigit n) = n := by decide
  exact hall n hn

lemma percentDecode_flatMap_escape (bytes : List UInt8) (s : List Char) :
    percentDecode (bytes.flatMap escape ++ s) = bytes ++ percentDecode s := by
  induction bytes with
  | nil => rfl
  | cons byte bytes ih =>
      have hbyte := byte.toNat_lt
      have hhigh : byte.toNat / 16 < 16 := by omega
      have hlow : byte.toNat % 16 < 16 := Nat.mod_lt _ (by decide)
      have hvalue : UInt8.ofNat (16 * hexValue (hexDigit (byte.toNat / 16)) +
          hexValue (hexDigit (byte.toNat % 16))) = byte := by
        rw [(isHexDigit_hexDigit hhigh).2, (isHexDigit_hexDigit hlow).2, Nat.div_add_mod,
          UInt8.ofNat_toNat]
      rw [List.flatMap_cons, List.append_assoc, escape]
      show percentDecode ('%' :: _ :: _ :: (bytes.flatMap escape ++ s)) = _
      rw [percentDecode_escape (isHexDigit_hexDigit hhigh).1 (isHexDigit_hexDigit hlow).1, hvalue,
        ih, List.cons_append]

lemma percentEncode_cons_of_pos (h : p c = true) :
    percentEncode p (c :: s) = (String.utf8EncodeChar c).flatMap escape ++ percentEncode p s := by
  simp [percentEncode, h]

lemma percentEncode_cons_of_neg (h : p c = false) :
    percentEncode p (c :: s) = c :: percentEncode p s := by
  simp [percentEncode, h]

lemma percentEncode_eq_nil_iff : percentEncode p s = [] ↔ s = [] := by
  rcases s with _ | ⟨c, s⟩
  · exact iff_of_true rfl rfl
  · rcases hc : p c with _ | _
    · simp [percentEncode_cons_of_neg hc]
    · obtain ⟨byte, bytes, hbytes⟩ :=
        List.exists_cons_of_ne_nil (String.utf8EncodeChar_ne_nil (c := c))
      simp [percentEncode_cons_of_pos hc, hbytes, escape]

/-- Encoding puts no digit in front: one that stands there was there before. -/
lemma of_percentEncode_eq_cons (h : percentEncode p s = a :: t) (ha : isHexDigit a = true) :
    ∃ s', s = a :: s' ∧ percentEncode p s' = t := by
  rcases s with _ | ⟨c, s⟩
  · cases h
  · rcases hc : p c with _ | _
    · rw [percentEncode_cons_of_neg hc, List.cons.injEq] at h
      exact ⟨s, by rw [h.1], h.2⟩
    · rw [percentEncode_cons_of_pos hc] at h
      obtain ⟨byte, bytes, hbytes⟩ :=
        List.exists_cons_of_ne_nil (String.utf8EncodeChar_ne_nil (c := c))
      rw [hbytes] at h
      obtain rfl : '%' = a := (List.cons.inj h).1
      exact absurd ha (by decide)

/-- Decoding does not see an encoding that keeps percent signs and digits. -/
theorem percentDecode_percentEncode (hpercent : p '%' = false)
    (hdigit : ∀ c, isHexDigit c = true → p c = false) (s : List Char) :
    percentDecode (percentEncode p s) = percentDecode s := by
  induction s using percentDecode_induction with
  | nil => rfl
  | escape a b s ha hb ih =>
      rw [percentEncode_cons_of_neg hpercent, percentEncode_cons_of_neg (hdigit a ha),
        percentEncode_cons_of_neg (hdigit b hb), percentDecode_escape ha hb,
        percentDecode_escape ha hb, ih]
  | other c s h ih =>
      rcases hc : p c with _ | _
      · rw [percentEncode_cons_of_neg hc, percentDecode_cons h, percentDecode_cons, ih]
        rintro ⟨a, b, t, heq, ha, hb⟩
        obtain ⟨rfl, htail⟩ := List.cons.inj heq
        obtain ⟨s', rfl, htail'⟩ := of_percentEncode_eq_cons htail ha
        obtain ⟨s'', rfl, -⟩ := of_percentEncode_eq_cons htail' hb
        exact h ⟨a, b, s'', rfl, ha, hb⟩
      · rw [percentEncode_cons_of_pos hc, percentDecode_flatMap_escape, ih, percentDecode_cons h]

end ExternalPodAutoscaler.Lib
