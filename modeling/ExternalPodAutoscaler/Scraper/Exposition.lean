/-
Round trip of the Prometheus text format (`scraper/parser.rs`).

The families of a response are written with a TYPE line before their samples; the values of
labels are quoted, with backslashes, double quotes and line feeds escaped.  The parser does not
undo the escapes, and it cuts at white space and commas whether they are quoted or not.

The main result of this file is `exposition_round_trip_iff`: the parser gives back what was
written exactly when the values of all labels are plain.  A comma in one value is enough to
lose it (`comma_in_label_value`).
-/
import ExternalPodAutoscaler.Scraper.Parser
import ExternalPodAutoscaler.Webhook.Durations

namespace ExternalPodAutoscaler.Scraper

open ExternalPodAutoscaler.Lib ExternalPodAutoscaler.Store
open ExternalPodAutoscaler.Webhook

/-! ### What is written -/

/-- A letter or an underscore. -/
def isLetter (c : Char) : Bool := ('a' ≤ c && c ≤ 'z') || ('A' ≤ c && c ≤ 'Z') || c == '_'

/-- A character of the name of a metric. -/
def isNameChar (c : Char) : Bool := isLetter c || isDigit c || c == ':'

/-- Names of labels: `[a-zA-Z_][a-zA-Z0-9_]*`. -/
def IsLabelName (s : List Char) : Prop :=
  ∃ c cs, s = c :: cs ∧ isLetter c = true ∧ ∀ d ∈ cs, isLetter d = true ∨ isDigit d = true

/-- Names of metrics: `[a-zA-Z_:][a-zA-Z0-9_:]*`. -/
def IsMetricName (s : List Char) : Prop :=
  ∃ c cs, s = c :: cs ∧ (isLetter c = true ∨ c = ':') ∧ ∀ d ∈ cs, isNameChar d = true

/-- A non-empty text without white space. -/
def IsToken (s : List Char) : Prop := s ≠ [] ∧ ∀ c ∈ s, isWhitespace c = false

structure ExposedLabel where
  name : String
  value : String
  isName : IsLabelName name.toList

/-- A sample of a family, with the text of its value and of its timestamp. -/
structure ExposedSample {V : Type} (parseF64 : List Char → Option V) where
  labels : List ExposedLabel
  value : V
  valueText : List Char
  timestamp : Option (List Char)
  distinct : (labels.map ExposedLabel.name).Nodup
  valueToken : IsToken valueText
  parses : parseF64 valueText = some value
  timestampToken : ∀ t, timestamp = some t → IsToken t

structure MetricFamily {V : Type} (parseF64 : List Char → Option V) where
  name : String
  type : MetricType
  samples : List (ExposedSample parseF64)
  isName : IsMetricName name.toList

def escapeChar (c : Char) : List Char :=
  if c = '\\' then ['\\', '\\']
  else if c = '"' then ['\\', '"']
  else if c = '\n' then ['\\', 'n']
  else [c]

def escape (s : List Char) : List Char := s.flatMap escapeChar

/-- The value of a label, escaped and in double quotes. -/
def quoted (s : List Char) : List Char := '"' :: escape s ++ ['"']

def labelText (l : ExposedLabel) : List Char := l.name.toList ++ '=' :: quoted l.value.toList

def labelsText (ls : List ExposedLabel) : List Char :=
  if ls = [] then [] else '{' :: [','].intercalate (ls.map labelText) ++ ['}']

def typeText : MetricType → List Char
  | .counter => "counter".toList
  | .gauge => "gauge".toList

section Text

variable {V : Type} {parseF64 : List Char → Option V}

/-- The line of a sample. -/
def sampleLine (name : List Char) (s : ExposedSample parseF64) : List Char :=
  (name ++ labelsText s.labels) ++
    ' ' :: (s.valueText ++ s.timestamp.elim [] fun t => ' ' :: t)

/-- The TYPE line of a family. -/
def typeLine (f : MetricFamily parseF64) : List Char :=
  typePrefix ++ f.name.toList ++ ' ' :: typeText f.type

/-- The lines of a family. -/
def familyLines (f : MetricFamily parseF64) : List (List Char) :=
  typeLine f :: f.samples.map (sampleLine f.name.toList)

/-- The text of a list of families. -/
def exposition (families : List (MetricFamily parseF64)) : String :=
  String.ofList ((families.flatMap familyLines).flatMap (· ++ ['\n']))

/-- The parsed series is the sample of the family: the name, the labels, the value and the type
are the same. -/
structure Matches (f : MetricFamily parseF64) (s : ExposedSample parseF64)
    (m : ParsedMetric V) : Prop where
  name : m.name = f.name
  labels : ∀ key, m.labels.lookup key = (s.labels.map fun l => (l.name, l.value)).lookup key
  value : m.value = s.value
  type : m.metricType = f.type

/-- The text is parsed into the samples of the families, in their order. -/
def RoundTrips (families : List (MetricFamily parseF64)) : Prop :=
  ∃ metrics, parsePrometheusText parseF64 (exposition families) = pure metrics ∧
    List.Forall₂ (fun p m => Matches p.1 p.2 m)
      (families.flatMap fun f => f.samples.map fun s => (f, s)) metrics

end Text

/-- Neither white space nor a comma, a double quote or a backslash. -/
def PlainValue (s : String) : Prop :=
  ∀ c ∈ s.toList, isWhitespace c = false ∧ c ≠ ',' ∧ c ≠ '"' ∧ c ≠ '\\'

/-! ### Names and escapes -/

lemma isNameChar_of_letter {c : Char} (h : isLetter c = true) : isNameChar c = true := by
  simp [isNameChar, h]

lemma isNameChar_of_digit {c : Char} (h : isDigit c = true) : isNameChar c = true := by
  simp [isNameChar, h]

lemma IsLabelName.isNameChar {s : List Char} (h : IsLabelName s) :
    s ≠ [] ∧ ∀ c ∈ s, isNameChar c = true := by
  obtain ⟨c, cs, rfl, hc, hcs⟩ := h
  refine ⟨List.cons_ne_nil _ _, fun d hd => ?_⟩
  rcases List.mem_cons.1 hd with rfl | hd
  · exact isNameChar_of_letter hc
  · exact (hcs d hd).elim isNameChar_of_letter isNameChar_of_digit

lemma IsMetricName.isNameChar {s : List Char} (h : IsMetricName s) :
    s ≠ [] ∧ ∀ c ∈ s, isNameChar c = true := by
  obtain ⟨c, cs, rfl, hc, hcs⟩ := h
  refine ⟨List.cons_ne_nil _ _, fun d hd => ?_⟩
  rcases List.mem_cons.1 hd with rfl | hd
  · rcases hc with hc | rfl
    · exact isNameChar_of_letter hc
    · decide
  · exact hcs d hd

lemma ne_of_isNameChar {c d : Char} (hc : isNameChar c = true) (hd : isNameChar d = false) :
    c ≠ d := by
  rintro rfl
  exact absurd hc (by simp [hd])

/-- The other characters are not in a name. -/
lemma not_mem_of_isNameChar {s : List Char} {d : Char} (h : ∀ c ∈ s, isNameChar c = true)
    (hd : isNameChar d = false) : d ∉ s :=
  fun hmem => ne_of_isNameChar (h d hmem) hd rfl

lemma isWhitespace_space : isWhitespace ' ' = true := by
  decide

lemma isWhitespace_of_isNameChar {c : Char} (h : isNameChar c = true) :
    isWhitespace c = false := by
  have hbounds : 48 ≤ c.toNat ∧ c.toNat ≤ 122 := by
    simp only [isNameChar, isLetter, isDigit, Bool.or_eq_true, Bool.and_eq_true, beq_iff_eq,
      decide_eq_true_eq, Char.le_def, UInt32.le_iff_toNat_le] at h
    rcases h with (((h | h) | rfl) | h) | rfl
    · exact ⟨le_trans (by decide) h.1, h.2⟩
    · exact ⟨le_trans (by decide) h.1, le_trans h.2 (by decide)⟩
    · decide
    · exact ⟨h.1, le_trans h.2 (by decide)⟩
    · decide
  simp only [isWhitespace, Bool.or_eq_false_iff, Bool.and_eq_false_iff, beq_eq_false_iff_ne,
    decide_eq_false_iff_not, ne_eq]
  omega

lemma mem_escapeChar {c d : Char} (h : d ∈ escapeChar c) :
    (d = c ∧ c ≠ '\n') ∨ d = '\\' ∨ d = 'n' := by
  unfold escapeChar at h
  split at h
  · right
    left
    simpa using h
  · split at h
    · rename_i hc
      subst hc
      rcases List.mem_cons.1 h with h | h
      · exact Or.inr (Or.inl h)
      · exact Or.inl ⟨List.mem_singleton.1 h, by decide⟩
    · split at h
      · right
        simpa using h
      · rename_i hc
        exact Or.inl ⟨List.mem_singleton.1 h, hc⟩

/-- The characters of an escaped value. -/
lemma mem_escape {d : Char} {s : List Char} (h : d ∈ escape s) :
    (d ∈ s ∧ d ≠ '\n') ∨ d = '\\' ∨ d = 'n' := by
  obtain ⟨c, hc, hd⟩ := List.mem_flatMap.1 h
  rcases mem_escapeChar hd with ⟨rfl, hne⟩ | h
  · exact Or.inl ⟨hc, hne⟩
  · exact Or.inr h

lemma escape_eq_self {s : List Char} (h : ∀ c ∈ s, c ≠ '"' ∧ c ≠ '\\' ∧ c ≠ '\n') :
    escape s = s := by
  induction s with
  | nil => rfl
  | cons c s ih =>
      obtain ⟨hquote, hslash, hfeed⟩ := h c List.mem_cons_self
      have hrest : escape s = s := ih fun d hd => h d (List.mem_cons_of_mem _ hd)
      have hchar : escapeChar c = [c] := by
        simp only [escapeChar, if_neg hslash, if_neg hquote, if_neg hfeed]
      show escapeChar c ++ escape s = c :: s
      rw [hchar, hrest]
      rfl

/-- Every escape adds a backslash. -/
lemma count_escape (s : List Char) :
    (escape s).count '\\' = 2 * s.count '\\' + s.count '"' + s.count '\n' := by
  induction s with
  | nil => rfl
  | cons c s ih =>
      have hchar : (escapeChar c).count '\\' =
          2 * [c].count '\\' + [c].count '"' + [c].count '\n' := by
        unfold escapeChar
        split
        · rename_i hc
          subst hc
          decide
        · split
          · rename_i hc
            subst hc
            decide
          · split
            · rename_i hc
              subst hc
              decide
            · rename_i hslash hquote hfeed
              simp [hslash, hquote, hfeed]
      have hcons : ∀ d : Char, (c :: s).count d = [c].count d + s.count d := by
        intro d
        rw [← List.count_append]
        rfl
      show (escapeChar c ++ escape s).count '\\' = _
      rw [List.count_append, ih, hchar, hcons, hcons, hcons]
      omega

/-- What the parser makes of a quoted value. -/
lemma trimQuotes_quoted_eq_self_iff (s : List Char) :
    trimQuotes (quoted s) = s ↔ ∀ c ∈ s, c ≠ '"' ∧ c ≠ '\\' ∧ c ≠ '\n' := by
  constructor
  · intro h
    obtain ⟨before, after, hbefore, hafter, heq⟩ :=
      exists_eq_append_dropEnds (· == '"') (quoted s)
    have hnone : ∀ ends : List Char, (∀ c ∈ ends, (c == '"') = true) → ends.count '\\' = 0 := by
      intro ends hends
      refine List.count_eq_zero.2 fun hmem => ?_
      exact absurd (hends _ hmem) (by decide)
    have hcount : (escape s).count '\\' = s.count '\\' := by
      calc (escape s).count '\\' = (quoted s).count '\\' := by
            simp [quoted]
        _ = (before ++ trimQuotes (quoted s) ++ after).count '\\' := congrArg _ heq
        _ = s.count '\\' := by
            rw [h, List.count_append, List.count_append, hnone before hbefore, hnone after hafter]
            omega
    rw [count_escape] at hcount
    have hslash : '\\' ∉ s := List.count_eq_zero.1 (by omega)
    have hquote : '"' ∉ s := List.count_eq_zero.1 (by omega)
    have hfeed : '\n' ∉ s := List.count_eq_zero.1 (by omega)
    intro c hc
    exact ⟨fun he => hquote (he ▸ hc), fun he => hslash (he ▸ hc), fun he => hfeed (he ▸ hc)⟩
  · intro h
    have hquoted : quoted s = ['"'] ++ s ++ ['"'] := by
      rw [quoted, escape_eq_self h]
      rfl
    rw [hquoted]
    refine dropEnds_append (by simp) (by simp) ?_ ?_
    · intro c hc
      simpa using (h c (List.mem_of_head? hc)).1
    · intro c hc
      simpa using (h c (List.mem_of_getLast? hc)).1

/-! ### One sample -/

/-- Neither white space nor a comma. -/
def UncutValue (s : String) : Prop := ∀ c ∈ s.toList, isWhitespace c = false ∧ c ≠ ','

/-- The value that the parser reads for a label whose value is not cut. -/
def readValue (l : ExposedLabel) : String := String.ofList (trimQuotes (quoted l.value.toList))

section Labels

variable {l : ExposedLabel} {ls : List ExposedLabel}

/-- The characters of a label. -/
lemma mem_labelText {c : Char} (hc : c ∈ labelText l) :
    isNameChar c = true ∨ c = '=' ∨ c = '"' ∨ c = '\\' ∨ (c ∈ l.value.toList ∧ c ≠ '\n') := by
  simp only [labelText, quoted, List.mem_append, List.mem_cons, List.not_mem_nil, or_false] at hc
  rcases hc with hc | rfl | (rfl | hc) | rfl
  · exact Or.inl (l.isName.isNameChar.2 c hc)
  · simp
  · simp
  · rcases mem_escape hc with hc | rfl | rfl
    · simp [hc]
    · simp
    · exact Or.inl (by decide)
  · simp

lemma of_mem_labelText (h : UncutValue l.value) :
    ∀ c ∈ labelText l, isWhitespace c = false ∧ c ≠ ',' := by
  intro c hc
  rcases mem_labelText hc with hc | rfl | rfl | rfl | ⟨hc, -⟩
  · exact ⟨isWhitespace_of_isNameChar hc, ne_of_isNameChar hc (by decide)⟩
  · decide
  · decide
  · decide
  · exact h c hc

/-- The characters of the labels of a sample. -/
lemma mem_labelsText {c : Char} (hc : c ∈ labelsText ls) :
    c = '{' ∨ c = ',' ∨ c = '}' ∨ ∃ l ∈ ls, c ∈ labelText l := by
  unfold labelsText at hc
  split at hc
  · simp at hc
  · simp only [List.mem_append, List.mem_cons, List.not_mem_nil, or_false] at hc
    rcases hc with (hc | hc) | hc
    · exact Or.inl hc
    · rcases of_mem_intercalate hc with hc | ⟨piece, hpiece, hc⟩
      · exact Or.inr (Or.inl hc)
      · obtain ⟨l, hl, rfl⟩ := List.mem_map.1 hpiece
        exact Or.inr (Or.inr (Or.inr ⟨l, hl, hc⟩))
    · exact Or.inr (Or.inr (Or.inl hc))

lemma of_mem_labelsText (h : ∀ l ∈ ls, UncutValue l.value) :
    ∀ c ∈ labelsText ls, isWhitespace c = false := by
  intro c hc
  rcases mem_labelsText hc with rfl | rfl | rfl | ⟨l, hl, hc⟩
  · decide
  · decide
  · decide
  · exact (of_mem_labelText (h l hl) c hc).1

/-- Line feeds are escaped. -/
lemma lineFeed_not_mem_labelsText : '\n' ∉ labelsText ls := by
  intro hc
  rcases mem_labelsText hc with hc | hc | hc | ⟨l, -, hc⟩
  · exact absurd hc (by decide)
  · exact absurd hc (by decide)
  · exact absurd hc (by decide)
  · rcases mem_labelText hc with hc | hc | hc | hc | ⟨-, hne⟩
    · exact absurd hc (by decide)
    · exact absurd hc (by decide)
    · exact absurd hc (by decide)
    · exact absurd hc (by decide)
    · exact hne rfl

lemma insertPair_labelText (h : UncutValue l.value) (labels : List (String × String)) :
    insertPair labels (labelText l) = insertLabel labels l.name (readValue l) := by
  have hchars := of_mem_labelText h
  have htrim : trim (labelText l) = labelText l := trim_eq_self fun c hc => (hchars c hc).1
  have hname : trim l.name.toList = l.name.toList :=
    trim_eq_self fun c hc => (hchars c (List.mem_append_left _ hc)).1
  have hvalue : trim (quoted l.value.toList) = quoted l.value.toList :=
    trim_eq_self fun c hc =>
      (hchars c (List.mem_append_right _ (List.mem_cons_of_mem _ hc))).1
  have hcut : splitOnce '=' (labelText l) = some (l.name.toList, quoted l.value.toList) := by
    exact splitOnce_eq_some_iff.2
      ⟨rfl, not_mem_of_isNameChar l.isName.isNameChar.2 (by decide)⟩
  simp only [insertPair, htrim, hcut, hname, hvalue, String.ofList_toList, readValue]

/-- The labels are read under their names. -/
lemma lookup_foldl_insertPair (h : ∀ l ∈ ls, UncutValue l.value)
    (hdistinct : (ls.map ExposedLabel.name).Nodup) (labels : List (String × String))
    (key : String) :
    ((ls.map labelText).foldl insertPair labels).lookup key =
      ((ls.map fun l => (l.name, readValue l)).lookup key).or (labels.lookup key) := by
  induction ls generalizing labels with
  | nil => rfl
  | cons l ls ih =>
      rw [List.map_cons, List.nodup_cons] at hdistinct
      rw [List.map_cons, List.foldl_cons, insertPair_labelText (h l List.mem_cons_self),
        ih (fun l' hl' => h l' (List.mem_cons_of_mem _ hl')) hdistinct.2, lookup_insertLabel,
        List.map_cons, List.lookup_cons]
      by_cases hkey : key = l.name
      · have hnone : (ls.map fun l => (l.name, readValue l)).lookup key = none := by
          rw [List.lookup_eq_none_iff]
          rintro p hp
          obtain ⟨l', hl', rfl⟩ := List.mem_map.1 hp
          refine bne_iff_ne.2 fun heq => hdistinct.1 (List.mem_map.2 ⟨l', hl', ?_⟩)
          exact heq.symm.trans hkey
        subst hkey
        simp [hnone]
      · simp [hkey, beq_false_of_ne hkey]

/-- The value of a label under its name, with the names distinct. -/
lemma lookup_map_of_mem (f : ExposedLabel → String)
    (hdistinct : (ls.map ExposedLabel.name).Nodup) (hl : l ∈ ls) :
    (ls.map fun l => (l.name, f l)).lookup l.name = some (f l) := by
  induction ls with
  | nil => simp at hl
  | cons l' ls ih =>
      rw [List.map_cons, List.nodup_cons] at hdistinct
      rw [List.map_cons, List.lookup_cons]
      rcases List.mem_cons.1 hl with rfl | hl
      · simp
      · have hne : l.name ≠ l'.name := fun heq =>
          hdistinct.1 (heq ▸ List.mem_map.2 ⟨l, hl, rfl⟩)
        rw [beq_false_of_ne hne]
        exact ih hdistinct.2 hl

/-- The series of a sample whose values are not cut. -/
lemma parseMetricPart_series {name : List Char} (hname : ∀ c ∈ name, isNameChar c = true)
    (h : ∀ l ∈ ls, UncutValue l.value) (hdistinct : (ls.map ExposedLabel.name).Nodup) :
    ∃ labels, parseMetricPart (name ++ labelsText ls) = pure (String.ofList name, labels) ∧
      ∀ key, labels.lookup key = (ls.map fun l => (l.name, readValue l)).lookup key := by
  have hbrace : '{' ∉ name := not_mem_of_isNameChar hname (by decide)
  by_cases hls : ls = []
  · subst hls
    refine ⟨[], ?_, fun key => rfl⟩
    simp [labelsText, parseMetricPart, splitOnce_eq_none_iff.2 hbrace]
  · have hmap : ls.map labelText ≠ [] := by simpa using hls
    have hsplit : ([','].intercalate (ls.map labelText)).splitOn ',' = ls.map labelText := by
      refine List.splitOn_intercalate ',' (fun piece hpiece hcomma => ?_) hmap
      obtain ⟨l, hl, rfl⟩ := List.mem_map.1 hpiece
      exact (of_mem_labelText (h l hl) _ hcomma).2 rfl
    have hseries : name ++ labelsText ls =
        (name ++ '{' :: [','].intercalate (ls.map labelText)) ++ ['}'] := by
      simp [labelsText, hls]
    generalize [','].intercalate (ls.map labelText) = body at hsplit hseries
    have hbody : body ≠ [] := by
      rintro rfl
      rw [List.splitOn_nil] at hsplit
      obtain ⟨l, -, hl⟩ := List.mem_map.1 (hsplit ▸ List.mem_singleton_self [])
      simp [labelText] at hl
    have hopen : splitOnce '{' (name ++ labelsText ls) = some (name, body ++ ['}']) :=
      splitOnce_eq_some_iff.2 ⟨by simp [hseries], hbrace⟩
    have hclose : rsplitOnce '}' (name ++ labelsText ls) = some (name ++ '{' :: body, []) :=
      rsplitOnce_eq_some_iff.2 ⟨hseries, List.not_mem_nil⟩
    have hlength : ¬ (name ++ '{' :: body).length < name.length + 1 := by
      rw [List.length_append, List.length_cons]
      omega
    have hdrop : (name ++ '{' :: body).drop (name.length + 1) = body := by
      simp
    refine ⟨(ls.map labelText).foldl insertPair [], ?_, ?_⟩
    · simp only [parseMetricPart, hopen, hclose, if_neg hlength, hdrop, parseLabels, if_neg hbody,
        hsplit]
    · intro key
      rw [lookup_foldl_insertPair h hdistinct]
      simp

end Labels

section Samples

variable {V : Type} {parseF64 : List Char → Option V} {s : ExposedSample parseF64}
  {name : List Char}

/-- The words after the series are the value and the timestamp. -/
lemma exists_words_value (s : ExposedSample parseF64) : ∃ rest,
    words isWhitespace (s.valueText ++ s.timestamp.elim [] fun t => ' ' :: t) =
      s.valueText :: rest := by
  have hvalue : words isWhitespace s.valueText = [s.valueText] :=
    words_eq_singleton s.valueToken.1 s.valueToken.2
  rcases s.timestamp with _ | t
  · exact ⟨[], by simpa using hvalue⟩
  · refine ⟨words isWhitespace t, ?_⟩
    rw [Option.elim_some, words_append_cons isWhitespace_space, hvalue]
    rfl

lemma words_sampleLine (name : List Char) (s : ExposedSample parseF64) : ∃ rest,
    words isWhitespace (sampleLine name s) =
      words isWhitespace (name ++ labelsText s.labels) ++ s.valueText :: rest := by
  obtain ⟨rest, hrest⟩ := exists_words_value s
  exact ⟨rest, by rw [sampleLine, words_append_cons isWhitespace_space, hrest]⟩

/-- A line of a sample is never skipped as too short. -/
lemma parseMetricLine_ne_none (hname : name ≠ [] ∧ ∀ c ∈ name, isNameChar c = true)
    (currentType : Option (String × MetricType)) :
    parseMetricLine parseF64 (sampleLine name s) currentType ≠ pure none := by
  obtain ⟨rest, hwords⟩ := words_sampleLine name s
  obtain ⟨c, hc⟩ := List.exists_mem_of_ne_nil _ hname.1
  have hword : words isWhitespace (name ++ labelsText s.labels) ≠ [] :=
    words_ne_nil (List.mem_append_left _ hc) (isWhitespace_of_isNameChar (hname.2 c hc))
  obtain ⟨word, more, hmore⟩ := List.exists_cons_of_ne_nil hword
  rw [hmore, List.cons_append] at hwords
  obtain ⟨valueStr, rest', hrest⟩ := List.exists_cons_of_ne_nil
    (List.append_ne_nil_of_right_ne_nil more (List.cons_ne_nil s.valueText rest))
  rw [hrest] at hwords
  intro hnone
  rw [parseMetricLine, hwords] at hnone
  dsimp only at hnone
  split at hnone
  · cases hnone
  · obtain ⟨⟨_, _⟩, -, hsome⟩ := parseResult_bind_eq_pure hnone
    cases hsome

/-- A sample whose values are not cut is read with its value and its type. -/
lemma parseMetricLine_sampleLine {f : MetricFamily parseF64}
    (h : ∀ l ∈ s.labels, UncutValue l.value) :
    ∃ labels, parseMetricLine parseF64 (sampleLine f.name.toList s) (some (f.name, f.type)) =
        pure (some ⟨f.name, labels, s.value, f.type⟩) ∧
      ∀ key, labels.lookup key = (s.labels.map fun l => (l.name, readValue l)).lookup key := by
  have hname := f.isName.isNameChar
  obtain ⟨labels, hpart, hlookup⟩ := parseMetricPart_series hname.2 h s.distinct
  obtain ⟨rest, hwords⟩ := words_sampleLine f.name.toList s
  have hchars : ∀ c ∈ f.name.toList ++ labelsText s.labels, isWhitespace c = false := by
    intro c hc
    rcases List.mem_append.1 hc with hc | hc
    · exact isWhitespace_of_isNameChar (hname.2 c hc)
    · exact of_mem_labelsText h c hc
  have hne : f.name.toList ++ labelsText s.labels ≠ [] := by simp [hname.1]
  rw [words_eq_singleton hne hchars] at hwords
  refine ⟨labels, ?_, hlookup⟩
  rw [parseMetricLine, hwords]
  simp only [List.singleton_append, s.parses, hpart, pure_bind, String.ofList_toList,
    Option.filter_some]
  simp

/-- A sample whose values are not cut is read exactly if all values are plain. -/
lemma matches_iff_plain {f : MetricFamily parseF64} (h : ∀ l ∈ s.labels, UncutValue l.value)
    {labels : List (String × String)} (hlookup : ∀ key, labels.lookup key =
      (s.labels.map fun l => (l.name, readValue l)).lookup key) :
    Matches f s ⟨f.name, labels, s.value, f.type⟩ ↔ ∀ l ∈ s.labels, PlainValue l.value := by
  constructor
  · rintro ⟨-, hlabels, -, -⟩ l hl
    have hread : readValue l = l.value := by
      have hkey := hlabels l.name
      rw [hlookup, lookup_map_of_mem readValue s.distinct hl,
        lookup_map_of_mem ExposedLabel.value s.distinct hl] at hkey
      exact Option.some.inj hkey
    rw [readValue, ← String.toList_inj, String.toList_ofList,
      trimQuotes_quoted_eq_self_iff] at hread
    exact fun c hc => ⟨(h l hl c hc).1, (h l hl c hc).2, (hread c hc).1, (hread c hc).2.1⟩
  · intro hplain
    refine ⟨rfl, fun key => ?_, rfl, rfl⟩
    rw [hlookup]
    have hread : s.labels.map (fun l => (l.name, readValue l)) =
        s.labels.map fun l => (l.name, l.value) := by
      refine List.map_congr_left fun l hl => ?_
      have hchars : ∀ c ∈ l.value.toList, c ≠ '"' ∧ c ≠ '\\' ∧ c ≠ '\n' := by
        intro c hc
        obtain ⟨hspace, -, hquote, hslash⟩ := hplain l hl c hc
        refine ⟨hquote, hslash, ?_⟩
        rintro rfl
        exact absurd hspace (by decide)
      rw [readValue, (trimQuotes_quoted_eq_self_iff _).2 hchars, String.ofList_toList]
    rw [hread]

/-- **One sample.** It is read back exactly if the values of its labels are plain. -/
lemma sample_round_trip_iff (f : MetricFamily parseF64) (s : ExposedSample parseF64) :
    (∃ m, parseMetricLine parseF64 (sampleLine f.name.toList s) (some (f.name, f.type)) =
        pure (some m) ∧ Matches f s m) ↔ ∀ l ∈ s.labels, PlainValue l.value := by
  constructor
  · rintro ⟨m, hm, hmatch⟩
    -- what is read is not cut, so neither are the values that it is equal to
    have huncut : ∀ l ∈ s.labels, UncutValue l.value := by
      intro l hl
      have hkey := hmatch.labels l.name
      rw [lookup_map_of_mem ExposedLabel.value s.distinct hl] at hkey
      obtain ⟨before, after, hlabels, -⟩ := List.lookup_eq_some_iff.1 hkey
      have hmem : (l.name, l.value) ∈ m.labels := by simp [hlabels]
      exact fun c hc => (plain_of_parseMetricLine hm _ hmem c hc).symm
    obtain ⟨labels, hread, hlookup⟩ := parseMetricLine_sampleLine (f := f) huncut
    rw [hread] at hm
    cases hm
    exact (matches_iff_plain huncut hlookup).1 hmatch
  · intro hplain
    have huncut : ∀ l ∈ s.labels, UncutValue l.value := fun l hl c hc =>
      ⟨(hplain l hl c hc).1, (hplain l hl c hc).2.1⟩
    obtain ⟨labels, hread, hlookup⟩ := parseMetricLine_sampleLine (f := f) huncut
    exact ⟨_, hread, (matches_iff_plain huncut hlookup).2 hplain⟩

/-! ### Lines -/

lemma IsToken.exists_last {t : List Char} (h : IsToken t) :
    ∃ front c, t = front ++ [c] ∧ isWhitespace c = false := by
  obtain ⟨hne, hchars⟩ := h
  obtain ⟨front, c, rfl⟩ := (List.eq_nil_or_concat t).resolve_left hne
  exact ⟨front, c, by simp, hchars c (by simp)⟩

/-- A line that is written: it starts and ends with a character that is not trimmed, and has no
line feed. -/
def IsLine (line : List Char) : Prop :=
  (∃ c rest, line = c :: rest ∧ isWhitespace c = false) ∧
    (∃ front c, line = front ++ [c] ∧ isWhitespace c = false) ∧ '\n' ∉ line

lemma IsLine.trim_eq_self {line : List Char} (h : IsLine line) : trim line = line := by
  obtain ⟨⟨c, rest, hhead, hc⟩, ⟨front, d, hlast, hd⟩, -⟩ := h
  refine dropEnds_eq_self (fun x hx => ?_) (fun x hx => ?_)
  · rw [hhead] at hx
    obtain rfl := Option.some.inj hx
    exact hc
  · rw [hlast, List.getLast?_concat] at hx
    obtain rfl := Option.some.inj hx
    exact hd

lemma IsToken.lineFeed_not_mem {t : List Char} (h : IsToken t) : '\n' ∉ t :=
  fun hc => absurd (h.2 _ hc) (by decide)

lemma isToken_typeText (type : MetricType) : IsToken (typeText type) := by
  have hall : (typeText type).all (fun c => !isWhitespace c) = true := by
    cases type <;> decide
  refine ⟨by cases type <;> decide, fun c hc => ?_⟩
  simpa using List.all_eq_true.1 hall c hc

/-- A line of two parts and a space has no line feed if its parts have none. -/
lemma lineFeed_not_mem_line {first second rest : List Char} (hfirst : '\n' ∉ first)
    (hsecond : '\n' ∉ second) (hrest : '\n' ∉ rest) : '\n' ∉ first ++ second ++ ' ' :: rest := by
  simp [hfirst, hsecond, hrest]

/-- The value and the timestamp end a line. -/
lemma value_ends_line (s : ExposedSample parseF64) :
    (∃ front c, (s.valueText ++ s.timestamp.elim [] fun t => ' ' :: t) = front ++ [c] ∧
      isWhitespace c = false) ∧ '\n' ∉ s.valueText ++ s.timestamp.elim [] fun t => ' ' :: t := by
  rcases ht : s.timestamp with _ | t
  · rw [Option.elim_none, List.append_nil]
    exact ⟨s.valueToken.exists_last, s.valueToken.lineFeed_not_mem⟩
  · have htoken := s.timestampToken t ht
    obtain ⟨front, c, hlast, hc⟩ := htoken.exists_last
    refine ⟨⟨s.valueText ++ ' ' :: front, c, by simp [hlast], hc⟩, ?_⟩
    simp [s.valueToken.lineFeed_not_mem, htoken.lineFeed_not_mem]

lemma isLine_sampleLine (hname : name ≠ [] ∧ ∀ c ∈ name, isNameChar c = true)
    (s : ExposedSample parseF64) : IsLine (sampleLine name s) := by
  obtain ⟨⟨front, c, hlast, hc⟩, hfeed⟩ := value_ends_line s
  refine ⟨?_, ⟨(name ++ labelsText s.labels) ++ ' ' :: front, c, by simp [sampleLine, hlast], hc⟩,
    ?_⟩
  · obtain ⟨d, rest, rfl⟩ := List.exists_cons_of_ne_nil hname.1
    exact ⟨d, _, rfl, isWhitespace_of_isNameChar (hname.2 d List.mem_cons_self)⟩
  · have hname' : '\n' ∉ name := not_mem_of_isNameChar hname.2 (by decide)
    exact lineFeed_not_mem_line hname' lineFeed_not_mem_labelsText hfeed

lemma isLine_typeLine (f : MetricFamily parseF64) : IsLine (typeLine f) := by
  have htoken := isToken_typeText f.type
  obtain ⟨front, c, hlast, hc⟩ := htoken.exists_last
  have hstart : typeLine f =
      '#' :: (typePrefix.tail ++ f.name.toList ++ ' ' :: typeText f.type) := rfl
  have hend : typeLine f = (typePrefix ++ f.name.toList ++ ' ' :: front) ++ [c] := by
    rw [typeLine, hlast, List.append_assoc _ _ [c], List.cons_append]
  have hhash : isWhitespace '#' = false := by decide
  have hname : '\n' ∉ f.name.toList := not_mem_of_isNameChar f.isName.isNameChar.2 (by decide)
  exact ⟨⟨'#', _, hstart, hhash⟩, ⟨_, c, hend, hc⟩,
    lineFeed_not_mem_line (by decide) hname htoken.lineFeed_not_mem⟩

lemma IsLine.dropSuffix_eq_none {line : List Char} (h : IsLine line) :
    line.dropSuffix? ['\r'] = none := by
  obtain ⟨-, ⟨front, c, hlast, hc⟩, -⟩ := h
  by_contra hsome
  obtain ⟨rest, hrest⟩ := Option.ne_none_iff_exists'.1 hsome
  obtain ⟨suffix, heq, hsame⟩ := List.dropSuffix?_eq_some_iff.1 hrest
  rw [beq_iff_eq.1 hsame, hlast] at heq
  obtain rfl : c = '\r' := by simpa using (List.append_inj' heq rfl).2
  exact absurd hc (by decide)

lemma lines_flatMap {ls : List (List Char)} (h : ∀ line ∈ ls, IsLine line) :
    lines (ls.flatMap (· ++ ['\n'])) = ls := by
  have hsplit : (ls.flatMap (· ++ ['\n'])).splitOn '\n' = ls ++ [[]] := by
    induction ls with
    | nil => rfl
    | cons line ls ih =>
        rw [List.flatMap_cons, List.append_assoc, List.singleton_append,
          List.splitOn_append_cons_self_of_not_mem (h line List.mem_cons_self).2.2,
          ih fun line' hline' => h line' (List.mem_cons_of_mem _ hline')]
        rfl
  have hstrip : ls.map (fun line => (line.dropSuffix? ['\r']).getD line) = ls := by
    refine (List.map_congr_left fun line hline => ?_).trans (List.map_id ls)
    rw [(h line hline).dropSuffix_eq_none]
    rfl
  simp only [lines, hsplit, List.dropLast_concat, List.getLast?_concat, hstrip]
  simp

/-! ### Families -/

/-- The lines are parsed into the samples. -/
def ParsesInto (parseF64 : List Char → Option V) (currentType : Option (String × MetricType))
    (ls : List (List Char)) (samples : List (MetricFamily parseF64 × ExposedSample parseF64)) :
    Prop :=
  ∃ metrics, parseLines parseF64 currentType ls = pure metrics ∧
    List.Forall₂ (fun p m => Matches p.1 p.2 m) samples metrics

variable {currentType : Option (String × MetricType)} {rest : List (List Char)}

lemma parseTypeLine_typeLine (f : MetricFamily parseF64) :
    parseTypeLine (typeLine f) currentType = some (f.name, f.type) := by
  have hword : ∀ t, IsToken t → words isWhitespace t = [t] := fun t ht =>
    words_eq_singleton ht.1 ht.2
  have hname : IsToken f.name.toList := by
    obtain ⟨hne, hchars⟩ := f.isName.isNameChar
    exact ⟨hne, fun c hc => isWhitespace_of_isNameChar (hchars c hc)⟩
  have hsplit : typeLine f = ['#'] ++ ' ' :: (['T', 'Y', 'P', 'E'] ++ ' ' ::
      (f.name.toList ++ ' ' :: typeText f.type)) := by
    simp [typeLine, typePrefix]
  have hstart : words isWhitespace ['#'] = [['#']] ∧
      words isWhitespace ['T', 'Y', 'P', 'E'] = [['T', 'Y', 'P', 'E']] := by decide
  rw [parseTypeLine, hsplit, words_append_cons isWhitespace_space,
    words_append_cons isWhitespace_space, words_append_cons isWhitespace_space, hstart.1, hstart.2,
    hword _ hname, hword _ (isToken_typeText f.type)]
  simp only [List.cons_append, List.nil_append, String.ofList_toList]
  cases f.type with
  | gauge =>
      have hne : ¬ typeText .gauge = "counter".toList := by decide
      rw [if_neg hne]
  | counter =>
      have heq : typeText .counter = "counter".toList := rfl
      rw [if_pos heq]

/-- A TYPE line sets the type. -/
lemma parseLines_typeLine (f : MetricFamily parseF64) :
    parseLines parseF64 currentType (typeLine f :: rest) =
      parseLines parseF64 (some (f.name, f.type)) rest := by
  have htrim := (isLine_typeLine f).trim_eq_self
  have hprefix : typePrefix.isPrefixOf (typeLine f) = true := by
    rw [List.isPrefixOf_iff_prefix, typeLine, List.append_assoc]
    exact List.prefix_append _ _
  have hne : ¬ (typeLine f).isEmpty = true := by simp [typeLine, typePrefix]
  rw [parseLines, htrim, if_neg hne, if_pos hprefix, parseTypeLine_typeLine]

/-- The line of a sample is read by `parseMetricLine`. -/
lemma parseLines_sampleLine (hname : name ≠ [] ∧ ∀ c ∈ name, isNameChar c = true)
    (s : ExposedSample parseF64) :
    parseLines parseF64 currentType (sampleLine name s :: rest) = (do
      let metric ← parseMetricLine parseF64 (sampleLine name s) currentType
      let metrics ← parseLines parseF64 currentType rest
      pure (metric.toList ++ metrics)) := by
  have htrim := (isLine_sampleLine hname s).trim_eq_self
  obtain ⟨d, cs, rfl⟩ := List.exists_cons_of_ne_nil hname.1
  have hd : d ≠ '#' := ne_of_isNameChar (hname.2 d List.mem_cons_self) (by decide)
  have hne : ¬ (sampleLine (d :: cs) s).isEmpty = true := by simp [sampleLine]
  have hprefix : ¬ typePrefix.isPrefixOf (sampleLine (d :: cs) s) = true := by
    simp [sampleLine, typePrefix, Ne.symm hd]
  have hcomment : ¬ (sampleLine (d :: cs) s).head? = some '#' := by
    simp [sampleLine, hd]
  rw [parseLines, htrim, if_neg hne, if_neg hprefix, if_neg hcomment]

/-- **A sample and the lines after it.** -/
lemma parsesInto_sample_iff (f : MetricFamily parseF64) (s : ExposedSample parseF64)
    {samples : List (MetricFamily parseF64 × ExposedSample parseF64)} :
    ParsesInto parseF64 (some (f.name, f.type)) (sampleLine f.name.toList s :: rest)
        ((f, s) :: samples) ↔
      (∀ l ∈ s.labels, PlainValue l.value) ∧
        ParsesInto parseF64 (some (f.name, f.type)) rest samples := by
  have hname := f.isName.isNameChar
  rw [← sample_round_trip_iff f s, ParsesInto, parseLines_sampleLine hname]
  constructor
  · rintro ⟨metrics, hread, hall⟩
    obtain ⟨metric, hmetric, hread⟩ := parseResult_bind_eq_pure hread
    obtain ⟨metrics', hrest, hread⟩ := parseResult_bind_eq_pure hread
    cases hread
    rcases metric with _ | m
    · exact absurd hmetric (parseMetricLine_ne_none hname _)
    · obtain ⟨hmatch, hall⟩ := List.forall₂_cons.1 hall
      exact ⟨⟨m, hmetric, hmatch⟩, metrics', hrest, hall⟩
  · rintro ⟨⟨m, hmetric, hmatch⟩, metrics, hrest, hall⟩
    refine ⟨m :: metrics, ?_, List.Forall₂.cons hmatch hall⟩
    rw [hmetric, hrest]
    rfl

lemma parsesInto_samples_iff (f : MetricFamily parseF64) (ss : List (ExposedSample parseF64))
    {samples : List (MetricFamily parseF64 × ExposedSample parseF64)} :
    ParsesInto parseF64 (some (f.name, f.type)) (ss.map (sampleLine f.name.toList) ++ rest)
        (ss.map (fun s => (f, s)) ++ samples) ↔
      (∀ s ∈ ss, ∀ l ∈ s.labels, PlainValue l.value) ∧
        ParsesInto parseF64 (some (f.name, f.type)) rest samples := by
  induction ss with
  | nil => simp
  | cons s ss ih =>
      rw [List.map_cons, List.map_cons, List.cons_append, List.cons_append, parsesInto_sample_iff,
        ih, List.forall_mem_cons, and_assoc]

lemma parsesInto_families_iff (families : List (MetricFamily parseF64)) :
    ParsesInto parseF64 currentType (families.flatMap familyLines)
        (families.flatMap fun f => f.samples.map fun s => (f, s)) ↔
      ∀ f ∈ families, ∀ s ∈ f.samples, ∀ l ∈ s.labels, PlainValue l.value := by
  induction families generalizing currentType with
  | nil => simp [ParsesInto, parseLines]
  | cons f families ih =>
      have hrest := @ih (some (f.name, f.type))
      rw [List.flatMap_cons, List.flatMap_cons, List.forall_mem_cons, ← hrest,
        ← parsesInto_samples_iff f]
      simp only [familyLines, List.cons_append, ParsesInto, parseLines_typeLine]

end Samples

/-- **Round trip.** The text of a list of families is parsed into exactly its samples, each with
the type of its family, exactly when the values of all labels have no white space, commas,
double quotes and backslashes. -/
theorem exposition_round_trip_iff {V : Type} {parseF64 : List Char → Option V}
    (families : List (MetricFamily parseF64)) :
    RoundTrips families ↔
      ∀ f ∈ families, ∀ s ∈ f.samples, ∀ l ∈ s.labels, PlainValue l.value := by
  have hlines : ∀ line ∈ families.flatMap familyLines, IsLine line := by
    intro line hline
    obtain ⟨f, -, hline⟩ := List.mem_flatMap.1 hline
    rcases List.mem_cons.1 hline with rfl | hline
    · exact isLine_typeLine f
    · obtain ⟨s, -, rfl⟩ := List.mem_map.1 hline
      exact isLine_sampleLine f.isName.isNameChar s
  rw [RoundTrips, parsePrometheusText, exposition, String.toList_ofList, lines_flatMap hlines]
  exact parsesInto_families_iff families

/-! ### A comma and a space -/

/-- A reader of decimal digits. -/
def readDigits (s : List Char) : Option ℕ :=
  if s ≠ [] ∧ s.all isDigit = true then some (digitsValue s) else none

/-- The label `job`. -/
def jobLabel (value : String) : ExposedLabel where
  name := "job"
  value := value
  isName := ⟨'j', ['o', 'b'], by decide, by decide, by simp; decide⟩

/-- The gauge `up` of one job. -/
def upFamily (job : String) : MetricFamily readDigits where
  name := "up"
  type := .gauge
  samples :=
    [{  labels := [jobLabel job]
        value := 1
        valueText := ['1']
        timestamp := none
        distinct := List.nodup_singleton _
        valueToken := ⟨by decide, by simp; decide⟩
        parses := by decide
        timestampToken := by rintro t ⟨⟩ }]
  isName := ⟨'u', ['p'], by decide, Or.inl (by decide), by simp; decide⟩

/-- **Values that are cut.** A comma shortens the value of a label, and a space makes the whole
response an error. -/
theorem comma_in_label_value :
    exposition [upFamily "a,b"] = "# TYPE up gauge\nup\x7bjob=\"a,b\"\x7d 1\n" ∧
    parsePrometheusText readDigits (exposition [upFamily "a,b"]) =
      pure [⟨"up", [("job", "a")], 1, .gauge⟩] ∧
    ¬ RoundTrips [upFamily "a,b"] ∧
    parsePrometheusText readDigits (exposition [upFamily "a b"]) =
      throw "Invalid metric value: b\"\x7d" ∧
    ¬ RoundTrips [upFamily "a b"] := by
  have hcomma : parsePrometheusText readDigits (exposition [upFamily "a,b"]) =
      pure [⟨"up", [("job", "a")], 1, .gauge⟩] := by
    rfl
  have hspace : parsePrometheusText readDigits (exposition [upFamily "a b"]) =
      throw "Invalid metric value: b\"\x7d" := by
    rfl
  refine ⟨by decide, hcomma, ?_, hspace, ?_⟩
  · rintro ⟨metrics, hread, hall⟩
    rw [hcomma] at hread
    cases hread
    have hmatch := (List.forall₂_cons.1 hall).1
    exact absurd (hmatch.labels "job") (by decide)
  · rintro ⟨metrics, hread, -⟩
    rw [hspace] at hread
    cases hread

end ExternalPodAutoscaler.Scraper
