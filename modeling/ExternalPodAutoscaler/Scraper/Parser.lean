/-
The parser of the Prometheus text format (`scraper/parser.rs`).

The parser goes through the lines and keeps the type of the last TYPE comment.  Any other line
that is not a comment is cut at white space into a series and a value, the series at its braces
and the labels at their commas.  A line that cannot be read is an error for the whole response,
and a closing brace before the opening one is a panic.  Parsing of numbers is a parameter.

The main results of this file are `plain_of_parseMetricLine`: whatever the line is, the values of
the labels that are read have neither white space nor commas; and `parse_never_panics_iff`: the
parser returns exactly when no line that it reaches has a value and its closing braces before
its opening ones.
-/
import ExternalPodAutoscaler.Scraper.Workers
import ExternalPodAutoscaler.Webhook.Admission

namespace ExternalPodAutoscaler.Scraper

open ExternalPodAutoscaler.Lib ExternalPodAutoscaler.Store
open ExternalPodAutoscaler.Webhook (isWhitespace trim trim_eq_dropEnds)

/-- The outcome of parsing: a panic is `none`, an error carries its message. -/
abbrev ParseResult := ExceptT String Option

/-- A slice that ends before it starts. -/
def panicSlice {α : Type} : ParseResult α := (none : Option (Except String α))

/-- `str::lines`. -/
def lines (text : List Char) : List (List Char) :=
  let pieces := text.splitOn '\n'
  -- what is after the last line feed is a line only if it is not empty
  pieces.dropLast.map (fun line => (line.dropSuffix? ['\r']).getD line) ++
    (pieces.getLast?.filter (· ≠ [])).toList

/-- `str::trim_matches('"')`. -/
def trimQuotes (s : List Char) : List Char := dropEnds (· == '"') s

/-- `BTreeMap::insert`; labels are only looked up, so their order is not kept. -/
def insertLabel (labels : List (String × String)) (key value : String) :
    List (String × String) :=
  (key, value) :: labels.filter fun l => l.1 ≠ key

/-- One piece between commas in `parse_labels`. -/
def insertPair (labels : List (String × String)) (pair : List Char) : List (String × String) :=
  match splitOnce '=' (trim pair) with
  | some (key, value) =>
    insertLabel labels (String.ofList (trim key)) (String.ofList (trimQuotes (trim value)))
  | none => labels

/-- `parse_labels`; it has no errors. -/
def parseLabels (labelsStr : List Char) : List (String × String) :=
  if labelsStr = [] then [] else (labelsStr.splitOn ',').foldl insertPair []

/-- The name and the labels of a series. -/
def parseMetricPart (metricPart : List Char) : ParseResult (String × List (String × String)) :=
  match splitOnce '{' metricPart with
  | none => pure (String.ofList metricPart, [])
  | some (name, _) =>
    -- the last closing brace of the whole part
    match rsplitOnce '}' metricPart with
    | none => throw "Invalid metric format"
    | some (before, _) =>
      if before.length < name.length + 1 then panicSlice
      else pure (String.ofList name, parseLabels (before.drop (name.length + 1)))

section Metrics

variable {V : Type} (parseF64 : List Char → Option V)

/-- `parse_metric_line`. -/
def parseMetricLine (line : List Char) (currentType : Option (String × MetricType)) :
    ParseResult (Option (ParsedMetric V)) :=
  match words isWhitespace line with
  | metricPart :: valueStr :: _ =>
    match parseF64 valueStr with
    | none => throw s!"Invalid metric value: {String.ofList valueStr}"
    | some value => do
      let (name, labels) ← parseMetricPart metricPart
      let metricType := ((currentType.filter fun t => t.1 = name).map Prod.snd).getD .gauge
      pure (some ⟨name, labels, value, metricType⟩)
  | _ => pure none

/-- The start of a TYPE comment. -/
def typePrefix : List Char := ['#', ' ', 'T', 'Y', 'P', 'E', ' ']

/-- The type after a TYPE comment; types other than counters are gauges. -/
def parseTypeLine (line : List Char) (currentType : Option (String × MetricType)) :
    Option (String × MetricType) :=
  match words isWhitespace line with
  | _ :: _ :: metricName :: typeStr :: _ =>
    some (String.ofList metricName, if typeStr = "counter".toList then .counter else .gauge)
  | _ => currentType

/-- The loop of `parse_prometheus_text` over the lines. -/
def parseLines : Option (String × MetricType) → List (List Char) →
    ParseResult (List (ParsedMetric V))
  | _, [] => pure []
  | currentType, line :: rest =>
    let line := trim line
    if line.isEmpty then parseLines currentType rest
    else if typePrefix.isPrefixOf line then parseLines (parseTypeLine line currentType) rest
    else if line.head? = some '#' then parseLines currentType rest
    else do
      let metric ← parseMetricLine parseF64 line currentType
      let metrics ← parseLines currentType rest
      pure (metric.toList ++ metrics)

/-- `parse_prometheus_text`. -/
def parsePrometheusText (text : String) : ParseResult (List (ParsedMetric V)) :=
  parseLines parseF64 none (lines text.toList)

end Metrics

/-! ### What is read -/

lemma parseResult_bind_eq_pure {α β : Type} {x : ParseResult α} {f : α → ParseResult β} {b : β}
    (h : x >>= f = pure b) : ∃ a, x = pure a ∧ f a = pure b := by
  rcases x with _ | _ | a
  · cases h
  · cases h
  · exact ⟨a, rfl, h⟩

@[simp] lemma lookup_insertLabel (labels : List (String × String)) (key value k : String) :
    (insertLabel labels key value).lookup k = if k = key then some value else labels.lookup k := by
  by_cases hk : k = key
  · simp [insertLabel, hk]
  · have hrest : (labels.filter fun l => l.1 ≠ key).lookup k = labels.lookup k := by
      induction labels with
      | nil => rfl
      | cons l labels ih =>
          obtain ⟨key', value'⟩ := l
          by_cases hl : key' = key
          · simpa [hl, List.lookup_cons, beq_false_of_ne hk] using ih
          · simp only [List.filter_cons, hl, ne_eq, not_false_eq_true, decide_true, if_true,
              List.lookup_cons]
            rw [ih]
    rw [insertLabel, List.lookup_cons, beq_false_of_ne hk, if_neg hk]
    exact hrest

/-- A value that is read from a piece. -/
lemma mem_insertPair {labels : List (String × String)} {pair : List Char} {l : String × String}
    (h : l ∈ insertPair labels pair) : l ∈ labels ∨ ∀ c ∈ l.2.toList, c ∈ pair := by
  unfold insertPair at h
  split at h
  · rename_i key value hcut
    rcases List.mem_cons.1 h with rfl | h
    · right
      intro c hc
      rw [String.toList_ofList] at hc
      have hvalue : c ∈ value := mem_of_mem_dropEnds (mem_of_mem_dropEnds hc)
      have hpair : c ∈ trim pair := by
        rw [(splitOnce_eq_some_iff.1 hcut).1]
        exact List.mem_append_right _ (List.mem_cons_of_mem _ hvalue)
      exact mem_of_mem_dropEnds hpair
    · exact Or.inl (List.mem_filter.1 h).1
  · exact Or.inl h

lemma mem_foldl_insertPair {pieces : List (List Char)} {labels : List (String × String)}
    {l : String × String} (h : l ∈ pieces.foldl insertPair labels) :
    l ∈ labels ∨ ∃ piece ∈ pieces, ∀ c ∈ l.2.toList, c ∈ piece := by
  induction pieces generalizing labels with
  | nil => exact Or.inl h
  | cons piece pieces ih =>
      rcases ih h with h | ⟨piece', hpiece, hchars⟩
      · rcases mem_insertPair h with h | h
        · exact Or.inl h
        · exact Or.inr ⟨piece, List.mem_cons_self, h⟩
      · exact Or.inr ⟨piece', List.mem_cons_of_mem _ hpiece, hchars⟩

/-- The values of labels have no commas. -/
lemma of_mem_parseLabels {labelsStr : List Char} {l : String × String}
    (h : l ∈ parseLabels labelsStr) : ∀ c ∈ l.2.toList, c ≠ ',' ∧ c ∈ labelsStr := by
  unfold parseLabels at h
  split at h
  · simp at h
  · rcases mem_foldl_insertPair h with h | ⟨piece, hpiece, hchars⟩
    · simp at h
    · intro c hc
      have hc' := of_mem_splitOnP hpiece c (hchars c hc)
      exact ⟨by simpa using hc'.1, hc'.2⟩

lemma parseMetricPart_eq_pure {metricPart : List Char} {name : String}
    {labels : List (String × String)} (h : parseMetricPart metricPart = pure (name, labels)) :
    ∀ l ∈ labels, ∀ c ∈ l.2.toList, c ≠ ',' ∧ c ∈ metricPart := by
  unfold parseMetricPart at h
  split at h
  · cases h
    simp
  · split at h
    · cases h
    · rename_i before after hclose
      split at h
      · cases h
      · cases h
        intro l hl c hc
        have hc' := of_mem_parseLabels hl c hc
        refine ⟨hc'.1, ?_⟩
        rw [(rsplitOnce_eq_some_iff.1 hclose).1]
        exact List.mem_append_left _ (List.mem_of_mem_drop hc'.2)

/-- **What is read is plain.** The values of the labels of a series have neither white space
nor commas. -/
theorem plain_of_parseMetricLine {V : Type} {parseF64 : List Char → Option V} {line : List Char}
    {currentType : Option (String × MetricType)} {m : ParsedMetric V}
    (h : parseMetricLine parseF64 line currentType = pure (some m)) :
    ∀ l ∈ m.labels, ∀ c ∈ l.2.toList, c ≠ ',' ∧ isWhitespace c = false := by
  unfold parseMetricLine at h
  split at h
  · rename_i metricPart valueStr rest hwords
    split at h
    · cases h
    · obtain ⟨⟨name, labels⟩, hpart, hm⟩ := parseResult_bind_eq_pure h
      cases hm
      intro l hl c hc
      obtain ⟨hcomma, hpart'⟩ := parseMetricPart_eq_pure hpart l hl c hc
      have hword : metricPart ∈ words isWhitespace line := by
        rw [hwords]
        exact List.mem_cons_self
      exact ⟨hcomma, (of_mem_words hword c hpart').1⟩
  · cases h

/-! ### Panics -/

/-- The closing braces of a series are before its opening ones. -/
def BracesReversed (series : List Char) : Prop :=
  ∃ before after, series = before ++ after ∧ '}' ∈ before ∧ '{' ∉ before ∧ '{' ∈ after ∧
    '}' ∉ after

lemma pure_ne_panicSlice {α : Type} (a : α) : (pure a : ParseResult α) ≠ panicSlice := by
  intro h
  cases h

lemma throw_ne_panicSlice {α : Type} (message : String) :
    (throw message : ParseResult α) ≠ panicSlice := by
  intro h
  cases h

lemma parseResult_cases {α : Type} (x : ParseResult α) :
    x = panicSlice ∨ (∃ message, x = throw message) ∨ ∃ a, x = pure a := by
  rcases x with _ | message | a
  · exact Or.inl rfl
  · exact Or.inr (Or.inl ⟨message, rfl⟩)
  · exact Or.inr (Or.inr ⟨a, rfl⟩)

/-- What follows a result adds no panic if it always returns. -/
lemma bind_eq_panicSlice_iff {α β : Type} {x : ParseResult α} {f : α → β} :
    (do let a ← x; pure (f a)) = panicSlice ↔ x = panicSlice := by
  rcases parseResult_cases x with rfl | ⟨message, rfl⟩ | ⟨a, rfl⟩
  · exact iff_of_true rfl rfl
  · exact iff_of_false (throw_ne_panicSlice message) (throw_ne_panicSlice message)
  · exact iff_of_false (pure_ne_panicSlice (f a)) (pure_ne_panicSlice a)

/-- Where the last closing brace is before the first opening one, no closing brace is after an
opening one. -/
lemma bracesReversed_iff {name labels before after : List Char}
    (heq : name ++ '{' :: labels = before ++ '}' :: after) (hopen : '{' ∉ name)
    (hclose : '}' ∉ after) :
    BracesReversed (name ++ '{' :: labels) ↔ before.length < name.length + 1 := by
  have hne : '{' ≠ '}' := by decide
  constructor
  · rintro ⟨x, y, hxy, hcloseX, hopenX, hopenY, hcloseY⟩
    -- the opening brace is in the second part and the closing one in the first
    have hname : x.length ≤ name.length := by
      by_contra hlt
      refine hopenX ?_
      have hopened : name ++ ['{'] <+: name ++ '{' :: labels := ⟨labels, by simp⟩
      have hfirst : x <+: name ++ '{' :: labels := ⟨y, hxy.symm⟩
      have hpre : name ++ ['{'] <+: x := by
        refine List.prefix_of_prefix_length_le hopened hfirst ?_
        simp only [List.length_append, List.length_singleton]
        omega
      exact hpre.subset (List.mem_append_right _ (List.mem_singleton.2 rfl))
    have hbefore : before.length < x.length := by
      by_contra hge
      refine hcloseY ?_
      have hclosed : '}' :: after <:+ name ++ '{' :: labels := ⟨before, heq.symm⟩
      have hsecond : y <:+ name ++ '{' :: labels := ⟨x, hxy.symm⟩
      have hsuf : '}' :: after <:+ y := by
        refine List.suffix_of_suffix_length_le hclosed hsecond ?_
        have hlen := congrArg List.length (heq.symm.trans hxy)
        simp only [List.length_append] at hlen
        omega
      exact hsuf.subset List.mem_cons_self
    omega
  · intro hlt
    rcases List.append_eq_append_iff.1 heq with ⟨mid, hbefore, hmid⟩ | ⟨mid, hname, hmid⟩
    · -- the two braces would be the same character
      exfalso
      rcases mid with _ | ⟨c, mid⟩
      · exact hne (List.cons.inj hmid).1
      · rw [hbefore, List.length_append, List.length_cons] at hlt
        omega
    · rcases mid with _ | ⟨c, mid⟩
      · exact absurd (List.cons.inj hmid).1.symm hne
      · obtain ⟨rfl, hafter⟩ := List.cons.inj hmid
        refine ⟨name, '{' :: labels, rfl, ?_, hopen, List.mem_cons_self, ?_⟩
        · rw [hname]
          exact List.mem_append_right _ List.mem_cons_self
        · intro hmem
          rw [hafter] at hclose
          exact hclose (List.mem_append_right _ hmem)

/-- The slice of the labels ends before it starts exactly if the braces are reversed. -/
lemma parseMetricPart_eq_panicSlice_iff {metricPart : List Char} :
    parseMetricPart metricPart = panicSlice ↔ BracesReversed metricPart := by
  rcases hopen : splitOnce '{' metricPart with _ | ⟨name, labels⟩
  · have hnone := splitOnce_eq_none_iff.1 hopen
    simp only [parseMetricPart, hopen]
    refine iff_of_false (pure_ne_panicSlice _) ?_
    rintro ⟨before, after, rfl, -, -, hmem, -⟩
    exact hnone (List.mem_append_right _ hmem)
  · obtain ⟨hname, hnotOpen⟩ := splitOnce_eq_some_iff.1 hopen
    rcases hclose : rsplitOnce '}' metricPart with _ | ⟨before, after⟩
    · have hnone := rsplitOnce_eq_none_iff.1 hclose
      simp only [parseMetricPart, hopen, hclose]
      refine iff_of_false (throw_ne_panicSlice _) ?_
      rintro ⟨before, after, rfl, hmem, -⟩
      exact hnone (List.mem_append_left _ hmem)
    · obtain ⟨hbefore, hnotClose⟩ := rsplitOnce_eq_some_iff.1 hclose
      have hrev := bracesReversed_iff (hname.symm.trans hbefore) hnotOpen hnotClose
      rw [← hname] at hrev
      simp only [parseMetricPart, hopen, hclose, hrev]
      by_cases hlt : before.length < name.length + 1
      · rw [if_pos hlt]
        exact iff_of_true rfl hlt
      · rw [if_neg hlt]
        exact iff_of_false (pure_ne_panicSlice _) hlt

/-- An error of the series is a missing closing brace. -/
lemma exists_parseMetricPart_eq_throw_iff {metricPart : List Char} :
    (∃ message, parseMetricPart metricPart = throw message) ↔
      '{' ∈ metricPart ∧ '}' ∉ metricPart := by
  rcases hopen : splitOnce '{' metricPart with _ | ⟨name, labels⟩
  · have hnone := splitOnce_eq_none_iff.1 hopen
    simp only [parseMetricPart, hopen]
    refine iff_of_false ?_ fun h => hnone h.1
    rintro ⟨message, h⟩
    cases h
  · have hmem : '{' ∈ metricPart := by
      rw [(splitOnce_eq_some_iff.1 hopen).1]
      exact List.mem_append_right _ List.mem_cons_self
    rcases hclose : rsplitOnce '}' metricPart with _ | ⟨before, after⟩
    · simp only [parseMetricPart, hopen, hclose]
      exact iff_of_true ⟨_, rfl⟩ ⟨hmem, rsplitOnce_eq_none_iff.1 hclose⟩
    · have hclosed : '}' ∈ metricPart := by
        rw [(rsplitOnce_eq_some_iff.1 hclose).1]
        exact List.mem_append_right _ List.mem_cons_self
      simp only [parseMetricPart, hopen, hclose]
      refine iff_of_false ?_ fun h => h.2 hclosed
      rintro ⟨message, h⟩
      split at h <;> cases h

section Panics

variable {V : Type} {parseF64 : List Char → Option V} {line : List Char}
  {currentType : Option (String × MetricType)}

/-- The line is one of a metric: it is no comment and has a series and a value. -/
def IsMetricLine (line series value : List Char) : Prop :=
  (trim line).head? ≠ some '#' ∧ ∃ rest, words isWhitespace (trim line) = series :: value :: rest

/-- The slice of the labels of the line is reached, and it ends before it starts. -/
def SlicesBackwards (parseF64 : List Char → Option V) (line : List Char) : Prop :=
  ∃ series value, IsMetricLine line series value ∧ parseF64 value ≠ none ∧ BracesReversed series

/-- The line is an error: its value is no number, or its series has no closing brace. -/
def IsRejected (parseF64 : List Char → Option V) (line : List Char) : Prop :=
  ∃ series value, IsMetricLine line series value ∧
    (parseF64 value = none ∨ '{' ∈ series ∧ '}' ∉ series)

lemma IsMetricLine.unique {series value series' value' : List Char}
    (h : IsMetricLine line series value) (h' : IsMetricLine line series' value') :
    series = series' ∧ value = value' := by
  obtain ⟨-, rest, hwords⟩ := h
  obtain ⟨-, rest', hwords'⟩ := h'
  obtain ⟨hseries, hrest⟩ := List.cons.inj (hwords.symm.trans hwords')
  exact ⟨hseries, (List.cons.inj hrest).1⟩

lemma IsMetricLine.slicesBackwards_iff {series value : List Char}
    (h : IsMetricLine line series value) :
    SlicesBackwards parseF64 line ↔ parseF64 value ≠ none ∧ BracesReversed series := by
  constructor
  · rintro ⟨series', value', h', hslices⟩
    obtain ⟨rfl, rfl⟩ := h.unique h'
    exact hslices
  · exact fun hslices => ⟨series, value, h, hslices⟩

lemma IsMetricLine.isRejected_iff {series value : List Char} (h : IsMetricLine line series value) :
    IsRejected parseF64 line ↔ parseF64 value = none ∨ '{' ∈ series ∧ '}' ∉ series := by
  constructor
  · rintro ⟨series', value', h', hrejected⟩
    obtain ⟨rfl, rfl⟩ := h.unique h'
    exact hrejected
  · exact fun hrejected => ⟨series, value, h, hrejected⟩

/-- Other lines are passed over. -/
lemma passes_of_not_metricLine (parseF64 : List Char → Option V)
    (h : ∀ series value, ¬ IsMetricLine line series value) :
    ¬ SlicesBackwards parseF64 line ∧ ¬ IsRejected parseF64 line := by
  constructor
  · rintro ⟨series, value, hline, -⟩
    exact h series value hline
  · rintro ⟨series, value, hline, -⟩
    exact h series value hline

/-- What the parser makes of a line of a metric. -/
lemma parseMetricLine_cases (parseF64 : List Char → Option V)
    (currentType : Option (String × MetricType)) (hhead : (trim line).head? ≠ some '#') :
    SlicesBackwards parseF64 line ∧ ¬ IsRejected parseF64 line ∧
        parseMetricLine parseF64 (trim line) currentType = panicSlice ∨
      ¬ SlicesBackwards parseF64 line ∧ IsRejected parseF64 line ∧
        (∃ message, parseMetricLine parseF64 (trim line) currentType = throw message) ∨
      ¬ SlicesBackwards parseF64 line ∧ ¬ IsRejected parseF64 line ∧
        ∃ metric, parseMetricLine parseF64 (trim line) currentType = pure metric := by
  rcases hwords : words isWhitespace (trim line) with _ | ⟨series, _ | ⟨value, rest⟩⟩
  · have hnot : ∀ series value, ¬ IsMetricLine line series value := by
      rintro series value ⟨-, rest, h⟩
      simp [hwords] at h
    obtain ⟨hslices, hrejected⟩ := passes_of_not_metricLine parseF64 hnot
    exact Or.inr (Or.inr ⟨hslices, hrejected, none, by simp only [parseMetricLine, hwords]⟩)
  · have hnot : ∀ series value, ¬ IsMetricLine line series value := by
      rintro series value ⟨-, rest, h⟩
      simp [hwords] at h
    obtain ⟨hslices, hrejected⟩ := passes_of_not_metricLine parseF64 hnot
    exact Or.inr (Or.inr ⟨hslices, hrejected, none, by simp only [parseMetricLine, hwords]⟩)
  · have hline : IsMetricLine line series value := ⟨hhead, rest, hwords⟩
    rw [hline.slicesBackwards_iff, hline.isRejected_iff]
    simp only [parseMetricLine, hwords, ← parseMetricPart_eq_panicSlice_iff,
      ← exists_parseMetricPart_eq_throw_iff]
    rcases hvalue : parseF64 value with _ | v
    · exact Or.inr (Or.inl ⟨by simp, Or.inl rfl, _, rfl⟩)
    · rcases parseResult_cases (parseMetricPart series) with hpart | ⟨message, hpart⟩ |
        ⟨⟨name, labels⟩, hpart⟩
      · refine Or.inl ⟨⟨by simp, hpart⟩, ?_, by rw [hpart]; rfl⟩
        rintro (h | ⟨message, h⟩)
        · cases h
        · exact throw_ne_panicSlice message (h.symm.trans hpart)
      · refine Or.inr (Or.inl ⟨?_, Or.inr ⟨message, hpart⟩, message, by rw [hpart]; rfl⟩)
        rintro ⟨-, h⟩
        exact throw_ne_panicSlice message (hpart.symm.trans h)
      · refine Or.inr (Or.inr ⟨?_, ?_, _, by rw [hpart]; rfl⟩)
        · rintro ⟨-, h⟩
          exact pure_ne_panicSlice _ (hpart.symm.trans h)
        · rintro (h | ⟨message, h⟩)
          · cases h
          · have hclash := hpart.symm.trans h
            cases hclash

/-- Empty lines and comments are skipped. -/
lemma parseLines_of_skipped (parseF64 : List Char → Option V)
    (currentType : Option (String × MetricType)) (rest : List (List Char))
    (h : trim line = [] ∨ (trim line).head? = some '#') :
    ∃ currentType', parseLines parseF64 currentType (line :: rest) =
      parseLines parseF64 currentType' rest := by
  rcases h with hempty | hcomment
  · exact ⟨currentType, by simp [parseLines, hempty]⟩
  · have hne : (trim line).isEmpty = false := by
      rcases htrim : trim line with _ | ⟨c, cs⟩
      · simp [htrim] at hcomment
      · rfl
    by_cases htype : typePrefix.isPrefixOf (trim line) = true
    · exact ⟨parseTypeLine (trim line) currentType, by simp [parseLines, hne, htype]⟩
    · exact ⟨currentType, by simp [parseLines, hne, htype, hcomment]⟩

lemma parseLines_of_not_skipped (parseF64 : List Char → Option V)
    (currentType : Option (String × MetricType)) (rest : List (List Char))
    (hne : trim line ≠ []) (hhead : (trim line).head? ≠ some '#') :
    parseLines parseF64 currentType (line :: rest) = (do
      let metric ← parseMetricLine parseF64 (trim line) currentType
      let metrics ← parseLines parseF64 currentType rest
      pure (metric.toList ++ metrics)) := by
  have hempty : (trim line).isEmpty = false := List.isEmpty_eq_false_iff.2 hne
  have htype : ¬ typePrefix.isPrefixOf (trim line) = true := by
    intro hprefix
    obtain ⟨t, ht⟩ := List.isPrefixOf_iff_prefix.1 hprefix
    rw [← ht] at hhead
    exact hhead rfl
  rw [parseLines]
  simp only [hempty, Bool.false_eq_true, if_false, if_neg htype, if_neg hhead]

/-- Where an element with all before it meeting a condition can be in a list. -/
lemma exists_split_cons_iff {α : Type} {x : α} {l : List α} {p q : α → Prop} :
    (∃ before y after, x :: l = before ++ y :: after ∧ p y ∧ ∀ z ∈ before, q z) ↔
      p x ∨ q x ∧ ∃ before y after, l = before ++ y :: after ∧ p y ∧ ∀ z ∈ before, q z := by
  constructor
  · rintro ⟨before, y, after, hsplit, hy, hbefore⟩
    rcases before with _ | ⟨z, before⟩
    · obtain ⟨rfl, -⟩ := List.cons.inj hsplit
      exact Or.inl hy
    · obtain ⟨rfl, hrest⟩ := List.cons.inj hsplit
      exact Or.inr ⟨hbefore x List.mem_cons_self, before, y, after, hrest, hy,
        fun z hz => hbefore z (List.mem_cons_of_mem _ hz)⟩
  · rintro (hx | ⟨hx, before, y, after, rfl, hy, hbefore⟩)
    · exact ⟨[], x, l, rfl, hx, List.forall_mem_nil _⟩
    · exact ⟨x :: before, y, after, rfl, hy, List.forall_mem_cons.2 ⟨hx, hbefore⟩⟩

/-- **When the parser panics.** -/
lemma parseLines_eq_panicSlice_iff {ls : List (List Char)} :
    parseLines parseF64 currentType ls = panicSlice ↔
      ∃ before line after, ls = before ++ line :: after ∧ SlicesBackwards parseF64 line ∧
        ∀ l ∈ before, ¬ IsRejected parseF64 l := by
  induction ls generalizing currentType with
  | nil => exact iff_of_false (pure_ne_panicSlice _) (by simp)
  | cons line rest ih =>
      rw [exists_split_cons_iff]
      by_cases hskip : trim line = [] ∨ (trim line).head? = some '#'
      · obtain ⟨currentType', hrest⟩ := parseLines_of_skipped parseF64 currentType rest hskip
        have hnot : ∀ series value, ¬ IsMetricLine line series value := by
          rintro series value ⟨hhead, words, hwords⟩
          rcases hskip with hempty | hcomment
          · simp [hempty, Lib.words] at hwords
          · exact hhead hcomment
        obtain ⟨hslices, hrejected⟩ := passes_of_not_metricLine parseF64 hnot
        rw [hrest, ih]
        simp [hslices, hrejected]
      · rw [not_or] at hskip
        rw [parseLines_of_not_skipped parseF64 currentType rest hskip.1 hskip.2]
        rcases parseMetricLine_cases parseF64 currentType hskip.2 with ⟨hslices, -, hpanic⟩ |
          ⟨hslices, hrejected, message, hthrow⟩ | ⟨hslices, hrejected, metric, hpure⟩
        · rw [hpanic]
          exact iff_of_true rfl (Or.inl hslices)
        · rw [hthrow]
          exact iff_of_false (throw_ne_panicSlice message) (by simp [hslices, hrejected])
        · rw [hpure, pure_bind, bind_eq_panicSlice_iff, ih]
          simp [hslices, hrejected]

/-- **The parser and panics.** The parser returns, with the series or an error, exactly when each
line that has a value and whose closing braces are before its opening ones comes after a line
that is rejected. -/
theorem parse_never_panics_iff {text : String} :
    parsePrometheusText parseF64 text ≠ panicSlice ↔
      ∀ before line after, lines text.toList = before ++ line :: after →
        SlicesBackwards parseF64 line → ∃ l ∈ before, IsRejected parseF64 l := by
  rw [parsePrometheusText, Ne, parseLines_eq_panicSlice_iff]
  constructor
  · intro hnone before line after hsplit hslices
    by_contra hrejected
    push Not at hrejected
    exact hnone ⟨before, line, after, hsplit, hslices, hrejected⟩
  · rintro hall ⟨before, line, after, hsplit, hslices, hnone⟩
    obtain ⟨l, hl, hrejected⟩ := hall before line after hsplit hslices
    exact hnone l hl hrejected

end Panics

/-- **A panic of the parser.** One line is enough. -/
theorem reversed_braces_panic :
    parsePrometheusText Webhook.parseU64 "a\x7db\x7bc 1" = panicSlice := by
  rfl

end ExternalPodAutoscaler.Scraper
