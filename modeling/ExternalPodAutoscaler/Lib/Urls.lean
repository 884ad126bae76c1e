/-
Parsing of URLs.

The parser of the HTTP clients: control characters and spaces are dropped at the ends of a URL,
tabs and newlines everywhere, and a backslash separates like a slash.  The path ends at a question
mark or a number sign; its segments are percent-encoded after those that are dots are resolved.
How the authority is read is a parameter.

`parseUrl_eq` says how a URL is parsed that is put together from a scheme, an authority and a path,
and `resolveDots_sublist` that resolving the dots only drops segments, except that it may leave an
empty one at the end.
-/
import ExternalPodAutoscaler.Lib.Authorities

namespace ExternalPodAutoscaler.Lib

/-! ### Characters -/

/-- The control characters up to the space. -/
def isC0OrSpace (c : Char) : Bool := c.toNat ≤ 0x20

/-- The characters that are removed from a URL. -/
def isTabOrNewline (c : Char) : Bool := c == '\t' || c == '\n' || c == '\r'

/-- The separators of the segments of a path. -/
def isSeparator (c : Char) : Bool := c == '/' || c == '\\'

/-- The characters that end a path. -/
def endsPath (c : Char) : Bool := c == '?' || c == '#'

/-- The characters that are percent-encoded in a path. -/
def inPathSet (c : Char) : Bool :=
  c.toNat < 0x20 || 0x7e < c.toNat || c ∈ " \x22#<>?^\x60\x7b\x7d".toList

/-! ### Dot segments -/

/-- A segment that stands for the same directory. -/
def isSingleDot (segment : List Char) : Bool :=
  segment.map Char.toLower ∈ [".".toList, "%2e".toList]

/-- A segment that stands for the directory above. -/
def isDoubleDot (segment : List Char) : Bool :=
  segment.map Char.toLower ∈ ["..".toList, ".%2e".toList, "%2e.".toList, "%2e%2e".toList]

/-- Resolves the dot segments of the rest of a path after the segments that are kept so far. -/
def resolveDots : List (List Char) → List (List Char) → List (List Char)
  | kept, [] => kept
  | kept, segment :: segments =>
    -- a path that ends in a dot segment ends in a separator
    let last := if segments.isEmpty then [[]] else []
    if isDoubleDot segment then resolveDots (kept.dropLast ++ last) segments
    else if isSingleDot segment then resolveDots (kept ++ last) segments
    else resolveDots (kept ++ [segment]) segments

/-- A segment that is kept. -/
def IsPlainSegment (segment : List Char) : Prop :=
  isDoubleDot segment = false ∧ isSingleDot segment = false

instance (segment : List Char) : Decidable (IsPlainSegment segment) :=
  inferInstanceAs (Decidable (_ ∧ _))

variable {kept segments front : List (List Char)} {segment : List Char}

lemma resolveDots_cons (h : IsPlainSegment segment) :
    resolveDots kept (segment :: segments) = resolveDots (kept ++ [segment]) segments := by
  simp [resolveDots, h.1, h.2]

lemma resolveDots_append (h : ∀ segment ∈ front, IsPlainSegment segment) :
    resolveDots kept (front ++ segments) = resolveDots (kept ++ front) segments := by
  induction front generalizing kept with
  | nil => simp
  | cons segment front ih =>
      rw [List.forall_mem_cons] at h
      rw [List.cons_append, resolveDots_cons h.1, ih h.2, List.append_assoc, List.singleton_append]

/-- A segment that is dots does not stay before one that is kept. -/
lemma isPlainSegment_of_length {segment next : List Char} (hnext : IsPlainSegment next)
    (h : (resolveDots kept [segment, next]).length = kept.length + 2) : IsPlainSegment segment := by
  rw [resolveDots] at h
  split at h
  · rw [resolveDots_cons hnext] at h
    simp [resolveDots] at h
  · split at h
    · rw [resolveDots_cons hnext] at h
      simp [resolveDots] at h
    · rename_i hdouble hsingle
      exact ⟨Bool.eq_false_iff.2 hdouble, Bool.eq_false_iff.2 hsingle⟩

/-- Resolving the dots drops segments, but may leave an empty one at the end. -/
lemma resolveDots_sublist (kept segments : List (List Char)) : ∃ rest,
    rest.Sublist (kept ++ segments) ∧
      (resolveDots kept segments = rest ∨ resolveDots kept segments = rest ++ [[]]) := by
  induction segments generalizing kept with
  | nil => exact ⟨kept, by simp, Or.inl rfl⟩
  | cons segment segments ih =>
      have htail : (segments : List (List Char)).Sublist (segment :: segments) :=
        List.sublist_cons_self segment segments
      rw [resolveDots]
      split
      · rcases segments with _ | ⟨next, segments⟩
        · exact ⟨kept.dropLast, (List.dropLast_sublist kept).trans (List.sublist_append_left _ _),
            Or.inr rfl⟩
        · obtain ⟨rest, hrest, heq⟩ := ih kept.dropLast
          refine ⟨rest, hrest.trans ((List.dropLast_sublist kept).append htail), ?_⟩
          simpa using heq
      · split
        · rcases segments with _ | ⟨next, segments⟩
          · exact ⟨kept, List.sublist_append_left _ _, Or.inr rfl⟩
          · obtain ⟨rest, hrest, heq⟩ := ih kept
            refine ⟨rest, hrest.trans ((List.Sublist.refl kept).append htail), ?_⟩
            simpa using heq
        · obtain ⟨rest, hrest, heq⟩ := ih (kept ++ [segment])
          rw [List.append_assoc, List.singleton_append] at hrest
          exact ⟨rest, hrest, heq⟩

/-! ### Parsing -/

section Parse

variable {β : Type*}

/-- A parsed URL, with the segments of its path as they are written. -/
structure Url (β : Type*) where
  scheme : List Char
  authority : β
  segments : List (List Char)

/-- The segments of the path of a URL. -/
def Url.path (url : Url β) : List (List Char) :=
  (resolveDots [] url.segments).map (percentEncode inPathSet)

/-- A character of the authority. -/
def inAuthority (c : Char) : Bool := !(isSeparator c || endsPath c)

/-- The parser of `http` and `https` URLs. -/
def parseUrl (parseAuthority : List Char → Option β) (s : List Char) : Option (Url β) :=
  match splitOnce ':' ((dropEnds isC0OrSpace s).filter fun c => !isTabOrNewline c) with
  | none => none
  | some (scheme, rest) =>
    let scheme := scheme.map Char.toLower
    if scheme ∈ ["http".toList, "https".toList] then
      let rest := rest.dropWhile isSeparator
      let path := (rest.dropWhile inAuthority).takeWhile fun c => !endsPath c
      (parseAuthority (rest.takeWhile inAuthority)).map fun authority =>
        ⟨scheme, authority, path.tail.splitOnP isSeparator⟩
    else none

/-- The part of a path that is cut into segments. -/
def pathText (path : List Char) : List Char :=
  ((path.rdropWhile isC0OrSpace).filter fun c => !isTabOrNewline c).takeWhile fun c => !endsPath c

/-- A character that parsing leaves where it is. -/
def IsPlainChar (c : Char) : Prop := isC0OrSpace c = false ∧ inAuthority c = true

lemma isTabOrNewline_eq_false {c : Char} (h : isC0OrSpace c = false) :
    isTabOrNewline c = false := by
  have hne : ∀ d : Char, isC0OrSpace d = true → (c == d) = false := by
    rintro d hd
    rw [beq_eq_false_iff_ne]
    rintro rfl
    exact absurd hd (by simp [h])
  simp [isTabOrNewline, hne '\t' (by decide), hne '\n' (by decide), hne '\r' (by decide)]

lemma filter_eq_self_of_plain {s : List Char} (h : ∀ c ∈ s, isC0OrSpace c = false) :
    (s.filter fun c => !isTabOrNewline c) = s :=
  List.filter_eq_self.2 fun c hc => by rw [isTabOrNewline_eq_false (h c hc), Bool.not_false]

/-- Nothing is dropped of a front of plain characters. -/
lemma filter_dropEnds_append {front : List Char} (hne : front ≠ [])
    (hfront : ∀ c ∈ front, isC0OrSpace c = false) (path : List Char) :
    ((dropEnds isC0OrSpace (front ++ path)).filter fun c => !isTabOrNewline c) =
      front ++ (path.rdropWhile isC0OrSpace).filter fun c => !isTabOrNewline c := by
  rw [dropEnds_append_right hne (fun c hc => hfront c (List.mem_of_head? hc))
    (fun c hc => hfront c (List.mem_of_getLast? hc)), List.filter_append,
    filter_eq_self_of_plain hfront]

/-- A URL that is put together is parsed into its parts. -/
lemma parseUrl_eq (parseAuthority : List Char → Option β) {scheme authority : List Char}
    (hscheme : scheme ∈ ["http".toList, "https".toList]) (hne : authority ≠ [])
    (hauthority : ∀ c ∈ authority, IsPlainChar c) (path : List Char) :
    parseUrl parseAuthority (scheme ++ "://".toList ++ authority ++ '/' :: path) =
      (parseAuthority authority).map fun a =>
        ⟨scheme, a, (pathText path).splitOnP isSeparator⟩ := by
  have hslashes : ∀ c ∈ "://".toList ++ ['/'], isC0OrSpace c = false := by
    simp [isC0OrSpace]
  have hfacts : scheme.map Char.toLower = scheme ∧ ':' ∉ scheme ∧
      ∀ c ∈ scheme, isC0OrSpace c = false := by
    rcases List.mem_pair.1 hscheme with rfl | rfl <;> simp [isC0OrSpace]
  obtain ⟨hlower, hcolon, hschemePlain⟩ := hfacts
  -- nothing is dropped before the path
  have hfront : ∀ c ∈ scheme ++ "://".toList ++ authority ++ ['/'], isC0OrSpace c = false := by
    intro c hc
    simp only [List.mem_append, or_assoc] at hc
    rcases hc with hc | hc | hc | hc
    · exact hschemePlain c hc
    · exact hslashes c (List.mem_append_left _ hc)
    · exact (hauthority c hc).1
    · exact hslashes c (List.mem_append_right _ hc)
  have hclean : (dropEnds isC0OrSpace
      (scheme ++ "://".toList ++ authority ++ '/' :: path)).filter (fun c => !isTabOrNewline c) =
      scheme ++ ':' :: ("//".toList ++ authority ++
        '/' :: ((path.rdropWhile isC0OrSpace).filter fun c => !isTabOrNewline c)) := by
    have hsplit : scheme ++ "://".toList ++ authority ++ '/' :: path =
        (scheme ++ "://".toList ++ authority ++ ['/']) ++ path := by simp
    rw [hsplit, filter_dropEnds_append (by simp) hfront]
    simp
  obtain ⟨first, rest, rfl⟩ := List.exists_cons_of_ne_nil hne
  have hfirst : isSeparator first = false := by
    have hplain := (hauthority first List.mem_cons_self).2
    simp only [inAuthority, Bool.not_eq_true', Bool.or_eq_false_iff] at hplain
    exact hplain.1
  have hrest : ∀ tail, ("//".toList ++ (first :: rest) ++ '/' :: tail).dropWhile isSeparator =
      (first :: rest) ++ '/' :: tail := by
    intro tail
    have hsep : isSeparator '/' = true := rfl
    simp [hsep, hfirst]
  have hin : ∀ c ∈ first :: rest, inAuthority c = true := fun c hc => (hauthority c hc).2
  have hout : ∀ (tail : List Char), ∀ c ∈ ('/' :: tail).head?, inAuthority c = false := by
    rintro tail c ⟨⟩
    decide
  have hends : endsPath '/' = false := by decide
  rw [parseUrl, hclean, splitOnce_eq_some_iff.2 ⟨rfl, hcolon⟩]
  simp only [hlower, hscheme, if_true, hrest, takeWhile_append_eq hin (hout _),
    dropWhile_append_eq hin (hout _)]
  simp [hends, pathText]

/-- A front of plain characters is a front of the segments. -/
lemma pathText_append {front : List Char}
    (hfront : ∀ c ∈ front, isC0OrSpace c = false ∧ endsPath c = false) (path : List Char) :
    pathText (front ++ path) = front ++ pathText path := by
  have hkept : ∀ c ∈ front, (!endsPath c) = true := fun c hc => by
    rw [(hfront c hc).2, Bool.not_false]
  rw [pathText, rdropWhile_append fun c hc => (hfront c (List.mem_of_getLast? hc)).1,
    List.filter_append, filter_eq_self_of_plain fun c hc => (hfront c hc).1,
    List.takeWhile_append_of_pos hkept, pathText]

lemma pathText_sublist (path : List Char) : (pathText path).Sublist path :=
  (List.takeWhile_sublist _).trans
    (List.filter_sublist.trans (List.rdropWhile_prefix _ _).sublist)

/-- The part of a path that is cut into segments is all of it. -/
lemma pathText_eq_self_iff {path : List Char} : pathText path = path ↔
    (∀ c ∈ path, isTabOrNewline c = false ∧ endsPath c = false) ∧
      ∀ c, path.getLast? = some c → isC0OrSpace c = false := by
  constructor
  · intro h
    have hrdrop : path.rdropWhile isC0OrSpace = path := by
      refine (List.rdropWhile_prefix _ _).sublist.antisymm ?_
      conv_lhs => rw [← h]
      exact (List.takeWhile_sublist _).trans List.filter_sublist
    constructor
    · intro c hc
      rw [← h] at hc
      have hends := List.mem_takeWhile_imp hc
      have htab := (List.mem_filter.1 ((List.takeWhile_sublist _).mem hc)).2
      simp only [Bool.not_eq_true'] at hends htab
      exact ⟨htab, hends⟩
    · intro c hc
      obtain ⟨front, rfl⟩ := List.getLast?_eq_some_iff.1 hc
      by_contra hc0
      rw [Bool.not_eq_false] at hc0
      rw [List.rdropWhile_concat_pos _ _ _ hc0] at hrdrop
      have hlen := (List.rdropWhile_prefix isC0OrSpace (l := front)).length_le
      rw [hrdrop, List.length_append, List.length_singleton] at hlen
      omega
  · rintro ⟨hall, hlast⟩
    have hrdrop : path.rdropWhile isC0OrSpace = path := by
      have happend := rdropWhile_append hlast []
      rwa [List.rdropWhile_nil, List.append_nil] at happend
    have hfilter : (path.filter fun c => !isTabOrNewline c) = path :=
      List.filter_eq_self.2 fun c hc => by rw [(hall c hc).1, Bool.not_false]
    rw [pathText, hrdrop, hfilter, List.takeWhile_eq_self_iff]
    exact fun c hc => by rw [(hall c hc).2, Bool.not_false]

lemma toNat_of_isHexDigit {c : Char} (h : isHexDigit c = true) :
    48 ≤ c.toNat ∧ c.toNat ≤ 102 := by
  simp only [isHexDigit, Char.le_def, UInt32.le_iff_toNat_le, Bool.or_eq_true, Bool.and_eq_true,
    decide_eq_true_eq] at h
  change (48 ≤ c.toNat ∧ c.toNat ≤ 57 ∨ 97 ≤ c.toNat ∧ c.toNat ≤ 102) ∨
    65 ≤ c.toNat ∧ c.toNat ≤ 70 at h
  omega

lemma inPathSet_eq_false {c : Char} (h : isHexDigit c = true) : inPathSet c = false := by
  have hother : ∀ d ∈ " \x22#<>?^\x60\x7b\x7d".toList, isHexDigit d = false := by
    simp [isHexDigit]
  have hbounds := toNat_of_isHexDigit h
  have hmem : c ∉ " \x22#<>?^\x60\x7b\x7d".toList := by
    intro hc
    rw [hother c hc] at h
    cases h
  simp only [inPathSet, Bool.or_eq_false_iff, decide_eq_false_iff_not]
  exact ⟨⟨by omega, by omega⟩, hmem⟩

/-- Percent-encoding a segment does not change what it is decoded to. -/
lemma percentDecode_encoded (segment : List Char) :
    percentDecode (percentEncode inPathSet segment) = percentDecode segment :=
  percentDecode_percentEncode (by decide) (fun _ => inPathSet_eq_false) segment

lemma isPlainChar_of_isIpChar {c : Char} (h : isIpChar c = true) : IsPlainChar c := by
  constructor
  · have hbound : 0x20 < c.toNat := by
      simp only [isIpChar, Bool.or_eq_true, beq_iff_eq] at h
      rcases h with (h | rfl) | rfl
      · exact lt_of_lt_of_le (by decide) (toNat_of_isHexDigit h).1
      · decide
      · decide
    simpa [isC0OrSpace] using hbound
  · by_contra hout
    have hcases : (isSeparator c || endsPath c) = true := by
      rwa [inAuthority, Bool.not_eq_true', Bool.not_eq_false] at hout
    simp only [isSeparator, endsPath, Bool.or_eq_true, beq_iff_eq] at hcases
    rcases hcases with (rfl | rfl) | rfl | rfl
    all_goals exact absurd h (by decide)

/-- The URL of an IP address and a port is parsed into its parts. -/
lemma parseUrl_ip (parseAuthority : List Char → Option β) {scheme ip : List Char}
    (hscheme : scheme ∈ ["http".toList, "https".toList]) (hip : IsIp ip) (port : ℕ)
    (path : List Char) :
    parseUrl parseAuthority
        (scheme ++ "://".toList ++ (ip ++ ':' :: Nat.toDigits 10 port) ++ '/' :: path) =
      (parseAuthority (ip ++ ':' :: Nat.toDigits 10 port)).map fun a =>
        ⟨scheme, a, (pathText path).splitOnP isSeparator⟩ := by
  refine parseUrl_eq parseAuthority hscheme (by simp) (fun c hc => ?_) path
  exact isPlainChar_of_isIpChar (isIpChar_of_mem hip.forall_mem hc)

end Parse

end ExternalPodAutoscaler.Lib
