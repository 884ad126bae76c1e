/-
Scrape paths (`validate_scrape_path` of `webhook/admission/handlers.rs` and `scrape_pod_static` of
`scraper/worker.rs`).

The check of a scrape path refuses two dots in a row.  The path is put behind the address of a pod,
and the HTTP client parses the whole URL, which removes tabs and newlines, cuts at backslashes too
and takes `%2e` for a dot.

The main result of this file is `path_check_iff`: no segment of the URL of an accepted path is
taken for a double dot exactly if no piece of the path spells two dots, each as a point or as
`%2e` and with tabs or newlines in between.  The check does not look at such pieces
(`encoded_dots_accepted`).
-/
import ExternalPodAutoscaler.Lib.Urls
import ExternalPodAutoscaler.Scraper.Workers
import ExternalPodAutoscaler.Webhook.Panics

namespace ExternalPodAutoscaler.Webhook

open ExternalPodAutoscaler.Api ExternalPodAutoscaler.Lib ExternalPodAutoscaler.Scraper

/-! ### Two dots in disguise -/

/-- A point or `%2e`, with tabs and newlines anywhere. -/
def SpellsDot (s : List Char) : Prop :=
  (s.filter fun c => !isTabOrNewline c).map Char.toLower ∈ [".".toList, "%2e".toList]

/-- Between two separators, and before the end of the path, there are two dots. -/
def HidesDoubleDot (path : List Char) : Prop :=
  ∃ piece ∈ ((path.rdropWhile isC0OrSpace).takeWhile fun c => !endsPath c).splitOnP isSeparator,
    ∃ d e, piece = d ++ e ∧ SpellsDot d ∧ SpellsDot e

/-- A double dot is two single dots. -/
lemma isDoubleDot_iff {s : List Char} : isDoubleDot s = true ↔
    ∃ d e, s = d ++ e ∧ isSingleDot d = true ∧ isSingleDot e = true := by
  have hmem : isDoubleDot s = true ↔ ∃ d ∈ [".".toList, "%2e".toList],
      ∃ e ∈ [".".toList, "%2e".toList], s.map Char.toLower = d ++ e := by
    simp [isDoubleDot, or_assoc]
  rw [hmem]
  constructor
  · rintro ⟨d, hd, e, he, heq⟩
    obtain ⟨d', e', rfl, rfl, rfl⟩ := List.map_eq_append_iff.1 heq
    exact ⟨d', e', rfl, decide_eq_true hd, decide_eq_true he⟩
  · rintro ⟨d, e, rfl, hd, he⟩
    exact ⟨_, of_decide_eq_true hd, _, of_decide_eq_true he, List.map_append⟩

lemma spellsDot_iff {s : List Char} :
    SpellsDot s ↔ isSingleDot (s.filter fun c => !isTabOrNewline c) = true := by
  rw [SpellsDot, isSingleDot, decide_eq_true_iff]

/-- What is removed from a piece may stand between its dots. -/
lemma isDoubleDot_filter_iff {piece : List Char} :
    isDoubleDot (piece.filter fun c => !isTabOrNewline c) = true ↔
      ∃ d e, piece = d ++ e ∧ SpellsDot d ∧ SpellsDot e := by
  rw [isDoubleDot_iff]
  constructor
  · rintro ⟨d, e, heq, hd, he⟩
    obtain ⟨d', e', rfl, rfl, rfl⟩ := List.filter_eq_append_iff.1 heq
    exact ⟨d', e', rfl, spellsDot_iff.2 hd, spellsDot_iff.2 he⟩
  · rintro ⟨d, e, rfl, hd, he⟩
    exact ⟨_, _, List.filter_append d e, spellsDot_iff.1 hd, spellsDot_iff.1 he⟩

/-- The segments are the pieces of the path without tabs and newlines. -/
lemma splitOnP_pathText (path : List Char) : (pathText path).splitOnP isSeparator =
    (((path.rdropWhile isC0OrSpace).takeWhile fun c => !endsPath c).splitOnP isSeparator).map
      (List.filter fun c => !isTabOrNewline c) := by
  have hends : (fun c => !!isTabOrNewline c || !endsPath c) = fun c => !endsPath c := by
    funext c
    by_cases hc : isTabOrNewline c = true
    · have hend : endsPath c = false := by
        simp only [isTabOrNewline, Bool.or_eq_true, beq_iff_eq, or_assoc] at hc
        rcases hc with rfl | rfl | rfl
        all_goals decide
      simp [hend]
    · simp [hc]
  rw [pathText, List.takeWhile_filter, hends, splitOnP_filter]
  intro c hc
  simp only [isSeparator, Bool.or_eq_true, beq_iff_eq] at hc
  rcases hc with rfl | rfl
  · decide
  · decide

/-- The segments of a path hide a double dot where one of them is taken for one. -/
lemma hidesDoubleDot_iff {path : List Char} : HidesDoubleDot ('/' :: path) ↔
    ∃ segment ∈ (pathText path).splitOnP isSeparator, isDoubleDot segment = true := by
  have hslash : isC0OrSpace '/' = false := by decide
  have hcut : ((('/' :: path).rdropWhile isC0OrSpace).takeWhile fun c => !endsPath c).splitOnP
      isSeparator =
      [] :: ((path.rdropWhile isC0OrSpace).takeWhile fun c => !endsPath c).splitOnP
        isSeparator := by
    have hdrop : ('/' :: path).rdropWhile isC0OrSpace = '/' :: path.rdropWhile isC0OrSpace := by
      refine rdropWhile_append (s := ['/']) ?_ path
      rintro c ⟨⟩
      exact hslash
    rw [hdrop, List.takeWhile_cons_of_pos (by decide), List.splitOnP_cons_eq_if_modifyHead,
      if_pos (by decide)]
  have hnil : ¬ ∃ d e, ([] : List Char) = d ++ e ∧ SpellsDot d ∧ SpellsDot e := by
    rw [← isDoubleDot_filter_iff]
    decide
  rw [HidesDoubleDot, hcut, splitOnP_pathText]
  simp only [List.mem_cons, exists_eq_or_imp, hnil, false_or, List.mem_map,
    exists_exists_and_eq_and, isDoubleDot_filter_iff]

/-! ### The check -/

/-- **The path check and traversal.** The URL of an accepted path has no segment that is taken for
a double dot exactly if the address is not accepted or the path hides no double dot. -/
theorem path_check_iff {β : Type} (parseAuthority : List Char → Option β) {scrape : ScrapeConfig}
    {podIp : String} (hpath : (validateScrapePath scrape.path).accepts = true)
    (hscheme : scrape.scheme = "http" ∨ scrape.scheme = "https") (hport : 0 ≤ scrape.port)
    (hip : IsIp podIp.toList) :
    (∀ url, parseUrl parseAuthority (scrapeUrl scrape podIp).toList = some url →
      ∀ segment ∈ url.segments, isDoubleDot segment = false) ↔
    parseAuthority (podIp.toList ++ ':' :: Nat.toDigits 10 scrape.port.toNat) = none ∨
      ¬ HidesDoubleDot scrape.path.toList := by
  have hscheme' : scrape.scheme.toList ∈ ["http".toList, "https".toList] := by
    rcases hscheme with hscheme | hscheme <;> simp [hscheme]
  obtain ⟨path, hslash⟩ : ∃ path, scrape.path.toList = '/' :: path :=
    List.head?_eq_some_iff.1 (validateScrapePath_accepts_iff.1 hpath).1
  rw [scrapeUrl_toList (Int.toNat_of_nonneg hport).symm, hslash,
    parseUrl_ip parseAuthority hscheme' hip, hidesDoubleDot_iff]
  rcases parseAuthority (podIp.toList ++ ':' :: Nat.toDigits 10 scrape.port.toNat) with _ | a
  · simp
  · simp

/-- A scrape configuration with the given path. -/
def scrapeOf (path : String) : ScrapeConfig := { (webEpa "15s").spec.scrape with path := path }

/-- **Encoded dots are accepted.** The path with `.%2e` and the one with a tab between two dots are
accepted, and the HTTP client requests the directory above. -/
theorem encoded_dots_accepted :
    (validateScrapePath (scrapeOf "/metrics/.%2e/admin").path).accepts = true ∧
    (parseUrl some (scrapeUrl (scrapeOf "/metrics/.%2e/admin") "10.0.0.2").toList).map
      (fun url => (url.segments.map isDoubleDot, url.path)) =
        some ([false, true, false], ["admin".toList]) ∧
    (validateScrapePath (scrapeOf "/metrics/.\t./admin").path).accepts = true ∧
    (parseUrl some (scrapeUrl (scrapeOf "/metrics/.\t./admin") "10.0.0.2").toList).map
      (fun url => (url.segments.map isDoubleDot, url.path)) =
        some ([false, true, false], ["admin".toList]) := by
  decide +kernel

theorem path_check_iff_metrics :
    (∀ url, parseUrl some (scrapeUrl (scrapeOf "/metrics") "10.0.0.2").toList = some url →
      ∀ segment ∈ url.segments, isDoubleDot segment = false) ↔
    some ("10.0.0.2".toList ++ ':' :: Nat.toDigits 10 (scrapeOf "/metrics").port.toNat) = none ∨
      ¬ HidesDoubleDot (scrapeOf "/metrics").path.toList := by
  have hpath : (validateScrapePath (scrapeOf "/metrics").path).accepts = true := by decide
  have hip : IsIp "10.0.0.2".toList :=
    Or.inl ⟨_, _, _, _, ⟨10, by decide, rfl⟩, ⟨0, by decide, rfl⟩, ⟨0, by decide, rfl⟩,
      ⟨2, by decide, rfl⟩, by decide⟩
  exact path_check_iff some hpath (Or.inl rfl) (by decide) hip

end ExternalPodAutoscaler.Webhook
