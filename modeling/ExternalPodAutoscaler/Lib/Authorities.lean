/-
Authorities of URLs and the texts of IP addresses.

The generic grammar of URLs: the authority stands between two slashes and the path, and consists
of an optional user, a host and an optional port.  A host is a name, which has no colon, or the
text of an IPv6 address in brackets.

`authority_reads_iff` says when an address, a colon and a port are read as this address and
this port: exactly if the address has no colon, that is, if it is an IPv4 address.
-/
import ExternalPodAutoscaler.Lib.PercentCoding
import ExternalPodAutoscaler.Lib.Splitting

namespace ExternalPodAutoscaler.Lib

/-! ### Texts of IP addresses -/

/-- An octet, in decimal digits. -/
def IsOctet (s : List Char) : Prop := ∃ n < 256, s = Nat.toDigits 10 n

/-- The text of an IPv4 address. -/
def IsIpv4 (s : List Char) : Prop :=
  ∃ a b c d, IsOctet a ∧ IsOctet b ∧ IsOctet c ∧ IsOctet d ∧
    s = a ++ '.' :: (b ++ '.' :: (c ++ '.' :: d))

/-- Sixteen bits, in hexadecimal digits. -/
def IsHextet (s : List Char) : Prop :=
  s ≠ [] ∧ s.length ≤ 4 ∧ ∀ c ∈ s, isHexDigit c = true

/-- `n` groups of sixteen bits between colons; the last two may be an IPv4 address. -/
inductive IsGroups : ℕ → List Char → Prop where
  | hextet {s : List Char} (h : IsHextet s) : IsGroups 1 s
  | ipv4 {s : List Char} (h : IsIpv4 s) : IsGroups 2 s
  | cons {g s : List Char} {n : ℕ} (h : IsHextet g) (hs : IsGroups n s) :
      IsGroups (n + 1) (g ++ ':' :: s)

/-- The groups on one side of a gap, which may be none. -/
def IsPart (n : ℕ) (s : List Char) : Prop := n = 0 ∧ s = [] ∨ IsGroups n s

/-- The text of an IPv6 address: eight groups, or fewer with a gap. -/
inductive IsIpv6 : List Char → Prop where
  | full {s : List Char} (h : IsGroups 8 s) : IsIpv6 s
  | gap {a b : List Char} {m n : ℕ} (ha : IsPart m a) (hdot : '.' ∉ a) (hb : IsPart n b)
      (hle : m + n ≤ 7) : IsIpv6 (a ++ ':' :: ':' :: b)

/-- The characters of IP addresses. -/
def isIpChar (c : Char) : Bool := isHexDigit c || c == '.' || c == ':'

/-- The text of an IP address. -/
def IsIp (s : List Char) : Prop := IsIpv4 s ∨ IsIpv6 s

variable {s a b c d : List Char} {n : ℕ}

lemma isHexDigit_of_isDigit {c : Char} (h : c.isDigit = true) : isHexDigit c = true := by
  have hbounds : '0' ≤ c ∧ c ≤ '9' := by
    simpa [Char.isDigit, Char.le_def] using h
  simp [isHexDigit, hbounds]

lemma isDigit_of_mem_toDigits {c : Char} (h : c ∈ Nat.toDigits 10 n) : c.isDigit = true :=
  Nat.isDigit_of_mem_toDigits (by decide) (by decide) h

lemma IsIpv4.forall_mem (h : IsIpv4 s) : ∀ c ∈ s, c.isDigit = true ∨ c = '.' := by
  obtain ⟨a, b, c, d, ⟨i, -, rfl⟩, ⟨j, -, rfl⟩, ⟨k, -, rfl⟩, ⟨l, -, rfl⟩, rfl⟩ := h
  have hoctet : ∀ n, ∀ c ∈ Nat.toDigits 10 n, c.isDigit = true ∨ c = '.' :=
    fun n c hc => Or.inl (isDigit_of_mem_toDigits hc)
  have hdot : ∀ {a b : List Char}, (∀ c ∈ a, c.isDigit = true ∨ c = '.') →
      (∀ c ∈ b, c.isDigit = true ∨ c = '.') → ∀ c ∈ a ++ '.' :: b, c.isDigit = true ∨ c = '.' :=
    fun ha hb => List.forall_mem_append.2 ⟨ha, List.forall_mem_cons.2 ⟨Or.inr rfl, hb⟩⟩
  exact hdot (hoctet i) (hdot (hoctet j) (hdot (hoctet k) (hoctet l)))

lemma IsIpv4.isIpChar (h : IsIpv4 s) : ∀ c ∈ s, isIpChar c = true := by
  intro c hc
  rcases h.forall_mem c hc with hdigit | rfl
  · simp [Lib.isIpChar, isHexDigit_of_isDigit hdigit]
  · rfl

lemma IsHextet.forall_mem (h : IsHextet s) : ∀ c ∈ s, isIpChar c = true :=
  fun c hc => by simp [isIpChar, h.2.2 c hc]

lemma IsGroups.forall_mem (h : IsGroups n s) : ∀ c ∈ s, isIpChar c = true := by
  induction h with
  | hextet h => exact h.forall_mem
  | ipv4 h => exact h.isIpChar
  | cons h hs ih => exact List.forall_mem_append.2 ⟨h.forall_mem, List.forall_mem_cons.2 ⟨rfl, ih⟩⟩

lemma IsPart.forall_mem (h : IsPart n s) : ∀ c ∈ s, isIpChar c = true := by
  rcases h with ⟨-, rfl⟩ | h
  · exact List.forall_mem_nil _
  · exact h.forall_mem

/-- Without a colon there are two groups at most. -/
lemma IsGroups.le_two (h : IsGroups n s) (hcolon : ':' ∉ s) : n ≤ 2 := by
  cases h with
  | hextet h => decide
  | ipv4 h => decide
  | cons h hs => exact absurd (List.mem_append_right _ List.mem_cons_self) hcolon

lemma IsIpv6.colon_mem (h : IsIpv6 s) : ':' ∈ s := by
  cases h with
  | full h =>
      by_contra hcolon
      exact absurd (h.le_two hcolon) (by decide)
  | gap => exact List.mem_append_right _ List.mem_cons_self

lemma IsIp.forall_mem (h : IsIp s) : ∀ c ∈ s, isIpChar c = true := by
  rcases h with h | h
  · exact h.isIpChar
  · cases h with
    | full h => exact h.forall_mem
    | gap ha hdot hb hle =>
        exact List.forall_mem_append.2 ⟨ha.forall_mem,
          List.forall_mem_cons.2 ⟨rfl, List.forall_mem_cons.2 ⟨rfl, hb.forall_mem⟩⟩⟩

/-- The text of an IP address is one of an IPv4 address exactly if it has no colon. -/
lemma IsIp.isIpv4_iff (h : IsIp s) : IsIpv4 s ↔ ':' ∉ s := by
  refine ⟨fun hv4 hcolon => absurd (hv4.forall_mem _ hcolon) (by decide), fun hcolon => ?_⟩
  exact h.resolve_right fun hv6 => hcolon hv6.colon_mem

/-! ### Authorities -/

/-- Unreserved characters. -/
def isUnreserved (c : Char) : Bool := c.isAlphanum || c ∈ "-._~".toList

/-- Delimiters within a component. -/
def isSubDelim (c : Char) : Bool := c ∈ "!$&()*+,;=\x27".toList

/-- A text of characters that meet `p`, and of escapes. -/
inductive IsEncoded (p : Char → Bool) : List Char → Prop where
  | nil : IsEncoded p []
  | char {c : Char} {s : List Char} (hc : p c = true) (h : IsEncoded p s) : IsEncoded p (c :: s)
  | escape {a b : Char} {s : List Char} (ha : isHexDigit a = true) (hb : isHexDigit b = true)
      (h : IsEncoded p s) : IsEncoded p ('%' :: a :: b :: s)

/-- A version and an address of a later version. -/
def IsIpFuture (s : List Char) : Prop :=
  ∃ version address, s = 'v' :: (version ++ '.' :: address) ∧ version ≠ [] ∧ address ≠ [] ∧
    (∀ c ∈ version, isHexDigit c = true) ∧
    ∀ c ∈ address, isUnreserved c = true ∨ isSubDelim c = true ∨ c = ':'

/-- A host; IPv4 addresses are names. -/
inductive IsHost : List Char → Prop where
  | name {s : List Char} (h : IsEncoded (fun c => isUnreserved c || isSubDelim c) s) : IsHost s
  | literal {s : List Char} (h : IsIpv6 s ∨ IsIpFuture s) : IsHost ('[' :: (s ++ [']']))

/-- The parts of an authority. -/
structure Authority where
  userinfo : Option (List Char)
  host : List Char
  port : Option (List Char)

/-- The text of an authority. -/
def Authority.text (a : Authority) : List Char :=
  a.userinfo.elim [] (· ++ ['@']) ++ a.host ++ a.port.elim [] (':' :: ·)

/-- The text is the one of an authority with these parts. -/
structure ReadsAs (s : List Char) (a : Authority) : Prop where
  userinfo : ∀ u ∈ a.userinfo, IsEncoded (fun c => isUnreserved c || isSubDelim c || c == ':') u
  host : IsHost a.host
  port : ∀ p ∈ a.port, ∀ c ∈ p, c.isDigit = true
  text : a.text = s

/-- The authority of a URL ends with the path. -/
def authorityText (url : List Char) : Option (List Char) :=
  match splitOnce ':' url with
  | some (_, '/' :: '/' :: rest) =>
    some (rest.takeWhile fun c => !(c == '/' || c == '?' || c == '#'))
  | _ => none

/-- The URL has this address as its host and this port. -/
def Addresses (url ip : List Char) (port : ℕ) : Prop :=
  ∃ text, authorityText url = some text ∧ (∃ a, ReadsAs text a) ∧
    ∀ a, ReadsAs text a → (a.host = ip ∨ a.host = '[' :: (ip ++ [']'])) ∧
      a.port = some (Nat.toDigits 10 port)

lemma IsEncoded.of_forall {p : Char → Bool} (h : ∀ c ∈ s, p c = true) : IsEncoded p s := by
  induction s with
  | nil => exact .nil
  | cons c s ih =>
      rw [List.forall_mem_cons] at h
      exact .char h.1 (ih h.2)

/-- A character that is neither a percent sign nor a digit is one of the given ones. -/
lemma IsEncoded.of_mem {p : Char → Bool} (h : IsEncoded p s) {c : Char} (hc : c ∈ s)
    (hpercent : c ≠ '%') (hdigit : isHexDigit c = false) : p c = true := by
  induction h with
  | nil => cases hc
  | char hp h ih =>
      rcases List.mem_cons.1 hc with rfl | hc
      · exact hp
      · exact ih hc
  | escape ha hb h ih =>
      simp only [List.mem_cons] at hc
      rcases hc with rfl | rfl | rfl | hc
      · exact absurd rfl hpercent
      · rw [ha] at hdigit
        cases hdigit
      · rw [hb] at hdigit
        cases hdigit
      · exact ih hc

/-- A host without brackets has no colon. -/
lemma IsHost.colon_notMem (h : IsHost s) (hbracket : '[' ∉ s) : ':' ∉ s := by
  cases h with
  | name h =>
      intro hcolon
      exact absurd (h.of_mem hcolon (by decide) (by decide)) (by decide)
  | literal h => exact absurd List.mem_cons_self hbracket

/-- The characters of an address and a port. -/
lemma isIpChar_of_mem {c : Char} {port : ℕ} (hs : ∀ c ∈ s, isIpChar c = true)
    (hc : c ∈ s ++ ':' :: Nat.toDigits 10 port) : isIpChar c = true := by
  rcases List.mem_append.1 hc with hc | hc
  · exact hs c hc
  · rcases List.mem_cons.1 hc with rfl | hc
    · rfl
    · simp [isIpChar, isHexDigit_of_isDigit (isDigit_of_mem_toDigits hc)]

/-- The authority of an address and a port has neither a user nor brackets. -/
lemma ReadsAs.plain {authority : Authority} {port : ℕ} (hs : ∀ c ∈ s, isIpChar c = true)
    (h : ReadsAs (s ++ ':' :: Nat.toDigits 10 port) authority) :
    authority.userinfo = none ∧ '[' ∉ authority.host ∧ ':' ∉ authority.host := by
  have hchar : ∀ c ∈ authority.text, isIpChar c = true := by
    intro c hc
    rw [h.text] at hc
    exact isIpChar_of_mem hs hc
  have hbracket : '[' ∉ authority.host := by
    intro hmem
    exact absurd (hchar '[' (by simp [Authority.text, hmem])) (by decide)
  refine ⟨?_, hbracket, h.host.colon_notMem hbracket⟩
  rcases huser : authority.userinfo with _ | u
  · rfl
  · exact absurd (hchar '@' (by simp [Authority.text, huser])) (by decide)

/-- An address without a colon and a port are read in one way. -/
lemma ReadsAs.eq {authority : Authority} {port : ℕ} (hs : ∀ c ∈ s, isIpChar c = true)
    (hcolon : ':' ∉ s) (h : ReadsAs (s ++ ':' :: Nat.toDigits 10 port) authority) :
    authority.host = s ∧ authority.port = some (Nat.toDigits 10 port) := by
  obtain ⟨huser, -, hhost⟩ := h.plain hs
  have htext := h.text
  rw [Authority.text, huser, Option.elim_none, List.nil_append] at htext
  rcases hport : authority.port with _ | p
  · rw [hport, Option.elim_none, List.append_nil] at htext
    rw [htext] at hhost
    exact absurd (List.mem_append_right _ List.mem_cons_self) hhost
  · rw [hport, Option.elim_some] at htext
    have hcut : splitOnce ':' (authority.host ++ ':' :: p) = some (authority.host, p) :=
      splitOnce_eq_some_iff.2 ⟨rfl, hhost⟩
    rw [htext, splitOnce_eq_some_iff.2 ⟨rfl, hcolon⟩] at hcut
    obtain ⟨rfl, rfl⟩ : s = authority.host ∧ Nat.toDigits 10 port = p := by simpa using hcut
    exact ⟨rfl, rfl⟩

/-- An IPv4 address and a port are an authority. -/
lemma IsIpv4.readsAs (h : IsIpv4 s) (port : ℕ) : ReadsAs (s ++ ':' :: Nat.toDigits 10 port)
    ⟨none, s, some (Nat.toDigits 10 port)⟩ where
  userinfo := nofun
  host := by
    refine .name (.of_forall fun c hc => ?_)
    rcases h.forall_mem c hc with hdigit | rfl
    · simp [isUnreserved, Char.isAlphanum, hdigit]
    · decide
  port := by
    rintro p ⟨⟩ c hc
    exact isDigit_of_mem_toDigits hc
  text := rfl

/-- **Addresses and ports.** The text of an IP address, a colon and a port are an authority with
this host and this port, and no other, exactly if the address is an IPv4 address. -/
theorem authority_reads_iff (hip : IsIp s) (port : ℕ) :
    ((∃ a, ReadsAs (s ++ ':' :: Nat.toDigits 10 port) a) ∧
      ∀ a, ReadsAs (s ++ ':' :: Nat.toDigits 10 port) a →
        (a.host = s ∨ a.host = '[' :: (s ++ [']'])) ∧ a.port = some (Nat.toDigits 10 port)) ↔
    IsIpv4 s := by
  constructor
  · rintro ⟨⟨a, ha⟩, hall⟩
    obtain ⟨-, hbracket, hcolon⟩ := ha.plain hip.forall_mem
    rcases (hall a ha).1 with hhost | hhost
    · rw [hhost] at hcolon
      exact hip.isIpv4_iff.2 hcolon
    · rw [hhost] at hbracket
      exact absurd List.mem_cons_self hbracket
  · intro hv4
    refine ⟨⟨_, hv4.readsAs port⟩, fun a ha => ?_⟩
    obtain ⟨hhost, hport⟩ := ha.eq hip.forall_mem (hip.isIpv4_iff.1 hv4)
    exact ⟨Or.inl hhost, hport⟩

/-- The address and the port of a URL that is put together from a scheme, an address, a port and
a path. -/
theorem addresses_iff {scheme path : List Char} (hscheme : ':' ∉ scheme) (hip : IsIp s) (port : ℕ) :
    Addresses (scheme ++ "://".toList ++ (s ++ ':' :: Nat.toDigits 10 port) ++ '/' :: path) s port ↔
      IsIpv4 s := by
  have hauthority : authorityText
      (scheme ++ "://".toList ++ (s ++ ':' :: Nat.toDigits 10 port) ++ '/' :: path) =
      some (s ++ ':' :: Nat.toDigits 10 port) := by
    have hcut : splitOnce ':'
        (scheme ++ "://".toList ++ (s ++ ':' :: Nat.toDigits 10 port) ++ '/' :: path) =
        some (scheme, '/' :: '/' :: ((s ++ ':' :: Nat.toDigits 10 port) ++ '/' :: path)) :=
      splitOnce_eq_some_iff.2 ⟨by simp, hscheme⟩
    rw [authorityText, hcut]
    refine congrArg some (takeWhile_append_eq (fun c hc => ?_) ?_)
    · have hchar := isIpChar_of_mem hip.forall_mem hc
      simp only [Bool.not_eq_true', Bool.or_eq_false_iff, beq_eq_false_iff_ne]
      refine ⟨⟨?_, ?_⟩, ?_⟩
      all_goals
        rintro rfl
        exact absurd hchar (by decide)
    · rintro c ⟨⟩
      rfl
  rw [← authority_reads_iff hip port, Addresses, hauthority]
  simp

end ExternalPodAutoscaler.Lib
