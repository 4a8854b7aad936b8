import NightRecon.Exceptions
import NightRecon.Lib.IpaddressCase
import NightRecon.Lib.JsonScalars
import NightRecon.Lib.Urllib

/-!
# The URLs of a crawl

`normalize_http_url` and `url_origin` of `nightrecon_red_engine/web_crawl.py`.

* `normalizeHttpUrl`, `urlOrigin`;
* `LowerLaws`, `NfkcLaws` — what is relied on of the case mapping and of the normalization;
* `Accepted`, `normalParts` — an accepted URL, and the parts of its normal form;
* `normalParts_absolute` — the parts are read back;
* `Stable` — nothing is exposed to a second normalization; `normalize_idempotent_iff`.
-/

namespace NightRecon.RedEngine.WebCrawl

open NightRecon.Lib
open NightRecon.Lib.Checks
open NightRecon.Lib.Ipaddress
open NightRecon.Lib.Text
open NightRecon.Lib.Urllib

section Model

variable (lower nfkc : List Char → List Char)

/-- An error of `urllib.parse` is a `ValueError`. -/
def parsing {α : Type} (x : Except String α) : Py α := x.mapError valueError

def http : List Char := ['h', 't', 't', 'p']

def https : List Char := ['h', 't', 't', 'p', 's']

/-- The port of the normal form: none for the default port of the scheme. -/
def normalPort (scheme : List Char) (port : Option Nat) : Option Nat :=
  if (scheme = http ∧ port = some 80) ∨ (scheme = https ∧ port = some 443) then
    none
  else port

/-- The host of a network location. -/
def hostForNetloc (host : List Char) : List Char :=
  if ':' ∈ host then '[' :: (host ++ [']']) else host

/-- A network location of a host and a port. -/
def netlocFor (host : List Char) (port : Option Nat) : List Char :=
  hostForNetloc host ++ port.elim [] fun port => ':' :: Nat.toDigits 10 port

/-- Source: `web_crawl.py` `normalize_http_url`. -/
def normalizeHttpUrl (value : String) : Py String := do
  raiseIf (strip value = "") (valueError "URL must be a non-empty string.")
  let withoutFragment ← parsing (urldefrag nfkc (strip value).toList)
  let parsed ← parsing (urlsplit nfkc withoutFragment)
  let scheme := lower parsed.scheme
  raiseIf (scheme ≠ http ∧ scheme ≠ https)
    (valueError "Only http and https URLs are supported.")
  let found ← getOrRaise ((hostname lower parsed.netloc).filter fun host => host ≠ [])
    (valueError "URL must include a hostname.")
  raiseIf (hasUserinfo parsed.netloc) (valueError "Embedded URL credentials are not supported.")
  let host := lower found
  let port ← (port parsed.netloc).mapError fun _ => valueError "Invalid URL port."
  let path := if parsed.path = [] then ['/'] else parsed.path
  return String.ofList (urlunsplit
    ⟨scheme, netlocFor host (normalPort scheme port), path, parsed.query, []⟩)

/-- Source: `web_crawl.py` `url_origin`. -/
def urlOrigin (value : String) : Py String := do
  let normalized ← normalizeHttpUrl lower nfkc value
  let parsed ← parsing (urlsplit nfkc normalized.toList)
  return String.ofList (parsed.scheme ++ "://".toList ++ parsed.netloc)

end Model

/-! ## What is relied on -/

/-- The characters that structure a URL. -/
def structural : List Char := [':', '[', ']', '@', '/', '?', '#', '%', '\t', '\r', '\n']

/-- **Case mapping.**  An ASCII text in front is lowered letter by letter and nothing is lost behind
it; a percent sign separates; lower case stays; structuring characters neither come nor go. -/
structure LowerLaws (lower : List Char → List Char) : Prop where
  front : ∀ a s, (∀ c ∈ a, c.val < 128) →
    ∃ s', lower (a ++ s) = a.map lowerChar ++ s' ∧ (s' = [] ↔ s = [])
  percent : ∀ a s, lower (a ++ '%' :: s) = lower a ++ '%' :: lower s
  idem : ∀ s, lower (lower s) = lower s
  kept : ∀ s, ∀ d ∈ structural, d ∈ lower s ↔ d ∈ s

/-- The delimiters that no character of a network location may hide. -/
def hidden : List Char := ['/', '?', '#', '@', ':']

/-- **Compatibility normalization.**  A delimiter of a normalized text comes from one character of
the text, ASCII characters stay, and no character that hides a delimiter comes from lowering. -/
structure NfkcLaws (lower nfkc : List Char → List Char) : Prop where
  charwise : ∀ s, ∀ d ∈ hidden, d ∈ nfkc s ↔ ∃ c ∈ s, d ∈ nfkc [c]
  ascii : ∀ c : Char, c.val < 128 → nfkc [c] = [c]
  lowered : ∀ s, ∀ c ∈ lower s, ¬ c.val < 128 → ∀ d ∈ hidden, d ∈ nfkc [c] → c ∈ s

section Laws

variable {lower nfkc : List Char → List Char}

theorem LowerLaws.ascii (laws : LowerLaws lower) {s : List Char} (h : ∀ c ∈ s, c.val < 128) :
    lower s = s.map lowerChar := by
  obtain ⟨s', hs, hnil⟩ := laws.front s [] h
  rw [List.append_nil] at hs
  rw [hs, hnil.mpr rfl, List.append_nil]

theorem LowerLaws.eq_nil_iff (laws : LowerLaws lower) (s : List Char) : lower s = [] ↔ s = [] := by
  obtain ⟨s', hs, hnil⟩ := laws.front [] s (fun c hc => absurd hc List.not_mem_nil)
  rw [List.nil_append, List.map_nil, List.nil_append] at hs
  rw [hs, hnil]

end Laws

/-! ## Accepted URLs -/

/-- The parts from which a URL is normalized. -/
def parsedUrl (nfkc : List Char → List Char) (value : String) : Except String SplitResult := do
  let withoutFragment ← urldefrag nfkc (strip value).toList
  urlsplit nfkc withoutFragment

/-- The host of the normal form. -/
def normalHost (lower : List Char → List Char) (r : SplitResult) : List Char :=
  lower (hostinfo r.netloc).1

/-- The URL is accepted, with these parts and this port. -/
structure Accepted (lower nfkc : List Char → List Char) (value : String) (r : SplitResult)
    (p : Option Nat) : Prop where
  nonblank : strip value ≠ ""
  split : parsedUrl nfkc value = .ok r
  scheme : lower r.scheme = http ∨ lower r.scheme = https
  host : (hostinfo r.netloc).1 ≠ []
  user : '@' ∉ r.netloc
  port : port r.netloc = .ok p

/-- The parts of the normal form. -/
def normalParts (lower : List Char → List Char) (r : SplitResult) (p : Option Nat) : SplitResult :=
  ⟨lower r.scheme, netlocFor (normalHost lower r) (normalPort (lower r.scheme) p),
    if r.path = [] then ['/'] else r.path, r.query, []⟩

section Accepting

variable {lower nfkc : List Char → List Char} {value : String} {r : SplitResult} {p : Option Nat}

/-- The host is lowered as a whole, although its zone is lowered later. -/
theorem lower_hostname (laws : LowerLaws lower) {netloc found : List Char}
    (h : hostname lower netloc = some found) : lower found = lower (hostinfo netloc).1 := by
  rw [hostname] at h
  split_ifs at h with hnil hzone
  · rw [← Option.some.inj h, laws.percent, laws.idem, ← laws.percent, before_after hzone]
  · rw [← Option.some.inj h, List.append_nil, laws.idem, before_of_notMem hzone]

theorem hostname_filter (laws : LowerLaws lower) (netloc : List Char) :
    ((hostname lower netloc).filter fun host => host ≠ []) =
      if (hostinfo netloc).1 = [] then none else hostname lower netloc := by
  rw [hostname]
  by_cases hnil : (hostinfo netloc).1 = []
  · rw [if_pos hnil, if_pos hnil, Option.filter_none]
  · rw [if_neg hnil, if_neg hnil, Option.filter_some, if_pos]
    rw [decide_eq_true_eq]
    intro happend
    obtain ⟨hlower, hrest⟩ := List.append_eq_nil_iff.mp happend
    split_ifs at hrest with hzone
    rw [before_of_notMem hzone] at hlower
    exact hnil ((laws.eq_nil_iff _).mp hlower)

theorem parsing_eq_ok {α : Type} {x : Except String α} {a : α} :
    parsing x = .ok a ↔ x = .ok a := by
  cases x with
  | error e => simp [parsing, Except.mapError]
  | ok b => simp [parsing, Except.mapError]

theorem mapError_eq_ok {α : Type} {x : Except String α} {f : String → Exn} {a : α} :
    x.mapError f = .ok a ↔ x = .ok a := by
  cases x with
  | error e => simp [Except.mapError]
  | ok b => simp [Except.mapError]

/-- **A URL is accepted to the text of its normal parts.** -/
theorem normalizeHttpUrl_eq_ok (laws : LowerLaws lower) {url : String} :
    normalizeHttpUrl lower nfkc value = .ok url ↔
      ∃ r p, Accepted lower nfkc value r p ∧
        url = String.ofList (urlunsplit (normalParts lower r p)) := by
  rw [normalizeHttpUrl, raiseIf_bind_eq_ok]
  constructor
  · rintro ⟨hblank, h⟩
    obtain ⟨withoutFragment, hdefrag, h⟩ := bind_eq_ok.mp h
    obtain ⟨r, hsplit, h⟩ := bind_eq_ok.mp h
    dsimp only at h
    rw [raiseIf_bind_eq_ok] at h
    obtain ⟨hscheme, h⟩ := h
    obtain ⟨found, hfound, h⟩ := bind_eq_ok.mp h
    rw [raiseIf_bind_eq_ok] at h
    obtain ⟨huser, h⟩ := h
    obtain ⟨p, hport, h⟩ := bind_eq_ok.mp h
    rw [getOrRaise_eq_ok, hostname_filter laws] at hfound
    have hhost : (hostinfo r.netloc).1 ≠ [] := by
      intro hnil
      rw [if_pos hnil] at hfound
      cases hfound
    rw [if_neg hhost] at hfound
    refine ⟨r, p, ⟨hblank, ?_, ?_, hhost, ?_, mapError_eq_ok.mp hport⟩, ?_⟩
    · rw [parsedUrl, parsing_eq_ok.mp hdefrag, ok_bind, parsing_eq_ok.mp hsplit]
    · exact or_iff_not_and_not.mpr hscheme
    · simpa [hasUserinfo] using huser
    · rw [normalParts, normalHost, ← lower_hostname laws hfound]
      exact (Except.ok.inj h).symm
  · rintro ⟨r, p, haccepted, rfl⟩
    obtain ⟨hblank, hsplit, hscheme, hhost, huser, hport⟩ := haccepted
    obtain ⟨withoutFragment, hdefrag, hsplit⟩ := bind_eq_ok.mp hsplit
    refine ⟨hblank, ?_⟩
    obtain ⟨found, hfound⟩ : ∃ found, hostname lower r.netloc = some found := by
      rw [hostname]
      rw [if_neg hhost]
      exact ⟨_, rfl⟩
    have hnotuser : ¬ hasUserinfo r.netloc = true := by simpa [hasUserinfo] using huser
    rw [hdefrag, parsing_eq_ok.mpr rfl, ok_bind, hsplit, parsing_eq_ok.mpr rfl, ok_bind]
    dsimp only
    rw [raiseIf_of_not (or_iff_not_and_not.mp hscheme), ok_bind, hostname_filter laws,
      if_neg hhost, hfound, getOrRaise_some, ok_bind, raiseIf_of_not hnotuser, ok_bind, hport,
      mapError_eq_ok.mpr rfl, ok_bind, lower_hostname laws hfound]
    rfl

end Accepting

/-! ## The host of an accepted URL -/

section Host

variable {netloc : List Char}

theorem hostinfo_eq (huser : '@' ∉ netloc) : hostinfo netloc =
    if '[' ∈ netloc then (before ']' (after '[' netloc), after ':' (after ']' (after '[' netloc)))
    else (before ':' netloc, after ':' netloc) := by
  rw [hostinfo, afterLast_of_notMem huser]

theorem mem_netloc_of_mem_host (huser : '@' ∉ netloc) {c : Char}
    (h : c ∈ (hostinfo netloc).1) : c ∈ netloc := by
  rw [hostinfo_eq huser] at h
  split_ifs at h with hbracket
  · exact mem_of_mem_after (mem_of_mem_before h)
  · exact mem_of_mem_before h

/-- Only a host between brackets has a colon. -/
theorem bracket_of_colon (huser : '@' ∉ netloc) (h : ':' ∈ (hostinfo netloc).1) :
    '[' ∈ netloc := by
  by_contra hbracket
  rw [hostinfo_eq huser, if_neg hbracket] at h
  exact notMem_before _ _ h

theorem closing_notMem_host (huser : '@' ∉ netloc) (hbrackets : checkBrackets netloc = .ok ()) :
    ']' ∉ (hostinfo netloc).1 := by
  intro h
  have hmem := mem_netloc_of_mem_host huser h
  rw [hostinfo_eq huser] at h
  split_ifs at h with hbracket
  · exact notMem_before _ _ h
  · rw [checkBrackets, raiseIf_bind_eq_ok] at hbrackets
    exact hbrackets.1 (.inr ⟨hmem, hbracket⟩)

/-- The host between brackets was checked. -/
theorem host_checked (huser : '@' ∉ netloc) (hbrackets : checkBrackets netloc = .ok ())
    (hbracket : '[' ∈ netloc) : checkBracketedHost (hostinfo netloc).1 = .ok () := by
  rw [checkBrackets, raiseIf_bind_eq_ok] at hbrackets
  obtain ⟨hpaired, hchecked⟩ := hbrackets
  have hclosing : ']' ∈ netloc := by
    by_contra hnot
    exact hpaired (.inl ⟨hbracket, hnot⟩)
  rw [if_pos ⟨hbracket, hclosing⟩, checkBracketedNetloc, afterLast_of_notMem huser] at hchecked
  dsimp only at hchecked
  rw [if_pos hbracket, raiseIf_bind_eq_ok, raiseIf_bind_eq_ok] at hchecked
  rw [hostinfo_eq huser, if_pos hbracket]
  exact hchecked.2.2

end Host

/-! ## The network location of the normal form -/

/-- The digits of a port structure nothing. -/
theorem digit_not_structural {n : Nat} {c : Char} (h : c ∈ Nat.toDigits 10 n) :
    isDigit c = true ∧ c ∉ structural ∧ c.val < 128 := by
  have hdigit := Json.isDigit_of_mem_toDigits h
  refine ⟨hdigit, ?_, ?_⟩
  · intro hmem
    simp only [structural, List.mem_cons, List.not_mem_nil, or_false] at hmem
    rcases hmem with rfl | rfl | rfl | rfl | rfl | rfl | rfl | rfl | rfl | rfl | rfl <;>
      revert hdigit <;> decide
  · simp only [isDigit, Bool.and_eq_true, decide_eq_true_eq, Char.le_def] at hdigit
    have h9 : '9'.val = 57 := rfl
    rw [h9] at hdigit
    exact UInt32.lt_of_le_of_lt hdigit.2 (by decide)

/-- A character of a network location is a bracket, a colon, a digit or in the host. -/
theorem mem_netlocFor {host : List Char} {p : Option Nat} {c : Char} (h : c ∈ netlocFor host p) :
    c ∈ host ∨ ((c = '[' ∨ c = ']') ∧ ':' ∈ host) ∨ c = ':' ∨
      (isDigit c = true ∧ c ∉ structural ∧ c.val < 128) := by
  rw [netlocFor] at h
  rcases List.mem_append.mp h with h | h
  · rw [hostForNetloc] at h
    split_ifs at h with hcolon
    · rcases List.mem_cons.mp h with rfl | h
      · exact .inr (.inl ⟨.inl rfl, hcolon⟩)
      · rcases List.mem_append.mp h with h | h
        · exact .inl h
        · exact .inr (.inl ⟨.inr (List.mem_singleton.mp h), hcolon⟩)
    · exact .inl h
  · cases p with
    | none => exact absurd h List.not_mem_nil
    | some n =>
      rcases List.mem_cons.mp h with rfl | h
      · exact .inr (.inr (.inl rfl))
      · exact .inr (.inr (.inr (digit_not_structural h)))

/-- What a host must not have to be read back from its network location. -/
structure HostOk (host : List Char) : Prop where
  nonempty : host ≠ []
  user : '@' ∉ host
  closing : ']' ∉ host
  opening : '[' ∈ host → ':' ∈ host

section Netloc

variable {host : List Char} {p : Option Nat}

/-- The text of the port. -/
def portText (p : Option Nat) : List Char := p.elim [] (Nat.toDigits 10)

theorem user_notMem_netlocFor (h : HostOk host) : '@' ∉ netlocFor host p := by
  intro hmem
  rcases mem_netlocFor hmem with hmem | ⟨heq | heq, -⟩ | heq | ⟨hdigit, -, -⟩
  · exact h.user hmem
  · exact absurd heq (by decide)
  · exact absurd heq (by decide)
  · exact absurd heq (by decide)
  · exact absurd hdigit (by decide)

theorem after_colon_port (p : Option Nat) :
    after ':' (p.elim [] fun port => ':' :: Nat.toDigits 10 port) = portText p := by
  cases p with
  | none => rfl
  | some n => exact after_append (a := []) List.not_mem_nil

/-- **The host and the port are read back.** -/
theorem hostinfo_netlocFor (h : HostOk host) (p : Option Nat) :
    hostinfo (netlocFor host p) = (host, portText p) := by
  rw [hostinfo_eq (user_notMem_netlocFor h)]
  by_cases hcolon : ':' ∈ host
  · have hnetloc : netlocFor host p = [] ++ '[' :: (host ++ ']' ::
        p.elim [] fun port => ':' :: Nat.toDigits 10 port) := by
      rw [netlocFor, hostForNetloc, if_pos hcolon, List.nil_append, List.cons_append,
        List.append_assoc]
      rfl
    rw [if_pos (by rw [hnetloc]; exact List.mem_cons_self), hnetloc,
      after_append List.not_mem_nil, before_append h.closing, after_append h.closing,
      after_colon_port]
  · have hopening : '[' ∉ netlocFor host p := by
      intro hmem
      rcases mem_netlocFor hmem with hmem | ⟨-, hmem⟩ | heq | ⟨hdigit, -, -⟩
      · exact hcolon (h.opening hmem)
      · exact hcolon hmem
      · exact absurd heq (by decide)
      · exact absurd hdigit (by decide)
    rw [if_neg hopening, netlocFor, hostForNetloc, if_neg hcolon]
    cases p with
    | none =>
      rw [Option.elim_none, List.append_nil, before_of_notMem hcolon, after_of_notMem hcolon]
      rfl
    | some n =>
      rw [Option.elim_some, before_append hcolon, after_append hcolon]
      rfl

theorem port_netlocFor (h : HostOk host) (hp : ∀ n, p = some n → n ≤ 65535) :
    port (netlocFor host p) = .ok p := by
  rw [port, hostinfo_netlocFor h]
  dsimp only
  cases p with
  | none => rfl
  | some n =>
    have hdigits : (Nat.toDigits 10 n).all isDigit = true :=
      List.all_eq_true.mpr fun c hc => Json.isDigit_of_mem_toDigits hc
    have hne : portText (some n) ≠ [] := Nat.toDigits_ne_nil
    rw [if_neg hne]
    have htext : portText (some n) = Nat.toDigits 10 n := rfl
    rw [htext, raiseIf_of_not (by rw [hdigits]; exact Bool.noConfusion), ok_bind,
      Json.digitsVal_toDigits, raiseIf_of_not (Nat.not_lt.mpr (hp n rfl))]
    rfl

/-- **The brackets of the normal form are in order.** -/
theorem checkBrackets_netlocFor (h : HostOk host) (p : Option Nat)
    (hchecked : ':' ∈ host → checkBracketedHost host = .ok ()) :
    checkBrackets (netlocFor host p) = .ok () := by
  rw [checkBrackets]
  by_cases hcolon : ':' ∈ host
  · have hnetloc : netlocFor host p = [] ++ '[' :: (host ++ ']' ::
        p.elim [] fun port => ':' :: Nat.toDigits 10 port) := by
      rw [netlocFor, hostForNetloc, if_pos hcolon, List.nil_append, List.cons_append,
        List.append_assoc]
      rfl
    have hopening : '[' ∈ netlocFor host p := by
      rw [hnetloc]
      exact List.mem_cons_self
    have hclosing : ']' ∈ netlocFor host p := by
      rw [hnetloc]
      exact List.mem_cons_of_mem _ (List.mem_append_right _ List.mem_cons_self)
    have hport : ¬ ((p.elim [] fun port => ':' :: Nat.toDigits 10 port) ≠ [] ∧
        (p.elim [] fun port => ':' :: Nat.toDigits 10 port).head? ≠ some ':') := by
      cases p with
      | none => exact fun hne => hne.1 rfl
      | some n => exact fun hne => hne.2 rfl
    rw [raiseIf_of_not (by simp [hopening, hclosing]), ok_bind, if_pos ⟨hopening, hclosing⟩,
      checkBracketedNetloc, afterLast_of_notMem (user_notMem_netlocFor h)]
    dsimp only
    rw [if_pos hopening, hnetloc, before_append List.not_mem_nil, raiseIf_of_not (by simp),
      ok_bind, after_append List.not_mem_nil, after_append h.closing, before_append h.closing,
      raiseIf_of_not hport, ok_bind]
    exact hchecked hcolon
  · have hnone : ∀ c, c = '[' ∨ c = ']' → c ∉ netlocFor host p := by
      intro c hc hmem
      rcases mem_netlocFor hmem with hmem | ⟨-, hmem⟩ | heq | ⟨hdigit, -, -⟩
      · rcases hc with rfl | rfl
        · exact hcolon (h.opening hmem)
        · exact h.closing hmem
      · exact hcolon hmem
      · rcases hc with rfl | rfl <;> exact absurd heq (by decide)
      · rcases hc with rfl | rfl <;> exact absurd hdigit (by decide)
    have hopening := hnone '[' (.inl rfl)
    have hclosing := hnone ']' (.inr rfl)
    rw [raiseIf_of_not (by simp [hopening, hclosing]), ok_bind,
      if_neg (fun hboth => hopening hboth.1)]
    rfl

end Netloc

/-! ## Lowering the host -/

section Lowering

variable {lower nfkc : List Char → List Char}

theorem ascii_of_hexVal {c : Char} (h : (hexVal c).isSome = true) : c.val < 128 := by
  rw [hexVal] at h
  split_ifs at h with hdigit hlower hupper
  · simp only [isDigit, Bool.and_eq_true, decide_eq_true_eq, Char.le_def] at hdigit
    exact UInt32.lt_of_le_of_lt hdigit.2 (by decide)
  · rw [Char.le_def, Char.le_def] at hlower
    exact UInt32.lt_of_le_of_lt hlower.2 (by decide)
  · rw [Char.le_def, Char.le_def] at hupper
    exact UInt32.lt_of_le_of_lt hupper.2 (by decide)
  · cases h

/-- **A future address stays one.** -/
theorem isFuture_lower (laws : LowerLaws lower) {host : List Char} (h : isFuture host = true) :
    isFuture (lower host) = true := by
  rw [isFuture, decide_eq_true_eq] at h
  obtain ⟨hv, hdigits, hdot, hmore, hline⟩ := h
  cases host with
  | nil => cases hv
  | cons v tail =>
    obtain rfl : v = 'v' := Option.some.inj hv
    have hdrop : ∀ (c : Char) (l : List Char), (c :: l).drop 1 = l := fun _ _ => rfl
    rw [hdrop] at hdigits hdot hmore hline
    have hsplit := List.takeWhile_append_dropWhile (p := fun c => (hexVal c).isSome) (l := tail)
    have hhex : ∀ c ∈ tail.takeWhile (fun c => (hexVal c).isSome), (hexVal c).isSome = true :=
      fun c hc => List.mem_takeWhile_imp (p := fun c => (hexVal c).isSome) hc
    generalize tail.takeWhile (fun c => (hexVal c).isSome) = digits at hdigits hsplit hhex
    generalize tail.dropWhile (fun c => (hexVal c).isSome) = rest at hdot hmore hline hsplit
    cases rest with
    | nil => cases hdot
    | cons d more =>
      obtain rfl : d = '.' := Option.some.inj hdot
      rw [hdrop] at hmore hline
      have hascii : ∀ c ∈ 'v' :: (digits ++ ['.']), c.val < 128 := by
        intro c hc
        rcases List.mem_cons.mp hc with rfl | hc
        · decide
        · rcases List.mem_append.mp hc with hc | hc
          · exact ascii_of_hexVal (hhex c hc)
          · rw [List.mem_singleton.mp hc]
            decide
      obtain ⟨s', hs, hnil⟩ := laws.front ('v' :: (digits ++ ['.'])) more hascii
      have hhost : ('v' :: (digits ++ ['.'])) ++ more = 'v' :: tail := by
        rw [← hsplit, List.cons_append, List.append_assoc]
        rfl
      have hs' : s' ≠ [] := fun hempty => hmore (hnil.mp hempty)
      have hlower : lower ('v' :: tail) = 'v' :: (digits.map lowerChar ++ '.' :: s') := by
        rw [← hhost, hs, List.map_cons, List.map_append, List.cons_append, List.append_assoc]
        rfl
      have hhex' : ∀ c ∈ digits.map lowerChar, (hexVal c).isSome = true := by
        intro c hc
        obtain ⟨d, hd, rfl⟩ := List.mem_map.mp hc
        rw [hexVal_lowerChar]
        exact hhex d hd
      have htake : ('.' :: s').takeWhile (fun c => (hexVal c).isSome) = [] := rfl
      have hrest : ('.' :: s').dropWhile (fun c => (hexVal c).isSome) = '.' :: s' := rfl
      -- a line end in the lowered text was in the host
      have hline' : '\n' ∉ s' := by
        intro hmem
        have hmem' : '\n' ∈ lower ('v' :: tail) := by
          rw [hlower]
          exact List.mem_cons_of_mem _ (List.mem_append_right _ (List.mem_cons_of_mem _ hmem))
        rw [laws.kept _ _ (by decide), ← hhost] at hmem'
        rcases List.mem_append.mp hmem' with hmem' | hmem'
        · rcases List.mem_cons.mp hmem' with heq | hmem'
          · exact absurd heq (by decide)
          · rcases List.mem_append.mp hmem' with hmem' | hmem'
            · exact absurd (hhex _ hmem') (by decide)
            · exact absurd (List.mem_singleton.mp hmem') (by decide)
        · exact hline hmem'
      rw [hlower, isFuture, hdrop, List.takeWhile_append_of_pos hhex',
        List.dropWhile_append_of_pos hhex', htake, hrest, List.append_nil]
      simp [hdigits, hline', hs']

/-- Lowering a hextet text lowers its letters. -/
theorem lower_hextets (laws : LowerLaws lower) {text : List Char} {v : Nat}
    (h : parseIpv6 text = some v) : lower text = text.map lowerChar := by
  apply laws.ascii
  intro c hc
  rcases parseIpv6_charset h hc with hhex | rfl | rfl
  · exact ascii_of_hexVal hhex
  · decide
  · decide

/-- A hextet text does not start with the letter of future addresses. -/
theorem head_hextets {text rest : List Char} {v : Nat} (h : parseIpv6 text = some v) :
    (text.map lowerChar ++ rest).head? ≠ some 'v' := by
  cases text with
  | nil => cases h
  | cons c text =>
    intro hhead
    have hc : lowerChar c = 'v' := Option.some.inj hhead
    rcases parseIpv6_charset h List.mem_cons_self with hhex | rfl | rfl
    · rw [← hexVal_lowerChar, hc] at hhex
      exact absurd hhex (by decide)
    · exact absurd hc (by decide)
    · exact absurd hc (by decide)

/-- The address of a text that was read is read from its number again. -/
theorem mkAddress_v6 {v : Nat} {zone : Option (List Char)} {a : IpAddress}
    (h : mkAddress .v6 v zone = some a) (zone' : Option (List Char)) :
    ∃ b, mkAddress .v6 v zone' = some b ∧ b.version = .v6 := by
  rw [mkAddress] at h
  split_ifs at h with hlt
  refine ⟨⟨.v6, v, zone', hlt⟩, ?_, rfl⟩
  rw [mkAddress, dif_pos hlt]

/-- An IPv6 address with a lowered text. -/
theorem ipAddress_of_lower (laws : LowerLaws lower) {host text zone : List Char} {v : Nat}
    {zone' : Option (List Char)} {a : IpAddress} (hslash : '/' ∉ host)
    (htext : parseIpv6 text = some v) (hmem : ∀ c ∈ text, c ∈ host)
    (ha : mkAddress .v6 v zone' = some a)
    (hlower : lower host = text.map lowerChar ++ zone) (zone'' : Option (List Char))
    (hzone : splitZone (lower host) = some (text.map lowerChar, zone'')) :
    (lower host).head? ≠ some 'v' ∧
      ∃ b, ipAddress (String.ofList (lower host)) = some b ∧ b.version = .v6 := by
  refine ⟨?_, ?_⟩
  · rw [hlower]
    exact head_hextets htext
  · have hcolon : ':' ∈ lower host :=
      (laws.kept _ _ (by decide)).mpr (hmem _ (parseIpv6_chars htext))
    have hv4 : parseAddress4 (lower host) = none := by
      cases hfour : parseIpv4 (lower host) with
      | none => rw [parseAddress4, hfour, Option.bind_none]
      | some w =>
        rcases parseIpv4_chars hfour _ hcolon with hdigit | hdot
        · exact absurd hdigit (by decide)
        · exact absurd hdot (by decide)
    have hslash' : '/' ∉ lower host := fun hmem => hslash ((laws.kept _ _ (by decide)).mp hmem)
    obtain ⟨b, hb, hversion⟩ := mkAddress_v6 ha zone''
    refine ⟨b, ?_, hversion⟩
    rw [ipAddress, String.toList_ofList, if_neg hslash', hv4]
    show parseAddress6 (lower host) = some b
    rw [parseAddress6, hzone]
    simp only [Option.bind_eq_bind, Option.bind_some, parseIpv6_lower, htext]
    exact hb

/-- **An IPv6 address stays one.** -/
theorem ipAddress_lower (laws : LowerLaws lower) {host : List Char} {a : IpAddress}
    (h : ipAddress (String.ofList host) = some a) (hv : a.version ≠ .v4) :
    (lower host).head? ≠ some 'v' ∧
      ∃ b, ipAddress (String.ofList (lower host)) = some b ∧ b.version = .v6 := by
  rw [ipAddress, String.toList_ofList] at h
  split_ifs at h with hslash
  have h6 : parseAddress6 host = some a := by
    cases hfour : parseAddress4 host with
    | none =>
      rw [hfour] at h
      exact h
    | some b =>
      rw [hfour] at h
      obtain rfl : b = a := Option.some.inj h
      obtain ⟨w, -, hmk⟩ := Option.bind_eq_some_iff.mp hfour
      rw [mkAddress] at hmk
      split_ifs at hmk with hlt
      rw [← Option.some.inj hmk] at hv
      exact absurd rfl hv
  simp only [parseAddress6, Option.bind_eq_bind, Option.bind_eq_some_iff] at h6
  obtain ⟨⟨text, zone⟩, hzone, v, htext, hmk⟩ := h6
  dsimp only at htext hmk
  by_cases hpercent : '%' ∈ host
  · rw [splitZone_of_mem hpercent] at hzone
    split_ifs at hzone with hbad
    obtain ⟨hnone, hne⟩ := not_or.mp hbad
    simp only [Option.some.injEq, Prod.mk.injEq] at hzone
    obtain ⟨rfl, rfl⟩ := hzone
    have hlower : lower host =
        (before '%' host).map lowerChar ++ '%' :: lower (after '%' host) := by
      conv_lhs => rw [← before_after hpercent]
      rw [laws.percent, lower_hextets laws htext]
    have hbefore : '%' ∉ (before '%' host).map lowerChar := by
      rw [← lower_hextets laws htext, laws.kept _ _ (by decide)]
      exact notMem_before _ _
    refine ipAddress_of_lower laws hslash htext (fun c hc => mem_of_mem_before hc) hmk hlower
      (some (lower (after '%' host))) ?_
    rw [hlower, splitZone_of_mem (List.mem_append_right _ List.mem_cons_self),
      after_append hbefore, before_append hbefore, if_neg]
    rw [not_or, laws.eq_nil_iff, laws.kept _ _ (by decide)]
    exact ⟨hnone, hne⟩
  · rw [splitZone_of_notMem hpercent] at hzone
    simp only [Option.some.injEq, Prod.mk.injEq] at hzone
    obtain ⟨rfl, rfl⟩ := hzone
    have hlower : lower host = host.map lowerChar ++ [] := by
      rw [lower_hextets laws htext, List.append_nil]
    have hpercent' : '%' ∉ lower host := fun hmem =>
      hpercent ((laws.kept _ _ (by decide)).mp hmem)
    refine ipAddress_of_lower laws hslash htext (fun c hc => hc) hmk hlower none ?_
    rw [splitZone_of_notMem hpercent', lower_hextets laws htext]

/-- **A host between brackets stays one.** -/
theorem checkBracketedHost_lower (laws : LowerLaws lower) {host : List Char}
    (h : checkBracketedHost host = .ok ()) : checkBracketedHost (lower host) = .ok () := by
  rw [checkBracketedHost] at h
  by_cases hv : host.head? = some 'v'
  · rw [if_pos hv, raiseIf_eq_ok, Bool.not_eq_false] at h
    have hfuture := isFuture_lower laws h
    have hv' : (lower host).head? = some 'v' := by
      rw [isFuture, decide_eq_true_eq] at hfuture
      exact hfuture.1
    rw [checkBracketedHost, if_pos hv', raiseIf_eq_ok, Bool.not_eq_false]
    exact hfuture
  · rw [if_neg hv] at h
    obtain ⟨a, ha, hversion⟩ := bind_eq_ok.mp h
    rw [getOrRaise_eq_ok] at ha
    rw [raiseIf_eq_ok] at hversion
    obtain ⟨hv', b, hb, hb6⟩ := ipAddress_lower laws ha hversion
    rw [checkBracketedHost, if_neg hv', hb, getOrRaise_some, ok_bind, raiseIf_eq_ok, hb6]
    exact IpVersion.noConfusion

/-- **The normalization check passes again.** -/
theorem checkNetloc_netlocFor (nlaws : NfkcLaws lower nfkc) {netloc host : List Char}
    (hnetloc : ∀ c ∈ netloc, isDelimiter c = false) (hmem : ∀ c ∈ host, c ∈ netloc)
    (hchecked : checkNetloc nfkc netloc = .ok ()) (hslash : '/' ∉ lower host) (p : Option Nat) :
    checkNetloc nfkc (netlocFor (lower host) p) = .ok () := by
  have hnotslash : '/' ∉ netloc := by
    intro hmem
    have hdelim := hnetloc _ hmem
    exact absurd hdelim (by decide)
  rw [checkNetloc]
  by_cases hascii : ((netlocFor (lower host) p).all fun c => c.val < 128) = true
  · rw [if_pos hascii]
    rfl
  rw [if_neg hascii]
  dsimp only
  by_cases hsame : (netlocFor (lower host) p).filter (fun c => c ∉ ['@', ':', '#', '?']) =
      nfkc ((netlocFor (lower host) p).filter fun c => c ∉ ['@', ':', '#', '?'])
  · rw [if_pos hsame]
    rfl
  rw [if_neg hsame, raiseIf_eq_ok]
  rintro ⟨d, hd, hhidden⟩
  have hd' : d ∈ hidden := hd
  obtain ⟨c, hc, hdc⟩ := (nlaws.charwise _ d hd').mp hhidden
  obtain ⟨hc, hkept⟩ := List.mem_filter.mp hc
  by_cases hlow : c.val < 128
  · -- an ASCII character would be the delimiter itself
    rw [nlaws.ascii c hlow, List.mem_singleton] at hdc
    subst hdc
    have hd'' : d = '/' := by
      simp only [hidden, List.mem_cons, List.not_mem_nil, or_false] at hd'
      rcases hd' with rfl | rfl | rfl | rfl | rfl
      · rfl
      all_goals exact absurd hkept (by decide)
    subst hd''
    rcases mem_netlocFor hc with hmem | ⟨heq | heq, -⟩ | heq | ⟨hdigit, -, -⟩
    · exact hslash hmem
    · exact absurd heq (by decide)
    · exact absurd heq (by decide)
    · exact absurd heq (by decide)
    · exact absurd hdigit (by decide)
  · -- any other comes from the host, where it was refused
    have hc' : c ∈ netloc := by
      rcases mem_netlocFor hc with hmem' | ⟨heq | heq, -⟩ | heq | ⟨-, -, hlow'⟩
      · exact hmem c (nlaws.lowered _ c hmem' hlow d hd' hdc)
      · rw [heq] at hlow
        exact absurd (by decide) hlow
      · rw [heq] at hlow
        exact absurd (by decide) hlow
      · rw [heq] at hlow
        exact absurd (by decide) hlow
      · exact absurd hlow' hlow
    have hfound : d ∈ nfkc (netloc.filter fun c => c ∉ ['@', ':', '#', '?']) :=
      (nlaws.charwise _ d hd').mpr ⟨c, List.mem_filter.mpr ⟨hc', hkept⟩, hdc⟩
    have hnotascii : ¬ (netloc.all fun c => c.val < 128) = true := by
      intro hall
      exact hlow (of_decide_eq_true (List.all_eq_true.mp hall c hc'))
    rw [checkNetloc, if_neg hnotascii] at hchecked
    dsimp only at hchecked
    split_ifs at hchecked with hsame
    · rw [← hsame] at hfound
      obtain ⟨hmem', hkept'⟩ := List.mem_filter.mp hfound
      simp only [hidden, List.mem_cons, List.not_mem_nil, or_false] at hd'
      rcases hd' with rfl | rfl | rfl | rfl | rfl
      · exact hnotslash hmem'
      all_goals exact absurd hkept' (by decide)
    · rw [raiseIf_eq_ok] at hchecked
      exact hchecked ⟨d, hd, hfound⟩

end Lowering

/-! ## The normal form -/

section Normal

variable {lower nfkc : List Char → List Char} {value : String} {r : SplitResult} {p : Option Nat}

theorem Accepted.splitOk (h : Accepted lower nfkc value r p) : SplitOk nfkc r := by
  obtain ⟨withoutFragment, -, hsplit⟩ := bind_eq_ok.mp h.split
  exact splitOk_of_urlsplit hsplit

theorem schemeOk_http {scheme : List Char} (h : scheme = http ∨ scheme = https) :
    SchemeOk scheme := by
  have hplain : ∀ c, isSchemeChar c = true → isUpper c = false →
      isSchemeChar c = true ∧ lowerChar c = c := fun c hchar hupper =>
    ⟨hchar, lowerChar_of_not_upper hupper⟩
  rcases h with rfl | rfl
  · refine ⟨by decide, fun c hc => ?_⟩
    simp only [http, List.mem_cons, List.not_mem_nil, or_false] at hc
    rcases hc with rfl | rfl | rfl | rfl <;> exact hplain _ (by decide) (by decide)
  · refine ⟨by decide, fun c hc => ?_⟩
    simp only [https, List.mem_cons, List.not_mem_nil, or_false] at hc
    rcases hc with rfl | rfl | rfl | rfl | rfl <;> exact hplain _ (by decide) (by decide)

theorem mem_host_iff (laws : LowerLaws lower) {d : Char} (hd : d ∈ structural) :
    d ∈ normalHost lower r ↔ d ∈ (hostinfo r.netloc).1 :=
  laws.kept _ d hd

/-- The host of the normal form is read back unless it lost the brackets that it needs. -/
theorem Accepted.hostOk (laws : LowerLaws lower) (h : Accepted lower nfkc value r p)
    (hopening : '[' ∈ (hostinfo r.netloc).1 → ':' ∈ (hostinfo r.netloc).1) :
    HostOk (normalHost lower r) := by
  refine ⟨?_, ?_, ?_, ?_⟩
  · intro hnil
    exact h.host ((laws.eq_nil_iff _).mp hnil)
  · rw [mem_host_iff laws (by decide)]
    exact fun hmem => h.user (mem_netloc_of_mem_host h.user hmem)
  · rw [mem_host_iff laws (by decide)]
    exact closing_notMem_host h.user h.splitOk.brackets
  · rw [mem_host_iff laws (by decide), mem_host_iff laws (by decide)]
    exact hopening

theorem Accepted.port_le (h : Accepted lower nfkc value r p) {scheme : List Char} {n : Nat}
    (hn : normalPort scheme p = some n) : n ≤ 65535 := by
  have hp : p = some n := by
    rw [normalPort] at hn
    split_ifs at hn with hdefault
    exact hn
  have hport := h.port
  rw [hp, Urllib.port] at hport
  split_ifs at hport with hnil
  · cases hport
  · rw [raiseIf_bind_eq_ok, raiseIf_bind_eq_ok] at hport
    obtain ⟨-, hle, heq⟩ := hport
    obtain rfl := Option.some.inj (Except.ok.inj heq)
    exact Nat.le_of_not_lt hle

theorem normalPort_idem (scheme : List Char) (p : Option Nat) :
    normalPort scheme (normalPort scheme p) = normalPort scheme p := by
  rw [normalPort, normalPort]
  split_ifs <;> rfl

/-- The characters of the network location of the normal form. -/
theorem Accepted.netloc_chars (laws : LowerLaws lower) (h : Accepted lower nfkc value r p) :
    ∀ c ∈ (normalParts lower r p).netloc, isDelimiter c = false ∧ isRemoved c = false := by
  intro c hc
  have hok := h.splitOk
  -- no character of the host structures a URL in a way that its network location does not
  have hhost : ∀ d ∈ structural, isDelimiter d = true ∨ isRemoved d = true →
      d ∉ normalHost lower r := by
    intro d hd hbad hmem
    rw [mem_host_iff laws hd] at hmem
    have hmem' := mem_netloc_of_mem_host h.user hmem
    rcases hbad with hbad | hbad
    · rw [hok.netloc d hmem'] at hbad
      cases hbad
    · rw [hok.clean d (List.mem_append_left _ hmem')] at hbad
      cases hbad
  have hstructural : isDelimiter c = true ∨ isRemoved c = true → c ∈ structural := by
    simp only [isDelimiter, isRemoved, Bool.or_eq_true, decide_eq_true_eq]
    rintro (((rfl | rfl) | rfl) | ((rfl | rfl) | rfl)) <;> decide
  have hnot : ¬ (isDelimiter c = true ∨ isRemoved c = true) := by
    intro hbad
    rcases mem_netlocFor hc with hmem | ⟨rfl | rfl, -⟩ | rfl | ⟨-, hplain, -⟩
    · exact hhost c (hstructural hbad) hbad hmem
    · exact absurd hbad (by decide)
    · exact absurd hbad (by decide)
    · exact absurd hbad (by decide)
    · exact hplain (hstructural hbad)
  rw [not_or, Bool.not_eq_true, Bool.not_eq_true] at hnot
  exact hnot

theorem Accepted.netloc_ne (h : Accepted lower nfkc value r p) : r.netloc ≠ [] := by
  obtain ⟨c, hc⟩ := List.exists_mem_of_ne_nil _ h.host
  exact List.ne_nil_of_mem (mem_netloc_of_mem_host h.user hc)

theorem Accepted.path_start (h : Accepted lower nfkc value r p) :
    (normalParts lower r p).path.head? = some '/' := by
  show (if r.path = [] then ['/'] else r.path).head? = some '/'
  split_ifs with hpath
  · rfl
  · exact (h.splitOk.path_start h.netloc_ne).resolve_left hpath

theorem Accepted.path_chars (h : Accepted lower nfkc value r p) :
    ∀ c ∈ (normalParts lower r p).path, (c ≠ '?' ∧ c ≠ '#') ∧ isRemoved c = false := by
  intro c hc
  have hc' : c ∈ if r.path = [] then ['/'] else r.path := hc
  split_ifs at hc' with hpath
  · rw [List.mem_singleton.mp hc']
    decide
  · exact ⟨h.splitOk.path c hc',
      h.splitOk.clean c (List.mem_append_right _ (List.mem_append_left _ hc'))⟩

theorem Accepted.normal_netloc_ne (laws : LowerLaws lower) (h : Accepted lower nfkc value r p) :
    (normalParts lower r p).netloc ≠ [] := by
  have hhost : normalHost lower r ≠ [] := fun hnil => h.host ((laws.eq_nil_iff _).mp hnil)
  show netlocFor (normalHost lower r) _ ≠ []
  rw [netlocFor, hostForNetloc]
  split_ifs
  · exact List.cons_ne_nil _ _
  · exact List.append_ne_nil_of_left_ne_nil hhost _

/-- **The parts of the normal form are read back.** -/
theorem normalParts_absolute (laws : LowerLaws lower) (nlaws : NfkcLaws lower nfkc)
    (h : Accepted lower nfkc value r p)
    (hopening : '[' ∈ (hostinfo r.netloc).1 → ':' ∈ (hostinfo r.netloc).1) :
    Absolute nfkc (normalParts lower r p) := by
  have hok := h.splitOk
  have hhost := h.hostOk laws hopening
  have hslash : '/' ∉ normalHost lower r := by
    rw [mem_host_iff laws (by decide)]
    intro hmem
    have hdelim := hok.netloc _ (mem_netloc_of_mem_host h.user hmem)
    exact absurd hdelim (by decide)
  refine ⟨schemeOk_http h.scheme, h.normal_netloc_ne laws, fun c hc => (h.netloc_chars laws c hc).1,
    ?_, ?_, fun c hc => (h.path_chars c hc).1, h.path_start, hok.query, rfl, ?_⟩
  · refine checkBrackets_netlocFor hhost _ fun hcolon => ?_
    rw [mem_host_iff laws (by decide)] at hcolon
    exact checkBracketedHost_lower laws
      (host_checked h.user hok.brackets (bracket_of_colon h.user hcolon))
  · exact checkNetloc_netlocFor nlaws hok.netloc (fun c hc => mem_netloc_of_mem_host h.user hc)
      hok.checked hslash _
  · intro c hc
    rcases List.mem_append.mp hc with hc | hc
    · exact (h.netloc_chars laws c hc).2
    · rcases List.mem_append.mp hc with hc | hc
      · exact (h.path_chars c hc).2
      · exact hok.clean c (List.mem_append_right _ (List.mem_append_right _ hc))

/-! ## Normalizing again -/

/-- **Nothing is exposed to a second normalization**: a host that needed brackets has a colon, and
the last part does not end in white space. -/
structure Stable (r : SplitResult) : Prop where
  opening : '[' ∈ (hostinfo r.netloc).1 → ':' ∈ (hostinfo r.netloc).1
  trimmed : ∀ c, (if r.query = [] then r.path else r.query).getLast? = some c → isSpace c = false

/-- The text of the normal form. -/
theorem Accepted.text (laws : LowerLaws lower) (h : Accepted lower nfkc value r p) :
    urlunsplit (normalParts lower r p) = lower r.scheme ++ ':' :: '/' :: '/' ::
      ((normalParts lower r p).netloc ++ target (normalParts lower r p)) :=
  urlunsplit_eq (schemeOk_http h.scheme).ne_nil (h.normal_netloc_ne laws) h.path_start rfl

/-- The last character of the normal form. -/
theorem Accepted.trimmed_iff (h : Accepted lower nfkc value r p) :
    (∀ c, (if r.query = [] then r.path else r.query).getLast? = some c → isSpace c = false) ↔
      (target (normalParts lower r p)).rdropWhile isSpace = target (normalParts lower r p) := by
  have hne : target (normalParts lower r p) ≠ [] := by
    intro hnil
    have hhead := head_target h.path_start
    rw [hnil] at hhead
    cases hhead
  rw [List.rdropWhile_eq_self_iff]
  have hlast : (target (normalParts lower r p)).getLast? =
      if r.query = [] ∧ r.path = [] then some '/'
      else (if r.query = [] then r.path else r.query).getLast? := by
    show ((if r.path = [] then ['/'] else r.path) ++
      if r.query = [] then [] else '?' :: r.query).getLast? = _
    by_cases hquery : r.query = []
    · rw [if_pos hquery, if_pos hquery, List.append_nil]
      by_cases hpath : r.path = []
      · rw [if_pos hpath, if_pos ⟨hquery, hpath⟩]
        rfl
      · have hnot : ¬ (r.query = [] ∧ r.path = []) := fun hboth => hpath hboth.2
        rw [if_neg hpath, if_neg hnot]
    · have hnot : ¬ (r.query = [] ∧ r.path = []) := fun hboth => hquery hboth.1
      rw [if_neg hquery, if_neg hquery, if_neg hnot,
        List.getLast?_append_of_ne_nil _ (List.cons_ne_nil _ _), ← List.singleton_append,
        List.getLast?_append_of_ne_nil _ hquery]
  constructor
  · intro htrimmed _
    rw [Bool.not_eq_true]
    have hsome := List.getLast?_eq_some_getLast hne
    rw [hlast] at hsome
    by_cases hempty : r.query = [] ∧ r.path = []
    · rw [if_pos hempty] at hsome
      rw [← Option.some.inj hsome]
      decide
    · rw [if_neg hempty] at hsome
      exact htrimmed _ hsome
  · intro hend c hc
    have hnot : ¬ (r.query = [] ∧ r.path = []) := by
      rintro ⟨hquery, hpath⟩
      rw [if_pos hquery, hpath] at hc
      cases hc
    rw [if_neg hnot, hc, List.getLast?_eq_some_getLast hne] at hlast
    have hspace := hend hne
    rw [Option.some.inj hlast, Bool.not_eq_true] at hspace
    exact hspace

/-- What is stripped behind leaves what stands in front of a kept character. -/
theorem rdropWhile_append {l m : List Char} {q : Char → Bool} (h : ∃ c ∈ m, q c = false) :
    (l ++ m).rdropWhile q = l ++ m.rdropWhile q := by
  obtain ⟨c, hc, hq⟩ := h
  have hne : (m.reverse.dropWhile q).isEmpty = false := by
    rw [List.isEmpty_eq_false_iff]
    intro hnil
    rw [List.dropWhile_eq_nil_iff] at hnil
    have hall := hnil c (List.mem_reverse.mpr hc)
    rw [hq] at hall
    cases hall
  rw [List.rdropWhile, List.rdropWhile, List.reverse_append, List.dropWhile_append, hne,
    if_neg Bool.false_ne_true, List.reverse_append, List.reverse_reverse]

/-- The path and the query that are left of the normal form after stripping. -/
def strippedTarget (r : SplitResult) : List Char := (target r).rdropWhile isSpace

theorem slash_mem_target {r : SplitResult} (h : r.path.head? = some '/') : '/' ∈ target r :=
  List.mem_of_mem_head? (head_target h)

/-- The slash in front is never stripped. -/
theorem head_strippedTarget {r : SplitResult} (h : r.path.head? = some '/') :
    (strippedTarget r).head? = some '/' := by
  obtain ⟨behind, hbehind⟩ := List.rdropWhile_prefix isSpace (target r)
  have hhead := head_target h
  cases hstripped : strippedTarget r with
  | nil =>
    have hall := List.rdropWhile_eq_nil_iff.mp hstripped '/' (slash_mem_target h)
    exact absurd hall (by decide)
  | cons c rest =>
    have hcons : (target r).rdropWhile isSpace = c :: rest := hstripped
    rw [← hbehind, hcons] at hhead
    exact hhead

/-- Stripping the text of the normal form strips its last part. -/
theorem Accepted.strip_text (laws : LowerLaws lower) (h : Accepted lower nfkc value r p) :
    stripChars (urlunsplit (normalParts lower r p)) = lower r.scheme ++ ':' :: '/' :: '/' ::
      ((normalParts lower r p).netloc ++ strippedTarget (normalParts lower r p)) := by
  have hscheme := schemeOk_http h.scheme
  obtain ⟨c, more, hcons⟩ := List.exists_cons_of_ne_nil hscheme.ne_nil
  have hc : isSpace c = false := (hscheme.not_control (by rw [hcons]; rfl)).2
  have hslash : ∃ c ∈ target (normalParts lower r p), isSpace c = false :=
    ⟨'/', slash_mem_target h.path_start, by decide⟩
  have htext : ∀ l : List Char, lower r.scheme ++ ':' :: '/' :: '/' ::
      ((normalParts lower r p).netloc ++ l) =
      (lower r.scheme ++ ':' :: '/' :: '/' :: (normalParts lower r p).netloc) ++ l := by
    intro l
    simp only [List.append_assoc, List.cons_append]
  have hfront : ∀ l : List Char, (lower r.scheme ++ l).dropWhile isSpace = lower r.scheme ++ l := by
    intro l
    rw [hcons, List.cons_append, List.dropWhile_cons_of_neg (by rw [hc]; exact Bool.false_ne_true)]
  rw [h.text laws, stripChars, hfront, htext, rdropWhile_append hslash, htext]
  rfl

/-- **What a second normalization reads.** -/
theorem Accepted.parsedUrl_text (laws : LowerLaws lower) (h : Accepted lower nfkc value r p) :
    parsedUrl nfkc (String.ofList (urlunsplit (normalParts lower r p))) = (do
      checkBrackets (normalParts lower r p).netloc
      checkNetloc nfkc (normalParts lower r p).netloc
      return ⟨lower r.scheme, (normalParts lower r p).netloc,
        before '?' (strippedTarget (normalParts lower r p)),
        after '?' (strippedTarget (normalParts lower r p)), []⟩) := by
  have hscheme := schemeOk_http h.scheme
  have hsub : ∀ c ∈ strippedTarget (normalParts lower r p), c ∈ target (normalParts lower r p) :=
    fun c hc => (List.rdropWhile_prefix _ _).subset hc
  have hfragment : '#' ∉ strippedTarget (normalParts lower r p) := by
    intro hmem
    rcases mem_target (hsub _ hmem) with hmem | heq | hmem
    · exact (h.path_chars _ hmem).1.2 rfl
    · exact absurd heq (by decide)
    · exact h.splitOk.query hmem
  have hstart : ∀ c, (strippedTarget (normalParts lower r p)).head? = some c →
      isDelimiter c = true := by
    intro c hc
    rw [head_strippedTarget h.path_start] at hc
    rw [← Option.some.inj hc]
    decide
  have hclean : ∀ c ∈ (normalParts lower r p).netloc ++ strippedTarget (normalParts lower r p),
      isRemoved c = false := by
    intro c hc
    rcases List.mem_append.mp hc with hc | hc
    · exact (h.netloc_chars laws c hc).2
    · rcases mem_target (hsub c hc) with hc | rfl | hc
      · exact (h.path_chars c hc).2
      · decide
      · exact h.splitOk.clean c (List.mem_append_right _ (List.mem_append_right _ hc))
  have hplain : '#' ∉ lower r.scheme ++ ':' :: '/' :: '/' ::
      ((normalParts lower r p).netloc ++ strippedTarget (normalParts lower r p)) := by
    intro hmem
    rcases List.mem_append.mp hmem with hmem | hmem
    · exact absurd (hscheme.chars _ hmem).1 (by decide)
    · simp only [List.mem_cons, List.mem_append] at hmem
      rcases hmem with heq | heq | heq | hmem | hmem
      · exact absurd heq (by decide)
      · exact absurd heq (by decide)
      · exact absurd heq (by decide)
      · exact absurd (h.netloc_chars laws _ hmem).1 (by decide)
      · exact hfragment hmem
  rw [parsedUrl, toList_strip, String.toList_ofList, h.strip_text laws, urldefrag, if_neg hplain]
  show urlsplit nfkc _ = _
  rw [urlsplit_text hscheme (fun c hc => (h.netloc_chars laws c hc).1) hstart hclean,
    before_of_notMem hfragment, after_of_notMem hfragment]

/-- What is read of a target is not longer than it. -/
theorem length_read_le {l : List Char} (hstart : l.head? = some '/') :
    (if before '?' l = [] then ['/'] else before '?' l).length +
      (if after '?' l = [] then [] else '?' :: after '?' l).length ≤ l.length := by
  have hne : before '?' l ≠ [] := by
    obtain ⟨more, rfl⟩ := List.head?_eq_some_iff.mp hstart
    rw [before, List.takeWhile_cons_of_pos (by decide)]
    exact List.cons_ne_nil _ _
  rw [if_neg hne]
  by_cases hquery : '?' ∈ l
  · conv_rhs => rw [← before_after hquery, List.length_append]
    split_ifs <;> simp
  · rw [before_of_notMem hquery, after_of_notMem hquery]
    simp

/-- The port of the normal form. -/
def portOf (lower : List Char → List Char) (r : SplitResult) (p : Option Nat) : Option Nat :=
  normalPort (lower r.scheme) p

/-- **Scheme, host and port of the normal form are normal.** -/
theorem Accepted.normalParts_again (laws : LowerLaws lower) (h : Accepted lower nfkc value r p)
    (hopening : '[' ∈ (hostinfo r.netloc).1 → ':' ∈ (hostinfo r.netloc).1)
    (path query : List Char) :
    Urllib.port (normalParts lower r p).netloc = .ok (portOf lower r p) ∧
      normalParts lower ⟨lower r.scheme, (normalParts lower r p).netloc, path, query, []⟩
        (portOf lower r p) =
      ⟨lower r.scheme, (normalParts lower r p).netloc, if path = [] then ['/'] else path, query,
        []⟩ := by
  have hhost := h.hostOk laws hopening
  have hnetloc : (normalParts lower r p).netloc =
      netlocFor (normalHost lower r) (portOf lower r p) := rfl
  refine ⟨?_, ?_⟩
  · rw [hnetloc]
    exact port_netlocFor hhost fun n hn => h.port_le hn
  · have hsame : normalHost lower
        ⟨lower r.scheme, (normalParts lower r p).netloc, path, query, []⟩ =
        normalHost lower r := by
      show lower (hostinfo (normalParts lower r p).netloc).1 = _
      rw [hnetloc, hostinfo_netlocFor hhost]
      exact laws.idem _
    have hport : normalPort (lower r.scheme) (portOf lower r p) = portOf lower r p :=
      normalPort_idem _ _
    rw [normalParts, hsame]
    dsimp only
    rw [laws.idem, hport]
    rfl

theorem Accepted.text_ne (laws : LowerLaws lower) (h : Accepted lower nfkc value r p) :
    strip (String.ofList (urlunsplit (normalParts lower r p))) ≠ "" := by
  intro hempty
  have hlist : stripChars (urlunsplit (normalParts lower r p)) = [] := by
    rw [← String.toList_ofList (l := urlunsplit (normalParts lower r p)), ← toList_strip, hempty]
    rfl
  rw [h.strip_text laws] at hlist
  exact List.append_ne_nil_of_right_ne_nil _ (List.cons_ne_nil _ _) hlist

/-- A host keeps the brackets that it needs. -/
def KeepsBrackets (r : SplitResult) : Prop :=
  '[' ∈ (hostinfo r.netloc).1 → ':' ∈ (hostinfo r.netloc).1

/-- A host that lost its brackets leaves an opening bracket alone. -/
theorem Accepted.keepsBrackets_of (laws : LowerLaws lower) (h : Accepted lower nfkc value r p)
    (hbrackets : checkBrackets (normalParts lower r p).netloc = .ok ()) : KeepsBrackets r := by
  intro hmem
  by_contra hcolon
  rw [← mem_host_iff laws (by decide)] at hmem hcolon
  have hnetloc : (normalParts lower r p).netloc = normalHost lower r ++
      (portOf lower r p).elim [] fun port => ':' :: Nat.toDigits 10 port := by
    show netlocFor _ _ = _
    rw [netlocFor, hostForNetloc, if_neg hcolon]
    rfl
  have hin : '[' ∈ (normalParts lower r p).netloc := by
    rw [hnetloc]
    exact List.mem_append_left _ hmem
  have hout : ']' ∉ (normalParts lower r p).netloc := by
    intro hclosing
    rcases mem_netlocFor hclosing with hclosing | ⟨-, hclosing⟩ | heq | ⟨hdigit, -, -⟩
    · rw [mem_host_iff laws (by decide)] at hclosing
      exact closing_notMem_host h.user h.splitOk.brackets hclosing
    · exact hcolon hclosing
    · exact absurd heq (by decide)
    · exact absurd hdigit (by decide)
  rw [checkBrackets, raiseIf_bind_eq_ok] at hbrackets
  exact hbrackets.1 (.inl ⟨hin, hout⟩)

/-- **A normal form whose host keeps its brackets is accepted again**, and keeps them. -/
theorem Accepted.again (laws : LowerLaws lower) (nlaws : NfkcLaws lower nfkc)
    (h : Accepted lower nfkc value r p) (hkeeps : KeepsBrackets r) :
    ∃ r', Accepted lower nfkc (String.ofList (urlunsplit (normalParts lower r p))) r'
      (portOf lower r p) ∧ KeepsBrackets r' := by
  have habsolute := normalParts_absolute laws nlaws h hkeeps
  have hhost := h.hostOk laws hkeeps
  have hinfo : hostinfo (normalParts lower r p).netloc =
      (normalHost lower r, portText (portOf lower r p)) := hostinfo_netlocFor hhost _
  obtain ⟨hport, -⟩ := h.normalParts_again laws hkeeps [] []
  have hparts : parsedUrl nfkc (String.ofList (urlunsplit (normalParts lower r p))) =
      .ok ⟨lower r.scheme, (normalParts lower r p).netloc,
        before '?' (strippedTarget (normalParts lower r p)),
        after '?' (strippedTarget (normalParts lower r p)), []⟩ := by
    rw [h.parsedUrl_text laws, habsolute.brackets, ok_bind, habsolute.checked, ok_bind]
    rfl
  refine ⟨_, ⟨h.text_ne laws, hparts, ?_, ?_, ?_, hport⟩, ?_⟩
  · show lower (lower r.scheme) = http ∨ lower (lower r.scheme) = https
    rw [laws.idem]
    exact h.scheme
  · show (hostinfo (normalParts lower r p).netloc).1 ≠ []
    rw [hinfo]
    exact hhost.nonempty
  · exact user_notMem_netlocFor hhost
  · intro hmem
    have hmem' : '[' ∈ (hostinfo (normalParts lower r p).netloc).1 := hmem
    show ':' ∈ (hostinfo (normalParts lower r p).netloc).1
    rw [hinfo] at hmem' ⊢
    rw [mem_host_iff laws (by decide)] at hmem' ⊢
    exact hkeeps hmem'

/-- **When a normal form has an origin**: when its host keeps its brackets. -/
theorem Accepted.origin_iff (laws : LowerLaws lower) (nlaws : NfkcLaws lower nfkc)
    (h : Accepted lower nfkc value r p) :
    (∃ origin, urlOrigin lower nfkc (String.ofList (urlunsplit (normalParts lower r p))) =
      .ok origin) ↔ KeepsBrackets r := by
  constructor
  · rintro ⟨origin, horigin⟩
    obtain ⟨normalized, hnormalized, -⟩ := bind_eq_ok.mp horigin
    obtain ⟨r', p', h', -⟩ := (normalizeHttpUrl_eq_ok laws).mp hnormalized
    have hsplit := h'.split
    rw [h.parsedUrl_text laws, unit_bind_eq_ok] at hsplit
    exact h.keepsBrackets_of laws hsplit.1
  · intro hkeeps
    obtain ⟨r', h', hkeeps'⟩ := h.again laws nlaws hkeeps
    have hnormalized := (normalizeHttpUrl_eq_ok laws).mpr ⟨r', portOf lower r p, h', rfl⟩
    have hsplit := urlsplit_urlunsplit (normalParts_absolute laws nlaws h' hkeeps')
    rw [urlOrigin, hnormalized, ok_bind, String.toList_ofList, hsplit, parsing_eq_ok.mpr rfl,
      ok_bind]
    exact ⟨_, rfl⟩

/-- **A stable normal form is normalized to itself.** -/
theorem Accepted.normal_of_stable (laws : LowerLaws lower) (nlaws : NfkcLaws lower nfkc)
    (h : Accepted lower nfkc value r p) (hstable : Stable r) :
    normalizeHttpUrl lower nfkc (String.ofList (urlunsplit (normalParts lower r p))) =
      .ok (String.ofList (urlunsplit (normalParts lower r p))) := by
  have habsolute := normalParts_absolute laws nlaws h hstable.opening
  have hkept : strippedTarget (normalParts lower r p) = target (normalParts lower r p) :=
    h.trimmed_iff.mp hstable.trimmed
  have hread := before_target
    (fun hmem => (h.path_chars _ hmem).1.1 rfl : '?' ∉ (normalParts lower r p).path)
  have hparts : parsedUrl nfkc (String.ofList (urlunsplit (normalParts lower r p))) =
      .ok (normalParts lower r p) := by
    rw [h.parsedUrl_text laws, habsolute.brackets, ok_bind, habsolute.checked, ok_bind, hkept,
      hread.1, hread.2]
    rfl
  have hpath : (normalParts lower r p).path ≠ [] :=
    List.ne_nil_of_mem (List.mem_of_mem_head? h.path_start)
  obtain ⟨hport, hagain⟩ := h.normalParts_again laws hstable.opening
    (normalParts lower r p).path (normalParts lower r p).query
  rw [if_neg hpath] at hagain
  have hhost := h.hostOk laws hstable.opening
  have hinfo : hostinfo (normalParts lower r p).netloc =
      (normalHost lower r, portText (portOf lower r p)) := hostinfo_netlocFor hhost _
  rw [normalizeHttpUrl_eq_ok laws]
  refine ⟨normalParts lower r p, portOf lower r p, ⟨h.text_ne laws, hparts, ?_, ?_, ?_, hport⟩, ?_⟩
  · show lower (lower r.scheme) = http ∨ lower (lower r.scheme) = https
    rw [laws.idem]
    exact h.scheme
  · rw [hinfo]
    exact hhost.nonempty
  · exact user_notMem_netlocFor hhost
  · exact congrArg (fun parts => String.ofList (urlunsplit parts)) hagain.symm

/-- **A normal form that is normalized to itself is stable.** -/
theorem Accepted.stable_of_normal (laws : LowerLaws lower) (h : Accepted lower nfkc value r p)
    (hagain : normalizeHttpUrl lower nfkc (String.ofList (urlunsplit (normalParts lower r p))) =
      .ok (String.ofList (urlunsplit (normalParts lower r p)))) : Stable r := by
  obtain ⟨r₂, p₂, h₂, htext⟩ := (normalizeHttpUrl_eq_ok laws).mp hagain
  have hsplit := h₂.split
  rw [h.parsedUrl_text laws, unit_bind_eq_ok, unit_bind_eq_ok] at hsplit
  obtain ⟨hbrackets, -, hr₂⟩ := hsplit
  obtain rfl := Except.ok.inj hr₂
  have hopening := h.keepsBrackets_of laws hbrackets
  refine ⟨hopening, h.trimmed_iff.mpr ?_⟩
  obtain ⟨hport, hparts⟩ := h.normalParts_again laws hopening
    (before '?' (strippedTarget (normalParts lower r p)))
    (after '?' (strippedTarget (normalParts lower r p)))
  have hp₂ : p₂ = portOf lower r p := Except.ok.inj (h₂.port.symm.trans hport)
  -- what was read again is as long as what was written
  have htext' := String.ofList_injective htext
  have hscheme : lower (lower r.scheme) = lower r.scheme := laws.idem _
  rw [h.text laws, h₂.text laws, hp₂, hparts] at htext'
  dsimp only at htext'
  rw [hscheme] at htext'
  have htarget := List.append_cancel_left htext'
  simp only [List.cons.injEq, true_and] at htarget
  have hlength := congrArg List.length (List.append_cancel_left htarget)
  have hread := length_read_le (head_strippedTarget h.path_start)
  refine (List.rdropWhile_prefix isSpace _).eq_of_length_le ?_
  rw [hlength, target, List.length_append]
  exact hread

end Normal

/-- **Normalizing again.**  The normal form of an accepted URL is normalized to itself, and has the
origin of the URL, exactly when nothing is exposed to a second normalization. -/
theorem normalize_idempotent_iff {lower nfkc : List Char → List Char} (laws : LowerLaws lower)
    (nlaws : NfkcLaws lower nfkc) {value url : String}
    (h : normalizeHttpUrl lower nfkc value = .ok url) :
    (normalizeHttpUrl lower nfkc url = .ok url ∧
        urlOrigin lower nfkc url = urlOrigin lower nfkc value) ↔
      ∃ r, parsedUrl nfkc value = .ok r ∧ Stable r := by
  obtain ⟨r, p, haccepted, rfl⟩ := (normalizeHttpUrl_eq_ok laws).mp h
  constructor
  · rintro ⟨hagain, -⟩
    exact ⟨r, haccepted.split, haccepted.stable_of_normal laws hagain⟩
  · rintro ⟨r', hsplit, hstable⟩
    obtain rfl : r = r' := Except.ok.inj (haccepted.split.symm.trans hsplit)
    have hagain := haccepted.normal_of_stable laws nlaws hstable
    refine ⟨hagain, ?_⟩
    rw [urlOrigin, urlOrigin, hagain, h]

/-- On ASCII texts lowering is letter by letter. -/
theorem lowerChars_laws : LowerLaws (List.map lowerChar) := by
  refine ⟨?_, ?_, ?_, ?_⟩
  · intro a s _
    exact ⟨s.map lowerChar, List.map_append, List.map_eq_nil_iff⟩
  · intro a s
    rw [List.map_append, List.map_cons, lowerChar_of_not_upper (by decide : isUpper '%' = false)]
  · intro s
    rw [List.map_map]
    exact List.map_congr_left fun c _ => lowerChar_lowerChar c
  · intro s d hd
    have hcase : isLower d = false ∧ isUpper d = false := by
      simp only [structural, List.mem_cons, List.not_mem_nil, or_false] at hd
      rcases hd with rfl | rfl | rfl | rfl | rfl | rfl | rfl | rfl | rfl | rfl | rfl <;>
        exact ⟨by decide, by decide⟩
    rw [List.mem_map]
    constructor
    · rintro ⟨c, hc, heq⟩
      rwa [← (lowerChar_eq_iff hcase.1 hcase.2).mp heq]
    · intro h
      exact ⟨d, h, (lowerChar_eq_iff hcase.1 hcase.2).mpr rfl⟩

/-- On ASCII texts nothing is normalized. -/
theorem ascii_nfkcLaws : NfkcLaws (List.map lowerChar) id := by
  refine ⟨?_, fun c _ => rfl, ?_⟩
  · intro s d _
    constructor
    · intro h
      exact ⟨d, h, List.mem_singleton.mpr rfl⟩
    · rintro ⟨c, hc, hd⟩
      rwa [List.mem_singleton.mp hd]
  · intro s c _ hlow d hd hmem
    rw [id, List.mem_singleton] at hmem
    rw [← hmem] at hlow
    simp only [hidden, List.mem_cons, List.not_mem_nil, or_false] at hd
    rcases hd with rfl | rfl | rfl | rfl | rfl <;> exact absurd (by decide) hlow

/-- The default port of a spelling goes, and the normal form stays. -/
theorem normalize_again :
    normalizeHttpUrl (List.map lowerChar) id "http://example.com/a" =
        .ok "http://example.com/a" ∧
      urlOrigin (List.map lowerChar) id "http://example.com/a" =
        urlOrigin (List.map lowerChar) id "HTTP://Example.com:80/a#b" := by
  have hnormal : normalizeHttpUrl (List.map lowerChar) id "HTTP://Example.com:80/a#b" =
      .ok "http://example.com/a" := by decide +kernel
  refine (normalize_idempotent_iff lowerChars_laws ascii_nfkcLaws hnormal).mpr
    ⟨⟨"http".toList, "Example.com:80".toList, "/a".toList, [], []⟩, by decide +kernel,
      ⟨by decide +kernel, ?_⟩⟩
  intro c hc
  obtain rfl : 'a' = c := Option.some.inj hc
  decide

/-- The white space in front of a fragment is exposed to the next normalization. -/
theorem normalize_exposes :
    ¬ ∀ value url, normalizeHttpUrl (List.map lowerChar) id value = .ok url →
      normalizeHttpUrl (List.map lowerChar) id url = .ok url ∧
        urlOrigin (List.map lowerChar) id url = urlOrigin (List.map lowerChar) id value := by
  intro h
  have hagain := (h "http://a/b #f" "http://a/b " (by decide +kernel)).1
  have hstripped : normalizeHttpUrl (List.map lowerChar) id "http://a/b " = .ok "http://a/b" := by
    decide +kernel
  rw [hstripped] at hagain
  exact absurd (Except.ok.inj hagain) (by decide)

end NightRecon.RedEngine.WebCrawl
