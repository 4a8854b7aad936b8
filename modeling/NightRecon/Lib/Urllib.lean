import NightRecon.Lib.Checks
import NightRecon.Lib.Ipaddress

/-!
# URLs: splitting and putting together

The functions of `urllib.parse` on character lists, with the error as a text.

* `before`, `after` — a text up to a character and behind it;
* `urlsplit`, `urlunsplit`, `urldefrag` — a URL in five parts, the parts put together, and a URL
  without its fragment;
* `hostname`, `port`, `hasUserinfo` — what a network location says;
* `SplitOk` — what holds of the parts of a URL; `Absolute` — parts that are read back, and
  `urlsplit_urlunsplit`.

`nfkc` is the compatibility normalization of Unicode, `lower` the case mapping.
-/

namespace NightRecon.Lib.Urllib

open NightRecon.Lib.Checks
open NightRecon.Lib.Ipaddress
open NightRecon.Lib.Text

/-! ## Texts up to a character -/

/-- `text.partition(d)[0]`. -/
def before (d : Char) (l : List Char) : List Char := l.takeWhile (· ≠ d)

/-- `text.partition(d)[2]`. -/
def after (d : Char) (l : List Char) : List Char := (l.dropWhile (· ≠ d)).drop 1

/-- `text.rpartition(d)[2]`. -/
def afterLast (d : Char) (l : List Char) : List Char := l.rtakeWhile (· ≠ d)

section Cuts

variable {d c : Char} {l a b : List Char}

theorem before_append (h : d ∉ a) : before d (a ++ d :: b) = a := by
  have hall : ∀ c ∈ a, decide (c ≠ d) = true := by
    intro c hc
    rw [decide_eq_true_eq]
    rintro rfl
    exact h hc
  rw [before, List.takeWhile_append_of_pos hall, List.takeWhile_cons_of_neg (by simp),
    List.append_nil]

theorem after_append (h : d ∉ a) : after d (a ++ d :: b) = b := by
  have hall : ∀ c ∈ a, decide (c ≠ d) = true := by
    intro c hc
    rw [decide_eq_true_eq]
    rintro rfl
    exact h hc
  rw [after, List.dropWhile_append_of_pos hall, List.dropWhile_cons_of_neg (by simp)]
  rfl

theorem before_of_notMem (h : d ∉ l) : before d l = l := by
  rw [before, List.takeWhile_eq_self_iff]
  intro c hc
  rw [decide_eq_true_eq]
  rintro rfl
  exact h hc

theorem after_of_notMem (h : d ∉ l) : after d l = [] := by
  have hnil : l.dropWhile (· ≠ d) = [] := by
    rw [List.dropWhile_eq_nil_iff]
    intro c hc
    rw [decide_eq_true_eq]
    rintro rfl
    exact h hc
  rw [after, hnil]
  rfl

theorem afterLast_of_notMem (h : d ∉ l) : afterLast d l = l := by
  rw [afterLast, List.rtakeWhile_eq_self_iff]
  intro c hc
  rw [decide_eq_true_eq]
  rintro rfl
  exact h hc

theorem mem_of_mem_before (h : c ∈ before d l) : c ∈ l :=
  (List.takeWhile_sublist _).mem h

theorem notMem_before (d : Char) (l : List Char) : d ∉ before d l := by
  intro h
  have hne := List.mem_takeWhile_imp h
  simp at hne

theorem mem_of_mem_after (h : c ∈ after d l) : c ∈ l :=
  (List.dropWhile_sublist _).mem ((List.drop_sublist _ _).mem h)

/-- A text with the character is what stands before it, the character, and what stands behind. -/
theorem before_after (h : d ∈ l) : before d l ++ d :: after d l = l := by
  have hsplit := List.takeWhile_append_dropWhile (p := fun c => decide (c ≠ d)) (l := l)
  cases hdrop : l.dropWhile (fun c => decide (c ≠ d)) with
  | nil =>
    rw [List.dropWhile_eq_nil_iff] at hdrop
    have hne := hdrop d h
    simp at hne
  | cons c rest =>
    have hc : c = d := by
      have hhead := List.head?_dropWhile_not (fun c => decide (c ≠ d)) l
      rw [hdrop] at hhead
      simpa using hhead
    rw [before, after, hdrop, List.drop_one, List.tail_cons]
    rw [hdrop, hc] at hsplit
    exact hsplit

end Cuts

/-! ## Scoped addresses -/

theorem splitZone_of_notMem {l : List Char} (h : '%' ∉ l) : splitZone l = some (l, none) := by
  rw [splitZone, List.splitOn_eq_singleton h]

theorem splitZone_of_mem {l : List Char} (h : '%' ∈ l) : splitZone l =
    if '%' ∈ after '%' l ∨ after '%' l = [] then none
    else some (before '%' l, some (after '%' l)) := by
  have hsplit : l.splitOn '%' = before '%' l :: (after '%' l).splitOn '%' := by
    conv_lhs => rw [← before_after h]
    exact List.splitOn_append_cons_self_of_not_mem (notMem_before '%' l) _
  rw [splitZone, hsplit]
  by_cases hmore : '%' ∈ after '%' l
  · -- a second percent sign gives a third part
    have hsplit' : (after '%' l).splitOn '%' =
        before '%' (after '%' l) :: (after '%' (after '%' l)).splitOn '%' := by
      conv_lhs => rw [← before_after hmore]
      exact List.splitOn_append_cons_self_of_not_mem (notMem_before '%' _) _
    obtain ⟨x, xs, hcons⟩ :=
      List.exists_cons_of_ne_nil (List.splitOn_ne_nil '%' (after '%' (after '%' l)))
    rw [hsplit', hcons, if_pos (.inl hmore)]
  · rw [List.splitOn_eq_singleton hmore]
    by_cases hnil : after '%' l = []
    · rw [if_pos (.inr hnil)]
      exact if_pos hnil
    · rw [if_neg (not_or.mpr ⟨hmore, hnil⟩)]
      exact if_neg hnil

/-! ## Splitting -/

structure SplitResult where
  scheme : List Char
  netloc : List Char
  path : List Char
  query : List Char
  fragment : List Char
  deriving DecidableEq

/-- The characters stripped in front of a URL. -/
def isControlOrSpace (c : Char) : Bool := c ≤ ' '

/-- The characters removed from a URL. -/
def isRemoved (c : Char) : Bool := c = '\t' || c = '\r' || c = '\n'

def isSchemeChar (c : Char) : Bool := isAlnum c || c = '+' || c = '-' || c = '.'

/-- The characters that end a network location. -/
def isDelimiter (c : Char) : Bool := c = '/' || c = '?' || c = '#'

/-- The scheme of a URL, and what follows it. -/
def schemeOf (url : List Char) : List Char × List Char :=
  let scheme := before ':' url
  if ':' ∈ url ∧ (scheme.head?.any fun c => isLower c || isUpper c) ∧ scheme.all isSchemeChar then
    (scheme.map lowerChar, after ':' url)
  else ([], url)

/-- The network location of a URL without its scheme, and what follows it. -/
def netlocOf (url : List Char) : List Char × List Char :=
  if ['/', '/'] <+: url then
    ((url.drop 2).takeWhile fun c => !isDelimiter c, (url.drop 2).dropWhile fun c => !isDelimiter c)
  else ([], url)

/-- `re.match(r"\Av[a-fA-F0-9]+\..+\Z", hostname)`. -/
def isFuture (hostname : List Char) : Bool :=
  let rest := hostname.drop 1
  let behind := rest.dropWhile fun c => (hexVal c).isSome
  hostname.head? = some 'v' ∧ rest.takeWhile (fun c => (hexVal c).isSome) ≠ [] ∧
    behind.head? = some '.' ∧ behind.drop 1 ≠ [] ∧ '\n' ∉ behind.drop 1

/-- `_check_bracketed_host`. -/
def checkBracketedHost (hostname : List Char) : Except String Unit :=
  if hostname.head? = some 'v' then
    raiseIf (isFuture hostname = false) "IPvFuture address is invalid"
  else do
    let address ← getOrRaise (ipAddress (String.ofList hostname))
      ("'" ++ String.ofList hostname ++ "' does not appear to be an IPv4 or IPv6 address")
    raiseIf (address.version = .v4) "An IPv4 address cannot be in brackets"

/-- `_check_bracketed_netloc`. -/
def checkBracketedNetloc (netloc : List Char) : Except String Unit :=
  let hostinfo := afterLast '@' netloc
  if '[' ∈ hostinfo then do
    raiseIf (before '[' hostinfo ≠ []) "Invalid IPv6 URL"
    let bracketed := after '[' hostinfo
    let rest := after ']' bracketed
    raiseIf (rest ≠ [] ∧ rest.head? ≠ some ':') "Invalid IPv6 URL"
    checkBracketedHost (before ']' bracketed)
  else checkBracketedHost (before ':' hostinfo)

/-- The checks of the brackets of a network location. -/
def checkBrackets (netloc : List Char) : Except String Unit := do
  raiseIf (('[' ∈ netloc ∧ ']' ∉ netloc) ∨ (']' ∈ netloc ∧ '[' ∉ netloc)) "Invalid IPv6 URL"
  if '[' ∈ netloc ∧ ']' ∈ netloc then checkBracketedNetloc netloc else return

/-- `_checknetloc`: no character of the location may hide a delimiter. -/
def checkNetloc (nfkc : List Char → List Char) (netloc : List Char) : Except String Unit :=
  if netloc.all fun c => c.val < 128 then return
  else
    let n := netloc.filter fun c => c ∉ ['@', ':', '#', '?']
    if n = nfkc n then return
    else raiseIf (∃ c ∈ ['/', '?', '#', '@', ':'], c ∈ nfkc n) ("netloc '" ++
      String.ofList netloc ++ "' contains invalid characters under NFKC normalization")

/-- `urlsplit`. -/
def urlsplit (nfkc : List Char → List Char) (url : List Char) : Except String SplitResult := do
  let url := (url.dropWhile isControlOrSpace).filter fun c => !isRemoved c
  let (scheme, url) := schemeOf url
  let (netloc, url) := netlocOf url
  checkBrackets netloc
  let fragment := after '#' url
  let url := before '#' url
  checkNetloc nfkc netloc
  return ⟨scheme, netloc, before '?' url, after '?' url, fragment⟩

/-! ## Putting together -/

def usesNetloc : List String :=
  ["", "ftp", "http", "gopher", "nntp", "telnet", "imap", "wais", "file", "mms", "https", "shttp",
    "snews", "prospero", "rtsp", "rtsps", "rtspu", "rsync", "svn", "svn+ssh", "sftp", "nfs", "git",
    "git+ssh", "ws", "wss", "itms-services"]

def usesParams : List String :=
  ["", "ftp", "hdl", "prospero", "http", "imap", "https", "shttp", "rtsp", "rtsps", "rtspu", "sip",
    "sips", "mms", "sftp", "tel"]

/-- `urlunsplit`. -/
def urlunsplit (r : SplitResult) : List Char :=
  let url := r.path
  let url :=
    if r.netloc ≠ [] then
      '/' :: '/' :: (r.netloc ++ (if url ≠ [] ∧ url.head? ≠ some '/' then '/' :: url else url))
    else if ['/', '/'] <+: url then '/' :: '/' :: url
    else if r.scheme ≠ [] ∧ String.ofList r.scheme ∈ usesNetloc ∧
        (url = [] ∨ url.head? = some '/') then '/' :: '/' :: url
    else url
  let url := if r.scheme ≠ [] then r.scheme ++ ':' :: url else url
  let url := if r.query ≠ [] then url ++ '?' :: r.query else url
  if r.fragment ≠ [] then url ++ '#' :: r.fragment else url

/-- The path in front of its last segment's first `;`, and what follows it. -/
def splitParams (path : List Char) : List Char × List Char :=
  let last := path.rtakeWhile (· ≠ '/')
  let front := path.take (path.length - last.length)
  if ';' ∈ last then (front ++ before ';' last, after ';' last) else (path, [])

/-- `urldefrag(url)[0]`. -/
def urldefrag (nfkc : List Char → List Char) (url : List Char) : Except String (List Char) :=
  if '#' ∈ url then do
    let r ← urlsplit nfkc url
    let (path, params) := if String.ofList r.scheme ∈ usesParams ∧ ';' ∈ r.path then
      splitParams r.path else (r.path, [])
    let path := if params ≠ [] then path ++ ';' :: params else path
    return urlunsplit { r with path := path, fragment := [] }
  else return url

/-! ## Network locations -/

/-- `_hostinfo`: the host and the text of the port. -/
def hostinfo (netloc : List Char) : List Char × List Char :=
  let info := afterLast '@' netloc
  if '[' ∈ info then
    let bracketed := after '[' info
    (before ']' bracketed, after ':' (after ']' bracketed))
  else (before ':' info, after ':' info)

/-- `hostname`; the zone of a scoped address keeps its case. -/
def hostname (lower : List Char → List Char) (netloc : List Char) : Option (List Char) :=
  let host := (hostinfo netloc).1
  if host = [] then none
  else some (lower (before '%' host) ++ if '%' ∈ host then '%' :: after '%' host else [])

/-- `port`. -/
def port (netloc : List Char) : Except String (Option Nat) :=
  let text := (hostinfo netloc).2
  if text = [] then return none
  else do
    raiseIf (text.all isDigit = false)
      ("Port could not be cast to integer value as '" ++ String.ofList text ++ "'")
    raiseIf (65535 < digitsVal text) "Port out of range 0-65535"
    return some (digitsVal text)

/-- `username is not None or password is not None`. -/
def hasUserinfo (netloc : List Char) : Bool := '@' ∈ netloc

/-! ## What the parts of a URL are -/

/-- What holds of the parts of every URL. -/
structure SplitOk (nfkc : List Char → List Char) (r : SplitResult) : Prop where
  netloc : ∀ c ∈ r.netloc, isDelimiter c = false
  brackets : checkBrackets r.netloc = .ok ()
  checked : checkNetloc nfkc r.netloc = .ok ()
  path : ∀ c ∈ r.path, c ≠ '?' ∧ c ≠ '#'
  path_start : r.netloc ≠ [] → r.path = [] ∨ r.path.head? = some '/'
  query : '#' ∉ r.query
  clean : ∀ c ∈ r.netloc ++ (r.path ++ r.query), isRemoved c = false

theorem mem_of_mem_schemeOf {url : List Char} {c : Char} (h : c ∈ (schemeOf url).2) : c ∈ url := by
  rw [schemeOf] at h
  split_ifs at h
  · exact mem_of_mem_after h
  · exact h

theorem mem_of_mem_netlocOf {url : List Char} {c : Char}
    (h : c ∈ (netlocOf url).1 ∨ c ∈ (netlocOf url).2) : c ∈ url := by
  rw [netlocOf] at h
  split_ifs at h
  · rcases h with h | h
    · exact (List.drop_sublist _ _).mem ((List.takeWhile_sublist _).mem h)
    · exact (List.drop_sublist _ _).mem ((List.dropWhile_sublist _).mem h)
  · rcases h with h | h
    · exact absurd h List.not_mem_nil
    · exact h

theorem isDelimiter_netlocOf {url : List Char} {c : Char} (h : c ∈ (netlocOf url).1) :
    isDelimiter c = false := by
  rw [netlocOf] at h
  split_ifs at h
  · have hnot := List.mem_takeWhile_imp h
    simpa using hnot
  · exact absurd h List.not_mem_nil

/-- What follows a network location starts with a delimiter. -/
theorem head_netlocOf {url : List Char} (h : (netlocOf url).1 ≠ []) :
    (netlocOf url).2 = [] ∨ ∃ c rest, (netlocOf url).2 = c :: rest ∧ isDelimiter c = true := by
  rw [netlocOf] at h ⊢
  split_ifs at h ⊢
  · cases hrest : (url.drop 2).dropWhile fun c => !isDelimiter c with
    | nil => exact .inl rfl
    | cons c rest =>
      have hhead := List.head?_dropWhile_not (fun c => !isDelimiter c) (url.drop 2)
      rw [hrest] at hhead
      exact .inr ⟨c, rest, rfl, by simpa using hhead⟩
  · exact absurd rfl h

/-- **What splitting gives.** -/
theorem splitOk_of_urlsplit {nfkc : List Char → List Char} {url : List Char} {r : SplitResult}
    (h : urlsplit nfkc url = .ok r) : SplitOk nfkc r := by
  rw [urlsplit] at h
  dsimp only at h
  generalize hclean : (url.dropWhile isControlOrSpace).filter (fun c => !isRemoved c) = text at h
  have hremoved : ∀ c ∈ text, isRemoved c = false := by
    intro c hc
    rw [← hclean] at hc
    simpa using List.of_mem_filter hc
  rw [unit_bind_eq_ok, unit_bind_eq_ok] at h
  obtain ⟨hbrackets, hchecked, hr⟩ := h
  obtain rfl := Except.ok.inj hr
  generalize (schemeOf text).1 = scheme
  have hrest : ∀ c ∈ (schemeOf text).2, isRemoved c = false := fun c hc =>
    hremoved c (mem_of_mem_schemeOf hc)
  generalize (schemeOf text).2 = rest at hbrackets hchecked hrest
  refine ⟨fun c hc => isDelimiter_netlocOf hc, hbrackets, hchecked, ?_, ?_, ?_, ?_⟩
  · intro c hc
    refine ⟨?_, ?_⟩
    · rintro rfl
      exact notMem_before _ _ hc
    · rintro rfl
      exact notMem_before _ _ (mem_of_mem_before hc)
  · intro hne
    dsimp only at hne ⊢
    rcases head_netlocOf hne with hnil | ⟨c, more, hcons, hc⟩
    · rw [hnil]
      exact .inl rfl
    · rw [hcons]
      simp only [isDelimiter, Bool.or_eq_true, decide_eq_true_eq] at hc
      rcases hc with (rfl | rfl) | rfl
      · right
        rw [before, before, List.takeWhile_cons_of_pos (by simp),
          List.takeWhile_cons_of_pos (by simp)]
        rfl
      · left
        rw [before, before, List.takeWhile_cons_of_pos (by simp),
          List.takeWhile_cons_of_neg (by simp)]
      · left
        rw [before, before, List.takeWhile_cons_of_neg (by simp), List.takeWhile_nil]
  · intro hmem
    exact notMem_before _ _ (mem_of_mem_after hmem)
  · intro c hc
    apply hrest c
    apply mem_of_mem_netlocOf
    rcases List.mem_append.mp hc with hc | hc
    · exact .inl hc
    · rcases List.mem_append.mp hc with hc | hc
      · exact .inr (mem_of_mem_before (mem_of_mem_before hc))
      · exact .inr (mem_of_mem_before (mem_of_mem_after hc))

/-! ## Parts that are read back -/

/-- A scheme as splitting gives it. -/
structure SchemeOk (scheme : List Char) : Prop where
  head : (scheme.head?.any fun c => isLower c || isUpper c) = true
  chars : ∀ c ∈ scheme, isSchemeChar c = true ∧ lowerChar c = c

section Texts

variable {nfkc : List Char → List Char} {scheme netloc rest : List Char}

theorem isRemoved_of_isSchemeChar {c : Char} (h : isSchemeChar c = true) : isRemoved c = false := by
  simp only [isRemoved, Bool.or_eq_false_iff, decide_eq_false_iff_not]
  refine ⟨⟨?_, ?_⟩, ?_⟩ <;> rintro rfl <;> revert h <;> decide

theorem SchemeOk.ne_nil (h : SchemeOk scheme) : scheme ≠ [] := by
  rintro rfl
  cases h.head

/-- The first character of a scheme is no white space. -/
theorem SchemeOk.not_control (h : SchemeOk scheme) {c : Char} (hc : scheme.head? = some c) :
    isControlOrSpace c = false ∧ isSpace c = false := by
  have hhead := h.head
  rw [hc] at hhead
  simp only [Option.any_some] at hhead
  refine ⟨?_, isSpace_of_isAlnum ?_⟩
  · simp only [isLower, isUpper, Bool.or_eq_true, Bool.and_eq_true, decide_eq_true_eq,
      Char.le_def, UInt32.le_iff_toNat_le] at hhead
    have ha : 'a'.val.toNat = 97 := rfl
    have hA : 'A'.val.toNat = 65 := rfl
    have hspace : ' '.val.toNat = 32 := rfl
    rw [isControlOrSpace, decide_eq_false_iff_not, Char.le_def, UInt32.le_iff_toNat_le]
    omega
  · rw [isAlnum, hhead, Bool.true_or]

theorem schemeOf_append (h : SchemeOk scheme) (rest : List Char) :
    schemeOf (scheme ++ ':' :: rest) = (scheme, rest) := by
  have hcolon : ':' ∉ scheme := by
    intro hmem
    have hchar := (h.chars _ hmem).1
    revert hchar
    decide
  have hlower : scheme.map lowerChar = scheme := by
    conv_rhs => rw [← List.map_id scheme]
    exact List.map_congr_left fun c hc => (h.chars c hc).2
  have hall : scheme.all isSchemeChar = true :=
    List.all_eq_true.mpr fun c hc => (h.chars c hc).1
  rw [schemeOf, before_append hcolon, after_append hcolon, hlower]
  exact if_pos ⟨List.mem_append_right _ List.mem_cons_self, h.head, hall⟩

theorem netlocOf_append (hnetloc : ∀ c ∈ netloc, isDelimiter c = false)
    (hrest : ∀ c, rest.head? = some c → isDelimiter c = true) :
    netlocOf ('/' :: '/' :: (netloc ++ rest)) = (netloc, rest) := by
  have hall : ∀ c ∈ netloc, (!isDelimiter c) = true := by
    intro c hc
    rw [hnetloc c hc]
    rfl
  have hdrop : ('/' :: '/' :: (netloc ++ rest)).drop 2 = netloc ++ rest := rfl
  rw [netlocOf, if_pos ⟨_, rfl⟩, hdrop, List.takeWhile_append_of_pos hall,
    List.dropWhile_append_of_pos hall]
  cases rest with
  | nil => rw [List.takeWhile_nil, List.dropWhile_nil, List.append_nil]
  | cons c rest =>
    have hc := hrest c rfl
    rw [List.takeWhile_cons_of_neg (by rw [hc]; exact Bool.false_ne_true),
      List.dropWhile_cons_of_neg (by rw [hc]; exact Bool.false_ne_true), List.append_nil]

/-- **The text of an absolute URL is split at its delimiters.** -/
theorem urlsplit_text (hscheme : SchemeOk scheme) (hnetloc : ∀ c ∈ netloc, isDelimiter c = false)
    (hrest : ∀ c, rest.head? = some c → isDelimiter c = true)
    (hclean : ∀ c ∈ netloc ++ rest, isRemoved c = false) :
    urlsplit nfkc (scheme ++ ':' :: '/' :: '/' :: (netloc ++ rest)) = (do
      checkBrackets netloc
      checkNetloc nfkc netloc
      return ⟨scheme, netloc, before '?' (before '#' rest), after '?' (before '#' rest),
        after '#' rest⟩) := by
  have htext : ((scheme ++ ':' :: '/' :: '/' :: (netloc ++ rest)).dropWhile
      isControlOrSpace).filter (fun c => !isRemoved c) =
      scheme ++ ':' :: '/' :: '/' :: (netloc ++ rest) := by
    obtain ⟨c, more, hcons⟩ := List.exists_cons_of_ne_nil hscheme.ne_nil
    have hc : isControlOrSpace c = false := (hscheme.not_control (by rw [hcons]; rfl)).1
    rw [hcons, List.cons_append,
      List.dropWhile_cons_of_neg (by rw [hc]; exact Bool.false_ne_true), ← List.cons_append,
      ← hcons, List.filter_eq_self]
    intro c hmem
    have hkept : isRemoved c = false := by
      rcases List.mem_append.mp hmem with hmem | hmem
      · exact isRemoved_of_isSchemeChar (hscheme.chars c hmem).1
      · simp only [List.mem_cons] at hmem
        rcases hmem with rfl | rfl | rfl | hmem
        · decide
        · decide
        · decide
        · exact hclean c hmem
    rw [hkept]
    rfl
  rw [urlsplit, htext, schemeOf_append hscheme]
  dsimp only
  rw [netlocOf_append hnetloc hrest]

end Texts

/-- The parts of an absolute URL without a fragment, as splitting gives them. -/
structure Absolute (nfkc : List Char → List Char) (r : SplitResult) : Prop where
  scheme : SchemeOk r.scheme
  netloc_ne : r.netloc ≠ []
  netloc : ∀ c ∈ r.netloc, isDelimiter c = false
  brackets : checkBrackets r.netloc = .ok ()
  checked : checkNetloc nfkc r.netloc = .ok ()
  path : ∀ c ∈ r.path, c ≠ '?' ∧ c ≠ '#'
  path_start : r.path.head? = some '/'
  query : '#' ∉ r.query
  fragment : r.fragment = []
  clean : ∀ c ∈ r.netloc ++ (r.path ++ r.query), isRemoved c = false

/-- The path and the query of a URL. -/
def target (r : SplitResult) : List Char := r.path ++ if r.query = [] then [] else '?' :: r.query

section Absolute

variable {nfkc : List Char → List Char} {r : SplitResult}

/-- The text of the parts of an absolute URL. -/
theorem urlunsplit_eq (hscheme : r.scheme ≠ []) (hnetloc : r.netloc ≠ [])
    (hstart : r.path.head? = some '/') (hfragment : r.fragment = []) :
    urlunsplit r = r.scheme ++ ':' :: '/' :: '/' :: (r.netloc ++ target r) := by
  have hnofragment : ¬ r.fragment ≠ [] := not_not.mpr hfragment
  have hslash : ¬ (r.path ≠ [] ∧ r.path.head? ≠ some '/') := fun hne => hne.2 hstart
  rw [urlunsplit, target, if_pos hnetloc, if_pos hscheme, if_neg hnofragment, if_neg hslash]
  by_cases hquery : r.query = []
  · rw [if_neg (not_not.mpr hquery), if_pos hquery, List.append_nil]
  · rw [if_pos hquery, if_neg hquery]
    simp only [List.append_assoc, List.cons_append]

/-- A character of path and query. -/
theorem mem_target {c : Char} (h : c ∈ target r) : c ∈ r.path ∨ c = '?' ∨ c ∈ r.query := by
  rw [target] at h
  rcases List.mem_append.mp h with h | h
  · exact .inl h
  · split_ifs at h with hquery
    · exact absurd h List.not_mem_nil
    · rcases List.mem_cons.mp h with rfl | h
      · exact .inr (.inl rfl)
      · exact .inr (.inr h)

theorem before_target (h : '?' ∉ r.path) :
    before '?' (target r) = r.path ∧ after '?' (target r) = r.query := by
  rw [target]
  by_cases hquery : r.query = []
  · rw [if_pos hquery, List.append_nil, before_of_notMem h, after_of_notMem h, hquery]
    exact ⟨rfl, rfl⟩
  · rw [if_neg hquery, before_append h, after_append h]
    exact ⟨rfl, rfl⟩

theorem head_target (h : r.path.head? = some '/') : (target r).head? = some '/' := by
  rw [target, List.head?_append, h]
  rfl

/-- **Parts that are put together are read back.** -/
theorem urlsplit_urlunsplit (h : Absolute nfkc r) : urlsplit nfkc (urlunsplit r) = .ok r := by
  have hfragment : '#' ∉ target r := by
    intro hmem
    rcases mem_target hmem with hmem | heq | hmem
    · exact (h.path _ hmem).2 rfl
    · exact absurd heq (by decide)
    · exact h.query hmem
  have hclean : ∀ c ∈ r.netloc ++ target r, isRemoved c = false := by
    intro c hmem
    rcases List.mem_append.mp hmem with hmem | hmem
    · exact h.clean c (List.mem_append_left _ hmem)
    · rcases mem_target hmem with hmem | rfl | hmem
      · exact h.clean c (List.mem_append_right _ (List.mem_append_left _ hmem))
      · decide
      · exact h.clean c (List.mem_append_right _ (List.mem_append_right _ hmem))
  have hstart : ∀ c, (target r).head? = some c → isDelimiter c = true := by
    intro c hc
    rw [head_target h.path_start] at hc
    rw [← Option.some.inj hc]
    decide
  have hparts := before_target (fun hmem => (h.path _ hmem).1 rfl : '?' ∉ r.path)
  rw [urlunsplit_eq h.scheme.ne_nil h.netloc_ne h.path_start h.fragment,
    urlsplit_text h.scheme h.netloc hstart hclean, h.brackets, ok_bind, h.checked, ok_bind,
    before_of_notMem hfragment, after_of_notMem hfragment, hparts.1, hparts.2, ← h.fragment]
  rfl

end Absolute

end NightRecon.Lib.Urllib
