import NightRecon.Lib.Urllib

/-!
# The parts of a URL reference

What `urlsplit` reads of a text, whether or not its checks pass.

* `schemePart`, `authority`, `pathPart` — the parts of a text; `urlsplit_parts`;
* `parts_of_beginning` — a beginning of a text has no authority, or the parts of the text as far as
  it goes;
* `authority_before` — what stands behind a `?` or a `#` is not in the authority;
* `authority_urlunsplit` — parts that are put together have the authority they are given.
-/

namespace NightRecon.Lib.Urllib

open NightRecon.Lib.Checks
open NightRecon.Lib.Text

/-- The text `urlsplit` splits: no controls in front, and no tabs and line ends. -/
def cleanText (l : List Char) : List Char :=
  (l.dropWhile isControlOrSpace).filter fun c => !isRemoved c

/-- The scheme of a text. -/
def schemePart (l : List Char) : List Char := (schemeOf (cleanText l)).1

/-- The network location of a text. -/
def authority (l : List Char) : List Char := (netlocOf (schemeOf (cleanText l)).2).1

/-- The path of a text. -/
def pathPart (l : List Char) : List Char :=
  before '?' (before '#' (netlocOf (schemeOf (cleanText l)).2).2)

theorem urlsplit_parts {nfkc : List Char → List Char} {l : List Char} {r : SplitResult}
    (h : urlsplit nfkc l = .ok r) :
    r.scheme = schemePart l ∧ r.netloc = authority l ∧ r.path = pathPart l := by
  rw [urlsplit] at h
  dsimp only at h
  rw [unit_bind_eq_ok, unit_bind_eq_ok] at h
  obtain ⟨-, -, hr⟩ := h
  obtain rfl := Except.ok.inj hr
  exact ⟨rfl, rfl, rfl⟩

/-! ## The characters of the parts -/

section Characters

variable {l : List Char} {c : Char}

theorem isRemoved_cleanText (h : c ∈ cleanText l) : isRemoved c = false := by
  have hkept := List.of_mem_filter h
  simpa using hkept

theorem authority_char (h : c ∈ authority l) : isDelimiter c = false ∧ isRemoved c = false :=
  ⟨isDelimiter_netlocOf h,
    isRemoved_cleanText (mem_of_mem_schemeOf (mem_of_mem_netlocOf (.inl h)))⟩

theorem pathPart_char (h : c ∈ pathPart l) : isRemoved c = false :=
  isRemoved_cleanText (mem_of_mem_schemeOf
    (mem_of_mem_netlocOf (.inr (mem_of_mem_before (mem_of_mem_before h)))))

/-- A path behind an authority starts with a slash. -/
theorem pathPart_start (h : authority l ≠ []) :
    pathPart l = [] ∨ (pathPart l).head? = some '/' := by
  rcases head_netlocOf h with hnil | ⟨c, rest, hcons, hc⟩
  · left
    rw [pathPart, hnil]
    rfl
  · rw [pathPart, hcons]
    simp only [isDelimiter, Bool.or_eq_true, decide_eq_true_eq] at hc
    rcases hc with (rfl | rfl) | rfl
    · right
      rw [before, before, List.takeWhile_cons_of_pos (by simp),
        List.takeWhile_cons_of_pos (by simp)]
      rfl
    · left
      rw [before, before, List.takeWhile_cons_of_pos (by simp),
        List.takeWhile_cons_of_neg (by simp)]
    · left
      rw [before, before, List.takeWhile_cons_of_neg (by simp), List.takeWhile_nil]

end Characters

/-! ## The beginning of a text -/

section Beginning

variable {p l : List Char}

theorem dropWhile_begins (f : Char → Bool) (h : p <+: l) : p.dropWhile f <+: l.dropWhile f := by
  obtain ⟨s, rfl⟩ := h
  rw [List.dropWhile_append]
  split
  · next hempty =>
    rw [List.isEmpty_iff.mp hempty]
    exact List.nil_prefix
  · exact List.prefix_append _ _

theorem takeWhile_prefix_takeWhile (f : Char → Bool) (h : p <+: l) :
    p.takeWhile f <+: l.takeWhile f := by
  obtain ⟨s, rfl⟩ := h
  rw [List.takeWhile_append]
  split
  · next hall =>
    rw [(List.takeWhile_sublist f).eq_of_length hall]
    exact List.prefix_append _ _
  · exact List.prefix_rfl

theorem before_begins (d : Char) (h : p <+: l) : before d p <+: before d l :=
  takeWhile_prefix_takeWhile _ h

theorem cleanText_begins (h : p <+: l) : cleanText p <+: cleanText l :=
  (dropWhile_begins _ h).filter _

/-- What a scheme leaves of the beginning of a text. -/
theorem schemeOf_begins (h : p <+: l) :
    (netlocOf (schemeOf p).2).1 = [] ∨
      ((schemeOf p).1 = (schemeOf l).1 ∧ (schemeOf p).2 <+: (schemeOf l).2) := by
  by_cases hcolon : ':' ∈ p
  · -- the colon of the scheme is kept
    obtain ⟨s, rfl⟩ := h
    have hsplit := before_after hcolon
    have hbefore : before ':' (p ++ s) = before ':' p := by
      conv_lhs => rw [← hsplit, List.append_assoc, List.cons_append]
      exact before_append (notMem_before _ _)
    have hafter : after ':' (p ++ s) = after ':' p ++ s := by
      conv_lhs => rw [← hsplit, List.append_assoc, List.cons_append]
      exact after_append (notMem_before _ _)
    right
    rw [schemeOf, schemeOf, hbefore, hafter]
    by_cases hscheme : (((before ':' p).head?.any fun c => isLower c || isUpper c) = true) ∧
        (before ':' p).all isSchemeChar = true
    · rw [if_pos ⟨hcolon, hscheme⟩, if_pos ⟨List.mem_append_left _ hcolon, hscheme⟩]
      exact ⟨rfl, List.prefix_append _ _⟩
    · rw [if_neg (fun hand => hscheme hand.2), if_neg (fun hand => hscheme hand.2)]
      exact ⟨rfl, List.prefix_append _ _⟩
  · have hp : schemeOf p = ([], p) := by
      rw [schemeOf, if_neg (fun hand => hcolon hand.1)]
    rw [hp]
    by_cases hscheme : ':' ∈ l ∧ ((before ':' l).head?.any fun c => isLower c || isUpper c) ∧
        (before ':' l).all isSchemeChar
    · -- the beginning ends in the scheme
      left
      have hbegin := before_begins ':' h
      rw [before_of_notMem hcolon] at hbegin
      have hslashes : ¬ ['/', '/'] <+: p := by
        intro hslashes
        have hslash : '/' ∈ before ':' l := (hslashes.trans hbegin).mem List.mem_cons_self
        have hchar := List.all_eq_true.mp hscheme.2.2 '/' hslash
        revert hchar
        decide
      rw [netlocOf, if_neg hslashes]
    · right
      rw [schemeOf, if_neg hscheme]
      exact ⟨rfl, h⟩

theorem netlocOf_begins (h : p <+: l) (hne : (netlocOf p).1 ≠ []) :
    (netlocOf p).1 <+: (netlocOf l).1 ∧ (netlocOf p).2 <+: (netlocOf l).2 := by
  by_cases hslashes : ['/', '/'] <+: p
  · rw [netlocOf, netlocOf, if_pos hslashes, if_pos (hslashes.trans h)]
    exact ⟨takeWhile_prefix_takeWhile _ (h.drop 2), dropWhile_begins _ (h.drop 2)⟩
  · rw [netlocOf, if_neg hslashes] at hne
    exact absurd rfl hne

/-- **A beginning of a text** has no authority, or it has the scheme of the text and a beginning of
its authority and of its path. -/
theorem parts_of_beginning (h : p <+: l) :
    authority p = [] ∨ (schemePart p = schemePart l ∧ authority p <+: authority l ∧
      pathPart p <+: pathPart l) := by
  by_cases hnil : authority p = []
  · exact .inl hnil
  · rcases schemeOf_begins (cleanText_begins h) with hnone | ⟨hscheme, hrest⟩
    · exact .inl hnone
    · obtain ⟨hnetloc, hpath⟩ := netlocOf_begins hrest hnil
      exact .inr ⟨hscheme, hnetloc, before_begins _ (before_begins _ hpath)⟩

theorem authority_begins (h : p <+: l) : authority p <+: authority l := by
  rcases parts_of_beginning h with hnil | ⟨-, hauthority, -⟩
  · rw [hnil]
    exact List.nil_prefix
  · exact hauthority

end Beginning

/-! ## Query and fragment -/

section Ends

variable {d : Char} {a s : List Char}

theorem cleanText_append (hremoved : isRemoved d = false) (hcontrol : isControlOrSpace d = false) :
    ∃ s', cleanText (a ++ d :: s) = cleanText a ++ d :: s' := by
  refine ⟨s.filter fun c => !isRemoved c, ?_⟩
  have hkept : (d :: s).filter (fun c => !isRemoved c) =
      d :: s.filter fun c => !isRemoved c :=
    List.filter_cons_of_pos (by rw [hremoved]; rfl)
  rw [cleanText, cleanText, List.dropWhile_append]
  split
  · next hempty =>
    rw [List.isEmpty_iff.mp hempty,
      List.dropWhile_cons_of_neg (by rw [hcontrol]; exact Bool.false_ne_true), hkept]
    rfl
  · rw [List.filter_append, hkept]

theorem schemeOf_append_delimiter (hd : isSchemeChar d = false) (hcolon : d ≠ ':') :
    (schemeOf (a ++ d :: s)).2 = (schemeOf a).2 ++ d :: s := by
  by_cases hmem : ':' ∈ a
  · have hsplit := before_after hmem
    have hbefore : before ':' (a ++ d :: s) = before ':' a := by
      conv_lhs => rw [← hsplit, List.append_assoc, List.cons_append]
      exact before_append (notMem_before _ _)
    have hafter : after ':' (a ++ d :: s) = after ':' a ++ d :: s := by
      conv_lhs => rw [← hsplit, List.append_assoc, List.cons_append]
      exact after_append (notMem_before _ _)
    rw [schemeOf, schemeOf, hbefore, hafter]
    by_cases hscheme : (((before ':' a).head?.any fun c => isLower c || isUpper c) = true) ∧
        (before ':' a).all isSchemeChar = true
    · rw [if_pos ⟨List.mem_append_left _ hmem, hscheme⟩, if_pos ⟨hmem, hscheme⟩]
    · rw [if_neg (fun hand => hscheme hand.2), if_neg (fun hand => hscheme hand.2)]
  · have hnone : (schemeOf a).2 = a := by
      rw [schemeOf, if_neg (fun hand => hmem hand.1)]
    rw [hnone, schemeOf, if_neg]
    -- the delimiter stands in front of every colon
    rintro ⟨hin, -, hall⟩
    have hbefore : d ∈ before ':' (a ++ d :: s) := by
      have hall' : ∀ c ∈ a, decide (c ≠ ':') = true := by
        intro c hc
        rw [decide_eq_true_eq]
        rintro rfl
        exact hmem hc
      rw [before, List.takeWhile_append_of_pos hall',
        List.takeWhile_cons_of_pos (by simpa using hcolon)]
      exact List.mem_append_right _ List.mem_cons_self
    have hchar := List.all_eq_true.mp hall d hbefore
    rw [hd] at hchar
    exact Bool.false_ne_true hchar

theorem netlocOf_append_delimiter (hd : isDelimiter d = true) (hslash : d ≠ '/') :
    (netlocOf (a ++ d :: s)).1 = (netlocOf a).1 := by
  have hiff : ['/', '/'] <+: a ++ d :: s ↔ ['/', '/'] <+: a := by
    refine ⟨fun h => ?_, fun h => h.trans (List.prefix_append _ _)⟩
    match a, h with
    | [], h => exact absurd (List.cons_prefix_cons.mp h).1.symm hslash
    | [c], h =>
      obtain ⟨-, h⟩ := List.cons_prefix_cons.mp h
      exact absurd (List.cons_prefix_cons.mp h).1.symm hslash
    | c :: c' :: a, h =>
      simp only [List.cons_append, List.cons_prefix_cons] at h ⊢
      exact ⟨h.1, h.2.1, List.nil_prefix⟩
  by_cases hslashes : ['/', '/'] <+: a
  · obtain ⟨b, rfl⟩ := hslashes
    have hdrop : (['/', '/'] ++ b ++ d :: s).drop 2 = b ++ d :: s := rfl
    have hdrop' : (['/', '/'] ++ b).drop 2 = b := rfl
    rw [netlocOf, netlocOf, if_pos (hiff.mpr ⟨b, rfl⟩), if_pos ⟨b, rfl⟩, hdrop, hdrop',
      List.takeWhile_append]
    split
    · next hall =>
      rw [List.takeWhile_cons_of_neg (by rw [hd]; exact Bool.false_ne_true), List.append_nil,
        (List.takeWhile_sublist _).eq_of_length hall]
    · rfl
  · rw [netlocOf, netlocOf, if_neg hslashes, if_neg (fun h => hslashes (hiff.mp h))]

/-- **The authority ends in front of a query or a fragment.** -/
theorem authority_before (hd : d = '?' ∨ d = '#') (l : List Char) :
    authority (before d l) = authority l := by
  have hchar : isRemoved d = false ∧ isControlOrSpace d = false ∧ isSchemeChar d = false ∧
      d ≠ ':' ∧ isDelimiter d = true ∧ d ≠ '/' := by
    rcases hd with rfl | rfl <;> decide
  obtain ⟨hremoved, hcontrol, hscheme, hcolon, hdelimiter, hslash⟩ := hchar
  by_cases hmem : d ∈ l
  · obtain ⟨s', hclean⟩ : ∃ s', cleanText (before d l ++ d :: after d l) =
        cleanText (before d l) ++ d :: s' := cleanText_append hremoved hcontrol
    conv_rhs => rw [← before_after hmem]
    rw [authority, authority, hclean, schemeOf_append_delimiter hscheme hcolon,
      netlocOf_append_delimiter hdelimiter hslash]
  · rw [before_of_notMem hmem]

end Ends

/-! ## Parts that are put together -/

section Together

variable {scheme netloc path : List Char}

theorem schemeOk_schemePart {l : List Char} (h : schemePart l ≠ []) : SchemeOk (schemePart l) := by
  have hlower : ∀ c, isSchemeChar c = true → isSchemeChar (lowerChar c) = true := by
    intro c hc
    by_cases hupper : isUpper c = true
    · simp only [isSchemeChar, isAlnum, isLower_lowerChar hupper, Bool.true_or]
    · rwa [lowerChar_of_not_upper (Bool.not_eq_true _ |>.mp hupper)]
  have hscheme : ':' ∈ cleanText l ∧
      ((before ':' (cleanText l)).head?.any fun c => isLower c || isUpper c) ∧
        (before ':' (cleanText l)).all isSchemeChar := by
    by_contra hnot
    rw [schemePart, schemeOf, if_neg hnot] at h
    exact h rfl
  have heq : schemePart l = (before ':' (cleanText l)).map lowerChar := by
    rw [schemePart, schemeOf, if_pos hscheme]
  obtain ⟨-, hhead, hall⟩ := hscheme
  rw [heq]
  refine ⟨?_, fun c hc => ?_⟩
  · rw [List.head?_map]
    cases hfirst : (before ':' (cleanText l)).head? with
    | none =>
      rw [hfirst] at hhead
      exact absurd hhead (by simp)
    | some c =>
      rw [hfirst, Option.any_some] at hhead
      by_cases hupper : isUpper c = true
      · simp [isLower_lowerChar hupper]
      · have hkept := lowerChar_of_not_upper (Bool.not_eq_true _ |>.mp hupper)
        simpa [hkept] using hhead
  · obtain ⟨c', hc', rfl⟩ := List.mem_map.mp hc
    exact ⟨hlower c' (List.all_eq_true.mp hall c' hc'), lowerChar_lowerChar c'⟩

theorem cleanText_scheme (hscheme : SchemeOk scheme) {rest : List Char}
    (hrest : ∀ c ∈ rest, isRemoved c = false) :
    cleanText (scheme ++ ':' :: rest) = scheme ++ ':' :: rest := by
  obtain ⟨c, more, hcons⟩ := List.exists_cons_of_ne_nil hscheme.ne_nil
  have hc : isControlOrSpace c = false := (hscheme.not_control (by rw [hcons]; rfl)).1
  rw [cleanText, hcons, List.cons_append,
    List.dropWhile_cons_of_neg (by rw [hc]; exact Bool.false_ne_true), ← List.cons_append,
    ← hcons, List.filter_eq_self]
  intro c hmem
  have hkept : isRemoved c = false := by
    rcases List.mem_append.mp hmem with hmem | hmem
    · exact isRemoved_of_isSchemeChar (hscheme.chars c hmem).1
    · rcases List.mem_cons.mp hmem with rfl | hmem
      · decide
      · exact hrest c hmem
  rw [hkept]
  rfl

/-- **Parts that are put together** have the authority they are given. -/
theorem authority_urlunsplit (hscheme : SchemeOk scheme)
    (hnetloc : ∀ c ∈ netloc, isDelimiter c = false) (hpath : path = [] ∨ path.head? = some '/')
    (hclean : ∀ c ∈ netloc ++ path, isRemoved c = false) :
    authority (urlunsplit ⟨scheme, netloc, path, [], []⟩) = netloc := by
  have hremoved : ∀ c ∈ path, isRemoved c = false := fun c hc =>
    hclean c (List.mem_append_right _ hc)
  have hstart : ∀ c, path.head? = some c → isDelimiter c = true := by
    intro c hc
    rcases hpath with hnil | hslash
    · rw [hnil] at hc
      cases hc
    · rw [hslash] at hc
      rw [← Option.some.inj hc]
      rfl
  have hread : ∀ rest, (∀ c ∈ rest, isRemoved c = false) →
      authority (scheme ++ ':' :: rest) = (netlocOf rest).1 := by
    intro rest hrest
    rw [authority, cleanText_scheme hscheme hrest, schemeOf_append hscheme]
  have hslashes : ∀ l : List Char, (∀ c ∈ l, isRemoved c = false) →
      ∀ c ∈ '/' :: '/' :: l, isRemoved c = false := by
    intro l hl c hc
    simp only [List.mem_cons] at hc
    rcases hc with rfl | rfl | hc
    · decide
    · decide
    · exact hl c hc
  by_cases hnil : netloc = []
  · subst hnil
    have hempty : (netlocOf ('/' :: '/' :: path)).1 = [] := by
      have hparts : netlocOf ('/' :: '/' :: ([] ++ path)) = ([], path) :=
        netlocOf_append (fun c hc => absurd hc List.not_mem_nil) hstart
      rw [List.nil_append] at hparts
      rw [hparts]
    simp only [urlunsplit, ne_eq, not_true_eq_false, if_false, hscheme.ne_nil, not_false_eq_true,
      if_true]
    split
    · rw [hread _ (hslashes _ hremoved), hempty]
    · next hdouble =>
      split
      · rw [hread _ (hslashes _ hremoved), hempty]
      · rw [hread _ hremoved, netlocOf, if_neg hdouble]
  · have hkept : ¬ (path ≠ [] ∧ path.head? ≠ some '/') := by
      rintro ⟨hne, hhead⟩
      exact hpath.elim hne hhead
    simp only [urlunsplit, ne_eq, hnil, not_false_eq_true, if_true, hscheme.ne_nil,
      not_true_eq_false, if_false]
    rw [if_neg hkept, hread _ (hslashes _ hclean), netlocOf_append hnetloc hstart]

end Together

end NightRecon.Lib.Urllib
