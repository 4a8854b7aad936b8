import NightRecon.Lib.IpaddressText

/-!
# Hextet texts in lower case

* `parseIpv6_lower` — lowering the letters of a hextet text does not change its number;
* `parseIpv6_charset` — a hextet text consists of hexadecimal digits, colons and dots.
-/

namespace NightRecon.Lib.Ipaddress

open NightRecon.Lib.Text

/-! ## Lowering the digits -/

/-- A character above `Z` or below `A` stays. -/
theorem lowerChar_cases (c : Char) : lowerChar c = c ∨
    ∃ n : Fin 26, c = Char.ofNat (n.val + 65) ∧ lowerChar c = Char.ofNat (n.val + 65 + 32) := by
  cases h : isUpper c with
  | false => exact .inl (lowerChar_of_not_upper h)
  | true =>
    have hbounds : 65 ≤ c.toNat ∧ c.toNat ≤ 90 := by
      simpa [isUpper, Char.le_def, UInt32.le_iff_toNat_le] using h
    have hadd : c.toNat - 65 + 65 = c.toNat := by omega
    refine .inr ⟨⟨c.toNat - 65, by omega⟩, ?_, ?_⟩
    · rw [hadd, Char.ofNat_toNat]
    · rw [lowerChar, if_pos h, hadd]

theorem hexVal_lowerChar (c : Char) : hexVal (lowerChar c) = hexVal c := by
  rcases lowerChar_cases c with h | ⟨n, hc, h⟩
  · rw [h]
  · have hall : ∀ n : Fin 26, hexVal (Char.ofNat (n.val + 65 + 32)) =
        hexVal (Char.ofNat (n.val + 65)) := by decide
    rw [h, hc]
    exact hall n

theorem isDigit_lowerChar (c : Char) : isDigit (lowerChar c) = isDigit c := by
  rcases lowerChar_cases c with h | ⟨n, hc, h⟩
  · rw [h]
  · have hall : ∀ n : Fin 26, isDigit (Char.ofNat (n.val + 65 + 32)) =
        isDigit (Char.ofNat (n.val + 65)) := by decide
    rw [h, hc]
    exact hall n

theorem mapM_hexVal_lower (l : List Char) : (l.map lowerChar).mapM hexVal = l.mapM hexVal := by
  rw [List.mapM_map]
  congr 1
  funext c
  exact hexVal_lowerChar c

/-! ## Lowering the parts -/

/-- Two parts that are read alike. -/
def SamePart (x y : List Char) : Prop := (x = [] ↔ y = []) ∧ parseHextet x = parseHextet y

theorem samePart_lower (x : List Char) : SamePart (x.map lowerChar) x := by
  refine ⟨List.map_eq_nil_iff, ?_⟩
  simp only [parseHextet, mapM_hexVal_lower, List.length_map, ne_eq, List.map_eq_nil_iff]

theorem mapM_parseHextet_congr {ps qs : List (List Char)} (h : List.Forall₂ SamePart ps qs) :
    ps.mapM parseHextet = qs.mapM parseHextet := by
  induction h with
  | nil => rfl
  | cons hpart _ ih => rw [List.mapM_cons, List.mapM_cons, hpart.2, ih]

/-- The cut at the first empty part depends on which parts are empty. -/
theorem cutSkip_congr {ps qs : List (List Char)} (h : List.Forall₂ SamePart ps qs) :
    Option.Rel (fun a b => List.Forall₂ SamePart a.1 b.1 ∧ List.Forall₂ SamePart a.2 b.2)
      (cutSkip ps) (cutSkip qs) := by
  induction h with
  | nil => exact .none
  | @cons x y ps qs hpart hrest ih =>
    cases hrest with
    | nil => exact .none
    | @cons x' y' ps qs hpart' hrest' =>
      rw [cutSkip, cutSkip]
      by_cases hx : x = []
      · rw [if_pos hx, if_pos (hpart.1.mp hx)]
        exact .some ⟨.nil, .cons hpart' hrest'⟩
      · rw [if_neg hx, if_neg (fun hy => hx (hpart.1.mpr hy))]
        generalize cutSkip (x' :: ps) = a at ih
        generalize cutSkip (y' :: qs) = b at ih
        cases ih with
        | none => exact .none
        | some hcut => exact .some ⟨.cons hpart hcut.1, hcut.2⟩

theorem getLast?_congr {ps qs : List (List Char)} (h : List.Forall₂ SamePart ps qs) :
    ps.getLast? = some [] ↔ qs.getLast? = some [] := by
  induction h with
  | nil => rfl
  | @cons x y ps qs hpart hrest ih =>
    cases hrest with
    | nil =>
      rw [List.getLast?_singleton, List.getLast?_singleton, Option.some.injEq, Option.some.injEq]
      exact hpart.1
    | cons hpart' hrest' =>
      rw [List.getLast?_cons_cons, List.getLast?_cons_cons]
      exact ih

/-- **Parts that are read alike give the same hextets.** -/
theorem parseHextets_congr {ps qs : List (List Char)} (h : List.Forall₂ SamePart ps qs) :
    parseHextets ps = parseHextets qs := by
  cases h with
  | nil => rfl
  | @cons x y ps qs hpart hrest =>
    have hlength : (x :: ps).length = (y :: qs).length := (List.Forall₂.cons hpart hrest).length_eq
    rw [parseHextets, parseHextets, hlength]
    by_cases hnine : 9 < (y :: qs).length
    · rw [if_pos hnine, if_pos hnine]
    rw [if_neg hnine, if_neg hnine, mapM_parseHextet_congr (.cons hpart hrest)]
    have hcut := cutSkip_congr hrest
    generalize cutSkip ps = a at hcut
    generalize cutSkip qs = b at hcut
    cases hcut with
    | none => rfl
    | @some a b hcut =>
      obtain ⟨hi, lo⟩ := a
      obtain ⟨hi', lo'⟩ := b
      obtain ⟨hhi, hlo⟩ := hcut
      dsimp only at hhi hlo ⊢
      have hskip : (cutSkip lo).isSome = (cutSkip lo').isSome := by
        have hcut := cutSkip_congr hlo
        generalize cutSkip lo = a at hcut
        generalize cutSkip lo' = b at hcut
        cases hcut with
        | none => rfl
        | some _ => rfl
      have hnil : hi = [] ↔ hi' = [] := by
        rw [← List.length_eq_zero_iff, ← List.length_eq_zero_iff, hhi.length_eq]
      have hfront : (if y = [] then [] else x :: hi).mapM parseHextet =
          (if y = [] then [] else y :: hi').mapM parseHextet := by
        by_cases hy : y = []
        · rw [if_pos hy, if_pos hy]
        · rw [if_neg hy, if_neg hy]
          exact mapM_parseHextet_congr (.cons hpart hhi)
      have hback : (if lo'.getLast? = some [] then [] else lo).mapM parseHextet =
          (if lo'.getLast? = some [] then [] else lo').mapM parseHextet := by
        by_cases hlast : lo'.getLast? = some []
        · rw [if_pos hlast, if_pos hlast]
        · rw [if_neg hlast, if_neg hlast]
          exact mapM_parseHextet_congr hlo
      simp only [hskip, hpart.1, hnil, ne_eq, getLast?_congr hlo, hlo.length_eq, hfront, hback]

/-! ## Lowering the text -/

theorem parseOctet_lower (l : List Char) : parseOctet (l.map lowerChar) = parseOctet l := by
  by_cases hall : l.all isDigit = true
  · have hid : l.map lowerChar = l := by
      conv_rhs => rw [← List.map_id l]
      apply List.map_congr_left
      intro c hc
      have hdigit := List.all_eq_true.mp hall c hc
      apply lowerChar_of_not_upper
      simp only [isDigit, isUpper, Bool.and_eq_true, decide_eq_true_eq, Char.le_def,
        UInt32.le_iff_toNat_le, Bool.and_eq_false_iff, decide_eq_false_iff_not] at hdigit ⊢
      have h9 : '9'.val.toNat = 57 := rfl
      have hA : 'A'.val.toNat = 65 := rfl
      omega
    rw [hid]
  · have hall' : ¬ (l.map lowerChar).all isDigit = true := by
      rw [List.all_map]
      have hcomp : (isDigit ∘ lowerChar) = isDigit := funext isDigit_lowerChar
      rwa [hcomp]
    rw [parseOctet, parseOctet, if_neg (fun h => hall' h.2.1), if_neg (fun h => hall h.2.1)]

theorem lowerChar_eq_dot (c : Char) : lowerChar c = '.' ↔ c = '.' :=
  lowerChar_eq_iff (by decide) (by decide)

theorem lowerChar_eq_colon (c : Char) : lowerChar c = ':' ↔ c = ':' :=
  lowerChar_eq_iff (by decide) (by decide)

theorem parseIpv4_lower (l : List Char) : parseIpv4 (l.map lowerChar) = parseIpv4 l := by
  have hoctets : ((l.splitOn '.').map (List.map lowerChar)).mapM parseOctet =
      (l.splitOn '.').mapM parseOctet := by
    rw [List.mapM_map]
    congr 1
    funext part
    exact parseOctet_lower part
  rw [parseIpv4, parseIpv4, splitOn_map lowerChar_eq_dot, hoctets, List.length_map]

/-- **Lowering the letters of a hextet text does not change its number.** -/
theorem parseIpv6_lower (l : List Char) : parseIpv6 (l.map lowerChar) = parseIpv6 l := by
  have hsame : ∀ ps : List (List Char), List.Forall₂ SamePart (ps.map (List.map lowerChar)) ps := by
    intro ps
    rw [List.forall₂_map_left_iff, List.forall₂_same]
    exact fun x _ => samePart_lower x
  rw [parseIpv6, parseIpv6, splitOn_map lowerChar_eq_colon]
  dsimp only
  rw [List.length_map]
  generalize l.splitOn ':' = parts
  by_cases hshort : parts.length < 3
  · rw [if_pos hshort, if_pos hshort]
    rfl
  rw [if_neg hshort, if_neg hshort]
  have hexpand : (expandSuffix (parts.map (List.map lowerChar))).bind parseHextets =
      (expandSuffix parts).bind parseHextets := by
    rw [expandSuffix, expandSuffix, List.getLast?_map]
    cases hlast : parts.getLast? with
    | none => exact parseHextets_congr (hsame parts)
    | some suffix =>
      have hdot : '.' ∈ suffix.map lowerChar ↔ '.' ∈ suffix := by
        rw [List.mem_map]
        constructor
        · rintro ⟨c, hc, heq⟩
          rwa [(lowerChar_eq_dot c).mp heq] at hc
        · exact fun h => ⟨'.', h, by decide⟩
      dsimp only [Option.map_some]
      by_cases hmem : '.' ∈ suffix
      · rw [if_pos (hdot.mpr hmem), if_pos hmem, parseIpv4_lower]
        cases parseIpv4 suffix with
        | none => rfl
        | some v =>
          apply parseHextets_congr
          rw [← List.map_dropLast]
          exact List.rel_append (hsame _) (List.forall₂_same.mpr fun _ _ => ⟨Iff.rfl, rfl⟩)
      · rw [if_neg (fun h => hmem (hdot.mp h)), if_neg hmem]
        exact parseHextets_congr (hsame parts)
  simp only [Option.bind_eq_bind]
  rw [← Option.bind_assoc, ← Option.bind_assoc, hexpand]

/-! ## The characters -/

theorem cutSkip_eq_some {ps hi lo : List (List Char)} (h : cutSkip ps = some (hi, lo)) :
    ps = hi ++ [] :: lo := by
  induction ps generalizing hi with
  | nil => cases h
  | cons x ps ih =>
    cases ps with
    | nil => cases h
    | cons y ps =>
      rw [cutSkip] at h
      by_cases hx : x = []
      · rw [if_pos hx] at h
        cases h
        rw [hx]
        rfl
      · rw [if_neg hx] at h
        obtain ⟨cut, hcut, heq⟩ := Option.map_eq_some_iff.mp h
        cases heq
        rw [ih hcut]
        rfl

/-- The parts of hextets are empty, or hextets. -/
theorem parseHextets_parts {ps : List (List Char)} {r : List Nat} (h : parseHextets ps = some r) :
    ∀ part ∈ ps, part = [] ∨ ∃ n, parseHextet part = some n := by
  cases ps with
  | nil => cases h
  | cons first rest =>
    rw [parseHextets] at h
    by_cases hnine : 9 < (first :: rest).length
    · rw [if_pos hnine] at h
      cases h
    rw [if_neg hnine] at h
    cases hcut : cutSkip rest with
    | none =>
      rw [hcut] at h
      dsimp only at h
      by_cases height : (first :: rest).length = 8
      · rw [if_pos height] at h
        intro part hpart
        exact .inr (mem_of_mapM h part hpart)
      · rw [if_neg height] at h
        cases h
    | some cut =>
      obtain ⟨hi, lo⟩ := cut
      rw [hcut] at h
      dsimp only at h
      by_cases hskip : (cutSkip lo).isSome = true
      · rw [if_pos hskip] at h
        cases h
      rw [if_neg hskip] at h
      by_cases hfirst : first = [] ∧ hi ≠ []
      · rw [if_pos hfirst] at h
        cases h
      rw [if_neg hfirst] at h
      by_cases hlast : lo.getLast? = some [] ∧ lo.length ≠ 1
      · rw [if_pos hlast] at h
        cases h
      · rw [if_neg hlast] at h
        simp only [Option.bind_eq_bind, Option.bind_eq_some_iff] at h
        obtain ⟨his, hhis, los, hlos, -⟩ := h
        have hall := cutSkip_eq_some hcut
        intro part hpart
        rw [hall] at hpart
        by_cases hempty : part = []
        · exact .inl hempty
        right
        rcases List.mem_cons.mp hpart with rfl | hpart
        · rw [if_neg hempty] at hhis
          exact mem_of_mapM hhis part List.mem_cons_self
        rcases List.mem_append.mp hpart with hpart | hpart
        · by_cases hnil : first = []
          · by_cases hhi : hi = []
            · rw [hhi] at hpart
              exact absurd hpart List.not_mem_nil
            · exact absurd ⟨hnil, hhi⟩ hfirst
          · rw [if_neg hnil] at hhis
            exact mem_of_mapM hhis part (List.mem_cons_of_mem _ hpart)
        rcases List.mem_cons.mp hpart with rfl | hpart
        · exact absurd rfl hempty
        by_cases hend : lo.getLast? = some []
        · have hone : lo.length = 1 := by
            by_contra hne
            exact hlast ⟨hend, hne⟩
          obtain ⟨x, rfl⟩ := List.length_eq_one_iff.mp hone
          rw [List.getLast?_singleton] at hend
          rw [List.mem_singleton.mp hpart] at hempty
          exact absurd (Option.some.inj hend) hempty
        · rw [if_neg hend] at hlos
          exact mem_of_mapM hlos part hpart

theorem hexVal_of_isDigit {c : Char} (h : isDigit c = true) : (hexVal c).isSome = true := by
  rw [hexVal, if_pos h]
  rfl

/-- **A hextet text consists of hexadecimal digits, colons and dots.** -/
theorem parseIpv6_charset {l : List Char} {v : Nat} (h : parseIpv6 l = some v) {c : Char}
    (hc : c ∈ l) : (hexVal c).isSome = true ∨ c = ':' ∨ c = '.' := by
  rw [parseIpv6] at h
  dsimp only at h
  split_ifs at h with hshort
  · cases h
  simp only [Option.bind_eq_bind, Option.bind_eq_some_iff] at h
  obtain ⟨parts, hexpand, r, hr, -⟩ := h
  have hparts := parseHextets_parts hr
  have hhex : ∀ part, part = [] ∨ (∃ n, parseHextet part = some n) → c ∈ part →
      (hexVal c).isSome = true := by
    rintro part (rfl | ⟨n, hn⟩) hmem
    · exact absurd hmem List.not_mem_nil
    · rw [parseHextet] at hn
      split_ifs at hn
      obtain ⟨digits, hdigits, -⟩ := Option.map_eq_some_iff.mp hn
      obtain ⟨d, hd⟩ := mem_of_mapM hdigits c hmem
      rw [hd]
      rfl
  rcases mem_splitOn (a := ':') hc with hcolon | ⟨part, hpart, hmem⟩
  · exact .inr (.inl hcolon)
  rw [expandSuffix] at hexpand
  cases hlast : (l.splitOn ':').getLast? with
  | none =>
    rw [hlast] at hexpand
    rw [← Option.some.inj hexpand] at hparts
    exact .inl (hhex part (hparts part hpart) hmem)
  | some suffix =>
    rw [hlast] at hexpand
    dsimp only at hexpand
    split_ifs at hexpand with hdot
    · obtain ⟨v4, hv4, heq⟩ := Option.map_eq_some_iff.mp hexpand
      -- the last part is a dotted-decimal text, the others are hextets
      have hsplit := List.dropLast_append_getLast? suffix (Option.mem_def.mpr hlast)
      rw [← hsplit] at hpart
      rcases List.mem_append.mp hpart with hpart | hpart
      · refine .inl (hhex part (hparts part ?_) hmem)
        rw [← heq]
        exact List.mem_append_left _ hpart
      · rw [List.mem_singleton.mp hpart] at hmem
        rcases parseIpv4_chars hv4 c hmem with hdigit | hdot
        · exact .inl (hexVal_of_isDigit hdigit)
        · exact .inr (.inr hdot)
    · rw [← Option.some.inj hexpand] at hparts
      exact .inl (hhex part (hparts part hpart) hmem)

end NightRecon.Lib.Ipaddress
