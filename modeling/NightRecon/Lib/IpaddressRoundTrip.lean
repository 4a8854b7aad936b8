import Mathlib.Tactic.IntervalCases
import NightRecon.Lib.IpaddressCase

/-!
# The texts of IP addresses read back

* `ofDigitsBE_digitsBE` — the digits of a number are digits of it;
* `parseIpv4_ipv4Chars`, `parseIpv6_ipv6Chars` — the dotted-decimal and the hextet text of a
  number read as the number; the second with its longest run of zeros left out
  (`parseHextets_compressHextets`);
* `ipAddress_str`, `ipNetwork_str` — the text of an address and of a network reads as the address
  and the network, when its zone is one that a text can carry (`ZoneReadable`), as the zone of
  every address that was read is (`zoneReadable_of_ipAddress`).
-/

namespace NightRecon.Lib.Ipaddress

open NightRecon.Lib.Text

/-! ## Digits -/

theorem length_digitsBE (base k v : Nat) : (digitsBE base k v).length = k := by
  induction k generalizing v with
  | zero => rfl
  | succ k ih => simp [digitsBE, ih]

theorem lt_of_mem_digitsBE {base k v d : Nat} (hbase : 0 < base) (h : d ∈ digitsBE base k v) :
    d < base := by
  induction k generalizing v with
  | zero => cases h
  | succ k ih =>
    rw [digitsBE, List.mem_append, List.mem_singleton] at h
    rcases h with h | rfl
    · exact ih h
    · exact Nat.mod_lt v hbase

/-- **The digits of a number are digits of it.** -/
theorem ofDigitsBE_digitsBE {base k v : Nat} (h : v < base ^ k) :
    ofDigitsBE base (digitsBE base k v) = v := by
  induction k generalizing v with
  | zero =>
    rw [pow_zero] at h
    rw [Nat.lt_one_iff.mp h]
    rfl
  | succ k ih =>
    have hdiv : v / base < base ^ k := by
      apply Nat.div_lt_of_lt_mul
      rwa [pow_succ, Nat.mul_comm] at h
    have hfold : ofDigitsBE base (digitsBE base (k + 1) v) =
        ofDigitsBE base (digitsBE base k (v / base)) * base + v % base := by
      simp [digitsBE, ofDigitsBE]
    rw [hfold, ih hdiv]
    exact Nat.div_add_mod' v base

/-- What a reader reads of each written part, it reads of the list of parts. -/
theorem mapM_map_of {α β : Type} {f : β → Option α} {g : α → β} {l : List α}
    (h : ∀ a ∈ l, f (g a) = some a) : (l.map g).mapM f = some l := by
  induction l with
  | nil => rfl
  | cons a l ih =>
    have htail := ih fun b hb => h b (List.mem_cons_of_mem _ hb)
    simp [List.mapM_cons, h a List.mem_cons_self, htail]

/-! ## Decimal texts -/

theorem isDigit_digitChar {n : Nat} (h : n < 10) : isDigit (digitChar n) = true := by
  interval_cases n <;> rfl

theorem toNat_digitChar {n : Nat} (h : n < 10) : (digitChar n).toNat - '0'.toNat = n := by
  interval_cases n <;> rfl

theorem digitChar_eq_zero {n : Nat} (h : n < 10) (hz : digitChar n = '0') : n = 0 := by
  have hval := toNat_digitChar h
  rw [hz, Nat.sub_self] at hval
  exact hval.symm

theorem digitsVal_decChars {n : Nat} (h : n < 1000) : digitsVal (decChars n) = n := by
  have h₁ : n / 100 < 10 := by omega
  have h₂ : n / 10 % 10 < 10 := by omega
  have h₃ : n % 10 < 10 := by omega
  unfold decChars
  split_ifs with hten hhundred
  · have hval := toNat_digitChar hten
    simpa [digitsVal] using hval
  · have h₄ : n / 10 < 10 := by omega
    simp only [digitsVal, List.foldl_cons, List.foldl_nil, toNat_digitChar h₃, toNat_digitChar h₄]
    omega
  · simp only [digitsVal, List.foldl_cons, List.foldl_nil, toNat_digitChar h₁, toNat_digitChar h₂,
      toNat_digitChar h₃]
    omega

theorem isDigit_decChars {n : Nat} (h : n < 1000) : (decChars n).all isDigit = true := by
  have h₁ : n / 100 < 10 := by omega
  have h₂ : n / 10 % 10 < 10 := by omega
  have h₃ : n % 10 < 10 := by omega
  unfold decChars
  split_ifs with hten hhundred
  · simp [isDigit_digitChar hten]
  · have h₄ : n / 10 < 10 := by omega
    simp [isDigit_digitChar h₃, isDigit_digitChar h₄]
  · simp [isDigit_digitChar h₁, isDigit_digitChar h₂, isDigit_digitChar h₃]

theorem decChars_ne_nil (n : Nat) : decChars n ≠ [] := by
  unfold decChars
  split_ifs <;> simp

theorem length_decChars_le (n : Nat) : (decChars n).length ≤ 3 := by
  unfold decChars
  split_ifs <;> simp

/-- A decimal text has no leading zero. -/
theorem head_decChars {n : Nat} (h : n < 1000) :
    decChars n = ['0'] ∨ (decChars n).head? ≠ some '0' := by
  unfold decChars
  split_ifs with hten hhundred
  · by_cases hz : digitChar n = '0'
    · exact .inl (by rw [hz])
    · exact .inr (by simpa using hz)
  · right
    intro hz
    have := digitChar_eq_zero (by omega) (Option.some.inj hz)
    omega
  · right
    intro hz
    have := digitChar_eq_zero (by omega) (Option.some.inj hz)
    omega

/-- A character that is no digit is in no decimal text. -/
theorem not_mem_decChars {n : Nat} {c : Char} (h : n < 1000) (hc : isDigit c = false) :
    c ∉ decChars n := by
  intro hmem
  have hdigit := List.all_eq_true.mp (isDigit_decChars h) c hmem
  rw [hc] at hdigit
  cases hdigit

theorem parseOctet_decChars {n : Nat} (h : n < 256) : parseOctet (decChars n) = some n := by
  have hlt : n < 1000 := by omega
  have hval := digitsVal_decChars hlt
  have hle : digitsVal (decChars n) ≤ 255 := by omega
  unfold parseOctet
  rw [if_pos ⟨decChars_ne_nil n, isDigit_decChars hlt, length_decChars_le n, head_decChars hlt, hle⟩,
    hval]

theorem parsePrefix_decChars {bits p : Nat} (h : p ≤ bits) (hlt : p < 1000) :
    parsePrefix bits (decChars p) = some p := by
  have hval := digitsVal_decChars hlt
  have hle : digitsVal (decChars p) ≤ bits := by omega
  unfold parsePrefix
  rw [if_pos ⟨decChars_ne_nil p, isDigit_decChars hlt, hle⟩, hval]

/-- **The dotted-decimal text of a number reads as the number.** -/
theorem parseIpv4_ipv4Chars {v : Nat} (h : v < 2 ^ 32) : parseIpv4 (ipv4Chars v) = some v := by
  have hoctet : ∀ n ∈ digitsBE 256 4 v, n < 256 := fun n hn => lt_of_mem_digitsBE (by omega) hn
  have hnodot : ∀ part ∈ (digitsBE 256 4 v).map decChars, '.' ∉ part := by
    intro part hpart
    obtain ⟨n, hn, rfl⟩ := List.mem_map.mp hpart
    apply not_mem_decChars _ rfl
    have := hoctet n hn
    omega
  have hne : (digitsBE 256 4 v).map decChars ≠ [] := by
    intro hnil
    have hlen := congrArg List.length hnil
    rw [List.length_map, length_digitsBE] at hlen
    cases hlen
  have hvalue : v < 256 ^ 4 := by
    norm_num at h ⊢
    exact h
  unfold parseIpv4 ipv4Chars
  dsimp only
  rw [List.splitOn_intercalate _ hnodot hne, List.length_map, length_digitsBE, if_pos rfl,
    mapM_map_of fun n hn => parseOctet_decChars (hoctet n hn), Option.map_some,
    ofDigitsBE_digitsBE hvalue]

/-! ## Hextet texts -/

theorem hexVal_digitChar {n : Nat} (h : n < 16) : hexVal (digitChar n) = some n := by
  interval_cases n <;> rfl

theorem hexChars_ne_nil (n : Nat) : hexChars n ≠ [] := by
  unfold hexChars
  split_ifs <;> simp

theorem parseHextet_hexChars {n : Nat} (h : n < 65536) : parseHextet (hexChars n) = some n := by
  have h₁ : n / 4096 < 16 := by omega
  have h₂ : n / 256 % 16 < 16 := by omega
  have h₃ : n / 16 % 16 < 16 := by omega
  have h₄ : n % 16 < 16 := by omega
  unfold hexChars
  split_ifs with hone htwo hthree
  · simp [parseHextet, hexVal_digitChar hone, ofDigitsBE]
  · have h₅ : n / 16 < 16 := by omega
    simp [parseHextet, hexVal_digitChar h₄, hexVal_digitChar h₅, ofDigitsBE]
    omega
  · have h₅ : n / 256 < 16 := by omega
    simp [parseHextet, hexVal_digitChar h₃, hexVal_digitChar h₄, hexVal_digitChar h₅, ofDigitsBE]
    omega
  · simp [parseHextet, hexVal_digitChar h₁, hexVal_digitChar h₂, hexVal_digitChar h₃,
      hexVal_digitChar h₄, ofDigitsBE]
    omega

theorem hexVal_of_mem_hexChars {n : Nat} {c : Char} (h : n < 65536) (hc : c ∈ hexChars n) :
    (hexVal c).isSome = true := by
  have hread := parseHextet_hexChars h
  rw [parseHextet] at hread
  split_ifs at hread
  obtain ⟨digits, hdigits, -⟩ := Option.map_eq_some_iff.mp hread
  obtain ⟨d, hd⟩ := mem_of_mapM hdigits c hc
  rw [hd]
  rfl

/-- A character that is no hexadecimal digit is in no part of a hextet text. -/
theorem not_mem_hexChars {n : Nat} {c : Char} (h : n < 65536) (hc : hexVal c = none) :
    c ∉ hexChars n := by
  intro hmem
  have hsome := hexVal_of_mem_hexChars h hmem
  rw [hc] at hsome
  cases hsome

/-! ## The longest run of zeros -/

/-- `n` zeros from position `b` on. -/
def ZerosAt (hs : List Nat) (b n : Nat) : Prop :=
  ∃ hi lo, hs = hi ++ List.replicate n 0 ++ lo ∧ hi.length = b

/-- The run found is a run of zeros.  `hs` is the whole list, `seen` the part before the
position reached, which ends in `run` zeros. -/
theorem zerosAt_longestZeroRun {hs : List Nat} (l : List Nat) :
    ∀ {seen hi : List Nat} {run : Nat} {best : Nat × Nat}, hs = seen ++ l →
      seen = hi ++ List.replicate run 0 → ZerosAt hs best.1 best.2 →
      ZerosAt hs (longestZeroRun seen.length run best l).1
        (longestZeroRun seen.length run best l).2 := by
  induction l with
  | nil => exact fun _ _ hbest => hbest
  | cons x l ih =>
    intro seen hi run best hsplit hrun hbest
    have hnext : hs = (seen ++ [x]) ++ l := by rw [hsplit, List.append_assoc, List.singleton_append]
    have hlen : (seen ++ [x]).length = seen.length + 1 := by simp
    rw [longestZeroRun, ← hlen]
    by_cases hx : x = 0
    · -- the run grows
      have hgrown : seen ++ [x] = hi ++ List.replicate (run + 1) 0 := by
        rw [hx, hrun, List.append_assoc, List.replicate_succ']
      rw [if_pos hx]
      apply ih hnext hgrown
      split_ifs
      · refine ⟨hi, l, ?_, ?_⟩
        · rw [hnext, hgrown]
        · rw [hrun, List.length_append, List.length_replicate, Nat.add_sub_cancel]
      · exact hbest
    · rw [if_neg hx]
      exact ih hnext (List.append_nil _).symm hbest

/-! ## The parts of a hextet text -/

theorem cutSkip_eq_none {ps : List (List Char)} (h : ∀ p ∈ ps, p ≠ []) : cutSkip ps = none := by
  induction ps with
  | nil => rfl
  | cons x ps ih =>
    cases ps with
    | nil => rfl
    | cons y ps =>
      rw [cutSkip, if_neg (h x List.mem_cons_self), ih fun p hp => h p (List.mem_cons_of_mem _ hp)]
      rfl

/-- The cut is at the first empty part that is not the last one. -/
theorem cutSkip_append {hi lo : List (List Char)} (h : ∀ p ∈ hi, p ≠ []) (hlo : lo ≠ []) :
    cutSkip (hi ++ [] :: lo) = some (hi, lo) := by
  induction hi with
  | nil =>
    obtain ⟨y, rest, rfl⟩ := List.exists_cons_of_ne_nil hlo
    rfl
  | cons x hi ih =>
    have htail := ih fun p hp => h p (List.mem_cons_of_mem _ hp)
    obtain ⟨y, rest, hcons⟩ := List.exists_cons_of_ne_nil
      (List.append_ne_nil_of_right_ne_nil hi (List.cons_ne_nil [] lo))
    rw [List.cons_append, hcons, cutSkip, if_neg (h x List.mem_cons_self), ← hcons, htail]
    rfl

/-- The hextets on the one side of the `::`, an empty part where there are none. -/
def sideParts (side : List Nat) : List (List Char) :=
  if side.map hexChars = [] then [[]] else side.map hexChars

/-- The parts, by the run left out. -/
theorem compressHextets_eq (hs : List Nat) :
    compressHextets hs =
      if 1 < (longestZeroRun 0 0 (0, 0) hs).2 then
        sideParts (hs.take (longestZeroRun 0 0 (0, 0) hs).1) ++ [] ::
          sideParts (hs.drop ((longestZeroRun 0 0 (0, 0) hs).1 + (longestZeroRun 0 0 (0, 0) hs).2))
      else hs.map hexChars := rfl

theorem sideParts_ne_nil (side : List Nat) : sideParts side ≠ [] := by
  unfold sideParts
  split_ifs with h
  · exact List.cons_ne_nil _ _
  · exact h

theorem length_sideParts (side : List Nat) :
    (sideParts side).length = max 1 side.length := by
  cases side with
  | nil => rfl
  | cons n side => simp [sideParts]

theorem ne_nil_of_mem_map {side : List Nat} {p : List Char} (h : p ∈ side.map hexChars) :
    p ≠ [] := by
  obtain ⟨n, -, rfl⟩ := List.mem_map.mp h
  exact hexChars_ne_nil n

/-- The lower side is read back, and cut no further. -/
theorem lower_side {lo : List Nat} (hlo : ∀ n ∈ lo, n < 65536) :
    cutSkip (sideParts lo) = none ∧
      ¬ ((sideParts lo).getLast? = some [] ∧ (sideParts lo).length ≠ 1) ∧
      (if (sideParts lo).getLast? = some [] then [] else sideParts lo).mapM parseHextet =
        some lo := by
  cases lo with
  | nil =>
    refine ⟨rfl, fun h => h.2 rfl, ?_⟩
    rfl
  | cons n lo =>
    have hparts : sideParts (n :: lo) = (n :: lo).map hexChars := rfl
    have hlast : ((n :: lo).map hexChars).getLast? ≠ some [] := by
      intro h
      exact ne_nil_of_mem_map (List.mem_of_getLast? h) rfl
    rw [hparts, if_neg hlast]
    refine ⟨cutSkip_eq_none fun p hp => ne_nil_of_mem_map hp, fun h => hlast h.1, ?_⟩
    exact mapM_map_of fun m hm => parseHextet_hexChars (hlo m hm)

/-- **The two sides of a `::` read back, the zeros between them filled in.** -/
theorem parseHextets_sides {hi lo : List Nat} (hhi : ∀ n ∈ hi, n < 65536)
    (hlo : ∀ n ∈ lo, n < 65536) (hlen : hi.length + lo.length ≤ 6) :
    parseHextets (sideParts hi ++ [] :: sideParts lo) =
      some (hi ++ List.replicate (8 - (hi.length + lo.length)) 0 ++ lo) := by
  obtain ⟨hcut, hend, hread⟩ := lower_side hlo
  have hle : hi.length + lo.length ≤ 7 := by omega
  have hshort : ¬ 9 < (sideParts hi ++ [] :: sideParts lo).length := by
    rw [List.length_append, List.length_cons, length_sideParts, length_sideParts]
    omega
  cases hi with
  | nil =>
    have hsides : sideParts [] ++ [] :: sideParts lo = [] :: ([] ++ [] :: sideParts lo) := rfl
    rw [hsides] at hshort ⊢
    rw [parseHextets, if_neg hshort, cutSkip_append (by simp) (sideParts_ne_nil lo)]
    dsimp only
    rw [hcut, if_neg (by simp), if_neg (by simp), if_neg hend, if_pos rfl, hread]
    simp only [List.mapM_nil, Option.pure_def, Option.bind_eq_bind, Option.bind_some, List.nil_append]
    rw [if_pos hle]
  | cons n hi =>
    have hsides : sideParts (n :: hi) ++ [] :: sideParts lo =
        hexChars n :: (hi.map hexChars ++ [] :: sideParts lo) := rfl
    have hmap : (hexChars n :: hi.map hexChars).mapM parseHextet = some (n :: hi) :=
      mapM_map_of fun m hm => parseHextet_hexChars (hhi m hm)
    rw [hsides] at hshort ⊢
    rw [parseHextets, if_neg hshort,
      cutSkip_append (fun p hp => ne_nil_of_mem_map hp) (sideParts_ne_nil lo)]
    dsimp only
    rw [hcut, if_neg (by simp), if_neg fun h => hexChars_ne_nil n h.1, if_neg hend,
      if_neg (hexChars_ne_nil n), hmap, hread]
    simp only [Option.bind_eq_bind, Option.bind_some]
    rw [if_pos hle]

/-- **The parts of eight hextets read as the hextets.** -/
theorem parseHextets_compressHextets {hs : List Nat} (hlen : hs.length = 8)
    (hlt : ∀ n ∈ hs, n < 65536) : parseHextets (compressHextets hs) = some hs := by
  have hnone : ZerosAt hs 0 0 := ⟨[], hs, rfl, rfl⟩
  have hrun : ZerosAt hs (longestZeroRun 0 0 (0, 0) hs).1 (longestZeroRun 0 0 (0, 0) hs).2 :=
    @zerosAt_longestZeroRun hs hs [] [] 0 (0, 0) rfl rfl hnone
  rw [compressHextets_eq]
  generalize longestZeroRun 0 0 (0, 0) hs = best at hrun ⊢
  obtain ⟨hi, lo, hsplit, hstart⟩ := hrun
  split_ifs with hlong
  · have htake : hs.take best.1 = hi := by
      rw [hsplit, ← hstart, List.append_assoc, List.take_left']
      rfl
    have hdrop : hs.drop (best.1 + best.2) = lo := by
      rw [hsplit]
      apply List.drop_left'
      rw [List.length_append, List.length_replicate, hstart]
    have hcount : hi.length + best.2 + lo.length = 8 := by
      rw [← hlen, hsplit, List.length_append, List.length_append, List.length_replicate]
    rw [htake, hdrop]
    have hhi : ∀ n ∈ hi, n < 65536 := fun n hn => hlt n (by simp [hsplit, hn])
    have hlo : ∀ n ∈ lo, n < 65536 := fun n hn => hlt n (by simp [hsplit, hn])
    have hread := parseHextets_sides hhi hlo (by omega)
    have hzeros : 8 - (hi.length + lo.length) = best.2 := by omega
    rw [hzeros, ← hsplit] at hread
    exact hread
  · obtain ⟨n, tail, rfl⟩ := List.exists_cons_of_length_pos (by omega : 0 < hs.length)
    have hmap : ((n :: tail).map hexChars).mapM parseHextet = some (n :: tail) :=
      mapM_map_of fun m hm => parseHextet_hexChars (hlt m hm)
    rw [List.map_cons] at hmap ⊢
    have height : (hexChars n :: tail.map hexChars).length = 8 := by simpa using hlen
    rw [parseHextets, if_neg (by omega), cutSkip_eq_none fun p hp => ne_nil_of_mem_map hp]
    dsimp only
    rw [if_pos height, hmap]

/-! ## Hextet texts read back -/

/-- The parts of a hextet text: at least three, empty or hextets. -/
theorem compressHextets_parts {hs : List Nat} (hlen : hs.length = 8) (hlt : ∀ n ∈ hs, n < 65536) :
    3 ≤ (compressHextets hs).length ∧
      ∀ part ∈ compressHextets hs, ∀ c ∈ part, (hexVal c).isSome = true := by
  have hchars : ∀ side : List Nat, (∀ n ∈ side, n < 65536) → ∀ part ∈ side.map hexChars,
      ∀ c ∈ part, (hexVal c).isSome = true := by
    intro side hside part hpart c hc
    obtain ⟨n, hn, rfl⟩ := List.mem_map.mp hpart
    exact hexVal_of_mem_hexChars (hside n hn) hc
  have hsides : ∀ side : List Nat, (∀ n ∈ side, n < 65536) → ∀ part ∈ sideParts side,
      ∀ c ∈ part, (hexVal c).isSome = true := by
    intro side hside part hpart c hc
    unfold sideParts at hpart
    split_ifs at hpart
    · rw [List.mem_singleton.mp hpart] at hc
      cases hc
    · exact hchars side hside part hpart c hc
  rw [compressHextets_eq]
  split_ifs
  · refine ⟨?_, ?_⟩
    · rw [List.length_append, List.length_cons, length_sideParts, length_sideParts]
      omega
    · intro part hpart
      rcases List.mem_append.mp hpart with hpart | hpart
      · exact hsides _ (fun n hn => hlt n (List.mem_of_mem_take hn)) part hpart
      rcases List.mem_cons.mp hpart with rfl | hpart
      · exact fun c hc => absurd hc List.not_mem_nil
      · exact hsides _ (fun n hn => hlt n (List.mem_of_mem_drop hn)) part hpart
  · refine ⟨?_, hchars hs hlt⟩
    rw [List.length_map, hlen]
    omega

/-- **The hextet text of a number reads as the number.** -/
theorem parseIpv6_ipv6Chars {v : Nat} (h : v < 2 ^ 128) : parseIpv6 (ipv6Chars v) = some v := by
  have hlt : ∀ n ∈ digitsBE 65536 8 v, n < 65536 := fun n hn => lt_of_mem_digitsBE (by omega) hn
  have hlen := length_digitsBE 65536 8 v
  obtain ⟨hthree, hhex⟩ := compressHextets_parts hlen hlt
  have hread := parseHextets_compressHextets hlen hlt
  have habsent : ∀ c, hexVal c = none → ∀ part ∈ compressHextets (digitsBE 65536 8 v), c ∉ part := by
    intro c hc part hpart hmem
    have hsome := hhex part hpart c hmem
    rw [hc] at hsome
    cases hsome
  have hne : compressHextets (digitsBE 65536 8 v) ≠ [] := by
    intro hnil
    rw [hnil] at hthree
    cases hthree
  have hexpand : expandSuffix (compressHextets (digitsBE 65536 8 v)) =
      some (compressHextets (digitsBE 65536 8 v)) := by
    unfold expandSuffix
    split
    · rfl
    · next part hlast => rw [if_neg (habsent '.' rfl part (List.mem_of_getLast? hlast))]
  unfold parseIpv6 ipv6Chars
  dsimp only
  rw [List.splitOn_intercalate _ (habsent ':' rfl) hne, if_neg (by omega), hexpand]
  simp only [Option.bind_eq_bind, Option.bind_some, hread, Option.some.injEq]
  apply ofDigitsBE_digitsBE
  exact h

/-! ## Addresses and networks read back -/

/-- The zone is one that a text can carry. -/
def IpAddress.ZoneReadable (a : IpAddress) : Prop :=
  ∀ zone ∈ a.zone, a.version = .v6 ∧ zone ≠ [] ∧ '%' ∉ zone ∧ '/' ∉ zone

/-- The part before the separator and the part after it. -/
theorem splitOn_pair {l r : List Char} {c : Char} (hl : c ∉ l) (hr : c ∉ r) :
    (l ++ c :: r).splitOn c = [l, r] := by
  have hpair : ∀ part ∈ [l, r], c ∉ part := by
    intro part hpart
    rcases List.mem_cons.mp hpart with rfl | hpart
    · exact hl
    · rwa [List.mem_singleton.mp hpart]
  have hsplit := List.splitOn_intercalate c hpair (List.cons_ne_nil _ _)
  simpa using hsplit

theorem mkAddress_value (a : IpAddress) : mkAddress a.version a.value a.zone = some a := by
  unfold mkAddress
  rw [dif_pos a.value_lt]

/-- The characters of a hextet text are no separators of scoped texts and networks. -/
theorem ipv6Chars_chars {v : Nat} (h : v < 2 ^ 128) :
    ':' ∈ ipv6Chars v ∧ '%' ∉ ipv6Chars v ∧ '/' ∉ ipv6Chars v := by
  have hread := parseIpv6_ipv6Chars h
  have habsent : ∀ c, hexVal c = none → c ≠ ':' → c ≠ '.' → c ∉ ipv6Chars v := by
    intro c hhex hcolon hdot hmem
    rcases parseIpv6_charset hread hmem with hc | hc | hc
    · rw [hhex] at hc
      cases hc
    · exact hcolon hc
    · exact hdot hc
  exact ⟨parseIpv6_chars hread, habsent '%' rfl (by decide) (by decide),
    habsent '/' rfl (by decide) (by decide)⟩

/-- A text with a colon is no IPv4 address. -/
theorem parseAddress4_of_colon {l : List Char} (h : ':' ∈ l) : parseAddress4 l = none := by
  cases hread : parseIpv4 l with
  | none => simp [parseAddress4, hread]
  | some v =>
    rcases parseIpv4_chars hread ':' h with hc | hc
    · exact absurd hc (by decide)
    · exact absurd hc (by decide)

/-- How the text of an address reads, by its version. -/
theorem parseAddress_chars {a : IpAddress} (h : a.ZoneReadable) :
    '/' ∉ a.chars ∧
      ((a.version = .v4 ∧ parseAddress4 a.chars = some a) ∨
        (a.version = .v6 ∧ parseAddress4 a.chars = none ∧ parseAddress6 a.chars = some a)) := by
  obtain ⟨version, value, zone, hlt⟩ := a
  cases version with
  | v4 =>
    have hzone : zone = none := by
      rw [Option.eq_none_iff_forall_not_mem]
      intro z hz
      exact absurd (h z hz).1 (by simp)
    subst hzone
    have hread := parseIpv4_ipv4Chars hlt
    have hslash : '/' ∉ ipv4Chars value := by
      intro hmem
      rcases parseIpv4_chars hread '/' hmem with hc | hc
      · exact absurd hc (by decide)
      · exact absurd hc (by decide)
    refine ⟨hslash, .inl ⟨rfl, ?_⟩⟩
    simp only [IpAddress.chars, parseAddress4, hread, Option.bind_some]
    exact mkAddress_value ⟨.v4, value, none, hlt⟩
  | v6 =>
    have hread := parseIpv6_ipv6Chars hlt
    obtain ⟨hcolon, hpercent, hslash⟩ := ipv6Chars_chars hlt
    cases zone with
    | none =>
      have hchars : IpAddress.chars ⟨.v6, value, none, hlt⟩ = ipv6Chars value := by
        simp [IpAddress.chars]
      have hsplit : splitZone (ipv6Chars value) = some (ipv6Chars value, none) := by
        unfold splitZone
        rw [List.splitOn_eq_singleton hpercent]
      rw [hchars]
      refine ⟨hslash, .inr ⟨rfl, parseAddress4_of_colon hcolon, ?_⟩⟩
      simp only [parseAddress6, hsplit, hread, Option.bind_eq_bind, Option.bind_some]
      exact mkAddress_value ⟨.v6, value, none, hlt⟩
    | some zone =>
      obtain ⟨-, hne, hzpercent, hzslash⟩ := h zone rfl
      have hchars : IpAddress.chars ⟨.v6, value, some zone, hlt⟩ =
          ipv6Chars value ++ '%' :: zone := by
        simp [IpAddress.chars]
      have hsplit : splitZone (ipv6Chars value ++ '%' :: zone) =
          some (ipv6Chars value, some zone) := by
        unfold splitZone
        rw [splitOn_pair hpercent hzpercent]
        dsimp only
        rw [if_neg hne]
      have hnoslash : '/' ∉ ipv6Chars value ++ '%' :: zone := by
        simp [hslash, hzslash]
      rw [hchars]
      refine ⟨hnoslash, .inr ⟨rfl, parseAddress4_of_colon (List.mem_append_left _ hcolon), ?_⟩⟩
      simp only [parseAddress6, hsplit, hread, Option.bind_eq_bind, Option.bind_some]
      exact mkAddress_value ⟨.v6, value, some zone, hlt⟩

/-- **The text of an address reads as the address.** -/
theorem ipAddress_str {a : IpAddress} (h : a.ZoneReadable) : ipAddress a.str = some a := by
  obtain ⟨hslash, hread⟩ := parseAddress_chars h
  unfold ipAddress IpAddress.str
  rw [String.toList_ofList]
  dsimp only
  rw [if_neg hslash]
  rcases hread with ⟨-, hfour⟩ | ⟨-, hfour, hsix⟩
  · rw [hfour]
    rfl
  · rw [hfour, hsix]
    rfl

/-- A network is the network of its first address and its prefix length. -/
theorem mkNetwork_networkAddress (n : IpNetwork) :
    mkNetwork n.networkAddress n.prefixlen = some n := by
  have hpos : 0 < 2 ^ (n.version.bits - n.prefixlen) := Nat.two_pow_pos _
  have hle : n.prefixlen ≤ n.networkAddress.version.bits := n.prefixlen_le
  unfold mkNetwork
  rw [dif_pos hle]
  simp only [IpNetwork.ofAddress, IpNetwork.networkAddress, IpNetwork.hostBits,
    Nat.mul_div_cancel _ hpos, Nat.mul_mod_left, if_true]

theorem bits_le (v : IpVersion) : v.bits ≤ 128 := by
  cases v <;> simp [IpVersion.bits]

/-- **The text of a network reads as the network.** -/
theorem ipNetwork_str {n : IpNetwork} (h : n.networkAddress.ZoneReadable) :
    ipNetwork n.str = some n := by
  obtain ⟨hslash, hread⟩ := parseAddress_chars h
  have hle := n.prefixlen_le
  have hlt : n.prefixlen < 1000 := by
    have := bits_le n.version
    omega
  have hprefix := parsePrefix_decChars hle hlt
  have hsplit : (n.networkAddress.chars ++ '/' :: decChars n.prefixlen).splitOn '/' =
      [n.networkAddress.chars, decChars n.prefixlen] :=
    splitOn_pair hslash (not_mem_decChars hlt rfl)
  have hnetwork := mkNetwork_networkAddress n
  unfold ipNetwork IpNetwork.str
  rw [String.toList_ofList]
  dsimp only
  rcases hread with ⟨hversion, hfour⟩ | ⟨hversion, hfour, hsix⟩
  · have hv : n.version = .v4 := hversion
    rw [hv] at hprefix
    simp only [IpVersion.bits] at hprefix
    unfold parseNetwork4
    rw [hsplit]
    simp only [hfour, hprefix, Option.bind_eq_bind, Option.bind_some, Option.orElse_some, hnetwork]
  · have hv : n.version = .v6 := hversion
    rw [hv] at hprefix
    simp only [IpVersion.bits] at hprefix
    unfold parseNetwork4 parseNetwork6
    rw [hsplit]
    simp only [hfour, hsix, hprefix, Option.bind_eq_bind, Option.bind_some, Option.bind_none,
      Option.orElse_none, hnetwork]

/-- The network of one address. -/
def hostNetwork (a : IpAddress) : IpNetwork := IpNetwork.ofAddress a a.version.bits le_rfl

theorem networkAddress_hostNetwork (a : IpAddress) : (hostNetwork a).networkAddress = a := by
  obtain ⟨version, value, zone, hlt⟩ := a
  simp [hostNetwork, IpNetwork.ofAddress, IpNetwork.networkAddress, IpNetwork.hostBits, Nat.mod_one]

theorem mem_hostNetwork {a : IpAddress} {x : Nat} : x ∈ (hostNetwork a).block ↔ a.value = x := by
  simp only [hostNetwork, IpNetwork.ofAddress, IpNetwork.block, IpNetwork.hostBits,
    Cidr.Block.mem_def, Nat.sub_self, pow_zero, Nat.div_one]
  exact eq_comm

/-- An address text with its full prefix length is the network of the address. -/
theorem ipNetwork_host {a : IpAddress} (h : a.ZoneReadable) :
    ipNetwork (a.str ++ if a.version = .v4 then "/32" else "/128") = some (hostNetwork a) := by
  have hreadable : (hostNetwork a).networkAddress.ZoneReadable := by
    rw [networkAddress_hostNetwork]
    exact h
  have hlength : (hostNetwork a).prefixlen = a.version.bits := rfl
  have htext : String.ofList ('/' :: decChars a.version.bits) =
      if a.version = .v4 then "/32" else "/128" := by
    cases a.version <;> rfl
  have hstr : a.str ++ (if a.version = .v4 then "/32" else "/128") = (hostNetwork a).str := by
    rw [IpNetwork.str, networkAddress_hostNetwork, hlength, String.ofList_append, htext]
    rfl
  rw [hstr]
  exact ipNetwork_str hreadable

/-! ## The zones of texts that were read -/

/-- A part has no separator in it. -/
theorem not_mem_of_mem_splitOn {a : Char} {l part : List Char} (h : part ∈ l.splitOn a) :
    a ∉ part := by
  induction l generalizing part with
  | nil =>
    rw [List.splitOn_nil, List.mem_singleton] at h
    subst h
    exact List.not_mem_nil
  | cons d l ih =>
    rw [List.splitOn_cons_eq_if_modifyHead] at h
    by_cases hd : d = a
    · rw [if_pos (by simpa using hd)] at h
      rcases List.mem_cons.mp h with rfl | h
      · exact List.not_mem_nil
      · exact ih h
    · rw [if_neg (by simpa using hd)] at h
      obtain ⟨first, rest, hsplit⟩ := List.exists_cons_of_ne_nil (List.splitOn_ne_nil a l)
      rw [hsplit] at ih h
      rw [List.modifyHead_cons] at h
      rcases List.mem_cons.mp h with rfl | h
      · intro hmem
        rcases List.mem_cons.mp hmem with heq | hmem
        · exact hd heq.symm
        · exact ih List.mem_cons_self hmem
      · exact ih (List.mem_cons_of_mem _ h)

theorem mkAddress_eq_some {version : IpVersion} {value : Nat} {zone : Option (List Char)}
    {a : IpAddress} (h : mkAddress version value zone = some a) :
    a.version = version ∧ a.zone = zone := by
  unfold mkAddress at h
  split_ifs at h
  cases h
  exact ⟨rfl, rfl⟩

theorem splitZone_zone {l addr zone : List Char} (h : splitZone l = some (addr, some zone)) :
    zone ≠ [] ∧ zone ∈ l.splitOn '%' := by
  unfold splitZone at h
  split at h
  · cases h
  · next hsplit =>
    split_ifs at h with hne
    cases h
    exact ⟨hne, by simp [hsplit]⟩
  · cases h

theorem zoneReadable_of_parse4 {l : List Char} {a : IpAddress} (h : parseAddress4 l = some a) :
    a.ZoneReadable := by
  obtain ⟨v, -, hv⟩ := Option.bind_eq_some_iff.mp h
  intro zone hzone
  rw [(mkAddress_eq_some hv).2] at hzone
  cases hzone

theorem zoneReadable_of_parse6 {l : List Char} {a : IpAddress} (hslash : '/' ∉ l)
    (h : parseAddress6 l = some a) : a.ZoneReadable := by
  simp only [parseAddress6, Option.bind_eq_bind, Option.bind_eq_some_iff] at h
  obtain ⟨⟨addr, zone⟩, hsplit, v, -, hv⟩ := h
  obtain ⟨hversion, hzone⟩ := mkAddress_eq_some hv
  intro z hz
  have hsome : zone = some z := hzone.symm.trans hz
  rw [hsome] at hsplit
  obtain ⟨hne, hmem⟩ := splitZone_zone hsplit
  exact ⟨hversion, hne, not_mem_of_mem_splitOn hmem, fun hc => hslash (mem_of_mem_splitOn hmem hc)⟩

/-- The zone of an address that was read can be written. -/
theorem zoneReadable_of_ipAddress {s : String} {a : IpAddress} (h : ipAddress s = some a) :
    a.ZoneReadable := by
  unfold ipAddress at h
  dsimp only at h
  split_ifs at h with hslash
  cases hfour : parseAddress4 s.toList with
  | some b =>
    rw [hfour] at h
    cases h
    exact zoneReadable_of_parse4 hfour
  | none =>
    rw [hfour] at h
    exact zoneReadable_of_parse6 hslash h

/-! ## Texts without a zone -/

theorem splitZone_of_not_mem {l : List Char} (h : '%' ∉ l) : splitZone l = some (l, none) := by
  unfold splitZone
  rw [List.splitOn_eq_singleton h]

theorem zone_of_parse4 {l : List Char} {a : IpAddress} (h : parseAddress4 l = some a) :
    a.zone = none := by
  obtain ⟨v, -, hv⟩ := Option.bind_eq_some_iff.mp h
  exact (mkAddress_eq_some hv).2

theorem zone_of_parse6 {l : List Char} {a : IpAddress} (hpercent : '%' ∉ l)
    (h : parseAddress6 l = some a) : a.zone = none := by
  unfold parseAddress6 at h
  rw [splitZone_of_not_mem hpercent] at h
  simp only [Option.bind_eq_bind, Option.bind_some, Option.bind_eq_some_iff] at h
  obtain ⟨v, -, hv⟩ := h
  exact (mkAddress_eq_some hv).2

theorem zone_of_ipAddress {s : String} {a : IpAddress} (hpercent : '%' ∉ s.toList)
    (h : ipAddress s = some a) : a.zone = none := by
  unfold ipAddress at h
  dsimp only at h
  split_ifs at h
  cases hfour : parseAddress4 s.toList with
  | some b =>
    rw [hfour] at h
    cases h
    exact zone_of_parse4 hfour
  | none =>
    rw [hfour] at h
    exact zone_of_parse6 hpercent h

theorem mkNetwork_zone {a : IpAddress} {p : Nat} {n : IpNetwork} (h : mkNetwork a p = some n)
    (hz : a.zone = none) : n.zone = none := by
  unfold mkNetwork at h
  split_ifs at h
  cases h
  simp [IpNetwork.ofAddress, hz]

theorem zone_of_network4 {l : List Char} {n : IpNetwork} (h : parseNetwork4 l = some n) :
    n.zone = none := by
  unfold parseNetwork4 at h
  split at h
  · obtain ⟨a, ha, hn⟩ := Option.bind_eq_some_iff.mp h
    exact mkNetwork_zone hn (zone_of_parse4 ha)
  · simp only [Option.bind_eq_bind, Option.bind_eq_some_iff] at h
    obtain ⟨a, ha, p, -, hn⟩ := h
    exact mkNetwork_zone hn (zone_of_parse4 ha)
  · cases h

theorem zone_of_network6 {l : List Char} {n : IpNetwork} (hpercent : '%' ∉ l)
    (h : parseNetwork6 l = some n) : n.zone = none := by
  have hparts : ∀ part ∈ l.splitOn '/', '%' ∉ part :=
    fun part hpart hmem => hpercent (mem_of_mem_splitOn hpart hmem)
  unfold parseNetwork6 at h
  split at h
  · next addr hsplit =>
    obtain ⟨a, ha, hn⟩ := Option.bind_eq_some_iff.mp h
    exact mkNetwork_zone hn (zone_of_parse6 (hparts addr (by simp [hsplit])) ha)
  · next addr mask hsplit =>
    simp only [Option.bind_eq_bind, Option.bind_eq_some_iff] at h
    obtain ⟨a, ha, p, -, hn⟩ := h
    exact mkNetwork_zone hn (zone_of_parse6 (hparts addr (by simp [hsplit])) ha)
  · cases h

/-- A network text without `%` is of a network without a zone. -/
theorem zone_of_ipNetwork {s : String} {n : IpNetwork} (hpercent : '%' ∉ s.toList)
    (h : ipNetwork s = some n) : n.zone = none := by
  unfold ipNetwork at h
  dsimp only at h
  cases hfour : parseNetwork4 s.toList with
  | some m =>
    rw [hfour] at h
    cases h
    exact zone_of_network4 hfour
  | none =>
    rw [hfour] at h
    exact zone_of_network6 hpercent h

/-- An unzoned address can be written. -/
theorem zoneReadable_of_none {a : IpAddress} (h : a.zone = none) : a.ZoneReadable := by
  intro zone hzone
  rw [h] at hzone
  cases hzone

theorem isSpace_of_hexVal {c : Char} (h : (hexVal c).isSome = true) : isSpace c = false := by
  apply isSpace_of_isAlnum
  unfold hexVal at h
  unfold isAlnum isLower isUpper
  split_ifs at h with hdigit hlower hupper
  · simp [hdigit]
  · have hz : c ≤ 'z' := le_trans hlower.2 (by decide)
    simp [hlower.1, hz]
  · have hz : c ≤ 'Z' := le_trans hupper.2 (by decide)
    simp [hupper.1, hz]
  · exact absurd h (by simp)

/-- The text of an unzoned address has no white space, and is not empty. -/
theorem chars_noSpace {a : IpAddress} (h : a.zone = none) :
    a.chars ≠ [] ∧ ∀ c ∈ a.chars, isSpace c = false := by
  obtain ⟨version, value, zone, hlt⟩ := a
  cases h
  cases version with
  | v4 =>
    have hread := parseIpv4_ipv4Chars hlt
    refine ⟨?_, ?_⟩
    · intro hnil
      have hempty : ipv4Chars value = [] := hnil
      rw [hempty] at hread
      exact absurd hread (by simp [parseIpv4])
    · intro c hc
      rcases parseIpv4_chars hread c hc with hdigit | rfl
      · exact isSpace_of_isAlnum (by simp [isAlnum, hdigit])
      · rfl
  | v6 =>
    have hread := parseIpv6_ipv6Chars hlt
    have hchars : IpAddress.chars ⟨.v6, value, none, hlt⟩ = ipv6Chars value := by
      simp [IpAddress.chars]
    rw [hchars]
    refine ⟨List.ne_nil_of_mem (parseIpv6_chars hread), ?_⟩
    intro c hc
    rcases parseIpv6_charset hread hc with hhex | rfl | rfl
    · exact isSpace_of_hexVal hhex
    · rfl
    · rfl

theorem isSpace_of_isDigit {c : Char} (h : isDigit c = true) : isSpace c = false :=
  isSpace_of_isAlnum (by simp [isAlnum, h])

end NightRecon.Lib.Ipaddress
