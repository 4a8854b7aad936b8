import NightRecon.Lib.IpaddressText
import NightRecon.SharedCore.Authorization

/-!
# The normal form of targets

* `parseTarget_value` — the value of a parsed target parses to the same target: records that
  store the value of a parsed target may be read again and again.
-/

namespace NightRecon.SharedCore.Authorization

open NightRecon.Lib.Text
open NightRecon.Lib.Ipaddress

/-- The characters of a host name. -/
theorem isHostname_chars {s : String} (h : isHostname s = true) :
    ∀ c ∈ s.toList, isAlnum c = true ∨ c = '-' ∨ c = '.' := by
  simp only [isHostname, Bool.and_eq_true, List.all_eq_true] at h
  intro c hc
  rcases mem_splitOn (a := '.') hc with hdot | ⟨part, hpart, hmem⟩
  · exact Or.inr (Or.inr hdot)
  · have hlabel := h.2 part hpart
    simp only [isHostLabel, Bool.and_eq_true, List.all_eq_true, Bool.or_eq_true,
      beq_iff_eq] at hlabel
    rcases hlabel.1.1.2 c hmem with hc | hc
    · exact Or.inl hc
    · exact Or.inr (Or.inl hc)

theorem isAlnum_lowerChar (c : Char) : isAlnum (lowerChar c) = true ↔ isAlnum c = true := by
  cases h : isUpper c with
  | true => simp [isAlnum, h, isLower_lowerChar h]
  | false => rw [lowerChar_of_not_upper h]

/-- Lowering a label gives a label. -/
theorem isHostLabel_map {l : List Char} (h : isHostLabel l = true) :
    isHostLabel (l.map lowerChar) = true := by
  have hyphen : ∀ c, lowerChar c = '-' ↔ c = '-' :=
    fun c => lowerChar_eq_iff (by decide) (by decide)
  simp only [isHostLabel, Bool.and_eq_true, List.all_eq_true, Bool.or_eq_true, beq_iff_eq,
    bne_iff_ne, ne_eq, decide_eq_true_eq] at h ⊢
  obtain ⟨⟨⟨hlen, hall⟩, hhead⟩, hlast⟩ := h
  refine ⟨⟨⟨by simpa using hlen, ?_⟩, ?_⟩, ?_⟩
  · intro c hc
    obtain ⟨d, hd, rfl⟩ := List.mem_map.mp hc
    rw [isAlnum_lowerChar, hyphen]
    exact hall d hd
  · rw [List.head?_map]
    intro hmap
    obtain ⟨d, hd, hlow⟩ := Option.map_eq_some_iff.mp hmap
    exact hhead (hd.trans (congrArg some ((hyphen d).mp hlow)))
  · rw [List.getLast?_map]
    intro hmap
    obtain ⟨d, hd, hlow⟩ := Option.map_eq_some_iff.mp hmap
    exact hlast (hd.trans (congrArg some ((hyphen d).mp hlow)))

@[simp] theorem toList_asciiLower (s : String) : (asciiLower s).toList = s.toList.map lowerChar := by
  simp [asciiLower]

theorem isHostname_asciiLower {s : String} (h : isHostname s = true) :
    isHostname (asciiLower s) = true := by
  have hdot : ∀ c, lowerChar c = '.' ↔ c = '.' :=
    fun c => lowerChar_eq_iff (by decide) (by decide)
  simp only [isHostname, Bool.and_eq_true, List.all_eq_true, toList_asciiLower,
    List.length_map, splitOn_map hdot] at h ⊢
  refine ⟨h.1, ?_⟩
  intro l hl
  obtain ⟨part, hpart, rfl⟩ := List.mem_map.mp hl
  exact isHostLabel_map (h.2 part hpart)

/-- The characters of a lowered host name. -/
theorem asciiLower_chars {s : String} (h : isHostname s = true) :
    ∀ c ∈ (asciiLower s).toList, isSpace c = false ∧ c ≠ '/' ∧ c ≠ ':' := by
  intro c hc
  rcases isHostname_chars (isHostname_asciiLower h) c hc with hc | rfl | rfl
  · refine ⟨isSpace_of_isAlnum hc, ?_, ?_⟩
    · rintro rfl
      exact absurd hc (by decide)
    · rintro rfl
      exact absurd hc (by decide)
  · decide
  · decide

/-- Lowering a host name never makes it an address. -/
theorem ipAddress_asciiLower {s : String} (h : isHostname s = true) (hnone : ipAddress s = none) :
    ipAddress (asciiLower s) = none := by
  cases ha : ipAddress (asciiLower s) with
  | none => rfl
  | some a =>
    rcases ipAddress_chars ha with hcolon | hdigits
    · exact absurd rfl (asciiLower_chars h _ hcolon).2.2
    · -- digits and dots are the lower case of themselves only
      have hsame : asciiLower s = s := by
        have hfix : ∀ c ∈ s.toList, lowerChar c = id c := by
          intro c hc
          have hlow : lowerChar c ∈ (asciiLower s).toList := by
            rw [toList_asciiLower]
            exact List.mem_map_of_mem hc
          rcases isLower_or_eq_lowerChar c with hl | heq
          · rcases hdigits _ hlow with hd | hd
            · rw [isLower_of_isDigit hd] at hl
              exact absurd hl Bool.false_ne_true
            · rw [hd] at hl
              exact absurd hl (by decide)
          · exact heq
        rw [asciiLower, List.map_congr_left hfix, List.map_id, String.ofList_toList]
      rw [hsame, hnone] at ha
      exact ha.symm

/-- **The value of a parsed target parses to the same target.** -/
theorem parseTarget_value {value : String} {t : Target} (h : parseTarget value = .ok t) :
    parseTarget t.value = .ok t := by
  have hstrip := strip_strip value
  unfold parseTarget at h
  dsimp only at h
  generalize strip value = s at h hstrip
  split at h
  · exact absurd h (by simp)
  next hne =>
  split at h
  · -- a network keeps its text
    next hslash =>
    split at h
    · next n hn =>
      simp only [Except.ok.injEq] at h
      subst h
      simp [parseTarget, hstrip, hne, hslash, hn]
    · exact absurd h (by simp)
  next hslash =>
  split at h
  · -- an address keeps its text
    next a ha =>
    simp only [Except.ok.injEq] at h
    subst h
    simp [parseTarget, hstrip, hne, hslash, ha]
  next ha =>
  split at h
  · next hhost =>
    simp only [Except.ok.injEq] at h
    subst h
    have hlow := isHostname_asciiLower hhost
    have hchars := asciiLower_chars hhost
    have htrim : strip (asciiLower s) = asciiLower s := strip_eq_self fun c hc => (hchars c hc).1
    have hne' : asciiLower s ≠ "" := by
      intro hempty
      rw [hempty] at hlow
      exact absurd hlow (by decide)
    have hslash' : '/' ∉ (asciiLower s).toList := fun hc => (hchars _ hc).2.1 rfl
    simp only [parseTarget, htrim, if_neg hne', if_neg hslash', ipAddress_asciiLower hhost ha, hlow,
      if_true, asciiLower_asciiLower]
  · exact absurd h (by simp)

end NightRecon.SharedCore.Authorization
