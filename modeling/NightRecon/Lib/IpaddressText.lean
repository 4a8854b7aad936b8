import NightRecon.Lib.Ipaddress

/-!
# The texts of IP addresses

* `ipAddress_chars` — an address text has a colon, or consists of digits and dots.
-/

namespace NightRecon.Lib.Ipaddress

open NightRecon.Lib.Text

/-! ## The characters of address texts -/

theorem parseOctet_chars {l : List Char} {n : Nat} (h : parseOctet l = some n) :
    ∀ c ∈ l, isDigit c = true := by
  unfold parseOctet at h
  split at h
  · next hl => exact List.all_eq_true.mp hl.2.1
  · exact absurd h (by simp)

theorem mem_of_mapM {α β : Type} {f : α → Option β} {l : List α} {r : List β}
    (h : l.mapM f = some r) : ∀ a ∈ l, ∃ b, f a = some b := by
  induction l generalizing r with
  | nil => exact fun a ha => absurd ha List.not_mem_nil
  | cons x l ih =>
    simp only [List.mapM_cons, Option.bind_eq_bind, Option.bind_eq_some_iff] at h
    obtain ⟨b, hb, rs, hrs, -⟩ := h
    intro a ha
    rcases List.mem_cons.mp ha with rfl | ha
    · exact ⟨b, hb⟩
    · exact ih hrs a ha

/-- A dotted-decimal text consists of digits and dots. -/
theorem parseIpv4_chars {l : List Char} {v : Nat} (h : parseIpv4 l = some v) :
    ∀ c ∈ l, isDigit c = true ∨ c = '.' := by
  unfold parseIpv4 at h
  dsimp only at h
  split at h
  · intro c hc
    obtain ⟨octets, hoctets, -⟩ := Option.map_eq_some_iff.mp h
    rcases mem_splitOn (a := '.') hc with hdot | ⟨part, hpart, hmem⟩
    · exact Or.inr hdot
    · obtain ⟨n, hn⟩ := mem_of_mapM hoctets part hpart
      exact Or.inl (parseOctet_chars hn c hmem)
  · exact absurd h (by simp)

/-- A hextet text has a colon. -/
theorem parseIpv6_chars {l : List Char} {v : Nat} (h : parseIpv6 l = some v) : ':' ∈ l := by
  by_contra hnot
  rw [parseIpv6, List.splitOn_eq_singleton hnot] at h
  simp at h

/-- The address part of a scoped text is part of the text. -/
theorem splitZone_chars {l addr : List Char} {zone : Option (List Char)}
    (h : splitZone l = some (addr, zone)) : ∀ c ∈ addr, c ∈ l := by
  have hpart : addr ∈ l.splitOn '%' := by
    unfold splitZone at h
    split at h
    · next hsplit =>
      simp only [Option.some.injEq, Prod.mk.injEq] at h
      rw [hsplit, ← h.1]
      exact List.mem_cons_self
    · next hsplit =>
      split at h
      · exact absurd h (by simp)
      · simp only [Option.some.injEq, Prod.mk.injEq] at h
        rw [hsplit, ← h.1]
        exact List.mem_cons_self
    · exact absurd h (by simp)
  exact fun c hc => mem_of_mem_splitOn hpart hc

/-- **An address text has a colon, or consists of digits and dots.** -/
theorem ipAddress_chars {s : String} {a : IpAddress} (h : ipAddress s = some a) :
    ':' ∈ s.toList ∨ ∀ c ∈ s.toList, isDigit c = true ∨ c = '.' := by
  unfold ipAddress at h
  dsimp only at h
  split at h
  · exact absurd h (by simp)
  · cases h4 : parseAddress4 s.toList with
    | some b =>
      obtain ⟨v, hv, -⟩ := Option.bind_eq_some_iff.mp h4
      exact Or.inr (parseIpv4_chars hv)
    | none =>
      rw [h4] at h
      have h6 : parseAddress6 s.toList = some a := h
      simp only [parseAddress6, Option.bind_eq_bind, Option.bind_eq_some_iff] at h6
      obtain ⟨⟨addr, zone⟩, hzone, v, hv, -⟩ := h6
      exact Or.inl (splitZone_chars hzone _ (parseIpv6_chars hv))

end NightRecon.Lib.Ipaddress
