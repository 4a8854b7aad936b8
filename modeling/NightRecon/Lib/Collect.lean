import NightRecon.Lib.Checks

/-!
# Loops that collect

A loop over a list whose turns each add things to what has been collected so far.

* `foldlM_collects`, `foldl_collects` — after the loop there is what was there before, and what
  some turn added;
* `foldlM_keeps` — what every successful turn keeps is kept by the loop;
* `foldlM_turn` — a loop that returns has made every turn;
* `foldlM_induct_mem` — an invariant of the turns of the list;
* `forIn_induct` — the invariant rule for a loop with breaks;
* `mem_of_mapM`, `mapM_turn`, `mapM_of` — what a reading loop gives was read, and all of it;
* `foldlM_returns_iff`, `mapM_returns` — when a loop returns;
* `forM_eq_ok` — a loop that only checks returns when every element passes.
-/

namespace NightRecon.Lib.Collect

open NightRecon.Lib.Checks

variable {ε σ α β : Type} {Has : σ → β → Prop} {Adds : α → β → Prop}

/-- **After a loop that may raise.** -/
theorem foldlM_collects {f : σ → α → Except ε σ}
    (hstep : ∀ s a s', f s a = .ok s' → ∀ b, Has s' b ↔ Has s b ∨ Adds a b) {l : List α} {s s' : σ}
    (h : l.foldlM f s = .ok s') (b : β) : Has s' b ↔ Has s b ∨ ∃ a ∈ l, Adds a b := by
  induction l generalizing s with
  | nil =>
    obtain rfl := Except.ok.inj h
    simp
  | cons a l ih =>
    rw [List.foldlM_cons, bind_eq_ok] at h
    obtain ⟨s₁, hturn, hrest⟩ := h
    rw [ih hrest, hstep s a s₁ hturn, or_assoc, List.exists_mem_cons_iff]

/-- **After a loop that cannot raise.** -/
theorem foldl_collects {f : σ → α → σ} (hstep : ∀ s a b, Has (f s a) b ↔ Has s b ∨ Adds a b)
    (l : List α) (s : σ) (b : β) : Has (l.foldl f s) b ↔ Has s b ∨ ∃ a ∈ l, Adds a b := by
  induction l generalizing s with
  | nil => simp
  | cons a l ih => rw [List.foldl_cons, ih, hstep, or_assoc, List.exists_mem_cons_iff]

/-- What every turn keeps is kept by the loop. -/
theorem foldlM_keeps {f : σ → α → Except ε σ} {γ : Type} {read : σ → γ}
    (hstep : ∀ s a s', f s a = .ok s' → read s' = read s) {l : List α} {s s' : σ}
    (h : l.foldlM f s = .ok s') : read s' = read s := by
  induction l generalizing s with
  | nil =>
    obtain rfl := Except.ok.inj h
    rfl
  | cons a l ih =>
    rw [List.foldlM_cons, bind_eq_ok] at h
    obtain ⟨s₁, hturn, hrest⟩ := h
    rw [ih hrest, hstep s a s₁ hturn]

/-- A loop that returns has made every turn. -/
theorem foldlM_turn {f : σ → α → Except ε σ} {l : List α} {s s' : σ}
    (h : l.foldlM f s = .ok s') {a : α} (ha : a ∈ l) : ∃ s₁ s₂, f s₁ a = .ok s₂ := by
  induction l generalizing s with
  | nil => exact absurd ha List.not_mem_nil
  | cons a' l ih =>
    rw [List.foldlM_cons, bind_eq_ok] at h
    obtain ⟨s₁, hturn, hrest⟩ := h
    rcases List.mem_cons.mp ha with rfl | ha
    · exact ⟨s, s₁, hturn⟩
    · exact ih hrest ha

/-- What every turn of a loop keeps holds after it. -/
theorem foldlM_induct_mem {f : σ → α → Except ε σ} {P : σ → Prop} {l : List α}
    (hstep : ∀ a ∈ l, ∀ s s', P s → f s a = .ok s' → P s') {s s' : σ} (hs : P s)
    (h : l.foldlM f s = .ok s') : P s' := by
  induction l generalizing s with
  | nil => exact Except.ok.inj h ▸ hs
  | cons a l ih =>
    rw [List.foldlM_cons, bind_eq_ok] at h
    obtain ⟨s₁, hturn, h⟩ := h
    exact ih (fun b hb => hstep b (List.mem_cons_of_mem _ hb))
      (hstep a List.mem_cons_self s s₁ hs hturn) h

/-- **The invariant rule for a loop with breaks**: the loop made every turn, or one broke it off. -/
theorem forIn_induct {f : α → σ → Except ε (ForInStep σ)} {P : List α → σ → Prop} {Q : σ → Prop}
    (hyield : ∀ made a s s', P made s → f a s = .ok (.yield s') → P (made ++ [a]) s')
    (hdone : ∀ made a s s', P made s → f a s = .ok (.done s') → Q s') {l : List α} {s s' : σ}
    (hs : P [] s) (h : forIn l s f = .ok s') : P l s' ∨ Q s' := by
  have hgeneral : ∀ (l made : List α) (s : σ), P made s → forIn l s f = .ok s' →
      P (made ++ l) s' ∨ Q s' := by
    intro l
    induction l with
    | nil =>
      intro made s hs h
      obtain rfl := Except.ok.inj h
      rw [List.append_nil]
      exact .inl hs
    | cons a l ih =>
      intro made s hs h
      rw [List.forIn_cons, bind_eq_ok] at h
      obtain ⟨turn, hturn, h⟩ := h
      cases turn with
      | done s₁ =>
        obtain rfl := Except.ok.inj h
        exact .inr (hdone made a s s₁ hs hturn)
      | yield s₁ =>
        have hrest := ih (made ++ [a]) s₁ (hyield made a s s₁ hs hturn) h
        rwa [List.append_assoc, List.singleton_append] at hrest
  exact hgeneral l [] s hs h

/-- What a reading loop gives was read. -/
theorem mem_of_mapM {β : Type} {f : α → Except ε β} {l : List α} {r : List β}
    (h : l.mapM f = .ok r) {b : β} (hb : b ∈ r) : ∃ a ∈ l, f a = .ok b := by
  have hpairs := mapM_eq_ok.mp h
  induction hpairs with
  | nil => exact absurd hb List.not_mem_nil
  | cons ha _ ih =>
    rcases List.mem_cons.mp hb with rfl | hb
    · exact ⟨_, List.mem_cons_self, ha⟩
    · obtain ⟨a, hmem, ha⟩ := ih (mapM_eq_ok.mpr ‹_›) hb
      exact ⟨a, List.mem_cons_of_mem _ hmem, ha⟩

/-- What a reading loop read it gives. -/
theorem mapM_turn {β : Type} {f : α → Except ε β} {l : List α} {r : List β}
    (h : l.mapM f = .ok r) {a : α} (ha : a ∈ l) : ∃ b ∈ r, f a = .ok b := by
  have hpairs := mapM_eq_ok.mp h
  induction hpairs with
  | nil => exact absurd ha List.not_mem_nil
  | cons hb hrest ih =>
    rcases List.mem_cons.mp ha with rfl | ha
    · exact ⟨_, List.mem_cons_self, hb⟩
    · obtain ⟨b, hmem, hb⟩ := ih (mapM_eq_ok.mpr hrest) ha
      exact ⟨b, List.mem_cons_of_mem _ hmem, hb⟩

theorem mapM_of {β : Type} {f : α → Except ε β} {g : α → β} {l : List α}
    (h : ∀ a ∈ l, f a = .ok (g a)) : l.mapM f = .ok (l.map g) := by
  rw [mapM_eq_ok, List.forall₂_map_right_iff]
  exact List.forall₂_same.mpr h

/-- **When a loop returns** whose turns return or not whatever has been collected. -/
theorem foldlM_returns_iff {f : σ → α → Except ε σ} {P : α → Prop}
    (hstep : ∀ a s, (∃ s', f s a = .ok s') ↔ P a) (l : List α) (s : σ) :
    (∃ s', l.foldlM f s = .ok s') ↔ ∀ a ∈ l, P a := by
  induction l generalizing s with
  | nil => exact iff_of_true ⟨s, rfl⟩ fun a ha => absurd ha List.not_mem_nil
  | cons a l ih =>
    rw [List.forall_mem_cons, List.foldlM_cons]
    constructor
    · rintro ⟨s', hs'⟩
      obtain ⟨s₁, hturn, hrest⟩ := bind_eq_ok.mp hs'
      exact ⟨(hstep a s).mp ⟨s₁, hturn⟩, (ih s₁).mp ⟨s', hrest⟩⟩
    · rintro ⟨ha, hl⟩
      obtain ⟨s₁, hturn⟩ := (hstep a s).mpr ha
      obtain ⟨s', hrest⟩ := (ih s₁).mpr hl
      exact ⟨s', bind_eq_ok.mpr ⟨s₁, hturn, hrest⟩⟩

theorem mapM_returns {β : Type} {f : α → Except ε β} {l : List α}
    (h : ∀ a ∈ l, ∃ b, f a = .ok b) : ∃ r, l.mapM f = .ok r := by
  induction l with
  | nil => exact ⟨[], rfl⟩
  | cons a l ih =>
    obtain ⟨⟨b, hb⟩, hl⟩ := List.forall_mem_cons.mp h
    obtain ⟨r, hr⟩ := ih hl
    rw [List.mapM_cons, hb, ok_bind, hr, ok_bind]
    exact ⟨b :: r, rfl⟩

/-- **A loop that only checks.** -/
theorem forM_eq_ok {f : α → Except ε Unit} {l : List α} :
    l.forM f = .ok () ↔ ∀ a ∈ l, f a = .ok () := by
  induction l with
  | nil => exact iff_of_true rfl fun a ha => absurd ha List.not_mem_nil
  | cons a l ih =>
    rw [List.forall_mem_cons, ← ih]
    exact unit_bind_eq_ok

end NightRecon.Lib.Collect
