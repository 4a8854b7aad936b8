import NightRecon.Lib.Text

/-!
# POSIX paths

A relative path is the list of its components.

* `posixParts`, `posixStr` — the components of a text, and the text of components, as
  `PurePosixPath(text).parts` and `str` of the path;
* `IsComponent` — what every component of a parsed path is; `mem_posixParts`;
* `posixParts_posixStr` — components with that form are read back from their text.
-/

namespace NightRecon.Lib.PurePosixPath

/-- A relative path: its components. -/
abbrev Path := List String

/-- The components of a text: empty ones and `.` are dropped. -/
def posixParts (text : String) : Path :=
  ((text.toList.splitOn '/').map String.ofList).filter fun c => c ≠ "" ∧ c ≠ "."

/-- The text of a relative path. -/
def posixStr (parts : Path) : String :=
  if parts = [] then "." else String.ofList (['/'].intercalate (parts.map String.toList))

/-- The text is of an absolute path. -/
def isAbsolute (text : String) : Prop := text.toList.head? = some '/'

instance (text : String) : Decidable (isAbsolute text) := inferInstanceAs (Decidable (_ = _))

/-- One component of a path that was read from a text. -/
structure IsComponent (c : String) : Prop where
  nonempty : c ≠ ""
  notDot : c ≠ "."
  noSeparator : '/' ∉ c.toList

/-- No part of a split holds the separator. -/
theorem not_mem_of_mem_splitOn {a : Char} {l part : List Char} (h : part ∈ l.splitOn a) :
    a ∉ part := by
  induction l generalizing part with
  | nil =>
    rw [List.splitOn_nil, List.mem_singleton] at h
    rw [h]
    exact List.not_mem_nil
  | cons d l ih =>
    rw [List.splitOn_cons_eq_if_modifyHead] at h
    by_cases hd : d = a
    · rw [if_pos (by simpa using hd)] at h
      rcases List.mem_cons.mp h with rfl | h
      · exact List.not_mem_nil
      · exact ih h
    · rw [if_neg (by simpa using hd)] at h
      obtain ⟨first, rest, hsplit⟩ := List.exists_cons_of_ne_nil (List.splitOn_ne_nil a l)
      rw [hsplit, List.modifyHead_cons] at h
      rcases List.mem_cons.mp h with rfl | h
      · rw [List.mem_cons, not_or]
        refine ⟨fun heq => hd heq.symm, ih ?_⟩
        rw [hsplit]
        exact List.mem_cons_self
      · apply ih
        rw [hsplit]
        exact List.mem_cons_of_mem _ h

theorem mem_posixParts {text c : String} (h : c ∈ posixParts text) : IsComponent c := by
  obtain ⟨hmem, hkeep⟩ := List.mem_filter.mp h
  obtain ⟨part, hpart, rfl⟩ := List.mem_map.mp hmem
  have hne := of_decide_eq_true hkeep
  refine ⟨hne.1, hne.2, ?_⟩
  rw [String.toList_ofList]
  exact not_mem_of_mem_splitOn hpart

/-- **Components are read back from their text.** -/
theorem posixParts_posixStr {parts : Path} (h : ∀ c ∈ parts, IsComponent c) :
    posixParts (posixStr parts) = parts := by
  by_cases hnil : parts = []
  · subst hnil
    decide
  · have hsplit : (['/'].intercalate (parts.map String.toList)).splitOn '/' =
        parts.map String.toList := by
      apply List.splitOn_intercalate
      · intro l hl
        obtain ⟨c, hc, rfl⟩ := List.mem_map.mp hl
        exact (h c hc).noSeparator
      · simpa using hnil
    have hkeep : ∀ c ∈ parts, decide (c ≠ "" ∧ c ≠ ".") = true := by
      intro c hc
      exact decide_eq_true ⟨(h c hc).nonempty, (h c hc).notDot⟩
    rw [posixStr, if_neg hnil, posixParts, String.toList_ofList, hsplit, List.map_map]
    simpa [Function.comp_def] using hkeep

end NightRecon.Lib.PurePosixPath
