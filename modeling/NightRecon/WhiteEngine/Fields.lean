import NightRecon.Exceptions
import NightRecon.Lib.Datetime
import NightRecon.Lib.Sha256

/-!
# Field checks of the white-engine records

`approval_engine.py`, `audit_log.py` and `evidence_custody.py` check the texts of their records
with the same private functions, each raising its own error class.  Here a check takes the class as
a parameter and hands on the proof of what it checked.

* `isIdentifier` — the pattern of identifiers and roles;
* `checkText`, `checkIdentifier`, `checkSha256` — the checks; each succeeds exactly on the texts
  with its property (`checkText_of`, `checkIdentifier_of`, `checkSha256_of`);
* `iso8601`, `parseTime` — a timestamp text checked, and a text read as an instant;
* `SortedUnique` — a sorted tuple of valid texts without duplicates, built by `sortedUnique`;
* `fingerprint` — the SHA-256 of the canonical JSON text.
-/

namespace NightRecon.WhiteEngine.Fields

open NightRecon.Lib
open NightRecon.Lib.Checks
open NightRecon.Lib.Text
open NightRecon.Lib.Datetime
open NightRecon.Lib.Sha256

/-! ## Texts -/

/-- `_ID_PATTERN.fullmatch` and `_ROLE_PATTERN.fullmatch`. -/
def isIdentifier (s : String) : Bool :=
  match s.toList with
  | [] => false
  | c :: cs =>
      isAlnum c && cs.length ≤ 127 &&
        cs.all fun c => isAlnum c || c == '.' || c == '_' || c == ':' || c == '-'

/-- The characters of an identifier. -/
theorem isIdentifier_chars {s : String} (h : isIdentifier s = true) :
    ∀ c ∈ s.toList, isAlnum c = true ∨ c ∈ ['.', '_', ':', '-'] := by
  unfold isIdentifier at h
  split at h
  · exact absurd h Bool.false_ne_true
  · next c cs hs =>
    simp only [Bool.and_eq_true, List.all_eq_true, Bool.or_eq_true, beq_iff_eq] at h
    obtain ⟨⟨hc, -⟩, hcs⟩ := h
    rw [hs]
    intro d hd
    rcases List.mem_cons.mp hd with rfl | hd
    · exact Or.inl hc
    · have hd' := hcs d hd
      simp only [List.mem_cons, List.not_mem_nil, or_false]
      tauto

/-- An identifier is nonblank and trimmed. -/
theorem requiredText_of_isIdentifier {s : String} (h : isIdentifier s = true) :
    requiredText s := by
  apply requiredText_of_noSpace
  · rintro rfl
    exact absurd h (by decide)
  · intro c hc
    rcases isIdentifier_chars h c hc with hc | hc
    · exact isSpace_of_isAlnum hc
    · simp only [List.mem_cons, List.not_mem_nil, or_false] at hc
      rcases hc with rfl | rfl | rfl | rfl <;> decide

section Checks

variable (cls : ExnClass)

/-- The check `_required_text`. -/
def checkText (value field : String) : Py (PLift (requiredText value)) :=
  prove (requiredText value) ⟨cls, field ++ " must be a nonblank, trimmed string"⟩

/-- The checks `_identifier` and `_role`. -/
def checkIdentifier (value field : String) : Py (PLift (isIdentifier value = true)) := do
  let _ ← checkText cls value field
  prove (isIdentifier value = true) ⟨cls, field ++ " contains unsupported characters"⟩

/-- The check `_sha256`. -/
def checkSha256 (value field : String) : Py (PLift (isSha256Hex value)) := do
  let _ ← checkText cls value field
  prove (isSha256Hex value) ⟨cls, field ++ " must be a lowercase SHA-256"⟩

/-- The check `_iso8601`. -/
def iso8601 (value field : String) : Py Timestamp := do
  let _ ← checkText cls value field
  require (fromisoformat (replaceZ value)).isSome ⟨cls, field ++ " must be ISO-8601"⟩
  getOrRaise (Timestamp.ofText value) ⟨cls, field ++ " must include a timezone"⟩

variable {cls}

theorem checkText_of {value field : String} (h : requiredText value) :
    checkText cls value field = .ok ⟨h⟩ := prove_of h

theorem checkIdentifier_of {value field : String} (h : isIdentifier value = true) :
    checkIdentifier cls value field = .ok ⟨h⟩ := by
  rw [checkIdentifier, checkText_of (requiredText_of_isIdentifier h), ok_bind, prove_of h]

theorem requiredText_of_isSha256Hex {s : String} (h : isSha256Hex s) : requiredText s := by
  apply requiredText_of_noSpace
  · rintro rfl
    exact absurd h.1 (by decide)
  · intro c hc
    have hnone : "0123456789abcdef".toList.all (fun d => !isSpace d) = true := rfl
    exact Bool.not_eq_true' _ |>.mp (List.all_eq_true.mp hnone c (h.2 c hc))

/-- An absent identifier needs no check. -/
theorem noIdentifier : ∀ v ∈ (none : Option String), isIdentifier v = true :=
  fun _ h => absurd h (Option.not_mem_none _)

/-- An absent digest needs no check. -/
theorem noSha256 : ∀ f ∈ (none : Option String), isSha256Hex f :=
  fun _ h => absurd h (Option.not_mem_none _)

/-! A structure takes the proofs its checks gave by these names. -/

theorem identifier_of {v : String} (h : PLift (isIdentifier v = true)) : isIdentifier v = true :=
  h.down

theorem identifier_of_some {v : String} (h : PLift (isIdentifier v = true)) :
    ∀ w ∈ some v, isIdentifier w = true :=
  fun _ hw => Option.mem_some.mp hw ▸ h.down

theorem sha256_of_some {f : String} (h : PLift (isSha256Hex f)) : ∀ g ∈ some f, isSha256Hex g :=
  fun _ hg => Option.mem_some.mp hg ▸ h.down

theorem earlier_of {t u : Timestamp} (h : PLift (t.time < u.time)) : t.time < u.time := h.down

/-- The empty tuple of identifiers, and the order it is in. -/
theorem identifiers_nil : ∀ v ∈ ([] : List String), isIdentifier v = true :=
  fun _ h => absurd h List.not_mem_nil

theorem sortedStr_nil : sortedStr [] = [] := rfl

theorem checkSha256_of {value field : String} (h : isSha256Hex value) :
    checkSha256 cls value field = .ok ⟨h⟩ := by
  rw [checkSha256, checkText_of (requiredText_of_isSha256Hex h), ok_bind, prove_of h]

theorem iso8601_eq_ok {value field : String} {t : Timestamp} :
    iso8601 cls value field = .ok t ↔ Timestamp.ofText value = some t := by
  unfold iso8601
  constructor
  · intro h
    simp only [bind_eq_ok, require_eq_ok, getOrRaise_eq_ok] at h
    obtain ⟨-, -, -, -, h⟩ := h
    exact h
  · intro h
    have htext := Timestamp.text_of_ofText h
    have hparsed : (fromisoformat (replaceZ value)).isSome := by
      rw [← htext, t.parsed]
      rfl
    rw [checkText_of (htext ▸ t.required), ok_bind, require_of hparsed, ok_bind, h]
    rfl

@[simp] theorem iso8601_text (t : Timestamp) (field : String) :
    iso8601 cls t.text field = .ok t :=
  iso8601_eq_ok.mpr (Timestamp.ofText_text t)

end Checks

/-! ## Instants -/

/-- `_parse_time`, on a text that is compared with an instant: a text without an offset cannot be
compared. -/
def parseTime (value : String) : Py Int :=
  match fromisoformat (replaceZ value) with
  | none => .error (valueError ("Invalid isoformat string: '" ++ replaceZ value ++ "'"))
  | some ⟨_, none⟩ =>
      .error (typeError "can't compare offset-naive and offset-aware datetimes")
  | some ⟨wall, some offset⟩ => .ok (wall - offset)

@[simp] theorem parseTime_text (t : Timestamp) : parseTime t.text = .ok t.time := by
  unfold parseTime
  rw [t.parsed]
  rfl

/-! ## Sorted tuples -/

/-- What `_sorted_unique` returns. -/
structure SortedUnique (P : String → Prop) (minimum : Nat) where
  values : List String
  sorted : sortedStr values = values
  nodup : values.Nodup
  valid : ∀ v ∈ values, P v
  enough : minimum ≤ values.length

/-- The check `_sorted_unique`, with the check of one value as a parameter. -/
def sortedUnique (cls : ExnClass) {P : String → Prop} (check : ∀ v, Py (PLift (P v)))
    (values : List String) (field : String) (minimum : Nat) : Py (SortedUnique P minimum) := do
  let h₁ ← prove (minimum ≤ values.length)
    ⟨cls, field ++ " must contain at least " ++ toString minimum ++ " item(s)"⟩
  let h₂ ← prove values.Nodup ⟨cls, field ++ " must not contain duplicates"⟩
  let h₃ ← proveAll check values
  return ⟨sortedStr values, sortedStr_sortedStr _, sortedStr_nodup.mpr h₂.down,
    fun v hv => h₃.down v (mem_sortedStr.mp hv), (sortedStr_length values).symm ▸ h₁.down⟩

namespace SortedUnique

variable {P : String → Prop} {minimum : Nat}

theorem ext_values {s t : SortedUnique P minimum} (h : s.values = t.values) : s = t := by
  obtain ⟨v, _, _, _, _⟩ := s
  obtain ⟨w, _, _, _, _⟩ := t
  subst h
  rfl

instance : DecidableEq (SortedUnique P minimum) := fun s t =>
  decidable_of_iff (s.values = t.values) ⟨ext_values, fun h => h ▸ rfl⟩

end SortedUnique

/-- Valid values without duplicates are accepted and sorted. -/
theorem sortedUnique_of {cls : ExnClass} {P : String → Prop} {check : ∀ v, Py (PLift (P v))}
    (hcheck : ∀ v (h : P v), check v = .ok ⟨h⟩) {values : List String} {field : String}
    {minimum : Nat} (henough : minimum ≤ values.length) (hnodup : values.Nodup)
    (hvalid : ∀ v ∈ values, P v) :
    ∃ s, sortedUnique cls check values field minimum = .ok s ∧ s.values = sortedStr values := by
  unfold sortedUnique
  rw [prove_of henough, ok_bind, prove_of hnodup, ok_bind, proveAll_of hcheck hvalid, ok_bind]
  exact ⟨_, rfl, rfl⟩

/-- A sorted tuple is rebuilt from its own values. -/
theorem sortedUnique_values {cls : ExnClass} {P : String → Prop} {minimum : Nat}
    {check : ∀ v, Py (PLift (P v))} (hcheck : ∀ v (h : P v), check v = .ok ⟨h⟩)
    (s : SortedUnique P minimum) (field : String) :
    sortedUnique cls check s.values field minimum = .ok s := by
  obtain ⟨t, ht, hvalues⟩ : ∃ t, sortedUnique cls check s.values field minimum = .ok t ∧
      t.values = sortedStr s.values := sortedUnique_of hcheck s.enough s.nodup s.valid
  rw [s.sorted] at hvalues
  rw [ht, SortedUnique.ext_values hvalues]

/-! ## Fingerprints -/

/-- `_fingerprint`: the digest of `_canonical_json`. -/
def fingerprint (payload : Json) : String := hexOf payload.chars

theorem isSha256Hex_fingerprint (payload : Json) : isSha256Hex (fingerprint payload) :=
  isSha256Hex_hexOf _

end NightRecon.WhiteEngine.Fields
