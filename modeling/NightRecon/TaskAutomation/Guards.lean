import NightRecon.Exceptions
import NightRecon.Lib.Collect
import NightRecon.Lib.JsonRoundTrip
import NightRecon.Lib.JsonStrict
import NightRecon.Lib.Sha256

/-!
# Guards of the task controller

The checks `tools/task_automation/controller.py` makes on data that arrives as JSON.

* `json`, `keys`, `integer`, `text`, `sha`, `strings` — each returns what it has read or rejects it,
  and each has its `_eq_ok` lemma;
* `canonical`, `digest` — the bytes that are hashed, and their digest; `canonical_inj` says that
  equal bytes are the bytes of one value, and `json_canonical` that they are read back.
-/

namespace NightRecon.TaskAutomation

open NightRecon.Lib
open NightRecon.Lib.Checks
open NightRecon.Lib.Sha256
open NightRecon.Lib.Text

/-- `Rejected(message)`. -/
def rejected (message : String) : Exn := ⟨.rejected, message⟩

/-! ## Members -/

section Comparisons

/-- A value compared with a number, a text, a truth value or `None`. -/
instance (n : Int) : (j : Json) → Decidable (j = .int n)
  | .int m => decidable_of_iff (m = n) ⟨congrArg Json.int, Json.int.inj⟩
  | .null | .bool _ | .float _ | .str _ | .arr _ | .obj _ => isFalse nofun

instance (s : String) : (j : Json) → Decidable (j = .str s)
  | .str t => decidable_of_iff (t = s) ⟨congrArg Json.str, Json.str.inj⟩
  | .null | .bool _ | .float _ | .int _ | .arr _ | .obj _ => isFalse nofun

instance (b : Bool) : (j : Json) → Decidable (j = .bool b)
  | .bool b' => decidable_of_iff (b' = b) ⟨congrArg Json.bool, Json.bool.inj⟩
  | .null | .int _ | .float _ | .str _ | .arr _ | .obj _ => isFalse nofun

instance : (j : Json) → Decidable (j = .null)
  | .null => isTrue rfl
  | .bool _ | .int _ | .float _ | .str _ | .arr _ | .obj _ => isFalse nofun

end Comparisons

/-- `data[key]`, for a key that `keys` has found. -/
def field (data : Json) (key : String) : Json := (data.get? key).getD .null

/-- Source: `controller.py` `_keys`. -/
def keys (expected : List String) : Json → Py Json
  | .obj members => do
      let found := members.map (·.1)
      require (found ⊆ expected ∧ expected ⊆ found) (rejected "unexpected fields")
      return .obj members
  | _ => throw (rejected "unexpected fields")

/-- A number within its bounds, which are never negative.
Source: `controller.py` `_integer`. -/
def integer (low high : Nat) : Json → Py {n : Nat // low ≤ n ∧ n ≤ high}
  | .int (.ofNat n) => do
      let h ← prove (low ≤ n ∧ n ≤ high) (rejected "invalid integer")
      return ⟨n, h.down⟩
  | _ => throw (rejected "invalid integer")

/-- No control character but newlines and tabs. -/
def isTextChar (c : Char) : Bool := 32 ≤ c.toNat || c == '\n' || c == '\t'

/-- A text that is neither blank nor too long. -/
def IsText (maximum : Nat) (s : String) : Prop :=
  (0 < (strip s).length ∧ (strip s).length ≤ maximum) ∧ s.toList.all isTextChar = true

instance (maximum : Nat) (s : String) : Decidable (IsText maximum s) :=
  inferInstanceAs (Decidable (_ ∧ _))

/-- Source: `controller.py` `_text`. -/
def text (maximum : Nat) : Json → Py String
  | .str s => do
      require (0 < (strip s).length ∧ (strip s).length ≤ maximum) (rejected "invalid text")
      require (s.toList.all isTextChar = true) (rejected "control character in text")
      return s
  | _ => throw (rejected "invalid text")

/-- `[0-9a-f]{length}`. -/
def IsHex (length : Nat) (s : String) : Prop :=
  s.toList.length = length ∧ (s.toList.all fun c => "0123456789abcdef".toList.contains c) = true

instance (length : Nat) (s : String) : Decidable (IsHex length s) :=
  inferInstanceAs (Decidable (_ ∧ _))

/-- Source: `controller.py` `_sha`. -/
def sha (length : Nat) : Json → Py String
  | .str s => do
      require (IsHex length s) (rejected "invalid digest")
      return s
  | _ => throw (rejected "invalid digest")

/-- Source: `controller.py` `_strings`. -/
def strings (maximum : Nat) : Json → Py (List String)
  | .arr elems => do
      require (0 < elems.length ∧ elems.length ≤ maximum) (rejected "invalid list")
      let result ← elems.mapM (text 4096)
      require result.Nodup (rejected "duplicate list entries")
      return result
  | _ => throw (rejected "invalid list")

/-- The object in the bytes.  Source: `controller.py` `_json`. -/
def json (maximum : Nat) (raw : List UInt8) : Py Json := do
  require (raw.length ≤ maximum) (rejected "JSON size/type limit")
  let result ← getOrRaise (Json.loadsBytes raw) (rejected "invalid JSON")
  match result with
  | .obj members => return .obj members
  | _ => throw (rejected "JSON object required")

/-! ## What the guards accept -/

theorem keys_eq_ok {expected : List String} {data r : Json} :
    keys expected data = .ok r ↔ ∃ members, data = .obj members ∧ r = data ∧
      members.map (·.1) ⊆ expected ∧ expected ⊆ members.map (·.1) := by
  constructor
  · intro h
    cases data with
    | obj members =>
      obtain ⟨hkeys, hr⟩ := require_bind_eq_ok.mp h
      exact ⟨members, rfl, (Except.ok.inj hr).symm, hkeys⟩
    | _ => exact nomatch h
  · rintro ⟨members, rfl, rfl, hkeys⟩
    exact require_bind_eq_ok.mpr ⟨hkeys, rfl⟩

theorem integer_eq_ok {low high : Nat} {n : {n : Nat // low ≤ n ∧ n ≤ high}} {value : Json} :
    integer low high value = .ok n ↔ value = .int n.1 := by
  constructor
  · intro h
    cases value with
    | int m =>
      cases m with
      | ofNat m =>
        obtain ⟨hbounds, _, hm⟩ := bind_eq_ok.mp h
        obtain rfl := Except.ok.inj hm
        rfl
      | negSucc m => exact nomatch h
    | _ => exact nomatch h
  · rintro rfl
    exact bind_eq_ok.mpr ⟨⟨n.2⟩, prove_of n.2, rfl⟩

/-- A number that passes. -/
theorem integer_of {low high n : Nat} (h : low ≤ n ∧ n ≤ high) :
    integer low high (.int n) = .ok ⟨n, h⟩ :=
  integer_eq_ok.mpr rfl

theorem text_eq_ok {maximum : Nat} {value : Json} {s : String} :
    text maximum value = .ok s ↔ value = .str s ∧ IsText maximum s := by
  constructor
  · intro h
    cases value with
    | str t =>
      obtain ⟨hlength, hrest⟩ := require_bind_eq_ok.mp h
      obtain ⟨hcontrol, ht⟩ := require_bind_eq_ok.mp hrest
      obtain rfl := Except.ok.inj ht
      exact ⟨rfl, hlength, hcontrol⟩
    | _ => exact nomatch h
  · rintro ⟨rfl, hlength, hcontrol⟩
    exact require_bind_eq_ok.mpr ⟨hlength, require_bind_eq_ok.mpr ⟨hcontrol, rfl⟩⟩

theorem sha_eq_ok {length : Nat} {value : Json} {s : String} :
    sha length value = .ok s ↔ value = .str s ∧ IsHex length s := by
  constructor
  · intro h
    cases value with
    | str t =>
      obtain ⟨hhex, ht⟩ := require_bind_eq_ok.mp h
      obtain rfl := Except.ok.inj ht
      exact ⟨rfl, hhex⟩
    | _ => exact nomatch h
  · rintro ⟨rfl, hhex⟩
    exact require_bind_eq_ok.mpr ⟨hhex, rfl⟩

/-- Texts are read from the strings they are. -/
theorem mapM_text_eq_ok {maximum : Nat} {elems : List Json} {l : List String} :
    elems.mapM (text maximum) = .ok l ↔
      elems = l.map .str ∧ ∀ s ∈ l, IsText maximum s := by
  induction elems generalizing l with
  | nil =>
    cases l with
    | nil => exact iff_of_true rfl ⟨rfl, fun s hs => absurd hs List.not_mem_nil⟩
    | cons s l => exact iff_of_false (fun h => nomatch h) fun h => nomatch h.1
  | cons j elems ih =>
    rw [List.mapM_cons, bind_eq_ok]
    constructor
    · rintro ⟨s, hs, hrest⟩
      obtain ⟨l', hl', hr⟩ := bind_eq_ok.mp hrest
      obtain rfl := Except.ok.inj hr
      obtain ⟨rfl, htext⟩ := text_eq_ok.mp hs
      obtain ⟨rfl, htexts⟩ := ih.mp hl'
      exact ⟨rfl, List.forall_mem_cons.mpr ⟨htext, htexts⟩⟩
    · rintro ⟨helems, htexts⟩
      cases l with
      | nil => exact nomatch helems
      | cons s l =>
        obtain ⟨rfl, rfl⟩ := List.cons.inj helems
        rw [List.forall_mem_cons] at htexts
        exact ⟨s, text_eq_ok.mpr ⟨rfl, htexts.1⟩,
          bind_eq_ok.mpr ⟨l, ih.mpr ⟨rfl, htexts.2⟩, rfl⟩⟩

theorem strings_eq_ok {maximum : Nat} {value : Json} {l : List String} :
    strings maximum value = .ok l ↔ value = Json.strings l ∧
      (0 < l.length ∧ l.length ≤ maximum) ∧ (∀ s ∈ l, IsText 4096 s) ∧ l.Nodup := by
  constructor
  · intro h
    cases value with
    | arr elems =>
      obtain ⟨hlength, hrest⟩ := require_bind_eq_ok.mp h
      obtain ⟨l', hl', hrest⟩ := bind_eq_ok.mp hrest
      obtain ⟨hnodup, hr⟩ := require_bind_eq_ok.mp hrest
      obtain rfl := Except.ok.inj hr
      obtain ⟨rfl, htexts⟩ := mapM_text_eq_ok.mp hl'
      rw [List.length_map] at hlength
      exact ⟨rfl, hlength, htexts, hnodup⟩
    | _ => exact nomatch h
  · rintro ⟨rfl, hlength, htexts, hnodup⟩
    have hl : 0 < (l.map Json.str).length ∧ (l.map Json.str).length ≤ maximum := by
      rwa [List.length_map]
    refine require_bind_eq_ok.mpr ⟨hl, bind_eq_ok.mpr ⟨l, mapM_text_eq_ok.mpr ⟨rfl, htexts⟩, ?_⟩⟩
    exact require_bind_eq_ok.mpr ⟨hnodup, rfl⟩

theorem json_eq_ok {maximum : Nat} {raw : List UInt8} {j : Json} :
    json maximum raw = .ok j ↔
      raw.length ≤ maximum ∧ Json.loadsBytes raw = some j ∧ ∃ members, j = .obj members := by
  rw [json, require_bind_eq_ok, bind_eq_ok]
  refine and_congr_right fun _ => ⟨?_, ?_⟩
  · rintro ⟨result, hresult, hr⟩
    cases result with
    | obj members =>
      obtain rfl := Except.ok.inj hr
      exact ⟨getOrRaise_eq_ok.mp hresult, members, rfl⟩
    | _ => exact nomatch hr
  · rintro ⟨hloads, members, rfl⟩
    exact ⟨.obj members, getOrRaise_eq_ok.mpr hloads, rfl⟩

/-! ## Canonical bytes and their digests -/

/-- Source: `controller.py` `_canonical`. -/
def canonical (data : Json) : List UInt8 := Json.encode (Json.dumps data).toList

/-- Source: `controller.py` `_digest`. -/
@[irreducible] def digest (data : List UInt8) : String :=
  hexdigest (sha256 (data.map UInt8.toNat))

theorem isHex_digest (data : List UInt8) : IsHex 64 (digest data) := by
  unfold digest
  obtain ⟨hlength, hdigits⟩ := isSha256Hex_hexdigest (data.map UInt8.toNat)
  exact ⟨hlength, List.all_eq_true.mpr fun c hc => List.contains_iff_mem.mpr (hdigits c hc)⟩

/-- Equal canonical bytes are the bytes of one value, up to the order of its members. -/
theorem canonical_inj {j j' : Json} (hj : j.plain) (hj' : j'.plain)
    (h : canonical j = canonical j') : j.normal = j'.normal := by
  have htext : (Json.dumps j).toList = (Json.dumps j').toList := by
    apply Option.some.inj
    rw [← Json.decodeUtf8_encode, ← Json.decodeUtf8_encode]
    exact congrArg Json.decodeUtf8 h
  apply Option.some.inj
  rw [← Json.loadsStrict_dumps hj, ← Json.loadsStrict_dumps hj', String.toList_inj.mp htext]

/-- **What is written is read back**, its members in order. -/
theorem json_canonical {maximum : Nat} {members : List (String × Json)}
    (h : (Json.obj members).plain) (hlength : (canonical (.obj members)).length ≤ maximum) :
    json maximum (canonical (.obj members)) = .ok (Json.obj members).normal := by
  refine json_eq_ok.mpr ⟨hlength, Json.loadsBytes_dumps h, _, Json.normal_obj members⟩

/-- A member of what has been read back. -/
theorem field_normal {members : List (String × Json)} (h : (members.map (·.1)).Nodup)
    (key : String) : field (Json.obj members).normal key = (field (.obj members) key).normal := by
  rw [field, field, Json.get?_normal h]
  cases (Json.obj members).get? key with
  | none => rfl
  | some v => rfl

theorem keys_normal {expected : List String} {members : List (String × Json)}
    (hfound : members.map (·.1) ⊆ expected) (hall : expected ⊆ members.map (·.1)) :
    keys expected (Json.obj members).normal = .ok (Json.obj members).normal := by
  obtain ⟨sorted, hsorted, hperm⟩ := Json.keys_normal members
  exact keys_eq_ok.mpr ⟨sorted, hsorted, rfl, fun k hk => hfound (hperm.mem_iff.mp hk),
    fun k hk => hperm.mem_iff.mpr (hall hk)⟩

end NightRecon.TaskAutomation
