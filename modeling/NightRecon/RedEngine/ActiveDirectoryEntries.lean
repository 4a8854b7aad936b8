import NightRecon.Lib.Collect
import NightRecon.Lib.Urllib
import NightRecon.RedEngine.IdentityCollection

/-!
# Entries of an Active Directory

How `nightrecon_red_engine/active_directory_provider.py` reads the entries of a search.

* `LdapValue`, `LdapEntry` — what a search returns;
* `attributeText`, `attributeValues`, `attributeInt`, `optionalSid`, `attributeMembers` — attributes;
* `directoryEntry`, `isTrustedDomain` — what an entry is taken for;
* `mem_attributeMembers` — the members read are the member values, trimmed.

`Builtins` is what the readings take from the standard library, of which only the set order is
assumed to be an order of the set.
-/

namespace NightRecon.RedEngine.ActiveDirectoryEntries

open NightRecon.Lib
open NightRecon.Lib.Checks
open NightRecon.Lib.Text
open NightRecon.RedEngine.IdentityCollection
open NightRecon.RedEngine.GraphIdentityEvidence

/-- `str.casefold`, `str.isdigit`, `int` on a text, and the order in which a set is read. -/
structure Builtins where
  casefold : String → String
  isDigits : String → Bool
  int : String → Option Int
  setOrder : List String → List String
  setOrder_perm : ∀ l, (setOrder l).Perm l

/-- An attribute of an entry as the transport serves it. -/
inductive LdapValue where
  | none
  | text (value : String)
  | int (value : Int)
  | bool (value : Bool)
  | bytes (value : List UInt8)
  | list (items : List LdapValue)
  | other

/-- `value in (None, "")`. -/
def LdapValue.isBlank : LdapValue → Bool
  | .none => true
  | .text value => value = ""
  | _ => false

/-- The attributes of an entry whose names are texts. -/
abbrev Attributes := List (String × LdapValue)

/-- `attributes.get(name)`. -/
def Attributes.get (attributes : Attributes) (name : String) : LdapValue :=
  (attributes.lookup name).getD .none

/-- One entry of a search; `attributes` is missing when it is no mapping. -/
structure LdapEntry where
  dn : LdapValue
  attributes : Option Attributes

/-- A call whose `ValueError` is caught; `default` is used instead. -/
def exceptValueError {α : Type} (x : Py α) (default : α) : Py α :=
  match x with
  | .ok a => return a
  | .error e => if e.cls.isValueError then return default else .error e

/-! ## Attributes -/

/-- Source: `active_directory_provider.py` `_required_text`. -/
def requiredValue (value : LdapValue) (field : String) : Py String :=
  match value with
  | .text s => requireText s field
  | _ => .error (valueError (field ++ " must be a nonblank, trimmed string"))

/-- The text of one value, or of the first of several. -/
def LdapValue.firstText : LdapValue → String
  | .text s => strip s
  | .list (.text s :: _) => strip s
  | _ => ""

/-- Source: `active_directory_provider.py` `_attribute_text`. -/
def attributeText (attributes : Attributes) (names : List String) : String :=
  ((names.map fun name => (attributes.get name).firstText).find? (· ≠ "")).getD ""

/-- A nonblank text of a list of values, trimmed. -/
def textItem (message : String) : LdapValue → Py String
  | .text s => do
    raiseIf (strip s = "") (valueError message)
    return strip s
  | _ => .error (valueError message)

/-- Source: `active_directory_provider.py` `_attribute_values`. -/
def attributeValues (attributes : Attributes) (name : String) : Py (List String) :=
  let value := attributes.get name
  if value.isBlank then return []
  else
    match value with
    | .text s => [LdapValue.text s].mapM (textItem ("LDAP " ++ name ++
        " values must be nonblank strings"))
    | .list items => items.mapM (textItem ("LDAP " ++ name ++ " values must be nonblank strings"))
    | _ => .error (valueError ("LDAP " ++ name ++ " attribute has an unsupported type"))

/-- The one value of a list, and any other value itself. -/
def singleValue (message : String) : LdapValue → Py LdapValue
  | .list [value] => return value
  | .list _ => .error (valueError message)
  | value => return value

/-- `int(text)` of a text whose characters are digits after the signs. -/
def textInt (py : Builtins) (name s : String) : Py Int :=
  if py.isDigits (String.ofList ((stripChars s.toList).dropWhile (· = '-'))) then
    getOrRaise (py.int (strip s))
      (valueError ("invalid literal for int() with base 10: '" ++ strip s ++ "'"))
  else .error (valueError ("LDAP " ++ name ++ " must be an integer"))

/-- Source: `active_directory_provider.py` `_attribute_int`. -/
def attributeInt (py : Builtins) (attributes : Attributes) (name : String) : Py (Option Int) :=
  let value := attributes.get name
  if value.isBlank then return none
  else do
    match ← singleValue ("LDAP " ++ name ++ " must contain one integer value") value with
    | .int n => return some n
    | .text s => some <$> textInt py name s
    | _ => .error (valueError ("LDAP " ++ name ++ " must be an integer"))

/-- The number of bytes, the lowest first. -/
def leNumber (bytes : List UInt8) : Nat := Nat.ofDigits 256 (bytes.map UInt8.toNat)

/-- The text of a binary identifier with `count` parts. -/
def sidOfBytes (raw : List UInt8) (revision count : Nat) : String :=
  let authority := leNumber ((raw.drop 2).take 6).reverse
  let subs := (List.range count).map fun i => leNumber ((raw.drop (8 + 4 * i)).take 4)
  "S-" ++ "-".intercalate ((revision :: authority :: subs).map toString)

/-- Source: `active_directory_provider.py` `_sid_text`. -/
def sidText (value : LdapValue) : Py String := do
  match ← singleValue "LDAP objectSid must contain one value" value with
  | .text s =>
    raiseIf (¬ "S-".toList <+: (strip s).toList) (valueError "LDAP objectSid string is invalid")
    return strip s
  | .bytes raw =>
    raiseIf (raw.length < 8) (valueError "LDAP objectSid binary value is too short")
    let revision := (raw.getD 0 0).toNat
    let count := (raw.getD 1 0).toNat
    raiseIf (raw.length ≠ 8 + count * 4)
      (valueError "LDAP objectSid binary value has invalid length")
    return sidOfBytes raw revision count
  | _ => .error (valueError "LDAP objectSid has an unsupported type")

/-- Source: `active_directory_provider.py` `_optional_sid`. -/
def optionalSid (attributes : Attributes) : Py (Option String) :=
  let value := attributes.get "objectSid"
  if value.isBlank then return none else some <$> sidText value

/-! ## Members -/

/-- A name of the attribute that holds the members, or a range of them. -/
def isMemberName (py : Builtins) (name : String) : Bool :=
  py.casefold name = "member" || "member;range=".toList.isPrefixOf (py.casefold name).toList

/-- The values under one attribute name, and whether they are a range of the members. -/
def memberItems (py : Builtins) (found : List LdapValue × Bool) (item : String × LdapValue) :
    Py (List LdapValue × Bool) :=
  if isMemberName py item.1 then
    let ranged := found.2 || py.casefold item.1 ≠ "member"
    if item.2.isBlank then return (found.1, ranged)
    else
      match item.2 with
      | .text s => return (found.1 ++ [.text s], ranged)
      | .list items => return (found.1 ++ items, ranged)
      | _ => .error (valueError "LDAP group member attribute has an unsupported type")
  else return found

/-- Source: `active_directory_provider.py` `_attribute_members`. -/
def attributeMembers (py : Builtins) (attributes : Attributes) : Py (List String × Bool) := do
  let found ← attributes.foldlM (memberItems py) ([], false)
  let members ← found.1.mapM (textItem "LDAP group member values must be nonblank strings")
  return (sortedBy py.casefold (py.setOrder members.dedup), found.2)

/-- The member values under one attribute name. -/
def memberValues (py : Builtins) (item : String × LdapValue) : List LdapValue :=
  if isMemberName py item.1 then
    match item.2 with
    | .text s => if s = "" then [] else [.text s]
    | .list items => items
    | _ => []
  else []

theorem memberItems_values {py : Builtins} {found found' : List LdapValue × Bool}
    {item : String × LdapValue} (h : memberItems py found item = .ok found') :
    found'.1 = found.1 ++ memberValues py item := by
  unfold memberItems at h
  unfold memberValues
  by_cases hname : isMemberName py item.1 = true
  · rw [if_pos hname] at h ⊢
    cases hvalue : item.2 with
    | none =>
      simp only [hvalue, LdapValue.isBlank, if_true, pure_eq_ok, Except.ok.injEq] at h
      rw [← h, List.append_nil]
    | text s =>
      by_cases hs : s = ""
      · simp only [hvalue, LdapValue.isBlank, hs, decide_true, if_true, pure_eq_ok,
          Except.ok.injEq] at h
        simp [← h, hs]
      · simp only [hvalue, LdapValue.isBlank, hs, decide_false, Bool.false_eq_true, if_false,
          pure_eq_ok, Except.ok.injEq] at h
        simp [← h, hs]
    | list items =>
      simp only [hvalue, LdapValue.isBlank, Bool.false_eq_true, if_false, pure_eq_ok,
        Except.ok.injEq] at h
      rw [← h]
    | int n => simp [hvalue, LdapValue.isBlank] at h
    | bool b => simp [hvalue, LdapValue.isBlank] at h
    | bytes raw => simp [hvalue, LdapValue.isBlank] at h
    | other => simp [hvalue, LdapValue.isBlank] at h
  · rw [if_neg hname] at h ⊢
    rw [← Except.ok.inj h, List.append_nil]

theorem textItem_eq_ok {message text : String} {value : LdapValue} :
    textItem message value = .ok text ↔ ∃ s, value = .text s ∧ strip s ≠ "" ∧ strip s = text := by
  cases value with
  | text s =>
    simp only [textItem, raiseIf_bind_eq_ok, pure_eq_ok, Except.ok.injEq, LdapValue.text.injEq]
    constructor
    · rintro ⟨hne, rfl⟩
      exact ⟨s, rfl, hne, rfl⟩
    · rintro ⟨s', rfl, hne, rfl⟩
      exact ⟨hne, rfl⟩
  | none => simp [textItem]
  | int n => simp [textItem]
  | bool b => simp [textItem]
  | bytes raw => simp [textItem]
  | list items => simp [textItem]
  | other => simp [textItem]

/-- **The members of a group are all its member values**, trimmed. -/
theorem mem_attributeMembers {py : Builtins} {attributes : Attributes}
    {found : List String × Bool} (h : attributeMembers py attributes = .ok found) (m : String) :
    m ∈ found.1 ↔ ∃ s, .text s ∈ attributes.flatMap (memberValues py) ∧ strip s = m := by
  simp only [attributeMembers, bind_eq_ok, pure_eq_ok, Except.ok.injEq] at h
  obtain ⟨items, hitems, members, hmembers, rfl⟩ := h
  have hvalues : items.1 = attributes.flatMap (memberValues py) := by
    have hloop := foldlM_induct
      (P := fun done (s : List LdapValue × Bool) => s.1 = done.flatMap (memberValues py))
      (fun done item s s' hs hstep => by
        rw [memberItems_values hstep, hs, List.flatMap_append, List.flatMap_singleton])
      attributes [] ([], false) items rfl hitems
    rwa [List.nil_append] at hloop
  have hread : m ∈ members ↔ ∃ value ∈ items.1, ∃ s, value = .text s ∧ strip s = m := by
    constructor
    · intro hm
      obtain ⟨value, hvalue, htext⟩ := Collect.mem_of_mapM hmembers hm
      obtain ⟨s, hs, -, hstrip⟩ := textItem_eq_ok.mp htext
      exact ⟨value, hvalue, s, hs, hstrip⟩
    · rintro ⟨value, hvalue, s, rfl, rfl⟩
      obtain ⟨text, hmem, htext⟩ := Collect.mapM_turn hmembers hvalue
      obtain ⟨s', hs', -, rfl⟩ := textItem_eq_ok.mp htext
      obtain rfl := LdapValue.text.inj hs'
      exact hmem
  rw [(sortedBy_perm _ _).mem_iff, (py.setOrder_perm _).mem_iff, List.mem_dedup, hread, hvalues]
  constructor
  · rintro ⟨value, hvalue, s, rfl, rfl⟩
    exact ⟨s, hvalue, rfl⟩
  · rintro ⟨s, hvalue, rfl⟩
    exact ⟨.text s, hvalue, s, rfl, rfl⟩

/-! ## Hosts -/

/-- Source: `active_directory_provider.py` `_normalized_hostname`. -/
def normalizedHostname (py : Builtins) (value : String) : String :=
  let normalized := (py.casefold (strip value)).toList.rdropWhile (· = '.')
  if normalized = [] ∨ normalized.any isSpace then "" else String.ofList normalized

/-- The host a service principal name is about. -/
def spnHost (py : Builtins) (value : String) : String :=
  if '/' ∈ value.toList then
    let target := Urllib.before '/' (Urllib.after '/' value.toList)
    let host := if target.head? = some '[' ∧ ']' ∈ target then (Urllib.before ']' target).drop 1
      else Urllib.before ':' target
    normalizedHostname py (String.ofList host)
  else ""

/-- Source: `active_directory_provider.py` `_spn_hosts`. -/
def spnHosts (py : Builtins) (values : List String) : List String :=
  sortedStr (((values.map (spnHost py)).filter (· ≠ "")).dedup)

/-! ## Entries -/

/-- The two searches of the collection plan. -/
inductive SearchKind where
  | user
  | group
  deriving DecidableEq

/-- `text or dn`. -/
def nameOr (text dn : String) : String := if text = "" then dn else text

/-- The property of the hosts service principal names are about. -/
def hostsProperty (py : Builtins) (servicePrincipals : List String) : List (String × String) :=
  let hosts := spnHosts py servicePrincipals
  if hosts = [] then [] else [("spn_hosts", ",".intercalate hosts)]

/-- An entry of the search for identities. -/
def identityEntry (py : Builtins) (dn : String) (attributes : Attributes) : Py DirectoryEntry := do
  let objectClassValues ← attributeValues attributes "objectClass"
  raiseIf (objectClassValues = []) (valueError "LDAP identity entry requires objectClass")
  let servicePrincipals ← attributeValues attributes "servicePrincipalName"
  if "computer" ∈ objectClassValues.map py.casefold then
    let dnsHostname := normalizedHostname py (attributeText attributes ["dNSHostName"])
    let dnsProperty := if dnsHostname = "" then [] else [("dns_hostname", dnsHostname)]
    DirectoryEntry.make ⟨dn, .computer,
      nameOr (attributeText attributes ["dNSHostName", "sAMAccountName", "name"]) dn, [],
      sortedBy Prod.fst (dnsProperty ++ hostsProperty py servicePrincipals)⟩
  else
    let name := nameOr (attributeText attributes ["displayName", "sAMAccountName", "name"]) dn
    if servicePrincipals ≠ [] then
      DirectoryEntry.make ⟨dn, .service, name, [], hostsProperty py servicePrincipals⟩
    else DirectoryEntry.make ⟨dn, .user, name, [], []⟩

/-- Source: `active_directory_provider.py` `_raw_attributes`. -/
def rawAttributes (raw : LdapEntry) : Py Attributes :=
  getOrRaise raw.attributes (valueError "LDAP entry attributes must be a mapping")

/-- The entry, and whether its members are a range.
Source: `active_directory_provider.py` `_directory_entry`. -/
def directoryEntry (py : Builtins) (kind : SearchKind) (raw : LdapEntry) :
    Py (DirectoryEntry × Bool) := do
  let dn ← requiredValue raw.dn "LDAP entry DN"
  let attributes ← rawAttributes raw
  match kind with
  | .user => return (← identityEntry py dn attributes, false)
  | .group =>
    let members ← attributeMembers py attributes
    let entry ← DirectoryEntry.make
      ⟨dn, .group, nameOr (attributeText attributes ["cn", "name"]) dn, members.1, []⟩
    return (entry, members.2)

/-- Source: `active_directory_provider.py` `_is_trusted_domain`. -/
def isTrustedDomain (py : Builtins) (raw : LdapEntry) : Py Bool := do
  let attributes ← rawAttributes raw
  if attributeText attributes ["trustPartner"] ≠ "" then return true
  else
    let classes ← exceptValueError (attributeValues attributes "objectClass") []
    return decide ("trusteddomain" ∈ classes.map py.casefold)

/-! ## Privileged groups -/

def privilegedDomainRids : List (Int × String) :=
  [(512, "Domain Admins"), (518, "Schema Admins"), (519, "Enterprise Admins"),
    (520, "Group Policy Creator Owners"), (526, "Key Admins"), (527, "Enterprise Key Admins")]

def privilegedBuiltinRids : List (Int × String) :=
  [(544, "Administrators"), (548, "Account Operators"), (549, "Server Operators"),
    (550, "Print Operators"), (551, "Backup Operators")]

/-- Source: `active_directory_provider.py` `_privileged_group_semantic`. -/
def privilegedGroupSemantic (py : Builtins) (sid : String) : Option (String × String) := do
  let rid ← if '-' ∈ sid.toList then py.int (String.ofList (Urllib.afterLast '-' sid.toList))
    else none
  let label ← if "S-1-5-32-".toList <+: sid.toList then privilegedBuiltinRids.lookup rid
    else privilegedDomainRids.lookup rid
  return (label, toString rid)

end NightRecon.RedEngine.ActiveDirectoryEntries
