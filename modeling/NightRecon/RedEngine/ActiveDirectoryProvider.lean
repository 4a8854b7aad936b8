import NightRecon.Lib.Assoc
import NightRecon.Lib.Firsts
import NightRecon.Lib.Records
import NightRecon.RedEngine.ActiveDirectoryEntries

/-!
# The Active Directory provider

`ActiveDirectoryIdentityProvider.collect` of `nightrecon_red_engine/active_directory_provider.py`,
over any transport and any clock.

* `LdapSearchPage`, `ActiveDirectorySearchTransport`, `ActiveDirectoryIdentityProvider` — the parties;
* `Collected` — what the searches have collected; `takeEntry`, `takePage`, `searchPages`,
  `searchKinds` — the searches, from one entry to both searches;
* `linkGroups`, `linkPrimaryGroups`, `linkDelegations`, `linkTrusts` — what is derived from it;
* `collect` — the whole collection, `run` from a fresh session.
-/

namespace NightRecon.RedEngine.ActiveDirectoryProvider

open NightRecon.Lib
open NightRecon.Lib.Assoc
open NightRecon.Lib.Checks
open NightRecon.Lib.Firsts
open NightRecon.Lib.Text
open NightRecon.RedEngine.ActiveDirectoryEntries
open NightRecon.RedEngine.GraphBuilder
open NightRecon.RedEngine.GraphIdentityEvidence
open NightRecon.RedEngine.IdentityCollection

/-! ## The collection plan -/

def adUserFilter : String :=
  "(|(&(objectClass=user)(!(objectClass=computer)))" ++
    "(&(objectCategory=computer)(objectClass=computer)))"

def adGroupFilter : String := "(|(objectClass=group)(objectClass=trustedDomain))"

def adUserAttributes : List String :=
  ["distinguishedName", "displayName", "sAMAccountName", "name", "objectClass", "objectSid",
    "primaryGroupID", "servicePrincipalName", "msDS-AllowedToDelegateTo", "dNSHostName"]

def adGroupAttributes : List String :=
  ["distinguishedName", "cn", "name", "member", "objectClass", "objectSid", "managedBy",
    "trustPartner", "flatName", "trustDirection", "trustType", "trustAttributes"]

def searchFilter : SearchKind → String
  | .user => adUserFilter
  | .group => adGroupFilter

def searchAttributes : SearchKind → List String
  | .user => adUserAttributes
  | .group => adGroupAttributes

/-! ## Transports -/

inductive LdapCookie where
  | bytes (value : List UInt8)
  | text (value : String)

/-- Source: `active_directory_provider.py` `LdapSearchPage`. -/
structure LdapSearchPage where
  entries : List LdapEntry
  cookie : Option LdapCookie
  referralCount : Nat

/-- `page.cookie`, if it leads to another page: an empty one does not. -/
def LdapSearchPage.next (page : LdapSearchPage) : Option LdapCookie :=
  match page.cookie with
  | some (.bytes value) => if value = [] then none else some (.bytes value)
  | some (.text value) => if value = "" then none else some (.text value)
  | none => none

/-- The arguments of `search_page`. -/
structure LdapSearchRequest where
  baseDn : String
  searchFilter : String
  attributes : List String
  pageSize : Nat
  pageCookie : Option LdapCookie
  timeLimitSeconds : Nat

/-- A transport answers a request with a page, with something else or with an exception; the answer
may depend on the requests before it.
Source: `active_directory_provider.py` `ActiveDirectorySearchTransport`. -/
structure ActiveDirectorySearchTransport where
  target : String
  searchPage : List LdapSearchRequest → LdapSearchRequest → Py (Option LdapSearchPage)

/-- Source: `active_directory_provider.py` `ActiveDirectoryProviderLimits`. -/
structure ActiveDirectoryProviderLimits where
  pageSize : Nat
  maxPages : Nat
  maxRelationships : Nat
  maxTrusts : Nat
  searchTimeLimitSeconds : Nat
  maxRuntimeSeconds : Rat
  positive : 1 ≤ min (min pageSize maxPages)
    (min (min maxRelationships maxTrusts) searchTimeLimitSeconds) ∧ 0 < maxRuntimeSeconds

/-- Source: `active_directory_provider.py` `ActiveDirectoryIdentityProvider.__init__`. -/
structure ActiveDirectoryIdentityProvider where
  transport : ActiveDirectorySearchTransport
  baseDn : String
  limits : ActiveDirectoryProviderLimits
  clock : Nat → Rat
  baseDn_required : requiredText baseDn

/-! ## What is collected -/

structure GroupMetadata where
  sid : Option String
  managedBy : String

structure IdentityMetadata where
  sid : Option String
  primaryGroupId : Option Int
  spns : List String
  delegates : List String

structure Trust where
  partner : String
  direction : Option Int
  trustType : Option Int
  trustAttributes : Option Int

/-- The variables of the search loops. -/
structure Collected where
  entries : List DirectoryEntry
  seenDns : List String
  entryByDn : List (String × DirectoryEntry)
  identityMetadata : List (String × IdentityMetadata)
  groupMetadata : List (String × GroupMetadata)
  trusts : List Trust
  membershipCount : Nat
  pageCount : Nat
  marks : Marks

namespace Collected

def start : Collected := ⟨[], [], [], [], [], [], 0, 0, Marks.none⟩

def mark (c : Collected) (reason : String) : Collected := { c with marks := c.marks.mark reason }

end Collected

section Collection

variable (py : Builtins) (provider : ActiveDirectoryIdentityProvider)
  (request : IdentityCollectionRequest)

/-- `entry.distinguished_name.casefold()`. -/
def normalizedDn (entry : DirectoryEntry) : String := py.casefold entry.distinguishedName

/-! ## One entry -/

/-- The attributes of a trust that are numbers. -/
def readTrust (attributes : Attributes) (partner : String) : Py Trust := do
  let direction ← attributeInt py attributes "trustDirection"
  let trustType ← attributeInt py attributes "trustType"
  let trustAttributes ← attributeInt py attributes "trustAttributes"
  return ⟨partner, direction, trustType, trustAttributes⟩

/-- An entry of the search for groups that is a trusted domain. -/
def takeTrust (raw : LdapEntry) (c : Collected) : Py Collected :=
  if provider.limits.maxTrusts ≤ c.trusts.length then
    return c.mark "Active Directory trusted-domain ceiling reached."
  else do
    let attributes ← rawAttributes raw
    let partner := attributeText attributes ["trustPartner", "flatName"]
    if partner = "" then
      return c.mark ("Active Directory trusted-domain object lacked a usable trust partner; " ++
        "relationship omitted.")
    else
      match ← exceptValueError (some <$> readTrust py attributes partner) none with
      | none =>
        return c.mark ("Active Directory trust attributes could not be normalized; trust " ++
          "relationship omitted.")
      | some trust => return { c with trusts := c.trusts ++ [trust] }

/-- What the budget of memberships leaves of an entry; `none` when nothing is left of it. -/
def admitMembers (entry : DirectoryEntry) (c : Collected) :
    Py (Option (DirectoryEntry × Collected)) :=
  if entry.kind = .group ∧ entry.members ≠ [] then
    let remaining := request.limits.maxMemberships - c.membershipCount
    if remaining = 0 then return none
    else if remaining < entry.members.length then do
      let cut ← DirectoryEntry.make
        ⟨entry.distinguishedName, entry.kind, entry.name, entry.members.take remaining, []⟩
      return some (cut, c.mark "Active Directory membership ceiling reached.")
    else return some (entry, c)
  else return some (entry, c)

/-- Source: `safe_sid` of `collect`. -/
def safeSid (attributes : Attributes) (description : String) (marks : Marks) :
    Py (Option String × Marks) :=
  exceptValueError (do return (← optionalSid attributes, marks))
    (none, marks.mark ("Active Directory " ++ description ++ " objectSid could not be " ++
      "normalized; related privilege evidence may be incomplete."))

/-- The `primaryGroupID` of an identity, if it can be read. -/
def safePrimaryGroupId (attributes : Attributes) (marks : Marks) : Py (Option Int × Marks) :=
  exceptValueError (do return (← attributeInt py attributes "primaryGroupID", marks))
    (none, marks.mark ("Active Directory primaryGroupID could not be normalized; " ++
      "primary-group evidence may be incomplete."))

/-- The entry is appended, with the metadata of its attributes. -/
def recordEntry (raw : LdapEntry) (entry : DirectoryEntry) (c : Collected) : Py Collected := do
  let dn := normalizedDn py entry
  let c := { c with
    entries := c.entries ++ [entry]
    seenDns := c.seenDns ++ [dn]
    entryByDn := assign c.entryByDn dn entry
    membershipCount := c.membershipCount + entry.members.length }
  let attributes ← rawAttributes raw
  if entry.kind = .group then
    let sid ← safeSid attributes "group" c.marks
    return { c with
      groupMetadata := assign c.groupMetadata dn
        ⟨sid.1, attributeText attributes ["managedBy"]⟩
      marks := sid.2 }
  else
    let primaryGroupId ← safePrimaryGroupId py attributes c.marks
    let sid ← safeSid attributes "identity" primaryGroupId.2
    let spns ← attributeValues attributes "servicePrincipalName"
    let delegates ← attributeValues attributes "msDS-AllowedToDelegateTo"
    return { c with
      identityMetadata := assign c.identityMetadata dn ⟨sid.1, primaryGroupId.1, spns, delegates⟩
      marks := sid.2 }

/-- Whether an entry is a trusted domain; only the search for groups has them. -/
def isTrust (kind : SearchKind) (raw : LdapEntry) : Py Bool :=
  match kind with
  | .user => return false
  | .group => isTrustedDomain py raw

/-- `truncated` with a budget of the request used up. -/
def exhausted (c : Collected) : Bool :=
  c.marks.truncated && (request.limits.maxEntries ≤ c.entries.length ||
    request.limits.maxMemberships ≤ c.membershipCount)

/-- One turn of the loop over the entries of a page. -/
def takeEntry (kind : SearchKind) (raw : LdapEntry) (c : Collected) :
    Py (ForInStep Collected) := do
  if ← isTrust py kind raw then return .yield (← takeTrust py provider raw c)
  else
    let found ← directoryEntry py kind raw
    let c := if found.2 then c.mark ("Active Directory returned ranged group membership; " ++
      "additional members may be omitted.") else c
    if normalizedDn py found.1 ∈ c.seenDns then return .yield c
    else if request.limits.maxEntries ≤ c.entries.length then
      return .done (c.mark "Active Directory entry ceiling reached.")
    else
      match ← admitMembers request found.1 c with
      | none => return .done (c.mark "Active Directory membership ceiling reached.")
      | some admitted =>
        let c ← recordEntry py raw admitted.1 admitted.2
        return if exhausted request c then .done c else .yield c

/-! ## Pages -/

/-- What is taken of one page. -/
def takePage (kind : SearchKind) (page : LdapSearchPage) (c : Collected) : Py Collected := do
  let c := { c with pageCount := c.pageCount + 1 }
  let c := if page.referralCount ≠ 0 then c.mark ("Active Directory returned LDAP referrals; " ++
    "referrals were not followed outside the configured target.") else c
  forIn page.entries c (takeEntry py provider request kind)

/-- The request for one page. -/
def searchRequest (kind : SearchKind) (cookie : Option LdapCookie) : LdapSearchRequest :=
  ⟨provider.baseDn, searchFilter kind, searchAttributes kind,
    min provider.limits.pageSize request.limits.maxEntries, cookie,
    provider.limits.searchTimeLimitSeconds⟩

/-- A call of `search_page`. -/
def readPage (kind : SearchKind) (cookie : Option LdapCookie) :
    Session LdapSearchRequest LdapSearchPage := do
  let page ← call provider.transport.searchPage (searchRequest provider request kind cookie)
  Proc.ofExcept (getOrRaise page
    (valueError "Active Directory transport returned an invalid page"))

/-- `truncated` with a ceiling reached that a count shows. -/
def ceilingReached (c : Collected) : Bool :=
  exhausted request c || (c.marks.truncated && provider.limits.maxPages ≤ c.pageCount)

/-- The loop over the pages of one search; `left` is `max_pages - page_count`. -/
def searchPages (started : Rat) (kind : SearchKind) :
    Nat → Option LdapCookie → Collected → Session LdapSearchRequest Collected
  | 0, _, c =>
    if request.limits.maxEntries ≤ c.entries.length then
      return c.mark "Active Directory entry ceiling reached."
    else return c.mark "Active Directory page ceiling reached."
  | left + 1, cookie, c =>
    if request.limits.maxEntries ≤ c.entries.length then
      return c.mark "Active Directory entry ceiling reached."
    else do
      if ← runtimeReached provider.clock started provider.limits.maxRuntimeSeconds then
        return c.mark "Active Directory runtime ceiling reached."
      else
        let page ← readPage provider request kind cookie
        let c ← Proc.ofExcept (takePage py provider request kind page c)
        if ceilingReached provider request c then return c
        else if ← runtimeReached provider.clock started provider.limits.maxRuntimeSeconds then
          return if page.next.isSome then c.mark "Active Directory runtime ceiling reached." else c
        else
          match page.next with
          | none => return c
          | some cookie => searchPages started kind left (some cookie) c

/-- `truncated` with any ceiling reached; the clock is read only if nothing else was. -/
def stopped (started : Rat) (c : Collected) : Session LdapSearchRequest Bool :=
  if c.marks.truncated then
    if ceilingReached provider request c then return true
    else runtimeReached provider.clock started provider.limits.maxRuntimeSeconds
  else return false

/-- The loop over the searches. -/
def searchKinds (started : Rat) :
    List SearchKind → Collected → Session LdapSearchRequest Collected
  | [], c => return c
  | kind :: rest, c => do
    let c ← searchPages py provider request started kind (provider.limits.maxPages - c.pageCount)
      none c
    if ← stopped provider request started c then return c else searchKinds started rest c

/-! ## What an entry is read as -/

/-- The entry as it is read; trusted domains are none. -/
def readEntry (kind : SearchKind) (raw : LdapEntry) : Py (Option DirectoryEntry) := do
  if ← isTrust py kind raw then return none
  else return some (← directoryEntry py kind raw).1

/-- The entries of a list that are no trusted domains. -/
def readEntries (kind : SearchKind) (raws : List LdapEntry) : Py (List DirectoryEntry) := do
  return (← raws.mapM (readEntry py kind)).reduceOption

/-- The entries are within the budgets, and their names differ. -/
structure Safe (c : Collected) : Prop where
  entries_le : c.entries.length ≤ request.limits.maxEntries
  seen_eq : c.seenDns = c.entries.map (normalizedDn py)
  distinct : (c.entries.map (normalizedDn py)).Nodup
  count_eq : c.membershipCount = membershipCount c.entries
  memberships_le : c.membershipCount ≤ request.limits.maxMemberships

end Collection

variable {py : Builtins} {provider : ActiveDirectoryIdentityProvider}
  {request : IdentityCollectionRequest} {kind : SearchKind} {raw : LdapEntry} {c c' : Collected}

theorem safe_start : Safe py request Collected.start :=
  ⟨Nat.zero_le _, rfl, List.nodup_nil, rfl, Nat.zero_le _⟩

theorem readEntries_append {raws raws' : List LdapEntry} {l l' : List DirectoryEntry}
    (h : readEntries py kind raws = .ok l) (h' : readEntries py kind raws' = .ok l') :
    readEntries py kind (raws ++ raws') = .ok (l ++ l') := by
  simp only [readEntries, bind_eq_ok, pure_eq_ok, Except.ok.injEq] at h h' ⊢
  obtain ⟨read, hread, rfl⟩ := h
  obtain ⟨read', hread', rfl⟩ := h'
  refine ⟨read ++ read', ?_, List.reduceOption_append _ _⟩
  rw [List.mapM_append, hread, hread']
  rfl

theorem readEntries_singleton {read : Option DirectoryEntry}
    (h : readEntry py kind raw = .ok read) : readEntries py kind [raw] = .ok read.toList := by
  simp only [readEntries, List.mapM_cons, List.mapM_nil, h, ok_bind, pure_eq_ok]
  cases read <;> rfl

/-! ## What one entry changes -/

/-- The collected entries are the same, and what is marked stays marked. -/
structure SameEntries (c c' : Collected) : Prop where
  entries_eq : c'.entries = c.entries
  seen_eq : c'.seenDns = c.seenDns
  count_eq : c'.membershipCount = c.membershipCount
  pages_eq : c'.pageCount = c.pageCount
  grows : Marks.Grows c.marks c'.marks

theorem SameEntries.refl (c : Collected) : SameEntries c c := ⟨rfl, rfl, rfl, rfl, Marks.Grows.refl _⟩

theorem sameEntries_mark (c : Collected) (reason : String) : SameEntries c (c.mark reason) :=
  ⟨rfl, rfl, rfl, rfl, Marks.grows_mark _ _⟩

theorem SameEntries.trans {c'' : Collected} (h : SameEntries c c') (h' : SameEntries c' c'') :
    SameEntries c c'' :=
  ⟨h'.entries_eq.trans h.entries_eq, h'.seen_eq.trans h.seen_eq, h'.count_eq.trans h.count_eq,
    h'.pages_eq.trans h.pages_eq, h.grows.trans h'.grows⟩

theorem SameEntries.safe (h : SameEntries c c') (hs : Safe py request c) : Safe py request c' := by
  obtain ⟨hle, hseen, hdistinct, hcount, hmembers⟩ := hs
  constructor
  · rw [h.entries_eq]
    exact hle
  · rw [h.entries_eq, h.seen_eq]
    exact hseen
  · rw [h.entries_eq]
    exact hdistinct
  · rw [h.entries_eq, h.count_eq]
    exact hcount
  · rw [h.count_eq]
    exact hmembers

theorem takeTrust_same (h : takeTrust py provider raw c = .ok c') : SameEntries c c' := by
  unfold takeTrust at h
  by_cases hfull : provider.limits.maxTrusts ≤ c.trusts.length
  · rw [if_pos hfull] at h
    obtain rfl := Except.ok.inj h
    exact sameEntries_mark _ _
  · rw [if_neg hfull, bind_eq_ok] at h
    obtain ⟨attributes, -, h⟩ := h
    by_cases hpartner : attributeText attributes ["trustPartner", "flatName"] = ""
    · rw [if_pos hpartner] at h
      obtain rfl := Except.ok.inj h
      exact sameEntries_mark _ _
    · rw [if_neg hpartner, bind_eq_ok] at h
      obtain ⟨trust, -, h⟩ := h
      cases trust with
      | none =>
        obtain rfl := Except.ok.inj h
        exact sameEntries_mark _ _
      | some trust =>
        obtain rfl := Except.ok.inj h
        exact ⟨rfl, rfl, rfl, rfl, Marks.Grows.refl _⟩

/-- Only groups have members. -/
theorem members_eq_nil {entry : DirectoryEntry} (h : entry.kind ≠ .group) : entry.members = [] := by
  have hvalid := entry.valid
  simp only [checkEntry, bind_eq_ok, raiseIf_eq_ok, not_and, not_not] at hvalid
  obtain ⟨_, -, _, -, _, -, _, hmembers, -⟩ := hvalid
  exact hmembers h

/-- **What is admitted of an entry** fits the budget, and is the entry unless it is marked. -/
theorem admitMembers_some {entry entry' : DirectoryEntry}
    (h : admitMembers request entry c = .ok (some (entry', c')))
    (hle : c.membershipCount ≤ request.limits.maxMemberships) :
    SameEntries c c' ∧ entry'.distinguishedName = entry.distinguishedName ∧
      c.membershipCount + entry'.members.length ≤ request.limits.maxMemberships ∧
      (c'.marks.truncated = false → entry' = entry) := by
  unfold admitMembers at h
  by_cases hgroup : entry.kind = .group ∧ entry.members ≠ []
  · rw [if_pos hgroup] at h
    by_cases hnone : request.limits.maxMemberships - c.membershipCount = 0
    · rw [if_pos hnone] at h
      exact absurd h (by simp)
    · rw [if_neg hnone] at h
      by_cases hcut : request.limits.maxMemberships - c.membershipCount < entry.members.length
      · rw [if_pos hcut, bind_eq_ok] at h
        obtain ⟨cut, hmake, h⟩ := h
        rw [DirectoryEntry.make_eq_ok] at hmake
        simp only [pure_eq_ok, Except.ok.injEq, Option.some.injEq, Prod.mk.injEq] at h
        obtain ⟨rfl, rfl⟩ := h
        refine ⟨sameEntries_mark _ _, by rw [hmake], ?_, fun hfalse => ?_⟩
        · rw [hmake, List.length_take]
          omega
        · exact absurd hfalse (by simp [Collected.mark, Marks.mark_truncated])
      · rw [if_neg hcut] at h
        simp only [pure_eq_ok, Except.ok.injEq, Option.some.injEq, Prod.mk.injEq] at h
        obtain ⟨rfl, rfl⟩ := h
        exact ⟨SameEntries.refl _, rfl, by omega, fun _ => rfl⟩
  · rw [if_neg hgroup] at h
    simp only [pure_eq_ok, Except.ok.injEq, Option.some.injEq, Prod.mk.injEq] at h
    obtain ⟨rfl, rfl⟩ := h
    have hempty : entry.members = [] := by
      by_contra hne
      exact hne (members_eq_nil fun hkind => hgroup ⟨hkind, hne⟩)
    exact ⟨SameEntries.refl _, rfl, by rw [hempty]; exact hle, fun _ => rfl⟩

theorem exceptValueError_cases {α : Type} {x : Py α} {default a : α}
    (h : exceptValueError x default = .ok a) : x = .ok a ∨ a = default := by
  unfold exceptValueError at h
  cases x with
  | ok b => exact .inl h
  | error e =>
    by_cases he : e.cls.isValueError = true
    · simp only [he, if_true, pure_eq_ok, Except.ok.injEq] at h
      exact .inr h.symm
    · simp [he] at h

theorem safeSid_grows {attributes : Attributes} {description : String} {marks : Marks}
    {found : Option String × Marks} (h : safeSid attributes description marks = .ok found) :
    Marks.Grows marks found.2 := by
  rcases exceptValueError_cases h with hread | rfl
  · simp only [bind_eq_ok, pure_eq_ok, Except.ok.injEq] at hread
    obtain ⟨sid, -, rfl⟩ := hread
    exact Marks.Grows.refl _
  · exact Marks.grows_mark _ _

theorem safePrimaryGroupId_grows {attributes : Attributes} {marks : Marks}
    {found : Option Int × Marks} (h : safePrimaryGroupId py attributes marks = .ok found) :
    Marks.Grows marks found.2 := by
  rcases exceptValueError_cases h with hread | rfl
  · simp only [bind_eq_ok, pure_eq_ok, Except.ok.injEq] at hread
    obtain ⟨primaryGroupId, -, rfl⟩ := hread
    exact Marks.Grows.refl _
  · exact Marks.grows_mark _ _

/-- An entry that is recorded is the last of the entries. -/
structure Recorded (py : Builtins) (entry : DirectoryEntry) (c c' : Collected) : Prop where
  entries_eq : c'.entries = c.entries ++ [entry]
  seen_eq : c'.seenDns = c.seenDns ++ [normalizedDn py entry]
  count_eq : c'.membershipCount = c.membershipCount + entry.members.length
  pages_eq : c'.pageCount = c.pageCount
  grows : Marks.Grows c.marks c'.marks

theorem recordEntry_recorded {entry : DirectoryEntry} (h : recordEntry py raw entry c = .ok c') :
    Recorded py entry c c' := by
  simp only [recordEntry, bind_eq_ok] at h
  obtain ⟨attributes, -, h⟩ := h
  by_cases hkind : entry.kind = .group
  · rw [if_pos hkind, bind_eq_ok] at h
    obtain ⟨sid, hsid, h⟩ := h
    obtain rfl := Except.ok.inj h
    exact ⟨rfl, rfl, rfl, rfl, safeSid_grows hsid⟩
  · simp only [if_neg hkind, bind_eq_ok] at h
    obtain ⟨primaryGroupId, hprimary, sid, hsid, spns, -, delegates, -, h⟩ := h
    obtain rfl := Except.ok.inj h
    exact ⟨rfl, rfl, rfl, rfl, (safePrimaryGroupId_grows hprimary).trans (safeSid_grows hsid)⟩

theorem Recorded.safe {entry : DirectoryEntry} (h : Recorded py entry c c')
    (hs : Safe py request c) (hnew : normalizedDn py entry ∉ c.seenDns)
    (hroom : c.entries.length < request.limits.maxEntries)
    (hmembers : c.membershipCount + entry.members.length ≤ request.limits.maxMemberships) :
    Safe py request c' := by
  rw [hs.seen_eq] at hnew
  constructor
  · rw [h.entries_eq, List.length_append, List.length_singleton]
    exact hroom
  · rw [h.seen_eq, h.entries_eq, hs.seen_eq, List.map_append, List.map_singleton]
  · rw [h.entries_eq, ← keepFirst_of_notMem hnew]
    exact keys_keepFirst_nodup hs.distinct entry
  · rw [h.count_eq, h.entries_eq, hs.count_eq, membershipCount, membershipCount, List.map_append,
      List.sum_append, List.map_singleton, List.sum_singleton]
  · rw [h.count_eq]
    exact hmembers

end NightRecon.RedEngine.ActiveDirectoryProvider
