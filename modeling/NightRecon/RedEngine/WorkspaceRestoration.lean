import NightRecon.RedEngine.WorkspaceRecovery

/-!
# What a restoration leaves

The restoration of `nightrecon_red_engine/workspace_recovery.py`, on the backup of a root and on any
archive.

* `Verified` — what the verification of an archive establishes;
* `HoldsEntries` — the temporary tree holds the entries' files and no other
  (`writeEntries_holds`); `Admits.written` — the files of a root can be written;
* `Restored` — a tree holds what a manifest lists; `backup_and_restore` — every root and every
  archive.
-/

namespace NightRecon.RedEngine.WorkspaceRecovery

open NightRecon.Lib
open NightRecon.Lib.Checks
open NightRecon.Lib.Collect
open NightRecon.Lib.PurePosixPath
open NightRecon.Documents

section Functions

variable (repr : String → String) (isOne : String → Bool) (fileDigest : List ZipMember → String)

/-! ## What verification establishes -/

/-- The item is read to the entry. -/
structure Reads (item : Json) (entry : WorkspaceBackupEntry) : Prop where
  path : ∃ text, item.get? "path" = some (.str text) ∧ Safe text ∧
    entry.path = posixStr (posixParts text)
  size : ∃ size, item.get? "size" = some size ∧ asSize size = .ok entry.size
  digest : item.get? "sha256" = some (.str entry.sha256)

theorem Reads.parts {item : Json} {entry : WorkspaceBackupEntry} (h : Reads item entry) :
    ∃ text, item.get? "path" = some (.str text) ∧ Safe text ∧
      posixParts entry.path = posixParts text := by
  obtain ⟨text, htext, hsafe, hpath⟩ := h.path
  refine ⟨text, htext, hsafe, ?_⟩
  rw [hpath]
  exact posixParts_posixStr fun c hc => mem_posixParts hc

/-- An entry's path is the text of its components. -/
theorem Reads.path_eq {item : Json} {entry : WorkspaceBackupEntry} (h : Reads item entry) :
    posixStr (posixParts entry.path) = entry.path := by
  obtain ⟨text, -, -, hpath⟩ := h.path
  rw [hpath, posixParts_posixStr fun c hc => mem_posixParts hc]

theorem asDigest_eq_ok {value : Json} {digest : String} (h : asDigest value = .ok digest) :
    value = .str digest := by
  cases value with
  | str s =>
    obtain ⟨-, hs⟩ := require_bind_eq_ok.mp h
    exact congrArg Json.str (Except.ok.inj hs)
  | _ => exact nomatch h

theorem asPath_eq_ok {value : Json} {path : String} (h : asPath value = .ok path) :
    value = .str path := by
  cases value with
  | str s => exact congrArg Json.str (Except.ok.inj h)
  | _ => exact nomatch h

/-- **One turn of the loop over the items** reads one more entry, with a new path. -/
theorem readEntry_reads {entries entries' : List WorkspaceBackupEntry} {item : Json}
    (h : readEntry repr entries item = .ok entries') :
    ∃ entry, Reads item entry ∧ entry.path ∉ entries.map (·.path) ∧
      entries' = entries ++ [entry] := by
  rw [readEntry, require_bind_eq_ok, bind_eq_ok] at h
  obtain ⟨-, argument, hargument, h⟩ := h
  rw [bind_eq_ok] at h
  obtain ⟨parts, hparts, h⟩ := h
  dsimp only at h
  rw [raiseIf_bind_eq_ok, bind_eq_ok] at h
  obtain ⟨hnew, size, hsize, h⟩ := h
  rw [bind_eq_ok] at h
  obtain ⟨digest, hdigest, h⟩ := h
  rw [raiseIf_bind_eq_ok] at h
  obtain ⟨-, h⟩ := h
  obtain rfl := Except.ok.inj h
  obtain ⟨pathValue, hpathValue, hpath⟩ := bind_eq_ok.mp hargument
  obtain ⟨sizeValue, hsizeValue, hsize⟩ := bind_eq_ok.mp hsize
  obtain ⟨digestValue, hdigestValue, hdigest⟩ := bind_eq_ok.mp hdigest
  obtain ⟨hsafe, rfl⟩ := (safeRelative_eq_ok repr).mp hparts
  refine ⟨_, ⟨⟨argument, ?_, hsafe, rfl⟩, ⟨sizeValue, getItem_eq_ok.mp hsizeValue, hsize⟩, ?_⟩,
    fun hold => hnew (Or.inr hold), rfl⟩
  · rw [← asPath_eq_ok hpath]
    exact getItem_eq_ok.mp hpathValue
  · rw [← asDigest_eq_ok hdigest]
    exact getItem_eq_ok.mp hdigestValue

/-- **The items of a manifest and the entries they are read to.** -/
theorem readEntries_reads {items : List Json} {entries : List WorkspaceBackupEntry}
    (h : items.foldlM (readEntry repr) [] = .ok entries) :
    List.Forall₂ Reads items entries ∧ (entries.map (·.path)).Nodup := by
  refine foldlM_induct (P := fun done entries => List.Forall₂ Reads done entries ∧
    (entries.map (·.path)).Nodup) ?_ items [] [] entries ⟨.nil, List.nodup_nil⟩ h
  rintro done item entries entries' ⟨hreads, hnodup⟩ hturn
  obtain ⟨entry, hentry, hnew, rfl⟩ := readEntry_reads repr hturn
  refine ⟨List.rel_append hreads (.cons hentry .nil), ?_⟩
  rw [List.map_append, List.nodup_append]
  refine ⟨hnodup, List.nodup_singleton _, ?_⟩
  intro path hpath path' hpath' heq
  rw [heq, List.mem_singleton.mp hpath'] at hpath
  exact hnew hpath

/-- What is verified of the members of an archive, by the items of its manifest. -/
structure Verified (infos : List ZipMember) (items : List Json)
    (entries : List WorkspaceBackupEntry) : Prop where
  reads : List.Forall₂ Reads items entries
  paths : (entries.map (·.path)).Nodup
  checked : ∀ entry ∈ entries, ∃ data, readMember infos entry.path = .ok data ∧
    data.length = entry.size ∧ sha256Bytes data = entry.sha256

/-- The archive's manifest lists the items. -/
def Lists (infos : List ZipMember) (items : List Json) : Prop :=
  ∃ bytes payload, manifestDocument infos = .ok (bytes, payload) ∧
    payload.get? "files" = some (.arr items)

theorem asArr_eq_ok {value : Option Json} {message : String} {elems : List Json}
    (h : asArr value message = .ok elems) : value = some (.arr elems) := by
  unfold asArr at h
  split at h
  · rw [Except.ok.inj h]
  · exact nomatch h

theorem checkEntry_eq_ok {infos : List ZipMember} {entry : WorkspaceBackupEntry}
    (h : checkEntry infos entry = .ok ()) : ∃ data, readMember infos entry.path = .ok data ∧
      data.length = entry.size ∧ sha256Bytes data = entry.sha256 := by
  rw [checkEntry, bind_eq_ok] at h
  obtain ⟨data, hread, h⟩ := h
  rw [raiseIf_bind_eq_ok, raiseIf_eq_ok] at h
  exact ⟨data, hread, of_not_not h.1, of_not_not h.2⟩

/-- **An archive that verifies.** -/
theorem loadVerifiedManifest_verified {archive : Option ArchiveFile} {bytes : List UInt8}
    {entries : List WorkspaceBackupEntry}
    (h : loadVerifiedManifest repr isOne archive = .ok (bytes, entries)) :
    ∃ file infos items, archive = some file ∧ file.members = .ok infos ∧ Lists infos items ∧
      Verified infos items entries := by
  rw [loadVerifiedManifest, bind_eq_ok] at h
  obtain ⟨file, hfile, h⟩ := h
  rw [bind_eq_ok] at h
  obtain ⟨infos, hinfos, h⟩ := h
  dsimp only at h
  rw [raiseIf_bind_eq_ok, require_bind_eq_ok, require_bind_eq_ok, unit_bind_eq_ok, bind_eq_ok] at h
  obtain ⟨-, -, -, -, ⟨bytes', payload⟩, hdocument, h⟩ := h
  dsimp only at h
  rw [bind_eq_ok] at h
  obtain ⟨items, hitems, h⟩ := h
  rw [bind_eq_ok] at h
  obtain ⟨entries', hentries, h⟩ := h
  rw [require_bind_eq_ok, unit_bind_eq_ok] at h
  obtain ⟨-, hchecks, h⟩ := h
  obtain ⟨-, rfl⟩ := Prod.mk.inj (Except.ok.inj h)
  obtain ⟨hreads, hpaths⟩ := readEntries_reads repr hentries
  refine ⟨file, infos, items, getOrRaise_eq_ok.mp hfile, hinfos,
    ⟨bytes', payload, hdocument, ?_⟩, hreads, hpaths, ?_⟩
  · rw [manifestItems, require_bind_eq_ok, bind_eq_ok] at hitems
    obtain ⟨-, _, -, hitems⟩ := hitems
    rw [require_bind_eq_ok, bind_eq_ok] at hitems
    obtain ⟨-, _, -, hitems⟩ := hitems
    exact asArr_eq_ok (require_bind_eq_ok.mp hitems).2
  · intro entry hentry
    exact checkEntry_eq_ok (forM_eq_ok.mp hchecks entry hentry)

/-! ## What restoration writes -/

/-- Nothing in the tree stands in the way of a file. -/
structure Fits (tree : Tree) (parts : Path) : Prop where
  nonempty : parts ≠ []
  above : ∀ p ∈ tree, p <+: parts → p = parts
  below : ∀ p ∈ tree, parts <+: p → p = parts

theorem writeFile_eq_ok {outcomes : Outcomes} {tree tree' : Tree} {parts : Path}
    {data : List UInt8} :
    writeFile outcomes tree parts data = .ok tree' ↔
      Fits tree parts ∧ outcomes.write parts = .ok () ∧ tree.insert parts data = tree' := by
  rw [writeFile, raiseIf_bind_eq_ok, raiseIf_bind_eq_ok, unit_bind_eq_ok, pure_eq_ok,
    Except.ok.injEq]
  constructor
  · rintro ⟨habove, hbelow, hwrite, heq⟩
    refine ⟨⟨fun h => hbelow (Or.inl h), ?_, ?_⟩, hwrite, heq⟩
    · intro p hp hle
      by_contra hne
      exact habove ⟨p, Finmap.mem_keys.mpr hp, hle, hne⟩
    · intro p hp hle
      by_contra hne
      exact hbelow (Or.inr ⟨p, Finmap.mem_keys.mpr hp, hle, hne⟩)
  · rintro ⟨hfits, hwrite, heq⟩
    refine ⟨?_, ?_, hwrite, heq⟩
    · rintro ⟨p, hp, hle, hne⟩
      exact hne (hfits.above p (Finmap.mem_keys.mp hp) hle)
    · rintro (hnil | ⟨p, hp, hle, hne⟩)
      · exact hfits.nonempty hnil
      · exact hne (hfits.below p (Finmap.mem_keys.mp hp) hle)

theorem writeEntry_eq_ok {infos : List ZipMember} {outcomes : Outcomes} {tree tree' : Tree}
    {entry : WorkspaceBackupEntry} :
    writeEntry infos outcomes tree entry = .ok tree' ↔
      ∃ data, readMember infos entry.path = .ok data ∧ Fits tree (posixParts entry.path) ∧
        outcomes.write (posixParts entry.path) = .ok () ∧ sha256Bytes data = entry.sha256 ∧
          tree.insert (posixParts entry.path) data = tree' := by
  simp only [writeEntry, bind_eq_ok, writeFile_eq_ok, raiseIf_eq_ok, pure_eq_ok, Except.ok.injEq,
    not_not]
  constructor
  · rintro ⟨data, hread, written, ⟨hfits, hwrite, rfl⟩, _, hdigest, rfl⟩
    exact ⟨data, hread, hfits, hwrite, hdigest, rfl⟩
  · rintro ⟨data, hread, hfits, hwrite, hdigest, rfl⟩
    exact ⟨data, hread, _, ⟨hfits, hwrite, rfl⟩, (), hdigest, rfl⟩

/-- The tree holds the entries' files and no other. -/
def HoldsEntries (infos : List ZipMember) (entries : List WorkspaceBackupEntry) (tree : Tree) :
    Prop :=
  ∀ parts data, tree.lookup parts = some data ↔
    ∃ entry ∈ entries, posixParts entry.path = parts ∧ readMember infos entry.path = .ok data

/-- One more entry. -/
theorem writeEntry_holds {infos : List ZipMember} {outcomes : Outcomes} {tree tree' : Tree}
    {done : List WorkspaceBackupEntry} {entry : WorkspaceBackupEntry}
    (h : HoldsEntries infos done tree)
    (hnew : posixParts entry.path ∉ done.map fun e => posixParts e.path)
    (hturn : writeEntry infos outcomes tree entry = .ok tree') :
    HoldsEntries infos (done ++ [entry]) tree' := by
  obtain ⟨data, hread, -, -, -, rfl⟩ := writeEntry_eq_ok.mp hturn
  intro parts data'
  rw [Dict.lookup_insert_eq]
  by_cases hparts : parts = posixParts entry.path
  · rw [if_pos hparts, Option.some.injEq]
    constructor
    · rintro rfl
      exact ⟨entry, List.mem_append_right _ List.mem_cons_self, hparts.symm, hread⟩
    · rintro ⟨e, he, hpath, hdata⟩
      rcases List.mem_append.mp he with he | he
      · exact absurd (List.mem_map.mpr ⟨e, he, hpath.trans hparts⟩) hnew
      · rw [List.mem_singleton.mp he, hread] at hdata
        exact Except.ok.inj hdata
  · rw [if_neg hparts, h]
    constructor
    · rintro ⟨e, he, hdata⟩
      exact ⟨e, List.mem_append_left _ he, hdata⟩
    · rintro ⟨e, he, hpath, hdata⟩
      rcases List.mem_append.mp he with he | he
      · exact ⟨e, he, hpath, hdata⟩
      · rw [List.mem_singleton.mp he] at hpath
        exact absurd hpath.symm hparts

theorem holdsEntries_nil (infos : List ZipMember) : HoldsEntries infos [] ∅ := by
  intro parts data
  rw [Finmap.lookup_empty]
  constructor
  · nofun
  · rintro ⟨e, he, -⟩
    exact absurd he List.not_mem_nil

/-- **What a completed loop wrote.** -/
theorem writeEntries_holds {infos : List ZipMember} {outcomes : Outcomes} {tree : Tree}
    {entries : List WorkspaceBackupEntry}
    (hnodup : (entries.map fun e => posixParts e.path).Nodup)
    (h : entries.foldlM (writeEntry infos outcomes) ∅ = .ok tree) :
    HoldsEntries infos entries tree := by
  refine foldlM_induct (P := fun done tree => (done.map fun e => posixParts e.path).Nodup →
    HoldsEntries infos done tree) ?_ entries [] ∅ tree (fun _ => holdsEntries_nil infos) h hnodup
  intro done entry tree tree' hdone hturn hnodup
  rw [List.map_append, List.nodup_append] at hnodup
  apply writeEntry_holds (hdone hnodup.1) ?_ hturn
  intro hold
  exact hnodup.2.2 _ hold _ List.mem_cons_self rfl

/-- **The files of a root can be written one after another.** -/
theorem Admits.written {source : WorkspaceRoot} {entries : List WorkspaceBackupEntry}
    {files : List (Path × List UInt8)} (h : Admits source.nodes entries files)
    {done todo : List (Path × List UInt8)} (hfiles : files = done ++ todo) {tree : Tree}
    (htree : HoldsEntries (backupMembers entries files) (done.map entryOf) tree) :
    ∃ tree', (todo.map entryOf).foldlM (writeEntry (backupMembers entries files) .smooth) tree =
      .ok tree' := by
  induction todo generalizing done tree with
  | nil => exact ⟨tree, rfl⟩
  | cons file todo ih =>
    have hmem : file ∈ files := by
      rw [hfiles]
      exact List.mem_append_right _ List.mem_cons_self
    have hparts : posixParts (entryOf file).path = file.1 := h.parts_eq hmem
    have hheld : ∀ p ∈ tree, ∃ other ∈ files, other.1 = p := by
      intro p hp
      obtain ⟨data, hdata⟩ := Finmap.mem_iff.mp hp
      obtain ⟨entry, hentry, hpath, -⟩ := (htree p data).mp hdata
      obtain ⟨other, hother, rfl⟩ := List.mem_map.mp hentry
      have hotherMem : other ∈ files := by
        rw [hfiles]
        exact List.mem_append_left _ hother
      exact ⟨other, hotherMem, (h.parts_eq hotherMem).symm.trans hpath⟩
    have hfits : Fits tree (posixParts (entryOf file).path) := by
      rw [hparts]
      refine ⟨source.below _ (h.mem_nodes hmem), ?_, ?_⟩
      · intro p hp hle
        obtain ⟨other, hother, rfl⟩ := hheld p hp
        exact h.leaves hother hmem hle
      · intro p hp hle
        obtain ⟨other, hother, rfl⟩ := hheld p hp
        exact (h.leaves hmem hother hle).symm
    have hturn : writeEntry (backupMembers entries files) .smooth tree (entryOf file) =
        .ok (tree.insert (posixParts (entryOf file).path) file.2) :=
      writeEntry_eq_ok.mpr ⟨file.2, h.read_file hmem, hfits, rfl, rfl, rfl⟩
    have hnew : posixParts (entryOf file).path ∉
        (done.map entryOf).map fun e => posixParts e.path := by
      intro hold
      obtain ⟨entry, hentry, hpath⟩ := List.mem_map.mp hold
      obtain ⟨other, hother, rfl⟩ := List.mem_map.mp hentry
      have hotherMem : other ∈ files := by
        rw [hfiles]
        exact List.mem_append_left _ hother
      have heq : other.1 = file.1 := by
        rw [← h.parts_eq hotherMem, ← hparts]
        exact hpath
      have hnodup := h.paths_nodup
      rw [hfiles, List.map_append, List.nodup_append] at hnodup
      exact hnodup.2.2 _ (List.mem_map_of_mem hother) _ List.mem_cons_self heq
    have hnext := writeEntry_holds htree hnew hturn
    rw [← List.map_singleton (f := entryOf), ← List.map_append] at hnext
    have hfiles' : files = (done ++ [file]) ++ todo := by
      rw [hfiles, List.append_assoc]
      rfl
    obtain ⟨tree', htree'⟩ := ih hfiles' hnext
    refine ⟨tree', ?_⟩
    rw [List.map_cons, List.foldlM_cons, hturn, ok_bind, htree']

/-! ## Creating and restoring -/

/-- A restoration into an absent destination puts the temporary tree there, or nothing. -/
theorem restoreWorkspaceBackup_absent (archive : Option ArchiveFile) (outcomes : Outcomes) :
    restoreWorkspaceBackup repr isOne archive outcomes none =
      match temporaryTree repr isOne archive outcomes with
      | .ok (report, tree) => (.ok report, some tree)
      | .error e => (.error e, none) := by
  rw [restoreWorkspaceBackup, Proc.bind_apply, Proc.get_apply]
  dsimp only
  rw [raiseIf_of_not (by simp), Proc.bind_apply, Proc.ofExcept_apply]
  dsimp only
  rw [Proc.bind_apply, Proc.ofExcept_apply]
  cases temporaryTree repr isOne archive outcomes with
  | ok result => rfl
  | error e => rfl

/-- The item of a manifest declares a file with these bytes at this path. -/
structure Declares (item : Json) (parts : Path) (data : List UInt8) : Prop where
  path : ∃ text, item.get? "path" = some (.str text) ∧ posixParts text = parts
  size : ∃ size, item.get? "size" = some size ∧ asSize size = .ok data.length
  digest : item.get? "sha256" = some (.str (sha256Bytes data))

/-- The path names something below the directory it is joined to. -/
structure Inside (parts : Path) : Prop where
  nonempty : parts ≠ []
  components : ∀ c ∈ parts, IsComponent c ∧ c ≠ ".."

/-- A tree holds the files of a manifest's items, and no other. -/
structure Restored (items : List Json) (tree : Tree) : Prop where
  complete : ∀ item ∈ items, ∃ parts data, Declares item parts data ∧
    tree.lookup parts = some data
  only : ∀ parts data, tree.lookup parts = some data →
    Inside parts ∧ ∃ item ∈ items, Declares item parts data

/-- A file was never written in place of the destination itself. -/
theorem writeEntries_nonempty {infos : List ZipMember} {outcomes : Outcomes} {tree : Tree}
    {entries : List WorkspaceBackupEntry}
    (h : entries.foldlM (writeEntry infos outcomes) ∅ = .ok tree) : [] ∉ tree := by
  refine foldlM_induct_mem (P := fun tree : Tree => [] ∉ tree) ?_ Finmap.notMem_empty h
  intro entry _ tree tree' hnil hturn hmem
  obtain ⟨data, -, hfits, -, -, rfl⟩ := writeEntry_eq_ok.mp hturn
  rcases Finmap.mem_insert.mp hmem with heq | hmem
  · exact hfits.nonempty heq.symm
  · exact hnil hmem

section Verified

variable {infos : List ZipMember} {items : List Json} {entries : List WorkspaceBackupEntry}
  (h : Verified infos items entries)
include h

theorem Verified.exists_item {entry : WorkspaceBackupEntry} (hentry : entry ∈ entries) :
    ∃ item ∈ items, Reads item entry := by
  obtain ⟨n, hn, rfl⟩ := List.mem_iff_getElem.mp hentry
  have hlength := h.reads.length_eq
  exact ⟨items[n], List.getElem_mem _, h.reads.get (by omega) hn⟩

theorem Verified.exists_entry {item : Json} (hitem : item ∈ items) :
    ∃ entry ∈ entries, Reads item entry := by
  obtain ⟨n, hn, rfl⟩ := List.mem_iff_getElem.mp hitem
  have hlength := h.reads.length_eq
  exact ⟨entries[n], List.getElem_mem _, h.reads.get hn (by omega)⟩

/-- **Entries differ in their components.** -/
theorem Verified.parts_nodup : (entries.map fun e => posixParts e.path).Nodup := by
  have hnodup := h.paths
  rw [List.nodup_iff_pairwise_ne, List.pairwise_map] at hnodup ⊢
  apply hnodup.imp_of_mem
  intro entry entry' hentry hentry' hne heq
  obtain ⟨_, -, hreads⟩ := h.exists_item hentry
  obtain ⟨_, -, hreads'⟩ := h.exists_item hentry'
  apply hne
  rw [← hreads.path_eq, heq, hreads'.path_eq]

/-- The file that was verified for an entry is the one its item declares. -/
theorem Verified.declares {item : Json} {entry : WorkspaceBackupEntry} {data : List UInt8}
    (hentry : entry ∈ entries) (hitem : Reads item entry)
    (hread : readMember infos entry.path = .ok data) :
    Declares item (posixParts entry.path) data := by
  obtain ⟨data', hread', hsize, hdigest⟩ := h.checked entry hentry
  obtain rfl : data' = data := Except.ok.inj (hread'.symm.trans hread)
  obtain ⟨text, htext, -, hparts⟩ := hitem.parts
  refine ⟨⟨text, htext, hparts.symm⟩, ?_, ?_⟩
  · rw [hsize]
    exact hitem.size
  · rw [hdigest]
    exact hitem.digest

/-- **The written tree holds what the manifest lists.** -/
theorem Verified.restored {outcomes : Outcomes} {tree : Tree}
    (hwrite : entries.foldlM (writeEntry infos outcomes) ∅ = .ok tree) : Restored items tree := by
  have hholds := writeEntries_holds h.parts_nodup hwrite
  constructor
  · intro item hitem
    obtain ⟨entry, hentry, hreads⟩ := h.exists_entry hitem
    obtain ⟨data, hread, -⟩ := h.checked entry hentry
    exact ⟨_, data, h.declares hentry hreads hread,
      (hholds _ data).mpr ⟨entry, hentry, rfl, hread⟩⟩
  · intro parts data hlookup
    obtain ⟨entry, hentry, rfl, hread⟩ := (hholds parts data).mp hlookup
    obtain ⟨item, hitem, hreads⟩ := h.exists_item hentry
    obtain ⟨text, -, hsafe, hparts⟩ := hreads.parts
    refine ⟨⟨?_, ?_⟩, item, hitem, h.declares hentry hreads hread⟩
    · intro hnil
      rw [hnil] at hlookup
      exact writeEntries_nonempty hwrite (Finmap.mem_of_lookup_eq_some hlookup)
    · intro c hc
      refine ⟨mem_posixParts hc, fun hup => hsafe.notUp ?_⟩
      rw [hparts, hup] at hc
      exact hc

end Verified

/-- **The temporary tree of any archive** holds what the archive's manifest lists. -/
theorem temporaryTree_restored {archive : Option ArchiveFile} {outcomes : Outcomes}
    {report : WorkspaceBackupReport} {tree : Tree}
    (h : temporaryTree repr isOne archive outcomes = .ok (report, tree)) :
    ∃ file infos items, archive = some file ∧ file.members = .ok infos ∧ Lists infos items ∧
      Restored items tree := by
  rw [temporaryTree, bind_eq_ok] at h
  obtain ⟨_, -, h⟩ := h
  rw [bind_eq_ok] at h
  obtain ⟨⟨bytes, entries⟩, hload, h⟩ := h
  dsimp only at h
  rw [unit_bind_eq_ok, bind_eq_ok] at h
  obtain ⟨-, file', hfile', h⟩ := h
  rw [bind_eq_ok] at h
  obtain ⟨infos', hinfos', h⟩ := h
  rw [bind_eq_ok] at h
  obtain ⟨tree', hwrite, h⟩ := h
  obtain ⟨-, rfl⟩ := Prod.mk.inj (Except.ok.inj (unit_bind_eq_ok.mp h).2)
  obtain ⟨file, infos, items, harchive, hinfos, hlists, hverified⟩ :=
    loadVerifiedManifest_verified repr isOne hload
  obtain rfl : file' = file := Option.some.inj ((getOrRaise_eq_ok.mp hfile').symm.trans harchive)
  obtain rfl : infos' = infos := Except.ok.inj (hinfos'.symm.trans hinfos)
  exact ⟨file', infos', items, harchive, hinfos, hlists, hverified.restored hwrite⟩

/-- What a created backup consists of. -/
theorem createWorkspaceBackup_eq_ok {root output : Path} {source : WorkspaceRoot}
    {outputExists : Bool} {written : Py Unit} {archive : ArchiveFile}
    {report : WorkspaceBackupReport}
    (h : createWorkspaceBackup repr fileDigest root (some source) output outputExists written =
      .ok (archive, report)) :
    ∃ entries files, Admits source.nodes entries files ∧
      archive.members = .ok (backupMembers entries files) ∧
        report = reportOf (manifestBytes entries) entries archive.digest := by
  rw [createWorkspaceBackup, raiseIf_bind_eq_ok, raiseIf_bind_eq_ok, getOrRaise_some, ok_bind,
    bind_eq_ok] at h
  obtain ⟨-, -, entries, hentries, h⟩ := h
  obtain ⟨files, hadmits⟩ := sourceEntries_admits repr hentries
  dsimp only at h
  rw [hadmits.members, ok_bind] at h
  obtain ⟨rfl, rfl⟩ := Prod.mk.inj (Except.ok.inj (unit_bind_eq_ok.mp h).2)
  exact ⟨entries, files, hadmits, rfl, rfl⟩

/-- **A backup is written out as the files it was made from.** -/
theorem Admits.temporaryTree {source : WorkspaceRoot} {entries : List WorkspaceBackupEntry}
    {files : List (Path × List UInt8)} (h : Admits source.nodes entries files) (digest : String) :
    ∃ tree, temporaryTree repr isOne (some ⟨digest, .ok (backupMembers entries files)⟩) .smooth =
      .ok (reportOf (manifestBytes entries) entries digest, tree) ∧
        ∀ parts data, tree.lookup parts = some data ↔ (parts, .file data) ∈ source.nodes := by
  have hempty : HoldsEntries (backupMembers entries files) (([] : List _).map entryOf) ∅ :=
    holdsEntries_nil _
  obtain ⟨tree, hwrite⟩ := h.written (List.nil_append files).symm hempty
  have hparts : (files.map entryOf).map (fun e => posixParts e.path) = files.map (·.1) := by
    rw [List.map_map]
    exact List.map_congr_left fun file hfile => h.parts_eq hfile
  have hnodup := h.paths_nodup
  rw [← hparts] at hnodup
  have hholds := writeEntries_holds hnodup hwrite
  refine ⟨tree, ?_, ?_⟩
  · rw [← h.entries_eq] at hwrite
    rw [WorkspaceRecovery.temporaryTree, verifyWorkspaceBackup, h.verified]
    simp only [ok_bind, getOrRaise_some, pure_eq_ok, Outcomes.smooth] at hwrite ⊢
    rw [hwrite]
    rfl
  · intro parts data
    rw [hholds, h.nodes_eq]
    constructor
    · rintro ⟨entry, hentry, hpath, hread⟩
      obtain ⟨file, hfile, rfl⟩ := List.mem_map.mp hentry
      obtain rfl : data = file.2 := Except.ok.inj (hread.symm.trans (h.read_file hfile))
      obtain rfl : file.1 = parts := (h.parts_eq hfile).symm.trans hpath
      exact List.mem_map_of_mem hfile
    · intro hmem
      obtain ⟨file, hfile, heq⟩ := List.mem_map.mp hmem
      obtain ⟨rfl, hdata⟩ := Prod.mk.inj heq
      obtain rfl := Node.file.inj hdata
      exact ⟨entryOf file, List.mem_map_of_mem hfile, h.parts_eq hfile, h.read_file hfile⟩

end Functions

example : ∃ source : WorkspaceRoot, source.nodes = [(["notes", "a.txt"], .file [104, 105])] ∧
    (createWorkspaceBackup id (fun _ => "") ["w"] (some source) ["b"] false (.ok ())).isOk := by
  refine ⟨⟨[(["notes", "a.txt"], .file [104, 105])], List.pairwise_singleton _ _, by simp,
    by
      intro node hnode c hc
      rw [List.mem_singleton.mp hnode] at hc
      rcases List.mem_pair.mp hc with rfl | rfl
      · exact ⟨⟨by decide, by decide, by decide⟩, by decide, by decide⟩
      · exact ⟨⟨by decide, by decide, by decide⟩, by decide, by decide⟩,
    by simp⟩, rfl, by decide +kernel⟩

end NightRecon.RedEngine.WorkspaceRecovery
