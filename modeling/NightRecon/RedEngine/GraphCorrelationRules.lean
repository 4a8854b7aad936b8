import NightRecon.RedEngine.GraphCorrelation

/-!
# What correlation prescribes

The four matching rules of `graph_correlation.py` said of the nodes of a graph, without tables or
loops, and what each turn of the loops adds to the pairs found.

* `Only` — there is exactly one node with a property, and it is this one;
* `Prescribed` — source, target, basis and one proof of a pair;
* `Added`, `tables_of` — the lookup tables are those of the nodes;
* `has_correlateIdentities`, `has_correlateSurfaces`, `has_correlateCloudIdentities` — three of the
  four loops find the pairs of their rule.
-/

namespace NightRecon.RedEngine.GraphCorrelation

open NightRecon.Lib
open NightRecon.Lib.Assoc
open NightRecon.Lib.Checks
open NightRecon.Lib.Collect
open NightRecon.Lib.Text
open NightRecon.RedEngine.GraphBuilder

/-! ## The rules -/

/-- An asset that is not a cloud provider's. -/
def IsPlainAsset (n : GraphNode) : Prop :=
  n.kind = .asset ∧ n.property "cloud_provider" "" = ""

instance (n : GraphNode) : Decidable (IsPlainAsset n) := inferInstanceAs (Decidable (_ ∧ _))

/-- The hostname names the asset. -/
def NamedBy (py : Builtins) (hostname : String) (n : GraphNode) : Prop :=
  IsPlainAsset n ∧ hostname ∈ assetHostnames py n

instance (py : Builtins) (hostname : String) (n : GraphNode) :
    Decidable (NamedBy py hostname n) := inferInstanceAs (Decidable (_ ∧ _))

/-- The asset has this valid address. -/
def AtAddress (address : String) (n : GraphNode) : Prop :=
  IsPlainAsset n ∧ assetAddress n = address ∧ address ≠ ""

instance (address : String) (n : GraphNode) : Decidable (AtAddress address n) :=
  inferInstanceAs (Decidable (_ ∧ _ ∧ _))

/-- The TCP service is at this endpoint. -/
def Serves (py : Builtins) (endpoint : String × Int) (n : GraphNode) : Prop :=
  networkServiceEndpoint py n = some endpoint

instance (py : Builtins) (endpoint : String × Int) (n : GraphNode) :
    Decidable (Serves py endpoint n) := inferInstanceAs (Decidable (_ = _))

/-- The directory identity is this object of the tenant. -/
def HasEntraKey (key : String × String) (n : GraphNode) : Prop := entraIdentityKey n = some key

instance (key : String × String) (n : GraphNode) : Decidable (HasEntraKey key n) :=
  inferInstanceAs (Decidable (_ = _))

/-- An identity that is not a cloud provider's. -/
def IsDirectoryIdentity (n : GraphNode) : Prop :=
  n.kind = .identity ∧ n.property "cloud_provider" "" = ""

instance (n : GraphNode) : Decidable (IsDirectoryIdentity n) := inferInstanceAs (Decidable (_ ∧ _))

/-- An identity of a cloud provider, with its identifier there. -/
def IsCloudIdentity (n : GraphNode) : Prop :=
  n.kind = .identity ∧ n.property "cloud_provider" "" ≠ "" ∧ n.property "cloud_identity_id" "" ≠ ""

instance (n : GraphNode) : Decidable (IsCloudIdentity n) :=
  inferInstanceAs (Decidable (_ ∧ _ ∧ _))

/-- The host of an origin names the asset, by its address when the host is one. -/
def NamesOrigin (py : Builtins) (host : String) (n : GraphNode) : Prop :=
  (canonicalIp host).elim (NamedBy py host n) fun address => AtAddress address n

/-- The key of a cloud resource names the asset. -/
def NamesCloud (py : Builtins) (key : String × String) (n : GraphNode) : Prop :=
  if key.1 ∈ cloudNetworkIpProperties then AtAddress key.2 n else NamedBy py key.2 n

instance (py : Builtins) (key : String × String) (n : GraphNode) :
    Decidable (NamesCloud py key n) := by
  unfold NamesCloud
  infer_instance

/-- The node is the one node of the graph with the property. -/
def Only (g : IdentityGraph) (P : GraphNode → Prop) (n : GraphNode) : Prop :=
  n ∈ g.nodes ∧ P n ∧ ∀ m ∈ g.nodes, P m → m = n

/-- **The rules.**  A pair of source and target, the basis, and one proof.  `eligible` are the
identities whose names are matched. -/
inductive Prescribed (py : Builtins) (eligible : GraphNode → Prop) (g : IdentityGraph) :
    GraphNode → GraphNode → Basis → String → Prop where
  | identityToAsset (identity asset : GraphNode) (hostname : String)
      (hidentity : identity ∈ g.nodes) (hkind : identity.kind = .identity)
      (heligible : eligible identity) (hhostname : hostname ∈ identityHostnames py identity)
      (hasset : Only g (NamedBy py hostname) asset) :
      Prescribed py eligible g identity asset .exactHostname hostname
  | serviceToSurface (service surface asset : GraphNode) (host : String) (port : Int)
      (hsurface : surface ∈ g.nodes)
      (horigin : webSurfaceEndpoint py surface = .ok (some (host, port)))
      (hasset : Only g (NamesOrigin py host) asset)
      (hservice : Only g (Serves py (assetAddress asset, port)) service) :
      Prescribed py eligible g service surface .exactOriginHostPort (originProof host port)
  | assetToCloud (asset resource : GraphNode) (proofs : List (String × String))
      (key : String × String) (hresource : resource ∈ g.nodes)
      (hproofs : cloudNetworkProofs py resource = .ok proofs) (hkey : key ∈ proofs)
      (hasset : asset ∈ g.nodes) (hnames : NamesCloud py key asset)
      (hall : ∀ q ∈ proofs, ∀ n ∈ g.nodes, NamesCloud py q n → n = asset) :
      Prescribed py eligible g asset resource .exactCloudNetworkKey (cloudProof key)
  | directoryToCloud (directory cloudIdentity : GraphNode) (tenantId objectId : String)
      (hcloud : cloudIdentity ∈ g.nodes) (hkind : IsCloudIdentity cloudIdentity)
      (hparts : cloudIdentityEntraParts cloudIdentity = (tenantId, objectId, true))
      (htenant : tenantId ≠ "") (hobject : objectId ≠ "")
      (hdirectory : Only g (HasEntraKey (tenantId, objectId)) directory) :
      Prescribed py eligible g directory cloudIdentity .exactCloudEntraObject
        (entraProof tenantId objectId)

theorem Prescribed.mem {py : Builtins} {eligible : GraphNode → Prop} {g : IdentityGraph}
    {s t : GraphNode} {basis : Basis} {proof : String}
    (h : Prescribed py eligible g s t basis proof) : s ∈ g.nodes ∧ t ∈ g.nodes := by
  cases h with
  | identityToAsset _ hidentity _ _ _ hasset => exact ⟨hidentity, hasset.1⟩
  | serviceToSurface _ _ _ hsurface _ _ hservice => exact ⟨hservice.1, hsurface⟩
  | assetToCloud _ _ hresource _ _ hasset _ _ => exact ⟨hasset, hresource⟩
  | directoryToCloud _ _ hcloud _ _ _ _ hdirectory => exact ⟨hdirectory.1, hcloud⟩

/-! ## The lookup tables -/

section Tables

variable {py : Builtins}

theorem find_push {κ : Type} [DecidableEq κ] (table : List (κ × List GraphNode)) (k : κ)
    (n : GraphNode) (k' : κ) :
    find [] (push table k n) k' = find [] table k' ++ [n].filter fun _ => k' = k := by
  rw [push, find_assign]
  by_cases h : k' = k
  · rw [if_pos h, h, List.filter_cons_of_pos (by simp), List.filter_nil]
  · rw [if_neg h, List.filter_cons_of_neg (by simp [h]), List.filter_nil, List.append_nil]

/-- A node entered under each of several keys. -/
theorem find_pushes {κ : Type} [DecidableEq κ] {ks : List κ} (hks : ks.Nodup)
    (table : List (κ × List GraphNode)) (n : GraphNode) (k' : κ) :
    find [] (ks.foldl (fun m k => push m k n) table) k' =
      find [] table k' ++ [n].filter fun _ => k' ∈ ks := by
  induction ks generalizing table with
  | nil => simp
  | cons k ks ih =>
    obtain ⟨hnew, hrest⟩ := List.nodup_cons.mp hks
    rw [List.foldl_cons, ih hrest, find_push, List.append_assoc]
    congr 1
    by_cases h : k' = k
    · subst h
      simp [hnew]
    · simp [h]

theorem csvHostnames_nodup (value : String) : (csvHostnames py value).Nodup := by
  unfold csvHostnames
  split
  · exact List.nodup_nil
  · exact sortedStr_nodup.mpr (List.nodup_dedup _)

/-- A service that is matched as a web surface is no network service. -/
theorem networkServiceEndpoint_of_surface {n : GraphNode} {endpoint : String × Int}
    (h : webSurfaceEndpoint py n = .ok (some endpoint)) : networkServiceEndpoint py n = none := by
  unfold webSurfaceEndpoint at h
  split at h
  · cases h
  · next hsurface =>
    obtain ⟨-, htype⟩ := not_or.mp hsurface
    rw [not_not] at htype
    have hfilled : n.property "surface_type" "" ≠ "" := by
      intro heq
      rw [heq] at htype
      exact absurd htype (by decide)
    exact if_pos (.inr (.inl hfilled))

/-- The service is matched by its origin. -/
def isWebSurface (py : Builtins) (n : GraphNode) : Bool :=
  (webSurfaceEndpoint py n).toOption.join.isSome

/-- What one node adds to the tables. -/
structure Added (py : Builtins) (t : Tables) (nodes : List GraphNode) (t' : Tables) : Prop where
  hostname : ∀ h, find [] t'.assetsByHostname h =
    find [] t.assetsByHostname h ++ nodes.filter fun n => NamedBy py h n
  address : ∀ a, find [] t'.assetsByAddress a =
    find [] t.assetsByAddress a ++ nodes.filter fun n => AtAddress a n
  service : ∀ e, find [] t'.networkServices e =
    find [] t.networkServices e ++ nodes.filter fun n => Serves py e n
  entra : ∀ k, find [] t'.entraIdentitiesByKey k =
    find [] t.entraIdentitiesByKey k ++ nodes.filter fun n => HasEntraKey k n
  identities : t'.identities = t.identities ++
    nodes.filter fun n => IsDirectoryIdentity n ∧ identityHostnames py n ≠ []
  webSurfaces : t'.webSurfaces = t.webSurfaces ++ nodes.filter fun n => isWebSurface py n
  cloudResources : t'.cloudResources = t.cloudResources ++ nodes.filter fun n => isCloudResource n
  cloudIdentities : t'.cloudIdentities = t.cloudIdentities ++
    nodes.filter fun n => IsCloudIdentity n

theorem filter_pos {p : GraphNode → Bool} {n : GraphNode} (h : p n = true) :
    [n].filter p = [n] := List.filter_cons_of_pos h

theorem filter_neg {p : GraphNode → Bool} {n : GraphNode} (h : ¬ p n = true) :
    [n].filter p = [] := List.filter_cons_of_neg h

theorem filter_one_congr {p q : GraphNode → Bool} {n : GraphNode} (h : p n = q n) :
    [n].filter p = [n].filter q := by
  apply List.filter_congr
  intro m hm
  rw [List.mem_singleton.mp hm, h]

theorem Added.trans {t t' t'' : Tables} {nodes nodes' : List GraphNode}
    (h : Added py t nodes t') (h' : Added py t' nodes' t'') :
    Added py t (nodes ++ nodes') t'' where
  hostname k := by rw [h'.hostname, h.hostname, List.filter_append, List.append_assoc]
  address k := by rw [h'.address, h.address, List.filter_append, List.append_assoc]
  service k := by rw [h'.service, h.service, List.filter_append, List.append_assoc]
  entra k := by rw [h'.entra, h.entra, List.filter_append, List.append_assoc]
  identities := by rw [h'.identities, h.identities, List.filter_append, List.append_assoc]
  webSurfaces := by rw [h'.webSurfaces, h.webSurfaces, List.filter_append, List.append_assoc]
  cloudResources := by
    rw [h'.cloudResources, h.cloudResources, List.filter_append, List.append_assoc]
  cloudIdentities := by
    rw [h'.cloudIdentities, h.cloudIdentities, List.filter_append, List.append_assoc]

theorem not_serves {n : GraphNode} (h : n.kind ≠ .service) (endpoint : String × Int) :
    ¬ Serves py endpoint n := by
  intro hserves
  rw [Serves, networkServiceEndpoint, if_pos (.inl h)] at hserves
  cases hserves

theorem not_isWebSurface {n : GraphNode} (h : n.kind ≠ .service) :
    ¬ isWebSurface py n = true := by
  rw [isWebSurface, webSurfaceEndpoint, if_pos (.inl h)]
  exact Bool.false_ne_true

theorem not_hasEntraKey {n : GraphNode} (h : ¬ IsDirectoryIdentity n) (key : String × String) :
    ¬ HasEntraKey key n := by
  intro hkey
  have hother : n.kind ≠ .identity ∨ n.property "cloud_provider" "" ≠ "" := by
    by_cases hkind : n.kind = .identity
    · exact .inr fun hprovider => h ⟨hkind, hprovider⟩
    · exact .inl hkind
  rw [HasEntraKey, entraIdentityKey, if_pos hother] at hkey
  cases hkey

/-- A node that no table takes. -/
theorem Added.none {t : Tables} {n : GraphNode} (hasset : ¬ IsPlainAsset n)
    (hdirectory : ¬ IsDirectoryIdentity n) (hserves : ∀ e, ¬ Serves py e n)
    (hsurface : ¬ isWebSurface py n = true) (hresource : ¬ isCloudResource n = true)
    (hcloud : ¬ IsCloudIdentity n) : Added py t [n] t where
  hostname k := by
    rw [filter_neg (fun h => hasset (of_decide_eq_true h).1), List.append_nil]
  address k := by
    rw [filter_neg (fun h => hasset (of_decide_eq_true h).1), List.append_nil]
  service k := by
    rw [filter_neg (fun h => hserves k (of_decide_eq_true h)), List.append_nil]
  entra k := by
    rw [filter_neg (fun h => not_hasEntraKey hdirectory k (of_decide_eq_true h)), List.append_nil]
  identities := by
    rw [filter_neg (fun h => hdirectory (of_decide_eq_true h).1), List.append_nil]
  webSurfaces := by rw [filter_neg hsurface, List.append_nil]
  cloudResources := by rw [filter_neg hresource, List.append_nil]
  cloudIdentities := by rw [filter_neg (fun h => hcloud (of_decide_eq_true h)), List.append_nil]

theorem classifyAsset_added {n : GraphNode} (hkind : n.kind = .asset) (t : Tables) :
    Added py t [n] (classifyAsset py t n) := by
  have hidentity : n.kind ≠ .identity := fun h => GraphNodeKind.noConfusion (hkind.symm.trans h)
  have hservice : n.kind ≠ .service := fun h => GraphNodeKind.noConfusion (hkind.symm.trans h)
  have hdirectory : ¬ IsDirectoryIdentity n := fun h => hidentity h.1
  have hcloud : ¬ IsCloudIdentity n := fun h => hidentity h.1
  have hserves := @not_serves py _ hservice
  have hsurface := @not_isWebSurface py _ hservice
  unfold classifyAsset
  by_cases hprovider : n.property "cloud_provider" "" = ""
  · have hplain : IsPlainAsset n := ⟨hkind, hprovider⟩
    have hresource : ¬ isCloudResource n = true := by simp [isCloudResource, hprovider]
    rw [if_neg (not_not.mpr hprovider)]
    refine ⟨fun k => ?_, fun k => ?_, fun k => ?_, fun k => ?_, ?_, ?_, ?_, ?_⟩
    · refine (find_pushes (csvHostnames_nodup _) _ _ _).trans (congrArg _ (filter_one_congr ?_))
      rw [decide_eq_decide]
      exact (and_iff_right hplain).symm
    · by_cases haddress : assetAddress n = ""
      · have hnone : ¬ AtAddress k n := fun h => h.2.2 (h.2.1.symm.trans haddress)
        rw [if_pos haddress, filter_neg (fun h => hnone (of_decide_eq_true h)), List.append_nil]
      · rw [if_neg haddress]
        refine (find_push _ _ _ _).trans (congrArg _ (filter_one_congr ?_))
        rw [decide_eq_decide]
        exact ⟨fun h => ⟨hplain, h.symm, h ▸ haddress⟩, fun h => h.2.1.symm⟩
    · rw [filter_neg (fun h => hserves k (of_decide_eq_true h)), List.append_nil]
    · rw [filter_neg (fun h => not_hasEntraKey hdirectory k (of_decide_eq_true h)),
        List.append_nil]
    · rw [filter_neg (fun h => hdirectory (of_decide_eq_true h).1), List.append_nil]
    · rw [filter_neg hsurface, List.append_nil]
    · rw [filter_neg hresource, List.append_nil]
    · rw [filter_neg (fun h => hcloud (of_decide_eq_true h)), List.append_nil]
  · have hasset : ¬ IsPlainAsset n := fun h => hprovider h.2
    rw [if_pos hprovider]
    by_cases hid : n.property "cloud_resource_id" "" = ""
    · rw [if_neg (not_not.mpr hid)]
      exact .none hasset hdirectory hserves hsurface (by simp [isCloudResource, hid]) hcloud
    · have hresource : isCloudResource n = true := by simp [isCloudResource, hkind, hprovider, hid]
      rw [if_pos hid]
      refine ⟨fun k => ?_, fun k => ?_, fun k => ?_, fun k => ?_, ?_, ?_, ?_, ?_⟩
      · rw [filter_neg (fun h => hasset (of_decide_eq_true h).1), List.append_nil]
      · rw [filter_neg (fun h => hasset (of_decide_eq_true h).1), List.append_nil]
      · rw [filter_neg (fun h => hserves k (of_decide_eq_true h)), List.append_nil]
      · rw [filter_neg (fun h => not_hasEntraKey hdirectory k (of_decide_eq_true h)),
          List.append_nil]
      · rw [filter_neg (fun h => hdirectory (of_decide_eq_true h).1), List.append_nil]
      · rw [filter_neg hsurface, List.append_nil]
      · rw [filter_pos hresource]
      · rw [filter_neg (fun h => hcloud (of_decide_eq_true h)), List.append_nil]

theorem classifyIdentity_added {n : GraphNode} (hkind : n.kind = .identity) (t : Tables) :
    Added py t [n] (classifyIdentity py t n) := by
  have hservice : n.kind ≠ .service := fun h => GraphNodeKind.noConfusion (hkind.symm.trans h)
  have hother : n.kind ≠ .asset := fun h => GraphNodeKind.noConfusion (hkind.symm.trans h)
  have hasset : ¬ IsPlainAsset n := fun h => hother h.1
  have hresource : ¬ isCloudResource n = true := by simp [isCloudResource, hother]
  have hserves := @not_serves py _ hservice
  have hsurface := @not_isWebSurface py _ hservice
  unfold classifyIdentity
  by_cases hprovider : n.property "cloud_provider" "" = ""
  · have hdirectory : IsDirectoryIdentity n := ⟨hkind, hprovider⟩
    have hcloud : ¬ IsCloudIdentity n := fun h => h.2.1 hprovider
    rw [if_neg (not_not.mpr hprovider)]
    refine ⟨fun k => ?_, fun k => ?_, fun k => ?_, fun k => ?_, ?_, ?_, ?_, ?_⟩
    · rw [filter_neg (fun h => hasset (of_decide_eq_true h).1), List.append_nil]
    · rw [filter_neg (fun h => hasset (of_decide_eq_true h).1), List.append_nil]
    · rw [filter_neg (fun h => hserves k (of_decide_eq_true h)), List.append_nil]
    · rcases hkey : entraIdentityKey n with _ | key
      · have hnone : ¬ HasEntraKey k n := by
          rw [HasEntraKey, hkey]
          exact Option.some_ne_none k ∘ Eq.symm
        rw [Option.elim_none, filter_neg (fun h => hnone (of_decide_eq_true h)), List.append_nil]
      · refine (find_push _ _ _ _).trans (congrArg _ (filter_one_congr ?_))
        rw [decide_eq_decide, HasEntraKey, hkey, Option.some.injEq, eq_comm]
    · by_cases hnames : identityHostnames py n = []
      · simp [hnames]
      · simp [hnames, hdirectory]
    · rw [filter_neg hsurface, List.append_nil]
    · rw [filter_neg hresource, List.append_nil]
    · rw [filter_neg (fun h => hcloud (of_decide_eq_true h)), List.append_nil]
  · have hdirectory : ¬ IsDirectoryIdentity n := fun h => hprovider h.2
    rw [if_pos hprovider]
    by_cases hid : n.property "cloud_identity_id" "" = ""
    · rw [if_neg (not_not.mpr hid)]
      exact .none hasset hdirectory hserves hsurface hresource fun h => h.2.2 hid
    · have hcloud : IsCloudIdentity n := ⟨hkind, hprovider, hid⟩
      rw [if_pos hid]
      refine ⟨fun k => ?_, fun k => ?_, fun k => ?_, fun k => ?_, ?_, ?_, ?_, ?_⟩
      · rw [filter_neg (fun h => hasset (of_decide_eq_true h).1), List.append_nil]
      · rw [filter_neg (fun h => hasset (of_decide_eq_true h).1), List.append_nil]
      · rw [filter_neg (fun h => hserves k (of_decide_eq_true h)), List.append_nil]
      · rw [filter_neg (fun h => not_hasEntraKey hdirectory k (of_decide_eq_true h)),
          List.append_nil]
      · rw [filter_neg (fun h => hdirectory (of_decide_eq_true h).1), List.append_nil]
      · rw [filter_neg hsurface, List.append_nil]
      · rw [filter_neg hresource, List.append_nil]
      · rw [filter_pos (decide_eq_true hcloud)]

theorem classifyService_added {n : GraphNode} (hkind : n.kind = .service) {t t' : Tables}
    (h : classifyService py t n = .ok t') : Added py t [n] t' := by
  have hother : n.kind ≠ .asset := fun h => GraphNodeKind.noConfusion (hkind.symm.trans h)
  have hidentity : n.kind ≠ .identity := fun h => GraphNodeKind.noConfusion (hkind.symm.trans h)
  have hasset : ¬ IsPlainAsset n := fun h => hother h.1
  have hdirectory : ¬ IsDirectoryIdentity n := fun h => hidentity h.1
  have hresource : ¬ isCloudResource n = true := by simp [isCloudResource, hother]
  have hcloud : ¬ IsCloudIdentity n := fun h => hidentity h.1
  unfold classifyService at h
  rcases hendpoint : networkServiceEndpoint py n with _ | endpoint
  · have hserves : ∀ e, ¬ Serves py e n := by
      intro e
      rw [Serves, hendpoint]
      exact Option.some_ne_none e ∘ Eq.symm
    simp only [hendpoint, bind_eq_ok, pure_eq_ok, Except.ok.injEq] at h
    obtain ⟨origin, horigin, rfl⟩ := h
    have hsurface : isWebSurface py n = origin.isSome := by
      rw [isWebSurface, horigin]
      rfl
    by_cases hsome : origin.isSome = true
    · rw [if_pos hsome]
      refine ⟨fun k => ?_, fun k => ?_, fun k => ?_, fun k => ?_, ?_, ?_, ?_, ?_⟩
      · rw [filter_neg (fun h => hasset (of_decide_eq_true h).1), List.append_nil]
      · rw [filter_neg (fun h => hasset (of_decide_eq_true h).1), List.append_nil]
      · rw [filter_neg (fun h => hserves k (of_decide_eq_true h)), List.append_nil]
      · rw [filter_neg (fun h => not_hasEntraKey hdirectory k (of_decide_eq_true h)),
          List.append_nil]
      · rw [filter_neg (fun h => hdirectory (of_decide_eq_true h).1), List.append_nil]
      · rw [filter_pos (hsurface.trans hsome)]
      · rw [filter_neg hresource, List.append_nil]
      · rw [filter_neg (fun h => hcloud (of_decide_eq_true h)), List.append_nil]
    · rw [if_neg hsome]
      exact .none hasset hdirectory hserves (fun h => hsome (hsurface.symm.trans h)) hresource
        hcloud
  · simp only [hendpoint, Except.ok.injEq] at h
    subst h
    have hsurface : ¬ isWebSurface py n = true := by
      intro hsome
      obtain ⟨origin, horigin⟩ := Option.isSome_iff_exists.mp hsome
      rcases hresult : webSurfaceEndpoint py n with e | o
      · rw [hresult] at horigin
        cases horigin
      · rw [hresult] at horigin
        have ho : o = some origin := horigin
        have := networkServiceEndpoint_of_surface (ho ▸ hresult)
        exact Option.some_ne_none endpoint (hendpoint.symm.trans this)
    refine ⟨fun k => ?_, fun k => ?_, fun k => ?_, fun k => ?_, ?_, ?_, ?_, ?_⟩
    · rw [filter_neg (fun h => hasset (of_decide_eq_true h).1), List.append_nil]
    · rw [filter_neg (fun h => hasset (of_decide_eq_true h).1), List.append_nil]
    · refine (find_push _ _ _ _).trans (congrArg _ (filter_one_congr ?_))
      rw [decide_eq_decide, Serves, hendpoint, Option.some.injEq, eq_comm]
    · rw [filter_neg (fun h => not_hasEntraKey hdirectory k (of_decide_eq_true h)),
        List.append_nil]
    · rw [filter_neg (fun h => hdirectory (of_decide_eq_true h).1), List.append_nil]
    · rw [filter_neg hsurface, List.append_nil]
    · rw [filter_neg hresource, List.append_nil]
    · rw [filter_neg (fun h => hcloud (of_decide_eq_true h)), List.append_nil]

/-- **One turn of the loop over the nodes.** -/
theorem classify_added {t t' : Tables} {n : GraphNode} (h : classify py t n = .ok t') :
    Added py t [n] t' := by
  unfold classify at h
  split at h
  next hkind => exact Except.ok.inj h ▸ classifyAsset_added hkind t
  next hkind => exact Except.ok.inj h ▸ classifyIdentity_added hkind t
  next hkind => exact classifyService_added hkind h
  next hasset hidentity hservice =>
    refine Except.ok.inj h ▸ .none (fun h => hasset h.1) (fun h => hidentity h.1)
      (not_serves hservice) (not_isWebSurface hservice) ?_ (fun h => hidentity h.1)
    intro hresource
    rw [isCloudResource, Bool.and_eq_true, Bool.and_eq_true] at hresource
    exact hasset (of_decide_eq_true hresource.1.1)

/-- **The tables after the loop.** -/
theorem tables_of {nodes : List GraphNode} {t : Tables}
    (h : nodes.foldlM (classify py) .empty = .ok t) : Added py .empty nodes t :=
  foldlM_induct (P := fun done t => Added py .empty done t)
    (fun _ _ _ _ hdone hturn => hdone.trans (classify_added hturn)) nodes [] .empty t
    ⟨fun _ => rfl, fun _ => rfl, fun _ => rfl, fun _ => rfl, rfl, rfl, rfl, rfl⟩ h

end Tables

/-! ## Candidates -/

section Candidates

variable {py : Builtins} {g : IdentityGraph}

theorem nodes_nodup (g : IdentityGraph) : g.nodes.Nodup := by
  refine List.Pairwise.imp ?_ g.nodes_sorted
  rintro a b hab rfl
  exact lt_irrefl a.nodeId hab

/-- One node is left exactly when there is only one with the property. -/
theorem filter_eq_singleton {P : GraphNode → Prop} [DecidablePred P] {a : GraphNode} :
    g.nodes.filter (fun n => P n) = [a] ↔ Only g P a := by
  have hmem : ∀ n, n ∈ g.nodes.filter (fun n => P n) ↔ n ∈ g.nodes ∧ P n := by
    intro n
    rw [List.mem_filter, decide_eq_true_eq]
  constructor
  · intro h
    rw [h] at hmem
    obtain ⟨ha, hP⟩ := (hmem a).mp (List.mem_singleton_self a)
    exact ⟨ha, hP, fun m hm hPm => List.mem_singleton.mp ((hmem m).mpr ⟨hm, hPm⟩)⟩
  · rintro ⟨ha, hP, honly⟩
    apply List.perm_singleton.mp
    refine (List.perm_ext_iff_of_nodup ((nodes_nodup g).filter _) (List.nodup_singleton a)).mpr ?_
    intro n
    rw [hmem, List.mem_singleton]
    constructor
    · rintro ⟨hn, hPn⟩
      exact honly n hn hPn
    · rintro rfl
      exact ⟨ha, hP⟩

/-- The candidates of a table that holds the nodes with a property. -/
theorem candidates_of {κ : Type} [DecidableEq κ] {table : List (κ × List GraphNode)} {k : κ}
    {p : GraphNode → Bool} (h : find [] table k = g.nodes.filter p) :
    candidates table k = g.nodes.filter p := by
  rw [candidates, h]
  exact sortedBy_eq_self ((g.nodes_sorted.filter _).imp fun hab => hab.le)

variable {t : Tables} (ht : Added py .empty g.nodes t)

include ht

theorem hostname_candidates (hostname : String) :
    candidates t.assetsByHostname hostname = g.nodes.filter fun n => NamedBy py hostname n :=
  candidates_of (ht.hostname hostname)

theorem address_candidates (address : String) :
    candidates t.assetsByAddress address = g.nodes.filter fun n => AtAddress address n :=
  candidates_of (ht.address address)

theorem service_candidates (endpoint : String × Int) :
    candidates t.networkServices endpoint = g.nodes.filter fun n => Serves py endpoint n :=
  candidates_of (ht.service endpoint)

theorem entra_candidates (key : String × String) :
    candidates t.entraIdentitiesByKey key = g.nodes.filter fun n => HasEntraKey key n :=
  candidates_of (ht.entra key)

theorem origin_candidates {host : String} {asset : GraphNode} :
    originCandidates t host = [asset] ↔ Only g (NamesOrigin py host) asset := by
  have horigin : (NamesOrigin py host) = fun n =>
    (canonicalIp host).elim (NamedBy py host n) fun address => AtAddress address n := rfl
  rw [horigin, originCandidates]
  cases canonicalIp host with
  | none =>
    simp only [hostname_candidates ht]
    exact filter_eq_singleton
  | some address =>
    simp only [address_candidates ht]
    exact filter_eq_singleton

theorem cloud_candidates (key : String × String) :
    cloudCandidates t key = g.nodes.filter fun n => NamesCloud py key n := by
  unfold cloudCandidates NamesCloud
  by_cases h : key.1 ∈ cloudNetworkIpProperties
  · simp only [if_pos h]
    exact address_candidates ht key.2
  · simp only [if_neg h]
    exact hostname_candidates ht key.2

end Candidates

/-! ## Pairs found -/

/-- The digest of a proof is recorded for a pair. -/
def Has (p : Progress) (b : PairKey × String) : Prop := b.2 ∈ find ∅ p.pairProofs b.1

/-- A pair with the digest of one proof. -/
def pairOf (s t : GraphNode) (basis : Basis) (proof : String) : PairKey × String :=
  ((s.nodeId, t.nodeId, basis), opaqueKey proof)

theorem has_addPair {p : Progress} {s t : GraphNode} {basis : Basis} {proof : String}
    (b : PairKey × String) :
    Has (addPair p s t basis proof) b ↔ Has p b ∨ b = pairOf s t basis proof := by
  unfold Has addPair
  rw [find_assign]
  by_cases h : b.1 = (s.nodeId, t.nodeId, basis)
  · rw [if_pos h, h, Finset.mem_insert, or_comm]
    refine or_congr_right ⟨fun hb => Prod.ext h hb, fun hb => ?_⟩
    rw [hb, pairOf]
  · rw [if_neg h]
    refine ⟨.inl, ?_⟩
    rintro (hb | rfl)
    · exact hb
    · exact absurd rfl h

theorem addUnresolved_pairs {limits : CrossSurfaceCorrelationLimits} {p p' : Progress}
    {source : GraphNode} {basis : Basis} {proof reason : String} {count : Nat}
    (h : addUnresolved limits p source basis proof reason count = .ok p') :
    p'.pairProofs = p.pairProofs := by
  simp only [addUnresolved, raiseIf_bind_eq_ok, pure_eq_ok, Except.ok.injEq] at h
  obtain ⟨-, -, rfl⟩ := h
  rfl

theorem has_of_pairs {p p' : Progress} (h : p'.pairProofs = p.pairProofs) (b : PairKey × String) :
    Has p' b ↔ Has p b := by
  rw [Has, h, Has]

/-- A match that failed adds no pair. -/
theorem has_addUnresolved {limits : CrossSurfaceCorrelationLimits} {p p' : Progress}
    {source : GraphNode} {basis : Basis} {proof reason : String} {count : Nat}
    (h : addUnresolved limits p source basis proof reason count = .ok p')
    {Adds : Prop} (hnone : ¬ Adds) (b : PairKey × String) : Has p' b ↔ Has p b ∨ Adds := by
  rw [has_of_pairs (addUnresolved_pairs h), or_iff_left hnone]

/-! ## The rules, turn by turn -/

/-- What one name of an identity adds. -/
def NameAdds (py : Builtins) (g : IdentityGraph) (identity : GraphNode) (hostname : String)
    (b : PairKey × String) : Prop :=
  ∃ asset, Only g (NamedBy py hostname) asset ∧ b = pairOf identity asset .exactHostname hostname

/-- What one web surface adds. -/
def SurfaceAdds (py : Builtins) (g : IdentityGraph) (surface : GraphNode)
    (b : PairKey × String) : Prop :=
  ∃ host port, webSurfaceEndpoint py surface = .ok (some (host, port)) ∧
    ∃ asset, Only g (NamesOrigin py host) asset ∧
      ∃ service, Only g (Serves py (assetAddress asset, port)) service ∧
        b = pairOf service surface .exactOriginHostPort (originProof host port)

/-- The key names the asset, and no key names another. -/
def Unanimous (py : Builtins) (g : IdentityGraph) (proofs : List (String × String))
    (key : String × String) (asset : GraphNode) : Prop :=
  key ∈ proofs ∧ asset ∈ g.nodes ∧ NamesCloud py key asset ∧
    ∀ q ∈ proofs, ∀ n ∈ g.nodes, NamesCloud py q n → n = asset

/-- What one cloud resource with these proofs adds. -/
def CloudAdds (py : Builtins) (g : IdentityGraph) (resource : GraphNode)
    (proofs : List (String × String)) (b : PairKey × String) : Prop :=
  ∃ key asset, Unanimous py g proofs key asset ∧
    b = pairOf asset resource .exactCloudNetworkKey (cloudProof key)

/-- What one cloud identity adds. -/
def CloudIdentityAdds (g : IdentityGraph) (cloudIdentity : GraphNode) (b : PairKey × String) :
    Prop :=
  ∃ tenantId objectId, cloudIdentityEntraParts cloudIdentity = (tenantId, objectId, true) ∧
    tenantId ≠ "" ∧ objectId ≠ "" ∧
      ∃ directory, Only g (HasEntraKey (tenantId, objectId)) directory ∧
        b = pairOf directory cloudIdentity .exactCloudEntraObject (entraProof tenantId objectId)

section Turns

variable {py : Builtins} {g : IdentityGraph} {limits : CrossSurfaceCorrelationLimits} {t : Tables}
  (ht : Added py .empty g.nodes t) {p p' : Progress}

include ht

theorem has_correlateHostname {identity : GraphNode} {hostname : String}
    (h : correlateHostname limits t identity p hostname = .ok p') (b : PairKey × String) :
    Has p' b ↔ Has p b ∨ NameAdds py g identity hostname b := by
  have hcandidates := hostname_candidates ht hostname
  unfold correlateHostname at h
  split at h
  next asset hfound =>
    have honly := filter_eq_singleton.mp (hcandidates.symm.trans hfound)
    rw [← Except.ok.inj h, has_addPair]
    refine or_congr_right ⟨fun hb => ⟨asset, honly, hb⟩, ?_⟩
    rintro ⟨asset', honly', hb⟩
    rwa [honly.2.2 asset' honly'.1 honly'.2.1] at hb
  next hfound =>
    refine has_addUnresolved h ?_ b
    rintro ⟨asset, honly, -⟩
    exact hfound asset (hcandidates.trans (filter_eq_singleton.mpr honly))

theorem has_correlateIdentities (h : correlateIdentities py limits t p = .ok p')
    (b : PairKey × String) :
    Has p' b ↔ Has p b ∨ ∃ identity ∈ g.nodes, IsDirectoryIdentity identity ∧
      ∃ hostname ∈ identityHostnames py identity, NameAdds py g identity hostname b := by
  have hname : ∀ (identity : GraphNode) (p : Progress) (hostname : String) (p' : Progress),
      correlateHostname limits t identity p hostname = .ok p' →
        ∀ b, Has p' b ↔ Has p b ∨ NameAdds py g identity hostname b :=
    fun _ _ _ _ hone b => has_correlateHostname ht hone b
  have hturn : ∀ (p : Progress) (identity : GraphNode) (p' : Progress),
      (identityHostnames py identity).foldlM (correlateHostname limits t identity) p = .ok p' →
        ∀ b, Has p' b ↔ Has p b ∨
          ∃ hostname ∈ identityHostnames py identity, NameAdds py g identity hostname b :=
    fun _ identity _ hloop b => foldlM_collects (hname identity) hloop b
  unfold correlateIdentities at h
  rw [foldlM_collects hturn h b]
  refine or_congr_right ⟨?_, ?_⟩
  · rintro ⟨identity, hmem, hadds⟩
    rw [(sortedBy_perm _ _).mem_iff, ht.identities] at hmem
    obtain ⟨hnode, hdirectory⟩ := List.mem_filter.mp hmem
    exact ⟨identity, hnode, (of_decide_eq_true hdirectory).1, hadds⟩
  · rintro ⟨identity, hnode, hdirectory, hostname, hhostname, hadds⟩
    refine ⟨identity, ?_, hostname, hhostname, hadds⟩
    rw [(sortedBy_perm _ _).mem_iff, ht.identities]
    exact List.mem_filter.mpr ⟨hnode, decide_eq_true ⟨hdirectory, List.ne_nil_of_mem hhostname⟩⟩

theorem has_correlateSurface {surface : GraphNode}
    (h : correlateSurface py limits t p surface = .ok p') (b : PairKey × String) :
    Has p' b ↔ Has p b ∨ SurfaceAdds py g surface b := by
  unfold correlateSurface at h
  rw [bind_eq_ok] at h
  obtain ⟨endpoint, hendpoint, h⟩ := h
  rcases endpoint with _ | ⟨host, port⟩
  · rw [← Except.ok.inj h]
    refine (or_iff_left ?_).symm
    rintro ⟨host, port, hsome, -⟩
    rw [hendpoint] at hsome
    cases hsome
  · have hparts : ∀ host' port', webSurfaceEndpoint py surface = .ok (some (host', port')) →
        host = host' ∧ port = port' := by
      intro host' port' hsome
      have := Option.some.inj (Except.ok.inj (hendpoint.symm.trans hsome))
      exact Prod.mk.inj this
    dsimp only at h
    split at h
    next asset hfound =>
      have hasset := (origin_candidates ht).mp hfound
      have hservices := service_candidates ht (assetAddress asset, port)
      split at h
      next service hservice =>
        have honly := filter_eq_singleton.mp (hservices.symm.trans hservice)
        rw [← Except.ok.inj h, has_addPair]
        refine or_congr_right ⟨fun hb => ⟨host, port, hendpoint, asset, hasset, service, honly, hb⟩,
          ?_⟩
        rintro ⟨host', port', hsome, asset', hasset', service', honly', hb⟩
        obtain ⟨rfl, rfl⟩ := hparts host' port' hsome
        obtain rfl := hasset.2.2 asset' hasset'.1 hasset'.2.1
        rwa [honly.2.2 service' honly'.1 honly'.2.1] at hb
      next hservice =>
        refine has_addUnresolved h ?_ b
        rintro ⟨host', port', hsome, asset', hasset', service', honly', -⟩
        obtain ⟨rfl, rfl⟩ := hparts host' port' hsome
        obtain rfl := hasset.2.2 asset' hasset'.1 hasset'.2.1
        exact hservice service' (hservices.trans (filter_eq_singleton.mpr honly'))
    next hfound =>
      refine has_addUnresolved h ?_ b
      rintro ⟨host', port', hsome, asset', hasset', -⟩
      obtain ⟨rfl, rfl⟩ := hparts host' port' hsome
      exact hfound asset' ((origin_candidates ht).mpr hasset')

theorem has_correlateSurfaces (h : correlateSurfaces py limits t p = .ok p')
    (b : PairKey × String) :
    Has p' b ↔ Has p b ∨ ∃ surface ∈ g.nodes, SurfaceAdds py g surface b := by
  have hturn : ∀ (p : Progress) (surface : GraphNode) (p' : Progress),
      correlateSurface py limits t p surface = .ok p' →
        ∀ b, Has p' b ↔ Has p b ∨ SurfaceAdds py g surface b :=
    fun _ _ _ hone b => has_correlateSurface ht hone b
  unfold correlateSurfaces at h
  rw [foldlM_collects hturn h b]
  refine or_congr_right ⟨?_, ?_⟩
  · rintro ⟨surface, hmem, hadds⟩
    rw [(sortedBy_perm _ _).mem_iff, ht.webSurfaces] at hmem
    exact ⟨surface, (List.mem_filter.mp hmem).1, hadds⟩
  · rintro ⟨surface, hnode, host, port, hendpoint, hadds⟩
    refine ⟨surface, ?_, host, port, hendpoint, hadds⟩
    rw [(sortedBy_perm _ _).mem_iff, ht.webSurfaces]
    refine List.mem_filter.mpr ⟨hnode, ?_⟩
    rw [isWebSurface, hendpoint]
    rfl

theorem has_correlateCloudIdentity {cloudIdentity : GraphNode}
    (h : correlateCloudIdentity limits t p cloudIdentity = .ok p') (b : PairKey × String) :
    Has p' b ↔ Has p b ∨ CloudIdentityAdds g cloudIdentity b := by
  unfold correlateCloudIdentity at h
  rcases hparts : cloudIdentityEntraParts cloudIdentity with ⟨tenantId, objectId, hasAnyKey⟩
  have hread : ∀ tenantId' objectId',
      cloudIdentityEntraParts cloudIdentity = (tenantId', objectId', true) →
        tenantId = tenantId' ∧ objectId = objectId' ∧ hasAnyKey = true := by
    intro tenantId' objectId' h'
    obtain ⟨h₁, h₂⟩ := Prod.mk.inj (hparts.symm.trans h')
    exact ⟨h₁, Prod.mk.inj h₂⟩
  rw [hparts] at h
  dsimp only at h
  split at h
  next hany =>
    rw [← Except.ok.inj h]
    refine (or_iff_left ?_).symm
    rintro ⟨tenantId', objectId', h', -⟩
    exact Bool.false_ne_true (hany.symm.trans (hread _ _ h').2.2)
  next hany =>
    split at h
    next hempty =>
      refine has_addUnresolved h ?_ b
      rintro ⟨tenantId', objectId', h', htenant, hobject, -⟩
      obtain ⟨rfl, rfl, -⟩ := hread _ _ h'
      exact hempty.elim htenant hobject
    next hfilled =>
      obtain ⟨htenant, hobject⟩ := not_or.mp hfilled
      have hcandidates := entra_candidates ht (tenantId, objectId)
      split at h
      next directory hfound =>
        have honly := filter_eq_singleton.mp (hcandidates.symm.trans hfound)
        have hkey : hasAnyKey = true := Bool.not_eq_false _ |>.mp hany
        rw [← Except.ok.inj h, has_addPair]
        refine or_congr_right ⟨fun hb => ⟨tenantId, objectId, hkey ▸ hparts, htenant, hobject,
          directory, honly, hb⟩, ?_⟩
        rintro ⟨tenantId', objectId', h', -, -, directory', honly', hb⟩
        obtain ⟨rfl, rfl, -⟩ := hread _ _ h'
        rwa [honly.2.2 directory' honly'.1 honly'.2.1] at hb
      next hfound =>
        refine has_addUnresolved h ?_ b
        rintro ⟨tenantId', objectId', h', -, -, directory', honly', -⟩
        obtain ⟨rfl, rfl, -⟩ := hread _ _ h'
        exact hfound directory' (hcandidates.trans (filter_eq_singleton.mpr honly'))

theorem has_correlateCloudIdentities (h : correlateCloudIdentities limits t p = .ok p')
    (b : PairKey × String) :
    Has p' b ↔ Has p b ∨ ∃ cloudIdentity ∈ g.nodes, IsCloudIdentity cloudIdentity ∧
      CloudIdentityAdds g cloudIdentity b := by
  have hturn : ∀ (p : Progress) (cloudIdentity : GraphNode) (p' : Progress),
      correlateCloudIdentity limits t p cloudIdentity = .ok p' →
        ∀ b, Has p' b ↔ Has p b ∨ CloudIdentityAdds g cloudIdentity b :=
    fun _ _ _ hone b => has_correlateCloudIdentity ht hone b
  unfold correlateCloudIdentities at h
  rw [foldlM_collects hturn h b]
  refine or_congr_right ⟨?_, ?_⟩
  · rintro ⟨cloudIdentity, hmem, hadds⟩
    rw [(sortedBy_perm _ _).mem_iff, ht.cloudIdentities] at hmem
    obtain ⟨hnode, hcloud⟩ := List.mem_filter.mp hmem
    exact ⟨cloudIdentity, hnode, of_decide_eq_true hcloud, hadds⟩
  · rintro ⟨cloudIdentity, hnode, hcloud, hadds⟩
    refine ⟨cloudIdentity, ?_, hadds⟩
    rw [(sortedBy_perm _ _).mem_iff, ht.cloudIdentities]
    exact List.mem_filter.mpr ⟨hnode, decide_eq_true hcloud⟩

end Turns

end NightRecon.RedEngine.GraphCorrelation
