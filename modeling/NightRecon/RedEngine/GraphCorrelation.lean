import Mathlib.Data.Finset.Sort
import NightRecon.Lib.Dict
import NightRecon.Lib.Ipaddress
import NightRecon.RedEngine.GraphBuilder

/-!
# Cross-surface correlation

`nightrecon_red_engine/graph_correlation.py`: edges between nodes that an exact and unique match
joins.

* `identityHostnames`, `cloudNetworkProofs`, `webSurfaceEndpoint`, … — what a node is matched by;
* `Tables`, `classify` — the lookup tables, each key with every node that has it;
* `correlateIdentities`, `correlateSurfaces`, `correlateClouds`, `correlateCloudIdentities` — the
  four rules; `Progress` — the pairs found so far, each with the digests of its proofs;
* `correlateExactCrossSurfaceEvidence` — the correlated graph.

The functions of the language whose Unicode tables decide nothing here are parameters,
`Builtins`.
-/

namespace NightRecon.RedEngine.GraphCorrelation

open NightRecon.Lib
open NightRecon.Lib.Assoc
open NightRecon.Lib.Checks
open NightRecon.Lib.Ipaddress
open NightRecon.Lib.Text
open NightRecon.RedEngine.GraphBuilder

/-- `str.lower`, `str.casefold` and `int` of a string. -/
structure Builtins where
  lower : String → String
  casefold : String → String
  int : String → Option Int

/-! ## What a node is matched by -/

section Keys

variable (py : Builtins)

/-- Source: `graph_correlation.py` `_normalize_hostname`. -/
def normalizeHostname (value : String) : String :=
  let normalized := String.ofList ((py.casefold (strip value)).toList.rdropWhile (· = '.'))
  if normalized.toList.any isSpace then "" else normalized

/-- `value.split(",")`. -/
def splitCommas (value : String) : List String := (value.toList.splitOn ',').map String.ofList

/-- Source: `graph_correlation.py` `_csv_hostnames`. -/
def csvHostnames (value : String) : List String :=
  if value = "" then []
  else sortedStr (((splitCommas value).map (normalizeHostname py)).filter (· ≠ "")).dedup

/-- Source: `graph_correlation.py` `_asset_hostnames`. -/
def assetHostnames (n : GraphNode) : List String := csvHostnames py (n.property "hostnames" "")

/-- The canonical text of an IP address. -/
def canonicalIp (value : String) : Option String := (ipAddress value).map (·.str)

/-- Source: `graph_correlation.py` `_asset_address`. -/
def assetAddress (n : GraphNode) : String :=
  (canonicalIp (n.property "address" n.naturalKey)).getD ""

/-- Source: `graph_correlation.py` `_identity_hostnames`. -/
def identityHostnames (n : GraphNode) : List String :=
  let dns := normalizeHostname py (n.property "dns_hostname" "")
  let spn := csvHostnames py (n.property "spn_hosts" "")
  sortedStr (([dns].filter (· ≠ "")) ++ spn).dedup

/-- The proof of one address property of a cloud resource. -/
def addressProof (n : GraphNode) (key : String) : Py (List (String × String)) :=
  if n.property key "" = "" then .ok []
  else do
    let normalized ← getOrRaise (canonicalIp (n.property key ""))
      (valueError ("cloud " ++ key ++ " correlation property is invalid"))
    raiseIf (normalized ≠ n.property key "")
      (valueError ("cloud " ++ key ++ " correlation property is not canonical"))
    return [(key, normalized)]

/-- The proof of one hostname property of a cloud resource. -/
def hostnameProof (n : GraphNode) (key : String) : Py (List (String × String)) :=
  if n.property key "" = "" then .ok []
  else do
    let normalized := normalizeHostname py (n.property key "")
    raiseIf (normalized = "" ∨ normalized ≠ n.property key "")
      (valueError ("cloud " ++ key ++ " correlation property is not canonical"))
    return [(key, normalized)]

def cloudNetworkIpProperties : List String := ["private_ip", "public_ip"]

def cloudNetworkHostProperties : List String :=
  ["hostname", "private_dns_name", "public_dns_name"]

/-- An asset of a cloud provider, with the identifier of the resource. -/
def isCloudResource (n : GraphNode) : Bool :=
  n.kind = .asset && n.property "cloud_provider" "" ≠ "" &&
    n.property "cloud_resource_id" "" ≠ ""

/-- Source: `graph_correlation.py` `_cloud_network_proofs`. -/
def cloudNetworkProofs (n : GraphNode) : Py (List (String × String)) :=
  if isCloudResource n then do
    let addresses ← cloudNetworkIpProperties.mapM (addressProof n)
    let hostnames ← cloudNetworkHostProperties.mapM (hostnameProof py n)
    return sortedBy Prod.fst (addresses.flatten ++ hostnames.flatten)
  else .ok []

/-- Source: `graph_correlation.py` `_entra_identity_key`. -/
def entraIdentityKey (n : GraphNode) : Option (String × String) :=
  if n.kind ≠ .identity ∨ n.property "cloud_provider" "" ≠ "" then none
  else
    let tenantId := n.property "entra_tenant_id" ""
    let objectId := n.property "entra_object_id" ""
    if tenantId = "" ∨ objectId = "" then none else some (tenantId, objectId)

/-- Source: `graph_correlation.py` `_cloud_identity_entra_parts`. -/
def cloudIdentityEntraParts (n : GraphNode) : String × String × Bool :=
  if n.kind ≠ .identity then ("", "", false)
  else if n.property "cloud_provider" "" = "entra" then
    (n.property "entra_tenant_id" "", n.property "entra_object_id" "",
      n.property "entra_tenant_id" "" ≠ "" || n.property "entra_object_id" "" ≠ "")
  else if n.property "cloud_provider" "" = "azure" then
    (n.property "azure_tenant_id" "", n.property "azure_object_id" "",
      n.property "azure_tenant_id" "" ≠ "" || n.property "azure_object_id" "" ≠ "")
  else ("", "", false)

/-- Source: `graph_correlation.py` `_network_service_endpoint`. -/
def networkServiceEndpoint (n : GraphNode) : Option (String × Int) := do
  if n.kind ≠ .service ∨ n.property "surface_type" "" ≠ "" ∨ n.property "protocol" "" ≠ "tcp" then
    none
  else
    let address ← canonicalIp (n.property "address" "")
    let port ← py.int (n.property "port" "")
    if 1 ≤ port ∧ port ≤ 65535 then some (address, port) else none

def webSurfaceTypes : List String := ["web", "api", "graphql"]

/-- Source: `graph_correlation.py` `_web_surface_endpoint`. -/
def webSurfaceEndpoint (n : GraphNode) : Py (Option (String × Int)) :=
  if n.kind ≠ .service ∨ n.property "surface_type" "" ∉ webSurfaceTypes then .ok none
  else do
    let host := normalizeHostname py (n.property "origin_host" "")
    raiseIf (host = "") (valueError "web surface origin_host is invalid")
    let port ← getOrRaise (py.int (n.property "origin_port" ""))
      (valueError "web surface origin_port is invalid")
    raiseIf (¬ (1 ≤ port ∧ port ≤ 65535)) (valueError "web surface origin_port is invalid")
    raiseIf (n.property "origin_scheme" "" ∉ ["http", "https"])
      (valueError "web surface origin_scheme is invalid")
    return some (host, port)

end Keys

/-- Source: `graph_correlation.py` `_opaque_key`. -/
def opaqueKey (value : String) : String := Sha256.hexOf value.toList

/-! ## Lookup tables -/

/-- `table.setdefault(k, []).append(n)`. -/
def push {κ : Type} [DecidableEq κ] (table : List (κ × List GraphNode)) (k : κ) (n : GraphNode) :
    List (κ × List GraphNode) := assign table k (find [] table k ++ [n])

/-- The nodes by what they are matched by. -/
structure Tables where
  assetsByHostname : List (String × List GraphNode)
  assetsByAddress : List (String × List GraphNode)
  networkServices : List ((String × Int) × List GraphNode)
  entraIdentitiesByKey : List ((String × String) × List GraphNode)
  identities : List GraphNode
  webSurfaces : List GraphNode
  cloudResources : List GraphNode
  cloudIdentities : List GraphNode

def Tables.empty : Tables := ⟨[], [], [], [], [], [], [], []⟩

section Rules

variable (py : Builtins)

/-- An asset is entered under its names and its address, or as a cloud resource. -/
def classifyAsset (t : Tables) (n : GraphNode) : Tables :=
  if n.property "cloud_provider" "" ≠ "" then
    if n.property "cloud_resource_id" "" ≠ "" then
      { t with cloudResources := t.cloudResources ++ [n] }
    else t
  else
    { t with
      assetsByHostname := (assetHostnames py n).foldl (fun m h => push m h n) t.assetsByHostname
      assetsByAddress := if assetAddress n = "" then t.assetsByAddress
        else push t.assetsByAddress (assetAddress n) n }

/-- An identity is entered under its directory object and for its names, or as a cloud identity. -/
def classifyIdentity (t : Tables) (n : GraphNode) : Tables :=
  if n.property "cloud_provider" "" ≠ "" then
    if n.property "cloud_identity_id" "" ≠ "" then
      { t with cloudIdentities := t.cloudIdentities ++ [n] }
    else t
  else
    { t with
      entraIdentitiesByKey := (entraIdentityKey n).elim t.entraIdentitiesByKey fun key =>
        push t.entraIdentitiesByKey key n
      identities := if identityHostnames py n = [] then t.identities else t.identities ++ [n] }

/-- A service is entered under its endpoint, or as a web surface. -/
def classifyService (t : Tables) (n : GraphNode) : Py Tables :=
  match networkServiceEndpoint py n with
  | some endpoint => .ok { t with networkServices := push t.networkServices endpoint n }
  | none => do
      let endpoint ← webSurfaceEndpoint py n
      return if endpoint.isSome then { t with webSurfaces := t.webSurfaces ++ [n] } else t

def classify (t : Tables) (n : GraphNode) : Py Tables :=
  match n.kind with
  | .asset => .ok (classifyAsset py t n)
  | .identity => .ok (classifyIdentity py t n)
  | .service => classifyService py t n
  | _ => .ok t

/-- The candidates of a key, in the order of their identifiers. -/
def candidates {κ : Type} [DecidableEq κ] (table : List (κ × List GraphNode)) (k : κ) :
    List GraphNode := sortedBy (·.nodeId) (find [] table k)

/-! ## Pairs and unresolved matches -/

/-- The bases of a correlation. -/
inductive Basis where
  | exactHostname
  | exactOriginHostPort
  | exactCloudNetworkKey
  | exactCloudEntraObject
  deriving DecidableEq

def Basis.text : Basis → String
  | .exactHostname => "exact-hostname"
  | .exactOriginHostPort => "exact-origin-host-port"
  | .exactCloudNetworkKey => "exact-cloud-network-key"
  | .exactCloudEntraObject => "exact-cloud-entra-object"

/-- Source: `graph_correlation.py` `CrossSurfaceCorrelationLimits`. -/
structure CrossSurfaceCorrelationLimits where
  maxEdges : Nat
  maxUnresolved : Nat

/-- Source: `graph_correlation.py` `CrossSurfaceUnresolved`. -/
structure CrossSurfaceUnresolved where
  sourceKind : GraphNodeKind
  sourceKey : String
  correlationBasis : Basis
  keySha256 : String
  reason : String
  candidateCount : Nat
  deriving DecidableEq

/-- Source and target identifiers, and the basis. -/
abbrev PairKey := String × String × Basis

/-- The pairs found so far with the digests of their proofs, and the matches that failed. -/
structure Progress where
  pairProofs : List (PairKey × Finset String)
  unresolved : List CrossSurfaceUnresolved
  pairs_distinct : (keys pairProofs).Nodup
  pairs_proved : ∀ e ∈ pairProofs, e.2.Nonempty

def Progress.empty : Progress :=
  ⟨[], [], List.nodup_nil, fun _ h => absurd h List.not_mem_nil⟩

theorem assign_nonempty {κ β : Type} [DecidableEq κ] {m : List (κ × Finset β)}
    (h : ∀ e ∈ m, e.2.Nonempty) {k : κ} {v : Finset β} (hv : v.Nonempty) :
    ∀ e ∈ assign m k v, e.2.Nonempty := by
  induction m with
  | nil => simpa [assign] using hv
  | cons e m ih =>
    obtain ⟨he, hm⟩ := List.forall_mem_cons.mp h
    by_cases hk : e.1 = k
    · rw [assign, if_pos hk]
      exact List.forall_mem_cons.mpr ⟨hv, hm⟩
    · rw [assign, if_neg hk]
      exact List.forall_mem_cons.mpr ⟨he, ih hm⟩

/-- `add_pair`: one more proof of a pair. -/
def addPair (p : Progress) (source target : GraphNode) (basis : Basis) (proof : String) :
    Progress where
  pairProofs := assign p.pairProofs (source.nodeId, target.nodeId, basis)
    (insert (opaqueKey proof) (find ∅ p.pairProofs (source.nodeId, target.nodeId, basis)))
  unresolved := p.unresolved
  pairs_distinct := keys_assign_nodup p.pairs_distinct _ _
  pairs_proved := assign_nonempty p.pairs_proved (Finset.insert_nonempty _ _)

/-- `add_unresolved`: one more match that failed. -/
def addUnresolved (limits : CrossSurfaceCorrelationLimits) (p : Progress) (source : GraphNode)
    (basis : Basis) (proof reason : String) (candidateCount : Nat) : Py Progress := do
  raiseIf (limits.maxUnresolved ≤ p.unresolved.length)
    (valueError "cross-surface unresolved correlation limit exceeded")
  raiseIf (strip source.naturalKey = "") (valueError "source_key must not be empty")
  return { p with unresolved := p.unresolved ++
    [⟨source.kind, source.naturalKey, basis, opaqueKey proof, reason, candidateCount⟩] }

variable (limits : CrossSurfaceCorrelationLimits) (t : Tables)

/-! ## The four rules -/

/-- One name of an identity. -/
def correlateHostname (identity : GraphNode) (p : Progress) (hostname : String) : Py Progress :=
  match candidates t.assetsByHostname hostname with
  | [asset] => .ok (addPair p identity asset .exactHostname hostname)
  | found => addUnresolved limits p identity .exactHostname hostname
      (if found = [] then "no-exact-asset-hostname-match" else "ambiguous-asset-hostname")
      found.length

/-- Identities to the assets they name. -/
def correlateIdentities (p : Progress) : Py Progress :=
  (sortedBy (·.nodeId) t.identities).foldlM (fun p identity =>
    (identityHostnames py identity).foldlM (correlateHostname limits t identity) p) p

/-- The assets an origin host names: by address when it is one. -/
def originCandidates (host : String) : List GraphNode :=
  match canonicalIp host with
  | some address => candidates t.assetsByAddress address
  | none => candidates t.assetsByHostname host

/-- `f"{host}\x1f{port}"`. -/
def originProof (host : String) (port : Int) : String := host ++ "\x1f" ++ toString port

/-- The service behind one web surface. -/
def correlateSurface (p : Progress) (surface : GraphNode) : Py Progress := do
  let endpoint ← webSurfaceEndpoint py surface
  match endpoint with
  | none => return p
  | some (host, port) =>
      match originCandidates t host with
      | [asset] =>
          match candidates t.networkServices (assetAddress asset, port) with
          | [service] =>
              return addPair p service surface .exactOriginHostPort (originProof host port)
          | found =>
              addUnresolved limits p surface .exactOriginHostPort (originProof host port)
                (if found = [] then "no-exact-origin-service-match"
                  else "ambiguous-origin-service") found.length
      | found =>
          addUnresolved limits p surface .exactOriginHostPort (originProof host port)
            (if found = [] then "no-exact-origin-asset-match" else "ambiguous-origin-asset")
            found.length

/-- Services to the web surfaces at their endpoint. -/
def correlateSurfaces (p : Progress) : Py Progress :=
  (sortedBy (·.nodeId) t.webSurfaces).foldlM (correlateSurface py limits t) p

/-- What the proofs of one cloud resource gave so far: the assets they point to with the proofs
that do, the proofs without a match, and whether one was ambiguous. -/
structure CloudMatches where
  resolved : List (String × (GraphNode × List String))
  noMatches : List String
  ambiguous : Bool
  progress : Progress

/-- The assets a cloud network key names. -/
def cloudCandidates (key : String × String) : List GraphNode :=
  if key.1 ∈ cloudNetworkIpProperties then candidates t.assetsByAddress key.2
  else candidates t.assetsByHostname key.2

/-- `f"{property_name}\x1f{value}"`. -/
def cloudProof (key : String × String) : String := key.1 ++ "\x1f" ++ key.2

/-- `resolved.setdefault(target.node_id, (target, []))[1].append(proof)`. -/
def resolve (resolved : List (String × (GraphNode × List String))) (target : GraphNode)
    (proof : String) : List (String × (GraphNode × List String)) :=
  let entry := find (target, []) resolved target.nodeId
  assign resolved target.nodeId (entry.1, entry.2 ++ [proof])

/-- One key of a cloud resource. -/
def matchCloudKey (resource : GraphNode) (m : CloudMatches) (key : String × String) :
    Py CloudMatches :=
  match cloudCandidates t key with
  | [] => .ok { m with noMatches := m.noMatches ++ [cloudProof key] }
  | [target] => .ok { m with resolved := resolve m.resolved target (cloudProof key) }
  | found => do
      let progress ← addUnresolved limits m.progress resource .exactCloudNetworkKey
        (cloudProof key) "ambiguous-cloud-network-match" found.length
      return { m with progress, ambiguous := true }

/-- The proofs without a match are reported. -/
def reportNoMatches (resource : GraphNode) (p : Progress) (noMatches : List String) :
    Py Progress :=
  (sortedStr noMatches).foldlM (fun p proof => addUnresolved limits p resource
    .exactCloudNetworkKey proof "no-exact-cloud-network-match" 0) p

/-- What follows from the matches of one cloud resource. -/
def concludeCloud (resource : GraphNode) (m : CloudMatches) : Py Progress :=
  if m.ambiguous then .ok m.progress
  else
    match m.resolved with
    | [] => reportNoMatches limits resource m.progress m.noMatches
    | [(_, target, proofs)] =>
        reportNoMatches limits resource
          ((sortedStr proofs).foldl (fun p proof =>
            addPair p target resource .exactCloudNetworkKey proof) m.progress) m.noMatches
    | resolved =>
        addUnresolved limits m.progress resource .exactCloudNetworkKey
          ("\x1e".intercalate (sortedStr (resolved.flatMap fun entry => entry.2.2)))
          "conflicting-cloud-network-evidence" resolved.length

/-- One cloud resource. -/
def correlateCloud (p : Progress) (resource : GraphNode) : Py Progress := do
  let proofs ← cloudNetworkProofs py resource
  if proofs = [] then return p
  else
    let matched ← proofs.foldlM (matchCloudKey limits t resource) ⟨[], [], false, p⟩
    concludeCloud limits resource matched

/-- Assets to the cloud resources at their names and addresses. -/
def correlateClouds (p : Progress) : Py Progress :=
  (sortedBy (·.nodeId) t.cloudResources).foldlM (correlateCloud py limits t) p

/-- `f"{tenant_id}\x1f{object_id}"`. -/
def entraProof (tenantId objectId : String) : String := tenantId ++ "\x1f" ++ objectId

/-- One cloud identity. -/
def correlateCloudIdentity (p : Progress) (cloudIdentity : GraphNode) : Py Progress :=
  let (tenantId, objectId, hasAnyKey) := cloudIdentityEntraParts cloudIdentity
  if hasAnyKey = false then .ok p
  else if tenantId = "" ∨ objectId = "" then
    addUnresolved limits p cloudIdentity .exactCloudEntraObject (entraProof tenantId objectId)
      "incomplete-cloud-identity-key" 0
  else
    match candidates t.entraIdentitiesByKey (tenantId, objectId) with
    | [directory] => .ok (addPair p directory cloudIdentity .exactCloudEntraObject
        (entraProof tenantId objectId))
    | found => addUnresolved limits p cloudIdentity .exactCloudEntraObject
        (entraProof tenantId objectId)
        (if found = [] then "no-exact-cloud-identity-match"
          else "ambiguous-cloud-identity-match") found.length

/-- Directory identities to the cloud identities of the same object. -/
def correlateCloudIdentities (p : Progress) : Py Progress :=
  (sortedBy (·.nodeId) t.cloudIdentities).foldlM (correlateCloudIdentity limits t) p

/-! ## The correlated graph -/

/-- The order of the pairs: by source, target and basis. -/
def PairKey.le (k l : PairKey) : Bool :=
  k.1 < l.1 || (k.1 = l.1 && (k.2.1 < l.2.1 || (k.2.1 = l.2.1 && k.2.2.text ≤ l.2.2.text)))

/-- The edge of a pair. -/
def correlationEdge (key : PairKey) (proofHashes : Finset String) : Py GraphEdge := do
  let provenance ← GraphProvenance.make "cross-surface-correlation"
    (Sha256.hexOf (key.1 ++ "\x1f" ++ key.2.1 ++ "\x1f" ++ key.2.2.text ++ "\x1f" ++
      "\x1f".intercalate (proofHashes.sort (· ≤ ·))).toList) ""
  GraphEdge.create py.lower key.1 key.2.1 "correlates-to" .inferred [provenance]
    [("claim", "exact-evidence-correlation-only"), ("correlation_basis", key.2.2.text),
      ("matched_key_count", toString proofHashes.card)]

/-- Source: `graph_correlation.py` `CrossSurfaceCorrelationResult`. -/
structure CrossSurfaceCorrelationResult where
  graph : IdentityGraph
  correlatedEdgeIds : List String
  unresolved : List CrossSurfaceUnresolved

/-- The order of the unresolved matches: by kind, key, digest, reason and count. -/
def CrossSurfaceUnresolved.le (u v : CrossSurfaceUnresolved) : Bool :=
  u.sourceKind.value < v.sourceKind.value || (u.sourceKind.value = v.sourceKind.value &&
    (u.sourceKey < v.sourceKey || (u.sourceKey = v.sourceKey &&
      (u.keySha256 < v.keySha256 || (u.keySha256 = v.keySha256 &&
        (u.reason < v.reason || (u.reason = v.reason &&
          u.candidateCount ≤ v.candidateCount)))))))

/-- The edge of one pair is added. -/
def addCorrelation (buildLimits : GraphBuildLimits) (built : IdentityGraphBuilder × List String)
    (entry : PairKey × Finset String) : Py (IdentityGraphBuilder × List String) := do
  let edge ← correlationEdge py entry.1 entry.2
  let b ← addEdge buildLimits built.1 edge
  return (b, built.2 ++ [edge.edgeId])

/-- The limits of the builder: room for the graph and the edges allowed. -/
def buildLimits (g : IdentityGraph) : GraphBuildLimits :=
  ⟨max g.nodes.length 1, g.edges.length + limits.maxEdges,
    Nat.lt_of_lt_of_le Nat.one_pos (le_max_right _ _)⟩

/-- All four rules on a graph. -/
def correlatedPairs (g : IdentityGraph) : Py Progress := do
  let t ← g.nodes.foldlM (classify py) .empty
  let p ← correlateIdentities py limits t .empty
  let p ← correlateSurfaces py limits t p
  let p ← correlateClouds py limits t p
  correlateCloudIdentities limits t p

/-- Source: `graph_correlation.py` `correlate_exact_cross_surface_evidence`. -/
def correlateExactCrossSurfaceEvidence (g : IdentityGraph) :
    Py CrossSurfaceCorrelationResult := do
  let b ← g.nodes.foldlM (addNode (buildLimits limits g)) .empty
  let b ← g.edges.foldlM (addEdge (buildLimits limits g)) b
  let p ← correlatedPairs py limits g
  raiseIf (limits.maxEdges < p.pairProofs.length)
    (valueError "cross-surface correlation edge limit exceeded")
  let (b, correlated) ← (p.pairProofs.insertionSort fun a b => PairKey.le a.1 b.1 = true).foldlM
    (addCorrelation py (buildLimits limits g)) (b, [])
  return ⟨build b, sortedStr correlated, p.unresolved.insertionSort fun u v => u.le v = true⟩

end Rules

end NightRecon.RedEngine.GraphCorrelation
