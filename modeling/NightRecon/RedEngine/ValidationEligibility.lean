import NightRecon.Lib.Ipaddress
import NightRecon.RedEngine.GraphValidation
import NightRecon.RedEngine.ValidationTechniques

/-!
# Eligibility of validation techniques

`nightrecon_red_engine/validation_eligibility.py` and the binding of
`validation_adapter_contracts.py`: the options a graph gives for the reviewed techniques, and the
binding of one option to the contract of its technique.

* `classifyValidationTarget` — what a node is to a validation;
* `candidateNodes`, `planValidationEligibility` — the planner;
* `bindValidationEligibilityOption` — the binder, which derives the same from the graph again;
* `Offered` — what the planner says of an option; `plan_offered` — every option of a plan;
* `offered_binds` — what is offered is bound; `planned_options_bind` — for every registry.

`casefold` is the case mapping `str.casefold`, of which nothing is assumed.
-/

namespace NightRecon.RedEngine.ValidationEligibility

open NightRecon.Lib
open NightRecon.Lib.Checks
open NightRecon.Lib.Collect
open NightRecon.Lib.Records
open NightRecon.Lib.Text
open NightRecon.RedEngine.GraphBuilder
open NightRecon.RedEngine.GraphValidation
open NightRecon.RedEngine.ValidationTechniques

/-! ## Targets -/

/-- `dict(node.properties).get(key)`. -/
def property? (node : GraphNode) (key : String) : Option String := node.properties.lookup key

/-- `dict(node.properties).get(key, "")`. -/
def propertyText (node : GraphNode) (key : String) : String := (property? node key).getD ""

/-- Source: `validation_eligibility.py` `_canonical_ip`. -/
def canonicalIp (value : String) : Bool :=
  (Ipaddress.ipAddress value).any fun address => address.str = value

/-- Source: `validation_eligibility.py` `_canonical_port`. -/
def canonicalPort (value : String) : Bool :=
  value.toNat?.any fun port => 1 ≤ port && port ≤ 65535 && toString port = value

/-- Source: `validation_eligibility.py` `_canonical_host`. -/
def canonicalHost (casefold : String → String) (value : String) : Bool :=
  value ≠ "" && value = strip value &&
    match Ipaddress.ipAddress value with
    | some address => address.str = value
    | none => String.ofList ((casefold value).toList.rdropWhile (· = '.')) = value &&
        value.toList.all fun c => !isSpace c

/-- Source: `validation_eligibility.py` `classify_validation_target`. -/
def classifyValidationTarget (casefold : String → String) (node : GraphNode) : Option String :=
  match node.kind with
  | .asset => some "asset"
  | .service =>
      let surfaceType := propertyText node "surface_type"
      if surfaceType ≠ "" then
        if surfaceType ∈ ["web", "api"] ∧ canonicalHost casefold (propertyText node "origin_host") ∧
            canonicalPort (propertyText node "origin_port") ∧
            property? node "origin_scheme" ∈ [some "http", some "https"] then some surfaceType
        else none
      else if property? node "protocol" = some "tcp" ∧ canonicalIp (propertyText node "address") ∧
          canonicalPort (propertyText node "port") then some "service"
      else none
  | _ => none

/-- Source: `validation_eligibility.py` `_requirements_satisfied`. -/
def requirementsSatisfied (t : TechniqueFields) (node : GraphNode) : Bool :=
  t.eligibilityRequiredProperties.all (fun key => propertyText node key ≠ "") &&
    t.eligibilityRequiredValues.all fun r => property? node r.1 = some r.2

/-- Source: `validation_eligibility.py` `EligibilityEvidenceSource`. -/
structure EligibilityEvidenceSource where
  sourceType : String
  sourceId : String
  deriving DecidableEq

/-- Source: `validation_eligibility.py` `_provenance`,
`validation_adapter_contracts.py` `_expected_provenance`. -/
def provenanceOf (node : GraphNode) : List EligibilityEvidenceSource :=
  node.provenance.map fun p => ⟨p.sourceType, p.sourceId⟩

/-! ## Identifiers -/

/-- A label and the digest of parts. -/
def digestId (label : String) (parts : List String) : String :=
  label ++ Sha256.hexOf ("\x1f".intercalate parts).toList

/-- Source: `validation_eligibility.py` `_path_id`. -/
def pathIdOf (edgeIds : List String) : String := digestId "atlas-" edgeIds

/-- Source: `validation_eligibility.py` `_candidate_id`. -/
def candidateIdOf (pathId : String) (edgeIds evidenceIds : List String) : String :=
  digestId "validation-candidate-" (pathId :: edgeIds ++ evidenceIds)

/-- Source: `validation_eligibility.py` `validation_eligibility_id`. -/
def validationEligibilityId (candidateId techniqueId targetNodeId : String) : String :=
  digestId "validation-eligibility-" [candidateId, techniqueId, targetNodeId]

/-! ## Candidates -/

/-- Source: `validation_candidates.py` `ValidationCandidate`. -/
structure ValidationCandidate where
  candidateId : String
  pathId : String
  nodeIds : List String
  edgeIds : List String
  evidenceIds : List String
  observedHops : Nat
  inferredHops : Nat
  requiredCapability : String
  approvalRequired : Bool
  scopeReviewRequired : Bool
  executionMode : String

/-- Source: `validation_eligibility.py` `_edge_evidence_ids`. -/
def edgeEvidenceIds (edges : List GraphEdge) : List String :=
  sortedStr ((edges.flatMap fun e => (e.provenance.filter fun p =>
    p.sourceType = "engagement-evidence").map fun p => p.sourceId).dedup)

/-- The edge of one step of a path. -/
def stepEdge (edges : List GraphEdge) (step : String × String × String) : Py GraphEdge := do
  let edge ← getOrRaise (edges.find? fun e => e.edgeId = step.1)
    (valueError "validation candidate references a missing graph edge")
  raiseIf (edge.sourceNodeId ≠ step.2.1 ∨ edge.targetNodeId ≠ step.2.2)
    (valueError "validation candidate path sequence does not match graph")
  return edge

/-- Source: `validation_eligibility.py` `_candidate_nodes`. -/
def candidateNodes (graph : GraphSnapshot) (candidate : ValidationCandidate) :
    Py (List GraphNode) := do
  raiseIf (candidate.executionMode ≠ "proposal-only")
    (valueError "validation candidate execution mode is not proposal-only")
  raiseIf (candidate.requiredCapability ≠ "validation.run")
    (valueError "validation candidate capability is not validation.run")
  raiseIf (candidate.approvalRequired = false ∨ candidate.scopeReviewRequired = false)
    (valueError "validation candidate review gates must remain enabled")
  raiseIf (candidate.edgeIds = [] ∨ candidate.nodeIds.length ≠ candidate.edgeIds.length + 1)
    (valueError "validation candidate path shape is invalid")
  let nodes := collect (fun n : GraphNode => n.nodeId) graph.nodes
  let edges := collect (fun e : GraphEdge => e.edgeId) graph.edges
  let selectedNodes ← candidate.nodeIds.mapM fun nodeId =>
    getOrRaise (nodes.find? fun n => n.nodeId = nodeId)
      (valueError "validation candidate references a missing graph node")
  let selectedEdges ← (candidate.edgeIds.zip
    (candidate.nodeIds.zip candidate.nodeIds.tail)).mapM (stepEdge edges)
  raiseIf (candidate.pathId ≠ pathIdOf candidate.edgeIds)
    (valueError "validation candidate path identifier is stale or invalid")
  raiseIf (candidate.evidenceIds ≠ edgeEvidenceIds selectedEdges)
    (valueError "validation candidate evidence identifiers are stale")
  raiseIf (candidate.candidateId ≠
      candidateIdOf candidate.pathId candidate.edgeIds candidate.evidenceIds)
    (valueError "validation candidate identifier is stale or invalid")
  raiseIf (candidate.observedHops ≠ selectedEdges.countP (fun e => e.evidenceState = .observed) ∨
      candidate.inferredHops ≠ selectedEdges.countP (fun e => e.evidenceState = .inferred))
    (valueError "validation candidate hop evidence is stale")
  return selectedNodes

/-! ## The planner -/

/-- Source: `validation_eligibility.py` `ValidationEligibilityLimits`. -/
structure ValidationEligibilityLimits where
  maxCandidates : Nat
  maxTechniques : Nat
  maxTargetsPerCandidate : Nat
  maxOptions : Nat
  maxRejections : Nat
  positive : 0 < maxCandidates ∧ 0 < maxTechniques ∧ 0 < maxTargetsPerCandidate ∧
    0 < maxOptions ∧ 0 < maxRejections

/-- Source: `validation_eligibility.py` `ValidationEligibilityOption`. -/
structure ValidationEligibilityOption where
  eligibilityId : String
  candidateId : String
  pathId : String
  techniqueId : String
  targetNodeId : String
  targetKind : String
  pathEvidenceIds : List String
  targetProvenance : List EligibilityEvidenceSource
  expectedEvidenceKeys : List String
  impact : String
  requiresApproval : Bool
  adapterKind : String
  cleanupMode : String
  executionMode : String

/-- Source: `validation_eligibility.py` `ValidationEligibilityRejection`. -/
structure ValidationEligibilityRejection where
  candidateId : String
  techniqueId : String
  reason : String
  compatibleTargetCount : Nat

/-- Source: `validation_eligibility.py` `ValidationEligibilityPlan`. -/
structure ValidationEligibilityPlan where
  options : List ValidationEligibilityOption
  rejections : List ValidationEligibilityRejection
  candidateCount : Nat
  techniqueCount : Nat

/-- The lists the planner fills. -/
structure Draft where
  options : List ValidationEligibilityOption
  rejections : List ValidationEligibilityRejection

/-- The option for one eligible node. -/
def optionFor (candidate : ValidationCandidate) (t : TechniqueFields) (target : GraphNode × String) :
    ValidationEligibilityOption where
  eligibilityId := validationEligibilityId candidate.candidateId t.techniqueId target.1.nodeId
  candidateId := candidate.candidateId
  pathId := candidate.pathId
  techniqueId := t.techniqueId
  targetNodeId := target.1.nodeId
  targetKind := target.2
  pathEvidenceIds := candidate.evidenceIds
  targetProvenance := provenanceOf target.1
  expectedEvidenceKeys := t.evidenceKeys
  impact := t.impact
  requiresApproval := t.requiresApproval
  adapterKind := t.adapterKind
  cleanupMode := t.cleanupMode
  executionMode := "proposal-only"

section Planner

variable (casefold : String → String) (limits : ValidationEligibilityLimits)

/-- One option is added. -/
def addOption (candidate : ValidationCandidate) (t : TechniqueFields) (draft : Draft)
    (target : GraphNode × String) : Py Draft := do
  let options := draft.options ++ [optionFor candidate t target]
  raiseIf (limits.maxOptions < options.length)
    (valueError "validation eligibility option ceiling exceeded")
  return { draft with options }

/-- One technique for one candidate. -/
def planTechnique (candidate : ValidationCandidate) (classified : List (GraphNode × String))
    (draft : Draft) (technique : ValidationTechniqueDefinition) : Py Draft := do
  let compatible := classified.filter fun target => target.2 ∈ technique.targetKinds
  let eligible := compatible.filter fun target =>
    requirementsSatisfied technique.toTechniqueFields target.1
  if eligible = [] then
    let rejections := draft.rejections ++ [⟨candidate.candidateId, technique.techniqueId,
      if compatible = [] then "no-exact-target-kind"
      else "target-evidence-prerequisites-not-satisfied", compatible.length⟩]
    raiseIf (limits.maxRejections < rejections.length)
      (valueError "validation eligibility rejection ceiling exceeded")
    return { draft with rejections }
  else
    eligible.foldlM (addOption limits candidate technique.toTechniqueFields) draft

/-- The nodes that are targets, with what they are. -/
def classifiedNodes (nodes : List GraphNode) : List (GraphNode × String) :=
  nodes.filterMap fun node => (classifyValidationTarget casefold node).map fun kind => (node, kind)

/-- One candidate. -/
def planCandidate (graph : GraphSnapshot) (techniques : List ValidationTechniqueDefinition)
    (draft : Draft) (candidate : ValidationCandidate) : Py Draft := do
  let pathNodes ← candidateNodes graph candidate
  let classified := classifiedNodes casefold pathNodes
  raiseIf (limits.maxTargetsPerCandidate < classified.length)
    (valueError "validation eligibility target ceiling exceeded")
  techniques.foldlM (planTechnique limits candidate classified) draft

/-- The order of the options: by candidate, technique and target. -/
def ValidationEligibilityOption.le (a b : ValidationEligibilityOption) : Bool :=
  a.candidateId < b.candidateId || (a.candidateId = b.candidateId &&
    (a.techniqueId < b.techniqueId || (a.techniqueId = b.techniqueId &&
      a.targetNodeId ≤ b.targetNodeId)))

/-- The order of the rejections: by candidate, technique and reason. -/
def ValidationEligibilityRejection.le (a b : ValidationEligibilityRejection) : Bool :=
  a.candidateId < b.candidateId || (a.candidateId = b.candidateId &&
    (a.techniqueId < b.techniqueId || (a.techniqueId = b.techniqueId && a.reason ≤ b.reason)))

/-- Source: `validation_eligibility.py` `plan_validation_eligibility`. -/
def planValidationEligibility (graph : GraphSnapshot) (compilation : List ValidationCandidate)
    (registry : ValidationTechniqueRegistry) : Py ValidationEligibilityPlan := do
  assertValidIdentityGraph graph
  let candidates := sortedBy (fun c => c.candidateId) compilation
  let techniques := registry.techniques
  raiseIf (limits.maxCandidates < candidates.length)
    (valueError "validation eligibility candidate ceiling exceeded")
  raiseIf (limits.maxTechniques < techniques.length)
    (valueError "validation eligibility technique ceiling exceeded")
  let draft ← candidates.foldlM (planCandidate casefold limits graph techniques) ⟨[], []⟩
  return { options := draft.options.insertionSort fun a b => a.le b = true
           rejections := draft.rejections.insertionSort fun a b => a.le b = true
           candidateCount := candidates.length
           techniqueCount := techniques.length }

end Planner

/-! ## The binder -/

/-- The keys of the preconditions that fail.
Source: `validation_adapter_contracts.py` `evaluate_validation_preconditions`. -/
def failedPreconditions (contract : ValidationAdapterContract) (target : GraphNode) :
    List String :=
  sortedStr ((contract.preconditions.filter fun condition =>
    match condition.operator with
    | .present => propertyText target condition.key = ""
    | .equals => property? target condition.key ≠ some condition.value).map fun c => c.key)

/-- Source: `validation_adapter_contracts.py` `ValidationAdapterBinding`. -/
structure ValidationAdapterBinding where
  bindingId : String
  eligibilityId : String
  candidateId : String
  pathId : String
  techniqueId : String
  contractId : String
  targetNodeId : String
  targetKind : String
  expectedEvidenceKeys : List String
  impact : String
  requiresApproval : Bool
  adapterKind : String
  cleanupMode : String
  sideEffectMode : String
  executionMode : String

/-- Source: `validation_adapter_contracts.py` `validation_binding_id`. -/
def validationBindingId (eligibilityId contractId targetNodeId : String) : Py String := do
  let _ ← requireText eligibilityId "eligibility_id"
  let _ ← requireText contractId "contract_id"
  let _ ← requireText targetNodeId "target_node_id"
  return digestId "validation-binding-" [eligibilityId, contractId, targetNodeId]

/-- Source: `validation_adapter_contracts.py` `bind_validation_eligibility_option`. -/
def bindValidationEligibilityOption (casefold : String → String) (graph : GraphSnapshot)
    (option : ValidationEligibilityOption) (contracts : ValidationAdapterContractRegistry)
    (techniques : ValidationTechniqueRegistry) : Py ValidationAdapterBinding := do
  assertValidIdentityGraph graph
  raiseIf (option.executionMode ≠ "proposal-only")
    (valueError "eligibility option must remain proposal-only")
  let technique ← techniques.get option.techniqueId
  raiseIf (option.expectedEvidenceKeys ≠ technique.evidenceKeys)
    (valueError "eligibility expected evidence no longer matches technique")
  raiseIf (option.impact ≠ technique.impact)
    (valueError "eligibility impact no longer matches technique")
  raiseIf (option.requiresApproval ≠ technique.requiresApproval)
    (valueError "eligibility approval metadata no longer matches technique")
  raiseIf (option.adapterKind ≠ technique.adapterKind)
    (valueError "eligibility adapter kind no longer matches technique")
  raiseIf (option.cleanupMode ≠ technique.cleanupMode)
    (valueError "eligibility cleanup mode no longer matches technique")
  let target ← getOrRaise (graph.nodes.find? fun node => node.nodeId = option.targetNodeId)
    (valueError "eligibility target node is missing from graph")
  let targetKind ← getOrRaise ((classifyValidationTarget casefold target).filter fun kind =>
    kind = option.targetKind) (valueError "eligibility target classification is stale")
  raiseIf (targetKind ∉ technique.targetKinds)
    (valueError "eligibility target kind no longer matches technique")
  raiseIf (option.targetProvenance ≠ provenanceOf target)
    (valueError "eligibility target provenance is stale")
  raiseIf (option.eligibilityId ≠ validationEligibilityId option.candidateId option.techniqueId
      option.targetNodeId)
    (valueError "eligibility identifier is stale or invalid")
  let contract ← contracts.forTechnique option.techniqueId
  assertContractMatchesTechnique contract technique
  let failed := failedPreconditions contract target
  raiseIf (failed ≠ []) (valueError ("adapter contract preconditions are not satisfied: " ++
    ",".intercalate failed))
  let bindingId ← validationBindingId option.eligibilityId contract.contractId option.targetNodeId
  return { bindingId
           eligibilityId := option.eligibilityId
           candidateId := option.candidateId
           pathId := option.pathId
           techniqueId := option.techniqueId
           contractId := contract.contractId
           targetNodeId := option.targetNodeId
           targetKind := option.targetKind
           expectedEvidenceKeys := option.expectedEvidenceKeys
           impact := option.impact
           requiresApproval := option.requiresApproval
           adapterKind := option.adapterKind
           cleanupMode := option.cleanupMode
           sideEffectMode := contract.sideEffectMode
           executionMode := "contract-only" }

/-! ## What the planner offers -/

/-- What the planner says of an option: it is the one for a node of the graph that is of a kind of
the technique and has what the technique requires. -/
def Offered (casefold : String → String) (graph : GraphSnapshot)
    (registry : ValidationTechniqueRegistry) (option : ValidationEligibilityOption) : Prop :=
  ∃ candidate, ∃ t ∈ registry.techniques, ∃ node ∈ graph.nodes, ∃ kind,
    classifyValidationTarget casefold node = some kind ∧ kind ∈ t.targetKinds ∧
    requirementsSatisfied t.toTechniqueFields node = true ∧
    option = optionFor candidate t.toTechniqueFields (node, kind)

/-- The nodes of a candidate are nodes of the graph. -/
theorem candidateNodes_mem {graph : GraphSnapshot} {candidate : ValidationCandidate}
    {nodes : List GraphNode} (h : candidateNodes graph candidate = .ok nodes) :
    ∀ n ∈ nodes, n ∈ graph.nodes := by
  simp only [candidateNodes, raiseIf_bind_eq_ok] at h
  obtain ⟨-, -, -, -, h⟩ := h
  rw [bind_eq_ok] at h
  obtain ⟨selected, hselected, h⟩ := h
  rw [bind_eq_ok] at h
  obtain ⟨edges, -, h⟩ := h
  simp only [raiseIf_bind_eq_ok, pure_eq_ok, Except.ok.injEq] at h
  obtain ⟨-, -, -, -, rfl⟩ := h
  intro n hn
  obtain ⟨nodeId, -, hfound⟩ := mem_of_mapM hselected hn
  exact mem_of_mem_collect (List.mem_of_find?_eq_some (getOrRaise_eq_ok.mp hfound))

section Offers

variable {casefold : String → String} {limits : ValidationEligibilityLimits}
  {graph : GraphSnapshot} {registry : ValidationTechniqueRegistry}

/-- One technique adds only offers. -/
theorem planTechnique_offered {candidate : ValidationCandidate} {nodes : List GraphNode}
    (hnodes : ∀ n ∈ nodes, n ∈ graph.nodes) {technique : ValidationTechniqueDefinition}
    (htechnique : technique ∈ registry.techniques) {draft draft' : Draft}
    (h : planTechnique limits candidate (classifiedNodes casefold nodes) draft technique =
      .ok draft')
    (hdraft : ∀ option ∈ draft.options, Offered casefold graph registry option) :
    ∀ option ∈ draft'.options, Offered casefold graph registry option := by
  dsimp only [planTechnique] at h
  split at h
  · simp only [raiseIf_bind_eq_ok, pure_eq_ok, Except.ok.injEq] at h
    obtain ⟨-, rfl⟩ := h
    exact hdraft
  · refine foldlM_induct_mem (P := fun d : Draft =>
      ∀ option ∈ d.options, Offered casefold graph registry option) ?_ hdraft h
    intro target htarget d d' hd hstep
    obtain ⟨htarget, hsatisfied⟩ := List.mem_filter.mp htarget
    obtain ⟨htarget, hkind⟩ := List.mem_filter.mp htarget
    obtain ⟨node, hnode, hclassified⟩ := List.mem_filterMap.mp htarget
    obtain ⟨kind, hclass, rfl⟩ := Option.map_eq_some_iff.mp hclassified
    simp only [addOption, raiseIf_bind_eq_ok, pure_eq_ok, Except.ok.injEq] at hstep
    obtain ⟨-, rfl⟩ := hstep
    intro option hoption
    rcases List.mem_append.mp hoption with hoption | hoption
    · exact hd option hoption
    · obtain rfl := List.mem_singleton.mp hoption
      exact ⟨candidate, technique, htechnique, node, hnodes node hnode, kind, hclass,
        of_decide_eq_true hkind, hsatisfied, rfl⟩

theorem planCandidate_offered {draft draft' : Draft} {candidate : ValidationCandidate}
    (h : planCandidate casefold limits graph registry.techniques draft candidate = .ok draft')
    (hdraft : ∀ option ∈ draft.options, Offered casefold graph registry option) :
    ∀ option ∈ draft'.options, Offered casefold graph registry option := by
  rw [planCandidate, bind_eq_ok] at h
  obtain ⟨nodes, hnodes, h⟩ := h
  rw [raiseIf_bind_eq_ok] at h
  refine foldlM_induct_mem (P := fun d : Draft =>
    ∀ option ∈ d.options, Offered casefold graph registry option) ?_ hdraft h.2
  intro technique htechnique d d' hd hstep
  exact planTechnique_offered (candidateNodes_mem hnodes) htechnique hstep hd

/-- **Every option of a plan was offered**, for a consistent graph. -/
theorem plan_offered {compilation : List ValidationCandidate} {plan : ValidationEligibilityPlan}
    (h : planValidationEligibility casefold limits graph compilation registry = .ok plan) :
    assertValidIdentityGraph graph = .ok () ∧
      ∀ option ∈ plan.options, Offered casefold graph registry option := by
  rw [planValidationEligibility, unit_bind_eq_ok, raiseIf_bind_eq_ok, raiseIf_bind_eq_ok] at h
  obtain ⟨hvalid, -, -, h⟩ := h
  rw [bind_eq_ok] at h
  obtain ⟨draft, hdraft, h⟩ := h
  simp only [pure_eq_ok, Except.ok.injEq] at h
  subst h
  refine ⟨hvalid, fun option hoption => ?_⟩
  have hall := foldlM_induct_mem (P := fun d : Draft =>
    ∀ option ∈ d.options, Offered casefold graph registry option)
    (fun _ _ _ _ hd hstep => planCandidate_offered hstep hd)
    (fun _ hnone => absurd hnone List.not_mem_nil) hdraft
  exact hall option ((List.mem_insertionSort _).mp hoption)

/-! ## What is offered is bound -/

/-- An identifier made of a label and a digest is trimmed. -/
theorem requiredText_digestId {label : String} (hlabel : label ≠ "")
    (hspace : label.toList.all (fun c => !isSpace c) = true) (parts : List String) :
    requiredText (digestId label parts) := by
  refine ⟨fun hempty => ?_, strip_eq_self fun c hc => ?_⟩
  · have hchars := congrArg String.toList hempty
    rw [digestId, String.toList_append] at hchars
    exact hlabel (String.toList_inj.mp (List.append_eq_nil_iff.mp hchars).1)
  · rw [digestId, String.toList_append, List.mem_append] at hc
    rcases hc with hc | hc
    · exact Bool.not_eq_true' _ |>.mp (List.all_eq_true.mp hspace c hc)
    · have hhex : "0123456789abcdef".toList.all (fun d => !isSpace d) = true := rfl
      have hmem := (Sha256.isSha256Hex_hexOf _).2 c hc
      exact Bool.not_eq_true' _ |>.mp (List.all_eq_true.mp hhex c hmem)

/-- **Planner and binder agree on the preconditions.** -/
theorem failedPreconditions_declared {t : TechniqueFields} {node : GraphNode}
    (h : requirementsSatisfied t node = true) :
    failedPreconditions (declaredContract t) node = [] := by
  rw [requirementsSatisfied, Bool.and_eq_true, List.all_eq_true, List.all_eq_true] at h
  obtain ⟨hproperties, hvalues⟩ := h
  have hnone : (declaredPreconditions t).filter (fun condition =>
      match condition.operator with
      | .present => decide (propertyText node condition.key = "")
      | .equals => decide (property? node condition.key ≠ some condition.value)) = [] := by
    rw [List.filter_eq_nil_iff]
    intro condition hcondition
    rcases List.mem_append.mp hcondition with hcondition | hcondition
    · obtain ⟨key, hkey, rfl⟩ := List.mem_map.mp hcondition
      have hpresent := of_decide_eq_true (hproperties key hkey)
      exact fun hmissing => hpresent (of_decide_eq_true hmissing)
    · obtain ⟨r, hr, rfl⟩ := List.mem_map.mp hcondition
      have hequal := of_decide_eq_true (hvalues r hr)
      exact fun hother => of_decide_eq_true hother hequal
  rw [failedPreconditions]
  show sortedStr (((declaredPreconditions t).filter _).map _) = []
  rw [hnone]
  rfl

/-- The binding of the option for an eligible node. -/
def bindingFor (candidate : ValidationCandidate) (t : TechniqueFields)
    (target : GraphNode × String) : ValidationAdapterBinding :=
  let option := optionFor candidate t target
  let contract := declaredContract t
  { bindingId := digestId "validation-binding-"
      [option.eligibilityId, contract.contractId, option.targetNodeId]
    eligibilityId := option.eligibilityId
    candidateId := option.candidateId
    pathId := option.pathId
    techniqueId := option.techniqueId
    contractId := contract.contractId
    targetNodeId := option.targetNodeId
    targetKind := option.targetKind
    expectedEvidenceKeys := option.expectedEvidenceKeys
    impact := option.impact
    requiresApproval := option.requiresApproval
    adapterKind := option.adapterKind
    cleanupMode := option.cleanupMode
    sideEffectMode := contract.sideEffectMode
    executionMode := "contract-only" }

/-- What a binding says of its option. -/
structure Binds (option : ValidationEligibilityOption) (binding : ValidationAdapterBinding) :
    Prop where
  eligibilityId : binding.eligibilityId = option.eligibilityId
  candidateId : binding.candidateId = option.candidateId
  pathId : binding.pathId = option.pathId
  techniqueId : binding.techniqueId = option.techniqueId
  targetNodeId : binding.targetNodeId = option.targetNodeId
  targetKind : binding.targetKind = option.targetKind
  expectedEvidenceKeys : binding.expectedEvidenceKeys = option.expectedEvidenceKeys
  impact : binding.impact = option.impact
  requiresApproval : binding.requiresApproval = option.requiresApproval

/-- **What is offered is bound**, by the contracts of the same registry. -/
theorem offered_binds {contracts : ValidationAdapterContractRegistry}
    (hcontracts : ∀ t ∈ registry.techniques,
      contracts.forTechnique t.techniqueId = .ok (declaredContract t.toTechniqueFields))
    (hvalid : assertValidIdentityGraph graph = .ok ()) {option : ValidationEligibilityOption}
    (h : Offered casefold graph registry option) :
    ∃ binding, bindValidationEligibilityOption casefold graph option contracts registry =
      .ok binding ∧ Binds option binding := by
  obtain ⟨candidate, t, ht, node, hnode, kind, hclass, hkind, hsatisfied, rfl⟩ := h
  have hget : registry.get t.techniqueId = .ok t := by
    rw [ValidationTechniqueRegistry.get, requireText_of t.reviewed.techniqueId, ok_bind]
    exact getOrRaise_eq_ok.mpr ((Keyed.find?_eq_some_iff registry.distinct).mpr ⟨ht, rfl⟩)
  have htarget : graph.nodes.find? (fun n => n.nodeId = node.nodeId) = some node :=
    (Keyed.find?_eq_some_iff (assertValid_distinct hvalid)).mpr ⟨hnode, rfl⟩
  have hclass : (classifyValidationTarget casefold node).filter (fun k => k = kind) =
      some kind := by
    rw [hclass, Option.filter_some, if_pos (decide_eq_true rfl)]
  have hid : validationBindingId
      (validationEligibilityId candidate.candidateId t.techniqueId node.nodeId)
      (t.techniqueId ++ ".contract.v1") node.nodeId =
      .ok (digestId "validation-binding-"
        [validationEligibilityId candidate.candidateId t.techniqueId node.nodeId,
          t.techniqueId ++ ".contract.v1", node.nodeId]) := by
    have heligibility : requiredText
        (validationEligibilityId candidate.candidateId t.techniqueId node.nodeId) :=
      requiredText_digestId (by decide) (by decide) _
    rw [validationBindingId, requireText_of heligibility, ok_bind, requireText_of (requiredText_contract t.reviewed.canonical), ok_bind,
      requireText_of (graph.created node hnode).nodeId_required]
    rfl
  have hfailed : failedPreconditions (declaredContract t.toTechniqueFields) node = [] :=
    failedPreconditions_declared hsatisfied
  have hbound : bindValidationEligibilityOption casefold graph
      (optionFor candidate t.toTechniqueFields (node, kind)) contracts registry =
      .ok (bindingFor candidate t.toTechniqueFields (node, kind)) := by
    have hself {α : Type} (a : α) : ¬ a ≠ a := not_not.mpr rfl
    simp only [bindValidationEligibilityOption, bind_eq_ok, raiseIf_eq_ok, getOrRaise_eq_ok]
    refine ⟨(), hvalid, (), hself _, t, hget, (), hself _, (), hself _, (), hself _, (), hself _,
      (), hself _, node, htarget, kind, hclass, (), not_not.mpr hkind, (), hself _, (), hself _, _,
      hcontracts t ht, (), assertContractMatches t, (), not_not.mpr hfailed, _, hid, rfl⟩
  exact ⟨_, hbound, rfl, rfl, rfl, rfl, rfl, rfl, rfl, rfl, rfl⟩

end Offers

/-- **The planner offers nothing the binder refuses.**  For every registry of techniques, with the
contracts they declare, every graph and every plan for it: each option of the plan is bound, and the
binding names what the option names. -/
theorem planned_options_bind (casefold : String → String) (registry : ValidationTechniqueRegistry) :
    ∃ contracts, contractsOf registry = .ok contracts ∧
      ∀ limits graph compilation plan,
        planValidationEligibility casefold limits graph compilation registry = .ok plan →
        ∀ option ∈ plan.options, ∃ binding,
          bindValidationEligibilityOption casefold graph option contracts registry = .ok binding ∧
          Binds option binding := by
  obtain ⟨contracts, hcontracts, hdeclared⟩ := contracts_of_registry registry
  refine ⟨contracts, hcontracts, fun limits graph compilation plan hplan option hoption => ?_⟩
  obtain ⟨hvalid, hoffered⟩ := plan_offered hplan
  exact offered_binds hdeclared hvalid (hoffered option hoption)

end NightRecon.RedEngine.ValidationEligibility
