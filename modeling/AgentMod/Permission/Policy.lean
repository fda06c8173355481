import AgentMod.Library.Files
import AgentMod.Library.Sorting
import AgentMod.Primitives.Text
import Mathlib.Data.List.DropRight

/-! Permission policies, and the canonical actions that they decide about. -/

namespace AgentMod

/-- Structured filesystem write proposal. -/
structure FilesystemWriteAction where
  path : String

/-- Structured process start proposal. -/
structure ProcessStartAction where
  executable : String

/-- Structured network request proposal. -/
structure HttpRequestAction where
  method : String
  url : String

/-- Structured provider request proposal. -/
structure ModelRequestAction where
  provider : String
  model : String

/-- Structured tool call proposal. -/
structure ToolCallAction where
  tool : String
  group : String
  source : Option String

/-- Structured isolated plugin-node invocation proposal. -/
structure PluginNodeInvocationAction where
  pluginId : String

/-- The plugin that performs a consequential context operation. -/
structure PluginContextOperationActionIdentity where
  pluginId : String

/-- Every consequential runtime action class, with the details that policies match. -/
inductive ConsequentialAction where
  | contextConstruction
  | contextReplacement
  | modelRequest (request : ModelRequestAction)
  | modelRetry
  | providerSwitch (provider model : String)
  | toolCall (tool : ToolCallAction)
  | processStart (process : ProcessStartAction)
  | processInput
  | filesystemWrite (write : FilesystemWriteAction)
  | httpRequest (request : HttpRequestAction)
  | webSearch
  | memoryWrite
  | pluginMemoryRetrieve (identity : PluginContextOperationActionIdentity)
  | pluginMemoryWrite (identity : PluginContextOperationActionIdentity)
  | artifactPersistence
  | compaction
  | pluginCompaction (identity : PluginContextOperationActionIdentity)
  | childAgentCreation
  | childAgentMessage
  | childAgentCancellation
  | pluginStateChange
  | pluginNodeInvocation (invocation : PluginNodeInvocationAction)
  | continuationResume
  | scheduleCreation
  | checkpointRestoration

/-- Stable action type used by permission matching and event names. -/
def ConsequentialAction.kind : ConsequentialAction → String
  | contextConstruction | pluginMemoryRetrieve _ => "context_construction"
  | contextReplacement => "context_replacement"
  | modelRequest _ => "model_request"
  | modelRetry => "model_retry"
  | providerSwitch .. => "provider_switch"
  | toolCall _ => "tool_call"
  | processStart _ => "process_start"
  | processInput => "process_input"
  | filesystemWrite _ => "filesystem_write"
  | httpRequest _ => "http_request"
  | webSearch => "web_search"
  | memoryWrite | pluginMemoryWrite _ => "memory_write"
  | artifactPersistence => "artifact_persistence"
  | compaction | pluginCompaction _ => "compaction"
  | childAgentCreation => "child_agent_creation"
  | childAgentMessage => "child_agent_message"
  | childAgentCancellation => "child_agent_cancellation"
  | pluginStateChange => "plugin_state_change"
  | pluginNodeInvocation _ => "plugin_node_invocation"
  | continuationResume => "continuation_resume"
  | scheduleCreation => "schedule_creation"
  | checkpointRestoration => "checkpoint_restoration"

/-- Original or interceptor-modified proposal. -/
structure ActionProposal where
  action : ConsequentialAction
  style : String
  workspace : String

/-- Permission outcome. -/
inductive PermissionEffect where
  | allow
  | ask
  | deny
  deriving DecidableEq, Repr

/-- How restrictive an outcome is. -/
def permissionRank : PermissionEffect → Nat
  | .allow => 0
  | .ask => 1
  | .deny => 2

/-- A more restrictive outcome is a greater one. -/
instance : LinearOrder PermissionEffect :=
  LinearOrder.lift' permissionRank fun left right => by cases left <;> cases right <;> simp [permissionRank]

/-- Stable matcher fields: a field that is missing is unconstrained. -/
structure PermissionMatcher where
  action : Option String := none
  tool : Option String := none
  toolGroup : Option String := none
  source : Option String := none
  pathPrefix : Option String := none
  executable : Option String := none
  domain : Option String := none
  httpMethod : Option String := none
  provider : Option String := none
  model : Option String := none
  style : Option String := none
  workspace : Option String := none

/-- The matcher fields that belong to one class of actions. -/
inductive ActionFieldGroup where
  | none
  | tool
  | path
  | process
  | http
  | provider
  | plugin
  deriving DecidableEq

/-- Whether a matcher constrains no field outside of a group. -/
def actionUnrelatedFieldsEmpty (matcher : PermissionMatcher) (group : ActionFieldGroup) : Bool :=
  (group == .tool || (matcher.tool.isNone && matcher.toolGroup.isNone)) &&
  (group == .tool || group == .plugin || matcher.source.isNone) &&
  (group == .path || matcher.pathPrefix.isNone) &&
  (group == .process || matcher.executable.isNone) &&
  (group == .http || (matcher.domain.isNone && matcher.httpMethod.isNone)) &&
  (group == .provider || (matcher.provider.isNone && matcher.model.isNone))

/-- Whether a text is the expected one, if any, up to the case of ASCII letters. -/
def optionalEq (expected : Option String) (actual : String) : Bool :=
  expected.all fun expected => toAsciiLowercase expected == toAsciiLowercase actual

/-- Whether a character separates the parts of a path. -/
def isPathSeparator (character : Char) : Bool := character == '/' || character == '\\'

/-- Whether a path is the expected one, if any, or lies below it. -/
def optionalPrefix (expected : Option String) (actual : String) : Bool :=
  expected.all fun expected =>
    let expected := expected.toList.rdropWhile isPathSeparator
    actual.toList == expected ||
      (actual.toList.dropPrefix? expected).any fun suffix => suffix.head?.any isPathSeparator

/-- Whether a domain is the expected one, if any, or matches its `*.` pattern. -/
def optionalDomain (expected : Option String) (actual : Option (List Char)) : Bool :=
  expected.all fun expected => actual.any fun actual =>
    let expected := (toAsciiLowercase expected).toList
    let actual := (toAsciiLowercase (.ofList actual)).toList
    match expected.dropPrefix? ['*', '.'] with
    | some suffix => actual != suffix && ('.' :: suffix).isSuffixOf actual
    | none => actual == expected

/-- What follows the first `://` of a text. -/
def afterScheme : List Char → Option (List Char)
  | [] => none
  | character :: rest =>
    if [':', '/', '/'].isPrefixOf (character :: rest) then some (rest.drop 2) else afterScheme rest

/-- The host of a URL. -/
def extractDomain (url : String) : Option (List Char) := do
  let remaining ← afterScheme url.toList
  let authority := remaining.takeWhile fun character => !(['/', '?', '#'].contains character)
  let withoutUser := match splitLast '@' authority with
    | none => authority
    | some (_, host) => host
  if withoutUser.head? = some '[' then
    if withoutUser.contains ']' then
      some ((withoutUser.takeWhile (· != ']')).dropWhile (· == '['))
    else none
  else some (withoutUser.takeWhile (· != ':'))

namespace PermissionMatcher

/-- Whether a matcher accepts the details of an action. -/
def matchesAction (matcher : PermissionMatcher) : ConsequentialAction → Bool
  | .toolCall tool =>
    optionalEq matcher.tool tool.tool && optionalEq matcher.toolGroup tool.group &&
      optionalEq matcher.source (tool.source.getD "") && actionUnrelatedFieldsEmpty matcher .tool
  | .filesystemWrite write =>
    optionalPrefix matcher.pathPrefix write.path && actionUnrelatedFieldsEmpty matcher .path
  | .processStart process =>
    optionalEq matcher.executable process.executable && actionUnrelatedFieldsEmpty matcher .process
  | .httpRequest request =>
    optionalDomain matcher.domain (extractDomain request.url) &&
      optionalEq matcher.httpMethod request.method && actionUnrelatedFieldsEmpty matcher .http
  | .modelRequest request =>
    optionalEq matcher.provider request.provider && optionalEq matcher.model request.model &&
      actionUnrelatedFieldsEmpty matcher .provider
  | .providerSwitch provider model =>
    optionalEq matcher.provider provider && optionalEq matcher.model model &&
      actionUnrelatedFieldsEmpty matcher .provider
  | .pluginNodeInvocation invocation =>
    optionalEq matcher.source invocation.pluginId && actionUnrelatedFieldsEmpty matcher .plugin
  | .pluginMemoryRetrieve identity | .pluginMemoryWrite identity | .pluginCompaction identity =>
    optionalEq matcher.source identity.pluginId && actionUnrelatedFieldsEmpty matcher .plugin
  | _ => actionUnrelatedFieldsEmpty matcher .none

/-- Whether a matcher accepts a proposal. -/
def accepts (matcher : PermissionMatcher) (proposal : ActionProposal) : Bool :=
  optionalEq matcher.action proposal.action.kind && optionalEq matcher.style proposal.style &&
    optionalEq matcher.workspace proposal.workspace && matcher.matchesAction proposal.action

end PermissionMatcher

/-- Ordered user or mandatory permission rule. -/
structure PermissionRule where
  id : String
  priority : Int32
  matcher : PermissionMatcher
  effect : PermissionEffect
  reason : String

/-- The order of rules: higher priorities first, and then by identifier. -/
def PermissionRule.order : PermissionRule → PermissionRule → Ordering :=
  compareLex (fun left right => compareOn priority right left) (compareOn id)

instance : Std.TransCmp PermissionRule.order :=
  have : Std.TransCmp fun left right => compareOn PermissionRule.priority right left := .opposite
  inferInstanceAs (Std.TransCmp (compareLex _ _))

/-- Named policy with an explicit default. -/
structure PermissionPolicy where
  id : String
  rules : List PermissionRule
  defaultEffect : PermissionEffect
  defaultReason : String

/-- One auditable policy evaluation. -/
structure PolicyMatch where
  policyId : String
  ruleId : Option String
  effect : PermissionEffect
  reason : String
  deriving DecidableEq

namespace PermissionPolicy

/-- Sorts a policy by priority descending, then stable rule identifier. -/
def new (id : String) (rules : List PermissionRule) (defaultEffect : PermissionEffect)
    (defaultReason : String) : PermissionPolicy where
  id := id
  rules := sortBy PermissionRule.order rules
  defaultEffect := defaultEffect
  defaultReason := defaultReason

/-- What a policy decides about a proposal. -/
def evaluate (policy : PermissionPolicy) (proposal : ActionProposal) : PolicyMatch :=
  match policy.rules.find? fun rule => rule.matcher.accepts proposal with
  | none => ⟨policy.id, none, policy.defaultEffect, policy.defaultReason⟩
  | some rule => ⟨policy.id, some rule.id, rule.effect, rule.reason⟩

end PermissionPolicy

/-- Final permission result behind the user policies and the mandatory policy. -/
structure PermissionDecision where
  effect : PermissionEffect
  trace : List PolicyMatch
  reason : String
  deriving DecidableEq

/-- The more restrictive of an outcome and a match. -/
def restrict (found : PermissionEffect × String) (matched : PolicyMatch) :
    PermissionEffect × String :=
  if permissionRank matched.effect > permissionRank found.1 then (matched.effect, matched.reason)
  else found

/-- Applies user-policy layers, which relax nothing, and then the mandatory security policy. -/
def evaluateLayeredPermissions (proposal : ActionProposal) (users : List PermissionPolicy)
    (mandatory : PermissionPolicy) : PermissionDecision :=
  let userMatches := users.map fun policy => policy.evaluate proposal
  let (userEffect, userReason) := userMatches.foldl restrict (.allow, "")
  let mandatoryMatch := mandatory.evaluate proposal
  let (effect, reason) := match userEffect, mandatoryMatch.effect with
    | _, .deny => (PermissionEffect.deny, mandatoryMatch.reason)
    | .deny, _ => (.deny, userReason)
    | _, .ask => (.ask, mandatoryMatch.reason)
    | .ask, _ => (.ask, userReason)
    | .allow, .allow => (.allow, mandatoryMatch.reason)
  ⟨effect, userMatches ++ [mandatoryMatch], reason⟩

/-- A rule that matches a proposal, with no matching rule of a higher priority, or of the same priority
and a smaller identifier. -/
def Decides (rules : List PermissionRule) (proposal : ActionProposal) : PermissionRule → Prop :=
  Leads PermissionRule.order (fun rule => rule.matcher.accepts proposal) rules

/-- The rules that decide about a proposal say the same. -/
def Untied (rules : List PermissionRule) (proposal : ActionProposal) : Prop :=
  ∀ first second, Decides rules proposal first → Decides rules proposal second →
    first.effect = second.effect ∧ first.reason = second.reason

end AgentMod
