import AgentMod.Library.Search
import AgentMod.Library.Sorting
import AgentMod.Primitives.Collections

/-! Compilation of handler registrations into one deterministic execution order, and what that follows. -/

namespace AgentMod

/-- Stable identifier for a blocking handler within one compiled pipeline. -/
abbrev HandlerId := String

/-- Stable identifier for the plugin or built-in component owning a handler. -/
abbrev PluginId := String

/-- Declarative ordering information for one handler. -/
structure OrderingSpec where
  handler : HandlerId
  plugin : PluginId
  stage : UInt16
  priority : Int32
  before : List HandlerId
  after : List HandlerId

/-- Successfully compiled deterministic handler order. -/
structure CompiledOrder where
  handlers : List HandlerId
  deriving DecidableEq, Repr

/-- The direction of an ordering constraint. -/
inductive ConstraintRelation where
  | before
  | after
  deriving DecidableEq, Repr

/-- The text of a direction. -/
def ConstraintRelation.text : ConstraintRelation → String
  | before => "before"
  | after => "after"

/-- The handlers that a specification names in a direction. -/
def OrderingSpec.named (specification : OrderingSpec) : ConstraintRelation → List HandlerId
  | .before => specification.before
  | .after => specification.after

/-- One readable pipeline compilation problem. -/
inductive CompileDiagnostic where
  | duplicateHandler (handler : HandlerId) (registrations : Nat)
  | missingDependency (handler missing : HandlerId) (relation : ConstraintRelation)
  | orderingCycle (path : List HandlerId)
  deriving DecidableEq, Repr

namespace CompileDiagnostic

/-- The stable machine-readable code of a diagnostic. -/
def code : CompileDiagnostic → String
  | duplicateHandler .. => "PIPE001"
  | missingDependency .. => "PIPE002"
  | orderingCycle .. => "PIPE003"

/-- The readable text of a diagnostic. -/
def display (diagnostic : CompileDiagnostic) : String :=
  match diagnostic with
  | duplicateHandler handler registrations => "error[" ++ diagnostic.code ++ "]: handler `" ++ handler ++
      "` is registered " ++ toString registrations ++ " times"
  | missingDependency handler missing relation => "error[" ++ diagnostic.code ++ "]: handler `" ++
      handler ++ "` declares `" ++ relation.text ++ "` constraint on missing handler `" ++ missing ++ "`"
  | orderingCycle path => "error[" ++ diagnostic.code ++ "]: handler ordering contains cycle: " ++
      " -> ".intercalate path

/-- The order of diagnostics: by code, and then by text. -/
def order : CompileDiagnostic → CompileDiagnostic → Ordering :=
  compareLex (compareOn code) (compareOn display)

end CompileDiagnostic

/-- Collection of all diagnostics found while compiling a pipeline. -/
structure CompileError where
  diagnostics : List CompileDiagnostic
  deriving DecidableEq, Repr

/-- What ready handlers are ordered by: the stage, the priority from the highest, the plugin and the
handler. -/
structure ReadyKey where
  stage : UInt16
  priority : Int32
  plugin : PluginId
  handler : HandlerId
  deriving DecidableEq, Repr

/-- The order of ready handlers: a higher priority comes first. -/
def ReadyKey.order : ReadyKey → ReadyKey → Ordering :=
  compareLex (compareOn stage) <|
    compareLex (fun left right => compareOn priority right left) <|
      compareLex (compareOn plugin) (compareOn handler)

instance : Ord ReadyKey where
  compare := ReadyKey.order

instance : Std.TransOrd ReadyKey :=
  have : Std.TransCmp fun left right => compareOn ReadyKey.priority right left := .opposite
  inferInstanceAs (Std.TransCmp (compareLex _ _))

instance : Std.LawfulEqOrd ReadyKey where
  eq_of_compare {left right} equal := by
    change ReadyKey.order left right = .eq at equal
    simp only [ReadyKey.order, compareLex_eq_eq, compareOn,
      Std.LawfulEqCmp.compare_eq_iff_eq] at equal
    obtain ⟨stage, priority, plugin, handler⟩ := equal
    cases left
    cases right
    simp_all

/-- The key of a handler in the ready set. -/
def readyKey (specification : OrderingSpec) : ReadyKey where
  stage := specification.stage
  priority := specification.priority
  plugin := specification.plugin
  handler := specification.handler

/-- How many registrations use each handler identifier. -/
def registrationCounts (specifications : List OrderingSpec) : StringMap Nat :=
  specifications.foldl (fun counts specification =>
    counts.alter specification.handler fun count => some (count.getD 0 + 1)) ∅

/-- One diagnostic for each handler that is registered more than once. -/
def duplicateHandlers (counts : StringMap Nat) : List CompileDiagnostic :=
  (counts.toList.filter fun entry => entry.2 > 1).map fun entry =>
    .duplicateHandler entry.1 entry.2

/-- One diagnostic for each constraint of a specification on an unregistered handler. -/
def missingDependencies (known : StringSet) (specification : OrderingSpec) :
    List CompileDiagnostic :=
  [.before, .after].flatMap fun relation : ConstraintRelation =>
    ((specification.named relation).filter fun candidate => !known.contains candidate).map fun missing =>
      .missingDependency specification.handler missing relation

/-- Sorts diagnostics by their codes and texts. -/
def sortDiagnostics (diagnostics : List CompileDiagnostic) : List CompileDiagnostic :=
  sortBy CompileDiagnostic.order diagnostics

/-- The constraints between handlers, and how many lead into each handler. -/
structure OrderingGraph where
  outgoing : StringMap StringSet
  incoming : StringMap Nat

/-- Adds a constraint between two handlers, unless it is there. -/
def addEdge (source target : HandlerId) (graph : OrderingGraph) : OrderingGraph :=
  match graph.outgoing[source]? with
  | none => graph
  | some targets =>
    if targets.contains target then graph
    else
      { outgoing := graph.outgoing.insert source (targets.insert target)
        incoming := match graph.incoming[target]? with
          | none => graph.incoming
          | some count => graph.incoming.insert target (count + 1) }

/-- Adds the constraints that a specification declares. -/
def addEdges (graph : OrderingGraph) (specification : OrderingSpec) : OrderingGraph :=
  let graph := specification.before.foldl
    (fun graph target => addEdge specification.handler target graph) graph
  specification.after.foldl (fun graph source => addEdge source specification.handler graph) graph

/-- The graph of all declared constraints between the known handlers. -/
def orderingGraph (known : StringSet) (specifications : List OrderingSpec) : OrderingGraph :=
  specifications.foldl addEdges
    { outgoing := .ofList (known.toList.map fun handler => (handler, ∅))
      incoming := .ofList (known.toList.map fun handler => (handler, 0)) }

/-- The handlers that must run behind a handler. -/
def OrderingGraph.targets (graph : OrderingGraph) (handler : HandlerId) : List HandlerId :=
  (graph.outgoing[handler]?.getD ∅).toList

/-- The handlers taken so far, and what the others wait for. -/
structure OrderState where
  incoming : StringMap Nat
  ready : Std.ExtTreeSet ReadyKey
  handlers : List HandlerId

/-- Puts a handler into the ready set when it is registered. -/
def makeReady (specificationsById : StringMap OrderingSpec) (ready : Std.ExtTreeSet ReadyKey)
    (handler : HandlerId) : Std.ExtTreeSet ReadyKey :=
  match specificationsById[handler]? with
  | none => ready
  | some specification => ready.insert (readyKey specification)

/-- Counts one constraint less into a handler, which is ready when none is left. -/
def releaseTarget (specificationsById : StringMap OrderingSpec) (state : OrderState)
    (target : HandlerId) : Fallible CompileError OrderState :=
  match state.incoming[target]? with
  | none => .ok state
  | some 0 => .error .panic
  | some (count + 1) => .ok { state with
      incoming := state.incoming.insert target count
      ready := if count = 0 then makeReady specificationsById state.ready target else state.ready }

/-- Takes the first ready handler until there is none. -/
def takeReady (specificationsById : StringMap OrderingSpec) (graph : OrderingGraph) :
    Nat → OrderState → Fallible CompileError OrderState
  | 0, _ => .error .fuel
  | fuel + 1, state =>
    match state.ready.min? with
    | none => .ok state
    | some next => do
      let state ← (graph.targets next.handler).foldlM (releaseTarget specificationsById)
        { state with ready := state.ready.erase next, handlers := state.handlers ++ [next.handler] }
      takeReady specificationsById graph fuel state

/-- The path of a cycle through unresolved handlers. -/
def findCycle (graph : OrderingGraph) (unresolved : StringSet) :
    Fallible CompileError (List HandlerId) :=
  let targets (handler : HandlerId) : List HandlerId :=
    (graph.targets handler).filter fun target => unresolved.contains target
  match unresolved.toList.foldlM (Search.visit targets (unresolved.toList.length + 1) []) [] with
  | .ok _ => .ok unresolved.toList
  | .error (.error path) => .ok path
  | .error .panic => .error .panic
  | .error .fuel => .error .fuel

/-- Orders handlers whose declarations are valid. -/
def orderHandlers (specificationsById : StringMap OrderingSpec) (graph : OrderingGraph)
    (registrations : Nat) : Fallible CompileError CompiledOrder := do
  let ready := (graph.incoming.toList.filter fun entry => entry.2 == 0).foldl
    (fun ready entry => makeReady specificationsById ready entry.1) ∅
  let state ← takeReady specificationsById graph (registrations + 1) ⟨graph.incoming, ready, []⟩
  if state.handlers.length ≠ registrations then
    let unresolved := (state.incoming.toList.filter fun entry => entry.2 > 0).map Prod.fst
    let path ← findCycle graph (.ofList unresolved)
    reject ⟨[.orderingCycle path]⟩
  else return ⟨state.handlers⟩

/-- Compiles registration-independent deterministic handler ordering. -/
def compileOrder (specifications : List OrderingSpec) : Fallible CompileError CompiledOrder :=
  let counts := registrationCounts specifications
  let known : StringSet := .ofList counts.keys
  let diagnostics := duplicateHandlers counts ++ specifications.flatMap (missingDependencies known)
  if diagnostics ≠ [] then reject ⟨sortDiagnostics diagnostics⟩
  else
    orderHandlers (.ofList (specifications.map fun specification => (specification.handler, specification)))
      (orderingGraph known specifications) specifications.length

section Constraints

variable (specifications : List OrderingSpec)

/-- Some registration uses a handler identifier. -/
def Registered (handler : HandlerId) : Prop :=
  ∃ specification ∈ specifications, specification.handler = handler

/-- A declared constraint: the source must run before the target. -/
def Constrains (source target : HandlerId) : Prop :=
  ∃ specification ∈ specifications,
    specification.handler = source ∧ target ∈ specification.before ∨
      specification.handler = target ∧ source ∈ specification.after

/-- The declarations can be met: identifiers are unique, targets exist, and there is no cycle. -/
structure WellDeclared : Prop where
  unique : (specifications.map OrderingSpec.handler).Nodup
  exist : ∀ specification ∈ specifications, ∀ relation,
    ∀ handler ∈ specification.named relation, Registered specifications handler
  acyclic : Acyclic (Constrains specifications)

/-- A registered handler may be taken next: it was not taken, and whatever precedes it was. -/
structure Available (taken : List HandlerId) (specification : OrderingSpec) : Prop where
  registered : specification ∈ specifications
  waiting : specification.handler ∉ taken
  preceded : ∀ source, Constrains specifications source specification.handler → source ∈ taken

/-- An execution order takes each handler once, none before one that must precede it, and always the
least available one by stage, descending priority, plugin and handler. -/
structure FollowsConstraints (order : List HandlerId) : Prop where
  perm : order.Perm (specifications.map OrderingSpec.handler)
  respects : order.Pairwise fun first second => ¬ Constrains specifications second first
  greedy : ∀ earlier handler later, order = earlier ++ handler :: later →
    ∃ specification, specification.handler = handler ∧
      Available specifications earlier specification ∧
      ∀ other, Available specifications earlier other →
        (compare (readyKey specification) (readyKey other)).isLE

/-- A reported path is a closed cycle of declared constraints, with its first handler repeated last. -/
def ClosedCycle (path : List HandlerId) : Prop :=
  ∃ first rest, path = first :: (rest ++ [first]) ∧
    IsCycle (Constrains specifications) (first :: rest)

/-- What compiling an execution order is meant to achieve. -/
structure OrdersHandlers : Prop where
  returns : ∃ outcome : Except CompileError CompiledOrder,
    compileOrder specifications = outcome.mapError Halt.error
  succeeds : (∃ order, compileOrder specifications = .ok order) ↔ WellDeclared specifications
  follows : ∀ order, compileOrder specifications = .ok order →
    FollowsConstraints specifications order.handlers
  cycles : ∀ error path, compileOrder specifications = reject error →
    .orderingCycle path ∈ error.diagnostics → ClosedCycle specifications path
  deterministic : ∀ permuted, specifications.Perm permuted →
    compileOrder permuted = compileOrder specifications

/-- A handler declares a constraint on a handler that is not registered. -/
def Unresolved (handler missing : HandlerId) (relation : ConstraintRelation) : Prop :=
  ¬ Registered specifications missing ∧
    ∃ specification ∈ specifications, specification.handler = handler ∧
      missing ∈ specification.named relation

/-- The texts of unresolved constraints tell the handlers that declare them apart. -/
def Unambiguous : Prop :=
  ∀ handler missing relation other missed direction,
    Unresolved specifications handler missing relation →
    Unresolved specifications other missed direction →
    (CompileDiagnostic.missingDependency handler missing relation).display =
      (CompileDiagnostic.missingDependency other missed direction).display → handler = other

end Constraints

end AgentMod
