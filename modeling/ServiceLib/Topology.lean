import ServiceLib.StateProgram

set_option autoImplicit false

/-! # The operator graph and the pass that numbers it -/

namespace ServiceLib.Topology

open StateProgram

/-- A stream's own config id, 0 if it is not configured. -/
abbrev ConfigId : Type := ℕ

/-- A connected output: the node it feeds, the type of its values, and the class its caller is
made for when the graph is typed (`none` is the erased `StreamConsumer`). -/
structure Output where
 consumer : ℕ
 valueType : ℕ
 consumerType : Option ℕ
 deriving DecidableEq,Repr

/-- What can be the consumer of a stream. A `process` is also a sink with a result; the
branches of a split and the error streams belong to their node and have no index. -/
inductive Node where
 | stream (configId:ConfigId) (output:Option Output)
 | process (configId:ConfigId) (output error:Option Output)
 | sink (configId:ConfigId) (error:Option Output)
 | merge (configId:ConfigId) (output:Option Output)
 | mergeLink (merge:ℕ)
 | joinLink (join side:ℕ)
 | errorLink (target:ℕ)
 | link (target:ℕ)
 | cycleSource (root:ℕ)
 | resultLink (configId:ConfigId)
 | split (configId:ConfigId) (branches:List (Option Output))
 | case (configId:ConfigId) (branches:List (ConfigId × Option Output))
 deriving DecidableEq,Repr

/-- A registered stream: a cycle link or a sub-stream, or an input with its error stream. -/
inductive Root where
 | stream (configId:ConfigId) (output:Option Output)
 | input (configId:ConfigId) (output error:Option Output)
 deriving DecidableEq,Repr

/-- Whatever has a topology id of its own. -/
inductive Place where
 | root (k:ℕ)
 | rootError (k:ℕ)
 | node (n:ℕ)
 | error (n:ℕ)
 | branch (n k:ℕ)
 deriving DecidableEq,Repr

def Place.owner : Place → Option Place
 | .rootError k => some (.root k)
 | .error n => some (.node n)
 | .branch n _ => some (.node n)
 | .root _ | .node _ => none

def consumerOf (output:Option Output) : List ℕ :=
 (output.map Output.consumer).toList

def Node.descends : Node → List ℕ
 | .stream _ output | .process _ output _ | .merge _ output => consumerOf output
 | .mergeLink target | .joinLink target _ | .errorLink target => [target]
 | .split _ branches => branches.flatMap consumerOf
 | .case _ branches => branches.flatMap fun branch=>consumerOf branch.2
 | .sink _ _ | .link _ | .cycleSource _ | .resultLink _ => []

/-- The nodes that a node refers to and building it does not descend into. -/
def Node.skips : Node → List ℕ
 | .process _ _ error | .sink _ error => consumerOf error
 | .link target => [target]
 | _ => []

def Node.mergeTarget : Node → List ℕ
 | .mergeLink target => [target]
 | _ => []

def Node.isMerge : Node → Bool
 | .merge _ _ => true
 | _ => false

def Root.consumers : Root → List ℕ
 | .stream _ output => consumerOf output
 | .input _ output error => consumerOf output ++ consumerOf error

/-- The streams of an environment. References are to streams that exist, and a merge link is
made for a merge. -/
structure Graph where
 roots : List Root
 nodes : List Node
 roots_closed : ∀ root ∈ roots,∀ n ∈ root.consumers,n < nodes.length
 nodes_closed : ∀ node ∈ nodes,∀ n ∈ node.descends ++ node.skips,n < nodes.length
 merges : ∀ node ∈ nodes,∀ n ∈ node.mergeTarget,nodes[n]?.map Node.isMerge = some true

def Root.places (k:ℕ) : Root → List Place
 | .stream _ _ => [.root k]
 | .input _ _ _ => [.root k,.rootError k]

def Node.places (n:ℕ) : Node → List Place
 | .process _ _ _ | .sink _ _ => [.node n,.error n]
 | .split _ branches => .node n :: (List.range branches.length).map (Place.branch n)
 | .case _ branches => .node n :: (List.range branches.length).map (Place.branch n)
 | .cycleSource _ => []
 | _ => [.node n]

def Graph.places (g:Graph) : List Place :=
 (g.roots.zipIdx.flatMap fun entry=>entry.1.places entry.2) ++
  g.nodes.zipIdx.flatMap fun entry=>entry.1.places entry.2

/-- A cycle's source link has the id of the cycle link it feeds. -/
def Graph.place (g:Graph) (n:ℕ) : Place :=
 match g.nodes[n]? with
 | some (.cycleSource root) => .root root
 | _ => .node n

/-- `Stream::getConfigId` of the stream at a place: its own id, or else its consumer's. An edge
that is not wired yet has no consumer. -/
def streamConfigId (unwired:List Place) (p:Place) (configId:ConfigId) (output:Option Output) : ℕ ⊕ ℕ :=
 if configId ≠ 0 then .inl configId
 else if p ∈ unwired then .inl 0
 else match output with
  | some output => .inr output.consumer
  | none => .inl 0

/-- `getConfigId` of a node: the id, or the node that it is asked for. A `Link` is never
configured. -/
def Graph.configStep (g:Graph) (unwired:List Place) (n:ℕ) : ℕ ⊕ ℕ :=
 match g.nodes[n]? with
 | some (.mergeLink target) | some (.joinLink target _) | some (.errorLink target) => .inr target
 | some (.cycleSource k) =>
   match g.roots[k]? with
   | some (.stream configId output) | some (.input configId output _) =>
     streamConfigId unwired (.root k) configId output
   | none => .inl 0
 | some (.stream configId output) | some (.process configId output _) | some (.merge configId output) =>
   streamConfigId unwired (.node n) configId output
 | some (.sink configId _) | some (.resultLink configId) | some (.split configId _)
 | some (.case configId _) => .inl configId
 | some (.link _) | none => .inl 0

def Graph.configIdThrough (g:Graph) (unwired:List Place) : ℕ → ℕ → Option ℕ
 | 0,_ => none
 | fuel + 1,n =>
   match g.configStep unwired n with
   | .inl id => some id
   | .inr next => g.configIdThrough unwired fuel next

/-- `none` when the calls never end: more calls than nodes are in a cycle. -/
def Graph.getConfigId (g:Graph) (unwired:List Place) (n:ℕ) : Option ℕ :=
 g.configIdThrough unwired (g.nodes.length + 2) n

structure LinkID where
 source : ℕ
 target : ℕ
 deriving DecidableEq,Repr

/-- An entry of the registry of callers: the consumer it calls, with what type of value, and the
class it was made for. -/
structure Caller where
 consumer : ℕ
 valueType : ℕ
 consumerType : Option ℕ
 deriving DecidableEq,Repr

/-- `assigned` has the ids, the last given first. `prepared` has the caller of the edge that
leaves a place; for a branch of a split it is the split's dispatcher. The `unwired` edges are
still to be made by `setConsumer`. -/
structure State where
 assigned : List (Place × ℕ)
 callers : List (LinkID × Caller)
 prepared : List (Place × Caller)
 links : List (ℕ × ℕ)
 unwired : List Place
 deriving DecidableEq,Repr

def State.empty : State :=
 ⟨[],[],[],[],[]⟩

def State.getId (s:State) (p:Place) : ℕ :=
 (s.assigned.lookup p).getD 0

inductive Failure where
 | stream (message:String)
 | logic (message:String)
 | environment (message:String)
 deriving DecidableEq,Repr

abbrev Build (α:Type) : Type :=
 Program State Failure α

def succId (id:ℕ) : ℕ :=
 (id + 1) % 2 ^ 64

def predId (id:ℕ) : ℕ :=
 (id + (2 ^ 64 - 1)) % 2 ^ 64

def negate (id:ℕ) : ℕ :=
 (2 ^ 64 - id) % 2 ^ 64

def setId (p:Place) (id:ℕ) : Build Unit :=
 update fun s=>{ s with assigned := (p,id) :: s.assigned }

def setIdOnce (p:Place) (id:ℕ) : Build Unit := do
 let own ← access (fun s=>s.getId p)
 if own = 0 then setId p id else pure ()

/-- The target of a split branch's caller: a typed branch goes through its merge link. -/
def Graph.callerTarget (g:Graph) (output:Output) : ℕ :=
 match output.consumerType,g.nodes[output.consumer]? with
 | some _,some (.mergeLink target) => target
 | _,_ => output.consumer

def Root.ownEdge : Root → Option (ConfigId × Output)
 | .stream configId output | .input configId output _ => output.map (Prod.mk configId)

def Root.errorEdge : Root → Option (ConfigId × Output)
 | .stream _ _ => none
 | .input configId _ error => error.map (Prod.mk configId)

def Node.ownEdge : Node → Option (ConfigId × Output)
 | .stream configId output | .process configId output _ | .merge configId output =>
   output.map (Prod.mk configId)
 | _ => none

def Node.errorEdge : Node → Option (ConfigId × Output)
 | .process configId _ error | .sink configId error => error.map (Prod.mk configId)
 | _ => none

def Node.branchEdge (k:ℕ) : Node → Option (ConfigId × Output)
 | .split configId branches => (branches[k]?.getD none).map (Prod.mk configId)
 | .case _ branches => branches[k]?.bind fun branch=>branch.2.map (Prod.mk branch.1)
 | _ => none

section Build

-- Why no caller can be made for a link: its pool is missing or its semantics is unknown.
variable (g:Graph) (makeCallerFromEnv:LinkID → Option String)

def prepareCaller (source consumer:ℕ) (output:Output) : Build Caller := do
 let target ← access (fun s=>g.getConfigId s.unwired consumer)
 match target with
 | none => diverge
 | some target =>
   let link : LinkID:=⟨source,target⟩
   if link.source = 0 ∨ link.target = 0 then
    raise (.stream "stream link has no config identity; every logical edge must use Caller")
   else
    let found ← access (fun s=>s.callers.lookup link)
    match found with
    | some caller => pure caller
    | none =>
      match makeCallerFromEnv link with
      | some message => raise (.environment message)
      | none =>
        let caller : Caller:=⟨consumer,output.valueType,output.consumerType⟩
        update fun s=>{ s with callers := (link,caller) :: s.callers }
        pure caller

/-- `prepareCaller`, or `prepareTypedCaller` for a typed edge, kept at the edge. -/
def prepareEdge (p:Place) (source consumer:ℕ) (output:Output) : Build Unit := do
 let caller ← prepareCaller g makeCallerFromEnv source consumer output
 if output.consumerType.isSome ∧ caller.consumerType ≠ output.consumerType then
  raise (.logic "stream link was prepared with a different consumer type")
 else
  update fun s=>{ s with prepared := (p,caller) :: s.prepared }

def prepareConsumerCaller (p:Place) (configId:ConfigId) (output:Option Output) : Build Unit :=
 match output with
 | some output =>
   if configId = 0 then pure () else prepareEdge g makeCallerFromEnv p configId output.consumer output
 | none => pure ()

def buildTopologyCommon (build:ℕ → ℕ → Build ℕ) (p:Place) (configId:ConfigId)
  (output:Option Output) (id:ℕ) : Build ℕ := do
 setIdOnce p id
 match output with
 | none => pure id
 | some connected =>
   let cid ← access (fun s=>s.getId (g.place connected.consumer))
   let nextId ← if cid = 0 then build connected.consumer (succId id) else pure id
   prepareConsumerCaller g makeCallerFromEnv p configId output
   pure nextId

/-- `prepareTopologyId` and `prepareConsumerCaller` of the error stream of a node. -/
def prepareErrorStream (n:ℕ) (configId:ConfigId) (error:Option Output) : Build Unit := do
 let ownerId ← access (fun s=>s.getId (.node n))
 setId (.error n) (negate ownerId)
 prepareConsumerCaller g makeCallerFromEnv (.error n) configId error

def buildBranches (build:ℕ → ℕ → Build ℕ) (n:ℕ) :
  ℕ → List (ConfigId × Option Output) → ℕ → Build ℕ
 | _,[],nextId => pure nextId
 | k,(configId,output) :: rest,nextId => do
   let nextId ← buildTopologyCommon g makeCallerFromEnv build (.branch n k) configId output
    (succId nextId)
   buildBranches build n (k + 1) rest nextId

def prepareBranches (n:ℕ) (configId:ConfigId) : ℕ → List (Option Output) → Build Unit
 | _,[] => pure ()
 | _,none :: _ => raise (.stream "Split branch must not have an empty consumer.")
 | k,some output :: rest => do
   prepareEdge g makeCallerFromEnv (.branch n k) configId (g.callerTarget output) output
   prepareBranches n configId (k + 1) rest

/-- A link that only points at its target: of a join or of an error stream. -/
def linkBuildTopology (build:ℕ → ℕ → Build ℕ) (n target id:ℕ) : Build ℕ := do
 setId (.node n) id
 let targetId ← access (fun s=>s.getId (g.place target))
 if targetId = 0 then build target (succId id) else pure id

/-- `buildTopology` of a node; the fuel bounds the depth of the calls. -/
def nodeBuildTopology : ℕ → ℕ → ℕ → Build ℕ
 | 0,_,_ => diverge
 | fuel + 1,n,id =>
   let build:=nodeBuildTopology fuel
   match g.nodes[n]? with
   | some (.stream configId output) =>
     buildTopologyCommon g makeCallerFromEnv build (.node n) configId output id
   | some (.process configId output error) => do
     let nextId ←
      buildTopologyCommon g makeCallerFromEnv build (.node n) configId output id
     prepareErrorStream g makeCallerFromEnv n configId error
     pure nextId
   | some (.sink configId error) => do
     setIdOnce (.node n) id
     prepareErrorStream g makeCallerFromEnv n configId error
     pure id
   | some (.merge configId output) => do
     let own ← access (fun s=>s.getId (.node n))
     if own = 0 then
      buildTopologyCommon g makeCallerFromEnv build (.node n) configId output id
     else
      pure (predId id)
   | some (.mergeLink target) => do
     setId (.node n) id
     let nextId ← build target (succId id)
     let targetId ← access (fun s=>s.getId (g.place target))
     if targetId = 0 then
      raise (.stream "Build stream logic error. Merge link id isn't assigned.")
     else
      pure nextId
   | some (.joinLink target _) => linkBuildTopology g build n target id
   | some (.errorLink target) => linkBuildTopology g build n target id
   | some (.link target) => do
     setId (.node n) id
     update fun s=>{ s with links := (id,target) :: s.links }
     prepareEdge g makeCallerFromEnv (.node n) 0 target ⟨target,0,none⟩
     pure (succId id)
   | some (.cycleSource root) => do
     let rootId ← access (fun s=>s.getId (.root root))
     if rootId = 0 then
      raise (.stream "cycle target must be registered before its source")
     else
      pure rootId
   | some (.resultLink _) => do
     setIdOnce (.node n) id
     pure id
   | some (.split configId branches) => do
     setId (.node n) id
     let nextId ← buildBranches g makeCallerFromEnv build n 0
      (branches.map fun output=>(0,output)) id
     prepareBranches g makeCallerFromEnv n configId 0 branches
     pure nextId
   | some (.case _ branches) => do
     setId (.node n) id
     buildBranches g makeCallerFromEnv build n 0 branches id
   -- no reference dangles
   | none => diverge

def rootBuildTopology (fuel k:ℕ) (root:Root) (id:ℕ) : Build ℕ :=
 let build:=nodeBuildTopology g makeCallerFromEnv fuel
 match root with
 | .stream configId output =>
   buildTopologyCommon g makeCallerFromEnv build (.root k) configId output id
 | .input configId output error => do
   let nextId ←
    buildTopologyCommon g makeCallerFromEnv build (.root k) configId output id
   buildTopologyCommon g makeCallerFromEnv build (.rootError k) configId error
    (succId nextId)

def buildRoots (fuel:ℕ) : ℕ → List Root → ℕ → Build Unit
 | _,[],_ => pure ()
 | k,root :: rest,nextId => do
   let nextId ← rootBuildTopology g makeCallerFromEnv fuel k root (succId nextId)
   buildRoots fuel (k + 1) rest nextId

def buildTopology (fuel:ℕ) : Build Unit := do
 buildRoots g makeCallerFromEnv fuel 0 g.roots 0
 let missing ← access (fun s=>s.links.any fun link=>s.getId (g.place link.2) = 0)
 if missing then raise (.stream "link target is not part of the topology") else pure ()

/-- The edge that leaves a place: the config id of its producer, and its output. -/
def Graph.edge : Place → Option (ConfigId × Output)
 | .root k => g.roots[k]?.bind Root.ownEdge
 | .rootError k => g.roots[k]?.bind Root.errorEdge
 | .node n => g.nodes[n]?.bind Node.ownEdge
 | .error n => g.nodes[n]?.bind Node.errorEdge
 | .branch n k => g.nodes[n]?.bind (Node.branchEdge k)

/-- `setConsumer` prepares the caller of a configured producer when the edge is made; the
branches of a split have no config id of their own. -/
def setConsumer (p:Place) : Build Unit :=
 match p,g.edge p with
 | .branch n _,some (configId,output) =>
   match g.nodes[n]? with
   | some (.split _ _) => pure ()
   | _ => prepareConsumerCaller g makeCallerFromEnv p configId (some output)
 | _,some (configId,output) => prepareConsumerCaller g makeCallerFromEnv p configId (some output)
 | _,none => pure ()

/-- The edges that are made by `setConsumer`, in that order; the others are made by the
constructor of their producer. -/
def wire : List Place → Build Unit
 | [] => pure ()
 | p :: rest => do
   update fun s=>{ s with unwired := rest }
   setConsumer g makeCallerFromEnv p
   wire rest

def prepareTopology (wired:List Place) (fuel:ℕ) : Build Unit := do
 wire g makeCallerFromEnv wired
 buildTopology g makeCallerFromEnv fuel

end Build

end ServiceLib.Topology
