import ServiceLib.QueuedPool

set_option autoImplicit false

/-!
# Call semantics
-/
namespace ServiceLib.CallerConfig
open List Option
open QueuedPool (PoolError)

inductive CallSemantics
 | undefined | inherited | functionCall | taskPool | priorityTaskPool | parallelCall
deriving DecidableEq

/-- What the configuration and the pools throw, with the texts that `what` gives. -/
inductive Error
 | runtime (text:String)
 | invalidArgument (text:String)
 | notPublished
 | pool (error:PoolError)
 /-- `YAML::InvalidNode` with the key that is missing. -/
 | invalidNode (key:String)
deriving DecidableEq

def Error.what : Error → String
 | .runtime text | .invalidArgument text => text
 | .invalidNode key => "invalid node; first invalid key: \"" ++ key ++ "\""
 | .notPublished => "runtime config is not published"
 | .pool error => error.what

inductive CallerError
 | environment (error:Error)
 | taskPoolNotFound (name:String)
 | priorityTaskPoolNotFound (name:String)
 | unsupported
deriving DecidableEq

def CallerError.what : CallerError → String
 | .environment error => error.what
 | .taskPoolNotFound name => "task pool not found: " ++ name
 | .priorityTaskPoolNotFound name => "priority task pool not found: " ++ name
 | .unsupported => "unsupported call semantics"

/-- A function call has its `async` flag, a pool its name, a priority pool the priority too. -/
structure CallSemanticsGroup where
 functionCall : Option Bool := none
 taskPool : Option String := none
 priorityTaskPool : Option (String × ℤ) := none
 parallelCall : Bool := false
deriving DecidableEq

def CallSemanticsGroup.count (group:CallSemanticsGroup) : ℕ :=
 group.functionCall.isSome.toNat + group.taskPool.isSome.toNat +
  group.priorityTaskPool.isSome.toNat + group.parallelCall.toNat

def CallSemanticsGroup.validate (group:CallSemanticsGroup) : Except Error Unit :=
 if group.count ≠ 1 then
  .error (.runtime ("exactly one call semantics must be specified, got " ++ toString group.count))
 else .ok ()

def makeCallSemanticsGroup (type:CallSemantics) (poolName:String) (priority:ℤ) (async:Bool) :
  Except Error CallSemanticsGroup :=
 match type with
 | .functionCall => .ok { functionCall := some async }
 | .taskPool => .ok { taskPool := some poolName }
 | .priorityTaskPool => .ok { priorityTaskPool := some (poolName,priority) }
 | .parallelCall => .ok { parallelCall := true }
 | .undefined | .inherited =>
  .error (.runtime "undefined or inherited semantics has no concrete call-semantics group")

/-- The value under `callSemantics` or `defaultCallSemantics`: a scalar, or the keys of a mapping. -/
inductive Setting
 | missing
 | scalar (type:CallSemantics)
 | mapping (functionCall:Option Bool) (taskPool:Option String)
   (priorityTaskPool:Option (String × ℤ)) (parallelCall:Bool)

/-- The part of `Parse` that a link and a service share; a service has no keys of its own
for the pool, the priority and `async`. Without `functionCall` the parser assigns the value
of `function` to a node that does not exist, which the YAML library refuses. -/
def Setting.parse (poolName:String) (priority:ℤ) (async:Bool) :
  Setting → Except Error (Option CallSemanticsGroup)
 | .missing => .ok none
 | .scalar type =>
  if type ≠ .undefined ∧ type ≠ .inherited then
   (makeCallSemanticsGroup type poolName priority async).map some
  else .ok none
 | .mapping none _ _ _ => .error (.invalidNode "functionCall")
 | .mapping (some async) taskPool priorityTaskPool parallelCall =>
  .ok (some ⟨some async,taskPool,priorityTaskPool,parallelCall⟩)

structure LinkConfig where
 source : ℤ
 target : ℤ
 callSemantics : Option CallSemanticsGroup

def LinkConfig.validate (link:LinkConfig) : Except Error Unit :=
 match link.callSemantics with
 | none => .ok ()
 | some group => group.validate.mapError fun error =>
   .runtime ("link from=" ++ toString link.source ++ " to=" ++ toString link.target ++
    " has invalid configuration: " ++ error.what)

structure StreamConfig where
 id : ℤ
 name : String

structure ServiceConfig where
 id : ℤ
 name : String
 defaultCallSemantics : Option CallSemanticsGroup

structure EndpointConfig where
 id : ℤ
 name : String
 idDataConnector : ℤ
 type : ℕ

structure DataConnectorConfig where
 id : ℤ
 name : String
 type : ℕ

structure PoolConfig where
 name : String
 executorsCount : ℤ

structure IConfig where
 services : List ServiceConfig := []
 streams : List StreamConfig := []
 dataConnectors : List DataConnectorConfig := []
 endpoints : List EndpointConfig := []
 pools : List PoolConfig := []
 types : List String := []
 links : List LinkConfig := []

def insertUnique {κ α:Type} [BEq κ] (map:List (κ × α)) (key:κ) (value:α) (text:String) :
  Except Error (List (κ × α)) :=
 if (map.lookup key).isSome then .error (.runtime text) else .ok (map ++ [(key,value)])

def index {α:Type} (kind:String) (name:α → String) (id:α → ℤ) (items:List α) :
  Except Error (List (String × α) × List (ℤ × α)) :=
 items.foldlM (fun maps item=>do
  let byName ← insertUnique maps.1 (name item) item ("duplicate " ++ kind ++ " name: " ++ name item)
  let byID ← insertUnique maps.2 (id item) item ("duplicate " ++ kind ++ " id: " ++ toString (id item))
  pure (byName,byID)) ([],[])

def indexByName {α:Type} (kind:String) (name:α → String) (items:List α) :
  Except Error (List (String × α)) :=
 items.foldlM (fun map item =>
  insertUnique map (name item) item ("duplicate " ++ kind ++ " name: " ++ name item)) []

def checkEndpoint (connectors:List (ℤ × DataConnectorConfig)) (endpoint:EndpointConfig) : Except Error Unit :=
 match connectors.lookup endpoint.idDataConnector with
 | none => .error (.runtime ("endpoint " ++ endpoint.name ++ " references unknown data connector " ++
   toString endpoint.idDataConnector))
 | some connector =>
  if connector.type ≠ endpoint.type then
   .error (.runtime ("endpoint " ++ endpoint.name ++ " type does not match data connector " ++ connector.name))
  else .ok ()

def indexLink (map:List ((ℤ × ℤ) × LinkConfig)) (link:LinkConfig) :
  Except Error (List ((ℤ × ℤ) × LinkConfig)) := do
 link.validate
 insertUnique map (link.source,link.target) link
  ("duplicate link from=" ++ toString link.source ++ " to=" ++ toString link.target)

structure RuntimeConfig where
 config : IConfig
 servicesByID : List (ℤ × ServiceConfig)
 poolByName : List (String × PoolConfig)
 linksByID : List ((ℤ × ℤ) × LinkConfig)

def RuntimeConfig.make (config:IConfig) : Except Error RuntimeConfig := do
 discard (index "stream" StreamConfig.name StreamConfig.id config.streams)
 let services ← index "service" ServiceConfig.name ServiceConfig.id config.services
 discard (index "endpoint" EndpointConfig.name EndpointConfig.id config.endpoints)
 let connectors ← index "data connector" DataConnectorConfig.name DataConnectorConfig.id config.dataConnectors
 config.endpoints.forM (checkEndpoint connectors.2)
 let pools ← indexByName "pool" PoolConfig.name config.pools
 discard (indexByName "type" id config.types)
 let links ← config.links.foldlM indexLink []
 pure ⟨config,services.2,pools,links⟩

namespace RuntimeConfig

def getLink (cfg:RuntimeConfig) (link:ℤ × ℤ) : Option LinkConfig :=
 cfg.linksByID.lookup link

def getOnlyServiceConfig (cfg:RuntimeConfig) : Option ServiceConfig :=
 match cfg.servicesByID with
 | [entry] => some entry.2
 | _ => none

def linkSemantics (cfg:RuntimeConfig) (link:ℤ × ℤ) : Option CallSemanticsGroup :=
 (cfg.getLink link).bind LinkConfig.callSemantics

def defaultSemantics (cfg:RuntimeConfig) : Option CallSemanticsGroup :=
 cfg.getOnlyServiceConfig.bind ServiceConfig.defaultCallSemantics

def semantics (cfg:RuntimeConfig) (link:ℤ × ℤ) : Option CallSemanticsGroup :=
 (cfg.linkSemantics link).or cfg.defaultSemantics

end RuntimeConfig

structure Pools where
 delayPool : Bool := false
 taskPools : List String := []
 priorityTaskPools : List String := []
deriving DecidableEq

section Environment

-- `hardware` is the number of threads that a pool takes when none is configured
variable (hardware:ℕ) (cfg:RuntimeConfig)

def ensurePool (requires:String) (registered:List String) : Option String → Except Error (List String)
 | none => .ok registered
 | some name =>
  if name = "" then .error (.invalidArgument requires)
  else if name ∈ registered then .ok registered
  else match QueuedPool.create hardware name ((cfg.poolByName.lookup name).map PoolConfig.executorsCount) with
   | .ok _ => .ok (registered ++ [name])
   | .error error => .error (.pool error)

def ensureCallSemantics (pools:Pools) (group:CallSemanticsGroup) : Except Error Pools := do
 let taskPools ← ensurePool hardware cfg "task pool call semantics requires poolName"
  pools.taskPools group.taskPool
 let priorityTaskPools ← ensurePool hardware cfg "priority task pool call semantics requires poolName"
  pools.priorityTaskPools (group.priorityTaskPool.map Prod.fst)
 pure { pools with taskPools := taskPools,priorityTaskPools := priorityTaskPools }

def configuredSemantics : List CallSemanticsGroup :=
 cfg.defaultSemantics.toList ++ cfg.config.links.filterMap LinkConfig.callSemantics

def ensureConfiguredPools (published:Option RuntimeConfig) (pools:Pools) : Except Error Pools :=
 match published with
 | none => .error .notPublished
 | some cfg => (configuredSemantics cfg).foldlM (ensureCallSemantics hardware cfg) { pools with delayPool := true }

structure Environment where
 runtimeConfig : Option RuntimeConfig
 pools : Pools

inductive CallerKind
 | direct (async:Bool)
 | taskPool (name:String)
 | priorityTaskPool (name:String) (priority:ℤ)
 | parallel
deriving DecidableEq

/-- `getTaskPool` and `getPriorityTaskPool`: the pools are ensured again before the look-up. -/
def getPool (env:Environment) (registered:Pools → List String) (name:String) (missing:CallerError) :
  Except CallerError Unit :=
 match ensureConfiguredPools hardware env.runtimeConfig env.pools with
 | .error error => .error (.environment error)
 | .ok pools => if name ∈ registered pools then .ok () else .error missing

def makeCallerFromEnv (env:Option Environment) (link:ℤ × ℤ) : Except CallerError CallerKind :=
 match env with
 | none => .ok (.direct false)
 | some env =>
  match env.runtimeConfig.bind fun cfg=>cfg.semantics link with
  | none => .ok (.direct false)
  | some ⟨some async,_,_,_⟩ => .ok (.direct async)
  | some ⟨none,some name,_,_⟩ =>
   (getPool hardware env Pools.taskPools name (.taskPoolNotFound name)).map fun _=>.taskPool name
  | some ⟨none,none,some (name,priority),_⟩ =>
   (getPool hardware env Pools.priorityTaskPools name (.priorityTaskPoolNotFound name)).map
    fun _=>.priorityTaskPool name priority
  | some ⟨none,none,none,true⟩ => .ok .parallel
  | some ⟨none,none,none,false⟩ => .error .unsupported

end Environment

lemma bind_eq_ok {α β:Type} {x:Except Error α} {f:α→ Except Error β} {b:β} :
  (x >>= f)=.ok b↔∃ a,x=.ok a∧f a=.ok b := by
 cases x with
 | error e => exact ⟨(nomatch ·),fun ⟨_,h,_⟩=>nomatch h⟩
 | ok a => exact ⟨fun h=>⟨a,rfl,h⟩,fun ⟨_,h,hf⟩=>Except.ok.inj h▸hf⟩

lemma foldlM_rule {α β:Type} {f:β→α→ Except Error β} {P:β→ Prop} {items:List α} {b b':β}
  (hstep:∀ b,∀ a∈items,∀ b',P b→ f b a=.ok b'→ P b') (hb:P b)
  (h:items.foldlM f b=.ok b') : P b' := by
 induction items generalizing b with
 | nil =>
  cases h
  exact hb
 | cons a items ih =>
  rw[foldlM_cons] at h
  obtain ⟨c,hc,h⟩:=bind_eq_ok.mp h
  exact ih (fun b x hx=>hstep b x (mem_cons_of_mem a hx)) (hstep b a mem_cons_self c hb hc) h

variable {hardware:ℕ} {config:IConfig} {cfg:RuntimeConfig} {link:ℤ × ℤ} {pools pools':Pools}
  {group:CallSemanticsGroup}

lemma count_of_validate {l:LinkConfig} (h:l.validate=.ok ()) (hgroup:l.callSemantics=some group) :
  group.count=1 := by
 by_contra hcount
 simp only[LinkConfig.validate,hgroup,CallSemanticsGroup.validate,if_pos hcount,Except.mapError] at h
 cases h

lemma links_of_make (h:RuntimeConfig.make config=.ok cfg) :
  cfg.config=config∧∀ entry∈cfg.linksByID,entry.2∈config.links∧entry.2.validate=.ok () := by
 simp only[RuntimeConfig.make,bind_eq_ok] at h
 obtain ⟨_,-,services,-,_,-,_,-,_,-,pools,-,_,-,links,hlinks,h⟩:=h
 cases h
 refine ⟨rfl,foldlM_rule
  (P := fun map=>∀ entry∈map,entry.2∈config.links∧entry.2.validate=.ok ())
  (fun map l hl map' hmap hstep=>?_) (fun _ hentry=>absurd hentry not_mem_nil) hlinks⟩
 obtain ⟨_,hvalid,hinsert⟩:=bind_eq_ok.mp hstep
 unfold insertUnique at hinsert
 split at hinsert <;> cases hinsert
 intro entry hentry
 rcases mem_append.mp hentry with hentry | hentry
 · exact hmap entry hentry
 · rw[mem_singleton.mp hentry]
   exact ⟨hl,hvalid⟩

lemma mem_of_lookup {κ α:Type} [BEq κ] [LawfulBEq κ] {map:List (κ×α)} {key:κ} {value:α}
  (h:map.lookup key=some value) : (key,value)∈map := by
 obtain ⟨before,after,rfl,-⟩:=lookup_eq_some_iff.mp h
 exact mem_append_right _ mem_cons_self

lemma link_of_semantics (h:cfg.linkSemantics link=some group) :
  ∃ l,(link,l)∈cfg.linksByID∧l.callSemantics=some group := by
 obtain ⟨l,hl,hgroup⟩:=bind_eq_some_iff.mp h
 exact ⟨l,mem_of_lookup hl,hgroup⟩

lemma semantics_mem (hmake:RuntimeConfig.make config=.ok cfg) (h:cfg.semantics link=some group) :
  group∈configuredSemantics cfg := by
 obtain ⟨rfl,hlinks⟩:=links_of_make hmake
 unfold configuredSemantics
 rcases or_eq_some_iff.mp h with hlink | ⟨-,hdefault⟩
 · obtain ⟨l,hl,hgroup⟩:=link_of_semantics hlink
   exact mem_append_right _ (mem_filterMap.mpr ⟨l,(hlinks _ hl).1,hgroup⟩)
 · exact mem_append_left _ (mem_toList.mpr hdefault)

def Covered (pools:Pools) (group:CallSemanticsGroup) : Prop :=
 (∀ name ∈ group.taskPool,name ≠ "" ∧ name ∈ pools.taskPools) ∧
  ∀ name ∈ group.priorityTaskPool.map Prod.fst,name ≠ "" ∧ name ∈ pools.priorityTaskPools

lemma ensurePool_ok {requires:String} {registered registered':List String} {name:Option String}
  (h:ensurePool hardware cfg requires registered name=.ok registered') :
  registered⊆registered'∧∀ n∈name,n≠ ""∧n∈registered' := by
 cases name <;> grind[ensurePool]

lemma ensurePool_covered {requires:String} {registered:List String} {name:Option String}
  (h:∀ n∈name,n≠ ""∧n∈registered) :
  ensurePool hardware cfg requires registered name=.ok registered := by
 cases name with
 | none => rfl
 | some name =>
  obtain ⟨hne,hmem⟩:=h name rfl
  simp only[ensurePool,if_neg hne,if_pos hmem]

lemma ensureCallSemantics_ok (h:ensureCallSemantics hardware cfg pools group=.ok pools') :
  Covered pools' group∧pools'.delayPool=pools.delayPool ∧
   ∀ group',Covered pools group'→ Covered pools' group' := by
 obtain ⟨_,htask,h⟩:=bind_eq_ok.mp h
 obtain ⟨_,hpriority,h⟩:=bind_eq_ok.mp h
 cases h
 obtain ⟨hkept,htask⟩:=ensurePool_ok htask
 obtain ⟨hkept',hpriority⟩:=ensurePool_ok hpriority
 exact ⟨⟨htask,hpriority⟩,rfl,fun group' hc =>
  ⟨fun n hn=>(hc.1 n hn).imp id (hkept ·),fun n hn=>(hc.2 n hn).imp id (hkept' ·)⟩⟩

lemma ensureAll_ok {groups:List CallSemanticsGroup}
  (h:groups.foldlM (ensureCallSemantics hardware cfg) pools=.ok pools') :
  pools'.delayPool=pools.delayPool∧(∀ group',Covered pools group'→ Covered pools' group') ∧
   ∀ group∈groups,Covered pools' group := by
 induction groups generalizing pools with
 | nil =>
  cases h
  exact ⟨rfl,fun _ hc=>hc,fun _ hg=>nomatch hg⟩
 | cons group groups ih =>
  rw[foldlM_cons] at h
  obtain ⟨middle,hm,h⟩:=bind_eq_ok.mp h
  obtain ⟨hcovered,hdelay,hkept⟩:=ensureCallSemantics_ok hm
  obtain ⟨hdelay',hkept',hall⟩:=ih h
  refine ⟨hdelay'.trans hdelay,fun group' hc=>hkept' _ (hkept _ hc),fun group' hg=>?_⟩
  rcases mem_cons.mp hg with rfl | hg
  · exact hkept' _ hcovered
  · exact hall group' hg

lemma ensureAll_covered {groups:List CallSemanticsGroup} (h:∀ group∈groups,Covered pools group) :
  groups.foldlM (ensureCallSemantics hardware cfg) pools=.ok pools := by
 induction groups with
 | nil => rfl
 | cons group groups ih =>
  have hc:=h group mem_cons_self
  have hfirst:ensureCallSemantics hardware cfg pools group=.ok pools:=by
   unfold ensureCallSemantics
   rw[ensurePool_covered hc.1,ensurePool_covered hc.2]
   rfl
  rw[foldlM_cons,hfirst]
  exact ih fun g hg=>h g (mem_cons_of_mem group hg)

/-- Once `ensureConfiguredPools` has returned, every configured pool is there and a further
call changes nothing. -/
lemma ensureConfiguredPools_again (h:ensureConfiguredPools hardware (some cfg) pools=.ok pools') :
  (∀ group∈configuredSemantics cfg,Covered pools' group) ∧
   ensureConfiguredPools hardware (some cfg) pools'=.ok pools' := by
 obtain ⟨hdelay,-,hall⟩:=ensureAll_ok h
 refine ⟨hall,?_⟩
 have hsame:{ pools' with delayPool:=true }=pools':=by
  cases pools'
  simp only at hdelay
  rw[hdelay]
 change (configuredSemantics cfg).foldlM _ { pools' with delayPool := true }=_
 rw[hsame]
 exact ensureAll_covered hall

lemma getPool_ok {registered:Pools→ List String} {name:String} {missing:CallerError}
  (h:ensureConfiguredPools hardware (some cfg) pools=.ok pools) (hmem:name∈registered pools) :
  getPool hardware ⟨some cfg,pools⟩ registered name missing=.ok () := by
 unfold getPool
 rw[h]
 exact if_pos hmem

lemma makeCaller_supported {env:Environment} (hcfg:env.runtimeConfig=some cfg)
  (h:∀ group,cfg.semantics link=some group→ group.count=1) :
  makeCallerFromEnv hardware (some env) link≠ .error .unsupported := by
 have hpool:∀ registered name missing (kind:CallerKind),missing≠ .unsupported →
  (getPool hardware env registered name missing).map (fun _=>kind)≠ .error .unsupported:=by
  intro registered name missing kind hmissing
  unfold getPool
  split
  · exact fun h=>nomatch h
  · split
    · exact fun h=>nomatch h
    · exact fun h=>hmissing (Except.error.inj h)
 simp only[makeCallerFromEnv,hcfg,bind_some]
 split
 · exact fun h=>nomatch h
 · exact fun h=>nomatch h
 · exact hpool _ _ _ _ fun h=>nomatch h
 · exact hpool _ _ _ _ fun h=>nomatch h
 · exact fun h=>nomatch h
 · next hchosen => exact absurd (h _ hchosen) Nat.zero_ne_one

lemma makeCaller_ensured (hmake:RuntimeConfig.make config=.ok cfg)
  (hensured:ensureConfiguredPools hardware (some cfg) pools=.ok pools') :
  (∃ kind,makeCallerFromEnv hardware (some ⟨some cfg,pools'⟩) link=.ok kind) ∨
   makeCallerFromEnv hardware (some ⟨some cfg,pools'⟩) link=.error .unsupported := by
 obtain ⟨hcovered,hagain⟩:=ensureConfiguredPools_again hensured
 simp only[makeCallerFromEnv,bind_some]
 split
 · exact .inl ⟨_,rfl⟩
 · exact .inl ⟨_,rfl⟩
 · next hchosen =>
   have hmem:=(hcovered _ (semantics_mem hmake hchosen)).1 _ rfl
   rw[getPool_ok hagain hmem.2]
   exact .inl ⟨_,rfl⟩
 · next hchosen =>
   have hmem:=(hcovered _ (semantics_mem hmake hchosen)).2 _ rfl
   rw[getPool_ok hagain hmem.2]
   exact .inl ⟨_,rfl⟩
 · exact .inl ⟨_,rfl⟩
 · exact .inr rfl

/-- The edge's semantics is of one kind, its caller can be made whatever pools there are, and
is made once the pools have been ensured. -/
def Unambiguous (hardware:ℕ) (cfg:RuntimeConfig) (link:ℤ × ℤ) : Prop :=
 (∀ group,cfg.semantics link = some group → group.count = 1) ∧
  (∀ pools,makeCallerFromEnv hardware (some ⟨some cfg,pools⟩) link ≠ .error .unsupported) ∧
  ∀ pools pools',ensureConfiguredPools hardware (some cfg) pools = .ok pools' →
   ∃ kind,makeCallerFromEnv hardware (some ⟨some cfg,pools'⟩) link = .ok kind

/-- For every accepted configuration and every edge: the semantics is unambiguous if and only
if the edge's link gives one, or the service gives no default or one of a single kind. -/
theorem call_semantics_unambiguous_iff (hmake : RuntimeConfig.make config = .ok cfg) (hardware : ℕ)
  (link : ℤ × ℤ) :
  Unambiguous hardware cfg link ↔
   (cfg.linkSemantics link).isSome ∨ ∀ group, cfg.defaultSemantics = some group → group.count = 1 := by
 obtain ⟨-,hlinks⟩:=links_of_make hmake
 constructor
 · intro h
   cases hlink:cfg.linkSemantics link with
   | some group => exact .inl rfl
   | none => exact .inr fun group hdefault=>h.1 group (or_eq_some_iff.mpr (.inr ⟨hlink,hdefault⟩))
 · intro h
   have hcount:∀ group,cfg.semantics link=some group→ group.count=1:=by
    intro group hgroup
    rcases or_eq_some_iff.mp hgroup with hlink | ⟨hnone,hdefault⟩
    · obtain ⟨l,hl,hl'⟩:=link_of_semantics hlink
      exact count_of_validate (hlinks _ hl).2 hl'
    · rw[hnone] at h
      exact (h.resolve_left Bool.false_ne_true) group hdefault
   refine ⟨hcount,fun pools=>makeCaller_supported rfl hcount,fun pools pools' hensured=>?_⟩
   exact (makeCaller_ensured hmake hensured).resolve_right (makeCaller_supported rfl hcount)

/-- A service with a pool for its default and a link that is called in parallel. -/
def pooledService : IConfig :=
 { services := [⟨1, "orders",some { taskPool := some "workers" }⟩],pools := [⟨"workers",2⟩],
   links := [⟨1,2,some { parallelCall := true }⟩] }

theorem call_semantics_unambiguous_iff_pooled : ∃ cfg, RuntimeConfig.make pooledService = .ok cfg ∧
  (cfg.semantics (1, 2) = some { parallelCall := true } ∧ Unambiguous 4 cfg (1, 2)) ∧
  (cfg.semantics (2, 3) = some { taskPool := some "workers" } ∧ Unambiguous 4 cfg (2, 3)) := by
 have hmake:RuntimeConfig.make pooledService=.ok _:=rfl
 refine ⟨_,hmake,⟨rfl,?_⟩,rfl,?_⟩
 · exact (call_semantics_unambiguous_iff hmake 4 (1,2)).mpr (.inl rfl)
 · refine (call_semantics_unambiguous_iff hmake 4 (2,3)).mpr (.inr fun group hgroup=>?_)
   cases hgroup
   rfl

def twoKinds : IConfig :=
 { services := [⟨1, "orders",some ⟨some false,some "workers",none,false⟩⟩],pools := [⟨"workers",2⟩] }

/-- A service that was given a group without any kind. No setting is parsed to it. -/
def noKind : IConfig :=
 { services := [⟨1, "orders",some {}⟩] }

/-- The first default comes out of `Parse`, and its pool is silently passed over; under the
second no caller can be made. Both are accepted. -/
theorem ambiguous_default :
  Setting.parse "" 0 false (.mapping (some false) (some "workers") none false) =
    .ok (some ⟨some false, some "workers", none, false⟩) ∧
   (∃ cfg, RuntimeConfig.make twoKinds = .ok cfg ∧ ¬ Unambiguous 4 cfg (1, 2) ∧
    makeCallerFromEnv 4 (some ⟨some cfg, {}⟩) (1, 2) = .ok (.direct false)) ∧
   ∃ cfg, RuntimeConfig.make noKind = .ok cfg ∧ ¬ Unambiguous 4 cfg (1, 2) ∧
    makeCallerFromEnv 4 (some ⟨some cfg, {}⟩) (1, 2) = .error .unsupported :=
 ⟨rfl,⟨_,rfl,fun h=>absurd (h.1 _ rfl) (by decide),rfl⟩,
  _,rfl,fun h=>absurd (h.1 _ rfl) (by decide),rfl⟩

end ServiceLib.CallerConfig
