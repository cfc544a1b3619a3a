import ServiceLib.ServiceLifecycle

set_option autoImplicit false

/-!
# Starting a service
-/
namespace ServiceLib.ServiceApp
open ServiceLifecycle List

structure CallSemanticsGroup where
 taskPool : Option String
 priorityTaskPool : Option String

/-- `defaultCallSemantics` is that of the only service, where there is one; links may
be null or have no call semantics. -/
structure RuntimeConfig where
 defaultCallSemantics : Option CallSemanticsGroup
 links : List (Option CallSemanticsGroup)

/-- What `start` finds outside: the components, the published configuration, the
exception of building the graph, if it throws, and whether another service is
registered as the status provider. -/
structure Host (ε:Type) where
 components : Components ε
 runtimeConfig : Option RuntimeConfig
 topology : Option (Failure ε)
 providerActive : Bool

/-- `activeRuntime` says whether `activeRuntime_` is set. Pools that the service makes
itself take the next free address. -/
structure App where
 lifecycle : Lifecycle := {}
 running : Bool := false
 activeRuntime : Bool := false
 delayPool : Option ℕ := none
 taskPools : List (String × ℕ) := []
 priorityTaskPools : List (String × ℕ) := []
 nextAddress : ℕ := 0

variable {app:App}

section App
variable {ε:Type}

/-- A member function: the object afterwards, also when it throws. -/
abbrev Action (ε:Type) := App → App × Except (Failure ε) Unit

def Action.andThen (first second:Action ε) : Action ε := fun app =>
 match first app with
 | (app,.error failure) => (app,.error failure)
 | (app,.ok ()) => second app

def addComponent (kind:ServiceComponentKind) (component:Option Component) (telemetry:Bool) : Action ε :=
 fun app =>
  match app.lifecycle.add kind component telemetry with
  | .error failure => (app,.error failure)
  | .ok lifecycle => ({ app with lifecycle := lifecycle },.ok ())

/-- `delayPool_` is set before the registration, which may throw. -/
def registerDelayPool (pool:Option ℕ) : Action ε := fun app =>
 if app.delayPool.isSome then (app,.error (.logicError "delay pool is already registered"))
 else
  addComponent .delayPool (pool.map fun identity=>{ identity := identity }) false
   { app with delayPool := pool }

structure PoolTable where
 kind : ServiceComponentKind
 label : String
 get : App → List (String × ℕ)
 set : App → List (String × ℕ) → App
 set_lifecycle : ∀ app pools,(set app pools).lifecycle = app.lifecycle
 set_running : ∀ app pools,(set app pools).running = app.running

def taskPools : PoolTable where
 kind := .taskPool
 label := "task pool"
 get := App.taskPools
 set app pools:={ app with taskPools := pools }
 set_lifecycle _ _ := rfl
 set_running _ _ := rfl

def priorityTaskPools : PoolTable where
 kind := .priorityTaskPool
 label := "priority task pool"
 get := App.priorityTaskPools
 set app pools:={ app with priorityTaskPools := pools }
 set_lifecycle _ _ := rfl
 set_running _ _ := rfl

/-- A pool that is not null is given by its name and its address. -/
def registerPool (table:PoolTable) : Option (String × ℕ) → Action ε
 | none => fun app=>(app,.error (.invalidArgument (table.label ++ " is null")))
 | some (name,identity) => fun app =>
  if ((table.get app).lookup name).isSome then
   (app,.error (.logicError ("duplicate " ++ table.label ++ ": " ++ name)))
  else
   addComponent table.kind (some { identity := identity,getName := some name }) false
    (table.set app ((name,identity) :: table.get app))

def registerTaskPool (pool:Option (String × ℕ)) : Action ε := registerPool taskPools pool

def registerPriorityTaskPool (pool:Option (String × ℕ)) : Action ε := registerPool priorityTaskPools pool

def allocate (register:ℕ → Action ε) : Action ε := fun app =>
 register app.nextAddress { app with nextAddress := app.nextAddress + 1 }

def ensurePool (table:PoolTable) : Option String → Action ε
 | none => fun app=>(app,.ok ())
 | some name => fun app =>
  if name.isEmpty then (app,.error (.invalidArgument (table.label ++ " call semantics requires poolName")))
  else if ((table.get app).lookup name).isSome then (app,.ok ())
  else allocate (fun identity=>registerPool table (some (name,identity))) app

def ensureCallSemantics (semantics:CallSemanticsGroup) : Action ε :=
 (ensurePool taskPools semantics.taskPool).andThen (ensurePool priorityTaskPools semantics.priorityTaskPool)

def ensureAll : List CallSemanticsGroup → Action ε
 | [] => fun app=>(app,.ok ())
 | semantics :: rest => (ensureCallSemantics semantics).andThen (ensureAll rest)

def ensureDelayPool : Action ε := fun app =>
 if app.delayPool.isSome then (app,.ok ())
 else allocate (fun identity=>registerDelayPool (some identity)) app

def RuntimeConfig.semantics (config:RuntimeConfig) : List CallSemanticsGroup :=
 config.defaultCallSemantics.toList ++ config.links.filterMap id

def ensureConfiguredPools (runtimeConfig:Option RuntimeConfig) : Action ε :=
 Action.andThen ensureDelayPool fun app =>
  match runtimeConfig with
  | none => (app,.error (.logicError "runtime config is not published"))
  | some config => ensureAll config.semantics app

/-- Whatever throws here leaves no active runtime behind. -/
def startExecutionRuntime (topology:Option (Failure ε)) : Action ε := fun app =>
 if app.activeRuntime then (app,.error (.logicError "stream execution runtime is already started"))
 else
  match topology with
  | some failure => (app,.error failure)
  | none => ({ app with activeRuntime := true },.ok ())

/-- The handler of a failed start: the runtime and the pools are given up. -/
def rollback (app:App) : App :=
 { app with activeRuntime := false,delayPool := none,taskPools := [],priorityTaskPools := [] }

/-- What `start` does before its `try`; `ensureServiceInfoMetric` sets a gauge and nothing else. -/
def prepare (host:Host ε) : Action ε :=
 (ensureConfiguredPools host.runtimeConfig).andThen (startExecutionRuntime host.topology)

def launch (host:Host ε) (calls:List Call) (app:App) : App × List Call × Except (Failure ε) Unit :=
 if host.providerActive then
  (rollback app,calls,.error (.logicError "a servicelib status provider is already active"))
 else
  match app.lifecycle.start host.components calls with
  | (lifecycle,calls,.ok ()) => ({ app with lifecycle := lifecycle,running := true },calls,.ok ())
  | (lifecycle,calls,.error failure) => (rollback { app with lifecycle := lifecycle },calls,.error failure)

def start (host:Host ε) (calls:List Call) (app:App) : App × List Call × Except (Failure ε) Unit :=
 if app.running then (app,calls,.error (.logicError "service is already started"))
 else
  match prepare host app with
  | (app,.error failure) => (app,calls,.error failure)
  | (app,.ok ()) => launch host calls app

inductive Operation (ε:Type) where
 | add (kind:ServiceComponentKind) (component:Option Component) (telemetry:Bool)
 | registerDelayPool (pool:Option ℕ)
 | registerTaskPool (pool:Option (String × ℕ))
 | registerPriorityTaskPool (pool:Option (String × ℕ))
 | start (host:Host ε)

def Action.silently (action:Action ε) (calls:List Call) (app:App) :
  App × List Call × Except (Failure ε) Unit :=
 ((action app).1,calls,(action app).2)

def perform : Operation ε → List Call → App → App × List Call × Except (Failure ε) Unit
 | .add kind component telemetry => (addComponent kind component telemetry).silently
 | .registerDelayPool pool => (registerDelayPool pool).silently
 | .registerTaskPool pool => (registerTaskPool pool).silently
 | .registerPriorityTaskPool pool => (registerPriorityTaskPool pool).silently
 | .start host => start host

def performAll : List (Operation ε) → List Call → App → List Call × List (Except (Failure ε) Unit)
 | [],calls,_ => (calls,[])
 | operation :: operations,calls,app =>
  let (app,calls,result):=perform operation calls app
  let (calls,results):=performAll operations calls app
  (calls,result :: results)

/-- An action that registers at most: how far the service has come stays as it is. -/
def Action.Registers (action:Action ε) : Prop :=
 ∀ app,(action app).1.lifecycle.state = app.lifecycle.state ∧
  (action app).1.lifecycle.started = app.lifecycle.started ∧ (action app).1.running = app.running

lemma Action.Registers.andThen {first second:Action ε} (hfirst:first.Registers)
  (hsecond:second.Registers) : (first.andThen second).Registers := by
 intro app
 unfold Action.andThen
 obtain ⟨hstate,hstarted,hrunning⟩:=hfirst app
 match hresult : first app with
 | (next,.error failure) =>
  rw[hresult] at hstate hstarted hrunning
  exact ⟨hstate,hstarted,hrunning⟩
 | (next,.ok ()) =>
  rw[hresult] at hstate hstarted hrunning
  obtain ⟨hstate',hstarted',hrunning'⟩:=hsecond next
  exact ⟨hstate'.trans hstate,hstarted'.trans hstarted,hrunning'.trans hrunning⟩

lemma registers_skip : Action.Registers (ε := ε) fun app=>(app,.ok ()) :=
 fun _=>⟨rfl,rfl,rfl⟩

lemma add_stage {lifecycle lifecycle':Lifecycle} {kind:ServiceComponentKind}
  {component:Option Component} {telemetry:Bool}
  (h:lifecycle.add (ε := ε) kind component telemetry=.ok lifecycle') :
  lifecycle.state=.created∧lifecycle'.state=lifecycle.state∧lifecycle'.started=lifecycle.started := by
 cases component <;> grind[Lifecycle.add]

lemma addComponent_registers (kind:ServiceComponentKind) (component:Option Component)
  (telemetry:Bool) : Action.Registers (ε := ε) (addComponent kind component telemetry) := by
 intro app
 unfold addComponent
 cases h:app.lifecycle.add (ε := ε) kind component telemetry with
 | error failure => exact ⟨rfl,rfl,rfl⟩
 | ok lifecycle =>
  obtain ⟨_,hstate,hstarted⟩:=add_stage h
  exact ⟨hstate,hstarted,rfl⟩

lemma registerDelayPool_registers (pool:Option ℕ) :
  Action.Registers (ε := ε) (registerDelayPool pool) := by
 intro app
 unfold registerDelayPool
 split
 · exact ⟨rfl,rfl,rfl⟩
 · exact addComponent_registers .delayPool _ false { app with delayPool := pool }

lemma registerPool_registers (table:PoolTable) (pool:Option (String×ℕ)) :
  Action.Registers (ε := ε) (registerPool table pool) := by
 intro app
 cases pool with
 | none => exact ⟨rfl,rfl,rfl⟩
 | some pool =>
  dsimp only[registerPool]
  split
  · exact ⟨rfl,rfl,rfl⟩
  · have hadd:=addComponent_registers (ε:=ε) table.kind (some { identity := pool.2,getName := some pool.1 })
     false (table.set app (pool::table.get app))
    rw[table.set_lifecycle,table.set_running] at hadd
    exact hadd

lemma allocate_registers {register:ℕ→ Action ε} (h:∀ identity,(register identity).Registers) :
  (allocate register).Registers :=
 fun app=>h app.nextAddress { app with nextAddress := app.nextAddress+1 }

lemma ensurePool_registers (table:PoolTable) (name:Option String) :
  Action.Registers (ε := ε) (ensurePool table name) := by
 intro app
 cases name with
 | none => exact ⟨rfl,rfl,rfl⟩
 | some name =>
  dsimp only[ensurePool]
  split
  · exact ⟨rfl,rfl,rfl⟩
  · split
    · exact ⟨rfl,rfl,rfl⟩
    · exact allocate_registers (fun identity=>registerPool_registers table (some (name,identity))) app

lemma ensureAll_registers (semantics:List CallSemanticsGroup) :
  Action.Registers (ε := ε) (ensureAll semantics) := by
 induction semantics with
 | nil => exact registers_skip
 | cons first rest ih =>
  exact ((ensurePool_registers taskPools first.taskPool).andThen
   (ensurePool_registers priorityTaskPools first.priorityTaskPool)).andThen ih

lemma ensureConfiguredPools_registers (runtimeConfig:Option RuntimeConfig) :
  Action.Registers (ε := ε) (ensureConfiguredPools runtimeConfig) := by
 have hdelay:Action.Registers (ε:=ε) ensureDelayPool:=by
  intro app
  unfold ensureDelayPool
  split
  · exact ⟨rfl,rfl,rfl⟩
  · exact allocate_registers (fun identity=>registerDelayPool_registers (some identity)) app
 apply hdelay.andThen
 intro app
 cases runtimeConfig with
 | none => exact ⟨rfl,rfl,rfl⟩
 | some config => exact ensureAll_registers config.semantics app

lemma startExecutionRuntime_registers (topology:Option (Failure ε)) :
  (startExecutionRuntime topology).Registers := by
 intro app
 unfold startExecutionRuntime
 split
 · exact ⟨rfl,rfl,rfl⟩
 · cases topology with
   | none => exact ⟨rfl,rfl,rfl⟩
   | some failure => exact ⟨rfl,rfl,rfl⟩

lemma prepare_registers (host:Host ε) : (prepare host).Registers :=
 (ensureConfiguredPools_registers host.runtimeConfig).andThen (startExecutionRuntime_registers host.topology)

def Spent (app:App) : Prop :=
 app.lifecycle.state = .stopped ∧ app.running = false

lemma Action.Registers.spent {action:Action ε} (h:action.Registers) (hspent:Spent app) :
  Spent (action app).1 :=
 ⟨(h app).1.trans hspent.1,(h app).2.2.trans hspent.2⟩

lemma addComponent_spent (hspent:Spent app) (kind:ServiceComponentKind)
  (component:Option Component) (telemetry:Bool) :
  ∃ failure : Failure ε,(addComponent kind component telemetry app).2=.error failure := by
 unfold addComponent
 cases h:app.lifecycle.add (ε := ε) kind component telemetry with
 | error failure => exact ⟨failure,rfl⟩
 | ok lifecycle =>
  have hcreated:=(add_stage h).1
  rw[hspent.1] at hcreated
  cases hcreated

lemma launch_spent (hspent:Spent app) (host:Host ε) (calls:List Call) :
  ∃ failure,launch host calls app=(rollback app,calls,.error failure) := by
 have hstopped:app.lifecycle.state≠ .created:=by
  rw[hspent.1]
  decide
 unfold launch
 split
 · exact ⟨_,rfl⟩
 · rw[start_of_not_created hstopped]
   exact ⟨_,rfl⟩

lemma start_spent (hspent:Spent app) (host:Host ε) (calls:List Call) :
  ∃ next failure,start host calls app=(next,calls,.error failure)∧Spent next := by
 have hprepared:=(prepare_registers host).spent hspent
 unfold start
 rw[hspent.2]
 match hresult : prepare host app with
 | (next,.error failure) =>
  rw[hresult] at hprepared
  exact ⟨next,failure,rfl,hprepared⟩
 | (next,.ok ()) =>
  rw[hresult] at hprepared
  obtain ⟨failure,hlaunch⟩:=launch_spent hprepared host calls
  exact ⟨rollback next,failure,hlaunch,hprepared⟩

lemma registerDelayPool_spent (hspent:Spent app) (pool:Option ℕ) :
  ∃ failure : Failure ε,(registerDelayPool pool app).2=.error failure := by
 unfold registerDelayPool
 split
 · exact ⟨_,rfl⟩
 · have hset:Spent { app with delayPool:=pool } := hspent
   exact addComponent_spent hset .delayPool _ false

lemma registerPool_spent (hspent:Spent app) (table:PoolTable) (pool:Option (String×ℕ)) :
  ∃ failure : Failure ε,(registerPool table pool app).2=.error failure := by
 cases pool with
 | none => exact ⟨_,rfl⟩
 | some pool =>
  dsimp only[registerPool]
  split
  · exact ⟨_,rfl⟩
  · refine addComponent_spent ⟨?_,?_⟩ table.kind _ false
    · rw[table.set_lifecycle]
      exact hspent.1
    · rw[table.set_running]
      exact hspent.2

lemma silently_spent {action:Action ε} (hspent:Spent app) (hregisters:action.Registers)
  (hfails:∃ failure,(action app).2=.error failure) (calls:List Call) :
  ∃ next failure,action.silently calls app=(next,calls,.error failure)∧Spent next := by
 obtain ⟨failure,hfailure⟩:=hfails
 refine ⟨(action app).1,failure,?_,hregisters.spent hspent⟩
 rw[Action.silently,hfailure]

lemma perform_spent (hspent:Spent app) (operation:Operation ε) (calls:List Call) :
  ∃ next failure,perform operation calls app=(next,calls,.error failure)∧Spent next := by
 cases operation with
 | add kind component telemetry =>
  exact silently_spent hspent (addComponent_registers kind component telemetry)
   (addComponent_spent hspent kind component telemetry) calls
 | registerDelayPool pool =>
  exact silently_spent hspent (registerDelayPool_registers pool) (registerDelayPool_spent hspent pool) calls
 | registerTaskPool pool =>
  exact silently_spent hspent (registerPool_registers taskPools pool)
   (registerPool_spent hspent taskPools pool) calls
 | registerPriorityTaskPool pool =>
  exact silently_spent hspent (registerPool_registers priorityTaskPools pool)
   (registerPool_spent hspent priorityTaskPools pool) calls
 | start host => exact start_spent hspent host calls

lemma performAll_spent (hspent:Spent app) (operations:List (Operation ε)) (calls:List Call) :
  (performAll operations calls app).1=calls ∧
   ∀ result∈(performAll operations calls app).2,∃ failure,result=.error failure := by
 induction operations generalizing app with
 | nil => exact ⟨rfl,fun result hresult=>absurd hresult not_mem_nil⟩
 | cons operation operations ih =>
  obtain ⟨next,failure,hperform,hnext⟩:=perform_spent hspent operation calls
  simp only[performAll,hperform]
  refine ⟨(ih hnext).1,fun result hresult=>?_⟩
  rcases mem_cons.mp hresult with rfl | hresult
  · exact ⟨failure,rfl⟩
  · exact (ih hnext).2 result hresult

lemma start_throws {host:Host ε} {calls:List Call} {ready:App} {before after:List Entry}
  {failing:Entry} {error:ε} (hrunning:app.running=false)
  (hcreated:app.lifecycle.state=.created) (hstarted:app.lifecycle.started=[])
  (hready:prepare host app=(ready,.ok ())) (hprovider:host.providerActive=false)
  (horder:ready.lifecycle.registry.startOrder=before++failing::after)
  (h:Throws host.components calls before failing error) :
  start host calls app =
   (rollback { ready with lifecycle := ⟨.empty,[],.stopped⟩ },
    calls++before.map Call.start++[.start failing]++before.reverse.map Call.stop,
    .error (.thrown error)) := by
 have hstage:=prepare_registers host app
 rw[hready] at hstage
 have hlifecycle:=ServiceLifecycle.start_throws (hstage.1.trans hcreated) (hstage.2.1.trans hstarted) horder h
 unfold start
 rw[hrunning,hready]
 change launch host calls ready=_
 unfold launch
 rw[hprovider,hlifecycle]
 rfl

/-- The calls of a failed start: the starts up to the one that throws, then the stops of
those that returned, last one first. -/
def rollbackCalls (before:List Entry) (failing:Entry) : List Call :=
 before.map Call.start ++ [.start failing] ++ before.reverse.map Call.stop

lemma rollbackCalls_nodup {before after:List Entry} {failing:Entry}
  (h:(before++failing::after).Nodup) : (rollbackCalls before failing).Nodup := by
 have hstarted:(before++[failing]).Nodup:=
  h.sublist (List.Sublist.append_left (singleton_sublist.mpr mem_cons_self) before)
 have hstarts:(before.map Call.start++[Call.start failing]).Nodup:=by
  have hmap:=hstarted.map (f:=Call.start) fun a b hab=>Call.start.inj hab
  rwa[map_append] at hmap
 have hstops:(before.reverse.map Call.stop).Nodup:=
  (nodup_reverse.mpr hstarted.of_append_left).map fun a b hab=>Call.stop.inj hab
 refine hstarts.append hstops fun call hstart hstop=>?_
 obtain ⟨entry,_,rfl⟩:=mem_map.mp hstop
 rcases mem_append.mp hstart with hstart | hstart
 · obtain ⟨other,_,hother⟩:=mem_map.mp hstart
   cases hother
 · cases mem_singleton.mp hstart

/-- When a component's start throws, the components whose start has returned are stopped,
each once and in reverse, whatever their stops throw; nothing else is called, the
exception is passed on, and the lifecycle, or the service around it, has stopped for good. -/
theorem failed_start_rolls_back (components : Components ε) (calls : List Call) (before after : List Entry)
  (failing : Entry) (error : ε) (h : Throws components calls before failing error) :
  (∀ registry : Registry, registry.startOrder = before ++ failing :: after →
   (rollbackCalls before failing).Nodup ∧
   ∃ final : Lifecycle, Lifecycle.start components ⟨registry, [], .created⟩ calls =
     (final, calls ++ rollbackCalls before failing, .error (.thrown error)) ∧
    final.state = .stopped ∧
    ∀ (components' : Components ε) (calls' : List Call), final.start components' calls' =
     (final, calls', .error (.logicError "service lifecycle is already started"))) ∧
  (∀ (host : Host ε) (app ready : App), host.components = components → host.providerActive = false →
   app.running = false → app.lifecycle.state = .created → app.lifecycle.started = [] →
   prepare host app = (ready, .ok ()) →
   ready.lifecycle.registry.startOrder = before ++ failing :: after →
   ∃ final, start host calls app = (final, calls ++ rollbackCalls before failing, .error (.thrown error)) ∧
    final.lifecycle.state = .stopped ∧
    ∀ (operations : List (Operation ε)) (calls' : List Call),
     (performAll operations calls' final).1 = calls' ∧
      ∀ result ∈ (performAll operations calls' final).2, ∃ failure, result = .error failure) := by
 have hcalls:calls++rollbackCalls before failing =
  calls++before.map Call.start++[.start failing]++before.reverse.map Call.stop:=by
  simp only[rollbackCalls,append_assoc]
 rw[hcalls]
 refine ⟨fun registry horder=>⟨?_,_,ServiceLifecycle.start_throws rfl rfl horder h,rfl,?_⟩,?_⟩
 · apply rollbackCalls_nodup
   rw[← horder]
   exact registry.startOrder_nodup
 · intro components' calls'
   apply start_of_not_created
   decide
 · intro host app ready hcomponents hprovider hrunning hcreated hstarted hready horder
   have hstart:=start_throws hrunning hcreated hstarted hready hprovider horder (hcomponents▸h)
   have hready_running:ready.running=false:=by
    have hstage:=(prepare_registers host app).2.2
    rw[hready] at hstage
    exact hstage.trans hrunning
   have hspent:Spent (rollback { ready with lifecycle:=⟨.empty,[],.stopped⟩ }) := ⟨rfl,hready_running⟩
   exact ⟨_,hstart,rfl,fun operations calls'=>performAll_spent hspent operations calls'⟩

end App

def storage : Component := { identity := 10,getName := some "orders" }
def sink : Component := { identity := 11 }
def source : Component := { identity := 12,id := some 7 }

def faultyHost : Host String where
 components _ call :=
  match call with
  | .start entry => if entry.kind = .dataSource then some "start failed" else none
  | .stop entry => if entry.kind = .storage then some "stop failed" else none
 runtimeConfig := some ⟨none,[]⟩
 topology := none
 providerActive := false

def registered : App :=
 ((Action.andThen (addComponent .dataSource (some source) true) <|
  Action.andThen (addComponent .dataSink (some sink) true)
   (addComponent .storage (some storage) false) : Action String) {}).1

/-- The storage, the service's own delay pool and the sink are started and stopped. -/
theorem failed_source_rolls_back :
  ∃ final, start faultyHost [] registered =
    (final, rollbackCalls [⟨.storage, "storage:orders", 10, none⟩, ⟨.delayPool, "delay_pool:0", 0, none⟩,
     ⟨.dataSink, "datasink:0", 11, some "0"⟩] ⟨.dataSource, "datasource:7", 12, some "7"⟩,
     .error (.thrown "start failed")) ∧
   final.lifecycle.state = .stopped := by
 obtain ⟨final,hstart,hstopped,_⟩:=(failed_start_rolls_back faultyHost.components []
  [⟨.storage,"storage:orders",10,none⟩,⟨.delayPool,"delay_pool:0",0,none⟩,
   ⟨.dataSink,"datasink:0",11,some "0"⟩] []
  ⟨.dataSource,"datasource:7",12,some "7"⟩ "start failed" ⟨rfl,rfl,rfl,rfl⟩).2
  faultyHost registered _ rfl rfl rfl rfl rfl rfl rfl
 exact ⟨final,hstart,hstopped⟩

end ServiceLib.ServiceApp
