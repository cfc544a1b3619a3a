import Mathlib.Data.List.Nodup
import Mathlib.Data.Int.Notation

set_option autoImplicit false

/-!
# The service lifecycle registry

The components are code outside the library: every call that is made on one of them is recorded,
and the outcome of a call may depend on all calls before it.
-/
namespace ServiceLib.ServiceLifecycle
open List

inductive ServiceComponentKind where
 | dataSource
 | dataSink
 | storage
 | delayPool
 | taskPool
 | priorityTaskPool
 | component
deriving DecidableEq

def ServiceComponentKind.kindName : ServiceComponentKind → String
 | .dataSource => "datasource"
 | .dataSink => "datasink"
 | .storage => "storage"
 | .delayPool => "delay_pool"
 | .taskPool => "task_pool"
 | .priorityTaskPool => "priority_task_pool"
 | .component => "component"

/-- What registration reads of a component: its address and those of `getName()`,
`config().name` and `id()` that its type has. -/
structure Component where
 identity : ℕ
 getName : Option String := none
 configName : Option String := none
 id : Option ℤ := none
deriving DecidableEq

def componentName (kind:ServiceComponentKind) (component:Component) (index:ℕ) : String :=
 kind.kindName ++ ":" ++
  match component.getName,component.id with
  | some name,_ => name
  | none,some id => toString id
  | none,none => toString index

def connectorName (component:Component) (index:ℕ) : String :=
 match component.getName,component.configName,component.id with
 | some name,_,_ => name
 | none,some name,_ => name
 | none,none,some id => toString id
 | none,none,none => toString index

/-- `kind` is the table that holds the entry. `onStopTimeout` is the connector that the
timeout callback names, where there is such a callback. -/
structure Entry where
 kind : ServiceComponentKind
 name : String
 identity : ℕ
 onStopTimeout : Option String
deriving DecidableEq

def makeStopTimeoutCallback (kind:ServiceComponentKind) (component:Component) (index:ℕ)
  (telemetry:Bool) : Option String :=
 if telemetry ∧ (kind = .dataSource ∨ kind = .dataSink) then some (connectorName component index) else none

def makeEntry (kind:ServiceComponentKind) (component:Component) (index:ℕ) (telemetry:Bool) : Entry where
 kind := kind
 name := componentName kind component index
 identity := component.identity
 onStopTimeout := makeStopTimeoutCallback kind component index telemetry

/-- The table of one kind holds entries of that kind, and no component twice. The same
component may be registered under several kinds. -/
structure Registry where
 entries : ServiceComponentKind → List Entry
 kind_eq : ∀ kind,∀ entry ∈ entries kind,entry.kind = kind
 nodup : ∀ kind,((entries kind).map Entry.identity).Nodup

def Registry.empty : Registry where
 entries _ := []
 kind_eq _ _ h := absurd h not_mem_nil
 nodup _ := nodup_nil

def Registry.push (registry:Registry) (entry:Entry)
  (hnew:entry.identity ∉ (registry.entries entry.kind).map Entry.identity) : Registry where
 entries kind := if kind = entry.kind then registry.entries kind ++ [entry] else registry.entries kind
 kind_eq kind other h := by
  split at h
  · next hkind =>
   rcases mem_append.mp h with h | h
   · exact registry.kind_eq kind other h
   · rw [mem_singleton.mp h,hkind]
  · exact registry.kind_eq kind other h
 nodup kind := by
  split
  · next hkind =>
   rw [map_append,hkind]
   exact (registry.nodup entry.kind).append (nodup_singleton _)
    fun identity hold hentry=>hnew (mem_singleton.mp hentry ▸ hold)
  · exact registry.nodup kind

inductive State where
 | created
 | starting
 | running
 | stopping
 | stopped
deriving DecidableEq

/-- An exception: one of the library's own, or what a component threw. -/
inductive Failure (ε:Type) where
 | invalidArgument (what:String)
 | logicError (what:String)
 | streamException (what:String)
 | thrown (error:ε)

/-- `pendingStops_` belongs to the shutdown, which has a model of its own. -/
structure Lifecycle where
 registry : Registry := .empty
 started : List Entry := []
 state : State := .created

inductive Call where
 | start (entry:Entry)
 | stop (entry:Entry)
deriving DecidableEq

/-- What a call throws, if it throws, after the calls before it. -/
abbrev Components (ε:Type) := List Call → Call → Option ε

section Lifecycle
variable {ε:Type} (components:Components ε)

def invoke (calls:List Call) (call:Call) : List Call × Option ε :=
 (calls ++ [call],components calls call)

def Lifecycle.add (lifecycle:Lifecycle) (kind:ServiceComponentKind) (component:Option Component)
  (telemetry:Bool) : Except (Failure ε) Lifecycle :=
 match component with
 | none => .error (.invalidArgument "registered service component is null")
 | some component =>
  if lifecycle.state ≠ .created then
   .error (.logicError "service components must be registered before start")
  else
   let entry:=makeEntry kind component (lifecycle.registry.entries kind).length telemetry
   if hnew : entry.identity ∈ (lifecycle.registry.entries entry.kind).map Entry.identity then
    .error (.logicError "service component is already registered")
   else
    .ok { lifecycle with registry := lifecycle.registry.push entry hnew }

def kStartOrder : List ServiceComponentKind :=
 [.storage,.delayPool,.taskPool,.priorityTaskPool,.component,.dataSink,.dataSource]

structure Progress where
 started : List Entry
 calls : List Call

def startEntries : List Entry → Progress → Except (ε × Progress) Progress
 | [],progress => .ok progress
 | entry :: entries,progress =>
  match invoke components progress.calls (.start entry) with
  | (calls,some error) => .error (error,{ progress with calls := calls })
  | (calls,none) => startEntries entries ⟨progress.started ++ [entry],calls⟩

def startKinds (registry:Registry) : List ServiceComponentKind → Progress → Except (ε × Progress) Progress
 | [],progress => .ok progress
 | kind :: kinds,progress =>
  match startEntries components (registry.entries kind) progress with
  | .error failure => .error failure
  | .ok progress => startKinds registry kinds progress

def Lifecycle.clear (lifecycle:Lifecycle) : Lifecycle :=
 { lifecycle with registry := .empty,started := [] }

/-- The stops of a rollback: what a stop throws is dropped. -/
def stopCalls : List Entry → List Call → List Call
 | [],calls => calls
 | entry :: entries,calls => stopCalls entries (invoke components calls (.stop entry)).1

def Lifecycle.stopStarted (lifecycle:Lifecycle) (calls:List Call) : Lifecycle × List Call :=
 (lifecycle.clear,stopCalls components lifecycle.started.reverse calls)

def Lifecycle.start (lifecycle:Lifecycle) (calls:List Call) :
  Lifecycle × List Call × Except (Failure ε) Unit :=
 if lifecycle.state ≠ .created then
  (lifecycle,calls,.error (.logicError "service lifecycle is already started"))
 else
  match startKinds components lifecycle.registry kStartOrder ⟨lifecycle.started,calls⟩ with
  | .ok progress => ({ lifecycle with started := progress.started,state := .running },progress.calls,.ok ())
  | .error (error,progress) =>
   let (lifecycle,calls) :=
    { lifecycle with started := progress.started,state := .starting }.stopStarted components progress.calls
   ({ lifecycle with state := .stopped },calls,.error (.thrown error))

end Lifecycle

/-- All entries, as the two loops of `start` go through them. -/
def Registry.startOrder (registry:Registry) : List Entry :=
 kStartOrder.flatMap registry.entries

lemma Registry.entries_nodup (registry:Registry) (kind:ServiceComponentKind) :
  (registry.entries kind).Nodup :=
 .of_map Entry.identity (registry.nodup kind)

lemma Registry.startOrder_nodup (registry:Registry) : registry.startOrder.Nodup := by
 have hkinds:kStartOrder.Nodup:=by decide
 refine nodup_flatMap.mpr ⟨fun kind _=>registry.entries_nodup kind,hkinds.imp fun hne=>?_⟩
 intro entry hleft hright
 exact hne ((registry.kind_eq _ entry hleft).symm.trans (registry.kind_eq _ entry hright))

lemma Registry.mem_startOrder {registry:Registry} {entry:Entry} :
  entry∈registry.startOrder↔entry∈registry.entries entry.kind := by
 refine mem_flatMap.trans ⟨?_,fun hentry=>⟨entry.kind,?_,hentry⟩⟩
 · rintro ⟨kind,_,hentry⟩
   rw[registry.kind_eq kind entry hentry]
   exact hentry
 · cases entry.kind <;> decide

section Start
variable {ε:Type} {components:Components ε}

lemma startEntries_append (entries entries':List Entry) (progress:Progress) :
  startEntries components (entries++entries') progress =
   match startEntries components entries progress with
   | .error failure => .error failure
   | .ok progress => startEntries components entries' progress := by
 induction entries generalizing progress with
 | nil => rfl
 | cons entry entries ih =>
  cases h:components progress.calls (.start entry) with
  | none => simp only[cons_append,startEntries,invoke,h,ih]
  | some error => simp only[cons_append,startEntries,invoke,h]

lemma startKinds_eq (registry:Registry) (kinds:List ServiceComponentKind) (progress:Progress) :
  startKinds components registry kinds progress =
   startEntries components (kinds.flatMap registry.entries) progress := by
 induction kinds generalizing progress with
 | nil => rfl
 | cons kind kinds ih =>
  rw[startKinds,flatMap_cons,startEntries_append]
  simp only[ih]

/-- The starts of `before` return, one after the other, and then that of `failing` throws. -/
def Throws (components:Components ε) : List Call → List Entry → Entry → ε → Prop
 | calls,[],failing,error => components calls (.start failing) = some error
 | calls,entry :: before,failing,error =>
  components calls (.start entry) = none ∧ Throws components (calls ++ [.start entry]) before failing error

lemma startEntries_throws {before after:List Entry} {failing:Entry} {error:ε} {progress:Progress}
  (h:Throws components progress.calls before failing error) :
  startEntries components (before++failing::after) progress =
   .error (error,⟨progress.started++before,
    progress.calls++before.map Call.start++[.start failing]⟩) := by
 induction before generalizing progress with
 | nil =>
  have hthrow:components progress.calls (.start failing)=some error:=h
  simp only[nil_append,startEntries,invoke,hthrow,append_nil,map_nil]
 | cons entry before ih =>
  have hnext:=@ih ⟨progress.started++[entry],progress.calls++[.start entry]⟩ h.2
  simp only[cons_append,startEntries,invoke,h.1]
  rw[hnext]
  simp only[append_assoc,map_cons,cons_append,nil_append]

lemma stopCalls_eq (entries:List Entry) (calls:List Call) :
  stopCalls components entries calls=calls++entries.map Call.stop := by
 induction entries generalizing calls with
 | nil => exact (append_nil calls).symm
 | cons entry entries ih =>
  rw[stopCalls,ih]
  simp only[invoke,append_assoc,singleton_append,map_cons]

/-- A start that throws: the started entries are stopped in reverse, and the lifecycle
keeps nothing. -/
lemma start_throws {lifecycle:Lifecycle} {calls:List Call} {before after:List Entry}
  {failing:Entry} {error:ε} (hcreated:lifecycle.state=.created) (hstarted:lifecycle.started=[])
  (horder:lifecycle.registry.startOrder=before++failing::after)
  (h:Throws components calls before failing error) :
  lifecycle.start components calls =
   (⟨.empty,[],.stopped⟩,
    calls++before.map Call.start++[.start failing]++before.reverse.map Call.stop,
    .error (.thrown error)) := by
 have hloops:startKinds components lifecycle.registry kStartOrder ⟨[],calls⟩ =
  .error (error,⟨before,calls++before.map Call.start++[.start failing]⟩):=by
  rw[startKinds_eq]
  exact (congrArg (startEntries components · ⟨[],calls⟩) horder).trans (startEntries_throws h)
 unfold Lifecycle.start
 rw[if_neg (not_not.mpr hcreated),hstarted,hloops]
 simp only[Lifecycle.stopStarted,Lifecycle.clear,stopCalls_eq]

lemma start_of_not_created {lifecycle:Lifecycle} {calls:List Call} (h:lifecycle.state≠ .created) :
  lifecycle.start components calls =
   (lifecycle,calls,.error (.logicError "service lifecycle is already started")) :=
 if_pos h

end Start

end ServiceLib.ServiceLifecycle
