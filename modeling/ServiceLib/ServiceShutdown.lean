import ServiceLib.GraphGate
import ServiceLib.ServiceLifecycle

set_option autoImplicit false
attribute [-instance] instBooleanRingBool

/-!
# Stopping a service

`ServiceApp::stop` stops the components in three phases, drains the graph between them and
gives up what it owns, at once or, when something outlasts its context, in a cleanup task.
Each component is stopped on a thread of its own. A step is a move of the stopping thread
(later of the cleanup task), of one of those threads, or of the graph.
-/
namespace ServiceLib.ServiceShutdown
open ServiceLifecycle (Entry Registry)

inductive Phase where
 | admission
 | executors
 | sinks
deriving DecidableEq

def appendReverse (target entries:List Entry) : List Entry :=
 target ++ entries.reverse

def Phase.entries (registry:Registry) : Phase → List Entry
 | .admission => appendReverse (appendReverse [] (registry.entries .dataSource)) (registry.entries .component)
 | .executors =>
  appendReverse (appendReverse (appendReverse (appendReverse [] (registry.entries .priorityTaskPool))
   (registry.entries .taskPool)) (registry.entries .delayPool)) (registry.entries .storage)
 | .sinks => appendReverse [] (registry.entries .dataSink)

/-- Where the thread of a `ShutdownTask` is; `error` is what the stop threw. -/
inductive StopPlace where
 | launched
 | stopping
 | returned (error:Option String)
deriving DecidableEq

def StopPlace.isReturned : StopPlace → Bool
 | .returned _ => true
 | _ => false

def StopPlace.hasBegun : StopPlace → Bool
 | .launched => false
 | _ => true

structure PendingStop where
 entry : Entry
 place : StopPlace
 reported : Bool
deriving DecidableEq

inductive Warning where
 | stopTimedOut (resource:String)
 | connectorTimedOut (source:Bool) (name:String)
 | stopFailed (resource error:String)
 | drainTimedOut
deriving DecidableEq

def Warning.message : Warning → String
 | .stopTimedOut _ => "service shutdown operation timed out"
 | .connectorTimedOut true _ => "data source stopped by timeout"
 | .connectorTimedOut false _ => "data sink stopped by timeout"
 | .stopFailed _ _ => "service shutdown operation failed"
 | .drainTimedOut => "service graph drain timed out"

inductive Round where
 | first
 | second
deriving DecidableEq

/-- The calls of `ServiceLifecycle::finishShutdown`: by `stopAfterGraphDrain`, and by
`ServiceApp::finishShutdown` in `stop` or in the cleanup task. -/
inductive Caller where
 | sinkPhase
 | inline
 | deferred
deriving DecidableEq

/-- The stopping thread: in the two loops of `stopPhase`, in a drain of the graph (with the
number of its call), at the end of `stopAfterGraphDrain`, in the loop of
`finishShutdown`, at the decision whether to defer, and in `stopExecutionRuntime` and
what comes after it. -/
inductive Control where
 | running
 | launching (phase:Phase) (rest:List Entry) (first:ℕ)
 | awaiting (phase:Phase) (i:ℕ)
 | draining (round:Round) (d:ℕ)
 | settling
 | collecting (caller:Caller) (i:ℕ)
 | deciding
 | joining (d:ℕ)
 | closing
 | releasing
 | dropping
 | notifying
 | finished
deriving DecidableEq

/-- The registered components, the context that `stop` was called with, and whether the
service has a shared owner. -/
structure Service where
 registry : Registry
 context : GraphGate.Context
 lifetime : Bool

/-- Context 0 is that of `stop`; context 1 is the one of the final join, which cannot end. -/
def Service.contexts (service:Service) : ℕ → GraphGate.Context
 | 0 => service.context
 | _ => ⟨false,false⟩

/-- `owned`, `callersOwned` and `poolsOwned` say whether the lifecycle still has its entries,
the environment its callers and streams, and the service its pools. `called` and
`returned` record the stops that were called and that returned, `completed` how often
the shutdown-complete event was sent. -/
structure State where
 gate : GraphGate.State := {}
 control : Control := .running
 pending : List PendingStop := []
 owned : Bool := true
 callersOwned : Bool := true
 poolsOwned : Bool := true
 deferred : Bool := false
 completed : ℕ := 0
 called : List Entry := []
 returned : List Entry := []
 log : List Warning := []

namespace State

def warn (s:State) (warning:Warning) : State :=
 { s with log := s.log ++ [warning] }

def reportStop (s:State) (i:ℕ) (pending:PendingStop) (error:Option String) : State :=
 if pending.reported then s
 else
  let reported:={ s with pending := s.pending.set i { pending with reported := true } }
  match error with
  | none => reported
  | some error => reported.warn (.stopFailed pending.entry.name error)

def timedOut (s:State) (entry:Entry) : State :=
 match entry.onStopTimeout with
 | some connector => s.warn (.connectorTimedOut (entry.kind = .dataSource) connector)
 | none => s.warn (.stopTimedOut entry.name)

def hasPendingShutdown (s:State) : Bool :=
 s.pending.any fun pending=>!pending.place.isReturned

def stopPhase (s:State) (service:Service) (phase:Phase) : State :=
 { s with control := .launching phase (phase.entries service.registry) s.pending.length }

def drain (s:State) (context:ℕ) (control:ℕ → Control) : State :=
 { s with gate := s.gate.drainExecutionRuntime context,control := control s.gate.drains.length }

def afterPhase (s:State) (service:Service) : Phase → State
 | .admission => s.stopPhase service .executors
 | .executors => s.drain 0 (.draining .first)
 | .sinks => { s with control := .settling }

def defer (s:State) : State :=
 { s with deferred := true,control := .collecting .deferred 0 }

/-- The end of `ServiceLifecycle::finishShutdown`, and what its caller goes on with. -/
def clear (s:State) : Caller → State
 | .sinkPhase => { s with pending := [],owned := false,control := .deciding }
 | .inline => { s with pending := [],owned := false }.drain 1 .joining
 | .deferred => { s with pending := [],owned := false }.drain 1 .joining

end State

/-- The next step of the stopping thread, where it does not have to wait. -/
def advance (service:Service) (s:State) : Option State :=
 match s.control with
 | .running => none
 | .launching phase (entry :: rest) first =>
  some { s with pending := s.pending ++ [⟨entry,.launched,false⟩],control := .launching phase rest first }
 | .launching phase [] first => some { s with control := .awaiting phase first }
 | .awaiting phase i =>
  match s.pending[i]? with
  | none => some (s.afterPhase service phase)
  | some pending =>
   match pending.place with
   | .returned error => some { s.reportStop i pending error with control := .awaiting phase (i + 1) }
   | _ =>
    if s.gate.cancelled 0 then some { s.timedOut pending.entry with control := .awaiting phase (i + 1) }
    else none
 | .draining .first d =>
  match s.gate.drains[d]? with
  | some ⟨_,.returned drained⟩ => some ((if drained then s else s.warn .drainTimedOut).stopPhase service .sinks)
  | _ => none
 | .settling =>
  some { s with control := if s.hasPendingShutdown then .deciding else .collecting .sinkPhase 0 }
 | .collecting caller i =>
  match s.pending[i]? with
  | none => some (s.clear caller)
  | some pending =>
   match pending.place with
   | .returned error => some { s.reportStop i pending error with control := .collecting caller (i + 1) }
   | _ => none
 | .deciding => some (if s.hasPendingShutdown then s.defer else s.drain 0 (.draining .second))
 | .draining .second d =>
  match s.gate.drains[d]? with
  | some ⟨_,.returned true⟩ => some { s with control := .collecting .inline 0 }
  | some ⟨_,.returned false⟩ => some s.defer
  | _ => none
 | .joining d =>
  match s.gate.drains[d]? with
  | some ⟨_,.returned _⟩ => some { s with control := .closing }
  | _ => none
 | .closing => some { s with gate := { s.gate with parallelAccepting := false },control := .releasing }
 | .releasing =>
  some { s with gate := { s.gate with activeRuntime := false },callersOwned := false,control := .dropping }
 | .dropping => some { s with poolsOwned := false,control := .notifying }
 | .notifying => some { s with completed := s.completed + 1,control := .finished }
 | .finished => none

inductive Label where
 | stop
 | advance
 | begin (i:ℕ)
 | ret (i:ℕ) (error:Option String)
 | graph (l:GraphGate.Label)
deriving DecidableEq

/-- The labels of the gate that are not moves of the stopping thread. -/
def ofGraph : GraphGate.Label → Bool
 | .drain _ | .closeAdmission | .releaseRuntime => false
 | _ => true

/-- A bounded `stop` of a service without a shared owner throws before it does anything. -/
def step (service:Service) (s:State) : Label → Option State
 | .stop =>
  if s.control = .running ∧ (service.lifetime ∨ service.context = ⟨false,false⟩) then
   some (s.stopPhase service .admission)
  else none
 | .advance => advance service s
 | .begin i =>
  match s.pending[i]? with
  | some ⟨entry,.launched,reported⟩ =>
   some { s with pending := s.pending.set i ⟨entry,.stopping,reported⟩,called := s.called ++ [entry] }
  | _ => none
 | .ret i error =>
  match s.pending[i]? with
  | some ⟨entry,.stopping,reported⟩ =>
   some { s with pending := s.pending.set i ⟨entry,.returned error,reported⟩,returned := s.returned ++ [entry] }
  | _ => none
 | .graph l =>
  if ofGraph l then (GraphGate.step service.contexts s.gate l).map fun gate=>{ s with gate := gate } else none

set_option autoImplicit true in
inductive Move (service:Service) (s:State) : Label → State → Prop
 | stop (h:s.control = .running) (howned:service.lifetime ∨ service.context = ⟨false,false⟩) :
   Move service s .stop (s.stopPhase service .admission)
 | launch
   (h:s.control = .launching phase (entry :: rest) first) :
   Move service s .advance
    { s with pending := s.pending ++ [⟨entry,.launched,false⟩],control := .launching phase rest first }
 | launched (h:s.control = .launching phase [] first) :
   Move service s .advance { s with control := .awaiting phase first }
 | awaited
   (h:s.control = .awaiting phase i) (hi:s.pending[i]? = some pending)
   (hplace:pending.place = .returned error) :
   Move service s .advance { s.reportStop i pending error with control := .awaiting phase (i + 1) }
 | timedOut (h:s.control = .awaiting phase i)
   (hi:s.pending[i]? = some pending) (hplace:pending.place.isReturned = false)
   (hcancelled:s.gate.cancelled 0 = true) :
   Move service s .advance { s.timedOut pending.entry with control := .awaiting phase (i + 1) }
 | phaseDone (h:s.control = .awaiting phase i) (hi:s.pending[i]? = none) :
   Move service s .advance (s.afterPhase service phase)
 | drainedFirst (h:s.control = .draining .first d)
   (hd:s.gate.drains[d]? = some ⟨context,.returned drained⟩) :
   Move service s .advance ((if drained then s else s.warn .drainTimedOut).stopPhase service .sinks)
 | settle (h:s.control = .settling) :
   Move service s .advance
    { s with control := if s.hasPendingShutdown then .deciding else .collecting .sinkPhase 0 }
 | collected
   (h:s.control = .collecting caller i) (hi:s.pending[i]? = some pending)
   (hplace:pending.place = .returned error) :
   Move service s .advance { s.reportStop i pending error with control := .collecting caller (i + 1) }
 | clear (h:s.control = .collecting caller i) (hi:s.pending[i]? = none) :
   Move service s .advance (s.clear caller)
 | deferPending (h:s.control = .deciding) (hpending:s.hasPendingShutdown = true) :
   Move service s .advance s.defer
 | drainAgain (h:s.control = .deciding) (hpending:s.hasPendingShutdown = false) :
   Move service s .advance (s.drain 0 (.draining .second))
 | drainedSecond (h:s.control = .draining .second d)
   (hd:s.gate.drains[d]? = some ⟨context,.returned true⟩) :
   Move service s .advance { s with control := .collecting .inline 0 }
 | deferDrain (h:s.control = .draining .second d)
   (hd:s.gate.drains[d]? = some ⟨context,.returned false⟩) : Move service s .advance s.defer
 | joined (h:s.control = .joining d)
   (hd:s.gate.drains[d]? = some ⟨context,.returned drained⟩) :
   Move service s .advance { s with control := .closing }
 | close (h:s.control = .closing) :
   Move service s .advance { s with gate := { s.gate with parallelAccepting := false },control := .releasing }
 | release (h:s.control = .releasing) :
   Move service s .advance
    { s with gate := { s.gate with activeRuntime := false },callersOwned := false,control := .dropping }
 | drop (h:s.control = .dropping) :
   Move service s .advance { s with poolsOwned := false,control := .notifying }
 | notify (h:s.control = .notifying) :
   Move service s .advance { s with completed := s.completed + 1,control := .finished }
 | «begin» (hi:s.pending[i]? = some ⟨entry,.launched,reported⟩) :
   Move service s (.begin i)
    { s with pending := s.pending.set i ⟨entry,.stopping,reported⟩,called := s.called ++ [entry] }
 | ret
   (hi:s.pending[i]? = some ⟨entry,.stopping,reported⟩) :
   Move service s (.ret i error)
    { s with pending := s.pending.set i ⟨entry,.returned error,reported⟩,returned := s.returned ++ [entry] }
 | graph (hl:ofGraph l = true)
   (h:GraphGate.Move service.contexts s.gate l gate) : Move service s (.graph l) { s with gate := gate }

section Inversion
variable {service:Service} {s s':State}

lemma move_of_advance (h:advance service s=some s') : Move service s .advance s' := by
 unfold advance at h
 split at h <;> grind[Move,StopPlace.isReturned]

lemma move_of_step {l:Label} (h:step service s l=some s') : Move service s l s' := by
 cases l with
 | advance => exact move_of_advance h
 | graph l =>
  obtain ⟨hl,h⟩:=Option.ite_none_right_eq_some.mp h
  obtain ⟨gate,hgate,rfl⟩:=Option.map_eq_some_iff.mp h
  exact .graph hl (GraphGate.move_of_step hgate)
 | stop | «begin» i | ret i error => grind[step,Move]

end Inversion

end ServiceLib.ServiceShutdown
