import ServiceLib.Transition

set_option autoImplicit false

/-!
# Sub-stream invocations

A sub-stream is named by the identity of its context key. An invocation is a
`SubStreamCall`; a delivery is one `consume` of the result link. Loads and stores of
`closed_`, the sends of `done_` and the callback are separate steps. The critical
sections of `wait` and `cleanup` run no callback and are single steps.
-/
namespace ServiceLib.SubStream

/-- A node of the chain of local values. -/
structure Binding where
 key : ℕ
 call : ℕ
deriving DecidableEq

def withLocalValue (localValues:List Binding) (key call:ℕ) : List Binding :=
 ⟨key,call⟩ :: localValues

def localValue : List Binding → ℕ → Option ℕ
 | [],_ => none
 | binding :: parent,key =>
  if binding.key = key then some binding.call else localValue parent key

inductive Exception (E:Type) where
 | runtimeError (what:String)
 | invalidArgument (what:String)
 | logicError (what:String)
 | streamException (what:String)
 | other (error:E)
deriving DecidableEq

variable {E:Type}

def cancelledError : Exception E := .runtimeError "SubStream invocation cancelled"

inductive Outcome (E:Type) where
 | returned (accepted:Bool)
 | threw (error:Exception E)
deriving DecidableEq

abbrev Result (E:Type) := Except (Exception E) Unit

/-- Where `consume` is. `timedOut` and `expired` are in the `close` of `wait`; `unwinding`,
`cleaning` and `releasing` are the three steps of `cleanup`. -/
inductive Phase (E:Type) where
 | body
 | waiting
 | timedOut
 | expired
 | locking
 | unwinding (result:Result E)
 | cleaning (result:Result E)
 | releasing (result:Result E)
 | returned (result:Result E)

/-- `live` says that `collector_` and `context_` hold their values. `bounded` says that the
context has a deadline; `bindings` are the local values of the body's context. -/
structure Call (E:Type) where
 key : ℕ := 0
 bindings : List Binding := []
 bounded : Bool := false
 phase : Phase E := .body
 closed : Bool := false
 done : Bool := false
 live : Bool := true
 error : Option (Exception E) := none
 completed : Bool := false
 callbackMutex : Option ℕ := none

/-- Where `deliver` is; from `checking` to `unlocking` it holds the callback mutex. -/
inductive Place where
 | locking
 | checking
 | testing
 | calling
 | storing
 | sending
 | unlocking
 | finished
deriving DecidableEq

def Place.holds : Place → Bool
 | .locking | .finished => false
 | _ => true

structure Delivery (V:Type) where
 key : ℕ
 bindings : List Binding
 call : ℕ
 value : V
 place : Place := .locking

/-- `signals` are the calls whose stop callbacks have stored `closed_` and not yet sent. -/
structure State (V E:Type) where
 calls : ℕ → Call E := fun _=>{}
 next : ℕ := 0
 deliveries : List (Delivery V) := []
 signals : List ℕ := []

variable {V:Type}

inductive Admission where
 | open
 | closed
 | full
deriving DecidableEq

namespace State

def setCall (s:State V E) (c:ℕ) (call:Call E) : State V E :=
 { s with calls := Function.update s.calls c call }

def onCall (s:State V E) (c:ℕ) (f:Call E → Option (Call E)) : Option (State V E) :=
 if c < s.next then (f (s.calls c)).map (s.setCall c) else none

def localValues (s:State V E) : Option ℕ → List Binding
 | none => []
 | some c => (s.calls c).bindings

/-- `consume` up to the dispatch of the body. -/
def consume (s:State V E) (key:ℕ) (origin:Option ℕ) (bounded cancelled collector complete:Bool)
  (admission:Admission) : Except (Exception E) (State V E) :=
 if cancelled then .error cancelledError
 else if collector = false then .error (.invalidArgument "SubStream collector is required")
 else if complete = false then .error (.logicError "SubStream body or result source is missing")
 else match admission with
  | .closed => .error (.streamException "stream execution runtime is stopping")
  | .full => .error (.streamException "too many active stream input invocations")
  | .open => .ok ({ s with next := s.next + 1 }.setCall s.next
    { key := key,bindings := withLocalValue (s.localValues origin) key s.next,bounded := bounded })

def consumeResult (s:State V E) (key:ℕ) (origin:Option ℕ) (value:V) : State V E :=
 match localValue (s.localValues origin) key with
 | none => s
 | some c => { s with deliveries := s.deliveries ++ [⟨key,s.localValues origin,c,value,.locking⟩] }

def place (s:State V E) (d:ℕ) (delivery:Delivery V) (next:Place) : State V E :=
 { s with deliveries := s.deliveries.set d { delivery with place := next } }

end State

/-- The critical section of `wait`. -/
def Call.result (call:Call E) : Result E :=
 match call.error with
 | some error => .error error
 | none => if call.completed then .ok () else .error cancelledError

/-- Stop callbacks are registered before the dispatch and removed before `cleanup`. -/
def Phase.cancellable : Phase E → Bool
 | .cleaning _ | .releasing _ | .returned _ => false
 | _ => true

def Call.dispatched (call:Call E) : Option (Call E) :=
 match call.phase with
 | .body => some { call with phase := .waiting }
 | _ => none

def Call.bodyThrows (error:Exception E) (call:Call E) : Option (Call E) :=
 match call.phase with
 | .body => some { call with phase := .unwinding (.error error) }
 | _ => none

def Call.cancel (call:Call E) : Option (Call E) :=
 if call.phase.cancellable then some { call with closed := true } else none

/-- `WaitUntil` returns false. -/
def Call.expire (call:Call E) : Option (Call E) :=
 match call.phase with
 | .waiting =>
  if call.bounded = true ∧ call.done = false then some { call with phase := .timedOut } else none
 | _ => none

/-- One step of `consume` after the dispatch, other than the end of its deadline. -/
def Call.run (call:Call E) : Option (Call E) :=
 match call.phase with
 | .body => none
 | .waiting => if call.done then some { call with phase := .locking } else none
 | .timedOut => some { call with closed := true,phase := .expired }
 | .expired => some { call with done := true,phase := .locking }
 | .locking =>
  if call.callbackMutex = none then some { call with live := false,phase := .unwinding call.result }
  else none
 | .unwinding result => some { call with closed := true,phase := .cleaning result }
 | .cleaning result => some { call with done := true,phase := .releasing result }
 | .releasing result =>
  if call.callbackMutex = none then
   some { call with live := false,error := none,phase := .returned result }
  else none
 | .returned _ => none

/-- One step of `deliver` other than the callback: the call after it and the next place. -/
def Call.deliver (call:Call E) (d:ℕ) (cancelled:Bool) : Place → Option (Call E × Place)
 | .locking => if call.callbackMutex = none then some ({ call with callbackMutex := some d },.checking) else none
 | .checking => some (call,if call.closed then .unlocking else .testing)
 | .testing => some (if cancelled then ({ call with closed := true },.sending) else (call,.calling))
 | .calling => none
 | .storing => some ({ call with closed := true },.sending)
 | .sending => some ({ call with done := true },.unlocking)
 | .unlocking => some ({ call with callbackMutex := none },.finished)
 | .finished => none

def Call.settle (call:Call E) : Outcome E → Call E × Place
 | .returned false => (call,.unlocking)
 | .returned true => ({ call with completed := true },.storing)
 | .threw error => ({ call with error := some error },.storing)

/-- `cancelled` in `advance` is what `context_->cancelled()` answers. -/
inductive Label (V E:Type) where
 | invoke (key:ℕ) (origin:Option ℕ) (bounded cancelled collector complete:Bool) (admission:Admission)
 | dispatched (call:ℕ)
 | bodyThrows (call:ℕ) (error:Exception E)
 | cancel (call:ℕ)
 | signal (call:ℕ)
 | expire (call:ℕ)
 | run (call:ℕ)
 | result (key:ℕ) (origin:Option ℕ) (value:V)
 | advance (delivery:ℕ) (cancelled:Bool)
 | callback (delivery:ℕ) (outcome:Outcome E)

def step (s:State V E) : Label V E → Option (State V E)
 | .invoke key origin bounded cancelled collector complete admission =>
  match s.consume key origin bounded cancelled collector complete admission with
  | .ok s' => some s'
  | .error _ => some s
 | .dispatched c => s.onCall c Call.dispatched
 | .bodyThrows c error => s.onCall c (Call.bodyThrows error)
 | .cancel c => { s with signals := c :: s.signals }.onCall c Call.cancel
 | .signal c =>
  if c ∈ s.signals then
   { s with signals := s.signals.erase c }.onCall c fun call=>some { call with done := true }
  else none
 | .expire c => s.onCall c Call.expire
 | .run c => s.onCall c Call.run
 | .result key origin value => some (s.consumeResult key origin value)
 | .advance d cancelled =>
  match s.deliveries[d]? with
  | none => none
  | some delivery =>
   ((s.calls delivery.call).deliver d cancelled delivery.place).map fun next =>
    (s.setCall delivery.call next.1).place d delivery next.2
 | .callback d outcome =>
  match s.deliveries[d]? with
  | none => none
  | some delivery =>
   if delivery.place = .calling then
    some ((s.setCall delivery.call ((s.calls delivery.call).settle outcome).1).place d delivery
     ((s.calls delivery.call).settle outcome).2)
   else none

end ServiceLib.SubStream
