import ServiceLib.SharedMutex

set_option autoImplicit false

/-!
# A request of a source endpoint

One request of an HTTP, gRPC, local or Kafka source endpoint: the fiber that handles it,
its completion event, the gate between its result callbacks and its retirement, and the
`consumeResult` and `done` calls made for it. The table of pending requests is seen
through the entry under the request's stream id.
-/
namespace ServiceLib.SourceRequest
open SharedMutex

/-- `cooperative` tells `asyncHandle` of the unary endpoint from `handle`. -/
inductive Kind where
 | http
 | grpcUnary (cooperative:Bool)
 | grpcStreaming
 | localSource
 | kafka
deriving DecidableEq

namespace Kind

def grpc : Kind → Bool
 | .grpcUnary _ | .grpcStreaming => true
 | _ => false

/-- The local and the Kafka endpoint share `ResultContext` and the code of `process`. -/
def custom : Kind → Bool
 | .localSource | .kafka => true
 | _ => false

end Kind

structure Endpoint where
 kind : Kind
 hasResult : Bool
deriving DecidableEq

/-- What can end a wait: the sources of `Context::cancelled` and the endpoint's own stop. -/
inductive Source where
 | stopToken
 | external (index:ℕ)
 | deadline
 | endpoint
deriving DecidableEq

structure Context where
 stopPossible : Bool := false
 externalStopTokens : ℕ := 0
 deadline : Bool := false
deriving DecidableEq

def Context.sources (context:Context) : List Source :=
 (if context.deadline then [.deadline] else []) ++ (if context.stopPossible then [.stopToken] else []) ++
  (List.range context.externalStopTokens).map .external

/-- What the wait for the result subscribes to: `AsyncWait(context)` to every source, `Wait`
to none, and `process` to its two stop callbacks and the deadline. -/
def subscriptions (kind:Kind) (context:Context) : List Source :=
 match kind with
 | .http | .grpcStreaming | .grpcUnary true => context.sources
 | .grpcUnary false => []
 | .localSource | .kafka => [.stopToken,.endpoint] ++ (if context.deadline then [.deadline] else [])

inductive Failure where
 | duplicateKey
 | handler
 | runtimeError (what:String)
deriving DecidableEq

def cancelledError (kind:Kind) : Failure :=
 match kind with
 | .http => .runtimeError "HTTP request cancelled"
 | .grpcUnary _ | .grpcStreaming => .runtimeError "gRPC request cancelled"
 | .localSource | .kafka => .runtimeError "custom datasource request cancelled"

def timeoutError : Failure :=
 .runtimeError "custom datasource result wait timeout"

inductive Phase where
 | inserting
 | registering
 | consuming
 | reading
 | eof
 | waiting
 | expired
 | joining
 | woken
 | locking
 | queued
 | retired
 | popped
 | resolved
 | ending
 | closing
 | unlocking
 | finished
deriving DecidableEq

inductive Place where
 | found
 | locking
 | queued
 | checking
 | identifying
 | calling (messageId:String) (callback:ℕ)
 | unlocking
 | finished
deriving DecidableEq

/-- A `consumeResult` call; `parent` is the call in whose handler code it was made. -/
structure Delivery where
 parent : Option (ℕ × ℕ) := none
 place : Place
deriving DecidableEq

inductive DonePlace where
 | entered
 | stored
 | sending
 | returned
deriving DecidableEq

/-- `doneSent` is `wakeSent` of the local and Kafka endpoints; `waking` says that a stop
callback has set it and not yet sent. `ready` is the state of the event `done`, and
`responded` that of the unary endpoint's `responseReady`. `readers`, `retired` and
`notified` are the gate of the HTTP endpoint. -/
structure Request where
 streamId : String := ""
 context : Context := {}
 phase : Phase := .inserting
 pendingInserted : Bool := false
 registered : Bool := false
 error : Option Failure := none
 resultWaitFailed : Bool := false
 doneSent : Bool := false
 completed : Bool := false
 ready : Bool := false
 responded : Bool := false
 dones : List DonePlace := []
 fired : List Source := []
 signalled : Bool := false
 waking : Bool := false
 readers : ℕ := 0
 retired : Bool := false
 notified : Bool := false
 lifetimeMutex : Mutex (Option ℕ) := {}
 callbacks : String → Option ℕ := fun _=>none
 deliveries : List Delivery := []

/-- What the table of pending requests holds under a request's stream id. -/
inductive Entry where
 | free
 | own
 | other
deriving DecidableEq

namespace Request

def cancelled (q:Request) : Bool :=
 q.fired.any fun source=>source != .endpoint

def resultReady (kind:Kind) (q:Request) : Bool :=
 match kind with
 | .grpcUnary _ => q.responded
 | _ => q.ready

/-- The waiters that a release of the mutex wakes. -/
def grant (q:Request) (granted:List (Waiter (Option ℕ))) : Request :=
 { q with
   phase := if ⟨none,true⟩ ∈ granted then .retired else q.phase
   deliveries := q.deliveries.mapIdx fun i delivery =>
    if ⟨some i,false⟩ ∈ granted then { delivery with place := .checking } else delivery }

def releaseLifetime (q:Request) (writer:Bool) : Request :=
 { q with lifetimeMutex := (q.lifetimeMutex.release writer).1 }.grant (q.lifetimeMutex.release writer).2

def afterBody (e:Endpoint) : Phase :=
 if e.kind = .http ∧ e.hasResult = false then .ending else .locking

def fail (e:Endpoint) (q:Request) (failure:Failure) : Request :=
 { q with error := some failure,phase := afterBody e }

def bodyDone (e:Endpoint) (q:Request) : Request :=
 { q with phase := if e.hasResult then .waiting else afterBody e }

def waitFails (q:Request) (failure:Failure) : Request :=
 { q with error := some failure,resultWaitFailed := true,phase := .locking }

def awake (kind:Kind) (q:Request) : Option Request :=
 match kind with
 | .http | .grpcStreaming | .grpcUnary true =>
  if q.resultReady kind = true ∨ q.signalled = true then some { q with phase := .woken } else none
 | .grpcUnary false => if q.responded then some { q with phase := .woken } else none
 | .localSource | .kafka =>
  if q.ready then some { q with phase := .woken }
  else if q.context.deadline = true ∧ .deadline ∈ q.fired then some { q with phase := .expired }
  else none

def checkWait (kind:Kind) (stopped:Bool) (q:Request) : Request :=
 match kind with
 | .http | .grpcStreaming | .grpcUnary true =>
  if q.cancelled = true ∧ q.resultReady kind = false then q.waitFails (cancelledError kind)
  else { q with phase := .locking }
 | .grpcUnary false => { q with phase := .locking }
 | .localSource | .kafka =>
  if q.cancelled = true ∨ stopped = true then q.waitFails (cancelledError kind)
  else { q with phase := .locking }

/-- The fiber asks for the exclusive side of the gate. -/
def retire (kind:Kind) (q:Request) : Request :=
 match kind with
 | .http => { q with retired := true,phase := if q.readers = 0 then .retired else .queued }
 | _ =>
  if q.lifetimeMutex.admits true then
   { q with lifetimeMutex := q.lifetimeMutex.take true,phase := .retired }
  else { q with lifetimeMutex := q.lifetimeMutex.enqueue none true,phase := .queued }

def completionReady (kind:Kind) (q:Request) : Bool :=
 match kind with
 | .http => q.doneSent
 | .grpcStreaming => q.ready
 | .grpcUnary true => q.responded
 | .grpcUnary false => false
 | .localSource | .kafka => q.completed

/-- A completed request forgets that its wait failed. -/
def decide (kind:Kind) (q:Request) : Request :=
 { q with
   error := if q.resultWaitFailed = true ∧ q.completionReady kind = true then none else q.error
   phase := .resolved }

def resolve (kind:Kind) (q:Request) (entry:Entry) : Request × Entry :=
 match kind with
 | .http =>
  ({ q with
    error := if q.ready = false ∧ q.error = none then some (cancelledError .http) else q.error
    callbacks := fun _=>none
    phase := .ending },entry)
 | .grpcUnary _ | .grpcStreaming =>
  ({ q with registered := q.pendingInserted,pendingInserted := false,phase := .ending },entry)
 | .localSource | .kafka => ({ q with phase := .ending },if q.pendingInserted then .free else entry)

/-- The next step of the fiber where it runs code of the library. -/
def run (e:Endpoint) (stopped:Bool) (entry:Entry) (q:Request) : Option (Request × Entry) :=
 match q.phase with
 | .inserting =>
  if entry = .free then
   some ({ q with
    pendingInserted := !e.kind.grpc
    phase := if e.kind.grpc then .registering else .consuming },.own)
  else some (q.fail e .duplicateKey,entry)
 | .registering => some ({ q with pendingInserted := true,phase := .consuming },entry)
 | .waiting => (q.awake e.kind).map fun q'=>(q',entry)
 | .expired =>
  if q.doneSent then some ({ q with phase := .joining },entry)
  else some ({ q with doneSent := true }.waitFails timeoutError,entry)
 | .joining => if q.ready then some (q.waitFails timeoutError,entry) else none
 | .woken => some (q.checkWait e.kind stopped,entry)
 | .locking => some (q.retire e.kind,entry)
 | .queued => if e.kind = .http ∧ q.notified = true then some ({ q with phase := .retired },entry) else none
 | .retired =>
  if e.kind = .http then
   some ({ q with phase := .popped },if q.pendingInserted then .free else entry)
  else some (q.decide e.kind,entry)
 | .popped => some (q.decide e.kind,entry)
 | .resolved => some (q.resolve e.kind entry)
 | .closing => some ({ q with phase := .unlocking },if q.registered then .free else entry)
 | .unlocking => some ({ q.releaseLifetime true with phase := .finished },entry)
 | .consuming | .reading | .eof | .ending | .finished => none

def consumed (e:Endpoint) (threw:Bool) (q:Request) : Option Request :=
 if q.phase = .consuming then
  if threw then some (q.fail e .handler)
  else if e.kind.grpc then some { q with phase := .reading }
  else some (q.bodyDone e)
 else none

def read (e:Endpoint) (more:Bool) (q:Request) : Option Request :=
 if q.phase = .reading then
  if more then if e.kind = .grpcStreaming then some { q with phase := .consuming } else none
  else some { q with phase := .eof }
 else none

def readThrows (e:Endpoint) (q:Request) : Option Request :=
 if q.phase = .reading then some (q.fail e .handler) else none

def eof (e:Endpoint) (threw:Bool) (q:Request) : Option Request :=
 if q.phase = .eof then
  if threw then some (q.fail e .handler) else some (q.bodyDone e)
 else none

def ended (e:Endpoint) (q:Request) : Option Request :=
 if q.phase = .ending then
  some { q with phase := if e.kind = .http then .finished else if e.kind.grpc then .closing else .unlocking }
 else none

def fire (source:Source) (q:Request) : Option Request :=
 if source ∈ q.context.sources ∧ source ∉ q.fired then some { q with fired := source :: q.fired } else none

/-- A callback of a source that has fired, or the timer of the wait. -/
def notify (kind:Kind) (stopped:Bool) (source:Source) (q:Request) : Option Request :=
 if source ∈ subscriptions kind q.context ∧ (source ∈ q.fired ∨ (source = .endpoint ∧ stopped = true)) then
  if kind.custom then
   if source ≠ .deadline ∧ q.doneSent = false ∧
     (q.phase = .waiting ∨ q.phase = .expired ∨ q.phase = .joining ∨ q.phase = .woken) then
    some { q with doneSent := true,waking := true }
   else none
  else if q.signalled = false ∧ q.phase = .waiting then some { q with signalled := true }
  else none
 else none

def wake (q:Request) : Option Request :=
 if q.waking then some { q with waking := false,ready := true } else none

def startDone (e:Endpoint) (q:Request) : Option Request :=
 if e.kind.grpc = true ∧ e.hasResult = false then none else some { q with dones := q.dones ++ [.entered] }

/-- The exchange of the flag: only the first to set it sends. -/
def claimDone (q:Request) (j:ℕ) : Request :=
 if q.doneSent then { q with dones := q.dones.set j .returned }
 else { q with doneSent := true,dones := q.dones.set j .sending }

def doneStep (kind:Kind) (j:ℕ) (q:Request) : Option Request :=
 match q.dones[j]? with
 | some .entered =>
  if kind.custom then some { q with completed := true,dones := q.dones.set j .stored }
  else some (q.claimDone j)
 | some .stored => some (q.claimDone j)
 | some .sending => some { q with ready := true,dones := q.dones.set j .returned }
 | some .returned | none => none

def respond (kind:Kind) (q:Request) : Option Request :=
 match kind with
 | .grpcUnary _ =>
  if q.responded = false ∧ q.phase ≠ .closing ∧ q.phase ≠ .unlocking ∧ q.phase ≠ .finished then
   some { q with responded := true }
  else none
 | _ => none

def register (messageId:String) (callback:ℕ) (q:Request) : Request :=
 { q with callbacks := Function.update q.callbacks messageId (some callback) }

def arrive (kind:Kind) (parent:Option (ℕ × ℕ)) (q:Request) : Request :=
 { q with deliveries := q.deliveries ++ [⟨parent,if kind.grpc then .found else .locking⟩] }

def place (q:Request) (i:ℕ) (delivery:Delivery) (next:Place) : Request :=
 { q with deliveries := q.deliveries.set i { delivery with place := next } }

def enter (kind:Kind) (i:ℕ) (delivery:Delivery) (q:Request) : Request :=
 match kind with
 | .http =>
  if q.retired then q.place i delivery .finished
  else { q with readers := q.readers + 1 }.place i delivery .checking
 | _ =>
  if q.lifetimeMutex.admits false then
   { q with lifetimeMutex := q.lifetimeMutex.take false }.place i delivery .checking
  else { q with lifetimeMutex := q.lifetimeMutex.enqueue (some i) false }.place i delivery .queued

def leave (kind:Kind) (i:ℕ) (delivery:Delivery) (q:Request) : Request :=
 match kind with
 | .http =>
  { q with
    readers := q.readers - 1
    notified := q.notified || (q.retired && q.readers == 1) }.place i delivery .finished
 | _ => (q.place i delivery .finished).releaseLifetime false

/-- The next step of a `consumeResult` call where it runs code of the library. -/
def advance (kind:Kind) (entry:Entry) (i:ℕ) (q:Request) : Option Request :=
 match q.deliveries[i]? with
 | none => none
 | some delivery =>
  match delivery.place with
  | .found => some (q.place i delivery (if q.pendingInserted then .locking else .finished))
  | .locking => some (q.enter kind i delivery)
  | .checking =>
   some (q.place i delivery
    (if entry = .own ∧ (kind.grpc = false ∨ q.pendingInserted = true) then .identifying else .unlocking))
  | .unlocking => some (q.leave kind i delivery)
  | .queued | .identifying | .calling _ _ | .finished => none

def identify (i:ℕ) (messageId:Option String) (q:Request) : Option Request :=
 match q.deliveries[i]? with
 | none => none
 | some delivery =>
  if delivery.place = .identifying then
   some (q.place i delivery
    (match messageId.bind fun id=>(q.callbacks id).map fun callback=>(id,callback) with
    | none => .unlocking
    | some (id,callback) => .calling id callback))
  else none

def callback (i:ℕ) (accepted:Option Bool) (q:Request) : Option Request :=
 match q.deliveries[i]? with
 | none => none
 | some delivery =>
  match delivery.place with
  | .calling messageId _ =>
   some ({ q with
    callbacks := if accepted = some true then Function.update q.callbacks messageId none
     else q.callbacks }.place i delivery .unlocking)
  | _ => none

end Request

inductive Act where
 | run
 | consumed (threw:Bool)
 | read (more:Bool)
 | readThrows
 | eof (threw:Bool)
 | ended
 | fire (source:Source)
 | notify (source:Source)
 | wake
 | done
 | doneStep (index:ℕ)
 | respond
 | register (messageId:String) (callback:ℕ)
 | advance (index:ℕ)
 | identify (index:ℕ) (messageId:Option String)
 | callback (index:ℕ) (accepted:Option Bool)
deriving DecidableEq

def Request.step (e:Endpoint) (stopped:Bool) (entry:Entry) (q:Request) :
  Act → Option (Request × Entry)
 | .run => q.run e stopped entry
 | .consumed threw => (q.consumed e threw).map fun q'=>(q',entry)
 | .read more => (q.read e more).map fun q'=>(q',entry)
 | .readThrows => (q.readThrows e).map fun q'=>(q',entry)
 | .eof threw => (q.eof e threw).map fun q'=>(q',entry)
 | .ended => (q.ended e).map fun q'=>(q',entry)
 | .fire source => (q.fire source).map fun q'=>(q',entry)
 | .notify source => (q.notify e.kind stopped source).map fun q'=>(q',entry)
 | .wake => q.wake.map fun q'=>(q',entry)
 | .done => (q.startDone e).map fun q'=>(q',entry)
 | .doneStep j => (q.doneStep e.kind j).map fun q'=>(q',entry)
 | .respond => (q.respond e.kind).map fun q'=>(q',entry)
 | .register messageId callback => some (q.register messageId callback,entry)
 | .advance i => (q.advance e.kind entry i).map fun q'=>(q',entry)
 | .identify i messageId => (q.identify i messageId).map fun q'=>(q',entry)
 | .callback i accepted => (q.callback i accepted).map fun q'=>(q',entry)

end ServiceLib.SourceRequest
