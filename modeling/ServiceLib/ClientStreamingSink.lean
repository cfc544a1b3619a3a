import ServiceLib.SharedMutex
import ServiceLib.Transition

set_option autoImplicit false

/-!
# The client-streaming gRPC sink

The asynchronous path of the endpoint: `consume` calls that share one session per stream
id, the transport's response and completion callbacks, and `finalize`. What the transport
does with messages, `done` and `cancel` is outside the model; its callbacks may come at any
time once the session has been handed to it.
-/
namespace ServiceLib.ClientStreamingSink
open SharedMutex Function

inductive Actor where
 | call (index:ℕ)
 | response (index:ℕ)
 | finalizer
deriving DecidableEq

/-- Where a `consume` call is. The first of a session creates it: it begins at `beginning`
and holds the token `initializing` until it has left `initialized`. -/
inductive CallPlace where
 | beginning
 | dropping
 | starting
 | failing
 | closing
 | initialized
 | found
 | waiting
 | acquiring
 | locking
 | queued
 | checking
 | consuming
 | unlocking
 | releasing
 | finished
deriving DecidableEq

/-- A `consume` call; `parent` is the one in whose handler code it was made. -/
structure Call where
 parent : Option (ℕ × Actor) := none
 place : CallPlace
deriving DecidableEq

inductive ResponsePlace where
 | waiting
 | locking
 | queued
 | checking
 | handling
 | unlocking (threw:Bool)
 | failing
 | closing
 | releasing
 | finished
deriving DecidableEq

inductive Ending where
 | open
 | draining
 | ending
 | popping
 | finished
deriving DecidableEq

/-- A cell and its session. `ready` and `error` are those of the cell, `active` and `closed`
the counter and the flag of `lifetime`. `completions` are the completion callbacks that
have set `terminalStarted` and not yet closed `lifetime`, with whether they carry an
error, and `failed` is the error that `finalize` was posted with. -/
structure Session where
 streamId : String := ""
 ready : Bool := false
 error : Bool := false
 opened : Bool := false
 terminalStarted : Bool := false
 responseHandled : Bool := false
 responseError : Bool := false
 active : ℕ := 0
 closed : Bool := false
 failed : Bool := false
 handlerMutex : Mutex Actor := {}
 calls : List Call := []
 responses : List ResponsePlace := []
 completions : List Bool := []
 ending : Ending := .open
deriving DecidableEq

namespace Session

def place (q:Session) (i:ℕ) (call:Call) (next:CallPlace) : Session :=
 { q with calls := q.calls.set i { call with place := next } }

def placeResponse (q:Session) (j:ℕ) (next:ResponsePlace) : Session :=
 { q with responses := q.responses.set j next }

def grant (q:Session) (granted:List (Waiter Actor)) : Session :=
 { q with
   calls := q.calls.mapIdx fun i call =>
    if ⟨.call i,false⟩ ∈ granted then { call with place := .checking } else call
   responses := q.responses.mapIdx fun j place =>
    if ⟨.response j,true⟩ ∈ granted then .checking else place }

def releaseHandler (q:Session) (writer:Bool) : Session :=
 { q with handlerMutex := (q.handlerMutex.release writer).1 }.grant (q.handlerMutex.release writer).2

def release (q:Session) : Session :=
 { q with active := q.active - 1 }

def rejectCompletingSession (q:Session) : Bool :=
 q.ready && (q.error || q.terminalStarted)

/-- The second half of `finishAsync`: whoever closes `lifetime` posts `finalize`. -/
def finishAsync (q:Session) (failed:Bool) : Session :=
 if q.closed then q else { q with closed := true,failed := failed,ending := .draining }

def enter (q:Session) (i:ℕ) (call:Call) : Session :=
 if q.handlerMutex.admits false then
  { q with handlerMutex := q.handlerMutex.take false }.place i call .checking
 else { q with handlerMutex := q.handlerMutex.enqueue (.call i) false }.place i call .queued

/-- The next step of a `consume` call where it runs code of the library, and whether it
removes the entry of its stream id. `own` says that the entry is this cell. -/
def advance (own:Bool) (i:ℕ) (q:Session) : Option (Session × Bool) :=
 match q.calls[i]? with
 | none => none
 | some call =>
  match call.place with
  | .dropping => some (q.place i call .finished,own)
  | .failing => some ({ q with terminalStarted := true }.place i call .closing,false)
  | .closing => some ((q.finishAsync true).place i call .releasing,false)
  | .initialized => some (q.release.place i call .waiting,false)
  | .found => some (q.place i call (if q.rejectCompletingSession then .finished else .waiting),false)
  | .waiting =>
   if q.ready then some (q.place i call (if q.error then .finished else .acquiring),false) else none
  | .acquiring =>
   some (if q.closed then q.place i call .finished
    else { q with active := q.active + 1 }.place i call .locking,false)
  | .locking => some (q.enter i call,false)
  | .checking => some (q.place i call (if own then .consuming else .unlocking),false)
  | .unlocking => some ((q.place i call .releasing).releaseHandler false,false)
  | .releasing => some (q.release.place i call .finished,false)
  | .beginning | .starting | .queued | .consuming | .finished => none

def began (i:ℕ) (threw:Bool) (q:Session) : Option Session :=
 match q.calls[i]? with
 | some ⟨parent,.beginning⟩ =>
  if threw then some ({ q with error := true,ready := true }.place i ⟨parent,.beginning⟩ .dropping)
  else some ({ q with opened := true,active := q.active + 1 }.place i ⟨parent,.beginning⟩ .starting)
 | _ => none

def started (i:ℕ) (threw:Bool) (q:Session) : Option Session :=
 match q.calls[i]? with
 | some ⟨parent,.starting⟩ =>
  if threw then some ({ q with error := true,ready := true }.place i ⟨parent,.starting⟩ .failing)
  else some ({ q with ready := true }.place i ⟨parent,.starting⟩ .initialized)
 | _ => none

def consumed (i:ℕ) (q:Session) : Option Session :=
 match q.calls[i]? with
 | some ⟨parent,.consuming⟩ => some (q.place i ⟨parent,.consuming⟩ .unlocking)
 | _ => none

def response (q:Session) : Option Session :=
 if q.opened = false then none
 else if q.closed then some q
 else some { q with active := q.active + 1,responses := q.responses ++ [.waiting] }

def enterResponse (q:Session) (j:ℕ) : Session :=
 if q.handlerMutex.admits true then
  { q with handlerMutex := q.handlerMutex.take true }.placeResponse j .checking
 else { q with handlerMutex := q.handlerMutex.enqueue (.response j) true }.placeResponse j .queued

/-- The next step of `respondWhenReady` where it runs code of the library. -/
def respond (j:ℕ) (q:Session) : Option Session :=
 match q.responses[j]? with
 | none => none
 | some place =>
  match place with
  | .waiting => if q.ready then some (q.placeResponse j (if q.error then .releasing else .locking)) else none
  | .locking => some (q.enterResponse j)
  | .checking =>
   if q.responseHandled then some (q.placeResponse j (.unlocking false))
   else some ({ q with terminalStarted := true,responseHandled := true }.placeResponse j .handling)
  | .unlocking threw =>
   some ((q.placeResponse j (if threw then .failing else .releasing)).releaseHandler true)
  | .failing => some ({ q with terminalStarted := true }.placeResponse j .closing)
  | .closing => some ((q.finishAsync true).placeResponse j .releasing)
  | .releasing => some (q.release.placeResponse j .finished)
  | .queued | .handling | .finished => none

def handled (j:ℕ) (threw:Bool) (q:Session) : Option Session :=
 if q.responses[j]? = some .handling then
  some ({ q with responseError := q.responseError || threw }.placeResponse j (.unlocking threw))
 else none

def complete (failed:Bool) (q:Session) : Option Session :=
 if q.opened then some { q with terminalStarted := true,completions := q.completions ++ [failed] } else none

def close (k:ℕ) (q:Session) : Option Session :=
 q.completions[k]?.map fun failed=>{ q with completions := q.completions.eraseIdx k }.finishAsync failed

/-- The next step of `finalize`, which pops by the stream id alone. -/
def finalize (q:Session) : Option (Session × Bool) :=
 match q.ending with
 | .draining => if q.active = 0 then some ({ q with ending := .ending },false) else none
 | .popping => some ({ q with ending := .finished },true)
 | .open | .ending | .finished => none

def ended (q:Session) : Option Session :=
 if q.ending = .ending then some { q with ending := .popping } else none

end Session

inductive Act where
 | call (index:ℕ)
 | began (index:ℕ) (threw:Bool)
 | started (index:ℕ) (threw:Bool)
 | consumed (index:ℕ)
 | response
 | respond (index:ℕ)
 | handled (index:ℕ) (threw:Bool)
 | complete (failed:Bool)
 | close (index:ℕ)
 | finalize
 | ended
deriving DecidableEq

def Act.host : Act → Option Actor
 | .began i _ | .consumed i => some (.call i)
 | .handled j _ => some (.response j)
 | .ended => some .finalizer
 | _ => none

def Session.step (own:Bool) (q:Session) : Act → Option (Session × Bool)
 | .call i => q.advance own i
 | .began i threw => (q.began i threw).map fun q'=>(q',false)
 | .started i threw => (q.started i threw).map fun q'=>(q',false)
 | .consumed i => (q.consumed i).map fun q'=>(q',false)
 | .response => q.response.map fun q'=>(q',false)
 | .respond j => (q.respond j).map fun q'=>(q',false)
 | .handled j threw => (q.handled j threw).map fun q'=>(q',false)
 | .complete failed => (q.complete failed).map fun q'=>(q',false)
 | .close k => (q.close k).map fun q'=>(q',false)
 | .finalize => q.finalize
 | .ended => q.ended.map fun q'=>(q',false)

structure State where
 pending : String → Option ℕ := fun _=>none
 sessions : ℕ → Session := fun _=>{}
 next : ℕ := 0
 stopped : Bool := false

namespace State

def inHandler (s:State) : ℕ × Actor → Bool
 | (c,.call i) =>
  match (s.sessions c).calls[i]? with
  | some ⟨_,.beginning⟩ | some ⟨_,.consuming⟩ => true
  | _ => false
 | (c,.response j) => (s.sessions c).responses[j]? = some .handling
 | (c,.finalizer) => (s.sessions c).ending = .ending

def nested (s:State) (host:ℕ × Actor) : Bool :=
 (List.range s.next).any fun c =>
  (s.sessions c).calls.any fun call=>call.parent = some host && call.place ≠ .finished

/-- `consume` up to the cell that it finds or reserves, with an id that is not empty. -/
def consume (s:State) (streamId:String) (parent:Option (ℕ × Actor)) : State :=
 if s.stopped then s
 else match s.pending streamId with
  | none =>
   { s with
     next := s.next + 1
     pending := update s.pending streamId (some s.next)
     sessions := update s.sessions s.next
      { streamId := streamId,calls := [⟨parent,.beginning⟩] } }
  | some c =>
   { s with
     sessions := update s.sessions c
      { s.sessions c with calls := (s.sessions c).calls ++ [⟨parent,.found⟩] } }

def own (s:State) (c:ℕ) : Bool :=
 s.pending (s.sessions c).streamId = some c

def store (s:State) (c:ℕ) (next:Session × Bool) : State :=
 { s with
   sessions := update s.sessions c next.1
   pending := if next.2 then update s.pending (s.sessions c).streamId none else s.pending }

end State

inductive Label where
 | consume (streamId:String) (parent:Option (ℕ × Actor))
 | stop
 | act (session:ℕ) (act:Act)
deriving DecidableEq

/-- A call made in handler code returns before that code goes on. `stop` closes the endpoint
to new calls. -/
def step (s:State) : Label → Option State
 | .consume streamId parent =>
  if parent.all (fun host=>s.inHandler host && !s.nested host) then some (s.consume streamId parent) else none
 | .stop => some { s with stopped := true }
 | .act c act =>
  if c < s.next ∧ act.host.all (fun host=>!s.nested (c,host)) = true then
   ((s.sessions c).step (s.own c) act).map (s.store c)
  else none

end ServiceLib.ClientStreamingSink
