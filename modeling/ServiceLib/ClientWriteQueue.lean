import ServiceLib.Transition
import ServiceLib.Tokens

set_option autoImplicit false

/-!
# The write queue of a gRPC client stream

Any number of threads call `push`, `fail` and `close`; one transport coroutine calls `pop`,
writes the value and calls `complete`. A step is one critical section, one `Send` of an
event, or one test that is made outside of a lock. Writes and events are named by the order
in which they were created.
-/
namespace ServiceLib.ClientWriteQueue

/-- The exceptions of the queue; `other` is one that a caller gave to `fail`. -/
inductive Failure (E:Type)
 | other (e:E)
 | alreadyClosed
 | cancelled
 deriving DecidableEq,Repr

def Failure.what {E:Type} (what:E → String) : Failure E → String
 | .other e => what e
 | .alreadyClosed => "gRPC stream is already closed"
 | .cancelled => "gRPC stream cancelled"

structure Write (T E:Type) where
 value : T
 completed : Bool := false
 failure : Option (Failure E) := none
 /-- The event `done` was sent. -/
 done : Bool := false

inductive Call (T E:Type)
 | pushing (value:T)
 | signalling (write:ℕ) (available:Option ℕ)
 | waiting (write:ℕ)
 | returned (write:ℕ)
 | threw (write:Option ℕ) (failure:Failure E)
 | failing (error:Failure E)
 | completing (error:Failure E) (writes:List ℕ) (available:Option ℕ)
 | sending (error:Failure E) (write:ℕ) (writes:List ℕ) (available:Option ℕ)
 | failed
 | closing
 | closeSignalling (available:Option ℕ)
 | closed

inductive Writer
 | idle
 | checking
 | locking
 | waiting (event:ℕ)
 | cancelling (call:ℕ)
 | holding (write:ℕ)
 | completing (write:ℕ)
 | sending (write:ℕ)
 | resetting (write:ℕ)
 | ended
 | left
 deriving DecidableEq

structure State (T E:Type) where
 values : List ℕ := []
 active : Option ℕ := none
 available : Option ℕ := none
 failure : Option (Failure E) := none
 closed : Bool := false
 cancelled : Bool := false
 writes : List (Write T E) := []
 /-- Which events were sent. -/
 events : List Bool := []
 calls : List (Call T E) := []
 writer : Writer := .idle

inductive Label (T E:Type)
 | push (value:T)
 | fail (error:Failure E)
 | close
 | cancel
 | advance (call:ℕ)
 | pop
 | work
 | written
 | abandon

variable {T E:Type}

namespace State

def call (s:State T E) (c:ℕ) (next:Call T E) : State T E :=
 { s with calls := s.calls.set c next }

def goto (s:State T E) (writer:Writer) : State T E :=
 { s with writer := writer }

def send (s:State T E) (available:Option ℕ) : State T E :=
 { s with events := available.elim s.events fun event=>s.events.set event true }

def spawn (s:State T E) (call:Call T E) : State T E :=
 { s with calls := s.calls ++ [call] }

/-- The critical section of `Write::complete`; `none` when the write was completed before. -/
def completeWrite (s:State T E) (w:ℕ) (error:Option (Failure E)) : Option (State T E) :=
 match s.writes[w]? with
 | none => none
 | some write =>
  if write.completed then none
  else some { s with writes := s.writes.set w { write with completed := true,failure := error } }

def sendDone (s:State T E) (w:ℕ) : State T E :=
 { s with writes := s.writes.modify w fun write=>{ write with done := true } }

def push (s:State T E) (c:ℕ) (value:T) : State T E :=
 match s.failure with
 | some e => s.call c (.threw none e)
 | none =>
  if s.closed then s.call c (.threw none .alreadyClosed)
  else { s with
   writes := s.writes ++ [{ value := value }]
   values := s.values ++ [s.writes.length]
   available := none
   calls := s.calls.set c (.signalling s.writes.length s.available) }

def fail (s:State T E) (c:ℕ) (error:Failure E) : State T E :=
 { s with
   failure := some (s.failure.getD error)
   closed := true
   values := []
   active := none
   available := none
   calls := s.calls.set c
    (.completing (s.failure.getD error) (s.active.toList ++ s.values) s.available) }

def close (s:State T E) (c:ℕ) : State T E :=
 if s.closed then s.call c .closed
 else { s with
  closed := true
  available := none
  calls := s.calls.set c (.closeSignalling s.available) }

def advance (s:State T E) (c:ℕ) : Option (State T E) :=
 match s.calls[c]? with
 | some (.pushing value) => some (s.push c value)
 | some (.signalling w available) => some ((s.send available).call c (.waiting w))
 | some (.waiting w) =>
  match s.writes[w]? with
  | none => none
  | some write =>
   if write.done then
    match write.failure with
    | some e => some (s.call c (.threw (some w) e))
    | none => some (s.call c (.returned w))
   else none
 | some (.failing error) => some (s.fail c error)
 | some (.completing error (w :: ws) available) =>
  match s.completeWrite w (some error) with
  | some s' => some (s'.call c (.sending error w ws available))
  | none => some (s.call c (.completing error ws available))
 | some (.completing _ [] available) => some ((s.send available).call c .failed)
 | some (.sending error w ws available) =>
  some ((s.sendDone w).call c (.completing error ws available))
 | some .closing => some (s.close c)
 | some (.closeSignalling available) => some ((s.send available).call c .closed)
 | _ => none

def pop (s:State T E) : State T E :=
 match s.values with
 | w :: ws => { s with active := some w,values := ws,writer := .holding w }
 | [] =>
  if s.closed then s.goto .ended
  else
   match s.available with
   | some event => s.goto (.waiting event)
   | none =>
    { s with
      events := s.events ++ [false]
      available := some s.events.length
      writer := .waiting s.events.length }

/-- The next step of the transport coroutine that is its own. In `pop` a cancelled context
makes it call `fail` and wait for that call; `AsyncWait` ends when the event was sent or
the context is cancelled. -/
def work (s:State T E) : Option (State T E) :=
 match s.writer with
 | .checking =>
  if s.cancelled then
   some ((s.spawn (.failing .cancelled)).goto (.cancelling s.calls.length))
  else some (s.goto .locking)
 | .locking => some s.pop
 | .waiting event =>
  if s.events[event]? = some true ∨ s.cancelled = true then some (s.goto .checking) else none
 | .cancelling c =>
  match s.calls[c]? with
  | some .failed => some (s.goto .ended)
  | _ => none
 | .completing w =>
  match s.completeWrite w none with
  | some s' => some (s'.goto (.sending w))
  | none => some (s.goto (.resetting w))
 | .sending w => some ((s.sendDone w).goto (.resetting w))
 | .resetting w =>
  some ({ s with active := if s.active = some w then none else s.active }.goto .idle)
 | _ => none

end State

/-- After `pop` has given a value the coroutine writes it: `written` when the write went
through and `complete` is called, `abandon` when it failed and the loop is left. -/
def step (s:State T E) : Label T E → Option (State T E)
 | .push value => some (s.spawn (.pushing value))
 | .fail error => some (s.spawn (.failing error))
 | .close => some (s.spawn .closing)
 | .cancel => some { s with cancelled := true }
 | .advance c => s.advance c
 | .pop => if s.writer = .idle then some (s.goto .checking) else none
 | .work => s.work
 | .written =>
  match s.writer with
  | .holding w => some (s.goto (.completing w))
  | _ => none
 | .abandon =>
  match s.writer with
  | .holding _ => some (s.goto .left)
  | _ => none

/-- What a run shows: a push was accepted, a write was popped, a write got its outcome, and
a failure was recorded as the first one. -/
inductive Event (E:Type)
 | accepted (w:ℕ)
 | popped (w:ℕ)
 | settled (w:ℕ) (outcome:Option (Failure E))
 | recorded (e:Failure E)

def events (s:State T E) (l:Label T E) (_:State T E) : List (Event E) :=
 match l with
 | .advance c =>
  match s.calls[c]? with
  | some (.pushing _) =>
   if s.failure.isNone && !s.closed then [.accepted s.writes.length] else []
  | some (.failing e) => if s.failure.isNone then [.recorded e] else []
  | some (.completing e (w :: _) _) =>
   if (s.completeWrite w (some e)).isSome then [.settled w (some e)] else []
  | _ => []
 | .work =>
  match s.writer with
  | .locking => s.values.head?.toList.map .popped
  | .completing w => if (s.completeWrite w none).isSome then [.settled w none] else []
  | _ => []
 | _ => []

def acceptedOf (es:List (Event E)) : List ℕ :=
 es.filterMap fun e =>
  match e with
  | .accepted w => some w
  | _ => none

def poppedOf (es:List (Event E)) : List ℕ :=
 es.filterMap fun e =>
  match e with
  | .popped w => some w
  | _ => none

def outcomesOf (w:ℕ) (es:List (Event E)) : List (Option (Failure E)) :=
 es.filterMap fun e =>
  match e with
  | .settled w' outcome => if w' = w then some outcome else none
  | _ => none

def recordedOf (es:List (Event E)) : List (Failure E) :=
 es.filterMap fun e =>
  match e with
  | .recorded e => some e
  | _ => none

end ServiceLib.ClientWriteQueue
