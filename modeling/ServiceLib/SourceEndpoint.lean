import ServiceLib.SourceRequest
import ServiceLib.Transition

set_option autoImplicit false

/-!
# Source endpoints

The table of pending requests is the rotating map, a partial map whose `set` rejects a key that is
present.
-/
namespace ServiceLib.SourceRequest
open Function

structure State where
 pending : String → Option ℕ := fun _=>none
 requests : ℕ → Request := fun _=>{}
 next : ℕ := 0
 stopped : Bool := false

namespace State

def entry (s:State) (r:ℕ) : Entry :=
 match s.pending (s.requests r).streamId with
 | none => .free
 | some owner => if owner = r then .own else .other

/-- `set` and `pop` go by the key alone. -/
def setEntry (s:State) (r:ℕ) : Entry → String → Option ℕ
 | .free => update s.pending (s.requests r).streamId none
 | .own => update s.pending (s.requests r).streamId (some r)
 | .other => s.pending

def store (s:State) (r:ℕ) (next:Request × Entry) : State :=
 { s with
   requests := update s.requests r next.1
   pending := s.setEntry r next.2 }

def delivery? (s:State) (call:ℕ × ℕ) : Option Delivery :=
 (s.requests call.1).deliveries[call.2]?

def inHandler (s:State) (call:ℕ × ℕ) : Bool :=
 match s.delivery? call with
 | some ⟨_,.identifying⟩ | some ⟨_,.calling _ _⟩ => true
 | _ => false

def nested (s:State) (call:ℕ × ℕ) : Bool :=
 (List.range s.next).any fun r =>
  (s.requests r).deliveries.any fun delivery=>delivery.parent = some call && delivery.place ≠ .finished

def beginRequest (e:Endpoint) (s:State) (streamId:String) (context:Context) : State :=
 { s with
   next := s.next + 1
   requests := update s.requests s.next
    { streamId := streamId
      context := context
      phase := if e.hasResult = true ∨ e.kind.grpc = true then .inserting else .consuming } }

def consumeResult (e:Endpoint) (s:State) (streamId:String) (parent:Option (ℕ × ℕ)) : State :=
 if streamId = "" ∨ (e.hasResult = false ∧ e.kind ≠ .http) then s
 else match s.pending streamId with
  | none => s
  | some r => { s with requests := update s.requests r ((s.requests r).arrive e.kind parent) }

end State

def Act.handler : Act → Option ℕ
 | .identify i _ | .callback i _ => some i
 | _ => none

/-- `beginRequest` is one that returned; one that threw leaves nothing behind. -/
inductive Label where
 | beginRequest (streamId:String) (context:Context)
 | stop
 | result (streamId:String) (parent:Option (ℕ × ℕ))
 | act (request:ℕ) (act:Act)
deriving DecidableEq

/-- HTTP, local and Kafka endpoints admit no request once they are stopped. A call made in
handler code returns before that code goes on. -/
def step (e:Endpoint) (s:State) : Label → Option State
 | .beginRequest streamId context =>
  if s.stopped = true ∧ e.kind.grpc = false then none else some (s.beginRequest e streamId context)
 | .stop => some { s with stopped := true }
 | .result streamId parent =>
  if parent.all (fun call=>s.inHandler call && !s.nested call) then
   some (s.consumeResult e streamId parent)
  else none
 | .act r act =>
  if r < s.next ∧ act.handler.all (fun i=>!s.nested (r,i)) = true then
   ((s.requests r).step e s.stopped (s.entry r) act).map (s.store r)
  else none

end ServiceLib.SourceRequest
