import Mathlib.Data.Int.Notation
import Mathlib.Data.List.Nodup
import Mathlib.Tactic.Common
import ServiceLib.Transition

set_option autoImplicit false

/-!
# The HTTP client and its connection pool

`Client::Send` is a coroutine: a label is one stretch of it between two
suspensions, one strand handler of the pool, or an event from outside (the
clock, a stop token, an Asio cancellation signal, a completed I/O operation). A
connection remembers the requests written to its socket whose answers have not
been read; the peer answers them in order, so a read yields the oldest one.
-/
namespace ServiceLib.HttpClient

inductive ClientErrorCode
 | stopped | cancelled | timeout | poolTimeout | resolve | connect | write | read | bodyLimit
deriving DecidableEq,Repr

structure ClientError where
 code : ClientErrorCode
 message : String
deriving DecidableEq,Repr

/-- What `Send` can throw; a `co_await` in a cancelled coroutine throws `operationAborted`. -/
inductive Failure
 | client (error:ClientError)
 | invalidArgument (message:String)
 | operationAborted
deriving DecidableEq,Repr

structure Options where
 connections : ℕ := 4
 responseBodyLimit : ℕ := 4 * 1024 * 1024
 timeout : ℤ := 5000
 acquirePollInterval : ℤ := 1
deriving DecidableEq,Repr

def Options.Valid (o:Options) : Prop :=
 ¬ (o.connections = 0 ∨ o.responseBodyLimit = 0 ∨ o.timeout ≤ 0 ∨ o.acquirePollInterval ≤ 0)

instance (o:Options) : Decidable o.Valid :=
 inferInstanceAs (Decidable
  (¬ (o.connections = 0 ∨ o.responseBodyLimit = 0 ∨ o.timeout ≤ 0 ∨ o.acquirePollInterval ≤ 0)))

abbrev PoolOptions := { o : Options // o.Valid }

def validate (options:Options) : Except String PoolOptions :=
 if h : options.Valid then .ok ⟨options,h⟩ else .error "invalid HTTP client pool options"

def verbs : List String :=
 ["DELETE", "GET", "HEAD", "POST", "PUT", "CONNECT", "OPTIONS", "TRACE", "COPY", "LOCK", "MKCOL",
  "MOVE", "PROPFIND", "PROPPATCH", "SEARCH", "UNLOCK", "BIND", "REBIND", "UNBIND", "ACL", "REPORT",
  "MKACTIVITY", "CHECKOUT", "MERGE", "M-SEARCH", "NOTIFY", "SUBSCRIBE", "UNSUBSCRIBE", "PATCH",
  "PURGE", "MKCALENDAR", "LINK", "UNLINK"]

def parseVerb (method:String) : Option Failure :=
 if method ∈ verbs then none else some (.invalidArgument ("unknown HTTP method: " ++ method))

structure Connection where
 host : String := ""
 port : String := ""
 isOpen : Bool := false
 busy : Bool := false
 outstanding : List ℕ := []
deriving DecidableEq,Repr

/-- `Close`: what is still on its way over the old socket is lost with it. -/
def Connection.close (c:Connection) : Connection :=
 { c with host := "",port := "",isOpen := false,outstanding := [] }

abbrev Message := Option ℕ

/-- A channel of capacity one. A message goes to the pending receive if there is
one, else into the buffer if that is empty. -/
structure Mailbox where
 receiving : Bool := false
 delivered : Option Message := none
 slot : Option Message := none
deriving DecidableEq,Repr

def Mailbox.trySend (m:Mailbox) (message:Message) : Option Mailbox :=
 if m.receiving ∧ m.delivered = none then some { m with delivered := some message }
 else if m.slot = none then some { m with slot := some message }
 else none

def Mailbox.asyncReceive (m:Mailbox) : Mailbox :=
 match m.slot with
 | some message => ⟨true,some message,none⟩
 | none => { m with receiving := true }

structure Response where
 answers : ℕ
 bodySize : ℕ
 keepAlive : Bool
deriving DecidableEq,Repr

abbrev Outcome := Except Failure Response

inductive Pc
 | idle
 | acquiring
 | waiting
 | leased (c:ℕ)
 | entered (c:ℕ)
 | resolving (c:ℕ)
 | connecting (c:ℕ)
 | ready (c:ℕ)
 | writing (c:ℕ)
 | written (c:ℕ)
 | reading (c:ℕ)
 | leaving (outcome:Outcome)
 | finished (outcome:Outcome)

def Pc.lease : Pc → Option ℕ
 | .leased c | .entered c | .resolving c | .connecting c | .ready c | .writing c | .written c
 | .reading c => some c
 | .idle | .acquiring | .waiting | .leaving _ | .finished _ => none

/-- One call of `Send`. `cancelled` is a stop token of its context and `signalled`
the cancellation state of its coroutine. -/
structure Send where
 host : String := ""
 port : String := ""
 method : String := ""
 deadline : ℤ := 0
 contextDeadline : Option ℤ := none
 cancelled : Bool := false
 signalled : Bool := false
 mailbox : Mailbox := {}
 pc : Pc := .idle

/-- `PoolState`, the calls of `Send`, and the handlers posted so far: released
leases, `Finish`, the body of `BeginStop`, and the closings of `Finish`. -/
structure State where
 now : ℤ := 0
 closed : Bool := false
 operations : ℕ := 0
 connections : ℕ → Connection := fun _=>{}
 size : ℕ := 0
 waiters : List ℕ := []
 sends : ℕ → Send := fun _=>{}
 releases : List ℕ := []
 stopPosted : Bool := false
 finishPosted : ℕ := 0
 finishing : Bool := false
 closing : ℕ := 0
 closePosted : List ℕ := []
 closedPosted : ℕ := 0
 drained : ℕ := 0

namespace State

def setConnection (s:State) (c:ℕ) (connection:Connection) : State :=
 { s with connections := Function.update s.connections c connection }

def setSend (s:State) (i:ℕ) (send:Send) : State :=
 { s with sends := Function.update s.sends i send }

def setPc (s:State) (i:ℕ) (pc:Pc) : State :=
 s.setSend i { s.sends i with pc := pc }

def setMailbox (s:State) (i:ℕ) (mailbox:Mailbox) : State :=
 s.setSend i { s.sends i with mailbox := mailbox }

def close (s:State) (c:ℕ) : State :=
 s.setConnection c (s.connections c).close

/-- The deleter of a lease posts its return to the pool. -/
def release (s:State) (c:ℕ) : State :=
 { s with releases := s.releases ++ [c] }

/-- Unwinding `Send`: the lease is destroyed, then the `Operation`. -/
def exit (s:State) (i:ℕ) (outcome:Outcome) : State :=
 match (s.sends i).pc.lease with
 | some c => (s.setPc i (.leaving outcome)).release c
 | none => s.setPc i (.leaving outcome)

end State

def idleMatching (s:State) (host port:String) : Option ℕ :=
 (List.range s.size).find? fun c =>
  !(s.connections c).busy && (s.connections c).host == host && (s.connections c).port == port

def idleAny (s:State) : Option ℕ :=
 (List.range s.size).find? fun c=>!(s.connections c).busy

/-- The connection `Pump` picks for the waiter in front, made first if need be. -/
def available (o:PoolOptions) (s:State) (w:ℕ) : Option (ℕ × State) :=
 match idleMatching s (s.sends w).host (s.sends w).port with
 | some c => some (c,s)
 | none =>
  match idleAny s with
  | some c => some (c,s)
  | none =>
   if s.size < o.val.connections then
    some (s.size,{ s.setConnection s.size {} with size := s.size + 1 })
   else none

/-- A lease that the channel does not take is destroyed, which returns it. -/
def grant (s:State) (w:ℕ) (c:ℕ) : State :=
 let leased:=s.setConnection c { s.connections c with busy := true }
 match (s.sends w).mailbox.trySend (some c) with
 | some mailbox => leased.setMailbox w mailbox
 | none => leased.release c

def pumpWaiters (o:PoolOptions) : List ℕ → State → State
 | [],s => { s with waiters := [] }
 | w :: waiters,s =>
  match available o s w with
  | none => { s with waiters := w :: waiters }
  | some (c,s') => pumpWaiters o waiters (grant s' w c)

def pump (o:PoolOptions) (s:State) : State :=
 if s.closed then s else pumpWaiters o s.waiters s

/-- A null pointer for the waiter: a stop token, its timer or `BeginStop`. -/
def wake (s:State) (i:ℕ) : State :=
 match (s.sends i).mailbox.trySend none with
 | some mailbox => s.setMailbox i mailbox
 | none => s

def removeWaiter (o:PoolOptions) (s:State) (i:ℕ) : State :=
 pump o { s with waiters := s.waiters.erase i }

def throwIfCancelled (s:State) (i:ℕ) (operation:String) : Option Failure :=
 if s.closed then some (.client ⟨.stopped, "HTTP client stopped during " ++ operation⟩)
 else if (s.sends i).deadline ≤ s.now ∨ ∃ d ∈ (s.sends i).contextDeadline,d ≤ s.now then
  some (.client ⟨.timeout,operation ++ ": timeout"⟩)
 else if (s.sends i).cancelled then some (.client ⟨.cancelled,operation ++ ": cancelled"⟩)
 else none

structure IoError where
 timeout : Bool
 message : String
deriving DecidableEq,Repr

def throwOperationError (s:State) (i:ℕ) (fallbackCode:ClientErrorCode) (operation:String)
  (error:IoError) : Failure :=
 if s.closed then .client ⟨.stopped, "HTTP client stopped during " ++ operation⟩
 else if (s.sends i).deadline ≤ s.now ∨ error.timeout then .client ⟨.timeout,operation ++ ": timeout"⟩
 else if (s.sends i).cancelled then .client ⟨.cancelled,operation ++ ": cancelled"⟩
 else .client ⟨fallbackCode,operation ++ ": " ++ error.message⟩

/-- Suspending in a `co_await`, which throws if the coroutine has been cancelled. -/
def coAwait (s:State) (i:ℕ) (pc:Pc) : State :=
 if (s.sends i).signalled then s.exit i (.error .operationAborted) else s.setPc i pc

def effectiveDeadline (o:PoolOptions) (s:State) (contextDeadline:Option ℤ) : ℤ :=
 contextDeadline.elim (s.now + o.val.timeout) (min (s.now + o.val.timeout))

/-- `Operation`, `EffectiveDeadline` and the spawning of `Acquire`. -/
def beginSend (o:PoolOptions) (s:State) (i:ℕ) (host port method:String)
  (contextDeadline:Option ℤ) : State :=
 if s.closed then
  s.setSend i { s.sends i with
   host := host,port := port,method := method
   pc := .finished (.error (.client ⟨.stopped, "HTTP client is stopped"⟩)) }
 else
  State.setSend { s with operations := s.operations + 1 } i { s.sends i with
   host := host,port := port,method := method
   deadline := effectiveDeadline o s contextDeadline
   contextDeadline := contextDeadline,pc := .acquiring }

/-- The waiter of `Acquire` and its stop callbacks. A token that is stopped already
wakes the waiter while its callback is being registered. -/
def register (s:State) (i:ℕ) : State :=
 let created:=s.setSend i { s.sends i with mailbox := {},pc := .waiting }
 if (s.sends i).cancelled then wake created i else created

def enqueue (o:PoolOptions) (s:State) (i:ℕ) : State :=
 pump o { register s i with waiters := (register s i).waiters ++ [i] }

/-- `Acquire` up to its `async_receive`. -/
def acquire (o:PoolOptions) (s:State) (i:ℕ) : State :=
 if s.closed then s.exit i (.error (.client ⟨.stopped, "HTTP client is stopped"⟩))
 else if (s.sends i).signalled then
  removeWaiter o ((enqueue o s i).exit i (.error .operationAborted)) i
 else (enqueue o s i).setMailbox i ((enqueue o s i).sends i).mailbox.asyncReceive

/-- What `Acquire` throws when it is woken without a connection. -/
def acquireError (s:State) (i:ℕ) : ClientError :=
 if s.closed then ⟨.stopped, "HTTP client is stopped"⟩
 else if (s.sends i).deadline ≤ s.now then
  ⟨.poolTimeout, "HTTP connection pool acquisition timed out"⟩
 else ⟨.cancelled, "HTTP connection pool acquisition cancelled"⟩

def received (o:PoolOptions) (s:State) (i:ℕ) (message:Message) : State :=
 let taken:=s.setMailbox i { (s.sends i).mailbox with delivered := none }
 match message with
 | some c => removeWaiter o (taken.setPc i (.leased c)) i
 | none => removeWaiter o (taken.exit i (.error (.client (acquireError s i)))) i

/-- The cancelled `async_receive` throws out of `Acquire`. -/
def receiveAborted (o:PoolOptions) (s:State) (i:ℕ) : State :=
 removeWaiter o (s.exit i (.error .operationAborted)) i

/-- The channel dies with the last reference to its waiter, and a lease in its buffer with it. -/
def dropMailbox (s:State) (i:ℕ) : State :=
 let dropped:=s.setMailbox i { (s.sends i).mailbox with slot := none }
 match (s.sends i).mailbox.slot with
 | some (some c) => dropped.release c
 | _ => dropped

def admission (s:State) (i:ℕ) (c:ℕ) : State :=
 match throwIfCancelled s i "HTTP request admission" with
 | some error => s.exit i (.error error)
 | none =>
  if (s.connections c).isOpen = false ∨ (s.connections c).host ≠ (s.sends i).host ∨
    (s.connections c).port ≠ (s.sends i).port then
   coAwait (s.close c) i (.resolving c)
  else s.setPc i (.ready c)

/-- The path every failed I/O operation takes. -/
def ioFailed (s:State) (i:ℕ) (c:ℕ) (code:ClientErrorCode) (operation:String)
  (error:IoError) : State :=
 (s.close c).exit i (.error (throwOperationError s i code operation error))

def resolved (s:State) (i:ℕ) (c:ℕ) : Option IoError → State
 | some error => ioFailed s i c .resolve "HTTP DNS resolution failed" error
 | none =>
  match throwIfCancelled s i "HTTP connection" with
  | some error => s.exit i (.error error)
  | none => coAwait s i (.connecting c)

def connected (s:State) (i:ℕ) (c:ℕ) : Option IoError → State
 | some error => ioFailed s i c .connect "HTTP connection failed" error
 | none =>
  (s.setConnection c { s.connections c with
   isOpen := true,host := (s.sends i).host,port := (s.sends i).port }).setPc i (.ready c)

/-- From here on some bytes of the request may be on the wire. -/
def startWrite (s:State) (i:ℕ) (c:ℕ) : State :=
 match throwIfCancelled s i "HTTP request write" with
 | some error => s.exit i (.error error)
 | none =>
  match parseVerb (s.sends i).method with
  | some error => s.exit i (.error error)
  | none =>
   if (s.sends i).signalled then s.exit i (.error .operationAborted)
   else
    (s.setConnection c { s.connections c with
     outstanding := (s.connections c).outstanding ++ [i] }).setPc i (.writing c)

def wrote (s:State) (i:ℕ) (c:ℕ) : Option IoError → State
 | some error => ioFailed s i c .write "HTTP request write failed" error
 | none => s.setPc i (.written c)

def startRead (s:State) (i:ℕ) (c:ℕ) : State :=
 match throwIfCancelled s i "HTTP response read" with
 | some error => s.exit i (.error error)
 | none => coAwait s i (.reading c)

/-- A whole response has come in: the answer to the oldest outstanding request. -/
def gotResponse (o:PoolOptions) (s:State) (i:ℕ) (c:ℕ) (answers:ℕ)
  (rest:List ℕ) (bodySize:ℕ) (keepAlive:Bool) : State :=
 if o.val.responseBodyLimit < bodySize then
  (s.close c).exit i (.error (.client ⟨.bodyLimit, "HTTP response body is too large"⟩))
 else
  let popped:=s.setConnection c { s.connections c with outstanding := rest }
  (if keepAlive then popped else popped.close c).exit i (.ok ⟨answers,bodySize,keepAlive⟩)

/-- The deleter's handler on the strand. -/
def released (o:PoolOptions) (s:State) (c:ℕ) : State :=
 pump o { s.setConnection c { s.connections c with busy := false } with
  releases := s.releases.erase c }

def leave (s:State) (i:ℕ) (outcome:Outcome) : State :=
 State.setPc { s with
  operations := s.operations - 1
  finishPosted := if s.closed ∧ s.operations = 1 then s.finishPosted + 1 else s.finishPosted }
  i (.finished outcome)

def completeStop (s:State) : State := { s with drained := s.drained + 1 }

def closeAll (s:State) : State :=
 { s with connections := fun c=>if c < s.size then (s.connections c).close else s.connections c }

def finish (s:State) : State :=
 if ¬ s.closed ∨ s.operations ≠ 0 then s
 else if s.finishing then s
 else if s.size = 0 then completeStop { s with finishing := true,closing := 0 }
 else
  { s with
    finishing := true
    closing := s.size
    closePosted := s.closePosted ++ List.range s.size }

def beginStop (s:State) : State :=
 if s.closed then s
 else if s.operations = 0 ∧ s.finishing = false then
  completeStop { closeAll s with closed := true,finishing := true }
 else { s with closed := true,stopPosted := true }

/-- The handler `BeginStop` posts. What `Interrupt` does to a busy connection is an
I/O error of whatever operation is pending there. -/
def stopHandler (s:State) : State :=
 finish { s.waiters.foldl wake s with stopPosted := false }

def closeHandler (s:State) (c:ℕ) : State :=
 State.close { s with
  closePosted := s.closePosted.erase c
  closedPosted := s.closedPosted + 1 } c

def closedHandler (s:State) : State :=
 if s.closing - 1 = 0 then
  completeStop { s with closing := s.closing - 1,closedPosted := s.closedPosted - 1 }
 else { s with closing := s.closing - 1,closedPosted := s.closedPosted - 1 }

inductive Label
 | tick (now:ℤ)
 | cancel (i:ℕ)
 | signal (i:ℕ)
 | send (i:ℕ) (host port method:String) (contextDeadline:Option ℤ)
 | acquire (i:ℕ)
 | timer (i:ℕ)
 | received (i:ℕ)
 | receiveAborted (i:ℕ)
 | dropMailbox (i:ℕ)
 | resume (i:ℕ)
 | admission (i:ℕ)
 | resolved (i:ℕ) (error:Option IoError)
 | connected (i:ℕ) (error:Option IoError)
 | startWrite (i:ℕ)
 | wrote (i:ℕ) (error:Option IoError)
 | startRead (i:ℕ)
 | gotResponse (i:ℕ) (bodySize:ℕ) (keepAlive:Bool)
 | readFailed (i:ℕ) (error:IoError)
 | released (c:ℕ)
 | leave (i:ℕ)
 | stop
 | stopHandler
 | finish
 | closeHandler (c:ℕ)
 | closedHandler

def step (o:PoolOptions) (s:State) : Label → Option State
 | .tick now => if s.now ≤ now then some { s with now := now } else none
 | .cancel i =>
  let cancelled:=s.setSend i { s.sends i with cancelled := true }
  match (s.sends i).pc with
  | .waiting => some (wake cancelled i)
  | _ => some cancelled
 | .signal i => some (s.setSend i { s.sends i with signalled := true })
 | .send i host port method contextDeadline =>
  match (s.sends i).pc with
  | .idle => some (beginSend o s i host port method contextDeadline)
  | _ => none
 | .acquire i =>
  match (s.sends i).pc with
  | .acquiring => some (acquire o s i)
  | _ => none
 | .timer i =>
  match (s.sends i).pc with
  | .waiting => if (s.sends i).deadline ≤ s.now then some (wake s i) else none
  | _ => none
 | .received i =>
  match (s.sends i).pc,(s.sends i).mailbox.delivered with
  | .waiting,some message => some (received o s i message)
  | _,_ => none
 | .receiveAborted i =>
  match (s.sends i).pc,(s.sends i).mailbox.delivered with
  | .waiting,none => if (s.sends i).signalled then some (receiveAborted o s i) else none
  | _,_ => none
 | .dropMailbox i =>
  match (s.sends i).pc with
  | .idle | .acquiring | .waiting => none
  | _ => some (dropMailbox s i)
 | .resume i =>
  match (s.sends i).pc with
  | .leased c => some (coAwait s i (.entered c))
  | _ => none
 | .admission i =>
  match (s.sends i).pc with
  | .entered c => some (admission s i c)
  | _ => none
 | .resolved i error =>
  match (s.sends i).pc with
  | .resolving c => some (resolved s i c error)
  | _ => none
 | .connected i error =>
  match (s.sends i).pc with
  | .connecting c => some (connected s i c error)
  | _ => none
 | .startWrite i =>
  match (s.sends i).pc with
  | .ready c => some (startWrite s i c)
  | _ => none
 | .wrote i error =>
  match (s.sends i).pc with
  | .writing c => some (wrote s i c error)
  | _ => none
 | .startRead i =>
  match (s.sends i).pc with
  | .written c => some (startRead s i c)
  | _ => none
 | .gotResponse i bodySize keepAlive =>
  match (s.sends i).pc with
  | .reading c =>
   match (s.connections c).outstanding with
   | answers :: rest => some (gotResponse o s i c answers rest bodySize keepAlive)
   | [] => none
  | _ => none
 | .readFailed i error =>
  match (s.sends i).pc with
  | .reading c => some (ioFailed s i c .read "HTTP response read failed" error)
  | _ => none
 | .released c => if c ∈ s.releases then some (released o s c) else none
 | .leave i =>
  match (s.sends i).pc with
  | .leaving outcome => some (leave s i outcome)
  | _ => none
 | .stop => some (beginStop s)
 | .stopHandler => if s.stopPosted then some (stopHandler s) else none
 | .finish => if 0 < s.finishPosted then some (finish { s with finishPosted := s.finishPosted - 1 }) else none
 | .closeHandler c => if c ∈ s.closePosted then some (closeHandler s c) else none
 | .closedHandler => if 0 < s.closedPosted then some (closedHandler s) else none

end ServiceLib.HttpClient
