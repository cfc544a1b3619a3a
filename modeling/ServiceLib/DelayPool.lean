import Mathlib.Data.List.Sort
import ServiceLib.Loop
import ServiceLib.Tokens

set_option autoImplicit false

/-!
# The delay pool

`DelayPoolImpl` keeps its timer queue on a strand, admits and retires tasks under
`activityMutex` and runs them on the service executor. A step is a mutex section, a posted
handler, the handler of a timer wait or a move of a task; posted handlers run one at a
time, in any order.
-/
namespace ServiceLib.DelayPool
open Loop Tokens

def kMaxActiveTasks : ℕ := 2 ^ 62 - 1

def timePointMax : ℤ := 2 ^ 63 - 1

inductive PoolError where
 | stopped
 | alreadyStarted
 | cancelled
 | selfStop
 | tooManyDelayTasks
deriving DecidableEq

def PoolError.what : PoolError → String
 | .stopped => "pool stopped"
 | .alreadyStarted => "pool already started"
 | .cancelled => "request cancelled"
 | .selfStop => "pool cannot be stopped from its own task"
 | .tooManyDelayTasks => "too many delay tasks"

/-- The tokens of a context for which a stop is possible, and its deadline. -/
structure Context where
 stopTokens : ℕ
 deadline : Option ℤ
deriving DecidableEq

/-- `queued` says that the task holds an iterator of the timer queue; `cancellations`
counts its live stop callbacks and `expedited` is the argument it was dispatched with. -/
structure Task where
 runAt : ℤ := 0
 expeditedByDeadline : Bool := false
 queued : Bool := false
 claimed : Bool := false
 cancelRequested : Bool := false
 cancellations : ℕ := 0
 expedited : Bool := false

/-- What is still to happen. `adding` calls have made their task and `admitted` ones have
passed the mutex section; `insert` and `cancel` are posted handlers; `spawned` tasks
wait for the executor and `running` ones were claimed. A caller of `signalDrained`,
which may be `stop`, is before its mutex section or before its `Send`. Queued tasks are
kept in the timer queue. -/
inductive Token where
 | adding (task:ℕ)
 | admitted (task:ℕ)
 | insert (task:ℕ)
 | cancel (task:ℕ)
 | queued (task:ℕ)
 | spawned (task:ℕ)
 | running (task:ℕ)
 | signal (stop:Bool)
 | send (stop:Bool)
 | waiting
deriving DecidableEq

/-- `waits` are the pending waits on the timer, each with the generation its handler
captured and the time it was armed for. -/
structure State where
 timers : List (ℤ × ℕ) := []
 armedAt : Option ℤ := none
 generation : ℕ := 0
 activeTasks : ℕ := 0
 started : Bool := false
 closed : Bool := false
 drainSignalled : Bool := false
 drained : ℕ := 0
 tasks : ℕ → Task := fun _=>{}
 next : ℕ := 0
 pending : List Token := []
 waits : List (ℕ × ℤ) := []

def saturatedAdd (now duration:ℤ) : ℤ :=
 if duration ≤ 0 then now
 else if timePointMax - now ≤ duration then timePointMax
 else now + duration

/-- When the task is to run, and whether the deadline brought that forward. -/
def runAt (now duration:ℤ) (deadline:Option ℤ) : ℤ × Bool :=
 match deadline with
 | none => (saturatedAdd now duration,false)
 | some deadline =>
  if deadline < saturatedAdd now duration then (deadline,true)
  else (saturatedAdd now duration,false)

namespace State

def setTask (s:State) (t:ℕ) (task:Task) : State :=
 { s with tasks := Function.update s.tasks t task }

def exchange (s:State) (taken:Token) (given:List Token) : State :=
 { s with pending := Tokens.exchange s.pending taken given }

def give (s:State) (given:List Token) : State :=
 { s with pending := s.pending ++ given }

def start (s:State) : Except PoolError State :=
 if s.closed then .error .stopped
 else if s.started then .error .alreadyStarted
 else .ok { s with started := true }

/-- `own` says that the caller is one of the pool's own tasks. -/
def stop (s:State) (own:Bool) : Except PoolError State :=
 if own then .error .selfStop
 else .ok ({ s with closed := true }.give [if s.activeTasks = 0 then .signal true else .waiting])

/-- `delay` up to its mutex section. Stop callbacks are made only for a task that has to wait. -/
def delay (s:State) (cancelled:Bool) (now:ℤ) (context:Context) (duration:ℤ) :
  Except PoolError State :=
 if cancelled then .error .cancelled
 else if (runAt now duration context.deadline).1 ≤ now ∧
   context.deadline.any (fun deadline=>decide (deadline ≤ now)) then .error .cancelled
 else .ok (({ s with next := s.next + 1 }.give [.adding s.next]).setTask s.next
  { runAt := (runAt now duration context.deadline).1
    expeditedByDeadline := (runAt now duration context.deadline).2
    cancellations := if now < (runAt now duration context.deadline).1 then context.stopTokens else 0 })

def reserve (s:State) (t:ℕ) : Except PoolError State :=
 if s.closed then .error .stopped
 else if s.activeTasks = kMaxActiveTasks then .error .tooManyDelayTasks
 else .ok { s.exchange (.adding t) [.admitted t] with activeTasks := s.activeTasks + 1 }

/-- The task of a call that threw is destroyed with its callbacks. -/
def discard (s:State) (t:ℕ) : State :=
 s.setTask t { s.tasks t with cancellations := 0 }

/-- The mutex section of `retire`; the caller then signals the drain, or is done. -/
def retire (s:State) (taken:Token) : State :=
 { s.exchange taken (if s.closed = true ∧ s.activeTasks - 1 = 0 then [.signal false] else []) with
   activeTasks := s.activeTasks - 1 }

def dispatch (s:State) (t:ℕ) (expedited:Bool) : State :=
 (s.give [.spawned t]).setTask t { s.tasks t with expedited := expedited }

def armNext (s:State) : State :=
 if s.timers.head?.map Prod.fst = s.armedAt then s
 else { s with
  generation := s.generation + 1
  armedAt := s.timers.head?.map Prod.fst
  waits := s.waits ++ (s.timers.head?.map fun entry=>(s.generation + 1,entry.1)).toList }

def insert (s:State) (t:ℕ) (now:ℤ) : State :=
 if (s.tasks t).cancelRequested = true ∨ (s.tasks t).runAt ≤ now then
  s.dispatch t ((s.tasks t).expeditedByDeadline || (s.tasks t).cancelRequested)
 else ({ s with
  timers := s.timers.orderedInsert (fun a b=>a.1 < b.1) ((s.tasks t).runAt,t) }.setTask t
  { s.tasks t with queued := true }).armNext

def cancelQueued (s:State) (t:ℕ) : State :=
 if (s.tasks t).queued then
  (({ s with timers := s.timers.eraseP (fun entry=>entry.2 == t) }.setTask t
   { s.tasks t with queued := false }).dispatch t true).armNext
 else s

def timerDue (now:ℤ) (s:State) : Bool :=
 s.timers.head?.any fun entry=>decide (entry.1 ≤ now)

def fireFront (s:State) : State :=
 match s.timers with
 | [] => s
 | entry :: rest =>
  ({ s with timers := rest }.setTask entry.2 { s.tasks entry.2 with queued := false }).dispatch entry.2
   ((s.tasks entry.2).expeditedByDeadline || (s.tasks entry.2).cancelRequested)

/-- The handler of a wait of the current generation: one batch of tasks. -/
def fire (s:State) (now:ℤ) : State :=
 (loop (timerDue now) fireFront 64 { s with armedAt := none }).armNext

def signalDrained (s:State) (stop:Bool) (done:List Token) : State :=
 if s.drainSignalled then s.exchange (.signal stop) done
 else { s.exchange (.signal stop) [.send stop] with drainSignalled := true }

end State

/-- `delay` is `delay`, `reserve`, then `post` or `postFails`. `timer` is the end of a wait
and `aborted` its error code. -/
inductive Label where
 | delay (cancelled:Bool) (now:ℤ) (context:Context) (duration:ℤ)
 | reserve (task:ℕ)
 | post (task:ℕ)
 | postFails (task:ℕ)
 | cancel (task:ℕ)
 | start
 | stop (own:Bool)
 | insert (task:ℕ) (now:ℤ)
 | cancelQueued (task:ℕ)
 | timer (wait:ℕ × ℤ) (aborted:Bool) (now:ℤ)
 | invoke (task:ℕ)
 | finish (task:ℕ)
 | signal (stop:Bool)
 | send (stop:Bool)
 | stopReturns
deriving DecidableEq

def unlessThrown (s:State) (result:Except PoolError State) : State :=
 result.toOption.getD s

/-- Where a caller of `signalDrained` goes on: `stop` waits for the drain. -/
def signalled (stop:Bool) : List Token :=
 if stop then [.waiting] else []

/-- Only `armNext` cancels the timer, and it does so under a new generation, so a wait of
the current one is not aborted. -/
def step (s:State) : Label → Option State
 | .delay cancelled now context duration => some (unlessThrown s (s.delay cancelled now context duration))
 | .reserve t =>
  if .adding t ∈ s.pending then
   match s.reserve t with
   | .ok s' => some s'
   | .error _ => some ((s.exchange (.adding t) []).discard t)
  else none
 | .post t =>
  if .admitted t ∈ s.pending then some (s.exchange (.admitted t) [.insert t]) else none
 | .postFails t =>
  if .admitted t ∈ s.pending then some ((s.retire (.admitted t)).discard t) else none
 | .cancel t =>
  if (s.tasks t).cancellations = 0 then none
  else if (s.tasks t).cancelRequested then some s
  else some ((s.give [.cancel t]).setTask t
   { s.tasks t with cancelRequested := true })
 | .start => some (unlessThrown s s.start)
 | .stop own => some (unlessThrown s (s.stop own))
 | .insert t now =>
  if .insert t ∈ s.pending then some ((s.exchange (.insert t) []).insert t now) else none
 | .cancelQueued t =>
  if .cancel t ∈ s.pending then some ((s.exchange (.cancel t) []).cancelQueued t) else none
 | .timer wait aborted now =>
  if s.waits.contains wait then
   if wait.1 ≠ s.generation then some { s with waits := s.waits.erase wait }
   else if aborted then none
   else some ({ s with waits := s.waits.erase wait }.fire now)
  else none
 | .invoke t =>
  if .spawned t ∈ s.pending then
   if (s.tasks t).claimed then some (s.exchange (.spawned t) [])
   else some ((s.exchange (.spawned t) [.running t]).setTask t
    { s.tasks t with claimed := true,cancellations := 0 })
  else none
 | .finish t => if .running t ∈ s.pending then some (s.retire (.running t)) else none
 | .signal stop =>
  if .signal stop ∈ s.pending then some (s.signalDrained stop (signalled stop)) else none
 | .send stop =>
  if .send stop ∈ s.pending then
   some { s.exchange (.send stop) (signalled stop) with drained := s.drained + 1 }
  else none
 | .stopReturns =>
  if .waiting ∈ s.pending ∧ s.drained ≠ 0 then some (s.exchange .waiting []) else none

end ServiceLib.DelayPool
