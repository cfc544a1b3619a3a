import Mathlib.Algebra.Ring.BooleanRing
import Mathlib.Data.List.Sort
import ServiceLib.FlagCounter
import ServiceLib.Loop

set_option autoImplicit false

/-!
# The queued task pools

`QueuedPool` keeps its queue on a strand, admits tasks under `activityMutex` and runs
the callbacks on the service executor. A step is a mutex section, a posted handler, a
timer's handler or a move of a callback; posted handlers run one at a time, in any order.
-/
namespace ServiceLib.QueuedPool
open FlagCounter Loop

def kClosed : BitVec 64 := 1#64 <<< 63
def kStarted : BitVec 64 := 1#64 <<< 62
def kCount : BitVec 64 := kStarted - 1#64

inductive PoolError where
 | configurationNotFound (name:String)
 | negativeExecutorCount
 | stopped
 | alreadyStarted
 | cancelled
 | selfStop
 | tooManyQueuedTasks
deriving DecidableEq

def PoolError.what : PoolError → String
 | .configurationNotFound name => "task pool configuration not found: " ++ name
 | .negativeExecutorCount => "negative executor count"
 | .stopped => "pool stopped"
 | .alreadyStarted => "pool already started"
 | .cancelled => "request cancelled"
 | .selfStop => "pool cannot be stopped from its own task"
 | .tooManyQueuedTasks => "too many queued tasks"

/-- The parts of a context that outlive the call: its tokens for which a stop is possible
and its deadline, in ticks of the steady clock. -/
structure Context where
 stopTokens : ℕ
 deadline : Option ℤ
deriving DecidableEq

/-- A queue node is named by the task it was made for: `addTask` makes one for each task.
The plain pool's list does not read the key. -/
structure Node where
 priority : ℤ
 sequence : ℕ
 task : ℕ
deriving DecidableEq

/-- Iterators are names of nodes. `priority` is the key of the pending node. -/
structure Task where
 priority : ℤ := 0
 deadline : Option ℤ := none
 cancellations : ℕ := 0
 position : Option ℕ := none
 deadlinePosition : Option ℕ := none
 cancelled : Bool := false
 promoted : Bool := false

inductive Handler where
 | start (context:Context)
 | stop
 | insert (task:ℕ)
 | promote (task:ℕ)
 | complete
 | checkDrain
 | stopManager
deriving DecidableEq

/-- A `start` past its mutex section: before `target.store`, then before its post. -/
inductive StartCall where
 | store (count:ℕ) (context:Context)
 | post (context:Context)
deriving DecidableEq

/-- `adding` calls have made their task, `admitted` ones have passed the mutex section and
`rolledBack` ones failed to post. `spawned` callbacks wait for the executor, `running`
ones have begun. The wait lists are the handlers pending on each timer. -/
structure State where
 activity : BitVec 64 := 0
 target : ℕ
 fallbackExecutors : ℤ
 started : Bool := false
 stopping : Bool := false
 managerActive : Bool := true
 completed : Bool := false
 busy : ℕ := 0
 nextSequence : ℕ := 0
 deadlineGeneration : ℕ := 0
 queue : List Node := []
 deadlines : List (ℤ × ℕ) := []
 armedAt : Option ℤ := none
 lifecycleCancellations : ℕ := 0
 drained : ℕ := 0
 tasks : ℕ → Task := fun _=>{}
 next : ℕ := 0
 adding : List ℕ := []
 admitted : List ℕ := []
 rolledBack : ℕ := 0
 starting : List StartCall := []
 stops : ℕ := 0
 waiting : ℕ := 0
 posted : List Handler := []
 spawned : List ℕ := []
 running : List ℕ := []
 managerWaits : ℕ := 0
 lifecycleWaits : ℕ := 0
 deadlineWaits : List (ℕ × ℤ) := []

def resolveExecutors (hardware:ℕ) (count:ℤ) : Except PoolError ℕ :=
 if count < 0 then .error .negativeExecutorCount
 else .ok (if count = 0 then max 1 hardware else count.toNat)

/-- The constructor; `config` is the configured `executorsCount` of the pool, if there is one. -/
def create (hardware:ℕ) (name:String) (config:Option ℤ) : Except PoolError State :=
 match config with
 | none => .error (.configurationNotFound name)
 | some count => (resolveExecutors hardware count).map fun target =>
   { target := target,fallbackExecutors := count }

namespace State

def configuredExecutors (s:State) (hardware:ℕ) (config:Option ℤ) : Except PoolError ℕ :=
 resolveExecutors hardware (config.getD s.fallbackExecutors)

def setTask (s:State) (t:ℕ) (task:Task) : State :=
 { s with tasks := Function.update s.tasks t task }

def post (s:State) (handler:Handler) : State :=
 { s with posted := s.posted ++ [handler] }

def checkDrain (s:State) : State :=
 if s.stopping = false ∨ s.completed = true then s
 else if s.activity &&& kCount = 0 then { s with completed := true,drained := s.drained + 1 }
 else s

def stopManager (s:State) : State :=
 { s with managerActive := false }

def installLifecycle (s:State) (context:Context) (cancelled:Bool) : State :=
 if cancelled then s.stopManager
 else { s with
  lifecycleCancellations := s.lifecycleCancellations + context.stopTokens
  lifecycleWaits := s.lifecycleWaits + if context.deadline.isSome then 1 else 0 }

def scheduleManager (s:State) : State :=
 { s with managerWaits := s.managerWaits + 1 }

def removeDeadline (s:State) (t:ℕ) : State :=
 match (s.tasks t).deadlinePosition with
 | none => s
 | some position =>
  { s with deadlines := s.deadlines.eraseP (fun entry=>entry.2 == position) }.setTask t
    { s.tasks t with deadlinePosition := none }

end State

def Node.before (a b:Node) : Prop :=
 a.priority < b.priority ∨ a.priority = b.priority ∧ a.sequence ≤ b.sequence

instance (a b:Node) : Decidable (a.before b) :=
 inferInstanceAs (Decidable (_ ∨ _))

/-- `std::map::insert` of a node: nothing is inserted where the key is present. -/
def mapInsert (node:Node) (queue:List Node) : List Node × ℕ :=
 match queue.find? (fun other=>other.priority == node.priority && other.sequence == node.sequence) with
 | some other => (queue,other.task)
 | none => (queue.orderedInsert Node.before node,node.task)

def intMin : ℤ := -2 ^ 31

/-- The node at a position in front of the queue: under the least priority in the map, and
spliced to the front of the list. -/
def toFront (byPriority:Bool) (queue:List Node) (position:ℕ) : List Node × ℕ :=
 match queue.find? (fun node=>node.task == position) with
 | none => (queue,position)
 | some node =>
  if byPriority then
   mapInsert { node with priority := intMin } (queue.eraseP (fun node=>node.task == position))
  else (node :: queue.eraseP (fun node=>node.task == position),position)

namespace State

def promote (byPriority:Bool) (s:State) (t:ℕ) : State :=
 match (s.tasks t).position with
 | none => s
 | some position =>
  if (s.tasks t).promoted then s
  else ({ s with queue := (toFront byPriority s.queue position).1 }.setTask t
   { s.tasks t with
     promoted := true
     position := some (toFront byPriority s.queue position).2 }).removeDeadline t

def armDeadline (s:State) : State :=
 if s.deadlines.head?.map Prod.fst = s.armedAt then s
 else { s with
  armedAt := s.deadlines.head?.map Prod.fst
  deadlineGeneration := s.deadlineGeneration + 1
  deadlineWaits := s.deadlineWaits ++
   (s.deadlines.head?.map fun entry=>(s.deadlineGeneration + 1,entry.1)).toList }

def canDispatch (s:State) : Bool :=
 s.started && decide (s.busy < s.target) && !s.queue.isEmpty

def dispatchFront (s:State) : State :=
 match s.queue with
 | [] => s
 | node :: rest =>
  ({ s with
   queue := rest
   busy := s.busy + 1
   spawned := s.spawned ++ [node.task] }.setTask node.task
   { s.tasks node.task with position := none }).removeDeadline node.task

def dispatch (s:State) : State :=
 (loop canDispatch dispatchFront s.queue.length s).armDeadline.checkDrain

def deadlineDue (now:ℤ) (s:State) : Bool :=
 s.deadlines.head?.any fun entry=>decide (entry.1 ≤ now)

def expireFront (byPriority:Bool) (s:State) : State :=
 match s.deadlines with
 | [] => s
 | entry :: rest =>
  ({ s with deadlines := rest }.setTask entry.2
   { s.tasks entry.2 with deadlinePosition := none }).promote byPriority entry.2

def expireDeadlines (byPriority:Bool) (s:State) (now:ℤ) : State :=
 (loop (deadlineDue now) (expireFront byPriority) s.deadlines.length
  { s with armedAt := none }).dispatch

def reserve (s:State) : Except PoolError State :=
 if s.activity &&& kClosed ≠ 0 then .error .stopped
 else if s.activity &&& kCount = kCount then .error .tooManyQueuedTasks
 else .ok { s with activity := s.activity + 1#64 }

def pending (s:State) (t sequence:ℕ) : Node :=
 { priority := (s.tasks t).priority,sequence := sequence,task := t }

/-- The pending node enters the queue; in the priority pool it takes the next sequence. -/
def enqueue (byPriority:Bool) (s:State) (t:ℕ) : State :=
 if byPriority then
  { s with
    queue := (mapInsert (s.pending t s.nextSequence) s.queue).1
    nextSequence := s.nextSequence + 1 }.setTask t
    { s.tasks t with
      position := some (mapInsert (s.pending t s.nextSequence) s.queue).2 }
 else
  { s with queue := s.queue ++ [s.pending t 0] }.setTask t
    { s.tasks t with position := some t }

/-- A task inserted too late goes to the front; another one with a deadline is indexed. -/
def watch (byPriority:Bool) (s:State) (t:ℕ) (now:ℤ) : State :=
 if (s.tasks t).cancelled = true then s.promote byPriority t
 else match (s.tasks t).deadline with
  | none => s
  | some deadline =>
   if deadline ≤ now then s.promote byPriority t
   else { s with
    deadlines := s.deadlines.orderedInsert (fun a b=>a.1 < b.1) (deadline,t) }.setTask t
    { s.tasks t with deadlinePosition := some t }

def start (s:State) (hardware:ℕ) (config:Option ℤ) (context:Context) :
  Except PoolError State :=
 (s.configuredExecutors hardware config).bind fun count =>
  if s.activity &&& kClosed ≠ 0 then .error .stopped
  else if s.activity &&& kStarted ≠ 0 then .error .alreadyStarted
  else .ok { s with
   activity := s.activity ||| kStarted
   starting := s.starting ++ [.store count context] }

/-- `own` says that the caller is one of the pool's own callbacks. Only the first call
posts; every call then waits for the drained event. -/
def stop (s:State) (own:Bool) : Except PoolError State :=
 if own then .error .selfStop
 else if s.activity &&& kClosed = 0 then
  .ok { s with activity := s.activity ||| kClosed,stops := s.stops + 1 }
 else .ok { s with activity := s.activity ||| kClosed,waiting := s.waiting + 1 }

structure Moment where
 now : ℤ
 cancelled : Bool
deriving DecidableEq

def handle (byPriority:Bool) (s:State) (moment:Moment) : Handler → State
 | .start context =>
  if s.stopping then s
  else if ({ s with started := true }.installLifecycle context moment.cancelled).managerActive then
   ({ s with started := true }.installLifecycle context moment.cancelled).scheduleManager.dispatch
  else ({ s with started := true }.installLifecycle context moment.cancelled).dispatch
 | .stop =>
  ({ s with stopping := true,started := true,lifecycleCancellations := 0 }.stopManager).dispatch
 | .insert t => ((s.enqueue byPriority t).watch byPriority t moment.now).dispatch
 | .promote t =>
  if (s.tasks t).position.isSome then (s.promote byPriority t).dispatch else s
 | .complete => { s with busy := s.busy - 1,activity := s.activity - 1#64 }.dispatch
 | .checkDrain => s.checkDrain
 | .stopManager => s.stopManager

end State

/-- `addTask` is `addTask`, `reserve`, then `post`, or `postFails` and `recheck`. Timers
carry the error code of their handler, which a late cancellation need not set. -/
inductive Label where
 | addTask (cancelled:Bool) (context:Context) (priority:ℤ)
 | reserve (task:ℕ)
 | post (task:ℕ)
 | postFails (task:ℕ)
 | recheck
 | cancel (task:ℕ)
 | start (config:Option ℤ) (context:Context)
 | advance (call:StartCall)
 | stop (own:Bool)
 | postStop
 | stopReturns
 | strand (handler:Handler) (moment:State.Moment)
 | managerTimer (error:Bool) (config:Option ℤ)
 | deadlineTimer (wait:ℕ × ℤ) (error:Bool) (now:ℤ)
 | lifecycleTimer (error:Bool)
 | lifecycleCancel
 | invoke (task:ℕ)
 | finish (task:ℕ)
deriving DecidableEq

def unlessThrown (s:State) (result:Except PoolError State) : State :=
 result.toOption.getD s

namespace State

def discard (s:State) (t:ℕ) : State :=
 s.setTask t { s.tasks t with cancellations := 0 }

def addTask (s:State) (context:Context) (priority:ℤ) : State :=
 { s with next := s.next + 1,adding := s.adding ++ [s.next] }.setTask s.next
   { priority := priority,deadline := context.deadline,cancellations := context.stopTokens }

def cancel (s:State) (t:ℕ) : State :=
 if (s.tasks t).cancelled then s
 else (s.setTask t { s.tasks t with cancelled := true }).post (.promote t)

def managerTimer (s:State) (hardware:ℕ) (config:Option ℤ) : State :=
 { s with target := ((s.configuredExecutors hardware config).toOption.getD s.target)
   }.dispatch.scheduleManager

end State

def step (byPriority:Bool) (hardware:ℕ) (s:State) : Label → Option State
 | .addTask cancelled context priority =>
  some (if cancelled then s else s.addTask context priority)
 | .reserve t =>
  if t ∈ s.adding then
   match { s with adding := s.adding.erase t }.reserve with
   | .ok s' => some { s' with admitted := s'.admitted ++ [t] }
   | .error _ => some ({ s with adding := s.adding.erase t }.discard t)
  else none
 | .post t =>
  if t ∈ s.admitted then some ({ s with admitted := s.admitted.erase t }.post (.insert t)) else none
 | .postFails t =>
  if t ∈ s.admitted then
   some ({ s with
    admitted := s.admitted.erase t
    activity := s.activity - 1#64
    rolledBack := s.rolledBack + 1 }.discard t)
  else none
 | .recheck =>
  if s.rolledBack = 0 then none
  else some ({ s with rolledBack := s.rolledBack - 1 }.post .checkDrain)
 | .cancel t => if (s.tasks t).cancellations = 0 then none else some (s.cancel t)
 | .start config context => some (unlessThrown s (s.start hardware config context))
 | .advance call =>
  if call ∈ s.starting then
   match call with
   | .store count context => some { s with
     target := count
     starting := s.starting.erase call ++ [.post context] }
   | .post context => some ({ s with starting := s.starting.erase call }.post (.start context))
  else none
 | .stop own => some (unlessThrown s (s.stop own))
 | .postStop =>
  if s.stops = 0 then none
  else some ({ s with stops := s.stops - 1,waiting := s.waiting + 1 }.post .stop)
 | .stopReturns =>
  if s.waiting = 0 ∨ s.drained = 0 then none else some { s with waiting := s.waiting - 1 }
 | .strand handler moment =>
  if handler ∈ s.posted then
   some ({ s with posted := s.posted.erase handler }.handle byPriority moment handler)
  else none
 | .managerTimer error config =>
  if s.managerWaits = 0 then none
  else if error ∨ s.managerActive = false ∨ s.stopping then
   some { s with managerWaits := s.managerWaits - 1 }
  else some ({ s with managerWaits := s.managerWaits - 1 }.managerTimer hardware config)
 | .deadlineTimer wait error now =>
  if wait ∈ s.deadlineWaits then
   if error ∨ wait.1 ≠ s.deadlineGeneration then
    some { s with deadlineWaits := s.deadlineWaits.erase wait }
   else some ({ s with deadlineWaits := s.deadlineWaits.erase wait }.expireDeadlines byPriority now)
  else none
 | .lifecycleTimer error =>
  if s.lifecycleWaits = 0 then none
  else if error then some { s with lifecycleWaits := s.lifecycleWaits - 1 }
  else some ({ s with lifecycleWaits := s.lifecycleWaits - 1 }.post .stopManager)
 | .lifecycleCancel =>
  if s.lifecycleCancellations = 0 then none
  else some ({ s with lifecycleCancellations := s.lifecycleCancellations - 1 }.post .stopManager)
 | .invoke t =>
  if t ∈ s.spawned then
   some ({ s with spawned := s.spawned.erase t,running := s.running ++ [t] }.discard t)
  else none
 | .finish t =>
  if t ∈ s.running then some ({ s with running := s.running.erase t }.post .complete) else none

end ServiceLib.QueuedPool
