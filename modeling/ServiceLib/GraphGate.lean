import Mathlib.Data.List.Basic
import Mathlib.Logic.Function.Basic
import ServiceLib.Transition

set_option autoImplicit false
attribute [-instance] instBooleanRingBool

/-!
# The graph drain gate

`StreamExecutionEnvironment` counts the input invocations and parallel tasks it has
admitted, and `drainExecutionRuntime` waits until both counters are zero or its context
ends. A step is a section under `parallelMutex_`, a read of a context, the registration of
the stop callbacks, the `Send` of a notification or the return of a wait.
-/
namespace ServiceLib.GraphGate
open Function Option

def kMaxInputInvocations : ℕ := 2 ^ 63 - 1

inductive GateError where
 | stopping
 | tooManyInputs
 | schedulerStopped
deriving DecidableEq

def GateError.what : GateError → String
 | .stopping => "stream execution runtime is stopping"
 | .tooManyInputs => "too many active stream input invocations"
 | .schedulerStopped => "parallel graph scheduler is stopped"

/-- How a context can end: by its deadline, by one of its stop tokens, or not at all. -/
structure Context where
 deadline : Bool
 stopPossible : Bool
deriving DecidableEq

inductive Input where
 | active
 | finished
deriving DecidableEq

/-- An admitted task is posted to the executor, which may throw, and then runs. -/
inductive Task where
 | posting
 | running
 | finished
deriving DecidableEq

/-- Where a call of `drainExecutionRuntime` is. From `registered` on it holds its own
reference to a notification; `ready` is the local variable of that name. -/
inductive Place where
 | entering
 | registered (event:ℕ)
 | subscribing (event:ℕ) (ready:Bool)
 | waiting (event:ℕ)
 | relocking (event:ℕ) (ready:Bool)
 | returned (drained:Bool)
deriving DecidableEq

structure Drain where
 context : ℕ
 place : Place
deriving DecidableEq

/-- Events are numbered in the order they are made; `sent` are those whose `Send` has been
called and `sends` those that a finished invocation has taken and is about to send. -/
structure State where
 activeRuntime : Bool := true
 inputInvocations : ℕ := 0
 inputClosed : Bool := false
 parallelActive : ℕ := 0
 parallelAccepting : Bool := true
 parallelDrained : Option ℕ := none
 events : ℕ := 0
 sent : ℕ → Bool := fun _=>false
 sends : List ℕ := []
 inputs : List Input := []
 tasks : List Task := []
 drains : List Drain := []
 expired : ℕ → Bool := fun _=>false
 stopRequested : ℕ → Bool := fun _=>false

namespace State

def isDrained (s:State) : Bool :=
 s.inputInvocations == 0 && s.parallelActive == 0

def cancelled (s:State) (context:ℕ) : Bool :=
 s.stopRequested context || s.expired context

def beginInputInvocation (s:State) : Except GateError State :=
 if s.inputClosed then .error .stopping
 else if s.inputInvocations = kMaxInputInvocations then .error .tooManyInputs
 else .ok { s with inputInvocations := s.inputInvocations + 1,inputs := s.inputs ++ [.active] }

def parallel (s:State) : Except GateError State :=
 if s.parallelAccepting then
  .ok { s with parallelActive := s.parallelActive + 1,tasks := s.tasks ++ [.posting] }
 else .error .schedulerStopped

/-- The last one out takes the notification, which it sends after the mutex section. -/
def takeNotification (s:State) : State :=
 if s.isDrained then { s with parallelDrained := none,sends := s.sends ++ s.parallelDrained.toList } else s

def finishInputInvocation (s:State) (i:ℕ) : State :=
 { s with inputInvocations := s.inputInvocations - 1,inputs := s.inputs.set i .finished }.takeNotification

def finishParallelInvocation (s:State) (i:ℕ) : State :=
 { s with parallelActive := s.parallelActive - 1,tasks := s.tasks.set i .finished }.takeNotification

def notify (s:State) (event:ℕ) : State :=
 { s with sent := update s.sent event true }

def send (s:State) (event:ℕ) : State :=
 { s.notify event with sends := s.sends.erase event }

def move (s:State) (d context:ℕ) (place:Place) : State :=
 { s with drains := s.drains.set d ⟨context,place⟩ }

/-- The call of `drainExecutionRuntime` up to its mutex. -/
def drainExecutionRuntime (s:State) (context:ℕ) : State :=
 { s with drains := s.drains ++ [⟨context,if s.activeRuntime then .entering else .returned true⟩] }

/-- The head of the loop, under the mutex, and the choice of the notification. -/
def check (s:State) (d context:ℕ) : State :=
 if s.isDrained then s.move d context (.returned true)
 else
  match s.parallelDrained with
  | some event => s.move d context (.registered event)
  | none =>
   { s with parallelDrained := some s.events,events := s.events + 1 }.move d context (.registered s.events)

def giveUp (s:State) (d context event:ℕ) : State :=
 { s with parallelDrained := if s.parallelDrained = some event then none else s.parallelDrained }.move d context
   (.returned s.isDrained)

def advance (s:State) (d context:ℕ) : Place → Option State
 | .entering => some ({ s with inputClosed := true }.check d context)
 | .registered event => some (s.move d context (.subscribing event (!s.cancelled context)))
 | .subscribing event ready =>
  some ((if s.stopRequested context then s.notify event else s).move d context
   (if ready then .waiting event else .relocking event false))
 | .waiting event => if s.sent event then some (s.move d context (.relocking event true)) else none
 | .relocking event ready =>
  some (if ready = false ∨ s.cancelled context then s.giveUp d context event else s.check d context)
 | .returned _ => none

end State

inductive Label where
 | beginInput
 | finishInput (i:ℕ)
 | parallel
 | post (i:ℕ) (posted:Bool)
 | finishTask (i:ℕ)
 | send (event:ℕ)
 | drain (context:ℕ)
 | advance (d:ℕ)
 | callback (d:ℕ)
 | timeout (d:ℕ)
 | expire (context:ℕ)
 | requestStop (context:ℕ)
 | closeAdmission
 | releaseRuntime
deriving DecidableEq

/-- A stop callback runs while its call waits, some time after the stop was requested.
Closing the admission and releasing the runtime are `stopExecutionRuntime`'s. -/
def step (contexts:ℕ → Context) (s:State) : Label → Option State
 | .beginInput => s.beginInputInvocation.toOption
 | .finishInput i => if s.inputs[i]? = some .active then some (s.finishInputInvocation i) else none
 | .parallel => s.parallel.toOption
 | .post i posted =>
  if s.tasks[i]? = some .posting then
   some (if posted then { s with tasks := s.tasks.set i .running } else s.finishParallelInvocation i)
  else none
 | .finishTask i => if s.tasks[i]? = some .running then some (s.finishParallelInvocation i) else none
 | .send event => if event ∈ s.sends then some (s.send event) else none
 | .drain context => some (s.drainExecutionRuntime context)
 | .advance d => s.drains[d]?.bind fun drain=>s.advance d drain.context drain.place
 | .callback d =>
  match s.drains[d]? with
  | some ⟨context,.waiting event⟩ =>
   if s.stopRequested context ∧ s.sent event = false then some (s.notify event) else none
  | _ => none
 | .timeout d =>
  match s.drains[d]? with
  | some ⟨context,.waiting event⟩ =>
   if s.expired context ∧ s.sent event = false then some (s.move d context (.relocking event false)) else none
  | _ => none
 | .expire context =>
  if (contexts context).deadline then some { s with expired := update s.expired context true } else none
 | .requestStop context =>
  if (contexts context).stopPossible then
   some { s with stopRequested := update s.stopRequested context true }
  else none
 | .closeAdmission => some { s with parallelAccepting := false }
 | .releaseRuntime => some { s with activeRuntime := false }

def Label.internal : Label → Prop
 | .send _ | .advance _ | .callback _ | .timeout _ => True
 | _ => False

set_option autoImplicit true in
inductive Move (contexts:ℕ → Context) (s:State) : Label → State → Prop
 | beginInput (hopen:s.inputClosed = false) (hroom:s.inputInvocations ≠ kMaxInputInvocations) :
   Move contexts s .beginInput
    { s with inputInvocations := s.inputInvocations + 1,inputs := s.inputs ++ [.active] }
 | finishInput (h:s.inputs[i]? = some .active) :
   Move contexts s (.finishInput i) (s.finishInputInvocation i)
 | parallel (h:s.parallelAccepting = true) :
   Move contexts s .parallel { s with parallelActive := s.parallelActive + 1,tasks := s.tasks ++ [.posting] }
 | posted (h:s.tasks[i]? = some .posting) :
   Move contexts s (.post i true) { s with tasks := s.tasks.set i .running }
 | postFailed (h:s.tasks[i]? = some .posting) :
   Move contexts s (.post i false) (s.finishParallelInvocation i)
 | finishTask (h:s.tasks[i]? = some .running) :
   Move contexts s (.finishTask i) (s.finishParallelInvocation i)
 | send (h:event ∈ s.sends) : Move contexts s (.send event) (s.send event)
 | drain : Move contexts s (.drain context) (s.drainExecutionRuntime context)
 | enter (h:s.drains[d]? = some ⟨context,.entering⟩) :
   Move contexts s (.advance d) ({ s with inputClosed := true }.check d context)
 | read (h:s.drains[d]? = some ⟨context,.registered event⟩) :
   Move contexts s (.advance d) (s.move d context (.subscribing event (!s.cancelled context)))
 | subscribe (h:s.drains[d]? = some ⟨context,.subscribing event ready⟩) :
   Move contexts s (.advance d) ((if s.stopRequested context then s.notify event else s).move d context
    (if ready then .waiting event else .relocking event false))
 | wake (h:s.drains[d]? = some ⟨context,.waiting event⟩) (hsent:s.sent event = true) :
   Move contexts s (.advance d) (s.move d context (.relocking event true))
 | giveUp (h:s.drains[d]? = some ⟨context,.relocking event ready⟩)
   (hends:ready = false ∨ s.cancelled context = true) :
   Move contexts s (.advance d) (s.giveUp d context event)
 | again (h:s.drains[d]? = some ⟨context,.relocking event true⟩)
   (hgoes:s.cancelled context = false) : Move contexts s (.advance d) (s.check d context)
 | callback (h:s.drains[d]? = some ⟨context,.waiting event⟩)
   (hstop:s.stopRequested context = true) (hsent:s.sent event = false) :
   Move contexts s (.callback d) (s.notify event)
 | timeout (h:s.drains[d]? = some ⟨context,.waiting event⟩)
   (hexpired:s.expired context = true) (hsent:s.sent event = false) :
   Move contexts s (.timeout d) (s.move d context (.relocking event false))
 | expire (h:(contexts context).deadline = true) :
   Move contexts s (.expire context) { s with expired := update s.expired context true }
 | requestStop (h:(contexts context).stopPossible = true) :
   Move contexts s (.requestStop context) { s with stopRequested := update s.stopRequested context true }
 | closeAdmission : Move contexts s .closeAdmission { s with parallelAccepting := false }
 | releaseRuntime : Move contexts s .releaseRuntime { s with activeRuntime := false }

section Inversion
variable {contexts:ℕ → Context} {s s':State}

lemma move_of_advance {d:ℕ} {drain:Drain} (hdrain:s.drains[d]?=some drain)
  (h:s.advance d drain.context drain.place=some s') : Move contexts s (.advance d) s' := by
 obtain ⟨context,place⟩:=drain
 cases place with
 | entering =>
  obtain rfl:=some.inj h
  exact .enter hdrain
 | registered event =>
  obtain rfl:=some.inj h
  exact .read hdrain
 | subscribing event ready =>
  obtain rfl:=some.inj h
  exact .subscribe hdrain
 | waiting event =>
  obtain ⟨hsent,h⟩:=ite_none_right_eq_some.mp h
  obtain rfl:=some.inj h
  exact .wake hdrain hsent
 | relocking event ready =>
  obtain rfl:=some.inj h
  dsimp only
  split
  · next hends => exact .giveUp hdrain hends
  · next hgoes =>
    obtain ⟨hready,hcancelled⟩:=not_or.mp hgoes
    obtain rfl:ready=true:=by simpa using hready
    exact .again hdrain (by simpa using hcancelled)
 | returned drained => cases h

lemma move_of_step {l:Label} (h:step contexts s l=some s') : Move contexts s l s' := by
 cases l with
 | advance d =>
  obtain ⟨drain,hdrain,h⟩:=bind_eq_some_iff.mp h
  exact move_of_advance hdrain h
 | post i posted => cases posted <;> grind[step,Move]
 | _ => grind[step,Move,State.beginInputInvocation,State.parallel,Except.toOption]

end Inversion

end ServiceLib.GraphGate
