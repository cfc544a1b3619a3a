import ServiceLib.SharedMutex
import ServiceLib.Transition
import ServiceLib.Tokens

set_option autoImplicit false
attribute [-instance] instBooleanRingBool

/-!
# The cooperative shared mutex

Any number of fibers call `lock`, `lock_shared` and the matching unlock. A step is one
critical section of the mutex or of an event, or one wake-up. The event that an `Acquire`
waits for is named by its fiber: it is sent before that call returns, and `Send` is done
with it once it has woken the fiber.
-/
namespace ServiceLib.CooperativeSharedMutex
open SharedMutex Transition Tokens List

/-- Where a fiber stands; `sent` is the state of the event that its `Acquire` waits for. -/
inductive Fiber
 | idle
 | acquiring (writer:Bool)
 | waiting (writer sent:Bool)
 | registering (writer sent:Bool)
 | blocked (writer sent:Bool)
 | inside (writer:Bool)
 | releasing (writer:Bool)
 | sending (ready:List ℕ)
 | waking (fiber:ℕ) (ready:List ℕ)
 deriving DecidableEq

structure State where
 mutex : Mutex ℕ := {}
 fibers : List Fiber

def initial (n:ℕ) : State :=
 { fibers := List.replicate n .idle }

inductive Label
 | lock (fiber:ℕ) (writer:Bool)
 | unlock (fiber:ℕ)
 | run (fiber:ℕ)

/-- The loop of `Release`: `first` leaves the queue, and so does the next waiter as long as
it is a reader. -/
def admitReaders (readers:ℕ) (ready:List (Waiter ℕ)) (first:Waiter ℕ) :
  List (Waiter ℕ) → ℕ × List (Waiter ℕ) × List (Waiter ℕ)
 | [] => (readers + 1,ready ++ [first],[])
 | next :: rest =>
  if next.writer then (readers + 1,ready ++ [first],next :: rest)
  else admitReaders (readers + 1) (ready ++ [first]) next rest

/-- The critical section of `Release`, and the waiters whose events it sends afterwards. -/
def release (m:Mutex ℕ) (writer:Bool) : Mutex ℕ × List (Waiter ℕ) :=
 let m:=if writer then { m with writer := false } else { m with readers := m.readers - 1 }
 if m.writer = true ∨ m.readers ≠ 0 then (m,[])
 else
  match m.waiters with
  | [] => (m,[])
  | first :: rest =>
   if first.writer then ({ m with writer := true,waiters := rest },[first])
   else
    let (readers,ready,waiters):=admitReaders m.readers [] first rest
    ({ m with readers := readers,waiters := waiters },ready)

namespace State

def goto (s:State) (f:ℕ) (fiber:Fiber) : State :=
 { s with fibers := s.fibers.set f fiber }

def acquire (s:State) (f:ℕ) (writer:Bool) : State :=
 if s.mutex.admits writer then { s with mutex := s.mutex.take writer }.goto f (.inside writer)
 else { s with mutex := s.mutex.enqueue f writer }.goto f (.waiting writer false)

/-- `Send` for the event of `g`: a fiber that has registered is taken to be woken, one that
has not will find the event ready. -/
def send (s:State) (f g:ℕ) (rest:List ℕ) : Option State :=
 match s.fibers[g]? with
 | some (.waiting writer _) => some ((s.goto g (.waiting writer true)).goto f (.sending rest))
 | some (.registering writer _) => some ((s.goto g (.registering writer true)).goto f (.sending rest))
 | some (.blocked writer _) => some ((s.goto g (.blocked writer true)).goto f (.waking g rest))
 | _ => none

def run (s:State) (f:ℕ) : Option State :=
 match s.fibers[f]? with
 | some (.acquiring writer) => some (s.acquire f writer)
 | some (.waiting writer sent) =>
  some (s.goto f (if sent then .inside writer else .registering writer sent))
 | some (.registering writer sent) =>
  some (s.goto f (if sent then .inside writer else .blocked writer sent))
 | some (.releasing writer) =>
  some ({ s with mutex := (release s.mutex writer).1 }.goto f
   (.sending ((release s.mutex writer).2.map Waiter.id)))
 | some (.sending []) => some (s.goto f .idle)
 | some (.sending (g :: rest)) => s.send f g rest
 | some (.waking g rest) =>
  match s.fibers[g]? with
  | some (.blocked writer _) => some ((s.goto g (.inside writer)).goto f (.sending rest))
  | _ => none
 | _ => none

end State

def step (s:State) : Label → Option State
 | .lock f writer => if s.fibers[f]? = some .idle then some (s.goto f (.acquiring writer)) else none
 | .unlock f =>
  match s.fibers[f]? with
  | some (.inside writer) => some (s.goto f (.releasing writer))
  | _ => none
 | .run f => s.run f

lemma admitReaders_eq (readers:ℕ) (ready:List (Waiter ℕ)) (first:Waiter ℕ) (rest:List (Waiter ℕ)) :
  admitReaders readers ready first rest =
   (readers+(first::rest.takeWhile fun w=>!w.writer).length,
    ready++first::rest.takeWhile fun w=>!w.writer,rest.dropWhile fun w=>!w.writer) := by
 induction rest generalizing readers ready first with
 | nil => rfl
 | cons next rest ih =>
  cases hnext:next.writer with
  | true => simp[admitReaders,hnext]
  | false =>
   rw[admitReaders,if_neg (by rw[hnext]; exact Bool.false_ne_true),ih]
   simp only[takeWhile_cons,dropWhile_cons,hnext,Bool.not_false,if_true,length_cons,
    append_assoc,singleton_append,Prod.mk.injEq,and_true]
   omega

lemma release_eq (m:Mutex ℕ) (writer:Bool) : release m writer=m.release writer := by
 have hleave:(if writer then { m with writer:=false } else { m with readers := m.readers - 1 }) =
  m.leave writer := rfl
 simp only[release,Mutex.release,Mutex.handOver,hleave]
 cases hwaiters:(m.leave writer).waiters with
 | nil => rfl
 | cons first rest =>
  simp only[admitReaders_eq,nil_append]

set_option autoImplicit true in
inductive Move (s:State) : Label → State → Prop
 | locks (h:s.fibers[f]? = some .idle) :
  Move s (.lock f writer) (s.goto f (.acquiring writer))
 | unlocks (h:s.fibers[f]? = some (.inside writer)) :
  Move s (.unlock f) (s.goto f (.releasing writer))
 | takes (h:s.fibers[f]? = some (.acquiring writer))
  (hadmits:s.mutex.admits writer = true) :
  Move s (.run f) ({ s with mutex := s.mutex.take writer }.goto f (.inside writer))
 | queues (h:s.fibers[f]? = some (.acquiring writer))
  (hadmits:s.mutex.admits writer = false) :
  Move s (.run f) ({ s with mutex := s.mutex.enqueue f writer }.goto f (.waiting writer false))
 | looks (h:s.fibers[f]? = some (.waiting writer false)) :
  Move s (.run f) (s.goto f (.registering writer false))
 | registers (h:s.fibers[f]? = some (.registering writer false)) :
  Move s (.run f) (s.goto f (.blocked writer false))
 | returns (h:s.fibers[f]? = some (.waiting writer true) ∨ s.fibers[f]? = some (.registering writer true)) :
  Move s (.run f) (s.goto f (.inside writer))
 | releases (h:s.fibers[f]? = some (.releasing writer)) :
  Move s (.run f) ({ s with mutex := (s.mutex.release writer).1 }.goto f
   (.sending ((s.mutex.release writer).2.map Waiter.id)))
 | ends (h:s.fibers[f]? = some (.sending [])) : Move s (.run f) (s.goto f .idle)
 | sends (h:s.fibers[f]? = some (.sending (g :: rest)))
  (hg:s.fibers[g]? = some old)
  (hold:∃ writer sent,old = .waiting writer sent ∧ new = .waiting writer true ∨
   old = .registering writer sent ∧ new = .registering writer true) :
  Move s (.run f) ((s.goto g new).goto f (.sending rest))
 | sendsBlocked
  (h:s.fibers[f]? = some (.sending (g :: rest))) (hg:s.fibers[g]? = some (.blocked writer sent)) :
  Move s (.run f) ((s.goto g (.blocked writer true)).goto f (.waking g rest))
 | wakes (h:s.fibers[f]? = some (.waking g rest))
  (hg:s.fibers[g]? = some (.blocked writer sent)) :
  Move s (.run f) ((s.goto g (.inside writer)).goto f (.sending rest))

lemma move_send {s s':State} {f g:ℕ} {rest:List ℕ}
  (h:s.fibers[f]?=some (.sending (g::rest))) (hsend:s.send f g rest=some s') :
  Move s (.run f) s' := by
 grind[Move,State.send]

lemma move_run {s s':State} {f:ℕ} (hrun:s.run f=some s') : Move s (.run f) s' := by
 grind[Move,State.run,State.acquire,release_eq,move_send]

lemma move_of_step {s s':State} {l:Label} (hstep:step s l=some s') : Move s l s' := by
 grind[Label,step,Move,move_run]

end ServiceLib.CooperativeSharedMutex
