import ServiceLib.KafkaLanes

set_option autoImplicit false
attribute [-instance] instBooleanRingBool

/-!
# What a step of the Kafka consumer does

`Shape` relates the program counter of `start` to the lanes: which workers may be live, which
lanes are stopped, and that a worker that could go on is not left waiting.
-/
namespace ServiceLib.KafkaLanes
open Function

set_option autoImplicit true in
inductive Goes (s:State) : Label → Main → Prop
 | initialized (h:s.main = .idle) : Goes s (.start true) .initialized
 | polls (h:s.main = .looping) (hrun:s.running = true) : Goes s .advance .polling
 | leaves (h:s.main = .looping) (hrun:s.running = false) : Goes s .advance (.stopping s.lanes)
 | skipped (h:s.main = .polling)
  (hnone:∀ m,result = some m → m.err ≠ .noError) : Goes s (.poll result) .looping
 | failed (h:s.main = .polling) (herr:m.err ≠ .noError) :
  Goes s (.poll (some m)) (.catching what)
 | message (h:s.main = .polling) (herr:m.err = .noError) :
  Goes s (.poll (some m)) (.enqueuing (m.queued s.tracingEnabled))
 | found (h:s.main = .enqueuing m)
  (hp:m.partition ∈ s.lanes) : Goes s (.emplace exception) (.pushing m)
 | allStopped (h:s.main = .stopping []) : Goes s .advance (.joining s.lanes)
 | joined (h:s.main = .joining (p :: ps))
  (hworker:(s.lane p).worker = .absent ∨ (s.lane p).worker = .ended) :
  Goes s .advance (.joining ps)
 | allJoined (h:s.main = .joining []) : Goes s .advance .clearing

inductive WorkerGoes (s:State) (p:UInt32) : Label → Worker → Prop
 | waits (h:(s.lane p).worker = .ready) (hmessages:(s.lane p).messages = [])
  (hstopped:(s.lane p).stopped = false) : WorkerGoes s p (.work p) .waiting
 | returns (h:(s.lane p).worker = .ready) (hstopped:(s.lane p).stopped = true) :
  WorkerGoes s p (.work p) .ended
 | begins {m:QueuedMessage} (h:(s.lane p).worker = .taken m) :
  WorkerGoes s p (.work p) (.handling m)
 | continues (h:(s.lane p).worker = .handled) (hrun:s.running = true) :
  WorkerGoes s p (.work p) .ready
 | leaves (h:(s.lane p).worker = .handled) (hrun:s.running = false) :
  WorkerGoes s p (.work p) .ended
 | finishes {m:QueuedMessage} (h:(s.lane p).worker = .handling m) :
  WorkerGoes s p (.finish p none) .handled
 | throws {m:QueuedMessage} {what:String} (h:(s.lane p).worker = .handling m) :
  WorkerGoes s p (.finish p (some what)) (.caught what)
 | wakes (h:(s.lane p).worker = .waiting) : WorkerGoes s p (.wake p) .ready

inductive Created (m:QueuedMessage) : Option String → Worker → Main → Prop
 | ready : Created m none .ready (.pushing m)
 | threw (what:String) : Created m (some what) .absent (.catching what)

set_option autoImplicit true in
inductive Move (s:State) : Label → State → Prop
 | same (hl:l = .start false ∨ l = .again) : Move s l s
 | goes (h:Goes s l main) : Move s l (s.goto main)
 | claims (h:s.main = .initialized) : Move s .advance { s with started := true,main := .claimed }
 | stores (h:s.main = .claimed) : Move s .advance { s with running := true,main := .looping }
 | creates (h:s.main = .enqueuing m) (hnew:m.partition ∉ s.lanes)
  (hcreated:Created m exception worker main) :
  Move s (.emplace exception) (({ s with
   lanes := s.lanes.orderedInsert (· ≤ ·) m.partition }.setLane m.partition
    { worker := worker }).goto main)
 | pushes (h:s.main = .pushing m) :
  Move s .advance ((s.setLane m.partition { s.lane m.partition with
   messages := (s.lane m.partition).messages ++ [m] }).goto (.notifying m.partition))
 | notifies (h:s.main = .notifying p) : Move s .advance ((s.notify p).goto .looping)
 | remembers (h:s.main = .catching what) :
  Move s .advance ((s.rememberError what).goto (.stopping s.lanes))
 | stops (h:s.main = .stopping (p :: ps)) :
  Move s .advance ((s.setLane p { s.lane p with stopped := true,messages := [] }).goto
   (.notifyingAll p ps))
 | notifiesAll (h:s.main = .notifyingAll p ps) :
  Move s .advance ((s.notify p).goto (.stopping ps))
 | clears (h:s.main = .clearing)
  (hmain:main = .returned ∨ ∃ what,main = .threw what) :
  Move s .advance { s with lanes := [],error := none,main := main }
 | stop : Move s .stop { s with running := false }
 | works (h:WorkerGoes s p l worker) :
  Move s l (s.setWorker p worker)
 | takes (h:(s.lane p).worker = .ready) (hmessages:(s.lane p).messages = m :: messages)
  (hstopped:(s.lane p).stopped = false) :
  Move s (.work p) (s.setLane p { s.lane p with messages := messages,worker := .taken m })
 | workerRemembers (h:(s.lane p).worker = .caught what) :
  Move s (.work p) ((s.rememberError what).setWorker p .remembered)
 | workerClears (h:(s.lane p).worker = .remembered) :
  Move s (.work p) ({ s with running := false }.setWorker p .ended)

def Main.past : Main → Bool
 | .idle | .initialized | .claimed => false
 | _ => true

def Main.ended : Main → Bool
 | .returned | .threw _ => true
 | _ => false

def Main.notifies : Main → Option UInt32
 | .notifying p | .notifyingAll p _ => some p
 | _ => none

def Main.unstopped : Main → Option (List UInt32)
 | .stopping ps | .notifyingAll _ ps => some ps
 | .joining _ | .clearing => some []
 | _ => none

def Main.unjoined : Main → Option (List UInt32)
 | .joining ps => some ps
 | .clearing | .returned | .threw _ => some []
 | _ => none

def Main.refers : Main → List UInt32
 | .pushing m => [m.partition]
 | .notifying p => [p]
 | .notifyingAll p ps => p :: ps
 | .stopping ps | .joining ps => ps
 | _ => []

def Worker.live : Worker → Bool
 | .absent | .ended => false
 | _ => true

structure Shape (s:State) : Prop where
 live : ∀ p,(s.lane p).worker.live = true → p ∈ s.lanes
 blank : s.main.ended = false → ∀ p,p ∉ s.lanes → s.lane p = {}
 early : s.main.past = false → s.lanes = []
 nodup : s.lanes.Nodup
 known : ∀ p ∈ s.main.refers,p ∈ s.lanes
 stopped : ∀ ps,s.main.unstopped = some ps → ∀ p ∈ s.lanes,p ∉ ps → (s.lane p).stopped = true
 joined : ∀ ps,s.main.unjoined = some ps → ∀ p,(s.lane p).worker.live = true → p ∈ ps
 awake : ∀ p,(s.lane p).worker = .waiting → (s.lane p).messages ≠ [] ∨ (s.lane p).stopped = true →
  s.main.notifies = some p

inductive Event
 | polled (m:QueuedMessage)
 | begun (p:UInt32) (m:ConsumerMessage)
 | finished (p:UInt32) (m:ConsumerMessage)
deriving DecidableEq

def events (s:State) (l:Label) (_:State) : List Event :=
 match l with
 | .poll (some m) => if m.err = .noError then [.polled (m.queued s.tracingEnabled)] else []
 | .work p =>
  match (s.lane p).worker with
  | .taken m => [.begun p (dispatch m)]
  | _ => []
 | .finish p _ =>
  match (s.lane p).worker with
  | .handling m => [.finished p (dispatch m)]
  | _ => []
 | _ => []

def polledOf (p:UInt32) (es:List Event) : List QueuedMessage :=
 es.filterMap fun
  | .polled m => if m.partition = p then some m else none
  | _ => none

def begunOf (p:UInt32) (es:List Event) : List ConsumerMessage :=
 es.filterMap fun
  | .begun q m => if q = p then some m else none
  | _ => none

def callsOf (p:UInt32) (es:List Event) : List Event :=
 es.filter fun
  | .begun q _ | .finished q _ => q = p
  | .polled _ => false

attribute [grind =] State.joinable
attribute [grind cases] Goes WorkerGoes Created Move

variable {s s':State} {p:UInt32} {l:Label}

lemma move_advance (hstep:s.advance=some s') : Move s .advance s' := by
 unfold State.advance at hstep
 cases hmain : s.main with
 | idle | polling | enqueuing m | returned | threw what => simp only[hmain,reduceCtorEq] at hstep
 | stopping ps => cases ps <;> simp only[hmain] at hstep <;> grind[Move,Goes]
 | joining ps => cases ps <;> simp only[hmain] at hstep <;> grind[Move,Goes]
 | _ =>
  simp only[hmain] at hstep
  grind[Move,Goes]

lemma move_work (hstep:s.work p=some s') : Move s (.work p) s' := by
 unfold State.work at hstep
 split at hstep <;> grind[Move,WorkerGoes,State.check]

lemma move_of_step (hstep:step s l=some s') : Move s l s' := by
 cases l with
 | advance => exact move_advance hstep
 | work p => exact move_work hstep
 | start initialized | again | stop => grind[step,Move,Goes]
 | poll result => cases result <;> grind[step,State.polled,Move,Goes]
 | emplace exception => cases exception <;> grind[step,State.emplace,Move,Goes,Created]
 | finish p exception => cases exception <;> grind[step,Move,WorkerGoes]
 | wake p => grind[step,Move,WorkerGoes]

attribute [grind =] Main.past Main.ended Main.notifies Main.unstopped Main.unjoined Main.refers Worker.live

lemma notify_lane (s:State) (p q:UInt32) : (s.notify p).lane q=s.lane q ∨
  q=p∧(s.lane p).worker=.waiting∧(s.notify p).lane q={ s.lane p with worker := .ready } := by
 unfold State.notify
 split
 · simp only[State.setWorker,State.setLane]
   grind[update_apply]
 · exact .inl rfl

@[simp] lemma notify_lanes (s:State) (p:UInt32) : (s.notify p).lanes=s.lanes := by
 unfold State.notify
 split <;> rfl

@[simp] lemma notify_running (s:State) (p:UInt32) : (s.notify p).running=s.running := by
 unfold State.notify
 split <;> rfl

lemma WorkerGoes.live {worker:Worker} (h:WorkerGoes s p l worker) :
  (s.lane p).worker.live=true := by
 grind

lemma shape_creates {m:QueuedMessage} {exception:Option String} {worker:Worker} {main:Main}
  (hs:Shape s) (h:s.main=.enqueuing m) (hnew:m.partition∉s.lanes)
  (hcreated:Created m exception worker main) :
  Shape (({ s with lanes := s.lanes.orderedInsert (·≤·) m.partition }.setLane m.partition
   { worker := worker }).goto main) := by
 have hmem:∀ q,q∈s.lanes.orderedInsert (·≤·) m.partition↔q=m.partition∨q∈s.lanes:=
  fun q=>List.mem_orderedInsert _
 have hnodup:=(List.perm_orderedInsert (·≤·) m.partition s.lanes).nodup_iff.mpr
  (List.nodup_cons.mpr ⟨hnew,hs.nodup⟩)
 have ⟨hlive,hblank,_,_,_,_,_,hawake⟩:=hs
 generalize s.lanes.orderedInsert (·≤·) m.partition=lanes at *
 simp only[State.setLane,State.goto]
 cases hcreated <;> constructor <;> grind[update_apply]

lemma shape_notify {main:Main} (hs:Shape s)
  (hmain:s.main=.notifying p∧main=.looping∨∃ ps,s.main=.notifyingAll p ps∧main=.stopping ps) :
  Shape ((s.notify p).goto main) := by
 have ⟨hlive,hblank,_,_,hknown,hstopped,_,hawake⟩:=hs
 unfold State.notify
 split
 all_goals
  simp only[State.setWorker,State.setLane,State.goto]
  constructor <;> grind[update_apply]

lemma shape_move (hs:Shape s) (h:Move s l s') : Shape s' := by
 cases h with
 | creates h hnew hcreated => exact shape_creates hs h hnew hcreated
 | notifies h => exact shape_notify hs (.inl ⟨h,rfl⟩)
 | notifiesAll h => exact shape_notify hs (.inr ⟨_,h,rfl⟩)
 | _ =>
  try simp only[State.setWorker,State.setLane,State.goto,State.rememberError]
  constructor
  · have:=hs.live
    have:=hs.known
    have:=hs.joined
    grind[update_apply]
  · have:=hs.blank
    have:=hs.live
    have:=hs.known
    grind[update_apply]
  · have:=hs.early
    grind
  · have:=hs.nodup
    grind
  · have:=hs.known
    grind
  · have:=hs.stopped
    grind[update_apply]
  · have:=hs.joined
    have:=hs.live
    grind[update_apply]
  · have:=hs.awake
    have:=hs.joined
    grind[update_apply]

lemma shape_initial (tracingEnabled:Bool) : Shape (.initial tracingEnabled) := by
 constructor <;> simp[State.initial,Worker.live,Main.past,Main.refers,Main.unstopped,Main.unjoined]

end ServiceLib.KafkaLanes
