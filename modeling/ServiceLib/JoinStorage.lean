import ServiceLib.Generations
import ServiceLib.Transition

set_option autoImplicit false

/-!
# The hash-map join storage

Every critical section of `HashMapJoinStorage` is one step. A call of `joinValue`,
`Expire` or `stop` is a value of `Call`, which says where the call is; the user's
callbacks run between two steps of their call and may return or throw, having changed
the value lists they were given.
-/
namespace ServiceLib.JoinStorage
open Generations Function

inductive StoreError
 | alreadyStarted
 | stopped
 | notStarted
 | callbackRequired
deriving DecidableEq

def StoreError.what : StoreError → String
 | .alreadyStarted => "store already started"
 | .stopped => "store stopped"
 | .notStarted => "store not started"
 | .callbackRequired => "join callback is required"

structure JoinStorageConfig where
 ttl : ℤ := 0
 renewTtl : Bool := false

/-- A token counts here only by whether a stop can be requested of it. -/
structure Context where
 deadline : Option ℤ := none
 stopToken : Bool := false
 externalStopTokens : List Bool := []

def Context.stopCallbacks (context:Context) : ℕ :=
 (context.stopToken :: context.externalStopTokens).count true

variable {K V F:Type}

structure Join (K V F:Type) where
 context : Context
 key : K
 index : ℕ
 value : V
 callback : F
 effectiveDeadline : Option ℤ

/-- What a timer or a stop callback captures. -/
structure Expiry (K:Type) where
 key : K
 item : ℕ
 generation : ℕ

/-- `key` is the key the item was made for, and `locked` the call that has its mutex. -/
structure Item (K V F:Type) where
 key : Option K := none
 values : List (List V) := []
 callback : Option F := none
 timer : Option (ℤ × Expiry K) := none
 deadline : Option ℤ := none
 generation : ℕ := 0
 processed : Bool := false
 locked : Option ℕ := none

inductive Call (K V F:Type)
 | idle
 | find (j:Join K V F)
 | lock (j:Join K V F) (item:ℕ) (created:Bool)
 | moveToCurrent (j:Join K V F) (item:ℕ)
 | callback (j:Join K V F) (item:ℕ)
 | removeJoined (j:Join K V F) (item:ℕ)
 | expiry (j:Join K V F) (item:ℕ)
 | removeExpired (j:Join K V F) (item:ℕ)
 | returned (j:Join K V F)
 | failed (error:StoreError)
 | callbackThrew
 | expire (e:Expiry K)
 | expireCallback (e:Expiry K)
 | removeEvicted (e:Expiry K)
 | expireDone
 | marking (items:List ℕ)

inductive Rotation
 | idle
 | armed (due:ℤ)
 | fired
 | rotated

structure State (K V F:Type) where
 config : JoinStorageConfig
 metricsEnabled : Bool
 running : Bool := false
 stopped : Bool := false
 stored : Store K ℕ := {}
 highWaterMark : ℕ := 0
 evictions : ℕ := 0
 count : ℤ := 0
 evictionsTotal : ℕ := 0
 rotation : Rotation := .idle
 items : ℕ → Item K V F := fun _=>{}
 next : ℕ := 0
 posted : List (Expiry K) := []
 cancellations : List (Expiry K) := []
 clock : ℤ := 0
 calls : ℕ → Call K V F := fun _=>.idle

namespace State

def initial (config:JoinStorageConfig) (metricsEnabled:Bool) : State K V F :=
 { config := config,metricsEnabled := metricsEnabled }

def setItem (s:State K V F) (i:ℕ) (item:Item K V F) : State K V F :=
 { s with items := update s.items i item }

def setCall (s:State K V F) (c:ℕ) (call:Call K V F) : State K V F :=
 { s with calls := update s.calls c call }

@[simp] lemma setCall_self (s:State K V F) (c:ℕ) (call:Call K V F) :
  (s.setCall c call).calls c=call :=
 update_self ..

def armRotation (s:State K V F) : State K V F :=
 { s with rotation := .armed (s.clock + s.config.ttl) }

def start (s:State K V F) : Except StoreError (State K V F) :=
 if s.running then .error .alreadyStarted
 else if s.stopped then .error .stopped
 else
  let started:={ s with running := true }
  .ok (if 0 < s.config.ttl then started.armRotation else started)

def effectiveDeadline (s:State K V F) (context:Context) : Option ℤ :=
 match context.deadline with
 | some deadline => some deadline
 | none => if 0 < s.config.ttl then some (s.clock + s.config.ttl) else none

end State

def resize (values:List (List V)) (n:ℕ) : List (List V) :=
 values ++ List.replicate (n - values.length) []

def append (values:List (List V)) (index:ℕ) (value:V) : List (List V) :=
 (if values.length ≤ index then resize values (index + 1) else values).modify index (· ++ [value])

/-- A callback takes the lists by reference. -/
inductive Outcome (V:Type)
 | returned (result:Bool) (values:List (List V))
 | threw (values:List (List V))

def Outcome.values : Outcome V → List (List V)
 | .returned _ values | .threw values => values

def Item.expired (item:Item K V F) (now:ℤ) : Bool :=
 match item.deadline with
 | some deadline => deadline ≤ now
 | none => false

/-- The part of `ArmExpiry` that is about the item: a new generation, and a wait of its
timer in place of the wait before. -/
def Item.arm (item:Item K V F) (key:K) (i:ℕ) (deadline:ℤ) : Item K V F :=
 { item with
   deadline := some deadline
   generation := item.generation + 1
   timer := some (deadline,⟨key,i,item.generation + 1⟩) }

def Rotation.cancel : Rotation → Rotation
 | .armed _ => .idle
 | rotation => rotation

namespace State

/-- The part of `ArmExpiry` that registers the stop callbacks of the context. -/
def addCancellations (s:State K V F) (j:Join K V F) (i:ℕ) : State K V F :=
 { s with cancellations :=
    s.cancellations ++
     List.replicate j.context.stopCallbacks ⟨j.key,i,(s.items i).generation + 1⟩ }

/-- The value is accepted, and the callback runs with the item locked. -/
def evaluate (s:State K V F) (c:ℕ) (j:Join K V F) (i:ℕ) (item:Item K V F) : State K V F :=
 (s.setItem i { item with
  values := append item.values j.index j.value
  locked := some c }).setCall c (.callback j i)

def lock (s:State K V F) (c:ℕ) (j:Join K V F) (i:ℕ) (created:Bool) : Option (State K V F) :=
 let item:=s.items i
 if item.locked.isSome then none
 else if item.processed then some (s.setCall c (.find j))
 else if item.expired s.clock then
  some ((s.setItem i { item with processed := true }).setCall c (.expiry j i))
 else
  match j.effectiveDeadline with
  | none => some (s.evaluate c j i item)
  | some deadline =>
   if created then some ((s.addCancellations j i).evaluate c j i (item.arm j.key i deadline))
   else if s.config.renewTtl then
    some (((s.addCancellations j i).setItem i
     { item.arm j.key i deadline with locked := some c }).setCall c (.moveToCurrent j i))
   else some (s.evaluate c j i item)

variable [DecidableEq K]

def findOrCreate (s:State K V F) (c:ℕ) (j:Join K V F) : State K V F :=
 if !s.running then
  s.setCall c (.failed (if s.stopped then .stopped else .notStarted))
 else
  match s.stored.current.lookup j.key with
  | some item => s.setCall c (.lock j item false)
  | none =>
   match s.stored.previous.lookup j.key with
   | some item => s.setCall c (.lock j item false)
   | none =>
    ({ s with
     next := s.next + 1
     stored := s.stored.emplace j.key s.next
     count := if s.metricsEnabled then s.count + 1 else s.count }.setItem s.next
     { key := some j.key
       values := resize [] (j.index + 1)
       callback := some j.callback }).setCall c (.lock j s.next true)

def removeIfSame (s:State K V F) (key:K) (item:ℕ) (eviction:Bool) : State K V F :=
 let removed:=s.stored.current.lookup key = some item ∨ s.stored.previous.lookup key = some item
 { s with
   stored := s.stored.removeSame key item
   count := if removed ∧ s.metricsEnabled then s.count - 1 else s.count
   evictions := if removed ∧ eviction then s.evictions + 1 else s.evictions
   evictionsTotal :=
    if removed ∧ eviction ∧ s.metricsEnabled then s.evictionsTotal + 1 else s.evictionsTotal }

def rotate (s:State K V F) : State K V F :=
 let total:=s.stored.total
 if s.highWaterMark = 0 ∨ total < (s.highWaterMark + 3) / 4 then
  { s with
    highWaterMark := total
    stored := ⟨∅,absorb s.stored.current s.stored.previous.entries⟩ }
 else { s with highWaterMark := max s.highWaterMark total }

def storedItems (s:State K V F) : List ℕ :=
 (s.stored.current.entries ++ s.stored.previous.entries).map fun e=>e.2

/-- The first critical section of `stop`; the items are then marked one by one. -/
def stop (s:State K V F) (c:ℕ) : State K V F :=
 if s.stopped then s.setCall c (.marking [])
 else
  let count:=s.stored.total
  { s with
    running := false
    stopped := true
    rotation := s.rotation.cancel
    stored := {}
    count := if s.metricsEnabled ∧ count ≠ 0 then s.count - count else s.count }.setCall c
    (.marking s.storedItems)

end State

inductive Label (K V F:Type)
 | start
 | stop (c:ℕ)
 | mark (c i:ℕ)
 | advance (d:ℕ)
 | joinValue (c:ℕ) (context:Context) (key:K) (index:ℕ) (value:V) (callback:Option F)
 | find (c:ℕ)
 | lock (c:ℕ)
 | moveToCurrent (c:ℕ)
 | callback (c:ℕ) (outcome:Outcome V)
 | expiry (c:ℕ) (outcome:Outcome V)
 | remove (c:ℕ)
 | timer (i:ℕ)
 | cancellation (n:ℕ)
 | expire (c n:ℕ)
 | expireLock (c:ℕ)
 | rotationTimer
 | rotate
 | rearm

namespace State

def joinValue (s:State K V F) (c:ℕ) (context:Context) (key:K) (index:ℕ) (value:V) :
  Option F → State K V F
 | none => s.setCall c (.failed .callbackRequired)
 | some callback =>
  s.setCall c (.find ⟨context,key,index,value,callback,s.effectiveDeadline context⟩)

def callbackDone (s:State K V F) (c:ℕ) (j:Join K V F) (i:ℕ) : Outcome V → State K V F
 | .returned true values =>
  let item:=s.items i
  (s.setItem i { item with
   values := values
   processed := true
   generation := item.generation + 1
   timer := none
   locked := none }).setCall c (.removeJoined j i)
 | .returned false values =>
  (s.setItem i { s.items i with values := values,locked := none }).setCall c (.returned j)
 | .threw values =>
  (s.setItem i { s.items i with values := values,locked := none }).setCall c .callbackThrew

/-- The expiry callback that `joinValue` runs is done: what it throws leaves `joinValue`. -/
def expiryDone (s:State K V F) (c:ℕ) (j:Join K V F) (i:ℕ) : Outcome V → State K V F
 | .returned _ values =>
  (s.setItem i { s.items i with values := values }).setCall c (.removeExpired j i)
 | .threw values => (s.setItem i { s.items i with values := values }).setCall c .callbackThrew

/-- The expiry callback that `Expire` runs is done: what it throws is caught. -/
def expireDone (s:State K V F) (c:ℕ) (e:Expiry K) (outcome:Outcome V) : State K V F :=
 (s.setItem e.item { s.items e.item with values := outcome.values }).setCall c (.removeEvicted e)

def expireLock (s:State K V F) (c:ℕ) (e:Expiry K) : Option (State K V F) :=
 let item:=s.items e.item
 if item.locked.isSome then none
 else if item.processed ∨ item.generation ≠ e.generation then some (s.setCall c .expireDone)
 else some ((s.setItem e.item { item with processed := true }).setCall c (.expireCallback e))

def mark (s:State K V F) (c:ℕ) (items:List ℕ) (i:ℕ) : Option (State K V F) :=
 let item:=s.items i
 if i ∈ items ∧ item.locked = none then
  some ((s.setItem i { item with
   processed := true
   generation := item.generation + 1
   timer := none }).setCall c (.marking (items.erase i)))
 else none

def timerFires (s:State K V F) (i:ℕ) : Option (State K V F) :=
 match (s.items i).timer with
 | some (due,e) =>
  if due ≤ s.clock then
   some ({ s with posted := s.posted ++ [e] }.setItem i { s.items i with timer := none })
  else none
 | none => none

end State

variable [DecidableEq K]

/-- A registered stop callback may run at any time, once; a posted handler may be run in
any order. -/
def step (s:State K V F) : Label K V F → Option (State K V F)
 | .start =>
  match s.start with
  | .ok started => some started
  | .error _ => some s
 | .stop c =>
  match s.calls c with
  | .idle => some (s.stop c)
  | _ => none
 | .mark c i =>
  match s.calls c with
  | .marking items => s.mark c items i
  | _ => none
 | .advance d => some { s with clock := s.clock + d }
 | .joinValue c context key index value callback =>
  match s.calls c with
  | .idle => some (s.joinValue c context key index value callback)
  | _ => none
 | .find c =>
  match s.calls c with
  | .find j => some (s.findOrCreate c j)
  | _ => none
 | .lock c =>
  match s.calls c with
  | .lock j i created => s.lock c j i created
  | _ => none
 | .moveToCurrent c =>
  match s.calls c with
  | .moveToCurrent j i =>
   some ({ s with stored := s.stored.promote j.key i }.evaluate c j i (s.items i))
  | _ => none
 | .callback c outcome =>
  match s.calls c with
  | .callback j i => some (s.callbackDone c j i outcome)
  | _ => none
 | .expiry c outcome =>
  match s.calls c with
  | .expiry j i => some (s.expiryDone c j i outcome)
  | .expireCallback e => some (s.expireDone c e outcome)
  | _ => none
 | .remove c =>
  match s.calls c with
  | .removeJoined j i => some ((s.removeIfSame j.key i false).setCall c (.returned j))
  | .removeExpired j i => some ((s.removeIfSame j.key i true).setCall c (.find j))
  | .removeEvicted e => some ((s.removeIfSame e.key e.item true).setCall c .expireDone)
  | _ => none
 | .timer i => s.timerFires i
 | .cancellation n =>
  match s.cancellations[n]? with
  | some e =>
   some { s with
    cancellations := s.cancellations.eraseIdx n
    posted := s.posted ++ [e] }
  | none => none
 | .expire c n =>
  match s.calls c,s.posted[n]? with
  | .idle,some e => some ({ s with posted := s.posted.eraseIdx n }.setCall c (.expire e))
  | _,_ => none
 | .expireLock c =>
  match s.calls c with
  | .expire e => s.expireLock c e
  | _ => none
 | .rotationTimer =>
  match s.rotation with
  | .armed due => if due ≤ s.clock then some { s with rotation := .fired } else none
  | _ => none
 | .rotate =>
  match s.rotation with
  | .fired => some { s.rotate with rotation := .rotated }
  | _ => none
 | .rearm =>
  match s.rotation with
  | .rotated => some (if s.running then s.armRotation else { s with rotation := .idle })
  | _ => none

end ServiceLib.JoinStorage
