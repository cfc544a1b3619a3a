import ServiceLib.SourceRequest

set_option autoImplicit false
attribute [-instance] instBooleanRingBool

/-!
# The outcomes of a step of a source request
-/
namespace ServiceLib.SourceRequest
open SharedMutex Request Option

/-- The wait of these kinds is `AsyncWait(context)`. -/
def Kind.async : Kind → Bool
 | .http | .grpcStreaming | .grpcUnary true => true
 | _ => false

lemma Kind.ne_http_of_custom {kind:Kind} (h:kind.custom=true) : kind≠ .http := by
 rintro rfl
 cases h

lemma Kind.ne_http_of_grpc {kind:Kind} (h:kind.grpc=true) : kind≠ .http := by
 rintro rfl
 cases h

def Act.failing : Act → Bool
 | .consumed true | .readThrows | .eof true => true
 | _ => false

/-- Phases of the body of the outer `try` that run handler or transport code. -/
def Phase.outside : Phase → Bool
 | .consuming | .reading | .eof => true
 | _ => false

set_option autoImplicit true in
inductive Move (e:Endpoint) (stopped:Bool) (entry:Entry) (q:Request) :
  Act → Request → Entry → Prop
 -- the fiber up to the wait
 | inserted (hphase:q.phase = .inserting) (hentry:entry = .free) :
  Move e stopped entry q .run { q with
   pendingInserted := !e.kind.grpc
   phase := if e.kind.grpc then .registering else .consuming } .own
 | duplicate (hphase:q.phase = .inserting) (hentry:entry ≠ .free) :
  Move e stopped entry q .run (q.fail e .duplicateKey) entry
 | registered (hphase:q.phase = .registering) :
  Move e stopped entry q .run { q with pendingInserted := true,phase := .consuming } entry
 | failed (hact:act.failing = true) (hphase:q.phase.outside = true) :
  Move e stopped entry q act (q.fail e .handler) entry
 | reading (hphase:q.phase = .consuming) (hkind:e.kind.grpc = true) :
  Move e stopped entry q (.consumed false) { q with phase := .reading } entry
 | readMore (hphase:q.phase = .reading) : Move e stopped entry q (.read true) { q with phase := .consuming } entry
 | readEnd (hphase:q.phase = .reading) : Move e stopped entry q (.read false) { q with phase := .eof } entry
 | bodyDone (hphase:q.phase.outside = true)
  (hact:(act = .consumed false ∧ e.kind.grpc = false) ∨ act = .eof false) :
  Move e stopped entry q act (q.bodyDone e) entry
 -- the wait
 | woke (hphase:q.phase = .waiting)
  (hwake:q.resultReady e.kind = true ∨ (e.kind.async = true ∧ q.signalled = true)) :
  Move e stopped entry q .run { q with phase := .woken } entry
 | overdue (hphase:q.phase = .waiting) (hkind:e.kind.custom = true) (hready:q.ready = false)
  (hdeadline:.deadline ∈ q.fired) : Move e stopped entry q .run { q with phase := .expired } entry
 | outrun (hphase:q.phase = .expired) (hsent:q.doneSent = true) :
  Move e stopped entry q .run { q with phase := .joining } entry
 | expired (hphase:q.phase = .expired) (hsent:q.doneSent = false) :
  Move e stopped entry q .run ({ q with doneSent := true }.waitFails timeoutError) entry
 | joined (hphase:q.phase = .joining) (hready:q.ready = true) :
  Move e stopped entry q .run (q.waitFails timeoutError) entry
 | waitFailed (hphase:q.phase = .woken)
  (hcheck:(e.kind.async = true ∧ q.cancelled = true ∧ q.resultReady e.kind = false) ∨
   (e.kind.custom = true ∧ (q.cancelled = true ∨ stopped = true))) :
  Move e stopped entry q .run (q.waitFails (cancelledError e.kind)) entry
 | waited (hphase:q.phase = .woken)
  (hasync:e.kind.async = true → q.cancelled = true → q.resultReady e.kind = true)
  (hcustom:e.kind.custom = true → q.cancelled = false ∧ stopped = false) :
  Move e stopped entry q .run { q with phase := .locking } entry
 -- retirement
 | counted (hphase:q.phase = .locking) (hkind:e.kind = .http) :
  Move e stopped entry q .run
   { q with retired := true,phase := if q.readers = 0 then .retired else .queued } entry
 | sealed (hphase:q.phase = .locking) (hkind:e.kind ≠ .http) (hadmits:q.lifetimeMutex.admits true = true) :
  Move e stopped entry q .run { q with lifetimeMutex := q.lifetimeMutex.take true,phase := .retired } entry
 | enqueued (hphase:q.phase = .locking) (hkind:e.kind ≠ .http)
  (hadmits:q.lifetimeMutex.admits true = false) :
  Move e stopped entry q .run
   { q with lifetimeMutex := q.lifetimeMutex.enqueue none true,phase := .queued } entry
 | drained (hphase:q.phase = .queued) (hkind:e.kind = .http) (hnotified:q.notified = true) :
  Move e stopped entry q .run { q with phase := .retired } entry
 | popped (hphase:q.phase = .retired) (hkind:e.kind = .http) :
  Move e stopped entry q .run { q with phase := .popped } (if q.pendingInserted then .free else entry)
 | decided (hphase:(q.phase = .retired ∧ e.kind ≠ .http) ∨ q.phase = .popped) :
  Move e stopped entry q .run (q.decide e.kind) entry
 | resolvedHttp (hphase:q.phase = .resolved) (hkind:e.kind = .http) :
  Move e stopped entry q .run { q with
   error := if q.ready = false ∧ q.error = none then some (cancelledError .http) else q.error
   callbacks := fun _=>none
   phase := .ending } entry
 | resolvedGrpc (hphase:q.phase = .resolved) (hkind:e.kind.grpc = true) :
  Move e stopped entry q .run
   { q with registered := q.pendingInserted,pendingInserted := false,phase := .ending } entry
 | resolvedCustom (hphase:q.phase = .resolved) (hkind:e.kind.custom = true) :
  Move e stopped entry q .run { q with phase := .ending } (if q.pendingInserted then .free else entry)
 | ended (hphase:q.phase = .ending) :
  Move e stopped entry q .ended
   { q with phase := if e.kind = .http then .finished else if e.kind.grpc then .closing else .unlocking } entry
 | closed (hphase:q.phase = .closing) :
  Move e stopped entry q .run { q with phase := .unlocking } (if q.registered then .free else entry)
 | released (hphase:q.phase = .unlocking) :
  Move e stopped entry q .run { q.releaseLifetime true with phase := .finished } entry
 -- cancellation and completion
 | fired (hsource:source ∈ q.context.sources) (hnew:source ∉ q.fired) :
  Move e stopped entry q (.fire source) { q with fired := source :: q.fired } entry
 | signalled (hkind:e.kind.custom = false) (hsource:source ∈ subscriptions e.kind q.context)
  (hfired:source ∈ q.fired ∨ (source = .endpoint ∧ stopped = true)) (hnew:q.signalled = false)
  (hphase:q.phase = .waiting) : Move e stopped entry q (.notify source) { q with signalled := true } entry
 | cancelling (hkind:e.kind.custom = true) (hsource:source ∈ subscriptions e.kind q.context)
  (hfired:source ∈ q.fired ∨ (source = .endpoint ∧ stopped = true)) (hdeadline:source ≠ .deadline)
  (hsent:q.doneSent = false)
  (hphase:q.phase = .waiting ∨ q.phase = .expired ∨ q.phase = .joining ∨ q.phase = .woken) :
  Move e stopped entry q (.notify source) { q with doneSent := true,waking := true } entry
 | waked (hwaking:q.waking = true) :
  Move e stopped entry q .wake { q with waking := false,ready := true } entry
 | doneStarted : Move e stopped entry q .done { q with dones := q.dones ++ [.entered] } entry
 | doneStored (hj:q.dones[j]? = some .entered) (hkind:e.kind.custom = true) :
  Move e stopped entry q (.doneStep j) { q with completed := true,dones := q.dones.set j .stored } entry
 | doneLost {j:ℕ} {place:DonePlace} (hj:q.dones[j]? = some place)
  (hplace:(place = .entered ∧ e.kind.custom = false) ∨ place = .stored) (hsent:q.doneSent = true) :
  Move e stopped entry q (.doneStep j) { q with dones := q.dones.set j .returned } entry
 | doneWon {j:ℕ} {place:DonePlace} (hj:q.dones[j]? = some place)
  (hplace:(place = .entered ∧ e.kind.custom = false) ∨ place = .stored) (hsent:q.doneSent = false) :
  Move e stopped entry q (.doneStep j) { q with doneSent := true,dones := q.dones.set j .sending } entry
 | doneSends (hj:q.dones[j]? = some .sending) :
  Move e stopped entry q (.doneStep j) { q with ready := true,dones := q.dones.set j .returned } entry
 | responded (hkind:e.kind.grpc = true) : Move e stopped entry q .respond { q with responded := true } entry
 -- results
 | registers (messageId:String) (callback:ℕ) :
  Move e stopped entry q (.register messageId callback) (q.register messageId callback) entry
 | passed (hi:q.deliveries[i]? = some delivery) (hplace:delivery.place = .found)
  (hinserted:q.pendingInserted = true) :
  Move e stopped entry q (.advance i) (q.place i delivery .locking) entry
 | late (hi:q.deliveries[i]? = some delivery)
  (hplace:delivery.place = .found ∨ (delivery.place = .locking ∧ e.kind = .http ∧ q.retired = true)) :
  Move e stopped entry q (.advance i) (q.place i delivery .finished) entry
 | counting (hi:q.deliveries[i]? = some delivery)
  (hplace:delivery.place = .locking) (hkind:e.kind = .http) (hretired:q.retired = false) :
  Move e stopped entry q (.advance i) ({ q with readers := q.readers + 1 }.place i delivery .checking) entry
 | entered (hi:q.deliveries[i]? = some delivery)
  (hplace:delivery.place = .locking) (hkind:e.kind ≠ .http) (hadmits:q.lifetimeMutex.admits false = true) :
  Move e stopped entry q (.advance i)
   ({ q with lifetimeMutex := q.lifetimeMutex.take false }.place i delivery .checking) entry
 | blocked (hi:q.deliveries[i]? = some delivery)
  (hplace:delivery.place = .locking) (hkind:e.kind ≠ .http) (hadmits:q.lifetimeMutex.admits false = false) :
  Move e stopped entry q (.advance i)
   ({ q with lifetimeMutex := q.lifetimeMutex.enqueue (some i) false }.place i delivery .queued) entry
 | admitted (hi:q.deliveries[i]? = some delivery)
  (hplace:delivery.place = .checking) (hentry:entry = .own)
  (hinserted:e.kind.grpc = true → q.pendingInserted = true) :
  Move e stopped entry q (.advance i) (q.place i delivery .identifying) entry
 | rejected (hi:q.deliveries[i]? = some delivery)
  (hplace:delivery.place = .checking) :
  Move e stopped entry q (.advance i) (q.place i delivery .unlocking) entry
 | uncounting (hi:q.deliveries[i]? = some delivery)
  (hplace:delivery.place = .unlocking) (hkind:e.kind = .http) :
  Move e stopped entry q (.advance i) ({ q with
   readers := q.readers - 1
   notified := q.notified || (q.retired && q.readers == 1) }.place i delivery .finished) entry
 | left (hi:q.deliveries[i]? = some delivery)
  (hplace:delivery.place = .unlocking) (hkind:e.kind ≠ .http) :
  Move e stopped entry q (.advance i) ((q.place i delivery .finished).releaseLifetime false) entry
 | identified (hi:q.deliveries[i]? = some delivery) (hplace:delivery.place = .identifying)
  (hnext:next = .unlocking ∨ ∃ id callback,messageId = some id ∧ q.callbacks id = some callback ∧
   next = .calling id callback) :
  Move e stopped entry q (.identify i messageId) (q.place i delivery next) entry
 | called {i:ℕ} {delivery:Delivery} {messageId:String} {callback:ℕ} {accepted:Option Bool}
  (hi:q.deliveries[i]? = some delivery) (hplace:delivery.place = .calling messageId callback) :
  Move e stopped entry q (.callback i accepted) ({ q with
   callbacks := if accepted = some true then Function.update q.callbacks messageId none
    else q.callbacks }.place i delivery .unlocking) entry

section Inversion
variable {e:Endpoint} {stopped:Bool} {entry entry':Entry} {q q':Request}

lemma move_of_awake (hphase:q.phase=.waiting) (h:q.awake e.kind=some q') :
  Move e stopped entry q .run q' entry := by
 rcases hkind:e.kind with _ | ⟨_ | _⟩ | _ | _ | _ <;>
  grind[Move,awake,Kind.async,Kind.custom,resultReady]

lemma move_of_checkWait (hphase:q.phase=.woken) :
  Move e stopped entry q .run (q.checkWait e.kind stopped) entry := by
 rcases hkind:e.kind with _ | ⟨_ | _⟩ | _ | _ | _ <;>
  grind[Move,checkWait,Kind.async,Kind.custom]

lemma move_of_retire (hphase:q.phase=.locking) :
  Move e stopped entry q .run (q.retire e.kind) entry := by
 cases hkind:e.kind <;> grind[Move,retire]

lemma move_of_resolve (hphase:q.phase=.resolved) (h:q.resolve e.kind entry=(q',entry')) :
  Move e stopped entry q .run q' entry' := by
 cases hkind:e.kind <;> grind[Move,resolve,Kind.grpc,Kind.custom]

lemma move_of_run (h:q.run e stopped entry=some (q',entry')) : Move e stopped entry q .run q' entry' := by
 unfold Request.run at h
 cases hphase:q.phase with
 | waiting =>
  simp only[hphase] at h
  obtain ⟨q'',hawake,heq⟩:=map_eq_some_iff.mp h
  cases heq
  exact move_of_awake hphase hawake
 | woken =>
  simp only[hphase] at h
  cases h
  exact move_of_checkWait hphase
 | locking =>
  simp only[hphase] at h
  cases h
  exact move_of_retire hphase
 | resolved =>
  simp only[hphase] at h
  exact move_of_resolve hphase (some.inj h)
 | _ => grind[Move]

lemma move_of_notify {source:Source} (h:q.notify e.kind stopped source=some q') :
  Move e stopped entry q (.notify source) q' entry := by
 grind[Move,notify]

lemma move_of_doneStep {j:ℕ} (h:q.doneStep e.kind j=some q') :
  Move e stopped entry q (.doneStep j) q' entry := by
 grind[Move,doneStep,Request.claimDone]

lemma move_of_enter {i:ℕ} {delivery:Delivery} (hi:q.deliveries[i]?=some delivery)
  (hplace:delivery.place=.locking) :
  Move e stopped entry q (.advance i) (q.enter e.kind i delivery) entry := by
 cases hkind:e.kind <;> grind[Move,enter]

lemma move_of_leave {i:ℕ} {delivery:Delivery} (hi:q.deliveries[i]?=some delivery)
  (hplace:delivery.place=.unlocking) :
  Move e stopped entry q (.advance i) (q.leave e.kind i delivery) entry := by
 cases hkind:e.kind <;> grind[Move,leave]

lemma move_of_advance {i:ℕ} (h:q.advance e.kind entry i=some q') :
  Move e stopped entry q (.advance i) q' entry := by
 grind[Move,advance,move_of_enter,move_of_leave]

lemma move_of_identify {i:ℕ} {messageId:Option String} (h:q.identify i messageId=some q') :
  Move e stopped entry q (.identify i messageId) q' entry := by
 unfold identify at h
 split at h
 case h_1 => cases h
 case h_2 delivery hi =>
  split at h
  case isTrue hplace =>
   cases h
   refine .identified hi hplace ?_
   split
   case h_1 => exact .inl rfl
   case h_2 id callback hfound =>
    obtain ⟨id',hid,hcallback⟩:=bind_eq_some_iff.mp hfound
    obtain ⟨callback',hget,heq⟩:=map_eq_some_iff.mp hcallback
    cases heq
    exact .inr ⟨id,callback,hid,hget,rfl⟩
  case isFalse => cases h

lemma move_of_callback {i:ℕ} {accepted:Option Bool} (h:q.callback i accepted=some q') :
  Move e stopped entry q (.callback i accepted) q' entry := by
 grind[Move,callback]

lemma move_of_step {act:Act} (h:q.step e stopped entry act=some (q',entry')) :
  Move e stopped entry q act q' entry' := by
 cases act with
 | run => exact move_of_run h
 | register messageId callback => grind[Move,Request.step]
 | respond => cases hkind : e.kind <;> grind[Move,Request.step,respond,Kind.grpc]
 | _ =>
  obtain ⟨q'',hq,heq⟩:=map_eq_some_iff.mp h
  cases heq
  grind[Move,consumed,Request.read,readThrows,Request.eof,Request.ended,fire,wake,startDone,
   move_of_notify,move_of_doneStep,move_of_advance,move_of_identify,move_of_callback,
   Act.failing,Phase.outside]

end Inversion

end ServiceLib.SourceRequest
