import ServiceLib.SourceRequestRetirement
import ServiceLib.Tokens

set_option autoImplicit false
attribute [-instance] instBooleanRingBool

/-!
# Progress of a source request
-/
namespace ServiceLib.SourceRequest
open SharedMutex Request Tokens Option

def Act.internal : Act → Bool
 | .run | .notify _ | .wake | .doneStep _ | .advance _ => true
 | _ => false

def Phase.work : Phase → ℕ
 | .inserting => 6
 | .registering => 1
 | .consuming | .reading | .eof => 0
 | .waiting => 8
 | .expired => 7
 | .joining | .woken => 6
 | .locking => 5
 | .queued => 4
 | .retired => 3
 | .popped => 2
 | .resolved => 1
 | .ending => 0
 | .closing => 2
 | .unlocking => 1
 | .finished => 0

def Place.work : Place → ℕ
 | .found => 5
 | .locking => 4
 | .queued => 3
 | .checking => 2
 | .identifying | .calling _ _ => 0
 | .unlocking => 1
 | .finished => 0

def DonePlace.work : DonePlace → ℕ
 | .entered => 3
 | .stored => 2
 | .sending => 1
 | .returned => 0

def Request.callbackWork (q:Request) : ℕ :=
 2 * (!q.doneSent).toNat + q.waking.toNat + (!q.signalled).toNat

def Request.work (q:Request) : ℕ :=
 q.phase.work + total DonePlace.work q.dones + total (fun delivery=>delivery.place.work) q.deliveries +
  q.callbackWork

section Work
variable {e:Endpoint} {stopped:Bool} {entry entry':Entry} {q q':Request} {act:Act}

lemma work_of_phase (hphase:q'.phase.work < q.phase.work) (hdones:q'.dones=q.dones)
  (hdeliveries:q'.deliveries=q.deliveries) (hcallbacks:q'.callbackWork≤q.callbackWork) :
  q'.work < q.work := by
 unfold Request.work
 rw[hdones,hdeliveries]
 omega

lemma work_of_place {i:ℕ} {delivery:Delivery} {next:Place} (hi:q.deliveries[i]?=some delivery)
  (hnext:next.work < delivery.place.work) (hphase:q'.phase.work≤q.phase.work) (hdones:q'.dones=q.dones)
  (hdeliveries:total (fun delivery=>delivery.place.work) q'.deliveries ≤
   total (fun delivery=>delivery.place.work) (q.place i delivery next).deliveries)
  (hcallbacks:q'.callbackWork=q.callbackWork) : q'.work < q.work := by
 grind[place,Request.work,total_set]

lemma work_of_done {j:ℕ} {place next:DonePlace} (hj:q.dones[j]?=some place)
  (hnext:next.work < place.work) (hphase:q'.phase=q.phase) (hdones:q'.dones=q.dones.set j next)
  (hdeliveries:q'.deliveries=q.deliveries) (hcallbacks:q'.callbackWork≤q.callbackWork) :
  q'.work < q.work := by
 have htotal:=total_set DonePlace.work hj next
 unfold Request.work
 rw[hphase,hdones,hdeliveries]
 omega

lemma work_of_callback (hphase:q'.phase=q.phase) (hdones:q'.dones=q.dones)
  (hdeliveries:q'.deliveries=q.deliveries) (hcallbacks:q'.callbackWork < q.callbackWork) :
  q'.work < q.work := by
 unfold Request.work
 rw[hphase,hdones,hdeliveries]
 omega

lemma total_grant {granted:List (Waiter (Option ℕ))} (hgranted:∀ i,⟨some i,false⟩∈granted→ q.Queued i) :
  total (fun delivery=>delivery.place.work) (q.grant granted).deliveries ≤
   total (fun delivery=>delivery.place.work) q.deliveries := by
 refine total_mapIdx_le _ fun i delivery hi=>?_
 split
 case isTrue hmem =>
  rw[(queued_iff hi).mp (hgranted i hmem)]
  change Place.checking.work≤Place.queued.work
  decide
 case isFalse => exact Nat.le_refl _

lemma Move.work_lt (h:Move e stopped entry q act q' entry') (hsound:Sound e entry q)
  (hact:act.internal=true) : q'.work < q.work := by
 cases h with
 | expired hphase hsent =>
  refine work_of_phase ?_ rfl rfl ?_ <;> grind[Phase.work,waitFails,callbackWork]
 | inserted hphase | duplicate hphase | counted hphase | decided hphase | registered hphase | woke hphase | overdue hphase | outrun hphase | joined hphase | waitFailed hphase
 | waited hphase | sealed hphase | enqueued hphase | drained hphase | popped hphase | resolvedHttp hphase
 | resolvedGrpc hphase | resolvedCustom hphase | closed hphase =>
  refine work_of_phase ?_ rfl rfl (Nat.le_refl _)
  grind[Phase.work,fail,afterBody,waitFails,Request.decide]
 | released hphase =>
  have hguarded:=hsound.gate.guarded (hsound.shape.unlocking hphase)
  have hdeliveries:total _ (q.grant (q.lifetimeMutex.release true).2).deliveries≤total _ q.deliveries:=
   total_grant fun i hi=>hguarded.queued_of_granted hi
  unfold Request.work
  rw[hphase]
  change Phase.finished.work+total _ q.dones +
   total _ (q.grant (q.lifetimeMutex.release true).2).deliveries+q.callbackWork < _
  have hphases:Phase.finished.work < Phase.unlocking.work:=by decide
  omega
 | signalled | cancelling | waked =>
  refine work_of_callback rfl rfl rfl ?_
  grind[callbackWork]
 | doneStored hj | doneLost hj | doneWon hj | doneSends hj =>
  refine work_of_done hj ?_ rfl rfl rfl ?_ <;> grind[DonePlace.work,callbackWork]
 | passed hi | counting hi | entered hi | blocked hi | admitted hi
 | rejected hi | uncounting hi | late hi =>
  exact work_of_place hi (by grind[Place.work]) (Nat.le_refl _) rfl (Nat.le_refl _) rfl
 | left hi hplace hkind =>
  have hguarded:=hsound.gate.guarded hkind
  refine work_of_place hi (by rw[hplace]; decide : Place.finished.work < _) ?_ rfl (total_grant ?_) rfl
  · rcases hguarded.phase_left _ _ with hphase | ⟨hphase,hretired⟩
    · rw[hphase]
    · rw[hphase,hretired]
      decide
  · intro j hj
    have hsame:=queued_place_same hi (by simp[hplace]) (show Place.finished≠ .queued by simp) j
    exact hsame.mpr (hguarded.queued_of_granted hj)
 | failed hfailing => cases act <;> grind[Act.internal,Act.failing]
 | _ => grind[Act.internal]

end Work

structure Request.Unanswered (e:Endpoint) (stopped:Bool) (q:Request) : Prop where
 unready : q.resultReady e.kind = false
 uncancelled : ∀ source ∈ subscriptions e.kind q.context,
  source ∉ q.fired ∧ (source = .endpoint → stopped = false)

/-- The request is over, or it is in code of the handler or the transport, or it waits for
its result, or it waits for one of its result calls that is in handler code. -/
inductive Standing (e:Endpoint) (stopped:Bool) (q:Request) : Prop
 | finished (h:q.phase = .finished)
 | outside (h:q.phase.outside = true)
 | ending (h:q.phase = .ending)
 | waiting (h:q.phase = .waiting) (hwait:q.Unanswered e stopped)
 | queued (h:q.phase = .queued) {i:ℕ} (hi:q.Handling i)

section Idle
variable {e:Endpoint} {stopped:Bool} {entry:Entry} {q:Request}
  (hidle:∀ act : Act,act.internal = true → q.step e stopped entry act = none)
include hidle

lemma idle_unclaimed (h:Sound e entry q) (hpast:¬q.phase.past) (hready:q.ready=false) :
  q.doneSent=false := by
 by_contra hsent
 rcases h.claimed (by simpa using hsent) hpast with hr | hwaking | ⟨j,hj⟩
 · rw[hready] at hr
   cases hr
 · have hwake:=map_eq_none_iff.mp (hidle .wake rfl)
   simp[Request.wake,hwaking] at hwake
 · have hdone:=map_eq_none_iff.mp (hidle (.doneStep j) rfl)
   simp[Request.doneStep,hj] at hdone

lemma idle_handling {i:ℕ} (hi:q.Inside i) : q.Handling i := by
 obtain ⟨delivery,hget,hinside⟩:=hi
 refine ⟨delivery,hget,?_⟩
 have hadvance:=map_eq_none_iff.mp (hidle (.advance i) rfl)
 cases hplace:delivery.place <;> simp_all[Request.advance,Place.handling,Place.inside]

lemma idle_unfired (hphase:q.phase=.waiting) {source:Source}
  (hsource:source∈subscriptions e.kind q.context)
  (hcallback:if e.kind.custom then source≠ .deadline∧q.doneSent=false else q.signalled=false) :
  source∉q.fired∧(source=.endpoint→ stopped=false) := by
 have hnotify:=map_eq_none_iff.mp (hidle (.notify source) rfl)
 cases hcustom:e.kind.custom <;> grind[Request.notify]

lemma idle_unanswered (h:Sound e entry q) (hphase:q.phase=.waiting) : q.Unanswered e stopped := by
 have hawake:q.awake e.kind=none:=by
  have hrun:=hidle .run rfl
  simp only[Request.step,Request.run,hphase] at hrun
  exact map_eq_none_iff.mp hrun
 have hunfired:=fun source (hsource:source∈subscriptions e.kind q.context) =>
  idle_unfired hidle hphase hsource
 have hunclaimed:=idle_unclaimed hidle h (by rw[hphase]; decide)
 rcases hkind:e.kind with _ | ⟨_ | _⟩ | _ | _ | _ <;> constructor <;>
  grind[Request.awake,Request.resultReady,subscriptions,Kind.custom]

lemma idle_standing (h:Sound e entry q) : Standing e stopped q := by
 have hrun:=hidle .run rfl
 cases hphase:q.phase with
 | waiting => exact .waiting hphase (idle_unanswered hidle h hphase)
 | queued =>
  have hnotified:e.kind=.http→ q.notified=false:=by grind[Request.step,Request.run]
  obtain ⟨i,hi⟩:=h.gate.exists_inside hphase hnotified
  exact .queued hphase (idle_handling hidle hi)
 | joining =>
  have hsent:=idle_unclaimed hidle h (by rw[hphase]; decide)
  have hjoining:=h.shape.joining hphase
  grind[Request.step,Request.run]
 | _ => grind[Standing,Request.step,Request.run,Phase.outside]

end Idle

end ServiceLib.SourceRequest
