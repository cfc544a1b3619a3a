import ServiceLib.CallNesting
import ServiceLib.SourceEndpointRuns

set_option autoImplicit false
attribute [-instance] instBooleanRingBool

/-!
# Result calls made in result callbacks

The inner call asks for the shared side of the gate that the outer one holds, and a retirement
that is queued between the two keeps it out.
-/
namespace ServiceLib.SourceRequest
open SharedMutex Request Transition CallNesting Function Option

namespace State

def parent (s:State) (call:ℕ × ℕ) : Option (ℕ × ℕ) :=
 (s.delivery? call).bind Delivery.parent

def Live (s:State) (call:ℕ × ℕ) : Prop :=
 ∃ delivery,s.delivery? call = some delivery ∧ delivery.place ≠ .finished

def calls (s:State) : View (ℕ × ℕ) where
 parent := s.parent
 known call := (s.delivery? call).isSome = true
 live := s.Live
 hosting call := s.inHandler call = true

/-- The call was made, directly or not, in the handler code of a call for the same request. -/
def Reenters (s:State) (r i:ℕ) : Prop :=
 ∃ j,Above s.parent (r,i) (r,j)

def SelfBlocked (s:State) (r i:ℕ) : Prop :=
 (s.requests r).Queued i ∧ s.Reenters r i

end State

/-- No call asks for a gate that its fiber holds while the retirement of the request is queued. -/
def Unhindered (s:State) : Label → Prop
 | .act r (.advance i) =>
  (∃ delivery,s.delivery? (r,i) = some delivery ∧ delivery.place = .locking) → s.Reenters r i →
   (s.requests r).phase ≠ .queued
 | _ => True

def Place.running : Place → Bool
 | .found | .locking | .checking | .unlocking => true
 | _ => false

inductive Onward (l:Label) (call:ℕ × ℕ) : Place → Place → Prop
 | stay (place:Place) : Onward l call place place
 | granted : Onward l call .queued .checking
 | advanced {place next:Place} (hl:l = .act call.1 (.advance call.2)) (hplace:place.running = true) :
  Onward l call place next
 | returned {act:Act} {place next:Place} (hl:l = .act call.1 act) (hact:act.handler = some call.2)
  (hplace:place.handling = true) : Onward l call place next

variable {i j r:ℕ} {delivery old:Delivery} {next:Place}

section Calls
variable {e:Endpoint} {stopped:Bool} {entry entry':Entry} {q q':Request} {act:Act}

lemma Move.deliveries_length (h:Move e stopped entry q act q' entry') :
  q'.deliveries.length=q.deliveries.length := by
 cases h <;> grind[place,grant,fail,Request.bodyDone,afterBody,register,waitFails,Request.decide,releaseLifetime]

lemma onward_place (hi:q.deliveries[i]?=some delivery)
  (hj:q.deliveries[j]?=some old) {l:Label}
  (hnext:Onward l (r,i) delivery.place next) :
  ∃ new,(q.place i delivery next).deliveries[j]?=some new∧new.parent=old.parent ∧
   Onward l (r,j) old.place new.place := by
 grind[getElem?_place,Onward.stay]

lemma onward_grant {granted:List (Waiter (Option ℕ))}
  (hj:q.deliveries[j]?=some old) (hgranted:⟨some j,false⟩∈granted→ q.Queued j) (l:Label) (r:ℕ) :
  ∃ new,(q.grant granted).deliveries[j]?=some new∧new.parent=old.parent ∧
   Onward l (r,j) old.place new.place := by
 grind[getElem?_grant,queued_iff,Onward.stay,Onward.granted]

lemma Move.onward (h:Move e stopped entry q act q' entry') (hgate:Gate e q) (hshape:Shape e.kind q) (r:ℕ)
  (hj:q.deliveries[j]?=some old) :
  ∃ new,q'.deliveries[j]?=some new∧new.parent=old.parent ∧
   Onward (.act r act) (r,j) old.place new.place := by
 cases h with
 | @left i delivery hi hplace hkind =>
  have hguarded:=hgate.guarded hkind
  have hqueued:⟨some j,false⟩∈(q.lifetimeMutex.release false).2→ q.Queued j:=hguarded.queued_of_granted
  have hget:=getElem?_place hi .finished j
  grind[getElem?_grant,queued_iff,Onward.stay,Onward.granted,Onward.advanced,Place.running,releaseLifetime,place]
 | released hphase =>
  have hguarded:=hgate.guarded (hshape.unlocking hphase)
  exact onward_grant hj hguarded.queued_of_granted _ r
 | identified hi hplace | called hi hplace =>
  exact onward_place hi hj (.returned rfl rfl (by rw[hplace]; rfl))
 | passed hi | counting hi | entered hi | blocked hi | admitted hi | rejected hi | uncounting hi | late hi =>
  exact onward_place hi hj (.advanced rfl (by grind[Place.running]))
 | _ => exact ⟨old,hj,rfl,.stay _⟩

lemma Move.queued (h:Move e stopped entry q act q' entry') (hqueued:q'.Queued i) :
  q.Queued i∨(act=.advance i∧q.lifetimeMutex.admits false=false ∧
   ∃ delivery,q.deliveries[i]?=some delivery∧delivery.place=.locking) := by
 cases h <;> grind[Request.Queued,getElem?_place,getElem?_grant,fail,Request.bodyDone,afterBody,register,waitFails,Request.decide,releaseLifetime]

lemma Move.queued_of_closed (h:Move e stopped entry q (.advance i) q' entry')
  (hkind:e.kind≠ .http) (hi:q.deliveries[i]?=some delivery) (hplace:delivery.place=.locking)
  (hclosed:q.lifetimeMutex.admits false=false) : q'.Queued i := by
 cases h <;> grind[queued_place,Act.failing]

lemma Move.queued_of_handling (h:Move e stopped entry q act q' entry') (hgate:Gate e q)
  (hqueued:q.Queued i) (hj:q.Handling j) : q'.Queued i := by
 have hinside:=hj.inside
 cases h with
 | @left k delivery hk hplace hkind =>
  have hleaves:q.side e.kind (some k)=.inside:=side_inside_iff.mpr ((inside_iff hk).mpr (by rw[hplace]; rfl))
  have hne:some j≠some k:=by grind[Request.Handling,Place.handling]
  have hnil:(q.lifetimeMutex.release false).2=[]:=
   (hgate.guarded hkind).tracks.granted_eq_nil hleaves (side_inside_iff.mpr hinside) hne
  grind[place,Request.Queued,getElem?_place,getElem?_grant,fail,Request.bodyDone,afterBody,register,waitFails,Request.decide,releaseLifetime]
 | released hphase =>
  have halone:q.phase.hold e.kind=.alone:=by rw[hphase]; rfl
  exact absurd hinside (hgate.not_inside halone j)
 | _ => grind[Request.Queued,getElem?_place,fail,Request.bodyDone,afterBody,register,waitFails,Request.decide,releaseLifetime]

lemma Move.orderly (h:Move e stopped entry q act q' entry') (hq:q.lifetimeMutex.Orderly) :
  q'.lifetimeMutex.Orderly := by
 cases h <;> grind[Mutex.Orderly.take,Mutex.Orderly.enqueue,Mutex.Orderly.release,place,grant,fail,Request.bodyDone,afterBody,register,waitFails,Request.decide,releaseLifetime]

end Calls

variable {call host:ℕ × ℕ} {labels:List Label}

section Steps
variable {e:Endpoint} {s s':State} {l:Label}

lemma inHandler_iff : s.inHandler call=true↔(s.requests call.1).Handling call.2 := by
 unfold State.inHandler State.delivery? Request.Handling
 rcases (s.requests call.1).deliveries[call.2]? with _ | ⟨_,_ | _⟩ <;> simp[Place.handling]

lemma nested_of_live (hr:call.1 < s.next) (hlive:s.Live call)
  (hparent:s.parent call=some host) : s.nested host=true := by
 grind[State.nested,State.Live,State.parent,State.delivery?]

lemma nested_of_step {act:Act} (h:step e s (.act r act)=some s') (hact:act.handler=some i) :
  s.nested (r,i)=false := by
 grind[step]

structure Stacked (e:Endpoint) (s:State) : Prop where
 consistent : Consistent e s
 fresh : ∀ r,¬r < s.next → (s.requests r).deliveries = []
 calls : s.calls.Stacked
 orderly : ∀ r,r < s.next → (s.requests r).lifetimeMutex.Orderly

lemma Stacked.lt_next (h:Stacked e s)
  (hcall:s.delivery? call=some delivery) : call.1 < s.next := by
 by_contra hr
 rw[State.delivery?,h.fresh call.1 hr] at hcall
 cases hcall

lemma Stacked.onward (h:Stacked e s) (hstep:step e s l=some s')
  (hcall:s.delivery? call=some old) :
  ∃ new,s'.delivery? call=some new∧new.parent=old.parent∧Onward l call old.place new.place := by
 obtain ⟨r,i⟩:=call
 have hr:r < s.next:=h.lt_next hcall
 have hsound:=h.consistent.sound r hr
 have hchange:=requestChange_of_step hstep hr
 change ∃ new,(s'.requests r).deliveries[i]?=some new∧_
 generalize s'.requests r=q' at hchange
 cases hchange with
 | same => exact ⟨old,hcall,rfl,.stay _⟩
 | arrived hl =>
  refine ⟨old,?_,rfl,.stay _⟩
  exact (List.getElem?_append_left (List.getElem?_eq_some_iff.mp hcall).1).trans hcall
 | moved hl hmove =>
  subst hl
  exact hmove.onward hsound.gate hsound.shape r hcall

lemma Stacked.arrival (h:Stacked e s) (hstep:step e s l=some s') {new:Delivery}
  (hcall:s.delivery? call=none) (hnew:s'.delivery? call=some new) :
  call.1 < s.next∧∃ streamId,l=.result streamId new.parent ∧
   new.parent.all (fun host=>s.inHandler host && !s.nested host)=true∧new.place.running=true := by
 obtain ⟨r,i⟩:=call
 change (s.requests r).deliveries[i]?=none at hcall
 change (s'.requests r).deliveries[i]?=some new at hnew
 cases change_of_step hstep with
 | began streamId context =>
  change (update s.requests s.next _ r).deliveries[i]?=some new at hnew
  grind[update_apply]
 | stopped | ignored => grind
 | @arrived streamId parent r' hpending hparent =>
  have howner:=h.consistent.owner streamId r'  hpending
  change (update s.requests r' _ r).deliveries[i]?=some new at hnew
  rw[update_apply] at hnew
  split at hnew
  case isTrue hr =>
   subst hr
   cases hgrpc:e.kind.grpc <;> grind[arrive,Place.running]
  case isFalse => grind
 | @moved r' act q' entry' hr hmove =>
  have hlength:=hmove.deliveries_length
  change (update s.requests r' q' r).deliveries[i]?=some new at hnew
  grind[update_apply]

lemma Stacked.parent_eq (h:Stacked e s) (hstep:step e s l=some s')
  (hcall:(s.delivery? call).isSome=true) : s'.parent call=s.parent call := by
 obtain ⟨old,hold⟩:=isSome_iff_exists.mp hcall
 obtain ⟨new,hnew,hparent,-⟩:=h.onward hstep hold
 simp[State.parent,hold,hnew,hparent]

lemma Place.handling_of_running {place:Place} (h:place.running=true) : place.handling=false := by
 cases place <;> first | rfl | cases h

lemma Onward.handling {place:Place} (h:Onward l call place next)
  (hplace:place.handling=true) :
  next=place∨∃ act,l=.act call.1 act∧act.handler=some call.2 := by
 cases h <;> grind[Place.handling_of_running,Place.handling]

lemma Onward.finished (h:Onward l call .finished next) : next=.finished := by
 grind[Onward,Place.running,Place.handling]

lemma Stacked.hosting (h:Stacked e s) (hstep:step e s l=some s')
  (hhost:s.inHandler host=true) (hlive:s'.Live call) (hparent:s'.parent call=some host) :
  s'.inHandler host=true := by
 obtain ⟨old,hold,hhandling⟩:=inHandler_iff.mp hhost
 have hget:s.delivery? host=some old:=hold
 obtain ⟨new,hnew,-,honward⟩:=h.onward hstep hget
 rw[inHandler_iff]
 rcases honward.handling hhandling with hsame | ⟨act,rfl,hact⟩
 · exact ⟨new,hnew,hsame▸hhandling⟩
 · have hnested:=nested_of_step hstep hact
   obtain ⟨now,hnow,hplace⟩:=hlive
   cases hcall:s.delivery? call with
   | none => grind[h.arrival hstep hcall hnow]
   | some before =>
    have hpast:=h.onward hstep hcall
    have hlt:=h.lt_next hcall
    have:=h.parent_eq hstep (by rw[hcall]; rfl)
    grind[State.Live,nested_of_live,Onward.finished]

lemma Stacked.arrival_hosted (h:Stacked e s) (hstep:step e s l=some s')
  (hcall:s.delivery? call=none) (hparent:s'.parent call=some host) : s.inHandler host=true := by
 obtain ⟨new,hnew,hnewParent⟩:=bind_eq_some_iff.mp hparent
 obtain ⟨-,streamId,-,hguard,-⟩:=h.arrival hstep hcall hnew
 rw[hnewParent] at hguard
 exact (Bool.and_eq_true_iff.mp hguard).1

lemma Stacked.calls_step (h:Stacked e s) (hstep:step e s l=some s') : s.calls.Step s'.calls where
 known call hcall := by
  obtain ⟨old,hold⟩:=isSome_iff_exists.mp hcall
  obtain ⟨new,hnew,-⟩:=h.onward hstep hold
  exact ⟨isSome_iff_exists.mpr ⟨new,hnew⟩,h.parent_eq hstep hcall⟩
 live call hcall := fun ⟨new,hnew,hplace⟩=>by
  obtain ⟨old,hold⟩:=isSome_iff_exists.mp hcall
  obtain ⟨new',hnew',-,honward⟩:=h.onward hstep hold
  obtain rfl:=some.inj (hnew.symm.trans hnew')
  refine ⟨old,hold,fun hfinished=>hplace ?_⟩
  rw[hfinished] at honward
  exact honward.finished
 arrival call host hcall hparent:=by
  have hhost:=h.arrival_hosted hstep (not_isSome_iff_eq_none.mp hcall) hparent
  obtain ⟨delivery,hget,-⟩:=inHandler_iff.mp hhost
  exact ⟨hhost,isSome_iff_exists.mpr ⟨delivery,hget⟩⟩
 hosting call host hhost hlive hparent := h.hosting hstep hhost hlive hparent
 hosting_live call hhost:=by
  obtain ⟨delivery,hcall,hhandling⟩:=inHandler_iff.mp hhost
  refine ⟨delivery,hcall,fun hfinished=>?_⟩
  rw[hfinished] at hhandling
  cases hhandling

lemma Stacked.orderly_after (h:Stacked e s) (hstep:step e s l=some s') (hr:r < s'.next) :
  (s'.requests r).lifetimeMutex.Orderly := by
 by_cases hold:r < s.next
 · have horderly:=h.orderly r hold
   have hchange:=requestChange_of_step hstep hold
   generalize s'.requests r=q' at hchange
   cases hchange with
   | same | arrived => exact horderly
   | moved _ hmove => exact hmove.orderly horderly
 · cases change_of_step hstep with
   | began streamId context =>
    obtain rfl:r=s.next:=Nat.le_antisymm (Nat.le_of_lt_succ hr) (Nat.le_of_not_lt hold)
    simp[State.beginRequest,orderly_empty]
   | stopped | ignored | arrived | moved => exact absurd hr hold

lemma Stacked.after (h:Stacked e s) (hstep:step e s l=some s') : Stacked e s' := by
 refine ⟨h.consistent.after hstep,fun r hr=>?_,h.calls.after (h.calls_step hstep),
  fun r=>h.orderly_after hstep⟩
 have hold:¬r < s.next:=fun hlt=>hr (Nat.lt_of_lt_of_le hlt (next_le_of_step hstep))
 refine List.eq_nil_iff_forall_not_mem.mpr fun delivery hmem=>?_
 obtain ⟨i,hi⟩:=List.getElem?_of_mem hmem
 have hnone:s.delivery? (r,i)=none:=by
  rw[State.delivery?,h.fresh r hold]
  rfl
 exact hold (h.arrival hstep hnone hi).1

lemma Stacked.reenters_iff (h:Stacked e s) (hstep:step e s l=some s')
  (hcall:(s.delivery? (r,i)).isSome=true) : s'.Reenters r i↔s.Reenters r i :=
 exists_congr fun _=>h.calls.above_iff (h.calls_step hstep) hcall

lemma stacked_initial : Stacked e {} where
 consistent := consistent_initial
 fresh _ _ := rfl
 calls := ⟨nofun,nofun,nofun⟩
 orderly r hr := absurd hr (Nat.not_lt_zero r)

lemma stacked_exec (hrun:exec (step e) {} labels=some s) : Stacked e s :=
 exec_invariant (I := Stacked e) (fun _ _ _ h hstep=>h.after hstep) stacked_initial hrun

end Steps

section Blocked
variable {e:Endpoint} {s s':State} {l:Label} {r i:ℕ}

lemma Stacked.exists_handling (h:Stacked e s) (hlive:s.Live (r,i)) (hreenters:s.Reenters r i) :
  ∃ j,(s.requests r).Handling j := by
 obtain ⟨j,habove⟩:=hreenters
 exact ⟨j,inHandler_iff.mp (h.calls.hosting_of_above hlive habove)⟩

lemma Stacked.admits_iff (h:Stacked e s) (hkind:e.kind≠ .http) (hlive:s.Live (r,i))
  (hreenters:s.Reenters r i) :
  (s.requests r).lifetimeMutex.admits false=true↔(s.requests r).phase≠ .queued := by
 obtain ⟨j,hj⟩:=h.exists_handling hlive hreenters
 obtain ⟨delivery,hcall,-⟩:=hlive
 have hr:r < s.next:=h.lt_next hcall
 have hinside:(s.requests r).side e.kind (some j)=.inside:=side_inside_iff.mpr hj.inside
 have htracks:=((h.consistent.sound r hr).gate.guarded hkind).tracks
 rw[htracks.admits_reader_iff (h.orderly r hr) hinside rfl]
 constructor
 · intro hnone hphase
   exact hnone none rfl (hold_side_queued_iff.mpr (Phase.hold_queued_iff.mpr hphase))
 · intro hphase id hwriter hqueued
   cases id with
   | none => exact hphase (Phase.hold_queued_iff.mp (hold_side_queued_iff.mp hqueued))
   | some j => cases hwriter

lemma Stacked.selfBlocked_of_step (h:Stacked e s) (hkind:e.kind≠ .http) (hstep:step e s l=some s')
  (hok:Unhindered s l) (hblocked:s'.SelfBlocked r i) : s.SelfBlocked r i := by
 obtain ⟨⟨new,hnew,hplace⟩,hreenters⟩:=hblocked
 cases hcall:s.delivery? (r,i) with
 | none =>
  obtain ⟨-,streamId,-,-,hrunning⟩:=h.arrival hstep hcall hnew
  rw[hplace] at hrunning
  cases hrunning
 | some old =>
  have hr:r < s.next:=h.lt_next hcall
  have hreenters':s.Reenters r i:=(h.reenters_iff hstep (by rw[hcall]; rfl)).mp hreenters
  refine ⟨?_,hreenters'⟩
  have hqueued:(s'.requests r).Queued i:=⟨new,hnew,hplace⟩
  have hchange:=requestChange_of_step hstep hr
  generalize s'.requests r=q' at hchange hqueued
  cases hchange with
  | same => exact hqueued
  | arrived => exact (exists_arrive (P := fun place=>place=.queued) nofun nofun).mp hqueued
  | moved hl hmove =>
   subst hl
   refine (hmove.queued hqueued).resolve_right ?_
   rintro ⟨rfl,hadmits,delivery,hi,hlocking⟩
   have hlive:s.Live (r,i):=⟨delivery,hi,by simp[hlocking]⟩
   have hadmitted:=(h.admits_iff hkind hlive hreenters').mpr (hok ⟨delivery,hi,hlocking⟩ hreenters')
   rw[hadmits] at hadmitted
   cases hadmitted

lemma Stacked.selfBlocked_after (h:Stacked e s) (hstep:step e s l=some s') (hblocked:s.SelfBlocked r i) :
  s'.SelfBlocked r i := by
 obtain ⟨hqueued,hreenters⟩:=hblocked
 obtain ⟨delivery,hcall,hplace⟩:=hqueued
 have hget:s.delivery? (r,i)=some delivery:=hcall
 have hr:r < s.next:=h.lt_next hget
 have hknown:(s.delivery? (r,i)).isSome=true:=isSome_iff_exists.mpr ⟨delivery,hcall⟩
 obtain ⟨j,hj⟩:=h.exists_handling ⟨delivery,hcall,by simp[hplace]⟩ hreenters
 refine ⟨?_,(h.reenters_iff hstep hknown).mpr hreenters⟩
 have hqueued:(s.requests r).Queued i:=⟨delivery,hcall,hplace⟩
 have hchange:=requestChange_of_step hstep hr
 generalize s'.requests r=q' at hchange
 cases hchange with
 | same => exact hqueued
 | arrived => exact (exists_arrive (P := fun place=>place=.queued) nofun nofun).mpr hqueued
 | moved hl hmove => exact hmove.queued_of_handling (h.consistent.sound r hr).gate hqueued hj

lemma Stacked.selfBlocked_exec (h:Stacked e s) (hblocked:s.SelfBlocked r i)
  (hrun:exec (step e) s labels=some s') : s'.SelfBlocked r i := by
 have hboth:Stacked e s'∧s'.SelfBlocked r i:=
  exec_invariant (I := fun u=>Stacked e u∧u.SelfBlocked r i)
   (fun _ _ _ hu hstep=>⟨hu.1.after hstep,hu.1.selfBlocked_after hstep hu.2⟩) ⟨h,hblocked⟩ hrun
 exact hboth.2

lemma Stacked.selfBlocked_of_hindered (h:Stacked e s) (hkind:e.kind≠ .http) (hstep:step e s l=some s')
  (hok:¬Unhindered s l) : ∃ r i,s'.SelfBlocked r i := by
 unfold Unhindered at hok
 split at hok
 case h_1 r i =>
  obtain ⟨⟨delivery,hcall,hplace⟩,hok⟩:=Classical.not_imp.mp hok
  obtain ⟨hreenters,hphase⟩:=Classical.not_imp.mp hok
  have hknown:(s.delivery? (r,i)).isSome=true:=isSome_iff_exists.mpr ⟨delivery,hcall⟩
  have hclosed:(s.requests r).lifetimeMutex.admits false=false:=by
   have hadmits:=h.admits_iff hkind ⟨delivery,hcall,by simp[hplace]⟩ hreenters
   exact Bool.eq_false_iff.mpr fun hadmitted=>hphase (hadmits.mp hadmitted)
  refine ⟨r,i,?_,(h.reenters_iff hstep hknown).mpr hreenters⟩
  have hchange:=requestChange_of_step hstep (h.lt_next hcall)
  generalize s'.requests r=q' at hchange
  cases hchange with
  | same hl => exact absurd rfl (hl (.advance i))
  | arrived hl => cases hl
  | moved hl hmove =>
   cases hl
   exact hmove.queued_of_closed hkind hcall hplace hclosed
 case h_2 => exact absurd trivial hok

lemma Stacked.unhindered_iff (h:Stacked e s) (hkind:e.kind≠ .http) (hstep:step e s l=some s')
  (hfree:¬∃ r i,s.SelfBlocked r i) : Unhindered s l↔¬∃ r i,s'.SelfBlocked r i := by
 constructor
 · rintro hok ⟨r,i,hblocked⟩
   exact hfree ⟨r,i,h.selfBlocked_of_step hkind hstep hok hblocked⟩
 · intro hfree'
   by_contra hok
   exact hfree' (h.selfBlocked_of_hindered hkind hstep hok)

/-- The calls of a run never wait for their own fibers exactly when no call asks for a gate
that its fiber holds while the retirement of the request is queued. -/
lemma along_unhindered_iff (hkind:e.kind≠ .http)
  (hrun:exec (step e) {} labels=some s) :
  Along (step e) Unhindered {} labels↔¬∃ r i,s.SelfBlocked r i := by
 refine along_iff_not (I := Stacked e) (fun u l u' hu hstep=>hu.after hstep) ?_
  (fun u l u' hu hstep hfree=>hu.unhindered_iff hkind hstep hfree) stacked_initial ?_ hrun
 · rintro u l u' hu hstep ⟨r,i,hblocked⟩
   exact ⟨r,i,hu.selfBlocked_after hstep hblocked⟩
 · rintro ⟨r,i,⟨delivery,hi,-⟩,-⟩
   cases hi

end Blocked

end ServiceLib.SourceRequest
