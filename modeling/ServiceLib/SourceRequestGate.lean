import ServiceLib.SourceRequestMoves

set_option autoImplicit false
attribute [-instance] instBooleanRingBool

/-!
# The gate between result callbacks and retirement

The HTTP endpoint counts who is inside; the others use a shared mutex. Either way nobody is inside
while the fiber of the request holds the gate alone.
-/
namespace ServiceLib.SourceRequest
open SharedMutex Request List

inductive Hold where
 | free
 | queued
 | alone
deriving DecidableEq

/-- What the fiber has of the gate. The HTTP endpoint never opens it again. -/
def Phase.hold (kind:Kind) : Phase → Hold
 | .queued => .queued
 | .retired | .popped | .resolved | .ending | .closing | .unlocking => .alone
 | .finished => if kind = .http then .alone else .free
 | _ => .free

def Phase.late : Phase → Bool
 | .closing | .unlocking => true
 | _ => false

def Place.inside : Place → Bool
 | .checking | .identifying | .calling _ _ | .unlocking => true
 | _ => false

namespace Request

def Inside (q:Request) (i:ℕ) : Prop :=
 ∃ delivery,q.deliveries[i]? = some delivery ∧ delivery.place.inside = true

def Queued (q:Request) (i:ℕ) : Prop :=
 ∃ delivery,q.deliveries[i]? = some delivery ∧ delivery.place = .queued

end Request

structure Counted (q:Request) : Prop where
 readers : ∃ ids : List ℕ,ids.Nodup ∧ q.readers = ids.length ∧ ∀ i,i ∈ ids ↔ q.Inside i
 flagged : q.phase.hold .http ≠ .free → q.retired = true
 drained : q.phase.hold .http = .alone → q.readers = 0
 notified : q.notified = true → q.retired = true ∧ q.readers = 0
 queued : q.phase.hold .http = .queued → q.readers ≠ 0 ∨ q.notified = true
 unqueued : ∀ i,¬q.Queued i
 opened : q.phase.late = false

structure Guarded (kind:Kind) (q:Request) : Prop where
 held : ∃ readers owner,Valid q.lifetimeMutex readers owner ∧
  (∀ id,owner = some id ↔ id = none ∧ q.phase.hold kind = .alone) ∧
  none ∉ readers ∧ ∀ i,some i ∈ readers ↔ q.Inside i
 writer : ∀ writer,⟨none,writer⟩ ∈ q.lifetimeMutex.waiters ↔ writer = true ∧ q.phase.hold kind = .queued
 reader : ∀ i writer,⟨some i,writer⟩ ∈ q.lifetimeMutex.waiters ↔ writer = false ∧ q.Queued i

variable {next:Place} {granted:List (Waiter (Option ℕ))}

section Places
variable {q:Request} {i:ℕ} {delivery:Delivery}

lemma getElem?_place (hi:q.deliveries[i]?=some delivery) (next:Place) (j:ℕ) :
  (q.place i delivery next).deliveries[j]? =
   if j=i then some { delivery with place := next } else q.deliveries[j]? := by
 grind[place]

lemma inside_place (hi:q.deliveries[i]?=some delivery) (next:Place) (j:ℕ) :
  (q.place i delivery next).Inside j↔if j=i then next.inside=true else q.Inside j := by
 grind[Inside,getElem?_place]

lemma queued_place (hi:q.deliveries[i]?=some delivery) (next:Place) (j:ℕ) :
  (q.place i delivery next).Queued j↔if j=i then next=.queued else q.Queued j := by
 grind[Request.Queued,getElem?_place]

lemma inside_iff (hi:q.deliveries[i]?=some delivery) : q.Inside i↔delivery.place.inside=true := by
 unfold Inside
 simp[hi]

lemma queued_iff (hi:q.deliveries[i]?=some delivery) : q.Queued i↔delivery.place=.queued := by
 unfold Request.Queued
 simp[hi]

lemma inside_place_same (hi:q.deliveries[i]?=some delivery)
  (hnext:next.inside=delivery.place.inside) (j:ℕ) :
  (q.place i delivery next).Inside j↔q.Inside j := by
 grind[inside_place,inside_iff]

lemma queued_place_same (hi:q.deliveries[i]?=some delivery)
  (hplace:delivery.place≠ .queued) (hnext:next≠ .queued) (j:ℕ) :
  (q.place i delivery next).Queued j↔q.Queued j := by
 grind[queued_place,queued_iff]

lemma getElem?_grant (q:Request) (granted:List (Waiter (Option ℕ))) (j:ℕ) :
  (q.grant granted).deliveries[j]?=q.deliveries[j]?.map fun delivery =>
   if ⟨some j,false⟩∈granted then { delivery with place := .checking } else delivery := by
 change (q.deliveries.mapIdx _)[j]?=_
 rw[List.getElem?_mapIdx]

end Places

def Hold.side : Hold → Side
 | .free => .outside
 | .queued => .queued
 | .alone => .inside

def Place.side : Place → Side
 | .queued => .queued
 | .checking | .identifying | .calling _ _ | .unlocking => .inside
 | _ => .outside

/-- The fiber takes the exclusive side of the mutex, the calls the shared one. -/
def Request.side (kind:Kind) (q:Request) : Option ℕ → Side
 | none => (q.phase.hold kind).side
 | some i => (q.deliveries[i]?).elim .outside fun delivery=>delivery.place.side

section Side
variable {kind:Kind} {q:Request} {i:ℕ}

lemma side_inside_iff : q.side kind (some i)=.inside↔q.Inside i := by
 simp only[Request.side,Inside]
 rcases q.deliveries[i]? with _ | ⟨_,_ | _⟩ <;> simp[Place.side,Place.inside]

lemma side_queued_iff : q.side kind (some i)=.queued↔q.Queued i := by
 simp only[Request.side,Request.Queued]
 rcases q.deliveries[i]? with _ | ⟨_,_ | _⟩ <;> simp[Place.side]

lemma hold_side_inside_iff {hold:Hold} : hold.side=.inside↔hold=.alone := by
 cases hold <;> simp[Hold.side]

lemma hold_side_queued_iff {hold:Hold} : hold.side=.queued↔hold=.queued := by
 cases hold <;> simp[Hold.side]

end Side

variable {kind:Kind} {q:Request} {id:Option ℕ}

lemma guarded_iff_tracks :
  Guarded kind q↔Tracks q.lifetimeMutex Option.isNone (q.side kind) := by
 constructor
 · intro h
   obtain ⟨readers,owner,hvalid,howner,hnone,hreaders⟩:=h.held
   refine ⟨⟨readers,owner,hvalid,fun id=>?_,fun id=>?_⟩,fun id writer=>?_⟩
   · cases id with
     | none => exact iff_of_false hnone nofun
     | some i => simp[hreaders,side_inside_iff]
   · cases id with
     | none => simp[howner,Request.side,hold_side_inside_iff]
     | some i => simp[howner]
   · cases id with
     | none => simp[h.writer,Request.side,hold_side_queued_iff]
     | some i => simp[h.reader,side_queued_iff]
 · intro h
   obtain ⟨readers,owner,hvalid,hreaders,howner⟩:=h.held
   refine ⟨⟨readers,owner,hvalid,fun id=>?_,fun hmem=>?_,fun i=>?_⟩,fun writer=>?_,fun i writer=>?_⟩
   · cases id with
     | none => simp[howner,Request.side,hold_side_inside_iff]
     | some i => simp[howner]
   · exact nomatch ((hreaders none).mp hmem).1
   · simp[hreaders,side_inside_iff]
   · simp[h.waits,Request.side,hold_side_queued_iff]
   · simp[h.waits,side_queued_iff]

section Sides
variable (kind:Kind) {q:Request} {i:ℕ} {delivery:Delivery}

lemma side_of_get (hi:q.deliveries[i]?=some delivery) : q.side kind (some i)=delivery.place.side := by
 simp[Request.side,hi]

lemma side_place_self (hi:q.deliveries[i]?=some delivery) (next:Place) :
  (q.place i delivery next).side kind (some i)=next.side := by
 simp[Request.side,getElem?_place hi]

lemma side_place_other (next:Place) (hid:id≠some i) :
  (q.place i delivery next).side kind id=q.side kind id := by
 cases id <;> grind[Request.side,place]

lemma side_grant_self
  (hid:⟨id,id.isNone⟩∈granted) (hqueued:q.side kind id=.queued) :
  (q.grant granted).side kind id=.inside := by
 cases id <;> grind[Request.side,getElem?_grant,grant,Phase.hold,Hold.side,Place.side]

lemma side_grant_other
  (hid:⟨id,id.isNone⟩∉granted) : (q.grant granted).side kind id=q.side kind id := by
 cases id <;> grind[Request.side,getElem?_grant,grant,Phase.hold,Hold.side,Place.side]

end Sides

variable {phase:Phase} {i:ℕ} {delivery:Delivery}

namespace Guarded
variable {kind:Kind} {q q':Request}

lemma tracks (h:Guarded kind q) : Tracks q.lifetimeMutex Option.isNone (q.side kind) :=
 guarded_iff_tracks.mp h

lemma frame (h:Guarded kind q) (hmutex:q'.lifetimeMutex=q.lifetimeMutex)
  (hinside:∀ i,q'.Inside i↔q.Inside i) (hqueued:∀ i,q'.Queued i↔q.Queued i)
  (hhold:q'.phase.hold kind=q.phase.hold kind) : Guarded kind q' := by
 obtain ⟨hheld,hwriter,hreader⟩:=h
 constructor <;> grind

lemma not_inside (h:Guarded kind q) (hhold:q.phase.hold kind=.alone) (i:ℕ) : ¬q.Inside i := by
 intro hi
 have hfiber:q.side kind none=.inside:=hold_side_inside_iff.mpr hhold
 exact nomatch h.tracks.alone hfiber rfl (side_inside_iff.mpr hi)

lemma sealed (h:Guarded kind q) (hhold:q.phase.hold kind=.free)
  (ha:q.lifetimeMutex.admits true=true) (hphase:phase.hold kind=.alone) :
  Guarded kind { q with lifetimeMutex := q.lifetimeMutex.take true,phase := phase } := by
 have hout:q.side kind none=.outside:=congrArg Hold.side hhold
 refine guarded_iff_tracks.mpr (h.tracks.take hout ha (congrArg Hold.side hphase) fun id hid=>?_)
 cases id with
 | none => exact absurd rfl hid
 | some i => rfl

lemma enqueued (h:Guarded kind q) (hhold:q.phase.hold kind=.free)
  (ha:q.lifetimeMutex.admits true=false) (hphase:phase.hold kind=.queued) :
  Guarded kind { q with lifetimeMutex := q.lifetimeMutex.enqueue none true,phase := phase } := by
 have hout:q.side kind none=.outside:=congrArg Hold.side hhold
 refine guarded_iff_tracks.mpr (h.tracks.enqueue hout ha (congrArg Hold.side hphase) fun id hid=>?_)
 cases id with
 | none => exact absurd rfl hid
 | some i => rfl

lemma entered (h:Guarded kind q) (hi:q.deliveries[i]?=some delivery)
  (hplace:delivery.place=.locking) (ha:q.lifetimeMutex.admits false=true) :
  Guarded kind ({ q with lifetimeMutex := q.lifetimeMutex.take false }.place i delivery .checking) := by
 have hout:q.side kind (some i)=.outside:=by rw[side_of_get kind hi,hplace]; rfl
 exact guarded_iff_tracks.mpr (h.tracks.take hout ha (side_place_self kind hi .checking) fun _ hid =>
  side_place_other kind .checking hid)

lemma blocked (h:Guarded kind q) (hi:q.deliveries[i]?=some delivery)
  (hplace:delivery.place=.locking) (ha:q.lifetimeMutex.admits false=false) :
  Guarded kind ({ q with lifetimeMutex := q.lifetimeMutex.enqueue (some i) false }.place i delivery .queued) := by
 have hout:q.side kind (some i)=.outside:=by rw[side_of_get kind hi,hplace]; rfl
 exact guarded_iff_tracks.mpr (h.tracks.enqueue hout ha (side_place_self kind hi .queued) fun _ hid =>
  side_place_other kind .queued hid)

lemma queued_of_granted (h:Guarded kind q) {writer:Bool}
  (hi:⟨some i,false⟩∈(q.lifetimeMutex.release writer).2) : q.Queued i :=
 side_queued_iff.mp (h.tracks.queued_of_granted hi).2

lemma hold_of_granted (h:Guarded kind q) {writer:Bool}
  (hid:⟨none,true⟩∈(q.lifetimeMutex.release writer).2) : q.phase.hold kind=.queued :=
 hold_side_queued_iff.mp (h.tracks.queued_of_granted hid).2

lemma left (h:Guarded kind q) (hi:q.deliveries[i]?=some delivery)
  (hplace:delivery.place=.unlocking) :
  Guarded kind ((q.place i delivery .finished).releaseLifetime false) := by
 have hin:q.side kind (some i)=.inside:=by rw[side_of_get kind hi,hplace]; rfl
 have hkept:∀ id,⟨id,id.isNone⟩∈(q.lifetimeMutex.release false).2→ id≠some i:=by
  rintro id hid rfl
  exact nomatch hin.symm.trans (h.tracks.queued_of_granted hid).2
 refine guarded_iff_tracks.mpr (h.tracks.release hin ?_ (fun id hid=>?_) fun id hne hid=>?_)
 · exact (side_grant_other kind fun hid=>hkept _ hid rfl).trans (side_place_self kind hi .finished)
 · refine side_grant_self kind hid ?_
   exact (side_place_other kind .finished (hkept id hid)).trans (h.tracks.queued_of_granted hid).2
 · have hplaced:(q.place i delivery .finished).side kind id=q.side kind id :=
    side_place_other kind .finished hne
   exact (side_grant_other kind hid).trans hplaced

lemma released (h:Guarded kind q) (hphase:q.phase=.unlocking) (hkind:kind≠ .http) :
  Guarded kind { q.releaseLifetime true with phase := .finished } := by
 have hin:q.side kind none=.inside:=by rw[Request.side,hphase]; rfl
 have hfree:Phase.finished.hold kind=.free:=if_neg hkind
 have hcall:∀ i,Request.side kind { q.releaseLifetime true with phase:=.finished } (some i) =
  (q.releaseLifetime true).side kind (some i) := fun _=>rfl
 refine guarded_iff_tracks.mpr (h.tracks.release hin (congrArg Hold.side hfree) (fun id hid=>?_) fun id hne hid=>?_)
 · cases id with
   | none => exact nomatch hin.symm.trans (h.tracks.queued_of_granted hid).2
   | some i => exact (hcall i).trans (side_grant_self kind hid (h.tracks.queued_of_granted hid).2)
 · cases id with
   | none => exact absurd rfl hne
   | some i => exact (hcall i).trans (side_grant_other kind hid)

end Guarded

namespace Counted
variable {q q':Request}

lemma frame (h:Counted q) (hreaders:q'.readers=q.readers) (hretired:q'.retired=q.retired)
  (hnotified:q'.notified=q.notified) (hinside:∀ i,q'.Inside i↔q.Inside i)
  (hqueued:∀ i,q'.Queued i↔q.Queued i) (hhold:q'.phase.hold .http=q.phase.hold .http)
  (hopen:q'.phase.late=true→ q.phase.late=true) : Counted q' := by
 obtain ⟨⟩:=h
 constructor <;> grind

lemma not_inside (h:Counted q) (hreaders:q.readers=0) (i:ℕ) : ¬q.Inside i := by
 obtain ⟨ids,-,hcount,hids⟩:=h.readers
 have hnil:ids=[]:=eq_nil_of_length_eq_zero (hcount.symm.trans hreaders)
 rw[← hids,hnil]
 exact not_mem_nil

lemma retires (h:Counted q) :
  Counted { q with retired := true,phase := if q.readers=0 then .retired else .queued } := by
 have hunnotified:q.notified=true→ q.readers=0:=fun hn=>(h.notified hn).2
 by_cases hzero:q.readers=0
 · rw[if_pos hzero]
   exact ⟨h.readers,fun _=>rfl,fun _=>hzero,fun _=>⟨rfl,hzero⟩,nofun,h.unqueued,rfl⟩
 · rw[if_neg hzero]
   exact ⟨h.readers,fun _=>rfl,nofun,fun hn=>⟨rfl,hunnotified hn⟩,fun _=>.inl hzero,h.unqueued,rfl⟩

lemma drains (h:Counted q) (hnotified:q.notified=true) :
  Counted { q with phase := .retired } := by
 obtain ⟨hretired,hzero⟩:=h.notified hnotified
 exact ⟨h.readers,fun _=>hretired,fun _=>hzero,h.notified,nofun,h.unqueued,rfl⟩

lemma enters (h:Counted q) (hi:q.deliveries[i]?=some delivery)
  (hplace:delivery.place=.locking) (hretired:q.retired=false) :
  Counted ({ q with readers := q.readers+1 }.place i delivery .checking) := by
 obtain ⟨⟨ids,hnodup,hcount,hids⟩,hflagged,hdrained,hnotified,hqueued,hunqueued,hopened⟩:=h
 have hinside:∀ j,_↔if j=i then _ else q.Inside j:=
  inside_place (q := { q with readers := q.readers+1 }) hi .checking
 have hsame:∀ j,_↔if j=i then _ else q.Queued j:=
  queued_place (q := { q with readers := q.readers+1 }) hi .checking
 have hout:=inside_iff hi
 refine ⟨⟨i::ids,?_⟩,?_,?_,?_,?_,?_,?_⟩ <;> grind[place,Place.inside]

lemma leaves (h:Counted q) (hi:q.deliveries[i]?=some delivery)
  (hplace:delivery.place=.unlocking) :
  Counted ({ q with
   readers := q.readers - 1
   notified := q.notified || (q.retired && q.readers == 1) }.place i delivery .finished) := by
 obtain ⟨ids,hnodup,hcount,hids⟩:=h.readers
 have hmem:i∈ids:=by
  rw[hids,inside_iff hi,hplace]
  rfl
 have hpos:q.readers≠0:=by
  rw[hcount]
  exact fun hzero=>ne_nil_of_mem hmem (eq_nil_of_length_eq_zero hzero)
 have hunnotified:q.notified=false:=by
  by_contra hn
  exact hpos (h.notified (by simpa using hn)).2
 have hqueued:=fun j=>queued_place_same hi (by simp[hplace]) (show Place.finished≠ .queued by simp) j
 refine ⟨⟨ids.erase i,hnodup.erase i,?_,fun j=>?_⟩,h.flagged,?_,?_,?_,?_,h.opened⟩
 · change q.readers - 1=_
   rw[hcount,length_erase_of_mem hmem]
 · refine Iff.trans ?_ (inside_place hi .finished j).symm
   rw[hnodup.mem_erase_iff,hids]
   by_cases hj:j=i
   · simp[hj,Place.inside]
   · simp[hj]
 · exact fun halone=>absurd (h.drained halone) hpos
 · change (q.notified || (q.retired && q.readers == 1))=true→ q.retired=true∧q.readers - 1=0
   rw[hunnotified]
   simp +contextual
 · intro hq
   have hretired:q.retired=true:=h.flagged fun hfree=>nomatch hq.symm.trans hfree
   change q.readers - 1≠0∨(q.notified || (q.retired && q.readers == 1))=true
   rw[hunnotified,hretired]
   simp only[Bool.true_and,Bool.false_or,beq_iff_eq]
   omega
 · exact fun j hj=>h.unqueued j ((hqueued j).mp hj)

end Counted

structure SameGate (kind:Kind) (q q':Request) : Prop where
 lifetimeMutex : q'.lifetimeMutex = q.lifetimeMutex
 readers : q'.readers = q.readers
 retired : q'.retired = q.retired
 notified : q'.notified = q.notified
 inside : ∀ i,q'.Inside i ↔ q.Inside i
 queued : ∀ i,q'.Queued i ↔ q.Queued i
 hold : q'.phase.hold kind = q.phase.hold kind
 opened : kind = .http → q'.phase.late = true → q.phase.late = true

inductive GateMove (e:Endpoint) (q:Request) : Request → Prop
 | same {q':Request} (h:SameGate e.kind q q') : GateMove e q q'
 | counted (hphase:q.phase = .locking) (hkind:e.kind = .http) :
  GateMove e q { q with retired := true,phase := if q.readers = 0 then .retired else .queued }
 | sealed (hphase:q.phase = .locking) (hkind:e.kind ≠ .http) (hadmits:q.lifetimeMutex.admits true = true) :
  GateMove e q { q with lifetimeMutex := q.lifetimeMutex.take true,phase := .retired }
 | enqueued (hphase:q.phase = .locking) (hkind:e.kind ≠ .http)
  (hadmits:q.lifetimeMutex.admits true = false) :
  GateMove e q { q with lifetimeMutex := q.lifetimeMutex.enqueue none true,phase := .queued }
 | drained (hphase:q.phase = .queued) (hkind:e.kind = .http) (hnotified:q.notified = true) :
  GateMove e q { q with phase := .retired }
 | released (hphase:q.phase = .unlocking) : GateMove e q { q.releaseLifetime true with phase := .finished }
 | counting {i:ℕ} {delivery:Delivery} (hi:q.deliveries[i]? = some delivery)
  (hplace:delivery.place = .locking) (hkind:e.kind = .http) (hretired:q.retired = false) :
  GateMove e q ({ q with readers := q.readers + 1 }.place i delivery .checking)
 | entered {i:ℕ} {delivery:Delivery} (hi:q.deliveries[i]? = some delivery)
  (hplace:delivery.place = .locking) (hkind:e.kind ≠ .http) (hadmits:q.lifetimeMutex.admits false = true) :
  GateMove e q ({ q with lifetimeMutex := q.lifetimeMutex.take false }.place i delivery .checking)
 | blocked {i:ℕ} {delivery:Delivery} (hi:q.deliveries[i]? = some delivery)
  (hplace:delivery.place = .locking) (hkind:e.kind ≠ .http) (hadmits:q.lifetimeMutex.admits false = false) :
  GateMove e q ({ q with lifetimeMutex := q.lifetimeMutex.enqueue (some i) false }.place i delivery .queued)
 | uncounting {i:ℕ} {delivery:Delivery} (hi:q.deliveries[i]? = some delivery)
  (hplace:delivery.place = .unlocking) (hkind:e.kind = .http) :
  GateMove e q ({ q with
   readers := q.readers - 1
   notified := q.notified || (q.retired && q.readers == 1) }.place i delivery .finished)
 | left {i:ℕ} {delivery:Delivery} (hi:q.deliveries[i]? = some delivery)
  (hplace:delivery.place = .unlocking) (hkind:e.kind ≠ .http) :
  GateMove e q ((q.place i delivery .finished).releaseLifetime false)

def Request.gate (q:Request) : Mutex (Option ℕ) × ℕ × Bool × Bool :=
 (q.lifetimeMutex,q.readers,q.retired,q.notified)

section SameGate
variable {e:Endpoint} {kind:Kind} {q q':Request}

lemma SameGate.of_deliveries (hgate:q'.gate=q.gate) (hdeliveries:q'.deliveries=q.deliveries)
  (hhold:q'.phase.hold kind=q.phase.hold kind)
  (hopen:kind=.http→ q'.phase.late=true→ q.phase.late=true) : SameGate kind q q' := by
 grind[SameGate,Request.gate,Inside,Request.Queued]

lemma SameGate.of_free (hgate:q'.gate=q.gate) (hdeliveries:q'.deliveries=q.deliveries)
  (hfree:q.phase.hold kind=.free) (hfree':q'.phase.hold kind=.free)
  (hlate:q'.phase.late=false) : SameGate kind q q' :=
 .of_deliveries hgate hdeliveries (hfree'.trans hfree.symm) fun _ h=>by rw[hlate] at h; cases h

lemma SameGate.of_place (hi:q.deliveries[i]?=some delivery)
  (hinside:next.inside=delivery.place.inside) (hplace:delivery.place≠ .queued) (hnext:next≠ .queued)
  (hgate:q'.gate=q.gate) (hdeliveries:q'.deliveries=(q.place i delivery next).deliveries)
  (hphase:q'.phase=q.phase) : SameGate kind q q' := by
 simp only[Request.gate,Prod.mk.injEq] at hgate
 obtain ⟨hmutex,hreaders,hretired,hnotified⟩:=hgate
 refine ⟨hmutex,hreaders,hretired,hnotified,fun j=>?_,fun j=>?_,by rw[hphase],fun _ h=>hphase▸h⟩
 · refine Iff.trans ?_ (inside_place_same hi hinside j)
   unfold Inside
   rw[hdeliveries]
 · refine Iff.trans ?_ (queued_place_same hi hplace hnext j)
   unfold Request.Queued
   rw[hdeliveries]

lemma Phase.hold_queued_iff : phase.hold kind=.queued↔phase=.queued := by
 cases phase with
 | finished =>
  change (if kind=.http then Hold.alone else .free)=.queued↔_
  split <;> simp
 | _ => simp[Phase.hold]

lemma Phase.hold_of_outside (h:phase.outside=true) : phase.hold kind=.free := by
 cases phase <;> first | rfl | cases h

lemma afterBody_eq (hresult:e.kind=.http→ e.hasResult=true) : afterBody e=.locking := by
 refine if_neg ?_
 rintro ⟨hkind,hno⟩
 rw[hresult hkind] at hno
 cases hno

lemma gateMove_of_move {stopped:Bool} {entry entry':Entry} {act:Act}
  (hresult:e.kind=.http→ e.hasResult=true) (h:Move e stopped entry q act q' entry') :
  GateMove e q q' := by
 cases h with
 | counted hphase hkind => exact .counted hphase hkind
 | sealed hphase hkind hadmits => exact .sealed hphase hkind hadmits
 | enqueued hphase hkind hadmits => exact .enqueued hphase hkind hadmits
 | drained hphase hkind hnotified => exact .drained hphase hkind hnotified
 | released hphase => exact .released hphase
 | counting hi hplace hkind hretired => exact .counting hi hplace hkind hretired
 | entered hi hplace hkind hadmits => exact .entered hi hplace hkind hadmits
 | blocked hi hplace hkind hadmits => exact .blocked hi hplace hkind hadmits
 | uncounting hi hplace hkind => exact .uncounting hi hplace hkind
 | left hi hplace hkind => exact .left hi hplace hkind
 | inserted hphase =>
  refine .same (.of_free rfl rfl (by rw[hphase]; rfl) ?_ ?_) <;>
   cases e.kind.grpc <;> rfl
 | duplicate hphase =>
  refine .same (.of_free rfl rfl (by rw[hphase]; rfl) ?_ ?_) <;>
   simp only[fail,afterBody_eq hresult] <;> rfl
 | failed hact hphase =>
  refine .same (.of_free rfl rfl (Phase.hold_of_outside hphase) ?_ ?_) <;>
   simp only[fail,afterBody_eq hresult] <;> rfl
 | bodyDone hphase hact =>
  refine .same (.of_free rfl rfl (Phase.hold_of_outside hphase) ?_ ?_) <;>
   simp only[Request.bodyDone,afterBody_eq hresult] <;> cases e.hasResult <;> rfl
 | registered hphase | reading hphase | readMore hphase | readEnd hphase | woke hphase | overdue hphase
 | outrun hphase | expired hphase | joined hphase | waitFailed hphase | waited hphase =>
  exact .same (.of_free rfl rfl (by rw[hphase]; rfl) rfl rfl)
 | decided hphase =>
  refine .same (.of_deliveries rfl rfl ?_ nofun)
  rcases hphase with ⟨hphase,-⟩ | hphase <;> rw[hphase] <;> rfl
 | popped hphase | resolvedHttp hphase | resolvedGrpc hphase | resolvedCustom hphase =>
  exact .same (.of_deliveries rfl rfl (by rw[hphase]; rfl) nofun)
 | closed hphase =>
  exact .same (.of_deliveries rfl rfl (by rw[hphase]; rfl) fun _ _=>by rw[hphase]; rfl)
 | ended hphase =>
  refine .same (.of_deliveries rfl rfl ?_ fun hkind hlate=>?_)
  · rw[hphase]
    by_cases hkind:e.kind=.http
    · simp[hkind,Phase.hold]
    · cases hgrpc:e.kind.grpc <;> simp[hkind,Phase.hold]
  · simp[hkind,Phase.late] at hlate
 | fired | signalled | cancelling | waked | doneStarted | doneStored | doneLost | doneWon | doneSends | responded
 | registers => exact .same (.of_deliveries rfl rfl rfl fun _ h=>h)
 | passed hi hplace | admitted hi hplace | rejected hi hplace | called hi hplace =>
  exact .same (.of_place hi (by rw[hplace]; rfl) (by simp[hplace]) (by simp) rfl rfl rfl)
 | late hi hplace =>
  refine .same (.of_place hi ?_ ?_ (by simp) rfl rfl rfl) <;>
   rcases hplace with hplace | ⟨hplace,-⟩ <;> simp[hplace,Place.inside]
 | identified hi hplace hnext =>
  refine .same (.of_place hi ?_ (by simp[hplace]) ?_ rfl rfl rfl) <;>
   rcases hnext with rfl | ⟨id,callback,-,-,rfl⟩ <;> simp[hplace,Place.inside]

end SameGate

variable {q':Request}

lemma SameGate.counted (h:SameGate .http q q') (hc:Counted q) : Counted q' :=
 hc.frame h.readers h.retired h.notified h.inside h.queued h.hold (h.opened rfl)

lemma SameGate.guarded (h:SameGate kind q q') (hg:Guarded kind q) :
  Guarded kind q' :=
 hg.frame h.lifetimeMutex h.inside h.queued h.hold

lemma Counted.move {e:Endpoint} (hkind:e.kind=.http) (h:Counted q)
  (hmove:GateMove e q q') : Counted q' := by
 cases hmove with
 | same hsame =>
  rw[hkind] at hsame
  exact hsame.counted h
 | counted => exact h.retires
 | drained _ _ hnotified => exact h.drains hnotified
 | counting hi hplace _ hretired => exact h.enters hi hplace hretired
 | uncounting hi hplace => exact h.leaves hi hplace
 | released hphase =>
  have hopen:=h.opened
  rw[hphase] at hopen
  cases hopen
 | sealed _ hne | enqueued _ hne | entered _ _ hne | blocked _ _ hne | left _ _ hne => exact absurd hkind hne

lemma Guarded.move {e:Endpoint} (hkind:e.kind≠ .http) (h:Guarded e.kind q)
  (hmove:GateMove e q q') : Guarded e.kind q' := by
 cases hmove with
 | same hsame => exact hsame.guarded h
 | sealed hphase _ hadmits => exact h.sealed (by rw[hphase]; rfl) hadmits rfl
 | enqueued hphase _ hadmits => exact h.enqueued (by rw[hphase]; rfl) hadmits rfl
 | released hphase => exact h.released hphase hkind
 | entered hi hplace _ hadmits => exact h.entered hi hplace hadmits
 | blocked hi hplace _ hadmits => exact h.blocked hi hplace hadmits
 | left hi hplace => exact h.left hi hplace
 | counted _ heq | drained _ heq | counting _ _ heq | uncounting _ _ heq => exact absurd heq hkind

def Phase.plain : Phase → Bool
 | .consuming | .ending | .finished => true
 | _ => false

structure Plain (q:Request) : Prop where
 deliveries : q.deliveries = []
 pendingInserted : q.pendingInserted = false
 phase : q.phase.plain = true

structure Gate (e:Endpoint) (q:Request) : Prop where
 counted : e.kind = .http → e.hasResult = true → Counted q
 guarded : e.kind ≠ .http → Guarded e.kind q
 plain : e.kind = .http → e.hasResult = false → Plain q

section Gate
variable {e:Endpoint} {stopped:Bool} {entry entry':Entry} {q q':Request} {act:Act}

lemma Plain.move (hkind:e.kind=.http) (hno:e.hasResult=false) (h:Plain q)
  (hmove:Move e stopped entry q act q' entry') : Plain q' := by
 obtain ⟨hdeliveries,hinserted,hplain⟩:=h
 cases hmove <;> constructor <;> grind[Phase.plain,fail,bodyDone,afterBody,Kind.grpc,register]

lemma Gate.move (h:Gate e q) (hmove:Move e stopped entry q act q' entry') : Gate e q' where
 counted hkind hresult := (h.counted hkind hresult).move hkind (gateMove_of_move (fun _=>hresult) hmove)
 guarded hkind := (h.guarded hkind).move hkind (gateMove_of_move (fun heq=>absurd heq hkind) hmove)
 plain hkind hno := (h.plain hkind hno).move hkind hno hmove

lemma Gate.not_inside (h:Gate e q) (hhold:q.phase.hold e.kind=.alone) (i:ℕ) : ¬q.Inside i := by
 by_cases hkind:e.kind=.http
 · cases hresult:e.hasResult with
   | true =>
    have hc:=h.counted hkind hresult
    exact hc.not_inside (hc.drained (hkind▸hhold)) i
   | false =>
    rintro ⟨delivery,hi,-⟩
    rw[(h.plain hkind hresult).deliveries] at hi
    cases hi
 · exact (h.guarded hkind).not_inside hhold i

lemma Counted.exists_inside (h:Counted q) (hreaders:q.readers≠0) : ∃ i,q.Inside i := by
 obtain ⟨ids,-,hcount,hids⟩:=h.readers
 rw[hcount] at hreaders
 obtain ⟨i,hi⟩:=exists_mem_of_length_pos (Nat.pos_of_ne_zero hreaders)
 exact ⟨i,(hids i).mp hi⟩

lemma Guarded.exists_inside (h:Guarded kind q) (hhold:q.phase.hold kind=.queued) :
  ∃ i,q.Inside i := by
 have hfiber:q.side kind none=.queued:=hold_side_queued_iff.mpr hhold
 obtain ⟨id,hid⟩:=h.tracks.exists_inside hfiber
 cases id with
 | none => exact nomatch hfiber.symm.trans hid
 | some i => exact ⟨i,side_inside_iff.mp hid⟩

lemma Gate.exists_inside (h:Gate e q) (hphase:q.phase=.queued)
  (hnotified:e.kind=.http→ q.notified=false) : ∃ i,q.Inside i := by
 by_cases hkind:e.kind=.http
 · cases hresult:e.hasResult with
   | true =>
    have hc:=h.counted hkind hresult
    refine hc.exists_inside ((hc.queued (by rw[hphase]; rfl)).resolve_right ?_)
    simp[hnotified hkind]
   | false =>
    have hphases:=(h.plain hkind hresult).phase
    rw[hphase] at hphases
    cases hphases
 · exact (h.guarded hkind).exists_inside (by rw[hphase]; rfl)

lemma Guarded.phase_left (h:Guarded kind q) (i:ℕ) (delivery:Delivery) :
  ((q.place i delivery .finished).releaseLifetime false).phase=q.phase ∨
   (q.phase=.queued∧((q.place i delivery .finished).releaseLifetime false).phase=.retired) := by
 change (if _ then Phase.retired else q.phase)=_∨_∧(if _ then Phase.retired else q.phase)=_
 split
 case isTrue hid =>
  have hhold:=h.hold_of_granted hid
  exact .inr ⟨Phase.hold_queued_iff.mp hhold,rfl⟩
 case isFalse => exact .inl rfl

end Gate

end ServiceLib.SourceRequest
