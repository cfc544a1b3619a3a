import ServiceLib.ClientStreamingSinkMoves

set_option autoImplicit false
attribute [-instance] instBooleanRingBool

/-!
# The handler lock of a client-streaming session

Calls take the shared side of the lock around `consumeMessage`, responses the exclusive side
around `handleResponse`.
-/
namespace ServiceLib.ClientStreamingSink
open SharedMutex Session

def CallPlace.side : CallPlace → Side
 | .queued => .queued
 | .checking | .consuming | .unlocking => .inside
 | _ => .outside

def ResponsePlace.side : ResponsePlace → Side
 | .queued => .queued
 | .checking | .handling | .unlocking _ => .inside
 | _ => .outside

def Actor.writer : Actor → Bool
 | .response _ => true
 | _ => false

def Actor.act : Actor → Act
 | .call i => .call i
 | .response j => .respond j
 | .finalizer => .finalize

namespace Session

def side (q:Session) : Actor → Side
 | .call i => (q.calls[i]?).elim .outside fun call=>call.place.side
 | .response j => (q.responses[j]?).elim .outside ResponsePlace.side
 | .finalizer => .outside

def Locking (q:Session) : Actor → Prop
 | .call i => ∃ call,q.calls[i]? = some call ∧ call.place = .locking
 | .response j => q.responses[j]? = some .locking
 | .finalizer => False

end Session

inductive GateMove (q:Session) (act:Act) (q':Session) : Prop
 | same (hmutex:q'.handlerMutex = q.handlerMutex) (hside:q'.side = q.side)
 | entered {a:Actor} (hout:q.side a = .outside) (hadmits:q.handlerMutex.admits a.writer = true)
  (hmutex:q'.handlerMutex = q.handlerMutex.take a.writer) (hself:q'.side a = .inside)
  (hother:∀ b,b ≠ a → q'.side b = q.side b)
 | blocked {a:Actor} (hact:act = a.act) (hlocking:q.Locking a) (hout:q.side a = .outside)
  (hadmits:q.handlerMutex.admits a.writer = false)
  (hmutex:q'.handlerMutex = q.handlerMutex.enqueue a a.writer) (hself:q'.side a = .queued)
  (hother:∀ b,b ≠ a → q'.side b = q.side b)
 | left {a:Actor} (hin:q.side a = .inside) (hhost:act = a.act)
  (hmutex:q'.handlerMutex = (q.handlerMutex.release a.writer).1)
  (hself:⟨a,a.writer⟩ ∉ (q.handlerMutex.release a.writer).2 → q'.side a = .outside)
  (hgranted:∀ b,b ≠ a → q.side b = .queued → ⟨b,b.writer⟩ ∈ (q.handlerMutex.release a.writer).2 →
   q'.side b = .inside)
  (hother:∀ b,b ≠ a → ⟨b,b.writer⟩ ∉ (q.handlerMutex.release a.writer).2 → q'.side b = q.side b)

variable {place:ResponsePlace} {a:Actor} {granted:List (Waiter Actor)}

section Side
variable {q q':Session} {i j:ℕ} {call:Call}

lemma side_call (hi:q.calls[i]?=some call) : q.side (.call i)=call.place.side := by
 simp[side,hi]

lemma side_response (hj:q.responses[j]?=some place) :
  q.side (.response j)=place.side := by
 simp[side,hj]

lemma getElem?_place (hi:q.calls[i]?=some call) (next:CallPlace) (j:ℕ) :
  (q.place i call next).calls[j]?=if j=i then some { call with place := next } else q.calls[j]? := by
 grind[Session.place]

lemma side_place_self (hi:q.calls[i]?=some call) (next:CallPlace) :
  (q.place i call next).side (.call i)=next.side := by
 simp[side,getElem?_place hi]

lemma side_place_other (next:CallPlace) (ha:a≠ .call i) :
  (q.place i call next).side a=q.side a := by
 cases a <;> grind[side,Session.place]

lemma side_placeResponse_self (hj:q.responses[j]?=some place) (next:ResponsePlace) :
  (q.placeResponse j next).side (.response j)=next.side := by
 have hlt:j < q.responses.length:=(List.getElem?_eq_some_iff.mp hj).1
 simp[side,placeResponse,hlt]

lemma side_placeResponse_other (q:Session) (next:ResponsePlace) (ha:a≠ .response j) :
  (q.placeResponse j next).side a=q.side a := by
 cases a <;> grind[side,placeResponse]

lemma side_grant_self (ha:⟨a,a.writer⟩∈granted)
  (hqueued:q.side a=.queued) : (q.grant granted).side a=.inside := by
 cases a <;> grind[side,grant,Actor.writer,CallPlace.side,ResponsePlace.side]

lemma side_grant_other (ha:⟨a,a.writer⟩∉granted) :
  (q.grant granted).side a=q.side a := by
 cases a <;> grind[side,grant,Actor.writer,CallPlace.side,ResponsePlace.side]

lemma side_congr (hcalls:q'.calls=q.calls) (hresponses:q'.responses=q.responses) : q'.side=q.side := by
 funext a
 cases a with
 | call i => simp only[side,hcalls]
 | response j => simp only[side,hresponses]
 | finalizer => rfl

@[simp] lemma calls_finishAsync (failed:Bool) : (q.finishAsync failed).calls=q.calls := by
 unfold finishAsync
 split <;> rfl

@[simp] lemma responses_finishAsync (failed:Bool) : (q.finishAsync failed).responses=q.responses := by
 unfold finishAsync
 split <;> rfl

@[simp] lemma handlerMutex_finishAsync (failed:Bool) : (q.finishAsync failed).handlerMutex=q.handlerMutex := by
 unfold finishAsync
 split <;> rfl

@[simp] lemma ready_finishAsync (failed:Bool) : (q.finishAsync failed).ready=q.ready := by
 unfold finishAsync
 split <;> rfl

lemma GateMove.of_place {act:Act} (hi:q.calls[i]?=some call) (next:CallPlace)
  (hnext:next.side=call.place.side) (hmutex:q'.handlerMutex=q.handlerMutex)
  (hcalls:q'.calls=(q.place i call next).calls) (hresponses:q'.responses=q.responses) :
  GateMove q act q' := by
 refine .same hmutex ((side_congr hcalls hresponses).trans (funext fun a=>?_))
 grind[side_place_self,side_call,side_place_other]

lemma GateMove.of_placeResponse {act:Act} {next:ResponsePlace} (hj:q.responses[j]?=some place)
  (hresponses:q'.responses=(q.placeResponse j next).responses) (hnext:next.side=place.side)
  (hmutex:q'.handlerMutex=q.handlerMutex) (hcalls:q'.calls=q.calls) : GateMove q act q' := by
 refine .same hmutex ((side_congr (q := q.placeResponse j next) hcalls hresponses).trans (funext fun a=>?_))
 grind[side_placeResponse_self,side_response,side_placeResponse_other]

end Side

variable {k:ℕ} {call:Call}

section Gate
variable {own pop:Bool} {q q':Session} {act:Act}

lemma gateMove_of_move (h:Move own q act q' pop) : GateMove q act q' := by
 cases h with
 | entered hi hplace hadmits =>
  refine .entered (a := .call _) ?_ hadmits rfl (side_place_self hi .checking) fun _ ha=>side_place_other .checking ha
  rw[side_call hi,hplace]; rfl
 | @blocked i call hi hplace hadmits =>
  refine .blocked (a := .call i) rfl ⟨call,hi,hplace⟩ ?_ hadmits rfl (side_place_self hi .queued)
   fun _ ha=>side_place_other .queued ha
  rw[side_call hi,hplace]; rfl
 | @left i call hi hplace =>
  have hin:q.side (.call i)=.inside:=by rw[side_call hi,hplace]; rfl
  refine .left hin rfl rfl (fun ha=>?_) (fun b hb hqueued hmem=>?_) fun b hb hmem=>?_
  · exact (side_grant_other ha).trans (side_place_self hi .releasing)
  · exact side_grant_self hmem ((side_place_other .releasing hb).trans hqueued)
  · exact (side_grant_other hmem).trans (side_place_other .releasing hb)
 | responded =>
  refine .same rfl (funext fun a=>?_)
  cases a <;> grind[side,ResponsePlace.side]
 | @sealed j hj hadmits =>
  exact .entered (a := .response j) (side_response hj) hadmits rfl (side_placeResponse_self hj .checking)
   fun _ ha=>side_placeResponse_other q .checking ha
 | @enqueued j hj hadmits =>
  exact .blocked (a := .response j) rfl hj (side_response hj) hadmits rfl (side_placeResponse_self hj .queued)
   fun _ ha=>side_placeResponse_other q .queued ha
 | @opened j threw hj =>
  have hin:q.side (.response j)=.inside:=side_response hj
  have hnext:(if threw then ResponsePlace.failing else .releasing).side=.outside:=by cases threw <;> rfl
  refine .left hin rfl rfl (fun ha=>?_) (fun b hb hqueued hmem=>?_) fun b hb hmem=>?_
  · exact (side_grant_other ha).trans ((side_placeResponse_self hj _).trans hnext)
  · exact side_grant_self hmem ((side_placeResponse_other q _ hb).trans hqueued)
  · exact (side_grant_other hmem).trans (side_placeResponse_other q _ hb)
 | skipped hj | answering hj | duplicate hj | handling hj | handled hj | responseFailing hj | responseReleased hj =>
  exact .of_placeResponse hj rfl rfl rfl rfl
 | responseClosing hj =>
  have hnext:ResponsePlace.side .releasing=ResponsePlace.side .closing:=rfl
  exact .of_placeResponse hj (by simp[placeResponse]) hnext (by simp[placeResponse]) (by simp[placeResponse])
 | completed | drained | ended | popped | unheard => exact .same rfl rfl
 | closed => exact .same (handlerMutex_finishAsync _) (side_congr (calls_finishAsync _) (responses_finishAsync _))
 | beginFailed hi hplace | began hi hplace | dropped hi hplace | startFailed hi hplace | started hi hplace
 | failing hi hplace | initialized hi hplace | rejected hi hplace | passed hi hplace
 | abandoned hi hplace | roused hi hplace | refused hi hplace | acquired hi hplace | admitted hi hplace
 | late hi hplace | consumed hi hplace | released hi hplace =>
  exact .of_place hi _ (by rw[hplace]; rfl) rfl rfl rfl
 | closing hi hplace =>
  refine .of_place hi .releasing (by rw[hplace]; rfl) ?_ ?_ ?_ <;> simp[Session.place]

lemma GateMove.tracks (h:GateMove q act q') (hq:Tracks q.handlerMutex Actor.writer q.side) :
  Tracks q'.handlerMutex Actor.writer q'.side := by
 cases h with
 | same hmutex hside =>
  rw[hmutex,hside]
  exact hq
 | entered hout hadmits hmutex hself hother =>
  rw[hmutex]
  exact hq.take hout hadmits hself hother
 | blocked _ _ hout hadmits hmutex hself hother =>
  rw[hmutex]
  exact hq.enqueue hout hadmits hself hother
 | @left a hin _ hmutex hself hgranted hother =>
  have hkept:∀ b,⟨b,b.writer⟩∈(q.handlerMutex.release a.writer).2→ b≠a:=by
   rintro b hb rfl
   exact nomatch hin.symm.trans (hq.queued_of_granted hb).2
  rw[hmutex]
  refine hq.release hin (hself fun ha=>hkept a ha rfl) (fun b hb=>?_) hother
  exact hgranted b (hkept b hb) (hq.queued_of_granted hb).2 hb

lemma GateMove.orderly (h:GateMove q act q') (hq:q.handlerMutex.Orderly) : q'.handlerMutex.Orderly := by
 cases h <;> grind[Mutex.Orderly.take,Mutex.Orderly.enqueue,Mutex.Orderly.release]

lemma GateMove.queued (h:GateMove q act q') (hq:Tracks q.handlerMutex Actor.writer q.side)
  (ha:q'.side a=.queued) :
  q.side a=.queued∨(act=a.act∧q.Locking a∧q.handlerMutex.admits a.writer=false) := by
 cases h with
 | same _ hside => exact .inl (hside▸ha)
 | @entered b _ _ _ hself hother => grind
 | @blocked b hact hlocking _ hadmits _ _ hother => grind
 | @left b hin _ _ hself hgranted hother =>
  by_cases hmem:⟨a,a.writer⟩∈(q.handlerMutex.release b.writer).2
  · exact .inl (hq.queued_of_granted hmem).2
  · grind

lemma GateMove.queued_of_inside (h:GateMove q act q') (hq:Tracks q.handlerMutex Actor.writer q.side) {b:Actor}
  (ha:q.side a=.queued) (hb:q.side b=.inside) (hstays:act≠b.act) : q'.side a=.queued := by
 cases h with
 | same _ hside => exact hside▸ha
 | @entered c hout _ _ _ hother | @blocked c _ _ hout _ _ _ hother => grind
 | @left c hin hact _ _ _ hother =>
  have hne:a≠c:=by
   rintro rfl
   exact nomatch ha.symm.trans hin
  have hbc:b≠c:=fun heq=>hstays (heq▸hact)
  refine (hother a hne ?_).trans ha
  rw[hq.granted_eq_nil hin hb hbc]
  exact List.not_mem_nil

lemma Move.not_consuming (h:Move own q (.call k) q' pop) (hk:q.calls[k]?=some call) :
  call.place≠ .consuming := by
 grind[Move]

lemma Move.queued_of_closed (h:Move own q (.call k) q' pop) (hk:q.calls[k]?=some call)
  (hlocking:call.place=.locking) (hclosed:q.handlerMutex.admits false=false) :
  q'.side (.call k)=.queued := by
 cases h <;> grind[side_place_self,CallPlace.side]

end Gate

def CallPlace.creating : CallPlace → Bool
 | .beginning | .starting => true
 | _ => false

/-- Places that a call reaches only when the session is there. -/
def CallPlace.past : CallPlace → Bool
 | .acquiring | .locking | .queued | .checking | .consuming | .unlocking => true
 | _ => false

/-- Only the first call creates the session, and the others wait for it. -/
def Ordered (ready:Bool) (calls:List Call) : Prop :=
 ∀ (i:ℕ) call,calls[i]? = some call →
  (call.place.creating = true → i = 0 ∧ ready = false) ∧ (call.place.past = true → ready = true)

variable {next:CallPlace}

section Ordered
variable {ready:Bool} {calls:List Call} {i:ℕ} {call:Call}

lemma getElem?_set_call (hi:calls[i]?=some call) (new:Call) (j:ℕ) :
  (calls.set i new)[j]?=if j=i then some new else calls[j]? := by
 grind

lemma Ordered.set (h:Ordered ready calls) (hi:calls[i]?=some call)
  (hcreating:next.creating=true→ call.place.creating=true) (hpast:next.past=true→ ready=true) :
  Ordered ready (calls.set i { call with place := next }) := by
 grind[Ordered]

lemma Ordered.grant (h:Ordered ready calls)
  (hgranted:∀ (j:ℕ) old,calls[j]?=some old→⟨.call j,false⟩∈granted→ old.place=.queued) :
  Ordered ready (calls.mapIdx fun j old =>
   if ⟨.call j,false⟩∈granted then { old with place := .checking } else old) := by
 grind[Ordered,CallPlace.creating,CallPlace.past]

lemma Ordered.append (h:Ordered ready calls) (parent:Option (ℕ×Actor)) :
  Ordered ready (calls++[⟨parent,.found⟩]) := by
 grind[Ordered,CallPlace.creating,CallPlace.past]

end Ordered

structure Sound (q:Session) : Prop where
 tracks : Tracks q.handlerMutex Actor.writer q.side
 orderly : q.handlerMutex.Orderly
 ordered : Ordered q.ready q.calls
 closed : q.ending ≠ .open → q.closed = true

def Session.Hosts (q:Session) : Actor → Prop
 | .call i => ∃ call,q.calls[i]? = some call ∧ (call.place = .beginning ∨ call.place = .consuming)
 | .response j => q.responses[j]? = some .handling
 | .finalizer => q.ending = .ending

variable {j:ℕ} {old:Call}

section Sound
variable {own pop:Bool} {q q':Session} {act:Act}

lemma Sound.place_of_granted (h:Sound q) {writer:Bool} (hj:q.calls[j]?=some old)
  (hmem:⟨.call j,false⟩∈(q.handlerMutex.release writer).2) : old.place=.queued := by
 have hside:=(h.tracks.queued_of_granted hmem).2
 rw[side_call hj] at hside
 cases hplace:old.place <;> rw[hplace] at hside <;> first | rfl | cases hside

lemma Sound.ordered_move (h:Sound q) (hmove:Move own q act q' pop) : Ordered q'.ready q'.calls := by
 have hordered:=h.ordered
 cases hmove with
 | @left i call hi hplace =>
  have hset:Ordered q.ready (q.calls.set i { call with place:=.releasing }) := h.ordered.set hi nofun nofun
  refine hset.grant fun j old hj hmem=>?_
  change _∈(q.handlerMutex.release false).2 at hmem
  have hgranted (k:ℕ) (old:Call) (hk:q.calls[k]?=some old)
   (hmem:⟨.call k,false⟩∈(q.handlerMutex.release false).2) := h.place_of_granted hk hmem
  grind
 | opened => exact h.ordered.grant fun j old hj hmem=>h.place_of_granted hj hmem
 | _ => grind[Ordered,Session.place,placeResponse,Session.release,finishAsync,CallPlace.creating,CallPlace.past]

lemma Sound.closed_move (h:Sound q) (hmove:Move own q act q' pop) : q'.ending≠ .open→ q'.closed=true := by
 have hclosed:=h.closed
 cases hmove <;> grind[Session.place,placeResponse,Session.release,finishAsync,releaseHandler,Session.grant]

lemma Sound.move (h:Sound q) (hmove:Move own q act q' pop) : Sound q' where
 tracks := (gateMove_of_move hmove).tracks h.tracks
 orderly := (gateMove_of_move hmove).orderly h.orderly
 ordered := h.ordered_move hmove
 closed := h.closed_move hmove

lemma Move.calls_length (h:Move own q act q' pop) : q'.calls.length=q.calls.length := by
 cases h <;> grind[Session.place,placeResponse,Session.release,finishAsync,releaseHandler,Session.grant]

lemma Move.responses_length (h:Move own q act q' pop) : q.responses.length≤q'.responses.length := by
 cases h <;> grind[Session.place,placeResponse,Session.release,finishAsync,releaseHandler,Session.grant]

structure Onward (act:Act) (i:ℕ) (old new:Call) : Prop where
 parent : new.parent = old.parent
 finished : old.place = .finished → new.place = .finished
 hosts : (old.place = .beginning ∨ old.place = .consuming) → new.place = old.place ∨ act.host = some (.call i)

lemma Onward.refl (act:Act) (i:ℕ) (call:Call) : Onward act i call call :=
 ⟨rfl,id,fun _=>.inl rfl⟩

lemma onward_set {i:ℕ} (hi:q.calls[i]?=some call)
  (hj:q.calls[j]?=some old) (hfinished:call.place≠ .finished)
  (hhosts:(call.place=.beginning∨call.place=.consuming)→ act.host=some (.call i)) :
  ∃ new,(q.calls.set i { call with place := next })[j]?=some new∧Onward act j old new := by
 grind[Onward]

lemma onward_grant {calls:List Call}
  (hj:calls[j]?=some old) (hgranted:⟨.call j,false⟩∈granted→ old.place=.queued) :
  ∃ new,(calls.mapIdx fun k call =>
   if ⟨.call k,false⟩∈granted then { call with place := .checking } else call)[j]?=some new ∧
    Onward act j old new := by
 grind[Onward]

lemma Sound.onward (h:Sound q) (hmove:Move own q act q' pop)
  (hj:q.calls[j]?=some old) : ∃ new,q'.calls[j]?=some new∧Onward act j old new := by
 cases hmove with
 | @left i call hi hplace =>
  change ∃ new,((q.calls.set i _).mapIdx _)[j]?=some new∧_
  by_cases heq:j=i
  · subst heq
    obtain rfl:=Option.some.inj (hi.symm.trans hj)
    have hget:=getElem?_set_call hi { call with place:=.releasing } j
    rw[if_pos rfl] at hget
    obtain ⟨new,hnew,honward⟩ : ∃ new,_∧Onward (.call j) j _ new:=onward_grant hget fun hmem =>
     nomatch hplace.symm.trans (h.place_of_granted hi hmem)
    exact ⟨new,hnew,honward.parent,by simp[hplace],by simp[hplace]⟩
  · have hget:=getElem?_set_call hi { call with place:=.releasing } j
    rw[if_neg heq,hj] at hget
    exact onward_grant hget fun hmem=>h.place_of_granted hj hmem
 | opened => exact onward_grant hj fun hmem=>h.place_of_granted hj hmem
 | beginFailed hi hplace | began hi hplace | consumed hi hplace =>
  exact onward_set hi hj (by simp[hplace]) fun _=>rfl
 | dropped hi hplace | startFailed hi hplace | started hi hplace | failing hi hplace | initialized hi hplace
 | rejected hi hplace | passed hi hplace | abandoned hi hplace | roused hi hplace | refused hi hplace
 | acquired hi hplace | entered hi hplace | blocked hi hplace | admitted hi hplace | late hi hplace
 | released hi hplace => exact onward_set hi hj (by simp[hplace]) (by simp[hplace])
 | closing hi hplace =>
  simp only[Session.place,calls_finishAsync]
  exact onward_set hi hj (by simp[hplace]) (by simp[hplace])
 | responseClosing | closed => exact ⟨old,by simpa[placeResponse] using hj,.refl ..⟩
 | _ => exact ⟨old,hj,.refl ..⟩

end Sound

section Hosts
variable {own pop:Bool} {q q':Session} {act:Act}

lemma handling_set {responses:List ResponsePlace} {next:ResponsePlace}
  (hk:responses[k]?=some place) (hplace:place≠ .handling) (hj:responses[j]?=some .handling) :
  (responses.set k next)[j]?=some .handling := by
 grind

lemma Sound.handling_grant (h:Sound q) {responses:List ResponsePlace} {writer:Bool}
  (hj:q.responses[j]?=some .handling) (hget:responses[j]?=some .handling) :
  (responses.mapIdx fun k place =>
   if ⟨.response k,true⟩∈(q.handlerMutex.release writer).2 then ResponsePlace.checking else place)[j]? =
    some .handling := by
 have hmem:⟨.response j,true⟩∉(q.handlerMutex.release writer).2:=by
  intro hmem
  exact nomatch (side_response hj).symm.trans (h.tracks.queued_of_granted hmem).2
 grind

lemma Sound.handling (h:Sound q) (hmove:Move own q act q' pop)
  (hj:q.responses[j]?=some .handling) :
  q'.responses[j]?=some .handling∨act.host=some (.response j) := by
 cases hmove with
 | opened hk => exact .inl (h.handling_grant hj (handling_set hk nofun hj))
 | left => exact .inl (h.handling_grant hj hj)
 | _ => grind[Session.place,placeResponse,Session.release,finishAsync,Act.host]

lemma Sound.hosts (h:Sound q) (hmove:Move own q act q' pop) (ha:q.Hosts a) :
  q'.Hosts a∨act.host=some a := by
 cases a with
 | call i =>
  obtain ⟨old,hi,hplace⟩:=ha
  obtain ⟨new,hnew,honward⟩:=h.onward hmove hi
  refine (honward.hosts hplace).imp_left fun hsame=>⟨new,hnew,?_⟩
  rw[hsame]
  exact hplace
 | response j => exact h.handling hmove ha
 | finalizer =>
  have hclosed:=h.closed
  cases hmove <;>
   grind[Session.Hosts,Session.place,placeResponse,Session.release,finishAsync,releaseHandler,Session.grant,Act.host]

end Hosts

end ServiceLib.ClientStreamingSink
