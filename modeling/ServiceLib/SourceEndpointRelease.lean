import ServiceLib.SourceEndpointRuns

set_option autoImplicit false

/-!
# The callbacks that a source request leaves behind

A result callback stays in the map of its request until it accepts a result, is replaced, or the
map is cleared, which only the HTTP endpoint does. Here the beginning of `endRequest` is a step of
its own, after the request is resolved.
-/
namespace ServiceLib.SourceRequest
open Request Transition Function Option

/-- `clearCallbacks` is called before `endRequest`. -/
def Endpoint.Clears (e:Endpoint) : Prop :=
 e.kind = .http ∧ e.hasResult = true

instance (e:Endpoint) : Decidable e.Clears :=
 inferInstanceAs (Decidable (e.kind = .http ∧ e.hasResult = true))

/-- The ids whose callback was last registered before `endRequest` began. -/
def Act.record (begun:Bool) (early:String → Bool) : Act → String → Bool
 | .register messageId _ => update early messageId !begun
 | _ => early

/-- The ids of the registrations after which no callback of the id has accepted a result. -/
def Act.owed (q:Request) (owed:List String) : Act → List String
 | .register messageId _ => messageId :: owed
 | .callback i (some true) =>
  match q.deliveries[i]? with
  | some ⟨_,.calling messageId _⟩ => owed.filter (· ≠ messageId)
  | _ => owed
 | _ => owed

structure Tracked where
 state : State := {}
 begun : ℕ → Bool := fun _=>false
 early : ℕ → String → Bool := fun _ _=>false
 owed : ℕ → List String := fun _=>[]

inductive Event where
 | endRequest (r:ℕ)
 | label (l:Label)
deriving DecidableEq

namespace Tracked

def enabled (e:Endpoint) (t:Tracked) : Label → Bool
 | .act r .ended => t.begun r
 -- without a result stream the context of a gRPC request is empty
 | .act _ (.register _ _) => e.hasResult || !e.kind.grpc
 | _ => true

def record (t:Tracked) : Label → Tracked
 | .act r act =>
  { t with
    early := update t.early r (act.record (t.begun r) (t.early r))
    owed := update t.owed r (act.owed (t.state.requests r) (t.owed r)) }
 | _ => t

def step (e:Endpoint) (t:Tracked) : Event → Option Tracked
 | .endRequest r =>
  if r < t.state.next ∧ (t.state.requests r).phase = .ending ∧ t.begun r = false then
   some { t with begun := update t.begun r true }
  else none
 | .label l =>
  if t.enabled e l then
   (SourceRequest.step e t.state l).map fun s=>{ t.record l with state := s }
  else none

end Tracked

/-- No callback that was registered before `endRequest` began is left. -/
def Request.Released (early:String → Bool) (q:Request) : Prop :=
 ∀ messageId callback,q.callbacks messageId = some callback → early messageId = false

/-- Where the map is not cleared, every registration has seen a callback of its id accept a
result when `endRequest` begins; where it is, none is made between the two. -/
def Tracked.answered (e:Endpoint) (t:Tracked) : Event → Bool
 | .endRequest r => e.Clears || t.owed r = []
 | .label (.act r (.register _ _)) => !e.Clears || (t.state.requests r).phase ≠ .ending || t.begun r
 | .label _ => true

section Moves
variable {e:Endpoint} {stopped:Bool} {entry entry':Entry} {q q':Request} {act:Act}

lemma Move.callbacks_eq (h:Move e stopped entry q act q' entry') (hact:∀ id callback,act≠ .register id callback)
  (messageId:String) : q'.callbacks messageId=q.callbacks messageId∨q'.callbacks messageId=none := by
 cases h with
 | registers id callback => exact absurd rfl (hact id callback)
 | resolvedHttp => exact .inr rfl
 | @called _ _ id _ accepted =>
  change (if accepted=some true then _ else q.callbacks : String→ Option ℕ) messageId=_ ∨
   (if accepted=some true then _ else q.callbacks : String→ Option ℕ) messageId=_
  split
  · rw[update_apply]
    split
    · exact .inr rfl
    · exact .inl rfl
  · exact .inl rfl
 | _ => exact .inl rfl

lemma Move.owed (h:Move e stopped entry q act q' entry') {owed:List String}
  (howed:∀ messageId callback,q.callbacks messageId=some callback→ messageId∈owed) {messageId:String} {callback:ℕ}
  (hcallback:q'.callbacks messageId=some callback) : messageId∈act.owed q owed := by
 cases act with
 | register id callback =>
  cases h with
  | failed hfailing => cases hfailing
  | bodyDone _ hact => rcases hact with ⟨hact,-⟩ | hact <;> cases hact
  | registers =>
   by_cases hid:messageId=id
   · exact hid▸List.mem_cons_self
   · exact List.mem_cons_of_mem _ (howed _ _ ((update_of_ne hid ..).symm.trans hcallback))
 | callback i accepted =>
  cases h with
  | failed hfailing => cases hfailing
  | bodyDone _ hact => rcases hact with ⟨hact,-⟩ | hact <;> cases hact
  | @called _ delivery id _ _ hi hplace =>
   obtain ⟨_,_⟩:=delivery
   subst hplace
   change (if accepted=some true then update q.callbacks id none else q.callbacks) messageId=_ at hcallback
   split at hcallback
   · next haccepted =>
     subst haccepted
     have hid:messageId≠id:=fun heq=>by simp[heq] at hcallback
     rw[update_of_ne hid] at hcallback
     simpa[Act.owed,hi,hid] using howed _ _ hcallback
   · next haccepted =>
     have hsame:(Act.callback i accepted).owed q owed=owed:=by
      rcases accepted with _ | (_ | _)
      · rfl
      · rfl
      · exact absurd rfl haccepted
     rw[hsame]
     exact howed _ _ hcallback
 | _ =>
  rcases h.callbacks_eq (fun _ _=>by simp) messageId with heq | heq
  · exact howed messageId callback (heq.symm.trans hcallback)
  · cases heq.symm.trans hcallback

lemma afterBody_of_clears (he:e.Clears) : afterBody e=.locking :=
 if_neg fun h=>by simp[he.2] at h

/-- With a result stream, the way of an HTTP request to `endRequest` leads over `clearCallbacks`. -/
lemma Move.cleared (h:Move e stopped entry q act q' entry') (he:e.Clears) (hphase:q'.phase=.ending) :
  q.phase=.ending∨∀ messageId,q'.callbacks messageId=none := by
 have hafter:=afterBody_of_clears he
 cases h with
 | resolvedHttp => exact .inr fun _=>rfl
 | duplicate | failed =>
  change afterBody e=_ at hphase
  rw[hafter] at hphase
  cases hphase
 | bodyDone =>
  change (if e.hasResult then Phase.waiting else _)=_ at hphase
  rw[if_pos he.2] at hphase
  cases hphase
 | inserted | counted | ended =>
  dsimp only at hphase
  repeat' split at hphase
  all_goals cases hphase
 | resolvedGrpc _ hkind => exact absurd he.1 (Kind.ne_http_of_grpc hkind)
 | resolvedCustom _ hkind => exact absurd he.1 (Kind.ne_http_of_custom hkind)
 | left _ _ hkind => exact absurd he.1 hkind
 | fired | signalled | cancelling | waked | doneStarted | doneStored | doneLost | doneWon | doneSends | responded
 | registers | passed | late | counting | entered | blocked | admitted | rejected | uncounting | identified
 | called => exact .inl hphase
 | _ => cases hphase

structure Kept (e:Endpoint) (begun:Bool) (early:String → Bool) (owed:List String) (q:Request) : Prop where
 owes : ∀ messageId callback,q.callbacks messageId = some callback → messageId ∈ owed
 ended : q.phase.over → begun = true
 released : begun = true → q.Released early
 cleared : e.Clears → q.phase = .ending → begun = false → ∀ messageId,q.callbacks messageId = none

variable {begun:Bool} {early:String → Bool} {owed:List String}

lemma Kept.begin (h:Kept e begun early owed q) (hphase:q.phase=.ending) (hbegun:begun=false)
  (hok:e.Clears∨owed=[]) : Kept e true early owed q := by
 refine ⟨h.owes,fun _=>rfl,fun _ messageId callback hcallback=>?_,nofun⟩
 rcases hok with he | rfl
 · cases (h.cleared he hphase hbegun messageId).symm.trans hcallback
 · cases h.owes messageId callback hcallback

lemma Kept.register (h:Kept e begun early owed q) (messageId:String) (callback:ℕ)
  (howed:∀ id other,(q.register messageId callback).callbacks id=some other→ id∈messageId::owed)
  (hok:e.Clears→ q.phase=.ending→ begun=true) :
  Kept e begun (update early messageId !begun) (messageId::owed) (q.register messageId callback) := by
 refine ⟨howed,h.ended,fun hbegun id other hother=>?_,fun he hphase hbegun=>?_⟩
 · rw[update_apply]
   split
   · rw[hbegun]
     rfl
   · next hid =>
     exact h.released hbegun id other ((update_of_ne hid ..).symm.trans hother)
 · rw[hok he hphase] at hbegun
   cases hbegun

lemma Kept.move (h:Kept e begun early owed q) (hgate:Gate e q) (hmove:Move e stopped entry q act q' entry')
  (hended:act=.ended→ begun=true)
  (hok:∀ id callback,act=.register id callback→ e.Clears→ q.phase=.ending→ begun=true) :
  Kept e begun (act.record begun early) (act.owed q owed) q' := by
 have howed:∀ id callback,q'.callbacks id=some callback→ id∈act.owed q owed:=fun _ _=>hmove.owed h.owes
 by_cases hact:∃ id callback,act=.register id callback
 · obtain ⟨id,callback,rfl⟩:=hact
   cases hmove with
   | failed hfailing => cases hfailing
   | bodyDone _ hact => rcases hact with ⟨hact,-⟩ | hact <;> cases hact
   | registers => exact h.register id callback howed (hok id callback rfl)
 · have hother:∀ id callback,act≠ .register id callback:=fun id callback heq=>hact ⟨id,callback,heq⟩
   have hrecord:act.record begun early=early:=by
    cases act with
    | register id callback => exact absurd rfl (hother id callback)
    | _ => rfl
   rw[hrecord]
   have hkeeps:=hmove.callbacks_eq hother
   refine ⟨howed,fun hover=>?_,fun hbegun id callback hcallback=>?_,fun he hphase hbegun id=>?_⟩
   · rcases hmove.forward hgate with ⟨hact,-⟩ | ⟨-,-,hback⟩
     · exact hended hact
     · exact h.ended (hback hover)
   · rcases hkeeps id with heq | heq
     · exact h.released hbegun id callback (heq▸hcallback)
     · rw[heq] at hcallback
       cases hcallback
   · rcases hmove.cleared he hphase with hending | hnone
     · exact (hkeeps id).elim (fun heq=>heq.trans (h.cleared he hending hbegun id)) fun heq=>heq
     · exact hnone id

end Moves

namespace Tracked

structure Sound (e:Endpoint) (t:Tracked) : Prop where
 consistent : Consistent e t.state
 kept : ∀ r,r < t.state.next → Kept e (t.begun r) (t.early r) (t.owed r) (t.state.requests r)

variable {e:Endpoint} {t t':Tracked} {event:Event} {r:ℕ}

lemma kept_fresh {s s':State} {l:Label} {begun:Bool} {early:String→ Bool} {owed:List String}
  (h:SourceRequest.step e s l=some s') (hr:¬r < s.next)
  (hlt:r < s'.next) : Kept e begun early owed (s'.requests r) := by
 have hover:¬(s'.requests r).phase.over:=fun hover=>over_fresh h hr ⟨hlt,hover⟩
 cases change_of_step h with
 | began streamId context =>
  obtain rfl:r=s.next:=Nat.le_antisymm (Nat.le_of_lt_succ hlt) (Nat.le_of_not_lt hr)
  have hnone:∀ messageId,((State.beginRequest e s streamId context).requests s.next).callbacks messageId=none:=fun messageId=>by
   change (update s.requests s.next _ s.next).callbacks messageId=_
   rw[update_self]
  refine ⟨fun id _ h=>?_,fun h=>absurd h hover,fun _ id _ h=>?_,fun _ _ _=>hnone⟩ <;>
   cases (hnone id).symm.trans h
 | stopped | ignored | arrived | moved => exact absurd hlt hr

lemma Sound.begin (h:Sound e t) (hr:r < t.state.next) (hphase:(t.state.requests r).phase=.ending)
  (hbegun:t.begun r=false) (hok:e.Clears∨t.owed r=[]) :
  Sound e { t with begun := update t.begun r true } := by
 refine ⟨h.consistent,fun r' hr'=>?_⟩
 dsimp only
 by_cases heq:r'=r
 · subst heq
   rw[update_self]
   exact (h.kept r' hr).begin hphase hbegun hok
 · rw[update_of_ne heq]
   exact h.kept r' hr'

lemma Sound.label {s:State} {l:Label} (h:Sound e t) (hstep:SourceRequest.step e t.state l=some s)
  (henabled:t.enabled e l=true) (hok:t.answered e (.label l)=true) :
  Sound e { t.record l with state := s } := by
 have hbegun:(t.record l).begun=t.begun:=by cases l <;> rfl
 refine ⟨h.consistent.after hstep,fun r hr=>?_⟩
 dsimp only
 rw[hbegun]
 by_cases hknown:r < t.state.next
 · have hkept:=h.kept r hknown
   have hchange:=requestChange_of_step hstep hknown
   generalize s.requests r=q' at hchange
   cases hchange with
   | same hl =>
    have hrecord:(t.record l).early r=t.early r∧(t.record l).owed r=t.owed r:=by
     cases l with
     | act r' act =>
      have hne:r≠r':=fun heq=>hl act (by rw[heq])
      exact ⟨update_of_ne hne ..,update_of_ne hne ..⟩
     | _ => exact ⟨rfl,rfl⟩
    rw[hrecord.1,hrecord.2]
    exact hkept
   | arrived hl =>
    subst hl
    exact ⟨hkept.owes,hkept.ended,hkept.released,hkept.cleared⟩
   | @moved act q' entry' hl hmove =>
    subst hl
    have hearly:(t.record (.act r act)).early r=act.record (t.begun r) (t.early r):=update_self ..
    have howed:(t.record (.act r act)).owed r=act.owed (t.state.requests r) (t.owed r):=update_self ..
    rw[hearly,howed]
    refine hkept.move (h.consistent.sound r hknown).gate hmove ?_ ?_
    · rintro rfl
      exact henabled
    · rintro id callback rfl he hphase
      simpa[answered,he,hphase] using hok
 · exact kept_fresh hstep hknown hr

lemma Sound.after (h:Sound e t) (hok:t.answered e event=true) (hstep:step e t event=some t') :
  Sound e t' := by
 cases event with
 | endRequest r =>
  obtain ⟨⟨hr,hphase,hbegun⟩,hnext⟩:=ite_none_right_eq_some.mp hstep
  cases hnext
  exact h.begin hr hphase hbegun (by simpa[answered] using hok)
 | label l =>
  obtain ⟨henabled,hnext⟩:=ite_none_right_eq_some.mp hstep
  obtain ⟨s,hs,rfl⟩:=map_eq_some_iff.mp hnext
  exact h.label hs henabled hok

/-- On every way to its end a request loses the callbacks from before its `endRequest`. -/
theorem callbacks_released {events : List Event} (hrun : exec (step e) {} events = some t)
  (hok : Along (step e) (fun t event => t.answered e event = true) {} events) (hr : r < t.state.next)
  (hphase : (t.state.requests r).phase = .finished) :
  (t.state.requests r).Released (t.early r) := by
 have hinitial:Sound e {}:=⟨consistent_initial,fun _ h=>absurd h (Nat.not_lt_zero _)⟩
 have hsound:Sound e t:=
  exec_invariant_along (I := Sound e) (fun _ _ _ h hok hstep=>h.after hok hstep) hinitial hok hrun
 have hkept:=hsound.kept r hr
 refine hkept.released (hkept.ended ?_)
 rw[hphase]
 decide

/-- A request with a callback whose deadline passes after the `results`; `wait` and `last`
are what it does from there to `endRequest` and after it. -/
def overdueRun (results:List Label) (wait last:List Act) : List Event :=
 let labels:=.beginRequest "a" { deadline := true } ::
  [.run,.register "m" 0,.consumed false].map (Label.act 0) ++ results ++ (.fire .deadline :: wait).map (.act 0)
 labels.map .label ++ .endRequest 0 :: last.map fun act=>.label (.act 0 act)

def clearedRun : List Event :=
 overdueRun [] [.notify .deadline,.run,.run,.run,.run,.run,.run] [.ended]

/-- On a local endpoint the callback accepts a result before the deadline. -/
def answeredRun : List Event :=
 overdueRun (.result "a" none ::
  [.advance 0,.advance 0,.identify 0 (some "m"),.callback 0 (some true),.advance 0].map (.act 0))
  [.run,.run,.run,.run,.run] [.ended,.run]

theorem callbacks_released_runs :
  (∃ t, exec (step ⟨.http, true⟩) {} clearedRun = some t ∧
   (t.state.requests 0).phase = .finished ∧ (t.state.requests 0).Released (t.early 0)) ∧
  ∃ t, exec (step ⟨.localSource, true⟩) {} answeredRun = some t ∧
   (t.state.requests 0).phase = .finished ∧ (t.state.requests 0).Released (t.early 0) := by
 have hcleared:(exec (step ⟨.http,true⟩) {} clearedRun).map
  (fun t=>(t.state.next,(t.state.requests 0).phase))=some (1,.finished) := by decide +kernel
 have hanswered:(exec (step ⟨.localSource,true⟩) {} answeredRun).map
  (fun t=>(t.state.next,(t.state.requests 0).phase))=some (1,.finished) := by decide +kernel
 obtain ⟨t,hrun,ht⟩:=map_eq_some_iff.mp hcleared
 obtain ⟨t',hrun',ht'⟩:=map_eq_some_iff.mp hanswered
 obtain ⟨hnext,hphase⟩:=Prod.mk.inj ht
 obtain ⟨hnext',hphase'⟩:=Prod.mk.inj ht'
 refine ⟨⟨t,hrun,hphase,callbacks_released hrun ?_ (by omega) hphase⟩,
  t',hrun',hphase',callbacks_released hrun' ?_ (by omega) hphase'⟩ <;> decide +kernel

/-- The run on a local endpoint, whose `process` has no `clearCallbacks`. -/
def leakingRun : List Event :=
 overdueRun [] [.run,.run,.run,.run,.run] [.ended,.run]

theorem callback_left : ∃ t, exec (step ⟨.localSource, true⟩) {} leakingRun = some t ∧
  (t.state.requests 0).phase = .finished ∧ ¬(t.state.requests 0).Released (t.early 0) := by
 have hrun:(exec (step ⟨.localSource,true⟩) {} leakingRun).map (fun t =>
  ((t.state.requests 0).phase,(t.state.requests 0).callbacks "m",t.early 0 "m")) =
  some (.finished,some 0,true) := by decide +kernel
 obtain ⟨t,hrun,ht⟩:=map_eq_some_iff.mp hrun
 obtain ⟨hphase,hrest⟩:=Prod.mk.inj ht
 obtain ⟨hcallback,hearly⟩:=Prod.mk.inj hrest
 refine ⟨t,hrun,hphase,fun hreleased=>?_⟩
 rw[hreleased "m" 0 hcallback] at hearly
 cases hearly

end Tracked

end ServiceLib.SourceRequest
