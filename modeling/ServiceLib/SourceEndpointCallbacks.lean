import ServiceLib.SourceEndpointRuns

set_option autoImplicit false

/-!
# The registration that an accepted result removes

`consumeResult` reads the callback of a message id, runs it without the lock of the map and
then erases the entry of the id, which can be that of a callback registered meanwhile.
-/
namespace ServiceLib.SourceRequest
open Request Transition Function Option

def withoutRegistration (callbacks:String → Option ℕ) (messageId:String) (callback:ℕ) : String → Option ℕ :=
 if callbacks messageId = some callback then update callbacks messageId none else callbacks

variable {e:Endpoint} {s s':State} {r i:ℕ} {parent:Option (ℕ × ℕ)} {messageId:String} {callback:ℕ}

/-- The step erases by the message id alone. -/
lemma callbacks_of_accepted (hcall:s.delivery? (r,i)=some ⟨parent,.calling messageId callback⟩)
  (hstep:step e s (.act r (.callback i (some true)))=some s') :
  (s'.requests r).callbacks=update (s.requests r).callbacks messageId none := by
 cases change_of_step hstep with
 | moved hr hmove =>
  rw[requests_store,if_pos rfl]
  cases hmove with
  | failed hfailing => cases hfailing
  | bodyDone _ hact => rcases hact with ⟨hact,-⟩ | hact <;> cases hact
  | called hi hplace =>
   obtain rfl:=some.inj (hcall.symm.trans hi)
   cases hplace
   rfl

lemma delivery_of_identified (hcall:s.delivery? (r,i)=some ⟨parent,.identifying⟩)
  (hcallback:(s.requests r).callbacks messageId=some callback)
  (hstep:step e s (.act r (.identify i (some messageId)))=some s') : s'.delivery? (r,i)=some ⟨parent,.calling messageId callback⟩ := by
 obtain ⟨-,hmap⟩:=ite_none_right_eq_some.mp hstep
 have hi:(s.requests r).deliveries[i]?=some ⟨parent,.identifying⟩:=hcall
 have hidentify:(s.requests r).identify i (some messageId) =
  some ((s.requests r).place i ⟨parent,.identifying⟩ (.calling messageId callback)):=by
  simp[identify,hi,hcallback]
 rw[Request.step,hidentify] at hmap
 obtain rfl:=some.inj hmap
 change ((s.store r _).requests r).deliveries[i]?=_
 rw[requests_store,if_pos rfl,getElem?_place hi,if_pos rfl]

lemma withoutRegistration_eq_update_iff (callbacks:String→ Option ℕ) (messageId:String) (callback:ℕ) :
  update callbacks messageId none=withoutRegistration callbacks messageId callback ↔
   ∀ other,callbacks messageId=some other→ other=callback := by
 unfold withoutRegistration
 split
 case isTrue hown =>
  refine iff_of_true rfl fun other hother=>?_
  exact some.inj (hother.symm.trans hown)
 case isFalse hown =>
  constructor
  · intro heq other hother
    have hnone:=congrFun heq messageId
    rw[update_self,hother] at hnone
    cases hnone
  · intro hall
    have hnone:callbacks messageId=none:=
     eq_none_iff_forall_ne_some.mpr fun other hother=>hown (hall other hother▸hother)
    rw[← hnone,update_eq_self]

/-- In whatever state, a callback that returns true removes its own registration and no other if
and only if no other callback is then registered under its id; and a result goes to the callback
that is registered under its id. -/
theorem accepted_removes_own_iff (e : Endpoint) (s : State) :
  (∀ r i parent messageId callback s', s.delivery? (r, i) = some ⟨parent, .calling messageId callback⟩ →
   step e s (.act r (.callback i (some true))) = some s' →
   ((s'.requests r).callbacks = withoutRegistration (s.requests r).callbacks messageId callback ↔
    ∀ other, (s.requests r).callbacks messageId = some other → other = callback)) ∧
  ∀ r i parent messageId callback s', s.delivery? (r, i) = some ⟨parent, .identifying⟩ →
   step e s (.act r (.identify i (some messageId))) = some s' →
   (s.requests r).callbacks messageId = some callback →
   s'.delivery? (r, i) = some ⟨parent, .calling messageId callback⟩ := by
 refine ⟨fun r i parent messageId callback s' hcall hstep=>?_,fun r i parent messageId callback s' hcall hstep=>?_⟩
 · rw[callbacks_of_accepted hcall hstep]
   exact withoutRegistration_eq_update_iff _ _ _
 · intro hcallback
   exact delivery_of_identified hcall hcallback hstep

def acceptedRun (registered:List Label) : Option (State × State) := do
 let s ← exec (step ⟨.localSource,true⟩) {}
  ([.beginRequest "a" {},.act 0 .run,.act 0 (.register "m" 0),.result "a" none,.act 0 (.advance 0),
   .act 0 (.advance 0),.act 0 (.identify 0 (some "m"))] ++ registered)
 let s' ← step ⟨.localSource,true⟩ s (.act 0 (.callback 0 (some true)))
 return (s,s')

theorem accepted_removes_own : ∃ s s', acceptedRun [] = some (s, s') ∧
  (s'.requests 0).callbacks = withoutRegistration (s.requests 0).callbacks "m" 0 := by
 have hrun:(acceptedRun []).map (fun run=>((run.1.requests 0).callbacks "m",run.1.delivery? (0,0))) =
  some (some 0,some ⟨none,.calling "m" 0⟩) := by decide +kernel
 obtain ⟨⟨s,s'⟩,hrun,hfacts⟩:=map_eq_some_iff.mp hrun
 obtain ⟨hregistered,hcall⟩:=Prod.mk.inj hfacts
 have hbinds:=hrun
 simp only[acceptedRun,bind_eq_bind,bind_eq_some_iff] at hbinds
 obtain ⟨_,hs,_,hs',heq⟩:=hbinds
 cases heq
 refine ⟨s,s',hrun,((accepted_removes_own_iff _ _).1 0 0 none "m" 0 s' hcall hs').mpr fun other hother=>?_⟩
 exact some.inj (hother.symm.trans hregistered)

theorem accepted_removes_other : (acceptedRun [.act 0 (.register "m" 1)]).map (fun run =>
  (run.1.delivery? (0, 0), (run.1.requests 0).callbacks "m", (run.2.requests 0).callbacks "m")) =
   some (some ⟨none, .calling "m" 0⟩, some 1, none) := by
 decide +kernel

end ServiceLib.SourceRequest
