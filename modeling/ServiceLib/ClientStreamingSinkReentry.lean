import ServiceLib.CallNesting
import ServiceLib.ClientStreamingSinkGate

set_option autoImplicit false
attribute [-instance] instBooleanRingBool

/-!
# `consume` calls made in handler code of the client-streaming sink

A `consume` call made in `consumeMessage` for the same stream id asks for the shared side again,
and a response queued between the two keeps it out.
-/
namespace ServiceLib.ClientStreamingSink
open SharedMutex Session Transition CallNesting Function

namespace State

def parent (s:State) : ℕ × Actor → Option (ℕ × Actor)
 | (c,.call i) => (s.sessions c).calls[i]?.bind Call.parent
 | _ => none

def Known (s:State) : ℕ × Actor → Prop
 | (c,.call i) => i < (s.sessions c).calls.length
 | (c,.response j) => j < (s.sessions c).responses.length
 | (_,.finalizer) => True

def Live (s:State) : ℕ × Actor → Prop
 | (c,.call i) => ∃ call,(s.sessions c).calls[i]? = some call ∧ call.place ≠ .finished
 | _ => True

def actors (s:State) : View (ℕ × Actor) where
 parent := s.parent
 known := s.Known
 live := s.Live
 hosting host := s.inHandler host = true

/-- The call was made, directly or not, in the handler code of a call for the same session. -/
def Reenters (s:State) (c i:ℕ) : Prop :=
 ∃ j,Above s.parent (c,.call i) (c,.call j)

def SelfBlocked (s:State) (c i:ℕ) : Prop :=
 (s.sessions c).side (.call i) = .queued ∧ s.Reenters c i

end State

/-- No call asks for a lock that its fiber holds while a response is queued for it. -/
def Unhindered (s:State) : Label → Prop
 | .act c (.call i) =>
  (∃ call,(s.sessions c).calls[i]? = some call ∧ call.place = .locking) → s.Reenters c i →
   ∀ j : ℕ,(s.sessions c).responses[j]? ≠ some .queued
 | _ => True

inductive Change (s:State) : Label → State → Prop
 | reserved {streamId:String} {parent:Option (ℕ × Actor)} (hpending:s.pending streamId = none)
  (hparent:parent.all (fun host=>s.inHandler host && !s.nested host) = true) :
  Change s (.consume streamId parent) { s with
   next := s.next + 1
   pending := update s.pending streamId (some s.next)
   sessions := update s.sessions s.next { streamId := streamId,calls := [⟨parent,.beginning⟩] } }
 | joined {streamId:String} {parent:Option (ℕ × Actor)} {c:ℕ} (hpending:s.pending streamId = some c)
  (hparent:parent.all (fun host=>s.inHandler host && !s.nested host) = true) :
  Change s (.consume streamId parent) { s with
   sessions := update s.sessions c
    { s.sessions c with calls := (s.sessions c).calls ++ [⟨parent,.found⟩] } }
 | ignored (streamId:String) (parent:Option (ℕ × Actor)) : Change s (.consume streamId parent) s
 | stopped : Change s .stop { s with stopped := true }
 | moved {c:ℕ} {act:Act} {q':Session} {pop:Bool} (hc:c < s.next)
  (hnested:∀ host,act.host = some host → s.nested (c,host) = false)
  (hmove:Move (s.own c) (s.sessions c) act q' pop) : Change s (.act c act) (s.store c (q',pop))

variable {c i:ℕ} {host:ℕ × Actor} {labels:List Label}

section Steps
variable {s s':State} {l:Label}

lemma change_of_step (h:step s l=some s') : Change s l s' := by
 cases l with
 | act c act =>
  simp only[step] at h
  split at h
  case isTrue hc =>
   obtain ⟨⟨q',pop⟩,hstep,rfl⟩:=Option.map_eq_some_iff.mp h
   exact .moved hc.1 (by grind) (move_of_step hstep)
  case isFalse => cases h
 | _ => grind[Change,step,State.consume]

lemma inHandler_iff {a:Actor} : s.inHandler (c,a)=true↔(s.sessions c).Hosts a := by
 cases a with
 | call i =>
  simp only[State.inHandler,Session.Hosts]
  rcases (s.sessions c).calls[i]? with _ | ⟨_,_ | _⟩ <;> simp
 | response j | finalizer => simp[State.inHandler,Session.Hosts]

lemma nested_of_live (hc:c < s.next) (hlive:s.Live (c,.call i))
  (hparent:s.parent (c,.call i)=some host) : s.nested host=true := by
 grind[State.Live,State.parent,State.nested]

structure Stacked (s:State) : Prop where
 owner : ∀ streamId c,s.pending streamId = some c → c < s.next
 fresh : ∀ c,¬c < s.next → s.sessions c = {}
 sound : ∀ c,Sound (s.sessions c)
 actors : s.actors.Stacked

inductive SessionChange (s:State) (l:Label) (c:ℕ) : Session → Prop
 | same (hl:∀ act,l ≠ .act c act) : SessionChange s l c (s.sessions c)
 | reserved {streamId:String} {parent:Option (ℕ × Actor)} (hl:l = .consume streamId parent) (hc:c = s.next)
  (hparent:parent.all (fun host=>s.inHandler host && !s.nested host) = true) :
  SessionChange s l c { streamId := streamId,calls := [⟨parent,.beginning⟩] }
 | joined {streamId:String} {parent:Option (ℕ × Actor)} (hl:l = .consume streamId parent)
  (hpending:s.pending streamId = some c)
  (hparent:parent.all (fun host=>s.inHandler host && !s.nested host) = true) :
  SessionChange s l c { s.sessions c with calls := (s.sessions c).calls ++ [⟨parent,.found⟩] }
 | moved {act:Act} {q':Session} {pop:Bool} (hl:l = .act c act) (hc:c < s.next)
  (hnested:∀ host,act.host = some host → s.nested (c,host) = false)
  (hmove:Move (s.own c) (s.sessions c) act q' pop) : SessionChange s l c q'

lemma sessionChange_of_step (h:step s l=some s') (c:ℕ) : SessionChange s l c (s'.sessions c) := by
 cases change_of_step h with
 | moved hlt hnested hmove =>
  simp only[State.store,update_apply]
  grind[SessionChange]
 | _ => grind[SessionChange,update_apply]

lemma Stacked.call_onward (h:Stacked s) (hstep:step s l=some s') {old:Call}
  (hi:(s.sessions c).calls[i]?=some old) :
  ∃ new,(s'.sessions c).calls[i]?=some new∧new.parent=old.parent ∧
   (old.place=.finished→ new.place=.finished) := by
 have hchange:=sessionChange_of_step hstep c
 have hfresh:=h.fresh c
 generalize s'.sessions c=q' at hchange
 cases hchange with
 | moved _ _ _ hmove =>
  obtain ⟨new,hnew,honward⟩:=(h.sound c).onward hmove hi
  exact ⟨new,hnew,honward.parent,honward.finished⟩
 | _ => grind

lemma arrival_of_step (hstep:step s l=some s') {new:Call}
  (hi:(s.sessions c).calls[i]?=none) (hnew:(s'.sessions c).calls[i]?=some new) :
  (∃ streamId parent,l=.consume streamId parent)∧new.place.side=.outside ∧
   ∀ host,new.parent=some host→ s.inHandler host=true := by
 have hchange:=sessionChange_of_step hstep c
 generalize s'.sessions c=q' at hchange hnew
 cases hchange with
 | moved _ _ _ hmove => grind[hmove.calls_length]
 | _ => grind[CallPlace.side]

lemma known_of_inHandler (h:s.inHandler host=true) : s.Known host := by
 obtain ⟨c,a⟩:=host
 rw[inHandler_iff] at h
 cases a <;> grind[State.Known,Session.Hosts]

lemma Stacked.known_after (h:Stacked s) (hstep:step s l=some s') {actor:ℕ×Actor} (hactor:s.Known actor) :
  s'.Known actor := by
 obtain ⟨c,a⟩:=actor
 have hchange:=sessionChange_of_step hstep c
 have hfresh:=h.fresh c
 generalize hq' : s'.sessions c=q' at hchange
 cases hchange with
 | moved _ _ _ hmove =>
  have hcalls:=hmove.calls_length
  have hresponses:=hmove.responses_length
  cases a <;> grind[State.Known]
 | _ => cases a <;> grind[State.Known]

lemma Stacked.hosting (h:Stacked s) (hstep:step s l=some s') {call:ℕ×Actor}
  (hhost:s.inHandler host=true) (hlive:s'.Live call) (hparent:s'.parent call=some host) :
  s'.inHandler host=true := by
 obtain ⟨c,a⟩:=host
 rw[inHandler_iff] at hhost ⊢
 have hchange:=sessionChange_of_step hstep c
 have hfresh:=h.fresh c
 generalize s'.sessions c=q' at hchange
 cases hchange with
 | @moved act q' pop hl hc hnested hmove =>
  refine ((h.sound c).hosts hmove hhost).resolve_right fun hact=>?_
  -- the host leaves its code, so nothing made in it is live
  obtain ⟨d,b⟩:=call
  cases b with
  | response j | finalizer => cases hparent
  | call i =>
   obtain ⟨new,hnew,hplace⟩:=hlive
   cases hi:(s.sessions d).calls[i]? with
   | none =>
    obtain ⟨⟨streamId,parent,hconsume⟩,-⟩:=arrival_of_step hstep hi hnew
    exact nomatch hl.symm.trans hconsume
   | some old =>
    have hkept:=h.call_onward hstep hi
    have hd:=h.fresh d
    have hold:s.parent (d,.call i)=some (c,a):=by grind[State.parent]
    have hlive:s.Live (d,.call i):=⟨old,hi,by grind⟩
    exact nomatch (nested_of_live (by grind) hlive hold).symm.trans (hnested a hact)
 | _ => cases a <;> grind[Session.Hosts]

lemma Stacked.actors_step (h:Stacked s) (hstep:step s l=some s') : s.actors.Step s'.actors where
 known actor hactor := by
  refine ⟨h.known_after hstep hactor,?_⟩
  obtain ⟨c,a⟩:=actor
  cases a with
  | call i =>
   obtain ⟨new,hnew,hparent,-⟩:=h.call_onward hstep (List.getElem?_eq_getElem hactor)
   change (s'.sessions c).calls[i]?.bind Call.parent=(s.sessions c).calls[i]?.bind Call.parent
   rw[hnew,List.getElem?_eq_getElem hactor]
   exact hparent
  | response j | finalizer => rfl
 live actor hactor hlive:=by
  obtain ⟨c,a⟩:=actor
  cases a with
  | call i =>
   obtain ⟨new,hnew,hplace⟩:=hlive
   have hget:=List.getElem?_eq_getElem hactor
   obtain ⟨new',hnew',-,hfinished⟩:=h.call_onward hstep hget
   obtain rfl:=Option.some.inj (hnew.symm.trans hnew')
   exact ⟨_,hget,fun hf=>hplace (hfinished hf)⟩
  | response j | finalizer => trivial
 arrival actor host hactor hparent:=by
  obtain ⟨c,a⟩:=actor
  cases a with
  | call i =>
   obtain ⟨new,hnew,hhost⟩:=Option.bind_eq_some_iff.mp hparent
   have hnone:(s.sessions c).calls[i]?=none:=List.getElem?_eq_none_iff.mpr (Nat.le_of_not_lt hactor)
   have hhosting:=(arrival_of_step hstep hnone hnew).2.2 host hhost
   exact ⟨hhosting,known_of_inHandler hhosting⟩
  | response j | finalizer => cases hparent
 hosting call host hhost hlive hparent := h.hosting hstep hhost hlive hparent
 hosting_live actor hhost:=by
  obtain ⟨c,a⟩:=actor
  cases a with
  | call i =>
   obtain ⟨call,hi,hplace⟩:=inHandler_iff.mp hhost
   exact ⟨call,hi,by rcases hplace with hplace | hplace <;> simp[hplace]⟩
  | response j | finalizer => trivial

lemma sound_empty : Sound {} where
 tracks := tracks_empty fun a=>by cases a <;> rfl
 orderly := orderly_empty
 ordered := nofun
 closed h := absurd rfl h

lemma side_append (q:Session) (parent:Option (ℕ×Actor)) :
  Session.side { q with calls := q.calls++[⟨parent,.found⟩] }=q.side := by
 funext a
 cases a <;> grind[side,CallPlace.side]

lemma Sound.of_append {q:Session} (h:Sound q) (parent:Option (ℕ×Actor)) :
  Sound { q with calls := q.calls++[⟨parent,.found⟩] } := by
 refine ⟨?_,h.orderly,h.ordered.append parent,h.closed⟩
 rw[side_append]
 exact h.tracks

lemma sound_reserved (streamId:String) (parent:Option (ℕ×Actor)) :
    Sound { streamId := streamId,calls := [⟨parent,.beginning⟩] } where
 tracks := by
  refine tracks_empty fun a=>?_
  cases a with
  | call i =>
   simp only[side,List.getElem?_singleton]
   split <;> rfl
  | response j | finalizer => rfl
 orderly := orderly_empty
 ordered i call hi:=by
  rw[List.getElem?_singleton] at hi
  split at hi
  case isTrue hzero =>
   cases hi
   exact ⟨fun _=>⟨hzero,rfl⟩,fun hnot=>by cases hnot⟩
  case isFalse => cases hi
 closed h := absurd rfl h

lemma Stacked.after (h:Stacked s) (hstep:step s l=some s') : Stacked s' := by
 refine ⟨fun streamId c hpending=>?_,fun c hc=>?_,fun c=>?_,h.actors.after (h.actors_step hstep)⟩
 · have howner:=h.owner
   cases change_of_step hstep with
   | moved =>
    simp only[State.store] at hpending ⊢
    grind
   | _ => grind
 · have howner:=h.owner
   have hfresh:=h.fresh c
   cases change_of_step hstep with
   | moved =>
    simp only[State.store,update_apply] at hc ⊢
    grind
   | _ => grind
 · have hchange:=sessionChange_of_step hstep c
   generalize s'.sessions c=q' at hchange
   cases hchange with
   | same => exact h.sound c
   | reserved => exact sound_reserved _ _
   | joined => exact (h.sound c).of_append _
   | moved _ _ _ hmove => exact (h.sound c).move hmove

lemma stacked_initial : Stacked {} where
 owner _ _ := nofun
 fresh _ _ := rfl
 sound _ := sound_empty
 actors:=by
  refine ⟨fun call host hparent=>?_,fun call host _ hparent=>?_,fun call hhost=>?_⟩
  · obtain ⟨c,a⟩:=call
    cases a <;> cases hparent
  · obtain ⟨c,a⟩:=call
    cases a <;> cases hparent
  · obtain ⟨c,a⟩:=call
    cases a with
    | call i => cases hhost
    | response j | finalizer => trivial

lemma stacked_exec (hrun:exec step {} labels=some s) : Stacked s :=
 exec_invariant (I := Stacked) (fun _ _ _ h hstep=>h.after hstep) stacked_initial hrun

lemma Stacked.reenters_iff (h:Stacked s) (hstep:step s l=some s')
  (hi:i < (s.sessions c).calls.length) : s'.Reenters c i↔s.Reenters c i := by
 have hknown:s.actors.known (c,.call i):=hi
 exact exists_congr fun _=>h.actors.above_iff (h.actors_step hstep) hknown

end Steps

section Blocked
variable {s s':State} {l:Label} {c i:ℕ} {call:Call}

lemma Stacked.exists_consuming (h:Stacked s) (hi:(s.sessions c).calls[i]?=some call)
  (hpast:call.place.past=true) (hreenters:s.Reenters c i) :
  ∃ (j:ℕ) (outer:Call),(s.sessions c).calls[j]?=some outer∧outer.place=.consuming := by
 obtain ⟨j,habove⟩:=hreenters
 have hlive:s.actors.live (c,.call i):=by
  refine ⟨call,hi,fun hfinished=>?_⟩
  rw[hfinished] at hpast
  cases hpast
 obtain ⟨outer,hj,hplace⟩:=inHandler_iff.mp (h.actors.hosting_of_above hlive habove)
 refine ⟨j,outer,hj,hplace.resolve_left fun hbeginning=>?_⟩
 -- nobody gets past the wait for a session that is still beginning
 have hready:=((h.sound c).ordered i call hi).2 hpast
 have hunready:=(((h.sound c).ordered j outer hj).1 (by rw[hbeginning]; rfl)).2
 exact nomatch hready.symm.trans hunready

/-- A reentrant call is let in exactly when no response is queued. -/
lemma Stacked.admits_iff (h:Stacked s) (hi:(s.sessions c).calls[i]?=some call)
  (hpast:call.place.past=true) (hreenters:s.Reenters c i) :
  (s.sessions c).handlerMutex.admits false=true↔∀ j : ℕ,(s.sessions c).responses[j]?≠some .queued := by
 obtain ⟨k,outer,hk,hplace⟩:=h.exists_consuming hi hpast hreenters
 have hinside:(s.sessions c).side (.call k)=.inside:=by
  rw[side_call hk,hplace]
  rfl
 rw[(h.sound c).tracks.admits_reader_iff (h.sound c).orderly hinside rfl]
 constructor
 · intro hnone j hj
   exact hnone (.response j) rfl (side_response hj)
 · intro hnone a hwriter hqueued
   cases a with
   | call i | finalizer => cases hwriter
   | response j =>
    cases hj:(s.sessions c).responses[j]? with
    | none => simp[side,hj] at hqueued
    | some place =>
     rw[side_response hj] at hqueued
     refine hnone j (hj.trans (congrArg some ?_))
     cases place <;> first | rfl | cases hqueued

lemma Stacked.selfBlocked_of_step (h:Stacked s) (hstep:step s l=some s') (hok:Unhindered s l)
  (hblocked:s'.SelfBlocked c i) : s.SelfBlocked c i := by
 obtain ⟨hqueued,hreenters⟩:=hblocked
 have hfresh:=h.fresh c
 cases hi:(s.sessions c).calls[i]? with
 | none => grind[side,arrival_of_step hstep hi]
 | some old =>
  have hreenters':s.Reenters c i:=(h.reenters_iff hstep (List.getElem?_eq_some_iff.mp hi).1).mp hreenters
  refine ⟨?_,hreenters'⟩
  have hchange:=sessionChange_of_step hstep c
  generalize s'.sessions c=q' at hchange hqueued
  cases hchange with
  | moved hl _ _ hmove =>
   subst hl
   refine ((gateMove_of_move hmove).queued (h.sound c).tracks hqueued).resolve_right ?_
   rintro ⟨rfl,⟨asking,hget,hlocking⟩,hclosed⟩
   have hfree:=hok ⟨asking,hget,hlocking⟩ hreenters'
   have hadmits:=(h.admits_iff hget (by rw[hlocking]; rfl) hreenters').mpr hfree
   cases hadmits.symm.trans hclosed
  | joined => simpa only[side_append] using hqueued
  | same | reserved => grind

lemma Stacked.selfBlocked_after (h:Stacked s) (hstep:step s l=some s') (hblocked:s.SelfBlocked c i) :
  s'.SelfBlocked c i := by
 obtain ⟨hqueued,hreenters⟩:=hblocked
 have hfresh:=h.fresh c
 cases hi:(s.sessions c).calls[i]? with
 | none => simp[side,hi] at hqueued
 | some call =>
  have hplace:call.place=.queued:=by
   rw[side_call hi] at hqueued
   cases hplace:call.place <;> simp_all[CallPlace.side]
  refine ⟨?_,(h.reenters_iff hstep (List.getElem?_eq_some_iff.mp hi).1).mpr hreenters⟩
  obtain ⟨k,outer,hk,hconsuming⟩:=h.exists_consuming hi (by rw[hplace]; rfl) hreenters
  have hinside:(s.sessions c).side (.call k)=.inside:=by
   rw[side_call hk,hconsuming]
   rfl
  have hchange:=sessionChange_of_step hstep c
  generalize s'.sessions c=q' at hchange
  cases hchange with
  | @moved act q' pop _ _ _ hmove =>
   refine (gateMove_of_move hmove).queued_of_inside (h.sound c).tracks hqueued hinside ?_
   -- the outer call is in handler code, so this is not a step of its own
   rintro rfl
   exact hmove.not_consuming hk hconsuming
  | joined => simpa only[side_append] using hqueued
  | same | reserved => grind

lemma Stacked.selfBlocked_exec (h:Stacked s) (hblocked:s.SelfBlocked c i)
  (hrun:exec step s labels=some s') : s'.SelfBlocked c i := by
 have hboth:Stacked s'∧s'.SelfBlocked c i:=
  exec_invariant (I := fun u=>Stacked u∧u.SelfBlocked c i)
   (fun _ _ _ hu hstep=>⟨hu.1.after hstep,hu.1.selfBlocked_after hstep hu.2⟩) ⟨h,hblocked⟩ hrun
 exact hboth.2

lemma Stacked.selfBlocked_of_hindered (h:Stacked s) (hstep:step s l=some s') (hok:¬Unhindered s l) :
  ∃ c i,s'.SelfBlocked c i := by
 unfold Unhindered at hok
 split at hok
 case h_1 c i =>
  obtain ⟨⟨call,hi,hplace⟩,hok⟩:=Classical.not_imp.mp hok
  obtain ⟨hreenters,hqueued⟩:=Classical.not_imp.mp hok
  refine ⟨c,i,?_,(h.reenters_iff hstep (List.getElem?_eq_some_iff.mp hi).1).mpr hreenters⟩
  have hclosed:(s.sessions c).handlerMutex.admits false=false:=by
   refine Bool.eq_false_iff.mpr fun hadmits=>hqueued ?_
   exact (h.admits_iff hi (by rw[hplace]; rfl) hreenters).mp hadmits
  have hchange:=sessionChange_of_step hstep c
  generalize s'.sessions c=q' at hchange
  cases hchange with
  | same hl => exact absurd rfl (hl (.call i))
  | reserved hl | joined hl => cases hl
  | moved hl _ _ hmove =>
   cases hl
   exact hmove.queued_of_closed hi hplace hclosed
 case h_2 => exact absurd trivial hok

lemma Stacked.unhindered_iff (h:Stacked s) (hstep:step s l=some s') (hfree:¬∃ c i,s.SelfBlocked c i) :
  Unhindered s l↔¬∃ c i,s'.SelfBlocked c i := by
 constructor
 · rintro hok ⟨c,i,hblocked⟩
   exact hfree ⟨c,i,h.selfBlocked_of_step hstep hok hblocked⟩
 · intro hfree'
   by_contra hok
   exact hfree' (h.selfBlocked_of_hindered hstep hok)

lemma along_unhindered_iff (hrun:exec step {} labels=some s) :
  Along step Unhindered {} labels↔¬∃ c i,s.SelfBlocked c i := by
 refine along_iff_not (I := Stacked) (fun u l u' hu hstep=>hu.after hstep) ?_
  (fun u l u' hu hstep hfree=>hu.unhindered_iff hstep hfree) stacked_initial ?_ hrun
 · rintro u l u' hu hstep ⟨c,i,hblocked⟩
   exact ⟨c,i,hu.selfBlocked_after hstep hblocked⟩
 · rintro ⟨c,i,hqueued,-⟩
   cases hqueued

end Blocked

end ServiceLib.ClientStreamingSink
