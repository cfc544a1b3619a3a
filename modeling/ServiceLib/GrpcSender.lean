import Mathlib.Logic.Function.Basic
import ServiceLib.Transition

set_option autoImplicit false
attribute [-instance] instBooleanRingBool

/-!
# The sender of a streaming gRPC source

`Sender::send` runs the transport function under `mu_`, which `close` takes too. The function
refers to the frame of the handler, and calls of `send` may come from any fiber, also when the
handler has returned. Spans are left out: their methods do not throw.
-/
namespace ServiceLib.GrpcSender
open Transition Function

inductive Kind
 | clientStreaming | serverStreaming | bidirectionalStreaming
deriving DecidableEq

inductive SendError
 | closed
 | writeCancelled
deriving DecidableEq

def SendError.what : SendError → String
 | .closed => "gRPC stream is closed"
 | .writeCancelled => "gRPC stream write cancelled"

/-- Where a call of `send` is. From `checking` until it has returned it holds `mu_`; at
`sending` it is about to call the transport function, at `writing` its write is in flight
and at `stored` it has filled the response slot. -/
inductive Place (Res:Type)
 | idle
 | locking (value:Res)
 | checking (value:Res)
 | sending (value:Res)
 | writing
 | stored
 | unlocking (error:Option SendError)
 | returned (error:Option SendError)

/-- Where the handler is: in its `try` block, at the start of `finish`, in `endRequest`, before
`close`, past it, or past `finish`, which may have thrown. -/
inductive Phase
 | serving
 | finishing (error:Option String)
 | ending (error:Option String)
 | closing (error endError:Option String)
 | closed (error endError:Option String)
 | finished (exception:Option String)
deriving DecidableEq

structure State (Res:Type) where
 phase : Phase := .serving
 owner : Option ℕ := none
 active : Bool := true
 response : Option Res := none
 done : Bool := false
 calls : ℕ → Place Res := fun _=>.idle

inductive Label (Res:Type)
 | send (i:ℕ) (value:Res)
 | advance (i:ℕ)
 | wrote (i:ℕ) (ok:Bool)
 | body (error:Option String)
 | lock (completionReady:Bool)
 | endRequest (exception:Option String)
 | close
 | leave

variable {Res:Type}

def State.setCall (s:State Res) (i:ℕ) (place:Place Res) : State Res :=
 { s with calls := update s.calls i place }

def State.advance (kind:Kind) (s:State Res) (i:ℕ) : Option (State Res) :=
 match s.calls i with
 | .locking value => if s.owner = none then some ({ s with owner := some i }.setCall i (.checking value)) else none
 | .checking value => some (s.setCall i (if s.active then .sending value else .unlocking (some .closed)))
 | .sending value =>
  if kind = .clientStreaming then some ({ s with response := s.response.or (some value) }.setCall i .stored)
  else some (s.setCall i .writing)
 | .stored => some ({ s with done := true }.setCall i (.unlocking none))
 | .unlocking error => some ({ s with owner := none }.setCall i (.returned error))
 | .idle | .writing | .returned _ => none

def step (kind:Kind) (s:State Res) : Label Res → Option (State Res)
 | .send i value =>
  match s.calls i with
  | .idle => some (s.setCall i (.locking value))
  | _ => none
 | .advance i => s.advance kind i
 | .wrote i ok =>
  match s.calls i with
  | .writing => some (s.setCall i (.unlocking (if ok then none else some .writeCancelled)))
  | _ => none
 | .body error =>
  match s.phase with
  | .serving => some { s with phase := .finishing error }
  | _ => none
 | .lock completionReady =>
  match s.phase with
  | .finishing error => some { s with phase := .ending (if completionReady then none else error) }
  | _ => none
 | .endRequest exception =>
  match s.phase with
  | .ending error => some { s with phase := .closing error exception }
  | _ => none
 | .close =>
  match s.phase with
  | .closing error endError =>
   if s.owner = none then some { s with active := false,phase := .closed error endError } else none
  | _ => none
 | .leave =>
  match s.phase with
  | .closed error endError => some { s with phase := .finished (if error.isNone then endError else none) }
  | _ => none

def Place.holds : Place Res → Bool
 | .checking _ | .sending _ | .writing | .stored | .unlocking _ => true
 | .idle | .locking _ | .returned _ => false

def Place.inSend : Place Res → Bool
 | .sending _ | .writing | .stored => true
 | _ => false

def Phase.isClosed : Phase → Bool
 | .closed _ _ | .finished _ => true
 | _ => false

structure Locked (s:State Res) : Prop where
 owner : ∀ i,(s.calls i).holds = true ↔ s.owner = some i
 closed : s.phase.isClosed = true → s.active = false
 unused : s.active = false → ∀ i,(s.calls i).inSend = false

variable {kind:Kind} {s s':State Res} {l:Label Res} {i:ℕ}

lemma Place.holds_of_inSend {place:Place Res} (h:place.inSend=true) : place.holds=true := by
 cases place <;> first | rfl | cases h

lemma Locked.setCall (h:Locked s) {place:Place Res} (hcalls:s'.calls=update s.calls i place)
    (hphase:s'.phase=s.phase) (hactive:s'.active=s.active)
    (howner:place.holds=true↔s'.owner=some i) (hothers:∀ j,j≠i→(s'.owner=some j↔s.owner=some j))
    (hsend:place.inSend=true→ s.active=true) : Locked s' where
 owner j := by
  rw[hcalls,update_apply]
  split
  · next heq => exact heq▸howner
  · next hne => exact (h.owner j).trans (hothers j hne).symm
 closed hclosed := hactive.trans (h.closed (hphase▸hclosed))
 unused hinactive j:=by
  rw[hactive] at hinactive
  rw[hcalls,update_apply]
  split
  · exact Bool.eq_false_iff.mpr fun hin=>absurd (hsend hin) (Bool.eq_false_iff.mp hinactive)
  · exact h.unused hinactive j

lemma Locked.goOn (h:Locked s) {place:Place Res} (hi:(s.calls i).holds=true)
  (hcalls:s'.calls=update s.calls i place) (hphase:s'.phase=s.phase) (hactive:s'.active=s.active)
  (howner:s'.owner=s.owner) (hholds:place.holds=true) (hsend:place.inSend=true→ s.active=true) :
  Locked s' :=
 h.setCall hcalls hphase hactive (by rw[howner]; exact iff_of_true hholds ((h.owner i).mp hi))
  (fun j _=>by rw[howner]) hsend

lemma Locked.active (h:Locked s) (hi:(s.calls i).inSend=true) : s.active=true := by
 by_contra hinactive
 rw[h.unused (Bool.eq_false_iff.mpr hinactive) i] at hi
 cases hi

lemma Locked.advance (h:Locked s) (hstep:s.advance kind i=some s') : Locked s' := by
 unfold State.advance at hstep
 split at hstep
 · next hi =>
   split at hstep <;> cases hstep
   next hfree =>
    refine h.setCall rfl rfl rfl (iff_of_true rfl rfl) (fun j hne=>?_) (fun hin=>by cases hin)
    rw[hfree]
    exact iff_of_false (fun heq=>hne (Option.some.inj heq).symm) (fun heq=>by cases heq)
 · next hi =>
   cases hstep
   refine h.goOn (by rw[hi]; rfl) rfl rfl rfl rfl ?_ ?_ <;> split <;> simp_all[Place.holds,Place.inSend]
 · next hi =>
   have hactive:=h.active (i:=i) (by rw[hi]; rfl)
   split at hstep <;> cases hstep <;> exact h.goOn (by rw[hi]; rfl) rfl rfl rfl rfl rfl fun _=>hactive
 · next hi =>
   cases hstep
   exact h.goOn (by rw[hi]; rfl) rfl rfl rfl rfl rfl (fun hin=>by cases hin)
 · next hi =>
   cases hstep
   have howner:=(h.owner i).mp (by rw[hi]; rfl)
   refine h.setCall rfl rfl rfl (iff_of_false (fun h=>by cases h) fun h=>by cases h) (fun j hne=>?_)
    (fun hin=>by cases hin)
   rw[howner]
   exact iff_of_false (fun heq=>by cases heq) (fun heq=>hne (Option.some.inj heq).symm)
 all_goals cases hstep

lemma Locked.step (h:Locked s) (hstep:step kind s l=some s') : Locked s' := by
 cases l with
 | advance i => exact h.advance hstep
 | send i value =>
  simp only[GrpcSender.step] at hstep
  split at hstep <;> cases hstep
  next hi =>
   refine h.setCall rfl rfl rfl ?_ (fun _ _=>.rfl) (fun hin=>by cases hin)
   refine iff_of_false (fun hholds=>by cases hholds) fun howner=>?_
   have hholds:=(h.owner i).mpr howner
   rw[hi] at hholds
   cases hholds
 | wrote i ok =>
  simp only[GrpcSender.step] at hstep
  split at hstep <;> cases hstep
  next hi => exact h.goOn (by rw[hi]; rfl) rfl rfl rfl rfl rfl (fun hin=>by cases hin)
 | close =>
  -- nobody is in the critical section when the flag is cleared
  simp only[GrpcSender.step] at hstep
  split at hstep
  · split at hstep <;> cases hstep
    next hfree =>
     refine ⟨h.owner,fun _=>rfl,fun _ i=>Bool.eq_false_iff.mpr fun hin=>?_⟩
     have hi:=(h.owner i).mp (Place.holds_of_inSend hin)
     rw[hfree] at hi
     cases hi
  · cases hstep
 | body | lock | endRequest | leave =>
  have hclosed:=h.closed
  simp only[GrpcSender.step] at hstep
  split at hstep <;> cases hstep
  exact ⟨h.owner,by grind[Phase.isClosed],h.unused⟩

lemma locked_initial : Locked ({} : State Res) where
 owner _ := iff_of_false Bool.false_ne_true nofun
 closed := nofun
 unused := nofun

lemma Locked.exec {ls:List (Label Res)} (h:Locked s) (hrun:exec (GrpcSender.step kind) s ls=some s') :
  Locked s' :=
 exec_invariant (fun _ _ _ h hstep=>h.step hstep) h hrun

/-- What the transport function does: it begins a write, or it fills the response slot. -/
def Touches (s:State Res) (l:Label Res) : Prop :=
 ∃ i value,l = .advance i ∧ s.calls i = .sending value

/-- A call that has not entered the critical section before the sender was closed. -/
def Place.late : Place Res → Bool
 | .idle | .locking _ | .checking _ => true
 | .unlocking error | .returned error => error = some .closed
 | .sending _ | .writing | .stored => false

lemma inactive_step (hinactive:s.active=false) (hstep:step kind s l=some s') : s'.active=false := by
 cases l <;> grind[step,State.advance,State.setCall]

lemma late_step (hinactive:s.active=false) (hlate:(s.calls i).late=true)
  (hstep:step kind s l=some s') : (s'.calls i).late=true := by
 have hupdate:∀ (u:State Res) (j:ℕ) (place:Place Res),((u.setCall j place).calls i) =
  if i=j then place else u.calls i := fun u j place=>update_apply ..
 cases l <;> grind[step,State.advance,Place.late]

/-- In every interleaving of sends with the handler: at most one write is in flight; and once
`finish` has returned or thrown, also for an exception of `endRequest`, no send is in the
transport function or comes to it any more, a send that was not in its critical section
yet can only end with the error of a closed stream, and it does not get stuck. -/
theorem sender_safe {ls : List (Label Res)} (hrun : exec (step kind) {} ls = some s) :
  (∀ i j, s.calls i = .writing → s.calls j = .writing → i = j) ∧
  ∀ exception, s.phase = .finished exception → (∀ i, (s.calls i).inSend = false) ∧
   ∀ ls' s', exec (step kind) s ls' = some s' →
    (∀ l, ¬Touches s' l) ∧
    (∀ i, (s.calls i).late = true → ∀ error, s'.calls i = .returned error → error = some .closed) ∧
    ∀ i, s'.calls i = .idle ∨ (∃ error, s'.calls i = .returned error) ∨
     ∃ j s'', step kind s' (.advance j) = some s'' := by
 have h:=locked_initial.exec hrun
 refine ⟨fun i j hi hj=>?_,fun exception hphase=>?_⟩
 · have howner:=(h.owner i).mp (by rw[hi]; rfl)
   rw[(h.owner j).mp (by rw[hj]; rfl)] at howner
   exact (Option.some.inj howner).symm
 · have hinactive:=h.closed (by rw[hphase]; rfl)
   refine ⟨h.unused hinactive,fun ls' s' hrun'=>?_⟩
   have h':=h.exec hrun'
   have hinactive':s'.active=false:=
    exec_invariant (I := fun u=>u.active=false) (fun _ _ _ hu hstep=>inactive_step hu hstep) hinactive hrun'
   have hunused:=h'.unused hinactive'
   refine ⟨fun l ⟨i,value,_,hi⟩=>?_,fun i hlate error hi=>?_,fun i=>?_⟩
   · have hin:=hunused i
     rw[hi] at hin
     cases hin
   · have hlate':s'.active=false∧(s'.calls i).late=true :=
      exec_invariant (I := fun u=>u.active=false∧(u.calls i).late=true)
       (fun _ _ _ hu hstep=>⟨inactive_step hu.1 hstep,late_step hu.1 hu.2 hstep⟩) ⟨hinactive,hlate⟩ hrun'
     rw[hi] at hlate'
     exact of_decide_eq_true hlate'.2
   · -- the call goes on itself, or the one that holds the lock does
     have hgo:∀ j,(s'.calls j).holds=true→∃ s'',step kind s' (.advance j)=some s'':=by
      intro j hj
      have hin:=hunused j
      cases hcall:s'.calls j <;> simp_all[step,State.advance,Place.holds,Place.inSend]
     cases hcall:s'.calls i with
     | idle => exact .inl rfl
     | returned error => exact .inr (.inl ⟨error,rfl⟩)
     | sending | writing | stored | checking | unlocking =>
      exact .inr (.inr ⟨i,hgo i (by rw[hcall]; rfl)⟩)
     | locking value =>
      refine .inr (.inr ?_)
      cases howner:s'.owner with
      | none => exact ⟨i,by simp[step,State.advance,hcall,howner]⟩
      | some j => exact ⟨j,hgo j ((h'.owner j).mpr howner)⟩

/-- `endRequest` throws while a write is in flight and another send waits for the mutex. -/
def lateSend : List (Label ℕ) :=
 [.send 0 7,.advance 0,.advance 0,.advance 0,.send 1 8,.body none,.lock false,.endRequest (some "failed"),
  .wrote 0 true,.advance 0,.close,.leave]

def closedSends : List (Label ℕ) :=
 [.send 2 9,.advance 1,.advance 1,.advance 1,.advance 2,.advance 2,.advance 2]

theorem sender_safe_lateSend : ∃ s s', exec (step .serverStreaming) {} lateSend = some s ∧
  s.phase = .finished (some "failed") ∧ (∀ i, (s.calls i).inSend = false) ∧
  exec (step .serverStreaming) s closedSends = some s' ∧ (∀ l, ¬Touches s' l) ∧
  (s'.calls 1, s'.calls 2) = (.returned (some .closed), .returned (some .closed)) := by
 have hrun:exec (step .serverStreaming) {} lateSend=some _:=rfl
 obtain ⟨hunused,hsafe⟩:=(sender_safe hrun).2 _ rfl
 exact ⟨_,_,hrun,rfl,hunused,rfl,(hsafe closedSends _ rfl).1,rfl⟩

end ServiceLib.GrpcSender
