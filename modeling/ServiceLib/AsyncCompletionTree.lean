import ServiceLib.AsyncCompletion
import ServiceLib.Transition
import Mathlib.Logic.Relation

set_option autoImplicit false
attribute [-instance] instBooleanRingBool

/-!
# The order of completions
-/
namespace ServiceLib.AsyncCompletion
open Tokens (total total_set total_append total_cons total_nil)
open Transition List Option

def lease (state:Option ℕ) (f:ℕ) : ℕ :=
 if state = some f then 1 else 0

lemma lease_none (f:ℕ) : lease none f=0 := rfl

namespace State

def pending (s:State) (f:ℕ) : ℕ :=
 (s.frames[f]?.map Frame.pending).getD 0

def calls (s:State) (a:Activation) : ℕ :=
 total (List.count a) s.threads

/-- The leases of the tokens, of the frames on their parents, and of the releases that have
not reached the counter. -/
def leases (s:State) (f:ℕ) : ℕ :=
 total (fun token=>lease token.state f) s.tokens + total (fun frame=>lease frame.parentToken f) s.frames +
  s.calls ⟨f,.entering⟩

end State

variable {i t c p:ℕ} {old new rest:List Activation} {token:Token} {ls:List Label}

lemma getElem?_concat_cases {α:Type} {xs:List α} {last x:α} (h:(xs++[last])[i]?=some x) :
  xs[i]?=some x∨i=xs.length∧x=last := by
 rw[List.getElem?_append] at h
 split at h
 · exact .inl h
 · grind

lemma getElem?_set_cases {α:Type} {xs:List α} {new x:α} {j:ℕ} (h:(xs.set i new)[j]?=some x) :
  j=i∧x=new∨j≠i∧xs[j]?=some x := by
 by_cases hij:i=j
 · grind
 · rw[List.getElem?_set_ne hij] at h
   exact .inr ⟨Ne.symm hij,h⟩

section Updates
variable {s s':State} {l:Label} {f g:ℕ}

lemma count_enter (state:Option ℕ) (f:ℕ) : (State.enter state).count ⟨f,.entering⟩=lease state f := by
 cases state with
 | none => rfl
 | some g => simp[State.enter,lease,count_singleton]

lemma count_enter_of_ne (state:Option ℕ) {phase:Phase} (hphase:phase≠ .entering) (f:ℕ) :
  (State.enter state).count ⟨f,phase⟩=0 := by
 cases state with
 | none => rfl
 | some g => simp[State.enter,hphase.symm]

lemma calls_call (s:State) (state:Option ℕ) (a:Activation) :
  (s.call state).calls a=s.calls a+(State.enter state).count a := by
 unfold State.calls State.call
 rw[total_append,total_cons,total_nil,Nat.add_zero]

lemma calls_set
  (hi:s.threads[i]?=some old) (new:List Activation) (a:Activation)
  (hthreads:s'.threads=s.threads.set i new) : s'.calls a+old.count a=s.calls a+new.count a := by
 unfold State.calls
 rw[hthreads]
 exact total_set _ hi new

lemma leases_create (s:State) (frame:Frame) (f:ℕ) :
  (s.create frame).leases f=s.leases f+lease (some s.frames.length) f+lease frame.parentToken f := by
 unfold State.leases State.create State.calls
 simp only[total_append,total_cons,total_nil]
 omega

lemma leases_set (ht:s.tokens[t]?=some token) (new:Token) (f:ℕ) :
  { s with tokens := s.tokens.set t new }.leases f+lease token.state f=s.leases f+lease new.state f := by
 have htokens:=total_set (fun token:Token=>lease token.state f) ht new
 unfold State.leases State.calls
 dsimp only at htokens ⊢
 omega

lemma leases_setState (ht:s.tokens[t]?=some token) (state:Option ℕ) (f:ℕ) :
  (s.setState t token state).leases f+lease token.state f=s.leases f+lease state f :=
 leases_set ht { token with state := state } f

lemma leases_call (s:State) (state:Option ℕ) (f:ℕ) :
  (s.call state).leases f=s.leases f+lease state f := by
 have hcalls:=calls_call s state ⟨f,.entering⟩
 rw[count_enter] at hcalls
 unfold State.leases
 rw[hcalls]
 exact (Nat.add_assoc _ _ _).symm

lemma pending_create (s:State) (frame:Frame) (f:ℕ) :
  (s.create frame).pending f=if f=s.frames.length then frame.pending else s.pending f := by
 unfold State.pending State.create
 dsimp only
 rw[List.getElem?_append]
 split
 · next hlt => rw[if_neg (by omega)]
 · grind

lemma pending_set {frame:Frame} (hf:s.frames[f]?=some frame) (new:Frame)
  (hframes:s'.frames=s.frames.set f new) (g:ℕ) :
  s'.pending g=if g=f then new.pending else s.pending g := by
 have hlt:=(List.getElem?_eq_some_iff.mp hf).1
 unfold State.pending
 rw[hframes,List.getElem?_set]
 by_cases heq:g=f
 · subst heq
   simp[hlt]
 · rw[if_neg heq,if_neg (Ne.symm heq)]

lemma pending_keep {frame:Frame} (hf:s.frames[f]?=some frame) (new:Frame)
  (hnew:new.pending=frame.pending) (hframes:s'.frames=s.frames.set f new) (g:ℕ) :
  s'.pending g=s.pending g := by
 rw[pending_set hf new hframes]
 split
 · next heq =>
   rw[heq,hnew,State.pending,hf]
   rfl
 · rfl

lemma pending_of_frame {frame:Frame} (hf:s.frames[f]?=some frame) : s.pending f=frame.pending := by
 simp[State.pending,hf]

def Counted (s:State) : Prop :=
 ∀ f,s.pending f = s.leases f

lemma counted_create {frame:Frame} (hpending:frame.pending=1)
  (h:∀ f,s.pending f=s.leases f+lease frame.parentToken f) : Counted (s.create frame) := by
 intro f
 have hf:=h f
 rw[pending_create,leases_create,hpending,lease]
 by_cases heq:f=s.frames.length
 · grind[State.pending]
 · rw[if_neg heq,if_neg (fun h=>heq (some.inj h).symm)]
   omega

lemma leases_run {frame:Frame} (hi:s.threads[i]?=some old)
  (hf:s.frames[f]?=some frame) (next:Frame) (new:List Activation) (g:ℕ) :
  { s with frames := s.frames.set f next,threads := s.threads.set i new }.leases g +
     lease frame.parentToken g+old.count ⟨g,.entering⟩ =
    s.leases g+lease next.parentToken g+new.count ⟨g,.entering⟩ := by
 have hcalls:=total_set (List.count (⟨g,.entering⟩ : Activation)) hi new
 have htotal:=total_set (fun frame:Frame=>lease frame.parentToken g) hf next
 unfold State.leases State.calls
 dsimp only at hcalls htotal ⊢
 omega

lemma Counted.keep (h:Counted s) {frame next:Frame}
  (hi:s.threads[i]?=some old) (hf:s.frames[f]?=some frame) (hpending:next.pending=frame.pending)
  (hmoved:∀ g,lease next.parentToken g+new.count ⟨g,.entering⟩ =
   lease frame.parentToken g+old.count ⟨g,.entering⟩) :
  Counted { s with frames := s.frames.set f next,threads := s.threads.set i new } := by
 intro g
 have hrun:=leases_run hi hf next new g
 have hbefore:=h g
 have hg:=hmoved g
 rw[pending_keep hf next hpending rfl]
 omega

lemma Counted.release (h:Counted s) {frame:Frame}
  (hi:s.threads[i]?=some (⟨f,.entering⟩::rest)) (hf:s.frames[f]?=some frame)
  (hnew:∀ g,new.count ⟨g,.entering⟩=rest.count ⟨g,.entering⟩) :
  Counted { s with
   frames := s.frames.set f { frame with pending := frame.pending - 1 }
   threads := s.threads.set i new } := by
 intro g
 have hrun:=leases_run hi hf { frame with pending:=frame.pending - 1 } new g
 have hbefore:=h g
 rw[hnew,count_cons] at hrun
 rw[pending_set hf { frame with pending := frame.pending - 1 } rfl]
 simp only[beq_iff_eq,Activation.mk.injEq,and_true] at hrun
 by_cases heq:g=f
 · grind[pending_of_frame]
 · rw[if_neg (Ne.symm heq)] at hrun
   rw[if_neg heq]
   omega

lemma Counted.move (h:Counted s) (hmove:Move s l s') : Counted s' := by
 cases hmove with
 | makeRoot | makeShared => exact counted_create rfl h
 | makeInline ht =>
  refine counted_create rfl fun f=>?_
  have hlease:=leases_setState ht none f
  have hbefore:=h f
  change s.pending f=_
  simp only[lease,reduceCtorEq,if_false] at hlease ⊢
  omega
 | @retain f frame shared hf hpending =>
  intro g
  rw[pending_set hf { frame with pending := frame.pending+1 } rfl]
  have hbefore:=h g
  have htotal:=total_set (fun frame:Frame=>lease frame.parentToken g) hf
   { frame with pending := frame.pending+1 }
  unfold State.leases State.calls at hbefore ⊢
  simp only[total_append,total_cons,total_nil,lease,Option.some.injEq] at htotal hbefore ⊢
  by_cases heq:g=f
  · subst heq
    rw[pending_of_frame hf] at hbefore
    simp only[if_true]
    omega
  · rw[if_neg heq,if_neg (Ne.symm heq)]
    omega
 | retainNull | assignSelf => exact h
 | retainEmpty =>
  intro g
  have hbefore:=h g
  unfold State.leases State.calls at hbefore ⊢
  simp only[total_append,total_cons,total_nil,lease,reduceCtorEq,if_false,Nat.add_zero] at hbefore ⊢
  exact hbefore
 | @share t token ht =>
  intro g
  exact (h g).trans (Nat.add_right_cancel (leases_set ht { token with handles := token.handles+1 } g)).symm
 | @drop t token ht =>
  intro g
  exact (h g).trans (Nat.add_right_cancel (leases_set ht { token with handles := token.handles - 1 } g)).symm
 | @dropLast t token ht =>
  intro g
  have hlease:=leases_set ht { token with state:=none,handles := 0 } g
  rw[leases_call]
  rw[lease_none] at hlease
  exact (h g).trans hlease.symm
 | reset ht =>
  intro g
  have hlease:=leases_setState ht none g
  rw[leases_call]
  rw[lease_none] at hlease
  exact (h g).trans hlease.symm
 | @move t token ht =>
  intro g
  have hlease:=leases_setState ht none g
  have hbefore:s.pending g=s.leases g:=h g
  change s.pending g=_
  rw[lease_none] at hlease
  unfold State.leases State.calls at hlease hbefore ⊢
  simp only[total_append,total_cons,total_nil]
  omega
 | @assign destination source target token hne hd hs =>
  intro g
  have hfirst:=leases_setState hd token.state g
  have hs':(s.setState destination target token.state).tokens[source]?=some token:=by
   change (s.tokens.set destination _)[source]?=_
   rwa[List.getElem?_set_ne hne]
  have hsecond:=leases_setState hs' none g
  have hbefore:s.pending g=s.leases g:=h g
  rw[leases_call]
  change s.pending g=_
  rw[lease_none] at hsecond
  omega
 | @release i rest f frame hi hf hpending =>
  exact h.release hi hf fun g=>rfl
 | @releaseLast i rest f frame hi hf hpending =>
  exact h.release hi hf fun g=>by simp
 | complete hi hf | resetParent hi hf | finish hi hf => exact h.keep hi hf rfl fun g=>by simp
 | @resetParentToken i rest f frame hi hf =>
  refine h.keep hi hf rfl fun g=>?_
  rw[count_append,count_enter,lease_none]
  simp
 | @resetLast i rest f frame t token hi hf hparent ht hheld =>
  -- the token gives its lease to the nested call
  intro g
  have hlease:=leases_set ht { token with state:=none } g
  have hrun:=leases_run (s:={ s with tokens := s.tokens.set t { token with state := none } }) hi hf
   { frame with parent := none } (State.enter token.state++⟨f,.resetParentToken⟩::rest) g
  have hbefore:=h g
  rw[pending_keep hf { frame with parent := none } rfl rfl]
  rw[count_append,count_enter] at hrun
  rw[lease_none] at hlease
  simp only[count_cons,beq_iff_eq,Activation.mk.injEq,reduceCtorEq,and_false,if_false] at hrun
  omega

lemma calls_pos {a:Activation} (hi:s.threads[i]?=some (a::rest)) :
  0 < s.calls a := by
 have hle:=Tokens.le_total (List.count a) (mem_of_getElem? hi)
 rw[count_cons_self] at hle
 exact Nat.lt_of_lt_of_le (Nat.succ_pos _) hle

lemma calls_eq_zero (h:∀ stack∈s.threads,stack=[]) (a:Activation) : s.calls a=0 := by
 refine sum_eq_zero fun n hn=>?_
 obtain ⟨stack,hstack,rfl⟩:=mem_map.mp hn
 rw[h stack hstack,count_nil]

lemma Counted.pending_pos (h:Counted s) {frame:Frame}
  (hi:s.threads[i]?=some (⟨f,.entering⟩::rest)) (hf:s.frames[f]?=some frame) : 0 < frame.pending := by
 rw[← pending_of_frame hf,h f]
 exact Nat.lt_of_lt_of_le (calls_pos hi) (Nat.le_add_left _ _)

/-- How far the completion of a frame is, with the number of calls of its `release` at each
place after the counter. -/
structure Frame.RunsOnce (frame:Frame) (calls:Phase → ℕ) : Prop where
 active : frame.pending ≠ 0 → frame.started + calls .completing = 0
 completed : frame.pending = 0 → frame.started + calls .completing = 1
 finished : frame.finished + calls .running = frame.started
 after : calls .resetParent + calls .resetParentToken ≤ frame.finished

structure Once (s:State) : Prop where
 known : ∀ f phase,phase ≠ .entering → s.frames[f]? = none → s.calls ⟨f,phase⟩ = 0
 frame : ∀ (f:ℕ) (frame:Frame),s.frames[f]? = some frame →
  frame.RunsOnce fun phase=>s.calls ⟨f,phase⟩

lemma Once.congr (h:Once s) (hframes:s'.frames=s.frames)
    (hcalls:∀ f phase,phase≠ .entering→ s'.calls ⟨f,phase⟩=s.calls ⟨f,phase⟩) : Once s' where
 known f phase hphase hf := by
  rw[hcalls f phase hphase]
  exact h.known f phase hphase (hframes▸hf)
 frame f frame hf:=by
  obtain ⟨hactive,hcompleted,hfinished,hafter⟩:=h.frame f frame (hframes▸hf)
  refine ⟨fun hpending=>?_,fun hpending=>?_,?_,?_⟩
  · rw[hcalls f _ (by decide)]
    exact hactive hpending
  · rw[hcalls f _ (by decide)]
    exact hcompleted hpending
  · rw[hcalls f _ (by decide)]
    exact hfinished
  · rw[hcalls f _ (by decide),hcalls f _ (by decide)]
    exact hafter

lemma Once.call (h:Once s) (state:Option ℕ) : Once (s.call state) := by
 refine h.congr rfl fun f phase hphase=>?_
 rw[calls_call,count_enter_of_ne state hphase,Nat.add_zero]

lemma Once.create (h:Once s) {frame:Frame} (hpending:frame.pending≠0) (hstarted:frame.started=0)
    (hfinished:frame.finished=0) : Once (s.create frame) where
 known f phase hphase hf := by
  refine h.known f phase hphase (List.getElem?_eq_none_iff.mpr ?_)
  have hle:=List.getElem?_eq_none_iff.mp hf
  change (s.frames++[frame]).length≤f at hle
  rw[length_append] at hle
  exact Nat.le_of_succ_le hle
 frame f found hf:=by
  change (s.frames++[frame])[f]?=some found at hf
  rcases getElem?_concat_cases hf with hf | ⟨rfl,rfl⟩
  · exact h.frame f found hf
  · have hnone:s.frames[s.frames.length]?=none:=List.getElem?_eq_none (Nat.le_refl _)
    have hcalls:∀ phase,phase≠ .entering→ s.calls ⟨s.frames.length,phase⟩=0:=
     fun phase hphase=>h.known _ phase hphase hnone
    have hcompleting:=hcalls .completing (by decide)
    have hrunning:=hcalls .running (by decide)
    have hparent:=hcalls .resetParent (by decide)
    have htoken:=hcalls .resetParentToken (by decide)
    refine ⟨fun _=>?_,fun hzero=>absurd hzero hpending,?_,?_⟩
    · exact (congrArg₂ (·+·) hstarted hcompleting)
    · exact (congrArg₂ (·+·) hfinished hrunning).trans hstarted.symm
    · change s.calls _+s.calls _≤_
      omega

structure Shift (p:Phase) (q:Option Phase) (calls calls':Phase → ℕ) : Prop where
 completing : calls' .completing + (if p = .completing then 1 else 0) =
  calls .completing + if q = some .completing then 1 else 0
 running : calls' .running + (if p = .running then 1 else 0) = calls .running + if q = some .running then 1 else 0
 resetParent : calls' .resetParent + (if p = .resetParent then 1 else 0) =
  calls .resetParent + if q = some .resetParent then 1 else 0
 resetParentToken : calls' .resetParentToken + (if p = .resetParentToken then 1 else 0) =
  calls .resetParentToken + if q = some .resetParentToken then 1 else 0

lemma count_top (f g:ℕ) (q phase:Phase) (rest:List Activation) :
  List.count ⟨g,phase⟩ (⟨f,q⟩::rest) =
   rest.count ⟨g,phase⟩+if g=f∧some q=some phase then 1 else 0 := by
 rw[count_cons]
 simp only[beq_iff_eq,Activation.mk.injEq,Option.some.injEq,@eq_comm ℕ f g]

/-- A step of a thread at a place `p` of a call on a frame; what is on top of its stack
afterwards is at the place `q` of that call, or a call that has not reached the counter. -/
lemma Once.run (h:Once s) {frame next:Frame} (p:Phase)
  (q:Option Phase) (hi:s.threads[i]?=some (⟨f,p⟩::rest)) (hf:s.frames[f]?=some frame)
  (hframes:s'.frames=s.frames.set f next) (hthreads:s'.threads=s.threads.set i new)
  (hnew:∀ g phase,phase≠ .entering →
   new.count ⟨g,phase⟩=rest.count ⟨g,phase⟩+if g=f∧q=some phase then 1 else 0)
  (hnext:∀ calls calls' : Phase→ℕ,frame.RunsOnce calls→ Shift p q calls calls'→ next.RunsOnce calls') :
  Once s' := by
 have hcalls:∀ g phase,phase≠ .entering →
  s'.calls ⟨g,phase⟩+(if f=g∧p=phase then 1 else 0) =
   s.calls ⟨g,phase⟩+if g=f∧q=some phase then 1 else 0:=by
  intro g phase hphase
  have hset:=calls_set hi new ⟨g,phase⟩ hthreads
  rw[hnew g phase hphase,count_cons] at hset
  simp only[beq_iff_eq,Activation.mk.injEq] at hset
  omega
 have hother:∀ g phase,phase≠ .entering→ g≠f→ s'.calls ⟨g,phase⟩=s.calls ⟨g,phase⟩:=by
  intro g phase hphase hne
  have hg:=hcalls g phase hphase
  rwa[if_neg (fun h=>hne h.1.symm),if_neg (fun h=>hne h.1)] at hg
 have hlt:=(List.getElem?_eq_some_iff.mp hf).1
 refine ⟨fun g phase hphase hg=>?_,fun g found hg=>?_⟩
 · grind[Once.known]
 · rw[hframes] at hg
   rcases getElem?_set_cases hg with ⟨rfl,rfl⟩ | ⟨hne,hg⟩
   · have hsame:∀ phase,phase≠ .entering →
      s'.calls ⟨g,phase⟩+(if p=phase then 1 else 0) =
       s.calls ⟨g,phase⟩+if q=some phase then 1 else 0:=by
      intro phase hphase
      have hg:=hcalls g phase hphase
      simpa only[true_and] using hg
     exact hnext _ _ (h.frame g frame hf)
      ⟨hsame _ (by decide),hsame _ (by decide),hsame _ (by decide),hsame _ (by decide)⟩
   · obtain ⟨hactive,hcompleted,hfinished,hafter⟩:=h.frame g found hg
     refine ⟨?_,?_,?_,?_⟩
     · rw[hother g _ (by decide) hne]
       exact hactive
     · rw[hother g _ (by decide) hne]
       exact hcompleted
     · rw[hother g _ (by decide) hne]
       exact hfinished
     · rw[hother g _ (by decide) hne,hother g _ (by decide) hne]
       exact hafter

lemma Once.move (h:Once s) (hcounted:Counted s) (hmove:Move s l s') : Once s' := by
 cases hmove with
 | makeRoot | makeShared => exact h.create Nat.one_ne_zero rfl rfl
 | @makeInline t token ht =>
  have hset:Once (s.setState t token none):=h.congr rfl fun _ _ _=>rfl
  exact hset.create Nat.one_ne_zero rfl rfl
 | retainNull | assignSelf => exact h
 | retainEmpty | share | drop | move => exact h.congr rfl fun _ _ _=>rfl
 | dropLast | reset | assign =>
  refine Once.call ?_ _
  exact h.congr rfl fun _ _ _=>rfl
 | @retain f frame shared hf hpending =>
  obtain ⟨hactive,hcompleted,hfinished,hafter⟩:=h.frame f frame hf
  refine ⟨fun g phase hphase hg=>h.known g phase hphase ?_,fun g found hg=>?_⟩
  · grind
  · rcases getElem?_set_cases hg with ⟨rfl,rfl⟩ | ⟨hne,hg⟩
    · exact ⟨fun _=>hactive hpending,fun hzero=>(nomatch hzero),hfinished,hafter⟩
    · exact h.frame g found hg
 | @release i rest f frame hi hf hpending =>
  refine h.run .entering none hi hf rfl rfl (fun g phase hphase=>by simp) ?_
  exact fun _ _ ⟨_,_,_,_⟩ ⟨_,_,_,_⟩=>by constructor <;> grind
 | @releaseLast i rest f frame hi hf hpending =>
  have hpos:=hcounted.pending_pos hi hf
  refine h.run .entering (some .completing) hi hf rfl rfl (fun g phase _=>count_top f g _ phase rest) ?_
  exact fun _ _ ⟨_,_,_,_⟩ ⟨_,_,_,_⟩=>by constructor <;> grind
 | @complete i rest f frame hi hf =>
  refine h.run .completing (some .running) hi hf rfl rfl (fun g phase _=>count_top f g _ phase rest) ?_
  exact fun _ _ ⟨_,_,_,_⟩ ⟨_,_,_,_⟩=>by constructor <;> grind
 | @finish i rest f frame hi hf =>
  refine h.run .running (some .resetParent) hi hf rfl rfl (fun g phase _=>count_top f g _ phase rest) ?_
  exact fun _ _ ⟨_,_,_,_⟩ ⟨_,_,_,_⟩=>by constructor <;> grind
 | @resetParent i rest f frame hi hf =>
  refine h.run .resetParent (some .resetParentToken) hi hf rfl rfl
   (fun g phase _=>count_top f g _ phase rest) ?_
  exact fun _ _ ⟨_,_,_,_⟩ ⟨_,_,_,_⟩=>by constructor <;> grind
 | @resetLast i rest f frame t token hi hf =>
  refine h.run .resetParent (some .resetParentToken) hi hf rfl rfl (fun g phase hphase=>?_) ?_
  · grind[count_enter_of_ne]
  exact fun _ _ ⟨_,_,_,_⟩ ⟨_,_,_,_⟩=>by constructor <;> grind
 | @resetParentToken i rest f frame hi hf =>
  refine h.run .resetParentToken none hi hf rfl rfl (fun g phase hphase=>?_) ?_
  · rw[count_append,count_enter_of_ne _ hphase,Nat.zero_add]
    simp
  exact fun _ _ ⟨_,_,_,_⟩ ⟨_,_,_,_⟩=>by constructor <;> grind

/-- No frame whose completion function has not returned has the token as its shared parent. -/
def State.isUnlent (s:State) (t:ℕ) : Bool :=
 s.frames.all fun frame=>frame.finished != 0 || frame.parent != some t

/-- A step that does not take the lease out of a token that a frame shares. -/
def keepsLent (s:State) : Label → Bool
 | .initializeCompletion (some t) | .reset t | .move t => s.isUnlent t
 | .assign destination source => destination == source || (s.isUnlent destination && s.isUnlent source)
 | _ => true

lemma isUnlent_iff : s.isUnlent t=true ↔
  ∀ frame∈s.frames,frame.finished=0→ frame.parent≠some t := by
 grind[State.isUnlent]

def Frame.Holds (frame:Frame) (tokens:List Token) : Prop :=
 ∀ p,frame.under = some p → frame.finished = 0 → frame.parentToken = some p ∨
  ∃ (t:ℕ) (token:Token),frame.parent = some t ∧ tokens[t]? = some token ∧ token.state = some p

def Held (frames:List Frame) (tokens:List Token) : Prop :=
 ∀ frame ∈ frames,frame.Holds tokens

lemma Frame.Holds.tokens {frame:Frame} {tokens tokens':List Token} (h:frame.Holds tokens)
  (hkept:∀ (t:ℕ) (token:Token),frame.finished=0→ frame.parent=some t→ tokens[t]?=some token →
   ∃ token' : Token,tokens'[t]?=some token'∧token'.state=token.state) : frame.Holds tokens' := by
 intro p hunder hfinished
 rcases h p hunder hfinished with htoken | ⟨t,token,hparent,ht,hstate⟩
 · exact .inl htoken
 · grind

lemma kept_append {tokens:List Token} (ht:tokens[t]?=some token) (new:Token) :
  ∃ token' : Token,(tokens++[new])[t]?=some token'∧token'.state=token.state :=
 ⟨token,(List.getElem?_append_left (List.getElem?_eq_some_iff.mp ht).1).trans ht,rfl⟩

lemma kept_set {tokens:List Token} {u:ℕ} {old new:Token} (ht:tokens[t]?=some token)
  (hu:tokens[u]?=some old) (h:t≠u∨new.state=old.state) :
  ∃ token' : Token,(tokens.set u new)[t]?=some token'∧token'.state=token.state := by
 by_cases heq:t=u
 · grind
 · exact ⟨token,(List.getElem?_set_ne (Ne.symm heq)).trans ht,rfl⟩

section Held
variable {frames:List Frame} {tokens:List Token}

lemma Held.append (h:Held frames tokens) (new:Token) : Held frames (tokens++[new]) :=
 fun frame hframe=>(h frame hframe).tokens fun _ _ _ _ ht=>kept_append ht new

lemma Held.set (h:Held frames tokens) {u:ℕ} {old:Token} (hu:tokens[u]?=some old) (new:Token)
  (hunlent:∀ frame∈frames,frame.finished=0→ frame.parent≠some u) : Held frames (tokens.set u new) := by
 refine fun frame hframe=>(h frame hframe).tokens fun t _ hfinished hparent ht=>kept_set ht hu (.inl ?_)
 rintro rfl
 exact hunlent frame hframe hfinished hparent

lemma Held.frame (h:Held frames tokens) {frame:Frame} (hf:frames[f]?=some frame) (next:Frame)
  (hnext:next.finished≠0∨next.under=frame.under∧next.finished=frame.finished ∧
   next.parent=frame.parent∧next.parentToken=frame.parentToken) : Held (frames.set f next) tokens := by
 intro found hfound
 rcases mem_or_eq_of_mem_set hfound with hfound | rfl
 · exact h found hfound
 · rcases hnext with hfinished | ⟨hunder,hfinished,hparent,htoken⟩
   · exact fun _ _ hzero=>absurd hzero hfinished
   · intro p
     rw[hunder,hfinished,hparent,htoken]
     exact h frame (mem_of_getElem? hf) p

lemma Held.create (h:Held frames tokens) {new:Frame} (hnew:new.Holds tokens) (token:Token) :
  Held (frames++[new]) (tokens++[token]) := by
 have hall:Held (frames++[new]) tokens:=by
  intro frame hframe
  rcases mem_append.mp hframe with hframe | hframe
  · exact h frame hframe
  · rw[mem_singleton.mp hframe]
    exact hnew
 exact hall.append token

end Held

lemma Held.move (h:Held s.frames s.tokens) (honce:Once s) (hkeeps:keepsLent s l=true)
  (hmove:Move s l s') : Held s'.frames s'.tokens := by
 have hafter:∀ {i f:ℕ} {phase:Phase} {rest:List Activation} {frame:Frame},
  phase=.resetParent∨phase=.resetParentToken→ s.threads[i]?=some (⟨f,phase⟩::rest) →
  s.frames[f]?=some frame→ frame.finished≠0:=by
  intro i f phase rest frame hphase hi hf
  have hpos:=calls_pos hi
  have hle:=(honce.frame f frame hf).after
  rcases hphase with rfl | rfl <;> omega
 cases hmove with
 | makeRoot =>
  have hroot:Frame.Holds {} s.tokens:=fun _ hunder=>nomatch hunder
  exact h.create hroot _
 | @makeShared t token ht hhandles => exact h.create (fun _ hunder _=>.inr ⟨t,token,rfl,ht,hunder⟩) _
 | @makeInline t token ht =>
  have hset:=h.set ht { token with state:=none } (isUnlent_iff.mp hkeeps)
  exact hset.create (fun _ hunder _=>.inl hunder) _
 | @retain f frame shared hf hpending =>
  exact (h.append _).frame hf _ (.inr ⟨rfl,rfl,rfl,rfl⟩)
 | retainNull | assignSelf => exact h
 | retainEmpty => exact h.append _
 | share ht | drop ht =>
  exact fun frame hframe=>(h frame hframe).tokens fun _ _ _ _ hu=>kept_set hu ht (.inr rfl)
 | dropLast ht hheld =>
  refine h.set ht _ fun frame hframe _ hparent=>?_
  exact any_eq_false.mp hheld frame hframe (decide_eq_true hparent)
 | reset ht => exact h.set ht _ (isUnlent_iff.mp hkeeps)
 | move ht => exact (h.set ht _ (isUnlent_iff.mp hkeeps)).append _
 | @assign destination source target token hne hd hs =>
  have hboth:s.isUnlent destination=true∧s.isUnlent source=true:=
   Bool.and_eq_true_iff.mp ((Bool.or_eq_true_iff.mp hkeeps).resolve_left fun heq=>hne (beq_iff_eq.mp heq))
  have hset:=h.set hd { target with state:=token.state } (isUnlent_iff.mp hboth.1)
  have hs':(s.tokens.set destination { target with state:=token.state })[source]?=some token :=
   (List.getElem?_set_ne hne).trans hs
  exact hset.set hs' _ (isUnlent_iff.mp hboth.2)
 | release hi hf | releaseLast hi hf | complete hi hf => exact h.frame hf _ (.inr ⟨rfl,rfl,rfl,rfl⟩)
 | finish hi hf => exact h.frame hf _ (.inl (Nat.succ_ne_zero _))
 | resetParent hi hf =>
  have hfinished:=hafter (.inl rfl) hi hf
  exact h.frame hf _ (.inl hfinished)
 | resetParentToken hi hf =>
  have hfinished:=hafter (.inr rfl) hi hf
  exact h.frame hf _ (.inl hfinished)
 | @resetLast i rest f frame t token hi hf hparent ht hheld =>
  have hfinished:=hafter (.inl rfl) hi hf
  refine (h.frame hf { frame with parent := none } (.inl hfinished)).set ht _ fun found hfound _ hshared=>?_
  exact any_eq_false.mp hheld found hfound (decide_eq_true hshared)

def Phase.rank : Phase → ℕ
 | .entering => 5
 | .completing => 4
 | .running => 3
 | .resetParent => 2
 | .resetParentToken => 1

def Frame.rank (frame:Frame) : ℕ :=
 (if frame.parent.isSome then 5 else 0) + if frame.parentToken.isSome then 5 else 0

def stackRank (stack:List Activation) : ℕ :=
 total (fun a=>a.phase.rank) stack

def work (s:State) : ℕ :=
 total Frame.rank s.frames + total stackRank s.threads

/-- The steps of the threads in `release`, with those of the completion functions. -/
def Label.internal : Label → Prop
 | .run _ | .finish _ => True
 | _ => False

lemma stackRank_enter (state:Option ℕ) : stackRank (State.enter state)=if state.isSome then 5 else 0 := by
 cases state <;> rfl

lemma work_run {frame:Frame} (hi:s.threads[i]?=some old)
  (hf:s.frames[f]?=some frame) (next:Frame) (new:List Activation) (tokens:List Token)
  (hlt:next.rank+stackRank new < frame.rank+stackRank old) :
  work { s with frames := s.frames.set f next,tokens := tokens,threads := s.threads.set i new } < work s := by
 have hframes:=total_set Frame.rank hf next
 have hthreads:=total_set stackRank hi new
 unfold work
 dsimp only
 omega

lemma stackRank_cons (a:Activation) (rest:List Activation) :
  stackRank (a::rest)=a.phase.rank+stackRank rest :=
 total_cons _ a rest

lemma stackRank_append (stack rest:List Activation) :
  stackRank (stack++rest)=stackRank stack+stackRank rest :=
 total_append _ stack rest

lemma work_move (hl:l.internal) (hmove:Move s l s') : work s' < work s := by
 cases hmove with
 | makeRoot hroot => rcases hroot with rfl | rfl <;> exact hl.elim
 | makeShared | makeInline | retain | retainNull | retainEmpty | share | dropLast | drop | reset | move
 | assignSelf | assign => exact hl.elim
 | @release i rest f frame hi hf hpending =>
  refine work_run hi hf _ rest s.tokens ?_
  rw[stackRank_cons]
  change frame.rank+_ < frame.rank+(5+stackRank rest)
  omega
 | @releaseLast i rest f frame hi hf hpending =>
  refine work_run hi hf _ (⟨f,.completing⟩::rest) s.tokens ?_
  rw[stackRank_cons,stackRank_cons]
  change frame.rank+(4+stackRank rest) < frame.rank+(5+stackRank rest)
  omega
 | @complete i rest f frame hi hf =>
  refine work_run hi hf _ (⟨f,.running⟩::rest) s.tokens ?_
  rw[stackRank_cons,stackRank_cons]
  change frame.rank+(3+stackRank rest) < frame.rank+(4+stackRank rest)
  omega
 | @finish i rest f frame hi hf =>
  refine work_run hi hf _ (⟨f,.resetParent⟩::rest) s.tokens ?_
  rw[stackRank_cons,stackRank_cons]
  change frame.rank+(2+stackRank rest) < frame.rank+(3+stackRank rest)
  omega
 | @resetParent i rest f frame hi hf =>
  refine work_run hi hf _ (⟨f,.resetParentToken⟩::rest) s.tokens ?_
  rw[stackRank_cons,stackRank_cons,Frame.rank,Frame.rank]
  simp only[isSome_none,Bool.false_eq_true,if_false,Phase.rank]
  omega
 | @resetLast i rest f frame t token hi hf hparent ht hheld =>
  -- the lease on the parent is spent on the nested call
  refine work_run hi hf _ (State.enter token.state++⟨f,.resetParentToken⟩::rest) _ ?_
  have hle:stackRank (State.enter token.state)≤5:=by
   rw[stackRank_enter]
   split <;> omega
  rw[stackRank_append,stackRank_cons,stackRank_cons,Frame.rank,Frame.rank,hparent]
  simp only[isSome_none,isSome_some,Bool.false_eq_true,if_true,if_false,Phase.rank]
  omega
 | @resetParentToken i rest f frame hi hf =>
  refine work_run hi hf _ (State.enter frame.parentToken++rest) s.tokens ?_
  rw[stackRank_append,stackRank_enter,stackRank_cons,Frame.rank,Frame.rank]
  simp only[isSome_none,Bool.false_eq_true,if_false,Phase.rank]
  omega

def Linked (s:State) : Prop :=
 ∀ frame ∈ s.frames,∀ t,frame.parent = some t → t < s.tokens.length

lemma Linked.frame (h:Linked s) {frame:Frame} (hf:s.frames[f]?=some frame) (next:Frame)
  (hnext:next.parent=none∨next.parent=frame.parent) :
  ∀ found∈s.frames.set f next,∀ t,found.parent=some t→ t < s.tokens.length := by
 grind[Linked]

lemma Linked.create (h:Linked s) {frame:Frame} (hnew:∀ t,frame.parent=some t→ t < s.tokens.length) :
  Linked (s.create frame) := by
 intro found hfound t hparent
 have hlength:(s.create frame).tokens.length=s.tokens.length+1:=length_append
 rw[hlength]
 rcases mem_append.mp hfound with hfound | hfound
 · exact Nat.lt_succ_of_lt (h found hfound t hparent)
 · rw[mem_singleton.mp hfound] at hparent
   exact Nat.lt_succ_of_lt (hnew t hparent)

lemma Linked.tokens (h:Linked s) (hframes:s'.frames=s.frames)
  (hlength:s.tokens.length≤ s'.tokens.length) : Linked s' := by
 intro frame hframe t hparent
 exact Nat.lt_of_lt_of_le (h frame (hframes▸hframe) t hparent) hlength

lemma Linked.move (h:Linked s) (hmove:Move s l s') : Linked s' := by
 cases hmove with
 | makeRoot => exact h.create fun _ hparent=>nomatch hparent
 | makeShared ht =>
  refine h.create fun u hparent=>?_
  obtain rfl:=some.inj hparent
  exact (List.getElem?_eq_some_iff.mp ht).1
 | @makeInline t token ht => grind[State.setState,Linked.tokens,Linked.create]
 | retainNull | assignSelf => exact h
 | retainEmpty => exact h.tokens rfl (by simp)
 | share | drop | dropLast | reset => exact h.tokens rfl (Nat.le_of_eq length_set.symm)
 | move => exact h.tokens rfl (by simp[State.setState])
 | assign => exact h.tokens rfl (by simp[State.setState,State.call])
 | @retain f frame shared hf hpending => grind[Linked]
 | release hi hf | releaseLast hi hf | complete hi hf | finish hi hf | resetParentToken hi hf =>
  exact h.frame hf _ (.inr rfl)
 | resetParent hi hf => exact h.frame hf _ (.inl rfl)
 | @resetLast i rest f frame t token hi hf hparent ht hheld => grind[Linked]

structure Sound (s:State) : Prop where
 counted : Counted s
 once : Once s
 linked : Linked s

lemma sound_initial : Sound {} where
 counted _ := rfl
 once := ⟨fun _ _ _ _=>rfl,fun _ _ h=>nomatch h⟩
 linked _ h := nomatch h

lemma Sound.move (h:Sound s) (hmove:Move s l s') : Sound s' :=
 ⟨h.counted.move hmove,h.once.move h.counted hmove,h.linked.move hmove⟩

lemma Sound.frame_of_call (h:Sound s) {phase:Phase}
  (hi:s.threads[i]?=some (⟨f,phase⟩::rest)) : ∃ frame,s.frames[f]?=some frame := by
 have hpos:=calls_pos hi
 refine ne_none_iff_exists'.mp fun hnone=>?_
 by_cases hphase:phase=.entering
 · subst hphase
   have hcounted:=h.counted f
   rw[State.pending,hnone] at hcounted
   unfold State.leases at hcounted
   change 0=_ at hcounted
   omega
 · have hzero:=h.once.known f phase hphase hnone
   omega

lemma Sound.empty_of_idle (h:Sound s) (hidle:∀ l,l.internal→ step s l=none) :
  ∀ stack∈s.threads,stack=[] := by
 intro stack hstack
 obtain ⟨i,hi⟩:=mem_iff_getElem?.mp hstack
 cases stack with
 | nil => rfl
 | cons a rest =>
  obtain ⟨f,phase⟩:=a
  have hrun:run s i=none:=hidle (.run i) trivial
  have hfinish:step s (.finish i)=none:=hidle (.finish i) trivial
  obtain ⟨frame,hf⟩:=h.frame_of_call hi
  cases phase with
  | entering | completing | resetParentToken =>
   simp only[run,hi,hf,bind_eq_bind,bind_some] at hrun
   cases hrun
  | running =>
   simp only[step,hi,hf,bind_eq_bind,bind_some] at hfinish
   cases hfinish
  | resetParent =>
   simp only[run,hi,hf,bind_eq_bind,bind_some] at hrun
   split at hrun
   · cases hrun
   · next t hparent =>
     have hlt:=h.linked frame (mem_of_getElem? hf) t hparent
     rw[List.getElem?_eq_getElem hlt,bind_some] at hrun
     split at hrun <;> cases hrun

lemma sound_exec (hs:Sound s) (hrun:exec step s ls=some s') : Sound s' :=
 exec_invariant (fun _ _ _ h hstep=>h.move (move_of_step hstep)) hs hrun

lemma pending_create_zero (frame:Frame) (hf:f < s.frames.length) (hzero:s.pending f=0) :
  f < (s.create frame).frames.length∧(s.create frame).pending f=0 := by
 have hlength:(s.create frame).frames.length=s.frames.length+1:=length_append
 rw[pending_create,if_neg (Nat.ne_of_lt hf),hlength]
 exact ⟨Nat.lt_succ_of_lt hf,hzero⟩

lemma leases_zero_move (hs:Sound s) (hmove:Move s l s') (hf:f < s.frames.length) (hzero:s.leases f=0) :
  f < s'.frames.length∧s'.leases f=0 := by
 rw[← (hs.move hmove).counted f]
 rw[← hs.counted f] at hzero
 have hset:∀ {g:ℕ} {frame:Frame} (next:Frame) {s':State},s.frames[g]?=some frame →
  s'.frames=s.frames.set g next→(frame.pending=0→ next.pending=0) →
  f < s'.frames.length∧s'.pending f=0:=by
  intro g frame next s' hg hframes hnext
  rw[pending_set hg next hframes,hframes,length_set]
  refine ⟨hf,?_⟩
  split
  · next heq => exact hnext (by rw[← pending_of_frame hg,← heq,hzero])
  · exact hzero
 cases hmove with
 | makeRoot | makeShared | makeInline => exact pending_create_zero _ hf hzero
 | retainNull | retainEmpty | share | drop | dropLast | reset | move | assignSelf | assign => exact ⟨hf,hzero⟩
 | @retain g frame shared hg hpending => exact hset _ hg rfl fun hnone=>absurd hnone hpending
 | @release i rest g frame hi hg | @releaseLast i rest g frame hi hg => grind[State.pending]
 | complete hi hg | resetParent hi hg | resetParentToken hi hg | finish hi hg | resetLast hi hg =>
  exact hset _ hg rfl id

lemma leases_zero_exec (hs:Sound s) (hrun:exec step s ls=some s')
  (hf:f < s.frames.length) (hzero:s.leases f=0) : s'.leases f=0 := by
 have hend:Sound s'∧f < s'.frames.length∧s'.leases f=0:=
  exec_invariant (I := fun s=>Sound s∧f < s.frames.length∧s.leases f=0)
   (fun _ _ _ h hstep =>
    have hmove:=move_of_step hstep
    ⟨h.1.move hmove,leases_zero_move h.1 hmove h.2.1 h.2.2⟩)
   ⟨hs,hf,hzero⟩ hrun
 exact hend.2.2

lemma held_exec (hkeeps:Along step (fun s l=>keepsLent s l=true) {} ls)
  (hrun:exec step {} ls=some s) : Held s.frames s.tokens := by
 have hinitial:Sound {}∧Held ({} : State).frames ({} : State).tokens:=⟨sound_initial,fun _ h=>nomatch h⟩
 exact (exec_invariant_along (I := fun s=>Sound s∧Held s.frames s.tokens)
  (fun _ _ _ h hok hstep =>
   ⟨h.1.move (move_of_step hstep),h.2.move h.1.once hok (move_of_step hstep)⟩)
  hinitial hkeeps hrun).2

def Under (s:State) (c p:ℕ) : Prop :=
 ∃ frame,s.frames[c]? = some frame ∧ frame.under = some p

lemma Held.leases_pos (h:Held s.frames s.tokens) {frame:Frame} (hc:s.frames[c]?=some frame)
  (hunder:frame.under=some p) (hfinished:frame.finished=0) : 0 < s.leases p := by
 have hmem:=mem_of_getElem? hc
 have hone:lease (some p) p=1:=if_pos rfl
 rcases h frame hmem p hunder hfinished with htoken | ⟨t,token,-,ht,hstate⟩
 · grind[Tokens.le_total,State.leases]
 · have hle:=Tokens.le_total (fun token:Token=>lease token.state p) (mem_of_getElem? ht)
   rw[hstate,hone] at hle
   unfold State.leases
   omega

lemma Sound.leases_zero_iff (h:Sound s) {frame:Frame} (hf:s.frames[f]?=some frame) :
  s.leases f=0↔frame.started=1∨0 < s.calls ⟨f,.completing⟩ := by
 obtain ⟨hactive,hcompleted,hfinished,hafter⟩:=h.once.frame f frame hf
 rw[← h.counted f,pending_of_frame hf]
 omega

lemma Sound.started_le (h:Sound s) {frame:Frame} (hf:s.frames[f]?=some frame) :
  frame.started≤1∧frame.finished≤frame.started := by
 obtain ⟨hactive,hcompleted,hfinished,hafter⟩:=h.once.frame f frame hf
 omega

lemma Under.finished (h:Sound s) (hheld:Held s.frames s.tokens) (hunder:Under s c p)
  (hzero:s.leases p=0) : ∃ frame,s.frames[c]?=some frame∧frame.finished=1∧s.leases c=0 := by
 obtain ⟨frame,hc,hp⟩:=hunder
 obtain ⟨hstarted,hfinished⟩:=h.started_le hc
 have hdone:frame.finished≠0:=by
  intro hnone
  have hpos:=hheld.leases_pos hc hp hnone
  omega
 refine ⟨frame,hc,by omega,(h.leases_zero_iff hc).mpr (.inl (by omega))⟩

/-- The frames below one without leases have completed, from the top down. -/
lemma descendants_finished (h:Sound s) (hheld:Held s.frames s.tokens)
  (hdescends:Relation.TransGen (Under s) c p) (hzero:s.leases p=0) :
  ∃ frame,s.frames[c]?=some frame∧frame.finished=1∧s.leases c=0 := by
 induction hdescends using Relation.TransGen.head_induction_on with
 | single hunder => exact hunder.finished h hheld hzero
 | head hunder _ ih =>
  obtain ⟨-,-,-,hleases⟩:=ih
  exact hunder.finished h hheld hleases

end Updates

/-- A completion function runs once, in the release that leaves no lease on its frame, and
no lease can be taken on the frame any more. The threads in a release come to an end,
and by then every frame without leases has completed. In a run whose steps leave the
shared tokens of the frames alone, a frame without leases has only completed frames
below it. -/
theorem completion_tree {s : State} {ls : List Label} (hrun : exec step {} ls = some s) :
  (∀ (f : ℕ) (frame : Frame), s.frames[f]? = some frame →
   frame.started ≤ 1 ∧ frame.finished ≤ frame.started ∧
   (s.leases f = 0 ↔ frame.started = 1 ∨ 0 < s.calls ⟨f, .completing⟩) ∧
   (s.leases f = 0 → ∀ ls' s', exec step s ls' = some s' → s'.leases f = 0)) ∧
  (∀ ls' s', (∀ l ∈ ls', l.internal) → exec step s ls' = some s' →
   ls'.length ≤ work s ∧
   ((∀ l, l.internal → step s' l = none) → ∀ (f : ℕ) (frame : Frame), s'.frames[f]? = some frame →
    s'.leases f = 0 → frame.started = 1 ∧ frame.finished = 1)) ∧
  (Along step (fun s l => keepsLent s l = true) {} ls → ∀ c p, Relation.TransGen (Under s) c p →
   ∀ parent : Frame, s.frames[p]? = some parent → parent.started ≠ 0 →
    s.leases p = 0 ∧ s.leases c = 0 ∧ ∃ frame, s.frames[c]? = some frame ∧ frame.finished = 1) := by
 have h:=sound_exec sound_initial hrun
 refine ⟨fun f frame hf=>?_,fun ls' s' hinternal hrun'=>⟨?_,fun hidle f frame hf hzero=>?_⟩,
  fun hkeeps c p hdescends parent hp hstarted=>?_⟩
 · grind[Sound.started_le,Sound.leases_zero_iff,leases_zero_exec]
 · have hle:ls'.length+work s'≤work s:=by
    refine exec_work (I := Sound) ?_ ?_ h hinternal hrun'
    · exact fun _ _ _ h hstep=>h.move (move_of_step hstep)
    · exact fun _ _ _ _ hl hstep=>work_move hl (move_of_step hstep)
   omega
 · have hend:=sound_exec h hrun'
   have hempty:=hend.empty_of_idle hidle
   have hcalls:∀ a,s'.calls a=0:=fun a=>calls_eq_zero hempty a
   obtain ⟨hactive,hcompleted,hfinished,hafter⟩:=hend.once.frame f frame hf
   rw[← hend.counted f,pending_of_frame hf] at hzero
   have hcompleting:=hcalls ⟨f,.completing⟩
   have hrunning:=hcalls ⟨f,.running⟩
   have hone:=hcompleted hzero
   omega
 · grind[Sound.started_le,Sound.leases_zero_iff,descendants_finished,held_exec]

/-- A frame, and one under it by a shared token; tokens 0 and 2 are the creators' leases. -/
def parentAndChild : List Label :=
 [.make none,.retain 0 true,.make (some 1),.reset 0,.run 0]

def childFirst : List Label :=
 parentAndChild ++ [.drop 1,.reset 2,.run 1,.run 1,.finish 1,.run 1,.run 1,.run 1]

theorem completion_tree_child_first : ∃ s parent child, exec step {} childFirst = some s ∧
  s.frames = [parent, child] ∧ parent.started = 1 ∧ child.finished = 1 ∧ s.leases 1 = 0 := by
 obtain ⟨s,hrun,hframes⟩ : ∃ s,exec step {} childFirst=some s ∧
  s.frames=[⟨0,none,none,none,1,0⟩,⟨0,none,none,some 0,1,1⟩] :=
  map_eq_some_iff.mp (by decide +kernel : (exec step {} childFirst).map State.frames=some _)
 have hunder:Relation.TransGen (Under s) 1 0:=.single ⟨_,by rw[hframes]; rfl,rfl⟩
 have hkeeps:Along step (fun s l=>keepsLent s l=true) {} childFirst:=by decide +kernel
 obtain ⟨-,hleases,frame,hchild,hfinished⟩:=
  (completion_tree hrun).2.2 hkeeps 1 0 hunder _ (by rw[hframes]; rfl) Nat.one_ne_zero
 rw[hframes] at hchild
 obtain rfl:=some.inj hchild
 exact ⟨s,_,_,hrun,hframes,rfl,hfinished,hleases⟩

/-- The child's token on its parent is shared, and another owner resets it: the parent
completes while the child is active. -/
theorem parent_completes_first : ∃ s parent child,
  exec step {} (parentAndChild ++ [.reset 1, .run 1, .run 1]) = some s ∧
  s.frames = [parent, child] ∧ child.under = some 0 ∧ parent.started = 1 ∧ child.started = 0 ∧
  s.leases 1 = 1 := by
 obtain ⟨s,hrun,hfacts⟩ : ∃ s,exec step {} (parentAndChild++[.reset 1,.run 1,.run 1])=some s ∧
  (s.frames,s.leases 1)=([⟨0,none,none,none,1,0⟩,⟨1,some 1,none,some 0,0,0⟩],1) :=
  map_eq_some_iff.mp (by decide +kernel :
   (exec step {} (parentAndChild++[.reset 1,.run 1,.run 1])).map (fun s=>(s.frames,s.leases 1))=some _)
 obtain ⟨hframes,hleases⟩:=Prod.mk.inj hfacts
 exact ⟨s,_,_,hrun,hframes,rfl,rfl,rfl,hleases⟩

end ServiceLib.AsyncCompletion
