import Mathlib.Algebra.Order.BigOperators.Group.Finset
import ServiceLib.SubStreamMoves
import ServiceLib.Tokens

set_option autoImplicit false
attribute [-instance] instBooleanRingBool

/-!
# Runs of sub-stream invocations
-/
namespace ServiceLib.SubStream
open Transition Tokens Function List Option

variable {V E:Type}

def Innermost (bindings:List Binding) (key call:ℕ) : Prop :=
 ∃ inner outer,bindings = inner ++ ⟨key,call⟩ :: outer ∧ ∀ binding ∈ inner,binding.key ≠ key

variable {bindings:List Binding} {key c:ℕ}

lemma innermost_of_localValue {call:ℕ}
  (h:localValue bindings key=some call) : Innermost bindings key call := by
 induction bindings with
 | nil => cases h
 | cons binding parent ih =>
  rw[localValue] at h
  split at h
  case isTrue hkey =>
   cases h
   exact ⟨[],parent,by rw[← hkey]; rfl,fun _ hb=>absurd hb not_mem_nil⟩
  case isFalse hkey =>
   obtain ⟨inner,outer,heq,hinner⟩:=ih h
   refine ⟨binding::inner,outer,by rw[heq]; rfl,?_⟩
   intro b hb
   rcases mem_cons.mp hb with rfl | hb
   · exact hkey
   · exact hinner b hb

lemma ne_of_localValue_none (h:localValue bindings key=none) :
  ∀ binding∈bindings,binding.key≠key := by
 induction bindings with
 | nil => simp
 | cons binding parent ih => grind[localValue]

lemma Innermost.mem {call:ℕ} (h:Innermost bindings key call) :
  ⟨key,call⟩∈bindings := by
 obtain ⟨inner,outer,rfl,-⟩:=h
 simp

def Ended (s:State V E) (labels:List (Label V E)) (c:ℕ) (outcome:Outcome E) : Prop :=
 ∃ d,s.callOf d = some c ∧ .callback d outcome ∈ labels

structure Records (s:State V E) (seen:List (Label V E)) (c:ℕ) (verdict:Option (Outcome E)) : Prop where
 ended : ∀ outcome,Ended s seen c outcome → outcome = .returned false ∨ verdict = some outcome
 verdict : ∀ outcome,verdict = some outcome → Ended s seen c outcome ∧ outcome ≠ .returned false

structure Named (s:State V E) : Prop where
 deliveries : ∀ (d:ℕ) (delivery:Delivery V),s.deliveries[d]? = some delivery → delivery.call < s.next ∧
  Innermost delivery.bindings delivery.key delivery.call ∧ (s.calls delivery.call).key = delivery.key
 bindings : ∀ c,∀ binding ∈ (s.calls c).bindings,
  binding.call < s.next ∧ (s.calls binding.call).key = binding.key

structure Tracked (s:State V E) (seen:List (Label V E)) : Prop where
 owned : Owned s
 named : Named s
 signalled : ∀ c ∈ s.signals,c < s.next ∧ (s.calls c).closed = true
 dispatched : ∀ c,.dispatched c ∈ seen → c < s.next
 called : ∀ d outcome,.callback d outcome ∈ seen → ∃ c,s.callOf d = some c
 proper : ∀ c,∃ verdict,Records s seen c verdict ∧
  Proper (s.calls c) (s.holder c) verdict (.dispatched c ∈ seen)
 wakes : ∀ c,Wakes (s.calls c) (s.holder c) (c ∈ s.signals)

lemma tracked_initial : Tracked ({} : State V E) [] := by
 refine ⟨⟨?_,?_⟩,⟨?_,?_⟩,?_,?_,?_,fun c=>⟨none,⟨?_,?_⟩,?_⟩,?_⟩
 case refine_8 =>
  rintro outcome ⟨d,hd,-⟩
  cases hd
 case refine_10 => exact (proper_new 0 [] false).of_imp (by simp)
 case refine_11 => exact fun c hc=>by cases hc
 all_goals simp

section Quiet
variable {s s':State V E} {seen:List (Label V E)} {l:Label V E}

lemma mem_of_quiet (hl:l.Quiet) {l':Label V E} (hl':¬l'.Quiet) : l'∈seen++[l]↔l'∈seen := by
 have hne:l'≠l:=fun h=>hl' (h▸hl)
 simp[hne]

lemma ended_quiet (hl:l.Quiet) (hcalled:∀ d outcome,.callback d outcome∈seen→∃ c,s.callOf d=some c)
  (hcallOf:∀ d c,s.callOf d=some c→ s'.callOf d=some c) (c:ℕ) (outcome:Outcome E) :
  Ended s' (seen++[l]) c outcome↔Ended s seen c outcome := by
 grind[Ended,Label.Quiet]

lemma Records.of_ended {verdict:Option (Outcome E)} {seen':List (Label V E)}
  (h:Records s seen c verdict) (hended:∀ outcome,Ended s' seen' c outcome↔Ended s seen c outcome) :
  Records s' seen' c verdict :=
 ⟨fun outcome ho=>h.ended outcome ((hended outcome).mp ho),
  fun outcome ho=>⟨(hended outcome).mpr (h.verdict outcome ho).1,(h.verdict outcome ho).2⟩⟩

lemma Tracked.quiet (h:Tracked s seen) (hl:l.Quiet) (howned:Owned s') (hnamed:Named s')
  (hsignals:s'.signals=s.signals) (hnext:s.next≤ s'.next)
  (hcallOf:∀ d c,s.callOf d=some c→ s'.callOf d=some c)
  (hcalls:∀ c,(s'.calls c=s.calls c∧s'.holder c=s.holder c) ∨
   (c=s.next∧s'.holder c=none∧∃ key bindings bounded,
    s'.calls c={ key := key,bindings := bindings,bounded := bounded })) : Tracked s' (seen++[l]) := by
 have hended:=ended_quiet hl h.called hcallOf
 have hdispatched:∀ c,.dispatched c∈seen++[l]↔ .dispatched c∈seen:=
  fun c=>mem_of_quiet hl (by simp[Label.Quiet])
 refine ⟨howned,hnamed,?_,?_,?_,?_,?_⟩
 · have hsignalled:=h.signalled
   grind
 · have hseen:=h.dispatched
   grind
 · grind[Label.Quiet,Tracked.called]
 · intro c
   rcases hcalls c with hsame | ⟨rfl,hholder,key,bindings,bounded,hcall⟩
   · obtain ⟨verdict,hrecords,hproper⟩:=h.proper c
     refine ⟨verdict,hrecords.of_ended (hended c),?_⟩
     rw[hsame.1,hsame.2]
     exact hproper.of_imp (hdispatched c).mp
   · refine ⟨none,⟨?_,by simp⟩,?_⟩
     · have hdeliveries:=h.named.deliveries
       grind[Ended,State.callOf]
     · rw[hcall,hholder]
       exact (proper_new key bindings bounded).of_imp fun hc =>
        absurd (h.dispatched _ ((hdispatched _).mp hc)) (Nat.lt_irrefl _)
 · intro c
   have hwakes:=h.wakes c
   grind[Wakes]

end Quiet

variable {s:State V E} {seen:List (Label V E)} {l:Label V E} {call:Call E}

lemma Named.free (h:Named s) (howned:Owned s) : (s.calls s.next).callbackMutex=none := by
 cases hmutex:(s.calls s.next).callbackMutex with
 | none => rfl
 | some d =>
  obtain ⟨delivery,hd,hcall,-⟩:=howned.owner s.next d hmutex
  exact absurd (h.deliveries d delivery hd).1 (hcall▸Nat.lt_irrefl _)

lemma Named.localValues (h:Named s) (origin:Option ℕ) :
  ∀ binding∈s.localValues origin,binding.call < s.next∧(s.calls binding.call).key=binding.key := by
 cases origin with
 | none => exact fun _ hb=>absurd hb not_mem_nil
 | some c => exact h.bindings c

lemma Named.entered (h:Named s) (call:Call E)
  (hbindings:∀ binding∈call.bindings,binding=⟨call.key,s.next⟩ ∨
   (binding.call < s.next∧(s.calls binding.call).key=binding.key)) :
  Named ({ s with next := s.next+1 }.setCall s.next call) := by
 obtain ⟨hdeliveries,hold⟩:=h
 constructor <;> grind

lemma Tracked.entered (h:Tracked s seen)
  (hl:l.Quiet) {origin:Option ℕ} {bounded:Bool}
  (hcall:call={ key := key,bindings := withLocalValue (s.localValues origin) key s.next,bounded := bounded }) :
  Tracked ({ s with next := s.next+1 }.setCall s.next call) (seen++[l]) := by
 have hfree:=h.named.free h.owned
 have hmutex:∀ c,(({ s with next:=s.next+1 }.setCall s.next call).calls c).callbackMutex =
  (s.calls c).callbackMutex := by grind
 have hnamed:=h.named.entered call fun binding hb=>by
  subst hcall
  exact (mem_cons.mp hb).imp_right (h.named.localValues origin binding)
 refine h.quiet hl (h.owned.congr rfl hmutex) hnamed rfl (Nat.le_succ _) (fun _ _ hd=>hd) (fun c=>?_)
 by_cases hc:c=s.next
 · subst hc
   exact .inr ⟨rfl,holder_of_free ((hmutex s.next).trans hfree),key,
    withLocalValue (s.localValues origin) key s.next,bounded,by grind⟩
 · exact .inl ⟨by grind,holder_congr rfl (hmutex c)⟩

lemma Tracked.routed (h:Tracked s seen)
  (hl:l.Quiet) {origin:Option ℕ} (value:V)
  (hc:localValue (s.localValues origin) key=some c) :
  Tracked { s with deliveries := s.deliveries++[⟨key,s.localValues origin,c,value,.locking⟩] }
   (seen++[l]) := by
 have hinner:=innermost_of_localValue hc
 have hknown:=h.named.localValues origin _ hinner.mem
 obtain ⟨howned,howner⟩:=h.owned
 obtain ⟨hdeliveries,hbindings⟩:=h.named
 refine h.quiet hl ?_ ?_ rfl (Nat.le_refl _) ?_ (fun c'=>.inl ⟨rfl,?_⟩)
 · constructor
   · grind[Place.holds]
   · intro c' d hmutex
     have hc':=howner c' d hmutex
     grind
 · constructor <;> grind
 · grind[State.callOf]
 · have hc':=howner c'
   rw[State.holder,State.holder]
   cases hmutex:(s.calls c').callbackMutex <;> grind

section Stirred
variable {s s':State V E} {seen:List (Label V E)} {l:Label V E} {c:ℕ} {act:Act E}

lemma Stirred.callOf (h:Stirred s l s' c act) (d:ℕ) : s'.callOf d=s.callOf d := by
 have hsource:=congrArg (Option.map fun source : ℕ×List Binding×ℕ=>source.2.2) (h.sources d)
 rw[Option.map_map,Option.map_map] at hsource
 exact hsource

lemma Stirred.ended_iff (h:Stirred s l s' c act) (c':ℕ) (outcome:Outcome E) :
  Ended s' (seen++[l]) c' outcome↔Ended s seen c' outcome∨(c'=c∧act=.settle outcome) := by
 have hcallOf:=h.callOf
 have hends:=h.ends
 have hnew:=h.ended outcome
 grind[Ended]

lemma Stirred.records (h:Stirred s l s' c act) {verdict:Option (Outcome E)} {dispatched:Prop}
  (hrecords:Records s seen c verdict) (hproper:Proper (s.calls c) (s.holder c) verdict dispatched) :
  Records s' (seen++[l]) c (act.verdict verdict) := by
 have hended:∀ o,Ended s' (seen++[l]) c o↔Ended s seen c o∨(c=c∧act=.settle o):=h.ended_iff c
 have hturn:=h.turn
 obtain ⟨hfirst,hverdict⟩:=hrecords
 cases act with
 | settle outcome =>
  -- the callback was running, so nothing had been decided
  obtain rfl:=hproper.undecided (.inr hturn.calling)
  rcases outcome with ⟨_ | _⟩ | _ <;> constructor <;> grind[Act.verdict]
 | _ => constructor <;> grind[Act.verdict]

lemma Stirred.named (h:Stirred s l s' c act) (hnamed:Named s) : Named s' := by
 have hidentity:∀ c',(s'.calls c').key=(s.calls c').key∧(s'.calls c').bindings=(s.calls c').bindings:=by
  intro c'
  have hsame:=h.turn.sameIdentity
  have hcalls:=h.calls c'
  grind[SameIdentity]
 have hsources:=h.sources
 have hnext:=h.next
 obtain ⟨hdeliveries,hbindings⟩:=hnamed
 constructor
 · intro d delivery hd
   have hsource:=hsources d
   grind[Delivery.source]
 · grind

lemma Tracked.stirred (h:Tracked s seen) (hstirred:Stirred s l s' c act) (howned:Owned s') :
  Tracked s' (seen++[l]) := by
 have hdispatched:∀ c',.dispatched c'∈seen++[l]→ .dispatched c'∈seen∨(c'=c∧act=.dispatch):=by
  grind[Stirred.dispatch]
 have hcallOf:=hstirred.callOf
 refine ⟨howned,hstirred.named h.named,?_,?_,?_,?_,?_⟩
 · have hclosed:=hstirred.turn.closed
   have hsignalled:=h.signalled
   grind[Stirred]
 · have hseen:=h.dispatched
   grind[Stirred]
 · grind[Stirred,Tracked.called]
 · intro c'
   obtain ⟨verdict,hrecords,hproper⟩:=h.proper c'
   by_cases hc:c'=c
   · subst hc
     exact ⟨act.verdict verdict,hstirred.records hrecords hproper,
      (hproper.turn hstirred.turn).of_imp fun hd=>(hdispatched c' hd).imp_right And.right⟩
   · refine ⟨verdict,hrecords.of_ended fun outcome=>?_,?_⟩
     · rw[hstirred.ended_iff,or_iff_left]
       exact fun hact=>hc hact.1
     · rw[hstirred.calls c' hc,hstirred.holders c' hc]
       exact hproper.of_imp fun hd=>(hdispatched c' hd).resolve_right fun hact=>hc hact.1
 · intro c'
   by_cases hc:c'=c
   · subst hc
     exact (h.wakes c').turn hstirred.turn hstirred.cancels hstirred.keeps
   · rw[hstirred.calls c' hc,hstirred.holders c' hc,hstirred.signals c' hc]
     exact h.wakes c'

end Stirred

variable {s':State V E} {d:ℕ}

lemma Tracked.move (h:Tracked s seen)
  (hstep:step s l=some s') : Move s l s' :=
 move_of_step h.owned (fun c hc=>(h.signalled c hc).2) (fun d delivery hd=>(h.named.deliveries d delivery hd).1)
  hstep

lemma Tracked.step (h:Tracked s seen)
  (hstep:step s l=some s') : Tracked s' (seen++[l]) := by
 cases h.move hstep with
 | unchanged hl hs =>
  subst hs
  exact h.quiet hl h.owned h.named rfl (Nat.le_refl _) (fun _ _ hd=>hd) fun _=>.inl ⟨rfl,rfl⟩
 | entered hl hs =>
  subst hs
  exact h.entered hl rfl
 | routed hl hc hs =>
  subst hs
  exact h.routed hl _ hc
 | stirred c act hstirred howned => exact h.stirred hstirred howned

lemma tracked_exec {labels:List (Label V E)} (hrun:exec step {} labels=some s) :
  Tracked s labels :=
 exec_history (I := Tracked) (fun _ _ _ _ h hstep=>h.step hstep) tracked_initial hrun

def Phase.work : Phase E → ℕ
 | .body => 0
 | .timedOut => 6
 | .expired => 5
 | .waiting => 5
 | .locking => 4
 | .unwinding _ => 3
 | .cleaning _ => 2
 | .releasing _ => 1
 | .returned _ => 0

def Place.work : Place → ℕ
 | .locking => 6
 | .checking => 5
 | .testing => 4
 | .calling => 0
 | .storing => 3
 | .sending => 2
 | .unlocking => 1
 | .finished => 0

def Label.Internal : Label V E → Prop
 | .signal _ | .run _ | .advance _ _ => True
 | _ => False

def State.work (s:State V E) : ℕ :=
 (∑ c ∈ Finset.range s.next,(s.calls c).phase.work) + total (fun d=>d.place.work) s.deliveries +
  s.signals.length

def Idle (s:State V E) : Prop :=
 ∀ l : Label V E,l.Internal → step s l = none

lemma run_work {call':Call E} (h:call.run=some call') : call'.phase.work+1=call.phase.work := by
 grind[Call.run,Phase.work]

lemma deliver_work {call':Call E} {cancelled:Bool} {place place':Place}
  (h:call.deliver d cancelled place=some (call',place')) :
  call'.phase=call.phase∧place'.work < place.work := by
 cases place <;> grind[Call.deliver,Place.work]

lemma work_lt_of_update (hc:c < s.next) (hnext:s'.next=s.next)
  (hcalls:s'.calls=update s.calls c call)
  (hlt:call.phase.work+total (fun d=>d.place.work) s'.deliveries+s'.signals.length <
   (s.calls c).phase.work+total (fun d=>d.place.work) s.deliveries+s.signals.length) :
  s'.work < s.work := by
 have hmem:c∈Finset.range s.next:=Finset.mem_range.mpr hc
 have hrest:∑ c'∈(Finset.range s.next).erase c,(update s.calls c call c').phase.work =
  ∑ c'∈(Finset.range s.next).erase c,(s.calls c').phase.work :=
  Finset.sum_congr rfl fun c' hc'=>by rw[update_of_ne (Finset.ne_of_mem_erase hc')]
 unfold State.work
 rw[hnext,hcalls,← Finset.add_sum_erase _ _ hmem,← Finset.add_sum_erase _ (fun c'=>(s.calls c').phase.work) hmem,
  update_self]
 omega

lemma Tracked.work_lt (h:Tracked s seen)
  (hl:l.Internal) (hstep:SubStream.step s l=some s') : s'.work < s.work := by
 cases l with
 | run c =>
  simp only[SubStream.step,State.onCall] at hstep
  split at hstep
  case isTrue hc =>
   obtain ⟨call,hcall,rfl⟩:=map_eq_some_iff.mp hstep
   have hrun:=run_work hcall
   refine work_lt_of_update hc rfl rfl ?_
   change call.phase.work+total _ s.deliveries+s.signals.length < _
   omega
  case isFalse => cases hstep
 | signal c =>
  simp only[SubStream.step,State.onCall] at hstep
  split at hstep
  case isTrue hmem =>
   split at hstep
   case isTrue hc =>
    cases hstep
    have hlength:=length_erase_of_mem hmem
    have hpos:=length_pos_of_mem hmem
    refine work_lt_of_update hc rfl rfl ?_
    change (s.calls c).phase.work+total _ s.deliveries+(s.signals.erase c).length < _
    omega
   case isFalse => cases hstep
  case isFalse => cases hstep
 | advance d cancelled =>
  simp only[SubStream.step] at hstep
  split at hstep
  case h_1 => cases hstep
  case h_2 delivery hd =>
   obtain ⟨⟨call,next⟩,hdeliver,rfl⟩:=map_eq_some_iff.mp hstep
   obtain ⟨hphase,hplace⟩:=deliver_work hdeliver
   have htotal:total (fun d:Delivery V=>d.place.work) (s.deliveries.set d { delivery with place:=next }) +
    delivery.place.work=total (fun d=>d.place.work) s.deliveries+next.work :=
    total_set (fun d=>d.place.work) hd { delivery with place := next }
   refine work_lt_of_update (h.named.deliveries d delivery hd).1 rfl rfl ?_
   change call.phase.work+total _ (s.deliveries.set d { delivery with place := next })+s.signals.length < _
   rw[hphase]
   omega
 | _ => exact hl.elim

def Calling (s:State V E) (c d:ℕ) : Prop :=
 ∃ delivery : Delivery V,s.deliveries[d]? = some delivery ∧ delivery.place = .calling ∧ delivery.call = c

section Tracked
variable {s:State V E} {seen:List (Label V E)} {c:ℕ}

lemma Tracked.holder_calling (h:Tracked s seen) (hd:Calling s c d) :
  (s.calls c).callbackMutex=some d∧s.holder c=some .calling := by
 obtain ⟨delivery,hget,hplace,rfl⟩:=hd
 have hholds:delivery.place.holds=true:=by rw[hplace]; rfl
 refine ⟨h.owned.owned d delivery hget hholds,?_⟩
 rw[h.owned.holder hget hholds,hplace]

lemma Tracked.calling_unique (h:Tracked s seen) {e:ℕ} (hd:Calling s c d) (he:Calling s c e) : d=e :=
 some.inj ((h.holder_calling hd).1.symm.trans (h.holder_calling he).1)

lemma Tracked.open_of_calling (h:Tracked s seen) (hd:Calling s c d) :
  (∀ outcome,Ended s seen c outcome→ outcome=.returned false) ∧
   (∀ result,(s.calls c).phase≠ .returned result)∧(s.calls c).live=true := by
 obtain ⟨-,hholder⟩:=h.holder_calling hd
 obtain ⟨verdict,hrecords,hproper⟩:=h.proper c
 have hlive:=hproper.entered .calling hholder rfl
 have hverdict:=hproper.undecided (.inr hholder)
 refine ⟨fun outcome ho=>?_,fun result hresult=>?_,hlive⟩
 · exact (hrecords.ended outcome ho).resolve_right (by simp[hverdict])
 · simp[hproper.returned result hresult] at hlive

lemma Tracked.result (h:Tracked s seen) {result:Result E} (hphase:(s.calls c).phase=.returned result)
  (hdispatched:.dispatched c∈seen) :
  (result=.ok ()↔Ended s seen c (.returned true)) ∧
   (∀ error,Ended s seen c (.threw error)→ result=.error error) ∧
   ((∀ outcome,Ended s seen c outcome→ outcome=.returned false)→ result=.error cancelledError) := by
 obtain ⟨verdict,hrecords,hproper⟩:=h.proper c
 obtain ⟨-,rfl⟩:=hproper.decided hdispatched result (by rw[hphase]; rfl)
 obtain ⟨hended,hverdict⟩:=hrecords
 rcases verdict with _ | ⟨_ | _⟩ | _ <;> grind[verdictResult]

end Tracked

section Idle
variable {s:State V E} {seen:List (Label V E)} {c:ℕ}

lemma Idle.calling (hidle:Idle s) (h:Tracked s seen) (hmutex:(s.calls c).callbackMutex=some d) :
  Calling s c d := by
 obtain ⟨delivery,hd,hcall,hholds⟩:=h.owned.owner c d hmutex
 refine ⟨delivery,hd,?_,hcall⟩
 have hstep:=hidle (.advance d false) trivial
 simp only[SubStream.step,hd,map_eq_none_iff] at hstep
 cases hplace:delivery.place with
 | calling => rfl
 | locking | finished => simp[hplace,Place.holds] at hholds
 | _ => simp[hplace,Call.deliver] at hstep

lemma Idle.holder (hidle:Idle s) (h:Tracked s seen) {place:Place} (hholder:s.holder c=some place) :
  place=.calling := by
 obtain ⟨delivery,hd,hplace⟩:=map_eq_some_iff.mp hholder
 obtain ⟨d,hmutex,-⟩:=bind_eq_some_iff.mp hd
 have hcalling:=(h.holder_calling (hidle.calling h hmutex)).2
 exact some.inj (hholder.symm.trans hcalling)

lemma Idle.run_none (hidle:Idle s) (hc:c < s.next) : (s.calls c).run=none := by
 have hstep:=hidle (.run c) trivial
 simpa[SubStream.step,State.onCall,hc] using hstep

lemma Idle.done (hidle:Idle s) (h:Tracked s seen) (hc:c < s.next) (hclosed:(s.calls c).closed=true) :
  (s.calls c).done=true := by
 have hrun:=hidle.run_none hc
 have hsignal:=hidle (.signal c) trivial
 rcases h.wakes c hclosed with hdone | hsignalled | hsends | hholder
 · exact hdone
 · simp[SubStream.step,State.onCall,hsignalled,hc] at hsignal
 · grind[Call.run,Phase.sends]
 · cases hidle.holder h hholder

lemma Idle.returned (hidle:Idle s) (h:Tracked s seen) (hdispatched:.dispatched c∈seen)
  (hclosed:(s.calls c).closed=true) :
  (∃ result,(s.calls c).phase=.returned result)∨∃ d,Calling s c d := by
 have hc:=h.dispatched c hdispatched
 have hdone:=hidle.done h hc hclosed
 have hrun:=hidle.run_none hc
 obtain ⟨verdict,-,hproper⟩:=h.proper c
 unfold Call.run at hrun
 cases hphase:(s.calls c).phase with
 | returned result => exact .inl ⟨result,rfl⟩
 | body => exact absurd hdispatched (hproper.running hphase)
 | locking | releasing =>
  cases hmutex:(s.calls c).callbackMutex with
  | none => simp[hphase,hmutex] at hrun
  | some d => exact .inr ⟨d,hidle.calling h hmutex⟩
 | _ => simp[hphase,hdone] at hrun

lemma Idle.returned_of_ended (hidle:Idle s) (h:Tracked s seen) (hdispatched:.dispatched c∈seen)
  {outcome:Outcome E} (hended:Ended s seen c outcome) (hne:outcome≠ .returned false) :
  ∃ result,(s.calls c).phase=.returned result := by
 obtain ⟨verdict,hrecords,hproper⟩:=h.proper c
 have hverdict:=(hrecords.ended outcome hended).resolve_left hne
 have hclosed:(s.calls c).closed=true:=by
  rcases hproper.settled (by rw[hverdict]; rfl) with hclosed | hholder
  · exact hclosed
  · cases hidle.holder h hholder
 rcases hidle.returned h hdispatched hclosed with hreturned | ⟨d,hd⟩
 · exact hreturned
 · exact absurd ((h.open_of_calling hd).1 outcome hended) hne

end Idle

/-- In every run the callback of a call is called for one result at a time, while the call is live
and neither ended nor returned. A call returns normally exactly when its callback returned true,
with the callback's error if it threw, and otherwise as cancelled. A result goes to the innermost
call of its key that is bound where it comes from, or nowhere if there is none. The library's own
steps end, and when they have, a call that has ended has returned. -/
theorem invocation_protocol {s : State V E} {labels : List (Label V E)} (hrun : exec step {} labels = some s) :
  (∀ c d, Calling s c d → (∀ e, Calling s c e → e = d) ∧
   (∀ outcome, Ended s labels c outcome → outcome = .returned false) ∧
   (∀ result, (s.calls c).phase ≠ .returned result) ∧ (s.calls c).live = true) ∧
  (∀ c result, (s.calls c).phase = .returned result → .dispatched c ∈ labels →
   (result = .ok () ↔ Ended s labels c (.returned true)) ∧
   (∀ error, Ended s labels c (.threw error) → result = .error error) ∧
   ((∀ outcome, Ended s labels c outcome → outcome = .returned false) → result = .error cancelledError)) ∧
  (∀ (d : ℕ) (delivery : Delivery V), s.deliveries[d]? = some delivery →
   Innermost delivery.bindings delivery.key delivery.call ∧ (s.calls delivery.call).key = delivery.key) ∧
  (∀ key origin value s', step s (.result key origin value) = some s' →
   (s' = s ∧ ∀ binding ∈ s.localValues origin, binding.key ≠ key) ∨
   ∃ c, s'.deliveries = s.deliveries ++ [⟨key, s.localValues origin, c, value, .locking⟩]) ∧
  (∀ rest s', (∀ l ∈ rest, l.Internal) → exec step s rest = some s' → rest.length ≤ s.work ∧
   (Idle s' → ∀ c, .dispatched c ∈ labels →
    ((s'.calls c).closed = true → (∃ result, (s'.calls c).phase = .returned result) ∨ ∃ d, Calling s' c d) ∧
    (∀ outcome, Ended s' (labels ++ rest) c outcome → outcome ≠ .returned false →
     ∃ result, (s'.calls c).phase = .returned result))) ∧
  ∃ rest s', (∀ l ∈ rest, l.Internal) ∧ exec step s rest = some s' ∧ Idle s' := by
 have h:=tracked_exec hrun
 have hinv:∀ (u:State V E) l u',(∃ seen,Tracked u seen)→ step u l=some u'→∃ seen,Tracked u' seen:=by
  rintro u l u' ⟨seen,hu⟩ hstep
  exact ⟨_,hu.step hstep⟩
 have hwork:∀ (u:State V E) l u',(∃ seen,Tracked u seen)→ l.Internal→ step u l=some u' →
  u'.work < u.work:=by
  rintro u l u' ⟨seen,hu⟩ hl hstep
  exact hu.work_lt hl hstep
 refine ⟨fun c d hd=>⟨fun e he=>h.calling_unique he hd,h.open_of_calling hd⟩,
  fun c result hphase hdispatched=>h.result hphase hdispatched,
  fun d delivery hd=>(h.named.deliveries d delivery hd).2,?_,?_,exists_exec_idle hinv hwork ⟨_,h⟩⟩
 · rintro key origin value s' hstep
   cases hstep
   unfold State.consumeResult
   split
   case h_1 hnone => exact .inl ⟨rfl,ne_of_localValue_none hnone⟩
   case h_2 c hc => exact .inr ⟨c,rfl⟩
 · intro rest s' hinternal hrest
   have hlength:=exec_work hinv hwork ⟨_,h⟩ hinternal hrest
   have h':=tracked_exec (exec_append hrun hrest)
   refine ⟨by omega,fun hidle c hc=>⟨?_,?_⟩⟩
   · exact hidle.returned h' (mem_append_left rest hc)
   · exact fun outcome=>hidle.returned_of_ended h' (mem_append_left rest hc)

/-- The body of an invocation invokes the sub-stream again. Both results go to the inner
invocation, which accepts the first; the outer one runs into its deadline. -/
def nestedRun : List (Label ℕ ℕ) :=
 [.invoke 7 none true false true true .open,.invoke 7 (some 0) false false true true .open,
  .result 7 (some 1) 10,.result 7 (some 1) 11,.advance 0 false,.advance 0 false,.advance 0 false,
  .callback 0 (.returned true),.advance 0 false,.advance 0 false,.advance 0 false,
  .dispatched 1,.run 1,.run 1,.run 1,.run 1,.run 1,.dispatched 0,.expire 0,
  .run 0,.run 0,.run 0,.run 0,.run 0,.run 0]

theorem nestedRun_protocol : ∃ s, exec step {} nestedRun = some s ∧
  (s.calls 1).phase = .returned (.ok ()) ∧ Ended s nestedRun 1 (.returned true) ∧
  (s.calls 0).phase = .returned (.error cancelledError) := by
 have hrun:exec step {} nestedRun=some _:=rfl
 have hprotocol:=(invocation_protocol hrun).2.1
 refine ⟨_,hrun,rfl,(hprotocol 1 _ rfl (by simp[nestedRun])).1.mp rfl,rfl⟩

end ServiceLib.SubStream
