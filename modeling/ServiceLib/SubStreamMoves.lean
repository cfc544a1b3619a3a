import Mathlib.Data.List.Basic
import ServiceLib.SubStreamCall

set_option autoImplicit false
attribute [-instance] instBooleanRingBool

/-!
# Steps of the sub-stream invocations as turns

Every step but the start of an invocation and the arrival of a result is a turn of one invocation.
-/
namespace ServiceLib.SubStream
open Option

variable {V E:Type}

namespace State

def holder (s:State V E) (c:ℕ) : Option Place :=
 ((s.calls c).callbackMutex.bind fun d=>s.deliveries[d]?).map Delivery.place

def callOf (s:State V E) (d:ℕ) : Option ℕ :=
 s.deliveries[d]?.map Delivery.call

end State

structure Owned (s:State V E) : Prop where
 owned : ∀ d delivery,s.deliveries[d]? = some delivery → delivery.place.holds = true →
  (s.calls delivery.call).callbackMutex = some d
 owner : ∀ c d,(s.calls c).callbackMutex = some d → ∃ delivery,s.deliveries[d]? = some delivery ∧
  delivery.call = c ∧ delivery.place.holds = true

variable {s s':State V E} {d c:ℕ} {call:Call E} {act:Act E} {l:Label V E}

lemma Owned.holder (h:Owned s) {delivery:Delivery V}
  (hd:s.deliveries[d]?=some delivery) (hplace:delivery.place.holds=true) :
  s.holder delivery.call=some delivery.place := by
 rw[State.holder,h.owned d delivery hd hplace,bind_some,hd,map_some]

lemma holder_of_free (h:(s.calls c).callbackMutex=none) : s.holder c=none := by
 rw[State.holder,h]
 rfl

section Updates
variable {delivery:Delivery V} {next:Place}

@[grind =] lemma calls_setCall (e:ℕ) :
  (s.setCall c call).calls e=if e=c then call else s.calls e := by
 simp only[State.setCall,Function.update_apply]

@[grind =] lemma deliveries_setCall : (s.setCall c call).deliveries=s.deliveries := rfl

@[grind =] lemma signals_setCall : (s.setCall c call).signals=s.signals := rfl

@[grind =] lemma next_setCall : (s.setCall c call).next=s.next := rfl

@[grind =] lemma calls_place : (s.place d delivery next).calls c=s.calls c := rfl

@[grind =] lemma signals_place : (s.place d delivery next).signals=s.signals := rfl

@[grind =] lemma next_place : (s.place d delivery next).next=s.next := rfl

@[grind =] lemma deliveries_place (e:ℕ) : (s.place d delivery next).deliveries[e]? =
  if e=d∧d < s.deliveries.length then some { delivery with place := next } else s.deliveries[e]? := by
 simp only[State.place,List.getElem?_set]
 grind

end Updates

lemma deliver_mutex {call':Call E} {cancelled:Bool} {place place':Place}
  (h:call.deliver d cancelled place=some (call',place'))
  (hmutex:place.holds=true→ call.callbackMutex=some d) :
  call'.callbackMutex=if place'.holds then some d else none := by
 cases place <;> grind[Call.deliver,Place.holds]

lemma deliver_free {cancelled:Bool} {place:Place} {next:Call E×Place}
  (h:call.deliver d cancelled place=some next) (hplace:place.holds=false) :
  call.callbackMutex=none := by
 cases place <;> grind[Call.deliver,Place.holds]

lemma settle_mutex (call:Call E) (outcome:Outcome E) :
  (call.settle outcome).1.callbackMutex=call.callbackMutex∧(call.settle outcome).2.holds=true := by
 rcases outcome with ⟨_ | _⟩ | _ <;> exact ⟨rfl,rfl⟩

lemma Turn.mutex {call':Call E} {holder holder':Option Place}
  (ht:Turn call holder act call' holder') (hholder:holder'=holder) :
  call'.callbackMutex=call.callbackMutex := by
 cases ht with
 | locked => cases hholder
 | unlocked => cases hholder
 | ended outcome => exact (settle_mutex call outcome).1
 | _ => rfl

def Delivery.source (delivery:Delivery V) : ℕ × List Binding × ℕ :=
 (delivery.key,delivery.bindings,delivery.call)

structure Stirred (s:State V E) (l:Label V E) (s':State V E) (c:ℕ) (act:Act E) : Prop where
 next : s'.next = s.next
 turn : Turn (s.calls c) (s.holder c) act (s'.calls c) (s'.holder c)
 calls : ∀ c',c' ≠ c → s'.calls c' = s.calls c'
 holders : ∀ c',c' ≠ c → s'.holder c' = s.holder c'
 signals : ∀ c',c' ≠ c → (c' ∈ s'.signals ↔ c' ∈ s.signals)
 cancels : act = .cancel → c ∈ s'.signals
 keeps : act ≠ .signal → c ∈ s.signals → c ∈ s'.signals
 gains : c ∈ s'.signals → c ∈ s.signals ∨ act = .cancel
 sources : ∀ d : ℕ,s'.deliveries[d]?.map Delivery.source = s.deliveries[d]?.map Delivery.source
 dispatch : ∀ c',l = .dispatched c' ↔ c' = c ∧ act = .dispatch
 known : c < s.next
 ends : ∀ d outcome,l = .callback d outcome → act = .settle outcome ∧ s.callOf d = some c
 ended : ∀ outcome,act = .settle outcome → ∃ d,l = .callback d outcome ∧ s.callOf d = some c

lemma holder_congr (hdeliveries:s'.deliveries=s.deliveries)
  (hmutex:(s'.calls c).callbackMutex=(s.calls c).callbackMutex) : s'.holder c=s.holder c := by
 rw[State.holder,State.holder,hdeliveries,hmutex]

lemma Owned.congr (h:Owned s) (hdeliveries:s'.deliveries=s.deliveries)
  (hmutex:∀ c,(s'.calls c).callbackMutex=(s.calls c).callbackMutex) : Owned s' := by
 obtain ⟨howned,howner⟩:=h
 constructor <;> grind

section Delivery
variable {s:State V E} {d:ℕ} {delivery:Delivery V} {call:Call E} {next:Place}

lemma holder_place_self (hd:s.deliveries[d]?=some delivery)
  (hmutex:call.callbackMutex=if next.holds then some d else none) :
  ((s.setCall delivery.call call).place d delivery next).holder delivery.call=next.held := by
 grind[State.holder,Place.held]

lemma holder_place_other (h:Owned s) (hd:s.deliveries[d]?=some delivery)
  (hc:c≠delivery.call) :
  ((s.setCall delivery.call call).place d delivery next).holder c=s.holder c := by
 have howner:=h.owner c
 rw[State.holder,State.holder]
 cases hmutex:(s.calls c).callbackMutex <;> grind

lemma sources_place (hd:s.deliveries[d]?=some delivery) (e:ℕ) :
  ((s.setCall delivery.call call).place d delivery next).deliveries[e]?.map Delivery.source =
   s.deliveries[e]?.map Delivery.source := by
 grind[Delivery.source]

lemma Owned.place (h:Owned s) (hd:s.deliveries[d]?=some delivery)
  (hfree:delivery.place.holds=false→(s.calls delivery.call).callbackMutex=none)
  (hmutex:call.callbackMutex=if next.holds then some d else none) :
  Owned ((s.setCall delivery.call call).place d delivery next) := by
 obtain ⟨howned,howner⟩:=h
 constructor
 · grind
 · intro c e hc
   have hc':=howner c e
   grind

lemma stirred_place (h:Owned s) (hd:s.deliveries[d]?=some delivery) (hknown:delivery.call < s.next)
  (hholder:s.holder delivery.call=delivery.place.held)
  (hturn:Turn (s.calls delivery.call) delivery.place.held act call next.held)
  (hmutex:call.callbackMutex=if next.holds then some d else none)
  (hl:(act=.quiet∧∃ cancelled,l=.advance d cancelled) ∨
   ∃ outcome,act=.settle outcome∧l=.callback d outcome) :
  Stirred s l ((s.setCall delivery.call call).place d delivery next) delivery.call act := by
 have hself:=holder_place_self hd hmutex
 have hother:∀ c,c≠delivery.call →
  ((s.setCall delivery.call call).place d delivery next).holder c=s.holder c :=
  fun c=>holder_place_other h hd
 have hsources:∀ e : ℕ,((s.setCall delivery.call call).place d delivery next).deliveries[e]?.map
  Delivery.source=s.deliveries[e]?.map Delivery.source := sources_place hd
 constructor <;> grind[State.callOf]

end Delivery

def Label.Quiet : Label V E → Prop
 | .invoke .. | .result .. => True
 | _ => False

inductive Move (s:State V E) (l:Label V E) (s':State V E) : Prop
 | unchanged (hl:l.Quiet) (h:s' = s)
 | entered {key:ℕ} {origin:Option ℕ} {bounded:Bool} (hl:l.Quiet)
  (h:s' = { s with next := s.next + 1 }.setCall s.next
   { key := key,bindings := withLocalValue (s.localValues origin) key s.next,bounded := bounded })
 | routed {key:ℕ} {origin:Option ℕ} {value:V} {c:ℕ} (hl:l.Quiet)
  (hc:localValue (s.localValues origin) key = some c)
  (h:s' = { s with deliveries := s.deliveries ++ [⟨key,s.localValues origin,c,value,.locking⟩] })
 | stirred (c:ℕ) (act:Act E) (h:Stirred s l s' c act) (howned:Owned s')

section OnCall
variable {s s':State V E} {l:Label V E} {c:ℕ} {f:Call E → Option (Call E)} {act:Act E}

lemma move_signals {signals:List ℕ} (h:Owned s)
  (hstep:{ s with signals := signals }.onCall c f=some s')
  (hturn:∀ call,f (s.calls c)=some call→ Turn (s.calls c) (s.holder c) act call (s.holder c))
  (hsignals:∀ c',c'≠c→(c'∈signals↔c'∈s.signals)) (hcancels:act=.cancel→ c∈signals)
  (hkeeps:act≠ .signal→ c∈s.signals→ c∈signals)
  (hgains:c∈signals→ c∈s.signals∨act=.cancel)
  (hdispatch:∀ c',l=.dispatched c'↔c'=c∧act=.dispatch)
  (hends:∀ d outcome,l≠ .callback d outcome) (hended:∀ outcome,act≠ .settle outcome) :
  Move s l s' := by
 unfold State.onCall at hstep
 split at hstep
 case isTrue hc =>
  obtain ⟨call,hcall,rfl⟩:=map_eq_some_iff.mp hstep
  have ht:=hturn call hcall
  have hmutex:=ht.mutex rfl
  have hholder:∀ e,({ s with signals:=signals }.setCall c call).holder e=s.holder e :=
   fun e=>holder_congr rfl (by grind)
  refine .stirred c act ?_ (h.congr rfl (by grind))
  constructor <;> grind
 case isFalse => cases hstep

lemma move_onCall (h:Owned s) (hstep:s.onCall c f=some s') (hquiet:act=.quiet∨act=.dispatch)
  (hturn:∀ call,f (s.calls c)=some call→ Turn (s.calls c) (s.holder c) act call (s.holder c))
  (hdispatch:∀ c',l=.dispatched c'↔c'=c∧act=.dispatch)
  (hends:∀ d outcome,l≠ .callback d outcome) : Move s l s' := by
 refine move_signals h hstep hturn (fun _ _=>Iff.rfl) ?_ (fun _ hmem=>hmem) .inl hdispatch hends ?_
 · rcases hquiet with rfl | rfl <;> simp
 · rcases hquiet with rfl | rfl <;> simp

end OnCall

lemma move_of_step (h:Owned s)
  (hsignals:∀ c∈s.signals,(s.calls c).closed=true)
  (hknown:∀ (d:ℕ) (delivery:Delivery V),s.deliveries[d]?=some delivery→ delivery.call < s.next)
  (hstep:step s l=some s') : Move s l s' := by
 cases l with
 | invoke key origin bounded cancelled collector complete admission =>
  simp only[step,State.consume] at hstep
  split at hstep
  case h_1 hok =>
   refine @Move.entered _ _ _ _ _ key origin bounded trivial ?_
   cases admission <;> grind
  case h_2 => exact .unchanged trivial (some.inj hstep).symm
 | dispatched c =>
  exact move_onCall h hstep (.inr rfl) (fun _=>turn_of_dispatched _) (by simp[eq_comm]) (by simp)
 | bodyThrows c error =>
  exact move_onCall h hstep (.inl rfl) (fun _=>turn_of_bodyThrows _) (by simp) (by simp)
 | cancel c =>
  exact move_signals h hstep (fun _=>turn_of_cancel _) (by grind) (by grind) (by grind) (by grind)
   (by grind) (by grind) (by grind)
 | signal c =>
  simp only[step] at hstep
  split at hstep
  case isTrue hmem =>
   have hturn:∀ call,some { s.calls c with done:=true }=some call →
    Turn (s.calls c) (s.holder c) .signal call (s.holder c):=by
    rintro call ⟨⟩
    exact .signalled (hsignals c hmem)
   refine move_signals h hstep hturn (fun c' hne=>List.mem_erase_of_ne hne) ?_ ?_ ?_ ?_ ?_ ?_
   · simp
   · simp
   · exact fun hmem'=>.inl (List.mem_of_mem_erase hmem')
   all_goals simp
  case isFalse => cases hstep
 | expire c => exact move_onCall h hstep (.inl rfl) (fun _=>turn_of_expire _) (by simp) (by simp)
 | run c =>
  exact move_onCall h hstep (.inl rfl) (fun _ hcall=>turn_of_run hcall holder_of_free) (by simp) (by simp)
 | result key origin value =>
  cases hstep
  unfold State.consumeResult
  split
  case h_1 => exact .unchanged trivial rfl
  case h_2 c hc => exact .routed trivial hc rfl
 | advance d cancelled =>
  simp only[step] at hstep
  split at hstep
  case h_1 => cases hstep
  case h_2 delivery hd =>
   obtain ⟨⟨call,next⟩,hdeliver,rfl⟩:=map_eq_some_iff.mp hstep
   have hmutex:=deliver_mutex hdeliver (h.owned d delivery hd)
   have hfree:=deliver_free hdeliver
   refine .stirred delivery.call .quiet (stirred_place h hd (hknown d delivery hd) ?_ (turn_of_deliver hdeliver) hmutex
    (.inl ⟨rfl,cancelled,rfl⟩)) (h.place hd hfree hmutex)
   cases hholds:delivery.place.holds with
   | true => rw[h.holder hd hholds,Place.held,if_pos hholds]
   | false => rw[holder_of_free (hfree hholds),Place.held,if_neg (by simp[hholds])]
 | callback d outcome =>
  simp only[step] at hstep
  split at hstep
  case h_1 => cases hstep
  case h_2 delivery hd =>
   split at hstep
   case isTrue hplace =>
    cases hstep
    have hholds:delivery.place.holds=true:=by rw[hplace]; rfl
    have hsettle:=settle_mutex (s.calls delivery.call) outcome
    have hmutex:((s.calls delivery.call).settle outcome).1.callbackMutex =
     if ((s.calls delivery.call).settle outcome).2.holds then some d else none:=by
     rw[hsettle.1,if_pos hsettle.2,h.owned d delivery hd hholds]
    have hturn:Turn (s.calls delivery.call) delivery.place.held (.settle outcome)
     ((s.calls delivery.call).settle outcome).1 ((s.calls delivery.call).settle outcome).2.held:=by
     rw[hplace,Place.held,Place.held,if_pos hsettle.2]
     exact .ended outcome
    refine .stirred delivery.call (.settle outcome) (stirred_place h hd (hknown d delivery hd) ?_ hturn hmutex
     (.inr ⟨outcome,rfl,rfl⟩)) (h.place hd (by simp[hholds]) hmutex)
    rw[h.holder hd hholds,Place.held,if_pos hholds]
   case isFalse => cases hstep

end ServiceLib.SubStream
