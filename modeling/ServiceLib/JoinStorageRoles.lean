import ServiceLib.JoinStorageMoves

set_option autoImplicit false
attribute [-instance] instBooleanRingBool

/-!
# Items, their keys and the calls that work on them

Calls, handlers and maps refer to items made for their key; an item is locked by the one call that
holds it, and ended by one call.
-/
namespace ServiceLib.JoinStorage
open Generations Function List

variable {K V F:Type}

namespace Call

def target : Call K V F → Option (K × ℕ)
 | .lock j i _ | .moveToCurrent j i | .callback j i | .removeJoined j i | .expiry j i
 | .removeExpired j i => some (j.key,i)
 | .expire e | .expireCallback e | .removeEvicted e => some (e.key,e.item)
 | .idle | .find _ | .returned _ | .failed _ | .callbackThrew | .expireDone | .marking _ => none

def holds : Call K V F → Option ℕ
 | .moveToCurrent _ i | .callback _ i => some i
 | _ => none

def ends : Call K V F → Option ℕ
 | .removeJoined _ i | .expiry _ i | .removeExpired _ i => some i
 | .expireCallback e | .removeEvicted e => some e.item
 | _ => none

end Call

variable {i c:ℕ} {s s':State K V F} {j:Join K V F} {k:K} {call:Call K V F}
  {item:Item K V F}

lemma apply_update_same {α β:Type} (f:α→β) (g:ℕ→α) {a:α} (h:f a=f (g i))
  (x:ℕ) : f (update g i a x)=f (g x) := by
 rw[update_apply]
 split
 · next hx => rw[h,hx]
 · rfl

lemma apply_of_eq_update {α:Type} {f g:ℕ→α} {a:α} (h:f=update g i a) (x:ℕ) :
  f x=if x=i then a else g x := by
 rw[h,update_apply]

lemma mem_addCancellations {e:Expiry K}
  (he:e∈(s.addCancellations j i).posted∨e∈(s.addCancellations j i).cancellations) :
  (e∈s.posted∨e∈s.cancellations)∨(e.key=j.key∧e.item=i) := by
 grind[State.addCancellations]

section

variable [DecidableEq K]

structure Named (s:State K V F) : Prop where
 fresh : ∀ i,s.next ≤ i → s.items i = {}
 calls : ∀ c k i,(s.calls c).target = some (k,i) → (s.items i).key = some k
 marking : ∀ c items,s.calls c = .marking items → ∀ i ∈ items,i < s.next
 handlers : ∀ e,e ∈ s.posted ∨ e ∈ s.cancellations → (s.items e.item).key = some e.key
 timers : ∀ i due e,(s.items i).timer = some (due,e) → (s.items e.item).key = some e.key
 stored : ∀ k i,s.stored.Bound k i → (s.items i).key = some k
 separate : s.stored.Separate

lemma Named.lt (hs:Named s) (hk:(s.items i).key=some k) :
  i < s.next := by
 by_contra hlt
 rw[hs.fresh i (Nat.not_lt.mp hlt)] at hk
 cases hk

lemma Named.act (hs:Named s)
  (hcalls:s'.calls=update s.calls c call)
  (hitems:s'.items=update s.items i item) (hnext:s'.next=s.next)
  (hi:i < s.next) (hkey:item.key=(s.items i).key)
  (hcall:∀ k x,call.target=some (k,x)→(s.items x).key=some k)
  (hmark:∀ items,call=.marking items→∀ x∈items,x < s.next)
  (hhandlers:∀ e,e∈s'.posted∨e∈s'.cancellations →
   (e∈s.posted∨e∈s.cancellations)∨(s.items e.item).key=some e.key)
  (htimer:∀ due e,item.timer=some (due,e) →
   (s.items i).timer=some (due,e)∨(s.items e.item).key=some e.key)
  (hstored:∀ k x,s'.stored.Bound k x→ s.stored.Bound k x) (hsep:s'.stored.Separate) :
  Named s' := by
 have hcall':=apply_of_eq_update hcalls
 have hitem':=apply_of_eq_update hitems
 obtain ⟨hfresh,htarget,hmarking,hhandled,htimers,hbound,-⟩:=hs
 have hkeys:∀ x,(s'.items x).key=(s.items x).key:=by grind
 exact ⟨by grind,by grind,by grind,by grind,by grind,by grind,hsep⟩

lemma Named.setCall (hs:Named s)
  (hcalls:s'.calls=update s.calls c call) (hitems:s'.items=s.items)
  (hnext:s'.next=s.next)
  (hcall:∀ k x,call.target=some (k,x)→(s.items x).key=some k)
  (hmark:∀ items,call=.marking items→∀ x∈items,x < s.next)
  (hhandlers:∀ e,e∈s'.posted∨e∈s'.cancellations→ e∈s.posted∨e∈s.cancellations)
  (hstored:∀ k x,s'.stored.Bound k x→ s.stored.Bound k x) (hsep:s'.stored.Separate) :
  Named s' := by
 have hcall':=apply_of_eq_update hcalls
 have hitem':=congrFun hitems
 obtain ⟨hfresh,htarget,hmarking,hhandled,htimers,hbound,-⟩:=hs
 exact ⟨by grind,by grind,by grind,by grind,by rwa[hitems],by grind,hsep⟩

lemma Named.calls_lt (hs:Named s)
  (h:s.calls c=call) (ht:call.target=some (k,i)) : i < s.next :=
 hs.lt (hs.calls c k i (h▸ht))

lemma mem_storedItems : i∈s.storedItems↔∃ k,s.stored.Bound k i := by
 constructor
 · intro hi
   obtain ⟨e,he,rfl⟩:=mem_map.mp hi
   rcases mem_append.mp he with he | he
   · exact ⟨e.1,.inl (mem_dlookup s.stored.current.nodupKeys he)⟩
   · exact ⟨e.1,.inr (mem_dlookup s.stored.previous.nodupKeys he)⟩
 · rintro ⟨k,hk⟩
   refine mem_map.mpr ⟨⟨k,i⟩,mem_append.mpr ?_,rfl⟩
   exact hk.imp of_mem_dlookup of_mem_dlookup

lemma Named.stored_lt (hs:Named s) (hi:i∈s.storedItems) :
  i < s.next := by
 obtain ⟨k,hk⟩:=mem_storedItems.mp hi
 exact hs.lt (hs.stored k i hk)

lemma Named.created (hs:Named s)
  (hcalls:s'.calls=update s.calls c (.lock j s.next true))
  (hitems:s'.items=update s.items s.next item) (hnext:s'.next=s.next+1)
  (hkey:item.key=some j.key) (htimer:item.timer=none) (hposted:s'.posted=s.posted)
  (hcancel:s'.cancellations=s.cancellations) (hstored:s'.stored=s.stored.emplace j.key s.next)
  (hcur:s.stored.current.lookup j.key=none) (hprev:s.stored.previous.lookup j.key=none) :
  Named s' := by
 have hcall':=apply_of_eq_update hcalls
 have hitem':=apply_of_eq_update hitems
 have hlt:∀ {x k},(s.items x).key=some k→ x < s.next:=hs.lt
 obtain ⟨hfresh,htarget,hmarking,hhandled,htimers,hbound,hseparate⟩:=hs
 refine ⟨?_,?_,?_,?_,?_,fun k x hx=>?_,hstored▸hseparate.emplace hprev s.next⟩
 · grind
 · grind[Call.target]
 · grind
 · grind
 · grind
 · rw[hstored,Store.bound_emplace hcur] at hx
   grind

lemma Named.work (hs:Named s) {call':Call K V F}
  (h:s.calls c=call) (ht:call.target=some (k,i))
  (hcalls:s'.calls=update s.calls c call')
  (hitems:s'.items=update s.items i item) (hnext:s'.next=s.next)
  (hkey:item.key=(s.items i).key)
  (hcall:call'.target=some (k,i)∨(call'.target=none∧∀ items,call'≠ .marking items))
  (hhandlers:∀ e,e∈s'.posted∨e∈s'.cancellations →
   (e∈s.posted∨e∈s.cancellations)∨(e.key=k∧e.item=i))
  (htimer:∀ due e,item.timer=some (due,e) →
   (s.items i).timer=some (due,e)∨(e.key=k∧e.item=i))
  (hstored:∀ k x,s'.stored.Bound k x→ s.stored.Bound k x) (hsep:s'.stored.Separate) :
  Named s' := by
 have hik:(s.items i).key=some k:=hs.calls c k i (h▸ht)
 have hnamed:∀ e : Expiry K,e.key=k∧e.item=i→(s.items e.item).key=some e.key:=by grind
 refine hs.act hcalls hitems hnext (hs.lt hik) hkey (by grind) (fun items hm=>?_)
  (fun e he=>(hhandlers e he).imp_right (hnamed e))
  (fun due e he=>(htimer due e he).imp_right (hnamed e)) hstored hsep
 rcases hcall with hcall | hcall
 · rw[hm] at hcall
   cases hcall
 · exact absurd hm (hcall.2 items)

def Call.Leaves (call:Call K V F) : Prop :=
 call.target = none ∧ ∀ items,call ≠ .marking items

lemma Named.goto (hs:Named s) (hcall:call.Leaves)
  (hcalls:s'.calls=update s.calls c call) (hitems:s'.items=s.items)
  (hnext:s'.next=s.next) (hposted:s'.posted=s.posted)
  (hcancel:s'.cancellations=s.cancellations)
  (hstored:∀ k x,s'.stored.Bound k x→ s.stored.Bound k x) (hsep:s'.stored.Separate) :
  Named s' := by
 refine hs.setCall hcalls hitems hnext (fun k x ht=>?_) (fun items hm=>absurd hm (hcall.2 items))
  (fun e he=>?_) hstored hsep
 · rw[hcall.1] at ht
   cases ht
 · rw[hposted,hcancel] at he
   exact he

lemma Named.edit (hs:Named s) {call':Call K V F}
  (h:s.calls c=call) (ht:call.target=some (k,i))
  (hkey:item.key=(s.items i).key) (htimer:item.timer=none∨item.timer=(s.items i).timer)
  (hcall:call'.target=some (k,i)∨call'.Leaves) : Named ((s.setItem i item).setCall c call') := by
 refine hs.work h ht rfl rfl rfl hkey hcall (fun _ he=>.inl he) (fun due e he=>.inl ?_)
  (fun _ _ hb=>hb) hs.separate
 rcases htimer with htimer | htimer
 · rw[htimer] at he
   cases he
 · exact htimer▸he

lemma Named.arm (hs:Named s) {created:Bool}
  {due:ℤ} {n:ℕ} (h:s.calls c=.lock j i created)
  (hcalls:s'.calls=update s.calls c call)
  (hitems:s'.items=update s.items i item) (hnext:s'.next=s.next)
  (hkey:item.key=(s.items i).key) (htimer:item.timer=some (due,⟨j.key,i,n⟩))
  (hcall:call.target=some (j.key,i)) (hposted:s'.posted=(s.addCancellations j i).posted)
  (hcancel:s'.cancellations=(s.addCancellations j i).cancellations)
  (hstored:s'.stored=s.stored) : Named s' := by
 refine hs.work h rfl hcalls hitems hnext hkey (.inl hcall) (fun e he=>?_) (fun due' e he=>.inr ?_)
  (fun k x hb=>hstored▸hb) (hstored▸hs.separate)
 · rw[hposted,hcancel] at he
   exact mem_addCancellations he
 · rw[htimer] at he
   cases he
   exact ⟨rfl,rfl⟩

lemma Named.removed (hs:Named s) (hcall:call.Leaves)
  (k:K) (i:ℕ) (eviction:Bool) : Named ((s.removeIfSame k i eviction).setCall c call) :=
 hs.goto hcall rfl rfl rfl rfl rfl
  (fun k' x hb=>((Store.bound_removeSame s.stored k i k' x).mp hb).1) (hs.separate.removeSame k i)

lemma Named.timer (hs:Named s) {due:ℤ} {e:Expiry K}
  (h:(s.items i).timer=some (due,e)) :
  Named ({ s with posted := s.posted++[e] }.setItem i { s.items i with timer := none }) := by
 have hi:i < s.next:=by
  by_contra hlt
  rw[hs.fresh i (Nat.not_lt.mp hlt)] at h
  cases h
 have hnamed:=hs.timers i due e h
 exact hs.act (update_eq_self 0 s.calls).symm rfl rfl hi rfl (hs.calls 0) (hs.marking 0)
  (by grind[State.setItem]) (fun _ _ ht=>by cases ht) (fun _ _ hb=>hb) hs.separate

lemma Named.marked (hs:Named s) {items:List ℕ}
  (h:s.calls c=.marking items) (hi:i∈items) (hkey:item.key=(s.items i).key)
  (htimer:item.timer=none) : Named ((s.setItem i item).setCall c (.marking (items.erase i))) := by
 refine hs.act rfl rfl rfl (hs.marking c items h i hi) hkey (fun _ _ ht=>by cases ht)
  (fun items' hm x hx=>?_) (fun _ he=>.inl he) (fun due e he=>?_) (fun _ _ hb=>hb) hs.separate
 · cases hm
   exact hs.marking c items h x (mem_of_mem_erase hx)
 · rw[htimer] at he
   cases he

lemma not_bound_empty (k:K) (i:ℕ) : ¬ Store.Bound ({} : Store K ℕ) k i := by
 rintro (h | h) <;> cases h

lemma named_move {l:Label K V F} (hs:Named s) (h:Move s l s') :
  Named s' := by
 cases h with
 | quiet hl hrun hstill hhandlers =>
  exact ⟨hs.fresh,hs.calls,hs.marking,fun e he=>hs.handlers e (hhandlers e he),hs.timers,
   hs.stored,hs.separate⟩
 | rotate h =>
  rcases h with rfl | rfl
  · exact ⟨hs.fresh,hs.calls,hs.marking,hs.handlers,hs.timers,hs.stored,hs.separate⟩
  · exact ⟨hs.fresh,hs.calls,hs.marking,hs.handlers,hs.timers,
     fun k i hi=>hs.stored k i ((Store.bound_absorb hs.separate k i).mp hi),Store.separate_empty _⟩
 | timer h => exact hs.timer h
 | refused h | begun h | notRunning e h hrun | retried h hp | stale h =>
  exact hs.goto ⟨rfl,fun _ hm=>by cases hm⟩ rfl rfl rfl rfl rfl (fun _ _ hb=>hb) hs.separate
 | found h hrun hi =>
  refine hs.setCall rfl rfl rfl (fun k x ht=>?_) (fun _ hm=>by cases hm)
   (fun _ he=>he) (fun _ _ hb=>hb) hs.separate
  cases ht
  exact hs.stored _ _ hi
 | created h hrun hcur hprev => exact hs.created rfl rfl rfl rfl rfl rfl rfl rfl hcur hprev
 | expires h hfree hp hdue | evaluates h hfree hp | expiryReturned result values h
 | expireReturned outcome h | evicts h hfree hp => exact hs.edit h rfl rfl (.inr rfl) (.inl rfl)
 | arms deadline h hfree hp | renews deadline h hfree hp =>
  exact hs.arm h rfl rfl rfl rfl rfl rfl rfl rfl rfl
 | moved h =>
  exact hs.work h rfl rfl rfl rfl rfl (.inl rfl) (fun _ he=>.inl he) (fun _ _ ht=>.inl ht)
   (fun k x hb=>(Store.bound_promote hs.separate _ _ k x).mp hb) (hs.separate.promote _ _)
 | joined values h => exact hs.edit h rfl rfl (.inl rfl) (.inl rfl)
 | kept values h | threw values h | expiryThrew values h =>
  exact hs.edit h rfl rfl (.inr rfl) (.inr ⟨rfl,fun _ hm=>by cases hm⟩)
 | removedJoined h | removedExpired h | removedEvicted h =>
  exact hs.removed ⟨rfl,fun _ hm=>by cases hm⟩ _ _ _
 | @expire c n e h he =>
  refine hs.setCall rfl rfl rfl (fun k x ht=>?_) (fun _ hm=>by cases hm)
   (fun e he=>he.imp_left mem_of_mem_eraseIdx) (fun _ _ hb=>hb) hs.separate
  cases ht
  exact hs.handlers e (.inl (mem_of_getElem? he))
 | stopped h hstop =>
  refine hs.setCall rfl rfl rfl (fun _ _ ht=>by cases ht) (fun items hm x hx=>?_)
   (fun _ he=>he) (fun k x hb=>absurd hb (not_bound_empty k x)) (Store.separate_empty _)
  cases hm
  exact hs.stored_lt hx
 | stoppedAgain h hstop =>
  refine hs.setCall rfl rfl rfl (fun _ _ ht=>by cases ht) (fun items hm x hx=>?_)
   (fun _ he=>he) (fun _ _ hb=>hb) hs.separate
  cases hm
  cases hx
 | marked h hi hfree => exact hs.marked h hi rfl rfl

end

structure Roles (s:State K V F) : Prop where
 holds : ∀ c i,(s.calls c).holds = some i ↔ (s.items i).locked = some c
 unprocessed : ∀ i,(s.items i).locked ≠ none → (s.items i).processed = false
 ends : ∀ c i,(s.calls c).ends = some i → (s.items i).processed = true
 single : ∀ c c' i,(s.calls c).ends = some i → (s.calls c').ends = some i → c = c'

/-- Call `c` and item `i` change: the lock of the item may pass to or from `c`, and `c`
ends the item only if it did so before or the item was not processed. -/
lemma Roles.act (hs:Roles s)
  (hcalls:s'.calls=update s.calls c call)
  (hitems:s'.items=update s.items i item)
  (hheld:∀ x,(s.calls c).holds=some x→ x=i)
  (hholds:∀ x,call.holds=some x↔x=i∧item.locked=some c)
  (hother:∀ d,d≠c→(item.locked=some d↔(s.items i).locked=some d))
  (hopen:item.locked≠none→ item.processed=false)
  (hmono:(s.items i).processed=true→ item.processed=true)
  (hends:∀ x,call.ends=some x →
   x=i∧item.processed=true∧((s.calls c).ends=some i∨(s.items i).processed=false)) :
  Roles s' := by
 -- another call that ends item `i` found it processed, so `c` must have ended it before
 have hlone:∀ d x,d≠c→ call.ends=some x→(s.calls d).ends=some x→ False:=by
  intro d x hd hx hdx
  obtain ⟨rfl,-,hc | hc⟩:=hends x hx
  · exact hd (hs.single d c x hdx hc)
  · rw[hs.ends d x hdx] at hc
    cases hc
 have hcall':=apply_of_eq_update hcalls
 have hitem':=apply_of_eq_update hitems
 obtain ⟨hlocks,hunlocked,hended,hsingle⟩:=hs
 exact ⟨by grind,by grind,by grind,by grind⟩

lemma Roles.goto (hs:Roles s)
  (hcalls:s'.calls=update s.calls c call) (hitems:s'.items=s.items)
  (hheld:(s.calls c).holds=none) (hholds:call.holds=none)
  (hends:call.ends=none∨call.ends=(s.calls c).ends) : Roles s' := by
 have hcall':=apply_of_eq_update hcalls
 have hitem':=congrFun hitems
 obtain ⟨hlocks,hunlocked,hended,hsingle⟩:=hs
 have hkept:∀ d x,(s'.calls d).ends=some x→(s.calls d).ends=some x:=by grind
 exact ⟨by grind,by rwa[hitems],by grind,by grind⟩

lemma Roles.hold (hs:Roles s)
  (hcalls:s'.calls=update s.calls c call)
  (hitems:s'.items=update s.items i item)
  (hown:(s.items i).locked=none∧(s.calls c).holds=none∨(s.calls c).holds=some i)
  (hlock:item.locked=none∧call.holds=none ∨
   item.locked=some c∧call.holds=some i∧item.processed=false)
  (hmono:(s.items i).processed=true→ item.processed=true)
  (hends:∀ x,call.ends=some x →
   x=i∧item.processed=true∧((s.calls c).ends=some i∨(s.items i).processed=false)) :
  Roles s' := by
 have hbefore:∀ d,d≠c→(s.items i).locked≠some d:=by grind[hs.holds c i]
 have hafter:∀ d,d≠c→ item.locked≠some d:=by grind
 refine hs.act hcalls hitems (by grind) (fun x=>?_)
  (fun d hd=>iff_of_false (hafter d hd) (hbefore d hd)) (by grind) hmono hends
 grind

lemma Roles.free (hs:Roles s) (hp:(s.items i).processed=true) :
  (s.items i).locked=none := by
 by_contra h
 rw[hs.unprocessed i h] at hp
 cases hp

lemma Roles.held (hs:Roles s) (h:s.calls c=call)
  (hc:call.holds=some i) : (s.calls c).holds=some i∧(s.items i).processed=false := by
 subst h
 refine ⟨hc,hs.unprocessed i fun hnone=>?_⟩
 rw[(hs.holds c i).mp hc] at hnone
 cases hnone

variable [DecidableEq K]

lemma roles_move {l:Label K V F} (hs:Roles s) (hn:Named s)
  (h:Move s l s') : Roles s' := by
 cases h with
 | quiet hl hrun hstill hhandlers => exact ⟨hs.holds,hs.unprocessed,hs.ends,hs.single⟩
 | rotate h => exact ⟨hs.holds,hs.unprocessed,hs.ends,hs.single⟩
 | @timer i due e h =>
  have hlocked:=apply_update_same Item.locked s.items (a:={ s.items i with timer := none }) (i := i) rfl
  have hprocessed:=apply_update_same Item.processed s.items (a:={ s.items i with timer := none }) (i := i) rfl
  refine ⟨fun c x=>?_,fun x hx=>?_,fun c x hx=>?_,hs.single⟩
  · exact (hs.holds c x).trans (by rw[← hlocked x]; rfl)
  · exact (hprocessed x).trans (hs.unprocessed x fun hnone=>hx ((hlocked x).trans hnone))
  · exact (hprocessed x).trans (hs.ends c x hx)
 | refused h | begun h | notRunning e h hrun | found h hrun hi | retried h hp | removedJoined h
 | removedExpired h | removedEvicted h | expire h he | stale h | stopped h hstop | stoppedAgain h hstop =>
  exact hs.goto rfl rfl (by rw[h]; rfl) rfl (.inl rfl)
 | created h hrun hcur hprev =>
  have hfresh:=hn.fresh s.next (Nat.le_refl _)
  refine hs.hold rfl rfl (.inl ⟨by rw[hfresh],by rw[h]; rfl⟩) (.inl ⟨rfl,rfl⟩) (fun hp=>?_)
   (fun _ hx=>by cases hx)
  rw[hfresh] at hp
  cases hp
 | expires h hfree hp hdue | evicts h hfree hp =>
  refine hs.hold rfl rfl (.inl ⟨hfree,by rw[h]; rfl⟩) (.inl ⟨hfree,rfl⟩) (fun _=>rfl)
   (fun x hx=>?_)
  cases hx
  exact ⟨rfl,rfl,.inr hp⟩
 | evaluates h hfree hp | arms deadline h hfree hp | renews deadline h hfree hp =>
  exact hs.hold rfl rfl (.inl ⟨hfree,by rw[h]; rfl⟩) (.inr ⟨rfl,rfl,hp⟩) (fun h=>h)
   (fun _ hx=>by cases hx)
 | moved h =>
  obtain ⟨hheld,hp⟩:=hs.held h rfl
  exact hs.hold rfl rfl (.inr hheld) (.inr ⟨rfl,rfl,hp⟩) (fun h=>h) (fun _ hx=>by cases hx)
 | joined values h =>
  obtain ⟨hheld,hp⟩:=hs.held h rfl
  refine hs.hold rfl rfl (.inr hheld) (.inl ⟨rfl,rfl⟩) (fun _=>rfl) (fun x hx=>?_)
  cases hx
  exact ⟨rfl,rfl,.inr hp⟩
 | kept values h | threw values h =>
  obtain ⟨hheld,hp⟩:=hs.held h rfl
  exact hs.hold rfl rfl (.inr hheld) (.inl ⟨rfl,rfl⟩) (fun h=>h) (fun _ hx=>by cases hx)
 | expiryReturned result values h | expireReturned outcome h =>
  have hp:=hs.ends _ _ (by rw[h]; rfl)
  refine hs.hold rfl rfl (.inl ⟨hs.free hp,by rw[h]; rfl⟩) (.inl ⟨hs.free hp,rfl⟩) (fun h=>h)
   (fun x hx=>?_)
  cases hx
  exact ⟨rfl,hp,.inl (by rw[h]; rfl)⟩
 | expiryThrew values h =>
  have hp:=hs.ends _ _ (by rw[h]; rfl)
  exact hs.hold rfl rfl (.inl ⟨hs.free hp,by rw[h]; rfl⟩) (.inl ⟨hs.free hp,rfl⟩) (fun h=>h)
   (fun _ hx=>by cases hx)
 | marked h hi hfree =>
  exact hs.hold rfl rfl (.inl ⟨hfree,by rw[h]; rfl⟩) (.inl ⟨hfree,rfl⟩) (fun _=>rfl)
   (fun _ hx=>by cases hx)

lemma named_initial (config:JoinStorageConfig) (metricsEnabled:Bool) :
  Named (.initial config metricsEnabled : State K V F) := by
 have hnone:∀ e : Expiry K,¬ (e∈([] : List (Expiry K))∨e∈([] : List (Expiry K))):=by simp
 exact ⟨fun _ _=>rfl,fun _ _ _ h=>(by cases h),fun _ _ h=>(by cases h),
  fun e h=>(hnone e h).elim,fun _ _ _ h=>(by cases h),fun k i h=>(not_bound_empty k i h).elim,
  Store.separate_empty _⟩

omit [DecidableEq K] in
lemma roles_initial (config:JoinStorageConfig) (metricsEnabled:Bool) :
  Roles (.initial config metricsEnabled : State K V F) :=
 ⟨fun _ _=>iff_of_false (by rintro ⟨⟩) (by rintro ⟨⟩),fun _ h=>absurd rfl h,
  fun _ _ h=>(by cases h),fun _ _ _ h=>(by cases h)⟩

end ServiceLib.JoinStorage
