import ServiceLib.JoinStorageItems

set_option autoImplicit false
attribute [-instance] instBooleanRingBool

/-!
# Keys stay usable

While the storage has not been stopped, an item is stored exactly as long as it is not processed
or a call is still ending it, provided no expiry callback throws out of `joinValue`.
-/
namespace ServiceLib.JoinStorageKeys
open Generations JoinStorage JoinStorageItems Transition Function List Option

variable {K V F:Type}

/-- No exception of an expiry callback leaves `joinValue`. -/
def calm (s:State K V F) : Label K V F → Bool
 | .expiry c (.threw _) =>
  match s.calls c with
  | .expiry _ _ => false
  | _ => true
 | _ => true

def Open (s:State K V F) (i:ℕ) : Prop :=
 (s.items i).processed = false ∨ ∃ c,(s.calls c).ends = some i

variable [DecidableEq K]

structure Live (s:State K V F) : Prop where
 bound : s.stopped = false → ∀ k i,s.stored.Bound k i ↔ (s.items i).key = some k ∧ Open s i
 stopped : s.stopped = true → s.running = false ∧ ∀ k i,¬ s.stored.Bound k i
 marking : ∀ c items,s.calls c = .marking items → s.stopped = true

variable {s s':State K V F} {c i d:ℕ} {call:Call K V F} {item:Item K V F} {k:K}
  {j:Join K V F} {l:Label K V F}

lemma Live.keep (hs:Live s)
  (hprocessed:∀ i,(s'.items i).processed=(s.items i).processed)
  (hkey:∀ i,(s'.items i).key=(s.items i).key)
  (hends:∀ c,(s'.calls c).ends=(s.calls c).ends)
  (hmark:∀ c items,s'.calls c=.marking items→ s.calls c=.marking items∨s.stopped=true)
  (hbound:∀ k i,s'.stored.Bound k i↔s.stored.Bound k i) (hstopped:s'.stopped=s.stopped)
  (hrun:s'.running=true→ s.running=true∨s.stopped=false) : Live s' := by
 constructor <;> grind[Live,Open]

lemma Live.goto (hs:Live s)
  (hcalls:s'.calls=update s.calls c call) (hends:call.ends=(s.calls c).ends)
  (hmark:∀ items,call=.marking items→ s.stopped=true)
  (hprocessed:∀ i,(s'.items i).processed=(s.items i).processed)
  (hkey:∀ i,(s'.items i).key=(s.items i).key)
  (hbound:∀ k i,s'.stored.Bound k i↔s.stored.Bound k i) (hstopped:s'.stopped=s.stopped)
  (hrun:s'.running=s.running) : Live s' := by
 refine hs.keep hprocessed hkey (fun d=>?_) (fun d items hd=>?_) hbound hstopped
  (fun h=>.inl (hrun▸h))
 · rw[hcalls]
   exact apply_update_same Call.ends s.calls hends d
 · rw[hcalls,update_apply] at hd
   split at hd
   · exact .inr (hmark items hd)
   · exact .inl hd

lemma Live.ended (hs:Live s)
  (hcalls:s'.calls=update s.calls c call)
  (hitems:s'.items=update s.items i item) (hkey:item.key=(s.items i).key)
  (hp:(s.items i).processed=false) (hbefore:(s.calls c).ends=none)
  (hends:call.ends=some i) (hmark:∀ items,call≠ .marking items)
  (hstored:s'.stored=s.stored) (hstopped:s'.stopped=s.stopped)
  (hrun:s'.running=s.running) : Live s' := by
 have hopen:∀ x,Open s' x↔Open s x:=by
  intro x
  by_cases hx:x=i
  · subst hx
    refine iff_of_true (.inr ⟨c,?_⟩) (.inl hp)
    rw[hcalls,update_self,hends]
  · have hsame:∀ d,(s'.calls d).ends=some x↔(s.calls d).ends=some x:=by
     intro d
     rw[hcalls,update_apply]
     split
     · next hd =>
       rw[hd,hends,hbefore]
       simp[Ne.symm hx]
     · rfl
    rw[Open,Open,hitems,update_of_ne hx]
    simp only[hsame]
 have hkeys:∀ x,(s'.items x).key=(s.items x).key:=by
  intro x
  rw[hitems]
  exact apply_update_same Item.key s.items hkey x
 refine ⟨fun hno k x=>?_,fun hyes=>?_,fun d items hd=>?_⟩
 · rw[hstored,hs.bound (hstopped▸hno),hkeys,hopen]
 · rw[hstored,hrun]
   exact hs.stopped (hstopped▸hyes)
 · rw[hstopped]
   rw[hcalls,update_apply] at hd
   split at hd
   · exact absurd hd (hmark items)
   · exact hs.marking d items hd

lemma Live.removed (hs:Live s) (hr:Roles s)
  (eviction:Bool) (hends:(s.calls c).ends=some i)
  (hkey:(s.items i).key=some k) (hafter:call.ends=none) (hmark:∀ items,call≠ .marking items) :
  Live ((s.removeIfSame k i eviction).setCall c call) := by
 have hcalls:∀ d x,(update s.calls c call d).ends=some x ↔
  (s.calls d).ends=some x∧d≠c:=by
  intro d x
  rw[update_apply]
  split
  · next hd => simp[hd,hafter]
  · next hd => simp[hd]
 have hopen:∀ x,Open ((s.removeIfSame k i eviction).setCall c call) x↔Open s x∧x≠i:=by
  intro x
  change (s.items x).processed=false∨(∃ d,(update s.calls c call d).ends=some x) ↔
   ((s.items x).processed=false∨∃ d,(s.calls d).ends=some x)∧x≠i
  simp only[hcalls]
  by_cases hx:x=i
  · grind[Roles.ends,Roles.single]
  · grind
 refine ⟨fun hno k' x=>?_,fun hyes=>⟨(hs.stopped hyes).1,fun k' x hb=>?_⟩,fun d items hd=>?_⟩
 · change (s.stored.removeSame k i).Bound k' x↔(s.items x).key=some k'∧_
   rw[Store.bound_removeSame,hs.bound hno,hopen,and_assoc]
   refine and_congr_right fun hk'=>and_congr_right fun _=>not_congr ⟨fun h=>h.2,?_⟩
   rintro rfl
   exact ⟨some.inj (hk'.symm.trans hkey),rfl⟩
 · exact (hs.stopped hyes).2 k' x ((Store.bound_removeSame _ _ _ k' x).mp hb).1
 · change update s.calls c call d=.marking items at hd
   rw[update_apply] at hd
   split at hd
   · exact absurd hd (hmark items)
   · exact hs.marking d items hd

lemma Live.created (hs:Live s) (hn:Named s)
  (h:s.calls c=.find j)
  (hcalls:s'.calls=update s.calls c (.lock j s.next true))
  (hitems:s'.items=update s.items s.next item) (hkey:item.key=some j.key)
  (hp:item.processed=false) (hstored:s'.stored=s.stored.emplace j.key s.next)
  (hcur:s.stored.current.lookup j.key=none) (hrunning:s.running=true)
  (hstopped:s'.stopped=s.stopped) : Live s' := by
 have hno:s.stopped=false:=by
  by_contra hyes
  rw[(hs.stopped (Bool.not_eq_false _▸hyes)).1] at hrunning
  cases hrunning
 have hends:∀ d,(s'.calls d).ends=(s.calls d).ends:=by
  intro d
  rw[hcalls]
  exact apply_update_same Call.ends s.calls (by rw[h]; rfl) d
 refine ⟨fun _ k i=>?_,fun hyes=>?_,fun d items hd=>?_⟩
 · rw[hstored,Store.bound_emplace hcur,hs.bound hno,Open,Open,hitems]
   simp only[hends]
   by_cases hi:i=s.next
   · subst hi
     have hfresh:(s.items s.next).key=none:=by rw[hn.fresh s.next (Nat.le_refl _)]
     rw[hfresh,update_self,hkey,hp,Option.some.injEq,eq_comm (a := k)]
     simp
   · rw[update_of_ne hi]
     simp[hi]
 · rw[hstopped,hno] at hyes
   cases hyes
 · rw[hcalls,update_apply] at hd
   split at hd
   · cases hd
   · rw[hstopped]
     exact hs.marking d items hd

lemma live_move (hn:Named s) (hr:Roles s) (hs:Live s)
  (hcalm:calm s l=true) (h:Move s l s') : Live s' := by
 have hitem:∀ {i:ℕ} {item:Item K V F},item.processed=(s.items i).processed →
  ∀ x,(update s.items i item x).processed=(s.items x).processed :=
  fun h x=>apply_update_same Item.processed s.items h x
 have hkey:∀ {i:ℕ} {item:Item K V F},item.key=(s.items i).key →
  ∀ x,(update s.items i item x).key=(s.items x).key :=
  fun h x=>apply_update_same Item.key s.items h x
 cases h with
 | quiet hl hrun hstill hhandlers =>
  exact hs.keep (fun _=>rfl) (fun _=>rfl) (fun _=>rfl) (fun _ _ h=>.inl h) (fun _ _=>Iff.rfl)
   rfl hrun
 | rotate h =>
  refine hs.keep (fun _=>rfl) (fun _=>rfl) (fun _=>rfl) (fun _ _ h=>.inl h) (fun k i=>?_)
   rfl .inl
  rcases h with rfl | rfl
  · rfl
  · exact Store.bound_absorb hn.separate k i
 | timer h =>
  exact hs.keep (hitem rfl) (hkey rfl) (fun _=>rfl) (fun _ _ h=>.inl h) (fun _ _=>Iff.rfl) rfl .inl
 | refused h | begun h | notRunning e h hrun | found h hrun hi | retried h hp | expire h he | stale h =>
  exact hs.goto rfl (by rw[h]; rfl) (fun _ hm=>by cases hm) (fun _=>rfl) (fun _=>rfl)
   (fun _ _=>Iff.rfl) rfl rfl
 | created h hrun hcur hprev => exact hs.created hn h rfl rfl rfl rfl rfl hcur hrun rfl
 | evaluates h hfree hp | arms deadline h hfree hp | renews deadline h hfree hp | kept values h
 | threw values h | expiryReturned result values h | expireReturned outcome h =>
  exact hs.goto rfl (by rw[h]; rfl) (fun _ hm=>by cases hm) (hitem rfl) (hkey rfl)
   (fun _ _=>Iff.rfl) rfl rfl
 | moved h =>
  exact hs.goto rfl (by rw[h]; rfl) (fun _ hm=>by cases hm) (hitem rfl) (hkey rfl)
   (Store.bound_promote hn.separate _ _) rfl rfl
 | expires h hfree hp hdue | evicts h hfree hp =>
  exact hs.ended rfl rfl rfl hp (by rw[h]; rfl) rfl (fun _ hm=>by cases hm) rfl rfl rfl
 | joined values h =>
  exact hs.ended rfl rfl rfl (hr.held h rfl).2 (by rw[h]; rfl) rfl (fun _ hm=>by cases hm) rfl rfl rfl
 | expiryThrew values h =>
  simp only[calm,h] at hcalm
  cases hcalm
 | removedJoined h | removedExpired h | removedEvicted h =>
  exact hs.removed hr _ (by rw[h]; rfl) (hn.calls _ _ _ (by rw[h]; rfl)) rfl (fun _ hm=>by cases hm)
 | stopped h hstop =>
  exact ⟨fun hno=>(by cases hno),fun _=>⟨rfl,not_bound_empty⟩,fun _ _ _=>rfl⟩
 | stoppedAgain h hstop =>
  exact hs.goto rfl (by rw[h]; rfl) (fun _ _=>hstop) (fun _=>rfl) (fun _=>rfl)
   (fun _ _=>Iff.rfl) rfl rfl
 | marked h hi hfree =>
  have hstop:=hs.marking _ _ h
  refine ⟨fun hno=>?_,fun _=>hs.stopped hstop,fun _ _ _=>hstop⟩
  rw[show s.stopped=false from hno] at hstop
  cases hstop

lemma live_initial (config:JoinStorageConfig) (metricsEnabled:Bool) :
  Live (.initial config metricsEnabled : State K V F) := by
 refine ⟨fun _ k i=>?_,fun hyes=>(by cases hyes),fun _ _ h=>(by cases h)⟩
 exact iff_of_false (not_bound_empty k i) (fun h=>(by cases h.1))

omit [DecidableEq K] in
def inProgress : Call K V F → Bool
 | .idle | .returned _ | .failed _ | .callbackThrew | .expireDone | .marking _ => false
 | _ => true

def stepOf (c:ℕ) : Label K V F → Bool
 | .find d | .lock d | .moveToCurrent d | .callback d _ | .expiry d _ | .remove d | .expireLock d => d == c
 | _ => false

def environment : Label K V F → Bool
 | .advance _ | .timer _ | .cancellation _ | .rotationTimer | .rotate | .rearm => true
 | _ => false

structure Lone (s:State K V F) (c:ℕ) : Prop where
 items : Items s
 live : Live s
 running : s.running = true
 others : ∀ d,d ≠ c → inProgress (s.calls d) = false

def Stored (s:State K V F) (k:K) : Prop :=
 ∃ i,s.stored.Bound k i

instance decidableStored (s:State K V F) (k:K) : Decidable (Stored s k) :=
 decidable_of_iff ((s.stored.current.lookup k).isSome ∨ (s.stored.previous.lookup k).isSome) (by
  simp only [isSome_iff_exists,← exists_or]
  rfl)

def weight (s:State K V F) : Call K V F → ℕ
 | .find j => if Stored s j.key then 10 else 6
 | .lock _ i _ => if (s.items i).processed then 11 else if (s.items i).deadline.isSome then 9 else 5
 | .expiry _ _ => 8
 | .removeExpired _ _ => 7
 | .moveToCurrent _ _ | .expire _ => 4
 | .callback _ _ | .expireCallback _ => 3
 | .removeJoined _ _ | .removeEvicted _ => 2
 | .idle | .returned _ | .failed _ | .callbackThrew | .expireDone | .marking _ => 0

def remaining (s:State K V F) (c:ℕ) : ℕ :=
 weight s (s.calls c)

lemma weight_le (s:State K V F) (call:Call K V F) : weight s call≤11 := by
 grind[Call,weight]

lemma remaining_setCall (s:State K V F) (c:ℕ) (call:Call K V F) :
  remaining (s.setCall c call) c=weight s call := by
 rw[remaining,State.setCall_self]
 cases call <;> rfl

omit [DecidableEq K] in
lemma inProgress_of_ends (h:call.ends=some i) : inProgress call=true := by
 cases call with
 | removeJoined j x | expiry j x | removeExpired j x | expireCallback e | removeEvicted e => rfl
 | _ => cases h

omit [DecidableEq K] in
lemma inProgress_of_holds (h:call.holds=some i) :
  inProgress call=true := by
 cases call with
 | moveToCurrent j x | callback j x => rfl
 | _ => cases h

lemma Lone.only (hs:Lone s c) (h:inProgress (s.calls d)=true) :
  d=c := by
 by_contra hne
 rw[hs.others d hne] at h
 cases h

lemma Lone.notStopped (hs:Lone s c) : s.stopped=false := by
 by_contra hyes
 have hrun:=(hs.live.stopped (Bool.not_eq_false _▸hyes)).1
 rw[hs.running] at hrun
 cases hrun

lemma Lone.unprocessed (hs:Lone s c) (hends:(s.calls c).ends=none)
  (hb:s.stored.Bound k i) : (s.items i).processed=false := by
 rcases ((hs.live.bound hs.notStopped k i).mp hb).2 with hp | ⟨d,hd⟩
 · exact hp
 · rw[hs.only (inProgress_of_ends hd),hends] at hd
   cases hd

lemma Lone.free (hs:Lone s c) (hholds:(s.calls c).holds=none) (i:ℕ) :
  (s.items i).locked=none := by
 cases hlock:(s.items i).locked with
 | none => rfl
 | some d =>
  have hd:=(hs.items.roles.holds d i).mpr hlock
  rw[hs.only (inProgress_of_holds hd),hholds] at hd
  cases hd

lemma weight_find_ge (s:State K V F) (j:Join K V F) : 6≤weight s (.find j) := by
 change 6≤ if Stored s j.key then 10 else 6
 split <;> omega

lemma weight_find_le (s:State K V F) (j:Join K V F) : weight s (.find j)≤10 := by
 change (if Stored s j.key then 10 else 6)≤10
 split <;> omega

lemma weight_lock (hp:(s.items i).processed=false) (j:Join K V F)
  (created:Bool) :
  weight s (.lock j i created)=if (s.items i).deadline.isSome then 9 else 5 := by
 change (if (s.items i).processed then 11 else if (s.items i).deadline.isSome then 9 else 5)=_
 rw[hp]
 rfl

lemma weight_lock_ge (hp:(s.items i).processed=false) (j:Join K V F)
  (created:Bool) : 5≤weight s (.lock j i created) := by
 rw[weight_lock hp]
 split <;> omega

lemma weight_lock_setItem (hp:item.processed=false)
  (hdeadline:item.deadline=none) {created:Bool} :
  weight (s.setItem i item) (.lock j i created)=5 := by
 have hitem:(s.setItem i item).items i=item:=update_self ..
 have hopen:((s.setItem i item).items i).processed=false:=by rw[hitem,hp]
 rw[weight_lock hopen,hitem,hdeadline]
 rfl

lemma Lone.notStored (hs:Lone s c)
  (h:s.calls c=.removeExpired j i) : ¬ Stored (s.removeIfSame j.key i true) j.key := by
 rintro ⟨x,hx⟩
 obtain ⟨hx,hne⟩:=(Store.bound_removeSame _ _ _ _ _).mp hx
 have hi:s.stored.Bound j.key i:=
  (hs.live.bound hs.notStopped _ _).mpr
   ⟨hs.items.named.calls c _ _ (by rw[h]; rfl),.inr ⟨c,by rw[h]; rfl⟩⟩
 exact hne ⟨rfl,hs.items.named.separate.unique hx hi⟩

lemma own_decreases (hs:Lone s c)
  (hown:stepOf c l=true) (h:Move s l s') : remaining s' c < remaining s c := by
 have hc:∀ {d},(d == c)=true→ d=c:=fun h=>beq_iff_eq.mp h
 cases h with
 | quiet hl hrun hstill hhandlers => cases l <;> first | cases hown | exact hl.elim
 | rotate h | timer h | refused h | begun h | expire h he | stopped h hstop | stoppedAgain h hstop
 | marked h hi hfree => cases hown
 | notRunning e h hrun =>
  rw[hs.running] at hrun
  cases hrun
 | @found d j i h hrun hi =>
  obtain rfl:=hc hown
  have hstored:weight s (.find j)=10:=if_pos ⟨i,hi⟩
  rw[remaining_setCall,remaining,h,hstored,weight_lock (hs.unprocessed (by rw[h]; rfl) hi)]
  split <;> omega
 | @created d j h hrun hcur hprev =>
  obtain rfl:=hc hown
  have hfind:=weight_find_ge s j
  rw[remaining_setCall,remaining,h,weight_lock_setItem rfl rfl]
  omega
 | @retried d j i created h hp =>
  obtain rfl:=hc hown
  have hlock:weight s (.lock j i created)=11:=if_pos hp
  have hfind:=weight_find_le s j
  rw[remaining_setCall,remaining,h]
  omega
 | @expires d j i created h hfree hp hdue =>
  obtain rfl:=hc hown
  have hdeadline:(s.items i).deadline.isSome=true:=by
   unfold Item.expired at hdue
   split at hdue
   · next hd => rw[hd]; rfl
   · cases hdue
  rw[remaining_setCall,remaining,h,weight_lock hp,if_pos hdeadline]
  change 8 < 9
  omega
 | @evaluates d j i created h hfree hp | @arms d j i created deadline h hfree hp =>
  obtain rfl:=hc hown
  have hlock:=weight_lock_ge hp j created
  rw[State.evaluate,remaining_setCall,remaining,h]
  change 3 < _
  omega
 | @renews d j i created deadline h hfree hp =>
  obtain rfl:=hc hown
  have hlock:=weight_lock_ge hp j created
  rw[remaining_setCall,remaining,h]
  change 4 < _
  omega
 | moved h =>
  obtain rfl:=hc hown
  rw[State.evaluate,remaining_setCall,remaining,h]
  change 3 < 4
  omega
 | joined values h | kept values h | threw values h | expiryReturned result values h
 | expiryThrew values h | expireReturned outcome h | removedJoined h | removedEvicted h | stale h
 | evicts h hfree hp =>
  obtain rfl:=hc hown
  rw[remaining_setCall,remaining,h]
  simp[weight]
 | @removedExpired d j i h =>
  obtain rfl:=hc hown
  have hfind:weight (s.removeIfSame j.key i true) (.find j)=6:=if_neg (hs.notStored h)
  rw[remaining_setCall,remaining,h,hfind]
  change 6 < 7
  omega

lemma own_calls (hown:stepOf c l=true)
  (h:Move s l s') : s'.running=s.running∧∀ d,d≠c→ s'.calls d=s.calls d := by
 have hc:∀ {d},(d == c)=true→ d=c:=fun h=>beq_iff_eq.mp h
 cases h with
 | quiet hl hrun hstill hhandlers => cases l <;> first | cases hown | exact hl.elim
 | rotate h | timer h | refused h | begun h | expire h he | stopped h hstop | stoppedAgain h hstop
 | marked h hi hfree => cases hown
 | _ =>
  obtain rfl:=hc hown
  exact ⟨rfl,fun d hd=>update_of_ne hd _ _⟩

lemma environment_calls (henv:environment l=true)
  (hr:s.running=true) (h:Move s l s') : s'.running=true∧s'.calls=s.calls := by
 cases h with
 | quiet hl hrun hstill hhandlers => exact ⟨hstill hr,rfl⟩
 | rotate h | timer h => exact ⟨hr,rfl⟩
 | _ => cases henv

lemma remaining_congr (hcalls:s'.calls=s.calls)
  (hstored:∀ k,Stored s' k↔Stored s k)
  (hprocessed:∀ i,(s'.items i).processed=(s.items i).processed)
  (hdeadline:∀ i,(s'.items i).deadline=(s.items i).deadline) : remaining s' c=remaining s c := by
 rw[remaining,remaining,hcalls]
 cases s.calls c with
 | find j => simp only[weight,hstored]
 | lock j i created => simp only[weight,hprocessed,hdeadline]
 | _ => rfl

lemma environment_remaining (hn:Named s)
  (henv:environment l=true) (h:Move s l s') : remaining s' c=remaining s c := by
 cases h with
 | quiet hl hrun hstill hhandlers =>
  exact remaining_congr rfl (fun _=>Iff.rfl) (fun _=>rfl) (fun _=>rfl)
 | rotate h =>
  refine remaining_congr rfl (fun k=>exists_congr fun i=>?_) (fun _=>rfl) (fun _=>rfl)
  rcases h with rfl | rfl
  · rfl
  · exact Store.bound_absorb hn.separate k i
 | timer h =>
  exact remaining_congr rfl (fun _=>Iff.rfl) (apply_update_same Item.processed s.items rfl)
   (apply_update_same Item.deadline s.items rfl)
 | _ => cases henv

def solo (c:ℕ) (l:Label K V F) : Bool :=
 stepOf c l || environment l

lemma lone_step (hs:Lone s c)
  (hsolo:solo c l=true) (hcalm:calm s l=true) (hstep:step s l=some s') :
  Lone s' c∧remaining s' c+(if stepOf c l then 1 else 0)≤remaining s c := by
 have hmove:=move_of_step hstep
 have hlive:=live_move hs.items.named hs.items.roles hs.live hcalm hmove
 by_cases hown:stepOf c l=true
 · obtain ⟨hrunning,hcalls⟩:=own_calls hown hmove
   refine ⟨⟨items_step hs.items hstep,hlive,hrunning.trans hs.running,fun d hd=>?_⟩,?_⟩
   · rw[hcalls d hd]
     exact hs.others d hd
   · rw[if_pos hown]
     exact own_decreases hs hown hmove
 · have henv:environment l=true:=by
    unfold solo at hsolo
    simpa[hown] using hsolo
   obtain ⟨hrunning,hcalls⟩:=environment_calls henv hs.running hmove
   refine ⟨⟨items_step hs.items hstep,hlive,hrunning,fun d hd=>?_⟩,?_⟩
   · rw[hcalls]
     exact hs.others d hd
   · rw[if_neg hown,environment_remaining hs.items.named henv hmove,Nat.add_zero]

lemma lone_run {more:List (Label K V F)} (hs:Lone s c)
  (hsolo:∀ l∈more,solo c l=true) (hcalm:Along step (fun s l=>calm s l=true) s more)
  (hrun:exec step s more=some s') :
  Lone s' c∧remaining s' c+more.countP (stepOf c)≤remaining s c := by
 induction more generalizing s with
 | nil =>
  obtain rfl:=some.inj hrun
  exact ⟨hs,Nat.le_refl _⟩
 | cons l more ih =>
  obtain ⟨m,hm,hrest⟩:=exec_cons.mp hrun
  obtain ⟨hlone,hle⟩:=lone_step hs (hsolo l mem_cons_self) hcalm.1 hm
  obtain ⟨hlone',hle'⟩:=ih hlone (fun x hx=>hsolo x (mem_cons_of_mem l hx)) (hcalm.2 m hm) hrest
  refine ⟨hlone',?_⟩
  rw[countP_cons]
  omega

omit [DecidableEq K] in
lemma lock_isSome (hfree:(s.items i).locked=none) (c:ℕ)
  (j:Join K V F) (created:Bool) : (s.lock c j i created).isSome=true := by
 simp only[State.lock,hfree,isSome_none,Bool.false_eq_true,↓reduceIte]
 split
 · rfl
 split
 · rfl
 split
 · rfl
 split
 · rfl
 split <;> rfl

omit [DecidableEq K] in
lemma expireLock_isSome {e:Expiry K} (hfree:(s.items e.item).locked=none)
  (c:ℕ) : (s.expireLock c e).isSome=true := by
 simp only[State.expireLock,hfree,isSome_none,Bool.false_eq_true,↓reduceIte]
 split <;> rfl

lemma lone_enabled (hs:Lone s c) (h:inProgress (s.calls c)=true) :
  ∃ l,stepOf c l=true∧calm s l=true∧(step s l).isSome=true := by
 have hc:(c == c)=true:=beq_self_eq_true c
 cases hcall:s.calls c with
 | find j => exact ⟨.find c,hc,rfl,by simp[step,hcall]⟩
 | lock j i created =>
  have hfree:=hs.free (by rw[hcall]; rfl) i
  exact ⟨.lock c,hc,rfl,by simpa[step,hcall] using lock_isSome hfree c j created⟩
 | moveToCurrent j i => exact ⟨.moveToCurrent c,hc,rfl,by simp[step,hcall]⟩
 | callback j i => exact ⟨.callback c (.returned false []),hc,rfl,by simp[step,hcall]⟩
 | expiry j i | expireCallback e =>
  exact ⟨.expiry c (.returned false []),hc,rfl,by simp[step,hcall]⟩
 | removeJoined j i | removeExpired j i | removeEvicted e =>
  exact ⟨.remove c,hc,rfl,by simp[step,hcall]⟩
 | expire e =>
  have hfree:=hs.free (by rw[hcall]; rfl) e.item
  exact ⟨.expireLock c,hc,rfl,by simpa[step,hcall] using expireLock_isSome hfree c⟩
 | idle | returned j | failed e | callbackThrew | expireDone | marking items =>
  rw[hcall] at h
  cases h

lemma removed_notStored (hn:Named s) (hkey:(s.items i).key=some k)
  (hstored:s'.stored=s.stored.removeSame k i) (k':K) :
  ¬ s'.stored.Bound k' i := by
 rw[hstored,Store.bound_removeSame]
 rintro ⟨hb,hne⟩
 exact hne ⟨some.inj ((hn.stored k' i hb).symm.trans hkey),rfl⟩

lemma remove_step (hn:Named s) (hends:(s.calls d).ends=some i)
  (hidle:running (s.calls d)=none) :
  ∃ s',step s (.remove d)=some s'∧∀ k,¬ s'.stored.Bound k i := by
 cases hcall:s.calls d with
 | removeJoined j x | removeExpired j x =>
  rw[hcall] at hends
  cases hends
  exact ⟨_,by simp only[step,hcall]; rfl,
   removed_notStored hn (hn.calls d _ _ (by rw[hcall]; rfl)) rfl⟩
 | removeEvicted e =>
  rw[hcall] at hends
  cases hends
  exact ⟨_,by simp only[step,hcall]; rfl,
   removed_notStored hn (hn.calls d _ _ (by rw[hcall]; rfl)) rfl⟩
 | expiry j x | expireCallback e =>
  rw[hcall] at hidle
  cases hidle
 | _ =>
  rw[hcall] at hends
  cases hends

/-- A call that ends an item can always go on, and its next two steps remove the item. -/
lemma ender_removes (hs:Items s) (hends:(s.calls d).ends=some i) :
  ∃ ls s',(∀ l∈ls,stepOf d l=true)∧ls.length≤2∧exec step s ls=some s' ∧
   ∀ k,¬ s'.stored.Bound k i := by
 have hd:(d == d)=true:=beq_self_eq_true d
 cases hrun:running (s.calls d) with
 | none =>
  obtain ⟨s',hstep,hnot⟩:=remove_step hs.named hends hrun
  refine ⟨[.remove d],s',fun l hl=>?_,Nat.le_succ 1,exec_cons.mpr ⟨s',hstep,rfl⟩,hnot⟩
  rw[mem_singleton.mp hl]
  exact hd
 | some x =>
  obtain ⟨t,hstep,htends,htidle⟩ : ∃ t,step s (.expiry d (.returned false []))=some t ∧
   (t.calls d).ends=some i∧running (t.calls d)=none:=by
   cases hcall:s.calls d with
   | expiry j x | expireCallback e =>
    rw[hcall] at hends
    cases hends
    exact ⟨_,by simp only[step,hcall]; rfl,congrArg Call.ends (State.setCall_self _ d _),
     congrArg running (State.setCall_self _ d _)⟩
   | callback j x =>
    rw[hcall] at hends
    cases hends
   | _ =>
    rw[hcall] at hrun
    cases hrun
  obtain ⟨s',hstep',hnot⟩:=remove_step (items_step hs hstep).named htends htidle
  refine ⟨[.expiry d (.returned false []),.remove d],s',fun l hl=>?_,Nat.le_refl 2,
   exec_cons.mpr ⟨t,hstep,exec_cons.mpr ⟨s',hstep',rfl⟩⟩,hnot⟩
  rcases mem_cons.mp hl with rfl | hl
  · exact hd
  · rw[mem_singleton.mp hl]
    exact hd

lemma run_live {config:JoinStorageConfig} {metricsEnabled:Bool} {labels:List (Label K V F)}
  (hcalm:Along step (fun s l=>calm s l=true) (.initial config metricsEnabled) labels)
  (hrun:exec step (.initial config metricsEnabled) labels=some s) : Items s∧Live s :=
 exec_invariant_along (I := fun s=>Items s∧Live s)
  (fun _ _ _ hs hok hstep=>⟨items_step hs.1 hstep,
   live_move hs.1.named hs.1.roles hs.2 hok (move_of_step hstep)⟩)
  ⟨items_initial config metricsEnabled,live_initial config metricsEnabled⟩ hcalm hrun

lemma Live.ender (hs:Live s) (hb:s.stored.Bound k i)
  (hp:(s.items i).processed=true) : ∃ d,(s.calls d).ends=some i := by
 have hno:s.stopped=false:=by
  by_contra hyes
  exact (hs.stopped (Bool.not_eq_false _▸hyes)).2 k i hb
 rcases ((hs.bound hno k i).mp hb).2 with hopen | hopen
 · rw[hp] at hopen
   cases hopen
 · exact hopen

/-- In every run in which no expiry callback throws out of `joinValue`: a stored item that
is processed is being ended by a call in progress, which can go on and removes it within
two steps, so that no such item is left when no call is in progress; and a call that
runs alone while the storage is running takes at most eleven steps, the next of which
is always enabled. -/
theorem keys_stay_usable (config : JoinStorageConfig) (metricsEnabled : Bool)
  (labels : List (Label K V F)) (s : State K V F)
  (hcalm : Along step (fun s l => calm s l = true) (.initial config metricsEnabled) labels)
  (hrun : exec step (.initial config metricsEnabled) labels = some s) :
  (∀ k i, s.stored.Bound k i → (s.items i).processed = true →
   ∃ d, inProgress (s.calls d) = true ∧ ∃ ls s', (∀ l ∈ ls, stepOf d l = true) ∧ ls.length ≤ 2 ∧
    exec step s ls = some s' ∧ ∀ k, ¬ s'.stored.Bound k i) ∧
  ((∀ c, inProgress (s.calls c) = false) → ∀ k i, s.stored.Bound k i → (s.items i).processed = false) ∧
  (∀ c, s.running = true → (∀ d, d ≠ c → inProgress (s.calls d) = false) → ∀ more s',
   (∀ l ∈ more, solo c l = true) → Along step (fun s l => calm s l = true) s more →
   exec step s more = some s' →
   more.countP (stepOf c) ≤ 11 ∧
   (inProgress (s'.calls c) = true →
    ∃ l, stepOf c l = true ∧ calm s' l = true ∧ (step s' l).isSome = true)) := by
 obtain ⟨hitems,hlive⟩:=run_live hcalm hrun
 refine ⟨fun k i hb hp=>?_,fun hquiet k i hb=>?_,fun c hrunning hothers more s' hsolo hmore hexec=>?_⟩
 · obtain ⟨d,hd⟩:=hlive.ender hb hp
   exact ⟨d,inProgress_of_ends hd,ender_removes hitems hd⟩
 · grind[Live.ender,inProgress_of_ends]
 · have hlone:Lone s c:=⟨hitems,hlive,hrunning,hothers⟩
   obtain ⟨hlone',hle⟩:=lone_run hlone hsolo hmore hexec
   have hmax:=weight_le s (s.calls c)
   refine ⟨?_,lone_enabled hlone'⟩
   unfold remaining at hle
   omega

def overdueRun : List (Label ℕ ℕ Unit) :=
 oneValue ++ [.joinValue 1 {} 7 0 6 (some ()),.find 1,.lock 1]

theorem keys_stay_usable_overdue : ∃ s, exec step (.initial {} false) overdueRun = some s ∧
  s.stored.Bound 7 0 ∧ (s.items 0).processed = true ∧
  (∃ d ls s', (∀ l ∈ ls, stepOf d l = true) ∧ exec step s ls = some s' ∧ ∀ k, ¬ s'.stored.Bound k 0) ∧
  ∀ more s', (∀ l ∈ more, solo 1 l = true) → Along step (fun s l => calm s l = true) s more →
   exec step s more = some s' → more.countP (stepOf 1) ≤ 11 := by
 obtain ⟨hremoved,-,hlone⟩:=keys_stay_usable {} false overdueRun _ (by decide) rfl
 obtain ⟨d,-,ls,s',hls,-,hexec,hgone⟩:=hremoved 7 0 (.inl rfl) rfl
 refine ⟨_,rfl,.inl rfl,rfl,⟨d,ls,s',hls,hexec,hgone⟩,fun more s' hmore hcalm hexec=>?_⟩
 refine (hlone 1 rfl (fun d hd=>?_) more s' hmore hcalm hexec).1
 rcases d with _ | _ | d
 · rfl
 · exact absurd rfl hd
 · rfl

def throwingRun : List (Label ℕ ℕ Unit) :=
 overdueRun ++ [.expiry 1 (.threw [[5]])]

/-- A processed item that no call removes makes `joinValue` go round for ever. -/
lemma spin (hcall:s.calls c=.find j)
  (hrun:s.running=true) (hi:s.stored.current.lookup j.key=some i)
  (hfree:(s.items i).locked=none) (hp:(s.items i).processed=true) (n:ℕ) :
  exec step s (List.replicate n [.find c,.lock c]).flatten=some s := by
 have hfind:step s (.find c)=some (s.setCall c (.lock j i false)):=by
  simp[step,hcall,State.findOrCreate,hrun,hi]
 have hback:(s.setCall c (.lock j i false)).setCall c (.find j)=s:=by
  simp only[State.setCall,update_idem,← hcall,update_eq_self]
 have hlock:step (s.setCall c (.lock j i false)) (.lock c)=some s:=by
  have hitem:(s.setCall c (.lock j i false)).items i=s.items i:=rfl
  simp[step,State.lock,hitem,hfree,hp,hback]
 induction n with
 | zero => rfl
 | succ n ih =>
  rw[replicate_succ,flatten_cons]
  exact exec_cons.mpr ⟨_,hfind,exec_cons.mpr ⟨s,hlock,ih⟩⟩

theorem throwingRun_spins : ∃ s s', exec step (.initial {} false) throwingRun = some s ∧
  (∀ c, inProgress (s.calls c) = false) ∧ s.running = true ∧ s.stored.Bound 7 0 ∧
  (s.items 0).processed = true ∧
  step s (.joinValue 2 {} 7 0 8 (some ())) = some s' ∧
  ∀ n, exec step s' (List.replicate n [.find 2, .lock 2]).flatten = some s' := by
 refine ⟨_,_,rfl,fun c=>?_,rfl,.inl rfl,rfl,rfl,fun n=>spin rfl rfl rfl rfl rfl n⟩
 match c with
 | 0 => rfl
 | 1 => rfl
 | c+2 => rfl

end ServiceLib.JoinStorageKeys
