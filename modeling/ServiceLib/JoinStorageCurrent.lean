import ServiceLib.JoinStorageKeys

set_option autoImplicit false

/-!
# The current item of a key

An item that can still take a value or run a callback is the last one made for its key.
-/
namespace ServiceLib.JoinStorageCurrent
open Generations JoinStorage JoinStorageItems JoinStorageKeys Transition Function List

variable {K V F:Type} [DecidableEq K]

variable {s s':State K V F} {c i:ℕ} {call:Call K V F} {l:Label K V F} {k:K}
  {seen:List (Acceptance K V F)}

omit [DecidableEq K] in
lemma ends_update {d:ℕ}
  (h:(update s.calls c call d).ends=some i)
  (hcall:call.ends=some i→(s.calls c).ends=some i∨(s.items i).processed=false) :
  (s.calls d).ends=some i∨(s.items i).processed=false := by
 rw[update_apply] at h
 split at h
 · next hd =>
   rw[hd]
   exact hcall h
 · exact .inl h

lemma ends_move (hr:Roles s) (h:Move s l s')
  (hends:(s'.calls c).ends=some i) :
  (s.calls c).ends=some i∨(s.items i).processed=false := by
 cases h with
 | quiet hl hrun hstill hhandlers => exact .inl hends
 | rotate h | timer h => exact .inl hends
 | refused h | begun h | notRunning e h hrun | found h hrun hi | created h hrun hcur hprev
 | retried h hp | evaluates h hfree hp | arms deadline h hfree hp | renews deadline h hfree hp
 | moved h | kept values h | threw values h | expiryThrew values h | removedJoined h
 | removedExpired h | removedEvicted h | expire h he | stale h | stopped h hstop
 | stoppedAgain h hstop | marked h hi hfree =>
  exact ends_update hends fun hnone=>by cases hnone
 | expires h hfree hp hdue | evicts h hfree hp =>
  refine ends_update hends fun hsome=>.inr ?_
  cases hsome
  exact hp
 | joined values h =>
  refine ends_update hends fun hsome=>.inr ?_
  cases hsome
  exact (hr.held h rfl).2
 | expiryReturned result values h | expireReturned outcome h =>
  refine ends_update hends fun hsome=>.inl ?_
  rw[h]
  exact hsome

lemma open_move (hn:Named s) (hr:Roles s)
  (h:Move s l s') (hi:i < s.next) (hopen:Open s' i) : Open s i := by
 rcases hopen with hp | ⟨c,hc⟩
 · left
   by_contra hprocessed
   have hafter:=((account_move hn hr h).items i hi).processed.mpr
    (.inl (Bool.not_eq_false _▸hprocessed))
   rw[hp] at hafter
   cases hafter
 · rcases ends_move hr h hc with hends | hp
   · exact .inr ⟨c,hends⟩
   · exact .inl hp

lemma next_move (h:Move s l s') :
  s'.next=s.next∨(s'.next=s.next+1∧∃ c j,s.calls c=.find j∧s.running=true ∧
   (∀ i,¬ s.stored.Bound j.key i)∧(s'.items s.next).key=some j.key ∧
   s'.stored.Bound j.key s.next) := by
 cases h with
 | created h hrun hcur hprev =>
  refine .inr ⟨rfl,_,_,h,hrun,fun i hb=>?_,?_,?_⟩
  · rcases hb with hb | hb
    · rw[hcur] at hb
      cases hb
    · rw[hprev] at hb
      cases hb
  · change (update s.items s.next _ s.next).key=_
    rw[update_self]
  · exact (Store.bound_emplace hcur _ _ _).mpr (.inr ⟨rfl,rfl⟩)
 | _ => exact .inl rfl

lemma stored_move (hn:Named s) (hr:Roles s)
  (h:Move s l s') (hno:s'.stopped=false) (hb:s.stored.Bound k i)
  (hopen:Open s' i) : s'.stored.Bound k i := by
 have hremoved:∀ {c x:ℕ} {call:Call K V F} {key:K} {eviction:Bool},
  (s.calls c).ends=some x→ call.ends=none →
  Open ((s.removeIfSame key x eviction).setCall c call) i →
  (s.stored.removeSame key x).Bound k i:=by
  intro c x call key eviction hends hcall hopen
  refine (Store.bound_removeSame _ _ _ k i).mpr ⟨hb,?_⟩
  rintro ⟨-,rfl⟩
  rcases hopen with hp | ⟨d,hd⟩
  · change (s.items i).processed=false at hp
    rw[hr.ends c i hends] at hp
    cases hp
  · change (update s.calls c call d).ends=some i at hd
    rw[update_apply] at hd
    split at hd
    · rw[hcall] at hd
      cases hd
    · next hne => exact hne (hr.single d c i hd hends)
 cases h with
 | rotate h =>
  rcases h with rfl | rfl
  · exact hb
  · exact (Store.bound_absorb hn.separate k i).mpr hb
 | created h hrun hcur hprev => exact (Store.bound_emplace hcur _ k i).mpr (.inl hb)
 | moved h => exact (Store.bound_promote hn.separate _ _ k i).mpr hb
 | removedJoined h | removedExpired h | removedEvicted h =>
  exact hremoved (by rw[h]; rfl) rfl hopen
 | stopped h hstop => cases hno
 | _ => exact hb

structure Current (s:State K V F) : Prop where
 bound : s.stopped = false → ∀ k i,(s.items i).key = some k → Open s i → s.stored.Bound k i
 stopped : s.stopped = true → s.running = false
 latest : ∀ k i i',(s.items i).key = some k → (s.items i').key = some k → i < i' → ¬ Open s i

lemma stopped_move (h:Move s l s')
  (hs:s.stopped=true→ s.running=false) :
  (s'.stopped=false→ s.stopped=false)∧(s'.stopped=true→ s'.running=false) := by
 cases h with
 | quiet hl hrun hstill hhandlers =>
  refine ⟨fun h=>h,fun hstopped=>?_⟩
  by_contra hrunning
  rcases hrun (Bool.not_eq_false _▸hrunning) with h | h
  · rw[hs hstopped] at h
    cases h
  · rw[show s.stopped=true from hstopped] at h
    cases h
 | stopped h hstop => exact ⟨fun _=>hstop,fun _=>rfl⟩
 | _ => exact ⟨fun h=>h,hs⟩

lemma current_move (hn:Named s) (hr:Roles s)
  (hs:Current s) (h:Move s l s') : Current s' := by
 have hold:∀ {i k},i < s.next→(s'.items i).key=some k→(s.items i).key=some k:=
  fun hi hk=>((account_move hn hr h).items _ hi).key.symm.trans hk
 have hstopped:=stopped_move h hs.stopped
 -- an item that is not old is the one that was just made for its key
 have hnew:∀ {i k},¬ i < s.next→(s'.items i).key=some k →
  i=s.next∧s'.stored.Bound k i∧s.running=true∧∀ x,¬ s.stored.Bound k x:=by
  intro i k hi hk
  have hlt:i < s'.next:=(named_move hn h).lt hk
  rcases next_move h with heq | ⟨heq,c,j,-,hrun,hnone,hkey,hbound⟩
  · omega
  · obtain rfl:i=s.next:=by omega
    obtain rfl:j.key=k:=Option.some.inj (hkey.symm.trans hk)
    exact ⟨rfl,hbound,hrun,hnone⟩
 refine ⟨fun hno k i hk hopen=>?_,hstopped.2,fun k i i' hk hk' hlt hopen=>?_⟩
 · by_cases hi:i < s.next
   · have hbefore:=hs.bound (hstopped.1 hno) k i (hold hi hk) (open_move hn hr h hi hopen)
     exact stored_move hn hr h hno hbefore hopen
   · exact (hnew hi hk).2.1
 · by_cases hi':i' < s.next
   · have hi:i < s.next:=Nat.lt_trans hlt hi'
     exact hs.latest k i i' (hold hi hk) (hold hi' hk') hlt (open_move hn hr h hi hopen)
   · obtain ⟨rfl,-,hrun,hnone⟩:=hnew hi' hk'
     have hno:s.stopped=false:=by
      by_contra hyes
      rw[hs.stopped (Bool.not_eq_false _▸hyes)] at hrun
      cases hrun
     exact hnone i (hs.bound hno k i (hold hlt hk) (open_move hn hr h hlt hopen))

lemma current_initial (config:JoinStorageConfig) (metricsEnabled:Bool) :
  Current (.initial config metricsEnabled : State K V F) :=
 ⟨fun _ _ _ hk=>(by cases hk),fun h=>(by cases h),fun _ _ _ hk=>(by cases hk)⟩

/-- The values of a key go to its items in the order in which the items were made. -/
def Sorted (seen:List (Acceptance K V F)) : Prop :=
 seen.Pairwise fun a b=>a.join.key = b.join.key → a.item ≤ b.item

lemma Current.le_of_open (hs:Current s)
  (hacc:Accepting s seen) (hk:(s.items i).key=some k) (hopen:Open s i)
  {a:Acceptance K V F} (ha:a∈seen) (hkey:a.join.key=k) : a.item≤ i := by
 by_contra hlt
 exact hs.latest k i a.item hk (hkey▸hacc.named a ha) (Nat.not_le.mp hlt) hopen

lemma accepted_move (hn:Named s) (hr:Roles s)
  (h:Move s l s') : accepted s l s'=[]∨∃ a,accepted s l s'=[a] ∧
   (s.items a.item).key=some a.join.key∧(s.items a.item).processed=false := by
 cases h with
 | quiet hl hrun hstill hhandlers => exact .inl (accepted_quiet hl _ _)
 | evaluates h hfree hp | arms deadline h hfree hp =>
  exact .inr ⟨_,accepted_lock _ _ _ _,hn.calls _ _ _ (by rw[h]; rfl),hp⟩
 | moved h =>
  exact .inr ⟨_,accepted_moveToCurrent _ _ _ _,hn.calls _ _ _ (by rw[h]; rfl),
   (hr.held h rfl).2⟩
 | retried h hp | expires h hfree hp hdue | renews deadline h hfree hp =>
  exact .inl (accepted_lock _ _ _ _)
 | _ => exact .inl rfl

lemma sorted_move
  (hn:Named s) (hr:Roles s) (hs:Current s) (hacc:Accepting s seen) (hsorted:Sorted seen)
  (h:Move s l s') : Sorted (seen++accepted s l s') := by
 rcases accepted_move hn hr h with hnone | ⟨b,hone,hkey,hp⟩
 · rw[hnone,append_nil]
   exact hsorted
 · rw[hone]
   refine pairwise_append.mpr ⟨hsorted,pairwise_singleton _ _,fun a ha b' hb' hsame=>?_⟩
   obtain rfl:b'=b:=mem_singleton.mp hb'
   exact hs.le_of_open hacc hkey (.inl hp) ha hsame

lemma filter_not_append_filter {α:Type} (p:α→ Bool) {l:List α}
  (h:l.Pairwise fun a b=>p a=true→ p b=true) :
  l.filter (fun a=>!p a)++l.filter p=l := by
 induction l with
 | nil => rfl
 | cons a l ih =>
  obtain ⟨hafter,hrest⟩:=pairwise_cons.mp h
  cases ha:p a with
  | false => simp[ha,ih hrest]
  | true =>
   have hall:∀ b∈l,p b=true:=fun b hb=>hafter b hb ha
   have hnone:l.filter (fun b=>!p b)=[]:=by
    refine filter_eq_nil_iff.mpr fun b hb=>?_
    simp[hall b hb]
   simp[ha,hnone,filter_eq_self.mpr hall]

lemma acceptances_split (hs:Current s)
  (hacc:Accepting s seen) (hsorted:Sorted seen)
  (hk:(s.items i).key=some k) (hopen:Open s i) :
  ∃ old,seen.filter (fun a=>a.join.key=k)=old++seen.filter (fun a=>a.item=i) ∧
   ∀ a∈old,a.item≠i := by
 have hitem:seen.filter (fun a=>a.item=i) =
  (seen.filter (fun a=>a.join.key=k)).filter (fun a=>a.item=i):=by
  rw[filter_filter]
  refine filter_congr fun a ha=>?_
  by_cases hai:a.item=i
  · have hkey:=hacc.named a ha
    rw[hai,hk] at hkey
    simp[hai,(Option.some.inj hkey).symm]
  · simp[hai]
 have hpairs:(seen.filter (fun a=>a.join.key=k)).Pairwise
  fun a b=>decide (a.item=i)=true→ decide (b.item=i)=true:=by
  refine (hsorted.filter _).imp_of_mem ?_
  intro a b ha hb hle hai
  have hak:a.join.key=k:=of_decide_eq_true (mem_filter.mp ha).2
  have hbk:b.join.key=k:=of_decide_eq_true (mem_filter.mp hb).2
  have hbi:=hs.le_of_open hacc hk hopen (mem_filter.mp hb).1 hbk
  have hab:=hle (hak.trans hbk.symm)
  have hai:=of_decide_eq_true hai
  exact decide_eq_true (by omega)
 refine ⟨_,(filter_not_append_filter _ hpairs).symm.trans (by rw[hitem]),fun a ha=>?_⟩
 simpa using (mem_filter.mp ha).2

structure Armed (s:State K V F) (seen:List (Acceptance K V F)) : Prop where
 taken : ∀ i,(s.items i).deadline.isSome → (s.items i).locked.isSome ∨ ∃ a ∈ seen,a.item = i
 handlers : ∀ e,e ∈ s.posted ∨ e ∈ s.cancellations → (s.items e.item).deadline.isSome
 timers : ∀ i due e,(s.items i).timer = some (due,e) → (s.items e.item).deadline.isSome
 calls : ∀ c e,s.calls c = .expire e → (s.items e.item).deadline.isSome
 ran : ∀ c i,running (s.calls c) = some i → ∃ a ∈ seen,a.item = i

omit [DecidableEq K] in
lemma Armed.edit {new:List (Acceptance K V F)} (hs:Armed s seen)
  (i:ℕ) (item:Item K V F)
  (hitems:s'.items=update s.items i item)
  (hcalls:s'.calls=update s.calls c call)
  (hdeadline:(s.items i).deadline.isSome→ item.deadline.isSome)
  (hlocked:item.deadline.isSome→ item.locked.isSome∨∃ a∈seen++new,a.item=i)
  (hhandlers:∀ e,e∈s'.posted∨e∈s'.cancellations →
   (s.items e.item).deadline.isSome∨e.item=i∧item.deadline.isSome)
  (htimer:∀ due e,item.timer=some (due,e) →
   (s.items e.item).deadline.isSome∨e.item=i∧item.deadline.isSome)
  (hexpire:∀ e,call=.expire e→(s.items e.item).deadline.isSome)
  (hrunning:∀ x,running call=some x→∃ a∈seen++new,a.item=x) :
  Armed s' (seen++new) := by
 have hkeep:∀ x,(s.items x).deadline.isSome→(s'.items x).deadline.isSome:=by
  intro x hx
  rw[hitems,update_apply]
  split
  · next heq => exact hdeadline (heq▸hx)
  · exact hx
 have hafter:∀ x,((s.items x).deadline.isSome∨x=i∧item.deadline.isSome) →
  (s'.items x).deadline.isSome:=by
  rintro x (hx | ⟨rfl,hx⟩)
  · exact hkeep x hx
  · rw[hitems,update_self]
    exact hx
 have hmore:∀ x,(∃ a∈seen,a.item=x)→∃ a∈seen++new,a.item=x:=
  fun x ⟨a,ha,hax⟩=>⟨a,mem_append_left _ ha,hax⟩
 refine ⟨fun x hx=>?_,fun e he=>hafter _ (hhandlers e he),fun x due e hx=>?_,
  fun d e hd=>?_,fun d x hd=>?_⟩
 · rw[hitems,update_apply] at hx ⊢
   split at hx
   · next heq =>
     rw[if_pos heq,heq]
     exact hlocked hx
   · next hne =>
     rw[if_neg hne]
     exact (hs.taken x hx).imp_right (hmore x)
 · rw[hitems,update_apply] at hx
   split at hx
   · exact hafter _ (htimer due e hx)
   · exact hkeep _ (hs.timers x due e hx)
 · rw[hcalls,update_apply] at hd
   split at hd
   · exact hkeep _ (hexpire e hd)
   · exact hkeep _ (hs.calls d e hd)
 · rw[hcalls,update_apply] at hd
   split at hd
   · exact hrunning x hd
   · exact hmore x (hs.ran d x hd)

omit [DecidableEq K] in
lemma Armed.goto {new:List (Acceptance K V F)} (hs:Armed s seen)
  (hitems:s'.items=s.items)
  (hcalls:s'.calls=update s.calls c call)
  (hhandlers:∀ e,e∈s'.posted∨e∈s'.cancellations→ e∈s.posted∨e∈s.cancellations)
  (hexpire:∀ e,call=.expire e→(s.items e.item).deadline.isSome)
  (hrunning:∀ x,running call=some x→ running (s.calls c)=some x) :
  Armed s' (seen++new) := by
 have hmore:∀ x,(∃ a∈seen,a.item=x)→∃ a∈seen++new,a.item=x:=
  fun x ⟨a,ha,hax⟩=>⟨a,mem_append_left _ ha,hax⟩
 refine hs.edit 0 (s.items 0) (hitems.trans (update_eq_self 0 _).symm)
  hcalls (fun h=>h) (fun h=>(hs.taken 0 h).imp_right (hmore 0))
  (fun e he=>.inl (hs.handlers e (hhandlers e he))) (fun due e h=>.inl (hs.timers 0 due e h))
  hexpire (fun x hx=>hmore x (hs.ran c x (hrunning x hx)))

lemma armed_move
  (hn:Named s) (hs:Armed s seen) (h:Move s l s') :
  Armed s' (seen++accepted s l s') := by
 have hmore:∀ {x} {new:List (Acceptance K V F)},(∃ a∈seen,a.item=x) →
  ∃ a∈seen++new,a.item=x :=
  fun ⟨a,ha,hax⟩=>⟨a,mem_append_left _ ha,hax⟩
 have hidle:s.calls=update s.calls 0 (s.calls 0):=
  (update_eq_self 0 s.calls).symm
 -- a call that is in its join callback has accepted its value
 have hcalled:∀ {c i j},s.calls c=.callback j i→∃ a∈seen,a.item=i:=by
  intro c i j hc
  exact hs.ran c i (by rw[hc]; rfl)
 have hlast:∀ {c i j} {new:List (Acceptance K V F)},new=[⟨c,i,j⟩] →
  ∃ a∈seen++new,a.item=i:=by
  rintro c i j new rfl
  exact ⟨_,mem_append_right _ (mem_singleton_self _),rfl⟩
 cases h with
 | quiet hl hrun hstill hhandlers =>
  exact hs.goto rfl hidle hhandlers (fun e he=>hs.calls 0 e he) (fun _ h=>h)
 | rotate h => exact hs.goto rfl hidle (fun _ h=>h) (fun e he=>hs.calls 0 e he) (fun _ h=>h)
 | @timer i due e h =>
  refine hs.edit i _ rfl hidle (fun h=>h) (fun hd=>(hs.taken i hd).imp_right hmore)
   (fun e' he'=>.inl ?_) (fun _ _ h=>(by cases h)) (fun e he=>hs.calls 0 e he)
   (fun x hx=>hmore (hs.ran 0 x hx))
  rcases he' with he' | he'
  · rcases mem_append.mp he' with he' | he'
    · exact hs.handlers e' (.inl he')
    · rw[mem_singleton.mp he']
      exact hs.timers i due e h
  · exact hs.handlers e' (.inr he')
 | refused h | begun h | notRunning e h hrun | found h hrun hi | retried h hp | removedJoined h
 | removedExpired h | removedEvicted h | stale h | stopped h hstop | stoppedAgain h hstop =>
  exact hs.goto rfl rfl (fun _ h=>h) (fun _ he=>by cases he) (fun _ hx=>by cases hx)
 | expire h he =>
  refine hs.goto rfl rfl (fun e' he'=>?_) (fun e' he'=>?_) (fun _ hx=>by cases hx)
  · rcases he' with he' | he'
    · exact .inl (mem_of_mem_eraseIdx he')
    · exact .inr he'
  · cases he'
    exact hs.handlers _ (.inl (mem_of_getElem? he))
 | created h hrun hcur hprev =>
  have hfresh:(s.items s.next).deadline.isSome→ False:=by
   rw[hn.fresh s.next (Nat.le_refl _)]
   intro hd
   cases hd
  exact hs.edit s.next _ rfl rfl (fun hd=>(hfresh hd).elim) (fun hd=>by cases hd)
   (fun e he=>.inl (hs.handlers e he)) (fun _ _ ht=>by cases ht) (fun _ he=>by cases he)
   (fun _ hx=>by cases hx)
 | @expires c j i created h hfree hp hdue =>
  have hsome:(s.items i).deadline.isSome:=by
   unfold Item.expired at hdue
   cases hd:(s.items i).deadline with
   | none => rw[hd] at hdue; cases hdue
   | some deadline => rfl
  have htaken:∃ a∈seen,a.item=i:=by
   rcases hs.taken i hsome with hlock | htaken
   · rw[hfree] at hlock
     cases hlock
   · exact htaken
  refine hs.edit i _ rfl rfl (fun h=>h) (fun _=>.inr (hmore htaken))
   (fun e he=>.inl (hs.handlers e he)) (fun due e ht=>.inl (hs.timers i due e ht))
   (fun _ he=>by cases he) (fun x hx=>?_)
  cases hx
  exact hmore htaken
 | @evicts c e h hfree hp =>
  have htaken:∃ a∈seen,a.item=e.item:=by
   rcases hs.taken e.item (hs.calls c e h) with hlock | htaken
   · rw[hfree] at hlock
     cases hlock
   · exact htaken
  refine hs.edit e.item _ rfl rfl (fun h=>h) (fun _=>.inr (hmore htaken))
   (fun e he=>.inl (hs.handlers e he)) (fun due e ht=>.inl (hs.timers _ due e ht))
   (fun _ he=>by cases he) (fun x hx=>?_)
  cases hx
  exact hmore htaken
 | @evaluates c j i created h hfree hp =>
  refine hs.edit i _ rfl rfl (fun h=>h) (fun _=>.inl rfl)
   (fun e he=>.inl (hs.handlers e he)) (fun due e ht=>.inl (hs.timers i due e ht))
   (fun _ he=>by cases he) (fun x hx=>?_)
  cases hx
  exact hlast (accepted_lock _ _ _ _)
 | @arms c j i created deadline h hfree hp =>
  refine hs.edit i _ rfl rfl (fun _=>rfl) (fun _=>.inl rfl) (fun e he=>?_)
   (fun due e ht=>.inr ?_) (fun _ he=>by cases he) (fun x hx=>?_)
  · rcases mem_addCancellations (s:=s) (j := j) (i := i) he with he | ⟨-,he⟩
    · exact .inl (hs.handlers e he)
    · exact .inr ⟨he,rfl⟩
  · cases ht
    exact ⟨rfl,rfl⟩
  · cases hx
    exact hlast (accepted_lock _ _ _ _)
 | @renews c j i created deadline h hfree hp =>
  refine hs.edit i _ rfl rfl (fun _=>rfl) (fun _=>.inl rfl) (fun e he=>?_)
   (fun due e ht=>.inr ?_) (fun _ he=>by cases he) (fun x hx=>by cases hx)
  · rcases mem_addCancellations (s:=s) (j := j) (i := i) he with he | ⟨-,he⟩
    · exact .inl (hs.handlers e he)
    · exact .inr ⟨he,rfl⟩
  · cases ht
    exact ⟨rfl,rfl⟩
 | @moved c j i h =>
  refine hs.edit i _ rfl rfl (fun h=>h) (fun _=>.inl rfl)
   (fun e he=>.inl (hs.handlers e he)) (fun due e ht=>.inl (hs.timers i due e ht))
   (fun _ he=>by cases he) (fun x hx=>?_)
  cases hx
  exact hlast (accepted_moveToCurrent _ _ _ _)
 | @joined c j i values h =>
  exact hs.edit i _ rfl rfl (fun h=>h) (fun _=>.inr (hmore (hcalled h)))
   (fun e he=>.inl (hs.handlers e he)) (fun _ _ ht=>by cases ht) (fun _ he=>by cases he)
   (fun _ hx=>by cases hx)
 | @kept c j i values h | @threw c j i values h =>
  exact hs.edit i _ rfl rfl (fun h=>h) (fun _=>.inr (hmore (hcalled h)))
   (fun e he=>.inl (hs.handlers e he)) (fun due e ht=>.inl (hs.timers i due e ht))
   (fun _ he=>by cases he) (fun _ hx=>by cases hx)
 | @expiryReturned c j i result values h | @expiryThrew c j i values h =>
  exact hs.edit i _ rfl rfl (fun h=>h) (fun hd=>(hs.taken i hd).imp_right hmore)
   (fun e he=>.inl (hs.handlers e he)) (fun due e ht=>.inl (hs.timers i due e ht))
   (fun _ he=>by cases he) (fun _ hx=>by cases hx)
 | @expireReturned c e outcome h =>
  exact hs.edit e.item _ rfl rfl (fun h=>h) (fun hd=>(hs.taken e.item hd).imp_right hmore)
   (fun e he=>.inl (hs.handlers e he)) (fun due e' ht=>.inl (hs.timers e.item due e' ht))
   (fun _ he=>by cases he) (fun _ hx=>by cases hx)
 | @marked c items i h hi hfree =>
  exact hs.edit i _ rfl rfl (fun h=>h) (fun hd=>(hs.taken i hd).imp_right hmore)
   (fun e he=>.inl (hs.handlers e he)) (fun _ _ ht=>by cases ht) (fun _ he=>by cases he)
   (fun _ hx=>by cases hx)

omit [DecidableEq K] in
lemma armed_initial (config:JoinStorageConfig) (metricsEnabled:Bool) :
  Armed (.initial config metricsEnabled : State K V F) [] := by
 refine ⟨fun _ h=>(by cases h),fun _ h=>?_,fun _ _ _ h=>(by cases h),
  fun _ _ h=>(by cases h),fun _ _ h=>(by cases h)⟩
 rcases h with h | h <;> cases h

end ServiceLib.JoinStorageCurrent
