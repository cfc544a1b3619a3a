import ServiceLib.DelayPoolFlow

set_option autoImplicit false
attribute [-instance] instBooleanRingBool

/-!
# The timer of the delay pool

Every generation has at most one wait, and `armNext` leaves the current one armed for the head of
the queue.
-/
namespace ServiceLib.DelayPool
open State List Loop Tokens Function Option

structure Waits (s:State) : Prop where
 armed : ∀ k,s.armedAt = some k → (s.generation,k) ∈ s.waits
 nodup : (s.waits.map Prod.fst).Nodup
 old : ∀ wait ∈ s.waits,wait.1 ≤ s.generation
 current : ∀ wait ∈ s.waits,wait.1 = s.generation → s.armedAt = some wait.2

def Armed (s:State) : Prop :=
 s.armedAt = s.timers.head?.map Prod.fst

variable {s:State} {wait:ℕ × ℤ} {t:ℕ}

lemma Waits.keep {s':State} (h:Waits s) (armedAt:s'.armedAt=s.armedAt)
  (generation:s'.generation=s.generation) (waits:s'.waits=s.waits) : Waits s' := by
 refine ⟨?_,?_,?_,?_⟩
 · rw[armedAt,generation,waits]
   exact h.armed
 · rw[waits]
   exact h.nodup
 · rw[generation,waits]
   exact h.old
 · rw[armedAt,generation,waits]
   exact h.current

lemma Waits.rearm (h:Waits s) (next:Option ℤ) : Waits { s with
  generation := s.generation+1
  armedAt := next
  waits := s.waits++(next.map fun k=>(s.generation+1,k)).toList } := by
 have hmem:∀ wait,wait∈s.waits++(next.map fun k=>(s.generation+1,k)).toList ↔
  wait∈s.waits∨next=some wait.2∧wait.1=s.generation+1:=by
  rintro ⟨generation,k⟩
  cases next with
  | none => simp
  | some k' =>
   simp only[map_some,toList_some,mem_append,mem_singleton,Prod.mk.injEq,
    Option.some.injEq]
   exact or_congr_right ⟨fun h=>⟨h.2.symm,h.1⟩,fun h=>⟨h.2,h.1.symm⟩⟩
 refine ⟨fun k hk=>(hmem _).mpr (.inr ⟨hk,rfl⟩),?_,fun wait hw=>?_,fun wait hw heq=>?_⟩
 · cases next with
   | none => simpa using h.nodup
   | some k =>
    simp only[map_some,toList_some,map_append,map_singleton]
    refine nodup_append.mpr ⟨h.nodup,nodup_singleton _,?_⟩
    intro generation hgeneration other hother heq
    obtain ⟨wait,hwait,rfl⟩:=mem_map.mp hgeneration
    have:=h.old wait hwait
    rw[mem_singleton.mp hother] at heq
    omega
 · rcases (hmem wait).mp hw with hw | hw
   · exact Nat.le_succ_of_le (h.old wait hw)
   · exact hw.2.le
 · rcases (hmem wait).mp hw with hw | hw
   · have hle:=h.old wait hw
     have heq:wait.1=s.generation+1:=heq
     omega
   · exact hw.1

lemma Waits.armNext (h:Waits s) : Waits s.armNext∧Armed s.armNext := by
 unfold State.armNext
 split
 · next heq => exact ⟨h,heq.symm⟩
 · have hrearm:=h.rearm (s.timers.head?.map Prod.fst)
   rw[Option.map_map] at hrearm
   exact ⟨hrearm,rfl⟩

lemma Waits.stale (h:Waits s) (hold:wait.1≠s.generation) :
  Waits { s with waits := s.waits.erase wait } := by
 grind[Waits]

lemma Waits.fired (h:Waits s) (hw:wait∈s.waits)
  (hcurrent:wait.1=s.generation) :
  s.armedAt=some wait.2∧Waits { s with waits := s.waits.erase wait,armedAt := none } := by
 have harmed:=h.current wait hw hcurrent
 refine ⟨harmed,fun k hk=>?_,h.nodup.sublist (erase_sublist.map _),
  fun other hother=>h.old other (mem_of_mem_erase hother),fun other hother heq=>?_⟩
 · cases hk
 have hmem:=mem_of_mem_erase hother
 have hsame:other=wait:=by
  have hother':=h.current other hmem heq
  rw[harmed] at hother'
  exact Prod.ext (heq.trans hcurrent.symm) (some.inj hother').symm
 rw[hsame] at hother
 exact absurd hother (h.nodup.of_map.not_mem_erase)

structure Listed (s:State) : Prop where
 queued : ∀ t,(s.tasks t).queued = true ↔ t ∈ s.timers.map Prod.snd
 nodup : (s.timers.map Prod.snd).Nodup
 sorted : s.timers.Pairwise fun a b=>a.1 ≤ b.1

lemma pairwise_orderedInsert (entry:ℤ×ℕ) {timers:List (ℤ×ℕ)}
  (h:timers.Pairwise fun a b=>a.1≤b.1) :
  (timers.orderedInsert (fun a b=>a.1 < b.1) entry).Pairwise fun a b=>a.1≤b.1 := by
 induction timers with
 | nil => exact pairwise_singleton _ _
 | cons other rest ih =>
  obtain ⟨hother,hrest⟩:=pairwise_cons.mp h
  rw[List.orderedInsert]
  split
  · next hlt =>
    refine pairwise_cons.mpr ⟨fun b hb=>?_,h⟩
    rcases mem_cons.mp hb with rfl | hb
    · exact hlt.le
    · exact hlt.le.trans (hother b hb)
  · next hle =>
    refine pairwise_cons.mpr ⟨fun b hb=>?_,ih hrest⟩
    rcases mem_cons.mp ((perm_orderedInsert _ _ _).mem_iff.mp hb) with rfl | hb
    · exact not_lt.mp hle
    · exact hother b hb

section Listed
variable {s s':State}

lemma Listed.keep (h:Listed s) (timers:s'.timers=s.timers)
  (queued:∀ t,(s'.tasks t).queued=(s.tasks t).queued) : Listed s' := by
 refine ⟨fun t=>?_,?_,?_⟩
 · rw[queued,timers]
   exact h.queued t
 · rw[timers]
   exact h.nodup
 · rw[timers]
   exact h.sorted

lemma queued_update {task:Task} (h:s'.tasks=update s.tasks t task)
  (hq:task.queued=(s.tasks t).queued) (u:ℕ) : (s'.tasks u).queued=(s.tasks u).queued := by
 rw[h,update_apply]
 split
 · next heq => rw[hq,heq]
 · rfl

lemma Listed.dispatch (h:Listed s) (t:ℕ) (expedited:Bool) : Listed (s.dispatch t expedited) :=
 h.keep rfl (queued_update rfl rfl)

lemma Listed.armNext (h:Listed s) : Listed s.armNext := by
 obtain ⟨generation,armedAt,waits,heq⟩:=armNext_eq s
 rw[heq]
 exact h.keep rfl fun _=>rfl

lemma Listed.insert (h:Listed s) (ht:t∉s.timers.map Prod.snd) (now:ℤ) :
  Listed (s.insert t now) := by
 unfold State.insert
 split
 · exact h.dispatch t _
 · refine Listed.armNext ?_
   have hperm:=(perm_orderedInsert (fun a b:ℤ×ℕ=>a.1 < b.1) ((s.tasks t).runAt,t) s.timers).map
    Prod.snd
   rw[map_cons] at hperm
   refine ⟨fun u=>?_,hperm.nodup_iff.mpr (nodup_cons.mpr ⟨ht,h.nodup⟩),
    pairwise_orderedInsert _ h.sorted⟩
   change (update s.tasks t _ u).queued=true↔u∈(List.orderedInsert _ _ _).map Prod.snd
   rw[hperm.mem_iff,mem_cons,update_apply]
   split
   · next heq => simp[heq]
   · next hne => simp[hne,h.queued u]

lemma Listed.cancelQueued (h:Listed s) (t:ℕ) : Listed (s.cancelQueued t) := by
 unfold State.cancelQueued
 split
 · next hq =>
   refine Listed.armNext (Listed.dispatch ?_ t true)
   have hperm:=perm_eraseP_task ((h.queued t).mp hq)
   have hnodup:=nodup_cons.mp (hperm.nodup_iff.mp h.nodup)
   refine ⟨fun u=>?_,hnodup.2,h.sorted.sublist eraseP_sublist⟩
   change (update s.tasks t _ u).queued=true↔u∈(s.timers.eraseP _).map Prod.snd
   rw[update_apply]
   split
   · next heq => simpa[heq] using hnodup.1
   · next hne => rw[h.queued u,hperm.mem_iff,mem_cons,or_iff_right hne]
 · exact h

lemma Listed.fireFront (h:Listed s) : Listed s.fireFront := by
 unfold State.fireFront
 split
 · exact h
 next entry rest htimers =>
 refine Listed.dispatch ?_ entry.2 _
 have hnodup:=h.nodup
 have hsorted:=h.sorted
 rw[htimers,map_cons,nodup_cons] at hnodup
 rw[htimers] at hsorted
 refine ⟨fun u=>?_,hnodup.2,(pairwise_cons.mp hsorted).2⟩
 change (update s.tasks entry.2 _ u).queued=true↔u∈rest.map Prod.snd
 rw[update_apply]
 split
 · next heq => simpa[heq] using hnodup.1
 · next hne => rw[h.queued u,htimers,map_cons,mem_cons,or_iff_right hne]

lemma Listed.fire (h:Listed s) (now:ℤ) : Listed (s.fire now) := by
 have hstart:Listed { s with armedAt:=none } := h.keep rfl fun _=>rfl
 exact (loop_invariant (fun _ hu _=>hu.fireFront) 64 hstart).armNext

end Listed

section Step
variable {s s':State} {l:Label}

lemma listed_of_move (h:Listed s) (hnext:s.next∉s.timers.map Prod.snd)
  (hinsert:∀ t,.insert t∈s.pending→ t∉s.timers.map Prod.snd) (hmove:Move s l s') : Listed s' := by
 cases hmove with
 | unchanged | started | stopped | stale => exact h.keep rfl fun _=>rfl
 | reserved | accepted | skipped | finished | resignalled | signalled | sent | stopReturned =>
  exact h.keep rfl fun _=>rfl
 | refused | failed | cancelled | invoked => exact h.keep rfl (queued_update rfl rfl)
 | entered task hqueued =>
  have hold:(s.tasks s.next).queued=false:=by
   by_contra hq
   exact hnext ((h.queued _).mp (by simpa using hq))
  exact h.keep rfl (queued_update rfl (hqueued.trans hold.symm))
 | @inserted t now ht =>
  have hbase:Listed (s.exchange (.insert t) []):=h.keep rfl fun _=>rfl
  exact hbase.insert (hinsert t ht) now
 | @expedited t ht =>
  have hbase:Listed (s.exchange (.cancel t) []):=h.keep rfl fun _=>rfl
  exact hbase.cancelQueued t
 | @fired wait now hw =>
  have hbase:Listed { s with waits:=s.waits.erase wait } := h.keep rfl fun _=>rfl
  exact hbase.fire now

lemma armed_of_move (h:Waits s∧Armed s) (hmove:Move s l s') : Waits s'∧Armed s' := by
 cases hmove with
 | unchanged | started | stopped | reserved | accepted | skipped | finished | resignalled | signalled | sent
  | stopReturned | refused | failed | cancelled | invoked | entered =>
  exact ⟨h.1.keep rfl rfl rfl,h.2⟩
 | inserted now ht =>
  unfold State.insert
  split
  · exact ⟨h.1.keep rfl rfl rfl,h.2⟩
  · exact Waits.armNext (h.1.keep rfl rfl rfl)
 | expedited ht =>
  unfold State.cancelQueued
  split
  · exact Waits.armNext (h.1.keep rfl rfl rfl)
  · exact ⟨h.1.keep rfl rfl rfl,h.2⟩
 | stale aborted now hw hold => exact ⟨h.1.stale hold,h.2⟩
 | @fired wait now hw hcurrent =>
  obtain ⟨-,hwaits⟩:=h.1.fired hw hcurrent
  obtain ⟨n,u,-,-,hfiring,heq⟩:=firing_fire { s with waits := s.waits.erase wait } now
  rw[heq]
  obtain ⟨tasks,htimers,hlength⟩:=hfiring
  exact Waits.armNext (hwaits.keep rfl rfl rfl)

lemma timerDue_of_wait {now:ℤ} (h:Waits s∧Armed s) (hw:wait∈s.waits)
  (hcurrent:wait.1=s.generation) (hnow:wait.2≤now) : s.timerDue now=true := by
 have harmed:=h.2
 unfold Armed at harmed
 rw[h.1.current wait hw hcurrent] at harmed
 unfold timerDue
 cases hhead:s.timers.head? with
 | none =>
  rw[hhead] at harmed
  cases harmed
 | some entry =>
  rw[hhead] at harmed
  have hkey:wait.2=entry.1:=some.inj harmed
  simpa[← hkey] using hnow

def SameField {α:Type} (field:Task → α) (s s':State) : Prop :=
 ∀ t,field (s'.tasks t) = field (s.tasks t)

section Field
variable {α:Type} {field:Task → α}

lemma SameField.trans {u:State} (h:SameField field s u) (h':SameField field u s') : SameField field s s' :=
 fun t=>(h' t).trans (h t)

lemma sameField_update {task:Task} (h:s'.tasks=update s.tasks t task)
  (hf:field task=field (s.tasks t)) : SameField field s s' := by
 intro u
 rw[h,update_apply]
 split
 · next heq => rw[hf,heq]
 · rfl

lemma sameField_armNext (s:State) : SameField field s s.armNext := by
 obtain ⟨generation,armedAt,waits,heq⟩:=armNext_eq s
 rw[heq]
 exact fun _=>rfl

variable (hfield:∀ (task:Task) (queued expedited:Bool),
  field { task with queued := queued,expedited := expedited } = field task)
include hfield

lemma sameField_dispatch (s:State) (t:ℕ) (expedited:Bool) : SameField field s (s.dispatch t expedited) :=
 sameField_update rfl (hfield _ _ _)

lemma sameField_insert (s:State) (t:ℕ) (now:ℤ) : SameField field s (s.insert t now) := by
 unfold State.insert
 split
 · exact sameField_dispatch hfield s t _
 · refine SameField.trans ?_ (sameField_armNext _)
   exact sameField_update rfl (hfield _ _ _)

lemma sameField_cancelQueued (s:State) (t:ℕ) : SameField field s (s.cancelQueued t) := by
 unfold State.cancelQueued
 split
 · refine SameField.trans ?_ (sameField_armNext _)
   refine SameField.trans ?_ (sameField_dispatch hfield _ t true)
   exact sameField_update rfl (hfield _ _ _)
 · exact fun _=>rfl

lemma sameField_fireFront (s:State) : SameField field s s.fireFront := by
 unfold State.fireFront
 split
 · exact fun _=>rfl
 · refine SameField.trans ?_ (sameField_dispatch hfield _ _ _)
   exact sameField_update rfl (hfield _ _ _)

lemma sameField_fire (s:State) (now:ℤ) : SameField field s (s.fire now) := by
 have hloop:SameField field s (loop (timerDue now) State.fireFront 64 { s with armedAt:=none }) :=
  loop_invariant (I := SameField field s) (fun u hu _=>hu.trans (sameField_fireFront hfield u)) 64 fun _=>rfl
 exact hloop.trans (sameField_armNext _)

end Field

lemma claimed_of_move (hmove:Move s l s') (ht:(s'.tasks t).claimed=true) :
  (s.tasks t).claimed=true∨l=.invoke t := by
 have hsame:SameField Task.claimed s s'→(s.tasks t).claimed=true:=fun h=>(h t).symm.trans ht
 cases hmove with
 | unchanged | started | stopped | stale | reserved | accepted | skipped | finished | resignalled | signalled
  | sent | stopReturned => exact .inl ht
 | refused | failed | cancelled => exact .inl (hsame (sameField_update rfl rfl))
 | entered task hqueued hclaimed =>
  simp only[setTask,update_apply] at ht
  split at ht
  · rw[hclaimed] at ht
    cases ht
  · exact .inl ht
 | inserted now hh => exact .inl (hsame (sameField_insert (fun _ _ _=>rfl) _ _ now))
 | expedited hh => exact .inl (hsame (sameField_cancelQueued (fun _ _ _=>rfl) _ _))
 | fired now hw => exact .inl (hsame (sameField_fire (fun _ _ _=>rfl) _ now))
 | @invoked u hh =>
  by_cases heq:t=u
  · exact .inr (heq▸rfl)
  · simp only[setTask,update_of_ne heq] at ht
    exact .inl ht

end Step

end ServiceLib.DelayPool
