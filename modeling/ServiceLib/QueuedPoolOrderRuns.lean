import ServiceLib.QueuedPoolOrder

set_option autoImplicit false
attribute [-instance] instBooleanRingBool

/-!
# The order of the tasks along the runs of a queued pool
-/
namespace ServiceLib.QueuedPool
open State List Tokens Transition Loop Function Option

structure Kept (s s':State) : Prop where
 priority : ∀ t,(s'.tasks t).priority = (s.tasks t).priority
 promoted : ∀ t,(s.tasks t).promoted = true → (s'.tasks t).promoted = true

section Kept
variable {byPriority:Bool} {s s' u:State}

lemma SameView.kept (h:SameView s s') : Kept s s' :=
 ⟨h.priority,fun t ht=>(h.promoted t).trans ht⟩

lemma Kept.trans (h:Kept s u) (h':Kept u s') : Kept s s' :=
 ⟨fun t=>(h'.priority t).trans (h.priority t),fun t ht=>h'.promoted t (h.promoted t ht)⟩

lemma kept_update {t:ℕ} {task:Task} (h:s'.tasks=update s.tasks t task)
  (priority:task.priority=(s.tasks t).priority)
  (promoted:(s.tasks t).promoted=true→ task.promoted=true) : Kept s s' := by
 refine ⟨fun v=>?_,fun v hv=>?_⟩
 · rw[h,update_apply]
   split
   · next heq => rw[priority,heq]
   · rfl
 · rw[h,update_apply]
   split
   · next heq => exact promoted (heq▸hv)
   · exact hv

lemma kept_enqueue (s:State) (t:ℕ) : Kept s (s.enqueue byPriority t) := by
 unfold enqueue
 split
 · exact kept_update rfl rfl id
 · exact kept_update rfl rfl id

lemma kept_promote (s:State) (t:ℕ) : Kept s (s.promote byPriority t) := by
 unfold promote
 split
 · exact ⟨fun _=>rfl,fun _=>id⟩
 split
 · exact ⟨fun _=>rfl,fun _=>id⟩
 · refine Kept.trans ?_ (sameView_removeDeadline _ _).kept
   exact kept_update rfl rfl fun _=>rfl

lemma kept_watch (s:State) (t:ℕ) (now:ℤ) : Kept s (s.watch byPriority t now) := by
 unfold watch
 split
 · exact kept_promote s t
 split
 · exact ⟨fun _=>rfl,fun _=>id⟩
 split
 · exact kept_promote s t
 · exact (sameView_index s _ t (some t)).kept

lemma kept_expireFront (s:State) : Kept s (s.expireFront byPriority) := by
 unfold expireFront
 split
 · exact ⟨fun _=>rfl,fun _=>id⟩
 next entry rest _ =>
 exact (sameView_index s rest entry.2 none).kept.trans (kept_promote _ _)

lemma kept_expire (s:State) (now:ℤ) (fuel:ℕ) :
  Kept s (loop (deadlineDue now) (expireFront byPriority) fuel s) :=
 loop_invariant (I := Kept s) (fun u hu _=>hu.trans (kept_expireFront u)) fuel
  ⟨fun _=>rfl,fun _=>id⟩

lemma promoted_dispatchFront (s:State) (t:ℕ) :
  (s.dispatchFront.tasks t).promoted=(s.tasks t).promoted ∧
   (s.dispatchFront.tasks t).priority=(s.tasks t).priority := by
 unfold dispatchFront
 split
 · exact ⟨rfl,rfl⟩
 next node rest _ =>
 have hview:=sameView_removeDeadline ({ s with
  queue := rest
  busy := s.busy+1
  spawned := s.spawned++[node.task] }.setTask node.task { s.tasks node.task with position := none }) node.task
 rw[hview.promoted,hview.priority]
 by_cases heq:t=node.task
 · simp[setTask,heq]
 · simp only[setTask,update_of_ne heq,and_self]

lemma promoted_dispatch (s:State) (t:ℕ) : (s.dispatch.tasks t).promoted=(s.tasks t).promoted ∧
  (s.dispatch.tasks t).priority=(s.tasks t).priority := by
 have hloop:let u:=loop canDispatch dispatchFront s.queue.length s
  (u.tasks t).promoted=(s.tasks t).promoted∧(u.tasks t).priority=(s.tasks t).priority :=
  loop_invariant
   (I := fun u : State=>(u.tasks t).promoted=(s.tasks t).promoted∧(u.tasks t).priority=(s.tasks t).priority)
   (fun u hu _=>⟨(promoted_dispatchFront u t).1.trans hu.1,(promoted_dispatchFront u t).2.trans hu.2⟩)
   s.queue.length ⟨rfl,rfl⟩
 have hview:=(sameView_armDeadline (loop canDispatch dispatchFront s.queue.length s)).trans
  (sameView_checkDrain _)
 exact ⟨(hview.promoted t).trans hloop.1,(hview.priority t).trans hloop.2⟩

end Kept

inductive Prepared (byPriority:Bool) (s:State) : Label → State → Prop
 | same {l:Label} {core:State} (hl:l.inserted = []) (hview:SameView s core) :
  Prepared byPriority s l core
 | inserted {base:State} (t:ℕ) (moment:Moment) (hh:.insert t ∈ s.posted) (hview:SameView s base) :
  Prepared byPriority s (.strand (.insert t) moment)
   ((base.enqueue byPriority t).watch byPriority t moment.now)
 | promoted {l:Label} {base:State} (t:ℕ) (hl:l.inserted = []) (hview:SameView s base) :
  Prepared byPriority s l (base.promote byPriority t)
 | expired {l:Label} {base:State} (now:ℤ) (fuel:ℕ) (hl:l.inserted = []) (hview:SameView s base) :
  Prepared byPriority s l (loop (deadlineDue now) (expireFront byPriority) fuel base)

inductive Course (byPriority:Bool) (s:State) : Label → State → Prop
 | still {l:Label} {s':State} (hl:l.inserted = []) (hview:SameView s s')
  (hspawned:s'.spawned.length ≤ s.spawned.length) : Course byPriority s l s'
 | entered (context:Context) (priority:ℤ) :
  Course byPriority s (.addTask false context priority) (s.addTask context priority)
 | dispatched {l:Label} {core s':State} (hcore:Prepared byPriority s l core)
  (hspawned:core.spawned = s.spawned) (hview:SameView core.dispatch s')
  (hsame:s'.spawned = core.dispatch.spawned) : Course byPriority s l s'

section Course
variable {byPriority:Bool} {hardware:ℕ} {s s':State}

lemma SameView.refl (s:State) : SameView s s :=
 ⟨rfl,rfl,fun _=>rfl,fun _=>rfl,fun _=>rfl⟩

lemma State.Rearranged.spawned {core:State} (h:Rearranged byPriority s core) : core.spawned=s.spawned := by
 cases h
 rfl

lemma course_dispatch {l:Label} {core:State} (hcore:Prepared byPriority s l core)
  (hspawned:core.spawned=s.spawned) : Course byPriority s l core.dispatch :=
 .dispatched hcore hspawned (.refl _) rfl

/-- The steps for which `Move` does not tell what becomes of the tasks. -/
def Label.Reorders : Label → Prop
 | .cancel _ | .strand (.insert _) _ | .strand (.promote _) _ | .deadlineTimer _ false _ => True
 | _ => False

lemma course_of_move {l:Label} (h:Move byPriority s l s') (hl:¬ l.Reorders) :
  Course byPriority s l s' := by
 have hinserted:l.inserted=[]:=by
  unfold Label.inserted
  split
  · exact absurd trivial hl
  · rfl
 cases h with
 | entered context priority => exact .entered context priority
 | unchanged => exact .still hinserted (.refl _) (Nat.le_refl _)
 | refused | failed => exact .still rfl (sameView_update rfl rfl rfl rfl rfl rfl) (Nat.le_refl _)
 | invoked => exact .still rfl (sameView_update rfl rfl rfl rfl rfl rfl) erase_sublist.length_le
 | reserved | accepted | rechecked | opened | stored | launched | closed | joined | stopPosted | stopReturned
  | startedLate | managerStopped | finished =>
  exact .still rfl ⟨rfl,rfl,fun _=>rfl,fun _=>rfl,fun _=>rfl⟩ (Nat.le_refl _)
 | waited | released =>
  exact .still hinserted ⟨rfl,rfl,fun _=>rfl,fun _=>rfl,fun _=>rfl⟩ (Nat.le_refl _)
 | checked =>
  have hbase:SameView s { s with posted:=s.posted.erase .checkDrain } :=
   ⟨rfl,rfl,fun _=>rfl,fun _=>rfl,fun _=>rfl⟩
  refine .still rfl (hbase.trans (sameView_checkDrain _)) ?_
  obtain ⟨completed,drained,heq⟩:=checkDrain_eq { s with posted := s.posted.erase .checkDrain }
  rw[heq]
 | started | stopped | completed =>
  exact course_dispatch (.same rfl ⟨rfl,rfl,fun _=>rfl,fun _=>rfl,fun _=>rfl⟩) rfl
 | @resized target waits config htarget =>
  have hcore:SameView s { s with managerWaits:=waits,target := target } :=
   ⟨rfl,rfl,fun _=>rfl,fun _=>rfl,fun _=>rfl⟩
  exact .dispatched (.same rfl hcore) rfl ⟨rfl,rfl,fun _=>rfl,fun _=>rfl,fun _=>rfl⟩ rfl
 | cancelled | inserted | promoted | promotedLate | expired => exact absurd trivial hl

lemma course_of_step {l:Label} (h:step byPriority hardware s l=some s') :
  Course byPriority s l s' := by
 by_cases hl:l.Reorders
 · cases l with
   | cancel t =>
    simp only[step] at h
    split at h
    · cases h
    obtain rfl:=some.inj h
    unfold State.cancel
    split
    · exact .still rfl (.refl _) (Nat.le_refl _)
    · exact .still rfl (sameView_update rfl rfl rfl rfl rfl rfl) (Nat.le_refl _)
   | strand handler moment =>
    simp only[step] at h
    split at h
    · next hh =>
      obtain rfl:=some.inj h
      have hbase:SameView s { s with posted:=s.posted.erase handler } :=
       ⟨rfl,rfl,fun _=>rfl,fun _=>rfl,fun _=>rfl⟩
      cases handler with
      | insert t =>
       refine course_dispatch (.inserted t moment hh hbase) ?_
       rw[Rearranged.spawned (rearranged_watch _ _ _)]
       obtain ⟨queue,tasks,sequence,heq⟩:=
        enqueue_eq byPriority { s with posted := s.posted.erase (.insert t) } t
       rw[heq]
      | promote t =>
       change Course byPriority s _ (if (s.tasks t).position.isSome=true then _ else _)
       split
       · refine course_dispatch (.promoted t rfl hbase) ?_
         rw[Rearranged.spawned (rearranged_promote _ t)]
       · exact .still rfl hbase (Nat.le_refl _)
      | _ => exact hl.elim
    · cases h
   | deadlineTimer wait error now =>
    simp only[step] at h
    split at h
    · split at h
      · obtain rfl:=some.inj h
        exact .still rfl ⟨rfl,rfl,fun _=>rfl,fun _=>rfl,fun _=>rfl⟩ (Nat.le_refl _)
      · obtain rfl:=some.inj h
        have hbase:SameView s { s with deadlineWaits:=s.deadlineWaits.erase wait,armedAt := none } :=
         ⟨rfl,rfl,fun _=>rfl,fun _=>rfl,fun _=>rfl⟩
        refine course_dispatch (.expired now _ rfl hbase) ?_
        rw[Rearranged.spawned (rearranged_expire _ now _)]
    · cases h
   | _ => exact hl.elim
 · exact course_of_move (move_of_step h) hl

end Course

section Prepared
variable {byPriority:Bool} {order:List ℕ} {s s' core:State} {l:Label}

lemma Prepared.kept (h:Prepared byPriority s l core) : Kept s core := by
 cases h with
 | same hl hview => exact hview.kept
 | inserted t moment hh hview => exact (hview.kept.trans (kept_enqueue _ t)).trans (kept_watch _ t _)
 | promoted t hl hview => exact hview.kept.trans (kept_promote _ t)
 | expired now fuel hl hview => exact hview.kept.trans (kept_expire _ now fuel)

lemma Prepared.arranged (h:Prepared byPriority s l core) (hs:Arranged byPriority order s)
  (hnew:∀ t∈l.inserted,t∉order) : Arranged byPriority (order++l.inserted) core := by
 cases h with
 | same hl hview =>
  rw[hl,append_nil]
  exact hs.view hview
 | inserted t moment hh hview =>
  exact ((hs.view hview).enqueue (hnew t (mem_singleton_self t))).watch t _
 | promoted t hl hview =>
  rw[hl,append_nil]
  exact (hs.view hview).promote t
 | expired now fuel hl hview =>
  rw[hl,append_nil]
  exact loop_invariant (fun _ hu _=>hu.expireFront) fuel (hs.view hview)

lemma queued_eq (s:State) : s.queued=(tickets s.queue).map Prod.snd := by
 simp[State.queued,tickets]

lemma SameView.ordered (h:SameView s s') (hs:s.Ordered byPriority) : s'.Ordered byPriority := by
 unfold State.Ordered
 rw[h.queue,h.nextSequence]
 exact hs

lemma SameView.queued (h:SameView s s') : s'.queued=s.queued :=
 congrArg (List.map Node.task) h.queue

lemma queued_rearranged (h:Rearranged byPriority s core) (hs:s.Ordered byPriority) :
  core.queued ~ s.queued := by
 rw[queued_eq,queued_eq]
 obtain ⟨h⟩:=h
 exact (h hs).map Prod.snd

lemma Prepared.queued (h:Prepared byPriority s l core) (hs:s.Ordered byPriority) :
  core.queued ~ s.queued++l.inserted := by
 cases h with
 | same hl hview =>
  rw[hl,append_nil,hview.queued]
 | @inserted base t moment hh hview =>
  have hbase:=hview.ordered hs
  obtain ⟨sequence,hperm⟩:=tickets_enqueue hbase t
  have henqueue:(base.enqueue byPriority t).queued ~ t::s.queued:=by
   rw[queued_eq,← hview.queued,queued_eq base]
   exact hperm.map Prod.snd
  exact ((queued_rearranged (rearranged_watch _ t _) (ordered_enqueue hbase t)).trans henqueue).trans
   (perm_append_singleton t s.queued).symm
 | promoted t hl hview =>
  rw[hl,append_nil,← hview.queued]
  exact queued_rearranged (rearranged_promote _ t) (hview.ordered hs)
 | expired now fuel hl hview =>
  rw[hl,append_nil,← hview.queued]
  exact queued_rearranged (rearranged_expire _ now fuel) (hview.ordered hs)

end Prepared

def Ahead (byPriority:Bool) (order:List ℕ) (s:State) (a b:ℕ) : Prop :=
 if byPriority then ∃ i j : ℕ,order[i]? = some a ∧ order[j]? = some b ∧
  ((s.tasks a).priority < (s.tasks b).priority ∨ (s.tasks a).priority = (s.tasks b).priority ∧ i < j)
 else [a,b] <+ order

lemma pair_sublist_or {α:Type} {l:List α} {a b:α} (ha:a∈l) (hb:b∈l) (hne:a≠b) :
  [a,b] <+ l∨[b,a] <+ l := by
 obtain ⟨before,after,rfl⟩:=append_of_mem ha
 rcases mem_append.mp hb with hb | hb
 · exact .inr ((singleton_sublist.mpr hb).append (singleton_sublist.mpr mem_cons_self))
 · have hb:=(mem_cons.mp hb).resolve_left hne.symm
   exact .inl (((singleton_sublist.mpr hb).cons_cons a).trans (sublist_append_right _ _))

lemma not_pair_sublist_swap {α:Type} {l:List α} {a b:α} (hl:l.Nodup) (h:[a,b] <+ l) :
  ¬ [b,a] <+ l := by
 intro h'
 induction l with
 | nil => cases h
 | cons c l ih => grind

section Ahead
variable {byPriority:Bool} {order:List ℕ} {s s':State} {a b:ℕ}

lemma getElem?_inj_of_nodup (h:order.Nodup) {i j:ℕ} (hi:order[i]?=some a) (hj:order[j]?=some a) :
  i=j := by
 obtain ⟨hi,hai⟩:=List.getElem?_eq_some_iff.mp hi
 obtain ⟨hj,haj⟩:=List.getElem?_eq_some_iff.mp hj
 exact (List.Nodup.getElem_inj_iff h).mp (hai.trans haj.symm)

lemma Ahead.asymm (horder:order.Nodup) (h:Ahead byPriority order s a b)
  (h':Ahead byPriority order s b a) : False := by
 unfold Ahead at h h'
 split at h
 · grind[getElem?_inj_of_nodup]
 · next hb =>
   rw[if_neg hb] at h'
   exact not_pair_sublist_swap horder h h'

lemma Ahead.mono (more:List ℕ) (h:Ahead byPriority order s a b)
  (hpriority:∀ t∈order,(s'.tasks t).priority=(s.tasks t).priority) :
  Ahead byPriority (order++more) s' a b := by
 unfold Ahead at h ⊢
 split at h
 · grind
 · next hb =>
   rw[if_neg hb]
   exact h.trans (sublist_append_left _ _)

lemma Arranged.ahead (h:Arranged byPriority order s) (ha:(s.tasks a).promoted=false)
  (hb:(s.tasks b).promoted=false) (hab:[a,b] <+ s.queued) : Ahead byPriority order s a b := by
 unfold Ahead
 split
 · next hprio =>
   have hs:=h.sorted hprio
   obtain ⟨nodes,hnodes,heq⟩:=sublist_map_iff.mp hab
   match nodes,heq with
   | [na,nb],heq =>
    obtain ⟨rfl,htail⟩:=List.cons.inj heq
    obtain ⟨rfl,-⟩:=List.cons.inj htail
    have hna:=hnodes.subset mem_cons_self
    have hnb:=hnodes.subset (mem_cons_of_mem _ mem_cons_self)
    have hprecedes:=pairwise_iff_forall_sublist.mp hs.pairwise hnodes
    unfold Node.Precedes at hprecedes
    rw[hs.priority na hna,hs.priority nb hnb,Task.effectivePriority,Task.effectivePriority,ha,hb] at hprecedes
    exact ⟨na.sequence,nb.sequence,hs.sequence na hna,hs.sequence nb hnb,hprecedes⟩
 · next hplain =>
   obtain ⟨front,back,heq,hfront,hback,hsub⟩:=h.blocks (by simpa using hplain)
   rw[State.queued,heq,map_append,sublist_append_iff] at hab
   obtain ⟨first,second,hpair,hfirst,hsecond⟩:=hab
   -- the first of the two is not in the block of promoted tasks
   cases first with
   | nil =>
    rw[hpair,nil_append]
    exact hsecond.trans hsub
   | cons c first =>
    obtain ⟨rfl,-⟩:=List.cons.inj hpair
    obtain ⟨node,hnode,rfl⟩:=mem_map.mp (hfirst.subset mem_cons_self)
    rw[hfront node hnode] at ha
    cases ha

end Ahead

def insertToken (t:ℕ) : Token → ℕ
 | .posted handler => if handler = .insert t then 1 else 0
 | _ => 0

lemma Change.inserted_eq {s:State} {l:Label} {taken given:List Token} {next:ℕ}
  (h:Change s l taken given next) (t:ℕ) :
  l.inserted.count t+total (insertToken t) given=total (insertToken t) taken+[l].count (.post t) := by
 cases h with
 | none hl =>
  cases l with
  | post | strand => exact absurd hl (by simp[Label.Quiet,Label.Timer])
  | _ => simp[Label.inserted]
 | released hl =>
  cases l with
  | post | strand => exact absurd hl (by simp[Label.Lifecycle])
  | _ => simp[Label.inserted,insertToken]
 | handled handler moment hne =>
  cases handler with
  | insert u => exact absurd rfl (hne u)
  | _ => simp[Label.inserted,insertToken]
 | _ => simp[Label.inserted,insertToken,count_singleton]

structure Admitting (byPriority:Bool) (s:State) (seen:List Label) : Prop where
 tracked : Tracked byPriority s seen
 arranged : Arranged byPriority (insertions seen) s
 inserted : ∀ t,(insertions seen).count t + s.weigh (insertToken t) = seen.count (.post t)

section Runs
variable {byPriority:Bool} {hardware:ℕ} {init s s':State} {l:Label} {seen:List Label}

lemma Admitting.count_le (h:Admitting byPriority s seen) (t:ℕ) :
  (insertions seen).count t+s.weigh (insertToken t)≤ if t < s.next then 1 else 0 := by
 have:=h.inserted t
 have:=h.tracked.entering t
 omega

lemma Admitting.nodup (h:Admitting byPriority s seen) : (insertions seen).Nodup := by
 apply nodup_iff_count_le_one.mpr
 intro t
 have:=h.count_le t
 split at this <;> omega

lemma Admitting.next_fresh (h:Admitting byPriority s seen) : s.next∉insertions seen := by
 intro hmem
 have:=h.count_le s.next
 have:=count_pos_iff.mpr hmem
 rw[if_neg (Nat.lt_irrefl _)] at *
 omega

lemma Admitting.insert_fresh (h:Admitting byPriority s seen) {t:ℕ} (hh:.insert t∈s.posted) :
  t∉insertions seen := by
 intro hmem
 have hcount:=h.count_le t
 have hposted:=le_weigh_posted (w:=insertToken t) hh
 have:=count_pos_iff.mpr hmem
 simp only[insertToken,if_true] at hposted
 split at hcount <;> omega

lemma Admitting.course (h:Admitting byPriority s seen) (hcourse:Course byPriority s l s') :
  Arranged byPriority (insertions seen++l.inserted) s' := by
 cases hcourse with
 | still hl hview =>
  rw[hl,append_nil]
  exact h.arranged.view hview
 | entered context priority =>
  have hfresh:=h.next_fresh
  have hposition:(s.tasks s.next).position=none:=by
   rw[h.arranged.position,if_neg fun hmem=>hfresh (h.arranged.queued _ hmem)]
  have hother:∀ t∈insertions seen,t≠s.next:=fun t ht heq=>hfresh (heq▸ht)
  change Arranged byPriority (insertions seen++[]) _
  rw[append_nil]
  refine h.arranged.keep rfl rfl (fun t=>?_) (fun t=>?_) fun t ht=>?_
  · by_cases heq:t=s.next
    · rw[heq,hposition]
      simp[addTask,setTask]
    · simp only[addTask,setTask,update_of_ne heq]
  · by_cases heq:t=s.next
    · rw[heq,h.arranged.not_promoted hfresh]
      simp[addTask,setTask]
    · simp only[addTask,setTask,update_of_ne heq]
  · simp only[addTask,setTask,update_of_ne (hother t ht)]
 | dispatched hcore hspawned hview hsame =>
  refine (hcore.arranged h.arranged fun t ht=>?_).dispatch.view hview
  cases hcore with
  | inserted u moment hh =>
   rw[mem_singleton.mp ht]
   exact h.insert_fresh hh
  | same hl | promoted _ hl | expired _ _ hl =>
   rw[hl] at ht
   cases ht

lemma insertions_snoc (seen:List Label) (l:Label) :
  insertions (seen++[l])=insertions seen++l.inserted := by
 simp[insertions]

lemma Admitting.step (h:Admitting byPriority s seen)
  (hstep:QueuedPool.step byPriority hardware s l=some s') : Admitting byPriority s' (seen++[l]) := by
 refine ⟨h.tracked.step hstep,?_,fun t=>?_⟩
 · rw[insertions_snoc]
   exact h.course (course_of_step hstep)
 · obtain ⟨taken,given,next,change,-,heq⟩:=(h.tracked.flow hstep).trade (insertToken t) fun _=>rfl
   have hbefore:=h.inserted t
   have hchange:=change.inserted_eq t
   rw[insertions_snoc,count_append,count_append]
   omega

lemma admitting_exec {name:String} {config:Option ℤ} {labels:List Label}
  (hnew:create hardware name config=.ok init)
  (hrun:exec (QueuedPool.step byPriority hardware) init labels=some s) :
  Admitting byPriority s labels := by
 have hinit:Admitting byPriority init []:=by
  obtain ⟨target,fallback,hpos,rfl⟩:=create_eq hnew
  refine ⟨tracked_initial byPriority hpos fallback,⟨fun t=>?_,nodup_nil,?_,?_,fun _=>?_,fun _=>?_⟩,
   fun t=>?_⟩
  · rfl
  · exact fun t ht=>absurd ht not_mem_nil
  · intro t ht
    cases ht
  · exact ⟨rfl,fun _ hn=>absurd hn not_mem_nil,fun _ hn=>absurd hn not_mem_nil,List.Pairwise.nil⟩
  · exact ⟨[],[],rfl,fun _ hn=>absurd hn not_mem_nil,fun _ hn=>absurd hn not_mem_nil,.refl _⟩
  · rw[weigh_eq]
    simp[insertions]
 exact exec_history (fun s l s' seen h hstep=>h.step hstep) hinit hrun

end Runs

/-- A step starts a front part of the queue: the queued and the inserted tasks are the
started and the waiting ones, sorted in the priority pool, and two tasks that are not
promoted stand as they stood before. -/
structure Starts (byPriority:Bool) (order:List ℕ) (s:State) (l:Label) (s':State)
  (started:List Node) : Prop where
 spawned : s'.spawned.drop s.spawned.length = started.map Node.task
 queued : (started ++ s'.queue).map Node.task ~ s.queued ++ l.inserted
 pairwise : byPriority = true → (started ++ s'.queue).Pairwise Node.Precedes
 sequence : byPriority = true → ∀ node ∈ started ++ s'.queue,
  (order ++ l.inserted)[node.sequence]? = some node.task
 priority : byPriority = true → ∀ node ∈ started ++ s'.queue,
  node.priority = (s'.tasks node.task).effectivePriority
 unpromoted : ∀ a ∈ s.queued,∀ b ∈ s.queued,(s'.tasks a).promoted = false →
  (s'.tasks b).promoted = false → [a,b] <+ (started ++ s'.queue).map Node.task → [a,b] <+ s.queued

section Starts
variable {byPriority:Bool} {hardware:ℕ} {s s' core:State} {l:Label} {seen:List Label}

lemma Arranged.starts {order:List ℕ} {started:List Node} (hs:Arranged byPriority order s)
  (hcore:Arranged byPriority (order++l.inserted) core) (hnodup:(order++l.inserted).Nodup)
  (hqueue:core.queue=started++s'.queue) (hperm:core.queued ~ s.queued++l.inserted)
  (hspawned:s'.spawned.drop s.spawned.length=started.map Node.task)
  (hpriority:∀ t∈order,(core.tasks t).priority=(s.tasks t).priority)
  (hpromoted:∀ t,(s.tasks t).promoted=true→(core.tasks t).promoted=true)
  (hsame:∀ t,(s'.tasks t).promoted=(core.tasks t).promoted ∧
   (s'.tasks t).priority=(core.tasks t).priority) : Starts byPriority order s l s' started := by
 rw[State.queued,hqueue] at hperm
 refine ⟨hspawned,hperm,fun hb=>?_,fun hb=>?_,fun hb=>?_,fun a ha b hb hpa hpb hab=>?_⟩
 · rw[← hqueue]
   exact (hcore.sorted hb).pairwise
 · rw[← hqueue]
   exact (hcore.sorted hb).sequence
 · rw[← hqueue]
   intro node hnode
   rw[(hcore.sorted hb).priority node hnode,Task.effectivePriority,Task.effectivePriority,(hsame _).1,
    (hsame _).2]
 · rw[(hsame _).1] at hpa hpb
   have hahead:=hcore.ahead hpa hpb (by rwa[State.queued,hqueue])
   have hne:a≠b:=by
    rintro rfl
    exact hahead.asymm hnodup hahead
   rcases pair_sublist_or ha hb hne with hsub | hsub
   · exact hsub
   -- had they stood the other way round, they still would
   · have hunpromoted:∀ {t},(core.tasks t).promoted=false→(s.tasks t).promoted=false:=by
      intro t ht
      by_contra hp
      rw[hpromoted t (by simpa using hp)] at ht
      cases ht
     have hback:=(hs.ahead (hunpromoted hpb) (hunpromoted hpa) hsub).mono l.inserted hpriority
     exact (hahead.asymm hnodup hback).elim

lemma Admitting.starts (h:Admitting byPriority s seen)
  (hstep:QueuedPool.step byPriority hardware s l=some s') :
  ∃ started,Starts byPriority (insertions seen) s l s' started := by
 have hnext:=h.step hstep
 have hnodup:=hnext.nodup
 have harranged:=hnext.arranged
 rw[insertions_snoc] at hnodup harranged
 cases course_of_step hstep with
 | still hl hview hspawned =>
  refine ⟨[],h.arranged.starts harranged hnodup rfl ?_ (drop_eq_nil_of_le hspawned)
   (fun t _=>hview.priority t) hview.kept.promoted fun t=>⟨rfl,rfl⟩⟩
  rw[hview.queued,hl,append_nil]
 | entered context priority =>
  have hfresh:=h.next_fresh
  refine ⟨[],h.arranged.starts harranged hnodup rfl ?_ (drop_eq_nil_of_le (Nat.le_refl _))
   (fun t ht=>?_) (fun t ht=>?_) fun t=>⟨rfl,rfl⟩⟩
  · change s.queued ~ s.queued++[]
    rw[append_nil]
  · have hne:t≠s.next:=fun heq=>hfresh (heq▸ht)
    simp only[addTask,setTask,update_of_ne hne]
  · have hne:t≠s.next:=fun heq=>hfresh (heq▸h.arranged.promoted t ht)
    simp only[addTask,setTask,update_of_ne hne]
    exact ht
 | @dispatched _ core _ hcore hspawned hview hsame =>
  have hfresh:∀ t∈l.inserted,t∉insertions seen:=by
   intro t ht hmem
   exact disjoint_of_nodup_append hnodup hmem ht
  have hkept:=hcore.kept
  have hpromoted:=promoted_dispatch core
  have hdispatched:=dispatched_dispatch core
  generalize core.dispatch=u at hdispatched hview hsame hpromoted
  obtain @⟨front,rest,tasks,deadlines,armedAt,generation,waits,hqueue,hrest⟩:=hdispatched
  have hrestqueue:s'.queue=rest:=by
   rw[hview.queue,checkDrain_queue]
  refine ⟨front,h.arranged.starts (hcore.arranged h.arranged hfresh) hnodup (hrestqueue▸hqueue)
   (hcore.queued h.tracked.ordered) ?_ (fun t _=>hkept.priority t) hkept.promoted fun t=>?_⟩
  · obtain ⟨completed,drained,heq⟩:=checkDrain_eq { core with
     queue := rest
     busy := core.busy+front.length
     spawned := core.spawned++front.map Node.task
     tasks := tasks
     deadlines := deadlines
     armedAt := armedAt
     deadlineGeneration := generation
     deadlineWaits := waits }
    rw[hsame,heq,← hspawned]
    exact drop_left
  · exact ⟨(hview.promoted t).trans (hpromoted t).1,(hview.priority t).trans (hpromoted t).2⟩

lemma promote_of_promoted (s:State) {t:ℕ} (h:(s.tasks t).promoted=true) :
  s.promote byPriority t=s := by
 unfold promote
 split
 · rfl
 · rw[if_pos h]

lemma Admitting.promoted (h:Admitting byPriority s seen) {t:ℕ} (ht:(s.tasks t).promoted=true)
  (hstep:QueuedPool.step byPriority hardware s l=some s') : (s'.tasks t).promoted=true := by
 cases course_of_step hstep with
 | still hl hview => exact hview.kept.promoted t ht
 | entered context priority =>
  have hne:t≠s.next:=fun heq=>h.next_fresh (heq▸h.arranged.promoted t ht)
  simp only[addTask,setTask,update_of_ne hne]
  exact ht
 | dispatched hcore hspawned hview =>
  rw[hview.promoted,(promoted_dispatch _ t).1]
  exact hcore.kept.promoted t ht

end Starts

/-- The order in which a pool keeps and starts its tasks. -/
theorem queue_in_order {byPriority : Bool} {hardware : ℕ} {name : String} {config : Option ℤ}
  {init s : State} {labels : List Label} (hnew : create hardware name config = .ok init)
  (hrun : exec (step byPriority hardware) init labels = some s) :
  (insertions labels).Nodup ∧ s.queued.Nodup ∧
  (byPriority = true → s.queue.Pairwise Node.Precedes ∧
   ∀ node ∈ s.queue, (insertions labels)[node.sequence]? = some node.task ∧
    node.priority = (s.tasks node.task).effectivePriority) ∧
  (byPriority = false → ∃ front back, s.queued = front ++ back ∧
   (∀ t ∈ front, (s.tasks t).promoted = true) ∧ (∀ t ∈ back, (s.tasks t).promoted = false) ∧
   back <+ insertions labels) ∧
  (∀ t, (s.tasks t).promoted = true → s.promote byPriority t = s ∧
   ∀ l s', step byPriority hardware s l = some s' → (s'.tasks t).promoted = true) ∧
  ∀ l s', step byPriority hardware s l = some s' →
   ∃ started, Starts byPriority (insertions labels) s l s' started := by
 have h:=admitting_exec hnew hrun
 refine ⟨h.nodup,h.arranged.nodup,fun hb=>?_,fun hb=>?_,fun t ht=>?_,fun l s' hstep=>h.starts hstep⟩
 · have hs:=h.arranged.sorted hb
   exact ⟨hs.pairwise,fun node hnode=>⟨hs.sequence node hnode,hs.priority node hnode⟩⟩
 · obtain ⟨front,back,heq,hfront,hback,hsub⟩:=h.arranged.blocks hb
   refine ⟨front.map Node.task,back.map Node.task,?_,fun t ht=>?_,fun t ht=>?_,hsub⟩
   · rw[State.queued,heq,map_append]
   · obtain ⟨node,hnode,rfl⟩:=mem_map.mp ht
     exact hfront node hnode
   · obtain ⟨node,hnode,rfl⟩:=mem_map.mp ht
     exact hback node hnode
 · exact ⟨promote_of_promoted s ht,fun l s' hstep=>h.promoted ht hstep⟩

/-- The first task was cancelled and goes ahead of one with a smaller priority. -/
theorem drainingRun_in_order : ∃ init s, create 4 "tasks" (some 1) = .ok init ∧
  exec (step true 4) init (drainingRun.take 12) = some s ∧
  s.queued = [0, 1] ∧ (s.tasks 0).priority = 2 ∧ (s.tasks 1).priority = 1 ∧
  s.queue.Pairwise Node.Precedes ∧
  ∀ node ∈ s.queue, (insertions (drainingRun.take 12))[node.sequence]? = some node.task ∧
   node.priority = (s.tasks node.task).effectivePriority := by
 have hnew:create 4 "tasks" (some 1)=.ok _ := rfl
 have hrun:exec (step true 4) { target:=1,fallbackExecutors := 1 } (drainingRun.take 12)=some _ := rfl
 obtain ⟨-,-,hsorted,-⟩:=queue_in_order hnew hrun
 exact ⟨_,_,hnew,hrun,rfl,rfl,rfl,hsorted rfl⟩

end ServiceLib.QueuedPool
