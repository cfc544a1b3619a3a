import ServiceLib.QueuedPoolRuns

set_option autoImplicit false
attribute [-instance] instBooleanRingBool

/-!
# The order in which a queued pool starts its tasks

The priority pool's queue is sorted by effective priority and admission sequence. The plain pool's
queue is a block of promoted tasks followed by the others in the order in which their handlers
entered them.
-/
namespace ServiceLib.QueuedPool
open State List Tokens Transition Loop Function

def Node.Precedes (a b:Node) : Prop :=
 a.priority < b.priority ∨ a.priority = b.priority ∧ a.sequence < b.sequence

def Task.effectivePriority (task:Task) : ℤ :=
 if task.promoted then intMin else task.priority

def State.queued (s:State) : List ℕ :=
 s.queue.map Node.task

def Label.inserted : Label → List ℕ
 | .strand (.insert t) _ => [t]
 | _ => []

def insertions (labels:List Label) : List ℕ :=
 labels.flatMap Label.inserted

variable {a b node:Node} {queue:List Node}

lemma Node.precedes_of_before (h:a.before b) (hne:a.sequence≠b.sequence) :
  a.Precedes b :=
 h.imp_right fun h=>⟨h.1,lt_of_le_of_ne h.2 hne⟩

lemma Node.precedes_of_not_before (h:¬ a.before b) : b.Precedes a := by
 unfold Node.before at h
 unfold Node.Precedes
 omega

lemma Node.Precedes.trans {c:Node} (h:a.Precedes b) (h':b.Precedes c) : a.Precedes c := by
 unfold Node.Precedes at *
 omega

lemma mapInsert_eq
  (h:∀ other∈queue,other.sequence≠node.sequence) :
  mapInsert node queue=(queue.orderedInsert Node.before node,node.task) := by
 grind[mapInsert]

lemma pairwise_orderedInsert (hsorted:queue.Pairwise Node.Precedes)
  (h:∀ other∈queue,other.sequence≠node.sequence) :
  (queue.orderedInsert Node.before node).Pairwise Node.Precedes := by
 induction queue with
 | nil => exact pairwise_singleton _ _
 | cons other rest ih =>
  obtain ⟨hother,hrest⟩:=pairwise_cons.mp hsorted
  rw[List.orderedInsert]
  split
  · next hbefore =>
    have hnode:=Node.precedes_of_before hbefore (h other mem_cons_self).symm
    refine pairwise_cons.mpr ⟨fun b hb=>?_,hsorted⟩
    rcases mem_cons.mp hb with rfl | hb
    · exact hnode
    · exact hnode.trans (hother b hb)
  · next hbefore =>
    have hnode:=Node.precedes_of_not_before hbefore
    refine pairwise_cons.mpr ⟨fun b hb=>?_,ih hrest fun b hb=>h b (mem_cons_of_mem _ hb)⟩
    rcases mem_cons.mp ((perm_orderedInsert _ _ _).mem_iff.mp hb) with rfl | hb
    · exact hnode
    · exact hother b hb

structure SameView (s s':State) : Prop where
 queue : s'.queue = s.queue
 nextSequence : s'.nextSequence = s.nextSequence
 position : ∀ t,(s'.tasks t).position = (s.tasks t).position
 promoted : ∀ t,(s'.tasks t).promoted = (s.tasks t).promoted
 priority : ∀ t,(s'.tasks t).priority = (s.tasks t).priority

structure Sorted (order:List ℕ) (s:State) : Prop where
 next : s.nextSequence = order.length
 sequence : ∀ node ∈ s.queue,order[node.sequence]? = some node.task
 priority : ∀ node ∈ s.queue,node.priority = (s.tasks node.task).effectivePriority
 pairwise : s.queue.Pairwise Node.Precedes

/-- The plain pool's queue: promoted tasks, then the others as they were admitted. -/
def Blocks (order:List ℕ) (s:State) : Prop :=
 ∃ front back,s.queue = front ++ back ∧ (∀ node ∈ front,(s.tasks node.task).promoted = true) ∧
  (∀ node ∈ back,(s.tasks node.task).promoted = false) ∧ back.map Node.task <+ order

structure Arranged (byPriority:Bool) (order:List ℕ) (s:State) : Prop where
 position : ∀ t,(s.tasks t).position = if t ∈ s.queued then some t else none
 nodup : s.queued.Nodup
 queued : ∀ t ∈ s.queued,t ∈ order
 promoted : ∀ t,(s.tasks t).promoted = true → t ∈ order
 sorted : byPriority = true → Sorted order s
 blocks : byPriority = false → Blocks order s

section Arranged
variable {byPriority:Bool} {order:List ℕ} {s s':State} {t:ℕ}

lemma Arranged.keep (h:Arranged byPriority order s) (queue:s'.queue=s.queue)
  (nextSequence:s'.nextSequence=s.nextSequence)
  (position:∀ t,(s'.tasks t).position=(s.tasks t).position)
  (promoted:∀ t,(s'.tasks t).promoted=(s.tasks t).promoted)
  (priority:∀ t∈order,(s'.tasks t).priority=(s.tasks t).priority) :
  Arranged byPriority order s' := by
 have hqueued:s'.queued=s.queued:=congrArg (List.map Node.task) queue
 refine ⟨fun t=>?_,?_,?_,fun t=>?_,fun hb=>?_,fun hb=>?_⟩
 · rw[position,hqueued]
   exact h.position t
 · rw[hqueued]
   exact h.nodup
 · rw[hqueued]
   exact h.queued
 · rw[promoted]
   exact h.promoted t
 · have hsorted:=h.sorted hb
   refine ⟨nextSequence.trans hsorted.next,?_,?_,?_⟩
   · rw[queue]
     exact hsorted.sequence
   · rw[queue]
     intro node hnode
     have hadmitted:=h.queued _ (mem_map_of_mem hnode)
     rw[hsorted.priority node hnode,Task.effectivePriority,Task.effectivePriority,promoted,
      priority _ hadmitted]
   · rw[queue]
     exact hsorted.pairwise
 · obtain ⟨front,back,heq,hfront,hback,hsub⟩:=h.blocks hb
   refine ⟨front,back,queue.trans heq,fun node hnode=>?_,fun node hnode=>?_,hsub⟩
   · rw[promoted]
     exact hfront node hnode
   · rw[promoted]
     exact hback node hnode

lemma Arranged.view (h:Arranged byPriority order s) (hview:SameView s s') :
  Arranged byPriority order s' :=
 h.keep hview.queue hview.nextSequence hview.position hview.promoted fun t _=>hview.priority t

lemma Sorted.sequence_ne {other:Node} (hsorted:Sorted order s)
  (hnodup:((node::queue).map Node.task).Nodup) (hsub:∀ n∈node::queue,n∈s.queue)
  (hother:other∈queue) : other.sequence≠node.sequence := by
 grind[Sorted]

lemma Sorted.sequence_lt (hsorted:Sorted order s) (hnode:node∈s.queue) :
  node.sequence < s.nextSequence := by
 rw[hsorted.next]
 exact (List.getElem?_eq_some_iff.mp (hsorted.sequence node hnode)).choose

lemma Arranged.not_promoted (h:Arranged byPriority order s) (ht:t∉order) :
  (s.tasks t).promoted=false := by
 by_contra hp
 exact ht (h.promoted t (by simpa using hp))

lemma Arranged.insert {sequence:ℕ} (h:Arranged byPriority order s)
  (ht:t∉order) (hnode:node.task=t) (hperm:queue ~ node::s.queue)
  (hsorted:byPriority=true→ sequence=order.length+1∧node.sequence=order.length ∧
   node.priority=(s.tasks t).priority∧queue.Pairwise Node.Precedes)
  (hblocks:byPriority=false→ queue=s.queue++[node]) :
  Arranged byPriority (order++[t]) ({ s with queue := queue,nextSequence := sequence }.setTask t
   { s.tasks t with position := some t }) := by
 have hnot:=h.not_promoted ht
 have hqueued:queue.map Node.task ~ t::s.queued:=by
  have:=hperm.map Node.task
  rwa[map_cons,hnode] at this
 have hfresh:t∉s.queued:=fun hmem=>ht (h.queued t hmem)
 have hother:∀ n∈s.queue,n.task≠t:=fun n hn heq=>hfresh (heq▸mem_map_of_mem hn)
 have hpromoted:∀ u,(({ s with queue:=queue,nextSequence := sequence }.setTask t
  { s.tasks t with position := some t }).tasks u).promoted=(s.tasks u).promoted:=by
  intro u
  simp only[setTask,update_apply]
  split
  · next heq => rw[heq]
  · rfl
 refine ⟨fun u=>?_,?_,fun u hu=>?_,fun u hu=>?_,fun hb=>?_,fun hb=>?_⟩
 · change (update s.tasks t _ u).position=if u∈queue.map Node.task then some u else none
   rw[update_apply]
   by_cases heq:u=t
   · rw[if_pos heq,if_pos (hqueued.mem_iff.mpr (heq▸mem_cons_self)),heq]
   · rw[if_neg heq,h.position u]
     have hiff:u∈queue.map Node.task↔u∈s.queued:=by
      rw[hqueued.mem_iff,mem_cons]
      exact or_iff_right heq
     simp only[hiff]
 · exact hqueued.nodup_iff.mpr (nodup_cons.mpr ⟨hfresh,h.nodup⟩)
 · rcases mem_cons.mp (hqueued.mem_iff.mp hu) with rfl | hu
   · exact mem_append_right _ (mem_singleton_self _)
   · exact mem_append_left _ (h.queued u hu)
 · rw[hpromoted] at hu
   exact mem_append_left _ (h.promoted u hu)
 · obtain ⟨hnext,hsequence,hpriority,hpairwise⟩:=hsorted hb
   have hs:=h.sorted hb
   refine ⟨?_,fun n hn=>?_,fun n hn=>?_,hpairwise⟩
   · rw[length_append]
     exact hnext
   · rcases mem_cons.mp (hperm.mem_iff.mp hn) with rfl | hn
     · rw[hsequence,List.getElem?_concat_length,hnode]
     · have hseq:=hs.sequence n hn
       have hlt:=(List.getElem?_eq_some_iff.mp hseq).choose
       rw[List.getElem?_append_left hlt]
       exact hseq
   · rcases mem_cons.mp (hperm.mem_iff.mp hn) with rfl | hn
     · rw[hnode,Task.effectivePriority,hpromoted,hnot,hpriority]
       simp[setTask]
     · rw[hs.priority n hn]
       simp only[setTask,update_of_ne (hother n hn)]
 · obtain ⟨front,back,heq,hfront,hback,hsub⟩:=h.blocks hb
   refine ⟨front,back++[node],?_,fun n hn=>?_,fun n hn=>?_,?_⟩
   · change queue=_
     rw[hblocks hb,heq,append_assoc]
   · rw[hpromoted]
     exact hfront n hn
   · rw[hpromoted]
     rcases mem_append.mp hn with hn | hn
     · exact hback n hn
     · rw[mem_singleton.mp hn,hnode]
       exact hnot
   · rw[map_append,map_singleton,hnode]
     exact hsub.append (.refl _)

lemma Arranged.enqueue (h:Arranged byPriority order s) (ht:t∉order) :
  Arranged byPriority (order++[t]) (s.enqueue byPriority t) := by
 unfold State.enqueue
 split
 · next hb =>
   have hs:=h.sorted hb
   have hfresh:∀ other∈s.queue,other.sequence≠(s.pending t s.nextSequence).sequence:=
    fun other hother=>(hs.sequence_lt hother).ne
   rw[mapInsert_eq hfresh]
   exact h.insert ht rfl (perm_orderedInsert _ _ _)
    (fun _=>⟨congrArg (·+1) hs.next,hs.next,rfl,pairwise_orderedInsert hs.pairwise hfresh⟩)
    (fun hplain=>absurd (hb.symm.trans hplain) (by decide))
 · next hb =>
   exact h.insert ht rfl (perm_append_singleton _ _) (fun hprio=>absurd hprio hb) fun _=>rfl

lemma sameView_update {task:Task} (h:s'.tasks=update s.tasks t task)
  (queue:s'.queue=s.queue) (nextSequence:s'.nextSequence=s.nextSequence)
  (position:task.position=(s.tasks t).position) (promoted:task.promoted=(s.tasks t).promoted)
  (priority:task.priority=(s.tasks t).priority) : SameView s s' := by
 have hupdate:∀ {β:Type} (f:Task→β) (u:ℕ),f task=f (s.tasks t) →
  f (s'.tasks u)=f (s.tasks u):=by
  intro β f u hf
  rw[h,update_apply]
  split
  · next heq => rw[hf,heq]
  · rfl
 exact ⟨queue,nextSequence,fun u=>hupdate Task.position u position,
  fun u=>hupdate Task.promoted u promoted,fun u=>hupdate Task.priority u priority⟩

lemma SameView.trans {u:State} (h:SameView s u) (h':SameView u s') : SameView s s' :=
 ⟨h'.queue.trans h.queue,h'.nextSequence.trans h.nextSequence,fun t=>(h'.position t).trans (h.position t),
  fun t=>(h'.promoted t).trans (h.promoted t),fun t=>(h'.priority t).trans (h.priority t)⟩

lemma sameView_index (s:State) (deadlines:List (ℤ×ℕ)) (t:ℕ) (position:Option ℕ) :
  SameView s ({ s with deadlines := deadlines }.setTask t
   { s.tasks t with deadlinePosition := position }) :=
 sameView_update rfl rfl rfl rfl rfl rfl

lemma sameView_removeDeadline (s:State) (t:ℕ) : SameView s (s.removeDeadline t) := by
 unfold removeDeadline
 split
 · exact ⟨rfl,rfl,fun _=>rfl,fun _=>rfl,fun _=>rfl⟩
 · exact sameView_index s _ t none

lemma Arranged.find (h:Arranged byPriority order s) {position:ℕ}
  (hpos:(s.tasks t).position=some position) : position=t∧t∈s.queued ∧
   ∃ node,s.queue.find? (fun node=>node.task == t)=some node∧node.task=t := by
 rw[h.position t] at hpos
 split at hpos
 · next hmem =>
   refine ⟨(Option.some.inj hpos).symm,hmem,?_⟩
   obtain ⟨other,hother,heq⟩:=mem_map.mp hmem
   cases hfind:s.queue.find? fun node=>node.task == t with
   | none => exact absurd (List.find?_eq_none.mp hfind other hother) (by simp[heq])
   | some node => exact ⟨node,rfl,by simpa using List.find?_some hfind⟩
 · cases hpos

lemma Arranged.rearrange (h:Arranged byPriority order s) (ht:t∈s.queued)
  (hperm:queue.map Node.task ~ s.queued)
  (hsorted:byPriority=true→(∀ node∈queue,order[node.sequence]?=some node.task) ∧
   (∀ node∈queue,node.priority=if node.task=t then intMin else (s.tasks node.task).effectivePriority) ∧
   queue.Pairwise Node.Precedes)
  (hblocks:byPriority=false→∃ front back,queue=front++back ∧
   (∀ node∈front,node.task=t∨(s.tasks node.task).promoted=true) ∧
   (∀ node∈back,node.task≠t∧(s.tasks node.task).promoted=false)∧back.map Node.task <+ order) :
  Arranged byPriority order ({ s with queue := queue }.setTask t
   { s.tasks t with promoted := true,position := some t }) := by
 refine ⟨fun u=>?_,hperm.nodup_iff.mpr h.nodup,fun u hu=>h.queued u (hperm.mem_iff.mp hu),fun u hu=>?_,
  fun hb=>?_,fun hb=>?_⟩
 · change (update s.tasks t _ u).position=if u∈queue.map Node.task then some u else none
   rw[update_apply]
   by_cases heq:u=t
   · rw[if_pos heq,heq,if_pos (hperm.mem_iff.mpr ht)]
   · rw[if_neg heq,h.position u]
     simp only[hperm.mem_iff]
 · by_cases heq:u=t
   · exact heq▸h.queued t ht
   · simp only[setTask,update_of_ne heq] at hu
     exact h.promoted u hu
 · obtain ⟨hsequence,hpriority,hpairwise⟩:=hsorted hb
   refine ⟨(h.sorted hb).next,hsequence,fun node hnode=>?_,hpairwise⟩
   rw[hpriority node hnode]
   simp only[setTask,update_apply]
   split
   · rfl
   · rfl
 · obtain ⟨front,back,heq,hfront,hback,hsub⟩:=hblocks hb
   refine ⟨front,back,heq,fun node hnode=>?_,fun node hnode=>?_,hsub⟩
   · rcases hfront node hnode with htask | hpromoted
     · simp[setTask,htask]
     · simp only[setTask,update_apply]
       split
       · rfl
       · exact hpromoted
   · obtain ⟨hne,hpromoted⟩:=hback node hnode
     simp only[setTask,update_of_ne hne]
     exact hpromoted

lemma Arranged.toFront (h:Arranged byPriority order s) (ht:t∈s.queued)
  (hunpromoted:(s.tasks t).promoted=false)
  (hfind:s.queue.find? (fun node=>node.task == t)=some node) (htask:node.task=t) :
  (toFront byPriority s.queue t).2=t ∧
  Arranged byPriority order ({ s with queue := (toFront byPriority s.queue t).1 }.setTask t
   { s.tasks t with promoted := true,position := some t }) := by
 have hperm:=perm_of_find? hfind
 generalize hrest : s.queue.eraseP (fun node=>node.task == t)=rest at hperm
 have hqueued:(node::rest).map Node.task ~ s.queued:=hperm.map Node.task
 have hnodup:=hqueued.nodup_iff.mpr h.nodup
 have hother:∀ n∈rest,n.task≠t:=by
  intro n hn heq
  rw[map_cons,nodup_cons,htask] at hnodup
  exact hnodup.1 (heq▸mem_map_of_mem hn)
 rw[QueuedPool.toFront,hfind]
 simp only[hrest]
 split
 · next hb =>
   have hs:=h.sorted hb
   have hdistinct:∀ other∈rest,other.sequence≠node.sequence:=
    fun other=>hs.sequence_ne hnodup fun n hn=>hperm.mem_iff.mp hn
   have hfresh:∀ other∈rest,other.sequence≠({ node with priority:=intMin } : Node).sequence :=
    hdistinct
   have hsorted:rest.Pairwise Node.Precedes:=by
    rw[← hrest]
    exact hs.pairwise.sublist eraseP_sublist
   have hmem:∀ n,n∈rest.orderedInsert Node.before { node with priority:=intMin } ↔
    n={ node with priority := intMin }∨n∈rest:=by
    intro n
    rw[(perm_orderedInsert _ _ _).mem_iff,mem_cons]
   rw[mapInsert_eq hfresh]
   refine ⟨htask,h.rearrange ht ?_ (fun _=>⟨fun n hn=>?_,fun n hn=>?_,?_⟩)
    fun hplain=>absurd (hb.symm.trans hplain) (by decide)⟩
   · exact ((perm_orderedInsert _ _ _).map Node.task).trans hqueued
   · rcases (hmem n).mp hn with rfl | hn
     · exact hs.sequence node (hperm.mem_iff.mp mem_cons_self)
     · exact hs.sequence n (hperm.mem_iff.mp (mem_cons_of_mem _ hn))
   · rcases (hmem n).mp hn with rfl | hn
     · exact (if_pos htask).symm
     · rw[if_neg (hother n hn)]
       exact hs.priority n (hperm.mem_iff.mp (mem_cons_of_mem _ hn))
   · exact pairwise_orderedInsert hsorted hfresh
 · next hb =>
   refine ⟨rfl,h.rearrange ht hqueued (fun hprio=>absurd hprio hb) fun hplain=>?_⟩
   obtain ⟨front,back,heq,hfront,hback,hsub⟩:=h.blocks hplain
   -- the task is not in the block of promoted ones, so it is taken out of the others
   have hskip:∀ n∈front,¬ (n.task == t)=true:=by
    intro n hn htn
    rw[beq_iff_eq] at htn
    have:=hfront n hn
    rw[htn,hunpromoted] at this
    cases this
   have hsplit:rest=front++back.eraseP fun node=>node.task == t:=by
    rw[← hrest,heq,eraseP_append_right _ hskip]
   refine ⟨node::front,back.eraseP fun node=>node.task == t,?_,fun n hn=>?_,fun n hn=>?_,?_⟩
   · rw[hsplit]
     rfl
   · rcases mem_cons.mp hn with rfl | hn
     · exact .inl htask
     · exact .inr (hfront n hn)
   · refine ⟨hother n ?_,hback n (mem_of_mem_eraseP hn)⟩
     rw[hsplit]
     exact mem_append_right _ hn
   · exact (eraseP_sublist.map Node.task).trans hsub

lemma Arranged.promote (h:Arranged byPriority order s) (t:ℕ) :
  Arranged byPriority order (s.promote byPriority t) := by
 unfold State.promote
 split
 · exact h
 next position hpos =>
 split
 · exact h
 next hpromoted =>
 obtain ⟨rfl,hmem,node,hfind,htask⟩:=h.find hpos
 obtain ⟨hsecond,harranged⟩:=h.toFront hmem (by simpa using hpromoted) hfind htask
 rw[hsecond]
 exact harranged.view (sameView_removeDeadline _ _)

lemma Arranged.watch (h:Arranged byPriority order s) (t:ℕ) (now:ℤ) :
  Arranged byPriority order (s.watch byPriority t now) := by
 unfold State.watch
 split
 · exact h.promote t
 split
 · exact h
 next deadline _ =>
 split
 · exact h.promote t
 · exact h.view (sameView_index s _ t (some t))

lemma Arranged.expireFront (h:Arranged byPriority order s) :
  Arranged byPriority order (s.expireFront byPriority) := by
 unfold State.expireFront
 split
 · exact h
 next entry rest _ =>
 exact (h.view (sameView_index s rest entry.2 none)).promote entry.2

lemma Arranged.dispatchFront (h:Arranged byPriority order s) :
  Arranged byPriority order s.dispatchFront := by
 unfold State.dispatchFront
 split
 · exact h
 next node rest hqueue =>
 have hcons:s.queued=node.task::rest.map Node.task:=by
  rw[State.queued,hqueue,map_cons]
 have hnodup:=h.nodup
 rw[hcons,nodup_cons] at hnodup
 have hother:∀ n∈rest,n.task≠node.task:=by
  intro n hn heq
  exact hnodup.1 (heq▸mem_map_of_mem hn)
 have hcore:Arranged byPriority order ({ s with
  queue := rest
  busy := s.busy+1
  spawned := s.spawned++[node.task] }.setTask node.task { s.tasks node.task with position := none }):=by
  refine ⟨fun u=>?_,hnodup.2,fun u hu=>?_,fun u hu=>?_,fun hb=>?_,fun hb=>?_⟩
  · change (update s.tasks node.task _ u).position=if u∈rest.map Node.task then some u else none
    rw[update_apply]
    by_cases heq:u=node.task
    · rw[if_pos heq,if_neg (heq▸hnodup.1)]
    · rw[if_neg heq,h.position u,hcons]
      simp only[mem_cons,heq,false_or]
  · exact h.queued u (hcons▸mem_cons_of_mem _ hu)
  · by_cases heq:u=node.task
    · exact h.queued u (hcons▸heq▸mem_cons_self)
    · simp only[setTask,update_of_ne heq] at hu
      exact h.promoted u hu
  · have hs:=h.sorted hb
    have hmem:∀ n∈rest,n∈s.queue:=fun n hn=>hqueue▸mem_cons_of_mem _ hn
    refine ⟨hs.next,fun n hn=>hs.sequence n (hmem n hn),fun n hn=>?_,?_⟩
    · rw[hs.priority n (hmem n hn)]
      simp only[setTask,update_of_ne (hother n hn)]
    · have:=hs.pairwise
      rw[hqueue] at this
      exact (pairwise_cons.mp this).2
  · obtain ⟨front,back,heq,hfront,hback,hsub⟩:=h.blocks hb
    have htasks:∀ n∈rest,update s.tasks node.task
     { s.tasks node.task with position := none } n.task=s.tasks n.task :=
     fun n hn=>update_of_ne (hother n hn) _ _
    cases front with
    | nil =>
     obtain rfl:back=node::rest:=heq.symm.trans hqueue
     refine ⟨[],rest,rfl,fun n hn=>absurd hn not_mem_nil,fun n hn=>?_,
      (sublist_cons_self _ _).trans hsub⟩
     simp only[setTask,htasks n hn]
     exact hback n (mem_cons_of_mem _ hn)
    | cons first front =>
     obtain ⟨rfl,rfl⟩:=List.cons.inj (hqueue.symm.trans heq)
     refine ⟨front,back,rfl,fun n hn=>?_,fun n hn=>?_,hsub⟩
     · simp only[setTask,htasks n (mem_append_left _ hn)]
       exact hfront n (mem_cons_of_mem _ hn)
     · simp only[setTask,htasks n (mem_append_right _ hn)]
       exact hback n hn
 exact hcore.view (sameView_removeDeadline _ _)

lemma sameView_armDeadline (s:State) : SameView s s.armDeadline := by
 unfold armDeadline
 split
 · exact ⟨rfl,rfl,fun _=>rfl,fun _=>rfl,fun _=>rfl⟩
 · exact ⟨rfl,rfl,fun _=>rfl,fun _=>rfl,fun _=>rfl⟩

lemma sameView_checkDrain (s:State) : SameView s s.checkDrain := by
 obtain ⟨completed,drained,heq⟩:=checkDrain_eq s
 rw[heq]
 exact ⟨rfl,rfl,fun _=>rfl,fun _=>rfl,fun _=>rfl⟩

lemma Arranged.dispatch (h:Arranged byPriority order s) : Arranged byPriority order s.dispatch := by
 have hloop:Arranged byPriority order (loop canDispatch State.dispatchFront s.queue.length s):=
  loop_invariant (fun _ hu _=>hu.dispatchFront) _ h
 exact (hloop.view (sameView_armDeadline _)).view (sameView_checkDrain _)

end Arranged

end ServiceLib.QueuedPool
