import ServiceLib.QueuedPool

set_option autoImplicit false
attribute [-instance] instBooleanRingBool

/-!
# What a step of a queued pool does

Promotions only reorder the queue as long as no two of its nodes have one sequence, and `dispatch`
moves a front part of the queue to the executor.
-/
namespace ServiceLib.QueuedPool
open FlagCounter Loop List

def count (activity:BitVec 64) : ℕ :=
 (activity &&& kCount).toNat

def Closed (activity:BitVec 64) : Prop :=
 activity &&& kClosed ≠ 0

def Started (activity:BitVec 64) : Prop :=
 activity &&& kStarted ≠ 0

section Activity
variable {a:BitVec 64}

lemma kClosed_eq : kClosed=BitVec.twoPow 64 63 := by decide

lemma kStarted_eq : kStarted=BitVec.twoPow 64 62 := by decide

lemma count_eq (a:BitVec 64) : count a=counter 62 a := by
 rw[count,kCount,kStarted_eq]
 exact toNat_and_mask a (by omega)

lemma count_eq_zero : a &&& kCount=0↔count a=0 :=
 (BitVec.toNat_inj).symm

lemma closed_iff : Closed a↔a.getLsbD 63=true := by
 rw[Closed,kClosed_eq]
 exact and_twoPow_ne_zero a (by omega)

lemma started_iff : Started a↔a.getLsbD 62=true := by
 rw[Started,kStarted_eq]
 exact and_twoPow_ne_zero a (by omega)

lemma counter_ne_of_room (h:a &&& kCount≠kCount) : counter 62 a≠2 ^ 62 - 1 := by
 intro hfull
 apply h
 apply BitVec.eq_of_toNat_eq
 change count a=_
 rw[count_eq,hfull]
 decide

lemma count_reserve (h:a &&& kCount≠kCount) : count (a+1#64)=count a+1 := by
 rw[count_eq,count_eq,counter_add_one (by omega) (counter_ne_of_room h)]

lemma closed_reserve (h:a &&& kCount≠kCount) : Closed (a+1#64)↔Closed a := by
 rw[closed_iff,closed_iff,flag_add_one (by omega) (counter_ne_of_room h) (by omega)]

lemma started_reserve (h:a &&& kCount≠kCount) : Started (a+1#64)↔Started a := by
 rw[started_iff,started_iff,flag_add_one (by omega) (counter_ne_of_room h) (by omega)]

lemma count_release (h:count a≠0) : count (a - 1#64)+1=count a := by
 rw[count_eq] at h
 rw[count_eq,count_eq,counter_sub_one (by omega) h]

lemma closed_release (h:count a≠0) : Closed (a - 1#64)↔Closed a := by
 rw[count_eq] at h
 rw[closed_iff,closed_iff,flag_sub_one (by omega) h (by omega)]

lemma started_release (h:count a≠0) : Started (a - 1#64)↔Started a := by
 rw[count_eq] at h
 rw[started_iff,started_iff,flag_sub_one (by omega) h (by omega)]

lemma count_start (a:BitVec 64) : count (a ||| kStarted)=count a := by
 rw[count_eq,count_eq,kStarted_eq,counter_or_twoPow a (by omega)]

lemma closed_start (a:BitVec 64) : Closed (a ||| kStarted)↔Closed a := by
 rw[closed_iff,closed_iff,kStarted_eq,getLsbD_or_twoPow]
 simp

lemma started_start (a:BitVec 64) : Started (a ||| kStarted) := by
 rw[started_iff,kStarted_eq,getLsbD_or_twoPow]
 simp

lemma count_close (a:BitVec 64) : count (a ||| kClosed)=count a := by
 rw[count_eq,count_eq,kClosed_eq,counter_or_twoPow a (by omega)]

lemma closed_close (a:BitVec 64) : Closed (a ||| kClosed) := by
 rw[closed_iff,kClosed_eq,getLsbD_or_twoPow]
 simp

lemma started_close (a:BitVec 64) : Started (a ||| kClosed)↔Started a := by
 rw[started_iff,started_iff,kClosed_eq,getLsbD_or_twoPow]
 simp

end Activity

lemma resolveExecutors_pos {hardware executors:ℕ} {configured:ℤ}
  (h:resolveExecutors hardware configured=.ok executors) : 0 < executors := by
 grind[resolveExecutors]

def tickets (queue:List Node) : List (ℕ × ℕ) :=
 queue.map fun node=>(node.sequence,node.task)

/-- No two nodes of the priority pool's queue have one sequence, and the next one is new. -/
def Keys (byPriority:Bool) (entries:List (ℕ × ℕ)) (next:ℕ) : Prop :=
 byPriority = true → (entries.map Prod.fst).Nodup ∧ ∀ entry ∈ entries,entry.1 < next

lemma Keys.perm {byPriority:Bool} {entries entries':List (ℕ×ℕ)} {next:ℕ}
  (h:Keys byPriority entries next) (hp:entries' ~ entries) : Keys byPriority entries' next := by
 intro hb
 obtain ⟨hnodup,hlt⟩:=h hb
 exact ⟨(hp.map Prod.fst).nodup_iff.mpr hnodup,fun entry he=>hlt entry (hp.mem_iff.mp he)⟩

lemma perm_of_find? {α:Type} {p:α→ Bool} {a:α} {l:List α} (h:l.find? p=some a) :
  a::l.eraseP p ~ l := by
 obtain ⟨hp,before,after,rfl,hbefore⟩:=List.find?_eq_some_iff_append.mp h
 have hnone:∀ x∈before,¬ p x=true:=fun x hx=>by simpa using hbefore x hx
 rw[eraseP_append_right _ hnone,eraseP_cons_of_pos hp]
 exact perm_middle.symm

lemma perm_mapInsert (node:Node) (queue:List Node)
  (h:∀ other∈queue,other.sequence≠node.sequence) : (mapInsert node queue).1 ~ node::queue := by
 grind[mapInsert,perm_orderedInsert]

lemma perm_toFront {byPriority:Bool} {queue:List Node} {position next:ℕ}
  (h:Keys byPriority (tickets queue) next) :
  tickets (toFront byPriority queue position).1 ~ tickets queue := by
 unfold toFront
 split
 · exact .refl _
 next node hfind =>
 have hperm:=perm_of_find? hfind
 split
 · next hb =>
   have hnodup:((node::queue.eraseP fun node=>node.task == position).map Node.sequence).Nodup:=by
    have:=(h hb).1
    rw[tickets,map_map] at this
    exact (hperm.map Node.sequence).nodup_iff.mpr this
   rw[map_cons,nodup_cons] at hnodup
   have hfresh:=perm_mapInsert { node with priority:=intMin }
    (queue.eraseP fun node=>node.task == position)
    (fun other hother heq=>hnodup.1 (heq▸mem_map_of_mem hother))
   exact (hfresh.map _).trans (hperm.map fun node=>(node.sequence,node.task))
 · exact hperm.map _

namespace State

def Ordered (byPriority:Bool) (s:State) : Prop :=
 Keys byPriority (tickets s.queue) s.nextSequence

lemma removeDeadline_eq (s:State) (t:ℕ) : ∃ tasks deadlines,
  s.removeDeadline t={ s with tasks := tasks,deadlines := deadlines } := by
 unfold removeDeadline
 split <;> exact ⟨_,_,rfl⟩

/-- Tasks and the deadline index change, and the queue keeps its tasks. -/
inductive Rearranged (byPriority:Bool) (s:State) : State → Prop
 | intro {queue:List Node} {tasks:ℕ → Task} {deadlines:List (ℤ × ℕ)}
  (h:s.Ordered byPriority → tickets queue ~ tickets s.queue) :
  Rearranged byPriority s { s with queue := queue,tasks := tasks,deadlines := deadlines }

variable {byPriority:Bool}

lemma Rearranged.trans {s u v:State} (h:Rearranged byPriority s u)
  (h':Rearranged byPriority u v) : Rearranged byPriority s v := by
 obtain ⟨hsu⟩:=h
 obtain ⟨huv⟩:=h'
 exact .intro fun hs=>(huv (Keys.perm hs (hsu hs))).trans (hsu hs)

lemma Rearranged.ordered {s s':State} (h:Rearranged byPriority s s') (hs:s.Ordered byPriority) :
  s'.Ordered byPriority := by
 obtain ⟨h⟩:=h
 exact Keys.perm hs (h hs)

lemma rearranged_promote (s:State) (t:ℕ) : Rearranged byPriority s (s.promote byPriority t) := by
 unfold promote
 split
 · exact .intro fun _=>.refl _
 split
 · exact .intro fun _=>.refl _
 · rw[(removeDeadline_eq _ t).choose_spec.choose_spec]
   exact .intro perm_toFront

lemma rearranged_watch (s:State) (t:ℕ) (now:ℤ) :
  Rearranged byPriority s (s.watch byPriority t now) := by
 have hsame:Rearranged byPriority s s:=.intro fun _=>.refl _
 grind[watch,rearranged_promote,setTask,Rearranged]

lemma rearranged_expireFront (s:State) : Rearranged byPriority s (s.expireFront byPriority) := by
 unfold expireFront
 split
 · exact .intro fun _=>.refl _
 · exact Rearranged.trans (.intro fun _=>.refl _) (rearranged_promote _ _)

lemma rearranged_expire (s:State) (now:ℤ) (fuel:ℕ) :
  Rearranged byPriority s (loop (deadlineDue now) (expireFront byPriority) fuel s) :=
 loop_invariant (I := Rearranged byPriority s)
  (fun u hu _=>hu.trans (rearranged_expireFront u)) fuel (.intro fun _=>.refl _)

lemma enqueue_eq (byPriority:Bool) (s:State) (t:ℕ) : ∃ queue tasks sequence,
  s.enqueue byPriority t={ s with queue := queue,tasks := tasks,nextSequence := sequence } := by
 unfold enqueue
 split <;> exact ⟨_,_,_,rfl⟩

lemma pending_fresh {s:State} (hs:s.Ordered true) (t:ℕ) :
  ∀ other∈s.queue,other.sequence≠(s.pending t s.nextSequence).sequence :=
 fun _ hother=>Nat.ne_of_lt ((hs rfl).2 _ (mem_map_of_mem hother))

lemma tickets_enqueue {s:State} (hs:s.Ordered byPriority) (t:ℕ) : ∃ sequence,
  tickets (s.enqueue byPriority t).queue ~ (sequence,t)::tickets s.queue := by
 unfold enqueue
 split
 · next hb =>
   subst hb
   exact ⟨s.nextSequence,(perm_mapInsert _ _ (pending_fresh hs t)).map _⟩
 · refine ⟨0,?_⟩
   change tickets (s.queue++[s.pending t 0]) ~ _
   rw[tickets,map_append]
   exact perm_append_singleton _ _

lemma ordered_enqueue {s:State} (hs:s.Ordered byPriority) (t:ℕ) :
  (s.enqueue byPriority t).Ordered byPriority := by
 intro hb
 subst hb
 obtain ⟨hnodup,hlt⟩:=hs rfl
 have hperm:=(perm_mapInsert _ _ (pending_fresh hs t)).map fun node=>(node.sequence,node.task)
 refine Keys.perm (fun _=>⟨?_,?_⟩) hperm rfl
 · simp only[map_cons,nodup_cons]
   refine ⟨fun hmem=>?_,hnodup⟩
   obtain ⟨entry,hentry,heq⟩:=mem_map.mp hmem
   exact absurd heq (Nat.ne_of_lt (hlt entry hentry))
 · intro entry hentry
   rcases mem_cons.mp hentry with rfl | hentry
   · exact Nat.lt_succ_self _
   · exact Nat.lt_succ_of_lt (hlt entry hentry)

structure SameControl (s s':State) : Prop where
 activity : s'.activity = s.activity
 target : s'.target = s.target
 started : s'.started = s.started
 stopping : s'.stopping = s.stopping
 starting : s'.starting = s.starting
 next : s'.next = s.next
 nextSequence : s'.nextSequence = s.nextSequence

lemma checkDrain_eq (s:State) : ∃ completed drained,
  s.checkDrain={ s with completed := completed,drained := drained } := by
 unfold checkDrain
 split_ifs <;> exact ⟨_,_,rfl⟩

lemma sameControl_checkDrain (s:State) : SameControl s s.checkDrain := by
 obtain ⟨completed,drained,heq⟩:=checkDrain_eq s
 rw[heq]
 exact ⟨rfl,rfl,rfl,rfl,rfl,rfl,rfl⟩

lemma checkDrain_busy (s:State) : s.checkDrain.busy=s.busy := by
 obtain ⟨completed,drained,heq⟩:=checkDrain_eq s
 rw[heq]

lemma checkDrain_queue (s:State) : s.checkDrain.queue=s.queue := by
 obtain ⟨completed,drained,heq⟩:=checkDrain_eq s
 rw[heq]

/-- A front part of the queue goes to the executor. Work is left behind only by a pool that
has not started or that has no idle executor. -/
inductive Dispatched (s:State) : State → Prop
 | intro {front rest:List Node} {tasks:ℕ → Task} {deadlines:List (ℤ × ℕ)} {armedAt:Option ℤ}
  {generation:ℕ} {waits:List (ℕ × ℤ)} (hqueue:s.queue = front ++ rest)
  (hrest:s.started = true → rest ≠ [] → s.target ≤ s.busy + front.length) :
  Dispatched s ({ s with
   queue := rest
   busy := s.busy + front.length
   spawned := s.spawned ++ front.map Node.task
   tasks := tasks
   deadlines := deadlines
   armedAt := armedAt
   deadlineGeneration := generation
   deadlineWaits := waits }.checkDrain)

inductive Dispatching (s:State) : State → Prop
 | intro {front rest:List Node} (tasks:ℕ → Task) (deadlines:List (ℤ × ℕ))
  (hqueue:s.queue = front ++ rest) : Dispatching s { s with
   queue := rest
   busy := s.busy + front.length
   spawned := s.spawned ++ front.map Node.task
   tasks := tasks
   deadlines := deadlines }

lemma dispatching_front {s u:State} (h:Dispatching s u) (hu:u.canDispatch=true) :
  Dispatching s u.dispatchFront := by
 obtain @⟨front,rest,tasks,deadlines,hqueue⟩:=h
 unfold dispatchFront
 split
 · exact .intro tasks deadlines hqueue
 next node tail htail =>
 obtain rfl:rest=node::tail:=htail
 obtain ⟨tasks',deadlines',heq⟩:=removeDeadline_eq ({ s with
  queue := tail
  busy := s.busy+front.length+1
  spawned := s.spawned++front.map Node.task++[node.task]
  tasks := tasks
  deadlines := deadlines }.setTask node.task { tasks node.task with position := none }) node.task
 have hsplit:s.queue=(front++[node])++tail:=by
  rw[hqueue,append_assoc]
  rfl
 have hnext:=Dispatching.intro tasks' deadlines' hsplit
 rw[length_append,map_append,← append_assoc] at hnext
 exact heq▸hnext

lemma canDispatch_exit (s:State) :
  (loop canDispatch dispatchFront s.queue.length s).canDispatch=false := by
 apply loop_exit (μ := fun u : State=>u.queue.length) _ _ le_rfl
 · intro u hu
   have hremove:=fun s t=>congrArg queue (removeDeadline_eq s t).choose_spec.choose_spec
   grind[canDispatch,dispatchFront,setTask]
 · grind[canDispatch]

lemma dispatched_dispatch (s:State) : Dispatched s s.dispatch := by
 have hexit:=canDispatch_exit s
 have hnone:Dispatching s s:=by
  have h:=Dispatching.intro s.tasks s.deadlines (nil_append s.queue).symm
  rw[map_nil,append_nil] at h
  exact h
 have hloop:Dispatching s (loop canDispatch dispatchFront s.queue.length s):=
  loop_invariant (fun u hu hg=>dispatching_front hu hg) _ hnone
 unfold dispatch
 generalize loop canDispatch dispatchFront s.queue.length s=u at hloop hexit
 obtain @⟨front,rest,tasks,deadlines,hqueue⟩:=hloop
 have hrest:s.started=true→ rest≠[]→ s.target≤ s.busy+front.length:=by
  intro hstarted hne
  by_contra hlt
  have hgo:s.busy+front.length < s.target:=by omega
  simp[canDispatch,hstarted,hgo,hne] at hexit
 unfold armDeadline
 split
 · exact .intro hqueue hrest
 · exact .intro hqueue hrest

lemma sameControl_dispatch (s:State) : SameControl s s.dispatch := by
 have hdispatched:=dispatched_dispatch s
 generalize s.dispatch=s' at hdispatched
 cases hdispatched
 rw[(checkDrain_eq _).choose_spec.choose_spec]
 exact ⟨rfl,rfl,rfl,rfl,rfl,rfl,rfl⟩

lemma ordered_dispatch {s:State} (hs:s.Ordered byPriority) : s.dispatch.Ordered byPriority := by
 unfold Ordered
 rw[(sameControl_dispatch s).nextSequence]
 have hdispatched:=dispatched_dispatch s
 generalize s.dispatch=s' at hdispatched
 obtain @⟨front,rest,tasks,deadlines,armedAt,generation,waits,hqueue,hrest⟩:=hdispatched
 rw[checkDrain_queue]
 intro hb
 obtain ⟨hnodup,hlt⟩:=hs hb
 rw[hqueue,tickets,map_append] at hnodup hlt
 rw[map_append] at hnodup
 exact ⟨hnodup.of_append_right,fun entry he=>hlt entry (mem_append_right _ he)⟩

end State

/-- Steps that may change nothing: calls that throw and repeated cancellations. -/
def Label.Quiet : Label → Prop
 | .addTask true _ _ | .cancel _ | .start _ _ | .stop true => True
 | _ => False

def Label.Timer : Label → Prop
 | .managerTimer _ _ | .deadlineTimer _ _ _ | .lifecycleTimer _ => True
 | _ => False

def Label.Lifecycle : Label → Prop
 | .lifecycleTimer _ | .lifecycleCancel => True
 | _ => False

open State

set_option autoImplicit true in
inductive Move (byPriority:Bool) (s:State) : Label → State → Prop
 | unchanged (hl:l.Quiet) : Move byPriority s l s
 | entered (context:Context) (priority:ℤ) :
  Move byPriority s (.addTask false context priority) (s.addTask context priority)
 | refused (h:t ∈ s.adding) :
  Move byPriority s (.reserve t) ({ s with adding := s.adding.erase t }.discard t)
 | reserved (h:t ∈ s.adding) (hopen:¬ Closed s.activity)
  (hroom:s.activity &&& kCount ≠ kCount) : Move byPriority s (.reserve t) { s with
   adding := s.adding.erase t
   activity := s.activity + 1#64
   admitted := s.admitted ++ [t] }
 | accepted (h:t ∈ s.admitted) :
  Move byPriority s (.post t) ({ s with admitted := s.admitted.erase t }.post (.insert t))
 | failed (h:t ∈ s.admitted) : Move byPriority s (.postFails t) ({ s with
   admitted := s.admitted.erase t
   activity := s.activity - 1#64
   rolledBack := s.rolledBack + 1 }.discard t)
 | rechecked (h:s.rolledBack ≠ 0) :
  Move byPriority s .recheck ({ s with rolledBack := s.rolledBack - 1 }.post .checkDrain)
 | cancelled (t:ℕ) (task:Task) :
  Move byPriority s (.cancel t) ((s.setTask t task).post (.promote t))
 | opened (config:Option ℤ) (context:Context) (hpos:0 < executors)
  (hopen:¬ Closed s.activity) : Move byPriority s (.start config context) { s with
   activity := s.activity ||| kStarted
   starting := s.starting ++ [.store executors context] }
 | stored (h:StartCall.store executors context ∈ s.starting) :
  Move byPriority s (.advance (.store executors context)) { s with
   target := executors
   starting := s.starting.erase (.store executors context) ++ [.post context] }
 | launched (h:StartCall.post context ∈ s.starting) :
  Move byPriority s (.advance (.post context))
   ({ s with starting := s.starting.erase (.post context) }.post (.start context))
 | closed (h:¬ Closed s.activity) : Move byPriority s (.stop false) { s with
   activity := s.activity ||| kClosed
   stops := s.stops + 1 }
 | joined (h:Closed s.activity) : Move byPriority s (.stop false) { s with
   activity := s.activity ||| kClosed
   waiting := s.waiting + 1 }
 | stopPosted (h:s.stops ≠ 0) : Move byPriority s .postStop
   ({ s with stops := s.stops - 1,waiting := s.waiting + 1 }.post .stop)
 | stopReturned (h:s.waiting ≠ 0) :
  Move byPriority s .stopReturns { s with waiting := s.waiting - 1 }
 | startedLate (moment:Moment) (h:.start context ∈ s.posted)
  (hs:s.stopping = true) : Move byPriority s (.strand (.start context) moment)
   { s with posted := s.posted.erase (.start context) }
 | started {cancellations waits lifecycleWaits:ℕ}
  (moment:Moment) (h:.start context ∈ s.posted) (hs:s.stopping = false) :
  Move byPriority s (.strand (.start context) moment) ({ s with
   posted := s.posted.erase (.start context)
   started := true
   managerActive := manager
   lifecycleCancellations := cancellations
   lifecycleWaits := lifecycleWaits
   managerWaits := waits }.dispatch)
 | stopped (moment:Moment) (h:.stop ∈ s.posted) :
  Move byPriority s (.strand .stop moment) ({ s with
   posted := s.posted.erase .stop
   stopping := true
   started := true
   managerActive := false
   lifecycleCancellations := 0 }.dispatch)
 | inserted (moment:Moment) (h:.insert t ∈ s.posted)
  (hcore:Rearranged byPriority
   ({ s with posted := s.posted.erase (.insert t) }.enqueue byPriority t) core) :
  Move byPriority s (.strand (.insert t) moment) core.dispatch
 | promotedLate (moment:Moment) (h:.promote t ∈ s.posted) :
  Move byPriority s (.strand (.promote t) moment) { s with posted := s.posted.erase (.promote t) }
 | promoted (moment:Moment) (h:.promote t ∈ s.posted)
  (hcore:Rearranged byPriority { s with posted := s.posted.erase (.promote t) } core) :
  Move byPriority s (.strand (.promote t) moment) core.dispatch
 | completed (moment:Moment) (h:.complete ∈ s.posted) :
  Move byPriority s (.strand .complete moment) ({ s with
   posted := s.posted.erase .complete
   busy := s.busy - 1
   activity := s.activity - 1#64 }.dispatch)
 | checked (moment:Moment) (h:.checkDrain ∈ s.posted) :
  Move byPriority s (.strand .checkDrain moment)
   { s with posted := s.posted.erase .checkDrain }.checkDrain
 | managerStopped (moment:Moment) (h:.stopManager ∈ s.posted) :
  Move byPriority s (.strand .stopManager moment)
   { s with posted := s.posted.erase .stopManager,managerActive := false }
 | waited {l:Label} {managerWaits lifecycleWaits:ℕ} {deadlineWaits:List (ℕ × ℤ)}
  (hl:l.Timer) : Move byPriority s l { s with
   managerWaits := managerWaits
   lifecycleWaits := lifecycleWaits
   deadlineWaits := deadlineWaits }
 | resized {target waits:ℕ} (config:Option ℤ) (htarget:target = s.target ∨ 0 < target) :
  Move byPriority s (.managerTimer false config)
   ({ s with managerWaits := waits,target := target }.dispatch.scheduleManager)
 | expired (wait:ℕ × ℤ) (now:ℤ)
  (hcore:Rearranged byPriority { s with deadlineWaits := waits,armedAt := none } core) :
  Move byPriority s (.deadlineTimer wait false now) core.dispatch
 | released (hl:l.Lifecycle) : Move byPriority s l
   ({ s with lifecycleCancellations := cancellations,lifecycleWaits := waits }.post .stopManager)
 | invoked (h:t ∈ s.spawned) : Move byPriority s (.invoke t)
   ({ s with spawned := s.spawned.erase t,running := s.running ++ [t] }.discard t)
 | finished (h:t ∈ s.running) :
  Move byPriority s (.finish t) ({ s with running := s.running.erase t }.post .complete)

section Step
variable {byPriority:Bool} {hardware:ℕ} {s s':State}

lemma move_reserve {t:ℕ} (h:step byPriority hardware s (.reserve t)=some s') :
  Move byPriority s (.reserve t) s' := by
 grind[step,reserve,Move,Closed]

lemma move_start (config:Option ℤ) (context:Context) :
  Move byPriority s (.start config context) (unlessThrown s (s.start hardware config context)) := by
 unfold State.start configuredExecutors
 cases hcount:resolveExecutors hardware (config.getD s.fallbackExecutors) with
 | error e => exact .unchanged trivial
 | ok executors =>
  change Move byPriority s _ (unlessThrown s (if s.activity &&& kClosed≠0 then _ else _))
  split
  · exact .unchanged trivial
  next hopen =>
  split
  · exact .unchanged trivial
  · exact .opened config context (resolveExecutors_pos hcount) hopen

lemma move_stop (own:Bool) :
  Move byPriority s (.stop own) (unlessThrown s (s.stop own)) := by
 cases own with
 | true => exact .unchanged trivial
 | false =>
  change Move byPriority s _ (unlessThrown s (if s.activity &&& kClosed=0 then _ else _))
  split
  · next hopen => exact .closed fun h=>h hopen
  · next hclosed => exact .joined hclosed

lemma move_handle {handler:Handler} (moment:Moment) (h:handler∈s.posted) :
  Move byPriority s (.strand handler moment)
   ({ s with posted := s.posted.erase handler }.handle byPriority moment handler) := by
 grind[Handler,Move,handle,promote,checkDrain,stopManager,State.installLifecycle,
  State.dispatch,State.scheduleManager,rearranged_watch,rearranged_promote]

lemma move_managerTimer (config:Option ℤ) (waits:ℕ) :
  Move byPriority s (.managerTimer false config)
   ({ s with managerWaits := waits }.managerTimer hardware config) := by
 unfold managerTimer configuredExecutors
 cases hcount:resolveExecutors hardware (config.getD s.fallbackExecutors) with
 | error e => exact .resized config (.inl rfl)
 | ok executors => exact .resized config (.inr (resolveExecutors_pos hcount))

lemma move_of_step {l:Label} (h:step byPriority hardware s l=some s') :
  Move byPriority s l s' := by
 cases l with
 | addTask cancelled => cases cancelled <;> grind[step,Move,Label.Quiet]
 | reserve t => exact move_reserve h
 | start config context =>
  cases h
  exact move_start config context
 | stop own =>
  cases h
  exact move_stop own
 | strand handler moment => grind[step,move_handle]
 | managerTimer error config => grind[step,Move,Label.Timer,move_managerTimer]
 | deadlineTimer wait error now => grind[step,Move,Label.Timer,expireDeadlines,rearranged_expire]
 | advance call => cases call <;> grind[step,Move]
 | cancel t => grind[step,Move,State.cancel,Label.Quiet]
 | _ => grind[step,Move,Label.Timer,Label.Lifecycle]

end Step

lemma ordered_of_move {byPriority:Bool} {s s':State} {l:Label} (hs:s.Ordered byPriority)
  (h:Move byPriority s l s') : s'.Ordered byPriority := by
 cases h with
 | started | stopped | completed => exact ordered_dispatch hs
 | @inserted core t moment hh hcore =>
  have hbase:{ s with posted:=s.posted.erase (.insert t) }.Ordered byPriority := hs
  exact ordered_dispatch (hcore.ordered (ordered_enqueue hbase t))
 | promoted moment hh hcore => exact ordered_dispatch (hcore.ordered hs)
 | expired wait now hcore => exact ordered_dispatch (hcore.ordered hs)
 | @resized target waits config htarget =>
  have hcore:{ s with managerWaits:=waits,target := target }.Ordered byPriority := hs
  exact ordered_dispatch hcore
 | checked moment hh =>
  unfold Ordered
  rw[checkDrain_queue,(sameControl_checkDrain _).nextSequence]
  exact hs
 | _ => exact hs

end ServiceLib.QueuedPool
