import ServiceLib.QueuedPoolFlow
import ServiceLib.Transition

set_option autoImplicit false
attribute [-instance] instBooleanRingBool

/-!
# Every accepted task runs once, and the pool drains once

A closed pool is stopping or has a stop on its way, a started one has started or will, and a
stopping pool has drained, still counts work, or has a drain check on its way.
-/
namespace ServiceLib.QueuedPool
open State List Tokens Transition

def pendingStop : Token → ℕ
 | .stop | .posted .stop => 1
 | _ => 0

def pendingStart : Token → ℕ
 | .starting _ | .posted (.start _) => 1
 | _ => 0

def pendingCheck : Token → ℕ
 | .rolledBack | .posted .checkDrain => 1
 | _ => 0

structure Ready (s:State) : Prop where
 target : 0 < s.target
 calls : ∀ executors context,StartCall.store executors context ∈ s.starting → 0 < executors
 closed : Closed s.activity ↔ s.stopping = true ∨ 0 < s.weigh pendingStop
 stopping : s.stopping = true → s.started = true
 started : Started s.activity → s.started = true ∨ 0 < s.weigh pendingStart
 completed : s.completed = true → s.stopping = true ∧ count s.activity = 0
 drained : s.drained = if s.completed then 1 else 0

structure Steady (s:State) : Prop extends Ready s where
 busy : s.started = true → s.queue ≠ [] → 0 < s.busy
 draining : s.stopping = true → s.completed = true ∨ count s.activity ≠ 0 ∨ 0 < s.weigh pendingCheck

lemma Ready.started_of_le {s:State} {n:ℕ} (h:Ready s) (hs:Started s.activity)
  (hle:s.weigh pendingStart≤n) : s.started=true∨0 < n :=
 (h.started hs).imp_right fun hpos=>Nat.lt_of_lt_of_le hpos hle

lemma Steady.draining_of_le {s:State} {n:ℕ} (h:Steady s) (hs:s.stopping=true)
  (hle:s.weigh pendingCheck≤n) : s.completed=true∨count s.activity≠0∨0 < n :=
 (h.draining hs).imp_right fun h=>h.imp_right fun hpos=>Nat.lt_of_lt_of_le hpos hle

/-- `u` has the flags of `s`, and its count once the pool has completed. -/
structure SameFlags (s u:State) : Prop where
 closed : Closed u.activity ↔ Closed s.activity
 starts : Started u.activity → Started s.activity
 count : s.completed = true → QueuedPool.count u.activity = QueuedPool.count s.activity
 target : u.target = s.target
 started : u.started = s.started
 stopping : u.stopping = s.stopping
 completed : u.completed = s.completed
 drained : u.drained = s.drained

lemma sameFlags_of_eq {s u:State} (activity:u.activity=s.activity) (target:u.target=s.target)
  (started:u.started=s.started) (stopping:u.stopping=s.stopping)
  (completed:u.completed=s.completed) (drained:u.drained=s.drained) : SameFlags s u := by
 refine ⟨?_,?_,?_,target,started,stopping,completed,drained⟩
 · rw[activity]
 · rw[activity]
   exact id
 · intro _
   rw[activity]

lemma Ready.keep {s u:State} (h:Ready s) (hu:SameFlags s u)
  (hcalls:∀ call∈u.starting,call∈s.starting)
  (hstop:u.weigh pendingStop=s.weigh pendingStop)
  (hstart:s.started=true∨s.weigh pendingStart≤u.weigh pendingStart) : Ready u := by
 constructor <;> grind[Ready,SameFlags]

lemma checkDrain_cases (s:State) :
  (s.stopping=false∨s.completed=true)∧s.checkDrain=s ∨
  s.stopping=true∧s.completed=false∧count s.activity=0 ∧
   s.checkDrain={ s with completed := true,drained := s.drained+1 } ∨
  s.stopping=true∧s.completed=false∧count s.activity≠0∧s.checkDrain=s := by
 unfold checkDrain
 split
 · next h => exact .inl ⟨h,rfl⟩
 next h =>
 obtain ⟨hs,hc⟩:=not_or.mp h
 have hs:s.stopping=true:=by simpa using hs
 have hc:s.completed=false:=by simpa using hc
 split
 · next hzero => exact .inr (.inl ⟨hs,hc,count_eq_zero.mp hzero,rfl⟩)
 · next hne => exact .inr (.inr ⟨hs,hc,fun hzero=>hne (count_eq_zero.mpr hzero),rfl⟩)

lemma Ready.checkDrain {s:State} (h:Ready s) (hbusy:s.started=true→ s.queue≠[]→0 < s.busy) :
  Steady s.checkDrain := by
 rcases checkDrain_cases s with ⟨hdone,heq⟩ | ⟨hs,hc,hzero,heq⟩ | ⟨hs,hc,hne,heq⟩
 · rw[heq]
   refine ⟨h,hbusy,fun hs=>?_⟩
   rcases hdone with hstop | hc
   · rw[hstop] at hs
     cases hs
   · exact .inl hc
 · rw[heq]
   have hsame:SameTokens s { s with completed:=true,drained := s.drained+1 } :=
    ⟨rfl,rfl,rfl,rfl,rfl,rfl,rfl,rfl,rfl,rfl⟩
   have hdrained:=h.drained
   rw[hc] at hdrained
   refine ⟨⟨h.target,h.calls,?_,h.stopping,?_,fun _=>⟨hs,hzero⟩,
    congrArg (·+1) hdrained⟩,hbusy,fun _=>.inl rfl⟩
   · rw[hsame.weigh]
     exact h.closed
   · rw[hsame.weigh]
     exact h.started
 · rw[heq]
   exact ⟨h,hbusy,fun _=>.inr (.inl hne)⟩

lemma Ready.dispatch {s:State} (h:Ready s) : Steady s.dispatch := by
 have hstop:=weigh_dispatch_eq pendingStop (fun _=>rfl) s
 have hstart:=weigh_dispatch_eq pendingStart (fun _=>rfl) s
 have hdispatched:=dispatched_dispatch s
 generalize s.dispatch=s' at hdispatched hstop hstart
 obtain @⟨front,rest,tasks,deadlines,armedAt,generation,waits,hqueue,hrest⟩:=hdispatched
 rw[weigh_checkDrain] at hstop hstart
 refine Ready.checkDrain (h.keep (sameFlags_of_eq rfl rfl rfl rfl rfl rfl)
  (fun _ hc=>hc) hstop (.inr hstart.ge)) ?_
 intro hs hne
 exact Nat.lt_of_lt_of_le h.target (hrest hs hne)

section Change
variable {s:State} {l:Label} {taken given:List Token} {next:ℕ}

lemma Change.pendingStop_eq (h:Change s l taken given next) (hstop:l≠ .stop false)
  (hl:∀ moment,l≠ .strand .stop moment) : total pendingStop taken=total pendingStop given := by
 cases h with
 | handled handler moment _ =>
  cases handler with
  | stop => exact absurd rfl (hl moment)
  | _ => rfl
 | closed => exact absurd rfl hstop
 | joined => exact absurd rfl hstop
 | _ => rfl

lemma Change.pendingStart_le (h:Change s l taken given next)
  (hl:∀ context moment,l≠ .strand (.start context) moment) :
  total pendingStart taken≤total pendingStart given := by
 cases h with
 | handled handler moment _ =>
  cases handler with
  | start context => exact absurd rfl (hl context moment)
  | _ => exact Nat.le_refl 0
 | opened => exact Nat.zero_le _
 | _ => exact Nat.le_refl _

lemma Change.pendingCheck_le (h:Change s l taken given next)
  (hl:∀ moment,l≠ .strand .checkDrain moment) : total pendingCheck taken≤total pendingCheck given := by
 cases h with
 | handled handler moment _ =>
  cases handler with
  | checkDrain => exact absurd rfl (hl moment)
  | _ => exact Nat.le_refl 0
 | failed => exact Nat.zero_le _
 | _ => exact Nat.le_refl _

end Change

section Flow
variable {s s':State} {l:Label}

lemma Flow.pendingStop_eq (h:Flow s l s') (hstop:l≠ .stop false)
  (hl:∀ moment,l≠ .strand .stop moment) : s'.weigh pendingStop=s.weigh pendingStop := by
 obtain ⟨taken,given,next,change,-,heq⟩:=h.trade pendingStop fun _=>rfl
 have:=change.pendingStop_eq hstop hl
 omega

lemma Flow.pendingStart_le (h:Flow s l s') (hl:∀ context moment,l≠ .strand (.start context) moment) :
  s.weigh pendingStart≤ s'.weigh pendingStart := by
 obtain ⟨taken,given,next,change,-,heq⟩:=h.trade pendingStart fun _=>rfl
 have:=change.pendingStart_le hl
 omega

lemma Flow.pendingCheck_le (h:Flow s l s') (hl:∀ moment,l≠ .strand .checkDrain moment) :
  s.weigh pendingCheck≤ s'.weigh pendingCheck := by
 obtain ⟨taken,given,next,change,-,heq⟩:=h.trade pendingCheck fun _=>rfl
 have:=change.pendingCheck_le hl
 omega

end Flow

def Label.Settles : Label → Prop
 | .stop false | .strand .stop _ | .strand (.start _) _ | .strand .checkDrain _ => True
 | _ => False

lemma Label.Timer.not_settles {l:Label} (h:l.Timer) : ¬ l.Settles := by
 cases l with
 | managerTimer | deadlineTimer | lifecycleTimer => exact id
 | _ => exact h.elim

lemma Label.Lifecycle.not_settles {l:Label} (h:l.Lifecycle) : ¬ l.Settles := by
 cases l with
 | lifecycleTimer | lifecycleCancel => exact id
 | _ => exact h.elim

section Steady
variable {byPriority:Bool} {s s' core:State} {l:Label}

lemma Ready.still (h:Ready s) (hflow:Flow s l s') (hl:¬ l.Settles) (hu:SameFlags s s')
  (hcalls:∀ call∈s'.starting,call∈s.starting) : Ready s' := by
 refine h.keep hu hcalls (hflow.pendingStop_eq ?_ ?_) (.inr (hflow.pendingStart_le ?_))
 · rintro rfl
   exact hl trivial
 · rintro moment rfl
   exact hl trivial
 · rintro context moment rfl
   exact hl trivial

lemma Steady.still (h:Steady s) (hflow:Flow s l s') (hl:¬ l.Settles)
    (hactivity:s'.activity=s.activity) (hu:SameFlags s s')
    (hcalls:∀ call∈s'.starting,call∈s.starting) (hqueue:s'.queue=s.queue)
    (hbusy:s'.busy=s.busy) : Steady s' where
 toReady := h.toReady.still hflow hl hu hcalls
 busy hs:=by
  rw[hu.started] at hs
  rw[hqueue,hbusy]
  exact h.busy hs
 draining hs:=by
  have hcheck:=hflow.pendingCheck_le (by rintro moment rfl; exact hl trivial)
  rw[hu.stopping] at hs
  rw[hu.completed,hactivity]
  exact h.draining_of_le hs hcheck

lemma Ready.dispatched (h:Ready s) (hflow:Flow s l core.dispatch) (hl:¬ l.Settles)
  (hu:SameFlags s core) (hcalls:core.starting=s.starting) : Steady core.dispatch := by
 have hstop:=hflow.pendingStop_eq (by rintro rfl; exact hl trivial) (by rintro moment rfl; exact hl trivial)
 have hstart:=hflow.pendingStart_le (by rintro context moment rfl; exact hl trivial)
 rw[weigh_dispatch_eq pendingStop fun _=>rfl] at hstop
 rw[weigh_dispatch_eq pendingStart fun _=>rfl] at hstart
 exact (h.keep hu (fun call hc=>hcalls▸hc) hstop (.inr hstart)).dispatch

lemma Rearranged.sameFlags (h:Rearranged byPriority s core) :
  SameFlags s core∧core.starting=s.starting := by
 cases h
 exact ⟨sameFlags_of_eq rfl rfl rfl rfl rfl rfl,rfl⟩

lemma Ready.not_completed (h:Ready s) (hcount:count s.activity≠0) : s.completed=false := by
 by_contra hc
 exact hcount (h.completed (by simpa using hc)).2

lemma Ready.not_stopping (h:Ready s) (hopen:¬ Closed s.activity) : s.stopping=false := by
 by_contra hs
 exact hopen (h.closed.mpr (.inl (by simpa using hs)))

lemma sameFlags_release {u:State} (h:Ready s) (hcount:count s.activity≠0)
  (activity:u.activity=s.activity - 1#64) (target:u.target=s.target)
  (started:u.started=s.started) (stopping:u.stopping=s.stopping)
  (completed:u.completed=s.completed) (drained:u.drained=s.drained) : SameFlags s u := by
 refine ⟨?_,?_,fun hc=>?_,target,started,stopping,completed,drained⟩
 · rw[activity]
   exact closed_release hcount
 · rw[activity]
   exact (started_release hcount).mp
 · rw[h.not_completed hcount] at hc
   cases hc

lemma Steady.schedule (h:Steady s) : Steady s.scheduleManager := by
 have hsame:SameTokens s s.scheduleManager:=⟨rfl,rfl,rfl,rfl,rfl,rfl,rfl,rfl,rfl,rfl⟩
 refine ⟨h.toReady.keep (sameFlags_of_eq rfl rfl rfl rfl rfl rfl) (fun _ hc=>hc) (hsame.weigh _)
  (.inr (hsame.weigh _).ge),h.busy,?_⟩
 rw[hsame.weigh]
 exact h.draining

lemma steady_of_move (hordered:s.Ordered byPriority) (hs:Accounts s) (h:Steady s)
  (hmove:Move byPriority s l s') : Steady s' := by
 have hflow:=flow_of_move hordered hs hmove
 cases hmove with
 | unchanged => exact h
 | entered | refused | accepted | rechecked | cancelled | stopPosted | stopReturned | promotedLate
  | managerStopped | invoked | finished =>
  exact h.still hflow id rfl (sameFlags_of_eq rfl rfl rfl rfl rfl rfl) (fun _ hc=>hc) rfl rfl
 | launched =>
  exact h.still hflow id rfl (sameFlags_of_eq rfl rfl rfl rfl rfl rfl)
   (fun _ hc=>mem_of_mem_erase hc) rfl rfl
 | waited hl =>
  exact h.still hflow hl.not_settles rfl (sameFlags_of_eq rfl rfl rfl rfl rfl rfl) (fun _ hc=>hc) rfl rfl
 | released hl =>
  exact h.still hflow hl.not_settles rfl (sameFlags_of_eq rfl rfl rfl rfl rfl rfl) (fun _ hc=>hc) rfl rfl
 | reserved ht hopen hroom =>
  have hstopping:=h.not_stopping hopen
  refine ⟨h.toReady.still hflow id ⟨closed_reserve hroom,(started_reserve hroom).mp,fun hc=>?_,rfl,
   rfl,rfl,rfl,rfl⟩ fun _ hc=>hc,h.busy,fun hst=>?_⟩
  · have:=(h.completed hc).1
    rw[hstopping] at this
    cases this
  · exact absurd hst (by simp[hstopping])
 | failed ht =>
  have hcount:=hs.count_ne_zero_of_admitted ht
  refine ⟨h.toReady.still hflow id (sameFlags_release h.toReady hcount rfl rfl rfl rfl rfl rfl)
   fun _ hc=>hc,h.busy,fun _=>.inr (.inr ?_)⟩
  -- the rolled back call will check the drain
  have:=(trade_fail hs ht).weigh pendingCheck
  simp only[total_cons,total_nil,pendingCheck] at this
  omega
 | @opened executors config context hpos hopen =>
  have hstop:=hflow.pendingStop_eq (by simp) (by simp)
  have hcheck:=hflow.pendingCheck_le (by simp)
  have hstart:=(trade_start s executors context).weigh pendingStart
  simp only[total_cons,total_nil,pendingStart] at hstart
  refine ⟨⟨h.target,fun n c hc=>?_,?_,h.stopping,fun _=>.inr (by omega),fun hc=>?_,h.drained⟩,
   h.busy,fun hst=>?_⟩
  · rcases mem_append.mp hc with hc | hc
    · exact h.calls n c hc
    · cases mem_singleton.mp hc
      exact hpos
  · rw[closed_start,hstop]
    exact h.closed
  · rw[count_start]
    exact h.completed hc
  · rw[count_start]
    exact h.draining_of_le hst hcheck
 | @stored executors context hc =>
  have hstop:=hflow.pendingStop_eq (by simp) (by simp)
  have hstart:=hflow.pendingStart_le (by simp)
  have hcheck:=hflow.pendingCheck_le (by simp)
  refine ⟨⟨h.calls _ _ hc,fun n c hc=>?_,?_,h.stopping,fun hst=>?_,h.completed,h.drained⟩,
   h.busy,fun hst=>?_⟩
  · rcases mem_append.mp hc with hc | hc
    · exact h.calls n c (mem_of_mem_erase hc)
    · cases mem_singleton.mp hc
  · rw[hstop]
    exact h.closed
  · exact h.started_of_le hst hstart
  · exact h.draining_of_le hst hcheck
 | closed hopen =>
  have hstart:=hflow.pendingStart_le (by simp)
  have hstop:=(trade_close s).weigh pendingStop
  simp only[total_cons,total_nil,pendingStop] at hstop
  have hstopping:=h.not_stopping hopen
  refine ⟨⟨h.target,h.calls,⟨fun _=>.inr (by omega),fun _=>closed_close _⟩,h.stopping,fun hst=>?_,
   fun hc=>?_,h.drained⟩,h.busy,fun hst=>absurd hst (by simp[hstopping])⟩
  · exact h.started_of_le ((started_close _).mp hst) hstart
  · rw[count_close]
    exact h.completed hc
 | joined hclosed =>
  have hstart:=hflow.pendingStart_le (by simp)
  have hcheck:=hflow.pendingCheck_le (by simp)
  have hstop:=(trade_join s).weigh pendingStop
  simp only[total_cons,total_nil,pendingStop,Nat.add_zero] at hstop
  refine ⟨⟨h.target,h.calls,⟨fun _=>?_,fun _=>closed_close _⟩,h.stopping,fun hst=>?_,
   fun hc=>?_,h.drained⟩,h.busy,fun hst=>?_⟩
  · rw[hstop]
    exact h.closed.mp hclosed
  · exact h.started_of_le ((started_close _).mp hst) hstart
  · rw[count_close]
    exact h.completed hc
  · rw[count_close]
    exact h.draining_of_le hst hcheck
 | startedLate moment hh hstopping =>
  have hstop:=hflow.pendingStop_eq (by simp) (by simp)
  have hcheck:=hflow.pendingCheck_le (by simp)
  refine ⟨h.toReady.keep (sameFlags_of_eq rfl rfl rfl rfl rfl rfl) (fun _ hc=>hc) hstop
   (.inl (h.stopping hstopping)),h.busy,fun hst=>?_⟩
  exact h.draining_of_le hst hcheck
 | started moment hh hstopping =>
  have hstop:=hflow.pendingStop_eq (by simp) (by simp)
  rw[weigh_dispatch_eq pendingStop fun _=>rfl] at hstop
  refine Ready.dispatch ⟨h.target,h.calls,?_,fun _=>rfl,fun _=>.inl rfl,h.completed,h.drained⟩
  rw[hstop]
  exact h.closed
 | stopped moment hh =>
  have hclosed:=h.closed.mpr (.inr (le_weigh_posted (w:=pendingStop) hh))
  exact Ready.dispatch ⟨h.target,h.calls,⟨fun _=>.inl rfl,fun _=>hclosed⟩,fun _=>rfl,
   fun _=>.inl rfl,fun hc=>⟨rfl,(h.completed hc).2⟩,h.drained⟩
 | @inserted core t moment hh hcore =>
  obtain ⟨queue,tasks,sequence,heq⟩:=
   enqueue_eq byPriority { s with posted := s.posted.erase (.insert t) } t
  rw[heq] at hcore
  obtain ⟨hu,hcalls⟩:=Rearranged.sameFlags hcore
  exact h.toReady.dispatched hflow id ⟨hu.1,hu.2,hu.3,hu.4,hu.5,hu.6,hu.7,hu.8⟩ hcalls
 | promoted moment hh hcore =>
  obtain ⟨hu,hcalls⟩:=Rearranged.sameFlags hcore
  exact h.toReady.dispatched hflow id ⟨hu.1,hu.2,hu.3,hu.4,hu.5,hu.6,hu.7,hu.8⟩ hcalls
 | completed moment hh =>
  have hcount:=hs.count_ne_zero_of_complete hh
  exact h.toReady.dispatched hflow id (sameFlags_release h.toReady hcount rfl rfl rfl rfl rfl rfl) rfl
 | checked moment hh =>
  have hstop:=hflow.pendingStop_eq (by simp) (by simp)
  have hstart:=hflow.pendingStart_le (by simp)
  rw[weigh_checkDrain] at hstop hstart
  have hbase:Ready { s with posted:=s.posted.erase .checkDrain } :=
   h.toReady.keep (sameFlags_of_eq rfl rfl rfl rfl rfl rfl) (fun _ hc=>hc) hstop (.inr hstart)
  exact hbase.checkDrain h.busy
 | @resized target waits config htarget =>
  have hpos:0 < target:=htarget.elim (fun heq=>heq▸h.target) id
  have hsame:SameTokens s { s with managerWaits:=waits,target := target } :=
   ⟨rfl,rfl,rfl,rfl,rfl,rfl,rfl,rfl,rfl,rfl⟩
  have hcore:Ready { s with managerWaits:=waits,target := target }:=by
   refine ⟨hpos,h.calls,?_,h.stopping,?_,h.completed,h.drained⟩
   · rw[hsame.weigh]
     exact h.closed
   · rw[hsame.weigh]
     exact h.started
  exact hcore.dispatch.schedule
 | expired wait now hcore =>
  obtain ⟨hu,hcalls⟩:=Rearranged.sameFlags hcore
  exact h.toReady.dispatched hflow id ⟨hu.1,hu.2,hu.3,hu.4,hu.5,hu.6,hu.7,hu.8⟩ hcalls

end Steady

end ServiceLib.QueuedPool
