import ServiceLib.DelayPoolTimers
import ServiceLib.Transition

set_option autoImplicit false
attribute [-instance] instBooleanRingBool

/-!
# Runs of the delay pool

Every accepted task is on its way or has run, exactly once, and the pool drains once. The steps
the pool owes, timer waits included, come to an end.
-/
namespace ServiceLib.DelayPool
open State List Loop Tokens Transition

def unrunToken (t:ℕ) : Token → ℕ
 | .insert u | .queued u | .spawned u => if u = t then 1 else 0
 | _ => 0

def enteringToken (t:ℕ) : Token → ℕ
 | .adding u | .admitted u => if u = t then 1 else 0
 | _ => 0

def admittedToken : Token → ℕ
 | .admitted _ => 1
 | _ => 0

def signalToken : Token → ℕ
 | .signal _ => 1
 | _ => 0

def sendToken : Token → ℕ
 | .send _ => 1
 | _ => 0

def effort : Token → ℕ
 | .adding _ => 11
 | .admitted _ => 10
 | .insert _ => 9
 | .queued _ => 7
 | .spawned _ => 5
 | .running _ => 4
 | .signal _ => 3
 | .send _ => 2
 | .waiting => 1
 | .cancel _ => 1

def Label.isPost : Label → Bool
 | .post _ => true
 | _ => false

def Label.isFinish : Label → Bool
 | .finish _ => true
 | _ => false

section Change
variable {s:State} {l:Label} {taken given:List Token} {next:ℕ}

lemma Change.unrun_eq (h:Change s l taken given next) (t:ℕ) :
  [l].count (.invoke t)+total (unrunToken t) given =
   total (unrunToken t) taken+[l].count (.post t) := by
 cases h with
 | none hl =>
  cases l with
  | delay | cancel | start | stop => simp
  | _ => exact hl.elim
 | failed t hgiven => rcases hgiven with rfl | rfl <;> simp[unrunToken]
 | finished t hgiven => rcases hgiven with rfl | rfl <;> simp[unrunToken]
 | stopped htoken => rcases htoken with rfl | rfl <;> simp[unrunToken]
 | inserted now htoken => rcases htoken with rfl | rfl <;> simp[unrunToken]
 | fired wait now moved =>
  have heq:total (unrunToken t) (moved.map .queued)=total (unrunToken t) (moved.map .spawned):=by
   simp only[total,map_map]
   rfl
  simp[heq]
 | resignalled stop => cases stop <;> simp[unrunToken,DelayPool.signalled]
 | sent stop => cases stop <;> simp[unrunToken,DelayPool.signalled]
 | _ => simp[unrunToken,count_singleton]

lemma Change.entering_le (h:Change s l taken given next) (t:ℕ) :
  [l].count (.post t)+total (enteringToken t) given+(if t < s.next then 1 else 0) ≤
   total (enteringToken t) taken+(if t < next then 1 else 0) := by
 cases h with
 | none hl =>
  cases l with
  | delay | cancel | start | stop => simp
  | _ => exact hl.elim
 | entered cancelled now context duration => grind[total_cons,enteringToken]
 | failed t hgiven => rcases hgiven with rfl | rfl <;> simp[enteringToken]
 | finished t hgiven => rcases hgiven with rfl | rfl <;> simp[enteringToken]
 | stopped htoken => rcases htoken with rfl | rfl <;> simp[enteringToken]
 | inserted now htoken => rcases htoken with rfl | rfl <;> simp[enteringToken]
 | fired wait now moved =>
  rw[total_map_const (enteringToken t) (c := 0) (fun _=>rfl),
   total_map_const (enteringToken t) (c := 0) fun _=>rfl]
  simp
 | resignalled stop => cases stop <;> simp[enteringToken,DelayPool.signalled]
 | sent stop => cases stop <;> simp[enteringToken,DelayPool.signalled]
 | _ => simp[enteringToken,count_singleton]

lemma Change.held_eq (h:Change s l taken given next) :
  total held given+[l].countP Label.isFinish+total admittedToken taken =
   total held taken+[l].countP Label.isPost+total admittedToken given := by
 cases h with
 | none hl =>
  cases l with
  | delay | cancel | start | stop => simp[Label.isFinish,Label.isPost]
  | _ => exact hl.elim
 | failed t hgiven => rcases hgiven with rfl | rfl <;> rfl
 | finished t hgiven => rcases hgiven with rfl | rfl <;> rfl
 | stopped htoken => rcases htoken with rfl | rfl <;> rfl
 | inserted now htoken => rcases htoken with rfl | rfl <;> rfl
 | fired wait now moved =>
  rw[total_map_const held (c := 1) (fun _=>rfl),total_map_const held (c := 1) (fun _=>rfl),
   total_map_const admittedToken (c := 0) (fun _=>rfl),total_map_const admittedToken (c := 0) fun _=>rfl]
  simp[Label.isFinish,Label.isPost]
 | resignalled stop => cases stop <;> rfl
 | sent stop => cases stop <;> rfl
 | _ => rfl

lemma Change.admitted_le (h:Change s l taken given next) (hclosed:s.closed=true) :
  [l].countP Label.isPost+total admittedToken given≤total admittedToken taken := by
 cases h with
 | none hl =>
  cases l with
  | delay | cancel | start | stop => simp[Label.isPost]
  | _ => exact hl.elim
 | reserved t hopen =>
  rw[hclosed] at hopen
  cases hopen
 | failed t hgiven => rcases hgiven with rfl | rfl <;> simp[Label.isPost,admittedToken]
 | finished t hgiven => rcases hgiven with rfl | rfl <;> simp[Label.isPost,admittedToken]
 | stopped htoken => rcases htoken with rfl | rfl <;> simp[Label.isPost,admittedToken]
 | inserted now htoken => rcases htoken with rfl | rfl <;> simp[Label.isPost,admittedToken]
 | fired wait now moved =>
  rw[total_map_const admittedToken (c := 0) (fun _=>rfl),total_map_const admittedToken (c := 0) fun _=>rfl]
  simp[Label.isPost]
 | resignalled stop => cases stop <;> simp[Label.isPost,admittedToken,DelayPool.signalled]
 | sent stop => cases stop <;> simp[Label.isPost,admittedToken,DelayPool.signalled]
 | _ => simp[Label.isPost,admittedToken]

end Change

structure Draining (s:State) : Prop where
 sent : s.drained + s.weigh sendToken = if s.drainSignalled then 1 else 0
 flagged : s.drainSignalled = true → s.closed = true ∧ s.activeTasks = 0
 signals : 0 < s.weigh signalToken → s.closed = true ∧ s.activeTasks = 0
 owed : s.closed = true → s.activeTasks = 0 → s.drainSignalled = true ∨ 0 < s.weigh signalToken

section Draining
variable {s s':State} {l:Label}

lemma Draining.keep (h:Draining s) (hsend:s'.weigh sendToken=s.weigh sendToken)
  (hsignal:s'.weigh signalToken=s.weigh signalToken) (hdrained:s'.drained=s.drained)
  (hflag:s'.drainSignalled=s.drainSignalled) (hclosed:s'.closed=s.closed)
  (hactive:s.closed=true→ s'.activeTasks=s.activeTasks) : Draining s' := by
 refine ⟨?_,fun hs=>?_,fun hs=>?_,fun hc hz=>?_⟩
 · rw[hsend,hdrained,hflag]
   exact h.sent
 · grind[Draining.flagged]
 · grind[Draining.signals]
 · grind[Draining.owed]

lemma Draining.not_signalled (h:Draining s) (hactive:s.activeTasks≠0) :
  s.drainSignalled=false∧s.weigh signalToken=0 := by
 constructor
 · by_contra hs
   exact hactive (h.flagged (by simpa using hs)).2
 · by_contra hs
   exact hactive (h.signals (Nat.pos_of_ne_zero hs)).2

lemma weigh_retire {taken:Token} (ht:taken∈s.pending) (w:Token→ℕ) :
  (s.retire taken).weigh w+w taken =
   s.weigh w+if s.closed=true∧s.activeTasks - 1=0 then w (.signal false) else 0 := by
 have hweigh:(s.retire taken).weigh w+w taken=_:=weigh_exchange ht _
 rw[hweigh]
 split <;> simp

lemma Draining.retire (h:Draining s) {taken:Token} (ht:taken∈s.pending) (hheld:held taken=1)
  (hsend:sendToken taken=0) (hsignal:signalToken taken=0) (hs:s.activeTasks=s.weigh held) :
  Draining (s.retire taken) := by
 have hactive:s.activeTasks≠0:=by
  have:=le_weigh (w := held) ht
  omega
 obtain ⟨hflag,hzero⟩:=h.not_signalled hactive
 have hsend':=weigh_retire ht sendToken
 have hsignal':=weigh_retire ht signalToken
 rw[hsend] at hsend'
 rw[hsignal] at hsignal'
 simp only[sendToken,signalToken,ite_self] at hsend' hsignal'
 refine ⟨?_,fun hs=>?_,fun hpos=>?_,fun hc hz=>.inr ?_⟩
 · rw[show (s.retire taken).weigh sendToken=s.weigh sendToken from hsend']
   exact h.sent
 · exact absurd (hflag.symm.trans hs) (by decide)
 · split at hsignal'
   · next hlast => exact hlast
   · omega
 · rw[if_pos ⟨hc,hz⟩] at hsignal'
   omega

lemma Draining.stop (h:Draining s) :
  Draining ({ s with closed := true }.give [if s.activeTasks=0 then .signal true else .waiting]) := by
 grind[Draining,give,sendToken,signalToken,State.weigh,Tokens.total]

lemma weigh_signalled {token:Token} (ht:token∈s.pending) (stop:Bool) :
  (s.exchange token (signalled stop)).weigh sendToken+sendToken token=s.weigh sendToken ∧
   (s.exchange token (signalled stop)).weigh signalToken+signalToken token=s.weigh signalToken := by
 rw[weigh_exchange ht,weigh_exchange ht]
 cases stop <;> exact ⟨rfl,rfl⟩

lemma Draining.resignal (h:Draining s) {stop:Bool} (ht:.signal stop∈s.pending)
  (hflag:s.drainSignalled=true) : Draining (s.exchange (.signal stop) (signalled stop)) := by
 obtain ⟨hsend,-⟩:=weigh_signalled ht stop
 refine ⟨?_,h.flagged,fun _=>h.flagged hflag,fun _ _=>.inl hflag⟩
 have hsend:(s.exchange (.signal stop) (signalled stop)).weigh sendToken=s.weigh sendToken:=hsend
 rw[hsend]
 exact h.sent

lemma Draining.signal (h:Draining s) {stop:Bool} (ht:.signal stop∈s.pending)
  (hflag:s.drainSignalled=false) :
  Draining { s.exchange (.signal stop) [.send stop] with drainSignalled := true } := by
 have hsend:(s.exchange (.signal stop) [.send stop]).weigh sendToken=s.weigh sendToken+1:=
  weigh_exchange (w := sendToken) ht [.send stop]
 have hdone:=h.signals (Nat.lt_of_lt_of_le Nat.zero_lt_one (le_weigh (w:=signalToken) ht))
 refine ⟨?_,fun _=>hdone,fun _=>hdone,fun _ _=>.inl rfl⟩
 have hsent:=h.sent
 rw[hflag] at hsent
 change s.drained+(s.exchange (.signal stop) [.send stop]).weigh sendToken=1
 simp only[Bool.false_eq_true,if_false] at hsent
 omega

lemma Draining.send (h:Draining s) {stop:Bool} (ht:.send stop∈s.pending) :
  Draining { s.exchange (.send stop) (signalled stop) with drained := s.drained+1 } := by
 obtain ⟨hsend,hsignal⟩:=weigh_signalled ht stop
 have hsignal:(s.exchange (.send stop) (signalled stop)).weigh signalToken=s.weigh signalToken:=hsignal
 refine ⟨?_,h.flagged,fun hpos=>h.signals (hsignal▸hpos),fun hc hz=>?_⟩
 · have hsent:=h.sent
   change s.drained+1+(s.exchange (.send stop) (signalled stop)).weigh sendToken =
    if s.drainSignalled=true then 1 else 0
   simp only[sendToken] at hsend
   rw[← hsent]
   omega
 · grind[Draining.owed,State.exchange,weigh,signalToken]

def Label.Drains : Label → Prop
 | .signal _ | .send _ | .stop false | .finish _ | .postFails _ => True
 | _ => False

lemma Change.drain_eq {taken given:List Token} {next:ℕ} (h:Change s l taken given next)
  (hl:¬ l.Drains) : total sendToken taken=total sendToken given ∧
   total signalToken taken=total signalToken given := by
 cases h with
 | failed | finished | stopped | resignalled | signalled | sent => exact absurd trivial hl
 | inserted now htoken => rcases htoken with rfl | rfl <;> exact ⟨rfl,rfl⟩
 | fired wait now moved =>
  rw[total_map_const sendToken (c := 0) (fun _=>rfl),total_map_const sendToken (c := 0) (fun _=>rfl),
   total_map_const signalToken (c := 0) (fun _=>rfl),total_map_const signalToken (c := 0) fun _=>rfl]
  exact ⟨rfl,rfl⟩
 | _ => exact ⟨rfl,rfl⟩

lemma draining_of_move (hs:Sound s) (h:Draining s) (hmove:Move s l s') : Draining s' := by
 obtain ⟨taken,given,hflow⟩:=flow_of_move hs hmove
 have hweigh:¬ l.Drains→ s'.weigh sendToken=s.weigh sendToken ∧
  s'.weigh signalToken=s.weigh signalToken:=by
  intro hl
  have:=hflow.change.drain_eq hl
  have:=hflow.weigh sendToken
  have:=hflow.weigh signalToken
  omega
 cases hmove with
 | unchanged => exact h
 | entered | refused | accepted | cancelled | started | stale | skipped | invoked | stopReturned =>
  exact h.keep (hweigh id).1 (hweigh id).2 rfl rfl rfl fun _=>rfl
 | reserved ht hopen =>
  refine h.keep (hweigh id).1 (hweigh id).2 rfl rfl rfl fun hc=>?_
  rw[hopen] at hc
  cases hc
 | @inserted t now ht =>
  have hsame:=sameControl_insert (s.exchange (.insert t) []) t now
  exact h.keep (hweigh id).1 (hweigh id).2 hsame.drained hsame.drainSignalled hsame.closed fun _=>hsame.activeTasks
 | @expedited t ht =>
  have hsame:=sameControl_cancelQueued (s.exchange (.cancel t) []) t
  exact h.keep (hweigh id).1 (hweigh id).2 hsame.drained hsame.drainSignalled hsame.closed fun _=>hsame.activeTasks
 | @fired wait now hw =>
  have hsame:=sameControl_fire { s with waits:=s.waits.erase wait } now
  exact h.keep (hweigh id).1 (hweigh id).2 hsame.drained hsame.drainSignalled hsame.closed fun _=>hsame.activeTasks
 | failed ht =>
  have hretired:=h.retire ht rfl rfl rfl hs.accounts
  exact hretired.keep rfl rfl rfl rfl rfl fun _=>rfl
 | finished ht => exact h.retire ht rfl rfl rfl hs.accounts
 | stopped => exact h.stop
 | resignalled ht hflag => exact h.resignal ht hflag
 | signalled ht hflag => exact h.signal ht hflag
 | sent ht => exact h.send ht

end Draining

lemma pending_armNext (s:State) : s.armNext.pending=s.pending := by
 obtain ⟨generation,armedAt,waits,heq⟩:=armNext_eq s
 rw[heq]

lemma queued_not_pending {s s':State} {l:Label} (h:∀ t,.queued t∉s.pending) (hmove:Move s l s')
  (t:ℕ) : .queued t∉s'.pending := by
 have hexchange:∀ taken given,.queued t∉given→ .queued t∉exchange s.pending taken given:=
  fun taken given hgiven hmem=>(mem_exchange hmem).elim (h t) hgiven
 have hgive:∀ (pending:List Token) given,.queued t∉pending→ .queued t∉given →
  .queued t∉pending++given :=
  fun pending given hp hg hmem=>(mem_append.mp hmem).elim hp hg
 cases hmove with
 | unchanged | started | stale => exact h t
 | entered | cancelled => exact hgive _ _ (h t) (by simp)
 | stopped =>
  refine hgive _ _ (h t) ?_
  split <;> simp
 | refused | reserved | accepted | skipped | invoked | signalled | stopReturned => exact hexchange _ _ (by simp)
 | failed | finished =>
  refine hexchange _ _ ?_
  split <;> simp
 | @resignalled stop | @sent stop =>
  refine hexchange _ _ ?_
  cases stop <;> simp[DelayPool.signalled]
 | @inserted u now =>
  unfold State.insert
  split
  · exact hgive _ _ (hexchange _ _ (by simp)) (by simp)
  · rw[pending_armNext]
    exact hexchange _ _ (by simp)
 | expedited =>
  unfold State.cancelQueued
  split
  · rw[pending_armNext]
    exact hgive _ _ (hexchange _ _ (by simp)) (by simp)
  · exact hexchange _ _ (by simp)
 | @fired wait now =>
  obtain ⟨n,u,-,-,hfiring,heq⟩:=firing_fire { s with waits := s.waits.erase wait } now
  rw[heq,pending_armNext]
  obtain ⟨tasks,htimers,hlength⟩:=hfiring
  exact hgive _ _ (h t) (by simp)

structure Tracked (s:State) (seen:List Label) : Prop where
 armed : Waits s ∧ Armed s
 listed : Listed s
 unqueued : ∀ t,.queued t ∉ s.pending
 accounts : s.activeTasks = s.weigh held
 draining : Draining s
 unrun : ∀ t,seen.count (.invoke t) + s.weigh (unrunToken t) = seen.count (.post t)
 entering : ∀ t,seen.count (.post t) + s.weigh (enteringToken t) ≤ if t < s.next then 1 else 0
 claimed : ∀ t,(s.tasks t).claimed = true → 0 < seen.count (.invoke t)
 finished : s.activeTasks + seen.countP Label.isFinish = seen.countP Label.isPost + s.weigh admittedToken

section Run
variable {s s':State} {l:Label} {seen:List Label}

lemma le_weigh_queued {w:Token→ℕ} {t:ℕ} (h:t∈s.timers.map Prod.snd) : w (.queued t)≤ s.weigh w := by
 have hmem:Token.queued t∈s.timers.map fun entry=>Token.queued entry.2:=by
  obtain ⟨entry,hentry,rfl⟩:=mem_map.mp h
  exact mem_map_of_mem hentry
 exact (le_total w hmem).trans (Nat.le_add_left _ _)

lemma Tracked.post_le (h:Tracked s seen) (t:ℕ) : seen.count (.post t)≤ if t < s.next then 1 else 0 := by
 have:=h.entering t
 omega

lemma Tracked.sound (h:Tracked s seen) : Sound s := by
 refine ⟨fun t=>(h.listed.queued t).mp,fun t ht=>?_,h.accounts⟩
 by_contra hc
 have hinvoked:=h.claimed t (by simpa using hc)
 have hspawned:=le_weigh (w:=unrunToken t) ht
 have hpost:=h.post_le t
 have hunrun:=h.unrun t
 simp only[unrunToken,if_true] at hspawned
 split at hpost <;> omega

lemma Tracked.next_fresh (h:Tracked s seen) : s.next∉s.timers.map Prod.snd := by
 intro hmem
 have hqueued:=le_weigh_queued (w:=unrunToken s.next) hmem
 have hpost:=h.post_le s.next
 have hunrun:=h.unrun s.next
 simp only[unrunToken,if_true] at hqueued
 rw[if_neg (Nat.lt_irrefl _)] at hpost
 omega

lemma Tracked.insert_fresh (h:Tracked s seen) (t:ℕ) (ht:.insert t∈s.pending) :
  t∉s.timers.map Prod.snd := by
 intro hmem
 have hboth:2≤ s.weigh (unrunToken t):=by
  have hpending:=le_total (unrunToken t) ht
  have hmem:Token.queued t∈s.timers.map fun entry=>Token.queued entry.2:=by
   obtain ⟨entry,hentry,rfl⟩:=mem_map.mp hmem
   exact mem_map_of_mem hentry
  have hqueued:=le_total (unrunToken t) hmem
  simp only[unrunToken,if_true] at hpending hqueued
  unfold weigh
  omega
 have hpost:=h.post_le t
 have hunrun:=h.unrun t
 split at hpost <;> omega

lemma Tracked.flow (h:Tracked s seen) (hstep:step s l=some s') : ∃ taken given,Flow s l s' taken given :=
 flow_of_move h.sound (move_of_step hstep)

lemma Tracked.step (h:Tracked s seen) (hstep:DelayPool.step s l=some s') :
  Tracked s' (seen++[l]) := by
 have hmove:=move_of_step hstep
 obtain ⟨taken,given,hflow⟩:=h.flow hstep
 refine ⟨armed_of_move h.armed hmove,listed_of_move h.listed h.next_fresh h.insert_fresh hmove,
  queued_not_pending h.unqueued hmove,?_,draining_of_move h.sound h.draining hmove,
  fun t=>?_,fun t=>?_,fun t ht=>?_,?_⟩
 · have:=hflow.activeTasks
   have:=hflow.weigh held
   have:=h.accounts
   omega
 · have:=h.unrun t
   have:=hflow.change.unrun_eq t
   have:=hflow.weigh (unrunToken t)
   rw[count_append,count_append]
   omega
 · have:=h.entering t
   have:=hflow.change.entering_le t
   have:=hflow.weigh (enteringToken t)
   rw[count_append]
   omega
 · grind[claimed_of_move,Tracked.claimed]
 · have:=h.finished
   have:=hflow.change.held_eq
   have:=hflow.activeTasks
   have:=hflow.weigh admittedToken
   rw[countP_append,countP_append]
   omega

lemma tracked_initial : Tracked {} [] := by
 refine ⟨⟨⟨?_,nodup_nil,?_,?_⟩,rfl⟩,⟨?_,nodup_nil,List.Pairwise.nil⟩,?_,rfl,⟨rfl,?_,?_,?_⟩,
  fun _=>rfl,fun _=>Nat.zero_le _,?_,rfl⟩
 · intro k hk
   cases hk
 · intro wait hw
   cases hw
 · intro wait hw
   cases hw
 · intro t
   constructor
   · intro hq
     cases hq
   · intro hm
     cases hm
 · intro t hm
   cases hm
 · intro hs
   cases hs
 · intro hpos
   exact absurd hpos (Nat.lt_irrefl 0)
 · intro hc
   cases hc
 · intro t hc
   cases hc

lemma tracked_exec {labels:List Label} (hrun:exec DelayPool.step {} labels=some s) : Tracked s labels :=
 exec_history (fun _ _ _ _ h hstep=>h.step hstep) tracked_initial hrun

end Run

/-- The steps of calls under way, posted handlers and tasks, and the ends of waits, which
are aborted or not before their time. -/
def Label.Internal : Label → Prop
 | .reserve _ | .post _ | .postFails _ | .insert _ _ | .cancelQueued _ | .invoke _ | .finish _ | .signal _
 | .send _ | .stopReturns => True
 | .timer wait aborted now => aborted = true ∨ wait.2 ≤ now
 | _ => False

def State.work (s:State) : ℕ :=
 s.weigh effort + s.waits.length

def Idle (s:State) : Prop :=
 ∀ l,l.Internal → step s l = none

section Work
variable {s s':State} {l:Label} {seen:List Label}

lemma waits_armNext (s:State) : s.armNext.waits.length≤ s.waits.length+1 := by
 unfold armNext
 split
 · exact Nat.le_succ _
 · rw[length_append]
   cases s.timers.head? <;> simp

lemma effort_retire {taken:Token} (ht:taken∈s.pending) (hlt:effort (.signal false) < effort taken) :
  (s.retire taken).weigh effort < s.weigh effort := by
 have:=weigh_retire ht effort
 split at this <;> omega

lemma effort_exchange {taken:Token} {given:List Token} (ht:taken∈s.pending)
  (hlt:total effort given < effort taken) : (s.exchange taken given).weigh effort < s.weigh effort := by
 have:=weigh_exchange (w := effort) ht given
 omega

lemma effort_signalled (stop:Bool) : total effort (signalled stop)≤1 := by
 cases stop <;> simp[signalled,effort]

lemma work_insert {t:ℕ} (ht:.insert t∈s.pending) (now:ℤ) :
  ((s.exchange (.insert t) []).insert t now).work < s.work := by
 obtain ⟨token,htoken,hweigh⟩:=weigh_insert (s.exchange (.insert t) []) t now
 have hexchange:=weigh_exchange (w:=effort) ht []
 have hwaits:((s.exchange (.insert t) []).insert t now).waits.length≤ s.waits.length+1:=by
  unfold State.insert
  split
  · exact Nat.le_succ _
  · exact waits_armNext _
 have:=hweigh effort
 unfold State.work
 simp only[total_nil,effort] at hexchange
 rcases htoken with rfl | rfl <;> simp only[effort] at this <;> omega

lemma work_cancelQueued {t:ℕ} (ht:.cancel t∈s.pending)
  (hq:(s.tasks t).queued=true→ t∈s.timers.map Prod.snd) :
  ((s.exchange (.cancel t) []).cancelQueued t).work < s.work := by
 have hexchange:=weigh_exchange (w:=effort) ht []
 unfold State.work
 simp only[total_nil,effort] at hexchange
 rcases weigh_cancelQueued (s:=s.exchange (.cancel t) []) hq with heq | hweigh
 · rw[heq]
   change _+s.waits.length < _
   omega
 · have hwaits:((s.exchange (.cancel t) []).cancelQueued t).waits.length≤ s.waits.length+1:=by
    unfold State.cancelQueued
    split
    · exact waits_armNext _
    · exact Nat.le_succ _
   have:=hweigh effort
   simp only[effort] at this
   omega

lemma work_fire {wait:ℕ×ℤ} {now:ℤ} (h:Waits s∧Armed s) (hw:wait∈s.waits)
  (hcurrent:wait.1=s.generation) (hnow:wait.2≤now) :
  (State.fire { s with waits := s.waits.erase wait } now).work < s.work := by
 obtain ⟨moved,-,hne,hweigh⟩:=weigh_fire { s with waits := s.waits.erase wait } now
 have hdue:s.timerDue now=true:=timerDue_of_wait h hw hcurrent hnow
 have hmoved:moved≠[]:=hne hdue
 have hlength:=length_pos_iff.mpr hmoved
 have hwaits:(State.fire { s with waits:=s.waits.erase wait } now).waits.length≤ s.waits.length:=by
  obtain ⟨n,u,-,-,hfiring,heq⟩:=firing_fire { s with waits := s.waits.erase wait } now
  rw[heq]
  obtain ⟨tasks,htimers,hn⟩:=hfiring
  refine (waits_armNext _).trans ?_
  change (s.waits.erase wait).length+1≤ s.waits.length
  rw[length_erase_of_mem hw]
  have:=length_pos_of_mem hw
  omega
 have heffort:=hweigh effort
 rw[total_map_const effort (c := 7) (fun _=>rfl),total_map_const effort (c := 5) fun _=>rfl] at heffort
 have hsame:State.weigh effort { s with waits:=s.waits.erase wait }=s.weigh effort := rfl
 unfold State.work
 omega

lemma work_lt (h:Tracked s seen) (hl:l.Internal) (hstep:step s l=some s') : s'.work < s.work := by
 have hstill:s'.weigh effort < s.weigh effort→ s'.waits=s.waits→ s'.work < s.work:=by
  intro hlt hwaits
  unfold State.work
  rw[hwaits]
  omega
 cases move_of_step hstep with
 | unchanged hq =>
  cases l with
  | delay | cancel | start | stop => exact hl.elim
  | _ => exact hq.elim
 | entered | cancelled | started | stopped => exact hl.elim
 | refused ht | reserved ht | accepted ht | skipped ht | invoked ht | signalled ht | stopReturned ht =>
  exact hstill (effort_exchange ht (by simp[effort])) rfl
 | failed ht | finished ht => exact hstill (effort_retire ht (by simp[effort])) rfl
 | @resignalled stop ht =>
  have:=effort_signalled stop
  exact hstill (effort_exchange ht (by simp only[effort]; omega)) rfl
 | @sent stop ht =>
  have:=effort_signalled stop
  exact hstill (effort_exchange ht (by simp only[effort]; omega)) rfl
 | inserted now ht => exact work_insert ht now
 | expedited ht => exact work_cancelQueued ht (h.listed.queued _).mp
 | @stale wait aborted now hw hold => grind[State.work,State.weigh]
 | fired now hw hcurrent =>
  exact work_fire h.armed hw hcurrent (hl.resolve_left (by decide))

lemma Idle.pending (h:Idle s) (hunqueued:∀ t,.queued t∉s.pending) :
  ∀ token∈s.pending,token=.waiting := by
 intro token htoken
 cases token with
 | waiting => rfl
 | queued t => exact absurd htoken (hunqueued t)
 | adding t =>
  have:=h (.reserve t) trivial
  simp only[step,htoken,if_true] at this
  split at this <;> cases this
 | admitted t =>
  have:=h (.post t) trivial
  simp[step,htoken] at this
 | insert t =>
  have:=h (.insert t 0) trivial
  simp[step,htoken] at this
 | cancel t =>
  have:=h (.cancelQueued t) trivial
  simp[step,htoken] at this
 | spawned t =>
  have:=h (.invoke t) trivial
  simp only[step,htoken,if_true] at this
  split at this <;> cases this
 | running t =>
  have:=h (.finish t) trivial
  simp[step,htoken] at this
 | signal stop =>
  have:=h (.signal stop) trivial
  simp[step,htoken] at this
 | send stop =>
  have:=h (.send stop) trivial
  simp[step,htoken] at this

lemma Idle.timers (h:Idle s) (harmed:Waits s∧Armed s) : s.timers=[] := by
 cases htimers:s.timers with
 | nil => rfl
 | cons entry rest =>
  have hat:s.armedAt=some entry.1:=by
   rw[harmed.2,htimers]
   rfl
  have hwait:=harmed.1.armed entry.1 hat
  have:=h (.timer (s.generation,entry.1) false entry.1) (.inr (Int.le_refl _))
  simp[step,hwait] at this

lemma Tracked.idle_weigh (h:Tracked s seen) (hidle:Idle s) {w:Token→ℕ} (hw:w .waiting=0) :
  s.weigh w=0 := by
 have hpending:=hidle.pending h.unqueued
 have hzero:total w s.pending=0:=by
  refine sum_eq_zero fun n hn=>?_
  obtain ⟨token,htoken,rfl⟩:=mem_map.mp hn
  rw[hpending token htoken,hw]
 unfold weigh
 rw[hzero,hidle.timers h.armed]
 rfl

lemma Tracked.idle_runs (h:Tracked s seen) (hidle:Idle s) (t:ℕ) :
  seen.count (.invoke t)=seen.count (.post t) := by
 have:=h.unrun t
 rw[h.idle_weigh hidle rfl] at this
 exact this

lemma Tracked.idle_drained (h:Tracked s seen) (hidle:Idle s) (hclosed:s.closed=true) :
  s.drained=1 := by
 have hactive:s.activeTasks=0:=by
  rw[h.accounts,h.idle_weigh hidle rfl]
 have hsignal:=h.idle_weigh hidle (w:=signalToken) rfl
 have hflag:=(h.draining.owed hclosed hactive).resolve_right (by omega)
 have hsent:=h.draining.sent
 rw[h.idle_weigh hidle rfl,hflag] at hsent
 exact hsent

lemma Tracked.after_close (h:Tracked s seen) (hclosed:s.closed=true) {rest:List Label}
  (hrun:exec DelayPool.step s rest=some s') :
  s'.closed=true∧rest.countP Label.isPost+s'.weigh admittedToken≤ s.weigh admittedToken := by
 have hempty:([] : List Label).countP Label.isPost+s.weigh admittedToken≤ s.weigh admittedToken:=
  Nat.le_of_eq (Nat.zero_add _)
 have hhistory:=exec_history (I:=fun u (later:List Label)=>(∃ seen,Tracked u seen) ∧
  u.closed=true∧later.countP Label.isPost+u.weigh admittedToken≤ s.weigh admittedToken)
  ?_ ⟨⟨seen,h⟩,hclosed,hempty⟩ hrun
 · exact hhistory.2
 rintro u l u' later ⟨⟨seen,hu⟩,hc,hle⟩ hstep
 obtain ⟨taken,given,hflow⟩:=hu.flow hstep
 have:=hflow.change.admitted_le hc
 have:=hflow.weigh admittedToken
 refine ⟨⟨_,hu.step hstep⟩,hflow.closed hc,?_⟩
 rw[countP_append]
 omega

end Work

def State.unrun (s:State) (t:ℕ) : ℕ :=
 s.pending.count (.insert t) + (s.timers.map Prod.snd).count t + s.pending.count (.spawned t)

def Token.isAdmitted : Token → Bool
 | .admitted _ => true
 | _ => false

lemma total_unrunToken (t:ℕ) (tokens:List Token) (h:∀ u,.queued u∉tokens) :
  total (unrunToken t) tokens=tokens.count (.insert t)+tokens.count (.spawned t) := by
 induction tokens with
 | nil => rfl
 | cons token tokens ih =>
  have ih:=ih fun u hu=>h u (mem_cons_of_mem _ hu)
  rw[total_cons,ih,count_cons,count_cons]
  cases token with
  | queued u => exact absurd mem_cons_self (h u)
  | insert u | spawned u =>
   simp[unrunToken]
   omega
  | _ => simp[unrunToken]

lemma total_queued (t:ℕ) (timers:List (ℤ×ℕ)) :
  total (unrunToken t) (timers.map fun entry=>.queued entry.2)=(timers.map Prod.snd).count t := by
 induction timers with
 | nil => rfl
 | cons entry timers ih => grind[total_cons,unrunToken]

lemma weigh_unrunToken {s:State} (h:∀ u,.queued u∉s.pending) (t:ℕ) :
  s.weigh (unrunToken t)=s.unrun t := by
 unfold weigh State.unrun
 rw[total_unrunToken t s.pending h,total_queued]
 omega

lemma total_admittedToken (tokens:List Token) : total admittedToken tokens=tokens.countP Token.isAdmitted := by
 induction tokens with
 | nil => rfl
 | cons token tokens ih =>
  rw[total_cons,ih,countP_cons]
  cases token <;> simp[admittedToken,Token.isAdmitted,Nat.add_comm]

lemma weigh_admittedToken (s:State) : s.weigh admittedToken=s.pending.countP Token.isAdmitted := by
 unfold weigh
 rw[total_admittedToken,total_admittedToken,countP_map]
 simp[Token.isAdmitted,Function.comp_def]

lemma timer_batch {s s':State} {wait:ℕ×ℤ} {aborted:Bool} {now:ℤ}
  (hstep:step s (.timer wait aborted now)=some s') :
  ∃ moved : List ℕ,moved.length≤64∧s'.pending=s.pending++moved.map .spawned := by
 cases move_of_step hstep with
 | unchanged hl => exact hl.elim
 | stale => exact ⟨[],Nat.zero_le _,(append_nil _).symm⟩
 | fired hw hcurrent =>
  obtain ⟨n,u,hn,-,hfiring,heq⟩:=firing_fire { s with waits := s.waits.erase wait } now
  rw[heq,pending_armNext]
  obtain @⟨front,rest,tasks,htimers,hlength⟩:=hfiring
  refine ⟨front.map Prod.snd,?_,?_⟩
  · rw[length_map,hlength]
    exact hn
  · rw[map_map]
    rfl

/-- In every run an accepted task runs at most once, and it has run or is on its way. The tasks in
activity are those accepted or admitted and not finished; the pool drains at most once, when it is
closed and has none. A closed pool accepts only what it had admitted. The timer waits for the first
deadline, and one expiry spawns at most 64 tasks. The pool's own steps end, and when they have, all
that was accepted has run. -/
theorem delayed_run_once {s : State} {labels : List Label} (hrun : exec step {} labels = some s) :
  (∀ t, labels.count (.post t) ≤ 1 ∧ labels.count (.invoke t) + s.unrun t = labels.count (.post t) ∧
   (.spawned t ∈ s.pending → (s.tasks t).claimed = false)) ∧
  s.activeTasks + labels.countP Label.isFinish =
   labels.countP Label.isPost + s.pending.countP Token.isAdmitted ∧
  s.drained ≤ 1 ∧ (s.drained = 1 → s.closed = true ∧ s.activeTasks = 0) ∧
  (s.closed = true → ∀ rest s', exec step s rest = some s' →
   s'.closed = true ∧ rest.countP Label.isPost ≤ s.pending.countP Token.isAdmitted) ∧
  (∀ entry rest, s.timers = entry :: rest → (∀ other ∈ rest, entry.1 ≤ other.1) ∧
   s.armedAt = some entry.1 ∧ (s.generation, entry.1) ∈ s.waits) ∧
  (∀ wait aborted now s', step s (.timer wait aborted now) = some s' → ∃ moved : List ℕ,
   moved.length ≤ 64 ∧ s'.pending = s.pending ++ moved.map .spawned) ∧
  (∀ rest s', (∀ l ∈ rest, l.Internal) → exec step s rest = some s' →
   rest.length ≤ s.work ∧ (Idle s' →
    (∀ t, (labels ++ rest).count (.invoke t) = (labels ++ rest).count (.post t)) ∧
    (s'.closed = true → s'.drained = 1))) ∧
  ∃ rest s', (∀ l ∈ rest, l.Internal) ∧ exec step s rest = some s' ∧ Idle s' := by
 have h:=tracked_exec hrun
 have hinv:∀ u l u',(∃ seen,Tracked u seen)→ step u l=some u'→∃ seen,Tracked u' seen:=by
  rintro u l u' ⟨seen,hu⟩ hstep
  exact ⟨_,hu.step hstep⟩
 have hwork:∀ u l u',(∃ seen,Tracked u seen)→ l.Internal→ step u l=some u'→ u'.work < u.work:=by
  rintro u l u' ⟨seen,hu⟩ hl hstep
  exact work_lt hu hl hstep
 have hsent:=h.draining.sent
 refine ⟨fun t=>⟨?_,?_,h.sound.claimed t⟩,?_,?_,?_,?_,?_,fun wait aborted now s'=>timer_batch,?_,
  exists_exec_idle hinv hwork ⟨_,h⟩⟩
 · have:=h.post_le t
   split at this <;> omega
 · rw[← weigh_unrunToken h.unqueued]
   exact h.unrun t
 · rw[← weigh_admittedToken]
   exact h.finished
 · split at hsent <;> omega
 · intro hdrained
   apply h.draining.flagged
   by_contra hflag
   rw[if_neg hflag] at hsent
   omega
 · intro hclosed rest s' hrest
   obtain ⟨hclosed',hle⟩:=h.after_close hclosed hrest
   rw[weigh_admittedToken s] at hle
   exact ⟨hclosed',by omega⟩
 · intro entry rest htimers
   have hsorted:=h.listed.sorted
   rw[htimers] at hsorted
   have hat:s.armedAt=some entry.1:=by
    rw[h.armed.2,htimers]
    rfl
   exact ⟨(pairwise_cons.mp hsorted).1,hat,h.armed.1.armed _ hat⟩
 · intro rest s' hinternal hrest
   have hlength:=exec_work hinv hwork ⟨_,h⟩ hinternal hrest
   have h':=tracked_exec (exec_append hrun hrest)
   exact ⟨by omega,fun hidle=>⟨h'.idle_runs hidle,h'.idle_drained hidle⟩⟩

def delayingRun : List Label :=
 let context : Context:=⟨1,none⟩
 [.delay false 0 context 5,.reserve 0,.post 0,.insert 0 1,.delay false 2 context 1,.reserve 1,.post 1,
  .insert 1 2,.cancel 1,.cancelQueued 1,.invoke 1,.stop false,.finish 1,.timer (3,5) false 6]

theorem delayingRun_run_once : ∃ s, exec step {} delayingRun = some s ∧
  (∀ t, delayingRun.count (.invoke t) + s.unrun t = delayingRun.count (.post t)) ∧
  s.activeTasks + delayingRun.countP Label.isFinish =
   delayingRun.countP Label.isPost + s.pending.countP Token.isAdmitted ∧
  ∃ rest s', (∀ l ∈ rest, l.Internal) ∧ exec step s rest = some s' ∧ Idle s' := by
 have hrun:exec step {} delayingRun=some _:=rfl
 obtain ⟨honce,hactive,-,-,-,-,-,-,hidle⟩:=delayed_run_once hrun
 exact ⟨_,hrun,fun t=>(honce t).2.1,hactive,hidle⟩

end ServiceLib.DelayPool
