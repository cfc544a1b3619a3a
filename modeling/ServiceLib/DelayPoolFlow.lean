import ServiceLib.DelayPool

set_option autoImplicit false
attribute [-instance] instBooleanRingBool

/-!
# The flow of tasks through the delay pool

The pool's counters are weights of its tokens.
-/
namespace ServiceLib.DelayPool
open State List Loop Tokens

def Label.Quiet : Label → Prop
 | .delay _ _ _ _ | .cancel _ | .start | .stop true => True
 | _ => False

set_option autoImplicit true in
inductive Move (s:State) : Label → State → Prop
 | unchanged (hl:l.Quiet) : Move s l s
 | entered (task:Task)
  (hqueued:task.queued = false) (hclaimed:task.claimed = false) :
  Move s (.delay cancelled now context duration)
   (({ s with next := s.next + 1 }.give [.adding s.next]).setTask s.next task)
 | refused (h:.adding t ∈ s.pending) :
  Move s (.reserve t) ((s.exchange (.adding t) []).discard t)
 | reserved (h:.adding t ∈ s.pending) (hopen:s.closed = false) :
  Move s (.reserve t) { s.exchange (.adding t) [.admitted t] with activeTasks := s.activeTasks + 1 }
 | accepted (h:.admitted t ∈ s.pending) :
  Move s (.post t) (s.exchange (.admitted t) [.insert t])
 | failed (h:.admitted t ∈ s.pending) :
  Move s (.postFails t) ((s.retire (.admitted t)).discard t)
 | cancelled (t:ℕ) : Move s (.cancel t) ((s.give [.cancel t]).setTask t
   { s.tasks t with cancelRequested := true })
 | started : Move s .start { s with started := true }
 | stopped : Move s (.stop false)
   ({ s with closed := true }.give [if s.activeTasks = 0 then .signal true else .waiting])
 | inserted (now:ℤ) (h:.insert t ∈ s.pending) :
  Move s (.insert t now) ((s.exchange (.insert t) []).insert t now)
 | expedited (h:.cancel t ∈ s.pending) :
  Move s (.cancelQueued t) ((s.exchange (.cancel t) []).cancelQueued t)
 | stale (aborted:Bool) (now:ℤ) (h:wait ∈ s.waits) (hold:wait.1 ≠ s.generation) :
  Move s (.timer wait aborted now) { s with waits := s.waits.erase wait }
 | fired (now:ℤ) (h:wait ∈ s.waits) (hcurrent:wait.1 = s.generation) :
  Move s (.timer wait false now) ({ s with waits := s.waits.erase wait }.fire now)
 | skipped (h:.spawned t ∈ s.pending) (hclaimed:(s.tasks t).claimed = true) :
  Move s (.invoke t) (s.exchange (.spawned t) [])
 | invoked (h:.spawned t ∈ s.pending) (hclaimed:(s.tasks t).claimed = false) :
  Move s (.invoke t) ((s.exchange (.spawned t) [.running t]).setTask t
   { s.tasks t with claimed := true,cancellations := 0 })
 | finished (h:.running t ∈ s.pending) : Move s (.finish t) (s.retire (.running t))
 | resignalled {stop:Bool} (h:.signal stop ∈ s.pending) (hs:s.drainSignalled = true) :
  Move s (.signal stop) (s.exchange (.signal stop) (signalled stop))
 | signalled {stop:Bool} (h:.signal stop ∈ s.pending) (hs:s.drainSignalled = false) :
  Move s (.signal stop) { s.exchange (.signal stop) [.send stop] with drainSignalled := true }
 | sent {stop:Bool} (h:.send stop ∈ s.pending) :
  Move s (.send stop) { s.exchange (.send stop) (DelayPool.signalled stop) with drained := s.drained + 1 }
 | stopReturned (h:.waiting ∈ s.pending) : Move s .stopReturns (s.exchange .waiting [])

lemma move_delay (s:State) (cancelled:Bool) (now:ℤ) (context:Context) (duration:ℤ) :
  Move s (.delay cancelled now context duration)
   (unlessThrown s (s.delay cancelled now context duration)) := by
 unfold State.delay
 split
 · exact .unchanged trivial
 split
 · exact .unchanged trivial
 · exact .entered _ rfl rfl

variable {s s':State} {t:ℕ}

lemma move_reserve (h:step s (.reserve t)=some s') : Move s (.reserve t) s' := by
 grind[step,reserve,Move]

lemma move_timer {wait:ℕ×ℤ} {aborted:Bool} {now:ℤ}
  (h:step s (.timer wait aborted now)=some s') : Move s (.timer wait aborted now) s' := by
 grind[step,Move]

lemma move_of_step {l:Label} (h:step s l=some s') : Move s l s' := by
 cases l with
 | delay cancelled now context duration =>
  obtain rfl:=Option.some.inj h
  exact move_delay s cancelled now context duration
 | reserve t => exact move_reserve h
 | timer wait aborted now => exact move_timer h
 | start =>
  obtain rfl:=Option.some.inj h
  unfold State.start
  split
  · exact .unchanged trivial
  split
  · exact .unchanged trivial
  · exact .started
 | stop own =>
  obtain rfl:=Option.some.inj h
  cases own with
  | true => exact .unchanged trivial
  | false => exact .stopped
 | _ => grind[step,Move,State.signalDrained,Label.Quiet]

namespace State

def weigh (w:Token → ℕ) (s:State) : ℕ :=
 total w s.pending + total w (s.timers.map fun entry=>.queued entry.2)

structure SameControl (s s':State) : Prop where
 activeTasks : s'.activeTasks = s.activeTasks
 closed : s'.closed = s.closed
 drainSignalled : s'.drainSignalled = s.drainSignalled
 drained : s'.drained = s.drained
 next : s'.next = s.next

variable {w:Token → ℕ}

lemma weigh_exchange {taken:Token} (h:taken∈s.pending) (given:List Token) :
  (s.exchange taken given).weigh w+w taken=s.weigh w+total w given := by
 have:=total_exchange w h given
 unfold weigh exchange
 simp only
 omega

lemma weigh_give (s:State) (given:List Token) : (s.give given).weigh w=s.weigh w+total w given := by
 unfold weigh give
 simp only[total_append]
 omega

lemma le_weigh {token:Token} (h:token∈s.pending) : w token≤ s.weigh w :=
 (le_total w h).trans (Nat.le_add_right _ _)

lemma armNext_eq (s:State) : ∃ generation armedAt waits,s.armNext={ s with
  generation := generation
  armedAt := armedAt
  waits := waits } := by
 unfold armNext
 split
 · exact ⟨_,_,_,rfl⟩
 · exact ⟨_,_,_,rfl⟩

lemma weigh_armNext (s:State) : s.armNext.weigh w=s.weigh w := by
 obtain ⟨generation,armedAt,waits,heq⟩:=armNext_eq s
 rw[heq]
 rfl

lemma SameControl.armNext {u:State} (h:SameControl s u) : SameControl s u.armNext := by
 obtain ⟨generation,armedAt,waits,heq⟩:=armNext_eq u
 rw[heq]
 exact ⟨h.activeTasks,h.closed,h.drainSignalled,h.drained,h.next⟩

lemma weigh_dispatch (s:State) (t:ℕ) (expedited:Bool) :
  (s.dispatch t expedited).weigh w=s.weigh w+w (.spawned t) := by
 change (s.give [.spawned t]).weigh w=_
 rw[weigh_give,total_cons,total_nil,Nat.add_zero]

lemma weigh_insert (s:State) (t:ℕ) (now:ℤ) : ∃ token,(token=.spawned t∨token=.queued t) ∧
  ∀ w,(s.insert t now).weigh w=s.weigh w+w token := by
 unfold insert
 split
 · exact ⟨.spawned t,.inl rfl,fun w=>weigh_dispatch s t _⟩
 · refine ⟨.queued t,.inr rfl,fun w=>?_⟩
   rw[weigh_armNext]
   have hperm:=(perm_orderedInsert (fun a b:ℤ×ℕ=>a.1 < b.1) ((s.tasks t).runAt,t) s.timers).map
    fun entry=>Token.queued entry.2
   have htotal:=total_perm w hperm
   simp only[map_cons,total_cons] at htotal
   unfold weigh setTask
   simp only
   omega

lemma sameControl_insert (s:State) (t:ℕ) (now:ℤ) : SameControl s (s.insert t now) := by
 unfold insert
 split
 · exact ⟨rfl,rfl,rfl,rfl,rfl⟩
 · exact SameControl.armNext ⟨rfl,rfl,rfl,rfl,rfl⟩

lemma perm_eraseP_task {timers:List (ℤ×ℕ)} (h:t∈timers.map Prod.snd) :
  timers.map Prod.snd ~ t::(timers.eraseP fun entry=>entry.2 == t).map Prod.snd := by
 induction timers with
 | nil => cases h
 | cons entry timers ih =>
  by_cases heq:entry.2=t
  · rw[eraseP_cons_of_pos (by simpa using heq),map_cons,heq]
  · rw[eraseP_cons_of_neg (by simpa using heq),map_cons,map_cons]
    have hmem:t∈timers.map Prod.snd:=by
     rcases mem_cons.mp h with h | h
     · exact absurd h.symm heq
     · exact h
    exact ((ih hmem).cons _).trans (.swap _ _ _)

lemma weigh_cancelQueued (h:(s.tasks t).queued=true→ t∈s.timers.map Prod.snd) :
  s.cancelQueued t=s ∨
   ∀ w,(s.cancelQueued t).weigh w+w (.queued t)=s.weigh w+w (.spawned t) := by
 unfold cancelQueued
 split
 · next hq =>
   right
   intro w
   have hperm:=(perm_eraseP_task (h hq)).map Token.queued
   have htotal:=total_perm w hperm
   simp only[map_cons,total_cons,map_map,Function.comp_def] at htotal
   rw[weigh_armNext,weigh_dispatch]
   unfold weigh setTask
   simp only
   omega
 · exact .inl rfl

lemma sameControl_cancelQueued (s:State) (t:ℕ) : SameControl s (s.cancelQueued t) := by
 unfold cancelQueued
 split
 · exact SameControl.armNext ⟨rfl,rfl,rfl,rfl,rfl⟩
 · exact ⟨rfl,rfl,rfl,rfl,rfl⟩

inductive Firing (s:State) (n:ℕ) : State → Prop
 | intro {front rest:List (ℤ × ℕ)} (tasks:ℕ → Task) (htimers:s.timers = front ++ rest)
  (hlength:front.length = n) : Firing s n { s with
   timers := rest
   pending := s.pending ++ front.map fun entry=>.spawned entry.2
   tasks := tasks }

lemma firing_front {u:State} {n:ℕ} {now:ℤ} (h:Firing s n u) (hdue:u.timerDue now=true) :
  Firing s (n+1) u.fireFront := by
 obtain @⟨front,rest,tasks,htimers,hlength⟩:=h
 cases rest with
 | nil => cases hdue
 | cons entry tail =>
  have hsplit:s.timers=(front++[entry])++tail:=by
   rw[htimers,append_assoc]
   rfl
  have hfront:(front++[entry]).length=n+1:=by
   rw[length_append,hlength]
   rfl
  have hnext:=Firing.intro (Function.update (Function.update tasks entry.2
   { tasks entry.2 with queued := false }) entry.2 { tasks entry.2 with
     queued := false
     expedited := (tasks entry.2).expeditedByDeadline || (tasks entry.2).cancelRequested }) hsplit hfront
  rw[map_append,← append_assoc] at hnext
  convert hnext using 1
  simp[fireFront,dispatch,setTask,give]

lemma firing_iterate (s:State) (now:ℤ) (n:ℕ) (h:∀ i < n,(fireFront^[i] s).timerDue now=true) :
  Firing s n (fireFront^[n] s) := by
 induction n with
 | zero =>
  have hnone:=Firing.intro s.tasks (nil_append s.timers).symm rfl
  rw[map_nil,append_nil] at hnone
  exact hnone
 | succ n ih =>
  rw[Function.iterate_succ_apply']
  exact firing_front (ih fun i hi=>h i (by omega)) (h n (Nat.lt_succ_self n))

lemma firing_fire (s:State) (now:ℤ) : ∃ n u,n≤64∧(s.timerDue now=true→0 < n) ∧
  Firing { s with armedAt := none } n u∧s.fire now=u.armNext := by
 obtain ⟨n,hn,heq,hguard,hexit⟩:=
  loop_iterate (timerDue now) fireFront 64 { s with armedAt := none }
 refine ⟨n,_,hn,fun hdue=>?_,firing_iterate _ now n hguard,congrArg armNext heq⟩
 by_contra hzero
 obtain rfl:n=0:=by omega
 have hnot:timerDue now { s with armedAt:=none }=false := hexit (by omega)
 rw[show timerDue now { s with armedAt := none }=s.timerDue now from rfl,hdue] at hnot
 cases hnot

lemma weigh_fire (s:State) (now:ℤ) : ∃ moved : List ℕ,moved.length≤64 ∧
  (s.timerDue now=true→ moved≠[]) ∧
  ∀ w,(s.fire now).weigh w+total w (moved.map .queued)=s.weigh w+total w (moved.map .spawned) := by
 obtain ⟨n,u,hn,hdue,hfiring,heq⟩:=firing_fire s now
 obtain @⟨front,rest,tasks,htimers,hlength⟩:=hfiring
 refine ⟨front.map Prod.snd,?_,fun h hnil=>?_,fun w=>?_⟩
 · rw[length_map,hlength]
   exact hn
 · have:=hdue h
   rw[map_eq_nil_iff] at hnil
   rw[hnil] at hlength
   simp only[length_nil] at hlength
   omega
 · have htimers:s.timers=front++rest:=htimers
   rw[heq,weigh_armNext]
   unfold weigh
   simp only[htimers,map_append,total_append,map_map,Function.comp_def]
   omega

lemma sameControl_fire (s:State) (now:ℤ) : SameControl s (s.fire now) := by
 obtain ⟨n,u,-,-,hfiring,heq⟩:=firing_fire s now
 rw[heq]
 obtain ⟨tasks,htimers,hlength⟩:=hfiring
 exact SameControl.armNext ⟨rfl,rfl,rfl,rfl,rfl⟩

end State

inductive Change (s:State) : Label → List Token → List Token → ℕ → Prop
 | none {l:Label} (hl:l.Quiet) : Change s l [] [] s.next
 | entered (cancelled:Bool) (now:ℤ) (context:Context) (duration:ℤ) :
  Change s (.delay cancelled now context duration) [] [.adding s.next] (s.next + 1)
 | refused (t:ℕ) : Change s (.reserve t) [.adding t] [] s.next
 | reserved (t:ℕ) (h:s.closed = false) : Change s (.reserve t) [.adding t] [.admitted t] s.next
 | accepted (t:ℕ) : Change s (.post t) [.admitted t] [.insert t] s.next
 | failed (t:ℕ) {given:List Token} (hgiven:given = [.signal false] ∨ given = []) :
  Change s (.postFails t) [.admitted t] given s.next
 | cancelled (t:ℕ) : Change s (.cancel t) [] [.cancel t] s.next
 | stopped {token:Token} (htoken:token = .signal true ∨ token = .waiting) :
  Change s (.stop false) [] [token] s.next
 | inserted {t:ℕ} {token:Token} (now:ℤ) (htoken:token = .spawned t ∨ token = .queued t) :
  Change s (.insert t now) [.insert t] [token] s.next
 | late (t:ℕ) : Change s (.cancelQueued t) [.cancel t] [] s.next
 | expedited (t:ℕ) : Change s (.cancelQueued t) [.cancel t,.queued t] [.spawned t] s.next
 | stale (wait:ℕ × ℤ) (aborted:Bool) (now:ℤ) : Change s (.timer wait aborted now) [] [] s.next
 | fired (wait:ℕ × ℤ) (now:ℤ) (moved:List ℕ) (hbatch:moved.length ≤ 64) :
  Change s (.timer wait false now) (moved.map .queued) (moved.map .spawned) s.next
 | invoked (t:ℕ) (h:(s.tasks t).claimed = false) :
  Change s (.invoke t) [.spawned t] [.running t] s.next
 | finished (t:ℕ) {given:List Token} (hgiven:given = [.signal false] ∨ given = []) :
  Change s (.finish t) [.running t] given s.next
 | resignalled (stop:Bool) : Change s (.signal stop) [.signal stop] (signalled stop) s.next
 | signalled (stop:Bool) : Change s (.signal stop) [.signal stop] [.send stop] s.next
 | sent (stop:Bool) : Change s (.send stop) [.send stop] (DelayPool.signalled stop) s.next
 | stopReturned : Change s .stopReturns [.waiting] [] s.next

def held : Token → ℕ
 | .admitted _ | .insert _ | .queued _ | .spawned _ | .running _ => 1
 | _ => 0

structure Flow (s:State) (l:Label) (s':State) (taken given:List Token) : Prop where
 change : Change s l taken given s'.next
 weigh : ∀ w,s'.weigh w + total w taken = s.weigh w + total w given
 activeTasks : s'.activeTasks + total held taken = s.activeTasks + total held given
 closed : s.closed = true → s'.closed = true

section Flow
variable {s s':State} {l:Label}

lemma held_signalled (stop:Bool) : total held (signalled stop)=0 := by
 cases stop <;> rfl

/-- A task that holds a place in the queue is in the queue, and one that was spawned has
not been claimed. -/
structure Sound (s:State) : Prop where
 queued : ∀ t,(s.tasks t).queued = true → t ∈ s.timers.map Prod.snd
 claimed : ∀ t,.spawned t ∈ s.pending → (s.tasks t).claimed = false
 accounts : s.activeTasks = s.weigh held

lemma retire_given (s:State) : (if s.closed=true∧s.activeTasks - 1=0 then [Token.signal false] else []) =
  [.signal false]∨(if s.closed=true∧s.activeTasks - 1=0 then [Token.signal false] else [])=[] := by
 split
 · exact .inl rfl
 · exact .inr rfl

lemma held_retire (s:State) :
  total held (if s.closed=true∧s.activeTasks - 1=0 then [Token.signal false] else [])=0 := by
 split <;> rfl

lemma flow_of_move (hs:Sound s) (h:Move s l s') : ∃ taken given,Flow s l s' taken given := by
 cases h with
 | unchanged hl => exact ⟨[],[],.none hl,fun _=>rfl,rfl,id⟩
 | entered task =>
  exact ⟨[],[.adding s.next],.entered _ _ _ _,fun w=>weigh_give { s with next := s.next+1 } _,rfl,id⟩
 | refused ht => exact ⟨[_],[],.refused _,fun w=>weigh_exchange ht _,rfl,id⟩
 | reserved ht hopen => exact ⟨[_],[_],.reserved _ hopen,fun w=>weigh_exchange ht _,rfl,id⟩
 | accepted ht => exact ⟨[_],[_],.accepted _,fun w=>weigh_exchange ht _,rfl,id⟩
 | failed ht =>
  refine ⟨[_],_,.failed _ (retire_given s),fun w=>weigh_exchange ht _,?_,id⟩
  have hpos:=le_weigh (w:=held) ht
  rw[held_retire,← hs.accounts] at *
  exact Nat.succ_pred (Nat.ne_of_gt hpos)
 | cancelled t => exact ⟨[],[_],.cancelled t,fun w=>weigh_give s _,rfl,id⟩
 | started => exact ⟨[],[],.none trivial,fun _=>rfl,rfl,id⟩
 | stopped =>
  refine ⟨[],[_],.stopped ?_,fun w=>weigh_give { s with closed := true } _,?_,fun _=>rfl⟩
  · split
    · exact .inl rfl
    · exact .inr rfl
  · rw[total_cons]
    split <;> rfl
 | @inserted t now ht =>
  obtain ⟨token,htoken,hweigh⟩:=weigh_insert (s.exchange (.insert t) []) t now
  have hsame:=sameControl_insert (s.exchange (.insert t) []) t now
  have hnext:Change s (.insert t now) [.insert t] [token] ((s.exchange (.insert t) []).insert t now).next:=by
   rw[hsame.next]
   exact .inserted now htoken
  refine ⟨[.insert t],[token],hnext,fun w=>?_,?_,fun hc=>hsame.closed.trans hc⟩
  · have:=weigh_exchange (w := w) ht []
    rw[hweigh w]
    simp only[total_cons,total_nil] at *
    omega
  · rw[hsame.activeTasks]
    rcases htoken with rfl | rfl <;> rfl
 | @expedited t ht =>
  have hsame:=sameControl_cancelQueued (s.exchange (.cancel t) []) t
  rcases weigh_cancelQueued (s:=s.exchange (.cancel t) []) (hs.queued t) with heq | hweigh
  · rw[heq]
    exact ⟨[_],[],.late t,fun w=>weigh_exchange ht _,rfl,id⟩
  · have hnext:Change s (.cancelQueued t) [.cancel t,.queued t] [.spawned t]
     ((s.exchange (.cancel t) []).cancelQueued t).next:=by
     rw[hsame.next]
     exact .expedited t
    refine ⟨_,_,hnext,fun w=>?_,?_,fun hc=>hsame.closed.trans hc⟩
    · have:=weigh_exchange (w := w) ht []
      have:=hweigh w
      simp only[total_cons,total_nil] at *
      omega
    · rw[hsame.activeTasks]
      rfl
 | stale aborted now => exact ⟨[],[],.stale _ aborted now,fun _=>rfl,rfl,id⟩
 | @fired wait now hw hcurrent =>
  obtain ⟨moved,hbatch,-,hweigh⟩:=weigh_fire { s with waits := s.waits.erase wait } now
  have hsame:=sameControl_fire { s with waits:=s.waits.erase wait } now
  have hnext:Change s (.timer wait false now) (moved.map .queued) (moved.map .spawned)
   (State.fire { s with waits := s.waits.erase wait } now).next:=by
   rw[hsame.next]
   exact .fired wait now moved hbatch
  refine ⟨_,_,hnext,hweigh,?_,fun hc=>hsame.closed.trans hc⟩
  rw[hsame.activeTasks,total_map_const held (c := 1) (fun _=>rfl),total_map_const held (c := 1) fun _=>rfl]
 | skipped ht hclaimed =>
  rw[hs.claimed _ ht] at hclaimed
  cases hclaimed
 | invoked ht hclaimed => exact ⟨[_],[_],.invoked _ hclaimed,fun w=>weigh_exchange ht _,rfl,id⟩
 | finished ht =>
  refine ⟨[_],_,.finished _ (retire_given s),fun w=>weigh_exchange ht _,?_,id⟩
  have hpos:=le_weigh (w:=held) ht
  rw[held_retire,← hs.accounts] at *
  exact Nat.succ_pred (Nat.ne_of_gt hpos)
 | resignalled ht =>
  refine ⟨[_],_,.resignalled _,fun w=>weigh_exchange ht _,?_,id⟩
  rw[held_signalled]
  rfl
 | signalled ht => exact ⟨[_],[_],.signalled _,fun w=>weigh_exchange ht _,rfl,id⟩
 | sent ht =>
  refine ⟨[_],_,.sent _,fun w=>weigh_exchange ht _,?_,id⟩
  rw[held_signalled]
  rfl
 | stopReturned ht => exact ⟨[_],[],.stopReturned,fun w=>weigh_exchange ht _,rfl,id⟩

end Flow

end ServiceLib.DelayPool
