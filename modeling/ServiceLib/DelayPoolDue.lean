import ServiceLib.DelayPoolRuns

set_option autoImplicit false
attribute [-instance] instBooleanRingBool

/-!
# When a delayed task may start

The strand starts a task when the clock it reads has reached the due time, or when the task was
asked to cancel.
-/
namespace ServiceLib.DelayPool
open State List Loop Tokens Transition Function

def checked (value:ℤ) : Option ℤ :=
 if -2 ^ 63 ≤ value ∧ value ≤ 2 ^ 63 - 1 then some value else none

/-- `saturatedAdd` with the operations of the machine. -/
def saturatedAddChecked (now duration:ℤ) : Option ℤ :=
 if duration ≤ 0 then some now
 else (checked (timePointMax - now)).bind fun maximum =>
  if maximum ≤ duration then some timePointMax else checked (now + duration)

def dueTime (now duration:ℤ) (deadline:Option ℤ) : ℤ :=
 let due:=min timePointMax (now + max 0 duration)
 (deadline.map (min due)).getD due

section DueTime
variable {now duration:ℤ}

lemma saturatedAdd_eq (hnow:now≤timePointMax) :
  saturatedAdd now duration=min timePointMax (now+max 0 duration) := by
 unfold saturatedAdd
 split
 · omega
 · split <;> omega

lemma saturatedAddChecked_eq (hnow:0≤now∧now≤timePointMax) :
  saturatedAddChecked now duration=some (saturatedAdd now duration) := by
 unfold timePointMax at hnow
 unfold saturatedAddChecked saturatedAdd
 split
 · rfl
 · have hmaximum:checked (timePointMax - now)=some (timePointMax - now) :=
    if_pos (by unfold timePointMax; omega)
   rw[hmaximum,Option.bind_some]
   split
   · rfl
   · next hlt =>
     unfold timePointMax at hlt
     exact if_pos (by omega)

lemma runAt_eq (hnow:now≤timePointMax) (deadline:Option ℤ) :
  (runAt now duration deadline).1=dueTime now duration deadline := by
 cases deadline <;> grind[runAt,dueTime,saturatedAdd]

end DueTime

def Label.clock : Label → Option ℤ
 | .insert _ now | .timer _ _ now => some now
 | _ => none

/-- A task that a step may start: it was asked to cancel, or the clock has reached its time. -/
def MayStart (s:State) (l:Label) (t:ℕ) : Prop :=
 (s.tasks t).cancelRequested = true ∨ .cancel t ∈ s.pending ∨
  ∃ clock,l.clock = some clock ∧ ((s.tasks t).runAt ≤ clock ∨ ∃ entry ∈ s.timers,entry.2 = t ∧ entry.1 ≤ clock)

structure Effect (s:State) (l:Label) (s':State) : Prop where
 next : s'.next = s.next
 order : ∀ t,(s'.tasks t).runAt = (s.tasks t).runAt ∧ (s'.tasks t).cancelRequested = (s.tasks t).cancelRequested
 callbacks : ∀ t,(s.tasks t).cancellations = 0 → (s'.tasks t).cancellations = 0
 timers : ∀ entry ∈ s'.timers,entry ∈ s.timers ∨ entry.1 = (s.tasks entry.2).runAt
 cancels : ∀ t,.cancel t ∈ s'.pending → .cancel t ∈ s.pending
 started : ∀ t,s.pending.count (.spawned t) < s'.pending.count (.spawned t) → MayStart s l t

section Step
variable {s s':State} {l:Label} {t:ℕ} {due:ℤ} {seen:List Label}

lemma count_exchange_le (tokens:List Token) (taken token:Token) (given:List Token) :
  (Tokens.exchange tokens taken given).count token≤tokens.count token+given.count token := by
 unfold Tokens.exchange
 rw[count_append]
 exact Nat.add_le_add_right (erase_sublist.count_le token) _

lemma effect_of_given (given:List Token)
  (hcount:∀ token,s'.pending.count token≤ s.pending.count token+given.count token)
  (hcancel:∀ t,.cancel t∉given) (hstart:∀ t,.spawned t∈given→ MayStart s l t) (hnext:s'.next=s.next)
  (htasks:∀ t,(s'.tasks t).runAt=(s.tasks t).runAt ∧
   (s'.tasks t).cancelRequested=(s.tasks t).cancelRequested ∧
   ((s.tasks t).cancellations=0→(s'.tasks t).cancellations=0))
  (htimers:∀ entry∈s'.timers,entry∈s.timers∨entry.1=(s.tasks entry.2).runAt) : Effect s l s' := by
 refine ⟨hnext,fun t=>⟨(htasks t).1,(htasks t).2.1⟩,fun t=>(htasks t).2.2,htimers,fun t ht=>?_,fun t ht=>?_⟩
 · have hle:=hcount (.cancel t)
   rw[count_eq_zero.mpr (hcancel t)] at hle
   exact count_pos_iff.mp (Nat.lt_of_lt_of_le (count_pos_iff.mpr ht) hle)
 · have hle:=hcount (.spawned t)
   exact hstart t (count_pos_iff.mp (by omega))

lemma effect_exchange {taken:Token} {given:List Token}
  (hgiven:∀ t,.spawned t∉given∧ .cancel t∉given)
  (hpending:s'.pending=Tokens.exchange s.pending taken given) (hnext:s'.next=s.next)
  (htasks:∀ t,(s'.tasks t).runAt=(s.tasks t).runAt ∧
   (s'.tasks t).cancelRequested=(s.tasks t).cancelRequested ∧
   ((s.tasks t).cancellations=0→(s'.tasks t).cancellations=0))
  (htimers:s'.timers=s.timers) : Effect s l s' :=
 effect_of_given given (fun token=>hpending▸count_exchange_le _ _ token _) (fun t=>(hgiven t).2)
  (fun t ht=>absurd ht (hgiven t).1) hnext htasks fun _ hentry=>.inl (htimers▸hentry)

lemma order_of_same (h:SameField (fun task=>(task.runAt,task.cancelRequested,task.cancellations)) s s') (t:ℕ) :
  (s'.tasks t).runAt=(s.tasks t).runAt∧(s'.tasks t).cancelRequested=(s.tasks t).cancelRequested ∧
   ((s.tasks t).cancellations=0→(s'.tasks t).cancellations=0) := by
 have ht:=h t
 simp only[Prod.mk.injEq] at ht
 exact ⟨ht.1,ht.2.1,fun hzero=>ht.2.2.trans hzero⟩

lemma count_push (tokens:List Token) (taken token given:Token) :
  (Tokens.exchange tokens taken []++[given]).count token≤tokens.count token+[given].count token := by
 have hle:=count_exchange_le tokens taken token []
 rw[count_append]
 exact Nat.add_le_add_right hle _

lemma given_fire (s:State) (now:ℤ) : ∃ given : List Token,
  (∀ token,(s.fire now).pending.count token≤ s.pending.count token+given.count token) ∧
  (∀ token∈given,∃ entry∈s.timers,entry.1≤now∧token=.spawned entry.2) ∧
  ∀ entry∈(s.fire now).timers,entry∈s.timers := by
 have hloop:(∀ entry∈(loop (timerDue now) State.fireFront 64 { s with armedAt:=none }).timers,entry∈s.timers) ∧
  ∃ given,(loop (timerDue now) State.fireFront 64 { s with armedAt := none }).pending=s.pending++given ∧
   ∀ token∈given,∃ entry∈s.timers,entry.1≤now∧token=.spawned entry.2:=by
  refine loop_invariant (I := fun u : State=>(∀ entry∈u.timers,entry∈s.timers) ∧
   ∃ given,u.pending=s.pending++given ∧
    ∀ token∈given,∃ entry∈s.timers,entry.1≤now∧token=.spawned entry.2) ?_ 64
   ⟨fun _=>id,[],(append_nil _).symm,fun _ h=>nomatch h⟩
  rintro u ⟨htimers,given,hpending,hgiven⟩ hdue
  unfold State.fireFront
  split
  · exact ⟨htimers,given,hpending,hgiven⟩
  · next entry rest hu =>
    have hmem:=htimers entry (hu▸mem_cons_self)
    have hle:entry.1≤now:=by
     rw[timerDue,hu] at hdue
     exact of_decide_eq_true hdue
    refine ⟨fun other hother=>htimers other (hu▸mem_cons_of_mem _ hother),given++[.spawned entry.2],?_,?_⟩
    · rw[← append_assoc,← hpending]
      rfl
    · intro token htoken
      rcases mem_append.mp htoken with htoken | htoken
      · exact hgiven token htoken
      · exact ⟨entry,hmem,hle,mem_singleton.mp htoken⟩
 obtain ⟨htimers,given,hpending,hgiven⟩:=hloop
 obtain ⟨generation,armedAt,waits,heq⟩:=armNext_eq (loop (timerDue now) State.fireFront 64 { s with armedAt := none })
 refine ⟨given,fun token=>?_,hgiven,?_⟩
 · unfold State.fire
   rw[heq]
   exact Nat.le_of_eq (hpending▸count_append)
 · unfold State.fire
   rw[heq]
   exact htimers

lemma step_cases (hstep:step s l=some s') : Effect s l s' ∨
  (∃ task,s'=({ s with next := s.next+1 }.give [.adding s.next]).setTask s.next task) ∨
  ∃ t,l=.cancel t∧(s.tasks t).cancellations≠0 ∧
   s'=(s.give [.cancel t]).setTask t { s.tasks t with cancelRequested := true } := by
 have hsame:∀ t,(s.tasks t).runAt=(s.tasks t).runAt∧(s.tasks t).cancelRequested=(s.tasks t).cancelRequested ∧
  ((s.tasks t).cancellations=0→(s.tasks t).cancellations=0) := fun t=>⟨rfl,rfl,id⟩
 cases move_of_step hstep with
 | entered task => exact .inr (.inl ⟨task,rfl⟩)
 | cancelled t => exact .inr (.inr ⟨t,rfl,by grind[DelayPool.step],rfl⟩)
 | unchanged | started | stale =>
  refine .inl ?_
  exact effect_of_given [] (fun _=>Nat.le_refl _) (by simp) (by simp) rfl hsame fun _=>.inl
 | stopped =>
  refine .inl ?_
  refine effect_of_given [_] (fun _=>Nat.le_of_eq count_append) ?_ ?_ rfl hsame fun _=>.inl <;> grind
 | reserved | accepted | skipped | resignalled | signalled | sent | stopReturned | finished =>
  exact .inl (effect_exchange (by grind[DelayPool.signalled]) rfl rfl hsame rfl)
 | refused | failed | invoked =>
  refine .inl (effect_exchange (by grind) rfl rfl (fun u=>?_) rfl)
  simp only[State.discard,State.setTask,State.exchange,State.retire,update_apply]
  grind
 | @inserted t now ht =>
  have hkept:=order_of_same (sameField_insert (fun _ _ _=>rfl) (s.exchange (.insert t) []) t now)
  have hnext:=(sameControl_insert (s.exchange (.insert t) []) t now).next
  by_cases hdue:(s.tasks t).cancelRequested=true∨(s.tasks t).runAt≤now
  · have heq:(s.exchange (.insert t) []).insert t now=(s.exchange (.insert t) []).dispatch t _:=if_pos hdue
    rw[heq] at hkept hnext ⊢
    refine .inl (effect_of_given [.spawned t] (count_push _ _ · _) (by simp) (fun u hu=>?_) hnext hkept fun _=>.inl)
    obtain rfl:u=t:=by simpa using hu
    exact hdue.imp_right fun hle=>.inr ⟨now,rfl,.inl hle⟩
  · obtain ⟨generation,armedAt,waits,harm⟩:=armNext_eq ({ s.exchange (.insert t) [] with
     timers := s.timers.orderedInsert (fun a b=>a.1 < b.1) ((s.tasks t).runAt,t) }.setTask t
     { s.tasks t with queued := true })
    have heq:(s.exchange (.insert t) []).insert t now=_:=(if_neg hdue).trans harm
    rw[heq] at hkept hnext ⊢
    refine .inl (effect_of_given [] (count_exchange_le _ _ · _) (by simp) (by simp) hnext hkept fun entry hentry=>?_)
    rcases (mem_orderedInsert _).mp hentry with rfl | hentry
    · exact .inr rfl
    · exact .inl hentry
 | @expedited t ht =>
  have hkept:=order_of_same (sameField_cancelQueued (fun _ _ _=>rfl) (s.exchange (.cancel t) []) t)
  have hnext:=(sameControl_cancelQueued (s.exchange (.cancel t) []) t).next
  refine .inl (effect_of_given [.spawned t] (fun token=>?_) (by simp) (fun u hu=>?_) hnext hkept
   fun entry hentry=>.inl ?_)
  · unfold State.cancelQueued
    split
    · rw[pending_armNext]
      exact count_push _ _ token _
    · exact (count_exchange_le _ _ token _).trans (Nat.add_le_add_left (Nat.zero_le _) _)
  · obtain rfl:u=t:=by simpa using hu
    exact .inr (.inl ht)
  · unfold State.cancelQueued at hentry
    split at hentry
    · obtain ⟨generation,armedAt,waits,harm⟩:=armNext_eq (({ s.exchange (.cancel t) [] with
       timers := s.timers.eraseP (fun entry=>entry.2 == t) }.setTask t
       { s.tasks t with queued := false }).dispatch t true)
      exact mem_of_mem_eraseP (harm▸hentry)
    · exact hentry
 | @fired wait now hw =>
  have hkept:=order_of_same (sameField_fire (fun _ _ _=>rfl) { s with waits:=s.waits.erase wait } now)
  have hnext:=(sameControl_fire { s with waits:=s.waits.erase wait } now).next
  obtain ⟨given,hcount,hgiven,htimers⟩:=given_fire { s with waits := s.waits.erase wait } now
  refine .inl (effect_of_given given hcount (fun u hu=>?_) (fun u hu=>?_) hnext hkept fun entry hentry =>
   .inl (htimers entry hentry))
  · obtain ⟨entry,-,-,heq⟩:=hgiven _ hu
    cases heq
  · obtain ⟨entry,hentry,hle,heq⟩:=hgiven _ hu
    cases heq
    exact .inr (.inr ⟨now,rfl,.inr ⟨entry,hentry,rfl,hle⟩⟩)

def Unnamed (s:State) : Prop :=
 ∀ t,s.next ≤ t → (s.tasks t).cancellations = 0 ∧ .cancel t ∉ s.pending

/-- A task that was made with a due time: the queue has it under that time, and it was
asked to cancel only by a step that was seen. -/
structure Timed (t:ℕ) (due:ℤ) (s:State) (seen:List Label) : Prop where
 made : t < s.next
 runAt : (s.tasks t).runAt = due
 keyed : ∀ entry ∈ s.timers,entry.2 = t → entry.1 = due
 asked : (s.tasks t).cancelRequested = true ∨ .cancel t ∈ s.pending → .cancel t ∈ seen

lemma tasks_setTask_self (s:State) (t:ℕ) (task:Task) : (s.setTask t task).tasks t=task :=
 update_self ..

lemma tasks_setTask_of_ne {u:ℕ} (h:u≠t) (s:State) (task:Task) : (s.setTask t task).tasks u=s.tasks u :=
 update_of_ne h ..

lemma unnamed_step (h:Unnamed s) (hstep:step s l=some s') : Unnamed s' := by
 intro t ht
 rcases step_cases hstep with heffect | ⟨task,rfl⟩ | ⟨u,rfl,hu,rfl⟩
 · obtain ⟨hcallbacks,hcancel⟩:=h t (heffect.next▸ht)
   exact ⟨heffect.callbacks t hcallbacks,fun hmem=>hcancel (heffect.cancels t hmem)⟩
 · have hlt:s.next < t:=ht
   obtain ⟨hcallbacks,hcancel⟩:=h t hlt.le
   refine ⟨?_,by simpa[State.setTask,State.give] using hcancel⟩
   rw[tasks_setTask_of_ne hlt.ne']
   exact hcallbacks
 · obtain ⟨hcallbacks,hcancel⟩:=h t ht
   have hne:t≠u:=fun heq=>hu (heq▸hcallbacks)
   refine ⟨?_,by simpa[State.setTask,State.give,hne] using hcancel⟩
   rw[tasks_setTask_of_ne hne]
   exact hcallbacks

lemma Timed.move (h:Timed t due s seen) (hstep:step s l=some s') : Timed t due s' (seen++[l]) := by
 obtain ⟨hmade,hrunAt,hkeyed,hasked⟩:=h
 rcases step_cases hstep with heffect | ⟨task,rfl⟩ | ⟨u,rfl,hu,rfl⟩
 · obtain ⟨hsame,hrequested⟩:=heffect.order t
   refine ⟨heffect.next▸hmade,hsame.trans hrunAt,fun entry hentry heq=>?_,fun h=>mem_append_left _ ?_⟩
   · rcases heffect.timers entry hentry with hentry | hentry
     · exact hkeyed entry hentry heq
     · rw[hentry,heq,hrunAt]
   · exact hasked (h.imp (hrequested▸·) (heffect.cancels t))
 · have hne:t≠s.next:=hmade.ne
   refine ⟨Nat.lt_succ_of_lt hmade,?_,hkeyed,fun h=>mem_append_left _ (hasked ?_)⟩
   · rw[tasks_setTask_of_ne hne]
     exact hrunAt
   · simpa[State.setTask,State.give,hne] using h
 · by_cases heq:t=u
   · subst heq
     refine ⟨hmade,?_,hkeyed,fun _=>mem_append_right _ mem_cons_self⟩
     rw[tasks_setTask_self]
     exact hrunAt
   · refine ⟨hmade,?_,hkeyed,fun h=>mem_append_left _ (hasked ?_)⟩
     · rw[tasks_setTask_of_ne heq]
       exact hrunAt
     · simpa[State.setTask,State.give,heq] using h

lemma Timed.starts (h:Timed t due s seen) (hstep:step s l=some s')
  (hstart:s.pending.count (.spawned t) < s'.pending.count (.spawned t)) :
  .cancel t∈seen∨∃ clock,l.clock=some clock∧due≤clock := by
 rcases step_cases hstep with heffect | ⟨task,rfl⟩ | ⟨u,rfl,hu,rfl⟩
 · rcases heffect.started t hstart with hrequested | hcancel | ⟨clock,hclock,hdue⟩
   · exact .inl (h.asked (.inl hrequested))
   · exact .inl (h.asked (.inr hcancel))
   · refine .inr ⟨clock,hclock,?_⟩
     rcases hdue with hle | ⟨entry,hentry,heq,hle⟩
     · exact h.runAt▸hle
     · exact h.keyed entry hentry heq▸hle
 · simp[State.setTask,State.give] at hstart
 · simp[State.setTask,State.give] at hstart

end Step

lemma unnamed_exec {s:State} {ls:List Label} (hrun:exec step {} ls=some s) : Unnamed s :=
 exec_invariant (fun _ _ _ h hstep=>unnamed_step h hstep) (fun _ _=>⟨rfl,not_mem_nil⟩) hrun

/-- The due time of a task is the saturated sum of now and the delay, computed without
overflow, or the deadline where that is earlier. A step after the call starts the task
only when the clock it reads has reached that time, unless the task was asked to cancel. -/
theorem never_early {before after : List Label} {s₀ s₁ s s' : State} {cancelled : Bool} {now duration : ℤ}
  {context : Context} {l : Label} (hnow : 0 ≤ now ∧ now ≤ timePointMax)
  (hbefore : exec step {} before = some s₀) (hdelay : s₀.delay cancelled now context duration = .ok s₁)
  (hafter : exec step s₁ after = some s) (hstep : step s l = some s') :
  saturatedAddChecked now duration = some (min timePointMax (now + max 0 duration)) ∧
  (s₁.tasks s₀.next).runAt = dueTime now duration context.deadline ∧
  (s.pending.count (.spawned s₀.next) < s'.pending.count (.spawned s₀.next) →
   .cancel s₀.next ∈ after ∨ ∃ clock, l.clock = some clock ∧ dueTime now duration context.deadline ≤ clock) := by
 have htimed:Timed s₀.next (dueTime now duration context.deadline) s₁ []:=by
  unfold State.delay at hdelay
  split at hdelay
  · cases hdelay
  split at hdelay
  · cases hdelay
  obtain rfl:=Except.ok.inj hdelay
  refine ⟨Nat.lt_succ_self _,?_,fun entry hentry heq=>?_,?_⟩
  · rw[tasks_setTask_self]
    exact runAt_eq hnow.2 _
  · exact absurd (heq▸mem_map_of_mem hentry) (tracked_exec hbefore).next_fresh
  · have hcancel:=(unnamed_exec hbefore s₀.next (Nat.le_refl _)).2
    simp[State.setTask,State.give,hcancel]
 refine ⟨?_,htimed.runAt,?_⟩
 · rw[saturatedAddChecked_eq hnow,saturatedAdd_eq hnow.2]
 · exact (exec_history (fun _ _ _ _ h hstep=>h.move hstep) htimed hafter).starts hstep

/-- A task delayed by five ticks at time zero is started by the timer at time six. -/
theorem never_early_timer : ∃ s₁ s s', State.delay {} false 0 ⟨1, none⟩ 5 = .ok s₁ ∧
  exec step s₁ [.reserve 0, .post 0, .insert 0 1] = some s ∧ step s (.timer (1, 5) false 6) = some s' ∧
  s.pending.count (.spawned 0) < s'.pending.count (.spawned 0) ∧
  ∃ clock, (Label.timer (1, 5) false 6).clock = some clock ∧ dueTime 0 5 none ≤ clock := by
 refine ⟨_,_,_,rfl,rfl,rfl,by decide,?_⟩
 have hrun:=@never_early [] [.reserve 0,.post 0,.insert 0 1] {} _ _ _ false 0 5 ⟨1,none⟩ (.timer (1,5) false 6)
  (by decide) rfl rfl rfl rfl
 exact (hrun.2.2 (by decide)).resolve_left (by decide)

end ServiceLib.DelayPool
