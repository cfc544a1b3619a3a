import ServiceLib.GraphGate
import ServiceLib.Tokens

set_option autoImplicit false
attribute [-instance] instBooleanRingBool

/-!
# What holds in every run of the drain gate

A call that waits is woken once both counters are zero, as long as no other call drops the
notification that the two share.
-/
namespace ServiceLib.GraphGate
open Transition Tokens Function List

def Place.event : Place → Option ℕ
 | .registered event | .subscribing event _ | .waiting event | .relocking event _ => some event
 | .entering | .returned _ => none

def Place.listens : Place → Option ℕ
 | .registered event | .subscribing event _ | .waiting event => some event
 | .entering | .relocking _ _ | .returned _ => none

def Place.isReturned : Place → Bool
 | .returned _ => true
 | _ => false

variable {i d context:ℕ}

section Moves
variable {contexts:ℕ → Context} {s s':State} {l:Label}

@[simp] lemma move_drains (s:State) (d context:ℕ) (place:Place) :
  (s.move d context place).drains=s.drains.set d ⟨context,place⟩ := rfl

lemma takeNotification_drains (s:State) : s.takeNotification.drains=s.drains := by
 unfold State.takeNotification
 split <;> rfl

lemma takeNotification_counts (s:State) :
  s.takeNotification.inputInvocations=s.inputInvocations∧s.takeNotification.inputs=s.inputs ∧
  s.takeNotification.parallelActive=s.parallelActive∧s.takeNotification.tasks=s.tasks := by
 unfold State.takeNotification
 split <;> exact ⟨rfl,rfl,rfl,rfl⟩

lemma check_counts (s:State) (d context:ℕ) :
  (s.check d context).inputInvocations=s.inputInvocations∧(s.check d context).inputs=s.inputs ∧
  (s.check d context).parallelActive=s.parallelActive∧(s.check d context).tasks=s.tasks := by
 unfold State.check
 split
 · exact ⟨rfl,rfl,rfl,rfl⟩
 · split <;> exact ⟨rfl,rfl,rfl,rfl⟩

def Task.unfinished (task:Task) : Bool := task != .finished

structure Counted (s:State) : Prop where
 inputs : s.inputInvocations = s.inputs.count .active
 tasks : s.parallelActive = s.tasks.countP Task.unfinished

lemma Counted.of_eq (h:Counted s)
  (heq:s'.inputInvocations=s.inputInvocations∧s'.inputs=s.inputs ∧
   s'.parallelActive=s.parallelActive∧s'.tasks=s.tasks) : Counted s' := by
 obtain ⟨hcount,hinputs,hactive,htasks⟩:=heq
 exact ⟨by rw[hcount,hinputs,h.inputs],by rw[hactive,htasks,h.tasks]⟩

lemma Counted.finishInput (h:Counted s) (hi:s.inputs[i]?=some .active) :
  Counted (s.finishInputInvocation i) := by
 obtain ⟨hlt,hget⟩:=List.getElem?_eq_some_iff.mp hi
 have hcounted:Counted { s with inputInvocations:=s.inputInvocations - 1,inputs := s.inputs.set i .finished }:=by
  refine ⟨?_,h.tasks⟩
  dsimp only
  rw[count_set hlt,hget,h.inputs]
  rfl
 exact hcounted.of_eq (takeNotification_counts _)

lemma Counted.finishTask (h:Counted s) {task:Task} (hi:s.tasks[i]?=some task)
  (hunfinished:task.unfinished=true) : Counted (s.finishParallelInvocation i) := by
 obtain ⟨hlt,hget⟩:=List.getElem?_eq_some_iff.mp hi
 have hcounted:Counted { s with parallelActive:=s.parallelActive - 1,tasks := s.tasks.set i .finished }:=by
  refine ⟨h.inputs,?_⟩
  dsimp only
  rw[countP_set hlt,hget,h.tasks,hunfinished]
  rfl
 exact hcounted.of_eq (takeNotification_counts _)

lemma Counted.posted (h:Counted s) (hi:s.tasks[i]?=some .posting) :
  Counted { s with tasks := s.tasks.set i .running } := by
 grind[Counted,Task.unfinished]

lemma Counted.move (h:Counted s) (hmove:Move contexts s l s') : Counted s' := by
 cases hmove with
 | beginInput hopen hroom =>
  refine ⟨?_,h.tasks⟩
  dsimp only
  rw[count_append,h.inputs]
  rfl
 | finishInput hi => exact h.finishInput hi
 | parallel haccepting =>
  refine ⟨h.inputs,?_⟩
  dsimp only
  rw[countP_append,h.tasks]
  rfl
 | posted hi => exact h.posted hi
 | postFailed hi => exact h.finishTask hi rfl
 | finishTask hi => exact h.finishTask hi rfl
 | enter hd => exact h.of_eq (check_counts { s with inputClosed := true } _ _)
 | again hd hgoes => exact h.of_eq (check_counts s _ _)
 | subscribe hd =>
  refine h.of_eq ?_
  dsimp only[State.move]
  split <;> exact ⟨rfl,rfl,rfl,rfl⟩
 | send | drain | read | wake | giveUp | callback | timeout | expire | requestStop | closeAdmission
 | releaseRuntime => exact h.of_eq ⟨rfl,rfl,rfl,rfl⟩

lemma isDrained_iff : s.isDrained=true↔s.inputInvocations=0∧s.parallelActive=0 := by
 simp[State.isDrained]

structure Pending (s:State) : Prop where
 undrained : s.parallelDrained ≠ none → s.isDrained = false
 known : ∀ event,s.parallelDrained = some event → event < s.events
 held : ∀ drain ∈ s.drains,∀ event,drain.place.event = some event → event < s.events

lemma takeNotification_pending (s:State) :
  (s.takeNotification.parallelDrained≠none→ s.takeNotification.isDrained=false) ∧
  (∀ event,s.takeNotification.parallelDrained=some event→ s.parallelDrained=some event) ∧
  s.takeNotification.events=s.events := by
 unfold State.takeNotification
 split
 · exact ⟨fun hne=>absurd rfl hne,fun _ heq=>(nomatch heq),rfl⟩
 · next hdrained => exact ⟨fun _=>by simpa using hdrained,fun _ heq=>heq,rfl⟩

lemma Pending.take (h:Pending s) {work:State} (hdrained:work.parallelDrained=s.parallelDrained)
  (hevents:work.events=s.events) (hdrains:work.drains=s.drains) : Pending work.takeNotification := by
 grind[Pending,takeNotification_pending,takeNotification_drains]

lemma Pending.placed (h:Pending s) {place:Place}
  (hplace:∀ event,place.event=some event→ event < s.events) : Pending (s.move d context place) := by
 refine ⟨h.undrained,h.known,fun drain hdrain event hevent=>?_⟩
 rcases mem_or_eq_of_mem_set hdrain with hdrain | rfl
 · exact h.held drain hdrain event hevent
 · exact hplace event hevent

lemma Pending.check (h:Pending s) (d context:ℕ) : Pending (s.check d context) := by
 unfold State.check
 split
 · exact h.placed fun _ hevent=>(nomatch hevent)
 · next hdrained =>
   split
   · next event heq =>
     refine h.placed fun other hother=>?_
     obtain rfl:=Option.some.inj hother
     exact h.known event heq
   · have hfresh:Pending { s with parallelDrained:=some s.events,events := s.events+1 }:=by
      refine ⟨fun _=>Bool.eq_false_iff.mpr hdrained,fun event heq=>?_,fun drain hdrain event hevent=>?_⟩
      · obtain rfl:=Option.some.inj heq
        exact Nat.lt_succ_self s.events
      · exact Nat.lt_succ_of_lt (h.held drain hdrain event hevent)
     refine hfresh.placed fun other hother=>?_
     obtain rfl:=Option.some.inj hother
     exact Nat.lt_succ_self s.events

lemma Pending.giveUp (h:Pending s) (d context event:ℕ) : Pending (s.giveUp d context event) := by
 have hdropped:Pending { s with
  parallelDrained := if s.parallelDrained=some event then none else s.parallelDrained }:=by
  refine ⟨fun hne=>h.undrained fun hnone=>hne ?_,fun other heq=>?_,h.held⟩
  · dsimp only
    rw[hnone,if_neg (Option.some_ne_none event).symm]
  · dsimp only at heq
    split at heq
    · cases heq
    · exact h.known other heq
 exact hdropped.placed fun _ hevent=>(nomatch hevent)

lemma Pending.mem (h:Pending s) {drain:Drain} (hd:s.drains[d]?=some drain) {event:ℕ}
  (hevent:drain.place.event=some event) : event < s.events :=
 h.held drain (mem_of_getElem? hd) event hevent

lemma Pending.subscribed (h:Pending s) {event:ℕ} {ready:Bool}
  (hd:s.drains[d]?=some ⟨context,.subscribing event ready⟩) :
  Pending ((if s.stopRequested context then s.notify event else s).move d context
   (if ready then .waiting event else .relocking event false)) := by
 have hplace:∀ other,(if ready then Place.waiting event else .relocking event false).event=some other →
  other < s.events:=by
  intro other hother
  have hheld:(if ready then Place.waiting event else .relocking event false).event=some event:=by
   cases ready <;> rfl
  obtain rfl:=Option.some.inj (hheld.symm.trans hother)
  exact h.mem hd rfl
 split
 · have hnotified:Pending (s.notify event):=⟨h.undrained,h.known,h.held⟩
   exact hnotified.placed hplace
 · exact h.placed hplace

lemma Pending.move (h:Pending s) (hmove:Move contexts s l s') : Pending s' := by
 cases hmove with
 | beginInput hopen hroom => exact ⟨fun _=>by simp[State.isDrained],h.known,h.held⟩
 | finishInput hi => exact h.take rfl rfl rfl
 | parallel haccepting => exact ⟨fun _=>by simp[State.isDrained],h.known,h.held⟩
 | postFailed hi => exact h.take rfl rfl rfl
 | finishTask hi => exact h.take rfl rfl rfl
 | drain =>
  refine ⟨h.undrained,h.known,fun drain hdrain event hevent=>?_⟩
  rcases mem_append.mp hdrain with hdrain | hdrain
  · exact h.held drain hdrain event hevent
  · rw[mem_singleton.mp hdrain] at hevent
    dsimp only at hevent
    split at hevent <;> cases hevent
 | enter hd =>
  have hclosed:Pending { s with inputClosed:=true } := ⟨h.undrained,h.known,h.held⟩
  exact hclosed.check _ _
 | again hd hgoes => exact h.check _ _
 | read hd => exact h.placed fun other hother=>h.mem hd hother
 | subscribe hd => exact h.subscribed hd
 | wake hd hsent => exact h.placed fun other hother=>h.mem hd hother
 | giveUp hd hends => exact h.giveUp _ _ _
 | timeout hd hexpired hsent => exact h.placed fun other hother=>h.mem hd hother
 | posted | send | callback | expire | requestStop | closeAdmission | releaseRuntime =>
  exact ⟨h.undrained,h.known,h.held⟩

/-- A call that is about to give up, or has returned false, has a context that has ended. -/
def Place.needsCancelled : Place → Bool
 | .subscribing _ ready | .relocking _ ready => !ready
 | .returned drained => !drained
 | .entering | .registered _ | .waiting _ => false

lemma Move.cancelled (hmove:Move contexts s l s') (h:s.cancelled context=true) :
  s'.cancelled context=true := by
 cases hmove with
 | expire hdeadline =>
  simp only[State.cancelled,update_apply,Bool.or_eq_true] at h ⊢
  rcases h with h | h
  · exact .inl h
  · refine .inr ?_
    split
    · rfl
    · exact h
 | requestStop hpossible =>
  simp only[State.cancelled,update_apply,Bool.or_eq_true] at h ⊢
  rcases h with h | h
  · refine .inl ?_
    split
    · rfl
    · exact h
  · exact .inr h
 | finishInput | postFailed | finishTask =>
  dsimp only[State.finishInputInvocation,State.finishParallelInvocation,State.takeNotification]
  split <;> exact h
 | subscribe =>
  dsimp only[State.move]
  split <;> exact h
 | enter | again =>
  unfold State.check
  split
  · exact h
  · split <;> exact h
 | beginInput | parallel | posted | send | drain | read | wake | giveUp | callback | timeout | closeAdmission
 | releaseRuntime => exact h

lemma Move.cancelled_endless (hmove:Move contexts s l s')
  (h:contexts context=⟨false,false⟩) : s'.cancelled context=s.cancelled context := by
 cases hmove with
 | @expire other hdeadline =>
  have hne:context≠other:=by
   rintro rfl
   rw[h] at hdeadline
   cases hdeadline
  exact congrArg (s.stopRequested context || ·) (update_of_ne hne _ _)
 | @requestStop other hpossible =>
  have hne:context≠other:=by
   rintro rfl
   rw[h] at hpossible
   cases hpossible
  exact congrArg (· || s.expired context) (update_of_ne hne _ _)
 | finishInput | postFailed | finishTask =>
  dsimp only[State.finishInputInvocation,State.finishParallelInvocation,State.takeNotification]
  split <;> rfl
 | subscribe =>
  dsimp only[State.move]
  split <;> rfl
 | enter | again =>
  unfold State.check
  split
  · rfl
  · split <;> rfl
 | beginInput | parallel | posted | send | drain | read | wake | giveUp | callback | timeout | closeAdmission
 | releaseRuntime => rfl

inductive Next (s s':State) (context:ℕ) : Place → Place → Prop
 | drained {place:Place} (hbefore:place.isReturned = false)
   (hclosed:place = .entering → s'.inputClosed = true) (h:s'.isDrained = true) :
   Next s s' context place (.returned true)
 | registered {place:Place} {event:ℕ} (hbefore:place.isReturned = false)
   (hclosed:place = .entering → s'.inputClosed = true) (h:s'.parallelDrained = some event) :
   Next s s' context place (.registered event)
 | read {event:ℕ} : Next s s' context (.registered event) (.subscribing event (!s.cancelled context))
 | subscribed {event:ℕ} : Next s s' context (.subscribing event true) (.waiting event)
 | skipped {event:ℕ} : Next s s' context (.subscribing event false) (.relocking event false)
 | woken {event:ℕ} (h:s.sent event = true) : Next s s' context (.waiting event) (.relocking event true)
 | timedOut {event:ℕ} (h:s.expired context = true) :
   Next s s' context (.waiting event) (.relocking event false)
 | gaveUp {event:ℕ} {ready:Bool} (h:ready = false ∨ s.cancelled context = true) :
   Next s s' context (.relocking event ready) (.returned s'.isDrained)

inductive DrainChange (s s':State) : Label → Prop
 | kept {l:Label} (h:s'.drains = s.drains) : DrainChange s s' l
 | called {context:ℕ}
   (h:s'.drains = s.drains ++ [⟨context,if s.activeRuntime then .entering else .returned true⟩]) :
   DrainChange s s' (.drain context)
 | moved {l:Label} {d context:ℕ} {old new:Place} (hold:s.drains[d]? = some ⟨context,old⟩)
   (h:s'.drains = s.drains.set d ⟨context,new⟩) (hnext:Next s s' context old new) : DrainChange s s' l

lemma check_change (s locked:State) (hdrains:locked.drains=s.drains) {old:Place}
  (hold:s.drains[d]?=some ⟨context,old⟩) (hbefore:old.isReturned=false)
  (hclosed:old=.entering→ locked.inputClosed=true) : DrainChange s (locked.check d context) l := by
 unfold State.check
 split
 · next hdrained => exact .moved hold (by rw[move_drains,hdrains]) (.drained hbefore hclosed hdrained)
 · split
   · next event heq => exact .moved hold (by rw[move_drains,hdrains]) (.registered hbefore hclosed heq)
   · exact .moved hold (by rw[move_drains,hdrains]) (.registered hbefore hclosed rfl)

lemma Move.drainChange (hmove:Move contexts s l s') : DrainChange s s' l := by
 cases hmove with
 | drain => exact .called rfl
 | enter hd => exact check_change s { s with inputClosed := true } rfl hd rfl fun _=>rfl
 | read hd => exact .moved hd rfl .read
 | @subscribe d context event ready hd =>
  have hdrains:((if s.stopRequested context then s.notify event else s).move d context
   (if ready then .waiting event else .relocking event false)).drains =
   s.drains.set d ⟨context,if ready then .waiting event else .relocking event false⟩:=by
   rw[move_drains]
   split <;> rfl
  cases ready with
  | true => exact .moved hd hdrains .subscribed
  | false => exact .moved hd hdrains .skipped
 | wake hd hsent => exact .moved hd rfl (.woken hsent)
 | giveUp hd hends => exact .moved hd rfl (.gaveUp hends)
 | again hd hgoes => exact check_change s s rfl hd rfl fun heq=>nomatch heq
 | timeout hd hexpired hsent => exact .moved hd rfl (.timedOut hexpired)
 | finishInput | postFailed | finishTask => exact .kept (takeNotification_drains _)
 | beginInput | parallel | posted | send | callback | expire | requestStop | closeAdmission | releaseRuntime =>
  exact .kept rfl

def Faithful (s:State) : Prop :=
 ∀ drain ∈ s.drains,drain.place.needsCancelled = true → s.cancelled drain.context = true

lemma Faithful.move (h:Faithful s) (hmove:Move contexts s l s') : Faithful s' := by
 intro drain hdrain hneeds
 apply hmove.cancelled
 cases hmove.drainChange with
 | kept heq =>
  rw[heq] at hdrain
  exact h drain hdrain hneeds
 | called heq =>
  rw[heq] at hdrain
  rcases mem_append.mp hdrain with hdrain | hdrain
  · exact h drain hdrain hneeds
  · rw[mem_singleton.mp hdrain] at hneeds
    dsimp only at hneeds
    split at hneeds <;> cases hneeds
 | @moved _ d context old new hold heq hnext =>
  rw[heq] at hdrain
  rcases mem_or_eq_of_mem_set hdrain with hdrain | rfl
  · exact h drain hdrain hneeds
  · have hbefore:=h _ (mem_of_getElem? hold)
    cases hnext with
    | drained | registered | subscribed | woken => cases hneeds
    | read => simpa[Place.needsCancelled] using hneeds
    | skipped => exact hbefore rfl
    | timedOut hexpired =>
     rw[State.cancelled,hexpired,Bool.or_true]
    | gaveUp hends =>
     rcases hends with rfl | hends
     · exact hbefore rfl
     · exact hends

lemma Move.returned_true (hmove:Move contexts s l s') (hactive:s.activeRuntime=true)
  (hbefore:s.drains[d]?≠some ⟨context,.returned true⟩)
  (h:s'.drains[d]?=some ⟨context,.returned true⟩) : s'.isDrained=true := by
 cases hmove.drainChange with
 | kept heq => exact absurd (heq▸h) hbefore
 | called heq =>
  rw[hactive] at heq
  rw[heq,List.getElem?_append] at h
  split at h
  · exact absurd h hbefore
  · cases mem_singleton.mp (mem_of_getElem? h)
 | @moved _ e other old new hold heq hnext =>
  rw[heq,List.getElem?_set] at h
  split at h
  · split at h
    · have hnew:new=.returned true:=congrArg Drain.place (Option.some.inj h)
      cases hnext with
      | drained _ _ hdrained => exact hdrained
      | gaveUp _ => exact Place.returned.inj hnew
      | registered | read | subscribed | skipped | woken | timedOut => cases hnew
    · cases h
  · exact absurd h hbefore

/-- The event is the one that the last one out takes, or will be sent, or has been sent. -/
def Reaches (s:State) (event:ℕ) : Prop :=
 s.parallelDrained = some event ∨ event ∈ s.sends ∨ s.sent event = true

/-- A call does not drop an unsent notification that another call listens to. -/
def keeps (s:State) : Label → Bool
 | .advance d =>
  match s.drains[d]? with
  | some ⟨context,.relocking event ready⟩ =>
   (ready && !s.cancelled context) || s.parallelDrained != some event || s.sent event ||
    (s.drains.eraseIdx d).all fun other=>other.place.listens != some event
  | _ => true
 | _ => true

lemma reaches_notify {event:ℕ} (h:Reaches s event) (other:ℕ) : Reaches (s.notify other) event := by
 rcases h with h | h | h
 · exact .inl h
 · exact .inr (.inl h)
 · refine .inr (.inr ?_)
   change update s.sent other true event=true
   rw[update_apply]
   split
   · rfl
   · exact h

lemma reaches_send {event:ℕ} (h:Reaches s event) (other:ℕ) : Reaches (s.send other) event := by
 by_cases heq:event=other
 · refine .inr (.inr ?_)
   change update s.sent other true event=true
   rw[heq,update_self]
 · rcases h with h | h | h
   · exact .inl h
   · exact .inr (.inl ((mem_erase_of_ne heq).mpr h))
   · refine .inr (.inr ?_)
     change update s.sent other true event=true
     rw[update_of_ne heq]
     exact h

lemma reaches_take {event:ℕ} (h:Reaches s event) : Reaches s.takeNotification event := by
 grind[Reaches,State.takeNotification]

lemma reaches_check {event:ℕ} (h:Reaches s event) (d context:ℕ) : Reaches (s.check d context) event := by
 unfold State.check
 split
 · exact h
 · split
   · exact h
   · next hnone =>
     rcases h with h | h | h
     · cases hnone.symm.trans h
     · exact .inr (.inl h)
     · exact .inr (.inr h)

lemma reaches_giveUp {event dropped:ℕ} (h:Reaches s event) (d context:ℕ)
  (hkept:s.parallelDrained=some dropped→ s.sent dropped=false→ event≠dropped) :
  Reaches (s.giveUp d context dropped) event := by
 rcases h with h | h | h
 · by_cases hsent:s.sent event=true
   · exact .inr (.inr hsent)
   · refine .inl ?_
     change (if s.parallelDrained=some dropped then none else s.parallelDrained)=some event
     rw[if_neg fun hdropped=>?_]
     · exact h
     · obtain rfl:event=dropped:=Option.some.inj (h.symm.trans hdropped)
       exact hkept h (Bool.eq_false_iff.mpr hsent) rfl
 · exact .inr (.inl h)
 · exact .inr (.inr h)

lemma Move.reaches (hmove:Move contexts s l s') (hkeeps:keeps s l=true) {j event:ℕ} {other:Drain}
  (hother:s.drains[j]?=some other) (hlistens:other.place.listens=some event)
  (h:Reaches s event) : Reaches s' event := by
 cases hmove with
 | finishInput | postFailed | finishTask => exact reaches_take h
 | send => exact reaches_send h _
 | enter hd => exact reaches_check (s := { s with inputClosed := true }) h _ _
 | again => exact reaches_check h _ _
 | subscribe =>
  dsimp only[State.move]
  split
  · exact reaches_notify h _
  · exact h
 | callback => exact reaches_notify h _
 | @giveUp d ready context dropped hd hends =>
  refine reaches_giveUp h d context fun hcurrent hunsent=>?_
  rintro rfl
  simp only[keeps,hd,hcurrent,hunsent,bne_self_eq_false,Bool.or_false,Bool.or_eq_true,
   Bool.and_eq_true,Bool.not_eq_true',all_eq_true,bne_iff_ne,ne_eq] at hkeeps
  rcases hkeeps with hgoes | hnone
  · rcases hends with rfl | hends
    · cases hgoes.1
    · cases hgoes.2.symm.trans hends
  · refine hnone other (mem_eraseIdx_iff_getElem?.mpr ⟨j,fun hj=>?_,hother⟩) hlistens
    subst hj
    cases hd.symm.trans hother
    cases hlistens
 | beginInput | parallel | posted | drain | read | wake | timeout | expire | requestStop | closeAdmission
 | releaseRuntime => exact h

def Heard (s:State) : Prop :=
 ∀ drain ∈ s.drains,∀ event,drain.place.listens = some event → Reaches s event

lemma Heard.move (h:Heard s) (hmove:Move contexts s l s') (hkeeps:keeps s l=true) : Heard s' := by
 intro drain hdrain event hlistens
 have hstays:∀ other∈s.drains,other.place.listens=some event→ Reaches s' event:=by
  intro other hother hlistens
  obtain ⟨j,hj⟩:=mem_iff_getElem?.mp hother
  exact hmove.reaches hkeeps hj hlistens (h other hother event hlistens)
 cases hmove.drainChange with
 | kept heq =>
  rw[heq] at hdrain
  exact hstays drain hdrain hlistens
 | called heq =>
  rw[heq] at hdrain
  rcases mem_append.mp hdrain with hdrain | hdrain
  · exact hstays drain hdrain hlistens
  · rw[mem_singleton.mp hdrain] at hlistens
    dsimp only at hlistens
    split at hlistens <;> cases hlistens
 | moved hold heq hnext =>
  rw[heq] at hdrain
  rcases mem_or_eq_of_mem_set hdrain with hdrain | rfl
  · exact hstays drain hdrain hlistens
  · have hmem:=mem_of_getElem? hold
    cases hnext with
    | registered _ _ hcurrent =>
     obtain rfl:=Option.some.inj hlistens
     exact .inl hcurrent
    | read => exact hstays _ hmem hlistens
    | subscribed => exact hstays _ hmem hlistens
    | drained | skipped | woken | timedOut | gaveUp => cases hlistens

lemma Move.runtime (hmove:Move contexts s l s') (hclose:l≠ .closeAdmission) (hrelease:l≠ .releaseRuntime) :
  s'.activeRuntime=s.activeRuntime∧s'.parallelAccepting=s.parallelAccepting := by
 cases hmove with
 | closeAdmission => exact absurd rfl hclose
 | releaseRuntime => exact absurd rfl hrelease
 | finishInput | postFailed | finishTask =>
  dsimp only[State.finishInputInvocation,State.finishParallelInvocation,State.takeNotification]
  split <;> exact ⟨rfl,rfl⟩
 | enter | again =>
  unfold State.check
  split
  · exact ⟨rfl,rfl⟩
  · split <;> exact ⟨rfl,rfl⟩
 | subscribe =>
  dsimp only[State.move]
  split <;> exact ⟨rfl,rfl⟩
 | beginInput | parallel | posted | send | drain | read | wake | giveUp | callback | timeout | expire
 | requestStop => exact ⟨rfl,rfl⟩

lemma Move.inputClosed (hmove:Move contexts s l s') (h:s.inputClosed=true) : s'.inputClosed=true := by
 cases hmove with
 | finishInput | postFailed | finishTask =>
  dsimp only[State.finishInputInvocation,State.finishParallelInvocation,State.takeNotification]
  split <;> exact h
 | enter =>
  unfold State.check
  split
  · rfl
  · split <;> rfl
 | again =>
  unfold State.check
  split
  · exact h
  · split <;> exact h
 | subscribe =>
  dsimp only[State.move]
  split <;> exact h
 | beginInput | parallel | posted | send | drain | read | wake | giveUp | callback | timeout | expire
 | requestStop | closeAdmission | releaseRuntime => exact h

def Entered (s:State) : Prop :=
 ∀ drain ∈ s.drains,drain.place ≠ .entering → s.inputClosed = true

lemma Entered.move (h:Entered s) (hmove:Move contexts s l s')
  (hactive:∀ context,l=.drain context→ s.activeRuntime=true) : Entered s' := by
 intro drain hdrain hplace
 cases hmove.drainChange with
 | kept heq =>
  rw[heq] at hdrain
  exact hmove.inputClosed (h drain hdrain hplace)
 | @called context heq =>
  rw[heq,hactive context rfl] at hdrain
  rcases mem_append.mp hdrain with hdrain | hdrain
  · exact hmove.inputClosed (h drain hdrain hplace)
  · rw[mem_singleton.mp hdrain] at hplace
    exact absurd rfl hplace
 | @moved _ d context old new hold heq hnext =>
  rw[heq] at hdrain
  rcases mem_or_eq_of_mem_set hdrain with hdrain | rfl
  · exact hmove.inputClosed (h drain hdrain hplace)
  · by_cases hentering:old=.entering
    · cases hnext with
      | drained _ hclosed => exact hclosed hentering
      | registered _ hclosed => exact hclosed hentering
      | read | subscribed | skipped | woken | timedOut | gaveUp => cases hentering
    · exact hmove.inputClosed (h _ (mem_of_getElem? hold) hentering)

/-- A call begins only when every call before it has returned. -/
def Sequential (s:State) : Label → Prop
 | .drain _ => ∀ drain ∈ s.drains,drain.place.isReturned = true
 | _ => True

def Ongoing (s:State) (d:ℕ) : Prop :=
 ∃ drain,s.drains[d]? = some drain ∧ drain.place.isReturned = false

def Single (s:State) : Prop :=
 ∀ i j,Ongoing s i → Ongoing s j → i = j

lemma Next.before {old new:Place} (h:Next s s' context old new) : old.isReturned=false := by
 cases h with
 | drained hbefore => exact hbefore
 | registered hbefore => exact hbefore
 | read | subscribed | skipped | woken | timedOut | gaveUp => rfl

lemma Single.move (h:Single s) (hmove:Move contexts s l s') (hsequential:Sequential s l) : Single s' := by
 intro i j hi hj
 cases hmove.drainChange with
 | kept heq =>
  unfold Ongoing at hi hj
  rw[heq] at hi hj
  exact h i j hi hj
 | called heq =>
  -- every call before the new one has returned
  have hlast:∀ k,Ongoing s' k→ k=s.drains.length:=by
   rintro k ⟨drain,hdrain,hongoing⟩
   rw[heq,List.getElem?_append] at hdrain
   split at hdrain
   · cases (hsequential drain (mem_of_getElem? hdrain)).symm.trans hongoing
   · next hle =>
     have hlt:=(List.getElem?_eq_some_iff.mp hdrain).1
     rw[length_singleton] at hlt
     omega
  exact (hlast i hi).trans (hlast j hj).symm
 | @moved _ d context old new hold heq hnext =>
  have hbefore:∀ k,Ongoing s' k→ Ongoing s k:=by
   rintro k ⟨drain,hdrain,hongoing⟩
   rw[heq,List.getElem?_set] at hdrain
   split at hdrain
   · next hdk => exact hdk▸⟨_,hold,hnext.before⟩
   · exact ⟨drain,hdrain,hongoing⟩
  exact h i j (hbefore i hi) (hbefore j hj)

lemma Single.keeps (h:Single s) (l:Label) : keeps s l=true := by
 cases l with
 | advance d =>
  simp only[GraphGate.keeps]
  split
  · next context event ready hd =>
    simp only[Bool.or_eq_true,all_eq_true]
    refine .inr fun other hother=>?_
    obtain ⟨j,hne,hj⟩:=mem_eraseIdx_iff_getElem?.mp hother
    cases hlistens:other.place.listens with
    | none => rfl
    | some event' =>
     have hongoing:other.place.isReturned=false:=by
      cases hplace:other.place with
      | returned =>
       rw[hplace] at hlistens
       cases hlistens
      | entering | registered | subscribing | waiting | relocking => rfl
     exact absurd (h j d ⟨other,hj,hongoing⟩ ⟨_,hd,rfl⟩) hne
  · rfl
 | beginInput | finishInput | parallel | post | finishTask | send | drain | callback | timeout | expire
 | requestStop | closeAdmission | releaseRuntime => rfl

end Moves

end ServiceLib.GraphGate
