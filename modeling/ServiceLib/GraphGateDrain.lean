import ServiceLib.GraphGateRuns

set_option autoImplicit false
attribute [-instance] instBooleanRingBool

/-!
# Draining the graph

Once both counters are zero every call of `drainExecutionRuntime` returns, unless it was left with
a notification that nobody sends.
-/
namespace ServiceLib.GraphGate
open Transition Tokens Function List Option

variable {contexts:ℕ → Context} {s s':State} {l:Label}

def Drain.rank (s:State) (drain:Drain) : ℕ :=
 match drain.place with
 | .entering => 1
 | .registered _ => 5
 | .subscribing _ _ => 4
 | .waiting event => if s.sent event then 2 else 3
 | .relocking _ _ => 1
 | .returned _ => 0

def work (s:State) : ℕ :=
 total (Drain.rank s) s.drains + s.sends.length

lemma rank_notify (s:State) (event:ℕ) (drain:Drain) :
  drain.rank (s.notify event)≤drain.rank s := by
 obtain ⟨context,place⟩:=drain
 cases place with
 | waiting waits =>
  simp only[Drain.rank,State.notify,update_apply]
  by_cases heq:waits=event
  · rw[if_pos heq,if_pos rfl]
    split <;> omega
  · rw[if_neg heq]
 | entering | registered | subscribing | relocking | returned => exact Nat.le_refl _

lemma total_rank_notify (s:State) (event:ℕ) (drains:List Drain) :
  total (Drain.rank (s.notify event)) drains≤total (Drain.rank s) drains :=
 total_mono fun drain _=>rank_notify s event drain

lemma check_drained (hdrained:s.isDrained=true) (d context:ℕ) :
  s.check d context=s.move d context (.returned true) :=
 if_pos hdrained

lemma work_placed {d context:ℕ} {old new:Place} (hold:s.drains[d]?=some ⟨context,old⟩)
  (h:Drain.rank s ⟨context,new⟩ < Drain.rank s ⟨context,old⟩) : work (s.move d context new) < work s := by
 have hset:=total_set (Drain.rank s) hold ⟨context,new⟩
 change total (Drain.rank s) (s.drains.set d ⟨context,new⟩)+s.sends.length < work s
 unfold work
 omega

lemma work_notify (s:State) (event:ℕ) : work (s.notify event)≤work s :=
 Nat.add_le_add_right (total_rank_notify s event s.drains) s.sends.length

lemma work_subscribed {d context event:ℕ} {ready:Bool}
  (hd:s.drains[d]?=some ⟨context,.subscribing event ready⟩) :
  work (s.move d context (if ready then .waiting event else .relocking event false)) < work s := by
 refine work_placed hd ?_
 cases ready with
 | true =>
  change (if s.sent event then 2 else 3) < 4
  split <;> omega
 | false => exact Nat.lt_of_sub_eq_succ rfl

lemma work_callback {d context event:ℕ} (hd:s.drains[d]?=some ⟨context,.waiting event⟩)
  (hsent:s.sent event=false) : work (s.notify event) < work s := by
 refine Nat.add_lt_add_right ?_ s.sends.length
 refine total_strictMono (fun drain _=>rank_notify s event drain) (mem_of_getElem? hd) ?_
 simp only[Drain.rank,State.notify,update_self,hsent]
 decide

lemma work_move (hinternal:l.internal) (hdrained:s.isDrained=true) (hmove:Move contexts s l s') :
  work s' < work s := by
 cases hmove with
 | @send event hmem =>
  have hranks:=total_rank_notify s event s.drains
  have hlength:=length_erase_of_mem hmem
  have hpos:=length_pos_of_mem hmem
  change total (Drain.rank (s.notify event)) s.drains+(s.sends.erase event).length < work s
  unfold work
  omega
 | @enter d context hd =>
  have hclosed:State.isDrained { s with inputClosed:=true }=true := hdrained
  rw[check_drained hclosed]
  exact work_placed (s := { s with inputClosed := true }) hd Nat.zero_lt_one
 | read hd => exact work_placed hd (Nat.lt_succ_self 4)
 | @subscribe d context event ready hd =>
  split
  · exact Nat.lt_of_lt_of_le (work_subscribed (s := s.notify event) hd) (work_notify s event)
  · exact work_subscribed hd
 | wake hd hsent =>
  refine work_placed hd ?_
  simp only[Drain.rank,hsent]
  decide
 | @giveUp d ready context event hd hends =>
  exact work_placed (s := { s with
   parallelDrained := if s.parallelDrained=some event then none else s.parallelDrained }) hd Nat.zero_lt_one
 | again hd hgoes =>
  rw[check_drained hdrained]
  exact work_placed hd Nat.zero_lt_one
 | callback hd hstop hsent => exact work_callback hd hsent
 | timeout hd hexpired hsent =>
  refine work_placed hd ?_
  simp only[Drain.rank,hsent]
  decide
 | beginInput | finishInput | parallel | posted | postFailed | finishTask | drain | expire | requestStop
 | closeAdmission | releaseRuntime => exact hinternal.elim

lemma isDrained_check (s:State) (d context:ℕ) : (s.check d context).isDrained=s.isDrained := by
 obtain ⟨hinputs,-,htasks,-⟩:=check_counts s d context
 rw[State.isDrained,hinputs,htasks]
 rfl

lemma isDrained_move (hinternal:l.internal) (hdrained:s.isDrained=true) (hmove:Move contexts s l s') :
  s'.isDrained=true := by
 cases hmove with
 | enter => exact (isDrained_check _ _ _).trans hdrained
 | again => exact (isDrained_check _ _ _).trans hdrained
 | subscribe =>
  dsimp only[State.move]
  split <;> exact hdrained
 | send | read | wake | giveUp | callback | timeout => exact hdrained
 | beginInput | finishInput | parallel | posted | postFailed | finishTask | drain | expire | requestStop
 | closeAdmission | releaseRuntime => exact hinternal.elim

lemma isDrained_quiet (hcounted:Counted s) (hdrained:s.isDrained=true) (hclosed:s.inputClosed=true)
  (hl:l≠ .parallel) (hmove:Move contexts s l s') : s'.isDrained=true := by
 obtain ⟨hinputs,htasks⟩:=isDrained_iff.mp hdrained
 have hactive:∀ i : ℕ,s.inputs[i]?≠some Input.active:=by
  intro i hi
  have hpos:=count_pos_iff.mpr (mem_of_getElem? hi)
  rw[← hcounted.inputs,hinputs] at hpos
  cases hpos
 have hunfinished:∀ (i:ℕ) (task:Task),s.tasks[i]?=some task→ task.unfinished=false:=by
  intro i task hi
  by_contra hne
  have hpos:=countP_pos_iff.mpr ⟨task,mem_of_getElem? hi,Bool.not_eq_false _▸hne⟩
  rw[← hcounted.tasks,htasks] at hpos
  cases hpos
 cases hmove with
 | beginInput hopen => cases hopen.symm.trans hclosed
 | finishInput hi => exact absurd hi (hactive _)
 | parallel => exact absurd rfl hl
 | posted hi => cases hunfinished _ _ hi
 | postFailed hi => cases hunfinished _ _ hi
 | finishTask hi => cases hunfinished _ _ hi
 | enter => exact (isDrained_check _ _ _).trans hdrained
 | again => exact (isDrained_check _ _ _).trans hdrained
 | subscribe =>
  dsimp only[State.move]
  split <;> exact hdrained
 | send | drain | read | wake | giveUp | callback | timeout | expire | requestStop | closeAdmission
 | releaseRuntime => exact hdrained

/-- Where the library can do nothing and both counters are zero, a call that has not
returned waits for a notification that does not reach it. -/
lemma returned_of_idle (hpending:Pending s) (hheard:Heard s) (hdrained:s.isDrained=true)
  (hidle:∀ l,l.internal→ step contexts s l=none) {drain:Drain} (hmem:drain∈s.drains) :
  ∃ drained,drain.place=.returned drained := by
 obtain ⟨d,hd⟩:=mem_iff_getElem?.mp hmem
 have hstuck:s.advance d drain.context drain.place=none:=by
  have hnone:=hidle (.advance d) trivial
  simp only[step,hd,bind_some] at hnone
  exact hnone
 cases hplace:drain.place with
 | returned drained => exact ⟨drained,rfl⟩
 | waiting event =>
  rw[hplace] at hstuck
  have hunsent:s.sent event≠true:=fun hsent=>by
   simp[State.advance,hsent] at hstuck
  rcases hheard drain hmem event (by rw[hplace]; rfl) with hcurrent | hsends | hsent
  · have:=hpending.undrained (by rw[hcurrent]; exact some_ne_none event)
    cases hdrained.symm.trans this
  · have hnone:=hidle (.send event) trivial
    simp only[step,if_pos hsends] at hnone
    cases hnone
  · exact absurd hsent hunsent
 | entering | registered | subscribing | relocking =>
  rw[hplace] at hstuck
  cases hstuck

/-- Nobody but the call holds its notification, nobody is going to send it, and its own
context cannot end. -/
structure Forsaken (contexts:ℕ → Context) (s:State) (d context event:ℕ) : Prop where
 waits : s.drains[d]? = some ⟨context,.waiting event⟩
 endless : contexts context = ⟨false,false⟩
 running : s.stopRequested context = false ∧ s.expired context = false
 unsent : s.sent event = false
 untaken : event ∉ s.sends
 dropped : s.parallelDrained ≠ some event
 known : event < s.events
 alone : ∀ j drain,s.drains[j]? = some drain → drain.place.event = some event → j = d

section Forsaken
variable {d context event:ℕ}

lemma Forsaken.frame (h:Forsaken contexts s d context event) (hdrains:s'.drains=s.drains)
  (hrunning:s'.stopRequested context=s.stopRequested context∧s'.expired context=s.expired context)
  (hsent:s'.sent event=s.sent event) (hsends:event∉s'.sends)
  (hdropped:s'.parallelDrained≠some event) (hevents:s'.events=s.events) :
  Forsaken contexts s' d context event := by
 grind[Forsaken]

lemma Forsaken.notify (h:Forsaken contexts s d context event) {other:ℕ} (hne:event≠other) :
  Forsaken contexts (s.notify other) d context event :=
 h.frame rfl ⟨rfl,rfl⟩ (update_of_ne hne _ _) h.untaken h.dropped rfl

lemma Forsaken.take (h:Forsaken contexts s d context event) : Forsaken contexts s.takeNotification d context event := by
 grind[Forsaken,State.takeNotification]

lemma Forsaken.placed (h:Forsaken contexts s d context event) {j other:ℕ} {place:Place} (hne:j≠d)
    (hplace:place.event≠some event) : Forsaken contexts (s.move j other place) d context event where
 waits := by
  rw[move_drains,List.getElem?_set_ne hne]
  exact h.waits
 endless := h.endless
 running := h.running
 unsent := h.unsent
 untaken := h.untaken
 dropped := h.dropped
 known := h.known
 alone k drain hk hevent:=by
  rw[move_drains,List.getElem?_set] at hk
  split at hk
  · split at hk
    · cases hk
      exact absurd hevent hplace
    · cases hk
  · exact h.alone k drain hk hevent

lemma Forsaken.other (h:Forsaken contexts s d context event) {j:ℕ} {drain:Drain}
  (hj:s.drains[j]?=some drain) (hne:j≠d) : drain.place.event≠some event :=
 fun hevent=>hne (h.alone j drain hj hevent)

lemma Forsaken.ne (h:Forsaken contexts s d context event) {j other:ℕ} {place:Place}
  (hj:s.drains[j]?=some ⟨other,place⟩) (hplace:place≠ .waiting event) : j≠d := by
 rintro rfl
 exact hplace (congrArg Drain.place (some.inj (hj.symm.trans h.waits)))

lemma Forsaken.check (h:Forsaken contexts s d context event) {j other:ℕ} (hne:j≠d) :
  Forsaken contexts (s.check j other) d context event := by
 unfold State.check
 split
 · exact h.placed hne fun hevent=>(nomatch hevent)
 · split
   · next held hcurrent =>
     refine h.placed hne fun hevent=>h.dropped ?_
     rw[hcurrent]
     exact hevent
   · have hfresh:s.events≠event:=fun heq=>absurd h.known (heq▸Nat.lt_irrefl _)
     have hmade:Forsaken contexts { s with parallelDrained:=some s.events,events := s.events+1 }
      d context event :=
      { h with
        dropped := fun heq=>hfresh (some.inj heq)
        known := Nat.lt_succ_of_lt h.known }
     exact hmade.placed hne fun hevent=>hfresh (some.inj hevent)

lemma Forsaken.move (h:Forsaken contexts s d context event) (hmove:Move contexts s l s') :
  Forsaken contexts s' d context event := by
 cases hmove with
 | finishInput | postFailed | finishTask =>
  exact Forsaken.take (h.frame rfl ⟨rfl,rfl⟩ rfl h.untaken h.dropped rfl)
 | @send other hmem =>
  have hne:event≠other:=fun heq=>h.untaken (heq▸hmem)
  exact (h.notify hne).frame rfl ⟨rfl,rfl⟩ rfl (fun hin=>h.untaken (mem_of_mem_erase hin)) h.dropped rfl
 | @drain other =>
  refine { h with waits := ?_,alone := fun j drain hj hevent=>?_ }
  · rw[State.drainExecutionRuntime,List.getElem?_append_left (List.getElem?_eq_some_iff.mp h.waits).1]
    exact h.waits
  · rw[State.drainExecutionRuntime,List.getElem?_append] at hj
    split at hj
    · exact h.alone j drain hj hevent
    · rw[mem_singleton.mp (mem_of_getElem? hj)] at hevent
      dsimp only at hevent
      split at hevent <;> cases hevent
 | @enter j other hj =>
  have hclosed:Forsaken contexts { s with inputClosed:=true } d context event :=
   h.frame rfl ⟨rfl,rfl⟩ rfl h.untaken h.dropped rfl
  exact hclosed.check (h.ne hj (fun heq=>nomatch heq))
 | read hj =>
  have hne:=h.ne hj fun heq=>nomatch heq
  exact h.placed hne (h.other hj hne)
 | @subscribe j other held ready hj =>
  have hne:=h.ne hj fun heq=>nomatch heq
  have hheld:held≠event:=fun heq=>h.other hj hne (congrArg some heq)
  have hplace:(if ready then Place.waiting held else .relocking held false).event≠some event:=by
   cases ready with
   | true => exact fun heq=>hheld (some.inj heq)
   | false => exact fun heq=>hheld (some.inj heq)
  split
  · exact (h.notify hheld.symm).placed hne hplace
  · exact h.placed hne hplace
 | @wake j held other hj hsent =>
  have hne:j≠d:=by
   rintro rfl
   cases hj.symm.trans h.waits
   cases hsent.symm.trans h.unsent
  exact h.placed hne (h.other hj hne)
 | @giveUp j ready other held hj hends =>
  have hne:=h.ne hj fun heq=>nomatch heq
  have hdrop:Forsaken contexts { s with
   parallelDrained := if s.parallelDrained=some held then none else s.parallelDrained } d context event:=by
   refine h.frame rfl ⟨rfl,rfl⟩ rfl h.untaken (fun heq=>?_) rfl
   dsimp only at heq
   split at heq
   · cases heq
   · exact h.dropped heq
  exact hdrop.placed hne fun hevent=>(nomatch hevent)
 | again hj hgoes => exact h.check (h.ne hj fun heq=>nomatch heq)
 | @callback j other held hj hstop hsent =>
  have hne:j≠d:=by
   rintro rfl
   cases hj.symm.trans h.waits
   cases hstop.symm.trans h.running.1
  exact h.notify fun heq=>h.other hj hne (congrArg some heq.symm)
 | @timeout j other held hj hexpired hsent =>
  have hne:j≠d:=by
   rintro rfl
   cases hj.symm.trans h.waits
   cases hexpired.symm.trans h.running.2
  exact h.placed hne (h.other hj hne)
 | @expire other hdeadline =>
  have hne:context≠other:=by
   rintro rfl
   rw[h.endless] at hdeadline
   cases hdeadline
  exact h.frame rfl ⟨rfl,update_of_ne hne _ _⟩ rfl h.untaken h.dropped rfl
 | @requestStop other hpossible =>
  have hne:context≠other:=by
   rintro rfl
   rw[h.endless] at hpossible
   cases hpossible
  exact h.frame rfl ⟨update_of_ne hne _ _,rfl⟩ rfl h.untaken h.dropped rfl
 | beginInput | parallel | posted | closeAdmission | releaseRuntime =>
  exact h.frame rfl ⟨rfl,rfl⟩ rfl h.untaken h.dropped rfl

lemma Forsaken.exec {ls:List Label} (h:Forsaken contexts s d context event)
  (hrun:exec (step contexts) s ls=some s') : Forsaken contexts s' d context event :=
 exec_invariant (I := fun s=>Forsaken contexts s d context event)
  (fun _ _ _ h hstep=>Forsaken.move h (move_of_step hstep)) h hrun

end Forsaken

structure Sound (s:State) : Prop where
 counted : Counted s
 pending : Pending s
 faithful : Faithful s

lemma sound_initial : Sound {} where
 counted := ⟨rfl,rfl⟩
 pending := ⟨fun hne=>absurd rfl hne,fun _ heq=>(nomatch heq),fun _ hmem=>absurd hmem not_mem_nil⟩
 faithful := fun _ hmem=>absurd hmem not_mem_nil

lemma Sound.move (h:Sound s) (hmove:Move contexts s l s') : Sound s' :=
 ⟨h.counted.move hmove,h.pending.move hmove,h.faithful.move hmove⟩

lemma sound_exec {ls:List Label} (hrun:exec (step contexts) {} ls=some s) : Sound s :=
 exec_invariant (fun _ _ _ h hstep=>h.move (move_of_step hstep)) sound_initial hrun

lemma heard_exec {ls:List Label} (hkeeps:Along (step contexts) (fun s l=>keeps s l=true) {} ls)
  (hrun:exec (step contexts) {} ls=some s) : Heard s :=
 exec_invariant_along (I := Heard) (fun _ _ _ h hok hstep=>h.move (move_of_step hstep) hok)
  (fun _ hmem=>absurd hmem not_mem_nil) hkeeps hrun

lemma keeps_of_sequential {ls:List Label} (hsingle:Single s)
  (h:Along (step contexts) Sequential s ls) : Along (step contexts) (fun s l=>keeps s l=true) s ls := by
 induction ls generalizing s with
 | nil => trivial
 | cons l ls ih => exact ⟨hsingle.keeps l,fun s' hstep=>ih (hsingle.move (move_of_step hstep) h.1) (h.2 s' hstep)⟩

lemma keeps_of_drained (hpending:Pending s) (hdrained:s.isDrained=true) (l:Label) : keeps s l=true := by
 grind[Pending,Label,keeps]

structure Settling (s:State) : Prop where
 sound : Sound s
 heard : Heard s
 drained : s.isDrained = true

lemma Settling.move (h:Settling s) (hl:l.internal) (hmove:Move contexts s l s') : Settling s' :=
 ⟨h.sound.move hmove,h.heard.move hmove (keeps_of_drained h.sound.pending h.drained l),
  isDrained_move hl h.drained hmove⟩

lemma settling_exec {ls:List Label} (h:Settling s) (hinternal:∀ l∈ls,l.internal)
  (hrun:exec (step contexts) s ls=some s') : Settling s'∧ls.length+work s'≤work s := by
 have hinv:∀ s l s',Settling s→ l.internal→ step contexts s l=some s'→ Settling s':=
  fun _ _ _ h hl hstep=>h.move hl (move_of_step hstep)
 refine ⟨exec_invariant_along hinv h (along_of_forall hinternal) hrun,?_⟩
 exact exec_work_along hinv (fun _ _ _ h hl hstep=>work_move hl h.drained (move_of_step hstep)) h
  (along_of_forall hinternal) hrun

/-- In every run the counters count the admitted and unfinished work; a call returns true
only with both at zero and false only when its context has ended. Where no call drops a
notification that another one listens to, as when calls come one at a time, every call
returns once both counters are zero. -/
theorem drain_gate {ls : List Label} (hrun : exec (step contexts) {} ls = some s) :
  s.inputInvocations = s.inputs.count .active ∧
  s.parallelActive = s.tasks.countP Task.unfinished ∧
  (∀ (l : Label) (s' : State) (d context : ℕ), step contexts s l = some s' → s.activeRuntime = true →
   s.drains[d]? ≠ some ⟨context, .returned true⟩ → s'.drains[d]? = some ⟨context, .returned true⟩ →
   s'.inputInvocations = 0 ∧ s'.parallelActive = 0) ∧
  (∀ d context : ℕ, s.drains[d]? = some ⟨context, .returned false⟩ →
   s.stopRequested context = true ∨ s.expired context = true) ∧
  (Along (step contexts) (fun s l => keeps s l = true) {} ls → s.inputInvocations = 0 → s.parallelActive = 0 →
   ∀ ls' s', (∀ l ∈ ls', l.internal) → exec (step contexts) s ls' = some s' →
    ls'.length ≤ work s ∧
    ((∀ l, l.internal → step contexts s' l = none) →
     ∀ drain ∈ s'.drains, ∃ drained, drain.place = .returned drained)) ∧
  (Along (step contexts) Sequential {} ls → Along (step contexts) (fun s l => keeps s l = true) {} ls) := by
 have hsound:=sound_exec hrun
 refine ⟨hsound.counted.inputs,hsound.counted.tasks,?_,?_,?_,?_⟩
 · intro l s' d context hstep hactive hbefore hreturned
   exact isDrained_iff.mp ((move_of_step hstep).returned_true hactive hbefore hreturned)
 · intro d context hreturned
   have hcancelled:=hsound.faithful _ (mem_of_getElem? hreturned) rfl
   exact Bool.or_eq_true _ _▸hcancelled
 · intro hkeeps hinputs htasks ls' s' hinternal hrun'
   have hsettling:Settling s:=⟨hsound,heard_exec hkeeps hrun,isDrained_iff.mpr ⟨hinputs,htasks⟩⟩
   obtain ⟨hend,hlength⟩:=settling_exec hsettling hinternal hrun'
   refine ⟨by omega,fun hidle drain hmem=>?_⟩
   exact returned_of_idle hend.sound.pending hend.heard hend.drained hidle hmem
 · intro hsequential
   refine keeps_of_sequential (fun i j hi _=>?_) hsequential
   obtain ⟨drain,hdrain,_⟩:=hi
   cases hdrain

/-- The context of call 0 has a deadline and that of call 1 cannot end. -/
def twoContexts (context:ℕ) : Context :=
 ⟨context == 0,false⟩

def oneDrain : List Label :=
 [.beginInput,.parallel,.post 0 true,.drain 0,.advance 0,.advance 0,.advance 0,.finishTask 0,
  .finishInput 0,.send 0]

/-- A single call waits for both the invocation and the task, and returns. -/
theorem drain_gate_one_drain : ∃ s, exec (step twoContexts) {} oneDrain = some s ∧
  s.drains = [⟨0, .waiting 0⟩] ∧
  (∃ ls' s', exec (step twoContexts) s ls' = some s' ∧ s'.drains = [⟨0, .returned true⟩]) ∧
  ∀ ls' s', (∀ l ∈ ls', l.internal) → exec (step twoContexts) s ls' = some s' →
   ls'.length ≤ work s ∧ ((∀ l, l.internal → step twoContexts s' l = none) →
    ∀ drain ∈ s'.drains, ∃ drained, drain.place = .returned drained) := by
 obtain ⟨s,hrun,hfacts⟩ : ∃ s,exec (step twoContexts) {} oneDrain=some s ∧
  (s.drains,s.inputInvocations,s.parallelActive,
   (exec (step twoContexts) s [.advance 0,.advance 0]).map State.drains) =
    ([⟨0,.waiting 0⟩],0,0,some [⟨0,.returned true⟩]) :=
  map_eq_some_iff.mp (by decide +kernel :
   (exec (step twoContexts) {} oneDrain).map (fun s=>(s.drains,s.inputInvocations,s.parallelActive,
    (exec (step twoContexts) s [.advance 0,.advance 0]).map State.drains)) =
    some ([⟨0,.waiting 0⟩],0,0,some [⟨0,.returned true⟩]))
 simp only[Prod.mk.injEq] at hfacts
 obtain ⟨hdrains,hinputs,htasks,hreturned⟩:=hfacts
 obtain ⟨s',hrun',hdrains'⟩:=map_eq_some_iff.mp hreturned
 obtain ⟨-,-,-,-,hreturns,-⟩:=drain_gate hrun
 have hkeeps:Along (step twoContexts) (fun s l=>keeps s l=true) {} oneDrain:=by decide +kernel
 exact ⟨s,hrun,hdrains,⟨_,s',hrun',hdrains'⟩,hreturns hkeeps hinputs htasks⟩

/-- Two calls wait for one notification; the first one drops it at its deadline. -/
def droppedNotification : List Label :=
 [.parallel,.post 0 true,.drain 0,.advance 0,.drain 1,.advance 1,.advance 0,.advance 0,.advance 1,
  .advance 1,.expire 0,.timeout 0,.advance 0,.finishTask 0]

/-- Both counters are zero, and the second call waits for ever. -/
theorem drain_lost_wakeup : ∃ s, exec (step twoContexts) {} droppedNotification = some s ∧
  s.inputInvocations = 0 ∧ s.parallelActive = 0 ∧
  ∀ ls' s', exec (step twoContexts) s ls' = some s' → s'.drains[1]? = some ⟨1, .waiting 0⟩ := by
 obtain ⟨s,hrun,hcalls⟩ : ∃ s,exec (step twoContexts) {} droppedNotification=some s ∧
  (s.drains,s.inputInvocations,s.parallelActive)=([⟨0,.returned false⟩,⟨1,.waiting 0⟩],0,0) :=
  map_eq_some_iff.mp (by decide +kernel :
   (exec (step twoContexts) {} droppedNotification).map (fun s =>
    (s.drains,s.inputInvocations,s.parallelActive)) =
    some ([⟨0,.returned false⟩,⟨1,.waiting 0⟩],0,0))
 obtain ⟨t,hrun',hevent⟩ : ∃ s,exec (step twoContexts) {} droppedNotification=some s ∧
  ((s.stopRequested 1,s.expired 1,s.sent 0),s.sends,s.parallelDrained,s.events) =
   ((false,false,false),[],none,1) :=
  map_eq_some_iff.mp (by decide +kernel :
   (exec (step twoContexts) {} droppedNotification).map (fun s =>
    ((s.stopRequested 1,s.expired 1,s.sent 0),s.sends,s.parallelDrained,s.events)) =
    some ((false,false,false),[],none,1))
 obtain rfl:=some.inj (hrun.symm.trans hrun')
 simp only[Prod.mk.injEq] at hcalls hevent
 obtain ⟨hdrains,hinputs,htasks⟩:=hcalls
 obtain ⟨⟨hstop,hexpired,hsent⟩,hsends,hcurrent,hevents⟩:=hevent
 have hforsaken:Forsaken twoContexts s 1 1 0:=
  { waits := by rw[hdrains]; rfl
    endless := rfl
    running := ⟨hstop,hexpired⟩
    unsent := hsent
    untaken := by rw[hsends]; exact not_mem_nil
    dropped := by rw[hcurrent]; exact (some_ne_none 0).symm
    known := by rw[hevents]; exact Nat.zero_lt_one
    alone:=by
     intro j drain hj hevent
     rw[hdrains] at hj
     match j with
     | 0 =>
      cases hj
      cases hevent
     | 1 => rfl
     | j+2 => cases hj }
 exact ⟨s,hrun,hinputs,htasks,fun ls' s' hrun'=>(hforsaken.exec hrun').waits⟩

end ServiceLib.GraphGate
