import ServiceLib.ClientWriteQueueShape
import Mathlib.Data.List.Range

set_option autoImplicit false
attribute [-instance] instBooleanRingBool

/-!
# Runs of the write queue
-/
namespace ServiceLib.ClientWriteQueue

open Transition Tokens List

variable {T E:Type}

attribute [grind =] events acceptedOf poppedOf outcomesOf recordedOf

@[grind =] lemma outcomesOf_append (w:ℕ) (es new:List (Event E)) :
  outcomesOf w (es++new)=outcomesOf w es++outcomesOf w new :=
 filterMap_append

variable {s s':State T E} {l:Label T E}

lemma popped_move {es:List (Event E)} (hes:History s es) (hmove:Move s l s') :
  poppedOf (es++events s l s')++s'.values <+: List.range s'.writes.length := by
 have hrange:=range_succ (n:=s.writes.length)
 have hdrop:=(prefix_append (poppedOf es) s.values).trans hes.popped
 have hkept:=hes.kept
 cases hmove with
 | @accepts c value h hfailure hclosed =>
  have hsame:∀ s',poppedOf (es++events s (.advance c) s')++(s.values++[s.writes.length]) =
   List.range (s.writes++[({ value := value } : Write T E)]).length := by grind
  exact hsame _▸prefix_refl _
 | fails h => grind
 | _ =>
  have:=hes.popped
  grind

lemma outcomes_move {es:List (Event E)} (hes:History s es) (hmove:Move s l s') :
  ∀ w,outcomesOf w (es++events s l s')=(s'.outcome w).toList := by
 have:=hes.outcomes
 cases hmove <;> grind[State.completeWrite]

lemma recorded_move {es:List (Event E)} (hes:History s es) (hmove:Move s l s') :
  recordedOf (es++events s l s')=s'.failure.toList := by
 have:=hes.recorded
 cases hmove with
 | fails h => cases hfailure : s.failure <;> grind
 | _ => grind

lemma history_move {es:List (Event E)} (hes:History s es) (hmove:Move s l s') :
  History s' (es++events s l s') := by
 have hrange:=range_succ (n:=s.writes.length)
 refine ⟨?_,popped_move hes hmove,?_,outcomes_move hes hmove,recorded_move hes hmove⟩
 · have:=hes.accepted
   cases hmove <;> grind
 · have:=hes.kept
   cases hmove <;> grind

def Call.work : Call T E → ℕ
 | .pushing _ => 20
 | .signalling _ _ => 14
 | .waiting _ => 1
 | .failing _ => 14
 | .completing _ ws _ => 13 + 2 * ws.length
 | .sending _ _ ws _ => 14 + 2 * ws.length
 | .closing => 14
 | .closeSignalling _ => 13
 | .returned _ | .threw _ _ | .failed | .closed => 0

def Writer.work (cancelled:Bool) (events:List Bool) : Writer → ℕ
 | .waiting event => if cancelled then 20 else if events[event]? = some true then 12 else 0
 | .checking => if cancelled then 18 else 11
 | .locking => if cancelled then 22 else 10
 | .completing _ => 3
 | .sending _ => 2
 | .resetting _ | .cancelling _ => 1
 | .idle | .holding _ | .ended | .left => 0

def State.remaining (s:State T E) : ℕ :=
 total Call.work s.calls + 2 * s.values.length + 2 * s.active.toList.length +
  s.writer.work s.cancelled s.events

def Label.internal : Label T E → Prop
 | .advance _ => True
 | .work => True
 | _ => False

attribute [grind =] Call.work Writer.work State.remaining Label.internal

lemma work_send (s:State T E) (available:Option ℕ) :
  s.writer.work s.cancelled (s.send available).events≤ s.writer.work s.cancelled s.events+12 := by
 cases hwriter:s.writer <;> grind

lemma remaining_move (hs:Inv s) (hl:l.internal) (hmove:Move s l s') : s'.remaining < s.remaining := by
 have:=hs.quiet
 have:=hs.held
 cases hmove with
 | @signals c available next h =>
  have:=work_send s available
  grind
 | _ => grind

lemma call_of_stuck {c:ℕ} {call:Call T E} (hc:s.calls[c]?=some call) (hstuck:step s (.advance c)=none) :
  call.signal=none∧call.pending=[]∧call.notifies=none∧(call.isFail=true→ call=.failed) ∧
   ∀ w,call=.waiting w→∀ write,s.writes[w]?=some write→ write.done=false := by
 simp only[step,State.advance,hc] at hstuck
 cases call with
 | completing error ws available => cases ws <;> grind
 | _ => grind

section Stuck
variable (hs:Inv s) (hstuck:∀ l : Label T E,l.internal → step s l = none)
include hstuck

lemma total_of_stuck (weight:Call T E→ℕ)
  (hweight:∀ call,call.signal=none→ call.pending=[]→ call.notifies=none→ weight call=0) :
  total weight s.calls=0 := by
 have hle:total weight s.calls≤total (fun _=>0) s.calls:=by
  refine total_mono fun call hmem=>Nat.le_of_eq ?_
  obtain ⟨c,hc⟩:=List.getElem?_of_mem hmem
  obtain ⟨hsignal,hpending,hnotifies,-⟩:=call_of_stuck hc (hstuck (.advance c) trivial)
  exact hweight call hsignal hpending hnotifies
 simpa[total] using hle

lemma counts_of_stuck (k:ℕ) : s.signals k=0∧s.notifiers k=0 ∧
  total (fun call=>call.pending.count k) s.calls=0 := by
 refine ⟨?_,?_,?_⟩ <;> refine total_of_stuck hstuck _ fun call h1 h2 h3=>?_ <;> grind

include hs in
lemma no_waiting_of_stuck (hfailure:s.failure≠none) (c w:ℕ) : s.calls[c]?≠some (.waiting w) := by
 intro hc
 have hsound:=hs.sound c _ hc
 have hstuck':=call_of_stuck hc (hstuck (.advance c) trivial)
 have hcounts:=counts_of_stuck hstuck w
 have hwork:=hstuck .work trivial
 have hdrained:=hs.drained
 have hpending:=hs.pending w
 have hnotified:=hs.notified w
 simp only[step,State.work] at hwork
 cases hw:s.writes[w]? with
 | none => grind
 | some write => cases hcompleted : write.completed <;> grind

include hs in
lemma writer_of_stuck {event:ℕ} (hwriter:s.writer=.waiting event) :
  s.values=[]∧s.closed=false∧s.cancelled=false := by
 have hwork:=hstuck .work trivial
 have hcounts:=counts_of_stuck hstuck event
 have hawake:=hs.awake event hwriter
 have hquiet:=hs.quiet event
 simp only[step,State.work,hwriter] at hwork
 grind

end Stuck

lemma run_invariants {labels:List (Label T E)} (h:exec step {} labels=some s) :
  Inv s∧History s (observe step events {} labels) := by
 refine exec_observe events (I := fun s es=>Inv s∧History s es) ?_
  ⟨inv_initial,rfl,prefix_refl _,fun _=>rfl,fun _=>rfl,rfl⟩ h
 rintro s l s' es ⟨hs,hes⟩ hstep
 have hmove:=move_of_step hstep
 exact ⟨hs.move hmove,history_move hes hmove⟩

lemma push_closed {c:ℕ} {value:T} (hc:s.calls[c]?=some (.pushing value))
  (hclosed:s.closed=true) :
  step s (.advance c)=some (s.call c (.threw none (s.failure.getD .alreadyClosed))) := by
 simp only[step,State.advance,hc,State.push]
 cases hfailure:s.failure with
 | none => simp only[hclosed,if_true,Option.getD_none]
 | some e => rfl

/-- In every run: writes are popped in the order in which their pushes were accepted; a push
that waited for its write ends as the write does; a failure and a close refuse later
pushes; the coroutine ends for the right reason; and what the queue does by itself comes
to an end, with no push blocked after a failure and the coroutine waiting only for a
value of an open queue. -/
theorem write_queue_contract {s : State T E} {labels : List (Label T E)}
    (h : exec step {} labels = some s) :
    let es:=observe step events {} labels
    (acceptedOf es).Nodup ∧ poppedOf es <+: acceptedOf es ∧
      (s.failure = none → poppedOf es ++ s.values = acceptedOf es) ∧
      (∀ w, (outcomesOf w es).length ≤ 1) ∧ recordedOf es = s.failure.toList ∧
      (∀ c w : ℕ, s.calls[c]? = some (.returned w) → outcomesOf w es = [none]) ∧
      (∀ (c w : ℕ) (e : Failure E), s.calls[c]? = some (.threw (some w) e) →
        outcomesOf w es = [some e] ∧ recordedOf es = [e]) ∧
      (s.failure ≠ none ∨ (∃ call ∈ s.calls, call.closes = true) → s.closed = true) ∧
      (∀ (c : ℕ) (value : T), s.calls[c]? = some (.pushing value) → s.closed = true →
        step s (.advance c) = some (s.call c (.threw none (s.failure.getD .alreadyClosed)))) ∧
      (s.writer = .ended → s.values = [] ∧ s.closed = true ∨ s.cancelled = true) ∧
      (∀ labels' s', (∀ l ∈ labels', l.internal) → exec step s labels' = some s' →
        labels'.length ≤ s.remaining) ∧
      ((∀ l : Label T E, l.internal → step s l = none) →
        (s.failure ≠ none → ∀ c w : ℕ, s.calls[c]? ≠ some (.waiting w)) ∧
        (∀ event, s.writer = .waiting event → s.values = [] ∧ s.closed = false ∧ s.cancelled = false)) := by
 intro es
 obtain ⟨hs,hes⟩:=run_invariants h
 have hprefix:poppedOf es <+: acceptedOf es:=by
  rw[hes.accepted]
  exact (prefix_append _ _).trans hes.popped
 have hreports:∀ (c w:ℕ) (call:Call T E) (outcome:Option (Failure E)),s.calls[c]?=some call →
  s.outcome w=some outcome→ outcomesOf w es=[outcome]:=by
  intro c w call outcome hc houtcome
  rw[hes.outcomes,houtcome,Option.toList_some]
 refine ⟨hes.accepted▸nodup_range, hprefix,fun hnone=>(hes.kept hnone).trans hes.accepted.symm,
  fun w=>?_,hes.recorded,fun c w hc=>hreports c w _ _ hc (hs.sound c _ hc),fun c w e hc=>?_,
  fun hclosed=>?_,fun c value=>push_closed,hs.ended,fun labels' s' hinternal hrun=>?_,
  fun hstuck=>⟨no_waiting_of_stuck hs hstuck,fun event=>writer_of_stuck hs hstuck⟩⟩
 · rw[hes.outcomes]
   exact Option.length_toList_le
 · have houtcome:=hs.sound c _ hc w rfl
   refine ⟨hreports c w _ _ hc houtcome,?_⟩
   have herror:=hs.error w
   rw[hes.recorded]
   grind
 · rcases hclosed with hfailure | ⟨call,hmem,hcall⟩
   · exact (hs.drained hfailure).2.2
   · obtain ⟨c,hc⟩:=List.getElem?_of_mem hmem
     have hsound:=hs.sound c call hc
     cases call <;> grind[Call.closes]
 · have hinv:∀ (s:State T E) l s',Inv s→ step s l=some s'→ Inv s' :=
    fun s l s' hs hstep=>hs.move (move_of_step hstep)
   have hwork:∀ (s:State T E) (l:Label T E) (s':State T E),Inv s→ l.internal →
    step s l=some s'→ s'.remaining < s.remaining :=
    fun s l s' hs hl hstep=>remaining_move hs hl (move_of_step hstep)
   have hbound:=exec_work hinv hwork hs hinternal hrun
   omega

/-- Two pushes are accepted; the first is written before the stream fails, the second is not. -/
def failsBetween : List (Label ℕ String) :=
 [.push 1,.push 2,.advance 0,.advance 1,.advance 0,.advance 1,.pop,.work,.work,.written,
  .work,.work,.work,.fail (.other "reset"),.advance 2,.advance 2,.advance 2,.advance 2,
  .advance 0,.advance 1]

theorem write_queue_contract_failsBetween : ∃ s, exec step {} failsBetween = some s ∧
  s.calls[0]? = some (.returned 0) ∧ s.calls[1]? = some (.threw (some 1) (.other "reset")) ∧
  outcomesOf 0 (observe step events {} failsBetween) = [none] ∧
  outcomesOf 1 (observe step events {} failsBetween) = [some (.other "reset")] := by
 refine ⟨_,rfl,rfl,rfl,?_,?_⟩
 · have hcontract:=@write_queue_contract ℕ String _ failsBetween rfl
   exact hcontract.2.2.2.2.2.1 0 0 rfl
 · have hcontract:=@write_queue_contract ℕ String _ failsBetween rfl
   exact (hcontract.2.2.2.2.2.2.1 1 1 _ rfl).1

end ServiceLib.ClientWriteQueue
