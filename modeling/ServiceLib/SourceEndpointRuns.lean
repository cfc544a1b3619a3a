import Mathlib.Algebra.Order.BigOperators.Group.Finset
import ServiceLib.SourceEndpoint
import ServiceLib.SourceRequestProgress

set_option autoImplicit false
attribute [-instance] instBooleanRingBool

/-!
# Runs of a source endpoint
-/
namespace ServiceLib.SourceRequest
open SharedMutex Request Transition Tokens Function List Option

inductive Change (e:Endpoint) (s:State) : Label → State → Prop
 | began (streamId:String) (context:Context) :
  Change e s (.beginRequest streamId context) (s.beginRequest e streamId context)
 | stopped : Change e s .stop { s with stopped := true }
 | ignored (streamId:String) (parent:Option (ℕ × ℕ)) : Change e s (.result streamId parent) s
 | arrived {streamId:String} {parent:Option (ℕ × ℕ)} {r:ℕ} (hpending:s.pending streamId = some r)
  (hparent:parent.all (fun call=>s.inHandler call && !s.nested call) = true) :
  Change e s (.result streamId parent)
   { s with requests := update s.requests r ((s.requests r).arrive e.kind parent) }
 | moved {r:ℕ} {act:Act} {q':Request} {entry':Entry} (hr:r < s.next)
  (hmove:Move e s.stopped (s.entry r) (s.requests r) act q' entry') :
  Change e s (.act r act) (s.store r (q',entry'))

variable {e:Endpoint} {s s':State} {l:Label} {r:ℕ} {labels:List Label}

@[grind =]
lemma requests_store (s:State) (r:ℕ) (q:Request) (entry:Entry) (j:ℕ) :
  (s.store r (q,entry)).requests j=if j=r then q else s.requests j :=
 update_apply ..

@[grind =]
lemma pending_store (s:State) (r:ℕ) (q:Request) (entry:Entry) (id:String) :
  (s.store r (q,entry)).pending id=s.setEntry r entry id :=
 rfl

@[grind =]
lemma requests_beginRequest (s:State) (streamId:String) (context:Context) (j:ℕ) :
  (s.beginRequest e streamId context).requests j=if j=s.next then
   { streamId := streamId
     context := context
     phase := if e.hasResult=true∨e.kind.grpc=true then .inserting else .consuming } else s.requests j :=
 update_apply ..

lemma change_of_step (h:step e s l=some s') : Change e s l s' := by
 cases l with
 | act r act => 
  obtain ⟨⟨q',entry'⟩,hstep,rfl⟩:=map_eq_some_iff.mp (ite_none_right_eq_some.mp h).2
  exact .moved (ite_none_right_eq_some.mp h).1.1 (move_of_step hstep)
 | _ => grind[Change,step,State.consumeResult]

inductive RequestChange (e:Endpoint) (s:State) (l:Label) (r:ℕ) : Request → Prop
 | same (hl:∀ act,l ≠ .act r act) : RequestChange e s l r (s.requests r)
 | arrived {streamId:String} {parent:Option (ℕ × ℕ)} (hl:l = .result streamId parent) :
  RequestChange e s l r ((s.requests r).arrive e.kind parent)
 | moved {act:Act} {q':Request} {entry':Entry} (hl:l = .act r act)
  (hmove:Move e s.stopped (s.entry r) (s.requests r) act q' entry') : RequestChange e s l r q'

lemma requestChange_of_step (h:step e s l=some s')
  (hr:r < s.next) : RequestChange e s l r (s'.requests r) := by
 cases change_of_step h <;> grind[RequestChange,update_apply]

lemma next_le_of_step (h:step e s l=some s') : s.next≤ s'.next := by
 cases change_of_step h with
 | began => exact Nat.le_succ _
 | stopped | ignored | arrived | moved => exact Nat.le_refl _

structure Consistent (e:Endpoint) (s:State) : Prop where
 owner : ∀ streamId r,s.pending streamId = some r → r < s.next ∧ (s.requests r).streamId = streamId
 sound : ∀ r,r < s.next → Sound e (s.entry r) (s.requests r)

section Table
variable {e:Endpoint} {s:State} {r:ℕ}

lemma entry_own_iff : s.entry r=.own↔s.pending (s.requests r).streamId=some r := by
 grind[State.entry]

lemma entry_free_iff : s.entry r=.free↔s.pending (s.requests r).streamId=none := by
 grind[State.entry]

lemma setEntry_entry (s:State) (r:ℕ) : s.setEntry r (s.entry r)=s.pending := by
 cases hentry:s.entry r with
 | free => exact update_eq_self_iff.mpr (entry_free_iff.mp hentry).symm
 | own => exact update_eq_self_iff.mpr (entry_own_iff.mp hentry).symm
 | other => rfl

inductive TableChange (s:State) (r:ℕ) (act:Act) : (String → Option ℕ) → Entry → Prop
 | same : TableChange s r act s.pending (s.entry r)
 | inserted (hact:act = .run) (hfree:s.pending (s.requests r).streamId = none) :
  TableChange s r act (update s.pending (s.requests r).streamId (some r)) .own
 | removed (hact:act = .run) (hown:s.pending (s.requests r).streamId = some r) :
  TableChange s r act (update s.pending (s.requests r).streamId none) .free

lemma Consistent.tableChange (h:Consistent e s) {act:Act} {q':Request} {entry':Entry} (hr:r < s.next)
  (hmove:Move e s.stopped (s.entry r) (s.requests r) act q' entry') :
  TableChange s r act (s.setEntry r entry') entry' := by
 have hsound:=h.sound r hr
 have hchange:=hmove.entryChange hsound.gate hsound.shape
 generalize hlisted : (s.requests r).listed e.kind=listed at hchange
 generalize q'.listed e.kind=listed' at hchange
 cases hchange with
 | same =>
  rw[setEntry_entry]
  exact .same
 | inserted hact hentry => exact .inserted hact (entry_free_iff.mp hentry)
 | removed hact hset => exact .removed hact (entry_own_iff.mp (hsound.listed.mpr (hlisted.trans hset)))

section TableChange
variable {act:Act} {pending':String → Option ℕ} {entry':Entry}

lemma TableChange.self (h:TableChange s r act pending' entry') :
  pending' (s.requests r).streamId=some r↔entry'=.own := by
 cases h <;> grind[entry_own_iff]

lemma TableChange.other (h:TableChange s r act pending' entry') {r':ℕ} (hr':r'≠r) (streamId:String) :
  pending' streamId=some r'↔s.pending streamId=some r' := by
 cases h <;> grind

lemma TableChange.owner (h:TableChange s r act pending' entry') {streamId:String}
  (hpending:pending' streamId=some r) :
  s.pending streamId=some r∨(s.requests r).streamId=streamId := by
 cases h <;> grind

end TableChange

lemma Consistent.store (h:Consistent e s) {act:Act} {q':Request} {entry':Entry} (hr:r < s.next)
  (hmove:Move e s.stopped (s.entry r) (s.requests r) act q' entry') : Consistent e (s.store r (q',entry')) := by
 have hchange:=h.tableChange hr hmove
 have hid:=hmove.identity.1
 have hself:=hchange.self
 have hother:=@hchange.other
 have howner:=@hchange.owner
 have hnext:(s.store r (q',entry')).next=s.next:=rfl
 have hmoved:=(h.sound r hr).move hmove
 obtain ⟨hown,hsound⟩:=h
 constructor
 · grind
 · intro r' hlt
   refine @Sound.of_own e (if r'=r then entry' else s.entry r') _ _ ?_ ?_ <;> grind[entry_own_iff]

lemma Consistent.arrived (h:Consistent e s) {streamId:String} (hpending:s.pending streamId=some r)
  (parent:Option (ℕ×ℕ)) :
  Consistent e { s with requests := update s.requests r ((s.requests r).arrive e.kind parent) } := by
 obtain ⟨-,hid⟩:=h.owner streamId r hpending
 have hids:∀ r',(update s.requests r ((s.requests r).arrive e.kind parent) r').streamId =
  (s.requests r').streamId:=by
  grind[update_apply,arrive]
 constructor
 · intro streamId' r' hpending'
   exact ⟨(h.owner streamId' r' hpending').1,(hids r').trans (h.owner streamId' r' hpending').2⟩
 · intro r' hlt
   have hentry:State.entry
    { s with requests := update s.requests r ((s.requests r).arrive e.kind parent) } r'=s.entry r':=by
    unfold State.entry
    rw[hids]
   rw[hentry]
   have hsound:=h.sound r' hlt
   grind[entry_own_iff,Sound.arrive,update_apply]

lemma Consistent.began (h:Consistent e s) (streamId:String) (context:Context) :
  Consistent e (s.beginRequest e streamId context) := by
 have hknown:∀ streamId' r',s.pending streamId'=some r'→ r'≠s.next:=
  fun streamId' r' hpending=>Nat.ne_of_lt (h.owner streamId' r' hpending).1
 obtain ⟨hown,hsound⟩:=h
 constructor
 · intro streamId' r' hpending
   have hlt:=hown streamId' r' hpending
   exact ⟨Nat.lt_succ_of_lt hlt.1,by grind⟩
 · intro r' hlt
   by_cases hr':r'=s.next
   · subst hr'
     have hself:(s.beginRequest e streamId context).requests s.next=_:=update_self ..
     rw[hself]
     refine sound_fresh streamId context ?_ ?_
     · rw[Ne,entry_own_iff]
       exact fun hpending=>hknown _ _ hpending rfl
     · grind[Kind.grpc]
   · have hother:(s.beginRequest e streamId context).requests r'=s.requests r':=update_of_ne hr' ..
     rw[hother]
     refine (hsound r' (Nat.lt_of_le_of_ne (Nat.le_of_lt_succ hlt) hr')).of_own ?_
     rw[entry_own_iff,entry_own_iff,hother]
     rfl

lemma consistent_initial : Consistent e {} :=
 ⟨nofun,fun r hr=>absurd hr (Nat.not_lt_zero r)⟩

lemma Consistent.after (h:Consistent e s) (hstep:step e s l=some s') :
  Consistent e s' := by
 cases change_of_step hstep with
 | began streamId context => exact h.began streamId context
 | stopped => exact ⟨h.owner,h.sound⟩
 | ignored => exact h
 | arrived hpending => exact h.arrived hpending _
 | moved hr hmove => exact h.store hr hmove

lemma consistent_exec (hrun:exec (step e) {} labels=some s) : Consistent e s :=
 exec_invariant (I := Consistent e) (fun _ _ _ h hstep=>h.after hstep) consistent_initial hrun

lemma request_exec {P:Request→ Prop} (harrive:∀ q parent,P q→ P (q.arrive e.kind parent))
  (hmove:∀ stopped entry q act q' entry',Sound e entry q→ P q→ Move e stopped entry q act q' entry'→ P q')
  (hconsistent:Consistent e s) (hr:r < s.next) (h:P (s.requests r))
  (hrun:exec (step e) s labels=some s') : P (s'.requests r) := by
 refine (exec_invariant (I := fun s=>Consistent e s∧r < s.next∧P (s.requests r)) ?_
  ⟨hconsistent,hr,h⟩ hrun).2.2
 rintro s l m ⟨hconsistent,hr,h⟩ hm
 refine ⟨hconsistent.after hm,Nat.lt_of_lt_of_le hr (next_le_of_step hm),?_⟩
 have hchange:=requestChange_of_step hm hr
 generalize m.requests r=q' at hchange
 cases hchange with
 | same => exact h
 | arrived => exact harrive _ _ h
 | moved _ hown => exact hmove _ _ _ _ _ _ (hconsistent.sound r hr) h hown

end Table

structure Ended (e:Endpoint) (s:State) (seen:List Label) : Prop where
 consistent : Consistent e s
 count : ∀ r,seen.count (.act r .ended) = if r < s.next ∧ (s.requests r).phase.over then 1 else 0

section Ended
variable {e:Endpoint} {s s':State} {l:Label} {seen:List Label}

lemma over_fresh (h:step e s l=some s') (hr:¬r < s.next) :
  ¬(r < s'.next∧(s'.requests r).phase.over) := by
 rintro ⟨hlt,hover⟩
 cases change_of_step h with
 | began streamId context =>
  have hnext:(s.beginRequest e streamId context).next=s.next+1:=rfl
  grind[Phase.over,Phase.rank]
 | stopped | ignored | arrived | moved => exact hr hlt

lemma Ended.frame (h:Ended e s seen) {next:ℕ} {phase:Phase} (hl:l≠ .act r .ended)
  (hover:(r < next∧phase.over)↔r < s.next∧(s.requests r).phase.over) :
  (seen++[l]).count (.act r .ended)=if r < next∧phase.over then 1 else 0 := by
 have hzero:[l].count (.act r .ended)=0:=
  count_eq_zero.mpr fun hmem=>hl (mem_singleton.mp hmem).symm
 rw[count_append,hzero,h.count,Nat.add_zero]
 exact if_congr hover.symm rfl rfl

lemma Ended.after (h:Ended e s seen) (hstep:step e s l=some s') : Ended e s' (seen++[l]) := by
 refine ⟨h.consistent.after hstep,fun r=>?_⟩
 by_cases hr:r < s.next
 · have hknown:r < s'.next:=Nat.lt_of_lt_of_le hr (next_le_of_step hstep)
   have hchange:=requestChange_of_step hstep hr
   generalize s'.requests r=q' at hchange
   cases hchange with
   | same hl => exact h.frame (hl .ended) (and_congr_left fun _=>iff_of_true hknown hr)
   | arrived hl => exact h.frame (hl▸nofun) (and_congr_left fun _=>iff_of_true hknown hr)
   | moved hl hmove =>
    subst hl
    rcases hmove.forward (h.consistent.sound r hr).gate with ⟨rfl,hphase,hover⟩ | ⟨hact,hrank,hback⟩
    · have hbefore:¬(r < s.next∧(s.requests r).phase.over):=by
       rw[hphase]
       exact fun hover=>absurd hover.2 (by decide)
      rw[count_append,h.count,if_neg hbefore,if_pos ⟨hknown,hover⟩,count_singleton_self]
    · refine h.frame (fun heq=>hact (Label.act.inj heq).2) ?_
      exact and_congr (iff_of_true hknown hr) ⟨hback,fun hover=>Nat.le_trans hover hrank⟩
 · refine h.frame ?_ (iff_of_false (over_fresh hstep hr) fun hlt=>hr hlt.1)
   rintro rfl
   cases change_of_step hstep with
   | moved hlt => exact hr hlt

lemma ended_initial : Ended e {} [] where
 consistent := consistent_initial
 count r := (if_neg fun h=>Nat.not_lt_zero r h.1).symm

lemma ended_exec (hrun:exec (step e) {} labels=some s) : Ended e s labels :=
 exec_history (I := Ended e) (fun _ _ _ _ h hstep=>h.after hstep) ended_initial hrun

end Ended

def Label.Internal : Label → Prop
 | .act _ a => a.internal = true
 | _ => False

def State.work (s:State) : ℕ :=
 ∑ r ∈ Finset.range s.next,(s.requests r).work

def Idle (e:Endpoint) (s:State) : Prop :=
 ∀ l : Label,l.Internal → step e s l = none

section Progress
variable {e:Endpoint} {s s':State} {l:Label}

lemma Consistent.work_lt (h:Consistent e s) (hl:l.Internal) (hstep:step e s l=some s') :
  s'.work < s.work := by
 cases change_of_step hstep with
 | began | stopped | ignored | arrived => cases hl
 | @moved r act q' entry' hr hmove =>
  have hlt:=hmove.work_lt (h.sound r hr) hl
  refine Finset.sum_lt_sum (fun r' _=>?_) ⟨r,Finset.mem_range.mpr hr,?_⟩
  · change (update s.requests r q' r').work≤_
    rw[update_apply]
    split
    case isTrue hr' =>
     rw[hr']
     exact Nat.le_of_lt hlt
    case isFalse => exact Nat.le_refl _
  · change (update s.requests r q' r).work < _
    rw[update_self]
    exact hlt

lemma Idle.step_none (h:Idle e s) (hr:r < s.next) (act:Act) (hact:act.internal=true) :
  (s.requests r).step e s.stopped (s.entry r) act=none := by
 have hnone:=h (.act r act) hact
 have hhandler:act.handler=none:=by
  cases act <;> first | rfl | cases hact
 simp only[step,hhandler,all_none] at hnone
 rw[if_pos ⟨hr,trivial⟩] at hnone
 exact map_eq_none_iff.mp hnone

lemma Idle.standing (h:Idle e s) (hconsistent:Consistent e s) (hr:r < s.next) :
  Standing e s.stopped (s.requests r) :=
 idle_standing (h.step_none hr) (hconsistent.sound r hr)

end Progress

lemma Sound.not_handling {entry:Entry} {q:Request} (h:Sound e entry q)
  (hended:q.phase.ended) (i:ℕ) : ¬q.Handling i := by
 intro hi
 by_cases hfinished:q.phase=.finished
 · exact h.quiet hfinished i hi
 · refine h.gate.not_inside ?_ i hi.inside
   cases hphase:q.phase <;> rw[hphase] at hended hfinished <;>
    first | rfl | exact absurd rfl hfinished | exact absurd hended (by decide)

lemma Consistent.pending_change (h:Consistent e s)
  (hstep:step e s l=some s') (hne:s'.pending≠s.pending) :
  ∃ r,l=.act r .run ∧
   ((s.pending (s.requests r).streamId=none ∧
     s'.pending=update s.pending (s.requests r).streamId (some r)) ∨
    (s.pending (s.requests r).streamId=some r ∧
     s'.pending=update s.pending (s.requests r).streamId none)) := by
 cases change_of_step hstep with
 | began | stopped | ignored | arrived => exact absurd rfl hne
 | @moved r act q' entry' hr hmove =>
  have hchange:=h.tableChange hr hmove
  change s.setEntry r entry'≠s.pending at hne
  change ∃ r',_∧((_∧s.setEntry r entry'=_)∨(_∧s.setEntry r entry'=_))
  generalize s.setEntry r entry'=pending' at hchange hne
  cases hchange with
  | same => exact absurd rfl hne
  | inserted hact hfree => exact ⟨r,by rw[hact],.inl ⟨hfree,rfl⟩⟩
  | removed hact hown => exact ⟨r,by rw[hact],.inr ⟨hown,rfl⟩⟩

lemma step_duplicate (hphase:(s.requests r).phase=.inserting)
  (hpending:s.pending (s.requests r).streamId≠none) (hstep:step e s (.act r .run)=some s') :
  s'.pending=s.pending∧(s'.requests r).error=some .duplicateKey := by
 have hentry:=setEntry_entry s r
 grind[step,Request.step,Request.run,entry_free_iff,State.store,fail]

/-- For every run of an endpoint: `endRequest` ends once for each request that is over and
for no other; from its beginning on no result call of the request is in handler code; the
table changes only where a request inserts itself under a free id or removes itself, and
an id in flight is rejected; and the library's own steps come to an end, with every
request over or kept by something outside the library. -/
theorem request_retirement {e : Endpoint} {s : State} {labels : List Label}
  (hrun : exec (step e) {} labels = some s) :
  (∀ r, labels.count (.act r .ended) = if r < s.next ∧ (s.requests r).phase.over then 1 else 0) ∧
  (∀ r, r < s.next → (s.requests r).phase.ended → ∀ i, ¬(s.requests r).Handling i) ∧
  (∀ l s', step e s l = some s' → s'.pending ≠ s.pending → ∃ r, l = .act r .run ∧
   ((s.pending (s.requests r).streamId = none ∧
     s'.pending = update s.pending (s.requests r).streamId (some r)) ∨
    (s.pending (s.requests r).streamId = some r ∧
     s'.pending = update s.pending (s.requests r).streamId none))) ∧
  (∀ r s', (s.requests r).phase = .inserting → s.pending (s.requests r).streamId ≠ none →
   step e s (.act r .run) = some s' → s'.pending = s.pending ∧ (s'.requests r).error = some .duplicateKey) ∧
  (∀ rest s', (∀ l ∈ rest, l.Internal) → exec (step e) s rest = some s' → rest.length ≤ s.work ∧
   (Idle e s' → ∀ r, r < s'.next → Standing e s'.stopped (s'.requests r))) ∧
  ∃ rest s', (∀ l ∈ rest, l.Internal) ∧ exec (step e) s rest = some s' ∧ Idle e s' := by
 have h:=ended_exec hrun
 have hwork:∀ (u:State) l u',Consistent e u→ l.Internal→ step e u l=some u'→ u'.work < u.work:=
  fun u l u' hu hl hstep=>hu.work_lt hl hstep
 refine ⟨h.count,fun r hr hended i=>(h.consistent.sound r hr).not_handling hended i,
  fun l s' hstep hne=>h.consistent.pending_change hstep hne,
  fun r s' hphase hpending hstep=>step_duplicate hphase hpending hstep,?_,
  exists_exec_idle (fun u l u' hu hstep=>hu.after hstep) hwork h.consistent⟩
 intro rest s' hinternal hrest
 have hlength:=exec_work (fun u l u' hu hstep=>hu.after hstep) hwork h.consistent hinternal hrest
 exact ⟨by omega,fun hidle r hr=>hidle.standing (consistent_exec (exec_append hrun hrest)) hr⟩

def duplicateRun : List Label :=
 [.beginRequest "a" {},.act 0 .run,.beginRequest "a" {},.act 1 .run,.act 1 .run,.act 1 .run,.act 1 .run,
  .act 1 .ended,.act 1 .run,.act 0 (.consumed false),.result "a" none,.act 0 (.advance 0),.act 0 (.advance 0),
  .act 0 .done,.act 0 (.doneStep 0),.act 0 (.doneStep 0),.act 0 (.doneStep 0),.act 0 .run,.act 0 .run,
  .act 0 .run,.act 0 (.identify 0 none),.act 0 (.advance 0),.act 0 .run,.act 0 .run,.act 0 .ended,.act 0 .run]

theorem duplicateRun_retirement : ∃ s, exec (step ⟨.localSource, true⟩) {} duplicateRun = some s ∧
  (s.requests 0).error = none ∧ (s.requests 1).error = some .duplicateKey ∧
  duplicateRun.count (.act 0 .ended) = 1 ∧ duplicateRun.count (.act 1 .ended) = 1 := by
 have hrun:(exec (step ⟨.localSource,true⟩) {} duplicateRun).map (fun s =>
  (s.next,(s.requests 0).phase,(s.requests 0).error,(s.requests 1).phase,(s.requests 1).error)) =
  some (2,.finished,none,.finished,some .duplicateKey) := by decide +kernel
 obtain ⟨s,hrun,hs⟩:=map_eq_some_iff.mp hrun
 simp only[Prod.mk.injEq] at hs
 obtain ⟨hnext,hphase,herror,hphase',herror'⟩:=hs
 have hcount:=(request_retirement hrun).1
 refine ⟨s,hrun,herror,herror',(hcount 0).trans (if_pos ⟨by omega,?_⟩),(hcount 1).trans (if_pos ⟨by omega,?_⟩)⟩
 · rw[hphase]
   decide
 · rw[hphase']
   decide

end ServiceLib.SourceRequest
