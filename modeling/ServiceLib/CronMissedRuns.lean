import ServiceLib.Cron
import ServiceLib.GridCount

set_option autoImplicit false
attribute [-instance] instBooleanRingBool

/-!
# What `fire` counts

`fire` works with the planned instant plus its own lateness, both for the firing before and for
this one. The count is right exactly when the occurrences the first shift hides are as many as
those the second one adds.
-/
namespace ServiceLib.CronMissedRuns
open Transition GridCount Cron

lemma second_pos : 0 < second := by decide

lemma countDue_eq (evaluator:CronSchedule) (scheduledAt:ℤ) (fuel:ℕ) (cursor:ℤ) (due:ℕ)
    (hfuel:scheduledAt - cursor < fuel * second) :
    countDue evaluator scheduledAt fuel cursor due =
      due+count {o | evaluator.occurs o} cursor scheduledAt := by
 induction fuel generalizing cursor due with
 | zero =>
  have hzero:count {o | evaluator.occurs o} cursor scheduledAt=0:=
   count_eq_zero fun o _ ho=>by
    unfold second at hfuel
    omega
  rw[hzero]
  rfl
 | succ fuel ih =>
  unfold countDue
  by_cases hcur:cursor≤ scheduledAt
  · rw[if_pos hcur]
    cases hcalc:evaluator.calculateFrom cursor with
    | mk valid next =>
     cases valid with
     | false =>
      have hnone:=evaluator.none_left cursor (by rw[hcalc])
      have hzero:count {o | evaluator.occurs o} cursor scheduledAt=0:=
       count_eq_zero fun o ho hc=>absurd hc (hnone o ho)
      simp[hzero]
     | true =>
      obtain ⟨hocc,hge,hleast⟩:=evaluator.least cursor (by rw[hcalc])
      rw[hcalc] at hocc hge hleast
      by_cases hstop:scheduledAt≤next
      · have hzero:count {o | evaluator.occurs o} cursor scheduledAt=0 :=
         count_eq_zero fun o ho hc=>hstop.trans (hleast o ho hc)
        simp[hzero,hstop]
      · have hsplit:count {o | evaluator.occurs o} cursor scheduledAt =
         count {o | evaluator.occurs o} (next+second) scheduledAt+1 :=
         count_least second_pos evaluator.whole hocc hge (not_le.mp hstop) hleast
        have hnext:cursor≤next:=hge
        have hrest:=ih (next+second) (due+1) (by unfold second at *; omega)
        simp only[hstop,or_false,Bool.true_eq_false,↓reduceIte]
        rw[hrest,hsplit]
        omega
  · have hzero:count {o | evaluator.occurs o} cursor scheduledAt=0 :=
     count_eq_zero fun o _ ho=>by omega
    rw[if_neg hcur,hzero]
    rfl

lemma lt_rounds (cursor scheduledAt:ℤ) :
    scheduledAt - cursor < rounds cursor scheduledAt * second := by
 unfold rounds second
 omega

lemma dueCount_eq {impl:Impl} {evaluator:CronSchedule} {last:ℤ}
    (he:impl.evaluator=some evaluator) (hl:impl.lastScheduled=some last) (scheduledAt:ℤ) :
    dueCount impl scheduledAt=count {o | evaluator.occurs o} (last+second) scheduledAt+1 := by
 rw[dueCount,hl,he]
 change countDue evaluator scheduledAt (rounds (last+second) scheduledAt) (last+second) 1=_
 rw[countDue_eq evaluator scheduledAt _ _ _ (lt_rounds _ _),Nat.add_comm]

noncomputable section

/-- The occurrences after the planned instant `t₁` up to and including `t₂`. -/
def occurrences (schedule:CronSchedule) (t₁ t₂:ℤ) : ℕ :=
  ({o | schedule.occurs o} ∩ Set.Ioc t₁ t₂).ncard

/-- Occurrences between the two planned instants that come less than a second after
the first one plus its lateness. -/
def hidden (schedule:CronSchedule) (t₁ late₁ t₂:ℤ) : ℕ :=
  ({o | schedule.occurs o} ∩ Set.Ioo t₁ (min t₂ (t₁ + late₁ + second))).ncard

/-- Occurrences from the second planned instant on, itself included, that come before
its lateness has passed. -/
def added (schedule:CronSchedule) (t₁ late₁ t₂ late₂:ℤ) : ℕ :=
  ({o | schedule.occurs o} ∩ Set.Ico (max t₂ (t₁ + late₁ + second)) (t₂ + late₂)).ncard

end

lemma occurrences_eq {schedule:CronSchedule} {t₁ t₂:ℤ} (h:t₁ < t₂) (ho:schedule.occurs t₂) :
    occurrences schedule t₁ t₂=({o | schedule.occurs o} ∩ Set.Ioo t₁ t₂).ncard+1 := by
 have hset:{o | schedule.occurs o} ∩ Set.Ioc t₁ t₂ =
  insert t₂ ({o | schedule.occurs o} ∩ Set.Ioo t₁ t₂):=by
  ext o
  constructor
  · rintro ⟨hocc,hlo,hhi⟩
    by_cases heq:o=t₂
    · exact .inl heq
    · exact .inr ⟨hocc,hlo,lt_of_le_of_ne hhi heq⟩
  · rintro (rfl | ⟨hocc,hlo,hhi⟩)
    · exact ⟨ho,h,le_rfl⟩
    · exact ⟨hocc,hlo,hhi.le⟩
 have hfresh:t₂∉{o | schedule.occurs o} ∩ Set.Ioo t₁ t₂:=fun hm=>lt_irrefl _ hm.2.2
 rw[occurrences,hset,Set.ncard_insert_of_notMem hfresh
  ((Set.finite_Ioo t₁ t₂).subset Set.inter_subset_right)]

lemma shifted_count_iff (schedule:CronSchedule) {t₁ late₁ t₂ late₂:ℤ} (h:t₁ < t₂)
    (hlate₁:0≤late₁) (hlate₂:0≤late₂) (ho:schedule.occurs t₂) :
    count {o | schedule.occurs o} (t₁+late₁+second) (t₂+late₂)+1=occurrences schedule t₁ t₂ ↔
      hidden schedule t₁ late₁ t₂=added schedule t₁ late₁ t₂ late₂ := by
 have hsec:=second_pos
 have hhidden:({o | schedule.occurs o} ∩ Set.Ioo t₁ t₂) \
  ({o | schedule.occurs o} ∩ Set.Ico (t₁+late₁+second) (t₂+late₂)) =
  {o | schedule.occurs o} ∩ Set.Ioo t₁ (min t₂ (t₁+late₁+second)):=by
  ext o
  simp only[Set.mem_sdiff,Set.mem_inter_iff,Set.mem_ofPred_eq,Set.mem_Ioo,Set.mem_Ico,lt_min_iff,
   not_and,not_lt]
  constructor
  · rintro ⟨⟨hocc,hlo,hhi⟩,hnot⟩
    refine ⟨hocc,hlo,hhi,?_⟩
    by_contra hge
    have hcon:=hnot hocc (not_lt.mp hge)
    omega
  · rintro ⟨hocc,hlo,hhi,hlt⟩
    exact ⟨⟨hocc,hlo,hhi⟩,fun _ hge=>by omega⟩
 have hadded:({o | schedule.occurs o} ∩ Set.Ico (t₁+late₁+second) (t₂+late₂)) \
  ({o | schedule.occurs o} ∩ Set.Ioo t₁ t₂) =
  {o | schedule.occurs o} ∩ Set.Ico (max t₂ (t₁+late₁+second)) (t₂+late₂):=by
  ext o
  simp only[Set.mem_sdiff,Set.mem_inter_iff,Set.mem_ofPred_eq,Set.mem_Ioo,Set.mem_Ico,max_le_iff,
   not_and,not_lt]
  constructor
  · rintro ⟨⟨hocc,hlo,hhi⟩,hnot⟩
    exact ⟨hocc,⟨hnot hocc (by omega),hlo⟩,hhi⟩
  · rintro ⟨hocc,⟨ht,hlo⟩,hhi⟩
    exact ⟨⟨hocc,hlo,hhi⟩,fun _ _=>ht⟩
 rw[occurrences_eq h ho,Nat.add_right_cancel_iff,count,
  Set.ncard_eq_ncard_iff_ncard_sdiff_eq_ncard_sdiff (finite_inter_Ico _ _ _)
   ((Set.finite_Ioo t₁ t₂).subset Set.inter_subset_right),hhidden,hadded]
 exact eq_comm

structure Accounted (r:Firing) : Prop where
  occurs : r.schedule.occurs r.planned
  late : 0 ≤ r.lateness
  missed : r.decision = .missed → 1 < r.due
  first : r.previous = none → r.due = 1
  later : ∀ t₁ late₁,r.previous = some (t₁,late₁) → t₁ < r.planned ∧ 0 ≤ late₁ ∧
    r.due = count {o | r.schedule.occurs o} (t₁ + late₁ + second) (r.planned + r.lateness) + 1

/-- `lastScheduled` is the planned instant of the last firing plus its lateness. -/
structure Tracked (s:System) : Prop where
  last : s.impl.lastScheduled = s.previous.map fun p=>p.1 + p.2
  late : ∀ p ∈ s.previous,0 ≤ p.2
  log : ∀ r ∈ s.log,Accounted r

lemma tracked_configure {create:String→ Option CronSchedule} {endpointName:String} {s s':System}
    {cfg:CronEndpointConfig} (h:Tracked s)
    (hstep:step create endpointName s (.configure cfg)=some s') : Tracked s' := by
 grind[Tracked,step,configure,unlessConfigured]

lemma tracked_fire {create:String→ Option CronSchedule} {endpointName:String} {s s':System}
    {planned tick now:ℤ} {posted:Bool} (h:Tracked s)
    (hstep:step create endpointName s (.fire planned tick now posted)=some s') : Tracked s' := by
 simp only[step] at hstep
 split at hstep
 next => cases hstep
 next evaluator he =>
  split at hstep
  next hguard =>
   obtain ⟨hcalc,hpt,htn,hclock,hprev⟩:=hguard
   cases hstep
   have hsched:now - (tick - planned)=planned+(now - tick):=by omega
   have hocc:evaluator.occurs planned:=by
    have hleast:=evaluator.least planned (by rw[hcalc])
    rw[hcalc] at hleast
    exact hleast.1
   refine ⟨?_,fun p hp=>?_,fun r hr=>?_⟩
   · change some (now - (tick - planned))=some (planned+(now - tick))
     rw[hsched]
   · obtain rfl:=Option.some.inj hp
     change 0≤now - tick
     omega
   · rcases List.mem_append.mp hr with hr | hr
     · exact h.log r hr
     obtain rfl:=List.mem_singleton.mp hr
     refine ⟨hocc,?_,fun hd=>?_,fun hnone=>?_,fun t₁ late₁ hsome=>?_⟩
     · change 0≤now - tick
       omega
     · change outcome s.impl (dueCount s.impl (now - (tick - planned))) _ _=.missed at hd
       unfold outcome at hd
       split at hd
       next hm => exact hm.1
       next =>
        split at hd
        · cases hd
        split at hd
        · cases hd
        split at hd <;> cases hd
     · have hlast:s.impl.lastScheduled=none:=by
        change s.previous=none at hnone
        rw[h.last,hnone]
        rfl
       change dueCount s.impl _=1
       rw[dueCount,hlast]
     · change s.previous=some (t₁,late₁) at hsome
       have hlast:s.impl.lastScheduled=some (t₁+late₁):=by
        rw[h.last,hsome]
        rfl
       refine ⟨hprev _ hsome,h.late _ hsome,?_⟩
       change dueCount s.impl (now - (tick - planned))=_
       rw[dueCount_eq he hlast,hsched]
  next => cases hstep

lemma tracked_step {create:String→ Option CronSchedule} {endpointName:String} {s s':System}
    {l:Label} (h:Tracked s) (hstep:step create endpointName s l=some s') : Tracked s' := by
 grind[Label,Tracked,step,tracked_configure,tracked_fire]

lemma tracked_init : Tracked {} := by
 refine ⟨rfl,fun p hp=>?_,fun r hr=>?_⟩
 · cases hp
 · cases hr

/-- In every run, the first firing after a configuration counts one occurrence, and a
later one counts the occurrences since the planned instant before exactly when its
lateness adds as many as the lateness of the firing before hides. Where it counts
them, a firing is skipped as missed only if an occurrence was missed. -/
theorem due_correct_iff (create : String → Option CronSchedule) (endpointName : String)
    (labels : List Label) (s : System) (hrun : exec (step create endpointName) {} labels = some s)
    (r : Firing) (hr : r ∈ s.log) :
    (r.previous = none → r.due = 1) ∧
    ∀ t₁ late₁, r.previous = some (t₁, late₁) →
      (r.due = occurrences r.schedule t₁ r.planned ↔
        hidden r.schedule t₁ late₁ r.planned = added r.schedule t₁ late₁ r.planned r.lateness) ∧
      (hidden r.schedule t₁ late₁ r.planned = added r.schedule t₁ late₁ r.planned r.lateness →
        r.decision = .missed → ∃ o, r.schedule.occurs o ∧ t₁ < o ∧ o < r.planned) := by
 have htracked:Tracked s:=exec_invariant (fun _ _ _ hs hstep=>tracked_step hs hstep) tracked_init hrun
 have hacc:=htracked.log r hr
 refine ⟨hacc.first,fun t₁ late₁ hprev=>?_⟩
 obtain ⟨hlt,hlate,hdue⟩:=hacc.later t₁ late₁ hprev
 have hiff:r.due=occurrences r.schedule t₁ r.planned ↔
  hidden r.schedule t₁ late₁ r.planned=added r.schedule t₁ late₁ r.planned r.lateness:=by
  rw[hdue]
  exact shifted_count_iff r.schedule hlt hlate hacc.late hacc.occurs
 refine ⟨hiff,fun hsame hmissed=>?_⟩
 have htwo:1 < occurrences r.schedule t₁ r.planned:=hiff.mpr hsame▸hacc.missed hmissed
 rw[occurrences_eq hlt hacc.occurs] at htwo
 obtain ⟨o,ho,hlo,hhi⟩:=Set.nonempty_of_ncard_ne_zero (by omega :
  ({o | r.schedule.occurs o} ∩ Set.Ioo t₁ r.planned).ncard≠0)
 exact ⟨o,ho,hlo,hhi⟩

def everyMinute : CronSchedule where
  occurs o := 60000000000 ∣ o
  calculateFrom c := (true,-((-c) / 60000000000) * 60000000000)
  whole o ho := by
    unfold second
    omega
  least c _ := by
    refine ⟨⟨-((-c) / 60000000000),Int.mul_comm _ _⟩,?_,fun o ho hc=>?_⟩
    · change c ≤ -((-c) / 60000000000) * 60000000000
      omega
    · change -((-c) / 60000000000) * 60000000000 ≤ o
      omega
  none_left c h := by cases h

def minuteConfig : CronEndpointConfig := { enabled := true,schedule := "* * * * *" }

def punctualRun : List Label :=
  [.configure minuteConfig,.fire 60000000000 60000000000 60000000000 true,.finished,
    .fire 120000000000 120000000000 120000000000 true]

lemma everyMinute_occurrences : occurrences everyMinute 60000000000 120000000000=1 := by
 have hset:{o | everyMinute.occurs o} ∩ Set.Ioc 60000000000 120000000000={120000000000}:=by
  ext o
  constructor
  · rintro ⟨ho,hlo,hhi⟩
    change (60000000000 : ℤ) ∣ o at ho
    change o=120000000000
    omega
  · rintro rfl
    exact ⟨⟨2,rfl⟩,by decide,by decide⟩
 rw[occurrences,hset,Set.ncard_singleton]

lemma everyMinute_punctual : hidden everyMinute 60000000000 0 120000000000 =
    added everyMinute 60000000000 0 120000000000 0 := by
 have hhidden:{o | everyMinute.occurs o} ∩
  Set.Ioo 60000000000 (min 120000000000 (60000000000+0+second))=∅:=by
  apply Set.eq_empty_of_forall_notMem
  rintro o ⟨ho,hlo,hhi⟩
  change (60000000000 : ℤ) ∣ o at ho
  unfold second at hhi
  omega
 have hadded:{o | everyMinute.occurs o} ∩
  Set.Ico (max 120000000000 (60000000000+0+second)) (120000000000+0)=∅:=by
  apply Set.eq_empty_of_forall_notMem
  rintro o ⟨-,hlo,hhi⟩
  omega
 rw[hidden,added,hhidden,hadded]

theorem due_correct_punctual : ∃ s r, exec (step (fun _ => some everyMinute) "cron") {} punctualRun = some s ∧
    r ∈ s.log ∧ r.previous = some (60000000000, 0) ∧
    r.due = occurrences r.schedule 60000000000 r.planned := by
 refine ⟨_,_,rfl,List.mem_append_right _ List.mem_cons_self,rfl,?_⟩
 have hrun:exec (step (fun _=>some everyMinute) "cron") {} punctualRun=some _ := rfl
 exact (((due_correct_iff _ _ punctualRun _ hrun _
  (List.mem_append_right _ List.mem_cons_self)).2 60000000000 0 rfl).1).mpr everyMinute_punctual

def lateRun : List Label :=
  [.configure minuteConfig,.fire 60000000000 60000000000 60001000000 true,.finished,
    .fire 120000000000 120000000000 120001000000 true]

theorem lateRun_miscounts : ∃ s, exec (step (fun _ => some everyMinute) "cron") {} lateRun = some s ∧
    s.log.map (fun r => (r.planned, r.due, r.decision)) =
      [(60000000000, 1, .activated 60001000000), (120000000000, 2, .missed)] ∧
    occurrences everyMinute 60000000000 120000000000 = 1 :=
 ⟨_,rfl,rfl,everyMinute_occurrences⟩

end ServiceLib.CronMissedRuns
