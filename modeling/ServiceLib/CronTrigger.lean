import ServiceLib.CronMissedRuns

set_option autoImplicit false

/-!
# The trigger of a cron activation

`MakeScheduleTrigger` hashes the instant that `fire` has computed, its own clock reading less the
delay libcron reports.
-/
namespace ServiceLib.CronTrigger
open Transition Cron CronMissedRuns Option

/-- `std::chrono::year_month_day` of a day since the epoch. -/
def civil (day:ℤ) : ℤ × ℤ × ℤ :=
 let z:=day + 719468
 let era:=z / 146097
 let doe:=z - era * 146097
 let yoe:=(doe - doe / 1460 + doe / 36524 - doe / 146096) / 365
 let doy:=doe - (365 * yoe + yoe / 4 - yoe / 100)
 let mp:=(5 * doy + 2) / 153
 let month:=if mp < 10 then mp + 3 else mp - 9
 (yoe + era * 400 + if month ≤ 2 then 1 else 0,month,doy - (153 * mp + 2) / 5 + 1)

/-- `std::setfill('0') << std::setw(width) << value`. -/
def padded (width:ℕ) (value:ℤ) : String :=
 .ofList (List.leftpad width '0' (toString value).toList)

def fraction (nanos:ℤ) : String :=
 .ofList ((padded 9 nanos).toList.reverse.dropWhile (· == '0')).reverse

def formatScheduleTimestamp (value:ℤ) : String :=
 let wholeSeconds:=value / second
 let day:=wholeSeconds / 86400
 let (year,month,dayOfMonth):=civil day
 let time:=wholeSeconds - day * 86400
 let nanos:=value - wholeSeconds * second
 padded 4 year ++ "-" ++ padded 2 month ++ "-" ++ padded 2 dayOfMonth ++ "T" ++ padded 2 (time / 3600) ++ ":" ++
  padded 2 (time / 60 % 60) ++ ":" ++ padded 2 (time % 60) ++
  (if nanos ≠ 0 then "." ++ fraction nanos else "") ++ "Z"

example : formatScheduleTimestamp 951827696000000000 = "2000-02-29T12:34:56Z" := by decide +kernel

example : formatScheduleTimestamp (-500000000) = "1969-12-31T23:59:59.5Z" := by decide +kernel

inductive ScheduleBackend
 | local
 | temporal
deriving DecidableEq

structure ScheduleTrigger where
 triggerId : String
 scheduleId : String
 scheduledAt : ℤ
 firedAt : ℤ
 backend : ScheduleBackend := .local
deriving DecidableEq

def identity (endpointId:ℤ) (scheduleId:String) (scheduledAt:ℤ) : String :=
 "servicegen:schedule-trigger:v1\n" ++ toString endpointId ++ "\n" ++ scheduleId ++ "\n" ++
  formatScheduleTimestamp scheduledAt

/-- `scheduleSha256` is the digest of OpenSSL in hexadecimal. -/
def makeScheduleTrigger (scheduleSha256:String → String) (endpointId:ℤ) (scheduleId:String)
  (scheduledAt firedAt:ℤ) (backend:ScheduleBackend) : Except String ScheduleTrigger :=
 if endpointId < 1 then .error "endpointId must be positive"
 else if scheduleId = "" then .error "scheduleId must not be empty"
 else
  .ok ⟨scheduleSha256 (identity endpointId scheduleId scheduledAt),scheduleId,scheduledAt,firedAt,backend⟩

/-- What the activation of a firing gives to the pipeline, having read the clock once more. -/
def trigger (scheduleSha256:String → String) (endpointId:ℤ) (endpointName:String) (firing:Firing)
  (clock:ℤ) : Option (Except String ScheduleTrigger) :=
 match firing.decision with
 | .activated scheduledAt =>
  some (makeScheduleTrigger scheduleSha256 endpointId endpointName scheduledAt clock .local)
 | _ => none

/-- `fire` works with the planned instant shifted by its own lateness. -/
def Shifted (s:System) : Prop :=
 ∀ firing ∈ s.log,∀ scheduledAt,firing.decision = .activated scheduledAt →
  scheduledAt = firing.planned + firing.lateness

lemma shifted_step {create:String→ Option CronSchedule} {endpointName:String} {s s':System} {l:Label}
  (hs:Shifted s) (hstep:step create endpointName s l=some s') : Shifted s' := by
 cases l with
 | configure cfg =>
  obtain rfl:=some.inj hstep
  exact hs
 | stop =>
  obtain rfl:=some.inj hstep
  exact hs
 | finished =>
  simp only[step] at hstep
  split at hstep
  · obtain rfl:=some.inj hstep
    exact hs
  · cases hstep
 | fire planned tick now posted =>
  simp only[step] at hstep
  split at hstep
  · cases hstep
  · split at hstep
    · obtain rfl:=some.inj hstep
      intro firing hmem scheduledAt hdecision
      rcases List.mem_append.mp hmem with hmem | hmem
      · exact hs firing hmem scheduledAt hdecision
      · obtain rfl:=List.mem_singleton.mp hmem
        simp only[fire,outcome] at hdecision
        split at hdecision <;> try cases hdecision
        split at hdecision <;> try cases hdecision
        split at hdecision <;> try cases hdecision
        split at hdecision <;> cases hdecision
        change now - (tick - planned)=planned+(now - tick)
        omega
    · cases hstep

/-- Two firings of one occurrence, in any two runs, give the pipeline the same instant and
the same trigger id exactly when `fire` reads the clock equally long after the tick. -/
theorem trigger_stable_iff (scheduleSha256 : String → String) (endpointId : ℤ) (endpointName : String)
  (create₁ create₂ : String → Option CronSchedule) (labels₁ labels₂ : List Label) (s₁ s₂ : System)
  (hrun₁ : exec (step create₁ endpointName) {} labels₁ = some s₁)
  (hrun₂ : exec (step create₂ endpointName) {} labels₂ = some s₂) (firing₁ firing₂ : Firing)
  (hmem₁ : firing₁ ∈ s₁.log) (hmem₂ : firing₂ ∈ s₂.log) (hplanned : firing₁.planned = firing₂.planned)
  (clock₁ clock₂ : ℤ) (t₁ t₂ : ScheduleTrigger)
  (ht₁ : trigger scheduleSha256 endpointId endpointName firing₁ clock₁ = some (.ok t₁))
  (ht₂ : trigger scheduleSha256 endpointId endpointName firing₂ clock₂ = some (.ok t₂)) :
  (t₁.scheduledAt = t₂.scheduledAt ∧ t₁.triggerId = t₂.triggerId) ↔ firing₁.lateness = firing₂.lateness := by
 have hshifted:∀ {create labels s},exec (step create endpointName) {} labels=some s→ Shifted s:=
  fun hrun=>exec_invariant (fun _ _ _=>shifted_step) (fun _ h=>by cases h) hrun
 have hgiven:∀ {firing:Firing} {clock t},trigger scheduleSha256 endpointId endpointName firing clock=some (.ok t) →
  firing.decision=.activated t.scheduledAt ∧
   t.triggerId=scheduleSha256 (identity endpointId endpointName t.scheduledAt):=by
  intro firing clock t ht
  unfold trigger at ht
  split at ht
  · next hdecision =>
    simp only[makeScheduleTrigger] at ht
    split at ht
    · cases ht
    · split at ht <;> cases ht
      exact ⟨hdecision,rfl⟩
  · cases ht
 obtain ⟨hdecision₁,hid₁⟩:=hgiven ht₁
 obtain ⟨hdecision₂,hid₂⟩:=hgiven ht₂
 have h₁:=hshifted hrun₁ firing₁ hmem₁ _ hdecision₁
 have h₂:=hshifted hrun₂ firing₂ hmem₂ _ hdecision₂
 constructor
 · rintro ⟨hat,-⟩
   omega
 · intro hlateness
   have hat:t₁.scheduledAt=t₂.scheduledAt:=by omega
   exact ⟨hat,by rw[hid₁,hid₂,hat]⟩

/-- The occurrence at the first minute: libcron ticks `delay` nanoseconds after it, and `fire` reads
the clock `late` nanoseconds after the tick. -/
def firedLate (delay late:ℤ) : List Label :=
 [.configure minuteConfig,.fire 60000000000 (60000000000 + delay) (60000000000 + delay + late) true]

lemma fire_late (delay late:ℤ) (hdelay:0≤delay) (hlate:0≤late) :
  ∃ s,exec (step (fun _=>some everyMinute) "cron") {} (firedLate delay late)=some s ∧
   s.log=[⟨everyMinute,.skip,none,60000000000,late,1,.activated (60000000000+late)⟩] := by
 have hexpression:toLibcronExpression "* * * * *"=.ok "0 * * * * ?" := by decide +kernel
 have hplanned:everyMinute.calculateFrom 60000000000=(true,60000000000):=rfl
 have htick:60000000000≤60000000000+delay:=by omega
 have hlater:60000000000+delay≤60000000000+delay+late:=by omega
 have hlateness:60000000000+delay+late - (60000000000+delay)=late:=by omega
 simp[firedLate,minuteConfig,exec,step,configure,hexpression,unlessConfigured,hplanned,fire,outcome,dueCount,
  htick,hlater,hlateness]
 omega

/-- One run ticks on time and the other a second later; both read the clock seven nanoseconds after
their tick. -/
theorem trigger_stable_punctual : ∃ s₁ s₂ firing₁ firing₂ t₁ t₂,
  exec (step (fun _ => some everyMinute) "cron") {} (firedLate 0 7) = some s₁ ∧
  exec (step (fun _ => some everyMinute) "cron") {} (firedLate second 7) = some s₂ ∧
  firing₁ ∈ s₁.log ∧ firing₂ ∈ s₂.log ∧
  trigger id 1 "cron" firing₁ 60000000008 = some (.ok t₁) ∧
  trigger id 1 "cron" firing₂ 61000000009 = some (.ok t₂) ∧
  t₁.scheduledAt = t₂.scheduledAt ∧ t₁.triggerId = t₂.triggerId := by
 obtain ⟨s₁,hs₁,hlog₁⟩:=fire_late 0 7 (by decide) (by decide)
 obtain ⟨s₂,hs₂,hlog₂⟩:=fire_late second 7 (by decide) (by decide)
 have hmem₁:⟨everyMinute,.skip,none,60000000000,7,1,.activated 60000000007⟩∈s₁.log:=by simp[hlog₁]
 have hmem₂:⟨everyMinute,.skip,none,60000000000,7,1,.activated 60000000007⟩∈s₂.log:=by simp[hlog₂]
 refine ⟨s₁,s₂,_,_,_,_,hs₁,hs₂,hmem₁,hmem₂,rfl,rfl,?_⟩
 exact (trigger_stable_iff id 1 "cron" _ _ _ _ s₁ s₂ hs₁ hs₂ _ _ hmem₁ hmem₂ rfl _ _ _ _ rfl rfl).mpr rfl

/-- One nanosecond between the tick and the clock reading is enough. -/
theorem trigger_unstable : ∃ s₁ s₂ firing₁ firing₂ t₁ t₂,
  exec (step (fun _ => some everyMinute) "cron") {} (firedLate 0 0) = some s₁ ∧
  exec (step (fun _ => some everyMinute) "cron") {} (firedLate 0 1) = some s₂ ∧
  firing₁ ∈ s₁.log ∧ firing₂ ∈ s₂.log ∧ firing₁.planned = firing₂.planned ∧
  trigger id 1 "cron" firing₁ 60000000000 = some (.ok t₁) ∧
  trigger id 1 "cron" firing₂ 60000000001 = some (.ok t₂) ∧
  t₁.scheduledAt ≠ t₂.scheduledAt ∧ t₁.triggerId ≠ t₂.triggerId := by
 obtain ⟨s₁,hs₁,hlog₁⟩:=fire_late 0 0 (by decide) (by decide)
 obtain ⟨s₂,hs₂,hlog₂⟩:=fire_late 0 1 (by decide) (by decide)
 refine ⟨s₁,s₂,⟨everyMinute,.skip,none,60000000000,0,1,.activated 60000000000⟩,
  ⟨everyMinute,.skip,none,60000000000,1,1,.activated 60000000001⟩,_,_,hs₁,hs₂,?_,?_,rfl,rfl,rfl,?_,?_⟩
 · simp[hlog₁]
 · simp[hlog₂]
 · decide
 · decide +kernel

end ServiceLib.CronTrigger
