import Mathlib.Data.Int.Notation
import Mathlib.Data.List.Basic
import ServiceLib.Transition

set_option autoImplicit false

/-!
# The libcron endpoint

Instants are nanoseconds on the system clock. The evaluator of a schedule is libcron's; it is
taken with the property its callers rely on, that it finds the least occurrence at or after an
instant.
-/
namespace ServiceLib.Cron

def second : ℤ := 1000000000

inductive ScheduleOverlapPolicy
 | allow
 | skip
deriving DecidableEq,Repr

inductive ScheduleMissedRunPolicy
 | skip
 | fireOnce
deriving DecidableEq,Repr

/-- `libcron::CronSchedule`: a set of whole seconds and `calculate_from` over it. -/
structure CronSchedule where
 occurs : ℤ → Prop
 calculateFrom : ℤ → Bool × ℤ
 whole : ∀ o,occurs o → second ∣ o
 least : ∀ c,(calculateFrom c).1 = true →
  occurs (calculateFrom c).2 ∧ c ≤ (calculateFrom c).2 ∧ ∀ o,occurs o → c ≤ o → (calculateFrom c).2 ≤ o
 none_left : ∀ c,(calculateFrom c).1 = false → ∀ o,occurs o → ¬ c ≤ o

structure CronEndpointConfig where
 enabled : Bool
 schedule : String
 timezone : String := "UTC"
 overlapPolicy : ScheduleOverlapPolicy := .skip
 missedRunPolicy : ScheduleMissedRunPolicy := .skip

def isSpace (c:Char) : Bool :=
 c == ' ' || c == '\t' || c == '\n' || c == '\x0b' || c == '\x0c' || c == '\r'

def fieldsOf (expression:String) : List String :=
 ((expression.toList.splitOnP isSpace).filter fun word=>!word.isEmpty).map String.ofList

def toLibcronExpression (expression:String) : Except String String :=
 match fieldsOf expression with
 | [minute,hour,dayOfMonth,month,dayOfWeek] =>
  if dayOfMonth ≠ "*" ∧ dayOfWeek ≠ "*" then
   .error "portable cron expression cannot constrain both day-of-month and day-of-week"
  else
   let dayOfMonth':=if dayOfMonth = "*" ∧ dayOfWeek ≠ "*" then "?" else dayOfMonth
   let dayOfWeek':=if dayOfMonth = "*" ∧ dayOfWeek ≠ "*" then dayOfWeek else "?"
   .ok ("0 " ++ minute ++ " " ++ hour ++ " " ++ dayOfMonth' ++ " " ++ month ++ " " ++ dayOfWeek')
 | _ => .error "portable cron expression must contain exactly five fields"

structure Impl where
 overlapPolicy : ScheduleOverlapPolicy := .skip
 missedRunPolicy : ScheduleMissedRunPolicy := .skip
 evaluator : Option CronSchedule := none
 lastScheduled : Option ℤ := none
 active : ℕ := 0
 stopping : Bool := true

/-- `configure`, where `create` is `libcron::CronData::create`. What it assigned before
it throws stays assigned. -/
def configure (create:String → Option CronSchedule) (endpointName:String)
  (cfg:CronEndpointConfig) (impl:Impl) : Impl × Except String (Option String) :=
 if !cfg.enabled then (impl,.ok none)
 else if cfg.timezone ≠ "UTC" then (impl,.error "scheduled endpoint timezone must be UTC")
 else
  let assigned:={ impl with
   overlapPolicy := cfg.overlapPolicy,missedRunPolicy := cfg.missedRunPolicy }
  match toLibcronExpression cfg.schedule with
  | .error message => (assigned,.error message)
  | .ok expression =>
   match create expression with
   | none => (assigned,.error ("invalid cron schedule for endpoint " ++ endpointName))
   | some evaluator =>
    ({ assigned with evaluator := some evaluator,lastScheduled := none,stopping := false },
     .ok (some expression))

/-- The counting loop of `fire` from `cursor` on. -/
def countDue (evaluator:CronSchedule) (scheduledAt:ℤ) : ℕ → ℤ → ℕ → ℕ
 | 0,_,due => due
 | fuel + 1,cursor,due =>
  if cursor ≤ scheduledAt then
   let (valid,next):=evaluator.calculateFrom cursor
   if valid = false ∨ scheduledAt ≤ next then due
   else countDue evaluator scheduledAt fuel (next + second) (due + 1)
  else due

def rounds (cursor scheduledAt:ℤ) : ℕ := ((scheduledAt - cursor) / second).toNat + 1

def dueCount (impl:Impl) (scheduledAt:ℤ) : ℕ :=
 match impl.lastScheduled,impl.evaluator with
 | some last,some evaluator =>
  countDue evaluator scheduledAt (rounds (last + second) scheduledAt) (last + second) 1
 | _,_ => 1

inductive Decision
 | missed
 | stopping
 | overlapping
 | rejected
 | activated (scheduledAt:ℤ)
deriving DecidableEq,Repr

/-- What `fire` does after it has counted; `posted` says whether the executor took the
activation. -/
def outcome (impl:Impl) (due:ℕ) (scheduledAt:ℤ) (posted:Bool) : Decision :=
 if 1 < due ∧ impl.missedRunPolicy = .skip then .missed
 else if impl.stopping then .stopping
 else if impl.overlapPolicy = .skip ∧ impl.active ≠ 0 then .overlapping
 else if posted then .activated scheduledAt
 else .rejected

def fire (impl:Impl) (firedAt delay:ℤ) (posted:Bool) : Impl × ℕ × Decision :=
 let scheduledAt:=firedAt - delay
 let due:=dueCount impl scheduledAt
 let decision:=outcome impl due scheduledAt posted
 ({ impl with
   lastScheduled := some scheduledAt
   active := match decision with
    | .activated _ => impl.active + 1
    | _ => impl.active },
  due,decision)

/-- A firing as it happened: libcron ticked for `planned`, and `fire` read the clock
`lateness` after that tick. `previous` is the same pair of the firing before. -/
structure Firing where
 schedule : CronSchedule
 missedRunPolicy : ScheduleMissedRunPolicy
 previous : Option (ℤ × ℤ)
 planned : ℤ
 lateness : ℤ
 due : ℕ
 decision : Decision

structure System where
 impl : Impl := {}
 clock : ℤ := 0
 previous : Option (ℤ × ℤ) := none
 log : List Firing := []

inductive Label
 | configure (cfg:CronEndpointConfig)
 | fire (planned tick now:ℤ) (posted:Bool)
 | finished
 | stop

/-- A successful configuration forgets the last firing. -/
def unlessConfigured {α:Type} (result:Except String (Option String)) (last:Option α) : Option α :=
 match result with
 | .ok (some _) => none
 | .ok none | .error _ => last

/-- libcron ticks at or after the planned occurrence, reports how late the tick is, and
takes the occurrences in order; the clock does not go back. -/
def step (create:String → Option CronSchedule) (endpointName:String) (s:System) :
  Label → Option System
 | .configure cfg =>
  let configured:=configure create endpointName cfg s.impl
  some { s with
   impl := configured.1
   previous := unlessConfigured configured.2 s.previous }
 | .fire planned tick now posted =>
  match s.impl.evaluator with
  | none => none
  | some evaluator =>
   if evaluator.calculateFrom planned = (true,planned) ∧ planned ≤ tick ∧ tick ≤ now ∧
     s.clock ≤ tick ∧ ∀ p ∈ s.previous,p.1 < planned then
    let (impl,due,decision):=fire s.impl now (tick - planned) posted
    some {
     impl := impl
     clock := now
     previous := some (planned,now - tick)
     log := s.log ++ [⟨evaluator,s.impl.missedRunPolicy,s.previous,planned,now - tick,due,
      decision⟩] }
   else none
 | .finished =>
  if 0 < s.impl.active then some { s with impl := { s.impl with active := s.impl.active - 1 } }
  else none
 | .stop => some { s with impl := { s.impl with stopping := true } }

end ServiceLib.Cron
