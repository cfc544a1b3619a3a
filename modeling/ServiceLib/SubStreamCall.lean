import ServiceLib.SubStream

set_option autoImplicit false
attribute [-instance] instBooleanRingBool

/-!
# One sub-stream invocation

The verdict of an invocation is the outcome of the callback that returned true or threw.
-/
namespace ServiceLib.SubStream

variable {E:Type}

inductive Act (E:Type) where
 | quiet
 | dispatch
 | cancel
 | signal
 | settle (outcome:Outcome E)

def Act.verdict (act:Act E) (verdict:Option (Outcome E)) : Option (Outcome E) :=
 match act with
 | .settle (.returned false) => verdict
 | .settle outcome => some outcome
 | _ => verdict

/-- What `consume` ends with when the body's dispatch has returned. -/
def verdictResult : Option (Outcome E) → Result E
 | some (.returned true) => .ok ()
 | some (.threw error) => .error error
 | _ => .error cancelledError

def Phase.result? : Phase E → Option (Result E)
 | .unwinding result | .cleaning result | .releasing result | .returned result => some result
 | _ => none

def Phase.shut : Phase E → Bool
 | .expired | .locking | .cleaning _ | .releasing _ | .returned _ => true
 | _ => false

def Phase.sends : Phase E → Bool
 | .expired | .cleaning _ => true
 | _ => false

def Place.held (place:Place) : Option Place :=
 if place.holds then some place else none

set_option autoImplicit true in
inductive Turn (call:Call E) : Option Place → Act E → Call E → Option Place → Prop
 | dispatched (hphase:call.phase = .body) :
  Turn call holder .dispatch { call with phase := .waiting } holder
 | bodyThrew (hphase:call.phase = .body) :
  Turn call holder .quiet { call with phase := .unwinding (.error error) } holder
 | cancelled : Turn call holder .cancel { call with closed := true } holder
 | signalled (hclosed:call.closed = true) :
  Turn call holder .signal { call with done := true } holder
 | timedOut (hphase:call.phase = .waiting) :
  Turn call holder .quiet { call with phase := .timedOut } holder
 | woken (hphase:call.phase = .waiting) (hdone:call.done = true) :
  Turn call holder .quiet { call with phase := .locking } holder
 | expired (hphase:call.phase = .timedOut) :
  Turn call holder .quiet { call with closed := true,phase := .expired } holder
 | expirySent (hphase:call.phase = .expired) :
  Turn call holder .quiet { call with done := true,phase := .locking } holder
 | decided (hphase:call.phase = .locking) :
  Turn call none .quiet { call with live := false,phase := .unwinding call.result } none
 | unwound (hphase:call.phase = .unwinding result) :
  Turn call holder .quiet { call with closed := true,phase := .cleaning result } holder
 | cleaned (hphase:call.phase = .cleaning result) :
  Turn call holder .quiet { call with done := true,phase := .releasing result } holder
 | released (hphase:call.phase = .releasing result) :
  Turn call none .quiet { call with live := false,error := none,phase := .returned result } none
 | locked (d:ℕ) : Turn call none .quiet { call with callbackMutex := some d } (some .checking)
 | foundClosed (hclosed:call.closed = true) : Turn call (some .checking) .quiet call (some .unlocking)
 | foundOpen (hopen:call.closed = false) : Turn call (some .checking) .quiet call (some .testing)
 | foundCancelled : Turn call (some .testing) .quiet { call with closed := true } (some .sending)
 | started : Turn call (some .testing) .quiet call (some .calling)
 | ended (outcome:Outcome E) :
  Turn call (some .calling) (.settle outcome) (call.settle outcome).1 (some (call.settle outcome).2)
 | stored : Turn call (some .storing) .quiet { call with closed := true } (some .sending)
 | sent : Turn call (some .sending) .quiet { call with done := true } (some .unlocking)
 | unlocked : Turn call (some .unlocking) .quiet { call with callbackMutex := none } none

variable {call call':Call E} {holder:Option Place} {dispatched:Prop}

def Place.entered : Place → Bool
 | .testing | .calling | .storing | .sending => true
 | _ => false

structure Proper (call:Call E) (holder:Option Place) (verdict:Option (Outcome E))
  (dispatched:Prop) : Prop where
 sent : call.done = true → call.closed = true
 dead : call.live = false → call.closed = true
 sending : holder = some .sending → call.closed = true
 shut : call.phase.shut = true → call.closed = true
 entered : ∀ place,holder = some place → place.entered = true → call.live = true
 undecided : holder = some .testing ∨ holder = some .calling → verdict = none
 settled : verdict.isSome = true → call.closed = true ∨ holder = some .storing
 completed : call.completed = true ↔ verdict = some (.returned true)
 error : (∀ result,call.phase ≠ .returned result) →
  ∀ error,call.error = some error ↔ verdict = some (.threw error)
 running : call.phase = .body → ¬dispatched
 decided : dispatched → ∀ result,call.phase.result? = some result →
  call.live = false ∧ result = verdictResult verdict
 returned : ∀ result,call.phase = .returned result → call.live = false

structure SameIdentity (call call':Call E) : Prop where
 key : call'.key = call.key
 bindings : call'.bindings = call.bindings

lemma turn_of_dispatched (holder:Option Place) (h:call.dispatched=some call') :
  Turn call holder .dispatch call' holder := by
 grind[Turn,Call.dispatched]

lemma turn_of_bodyThrows {error:Exception E} (holder:Option Place)
  (h:call.bodyThrows error=some call') : Turn call holder .quiet call' holder := by
 grind[Turn,Call.bodyThrows]

lemma turn_of_cancel (holder:Option Place) (h:call.cancel=some call') :
  Turn call holder .cancel call' holder := by
 grind[Turn,Call.cancel]

lemma turn_of_expire (holder:Option Place) (h:call.expire=some call') :
  Turn call holder .quiet call' holder := by
 grind[Turn,Call.expire]

lemma turn_of_run (h:call.run=some call')
  (hfree:call.callbackMutex=none→ holder=none) : Turn call holder .quiet call' holder := by
 grind[Turn,Call.run]

lemma turn_of_deliver {d:ℕ} {cancelled:Bool} {place place':Place}
  (h:call.deliver d cancelled place=some (call',place')) :
  Turn call place.held .quiet call' place'.held := by
 cases place <;> grind[Turn,Call.deliver,Place.held,Place.holds]

lemma proper_new (key:ℕ) (bindings:List Binding) (bounded:Bool) :
  Proper ({ key := key,bindings := bindings,bounded := bounded } : Call E) none none False := by
 constructor <;> simp[Phase.shut]

lemma Proper.result {verdict:Option (Outcome E)}
  (h:Proper call holder verdict dispatched) (hphase:call.phase=.locking) :
  call.result=verdictResult verdict := by
 have herror:=h.error (fun result hr=>by simp[hphase] at hr)
 have hcompleted:=h.completed
 rcases verdict with _ | ⟨_ | _⟩ | _ <;> grind[Call.result,verdictResult]

lemma Proper.of_imp {verdict:Option (Outcome E)} (h:Proper call holder verdict dispatched)
  {dispatched':Prop} (himp:dispatched'→ dispatched) : Proper call holder verdict dispatched' :=
 { h with
   running := fun hp hd=>h.running hp (himp hd)
   decided := fun hd=>h.decided (himp hd) }

lemma Proper.open_of_checking {verdict:Option (Outcome E)}
  (h:Proper call (some .checking) verdict dispatched) (hopen:call.closed=false) :
  call.live=true∧verdict=none := by
 obtain ⟨⟩:=h
 cases verdict <;> grind

variable {holder':Option Place} {act:Act E}

lemma Proper.turn {verdict:Option (Outcome E)}
  (h:Proper call holder verdict dispatched)
  (ht:Turn call holder act call' holder') :
  Proper call' holder' (act.verdict verdict) (dispatched∨act=.dispatch) := by
 have hresult:=h.result
 cases ht with
 | foundOpen hopen =>
  obtain ⟨hlive,rfl⟩:=h.open_of_checking hopen
  obtain ⟨⟩:=h
  simp only[Act.verdict,reduceCtorEq,or_false]
  constructor <;> first | assumption | grind
 | ended outcome =>
  -- the invocation is live, so `wait` has not read the verdict and `cleanup` has not
  -- dropped the error
  obtain ⟨⟩:=h
  rcases outcome with ⟨_ | _⟩ | _ <;> constructor <;> first | assumption | grind[Act.verdict,Call.settle,Place.entered]
 | _ =>
  obtain ⟨⟩:=h
  simp only[Act.verdict,reduceCtorEq,or_false]
  constructor <;> first | assumption | grind[Phase.shut,Phase.result?,Place.entered]

/-- The send that wakes a closed invocation has happened or is still to come. -/
def Wakes (call:Call E) (holder:Option Place) (signalled:Prop) : Prop :=
 call.closed = true →
  call.done = true ∨ signalled ∨ call.phase.sends = true ∨ holder = some .sending

lemma Wakes.turn {S S':Prop} (h:Wakes call holder S) (ht:Turn call holder act call' holder')
  (hcancel:act=.cancel→ S') (hkeep:act≠ .signal→ S→ S') : Wakes call' holder' S' := by
 cases ht with
 | ended outcome => rcases outcome with ⟨_ | _⟩ | _ <;> grind[Wakes,Call.settle]
 | _ => grind[Wakes,Phase.sends]

lemma Turn.sameIdentity
  (ht:Turn call holder act call' holder') : SameIdentity call call' := by
 cases ht with
 | ended outcome => rcases outcome with ⟨_ | _⟩ | _ <;> exact ⟨rfl,rfl⟩
 | _ => exact ⟨rfl,rfl⟩

lemma Turn.closed
  (ht:Turn call holder act call' holder') (h:call.closed=true∨act=.cancel) : call'.closed=true := by
 cases ht with
 | cancelled | expired | unwound | foundCancelled | stored => rfl
 | ended outcome => rcases outcome with ⟨_ | _⟩ | _ <;> simpa[Call.settle] using h
 | _ => simpa using h

lemma Turn.calling {outcome:Outcome E}
  (ht:Turn call holder (.settle outcome) call' holder') : holder=some .calling := by
 cases ht with
 | ended => rfl

end ServiceLib.SubStream
