import ServiceLib.ContextHeaders
import ServiceLib.Transition

set_option autoImplicit false
attribute [-instance] instBooleanRingBool

/-!
# Contexts as values

A call on an rvalue changes the shared state in place when no other handle refers to it. Each
handle carries, for the proofs, the calls it was derived by.
-/
namespace ServiceLib.ContextValues
open ContextHeaders Transition Option

/-- `ContextState`; stop tokens, completions and local values by their identity. -/
structure Fields where
 stopToken : Option ℕ := none
 deadline : Option ℤ := none
 externalCancellations : List ℕ := []
 traceSamplingEnabled : Bool := false
 streamId : String := ""
 priority : ℤ := 0
 hasPriority : Bool := false
 trace : SpanContext := {}
 completion : Option ℕ := none
 localValues : List (ℕ × Option ℕ) := []
deriving DecidableEq

def Fields.base (x:Fields) : Fields :=
 { stopToken := x.stopToken,deadline := x.deadline,externalCancellations := x.externalCancellations
   traceSamplingEnabled := x.traceSamplingEnabled }

def localValue (x:Fields) (key:ℕ) : Option ℕ :=
 (x.localValues.find? fun binding=>binding.1 = key).bind Prod.snd

inductive Kind
 | context | message
deriving DecidableEq

def Kind.view : Kind → Fields → Fields
 | .context,x => x.base
 | .message,x => x

inductive Call
 | withDeadline (d:Option ℤ)
 | bounded (now timeout:ℤ)
 | withStopToken (token:Option ℕ)
 | withExternalCancellation (token:ℕ)
 | withSampling (enabled:Bool)
 | withCompletion (completion:Option ℕ)
 | withoutCompletion
 | withPriority (p:ℤ)
 | withStreamId (id:String)
 | withTrace (tc:SpanContext)
 | withLocalValue (key:ℕ) (value:Option ℕ)

def Call.memberOf : Call → Kind → Bool
 | .bounded ..,kind => kind = .context
 | .withDeadline _,_ | .withStopToken _,_ | .withExternalCancellation _,_ | .withSampling _,_ => true
 | _,kind => kind = .message

def Call.hasRvalueForm : Call → Bool
 | .bounded .. | .withLocalValue .. => false
 | _ => true

/-- The early returns of `*this`. -/
def Call.returnsThis : Call → Fields → Bool
 | .bounded now timeout,x => x.deadline.any (· ≤ now + max timeout 0)
 | .withoutCompletion,x => x.completion = none
 | _,_ => false

def Call.set : Call → Fields → Fields
 | .withDeadline d,x => { x with deadline := d }
 | .bounded now timeout,x => { x with deadline := some (now + max timeout 0) }
 | .withStopToken token,x => { x with stopToken := token }
 | .withExternalCancellation token,x => { x with externalCancellations := x.externalCancellations ++ [token] }
 | .withSampling enabled,x => { x with traceSamplingEnabled := enabled }
 | .withCompletion completion,x => { x with completion := completion }
 | .withoutCompletion,x => { x with completion := none }
 | .withPriority p,x => { x with priority := p,hasPriority := true }
 | .withStreamId id,x => { x with streamId := id }
 | .withTrace tc,x => { x with trace := tc }
 | .withLocalValue key value,x => { x with localValues := (key,value) :: x.localValues }

structure Handle where
 kind : Kind
 state : ℕ
 path : List Call := []

/-- A handle that was destroyed or moved from is `none`. -/
structure Program where
 heap : List Fields := []
 handles : List (Option Handle) := []

def Program.handle (s:Program) (h:ℕ) : Option Handle := s.handles[h]?.join

def Program.push (s:Program) (x:Handle) : Program := { s with handles := s.handles ++ [some x] }

def Program.discard (s:Program) (h:ℕ) : Program := { s with handles := s.handles.set h none }

def Program.unique (s:Program) (h state:ℕ) : Prop :=
 ∀ g < s.handles.length,g ≠ h → ∀ x ∈ s.handle g,x.state ≠ state

instance (s:Program) (h state:ℕ) : Decidable (s.unique h state) :=
 inferInstanceAs (Decidable (∀ g < s.handles.length,g ≠ h → ∀ x ∈ s.handle g,x.state ≠ state))

/-- A function of `kind` is called on the handle; its result is the next handle. -/
def Program.call (s:Program) (h:ℕ) (rvalue:Bool) (kind:Kind) (c:Call) (x:Handle) (fields:Fields) :
  Program :=
 if c.returnsThis fields then
  (if rvalue && c.hasRvalueForm then s.discard h else s).push ⟨kind,x.state,c :: x.path⟩
 else if rvalue = true ∧ c.hasRvalueForm = true ∧ s.unique h x.state then
  ({ s with heap := s.heap.set x.state (c.set fields) }.discard h).push ⟨kind,x.state,c :: x.path⟩
 else { s with heap := s.heap ++ [c.set (kind.view fields)] }.push ⟨kind,s.heap.length,c :: x.path⟩

inductive Step
 | make (kind:Kind)
 | copy (h:ℕ) (kind:Kind)
 | move (h:ℕ) (kind:Kind)
 | destroy (h:ℕ)
 | call (h:ℕ) (rvalue:Bool) (kind:Kind) (c:Call)

/-- A `MessageContext` is also a `Context`, not the other way round. -/
def Kind.covers : Kind → Kind → Bool
 | .context,.message => false
 | _,_ => true

def Program.step (s:Program) : Step → Option Program
 | .make kind => some ({ s with heap := s.heap ++ [({} : Fields)] }.push ⟨kind,s.heap.length,[]⟩)
 | .copy h kind => (s.handle h).bind fun x=>if x.kind.covers kind then some (s.push { x with kind := kind }) else none
 | .move h kind =>
  (s.handle h).bind fun x=>if x.kind.covers kind then some ((s.discard h).push { x with kind := kind }) else none
 | .destroy h => some (s.discard h)
 | .call h rvalue kind c => (s.handle h).bind fun x=>s.heap[x.state]?.bind fun fields =>
   if x.kind.covers kind && c.memberOf kind then some (s.call h rvalue kind c x fields) else none

def Program.observe (s:Program) (h:ℕ) : Option Fields :=
 (s.handle h).bind fun x=>s.heap[x.state]?.map x.kind.view

def Call.apply (c:Call) (x:Fields) : Fields :=
 if c.returnsThis x then x else c.set x

def replay (path:List Call) : Fields := path.foldr Call.apply {}

variable {s s':Program} {c:Call} {x:Fields} {kind:Kind} {g h:ℕ}

lemma member_view (hc:c.memberOf kind=true) (x:Fields) :
  c.returnsThis (kind.view x)=c.returnsThis x∧kind.view (c.set x)=c.set (kind.view x) := by
 cases kind with
 | message => exact ⟨rfl,rfl⟩
 | context => cases c <;> first | exact ⟨rfl,rfl⟩ | cases hc

lemma view_apply (hc:c.memberOf kind=true) (x:Fields) :
  kind.view (c.apply x)=c.apply (kind.view x) := by
 obtain ⟨hreturns,hset⟩:=member_view hc x
 unfold Call.apply
 rw[hreturns]
 split
 · rfl
 · exact hset

lemma covers_view {kind':Kind} (hkind:kind.covers kind'=true) (x:Fields) :
  kind'.view (kind.view x)=kind'.view x := by
 cases kind <;> cases kind' <;> first | rfl | cases hkind

/-- The state of every live handle is what the calls on its path made, as far as the handle sees it. -/
def Faithful (s:Program) : Prop :=
 ∀ g y,s.handle g = some y → ∃ fields,s.heap[y.state]? = some fields ∧
  y.kind.view fields = y.kind.view (replay y.path)

lemma lt_of_handle {y:Handle} (hy:s.handle g=some y) : g < s.handles.length := by
 grind[Program.handle]

structure Extends (s s':Program) : Prop where
 old : ∀ g y,g < s.handles.length → s'.handle g = some y → s.handle g = some y ∧
  ∀ fields,s.heap[y.state]? = some fields → ∃ fields',s'.heap[y.state]? = some fields' ∧
   y.kind.view fields' = y.kind.view fields
 new : ∀ g y,s.handles.length ≤ g → s'.handle g = some y → ∃ fields,s'.heap[y.state]? = some fields ∧
  y.kind.view fields = y.kind.view (replay y.path)

lemma Extends.faithful (h:Extends s s') (hs:Faithful s) : Faithful s' := by
 intro g y hy
 rcases Nat.lt_or_ge g s.handles.length with hg | hg
 · obtain ⟨hold,hkeep⟩:=h.old g y hg hy
   obtain ⟨fields,hfields,hview⟩:=hs g y hold
   obtain ⟨fields',hfields',hview'⟩:=hkeep fields hfields
   exact ⟨fields',hfields',hview'.trans hview⟩
 · exact h.new g y hg hy

lemma Faithful.copied (hs:Faithful s) {y:Handle} (hy:s.handle h=some y) (hkind:y.kind.covers kind=true) :
  ∃ fields,s.heap[y.state]?=some fields∧kind.view fields=kind.view (replay y.path) := by
 obtain ⟨fields,hfields,hview⟩:=hs h y hy
 refine ⟨fields,hfields,?_⟩
 rw[← covers_view hkind,hview,covers_view hkind]

lemma Faithful.called (hs:Faithful s) {y:Handle} {fields:Fields} (hy:s.handle h=some y)
  (hfields:s.heap[y.state]?=some fields) (hkind:y.kind.covers kind=true) (hc:c.memberOf kind=true) :
  kind.view (c.apply fields)=kind.view (replay (c::y.path)) := by
 obtain ⟨fields',hfields',hview⟩:=hs.copied hy hkind
 obtain rfl:fields=fields':=some.inj (hfields.symm.trans hfields')
 exact (view_apply hc fields).trans (hview▸(view_apply hc _).symm)

lemma extends_call (hs:Faithful s) {y:Handle} {fields:Fields} (rvalue:Bool) (hy:s.handle h=some y)
  (hfields:s.heap[y.state]?=some fields) (hkind:y.kind.covers kind=true) (hc:c.memberOf kind=true) :
  Extends s (s.call h rvalue kind c y fields) := by
 have hview:=hs.called hy hfields hkind hc
 have hlt:=lt_of_handle hy
 obtain ⟨hreturns,hset⟩:=member_view hc fields
 unfold Program.call
 split_ifs with hthis hrvalue hrvalue
 · constructor <;> grind[Program.push,Program.discard,Program.handle,Call.apply]
 · constructor <;> grind[Program.push,Program.discard,Program.handle,Call.apply]
 · obtain ⟨-,-,hunique⟩:=hrvalue
   constructor <;> grind[Program.push,Program.discard,Program.handle,Call.apply,Program.unique]
 · have hclone:kind.view (c.set (kind.view fields))=kind.view (c.set fields):=by
    rw[← hset]
    cases kind <;> rfl
   constructor <;> grind[Program.push,Program.handle,Call.apply]

lemma extends_step {l:Step} (hs:Faithful s) (hstep:s.step l=some s') : Extends s s' := by
 cases l with
 | make kind =>
  have hview:kind.view {}=kind.view (replay []):=rfl
  constructor <;> grind[Program.step,Program.push,Program.handle]
 | copy h kind | move h kind =>
  obtain ⟨y,hy,hstep⟩:=bind_eq_some_iff.mp hstep
  split at hstep
  · next hkind =>
    have hcopied:=hs.copied hy hkind
    cases hstep
    constructor <;> grind[Program.push,Program.discard,Program.handle]
  · cases hstep
 | destroy h => constructor <;> grind[Program.step,Program.discard,Program.handle]
 | call h rvalue kind c =>
  simp only[Program.step,bind_eq_some_iff] at hstep
  obtain ⟨y,hy,fields,hfields,hstep⟩:=hstep
  split at hstep
  · next hallowed =>
    obtain ⟨hkind,hc⟩:=Bool.and_eq_true_iff.mp hallowed
    cases hstep
    exact extends_call hs rvalue hy hfields hkind hc
  · cases hstep

inductive Field
 | stopToken | deadline | externalCancellations | sampling | streamId | priority | trace | completion | localValues
deriving DecidableEq

def Call.field : Call → Field
 | .withDeadline _ | .bounded .. => .deadline
 | .withStopToken _ => .stopToken
 | .withExternalCancellation _ => .externalCancellations
 | .withSampling _ => .sampling
 | .withCompletion _ | .withoutCompletion => .completion
 | .withPriority _ => .priority
 | .withStreamId _ => .streamId
 | .withTrace _ => .trace
 | .withLocalValue .. => .localValues

structure AgreeBut (f:Field) (x y:Fields) : Prop where
 stopToken : f ≠ .stopToken → y.stopToken = x.stopToken
 deadline : f ≠ .deadline → y.deadline = x.deadline
 externalCancellations : f ≠ .externalCancellations → y.externalCancellations = x.externalCancellations
 sampling : f ≠ .sampling → y.traceSamplingEnabled = x.traceSamplingEnabled
 streamId : f ≠ .streamId → y.streamId = x.streamId
 priority : f ≠ .priority → y.priority = x.priority ∧ y.hasPriority = x.hasPriority
 trace : f ≠ .trace → y.trace = x.trace
 completion : f ≠ .completion → y.completion = x.completion
 localValues : f ≠ .localValues → y.localValues = x.localValues

lemma agreeBut_apply (c:Call) (x:Fields) : AgreeBut c.field x (c.apply x) := by
 unfold Call.apply
 split <;> cases c <;> constructor <;> simp[Call.field,Call.set]

def lastLocal (key:ℕ) : List Call → Option ℕ
 | [] => none
 | .withLocalValue k v :: path => if k = key then v else lastLocal key path
 | _ :: path => lastLocal key path

lemma localValue_replay (key:ℕ) (path:List Call) : localValue (replay path) key=lastLocal key path := by
 induction path with
 | nil => rfl
 | cons c path ih =>
  have happly:replay (c::path)=c.apply (replay path):=rfl
  cases hc:c with
  | withLocalValue k v => by_cases hk : k=key <;> simp_all[Call.apply,Call.returnsThis,Call.set,localValue,lastLocal]
  | _ =>
   have hsame:=(agreeBut_apply c (replay path)).localValues (by rw[hc]; nofun)
   change _=lastLocal key path
   rw[← ih,← hc,happly,localValue,hsame,localValue]

/-- In every program: a handle sees what the calls on its own path made; a step changes what no
live handle sees; a call, on an lvalue or an rvalue, gives what it makes of the fields of
its source, which differ in the field it sets alone; and a local value is the last one
that was set for its key on the path. -/
theorem context_values {steps : List Step} {s : Program} (hrun : exec Program.step {} steps = some s) :
  (∀ g y, s.handle g = some y → s.observe g = some (y.kind.view (replay y.path))) ∧
  (∀ l s' g y, s.step l = some s' → g < s.handles.length → s'.handle g = some y → s'.observe g = s.observe g) ∧
  (∀ h rvalue kind c s', s.step (.call h rvalue kind c) = some s' → ∃ x, s.observe h = some x ∧
   s'.observe s.handles.length = some (kind.view (c.apply x)) ∧ AgreeBut c.field x (c.apply x)) ∧
  ∀ g y key, s.handle g = some y → y.kind = .message →
   (s.observe g).bind (localValue · key) = lastLocal key y.path := by
 have hs:Faithful s:=
  exec_invariant (I := Faithful) (fun _ _ _ hs h=>(extends_step hs h).faithful hs) (by simp[Faithful,Program.handle]) hrun
 have hobserve:∀ {s:Program},Faithful s→∀ g y,s.handle g=some y →
  s.observe g=some (y.kind.view (replay y.path)):=by
  intro s hs g y hy
  obtain ⟨fields,hfields,hview⟩:=hs g y hy
  simp[Program.observe,hy,hfields,hview]
 refine ⟨hobserve hs,fun l s' g y hstep hg hy=>?_,fun h rvalue kind c s' hstep=>?_,fun g y key hy hkind=>?_⟩
 · have hext:=extends_step hs hstep
   rw[hobserve (hext.faithful hs) g y hy,hobserve hs g y (hext.old g y hg hy).1]
 · have hext:=extends_step hs hstep
   simp only[Program.step,bind_eq_some_iff] at hstep
   obtain ⟨y,hy,fields,hfields,hstep⟩:=hstep
   split at hstep
   · next hallowed =>
     obtain ⟨hkind,hc⟩:=Bool.and_eq_true_iff.mp hallowed
     obtain ⟨state,hnew⟩ : ∃ state,s'.handle s.handles.length=some ⟨kind,state,c::y.path⟩:=by
      grind[Program.call,Program.push,Program.discard,Program.handle]
     refine ⟨_,hobserve hs h y hy,?_,agreeBut_apply _ _⟩
     rw[hobserve (hext.faithful hs) _ _ hnew,view_apply hc,covers_view hkind,← view_apply hc]
     rfl
   · cases hstep
 · rw[hobserve hs g y hy,hkind]
   exact localValue_replay key y.path

def sharedRun : List Step :=
 [.make .message,.copy 0 .context,.call 0 true .message (.withLocalValue 7 (some 1)),.destroy 0,
  .call 2 true .message (.withPriority 5)]

theorem sharedRun_values : ∃ s, exec Program.step {} sharedRun = some s ∧ s.heap.length = 2 ∧
  s.observe 1 = some {} ∧ (s.observe 3).bind (localValue · 7) = some 1 := by
 have hrun:exec Program.step {} sharedRun=some _:=rfl
 obtain ⟨hsees,-,-,hlocal⟩:=context_values hrun
 exact ⟨_,hrun,rfl,hsees 1 _ rfl,hlocal 3 _ 7 rfl rfl⟩

end ServiceLib.ContextValues
