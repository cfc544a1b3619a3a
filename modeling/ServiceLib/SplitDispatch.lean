import Mathlib.Algebra.Ring.BooleanRing
import Mathlib.Data.List.Nodup
import Mathlib.Data.List.Range

set_option autoImplicit false
attribute [-instance] instBooleanRingBool

/-!
# The dispatch of a split

`dispatchBranches` hands one message to every branch in two passes over the branches. `P` is the
`Payload` handle, not the value behind it. A local variable that has been moved from is `none`.
-/
namespace ServiceLib.SplitDispatch
open List

variable {C P:Type}

/-- What `consume` of a branch is called with. -/
structure Delivery (C P:Type) where
 branch : ℕ
 context : Option C
 payload : Option P
 moved : Bool
deriving DecidableEq

structure State (C P:Type) where
 remaining : ℕ
 context : Option C
 payload : Option P
 deliveries : List (Delivery C P) := []
 thrown : Bool := false

/-- One delivery; `throws` says which of the branches throw. -/
def deliver (throws:ℕ → Bool) (s:State C P) (i:ℕ) : State C P :=
 if s.thrown then s
 else if s.remaining - 1 = 0 then
  { remaining := s.remaining - 1,context := none,payload := none,thrown := throws i
    deliveries := s.deliveries ++ [⟨i,s.context,s.payload,true⟩] }
 else
  { s with
    remaining := s.remaining - 1,thrown := throws i
    deliveries := s.deliveries ++ [⟨i,s.context,s.payload,false⟩] }

def dispatchBranches (asyncBranches:List Bool) (throws:ℕ → Bool) (context:C) (payload:P) : State C P :=
 [true,false].foldl (fun s async=>(List.range asyncBranches.length).foldl (fun s i =>
  if asyncBranches[i]? ≠ some async then s else deliver throws s i) s)
  { remaining := asyncBranches.length,context := some context,payload := some payload }

/-- `SplitImpl::consume`; `startStreamSpan` is what a span does to the context. -/
def consume (asyncBranches:List Bool) (throws:ℕ → Bool) (startStreamSpan:Option (C → C)) (context:C)
  (payload:P) : State C P :=
 dispatchBranches asyncBranches throws (startStreamSpan.elim context fun start=>start context) payload

def branchesOf (asyncBranches:List Bool) (async:Bool) : List ℕ :=
 (List.range asyncBranches.length).filter fun i=>asyncBranches[i]? = some async

def order (asyncBranches:List Bool) : List ℕ :=
 branchesOf asyncBranches true ++ branchesOf asyncBranches false

variable {throws:ℕ → Bool} {context:C} {payload:P}

lemma order_perm (asyncBranches:List Bool) : (order asyncBranches).Perm (List.range asyncBranches.length) := by
 have hsplit:branchesOf asyncBranches false =
  (List.range asyncBranches.length).filter fun i=>!decide (asyncBranches[i]?=some true):=by
  refine filter_congr fun i hi=>?_
  have hlt:=mem_range.mp hi
  cases hb:asyncBranches[i] <;> simp[List.getElem?_eq_getElem hlt,hb]
 rw[order,hsplit]
 exact filter_append_perm _ _

lemma dispatch_eq (asyncBranches:List Bool) : dispatchBranches asyncBranches throws context payload =
  (order asyncBranches).foldl (deliver throws)
   { remaining := (order asyncBranches).length,context := some context,payload := some payload } := by
 have hpass:∀ (s:State C P) (async:Bool),(List.range asyncBranches.length).foldl (fun s i =>
  if asyncBranches[i]?≠some async then s else deliver throws s i) s =
  (branchesOf asyncBranches async).foldl (deliver throws) s:=by
  intro s async
  rw[branchesOf,foldl_filter]
  congr 1
  funext s i
  by_cases h:asyncBranches[i]?=some async <;> simp[h]
 rw[(order_perm asyncBranches).length_eq,length_range,order,foldl_append,← hpass,← hpass]
 rfl

lemma foldl_thrown (rest:List ℕ) {s:State C P} (h:s.thrown=true) : rest.foldl (deliver throws) s=s := by
 induction rest with
 | nil => rfl
 | cons i rest ih => rwa[foldl_cons,deliver,if_pos h]

/-- The deliveries to the branches that are left, up to one that throws. -/
def expected (throws:ℕ → Bool) (context:C) (payload:P) : List ℕ → List (Delivery C P)
 | [] => []
 | i :: rest => ⟨i,some context,some payload,rest.isEmpty⟩ ::
   if throws i then [] else expected throws context payload rest

-- the message is still there as long as a branch is left to receive it
lemma foldl_deliver (rest:List ℕ) (s:State C P) (hthrown:s.thrown=false)
  (hremaining:s.remaining=rest.length)
  (hvars:rest≠[]→ s.context=some context∧s.payload=some payload) :
  (rest.foldl (deliver throws) s).deliveries=s.deliveries++expected throws context payload rest := by
 induction rest generalizing s with
 | nil => simp[expected]
 | cons i rest ih =>
  obtain ⟨hcontext,hpayload⟩:=hvars (cons_ne_nil i rest)
  rw[foldl_cons]
  cases hi:throws i with
  | true =>
   rw[foldl_thrown rest (by grind[deliver])]
   cases rest <;> simp_all[deliver,expected]
  | false =>
   rw[ih _ (by grind[deliver]) (by grind[deliver]) (by grind[deliver,length_eq_zero_iff])]
   cases rest <;> simp_all[deliver,expected]

lemma expected_front (rest:List ℕ) : (expected throws context payload rest).map (·.branch) <+: rest ∧
  ((∀ i∈rest,throws i=false)→(expected throws context payload rest).map (·.branch)=rest) := by
 induction rest with
 | nil => simp[expected]
 | cons i rest ih => cases hi : throws i <;> simp_all[expected,cons_prefix_cons]

lemma expected_mem (rest:List ℕ) (hnodup:rest.Nodup) : ∀ d∈expected throws context payload rest,
  d.context=some context∧d.payload=some payload∧(d.moved=true↔rest.getLast?=some d.branch) := by
 induction rest with
 | nil => simp[expected]
 | cons i rest ih =>
  have hmem:=(@expected_front C P throws context payload rest).1.subset
  have hlast:rest.getLast?=some i→ i∈rest:=mem_of_getLast?
  intro d hd
  cases rest <;> grind[expected]

lemma expected_thrown (rest:List ℕ) {before after:List (Delivery C P)} {d:Delivery C P}
  (hsplit:expected throws context payload rest=before++d::after) (hd:throws d.branch=true) :
  after=[] := by
 induction rest generalizing before with
 | nil => simp[expected] at hsplit
 | cons i rest ih =>
  rw[expected] at hsplit
  cases before with
  | nil =>
   obtain ⟨rfl,rfl⟩:=List.cons.inj hsplit
   exact if_pos hd
  | cons b before =>
   have htail:=(List.cons.inj hsplit).2
   split at htail
   · simp at htail
   · exact ih htail

/-- The branches that receive the message are those of `order`, each once and all of them
if none throws; each receives the whole message, only the last one by a move, and none
receives it after one has thrown. -/
theorem split_delivers (asyncBranches : List Bool) (throws : ℕ → Bool) (startStreamSpan : Option (C → C))
  (context : C) (payload : P) :
  (order asyncBranches).Perm (List.range asyncBranches.length) ∧
  ∀ deliveries, (consume asyncBranches throws startStreamSpan context payload).deliveries = deliveries →
   deliveries.map (·.branch) <+: order asyncBranches ∧
   ((∀ i < asyncBranches.length, throws i = false) → deliveries.map (·.branch) = order asyncBranches) ∧
   (∀ d ∈ deliveries, d.context = some (startStreamSpan.elim context fun start => start context) ∧
    d.payload = some payload ∧ (d.moved = true ↔ (order asyncBranches).getLast? = some d.branch)) ∧
   ∀ before d after, deliveries = before ++ d :: after → throws d.branch = true → after = [] := by
 have hperm:=order_perm asyncBranches
 refine ⟨hperm,?_⟩
 rintro deliveries rfl
 rw[consume,dispatch_eq,foldl_deliver _ _ rfl rfl fun _=>⟨rfl,rfl⟩]
 obtain ⟨hfront,hall⟩:=@expected_front C P throws
  (startStreamSpan.elim context fun start=>start context) payload (order asyncBranches)
 refine ⟨hfront,fun hnone=>hall fun i hi=>hnone i (mem_range.mp (hperm.subset hi)),
  expected_mem _ (hperm.nodup_iff.mpr nodup_range),fun before d after hsplit hd=>expected_thrown _ hsplit hd⟩

/-- Three branches, the second asynchronous: it comes first and the last one gets the original. -/
theorem split_delivers_three :
  (consume [false, true, false] (fun _ => false) none "context" "payload").deliveries =
   [⟨1, some "context", some "payload", false⟩, ⟨0, some "context", some "payload", false⟩,
    ⟨2, some "context", some "payload", true⟩] ∧
  ∀ d ∈ (consume [false, true, false] (fun _ => false) none "context" "payload").deliveries,
   d.context = some "context" ∧ d.payload = some "payload" ∧
    (d.moved = true ↔ (order [false, true, false]).getLast? = some d.branch) :=
 ⟨rfl,((split_delivers [false,true,false] (fun _=>false) none "context" "payload").2 _ rfl).2.2.1⟩

end ServiceLib.SplitDispatch
