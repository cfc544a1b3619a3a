import ServiceLib.JoinStorageCurrent

set_option autoImplicit false

/-!
# The join operators

`Join` and `MultiJoin` hand every value to the join storage with the index of its side and
its type erased. The callback they pass looks whether the sides it needs have values,
restores the types and calls the user's function; it only reads the lists.
-/
namespace ServiceLib.JoinOperator
open Generations JoinStorage JoinStorageItems JoinStorageKeys JoinStorageCurrent Transition Function List Option

inductive JoinType
 | inner
 | left
 | right
 | outer
deriving DecidableEq

inductive Operator (Ty:Type)
 | join (type:JoinType) (left right:Ty)
 | multiJoin (left:Ty) (others:List Ty)

def Operator.types {Ty:Type} : Operator Ty → List Ty
 | .join _ left right => [left,right]
 | .multiJoin left others => left :: others

abbrev Any {Ty:Type} (Val:Ty → Type) := Σ t,Val t

variable {Ty:Type} {Val:Ty → Type} {K:Type}

structure Captured (K:Type) where
 context : Context
 key : K

abbrev Typed (op:Operator Ty) (Val:Ty → Type) :=
 (n:Fin op.types.length) → List (Val (op.types.get n))

def hasSide {α:Type} (values:List (List α)) (n:ℕ) : Bool :=
 match values[n]? with
 | some side => !side.isEmpty
 | none => false

def Operator.canCall {α:Type} : Operator Ty → List (List α) → Bool
 | .join .inner _ _,values => hasSide values 0 && hasSide values 1
 | .join .left _ _,values => hasSide values 0
 | .join .right _ _,values => hasSide values 1
 | .join .outer _ _,_ => true
 | .multiJoin _ _,values => hasSide values 0

section Casts

variable [DecidableEq Ty]

def anyCast (t:Ty) (value:Any Val) : Option (Val t) :=
 if h : value.1 = t then some (h ▸ value.2) else none

def copyValues (t:Ty) (values:List (List (Any Val))) (n:ℕ) : Option (List (Val t)) :=
 match values[n]? with
 | some side => side.mapM (anyCast t)
 | none => some []

def makeTypedValues (op:Operator Ty) (values:List (List (Any Val))) : Option (Typed op Val) :=
 if h : ∀ n : Fin op.types.length,(copyValues (op.types.get n) values n).isSome then
  some fun n=>(copyValues (op.types.get n) values n).get (h n)
 else none

/-- What the callback does with the lists: it returns false, a cast throws, or it calls
the user's function. -/
inductive Reply (op:Operator Ty) (Val:Ty → Type)
 | declined
 | badCast
 | called (values:Typed op Val)

def Operator.callback (op:Operator Ty) (values:List (List (Any Val))) : Reply op Val :=
 if op.canCall values then
  match makeTypedValues op values with
  | some typed => .called typed
  | none => .badCast
 else .declined

end Casts

inductive Answer
 | returned (result:Bool)
 | threw
deriving DecidableEq

def Reply.outcome {op:Operator Ty} (values:List (List (Any Val))) (answer:Answer) :
  Reply op Val → Outcome (Any Val)
 | .declined => .returned false values
 | .badCast => .threw values
 | .called _ =>
  match answer with
  | .returned result => .returned result values
  | .threw => .threw values

abbrev Storage (K:Type) (Val:Ty → Type) := State K (Any Val) (Captured K)

/-- `consume c context key side value` is call `c` of `consume` (side 0) or `consumeRight`;
in `invoke c answer` the storage's call `c` runs its callback, where the user's
function, if it is called, ends with `answer`. -/
inductive Label (op:Operator Ty) (K:Type) (Val:Ty → Type)
 | consume (c:ℕ) (context:Context) (key:K) (side:Fin op.types.length)
  (value:Val (op.types.get side))
 | invoke (c:ℕ) (answer:Answer)
 | storage (l:JoinStorage.Label K (Any Val) (Captured K))

def atArrival : Call K (Any Val) (Captured K) → Bool
 | .callback _ _ => true
 | _ => false

/-- The callback that call `c` runs: its own at an arrival, the item's at an expiry. -/
def function (s:Storage K Val) (c:ℕ) : Option (Captured K) :=
 match s.calls c with
 | .callback j _ => some j.callback
 | .expiry _ i => (s.items i).callback
 | .expireCallback e => (s.items e.item).callback
 | _ => none

section Steps

variable [DecidableEq Ty]

/-- The step of the storage. Its own steps are those that neither begin a `joinValue` nor
run a callback. -/
def toStorage (op:Operator Ty) (s:Storage K Val) :
  Label op K Val → Option (JoinStorage.Label K (Any Val) (Captured K))
 | .consume c context key side value =>
  some (.joinValue c context key side ⟨_,value⟩ (some ⟨context,key⟩))
 | .invoke c answer =>
  (running (s.calls c)).map fun i =>
   let values:=(s.items i).values
   let outcome:=(op.callback values).outcome values answer
   if atArrival (s.calls c) then .callback c outcome else .expiry c outcome
 | .storage (.joinValue ..) | .storage (.callback ..) | .storage (.expiry ..) => none
 | .storage l => some l

def step [DecidableEq K] (op:Operator Ty) (s:Storage K Val) (l:Label op K Val) :
  Option (Storage K Val) :=
 (toStorage op s l).bind (JoinStorage.step s)

structure UserCall (op:Operator Ty) (K:Type) (Val:Ty → Type) where
 item : ℕ
 context : Context
 key : K
 values : Typed op Val
 answer : Answer
 arrival : Bool

def userCalls (op:Operator Ty) (s:Storage K Val) : Label op K Val → List (UserCall op K Val)
 | .invoke c answer =>
  match running (s.calls c),function s c with
  | some i,some f =>
   match op.callback (s.items i).values with
   | .called values => [⟨i,f.context,f.key,values,answer,atArrival (s.calls c)⟩]
   | _ => []
  | _,_ => []
 | _ => []

def arrivals (op:Operator Ty) (s:Storage K Val) (l:Label op K Val) (s':Storage K Val) :
  List (Acceptance K (Any Val) (Captured K)) :=
 match toStorage op s l with
 | some l => accepted s l s'
 | none => []

/-- The items that a step ends: the function returned true at an arrival, the item expires,
or the storage is stopped. -/
def endedItems (op:Operator Ty) (s:Storage K Val) (l:Label op K Val) (s':Storage K Val) :
  List (ℕ × Ending) :=
 match toStorage op s l with
 | some l => endings s l s'
 | none => []

end Steps

def Requires : (op:Operator Ty) → Typed op Val → Prop
 | .join .inner _ _,values => values ⟨0,Nat.zero_lt_succ 1⟩ ≠ [] ∧ values ⟨1,Nat.lt_succ_self 1⟩ ≠ []
 | .join .left _ _,values => values ⟨0,Nat.zero_lt_succ 1⟩ ≠ []
 | .join .right _ _,values => values ⟨1,Nat.lt_succ_self 1⟩ ≠ []
 | .join .outer _ _,values => values ⟨0,Nat.zero_lt_succ 1⟩ ≠ [] ∨ values ⟨1,Nat.lt_succ_self 1⟩ ≠ []
 | .multiJoin _ _,values => values ⟨0,Nat.zero_lt_succ _⟩ ≠ []

lemma hasSide_iff {α:Type} (values:List (List α)) (n:ℕ) :
  hasSide values n=true↔values.getD n []≠[] := by
 unfold hasSide
 rw[getD_eq_getElem?_getD]
 cases values[n]? with
 | none => simp
 | some side => simp

section Casts

variable [DecidableEq Ty]

lemma anyCast_eq_some {t:Ty} {value:Any Val} {v:Val t} (h:anyCast t value=some v) :
  Sigma.mk t v=value := by
 unfold anyCast at h
 split at h
 · next ht =>
   subst ht
   cases h
   rfl
 · cases h

lemma mapM_anyCast {t:Ty} {side:List (Any Val)} {typed:List (Val t)}
  (h:side.mapM (anyCast t)=some typed) : typed.map (Sigma.mk t)=side := by
 induction side generalizing typed with
 | nil =>
  cases h
  rfl
 | cons value side ih =>
  rw[mapM_cons] at h
  obtain ⟨v,hv,h⟩:=bind_eq_some_iff.mp h
  obtain ⟨rest,hrest,h⟩:=bind_eq_some_iff.mp h
  cases h
  rw[map_cons,anyCast_eq_some hv,ih hrest]

lemma copyValues_eq_some {t:Ty} {values:List (List (Any Val))} {n:ℕ} {typed:List (Val t)}
  (h:copyValues t values n=some typed) : typed.map (Sigma.mk t)=values.getD n [] := by
 unfold copyValues at h
 rw[getD_eq_getElem?_getD]
 cases hside:values[n]? with
 | none =>
  rw[hside] at h
  cases h
  rfl
 | some side =>
  rw[hside] at h
  exact mapM_anyCast h

lemma callback_called {op:Operator Ty} {values:List (List (Any Val))} {typed:Typed op Val}
  (h:op.callback values=.called typed) :
  op.canCall values=true∧∀ n,(typed n).map (Sigma.mk _)=values.getD n [] := by
 unfold Operator.callback at h
 split at h
 · next hcan =>
   refine ⟨hcan,fun n=>copyValues_eq_some ?_⟩
   unfold makeTypedValues at h
   split at h
   · next typed' htyped =>
     cases h
     split at htyped
     · cases htyped
       exact (some_get _).symm
     · cases htyped
   · cases h
 · cases h

lemma requires_of_called {op:Operator Ty} {values:List (List (Any Val))} {typed:Typed op Val}
  (h:op.callback values=.called typed) (hany:∃ n,typed n≠[]) : Requires op typed := by
 obtain ⟨hcan,htyped⟩:=callback_called h
 have hside:∀ n,hasSide values n=true→∀ hn,typed ⟨n,hn⟩≠[]:=by
  intro n hhas hn hnil
  refine (hasSide_iff values n).mp hhas ?_
  rw[← htyped ⟨n,hn⟩,hnil]
  rfl
 cases op with
 | multiJoin left others => exact hside 0 hcan _
 | join type left right =>
  cases type with
  | inner =>
   obtain ⟨hleft,hright⟩:=Bool.and_eq_true_iff.mp hcan
   exact ⟨hside 0 hleft _,hside 1 hright _⟩
  | left => exact hside 0 hcan _
  | right => exact hside 1 hcan _
  | outer =>
   obtain ⟨⟨n,hn⟩,hne⟩:=hany
   match n,hn with
   | 0,_ => exact .inl hne
   | 1,_ => exact .inr hne
   | n+2,hn => exact absurd hn (by simp[Operator.types])

end Casts

def join : Call K (Any Val) (Captured K) → Option (Join K (Any Val) (Captured K))
 | .find j | .lock j _ _ | .moveToCurrent j _ | .callback j _ | .removeJoined j _ | .expiry j _
 | .removeExpired j _ | .returned j => some j
 | _ => none

structure Fits (op:Operator Ty) (j:Join K (Any Val) (Captured K)) : Prop where
 key : j.callback.key = j.key
 side : j.index < op.types.length

structure Fitting (op:Operator Ty) (s:Storage K Val)
  (seen:List (Acceptance K (Any Val) (Captured K))) : Prop where
 calls : ∀ c j,join (s.calls c) = some j → Fits op j
 items : ∀ i f,(s.items i).callback = some f → (s.items i).key = some f.key
 seen : ∀ a ∈ seen,Fits op a.join

section Moves

variable [DecidableEq K] {s s':Storage K Val} {l:JoinStorage.Label K (Any Val) (Captured K)}

omit [DecidableEq K] in
lemma join_update {c d:ℕ} {call:Call K (Any Val) (Captured K)}
  {j:Join K (Any Val) (Captured K)} {made:Prop}
  (h:join (update s.calls c call d)=some j)
  (hcall:join call=some j→ join (s.calls c)=some j∨made) :
  join (s.calls d)=some j∨made := by
 rw[update_apply] at h
 split at h
 · next hd =>
   rw[hd]
   exact hcall h
 · exact .inl h

lemma join_move (h:Move s l s') {c:ℕ} {j:Join K (Any Val) (Captured K)}
  (hj:join (s'.calls c)=some j) : join (s.calls c)=some j ∨
   l=.joinValue c j.context j.key j.index j.value (some j.callback) := by
 cases h with
 | quiet hl hrun hstill hhandlers => exact .inl hj
 | rotate h | timer h => exact .inl hj
 | @begun d context key index value f h =>
  change join (update s.calls d _ c)=some j at hj
  rw[update_apply] at hj
  split at hj
  · next hd =>
    cases hj
    exact .inr (by rw[hd])
  · exact .inl hj
 | refused h | notRunning e h hrun | threw values h | expiryThrew values h | expireReturned outcome h
 | removedEvicted h | expire h he | stale h | evicts h hfree hp | stopped h hstop
 | stoppedAgain h hstop | marked h hi hfree =>
  exact join_update hj fun hnone=>by cases hnone
 | found h hrun hi | created h hrun hcur hprev | retried h hp | expires h hfree hp hdue
 | evaluates h hfree hp | arms deadline h hfree hp | renews deadline h hfree hp | moved h
 | joined values h | kept values h | expiryReturned result values h | removedJoined h
 | removedExpired h =>
  refine join_update hj fun hsome=>.inl ?_
  rw[h]
  exact hsome

lemma callback_move (h:Move s l s') {i:ℕ} {f:Captured K}
  (hf:(s'.items i).callback=some f) : (s.items i).callback=some f ∨
   ∃ c j,join (s.calls c)=some j∧j.callback=f∧(s'.items i).key=some j.key := by
 have hsame:∀ {x:ℕ} {item:Item K (Any Val) (Captured K)},
  (update s.items x item i).callback=some f →
  item.callback=(s.items x).callback→(s.items i).callback=some f:=by
  intro x item hupdated hitem
  rw[← apply_update_same Item.callback s.items hitem i]
  exact hupdated
 cases h with
 | quiet hl hrun hstill hhandlers => exact .inl hf
 | created h hrun hcur hprev =>
  change (update s.items s.next _ i).callback=some f at hf
  rw[update_apply] at hf
  split at hf
  · next hi =>
    refine .inr ⟨_,_,by rw[h]; rfl,some.inj hf,?_⟩
    change (update s.items s.next _ i).key=_
    rw[hi,update_self]
  · exact .inl hf
 | timer h | expires h hfree hp hdue | evaluates h hfree hp | arms deadline h hfree hp
 | renews deadline h hfree hp | moved h | joined values h | kept values h | threw values h
 | expiryReturned result values h | expiryThrew values h | expireReturned outcome h
 | evicts h hfree hp | marked h hi hfree =>
  exact .inl (hsame hf rfl)
 | _ => exact .inl hf

omit [DecidableEq K] in
lemma join_of_accepted {a:Acceptance K (Any Val) (Captured K)} (ha:a∈accepted s l s') :
  join (s'.calls a.call)=some a.join := by
 have haccepts:∀ c,a∈accepts c (s'.calls c)→ join (s'.calls a.call)=some a.join:=by
  intro c hc
  unfold accepts at hc
  split at hc
  · next j i hcall =>
    obtain rfl:=mem_singleton.mp hc
    rw[hcall]
    rfl
  · cases hc
 cases l with
 | lock c | moveToCurrent c => exact haccepts c ha
 | _ => cases ha

lemma fitting_move {op:Operator Ty} {seen:List (Acceptance K (Any Val) (Captured K))}
  (hn:Named s) (hr:Roles s) (hs:Fitting op s seen)
  (hmade:∀ c j,l=.joinValue c j.context j.key j.index j.value (some j.callback)→ Fits op j)
  (h:Move s l s') : Fitting op s' (seen++accepted s l s') := by
 have hcalls:∀ c j,join (s'.calls c)=some j→ Fits op j:=by
  intro c j hj
  rcases join_move h hj with hj | hj
  · exact hs.calls c j hj
  · exact hmade c j hj
 refine ⟨hcalls,fun i f hf=>?_,fun a ha=>?_⟩
 · rcases callback_move h hf with hf | ⟨c,j,hj,rfl,hkey⟩
   · have hkey:=hs.items i f hf
     rw[((account_move hn hr h).items i (hn.lt hkey)).key]
     exact hkey
   · rw[hkey,(hs.calls c j hj).key]
 · rcases mem_append.mp ha with ha | ha
   · exact hs.seen a ha
   · exact hcalls a.call a.join (join_of_accepted ha)

end Moves

structure Run (op:Operator Ty) [DecidableEq K] (s:Storage K Val)
  (seen:List (Acceptance K (Any Val) (Captured K))) : Prop where
 items : Items s
 accepting : Accepting s seen
 sides : Sides s seen
 current : Current s
 sorted : Sorted seen
 armed : Armed s seen
 fitting : Fitting op s seen

section Steps

variable [DecidableEq Ty] [DecidableEq K] {op:Operator Ty} {s s':Storage K Val}

lemma step_storage {l:Label op K Val} (hstep:step op s l=some s') :
  ∃ l',toStorage op s l=some l'∧JoinStorage.step s l'=some s' :=
 bind_eq_some_iff.mp hstep

omit [DecidableEq Ty] [DecidableEq K] in
lemma outcome_values (values:List (List (Any Val))) (answer:Answer) (reply:Reply op Val) :
  (reply.outcome values answer).values=values := by
 cases reply with
 | declined | badCast => rfl
 | called typed =>
  cases answer with
  | returned result | threw => rfl

omit [DecidableEq K] in
lemma readsOnly_toStorage {l:Label op K Val}
  {l':JoinStorage.Label K (Any Val) (Captured K)} (h:toStorage op s l=some l') :
  ReadsOnly s l' := by
 cases l with
 | consume c context key side value =>
  cases h
  trivial
 | invoke c answer =>
  obtain ⟨i,hi,h⟩:=map_eq_some_iff.mp h
  have hreads:∀ x,running (s.calls c)=some x →
   ((op.callback (s.items i).values).outcome (s.items i).values answer).values =
    (s.items x).values:=by
   intro x hx
   obtain rfl:=some.inj (hi.symm.trans hx)
   exact outcome_values _ _ _
  dsimp only at h
  split at h
  · cases h
    exact hreads
  · cases h
    exact hreads
 | storage l =>
  cases l with
  | joinValue c context key index value callback => cases h
  | callback c outcome | expiry c outcome => cases h
  | _ =>
   cases h
   trivial

omit [DecidableEq K] in
lemma fits_toStorage {l:Label op K Val} {c:ℕ} {j:Join K (Any Val) (Captured K)}
  (h:toStorage op s l=some (.joinValue c j.context j.key j.index j.value (some j.callback))) :
  Fits op j := by
 cases l with
 | consume d context key side value =>
  simp only[toStorage,Option.some.injEq,JoinStorage.Label.joinValue.injEq] at h
  obtain ⟨-,-,hkey,hindex,-,hcallback⟩:=h
  exact ⟨by rw[← hcallback,← hkey],by rw[← hindex]; exact side.isLt⟩
 | invoke d answer =>
  obtain ⟨i,-,h⟩:=map_eq_some_iff.mp h
  dsimp only at h
  split at h <;> cases h
 | storage l => cases l <;> cases h

lemma run_step {l:Label op K Val} {seen:List (Acceptance K (Any Val) (Captured K))}
  (hs:Run op s seen) (hstep:step op s l=some s') :
  Run op s' (seen++arrivals op s l s') := by
 obtain ⟨l',hl,hstep'⟩:=step_storage hstep
 have hmove:=move_of_step hstep'
 have harrivals:arrivals op s l s'=accepted s l' s':=by
  unfold arrivals
  rw[hl]
 rw[harrivals]
 exact
  { items := items_step hs.items hstep'
    accepting := accepting_move hs.items.named hs.items.roles hs.accepting hmove
    sides := sides_move hs.items.named hs.items.roles hs.sides (readsOnly_toStorage hl) hmove
    current := current_move hs.items.named hs.items.roles hs.current hmove
    sorted := sorted_move hs.items.named hs.items.roles hs.current hs.accepting hs.sorted hmove
    armed := armed_move hs.items.named hs.armed hmove
    fitting := fitting_move hs.items.named hs.items.roles hs.fitting
     (fun c j hj=>fits_toStorage (hl.trans (congrArg some hj))) hmove }

omit [DecidableEq Ty] in
lemma run_initial (op:Operator Ty) (config:JoinStorageConfig) (metricsEnabled:Bool) :
  Run op (.initial config metricsEnabled : Storage K Val) [] :=
 { items := items_initial config metricsEnabled
   accepting := accepting_initial config metricsEnabled
   sides := fun _ _=>rfl
   current := current_initial config metricsEnabled
   sorted := List.Pairwise.nil
   armed := armed_initial config metricsEnabled
   fitting := ⟨fun _ _ h=>(by cases h),fun _ _ h=>(by cases h),fun _ h=>(by cases h)⟩ }

lemma run_exec {seen:List (Acceptance K (Any Val) (Captured K))} (hs:Run op s seen)
  {labels:List (Label op K Val)} (hrun:exec (step op) s labels=some s') :
  Run op s' (seen++observe (step op) (arrivals op) s labels) :=
 exec_observe_from (I := Run op) (fun _ l _ _ hs _ hstep=>run_step (l := l) hs hstep) hs
  (along_true s labels) hrun

lemma processed_exec {seen:List (Acceptance K (Any Val) (Captured K))} (hs:Run op s seen)
  {i:ℕ} {k:K} (hk:(s.items i).key=some k) (hp:(s.items i).processed=false)
  {labels:List (Label op K Val)} (hrun:exec (step op) s labels=some s')
  (hends:∀ e∈observe (step op) (endedItems op) s labels,e.1≠i) :
  (s'.items i).key=some k∧(s'.items i).processed=false := by
 have hinv:=exec_observe (endedItems op)
  (I := fun t ends=>Items t∧(t.items i).key=some k ∧
   ((t.items i).processed=true→∃ e∈ends,e.1=i))
  (fun t l t' ends ht hstep=>by
   obtain ⟨l',hl,hstep'⟩:=step_storage hstep
   have hends:endedItems op t l t'=endings t l' t':=by
    unfold endedItems
    rw[hl]
   have hitem:=(account_move ht.1.named ht.1.roles (move_of_step hstep')).items i
    (ht.1.named.lt ht.2.1)
   refine ⟨items_step ht.1 hstep',hitem.key.trans ht.2.1,fun hp=>?_⟩
   rcases hitem.processed.mp hp with hp | hp
   · obtain ⟨e,he,hei⟩:=ht.2.2 hp
     exact ⟨e,mem_append_left _ he,hei⟩
   · obtain ⟨e,he,hei⟩:=mem_map.mp hp
     exact ⟨e,mem_append_right _ (hends▸he),hei⟩)
  ⟨hs.items,hk,fun hyes=>by rw[hp] at hyes; cases hyes⟩ hrun
 refine ⟨hinv.2.1,?_⟩
 by_contra hyes
 obtain ⟨e,he,hei⟩:=hinv.2.2 (Bool.not_eq_false _▸hyes)
 exact hends e he hei

lemma no_arrival_of_processed {seen:List (Acceptance K (Any Val) (Captured K))}
  (hs:Run op s seen) {i:ℕ} {k:K} (hk:(s.items i).key=some k)
  (hp:(s.items i).processed=true) {labels:List (Label op K Val)}
  (hrun:exec (step op) s labels=some s') :
  ∀ a∈observe (step op) (arrivals op) s labels,a.item≠i := by
 have hinv:=exec_observe (arrivals op)
  (I := fun t later=>Items t∧(t.items i).key=some k∧(t.items i).processed=true ∧
   ∀ a∈later,a.item≠i)
  (fun t l t' later ht hstep=>by
   obtain ⟨l',hl,hstep'⟩:=step_storage hstep
   have hmove:=move_of_step hstep'
   have hitem:=(account_move ht.1.named ht.1.roles hmove).items i (ht.1.named.lt ht.2.1)
   refine ⟨items_step ht.1 hstep',hitem.key.trans ht.2.1,hitem.processed.mpr (.inl ht.2.2.1),
    fun a ha=>?_⟩
   rcases mem_append.mp ha with ha | ha
   · exact ht.2.2.2 a ha
   · have harrivals:arrivals op t l t'=accepted t l' t':=by
      unfold arrivals
      rw[hl]
     rw[harrivals] at ha
     rintro rfl
     rcases accepted_move ht.1.named ht.1.roles hmove with hnone | ⟨b,hone,-,hopen⟩
     · rw[hnone] at ha
       cases ha
     · rw[hone] at ha
       obtain rfl:=mem_singleton.mp ha
       rw[ht.2.2.1] at hopen
       cases hopen)
  ⟨hs.items,hk,hp,fun _ ha=>by cases ha⟩ hrun
 exact hinv.2.2.2

omit [DecidableEq Ty] [DecidableEq K] in
lemma sideValues_eq (seen:List (Acceptance K (Any Val) (Captured K))) (i n:ℕ) :
  sideValues seen i n =
   ((seen.filter fun a=>a.item=i).filter fun a=>a.join.index=n).map fun a=>a.join.value := by
 induction seen with
 | nil => rfl
 | cons a seen ih =>
  rw[sideValues,filterMap_cons] at *
  by_cases hi:a.item=i
  · by_cases hn:a.join.index=n
    · simp[hi,hn,ih]
    · simp[hi,hn,ih]
  · simp[hi,ih]

lemma userCall_spec {seen:List (Acceptance K (Any Val) (Captured K))} (hs:Run op s seen)
  {l:Label op K Val} {u:UserCall op K Val} (hu:u∈userCalls op s l) :
  ∃ c,l=.invoke c u.answer∧running (s.calls c)=some u.item ∧
   u.arrival=atArrival (s.calls c)∧(s.items u.item).key=some u.key∧Open s u.item ∧
   op.callback (s.items u.item).values=.called u.values := by
 cases l with
 | consume c context key side value => cases hu
 | storage l => cases hu
 | invoke c answer =>
  simp only[userCalls] at hu
  split at hu
  · next i f hi hf =>
    split at hu
    · next values hvalues =>
      obtain rfl:=mem_singleton.mp hu
      refine ⟨c,rfl,hi,rfl,?_,?_,hvalues⟩
      · unfold function at hf
        split at hf
        · next j x hcall =>
          rw[hcall] at hi
          cases hi
          cases hf
          rw[(hs.fitting.calls c j (by rw[hcall]; rfl)).key]
          exact hs.items.named.calls c _ _ (by rw[hcall]; rfl)
        · next j x hcall =>
          rw[hcall] at hi
          cases hi
          exact hs.fitting.items _ _ hf
        · next e hcall =>
          rw[hcall] at hi
          cases hi
          exact hs.fitting.items _ _ hf
        · cases hf
      · rcases running_role hi with hholds | hends
        · refine .inl (hs.items.roles.unprocessed i ?_)
          rw[(hs.items.roles.holds c i).mp hholds]
          exact some_ne_none c
        · exact .inr ⟨c,hends⟩
    · cases hu
  · cases hu

lemma invoke_step {seen:List (Acceptance K (Any Val) (Captured K))} (hs:Run op s seen)
  {c i:ℕ} {answer:Answer} {values:Typed op Val} {k:K} (hi:running (s.calls c)=some i)
  (hk:(s.items i).key=some k) (hcalled:op.callback (s.items i).values=.called values)
  (hstep:step op s (.invoke c answer)=some s') :
  arrivals op s (.invoke c answer) s'=[]∧(s'.items i).key=some k ∧
   ((s'.items i).processed=true ↔
    atArrival (s.calls c)=false∨answer=.returned true) := by
 obtain ⟨l',hl,hstep'⟩:=step_storage hstep
 have hitem:=(account_move hs.items.named hs.items.roles (move_of_step hstep')).items i
  (hs.items.named.lt hk)
 have harrivals:arrivals op s (.invoke c answer) s'=accepted s l' s':=by
  unfold arrivals
  rw[hl]
 rw[harrivals,hitem.key,hitem.processed]
 simp only[toStorage,hi,map_some,hcalled] at hl
 cases hat:atArrival (s.calls c) with
 | false =>
  -- the item was marked processed before its expiry callback began
  have hends:(s.calls c).ends=some i:=by
   rcases running_role hi with hholds | hends
   · cases hcall:s.calls c with
     | callback j x =>
      rw[hcall] at hat
      cases hat
     | _ =>
      rw[hcall] at hi hholds
      cases hi <;> cases hholds
   · exact hends
  rw[hat] at hl
  cases hl
  exact ⟨rfl,hk,iff_of_true (.inl (hs.items.roles.ends c i hends)) (.inl rfl)⟩
 | true =>
  have hcall:∃ j,s.calls c=.callback j i:=by
   cases hcall:s.calls c with
   | callback j x =>
    rw[hcall] at hi
    cases hi
    exact ⟨j,rfl⟩
   | _ =>
    rw[hcall] at hat
    cases hat
  obtain ⟨j,hcall⟩:=hcall
  have hopen:(s.items i).processed=false:=(hs.items.roles.held hcall rfl).2
  rw[hat] at hl
  cases hl
  refine ⟨rfl,hk,?_⟩
  cases answer with
  | threw => simp[Reply.outcome,endings,hopen]
  | returned result =>
   cases result with
   | true => simp[Reply.outcome,endings,hcall]
   | false => simp[Reply.outcome,endings,hopen]

def history (op:Operator Ty) (config:JoinStorageConfig) (metricsEnabled:Bool)
  (labels:List (Label op K Val)) : List (Acceptance K (Any Val) (Captured K)) :=
 observe (step op) (arrivals op) (.initial config metricsEnabled) labels

/-- In every run, each call of the user's function: it has values on the sides the operator
requires; its values are exactly those accepted for its key since the key's current
item was made, split by side and in order. When it returned true, or was made by an
expiry, every later value of the key goes to an item that had none before. When it
returned false at an arrival, its values stay in the lists until the item ends, and
every value of the key that is accepted until then joins them. -/
theorem join_function_calls (op : Operator Ty) (config : JoinStorageConfig) (metricsEnabled : Bool)
  (labels : List (Label op K Val)) (s s' : Storage K Val) (l : Label op K Val) (u : UserCall op K Val)
  (hrun : exec (step op) (.initial config metricsEnabled) labels = some s)
  (hstep : step op s l = some s') (hu : u ∈ userCalls op s l) :
  Requires op u.values ∧
  (∃ old current, ((history op config metricsEnabled labels).filter fun a => a.join.key = u.key) =
    old ++ current ∧
   (∀ a ∈ old, a.item ≠ u.item) ∧ (∀ a ∈ current, a.item = u.item) ∧
   ∀ n, (u.values n).map (Sigma.mk _) =
    (current.filter fun a => a.join.index = n.val).map fun a => a.join.value) ∧
  (u.answer = .returned true ∨ u.arrival = false →
   ∀ more t, exec (step op) s' more = some t →
    ∀ a ∈ observe (step op) (arrivals op) s' more, a.join.key = u.key →
     ∀ b ∈ history op config metricsEnabled labels, b.item ≠ a.item) ∧
  (u.answer = .returned false → u.arrival = true →
   ∀ more t, exec (step op) s' more = some t →
    (∀ e ∈ observe (step op) (endedItems op) s' more, e.1 ≠ u.item) →
    (∀ n, (u.values n).map (Sigma.mk _) <+: (t.items u.item).values.getD n []) ∧
    ∀ a ∈ observe (step op) (arrivals op) s' more, a.join.key = u.key → a.item = u.item) := by
 have hs:Run op s (history op config metricsEnabled labels):=by
  have h:=run_exec (run_initial op config metricsEnabled) hrun
  rwa[nil_append] at h
 generalize history op config metricsEnabled labels=seen at hs ⊢
 obtain ⟨c,rfl,hi,harrival,hk,hopen,hcalled⟩:=userCall_spec hs hu
 obtain ⟨hnone,hk',hprocessed⟩:=invoke_step hs hi hk hcalled hstep
 have hs':Run op s' seen:=by
  have h:=run_step hs hstep
  rwa[hnone,append_nil] at h
 have hvalues:∀ n,(u.values n).map (Sigma.mk _)=sideValues seen u.item n:=fun n =>
  ((callback_called hcalled).2 n).trans (hs.sides u.item n)
 -- the item has accepted a value
 obtain ⟨first,hfirst,hitem⟩:=hs.armed.ran c u.item hi
 have hfirstKey:first.join.key=u.key:=by
  have hkey:=hs.accepting.named first hfirst
  rw[hitem,hk] at hkey
  exact (some.inj hkey).symm
 -- a later value of the key does not go to an older item
 have hlater:∀ {more t},exec (step op) s' more=some t →
  ∀ a∈observe (step op) (arrivals op) s' more,a.join.key=u.key→ u.item≤a.item:=by
  intro more t hmore a ha hkey
  have hsorted:=(run_exec hs' hmore).sorted
  have hle:=(pairwise_append.mp hsorted).2.2 first hfirst a ha (hfirstKey.trans hkey.symm)
  rwa[hitem] at hle
 refine ⟨requires_of_called hcalled ?_,?_,fun hended more t hmore a ha hkey b hb hsame=>?_,
  fun hfalse hat more t hmore hends=>⟨fun n=>?_,fun a ha hkey=>?_⟩⟩
 · have hside:=(hs.fitting.seen first hfirst).side
   refine ⟨⟨first.join.index,hside⟩,fun hnil=>?_⟩
   have hempty:=hvalues ⟨first.join.index,hside⟩
   rw[hnil,map_nil,sideValues_eq] at hempty
   have hmem:first.join.value∈([] : List (Any Val)):=by
    rw[hempty]
    refine mem_map.mpr ⟨first,mem_filter.mpr ⟨mem_filter.mpr ⟨hfirst,?_⟩,?_⟩,rfl⟩
    · exact decide_eq_true hitem
    · exact decide_eq_true rfl
   cases hmem
 · obtain ⟨old,hsplit,hold⟩:=acceptances_split hs.current hs.accepting hs.sorted hk hopen
   refine ⟨old,_,hsplit,hold,fun a ha=>of_decide_eq_true (mem_filter.mp ha).2,fun n=>?_⟩
   rw[hvalues n,sideValues_eq]
 · have hp:(s'.items u.item).processed=true:=by
    rw[hprocessed,← harrival]
    exact hended.symm
   have hother:=no_arrival_of_processed hs' hk' hp hmore a ha
   have hge:=hlater hmore a ha hkey
   have ht:=run_exec hs' hmore
   have hbkey:b.join.key=u.key:=by
    have hnamed:=ht.accepting.named b (mem_append_left _ hb)
    rw[hsame,ht.accepting.named a (mem_append_right _ ha)] at hnamed
    exact (some.inj hnamed).symm.trans hkey
   have hle:=hs.current.le_of_open hs.accepting hk hopen hb hbkey
   omega
 · have ht:=run_exec hs' hmore
   rw[ht.sides u.item n,sideValues_append,← hvalues n]
   exact prefix_append _ _
 · have hp:(s'.items u.item).processed=false:=by
    rw[← Bool.not_eq_true,hprocessed,← harrival,hat,hfalse]
    simp
   obtain ⟨hkt,hpt⟩:=processed_exec hs' hk' hp hmore hends
   have ht:=run_exec hs' hmore
   have hle:=ht.current.le_of_open ht.accepting hkt (.inl hpt) (mem_append_right _ ha) hkey
   have hge:=hlater hmore a ha hkey
   omega

end Steps

def leftJoin : Operator Unit := .join .left () ()

def arrivingRun : List (Label leftJoin ℕ fun _=>ℕ) :=
 [.storage .start,.consume 0 { deadline := some 0 } 7 ⟨0,Nat.zero_lt_succ 1⟩ (5 : ℕ),
  .storage (.find 0),.storage (.lock 0)]

theorem join_function_calls_arriving : ∃ s s' u,
  exec (step leftJoin) (.initial {} false) arrivingRun = some s ∧
  step leftJoin s (.invoke 0 (.returned false)) = some s' ∧
  u ∈ userCalls leftJoin s (.invoke 0 (.returned false)) ∧ Requires leftJoin u.values :=
 ⟨_,_,_,rfl,rfl,mem_singleton_self _,
  (join_function_calls leftJoin {} false arrivingRun _ _ (.invoke 0 (.returned false)) _ rfl rfl
   (mem_singleton_self _)).1⟩

/-- The item of that value expires, and the function is about to be called again. -/
def expiringRun : List (Label leftJoin ℕ fun _=>ℕ) :=
 arrivingRun ++ [.invoke 0 (.returned false),.storage (.timer 0),.storage (.expire 1 0),
  .storage (.expireLock 1)]

def nextArrival : List (Label leftJoin ℕ fun _=>ℕ) :=
 [.storage (.remove 1),.consume 2 {} 7 ⟨0,Nat.zero_lt_succ 1⟩ (6 : ℕ),.storage (.find 2),
  .storage (.lock 2)]

theorem expiry_call_drops_values : ∃ s s' t u u',
  exec (step leftJoin) (.initial {} false) expiringRun = some s ∧
  step leftJoin s (.invoke 1 (.returned false)) = some s' ∧
  u ∈ userCalls leftJoin s (.invoke 1 (.returned false)) ∧ u.answer = .returned false ∧
  u.values ⟨0, Nat.zero_lt_succ 1⟩ = [(5 : ℕ)] ∧
  exec (step leftJoin) s' nextArrival = some t ∧
  u' ∈ userCalls leftJoin t (.invoke 2 (.returned false)) ∧ u'.key = u.key ∧
  u'.values ⟨0, Nat.zero_lt_succ 1⟩ = [(6 : ℕ)] :=
 ⟨_,_,_,_,_,rfl,rfl,mem_singleton_self _,rfl,rfl,rfl,mem_singleton_self _,rfl,rfl⟩

end ServiceLib.JoinOperator
