import Mathlib.Data.List.Pairwise
import Mathlib.Data.List.Perm.Subperm
import Mathlib.Logic.Relation
import ServiceLib.TopologyConfig

set_option autoImplicit false

/-! # The ids that a build has given -/

namespace ServiceLib.Topology

open StateProgram List

def State.keys (s:State) : List Place :=
 s.assigned.map Prod.fst

def State.edges (s:State) : List Place :=
 s.prepared.map Prod.fst

def State.assign (s:State) (p:Place) (id:ℕ) : State :=
 { s with assigned := (p,id) :: s.assigned }

/-- The ids of the error streams of nodes are negated; the others come from the counter. -/
def Place.counted : Place → Bool
 | .error _ => false
 | _ => true

def Graph.Descends (g:Graph) (n t:ℕ) : Prop :=
 ∃ node,g.nodes[n]? = some node ∧ t ∈ node.descends

def Own (n:ℕ) (p:Place) : Prop :=
 p = .node n ∨ p.owner = some (.node n)

abbrev configured (edge:Option (ConfigId × Output)) : Bool :=
 edge.any fun e=>e.1 ≠ 0

/-- Building node `n` is over: what it descends into has an id and its edges have a caller. -/
structure Complete (g:Graph) (s:State) (n:ℕ) : Prop where
 targets : ∀ t,g.Descends n t → g.place t ∈ s.keys
 outlets : ∀ p,Own n p → configured (g.edge p) → p ∈ s.edges

structure Valid (g:Graph) (id:ℕ) (s:State) : Prop where
 keys_nodup : s.keys.Nodup
 exist : ∀ p ∈ s.keys,p ∈ g.places
 below : ∀ entry ∈ s.assigned,entry.1.counted → 0 < entry.2 ∧ entry.2 < id
 distinct : s.assigned.Pairwise fun a b=>a.1.counted → b.1.counted → a.2 ≠ b.2
 negated : ∀ n v,(Place.error n,v) ∈ s.assigned → ∃ w,(Place.node n,w) ∈ s.assigned ∧
  v = negate w
 owned : ∀ p ∈ s.keys,∀ o,p.owner = some o → o ∈ s.keys
 positive : 0 < id
 count : id ≤ s.assigned.length + 1

variable {s s':State} {p:Place} {v n id:ℕ} {g:Graph}

lemma mem_keys (h:(p,v)∈s.assigned) : p∈s.keys :=
 mem_map.mpr ⟨_,h,rfl⟩

lemma exists_of_mem_keys (h:p∈s.keys) :
  ∃ v,(p,v)∈s.assigned := by
 obtain ⟨entry,hentry,rfl⟩:=mem_map.mp h
 exact ⟨entry.2,hentry⟩

lemma mem_getId (h:p∈s.keys) : (p,s.getId p)∈s.assigned := by
 unfold State.getId
 cases hlookup:s.assigned.lookup p with
 | none =>
  obtain ⟨v,hv⟩:=exists_of_mem_keys h
  have hne:=lookup_eq_none_iff.mp hlookup _ hv
  simp at hne
 | some v =>
  obtain ⟨before,after,heq,-⟩:=lookup_eq_some_iff.mp hlookup
  rw[heq]
  exact mem_append_right _ mem_cons_self

lemma getId_of_not_mem (h:p∉s.keys) : s.getId p=0 := by
 have hnone:s.assigned.lookup p=none:=by
  refine lookup_eq_none_iff.mpr fun entry hentry=>bne_iff_ne.mpr ?_
  rintro rfl
  exact h (mem_keys hentry)
 unfold State.getId
 rw[hnone]
 rfl

lemma mem_places_of_node {node:Node}
  (hn:g.nodes[n]?=some node) (hp:p∈node.places n) : p∈g.places := by
 refine mem_append_right _ (mem_flatMap.mpr ⟨(node,n),?_,hp⟩)
 exact mem_zipIdx_iff_getElem?.mpr hn

lemma mem_places_of_root {k:ℕ} {root:Root}
  (hk:g.roots[k]?=some root) (hp:p∈root.places k) : p∈g.places := by
 refine mem_append_left _ (mem_flatMap.mpr ⟨(root,k),?_,hp⟩)
 exact mem_zipIdx_iff_getElem?.mpr hk

lemma Valid.length_le (h:Valid g id s) :
  s.assigned.length≤g.places.length := by
 have hsub:s.keys.length≤g.places.length:=
  (subperm_of_subset h.keys_nodup h.exist).length_le
 unfold State.keys at hsub
 rwa[length_map] at hsub

lemma Valid.same (h:Valid g id s)
  (hassigned:s'.assigned=s.assigned) : Valid g id s' := by
 have hkeys:s'.keys=s.keys:=congrArg (List.map Prod.fst) hassigned
 exact
  { keys_nodup := hkeys▸h.keys_nodup
    exist := hkeys▸h.exist
    below := hassigned▸h.below
    distinct := hassigned▸h.distinct
    negated := hassigned▸h.negated
    owned := hkeys▸h.owned
    positive := h.positive
    count := hassigned▸h.count }

lemma Valid.assign (h:Valid g id s)
    (hp:p∉s.keys) (hplace:p∈g.places) (hcounted:p.counted)
    (howner:∀ o,p.owner=some o→ o∈s.keys) : Valid g (id+1) (s.assign p id) where
 keys_nodup := nodup_cons.mpr ⟨hp,h.keys_nodup⟩
 exist:=by
  intro q hq
  rcases mem_cons.mp hq with rfl | hq
  · exact hplace
  · exact h.exist q hq
 below:=by
  intro entry hentry hc
  rcases mem_cons.mp hentry with rfl | hentry
  · exact ⟨h.positive,Nat.lt_succ_self id⟩
  · obtain ⟨hpos,hlt⟩:=h.below entry hentry hc
    exact ⟨hpos,Nat.lt_succ_of_lt hlt⟩
 distinct:=by
  refine pairwise_cons.mpr ⟨?_,h.distinct⟩
  intro entry hentry _ hc
  exact Nat.ne_of_gt (h.below entry hentry hc).2
 negated:=by
  intro n v hv
  rcases mem_cons.mp hv with heq | hv
  · rw[← (Prod.mk.inj heq).1] at hcounted
    cases hcounted
  · obtain ⟨w,hw,hvw⟩:=h.negated n v hv
    exact ⟨w,mem_cons_of_mem _ hw,hvw⟩
 owned:=by
  intro q hq o ho
  rcases mem_cons.mp hq with rfl | hq
  · exact mem_cons_of_mem _ (howner o ho)
  · exact mem_cons_of_mem _ (h.owned q hq o ho)
 positive := Nat.succ_pos id
 count := Nat.succ_le_succ h.count

lemma Valid.assign_error {w:ℕ} (h:Valid g id s)
    (hp:Place.error n∉s.keys) (hplace:Place.error n∈g.places)
    (hnode:(Place.node n,w)∈s.assigned) :
    Valid g id (s.assign (.error n) (negate w)) where
 keys_nodup := nodup_cons.mpr ⟨hp,h.keys_nodup⟩
 exist:=by
  intro q hq
  rcases mem_cons.mp hq with rfl | hq
  · exact hplace
  · exact h.exist q hq
 below:=by
  intro entry hentry hc
  rcases mem_cons.mp hentry with rfl | hentry
  · cases hc
  · exact h.below entry hentry hc
 distinct:=by
  refine pairwise_cons.mpr ⟨?_,h.distinct⟩
  intro entry _ hc
  cases hc
 negated:=by
  intro m v hv
  rcases mem_cons.mp hv with heq | hv
  · obtain ⟨hm,rfl⟩:=Prod.mk.inj heq
    obtain rfl:m=n:=Place.error.inj hm
    exact ⟨w,mem_cons_of_mem _ hnode,rfl⟩
  · obtain ⟨w',hw',hvw⟩:=h.negated m v hv
    exact ⟨w',mem_cons_of_mem _ hw',hvw⟩
 owned:=by
  intro q hq o ho
  rcases mem_cons.mp hq with rfl | hq
  · cases ho
    exact mem_cons_of_mem _ (mem_keys hnode)
  · exact mem_cons_of_mem _ (h.owned q hq o ho)
 positive := h.positive
 count := Nat.le_succ_of_le h.count

lemma Valid.negate_eq {w:ℕ} (h:Valid g id s)
  (hw:(Place.node n,w)∈s.assigned) : negate w=2 ^ 64 - w := by
 obtain ⟨hpos,_⟩:=h.below _ hw rfl
 exact Nat.mod_eq_of_lt (by omega)

lemma Valid.counted_inj {q:Place} (h:Valid g id s)
  (hp:(p,v)∈s.assigned) (hq:(q,v)∈s.assigned) (hpc:p.counted) (hqc:q.counted) :
  p=q := by
 by_contra hne
 have hsymm:Std.Symm fun a b : Place×ℕ=>a.1.counted→ b.1.counted→ a.2≠b.2:=
  ⟨fun _ _ hab hb ha=>(hab ha hb).symm⟩
 have hentries:(p,v)≠(q,v):=fun heq=>hne (Prod.mk.inj heq).1
 exact h.distinct.forall hp hq hentries hpc hqc rfl

section Small

variable {g:Graph} (hsmall:g.places.length < 2 ^ 63)

include hsmall

lemma Valid.id_le (h:Valid g id s) : id≤2 ^ 63 := by
 have hcount:=h.count
 have hlength:=h.length_le
 omega

lemma Valid.succId_eq (h:Valid g (id+1) s) : succId id=id+1 := by
 have hid:=h.id_le hsmall
 exact Nat.mod_eq_of_lt (by omega)

lemma Valid.predId_eq (h:Valid g id s) : predId id+1=id := by
 have hid:=h.id_le hsmall
 have hpos:=h.positive
 have hsplit:id+(2 ^ 64 - 1)=(id - 1)+2 ^ 64:=by omega
 unfold predId
 rw[hsplit,Nat.add_mod_right,Nat.mod_eq_of_lt (by omega)]
 omega

lemma Valid.counted_lt {entry:Place×ℕ} (h:Valid g id s)
  (hentry:entry∈s.assigned) (hc:entry.1.counted) : entry.2 < 2 ^ 63 :=
 Nat.lt_of_lt_of_le (h.below entry hentry hc).2 (h.id_le hsmall)

lemma Valid.lt_negated (h:Valid g id s)
  (hv:(Place.error n,v)∈s.assigned) : 2 ^ 63 < v := by
 obtain ⟨w,hw,rfl⟩:=h.negated n v hv
 have hlt:=h.counted_lt hsmall hw rfl
 rw[h.negate_eq hw]
 omega

lemma Valid.nonzero {entry:Place×ℕ} (h:Valid g id s)
  (hentry:entry∈s.assigned) : entry.2≠0 := by
 obtain ⟨p,v⟩:=entry
 by_cases hc:p.counted
 · exact Nat.ne_of_gt (h.below _ hentry hc).1
 · cases p with
   | error n => exact Nat.ne_zero_of_lt (h.lt_negated hsmall hentry)
   | root _ | rootError _ | node _ | branch _ _ => exact absurd rfl hc

lemma Valid.getId_eq_zero_iff (h:Valid g id s) (p:Place) :
  s.getId p=0↔p∉s.keys := by
 by_cases hp:p∈s.keys
 · exact ⟨fun hzero=>absurd hzero (h.nonzero hsmall (mem_getId hp)),fun hnot=>absurd hp hnot⟩
 · exact ⟨fun _=>hp,fun _=>getId_of_not_mem hp⟩

lemma Valid.ids_nodup (h:Valid g id s) :
  (s.assigned.map Prod.snd).Nodup := by
 have hkeys:s.assigned.Pairwise fun a b=>a.1≠b.1:=pairwise_map.mp h.keys_nodup
 refine pairwise_map.mpr ((h.distinct.and hkeys).imp_of_mem ?_)
 rintro ⟨p,v⟩ ⟨q,w⟩ hp hq ⟨hdistinct,hne⟩
 by_cases hpc:p.counted <;> by_cases hqc : q.counted
 · exact hdistinct hpc hqc
 · cases q with
   | error n => exact Nat.ne_of_lt (Nat.lt_trans (h.counted_lt hsmall hp hpc) (h.lt_negated hsmall hq))
   | root _ | rootError _ | node _ | branch _ _ => exact absurd rfl hqc
 · cases p with
   | error n => exact Nat.ne_of_gt (Nat.lt_trans (h.counted_lt hsmall hq hqc) (h.lt_negated hsmall hp))
   | root _ | rootError _ | node _ | branch _ _ => exact absurd rfl hpc
 · cases p with
   | error n =>
    cases q with
    | error m =>
     -- the owners are two nodes, and their ids differ
     obtain ⟨v',hv',rfl⟩:=h.negated n v hp
     obtain ⟨w',hw',rfl⟩:=h.negated m w hq
     have hvlt:=h.counted_lt hsmall hv' rfl
     have hwlt:=h.counted_lt hsmall hw' rfl
     change negate v'≠negate w'
     rw[h.negate_eq hv',h.negate_eq hw']
     intro heq
     obtain rfl:v'=w':=by omega
     exact hne (congrArg Place.error (Place.node.inj (h.counted_inj hv' hw' rfl rfl)))
    | root _ | rootError _ | node _ | branch _ _ => exact absurd rfl hqc
   | root _ | rootError _ | node _ | branch _ _ => exact absurd rfl hpc

end Small

/-- What a call settles about a place it gave an id to: the owner was without an id before the
call, and a node is complete and was reached from one of the targets `T`. -/
structure Settled (g:Graph) (T:ℕ → Prop) (s s':State) (p:Place) : Prop where
 owner : ∀ o,p.owner = some o → o ∉ s.keys
 complete : ∀ m,p = .node m → Complete g s' m
 reached : ∀ m,p = .node m → ∃ t,T t ∧ Relation.ReflTransGen g.Descends t m
 not_root : ∀ k,p ≠ .root k

/-- From `s` to `s'` only places in `own` and places of calls on the targets `T` got an id. -/
structure Grown (g:Graph) (own:Place → Prop) (T:ℕ → Prop) (s s':State) : Prop where
 assigned : s.assigned <:+ s'.assigned
 edges : ∀ p ∈ s.edges,p ∈ s'.edges
 settled : ∀ p ∈ s'.keys,p ∉ s.keys → own p ∨ Settled g T s s' p

variable {own:Place → Prop} {T:ℕ → Prop}

lemma Grown.keys
  (h:Grown g own T s s') (hp:p∈s.keys) : p∈s'.keys := by
 obtain ⟨v,hv⟩:=exists_of_mem_keys hp
 exact mem_keys (h.assigned.subset hv)

lemma Complete.mono
    (h:Complete g s n) (hgrown:Grown g own T s s') : Complete g s' n where
 targets := fun t ht=>hgrown.keys (h.targets t ht)
 outlets := fun p hp hedge=>hgrown.edges p (h.outlets p hp hedge)

lemma Grown.of_same (own:Place→ Prop) (T:ℕ→ Prop)
    (hassigned:s'.assigned=s.assigned) (hedges:∀ p∈s.edges,p∈s'.edges) :
    Grown g own T s s' where
 assigned := hassigned▸suffix_rfl
 edges := hedges
 settled:=by
  intro p hp hnew
  have hkeys:s'.keys=s.keys:=congrArg (List.map Prod.fst) hassigned
  rw[hkeys] at hp
  exact absurd hp hnew

lemma Grown.refl (g:Graph) (own:Place→ Prop) (T:ℕ→ Prop) (s:State) :
  Grown g own T s s :=
 .of_same own T rfl fun _ h=>h

lemma Grown.of_assign (g:Graph) (T:ℕ→ Prop) (s:State)
    (id:ℕ) (hp:own p) : Grown g own T s (s.assign p id) where
 assigned := suffix_cons _ _
 edges := fun _ h=>h
 settled:=by
  intro q hq hnew
  rcases mem_cons.mp hq with rfl | hq
  · exact .inl hp
  · exact absurd hq hnew

lemma Grown.trans {s₁ s₂:State}
    (h:Grown g own T s s₁) (h':Grown g own T s₁ s₂) : Grown g own T s s₂ where
 assigned := h.assigned.trans h'.assigned
 edges := fun p hp=>h'.edges p (h.edges p hp)
 settled:=by
  intro p hp hnew
  by_cases hfirst:p∈s₁.keys
  · rcases h.settled p hfirst hnew with hown | hsettled
    · exact .inl hown
    · refine .inr ⟨hsettled.owner,fun m hm=>?_,hsettled.reached,hsettled.not_root⟩
      exact (hsettled.complete m hm).mono h'
  · rcases h'.settled p hp hfirst with hown | hsettled
    · exact .inl hown
    · refine .inr ⟨fun o ho hmem=>?_,hsettled.complete,hsettled.reached,hsettled.not_root⟩
      exact hsettled.owner o ho (h.keys hmem)

lemma Grown.widen {own':Place→ Prop} {T':ℕ→ Prop}
    (h:Grown g own T s s') (hown:∀ p,own p→ own' p) (hT:∀ t,T t→ T' t) :
    Grown g own' T' s s' where
 assigned := h.assigned
 edges := h.edges
 settled:=by
  intro p hp hnew
  rcases h.settled p hp hnew with hp | hsettled
  · exact .inl (hown p hp)
  · refine .inr ⟨hsettled.owner,hsettled.complete,fun m hm=>?_,hsettled.not_root⟩
    obtain ⟨t,ht,hreach⟩:=hsettled.reached m hm
    exact ⟨t,hT t ht,hreach⟩

lemma Grown.member
  {o:Place} (h:Grown g own T s s') (ho:p.owner=some o) (hmem:o∈s.keys)
  (hnot:¬ own p) (hp:p∉s.keys) : p∉s'.keys := by
 intro hp'
 rcases h.settled p hp' hp with hown | hsettled
 · exact hnot hown
 · exact hsettled.owner o ho hmem

lemma Grown.length_le
  (h:Grown g own T s s') : s.assigned.length≤ s'.assigned.length :=
 h.assigned.length_le

lemma Grown.call (h:Grown g (Own n) (g.Descends n) s s')
    (hn:Place.node n∉s.keys) (hcomplete:Complete g s' n) :
    Grown g (fun _=>False) (·=n) s s' where
 assigned := h.assigned
 edges := h.edges
 settled:=by
  intro p hp hnew
  right
  rcases h.settled p hp hnew with (rfl | howner) | hsettled
  · refine ⟨fun o ho=>(nomatch ho),fun m hm=>?_,fun m hm=>?_,fun k=>nofun⟩
    · obtain rfl:n=m:=Place.node.inj hm
      exact hcomplete
    · exact ⟨n,rfl,by rw[Place.node.inj hm]⟩
  · refine ⟨fun o ho=>?_,fun m hm=>?_,fun m hm=>?_,fun k hk=>?_⟩
    · obtain rfl:Place.node n=o:=Option.some.inj (howner.symm.trans ho)
      exact hn
    · rw[hm] at howner
      cases howner
    · rw[hm] at howner
      cases howner
    · rw[hk] at howner
      cases howner
  · refine ⟨hsettled.owner,hsettled.complete,fun m hm=>?_,hsettled.not_root⟩
    obtain ⟨t,ht,hreach⟩:=hsettled.reached m hm
    exact ⟨n,rfl,hreach.head ht⟩

end ServiceLib.Topology
