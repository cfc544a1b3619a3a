import ServiceLib.TopologyNodes

set_option autoImplicit false

/-! # Building the topology ends, with distinct ids -/

namespace ServiceLib.Topology

open StateProgram List

def OfRoot (k:ℕ) (p:Place) : Prop :=
 p = .root k ∨ p = .rootError k

structure Rooted (g:Graph) (k:ℕ) (root:Root) (s s':State) : Prop where
 grown : Grown g (OfRoot k) (· ∈ root.consumers) s s'
 given : Place.root k ∈ s'.keys
 targets : ∀ t ∈ root.consumers,g.place t ∈ s'.keys
 edges : ∀ p,OfRoot k p → configured (g.edge p) → p ∈ s'.edges

lemma Rooted.mono {g:Graph} {k:ℕ} {root:Root} {own:Place→ Prop} {T:ℕ→ Prop}
  {s s₁ s₂:State} (h:Rooted g k root s s₁) (hgrown:Grown g own T s₁ s₂) :
  Place.root k∈s₂.keys∧(∀ t∈root.consumers,g.place t∈s₂.keys) ∧
   ∀ p,OfRoot k p→configured (g.edge p)→ p∈s₂.edges :=
 ⟨hgrown.keys h.given,fun t ht=>hgrown.keys (h.targets t ht),
  fun p hp hedge=>hgrown.edges p (h.edges p hp hedge)⟩

section Roots

variable {g:Graph} (hsmall:g.places.length < 2 ^ 63)
variable (makeCallerFromEnv:LinkID → Option String) {fuel:ℕ}

include hsmall

lemma rootBuildTopology_wp {k id:ℕ} {root:Root} {s:State}
  (hk:g.roots[k]?=some root) (hvalid:Valid g id s) (hfresh:Place.root k∉s.keys)
  (henough:g.places.length+1≤fuel+s.assigned.length) :
  wp g.Endless (rootBuildTopology g makeCallerFromEnv fuel k root id) s
   (fun r s'=>Valid g (r+1) s'∧Rooted g k root s s') (fun _ s'=>Sound g s') := by
 have hbuild:=nodeBuildTopology_contract hsmall makeCallerFromEnv fuel
 have hclosed:=g.roots_closed root (mem_of_getElem? hk)
 cases root with
 | stream configId output =>
  refine wp_mono (buildTopologyCommon_wp hsmall makeCallerFromEnv configId output hbuild
   hvalid hfresh (mem_places_of_root hk mem_cons_self) rfl (fun _ ho=>nomatch ho)
   hclosed henough) ?_ (fun _ _ hsound=>hsound)
  intro r s' hstream
  refine ⟨hstream.valid,hstream.whole (.inl rfl) (fun _ ht=>ht),hstream.given,
   hstream.target,?_⟩
  rintro p (rfl | rfl) hedge
  · change configured (g.roots[k]?.bind Root.ownEdge) at hedge
    rw[hk] at hedge
    exact hstream.edge (configured_map hedge).1 (configured_map hedge).2
  · change configured (g.roots[k]?.bind Root.errorEdge) at hedge
    rw[hk] at hedge
    cases hedge
 | input configId output error =>
  unfold rootBuildTopology
  rw[wp_bind]
  refine wp_mono (buildTopologyCommon_wp hsmall makeCallerFromEnv configId output hbuild
   hvalid hfresh (mem_places_of_root hk mem_cons_self) rfl (fun _ ho=>nomatch ho)
   (fun t ht=>hclosed t (mem_append_left _ ht)) henough) ?_ (fun _ _ hsound=>hsound)
  intro r s₁ hstream
  have hgrown₁:Grown g (OfRoot k) (·∈(Root.input configId output error).consumers) s s₁:=
   hstream.whole (.inl rfl) fun t ht=>mem_append_left _ ht
  have herror:Place.rootError k∉(s.assign (.root k) id).keys:=by
   intro hmem
   rcases mem_cons.mp hmem with heq | hmem
   · cases heq
   · exact hfresh (hvalid.owned _ hmem _ rfl)
  have herror₁:Place.rootError k∉s₁.keys:=
   hstream.grown.member rfl mem_cons_self not_false herror
  have henough₁:g.places.length+1≤fuel+s₁.assigned.length:=
   Nat.le_trans henough (Nat.add_le_add_left hgrown₁.length_le fuel)
  rw[hstream.valid.succId_eq hsmall]
  refine wp_mono (buildTopologyCommon_wp hsmall makeCallerFromEnv configId error hbuild
   hstream.valid herror₁
   (mem_places_of_root hk (mem_cons_of_mem _ mem_cons_self)) rfl ?_
   (fun t ht=>hclosed t (mem_append_right _ ht)) henough₁) ?_
   (fun _ _ hsound=>hsound)
  · intro o ho
    cases ho
    exact hstream.given
  · intro r' s₂ hstream₂
    have hgrown₂:Grown g (OfRoot k) (·∈(Root.input configId output error).consumers)
     s₁ s₂ := hstream₂.whole (.inr rfl) fun t ht=>mem_append_right _ ht
    refine ⟨hstream₂.valid,hgrown₁.trans hgrown₂,hgrown₂.keys hstream.given,?_,?_⟩
    · intro t ht
      rcases mem_append.mp ht with ht | ht
      · exact hgrown₂.keys (hstream.target t ht)
      · exact hstream₂.target t ht
    · rintro p (rfl | rfl) hedge
      · change configured (g.roots[k]?.bind Root.ownEdge) at hedge
        rw[hk] at hedge
        exact hgrown₂.edges _ (hstream.edge (configured_map hedge).1 (configured_map hedge).2)
      · change configured (g.roots[k]?.bind Root.errorEdge) at hedge
        rw[hk] at hedge
        exact hstream₂.edge (configured_map hedge).1 (configured_map hedge).2

lemma buildRoots_wp (rest:List Root) :
  ∀ k nextId s,(∀ j root,rest[j]?=some root→ g.roots[k+j]?=some root) →
   Valid g (nextId+1) s→(∀ j,k≤j→ Place.root j∉s.keys) →
   g.places.length+1≤fuel+s.assigned.length →
   wp g.Endless (buildRoots g makeCallerFromEnv fuel k rest nextId) s
    (fun _ s'=>Sound g s' ∧
     Grown g (fun p=>∃ j,OfRoot j p) (fun t=>∃ root∈rest,t∈root.consumers) s s' ∧
     ∀ j root,rest[j]?=some root→ Place.root (k+j)∈s'.keys ∧
      (∀ t∈root.consumers,g.place t∈s'.keys) ∧
      ∀ p,OfRoot (k+j) p→configured (g.edge p)→ p∈s'.edges)
    (fun _ s'=>Sound g s') := by
 induction rest with
 | nil =>
  intro k nextId s _ hvalid _ _
  unfold buildRoots
  rw[wp_pure]
  exact ⟨hvalid.sound,.refl g _ _ _,fun j _ h=>nomatch h⟩
 | cons root rest ih =>
  intro k nextId s hroots hvalid hfresh henough
  unfold buildRoots
  rw[wp_bind,hvalid.succId_eq hsmall]
  refine wp_mono (rootBuildTopology_wp hsmall makeCallerFromEnv (hroots 0 root rfl) hvalid
   (hfresh k (Nat.le_refl k)) henough) ?_ (fun _ _ hsound=>hsound)
  rintro r s₁ ⟨hvalid₁,hrooted⟩
  have hroots₁:∀ j root,rest[j]?=some root→ g.roots[k+1+j]?=some root:=by
   intro j root' hj
   have hindex:k+(j+1)=k+1+j:=by omega
   exact hindex▸hroots (j+1) root' hj
  -- a call gives no id to a registered stream
  have hfresh₁:∀ j,k+1≤j→ Place.root j∉s₁.keys:=by
   intro j hj hmem
   rcases hrooted.grown.settled _ hmem (hfresh j (by omega)) with (heq | heq) | hsettled
   · cases heq
     omega
   · cases heq
   · exact hsettled.not_root j rfl
  have henough₁:g.places.length+1≤fuel+s₁.assigned.length:=
   Nat.le_trans henough (Nat.add_le_add_left hrooted.grown.length_le fuel)
  refine wp_mono (ih (k+1) r s₁ hroots₁ hvalid₁ hfresh₁ henough₁) ?_
   (fun _ _ hsound=>hsound)
  rintro _ s₂ ⟨hsound₂,hgrown₂,hrest₂⟩
  have hfirst:Grown g (fun p=>∃ j,OfRoot j p)
   (fun t=>∃ root'∈root::rest,t∈root'.consumers) s s₁:=by
   refine hrooted.grown.widen (fun p hp=>⟨k,hp⟩) fun t ht=>?_
   exact ⟨root,mem_cons_self,ht⟩
  refine ⟨hsound₂,hfirst.trans (hgrown₂.widen (fun _ hp=>hp) ?_),fun j root' hj=>?_⟩
  · rintro t ⟨root',hroot',ht⟩
    exact ⟨root',mem_cons_of_mem _ hroot',ht⟩
  · cases j with
    | zero =>
     obtain rfl:root=root':=Option.some.inj hj
     exact hrooted.mono hgrown₂
    | succ j =>
     have hindex:k+1+j=k+(j+1):=by omega
     exact hindex▸hrest₂ j root' hj

end Roots

/-- A finished build: each node with an id is complete and was reached from a registered
stream, and the registered streams themselves are built. -/
structure Built (g:Graph) (s:State) : Prop where
 sound : Sound g s
 complete : ∀ n,Place.node n ∈ s.keys → Complete g s n
 reached : ∀ n,Place.node n ∈ s.keys → ∃ root ∈ g.roots,∃ t ∈ root.consumers,
  Relation.ReflTransGen g.Descends t n
 roots : ∀ k root,g.roots[k]? = some root → Place.root k ∈ s.keys ∧
  (∀ t ∈ root.consumers,g.place t ∈ s.keys) ∧
  ∀ p,OfRoot k p → configured (g.edge p) → p ∈ s.edges

lemma valid_unassigned (g:Graph) {s:State} (hs:s.assigned=[]) : Valid g 1 s := by
 have hkeys:s.keys=[]:=congrArg (List.map Prod.fst) hs
 exact
  { keys_nodup := hkeys▸nodup_nil
    exist := fun p hp=>absurd hp (hkeys▸not_mem_nil)
    below := fun entry hentry=>absurd hentry (hs▸not_mem_nil)
    distinct := hs▸List.Pairwise.nil
    negated := fun n v hv=>absurd hv (hs▸not_mem_nil)
    owned := fun p hp=>absurd hp (hkeys▸not_mem_nil)
    positive := Nat.one_pos
    count := Nat.le_add_left _ _ }

lemma buildTopology_wp {g:Graph} (hsmall:g.places.length < 2 ^ 63)
  (makeCallerFromEnv:LinkID→ Option String) {fuel:ℕ} {s:State}
  (hfuel:g.places.length+2≤fuel) (hs:s.assigned=[]) :
  wp g.Endless (buildTopology g makeCallerFromEnv fuel) s
   (fun _ s'=>Built g s'∧∀ p∈s.edges,p∈s'.edges) (fun _ s'=>Sound g s') := by
 have hkeys:∀ p,p∉s.keys:=by
  intro p hp
  obtain ⟨v,hv⟩:=exists_of_mem_keys hp
  rw[hs] at hv
  cases hv
 unfold buildTopology
 rw[wp_bind]
 have hall:∀ j root,g.roots[j]?=some root→ g.roots[0+j]?=some root:=by
  intro j root hj
  rwa[Nat.zero_add]
 have henough:g.places.length+1≤fuel+s.assigned.length:=by omega
 refine wp_mono (buildRoots_wp hsmall makeCallerFromEnv g.roots 0 0 s hall
  (valid_unassigned g hs) (fun j _=>hkeys _) henough) ?_ (fun _ _ hsound=>hsound)
 rintro _ s' ⟨hsound,hgrown,hroots⟩
 have hnode:∀ n,Place.node n∈s'.keys→ Settled g
  (fun t=>∃ root∈g.roots,t∈root.consumers) s s' (.node n):=by
  intro n hn
  rcases hgrown.settled _ hn (hkeys _) with ⟨j,heq | heq⟩ | hsettled
  · cases heq
  · cases heq
  · exact hsettled
 rw[wp_bind,wp_access]
 split
 · rw[wp_raise]
   exact hsound
 · rw[wp_pure]
   refine ⟨⟨hsound,fun n hn=>(hnode n hn).complete n rfl,fun n hn=>?_,fun k root hk=>?_⟩,hgrown.edges⟩
   · obtain ⟨t,⟨root,hroot,ht⟩,hreach⟩:=(hnode n hn).reached n rfl
     exact ⟨root,hroot,t,ht,hreach⟩
   · exact Nat.zero_add k▸hroots k root hk

/-- Whatever the graph and the callers prepared before, the build ends unless unconfigured
streams feed each other in a cycle; it gives no place an id twice, and the ids it gives are
nonzero and pairwise distinct, also when it throws. -/
theorem topology_ids (g : Graph) (makeCallerFromEnv : LinkID → Option String) (fuel : ℕ)
  (s : State) (hs : s.assigned = []) (hsmall : g.places.length < 2 ^ 63)
  (hfuel : g.places.length + 2 ≤ fuel) :
  (¬g.Endless → ∃ result s', buildTopology g makeCallerFromEnv fuel s = some (result, s')) ∧
  ∀ result s', buildTopology g makeCallerFromEnv fuel s = some (result, s') →
   (s'.assigned.map Prod.fst).Nodup ∧ (s'.assigned.map Prod.snd).Nodup ∧
   ∀ id ∈ s'.assigned.map Prod.snd, id ≠ 0 := by
 have hbuild:=buildTopology_wp hsmall makeCallerFromEnv hfuel hs
 refine ⟨fun hends=>?_,fun result s' hrun=>?_⟩
 · obtain ⟨result,s',hrun,-⟩:=wp_ends hends hbuild
   exact ⟨result,s',hrun⟩
 · have hsound:Sound g s':=by
    unfold wp at hbuild
    rw[hrun] at hbuild
    cases result with
    | ok _ => exact hbuild.1.sound
    | error _ => exact hbuild
   obtain ⟨id,hvalid⟩:=hsound
   refine ⟨hvalid.keys_nodup,hvalid.ids_nodup hsmall,?_⟩
   intro v hv
   obtain ⟨entry,hentry,rfl⟩:=mem_map.mp hv
   exact hvalid.nonzero hsmall hentry

def meshGraph : Graph where
 roots := [.stream 20 (some ⟨7,0,none⟩),
  .input 10 (some ⟨0,0,none⟩) none]
 nodes := [.split 11 [some ⟨1,0,none⟩,some ⟨2,0,none⟩],.mergeLink 3,
  .mergeLink 3,.merge 12 (some ⟨4,0,none⟩),
  .process 13 (some ⟨5,0,none⟩) (some ⟨6,0,none⟩),.cycleSource 0,
  .errorLink 7,.sink 21 none]
 roots_closed := by decide
 nodes_closed := by decide
 merges := by decide

theorem topology_ids_mesh :
  ∃ result s', buildTopology meshGraph (fun _ => none) 20 State.empty = some (result, s') ∧
   (s'.assigned.map Prod.fst).Nodup ∧ (s'.assigned.map Prod.snd).Nodup ∧
   ∀ id ∈ s'.assigned.map Prod.snd, id ≠ 0 := by
 have hids:=topology_ids meshGraph (fun _=>none) 20 State.empty rfl (by decide) (by decide)
 obtain ⟨result,s',hrun⟩:=hids.1 (by decide)
 exact ⟨result,s',hrun,hids.2 result s' hrun⟩

/-- A map that was constructed with its consumer feeds a merge; neither the merge nor the map
behind it nor the cycle link they go round is configured. -/
def unconfiguredCycle : Graph where
 roots := [.stream 0 (some ⟨1,0,none⟩),.input 5 (some ⟨0,0,none⟩) none]
 nodes := [.stream 10 (some ⟨2,0,none⟩),.mergeLink 3,.mergeLink 3,.merge 0 (some ⟨4,0,none⟩),
  .stream 0 (some ⟨5,0,none⟩),.cycleSource 0]
 roots_closed := by decide
 nodes_closed := by decide
 merges := by decide

/-- The map's caller is never prepared: the config id of its consumer goes round the cycle. -/
theorem unconfiguredCycle_never_ends :
  (∀ fuel, unconfiguredCycle.configIdThrough [] fuel 2 = none) ∧
   ∀ fuel, buildTopology unconfiguredCycle (fun _ => none) fuel State.empty = none := by
 refine ⟨configIdThrough_none rfl,fun fuel=>?_⟩
 rcases fuel with _ | _ | _ | _ | _ | _ | fuel <;> rfl

end ServiceLib.Topology
