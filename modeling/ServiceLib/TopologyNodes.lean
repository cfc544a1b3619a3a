import ServiceLib.TopologyBuild

set_option autoImplicit false
attribute [-instance] instBooleanRingBool

/-! # What the build of a node does -/

namespace ServiceLib.Topology

open StateProgram List

def Sound (g:Graph) (s:State) : Prop :=
 ∃ id,Valid g id s

variable {g:Graph} {id:ℕ} {s:State}

lemma Valid.sound (h:Valid g id s) : Sound g s :=
 ⟨id,h⟩

lemma setId_wp (p:Place) (id:ℕ) (s:State) (post:Unit→ State→ Prop)
  (fail:Failure→ State→ Prop) : wp g.Endless (setId p id) s post fail↔post () (s.assign p id) :=
 Iff.rfl

structure Prepared (p:Place) (s s':State) : Prop where
 assigned : s'.assigned = s.assigned
 edges : ∀ q ∈ s.edges,q ∈ s'.edges
 edge : p ∈ s'.edges

section Prepare

variable (g:Graph) (makeCallerFromEnv:LinkID → Option String)

lemma prepareCaller_wp (source consumer:ℕ) (output:Output) (s:State) :
  wp g.Endless (prepareCaller g makeCallerFromEnv source consumer output) s
   (fun _ s'=>source≠0∧s'.assigned=s.assigned∧s'.prepared=s.prepared)
   (fun _ s'=>s'.assigned=s.assigned) := by
 unfold prepareCaller
 rw[wp_bind,wp_access]
 cases htarget:g.getConfigId s.unwired consumer with
 | none => exact endless_of_getConfigId htarget
 | some target =>
  dsimp only
  split
  · rw[wp_raise]
  · grind[wp_bind,wp_access,wp_pure,wp_raise,wp_update]

lemma prepareEdge_wp (p:Place) (source consumer:ℕ) (output:Output) (s:State) :
  wp g.Endless (prepareEdge g makeCallerFromEnv p source consumer output) s
   (fun _ s'=>source≠0∧Prepared p s s') (fun _ s'=>s'.assigned=s.assigned) := by
 unfold prepareEdge
 rw[wp_bind]
 refine wp_mono (prepareCaller_wp g makeCallerFromEnv source consumer output s) ?_
  (fun _ _ h=>h)
 rintro caller s₁ ⟨hsource,hassigned,hprepared⟩
 split
 · rw[wp_raise]
   exact hassigned
 · rw[wp_update]
   refine ⟨hsource,hassigned,fun q hq=>mem_cons_of_mem _ ?_,mem_cons_self⟩
   rw[hprepared]
   exact hq

lemma prepareConsumerCaller_wp (p:Place) (configId:ConfigId)
  (output:Option Output) (s:State) :
  wp g.Endless (prepareConsumerCaller g makeCallerFromEnv p configId output) s
   (fun _ s'=>s'.assigned=s.assigned∧(∀ q∈s.edges,q∈s'.edges) ∧
    (configId≠0→ output.isSome→ p∈s'.edges))
   (fun _ s'=>s'.assigned=s.assigned) := by
 cases output with
 | none =>
  change wp _ (pure ()) s _ _
  rw[wp_pure]
  exact ⟨rfl,fun _ h=>h,fun _ h=>nomatch h⟩
 | some output =>
  unfold prepareConsumerCaller
  dsimp only
  split
  · next hzero =>
    rw[wp_pure]
    exact ⟨rfl,fun _ h=>h,fun h=>absurd hzero h⟩
  · refine wp_mono (prepareEdge_wp g makeCallerFromEnv p configId output.consumer output s)
     ?_ (fun _ _ h=>h)
    rintro _ s' ⟨-,hprepared⟩
    exact ⟨hprepared.assigned,hprepared.edges,fun _ _=>hprepared.edge⟩

end Prepare

structure Ready (g:Graph) (fuel t id:ℕ) (s:State) : Prop where
 valid : Valid g id s
 exists' : t < g.nodes.length
 fresh : g.place t ∉ s.keys ∨ g.nodes[t]?.map Node.isMerge = some true
 enough : g.places.length + 2 ≤ fuel + s.assigned.length

structure Called (g:Graph) (t r:ℕ) (s s':State) : Prop where
 valid : Valid g (r + 1) s'
 grown : Grown g (fun _=>False) (· = t) s s'
 given : g.place t ∈ s'.keys

def Contract (g:Graph) (fuel:ℕ) (build:ℕ → ℕ → Build ℕ) : Prop :=
 ∀ t id s,Ready g fuel t id s →
  wp g.Endless (build t id) s (fun r s'=>Called g t r s s') (fun _ s'=>Sound g s')

structure Streamed (g:Graph) (p:Place) (configId:ConfigId) (output:Option Output)
  (id r:ℕ) (s s':State) : Prop where
 valid : Valid g (r + 1) s'
 grown : Grown g (fun _=>False) (· ∈ consumerOf output) (s.assign p id) s'
 target : ∀ t ∈ consumerOf output,g.place t ∈ s'.keys
 edge : configId ≠ 0 → output.isSome → p ∈ s'.edges

variable {p:Place} {output:Option Output} {r fuel:ℕ} {s':State}

lemma Streamed.given {configId:ConfigId}
  (h:Streamed g p configId output id r s s') : p∈s'.keys :=
 h.grown.keys mem_cons_self

lemma Streamed.whole {configId:ConfigId}
  {own:Place→ Prop} {T:ℕ→ Prop}
  (h:Streamed g p configId output id r s s') (hp:own p)
  (hT:∀ t∈consumerOf output,T t) : Grown g own T s s' :=
 .trans (.of_assign g T s id hp) (h.grown.widen (fun _ hfalse=>hfalse.elim) hT)

section Common

variable {g:Graph} (hsmall:g.places.length < 2 ^ 63)
variable (makeCallerFromEnv:LinkID → Option String)

include hsmall

lemma setIdOnce_wp (hvalid:Valid g id s)
  (hp:p∉s.keys) (post:Unit→ State→ Prop) (fail:Failure→ State→ Prop) :
  wp g.Endless (setIdOnce p id) s post fail↔post () (s.assign p id) := by
 have hzero:s.getId p=0:=(hvalid.getId_eq_zero_iff hsmall p).mpr hp
 unfold setIdOnce
 rw[wp_bind,wp_access,if_pos hzero,setId_wp]

lemma buildTopologyCommon_wp {build:ℕ→ℕ→ Build ℕ}
  (configId:ConfigId) (output:Option Output) (hbuild:Contract g fuel build)
  (hvalid:Valid g id s) (hp:p∉s.keys) (hplace:p∈g.places) (hcounted:p.counted)
  (howner:∀ o,p.owner=some o→ o∈s.keys)
  (hconsumer:∀ t∈consumerOf output,t < g.nodes.length)
  (henough:g.places.length+1≤fuel+s.assigned.length) :
  wp g.Endless (buildTopologyCommon g makeCallerFromEnv build p configId output id) s
   (fun r s'=>Streamed g p configId output id r s s') (fun _ s'=>Sound g s') := by
 have hassign:Valid g (id+1) (s.assign p id):=hvalid.assign hp hplace hcounted howner
 unfold buildTopologyCommon
 rw[wp_bind,setIdOnce_wp hsmall hvalid hp]
 cases output with
 | none =>
  dsimp only
  rw[wp_pure]
  exact
   { valid := hassign
     grown := .refl g _ _ _
     target := fun t ht=>nomatch ht
     edge := fun _ h=>nomatch h }
 | some connected =>
  -- the consumer has an id in `s₁`, whether it was built here or before
  have hrest:∀ r s₁,Valid g (r+1) s₁ →
   Grown g (fun _=>False) (·∈consumerOf (some connected)) (s.assign p id) s₁ →
   g.place connected.consumer∈s₁.keys →
   wp g.Endless (prepareConsumerCaller g makeCallerFromEnv p configId (some connected) >>=
    fun _=>pure r) s₁
    (fun r s'=>Streamed g p configId (some connected) id r s s')
    (fun _ s'=>Sound g s'):=by
   intro r s₁ hvalid₁ hgrown₁ htarget
   rw[wp_bind]
   refine wp_mono (prepareConsumerCaller_wp g makeCallerFromEnv p configId _ s₁) ?_ ?_
   · rintro _ s₂ ⟨hassigned,hedges,hedge⟩
     have hsame:=Grown.of_same (g:=g) (fun _=>False)
      (·∈consumerOf (some connected)) hassigned hedges
     rw[wp_pure]
     refine ⟨hvalid₁.same hassigned,hgrown₁.trans hsame,fun t ht=>?_,hedge⟩
     obtain rfl:t=connected.consumer:=mem_singleton.mp ht
     exact hsame.keys htarget
   · intro _ s₂ hassigned
     exact (hvalid₁.same hassigned).sound
  dsimp only
  rw[wp_bind,wp_access]
  split
  · rename_i hzero
    have hfresh:g.place connected.consumer∉(s.assign p id).keys:=
     (hassign.getId_eq_zero_iff hsmall _).mp hzero
    have hready:Ready g fuel connected.consumer (id+1) (s.assign p id):=
     ⟨hassign,hconsumer _ (mem_singleton_self _),.inl hfresh,by
      change _≤fuel+(s.assigned.length+1)
      omega⟩
    rw[wp_bind,hassign.succId_eq hsmall]
    refine wp_mono (hbuild _ _ _ hready) (fun r s₁ hcalled=>?_) (fun _ _ h=>h)
    refine hrest r s₁ hcalled.valid (hcalled.grown.widen (fun _ h=>h) ?_) hcalled.given
    rintro t rfl
    exact mem_singleton_self _
  · rename_i hne
    have htarget:g.place connected.consumer∈(s.assign p id).keys:=by
     by_contra hfresh
     exact hne ((hassign.getId_eq_zero_iff hsmall _).mpr hfresh)
    rw[wp_bind,wp_pure]
    exact hrest id _ hassign (.refl g _ _ _) htarget

end Common

variable {n target:ℕ} {node:Node} {configId:ConfigId}

lemma Own.cases (h:Own n p) :
  p=.node n∨p=.error n∨∃ k,p=.branch n k := by
 cases p <;> grind[Own,Place.owner]

lemma own_node (n:ℕ) : Own n (.node n) :=
 .inl rfl

lemma own_error (n:ℕ) : Own n (.error n) :=
 .inr rfl

lemma own_branch (n k:ℕ) : Own n (.branch n k) :=
 .inr rfl

section Nodes

variable {g:Graph}

structure Entered (g:Graph) (fuel n id:ℕ) (node:Node) (s:State) : Prop where
 valid : Valid g id s
 found : g.nodes[n]? = some node
 place : g.place n = .node n
 fresh : Place.node n ∉ s.keys
 enough : g.places.length + 1 ≤ fuel + s.assigned.length

lemma Entered.exists_place
  (h:Entered g fuel n id node s) : Place.node n∈g.places := by
 refine mem_places_of_node h.found ?_
 cases node with
 | cycleSource root =>
  have hplace:=h.place
  unfold Graph.place at hplace
  rw[h.found] at hplace
  cases hplace
 | stream _ _ | process _ _ _ | sink _ _ | merge _ _ | mergeLink _ | joinLink _ _
 | errorLink _ | link _ | resultLink _ | split _ _ | case _ _ => exact mem_cons_self

lemma Entered.assign
  (h:Entered g fuel n id node s) : Valid g (id+1) (s.assign (.node n) id) :=
 h.valid.assign h.fresh h.exists_place rfl fun _ ho=>nomatch ho

lemma Entered.consumer_lt {t:ℕ}
  (h:Entered g fuel n id node s) (ht:t∈node.descends) : t < g.nodes.length :=
 g.nodes_closed node (mem_of_getElem? h.found) t (mem_append_left _ ht)

lemma Entered.descends {t:ℕ}
  (h:Entered g fuel n id node s) (ht:t∈node.descends) : g.Descends n t :=
 ⟨node,h.found,ht⟩

lemma Entered.member_fresh
  (h:Entered g fuel n id node s) (hp:p.owner=some (.node n)) :
  p∉(s.assign (.node n) id).keys := by
 intro hmem
 rcases mem_cons.mp hmem with rfl | hmem
 · cases hp
 · exact h.fresh (h.valid.owned p hmem _ hp)

lemma complete_of (hn:g.nodes[n]?=some node)
    (htargets:∀ t∈node.descends,g.place t∈s.keys)
    (hnode:configured node.ownEdge→ Place.node n∈s.edges)
    (herror:configured node.errorEdge→ Place.error n∈s.edges)
    (hbranch:∀ k,configured (node.branchEdge k)→ Place.branch n k∈s.edges) :
    Complete g s n where
 targets := by
  rintro t ⟨node',hnode',ht⟩
  obtain rfl:node=node':=Option.some.inj (hn.symm.trans hnode')
  exact htargets t ht
 outlets:=by
  intro p hp hedge
  rcases hp.cases with rfl | rfl | ⟨k,rfl⟩
  · change configured (g.nodes[n]?.bind Node.ownEdge) at hedge
    rw[hn] at hedge
    exact hnode hedge
  · change configured (g.nodes[n]?.bind Node.errorEdge) at hedge
    rw[hn] at hedge
    exact herror hedge
  · change configured (g.nodes[n]?.bind (Node.branchEdge k)) at hedge
    rw[hn] at hedge
    exact hbranch k hedge

lemma Entered.called
  (h:Entered g fuel n id node s) (hvalid:Valid g (r+1) s')
  (hgrown:Grown g (Own n) (g.Descends n) (s.assign (.node n) id) s')
  (hcomplete:Complete g s' n) : Called g n r s s' := by
 have hwhole:Grown g (Own n) (g.Descends n) s s':=
  .trans (.of_assign g _ s id (own_node n)) hgrown
 exact ⟨hvalid,hwhole.call h.fresh hcomplete,h.place▸hgrown.keys mem_cons_self⟩

lemma configured_map (h:configured (output.map (Prod.mk configId))) : configId≠0∧output.isSome := by
 cases output with
 | none => cases h
 | some output => exact ⟨of_decide_eq_true h,rfl⟩

variable (hsmall:g.places.length < 2 ^ 63) (makeCallerFromEnv:LinkID → Option String)
variable {fuel:ℕ} {build:ℕ → ℕ → Build ℕ}

lemma prepareErrorStream_wp (configId:ConfigId)
  (error:Option Output) (hvalid:Valid g id s) (hnode:Place.node n∈s.keys)
  (herror:Place.error n∉s.keys) (hplace:Place.error n∈g.places) :
  wp g.Endless (prepareErrorStream g makeCallerFromEnv n configId error) s
   (fun _ s'=>Valid g id s'∧Grown g (Own n) (g.Descends n) s s' ∧
    (configId≠0→ error.isSome→ Place.error n∈s'.edges))
   (fun _ s'=>Sound g s') := by
 have hassign:=hvalid.assign_error herror hplace (mem_getId hnode)
 unfold prepareErrorStream
 rw[wp_bind,wp_access,wp_bind,setId_wp]
 refine wp_mono (prepareConsumerCaller_wp g makeCallerFromEnv _ _ _ _) ?_ ?_
 · rintro _ s' ⟨hassigned,hedges,hedge⟩
   refine ⟨hassign.same hassigned,?_,hedge⟩
   exact .trans (.of_assign g _ s _ (own_error n)) (.of_same _ _ hassigned hedges)
 · intro _ s' hassigned
   exact (hassign.same hassigned).sound

include hsmall

lemma stream_wp
  (hbuild:Contract g fuel build)
  (hnode:node=.stream configId output∨node=.merge configId output)
  (h:Entered g fuel n id node s) :
  wp g.Endless (buildTopologyCommon g makeCallerFromEnv build (.node n) configId output id) s
   (fun r s'=>Called g n r s s') (fun _ s'=>Sound g s') := by
 have hdescends:node.descends=consumerOf output:=by
  rcases hnode with rfl | rfl <;> rfl
 have hown:node.ownEdge=output.map (Prod.mk configId):=by
  rcases hnode with rfl | rfl <;> rfl
 have herror:node.errorEdge=none:=by
  rcases hnode with rfl | rfl <;> rfl
 have hbranch:∀ k,node.branchEdge k=none:=by
  rcases hnode with rfl | rfl <;> exact fun _=>rfl
 refine wp_mono (buildTopologyCommon_wp hsmall makeCallerFromEnv configId output hbuild
  h.valid h.fresh h.exists_place rfl (fun _ ho=>nomatch ho)
  (fun t ht=>h.consumer_lt (hdescends▸ht)) h.enough) ?_ (fun _ _ hsound=>hsound)
 intro r s' hstream
 refine h.called hstream.valid (hstream.grown.widen (fun _ hfalse=>hfalse.elim)
  (fun t ht=>h.descends (hdescends▸ht))) ?_
 refine complete_of h.found (hdescends▸hstream.target) (fun hedge=>?_) (fun hedge=>?_)
  (fun k hedge=>?_)
 · rw[hown] at hedge
   exact hstream.edge (configured_map hedge).1 (configured_map hedge).2
 · rw[herror] at hedge
   cases hedge
 · rw[hbranch k] at hedge
   cases hedge

lemma process_wp {error:Option Output}
    (hbuild:Contract g fuel build)
    (h:Entered g fuel n id (.process configId output error) s) :
    wp g.Endless (do
        let nextId ←
          buildTopologyCommon g makeCallerFromEnv build (.node n) configId output id
        prepareErrorStream g makeCallerFromEnv n configId error
        pure nextId) s
      (fun r s'=>Called g n r s s') (fun _ s'=>Sound g s') := by
 rw[wp_bind]
 refine wp_mono (buildTopologyCommon_wp hsmall makeCallerFromEnv configId output hbuild
  h.valid h.fresh h.exists_place rfl (fun _ ho=>nomatch ho)
  (fun t ht=>h.consumer_lt ht) h.enough) ?_ (fun _ _ hsound=>hsound)
 intro r s₁ hstream
 have herror₁:Place.error n∉s₁.keys:=
  hstream.grown.member rfl mem_cons_self not_false (h.member_fresh rfl)
 have hplace:Place.error n∈g.places:=
  mem_places_of_node h.found (mem_cons_of_mem _ mem_cons_self)
 rw[wp_bind]
 refine wp_mono (prepareErrorStream_wp makeCallerFromEnv configId error hstream.valid
  hstream.given herror₁ hplace) ?_ (fun _ _ hsound=>hsound)
 rintro _ s₂ ⟨hvalid₂,hgrown₂,hedge₂⟩
 rw[wp_pure]
 have hgrown₁:Grown g (Own n) (g.Descends n) (s.assign (.node n) id) s₁:=
  hstream.grown.widen (fun _ hfalse=>hfalse.elim) fun t ht=>h.descends ht
 refine h.called hvalid₂ (hgrown₁.trans hgrown₂) ?_
 refine complete_of h.found (fun t ht=>hgrown₂.keys (hstream.target t ht)) (fun hedge=>?_)
  (fun hedge=>?_) (fun k hedge=>nomatch hedge)
 · exact hgrown₂.edges _ (hstream.edge (configured_map hedge).1 (configured_map hedge).2)
 · exact hedge₂ (configured_map hedge).1 (configured_map hedge).2

lemma sink_wp {error:Option Output}
  (h:Entered g fuel n id (.sink configId error) s) :
  wp g.Endless (do
    setIdOnce (.node n) id
    prepareErrorStream g makeCallerFromEnv n configId error
    pure id) s
   (fun r s'=>Called g n r s s') (fun _ s'=>Sound g s') := by
 have hplace:Place.error n∈g.places:=
  mem_places_of_node h.found (mem_cons_of_mem _ mem_cons_self)
 rw[wp_bind,setIdOnce_wp hsmall h.valid h.fresh,wp_bind]
 refine wp_mono (prepareErrorStream_wp makeCallerFromEnv configId error h.assign
  mem_cons_self (h.member_fresh rfl) hplace) ?_ (fun _ _ hsound=>hsound)
 rintro _ s₂ ⟨hvalid₂,hgrown₂,hedge₂⟩
 rw[wp_pure]
 refine h.called hvalid₂ hgrown₂ ?_
 refine complete_of h.found (fun t ht=>nomatch ht) (fun hedge=>nomatch hedge)
  (fun hedge=>?_) (fun k hedge=>nomatch hedge)
 exact hedge₂ (configured_map hedge).1 (configured_map hedge).2

omit hsmall in
lemma link_called
  (hdescends:node.descends=[target]) (hown:node.ownEdge=none)
  (herror:node.errorEdge=none) (hbranch:∀ k,node.branchEdge k=none)
  (h:Entered g fuel n id node s) (hvalid:Valid g (r+1) s')
  (hgrown:Grown g (fun _=>False) (·=target) (s.assign (.node n) id) s')
  (htarget:g.place target∈s'.keys) : Called g n r s s' := by
 refine h.called hvalid (hgrown.widen (fun _ hfalse=>hfalse.elim) ?_) ?_
 · rintro t rfl
   exact h.descends (hdescends▸mem_singleton_self t)
 · refine complete_of h.found (fun t ht=>?_) (fun hedge=>?_) (fun hedge=>?_)
    (fun k hedge=>?_)
   · rw[hdescends] at ht
     obtain rfl:t=target:=mem_singleton.mp ht
     exact htarget
   · rw[hown] at hedge
     cases hedge
   · rw[herror] at hedge
     cases hedge
   · rw[hbranch k] at hedge
     cases hedge

lemma mergeLink_wp (hbuild:Contract g fuel build)
    (h:Entered g fuel n id (.mergeLink target) s) :
    wp g.Endless (do
        setId (.node n) id
        let nextId ← build target (succId id)
        let targetId ← access (fun s=>s.getId (g.place target))
        if targetId=0 then
          raise (.stream "Build stream logic error. Merge link id isn't assigned.")
        else
          pure nextId) s
      (fun r s'=>Called g n r s s') (fun _ s'=>Sound g s') := by
 have hmerge:g.nodes[target]?.map Node.isMerge=some true:=
  g.merges _ (mem_of_getElem? h.found) target mem_cons_self
 have hready:Ready g fuel target (id+1) (s.assign (.node n) id):=by
  refine ⟨h.assign,h.consumer_lt mem_cons_self,.inr hmerge,?_⟩
  have henough:=h.enough
  change _≤fuel+(s.assigned.length+1)
  omega
 rw[wp_bind,setId_wp,wp_bind,h.assign.succId_eq hsmall]
 refine wp_mono (hbuild _ _ _ hready) ?_ (fun _ _ hsound=>hsound)
 intro r s₁ hcalled
 rw[wp_bind,wp_access]
 split
 · rw[wp_raise]
   exact hcalled.valid.sound
 · rw[wp_pure]
   exact link_called rfl rfl rfl (fun _=>rfl) h hcalled.valid hcalled.grown
    hcalled.given

lemma linkBuildTopology_wp
  (hdescends:node.descends=[target]) (hown:node.ownEdge=none)
  (herror:node.errorEdge=none) (hbranch:∀ k,node.branchEdge k=none)
  (hbuild:Contract g fuel build) (h:Entered g fuel n id node s) :
  wp g.Endless (linkBuildTopology g build n target id) s
   (fun r s'=>Called g n r s s') (fun _ s'=>Sound g s') := by
 unfold linkBuildTopology
 rw[wp_bind,setId_wp,wp_bind,wp_access]
 split
 · rename_i hzero
   have hready:Ready g fuel target (id+1) (s.assign (.node n) id):=by
    refine ⟨h.assign,h.consumer_lt (hdescends▸mem_cons_self),
     .inl ((h.assign.getId_eq_zero_iff hsmall _).mp hzero),?_⟩
    have henough:=h.enough
    change _≤fuel+(s.assigned.length+1)
    omega
   rw[h.assign.succId_eq hsmall]
   refine wp_mono (hbuild _ _ _ hready) ?_ (fun _ _ hsound=>hsound)
   intro r s₁ hcalled
   exact link_called hdescends hown herror hbranch h hcalled.valid hcalled.grown
    hcalled.given
 · rename_i hne
   have htarget:g.place target∈(s.assign (.node n) id).keys:=by
    by_contra hfresh
    exact hne ((h.assign.getId_eq_zero_iff hsmall _).mpr hfresh)
   rw[wp_pure]
   exact link_called hdescends hown herror hbranch h h.assign (.refl g _ _ _) htarget

lemma resultLink_wp
  (h:Entered g fuel n id (.resultLink configId) s) :
  wp g.Endless (do setIdOnce (.node n) id; pure id) s
   (fun r s'=>Called g n r s s') (fun _ s'=>Sound g s') := by
 rw[wp_bind,setIdOnce_wp hsmall h.valid h.fresh,wp_pure]
 refine h.called h.assign (.refl g _ _ _) ?_
 exact complete_of h.found (fun t ht=>nomatch ht) (fun hedge=>nomatch hedge)
  (fun hedge=>nomatch hedge) (fun k hedge=>nomatch hedge)

omit hsmall in
/-- A `Link` has no config id, so that its build always throws. -/
lemma link_wp (h:Entered g fuel n id (.link target) s) :
  wp g.Endless (do
    setId (.node n) id
    update fun s=>{ s with links := (id,target)::s.links }
    prepareEdge g makeCallerFromEnv (.node n) 0 target ⟨target,0,none⟩
    pure (succId id)) s
   (fun r s'=>Called g n r s s') (fun _ s'=>Sound g s') := by
 rw[wp_bind,setId_wp,wp_bind,wp_update,wp_bind]
 refine wp_mono (prepareEdge_wp g makeCallerFromEnv _ _ _ _ _) ?_ ?_
 · rintro _ s' ⟨hsource,-⟩
   exact absurd rfl hsource
 · intro _ s' hassigned
   exact (h.assign.same hassigned).sound

lemma buildBranches_wp (hbuild:Contract g fuel build)
  (branches:List (ConfigId×Option Output)) :
  ∀ k nextId s,Valid g (nextId+1) s→ Place.node n∈s.keys →
   (∀ j,k≤j→ Place.branch n j∉s.keys) →
   (∀ j,j < branches.length→ Place.branch n (k+j)∈g.places) →
   (∀ branch∈branches,∀ t∈consumerOf branch.2,g.Descends n t∧t < g.nodes.length) →
   g.places.length+1≤fuel+s.assigned.length →
   wp g.Endless (buildBranches g makeCallerFromEnv build n k branches nextId) s
    (fun r s'=>Valid g (r+1) s'∧Grown g (Own n) (g.Descends n) s s' ∧
     (∀ branch∈branches,∀ t∈consumerOf branch.2,g.place t∈s'.keys) ∧
     ∀ j branch,branches[j]?=some branch→ branch.1≠0→ branch.2.isSome →
      Place.branch n (k+j)∈s'.edges)
    (fun _ s'=>Sound g s') := by
 induction branches with
 | nil =>
  intro k nextId s hvalid _ _ _ _ _
  unfold buildBranches
  rw[wp_pure]
  exact ⟨hvalid,.refl g _ _ _,fun _ h=>(nomatch h),fun j _ h=>nomatch h⟩
 | cons first rest ih =>
  intro k nextId s hvalid hnode hfresh hplaces htargets henough
  obtain ⟨configId,output⟩:=first
  have hfirst:=htargets _ mem_cons_self
  unfold buildBranches
  rw[wp_bind,hvalid.succId_eq hsmall]
  refine wp_mono (buildTopologyCommon_wp hsmall makeCallerFromEnv configId output hbuild hvalid
   (hfresh k (Nat.le_refl k)) (hplaces 0 (Nat.succ_pos _)) rfl ?_
   (fun t ht=>(hfirst t ht).2) henough) ?_ (fun _ _ hsound=>hsound)
  · intro o ho
    cases ho
    exact hnode
  · intro r s₁ hstream
    have hgrown₁:Grown g (Own n) (g.Descends n) s s₁:=
     hstream.whole (own_branch n k) fun t ht=>(hfirst t ht).1
    -- the call on the consumer gives no id to the other branches
    have hfresh₁:∀ j,k+1≤j→ Place.branch n j∉s₁.keys:=by
     intro j hj
     refine hstream.grown.member rfl (mem_cons_of_mem _ hnode) not_false ?_
     intro hmem
     rcases mem_cons.mp hmem with heq | hmem
     · cases heq
       omega
     · exact hfresh j (by omega) hmem
    have hplaces₁:∀ j,j < rest.length→ Place.branch n (k+1+j)∈g.places:=by
     intro j hj
     have hindex:k+(j+1)=k+1+j:=by omega
     exact hindex▸hplaces (j+1) (Nat.succ_lt_succ hj)
    have henough₁:g.places.length+1≤fuel+s₁.assigned.length:=
     Nat.le_trans henough (Nat.add_le_add_left hgrown₁.length_le fuel)
    refine wp_mono (ih (k+1) r s₁ hstream.valid (hgrown₁.keys hnode) hfresh₁ hplaces₁
     (fun branch hbranch=>htargets branch (mem_cons_of_mem _ hbranch)) henough₁) ?_
     (fun _ _ hsound=>hsound)
    rintro r' s₂ ⟨hvalid₂,hgrown₂,htargets₂,hedges₂⟩
    refine ⟨hvalid₂,hgrown₁.trans hgrown₂,fun branch hbranch=>?_,fun j branch hj=>?_⟩
    · rcases mem_cons.mp hbranch with rfl | hbranch
      · exact fun t ht=>hgrown₂.keys (hstream.target t ht)
      · exact htargets₂ branch hbranch
    · grind[Grown.edges,Streamed.edge,Prepared.edge]

omit hsmall in
lemma prepareBranches_wp (configId:ConfigId) (branches:List (Option Output)) :
  ∀ k s,wp g.Endless (prepareBranches g makeCallerFromEnv n configId k branches) s
   (fun _ s'=>s'.assigned=s.assigned∧(∀ p∈s.edges,p∈s'.edges) ∧
    ∀ j,j < branches.length→ Place.branch n (k+j)∈s'.edges)
   (fun _ s'=>s'.assigned=s.assigned) := by
 induction branches with
 | nil => grind[prepareBranches,wp_pure]
 | cons first rest ih =>
  intro k s
  cases first with
  | none =>
   unfold prepareBranches
   rw[wp_raise]
  | some output =>
   unfold prepareBranches
   rw[wp_bind]
   refine wp_mono (prepareEdge_wp g makeCallerFromEnv _ _ _ _ s) ?_ (fun _ _ h=>h)
   rintro _ s₁ ⟨-,hprepared⟩
   refine wp_mono (ih (k+1) s₁) ?_ (fun _ _ h=>h.trans hprepared.assigned)
   rintro _ s₂ ⟨hassigned,hedges,hbranches⟩
   refine ⟨hassigned.trans hprepared.assigned,
    fun p hp=>hedges p (hprepared.edges p hp),fun j hj=>?_⟩
   cases j with
   | zero => exact hedges _ hprepared.edge
   | succ j => grind

lemma split_wp {branches:List (Option Output)}
    (hbuild:Contract g fuel build) (h:Entered g fuel n id (.split configId branches) s) :
    wp g.Endless (do
        setId (.node n) id
        let nextId ← buildBranches g makeCallerFromEnv build n 0
          (branches.map fun output=>(0,output)) id
        prepareBranches g makeCallerFromEnv n configId 0 branches
        pure nextId) s
      (fun r s'=>Called g n r s s') (fun _ s'=>Sound g s') := by
 have henough:g.places.length+1≤fuel+(s.assign (.node n) id).assigned.length:=
  Nat.le_trans h.enough (Nat.add_le_add_left (Nat.le_succ _) fuel)
 rw[wp_bind,setId_wp,wp_bind]
 refine wp_mono (buildBranches_wp hsmall makeCallerFromEnv hbuild _ 0 id _ h.assign
  mem_cons_self (fun j _=>h.member_fresh rfl) ?_ ?_ henough) ?_
  (fun _ _ hsound=>hsound)
 · intro j hj
   rw[length_map] at hj
   refine mem_places_of_node h.found (mem_cons_of_mem _ (mem_map.mpr ?_))
   exact ⟨0+j,mem_range.mpr (by omega),rfl⟩
 · intro branch hbranch t ht
   obtain ⟨output,houtput,rfl⟩:=mem_map.mp hbranch
   have hmem:t∈(Node.split configId branches).descends:=
    mem_flatMap.mpr ⟨output,houtput,ht⟩
   exact ⟨h.descends hmem,h.consumer_lt hmem⟩
 · rintro r s₁ ⟨hvalid₁,hgrown₁,htargets₁,-⟩
   rw[wp_bind]
   refine wp_mono (prepareBranches_wp makeCallerFromEnv configId branches 0 s₁) ?_
    (fun _ s₂ hassigned=>(hvalid₁.same hassigned).sound)
   rintro _ s₂ ⟨hassigned,hedges,hbranches⟩
   have hgrown₂:Grown g (Own n) (g.Descends n) s₁ s₂:=.of_same _ _ hassigned hedges
   rw[wp_pure]
   refine h.called (hvalid₁.same hassigned) (hgrown₁.trans hgrown₂) ?_
   refine complete_of h.found (fun t ht=>?_) (fun hedge=>nomatch hedge)
    (fun hedge=>nomatch hedge) (fun k hedge=>?_)
   · obtain ⟨output,houtput,ht⟩:=mem_flatMap.mp ht
     exact hgrown₂.keys (htargets₁ _ (mem_map.mpr ⟨output,houtput,rfl⟩) t ht)
   · have hk:k < branches.length:=by
      by_contra hk
      have hnone:branches[k]?=none:=List.getElem?_eq_none (by omega)
      change configured ((branches[k]?.getD none).map (Prod.mk configId)) at hedge
      rw[hnone] at hedge
      cases hedge
     exact Nat.zero_add k▸hbranches k hk

lemma case_wp
  {branches:List (ConfigId×Option Output)} (hbuild:Contract g fuel build)
  (h:Entered g fuel n id (.case configId branches) s) :
  wp g.Endless (do
    setId (.node n) id
    buildBranches g makeCallerFromEnv build n 0 branches id) s
   (fun r s'=>Called g n r s s') (fun _ s'=>Sound g s') := by
 have henough:g.places.length+1≤fuel+(s.assign (.node n) id).assigned.length:=
  Nat.le_trans h.enough (Nat.add_le_add_left (Nat.le_succ _) fuel)
 rw[wp_bind,setId_wp]
 refine wp_mono (buildBranches_wp hsmall makeCallerFromEnv hbuild _ 0 id _ h.assign
  mem_cons_self (fun j _=>h.member_fresh rfl) ?_ ?_ henough) ?_
  (fun _ _ hsound=>hsound)
 · intro j hj
   refine mem_places_of_node h.found (mem_cons_of_mem _ (mem_map.mpr ?_))
   exact ⟨0+j,mem_range.mpr (by omega),rfl⟩
 · intro branch hbranch t ht
   have hmem:t∈(Node.case configId branches).descends:=
    mem_flatMap.mpr ⟨branch,hbranch,ht⟩
   exact ⟨h.descends hmem,h.consumer_lt hmem⟩
 · rintro r s₁ ⟨hvalid₁,hgrown₁,htargets₁,hedges₁⟩
   refine h.called hvalid₁ hgrown₁ ?_
   refine complete_of h.found (fun t ht=>?_) (fun hedge=>nomatch hedge)
    (fun hedge=>nomatch hedge) (fun k hedge=>?_)
   · obtain ⟨branch,hbranch,ht⟩:=mem_flatMap.mp ht
     exact htargets₁ _ hbranch t ht
   · change configured (branches[k]?.bind fun branch=>branch.2.map (Prod.mk branch.1)) at hedge
     cases hfound:branches[k]? with
     | none =>
      rw[hfound] at hedge
      cases hedge
     | some branch =>
      rw[hfound] at hedge
      obtain ⟨hconfig,hsome⟩:=configured_map hedge
      exact Nat.zero_add k▸hedges₁ k _ hfound hconfig hsome

def Node.place (n:ℕ) : Node → Place
 | .cycleSource root => .root root
 | _ => .node n

omit hsmall in
lemma place_eq {n:ℕ} {node:Node} (hn:g.nodes[n]?=some node) : g.place n=node.place n := by
 unfold Graph.place
 rw[hn]
 cases node <;> rfl

/-- Every node keeps the contract, given fuel for the places without an id. -/
lemma nodeBuildTopology_contract (fuel:ℕ) :
  Contract g fuel (nodeBuildTopology g makeCallerFromEnv fuel) := by
 induction fuel with
 | zero =>
  intro n id s h
  have hlength:=h.valid.length_le
  have henough:=h.enough
  omega
 | succ fuel ih =>
  intro n id s h
  have hlength:=h.valid.length_le
  have henough:g.places.length+1≤fuel+s.assigned.length:=by
   have:=h.enough
   omega
  obtain ⟨node,hn⟩ : ∃ node,g.nodes[n]?=some node:=
   ⟨_,List.getElem?_eq_getElem h.exists'⟩
  -- all but a merge and a cycle's source are entered without an id of their own
  have hentered:node.isMerge=false→ g.place n=.node n →
   Entered g fuel n id node s:=by
   intro hnot hplace
   refine ⟨h.valid,hn,hplace,?_,henough⟩
   rcases h.fresh with hfresh | hmerge
   · exact hplace▸hfresh
   · rw[hn] at hmerge
     rw[Option.map_some,hnot] at hmerge
     cases hmerge
  have hplace:∀ p,node.place n=p→ g.place n=p:=fun p hp=>(place_eq hn).trans hp
  unfold nodeBuildTopology
  rw[hn]
  cases node with
  | stream configId output =>
   exact stream_wp hsmall makeCallerFromEnv ih (.inl rfl) (hentered rfl (hplace _ rfl))
  | process configId output error =>
   exact process_wp hsmall makeCallerFromEnv ih (hentered rfl (hplace _ rfl))
  | sink configId error =>
   exact sink_wp hsmall makeCallerFromEnv (hentered rfl (hplace _ rfl))
  | merge configId output =>
   dsimp only
   rw[wp_bind,wp_access]
   split
   · rename_i hzero
     have hfresh:=(h.valid.getId_eq_zero_iff hsmall _).mp hzero
     exact stream_wp hsmall makeCallerFromEnv ih (.inr rfl)
      ⟨h.valid,hn,hplace _ rfl,hfresh,henough⟩
   · rename_i hne
     have hgiven:Place.node n∈s.keys:=by
      by_contra hfresh
      exact hne ((h.valid.getId_eq_zero_iff hsmall _).mpr hfresh)
     rw[wp_pure]
     refine ⟨?_,.refl g _ _ _,hplace (.node n) rfl▸hgiven⟩
     rw[h.valid.predId_eq hsmall]
     exact h.valid
  | mergeLink target =>
   exact mergeLink_wp hsmall ih (hentered rfl (hplace _ rfl))
  | joinLink target side =>
   exact linkBuildTopology_wp hsmall rfl rfl rfl (fun _=>rfl) ih
    (hentered rfl (hplace _ rfl))
  | errorLink target =>
   exact linkBuildTopology_wp hsmall rfl rfl rfl (fun _=>rfl) ih
    (hentered rfl (hplace _ rfl))
  | link target => exact link_wp makeCallerFromEnv (hentered rfl (hplace _ rfl))
  | cycleSource root =>
   have hroot:Place.root root∉s.keys:=by
    rcases h.fresh with hfresh | hmerge
    · rwa[hplace (.root root) rfl] at hfresh
    · rw[hn] at hmerge
      cases hmerge
   dsimp only
   rw[wp_bind,wp_access,if_pos ((h.valid.getId_eq_zero_iff hsmall _).mpr hroot),wp_raise]
   exact h.valid.sound
  | resultLink configId => exact resultLink_wp hsmall (hentered rfl (hplace _ rfl))
  | split configId branches =>
   exact split_wp hsmall makeCallerFromEnv ih (hentered rfl (hplace _ rfl))
  | case configId branches =>
   exact case_wp hsmall makeCallerFromEnv ih (hentered rfl (hplace _ rfl))

end Nodes

end ServiceLib.Topology
