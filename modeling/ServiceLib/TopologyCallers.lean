import ServiceLib.TopologyConfig

set_option autoImplicit false

/-! # Where the prepared callers deliver -/

namespace ServiceLib.Topology

open StateProgram List Option

/-- Where a value is consumed in the end: an input of an operator (side 0 is the operator's own
`consume`, the others its secondary inputs), or a registered stream. -/
inductive Destination where
 | operator (n side:ℕ)
 | root (k:ℕ)
 deriving DecidableEq,Repr

def Graph.destinationThrough (g:Graph) : ℕ → ℕ → Destination
 | 0,n => .operator n 0
 | fuel + 1,n =>
   match g.nodes[n]? with
   | some (.mergeLink target) | some (.errorLink target) => g.destinationThrough fuel target
   | some (.joinLink join side) => .operator join (side + 1)
   | some (.cycleSource root) => .root root
   | _ => .operator n 0

def Graph.destination (g:Graph) (n:ℕ) : Destination :=
 g.destinationThrough (g.nodes.length + 2) n

def Graph.target (g:Graph) (output:Output) : Destination × ℕ :=
 (g.destination output.consumer,output.valueType)

def Graph.linkOf (g:Graph) (source:ConfigId) (output:Output) : LinkID :=
 ⟨source,(g.getConfigId [] output.consumer).getD 0⟩

/-- Where, and as what type, a value sent along the edge at `p` arrives. -/
def Graph.dispatch (g:Graph) (s:State) (p:Place) : Option (Destination × ℕ) :=
 (s.prepared.lookup p).map fun caller=>(g.destination caller.consumer,caller.valueType)

variable {g:Graph} {n:ℕ} {s:State} {p:Place}

lemma merge_of_mergeLink {target:ℕ}
  (hn:g.nodes[n]?=some (.mergeLink target)) : g.destination target=g.destination n := by
 have hmerge:g.nodes[target]?.map Node.isMerge=some true:=
  g.merges _ (mem_of_getElem? hn) target mem_cons_self
 cases hfound:g.nodes[target]? with
 | none =>
  rw[hfound] at hmerge
  cases hmerge
 | some node =>
  rw[hfound] at hmerge
  cases node with
  | merge configId output =>
   unfold Graph.destination
   simp only[Graph.destinationThrough,hn,hfound]
  | stream _ _ | process _ _ _ | sink _ _ | mergeLink _ | joinLink _ _ | errorLink _
  | link _ | cycleSource _ | resultLink _ | split _ _ | case _ _ => cases hmerge

lemma callerTarget_same (g:Graph) (output:Output) :
  (∀ unwired,g.getConfigId unwired (g.callerTarget output)=g.getConfigId unwired output.consumer) ∧
   g.destination (g.callerTarget output)=g.destination output.consumer := by
 unfold Graph.callerTarget
 split
 · rename_i hn
   exact ⟨getConfigId_mergeLink hn,merge_of_mergeLink hn⟩
 · exact ⟨fun _=>rfl,rfl⟩

/-- Every caller was made for an edge with its key, and every prepared edge has the caller of
its key. -/
structure Registered (g:Graph) (s:State) : Prop where
 made : ∀ link caller,s.callers.lookup link = some caller →
  ∃ p source output,g.edge p = some (source,output) ∧ g.linkOf source output = link ∧
   (g.destination caller.consumer,caller.valueType) = g.target output
 shared : ∀ p caller,(p,caller) ∈ s.prepared → ∃ source output,
  g.edge p = some (source,output) ∧ source ≠ 0 ∧
   s.callers.lookup (g.linkOf source output) = some caller

lemma Registered.of_same {s':State} (h:Registered g s)
  (hcallers:s'.callers=s.callers) (hprepared:s'.prepared=s.prepared) :
  Registered g s' :=
 ⟨hcallers▸h.made,hprepared▸hcallers▸h.shared⟩

section Keep

variable {g:Graph} (makeCallerFromEnv:LinkID → Option String)

lemma prepareCaller_registered {source:ConfigId} {consumer:ℕ} {output:Output}
  (hedge:g.edge p=some (source,output))
  (hid:∀ unwired,g.getConfigId unwired consumer=g.getConfigId unwired output.consumer)
  (hdestination:g.destination consumer=g.destination output.consumer)
  (h:Registered g s) :
  wp g.Endless (prepareCaller g makeCallerFromEnv source consumer output) s
   (fun caller s'=>Registered g s'∧source≠0 ∧
    s'.callers.lookup (g.linkOf source output)=some caller)
   (fun _ s'=>Registered g s') := by
 unfold prepareCaller
 rw[wp_bind,wp_access]
 cases htarget:g.getConfigId s.unwired consumer with
 | none => exact endless_of_getConfigId htarget
 | some target =>
  dsimp only
  split
  · rw[wp_raise]
    exact h
  · next hids =>
    obtain ⟨hsource,htarget0⟩:=not_or.mp hids
    -- an edge that is wired later does not change the key
    have hlink:(⟨source,target⟩ : LinkID)=g.linkOf source output:=by
     unfold Graph.linkOf
     rw[getConfigId_wired ((hid _).symm.trans htarget) htarget0]
     rfl
    rw[hlink,wp_bind,wp_access]
    cases hfound:s.callers.lookup (g.linkOf source output) with
    | some caller =>
     rw[wp_pure]
     exact ⟨h,hsource,hfound⟩
    | none =>
     cases makeCallerFromEnv (g.linkOf source output) with
     | some message =>
      rw[wp_raise]
      exact h
     | none =>
      rw[wp_bind,wp_update,wp_pure]
      refine ⟨⟨fun link caller hlookup=>?_,fun q caller hq=>?_⟩,hsource,?_⟩
      · by_cases hsame:link=g.linkOf source output
        · subst hsame
          rw[lookup_cons_self] at hlookup
          cases hlookup
          refine ⟨p,source,output,hedge,rfl,?_⟩
          unfold Graph.target
          rw[hdestination]
        · rw[lookup_cons,beq_false_of_ne hsame] at hlookup
          exact h.made link caller hlookup
      · obtain ⟨source',output',hedge',hsource',hlookup⟩:=h.shared q caller hq
        refine ⟨source',output',hedge',hsource',?_⟩
        have hsame:g.linkOf source' output'≠g.linkOf source output:=by
         intro heq
         rw[heq,hfound] at hlookup
         cases hlookup
        rw[lookup_cons,beq_false_of_ne hsame]
        exact hlookup
      · exact lookup_cons_self

lemma prepareEdge_registered {source:ConfigId} {consumer:ℕ} {output:Output}
  (hedge:g.edge p=some (source,output))
  (hid:∀ unwired,g.getConfigId unwired consumer=g.getConfigId unwired output.consumer)
  (hdestination:g.destination consumer=g.destination output.consumer) :
  Keeps (Registered g) (prepareEdge g makeCallerFromEnv p source consumer output) := by
 refine .of_wp g.Endless fun s hs=>?_
 unfold prepareEdge
 rw[wp_bind]
 refine wp_mono (prepareCaller_registered makeCallerFromEnv hedge hid hdestination hs) ?_
  (fun _ _ h=>h)
 rintro caller s' ⟨hregistered,hsource,hlookup⟩
 split
 · rw[wp_raise]
   exact hregistered
 · rw[wp_update]
   refine ⟨hregistered.made,fun q caller' hq=>?_⟩
   rcases mem_cons.mp hq with heq | hq
   · cases heq
     exact ⟨source,output,hedge,hsource,hlookup⟩
   · exact hregistered.shared q caller' hq

end Keep

structure StepsKeep (g:Graph) (makeCallerFromEnv:LinkID → Option String) (I:State → Prop) :
  Prop where
 setId : ∀ p id,Keeps I (setId p id)
 addLink : ∀ link,Keeps I (update fun s=>{ s with links := link :: s.links } : Build Unit)
 unwired : ∀ rest,Keeps I (update fun s=>{ s with unwired := rest } : Build Unit)
 prepareEdge : ∀ p source output consumer,g.edge p = some (source,output) →
  (consumer = output.consumer ∨ consumer = g.callerTarget output) →
  Keeps I (prepareEdge g makeCallerFromEnv p source consumer output)

variable {build:ℕ → ℕ → Build ℕ} {fuel:ℕ}

section Steps

variable {g:Graph} {makeCallerFromEnv:LinkID → Option String} {I:State → Prop}
variable (h:StepsKeep g makeCallerFromEnv I)

include h

lemma StepsKeep.setIdOnce (p:Place) (id:ℕ) : Keeps I (setIdOnce p id) := by
 refine .bind (.access I _) fun own=>?_
 exact .ite (h.setId p id) (.pure I ())

lemma StepsKeep.prepareConsumerCaller {configId:ConfigId} {output:Option Output}
  (hedge:∀ connected,output=some connected→ configId≠0→ g.edge p=some (configId,connected)) :
  Keeps I (prepareConsumerCaller g makeCallerFromEnv p configId output) := by
 cases output with
 | none => exact .pure I ()
 | some connected =>
  unfold Topology.prepareConsumerCaller
  dsimp only
  split
  · exact .pure I ()
  · next hne => exact h.prepareEdge p configId connected _ (hedge _ rfl hne) (.inl rfl)

lemma StepsKeep.buildTopologyCommon {configId:ConfigId} {output:Option Output} {id:ℕ}
  (hbuild:∀ n id,Keeps I (build n id))
  (hedge:∀ connected,output=some connected→ configId≠0→ g.edge p=some (configId,connected)) :
  Keeps I (buildTopologyCommon g makeCallerFromEnv build p configId output id) := by
 refine .bind (h.setIdOnce p id) fun _=>?_
 cases output with
 | none => exact .pure I id
 | some connected =>
  refine .bind (.access I _) fun cid=>?_
  refine .ite (.bind (hbuild _ _) fun r=>?_) (.bind (.pure I _) fun r=>?_)
  · exact .bind (h.prepareConsumerCaller hedge) fun _=>.pure I r
  · exact .bind (h.prepareConsumerCaller hedge) fun _=>.pure I r

lemma StepsKeep.prepareErrorStream {configId:ConfigId} {error:Option Output}
  (hedge:∀ connected,error=some connected→ configId≠0→ g.edge (.error n)=some (configId,connected)) :
  Keeps I (prepareErrorStream g makeCallerFromEnv n configId error) :=
 .bind (.access I _) fun _=>.bind (h.setId _ _) fun _=>h.prepareConsumerCaller hedge

lemma StepsKeep.linkBuildTopology
  (hbuild:∀ n id,Keeps I (build n id)) (n target id:ℕ) :
  Keeps I (linkBuildTopology g build n target id) :=
 .bind (h.setId _ _) fun _=>.bind (.access I _) fun _=>.ite (hbuild _ _) (.pure I id)

lemma StepsKeep.buildBranches
  (hbuild:∀ n id,Keeps I (build n id))
  (branches:List (ConfigId×Option Output)) :
  ∀ k nextId,(∀ j source connected,branches[j]?=some (source,some connected)→ source≠0 →
    g.edge (.branch n (k+j))=some (source,connected)) →
   Keeps I (buildBranches g makeCallerFromEnv build n k branches nextId) := by
 induction branches with
 | nil => exact fun k nextId _=>.pure I nextId
 | cons first rest ih =>
  intro k nextId hedge
  obtain ⟨configId,output⟩:=first
  refine .bind (h.buildTopologyCommon hbuild ?_) fun r=>ih (k+1) r ?_
  · rintro connected rfl hne
    exact hedge 0 configId connected rfl hne
  · intro j source connected hj
    have hindex:k+(j+1)=k+1+j:=by omega
    exact hindex▸hedge (j+1) source connected hj

lemma StepsKeep.prepareBranches {configId:ConfigId}
  (branches:List (Option Output)) :
  ∀ k,(∀ j connected,branches[j]?=some (some connected) →
    g.edge (.branch n (k+j))=some (configId,connected)) →
   Keeps I (prepareBranches g makeCallerFromEnv n configId k branches) := by
 induction branches with
 | nil => exact fun k _=>.pure I ()
 | cons first rest ih =>
  intro k hedge
  cases first with
  | none => exact .raise I _
  | some connected =>
   refine .bind (h.prepareEdge _ configId connected _ (hedge 0 connected rfl) (.inr rfl))
    fun _=>ih (k+1) fun j connected' hj=>?_
   have hindex:k+(j+1)=k+1+j:=by omega
   exact hindex▸hedge (j+1) connected' hj

omit h in
lemma prepareEdge_unconfigured (p:Place) (consumer:ℕ) (output:Output) :
  Keeps I (prepareEdge g makeCallerFromEnv p 0 consumer output) := by
 refine .of_wp True fun s hs=>?_
 unfold prepareEdge prepareCaller
 rw[wp_bind,wp_bind,wp_access]
 cases g.getConfigId s.unwired consumer with
 | none => exact trivial
 | some target =>
  dsimp only
  rw[if_pos (.inl rfl),wp_raise]
  exact hs

lemma StepsKeep.nodeBuildTopology (fuel:ℕ) :
  ∀ n id,Keeps I (nodeBuildTopology g makeCallerFromEnv fuel n id) := by
 induction fuel with
 | zero => exact fun n id=>.diverge I
 | succ fuel ih =>
  intro n id
  unfold Topology.nodeBuildTopology
  cases hn:g.nodes[n]? with
  | none => exact .diverge I
  | some node =>
   have hown:g.edge (.node n)=node.ownEdge:=by
    change g.nodes[n]?.bind Node.ownEdge=_
    rw[hn]
    rfl
   have herror:g.edge (.error n)=node.errorEdge:=by
    change g.nodes[n]?.bind Node.errorEdge=_
    rw[hn]
    rfl
   have hbranch:∀ k,g.edge (.branch n k)=node.branchEdge k:=by
    intro k
    change g.nodes[n]?.bind (Node.branchEdge k)=_
    rw[hn]
    rfl
   cases node with
   | stream configId output =>
    refine h.buildTopologyCommon ih ?_
    rintro connected rfl _
    exact hown
   | process configId output error =>
    refine .bind (h.buildTopologyCommon ih ?_) fun r =>
     .bind (h.prepareErrorStream ?_) fun _=>.pure I r
    · rintro connected rfl _
      exact hown
    · rintro connected rfl _
      exact herror
   | sink configId error =>
    refine .bind (h.setIdOnce _ _) fun _ =>
     .bind (h.prepareErrorStream ?_) fun _=>.pure I id
    rintro connected rfl _
    exact herror
   | merge configId output =>
    refine .bind (.access I _) fun own=>.ite (h.buildTopologyCommon ih ?_) (.pure I _)
    rintro connected rfl _
    exact hown
   | mergeLink target =>
    exact .bind (h.setId _ _) fun _=>.bind (ih _ _) fun r =>
     .bind (.access I _) fun _=>.ite (.raise I _) (.pure I r)
   | joinLink target side => exact h.linkBuildTopology ih n target id
   | errorLink target => exact h.linkBuildTopology ih n target id
   | link target =>
    exact .bind (h.setId _ _) fun _=>.bind (h.addLink _) fun _ =>
     .bind (prepareEdge_unconfigured _ _ _) fun _=>.pure I _
   | cycleSource root =>
    exact .bind (.access I _) fun rootId=>.ite (.raise I _) (.pure I rootId)
   | resultLink configId => exact .bind (h.setIdOnce _ _) fun _=>.pure I id
   | split configId branches =>
    refine .bind (h.setId _ _) fun _=>.bind (h.buildBranches ih _ 0 id ?_) fun r =>
     .bind (h.prepareBranches branches 0 ?_) fun _=>.pure I r
    · intro j source connected hj hne
      rw[List.getElem?_map] at hj
      cases hfound:branches[j]? with
      | none => rw[hfound] at hj; cases hj
      | some output =>
       rw[hfound] at hj
       cases hj
       exact absurd rfl hne
    · intro j connected hj
      rw[hbranch,Nat.zero_add]
      change (branches[j]?.getD none).map (Prod.mk configId)=_
      rw[hj]
      rfl
   | case configId branches =>
    refine .bind (h.setId _ _) fun _=>h.buildBranches ih _ 0 id ?_
    intro j source connected hj _
    rw[hbranch,Nat.zero_add]
    change (branches[j]?.bind fun branch=>branch.2.map (Prod.mk branch.1))=_
    rw[hj]
    rfl

lemma StepsKeep.rootBuildTopology {k id:ℕ} {root:Root}
  (hk:g.roots[k]?=some root) :
  Keeps I (rootBuildTopology g makeCallerFromEnv fuel k root id) := by
 have hbuild:=h.nodeBuildTopology fuel
 have hown:g.edge (.root k)=root.ownEdge:=by
  change g.roots[k]?.bind Root.ownEdge=_
  rw[hk]
  rfl
 have herror:g.edge (.rootError k)=root.errorEdge:=by
  change g.roots[k]?.bind Root.errorEdge=_
  rw[hk]
  rfl
 cases root with
 | stream configId output =>
  refine h.buildTopologyCommon hbuild ?_
  rintro connected rfl _
  exact hown
 | input configId output error =>
  refine .bind (h.buildTopologyCommon hbuild ?_) fun r=>h.buildTopologyCommon hbuild ?_
  · rintro connected rfl _
    exact hown
  · rintro connected rfl _
    exact herror

lemma StepsKeep.buildRoots (rest:List Root) :
  ∀ k nextId,(∀ j root,rest[j]?=some root→ g.roots[k+j]?=some root) →
   Keeps I (buildRoots g makeCallerFromEnv fuel k rest nextId) := by
 induction rest with
 | nil => exact fun k nextId _=>.pure I ()
 | cons root rest ih =>
  intro k nextId hroots
  refine .bind (h.rootBuildTopology (hroots 0 root rfl)) fun r=>ih (k+1) r ?_
  intro j root' hj
  have hindex:k+(j+1)=k+1+j:=by omega
  exact hindex▸hroots (j+1) root' hj

lemma StepsKeep.buildTopology (fuel:ℕ) : Keeps I (buildTopology g makeCallerFromEnv fuel) := by
 refine .bind (h.buildRoots g.roots 0 0 fun j root hj=>?_) fun _=>.bind (.access I _)
  fun _=>.ite (.raise I _) (.pure I ())
 rwa[Nat.zero_add]

lemma StepsKeep.setConsumer (p:Place) : Keeps I (setConsumer g makeCallerFromEnv p) := by
 unfold Topology.setConsumer
 split
 · rename_i hedge
   split
   · exact .pure I ()
   · exact h.prepareConsumerCaller fun _ heq _=>some.inj heq▸hedge
 · rename_i hedge
   exact h.prepareConsumerCaller fun _ heq _=>some.inj heq▸hedge
 · exact .pure I ()

lemma StepsKeep.wire (wired:List Place) : Keeps I (wire g makeCallerFromEnv wired) := by
 induction wired with
 | nil => exact .pure I ()
 | cons p rest ih => exact .bind (h.unwired rest) fun _=>.bind (h.setConsumer p) fun _=>ih

lemma StepsKeep.prepareTopology (wired:List Place) (fuel:ℕ) :
  Keeps I (prepareTopology g makeCallerFromEnv wired fuel) :=
 .bind (h.wire wired) fun _=>h.buildTopology fuel

end Steps

lemma registered_steps (g:Graph) (makeCallerFromEnv:LinkID→ Option String) :
    StepsKeep g makeCallerFromEnv (Registered g) where
 setId := fun _ _=>.update fun _ hs=>hs.of_same rfl rfl
 addLink := fun _=>.update fun _ hs=>hs.of_same rfl rfl
 unwired := fun _=>.update fun _ hs=>hs.of_same rfl rfl
 prepareEdge:=by
  rintro p source output consumer hedge (rfl | rfl)
  · exact prepareEdge_registered makeCallerFromEnv hedge (fun _=>rfl) rfl
  · obtain ⟨hid,hdestination⟩:=callerTarget_same g output
    exact prepareEdge_registered makeCallerFromEnv hedge hid hdestination

lemma prepareTopology_registered {makeCallerFromEnv:LinkID→ Option String}
  {wired:List Place} {result:Except Failure Unit}
  (hrun:prepareTopology g makeCallerFromEnv wired fuel State.empty=some (result,s)) :
  Registered g s := by
 refine (registered_steps g makeCallerFromEnv).prepareTopology wired fuel _ _ _ ?_ hrun
 exact ⟨fun link caller h=>(nomatch h),fun p caller h=>nomatch h⟩

lemma Registered.dispatch {arrival:Destination×ℕ}
  (h:Registered g s) (hdispatch:g.dispatch s p=some arrival) :
  ∃ source output caller,g.edge p=some (source,output)∧source≠0 ∧
   s.callers.lookup (g.linkOf source output)=some caller ∧
   (g.destination caller.consumer,caller.valueType)=arrival := by
 obtain ⟨caller,hlookup,harrival⟩:=map_eq_some_iff.mp hdispatch
 obtain ⟨before,after,heq,-⟩:=lookup_eq_some_iff.mp hlookup
 have hmem:(p,caller)∈s.prepared:=by
  rw[heq]
  exact mem_append_right _ mem_cons_self
 obtain ⟨source,output,hedge,hsource,hcaller⟩:=h.shared p caller hmem
 exact ⟨source,output,caller,hedge,hsource,hcaller,harrival⟩

/-- Every edge delivers to its own consumer, as its own type. -/
def DeliversOwn (g:Graph) (s:State) : Prop :=
 ∀ p source output,g.edge p = some (source,output) →
  g.dispatch s p = some (g.target output)

/-- Edges with the same pair of config ids have the same consumer and type. -/
def LinksAgree (g:Graph) : Prop :=
 ∀ p q source source' output output',g.edge p = some (source,output) →
  g.edge q = some (source',output') →
  g.linkOf source output = g.linkOf source' output' → g.target output = g.target output'

/-- Edges that have a caller deliver to their own consumers exactly when no two of them with the
same pair of config ids differ. -/
lemma Registered.delivers_iff (h:Registered g s) (hprepared:∀ p,(g.edge p).isSome→(g.dispatch s p).isSome) :
  DeliversOwn g s↔LinksAgree g := by
 constructor
 · intro hdeliver p q source source' output output' hp hq hlink
   obtain ⟨_,_,caller,hp',-,hcaller,harrival⟩:=h.dispatch (hdeliver p source output hp)
   obtain ⟨_,_,caller',hq',-,hcaller',harrival'⟩:=h.dispatch (hdeliver q source' output' hq)
   obtain ⟨rfl,rfl⟩:=Prod.mk.inj (some.inj (hp.symm.trans hp'))
   obtain ⟨rfl,rfl⟩:=Prod.mk.inj (some.inj (hq.symm.trans hq'))
   rw[hlink,hcaller'] at hcaller
   obtain rfl:caller'=caller:=some.inj hcaller
   exact harrival.symm.trans harrival'
 · intro hsame p source output hedge
   have hsome:(g.dispatch s p).isSome:=hprepared p (by rw[hedge]; rfl)
   obtain ⟨arrival,hdispatch⟩:=isSome_iff_exists.mp hsome
   obtain ⟨source',output',caller,hedge',-,hcaller,harrival⟩:=h.dispatch hdispatch
   obtain ⟨rfl,rfl⟩:=Prod.mk.inj (some.inj (hedge.symm.trans hedge'))
   -- the caller was made for the first edge with this key
   obtain ⟨q,source₀,output₀,hq,hlink,htarget⟩:=h.made _ caller hcaller
   rw[hdispatch,← harrival,htarget]
   exact congrArg some (hsame q p source₀ source output₀ output hq hedge hlink)

end ServiceLib.Topology
