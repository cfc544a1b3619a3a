import ServiceLib.TopologyCallers
import ServiceLib.TopologyIds

set_option autoImplicit false
attribute [-instance] instBooleanRingBool

/-! # Which operators a build reaches -/

namespace ServiceLib.Topology

open StateProgram List Option

def Node.cycleTarget : Node → List ℕ
 | .cycleSource root => [root]
 | _ => []

/-- A message at node `n` can go on to node `t`: along what a build descends into, to the
consumer of an error stream, through a `Link`, or around a cycle. -/
def Graph.Sends (g:Graph) (n t:ℕ) : Prop :=
 ∃ node,g.nodes[n]? = some node ∧
  (t ∈ node.descends ∨ t ∈ node.skips ∨
   ∃ k ∈ node.cycleTarget,∃ root,g.roots[k]? = some root ∧ t ∈ root.consumers)

def Graph.FromRoots (g:Graph) (next:ℕ → ℕ → Prop) (t:ℕ) : Prop :=
 ∃ root ∈ g.roots,∃ e ∈ root.consumers,Relation.ReflTransGen next e t

def Node.isOperator : Node → Bool
 | .mergeLink _ | .joinLink _ _ | .errorLink _ | .cycleSource _ => false
 | _ => true

def Graph.isOperator (g:Graph) (n:ℕ) : Bool :=
 g.nodes[n]?.any Node.isOperator

def Graph.Configured (g:Graph) (n:ℕ) : Prop :=
 ∀ p,Own n p → (g.edge p).isSome → configured (g.edge p)

structure Covered (g:Graph) (s:State) (n:ℕ) : Prop where
 id : s.getId (g.place n) ≠ 0
 edges : ∀ p,Own n p → (g.edge p).isSome → (g.dispatch s p).isSome

lemma place_of_descends {g:Graph} {n t:ℕ} (h:g.Descends n t) : g.place n=.node n := by
 obtain ⟨node,hn,ht⟩:=h
 unfold Graph.place
 rw[hn]
 cases node with
 | cycleSource root => cases ht
 | stream _ _ | process _ _ _ | sink _ _ | merge _ _ | mergeLink _ | joinLink _ _
 | errorLink _ | link _ | resultLink _ | split _ _ | case _ _ => rfl

lemma place_of_operator {g:Graph} {n:ℕ} (h:g.isOperator n) : g.place n=.node n := by
 grind[Graph.isOperator,Graph.place,Node.isOperator]

lemma place_of_edge {g:Graph} {n:ℕ} {p:Place} (hp:Own n p) (hedge:(g.edge p).isSome) :
  g.place n=.node n := by
 unfold Graph.place
 split
 · rename_i hn
   cases p with
   | root k | rootError k => cases hp with
    | inl hp => cases hp
    | inr hp => cases hp
   | node m | error m | branch m k =>
    obtain rfl:m=n:=by simpa[Own,Place.owner] using hp
    simp[Graph.edge,hn,Node.ownEdge,Node.errorEdge,Node.branchEdge] at hedge
 · rfl

lemma mem_places_of_edge {g:Graph} {p:Place} (hedge:(g.edge p).isSome) : p∈g.places := by
 obtain ⟨edge,hedge⟩:=isSome_iff_exists.mp hedge
 cases p with
 | root k | rootError k =>
  obtain ⟨root,hk,hedge⟩:=bind_eq_some_iff.mp hedge
  refine mem_places_of_root hk ?_
  cases root with
  | stream _ _ | input _ _ _ => grind[Root.ownEdge,Root.errorEdge,Root.places]
 | node n | error n | branch n k =>
  obtain ⟨node,hn,hedge⟩:=bind_eq_some_iff.mp hedge
  refine mem_places_of_node hn ?_
  cases node with
  | stream _ _ | process _ _ _ | sink _ _ | merge _ _ | mergeLink _ | joinLink _ _ | errorLink _
  | link _ | cycleSource _ | resultLink _ | split _ _ | case _ _ =>
   grind[Node.ownEdge,Node.errorEdge,Node.branchEdge,Node.places]

lemma dispatch_isSome {g:Graph} {s:State} {p:Place} (h:p∈s.edges) :
  (g.dispatch s p).isSome := by
 unfold Graph.dispatch
 rw[isSome_map]
 by_contra hnone
 obtain ⟨entry,hentry,rfl⟩:=mem_map.mp h
 have hlookup:=lookup_eq_none_iff.mp (not_isSome_iff_eq_none.mp hnone) entry hentry
 simp at hlookup

lemma Registered.configured {g:Graph} {s:State} {p:Place} (h:Registered g s)
  (hdispatch:(g.dispatch s p).isSome) : configured (g.edge p) := by
 obtain ⟨arrival,harrival⟩:=isSome_iff_exists.mp hdispatch
 obtain ⟨source,output,-,hedge,hsource,-⟩:=h.dispatch harrival
 rw[hedge]
 exact decide_eq_true hsource

section Finished

variable {g:Graph} {s:State} (h:Built g s)

include h

lemma Built.given {n:ℕ} (hn:g.FromRoots g.Descends n) : g.place n∈s.keys := by
 obtain ⟨root,hroot,e,he,hpath⟩:=hn
 obtain ⟨k,hk⟩:=mem_iff_getElem?.mp hroot
 induction hpath with
 | refl => exact (h.roots k root hk).2.1 e he
 | @tail m t _ hstep ih =>
  rw[place_of_descends hstep] at ih
  exact (h.complete m ih).targets t hstep

lemma Built.covered_iff (hregistered:Registered g s) (hsmall:g.places.length < 2 ^ 63) {n:ℕ}
  (hn:g.isOperator n) : Covered g s n↔g.FromRoots g.Descends n∧g.Configured n := by
 obtain ⟨id,hvalid⟩:=h.sound
 have hplace:=place_of_operator hn
 have hid:=hvalid.getId_eq_zero_iff hsmall (.node n)
 constructor
 · intro hcovered
   have hmem:Place.node n∈s.keys:=by
    by_contra hnot
    exact hcovered.id (hplace▸hid.mpr hnot)
   exact ⟨h.reached n hmem,fun p hp hedge=>hregistered.configured (hcovered.edges p hp hedge)⟩
 · rintro ⟨hreach,hconfigured⟩
   have hmem:Place.node n∈s.keys:=hplace▸h.given hreach
   refine ⟨fun hzero=>hid.mp (hplace▸hzero) hmem,fun p hp hedge=>?_⟩
   exact dispatch_isSome ((h.complete n hmem).outlets p hp (hconfigured p hp hedge))

end Finished

def Graph.isSplitBranch (g:Graph) : Place → Bool
 | .branch n _ =>
   match g.nodes[n]? with
   | some (.split _ _) => true
   | _ => false
 | _ => false

section Wire

variable (g:Graph) (makeCallerFromEnv:LinkID → Option String)

lemma setConsumer_wp (p:Place) (s:State) :
  wp g.Endless (setConsumer g makeCallerFromEnv p) s
   (fun _ s'=>s'.assigned=s.assigned∧(∀ q∈s.edges,q∈s'.edges) ∧
    (configured (g.edge p)→ g.isSplitBranch p=false→ p∈s'.edges))
   (fun _ s'=>s'.assigned=s.assigned) := by
 have hconsumer:∀ configId output,g.edge p=some (configId,output) →
  wp g.Endless (prepareConsumerCaller g makeCallerFromEnv p configId (some output)) s
   (fun _ s'=>s'.assigned=s.assigned∧(∀ q∈s.edges,q∈s'.edges) ∧
    (configured (g.edge p)→ g.isSplitBranch p=false→ p∈s'.edges))
   (fun _ s'=>s'.assigned=s.assigned):=by
  intro configId output hedge
  refine wp_mono (prepareConsumerCaller_wp g makeCallerFromEnv p configId (some output) s) ?_ (fun _ _ h=>h)
  rintro _ s' ⟨hassigned,hedges,hprepared⟩
  refine ⟨hassigned,hedges,fun hconfigured _=>hprepared ?_ rfl⟩
  rw[hedge] at hconfigured
  exact of_decide_eq_true hconfigured
 unfold setConsumer
 split
 · rename_i n k configId output hedge
   split
   · next hsplit =>
     rw[wp_pure]
     exact ⟨rfl,fun _ h=>h,fun _ h=>by simp[Graph.isSplitBranch,hsplit] at h⟩
   · exact hconsumer configId output hedge
 · rename_i configId output _ hedge
   exact hconsumer configId output hedge
 · rename_i hedge
   rw[wp_pure]
   refine ⟨rfl,fun _ h=>h,fun h=>?_⟩
   rw[hedge] at h
   cases h

lemma wire_wp (wired:List Place) (s:State) :
  wp g.Endless (wire g makeCallerFromEnv wired) s
   (fun _ s'=>s'.assigned=s.assigned∧(∀ q∈s.edges,q∈s'.edges) ∧
    ∀ p∈wired,configured (g.edge p)→ g.isSplitBranch p=false→ p∈s'.edges)
   (fun _ s'=>s'.assigned=s.assigned) := by
 induction wired generalizing s with
 | nil =>
  unfold wire
  rw[wp_pure]
  exact ⟨rfl,fun _ h=>h,fun _ h=>nomatch h⟩
 | cons p rest ih =>
  unfold wire
  rw[wp_bind,wp_update,wp_bind]
  refine wp_mono (setConsumer_wp g makeCallerFromEnv p _) ?_ (fun _ _ h=>h)
  rintro _ s₁ ⟨hassigned₁,hedges₁,hprepared₁⟩
  refine wp_mono (ih s₁) ?_ (fun _ _ h=>h.trans hassigned₁)
  rintro _ s₂ ⟨hassigned₂,hedges₂,hprepared₂⟩
  refine ⟨hassigned₂.trans hassigned₁,fun q hq=>hedges₂ q (hedges₁ q hq),fun q hq hconfigured hbranch=>?_⟩
  rcases mem_cons.mp hq with rfl | hq
  · exact hedges₂ q (hprepared₁ hconfigured hbranch)
  · exact hprepared₂ q hq hconfigured hbranch

end Wire

def Graph.Visits (g:Graph) : Place → Prop
 | .root k | .rootError k => k < g.roots.length
 | .node n | .error n | .branch n _ => g.FromRoots g.Descends n

/-- The producer of the edge is configured, and the edge is made by `setConsumer` or a build
gets to it. -/
structure Graph.Prepares (g:Graph) (wired:List Place) (p:Place) : Prop where
 configured : configured (g.edge p)
 made : g.Visits p ∨ p ∈ wired ∧ g.isSplitBranch p = false

section Prepared

variable {g:Graph} {makeCallerFromEnv:LinkID → Option String} {wired:List Place} {fuel:ℕ} {s:State}
variable (hsmall:g.places.length < 2 ^ 63) (hfuel:g.places.length + 2 ≤ fuel)
variable (hrun:prepareTopology g makeCallerFromEnv wired fuel State.empty = some (.ok (),s))

include hsmall hfuel hrun

lemma prepareTopology_built : Built g s ∧
  ∀ p∈wired,configured (g.edge p)→ g.isSplitBranch p=false→ p∈s.edges := by
 obtain ⟨_,s₁,hwire,hbuild⟩:=bind_returned hrun
 obtain ⟨hassigned,-,hwired⟩:=wp_returned (wire_wp g makeCallerFromEnv wired State.empty) hwire
 obtain ⟨hbuilt,hedges⟩:=wp_returned (buildTopology_wp hsmall makeCallerFromEnv hfuel hassigned) hbuild
 exact ⟨hbuilt,fun p hp hconfigured hbranch=>hedges p (hwired p hp hconfigured hbranch)⟩

lemma dispatch_of_prepares {p:Place} (h:g.Prepares wired p) : (g.dispatch s p).isSome := by
 obtain ⟨hbuilt,hwired⟩:=prepareTopology_built hsmall hfuel hrun
 refine dispatch_isSome ?_
 obtain hvisits | ⟨hp,hbranch⟩:=h.made
 · have hroot:∀ k,k < g.roots.length→ OfRoot k p→ p∈s.edges:=fun k hk hp =>
    (hbuilt.roots k _ (List.getElem?_eq_getElem hk)).2.2 p hp h.configured
   have hnode:∀ n,g.FromRoots g.Descends n→ Own n p→ p∈s.edges:=by
    intro n hn hp
    have hplace:=place_of_edge hp (isSome_of_any h.configured)
    exact (hbuilt.complete n (hplace▸hbuilt.given hn)).outlets p hp h.configured
   cases p with
   | root k => exact hroot k hvisits (.inl rfl)
   | rootError k => exact hroot k hvisits (.inr rfl)
   | node n => exact hnode n hvisits (.inl rfl)
   | error n | branch n k => exact hnode n hvisits (.inr rfl)
 · exact hwired p hp h.configured hbranch

end Prepared

/-- After a build of a graph all of whose edges are prepared, they deliver to their own
consumers exactly when no two of them with the same pair of config ids differ. -/
theorem edge_dispatch (g : Graph) (makeCallerFromEnv : LinkID → Option String)
  (wired : List Place) (fuel : ℕ) (s : State) (hsmall : g.places.length < 2 ^ 63)
  (hfuel : g.places.length + 2 ≤ fuel)
  (hrun : prepareTopology g makeCallerFromEnv wired fuel State.empty = some (.ok (), s))
  (hprepares : ∀ p, (g.edge p).isSome → g.Prepares wired p) :
  DeliversOwn g s ↔ LinksAgree g := by
 refine (prepareTopology_registered hrun).delivers_iff fun p hedge=>?_
 exact dispatch_of_prepares hsmall hfuel hrun (hprepares p hedge)

def diamondGraph : Graph where
 roots := [.input 10 (some ⟨0,0,none⟩) none]
 nodes := [.split 11 [some ⟨1,0,none⟩,some ⟨2,0,none⟩],.mergeLink 3,.mergeLink 3,
  .merge 12 (some ⟨4,0,none⟩),.sink 13 none]
 roots_closed := by decide
 nodes_closed := by decide
 merges := by decide

theorem edge_dispatch_diamond :
  diamondGraph.linkOf 11 ⟨1, 0, none⟩ = diamondGraph.linkOf 11 ⟨2, 0, none⟩ ∧
   ∃ s, prepareTopology diamondGraph (fun _ => none) [.root 0, .node 3] 16 State.empty =
     some (.ok (), s) ∧ DeliversOwn diamondGraph s := by
 obtain ⟨s,hrun,-⟩ : ∃ s,
  prepareTopology diamondGraph (fun _=>none) [.root 0,.node 3] 16 State.empty=some (.ok (),s) ∧
  s.links=[] := exists_returned (by decide +kernel)
 refine ⟨by decide,s,hrun,(edge_dispatch _ _ _ _ _ (by decide) (by decide) hrun ?_).mpr ?_⟩
 · intro p hedge
   have hall:∀ p∈diamondGraph.places,(diamondGraph.edge p).isSome → configured (diamondGraph.edge p) ∧
    (p∈[Place.root 0,.node 3]∨p=.branch 0 0∨p=.branch 0 1):=by decide
   obtain ⟨hconfigured,hp⟩:=hall p (mem_places_of_edge hedge) hedge
   refine ⟨hconfigured,?_⟩
   have hsplit:diamondGraph.FromRoots diamondGraph.Descends 0:=
    ⟨_,mem_cons_self,0,mem_cons_self,.refl⟩
   obtain hp | rfl | rfl:=hp
   · refine .inr ⟨hp,?_⟩
     have hbranch:∀ p∈[Place.root 0,.node 3],diamondGraph.isSplitBranch p=false:=by decide
     exact hbranch p hp
   · exact .inl hsplit
   · exact .inl hsplit
 · intro p q source source' output output' hp hq hlink
   have hall:∀ p∈diamondGraph.places,∀ q∈diamondGraph.places,
    ∀ e∈diamondGraph.edge p,∀ e'∈diamondGraph.edge q,
    diamondGraph.linkOf e.1 e.2=diamondGraph.linkOf e'.1 e'.2 →
    diamondGraph.target e.2=diamondGraph.target e'.2:=by decide +kernel
   exact hall p (mem_places_of_edge (isSome_of_mem hp)) q (mem_places_of_edge (isSome_of_mem hq))
    (source,output) hp (source',output') hq hlink

/-- An input feeds a split, whose branches feed the left and the right side of a join. -/
def joinGraph : Graph where
 roots := [.input 10 (some ⟨0,0,none⟩) none]
 nodes := [.split 11 [some ⟨1,0,none⟩,some ⟨2,0,none⟩],
  .stream 12 (some ⟨3,1,none⟩),.joinLink 1 0,.sink 13 none]
 roots_closed := by decide
 nodes_closed := by decide
 merges := by decide

def errorGraph : Graph where
 roots := [.input 10 (some ⟨0,0,none⟩) none]
 nodes := [.process 11 (some ⟨1,0,none⟩) (some ⟨2,2,none⟩),
  .stream 12 (some ⟨3,1,none⟩),.joinLink 1 0,.sink 13 none]
 roots_closed := by decide
 nodes_closed := by decide
 merges := by decide

/-- The right branch's values arrive on the left side of the join, and the errors arrive there
as values of the process's output type. -/
theorem right_side_arrives_left :
  (joinGraph.edge (.branch 0 1) = some (11, ⟨2, 0, none⟩) ∧
   joinGraph.target ⟨2, 0, none⟩ = (.operator 1 1, 0) ∧
   ∃ s, prepareTopology joinGraph (fun _ => none) [.root 0, .node 1] 16 State.empty =
     some (.ok (), s) ∧
    joinGraph.dispatch s (.branch 0 1) = some (.operator 1 0, 0)) ∧
  errorGraph.edge (.error 0) = some (11, ⟨2, 2, none⟩) ∧
   errorGraph.target ⟨2, 2, none⟩ = (.operator 1 1, 2) ∧
   ∃ s, prepareTopology errorGraph (fun _ => none) [.root 0, .node 0, .error 0, .node 1] 16
     State.empty = some (.ok (), s) ∧
    errorGraph.dispatch s (.error 0) = some (.operator 1 0, 0) := by
 refine ⟨⟨rfl,by decide,?_⟩,rfl,by decide,?_⟩
 · exact exists_returned (by decide +kernel)
 · exact exists_returned (by decide +kernel)

/-- After a build, every operator that a message can reach can take it exactly when the build
descends to every such operator and the producers of its edges are configured; so are the
registered streams whose edges have a caller. -/
theorem topology_complete (g : Graph) (makeCallerFromEnv : LinkID → Option String)
  (wired : List Place) (fuel : ℕ) (s : State) (hsmall : g.places.length < 2 ^ 63)
  (hfuel : g.places.length + 2 ≤ fuel)
  (hrun : prepareTopology g makeCallerFromEnv wired fuel State.empty = some (.ok (), s)) :
  (∀ k p, k < g.roots.length → OfRoot k p → ((g.dispatch s p).isSome ↔ configured (g.edge p))) ∧
   ((∀ n, g.FromRoots g.Sends n → g.isOperator n → Covered g s n) ↔
    ∀ n, g.FromRoots g.Sends n → g.isOperator n → g.FromRoots g.Descends n ∧ g.Configured n) := by
 have hbuilt:=(prepareTopology_built hsmall hfuel hrun).1
 have hregistered:=prepareTopology_registered hrun
 refine ⟨fun k p hk hp=>⟨hregistered.configured,fun hconfigured=>?_⟩,?_,?_⟩
 · exact dispatch_isSome ((hbuilt.roots k _ (List.getElem?_eq_getElem hk)).2.2 p hp hconfigured)
 · intro hcovered n hn hoperator
   exact (hbuilt.covered_iff hregistered hsmall hoperator).mp (hcovered n hn hoperator)
 · intro hdescends n hn hoperator
   exact (hbuilt.covered_iff hregistered hsmall hoperator).mpr (hdescends n hn hoperator)

def sharedSinkGraph : Graph where
 roots := [.input 10 (some ⟨0,0,none⟩) none]
 nodes := [.process 11 (some ⟨1,0,none⟩) (some ⟨2,0,none⟩),
  .sink 12 none,.errorLink 1]
 roots_closed := by decide
 nodes_closed := by decide
 merges := by decide

theorem topology_complete_sharedSink :
  ∃ s, prepareTopology sharedSinkGraph (fun _ => none) [] 16 State.empty = some (.ok (), s) ∧
   ∀ n, sharedSinkGraph.FromRoots sharedSinkGraph.Sends n → sharedSinkGraph.isOperator n →
    Covered sharedSinkGraph s n := by
 obtain ⟨s,hrun,-⟩ : ∃ s,
  prepareTopology sharedSinkGraph (fun _=>none) [] 16 State.empty=some (.ok (),s) ∧
  s.links=[] := exists_returned (by decide +kernel)
 refine ⟨s,hrun,(topology_complete _ _ _ _ _ (by decide) (by decide) hrun).2.mpr fun n _ hn=>⟨?_,?_⟩⟩
 · refine ⟨_,mem_cons_self,0,mem_cons_self,?_⟩
   cases n with
   | zero => exact .refl
   | succ n =>
    cases n with
    | zero => exact .single ⟨_,rfl,mem_cons_self⟩
    | succ n =>
     cases n with
     | zero => cases hn
     | succ n => cases hn
 · intro p _ hedge
   revert hedge
   have hall:∀ p∈sharedSinkGraph.places,(sharedSinkGraph.edge p).isSome →
    configured (sharedSinkGraph.edge p):=by decide
   exact fun hedge=>hall p (mem_places_of_edge hedge) hedge

/-- A process whose errors go to a map that was constructed with its sink. -/
def errorPathGraph : Graph where
 roots := [.input 10 (some ⟨0,0,none⟩) none]
 nodes := [.process 11 (some ⟨1,0,none⟩) (some ⟨2,1,none⟩),
  .sink 12 none,.stream 13 (some ⟨3,1,none⟩),
  .sink 14 none]
 roots_closed := by decide
 nodes_closed := by decide
 merges := by decide

/-- An error is delivered to the map, which has no id and no caller for its sink. -/
theorem error_path_unprepared :
  errorPathGraph.FromRoots errorPathGraph.Sends 2 ∧ errorPathGraph.isOperator 2 ∧
   (errorPathGraph.edge (.node 2)).isSome ∧
   ∃ s, prepareTopology errorPathGraph (fun _ => none) [.root 0, .node 0, .error 0] 16
     State.empty = some (.ok (), s) ∧
    (errorPathGraph.dispatch s (.error 0), s.getId (.node 2),
     errorPathGraph.dispatch s (.node 2)) = (some (.operator 2 0, 1), 0, none) := by
 refine ⟨⟨_,mem_cons_self,0,mem_cons_self,.single ?_⟩,rfl,rfl,?_⟩
 · exact ⟨_,rfl,.inr (.inl mem_cons_self)⟩
 · exact exists_returned (by decide +kernel)

end ServiceLib.Topology
