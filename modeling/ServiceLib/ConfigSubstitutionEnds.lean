import ServiceLib.ConfigSubstitutionValues
import Mathlib.Order.WellFounded

set_option autoImplicit false
attribute [-instance] instBooleanRingBool

/-!
# When a substitution ends
-/
namespace ServiceLib.ConfigSubstitution
open DepthRun List

section Deepens
variable {o:Options} {sub sub':Substitute} {place:Ref} {entries:Entries}

section Extends
variable (hsub:∀ x h,Extends (sub x h) (sub' x h))
include hsub

lemma substituteKey_extends (s:Progress) (key:String) (x:Ref) (h:Heap) :
  Extends (substituteKey sub s key x h) (substituteKey sub' s key x h) :=
 (hsub x h).bind fun _=>.refl _

lemma plainEntry_extends (s:Progress) (entry:(Node×Node)×ℕ) :
  Extends (plainEntry o sub place entries s entry) (plainEntry o sub' place entries s entry) := by
 refine .bind (.refl _) fun key=>?_
 split
 · exact .refl _
 · exact .bind (.refl _) fun ⟨x,h⟩=>substituteKey_extends hsub s key x h

lemma fallbackEntry_extends (s:Progress) (entry:(Node×Node)×ℕ) :
  Extends (fallbackEntry o sub place entries s entry) (fallbackEntry o sub' place entries s entry) := by
 refine .bind (.refl _) fun name=>?_
 split
 · exact .refl _
 · dsimp only[substituteFallback]
   split
   · exact .refl _
   · split
     · refine .bind (.refl _) fun text=>?_
       split
       · exact .refl _
       · exact substituteKey_extends hsub s _ _ _
     · exact substituteKey_extends hsub s _ _ _

lemma substituteItem_extends (s:List Node×Heap) (item:Node×ℕ) :
  Extends (substituteItem sub place s item) (substituteItem sub' place s item) :=
 (hsub _ _).bind fun _=>.refl _

lemma substituteScalar_extends (vars:Ref) (source:String) (h:Heap) :
  Extends (substituteScalar o vars sub source h) (substituteScalar o vars sub' source h) := by
 unfold substituteScalar
 split
 · split
   · exact .refl _
   · exact .refl _
   · exact .refl _
   · exact .refl _
   · split
     · exact hsub _ h
     · exact .refl _
 · exact .refl _

end Extends

lemma substituteNode_deepens (o:Options) (vars x:Ref) (h:Heap) : Deepens fun depth=>substituteNode o vars depth x h := by
 intro d d' hle
 induction d generalizing d' x h with
 | zero =>
  intro r hr
  cases hr
 | succ d ih =>
  obtain ⟨d',rfl⟩:=Nat.exists_eq_add_of_lt hle
  have hsub:∀ x h,Extends (substituteNode o vars d x h) (substituteNode o vars (d+d') x h):=
   fun x h=>ih x h _ (Nat.le_add_right d d')
  simp only[substituteNode]
  split
  · exact .refl _
  · exact .refl _
  · exact substituteScalar_extends hsub vars _ h
  · exact (Extends.foldlM (substituteItem_extends hsub) _ _).bind fun _=>.refl _
  · exact (Extends.foldlM (plainEntry_extends hsub) _ _).bind fun _ =>
     (Extends.foldlM (fallbackEntry_extends hsub) _ _).bind fun _=>.refl _

end Deepens

section Ends
variable {o:Options} {document:Node} {h:Heap} {place:Ref} {entries:Entries}

/-- The substitution ends in every heap where the place shows the node. -/
def NodeEnds (o:Options) (document node:Node) : Prop :=
 ∀ x h,Sane o document h → h.get x = some node → Ends fun depth=>substituteNode o (variablesOf o document) depth x h

section Loop
variable {old:String → Prop} {adds:(Node × Node) × ℕ → String → Prop} {s:Progress}
 {step:Substitute → Progress → (Node × Node) × ℕ → Run Error Progress}
 (hnodes:∀ node,Refers o document (.map entries) node → NodeEnds o document node)
include hnodes

lemma Action.Right.ends {adds:String→ Prop} {action:Action} (hright:action.Right o document entries s adds) :
  Ends fun depth=>action.run (substituteNode o (variablesOf o document) depth) s := by
 cases hright with
 | stop e => exact ⟨0,.error e,rfl⟩
 | skip => exact ⟨0,.ok s,rfl⟩
 | store => exact ⟨0,.ok _,rfl⟩
 | call _ hsane _ _ hget hsource =>
  exact .bind (substituteNode_deepens o _ _ _) (fun _ _ _ _=>.refl _) (hnodes _ (.value hsource) _ _ hsane hget)
   fun _ a _=>⟨0,.ok _,rfl⟩

lemma Acts.ends (hacts:Acts o document place entries old adds step) (hdata:h.data place=some (.map entries))
  (hextends:∀ sub sub',(∀ x h,Extends (sub x h) (sub' x h))→ ∀ s entry,Extends (step sub s entry) (step sub' s entry))
  (hs:Progress.Correct o document True entries h old adds entries.zipIdx s) :
  Ends fun depth=>entries.zipIdx.foldlM (step (substituteNode o (variablesOf o document) depth)) s := by
 refine .foldlM (I := Progress.Correct o document True entries h old adds) (fun s entry d d' hle=>hextends _ _ (fun x h=>substituteNode_deepens o _ x h d d' hle) s entry)
  (fun entry left s hs=>?_)
  (fun d entry left s s' hs hrun=>hacts.correct (within_all o document) (substituteNode_correct (within_all o document) d)
   trivial hdata hs hrun) hs
 obtain ⟨action,haction,hright⟩:=hacts s entry hs.later.sane (Heap.data_grows hs.later.grows hdata)
  (hs.among entry (.head _)) hs.old
 simpa only[haction] using hright.ends hnodes

end Loop

lemma substituteMap_ends (hnodes:∀ node,Refers o document (.map entries) node→ NodeEnds o document node)
  (hs:Sane o document h) (hdata:h.data place=some (.map entries)) :
  Ends fun depth=>substituteMap o (substituteNode o (variablesOf o document) depth) place entries h := by
 have hdeep:=fun d d' hle x h=>substituteNode_deepens o (variablesOf o document) x h d d' hle
 have hw:=within_all o document
 refine .bind (fun d d' hle=>.foldlM (plainEntry_extends (hdeep d d' hle)) _ _)
  (fun s d d' hle=>(Extends.foldlM (fallbackEntry_extends (hdeep d d' hle)) _ _).bind fun _=>.refl _)
  (plainEntry_acts.ends hnodes hdata (fun _ _=>plainEntry_extends) (.start hs)) fun d s hrun=>?_
 have hplain:=foldlM_rule (fun _ _ _ _=>plainEntry_acts.correct hw (substituteNode_correct hw d) trivial hdata) (.start hs) hrun
 exact .bind (fun d d' hle=>.foldlM (fallbackEntry_extends (hdeep d d' hle)) _ _) (fun _ _ _ _=>.refl _)
  (fallbackEntry_acts.ends hnodes hdata (fun _ _=>fallbackEntry_extends) hplain.next) fun _ _ _=>⟨0,.ok _,rfl⟩

lemma substituteItems_ends {items:List Node} (hnodes:∀ node,Refers o document (.sequence items) node→ NodeEnds o document node)
  (hs:Sane o document h) (hdata:h.data place=some (.sequence items)) :
  Ends fun depth=>items.zipIdx.foldlM (substituteItem (substituteNode o (variablesOf o document) depth) place) ([],h) := by
 have hw:=within_all o document
 refine .foldlM (I := Items.Correct o document True items h)
  (fun s item d d' hle=>substituteItem_extends (fun x h=>substituteNode_deepens o _ x h d d' hle) s item)
  (fun item left s hs=>?_)
  (fun d _ _ _ _=>substituteItem_correct hw (substituteNode_correct hw d) trivial hdata) (.start hs)
 have hi:=mem_zipIdx_iff_getElem?.mp (hs.among item (.head _))
 have hget:=hs.later.sane.get_item (Heap.data_grows hs.later.grows hdata) hi
 exact .bind (substituteNode_deepens o _ _ _) (fun _ _ _ _=>.refl _)
  (hnodes _ (.item (mem_of_getElem? hi)) _ _ hs.later.sane hget) fun _ _ _=>⟨0,.ok _,rfl⟩

lemma substituteScalar_ends {source:String} (hnodes:∀ node,Refers o document (.scalar source) node→ NodeEnds o document node)
  (hs:Sane o document h) :
  Ends fun depth=>substituteScalar o (variablesOf o document) (substituteNode o (variablesOf o document) depth) source h := by
 unfold substituteScalar
 cases hname:variableName source with
 | none => exact ⟨0,_,rfl⟩
 | some name =>
  obtain ⟨node,hget,hvariables⟩:=variables_shown hs
  simp only[hget]
  cases node with
  | null => exact ⟨0,.ok _,rfl⟩
  | scalar text => exact ⟨0,_,rfl⟩
  | sequence items => exact ⟨0,_,rfl⟩
  | map entries =>
   obtain ⟨hnone,-⟩ | ⟨x,node,hsubscript,hget',hshown⟩:=hs.get_subscript hget name
   · simp only[hnone]
     exact ⟨0,_,rfl⟩
   · simp only[hsubscript]
     exact hnodes node (.variable hname hvariables hshown) x h hs hget'

lemma node_ends {node:Node} (hacc:Acc (fun a b=>Refers o document b a) node) : NodeEnds o document node := by
 induction hacc with
 | intro node _ ih =>
  intro x h hs hget
  have hsucc: (Ends fun depth=>substituteNode o (variablesOf o document) (depth+1) x h) →
   Ends fun depth=>substituteNode o (variablesOf o document) depth x h := fun ⟨depth,r,hr⟩=>⟨depth+1,r,hr⟩
  refine hsucc ?_
  simp only[substituteNode,hget]
  cases node with
  | null => exact ⟨0,.ok _,rfl⟩
  | scalar source => exact substituteScalar_ends ih hs
  | sequence items =>
   exact .bind (fun d d' hle=>.foldlM (substituteItem_extends fun x h=>substituteNode_deepens o _ x h d d' hle) _ _)
    (fun _ _ _ _=>.refl _) (substituteItems_ends ih hs hget) fun _ _ _=>⟨0,.ok _,rfl⟩
  | map entries => exact substituteMap_ends ih hs hget

end Ends

def namedVariable : Node :=
 .map [(.scalar "variables",.map [(.scalar "a",.scalar "1")]),(.scalar "k",.scalar "$a")]

def selfReference : Node :=
 .map [(.scalar "variables",.map [(.scalar "a",.scalar "$a")])]

lemma substituteMap_eq_none {o:Options} {sub:Substitute} {place x:Ref} {entry:Node×Node} {h h' :Heap} {key:String}
  (hentry:plainEntry o sub place [entry] ([],h) (entry,0)=substituteKey sub ([],h) key x h') (hsub:sub x h'=none) :
  substituteMap o sub place [entry] h=none := by
 have hkey:substituteKey sub ([],h) key x h'=none:=by
  rw[substituteKey,hsub]
  rfl
 rw[substituteMap,show [entry].zipIdx=[(entry,0)] from rfl,foldlM_cons,hentry,hkey]
 rfl

example : substituteConfiguration { load := fun text=>some (.scalar text),environment := fun _=>some "$a" } 9
  (.map [(.scalar "variables",.map [(.scalar "a",.scalar "plain"),(.scalar "a#env",.scalar "A")])])=none := by
 rfl

end ServiceLib.ConfigSubstitution
