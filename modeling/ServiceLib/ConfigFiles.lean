import ServiceLib.ConfigSubstitutionValues

set_option autoImplicit false
attribute [-instance] instBooleanRingBool

/-!
# The files of a substitution

A substitution depends on no files but those that the document refers to.
-/
namespace ServiceLib.ConfigSubstitution
open DepthRun Relation

section Files
variable (o:Options)

inductive Names : Node → String → Prop
 | scalar {source path:String} (h:filePath source = some path) : Names (.scalar source) (o.resolve path)
 | map {entries:Entries} {key path:String} {node:Node} (h:Node.find entries (key ++ "#file") = some node)
  (hpath:node.asString = .ok path) : Names (.map entries) (o.resolve path)

def Referenced (document:Node) (path:String) : Prop :=
 ∃ node,ReflTransGen (Refers o document) document node ∧ Names o node path

variable {o} {files:String → Option String} {document:Node} {h:Heap} {place:Ref} {entries:Entries} {sub sub':Substitute}

lemma readSubstitutionFile_congr {path:String} (hfile:files path=o.files path) :
  { o with files := files }.readSubstitutionFile path=o.readSubstitutionFile path := by
 simp only[Options.readSubstitutionFile,Options.readConfigFile,hfile]

lemma substituteText_congr {source:String} (hfiles:∀ path,Names o (.scalar source) path→ files path=o.files path) :
  substituteText { o with files := files } source=substituteText o source := by
 unfold substituteText
 cases hfile:filePath source with
 | none => simp only[expand_files]; rfl
 | some path => exact congrArg (Except.map o.parseReplacement) (readSubstitutionFile_congr (hfiles _ (.scalar hfile)))

section Map
variable (hfiles:∀ path,Names o (.map entries) path → files path = o.files path)
include hfiles

lemma select_congr {key:String} {x:Ref} (hs:Sane o document h) (hdata:h.data place=some (.map entries)) :
  select { o with files := files } place entries h key x=select o place entries h key x := by
 unfold select
 obtain ⟨henv,-⟩ | ⟨y,node,henv,-⟩:=hs.get_decorated hdata (decorated_env key)
 · obtain ⟨hfile,-⟩ | ⟨y,node,hfile,hget,hfind⟩:=hs.get_decorated hdata (decorated_file key)
   · simp only[henv,hfile]
   · simp only[henv,hfile,Heap.asString,hget]
     rcases hpath:node.asString with e | path
     · rfl
     · exact congrArg (fun r=>r.bind fun value=>.ok (h.replace x (o.parseReplacement value)))
        (readSubstitutionFile_congr (hfiles _ (.map hfind hpath)))
 · simp only[henv]
   rfl

lemma plainEntry_congr {s:Progress} {entry:(Node×Node)×ℕ} (hs:Sane o document s.2)
  (hdata:s.2.data place=some (.map entries)) :
  plainEntry { o with files := files } sub place entries s entry=plainEntry o sub place entries s entry := by
 unfold plainEntry
 simp only[select_congr hfiles hs hdata]

end Map

def Agree (o:Options) (document:Node) (sub sub':Substitute) (node:Node) : Prop :=
 ∀ x h,Sane o document h → h.get x = some node → sub' x h = sub x h

lemma Action.Right.congr {s:Progress} {adds:String→ Prop} {action:Action} (hright:action.Right o document entries s adds)
  (hagree:∀ node,Refers o document (.map entries) node→ Agree o document sub sub' node) :
  action.run sub' s=action.run sub s := by
 cases hright with
 | stop => rfl
 | skip => rfl
 | store => rfl
 | call _ hsane _ _ hget hsource => simp only[Action.run,substituteKey,hagree _ (.value hsource) _ _ hsane hget]

lemma Acts.congr {old:String→ Prop} {adds:(Node×Node)×ℕ→ String→ Prop} {s:Progress}
  {step:Substitute→ Progress→ (Node×Node)×ℕ→ Run Error Progress} {step' :Progress→ (Node×Node)×ℕ→ Run Error Progress}
  (hacts:Acts o document place entries old adds step) (hdata:h.data place=some (.map entries))
  (hsub:Sound o document True (fun _=>True) sub)
  (hagree:∀ node,Refers o document (.map entries) node→ Agree o document sub sub' node)
  (hstep:∀ s entry,Sane o document s.2→ s.2.data place=some (.map entries)→ step' s entry=step sub' s entry)
  (hs:Progress.Correct o document True entries h old adds entries.zipIdx s) :
  entries.zipIdx.foldlM step' s=entries.zipIdx.foldlM (step sub) s := by
 refine foldlM_congr_of (I := Progress.Correct o document True entries h old adds)
  (fun _ _ _ _=>hacts.correct (within_all o document) hsub trivial hdata) (fun entry left s hs=>?_) hs
 have hdata':=Heap.data_grows hs.later.grows hdata
 obtain ⟨action,haction,hright⟩:=hacts s entry hs.later.sane hdata' (hs.among entry (.head _)) hs.old
 rw[hstep s entry hs.later.sane hdata',haction,haction]
 exact hright.congr hagree

lemma substituteMap_congr (hsub:Sound o document True (fun _=>True) sub)
  (hagree:∀ node,Refers o document (.map entries) node→ Agree o document sub sub' node)
  (hfiles:∀ path,Names o (.map entries) path→ files path=o.files path) (hs:Sane o document h)
  (hdata:h.data place=some (.map entries)) :
  substituteMap { o with files := files } sub' place entries h=substituteMap o sub place entries h := by
 have hfirst:=plainEntry_acts.congr hdata hsub hagree (fun _ _=>plainEntry_congr hfiles) (.start hs)
 rw[substituteMap,hfirst]
 refine bind_congr_ok fun s hrun=>?_
 have hplain:=foldlM_rule (fun _ _ _ _=>plainEntry_acts.correct (within_all o document) hsub trivial hdata) (.start hs) hrun
 have hsecond:entries.zipIdx.foldlM (fallbackEntry { o with files:=files } sub' place entries) s=_ :=
  fallbackEntry_acts.congr hdata hsub hagree (fun _ _ _ _=>rfl) hplain.next
 rw[hsecond]

lemma substituteScalar_congr {source:String}
  (hagree:∀ node,Refers o document (.scalar source) node→ Agree o document sub sub' node)
  (hfiles:∀ path,Names o (.scalar source) path→ files path=o.files path) (hs:Sane o document h) :
  substituteScalar { o with files := files } (variablesOf o document) sub' source h =
   substituteScalar o (variablesOf o document) sub source h := by
 unfold substituteScalar
 cases hname:variableName source with
 | none => simp only[substituteText_congr hfiles]
 | some name =>
  obtain ⟨node,hget,hvariables⟩:=variables_shown hs
  simp only[hget]
  cases node with
  | null => rfl
  | scalar text => rfl
  | sequence items => rfl
  | map entries =>
   obtain ⟨hnone,-⟩ | ⟨x,node,hsubscript,hget',hshown⟩:=hs.get_subscript hget name
   · simp only[hnone]
   · simp only[hsubscript,hagree node (.variable hname hvariables hshown) x h hs hget']

lemma substituteItems_congr {items:List Node} (hsub:Sound o document True (fun _=>True) sub)
  (hagree:∀ node,Refers o document (.sequence items) node→ Agree o document sub sub' node) (hs:Sane o document h)
  (hdata:h.data place=some (.sequence items)) :
  items.zipIdx.foldlM (substituteItem sub' place) ([],h)=items.zipIdx.foldlM (substituteItem sub place) ([],h) := by
 refine foldlM_congr_of (I := Items.Correct o document True items h)
  (fun _ _ _ _=>substituteItem_correct (within_all o document) hsub trivial hdata) (fun item left s hs=>?_) (.start hs)
 have hi:=List.mem_zipIdx_iff_getElem?.mp (hs.among item (.head _))
 have hget:=hs.later.sane.get_item (Heap.data_grows hs.later.grows hdata) hi
 simp only[substituteItem,hagree _ (.item (List.mem_of_getElem? hi)) _ _ hs.later.sane hget]

lemma substituteNode_congr (hfiles:∀ path,Referenced o document path→ files path=o.files path) (depth:ℕ) {node:Node}
  (hnode:ReflTransGen (Refers o document) document node) :
  Agree o document (substituteNode o (variablesOf o document) depth)
   (substituteNode { o with files := files } (variablesOf o document) depth) node := by
 induction depth generalizing node with
 | zero =>
  intro x h _ _
  rfl
 | succ depth ih =>
  intro x h hs hget
  have hagree:=fun node' hrefers=>@ih node' (hnode.tail hrefers)
  have hnames:=fun path hname=>hfiles path ⟨node,hnode,hname⟩
  have hsub:=substituteNode_correct (within_all o document) depth
  simp only[substituteNode,hget]
  cases node with
  | null => rfl
  | scalar source => exact substituteScalar_congr hagree hnames hs
  | sequence items => simp only[substituteItems_congr hsub hagree hs hget]
  | map entries => exact substituteMap_congr hsub hagree hnames hs hget

lemma substituteConfiguration_congr (hfiles:∀ path,Referenced o document path→ files path=o.files path) (depth:ℕ) :
  substituteConfiguration { o with files := files } depth document=substituteConfiguration o depth document := by
 have hs:=sane_initial o document
 exact congrArg (Option.map (Except.map Prod.fst))
  (substituteNode_congr hfiles depth .refl root (initial o document) hs (hs.get_top hs.parsed.1))

end Files
end ServiceLib.ConfigSubstitution
