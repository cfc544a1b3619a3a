import ServiceLib.ConfigReferences
import Mathlib.Data.List.Forall2
import Mathlib.Logic.Relation

set_option autoImplicit false
attribute [-instance] instBooleanRingBool

/-!
# The values of a substitution
-/
namespace ServiceLib.ConfigSubstitution
open DepthRun Relation List

section Values
variable (o:Options) (document:Node) (scanned:Prop)

mutual

/-- The substituted values of a node in a document. A map has every key with a plain value or a
fallback. -/
inductive Yields : Node → Node → Prop
 | null : Yields .null .null
 | text {source:String} {value:Node} (hname:variableName source = none) (h:substituteText o source = .ok value) :
  Yields (.scalar source) value
 | variable {source name:String} {entries:Entries} {node value:Node} (hname:variableName source = some name)
  (hvariables:Variables o document (.map entries)) (h:Shown o entries name node) (hvalue:Yields node value) :
  Yields (.scalar source) value
 | unset {source name:String} (hname:variableName source = some name) (h:Variables o document .null) :
  Yields (.scalar source) .null
 | sequence {items values:List Node} (h:List.Forall₂ Yields items values) : Yields (.sequence items) (.sequence values)
 | map {entries:Entries} {result:List (String × Node)} (offered:∀ key value,(key,value) ∈ result → Offered entries key value)
  (kept:∀ key node,decorated key = false → HasEntry entries key node ∨ HasEntry entries (key ++ "#fallback") node →
   key ∈ result.map Prod.fst) :
  Yields (.map entries) (.map (result.map fun entry=>(.scalar entry.1,entry.2)))

/-- The value of a key: what the text for it parses to, or a substituted node, which is a parsed
text itself only if texts are `scanned`. -/
inductive Offered : Entries → String → Node → Prop
 | text {entries:Entries} {key text:String} (h:TextFor o entries key text) : Offered entries key (o.parseReplacement text)
 | node {entries:Entries} {key:String} {source value:Node} (htext:Texted o entries key → scanned)
  (h:Source o entries key source) (hvalue:Yields source value) : Offered entries key value

end

structure Within (R:Node → Prop) : Prop where
 step : ∀ node node',R node → Refers o document node node' → R node'
 texts : ∀ entries,R (.map entries) → ∀ key,Texted o entries key → scanned

structure Later (h h':Heap) : Prop where
 sane : Sane o document h'
 grows : h.documents <+: h'.documents
 same : scanned ∨ h'.documents = h.documents

def Sound (R:Node → Prop) (sub:Substitute) : Prop :=
 ∀ x h node value h',Sane o document h → h.get x = some node → R node → sub x h = some (.ok (value,h')) →
  Later o document scanned h h' ∧ Yields o document scanned node value

structure Progress.Correct (entries:Entries) (h:Heap) (old:String → Prop) (adds:(Node × Node) × ℕ → String → Prop)
  (left:List ((Node × Node) × ℕ)) (s:Progress) : Prop where
 later : Later o document scanned h s.2
 among : ∀ entry ∈ left,entry ∈ entries.zipIdx
 offered : ∀ key value,(key,value) ∈ s.1 → Offered o document scanned entries key value
 old : ∀ key,old key → key ∈ s.1.map Prod.fst
 done : ∀ entry ∈ entries.zipIdx,entry ∈ left ∨ ∀ key,adds entry key → key ∈ s.1.map Prod.fst

end Values

variable {o:Options} {document:Node} {scanned:Prop} {R:Node → Prop} {sub:Substitute}
 {h h' h'':Heap} {place:Ref} {entries:Entries} {key:String} {value node:Node}

lemma TextFor.eq_of_environment {text text' :String} (hfor:TextFor o entries key text')
  (htext:environmentText o entries key=some text) : text'=text := by
 obtain htext' | ⟨hnone,-⟩:=hfor
 · cases htext.symm.trans htext'
   rfl
 · simp[environmentText,hnone] at htext

lemma hasEntry_of_find (hfind:Node.find entries key=some node) : HasEntry entries key node := by
 obtain ⟨-,hnone⟩ | ⟨i,node',-,hi,hfind'⟩:=subscript_cases root entries key
 · cases hfind.symm.trans hnone
 · cases hfind.symm.trans hfind'
   exact ⟨_,mem_of_getElem? hi,rfl,rfl⟩

lemma Sane.later (hs:Sane o document h) : Later o document scanned h h :=
 ⟨hs,prefix_rfl,.inr rfl⟩

lemma Later.trans (h₁:Later o document scanned h h') (h₂:Later o document scanned h' h'') :
  Later o document scanned h h'' :=
 ⟨h₂.sane,h₁.grows.trans h₂.grows,h₁.same.elim .inl fun h₁=>h₂.same.imp id fun h₂=>h₂.trans h₁⟩

lemma mem_assign {result:List (String×Node)} {key' :String} {value' :Node}
  (h:(key,value)∈assign result key' value') : key=key'∧value=value'∨(key,value)∈result := by
 unfold assign at h
 split at h
 · obtain ⟨entry,hmem,heq⟩:=mem_map.mp h
   split at heq
   · exact .inl (by simp_all)
   · exact .inr (heq▸hmem)
 · simpa[or_comm] using h

lemma keys_assign {result:List (String×Node)} {key' :String} (value' :Node) :
  key∈(assign result key' value').map Prod.fst↔key=key'∨key∈result.map Prod.fst := by
 unfold assign
 split
 · next hmem =>
   have hkeys:(result.map fun entry=>if entry.1=key' then (key',value') else entry).map Prod.fst=result.map Prod.fst:=by
    rw[List.map_map]
    refine List.map_congr_left fun entry _=>?_
    simp only[Function.comp_apply]
    split
    · next heq => exact heq.symm
    · rfl
   rw[hkeys]
   exact ⟨.inr,fun h=>h.elim (fun h=>h▸List.contains_iff_mem.mp hmem) id⟩
 · simp[or_comm]

section Loop
variable {old:String → Prop} {adds:(Node × Node) × ℕ → String → Prop} {left:List ((Node × Node) × ℕ)} {s s':Progress}
 {entry:(Node × Node) × ℕ} {step:Substitute → Progress → (Node × Node) × ℕ → Run Error Progress}

lemma Progress.Correct.skip (hs:Progress.Correct o document scanned entries h old adds (entry::left) s)
  (hadds:∀ key,adds entry key→ key∈s.1.map Prod.fst) :
  Progress.Correct o document scanned entries h old adds left s where
 later := hs.later
 among := fun entry' h=>hs.among entry' (.tail _ h)
 offered := hs.offered
 old := hs.old
 done := fun entry' h=>by
  obtain hmem | hdone:=hs.done entry' h
  · obtain rfl | hmem:=mem_cons.mp hmem
    · exact .inr hadds
    · exact .inl hmem
  · exact .inr hdone

lemma Progress.Correct.add (hs:Progress.Correct o document scanned entries h old adds (entry::left) s)
  (hlater:Later o document scanned s.2 h') (hoffered:Offered o document scanned entries key value)
  (hadds:∀ key',adds entry key'→ key'=key) :
  Progress.Correct o document scanned entries h old adds left (assign s.1 key value,h') :=
 have hgrown:Progress.Correct o document scanned entries h old adds (entry::left) (assign s.1 key value,h'):=
  { later := hs.later.trans hlater
    among := hs.among
    offered := fun key' value' h=>by
     obtain ⟨rfl,rfl⟩ | hmem:=mem_assign h
     · exact hoffered
     · exact hs.offered _ _ hmem
    old := fun key' h=>(keys_assign value).mpr (.inr (hs.old key' h))
    done := fun entry' h=>(hs.done entry' h).imp id fun hdone key' hadd=>
     (keys_assign value).mpr (.inr (hdone key' hadd)) }
 hgrown.skip fun key' hadd=>(keys_assign value).mpr (.inl (hadds key' hadd))

variable (hw:Within o document scanned R) (hsub:Sound o document scanned R sub)

section Entry
variable (hR:R (.map entries))
include hw hsub hR

lemma Action.Right.correct {action:Action} (hright:action.Right o document entries s (adds entry))
  (hs:Progress.Correct o document scanned entries h old adds (entry::left) s)
  (hrun:action.run sub s=some (.ok s')) : Progress.Correct o document scanned entries h old adds left s' := by
 cases hright with
 | stop e => cases hrun
 | skip hadds =>
  cases pure_eq_ok.mp hrun
  exact hs.skip hadds
 | store hadds htext =>
  cases pure_eq_ok.mp hrun
  exact hs.add hs.later.sane.later (.text htext) hadds
 | call hadds hsane hgrows hsame hget hsource =>
  obtain ⟨⟨value,h''⟩,hcall,hpure⟩:=bind_eq_ok.mp hrun
  cases pure_eq_ok.mp hpure
  have hlater:Later o document scanned s.2 _:=⟨hsane,hgrows,hsame.imp (hw.texts entries hR _) id⟩
  obtain ⟨hlater',hyields⟩:=hsub _ _ _ value h'' hsane hget (hw.step _ _ hR (.value hsource)) hcall
  exact hs.add (hlater.trans hlater') (.node (hw.texts entries hR _) hsource hyields) hadds

lemma Acts.correct (hacts:Acts o document place entries old adds step) (hdata:h.data place=some (.map entries))
  (hs:Progress.Correct o document scanned entries h old adds (entry::left) s)
  (hrun:step sub s entry=some (.ok s')) : Progress.Correct o document scanned entries h old adds left s' := by
 obtain ⟨action,haction,hright⟩:=hacts s entry hs.later.sane (Heap.data_grows hs.later.grows hdata)
  (hs.among entry (.head _)) hs.old
 exact hright.correct hw hsub hR hs (haction sub▸hrun)

end Entry

lemma Progress.Correct.start (hs:Sane o document h) :
  Progress.Correct o document scanned entries h (fun _=>False) adds entries.zipIdx ([],h) where
 later := hs.later
 among := fun _ h=>h
 offered := nofun
 old := nofun
 done := fun _ h=>.inl h

lemma exists_mem_zipIdx (hentry:HasEntry entries key node) : ∃ entry∈entries.zipIdx,entry.1.1.asString=.ok key := by
 obtain ⟨entry,hmem,hkey,-⟩:=hentry
 obtain ⟨i,hi⟩:=mem_iff_getElem?.mp hmem
 exact ⟨(entry,i),mem_zipIdx_iff_getElem?.mpr hi,hkey⟩

lemma Progress.Correct.next (hs:Progress.Correct o document scanned entries h (fun _=>False) addsPlain [] s) :
  Progress.Correct o document scanned entries h (fun key=>decorated key=false∧∃ plain,HasEntry entries key plain) adds
   entries.zipIdx s where
 later := hs.later
 among := fun _ h=>h
 offered := hs.offered
 old := fun key ⟨hplain,node,hentry⟩=>by
  obtain ⟨entry,hmem,hkey⟩:=exists_mem_zipIdx hentry
  obtain hleft | hdone:=hs.done entry hmem
  · cases hleft
  · exact hdone key ⟨hkey,hplain⟩
 done := fun _ h=>.inl h

lemma Progress.Correct.yields (hs:Progress.Correct o document scanned entries h
  (fun key=>decorated key=false∧∃ plain,HasEntry entries key plain) addsFallback [] s) :
  Yields o document scanned (.map entries) (.map (s.1.map fun entry=>(.scalar entry.1,entry.2))) := by
 refine .map hs.offered fun key node hplain hentry=>?_
 obtain hentry | hentry:=hentry
 · exact hs.old key ⟨hplain,node,hentry⟩
 · obtain ⟨entry,hmem,hkey⟩:=exists_mem_zipIdx hentry
   obtain hleft | hdone:=hs.done entry hmem
   · cases hleft
   · exact hdone key hkey

include hw hsub

lemma substituteMap_correct (hR:R (.map entries)) (hs:Sane o document h) (hdata:h.data place=some (.map entries))
  (hrun:substituteMap o sub place entries h=some (.ok (value,h'))) :
  Later o document scanned h h'∧Yields o document scanned (.map entries) value := by
 obtain ⟨s,hfirst,hrest⟩:=bind_eq_ok.mp hrun
 obtain ⟨s',hsecond,hpure⟩:=bind_eq_ok.mp hrest
 cases pure_eq_ok.mp hpure
 have hplain:=foldlM_rule (fun _ _ _ _=>plainEntry_acts.correct hw hsub hR hdata) (.start hs) hfirst
 have hall:=foldlM_rule (fun _ _ _ _=>fallbackEntry_acts.correct hw hsub hR hdata) hplain.next hsecond
 exact ⟨hall.later,hall.yields⟩

structure Items.Correct (o:Options) (document:Node) (scanned:Prop) (items:List Node)
  (h:Heap) (left:List (Node × ℕ)) (s:List Node × Heap) : Prop where
 later : Later o document scanned h s.2
 among : ∀ item ∈ left,item ∈ items.zipIdx
 values : ∃ done,items = done ++ left.map Prod.fst ∧ List.Forall₂ (Yields o document scanned) done s.1

omit hw hsub in
lemma Items.Correct.start {items:List Node} (hs:Sane o document h) :
  Items.Correct o document scanned items h items.zipIdx ([],h) :=
 ⟨hs.later,fun _ h=>h,[],by simp,.nil⟩

lemma substituteItem_correct {items:List Node} {left:List (Node×ℕ)} {s s' :List Node×Heap} {item:Node×ℕ}
  (hR:R (.sequence items)) (hdata:h.data place=some (.sequence items))
  (hs:Items.Correct o document scanned items h (item::left) s)
  (hrun:substituteItem sub place s item=some (.ok s')) : Items.Correct o document scanned items h left s' := by
 obtain ⟨⟨value,h'⟩,hcall,hpure⟩:=bind_eq_ok.mp hrun
 cases pure_eq_ok.mp hpure
 have hi:=mem_zipIdx_iff_getElem?.mp (hs.among item (.head _))
 have hget:=hs.later.sane.get_item (Heap.data_grows hs.later.grows hdata) hi
 obtain ⟨hlater,hyields⟩:=hsub _ _ _ value h' hs.later.sane hget (hw.step _ _ hR (.item (mem_of_getElem? hi))) hcall
 obtain ⟨done,hitems,hdone⟩:=hs.values
 refine ⟨hs.later.trans hlater,fun item' h=>hs.among item' (.tail _ h),done++[item.1],by simpa using hitems,?_⟩
 exact rel_append hdone (.cons hyields .nil)

end Loop

lemma Sane.parsed (hs:Sane o document h) : h.documents[0]?=some document∧h.documents[1]?=some o.variables := by
 obtain ⟨rest,hrest⟩:=hs.documents
 rw[← hrest]
 exact ⟨rfl,rfl⟩

lemma variables_shown (hs:Sane o document h) :
  ∃ node,h.get (variablesOf o document)=some node∧Variables o document node := by
 by_cases hgiven:variablesOf o document=⟨1,[]⟩
 · exact ⟨o.variables,hgiven▸hs.get_top hs.parsed.2,.given hgiven⟩
 · unfold variablesOf at hgiven⊢
   split at hgiven
   · next entries hnull =>
     have hdata:h.data root=some (.map entries):=by simp[Heap.data,root,hs.parsed.1,Node.part]
     obtain ⟨hnone,-⟩ | ⟨x,node,hsubscript,hget,hshown⟩:=hs.get_subscript hdata "variables"
     · simp[hnone] at hgiven
     · refine ⟨node,?_,.own hnull rfl hshown⟩
       simpa[hnull,hsubscript] using hget
   · cases hgiven rfl

lemma substituteScalar_correct {source:String} (hw:Within o document scanned R)
  (hsub:Sound o document scanned R sub) (hR:R (.scalar source)) (hs:Sane o document h)
  (hrun:substituteScalar o (variablesOf o document) sub source h=some (.ok (value,h'))) :
  Later o document scanned h h'∧Yields o document scanned (.scalar source) value := by
 unfold substituteScalar at hrun
 cases hname:variableName source with
 | none =>
  simp only[hname] at hrun
  rcases htext:substituteText o source with e | text
  · simp[of_eq_ok,htext,Except.map] at hrun
  · simp only[htext,of_eq_ok,Except.map,Except.ok.injEq,Prod.mk.injEq] at hrun
    obtain ⟨rfl,rfl⟩:=hrun
    exact ⟨hs.later,.text hname htext⟩
 | some name =>
  simp only[hname] at hrun
  obtain ⟨node,hget,hvariables⟩:=variables_shown hs
  simp only[hget] at hrun
  cases node with
  | null =>
   cases pure_eq_ok.mp hrun
   exact ⟨hs.later,.unset hname hvariables⟩
  | scalar text => cases of_eq_ok.mp hrun
  | sequence items => cases of_eq_ok.mp hrun
  | map entries =>
   obtain ⟨hnone,-⟩ | ⟨x,node,hsubscript,hget',hshown⟩:=hs.get_subscript hget name
   · simp only[hnone] at hrun
     cases of_eq_ok.mp hrun
   · simp only[hsubscript] at hrun
     obtain ⟨hlater,hyields⟩:=hsub x h node value h' hs hget' (hw.step _ _ hR (.variable hname hvariables hshown)) hrun
     exact ⟨hlater,.variable hname hvariables hshown hyields⟩

lemma substituteNode_correct (hw:Within o document scanned R) (depth:ℕ) :
  Sound o document scanned R (substituteNode o (variablesOf o document) depth) := by
 induction depth with
 | zero =>
  intro x h node value h' _ _ _ hrun
  cases hrun
 | succ depth ih =>
  intro x h node value h' hs hget hR hrun
  rw[substituteNode,hget] at hrun
  cases node with
  | null =>
   cases pure_eq_ok.mp hrun
   exact ⟨hs.later,.null⟩
  | scalar source => exact substituteScalar_correct hw ih hR hs hrun
  | sequence items =>
   obtain ⟨⟨values,h'⟩,hloop,hpure⟩:=bind_eq_ok.mp hrun
   cases pure_eq_ok.mp hpure
   have hall:=foldlM_rule (fun _ _ _ _=>substituteItem_correct hw ih hR hget) (.start hs) hloop
   obtain ⟨done,hitems,hdone⟩:=hall.values
   rw[map_nil,append_nil] at hitems
   exact ⟨hall.later,.sequence (hitems▸hdone)⟩
  | map entries => exact substituteMap_correct hw ih hR hs hget hrun

lemma sane_initial (o:Options) (document:Node) : Sane o document (initial o document) :=
 ⟨prefix_rfl,fun _=>.inl rfl⟩

lemma within_all (o:Options) (document:Node) : Within o document True fun _=>True :=
 ⟨fun _ _ _ _=>trivial,fun _ _ _ _=>trivial⟩

lemma substituteConfiguration_correct {depth:ℕ} (hw:Within o document scanned R) (hR:R document)
  (hrun:substituteConfiguration o depth document=some (.ok value)) :
  ∃ heap,substituteNode o (variablesOf o document) depth root (initial o document)=some (.ok (value,heap)) ∧
   Later o document scanned (initial o document) heap∧Yields o document scanned document value := by
 have hs:=sane_initial o document
 obtain ⟨r,hr,hmap⟩:=Option.map_eq_some_iff.mp hrun
 rcases r with e | ⟨value',heap⟩
 · cases hmap
 · cases hmap
   exact ⟨heap,hr,substituteNode_correct hw depth _ _ _ _ _ hs (hs.get_top hs.parsed.1) hR hr⟩

def referenceValue : Node :=
 .map [(.scalar "k",.scalar "${A}"),(.scalar "w#fallback",.scalar "plain"),(.scalar "w#env",.scalar "A")]

def referenceText : Node :=
 .map [(.scalar "variables",.map [(.scalar "x",.scalar "7")]),(.scalar "k",.scalar "plain"),
  (.scalar "k#env",.scalar "A"),(.scalar "w#fallback",.scalar "plain"),(.scalar "w#env",.scalar "A")]

lemma Yields.offered {values:Entries} (hyields:Yields o document scanned (.map entries) (.map values))
  (hmem:(.scalar key,value)∈values) : Offered o document scanned entries key value := by
 generalize hnode:Node.map values=node at hyields
 cases hyields with
 | map offered =>
  cases hnode
  obtain ⟨entry,hentry,heq⟩:=mem_map.mp hmem
  cases heq
  exact offered _ _ hentry

def nestedMap : Node :=
 .map [(.scalar "k",.sequence [.map [(.scalar "w#fallback",.scalar "1"),(.scalar "w#env",.scalar "A")]])]

end ServiceLib.ConfigSubstitution
