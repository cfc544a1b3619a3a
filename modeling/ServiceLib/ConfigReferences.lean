import ServiceLib.ConfigSubstitution
import Mathlib.Data.List.Infix

set_option autoImplicit false
attribute [-instance] instBooleanRingBool

/-!
# The references of a configuration

Which nodes a node of the document leads to, read off the document, the environment and the files
alone, and what the places of a heap show while the substitution assigns to them.
-/
namespace ServiceLib.ConfigSubstitution
open DepthRun Function List

section Sources
variable (o:Options) (entries:Entries) (key:String)

/-- The text of the environment variable that `key#env` names, if it is set. -/
def environmentText : Option String :=
 (Node.find entries (key ++ "#env")).bind fun name=>name.asString.toOption.bind o.environment

def fileText : Option String :=
 (Node.find entries (key ++ "#file")).bind fun path =>
  path.asString.toOption.bind fun path=>(o.readSubstitutionFile (o.resolve path)).toOption

def HasEntry (node:Node) : Prop :=
 ∃ entry ∈ entries,entry.1.asString = .ok key ∧ entry.2 = node

/-- The text that goes before the plain values of a key, a file only without `key#env`. -/
def TextFor (text:String) : Prop :=
 environmentText o entries key = some text ∨
  Node.find entries (key ++ "#env") = none ∧ fileText o entries key = some text

inductive Override : Node → Prop
 | text {text:String} (h:TextFor o entries key text) : Override (o.parseReplacement text)
 | fallback {node:Node} (henv:(Node.find entries (key ++ "#env")).isSome) (hnone:environmentText o entries key = none)
  (h:Node.find entries (key ++ "#fallback") = some node) : Override node

inductive Selected (plain:Node) : Node → Prop
 | override {node:Node} (h:Override o entries key node) : Selected plain node
 | plain (h:∀ node,¬Override o entries key node) : Selected plain plain

/-- What the entry with this key can show. -/
inductive Shown : Node → Prop
 | own {node:Node} (h:Node.find entries key = some node) : Shown node
 | override {plain node:Node} (h:Node.find entries key = some plain) (hplain:decorated key = false)
  (hnode:Override o entries key node) : Shown node

inductive Variables (document:Node) : Node → Prop
 | given (h:variablesOf o document = ⟨1,[]⟩) : Variables document o.variables
 | own {entries:Entries} {node:Node} (hnull:o.variables = .null) (hdocument:document = .map entries)
  (h:Shown o entries "variables" node) : Variables document node

def Texted : Prop :=
 decorated key = false ∧ (∃ plain,HasEntry entries key plain) ∧ ∃ text,TextFor o entries key text

/-- The nodes that are substituted for a key: what is selected for its plain value or, without
one, its fallback. -/
inductive Source : Node → Prop
 | plain {plain node:Node} (h:HasEntry entries key plain) (hplain:decorated key = false)
  (hnode:Selected o entries key plain node) : Source node
 | fallback {node:Node} (h:HasEntry entries (key ++ "#fallback") node)
  (hplain:∀ plain,HasEntry entries key plain → decorated key = true) (hnone:environmentText o entries key = none) :
  Source node

/-- The nodes whose substitution is part of that of a node. -/
inductive Refers (document:Node) : Node → Node → Prop
 | item {items:List Node} {item:Node} (h:item ∈ items) : Refers document (.sequence items) item
 | value {entries:Entries} {key:String} {node:Node} (h:Source o entries key node) : Refers document (.map entries) node
 | variable {entries:Entries} {source name:String} {node:Node} (hname:variableName source = some name)
  (hvariables:Variables o document (.map entries)) (h:Shown o entries name node) : Refers document (.scalar source) node

end Sources

lemma endsWith_append (text suffix:String) : endsWith (text++suffix) suffix=true := by
 simp[endsWith]

lemma endsWith_split {text suffix:String} (h:endsWith text suffix=true) :
  text=.ofList (text.toList.take (text.toList.length - suffix.toList.length))++suffix := by
 obtain ⟨start,hstart⟩:=isSuffixOf_iff_suffix.mp h
 apply String.toList_inj.mp
 rw[String.toList_append,String.toList_ofList,← hstart]
 simp

lemma decorated_env (key:String) : decorated (key++ "#env")=true := by
 simp[decorated,endsWith_append]

lemma decorated_fallback (key:String) : decorated (key++ "#fallback")=true := by
 simp[decorated,endsWith_append]

lemma decorated_file (key:String) : decorated (key++ "#file")=true := by
 simp[decorated,endsWith_append]

section Places
variable {o:Options} {document:Node} {h h':Heap} {entries:Entries} {key:String} {plain node:Node} {place x:Ref} {i:ℕ}

lemma part_append (path:List ℕ) : node.part (path++[i])=(node.part path).bind fun part=>part.part [i] := by
 induction path generalizing node with
 | nil => rfl
 | cons j path ih =>
  cases node with
  | null => rfl
  | scalar text => rfl
  | sequence items =>
   simp only[cons_append,Node.part]
   cases items[j]? with
   | none => rfl
   | some item => exact ih
  | map entries =>
   simp only[cons_append,Node.part]
   cases entries[j]? with
   | none => rfl
   | some entry => exact ih

lemma Heap.data_child : h.data (place.child i)=(h.data place).bind fun node=>node.part [i] := by
 simp only[data,Ref.child,part_append]
 cases h.documents[place.document]? <;> rfl

lemma Heap.data_grows (hgrows:h.documents<+:h'.documents) (hx:h.data x=some node) : h'.data x=some node := by
 obtain ⟨parsed,hparsed,hpart⟩:=Option.bind_eq_some_iff.mp hx
 obtain ⟨rest,hrest⟩:=hgrows
 refine Option.bind_eq_some_iff.mpr ⟨parsed,?_,hpart⟩
 rw[← hrest,List.getElem?_append_left (List.getElem?_eq_some_iff.mp hparsed).1,hparsed]

lemma child_inj {place' :Ref} {i' :ℕ} (heq:place.child i=place'.child i') : place=place'∧i=i' := by
 simp only[Ref.child,Ref.mk.injEq] at heq
 obtain ⟨hpath,hi⟩:=append_inj' heq.2 rfl
 cases place
 cases place'
 simp_all

structure Moved (o:Options) (h:Heap) (place:Ref) (entries:Entries) (i:ℕ) (key:String) (plain node:Node) : Prop where
 data : h.data place = some (.map entries)
 entry : ∃ name,entries[i]? = some (name,plain) ∧ name.asString = .ok key
 undecorated : decorated key = false
 shown : h.get (place.child i) = some node
 override : Override o entries key node

structure Sane (o:Options) (document:Node) (h:Heap) : Prop where
 documents : [document,o.variables] <+: h.documents
 moved : ∀ x,h.shown x = x ∨ ∃ place entries i key plain node,x = place.child i ∧ Moved o h place entries i key plain node

lemma child_ne (d:ℕ) : place.child i≠⟨d,[]⟩ := by
 simp[Ref.child]

lemma Sane.get_top {d:ℕ} (hs:Sane o document h) (hd:h.documents[d]?=some node) : h.get ⟨d,[]⟩=some node := by
 have hshown:h.shown ⟨d,[]⟩=⟨d,[]⟩:=by
  obtain hshown | ⟨_,_,_,_,_,_,heq,-⟩:=hs.moved ⟨d,[]⟩
  · exact hshown
  · exact absurd heq.symm (child_ne d)
 simp[Heap.get,hshown,Heap.data,hd,Node.part]

lemma Sane.get_item {items:List Node} (hs:Sane o document h) (hdata:h.data place=some (.sequence items))
  (hi:items[i]?=some node) : h.get (place.child i)=some node := by
 obtain hshown | ⟨_,_,_,_,_,_,heq,hmoved⟩:=hs.moved (place.child i)
 · simp[Heap.get,hshown,Heap.data_child,hdata,Node.part,hi]
 · obtain ⟨rfl,rfl⟩:=child_inj heq
   cases hdata.symm.trans hmoved.data

/-- An entry shows its own value or, under an undecorated key, the one that overrides it. -/
lemma Sane.get_entry {name:Node} (hs:Sane o document h) (hdata:h.data place=some (.map entries))
  (hi:entries[i]?=some (name,plain)) (hkey:name.asString=.ok key) :
  h.get (place.child i)=some plain ∨
   decorated key=false∧∃ node,h.get (place.child i)=some node∧Override o entries key node := by
 obtain hshown | ⟨_,_,_,_,_,node,heq,hmoved⟩:=hs.moved (place.child i)
 · exact .inl (by simp[Heap.get,hshown,Heap.data_child,hdata,Node.part,hi])
 · obtain ⟨rfl,rfl⟩:=child_inj heq
   cases hdata.symm.trans hmoved.data
   obtain ⟨_,hi',hkey'⟩:=hmoved.entry
   cases hi.symm.trans hi'
   cases hkey.symm.trans hkey'
   exact .inr ⟨hmoved.undecorated,node,hmoved.shown,hmoved.override⟩

lemma subscript_cases (place:Ref) (entries:Entries) (key:String) :
  subscript place entries key=none∧Node.find entries key=none ∨
   ∃ i node,subscript place entries key=some (place.child i)∧entries[i]?=some (.scalar key,node) ∧
    Node.find entries key=some node := by
 unfold subscript Node.find
 cases hidx:entries.findIdx? (Node.hasKey key) with
 | none =>
  have hnone:entries.find? (Node.hasKey key)=none:=by
   rw[List.findIdx?_eq_none_iff] at hidx
   simpa using hidx
  exact .inl ⟨rfl,by rw[hnone]; rfl⟩
 | some i =>
  obtain ⟨hi,hfound,hbefore⟩:=List.findIdx?_eq_some_iff_getElem.mp hidx
  have hfind:entries.find? (Node.hasKey key)=some entries[i]:=
   List.find?_eq_some_iff_getElem.mpr ⟨hfound,i,hi,rfl,by simpa using hbefore⟩
  have hname:entries[i].1=.scalar key:=by
   revert hfound
   rcases entries[i] with ⟨_ | text | items | entries,value⟩ <;> simp[Node.hasKey]
  refine .inr ⟨i,entries[i].2,rfl,?_,by rw[hfind]; rfl⟩
  rw[← hname,List.getElem?_eq_getElem hi]

lemma Sane.get_subscript (hs:Sane o document h) (hdata:h.data place=some (.map entries)) (key:String) :
  subscript place entries key=none∧Node.find entries key=none ∨
   ∃ x node,subscript place entries key=some x∧h.get x=some node∧Shown o entries key node := by
 obtain hnone | ⟨i,plain,hsub,hi,hfind⟩:=subscript_cases place entries key
 · exact .inl hnone
 · obtain hget | ⟨hplain,node,hget,hnode⟩:=hs.get_entry hdata hi rfl
   · exact .inr ⟨_,plain,hsub,hget,.own hfind⟩
   · exact .inr ⟨_,node,hsub,hget,.override hfind hplain hnode⟩

lemma Sane.get_decorated (hs:Sane o document h) (hdata:h.data place=some (.map entries))
  (hkey:decorated key=true) : subscript place entries key=none∧Node.find entries key=none ∨
   ∃ x node,subscript place entries key=some x∧h.get x=some node∧Node.find entries key=some node := by
 obtain hnone | ⟨x,node,hsub,hget,hshown⟩:=hs.get_subscript hdata key
 · exact .inl hnone
 · cases hshown with
   | own hfind => exact .inr ⟨x,node,hsub,hget,hfind⟩
   | override _ hplain => cases hkey.symm.trans hplain

lemma not_override (henv:Node.find entries (key++ "#env")=none) (hfile:Node.find entries (key++ "#file")=none) :
  ¬Override o entries key node := by
 intro hnode
 cases hnode with
 | text htext => simp[TextFor,environmentText,fileText,henv,hfile] at htext
 | fallback hsome => simp[henv] at hsome

section Plain
variable (hplain:∀ entry ∈ entries,∀ name,entry.1.asString = .ok name → decorated name = false)
include hplain

lemma find_decorated (hkey:decorated key=true) : Node.find entries key=none := by
 obtain ⟨-,hfind⟩ | ⟨i,node,-,hi,-⟩:=subscript_cases root entries key
 · exact hfind
 · cases hkey.symm.trans (hplain _ (mem_of_getElem? hi) key rfl)

lemma not_override_plain : ¬Override o entries key node :=
 not_override (find_decorated hplain (decorated_env key)) (find_decorated hplain (decorated_file key))

lemma shown_plain (hshown:Shown o entries key node) : Node.find entries key=some node := by
 cases hshown with
 | own hfind => exact hfind
 | override _ _ hnode => exact absurd hnode (not_override_plain hplain)

lemma refers_plain (hrefers:Refers o document (.map entries) node) : node∈entries.map Prod.snd := by
 have hvalue:∀ key node,HasEntry entries key node→ node∈entries.map Prod.snd:=fun _ _ ⟨_,hmem,_,heq⟩ =>
  heq▸mem_map_of_mem hmem
 cases hrefers with
 | value hsource =>
  cases hsource with
  | plain hentry _ hselected =>
   cases hselected with
   | override hnode => exact absurd hnode (not_override_plain hplain)
   | plain => exact hvalue _ _ hentry
  | fallback hentry => exact hvalue _ _ hentry

end Plain

structure Picked (o:Options) (document:Node) (entries:Entries) (key:String) (plain:Node) (h:Heap) (x:Ref) (h':Heap) :
  Prop where
 sane : Sane o document h'
 grows : h.documents <+: h'.documents
 node : ∃ node,h'.get x = some node ∧ Selected o entries key plain node
 same : (∀ text,¬TextFor o entries key text) → h'.documents = h.documents

section Assign
variable {name:Node} {text:String}

lemma Heap.get_assign (h:Heap) (x y:Ref) : (h.assign x y).get x=h.get y∧(h.assign x y).get y=h.get y := by
 change h.data (update h.shown x (h.shown y) x)=_∧h.data (update h.shown x (h.shown y) y)=_
 refine ⟨by rw[update_self]; rfl,?_⟩
 by_cases hy:y=x
 · rw[hy,update_self]
   rfl
 · rw[update_of_ne hy]
   rfl

variable (hs:Sane o document h) (hdata:h.data place = some (.map entries)) (hi:entries[i]? = some (name,plain))
 (hkey:name.asString = .ok key)
include hs hdata hi hkey

lemma Sane.picked_own (hnone:∀ node,¬Override o entries key node) :
  Picked o document entries key plain h (place.child i) h := by
 obtain hget | ⟨-,node,-,hnode⟩:=hs.get_entry hdata hi hkey
 · exact ⟨hs,prefix_rfl,⟨plain,hget,.plain hnone⟩,fun _=>rfl⟩
 · exact absurd hnode (hnone node)

variable (hplain:decorated key = false)
include hplain

lemma Sane.assign {y:Ref} (hy:h.get y=some node) (hnode:Override o entries key node) :
  Sane o document (h.assign (place.child i) y) := by
 refine ⟨hs.documents,fun x=>?_⟩
 by_cases hx:x=place.child i
 · exact .inr ⟨place,entries,i,key,plain,node,hx,hdata,⟨name,hi,hkey⟩,hplain,(h.get_assign _ y).1.trans hy,hnode⟩
 · have hsame:(h.assign (place.child i) y).shown x=h.shown x:=update_of_ne hx _ _
   obtain hshown | ⟨place',entries',i',key',plain',node',rfl,hmoved⟩:=hs.moved x
   · exact .inl (hsame.trans hshown)
   · exact .inr ⟨place',entries',i',key',plain',node',rfl,hmoved.data,hmoved.entry,hmoved.undecorated,
      (congrArg h.data hsame).trans hmoved.shown,hmoved.override⟩

lemma Sane.picked_fallback {y:Ref} (hy:h.get y=some node) (hnode:Override o entries key node) :
  Picked o document entries key plain h y (h.assign (place.child i) y) :=
 ⟨hs.assign hdata hi hkey hplain hy hnode,prefix_rfl,⟨node,(h.get_assign _ y).2.trans hy,.override hnode⟩,
  fun _=>rfl⟩

lemma Sane.picked_text (htext:TextFor o entries key text)
  (hx:h.replace (place.child i) (o.parseReplacement text)=(x,h')) :
  Picked o document entries key plain h x h' := by
 cases hx
 have hgrows:h.documents<+:h.documents++[o.parseReplacement text]:=prefix_append _ _
 have hgrown:Sane o document { h with documents:=h.documents++[o.parseReplacement text] } := by
  refine ⟨hs.documents.trans hgrows,fun x=>(hs.moved x).imp id ?_⟩
  rintro ⟨place,entries,i,key,plain,node,rfl,hmoved⟩
  exact ⟨place,entries,i,key,plain,node,rfl,Heap.data_grows hgrows hmoved.data,hmoved.entry,hmoved.undecorated,
   Heap.data_grows hgrows hmoved.shown,hmoved.override⟩
 have htop:=@Sane.get_top _ _ _ (o.parseReplacement text) h.documents.length hgrown (by simp)
 have hpicked:=hgrown.picked_fallback (Heap.data_grows hgrows hdata) hi hkey hplain htop (.text htext)
 exact ⟨hpicked.sane,hgrows,hpicked.node,fun h=>absurd htext (h text)⟩

lemma Sane.select (hselect:ConfigSubstitution.select o place entries h key (place.child i)=.ok (x,h')) :
  Picked o document entries key plain h x h' := by
 unfold ConfigSubstitution.select at hselect
 obtain ⟨henv,hfind⟩ | ⟨y,node,henv,hget,hfind⟩:=hs.get_decorated hdata (decorated_env key)
 · obtain ⟨hfile,hfindFile⟩ | ⟨y,node,hfile,hget,hfindFile⟩:=hs.get_decorated hdata (decorated_file key)
   · simp only[henv,hfile,Except.ok.injEq] at hselect
     cases hselect
     exact hs.picked_own hdata hi hkey fun _=>not_override hfind hfindFile
   · rcases hpath:node.asString with e | path
     · simp[henv,hfile,Heap.asString,hget,hpath,bind,Except.bind] at hselect
     · rcases hread:o.readSubstitutionFile (o.resolve path) with e | text
       · simp[henv,hfile,Heap.asString,hget,hpath,hread,bind,Except.bind] at hselect
       · simp only[henv,hfile,Heap.asString,hget,hpath,hread,bind,Except.bind,Except.ok.injEq] at hselect
         have hfileText:fileText o entries key=some text:=by simp[fileText,hfindFile,hpath,hread,Except.toOption]
         exact hs.picked_text hdata hi hkey hplain (.inr ⟨hfind,hfileText⟩) hselect
 · rcases hname:node.asString with e | text
   · simp[henv,Heap.asString,hget,hname,Except.map] at hselect
   · have htext:environmentText o entries key=o.environment text:=by
      simp[environmentText,hfind,hname,Except.toOption]
     simp only[henv,Heap.asString,hget,hname,Except.map,Except.ok.injEq] at hselect
     rcases hvalue:o.environment text with _ | value
     · obtain ⟨hfallback,hfindFallback⟩ | ⟨z,fallback,hfallback,hgetFallback,hfindFallback⟩ :=
        hs.get_decorated hdata (decorated_fallback key)
       · simp only[hvalue,hfallback] at hselect
         cases hselect
         refine hs.picked_own hdata hi hkey fun node hnode=>?_
         cases hnode with
         | text h => simp[TextFor,htext,hvalue,hfind] at h
         | fallback _ _ h => simp[hfindFallback] at h
       · simp only[hvalue,hfallback] at hselect
         cases hselect
         exact hs.picked_fallback hdata hi hkey hplain hgetFallback
          (.fallback (by simp[hfind]) (htext.trans hvalue) hfindFallback)
     · simp only[hvalue] at hselect
       exact hs.picked_text hdata hi hkey hplain (.inl (htext.trans hvalue)) hselect

end Assign

inductive Action
 | stop (e:Error)
 | skip
 | store (key:String) (value:Node)
 | call (key:String) (x:Ref) (h:Heap)

def Action.run (sub:Substitute) (s:Progress) : Action → Run Error Progress
 | .stop e => of (.error e)
 | .skip => pure s
 | .store key value => pure (ConfigSubstitution.assign s.1 key value,s.2)
 | .call key x h => substituteKey sub s key x h

inductive Action.Right (o:Options) (document:Node) (entries:Entries) (s:Progress) (adds:String → Prop) : Action → Prop
 | stop (e:Error) : Right o document entries s adds (.stop e)
 | skip (h:∀ key,adds key → key ∈ s.1.map Prod.fst) : Right o document entries s adds .skip
 | store {key text:String} (hadds:∀ key',adds key' → key' = key) (h:TextFor o entries key text) :
  Right o document entries s adds (.store key (o.parseReplacement text))
 | call {key:String} {x:Ref} {h:Heap} {node:Node} (hadds:∀ key',adds key' → key' = key) (hsane:Sane o document h)
  (hgrows:s.2.documents <+: h.documents) (hsame:Texted o entries key ∨ h.documents = s.2.documents)
  (hget:h.get x = some node) (hsource:Source o entries key node) : Right o document entries s adds (.call key x h)

/-- A loop over the entries of a map at a place, when the `old` keys are there. -/
def Acts (o:Options) (document:Node) (place:Ref) (entries:Entries) (old:String → Prop)
  (adds:(Node × Node) × ℕ → String → Prop) (step:Substitute → Progress → (Node × Node) × ℕ → Run Error Progress) : Prop :=
 ∀ s entry,Sane o document s.2 → s.2.data place = some (.map entries) → entry ∈ entries.zipIdx →
  (∀ key,old key → key ∈ s.1.map Prod.fst) →
  ∃ action:Action,(∀ sub,step sub s entry = action.run sub s) ∧ action.Right o document entries s (adds entry)

def addsPlain (entry:(Node × Node) × ℕ) (key:String) : Prop :=
 entry.1.1.asString = .ok key ∧ decorated key = false

def addsFallback (entry:(Node × Node) × ℕ) (key:String) : Prop :=
 entry.1.1.asString = .ok (key ++ "#fallback")

lemma hasEntry_of_mem_zipIdx {entry:(Node×Node)×ℕ} (hmem:entry∈entries.zipIdx) (hkey:entry.1.1.asString=.ok key) :
  HasEntry entries key entry.1.2 :=
 ⟨entry.1,mem_of_getElem? (mem_zipIdx_iff_getElem?.mp hmem),hkey,rfl⟩

lemma plainEntry_acts : Acts o document place entries (fun _=>False) addsPlain
  fun sub=>plainEntry o sub place entries := by
 intro s entry hs hdata hmem _
 rcases hkey:entry.1.1.asString with e | key
 · exact ⟨.stop e,fun sub=>by simp only[plainEntry,hkey]; rfl,.stop e⟩
 · cases hplain:decorated key with
   | true =>
    refine ⟨.skip,fun sub=>by simp only[plainEntry,hkey]; exact if_pos hplain,.skip fun key' hadd=>?_⟩
    cases hkey.symm.trans hadd.1
    cases hplain.symm.trans hadd.2
   | false =>
    have hrun:∀ sub,plainEntry o sub place entries s entry =
     of (ConfigSubstitution.select o place entries s.2 key (place.child entry.2)) >>=
      fun picked=>substituteKey sub s key picked.1 picked.2:=by
     intro sub
     simp only[plainEntry,hkey]
     exact if_neg (by simp[hplain])
    rcases hselect:ConfigSubstitution.select o place entries s.2 key (place.child entry.2) with e | ⟨x,h'⟩
    · exact ⟨.stop e,fun sub=>(hrun sub).trans (by rw[hselect]; rfl),.stop e⟩
    · have hpicked:=hs.select hdata (mem_zipIdx_iff_getElem?.mp hmem) hkey hplain hselect
      obtain ⟨node,hget,hnode⟩:=hpicked.node
      have hentry:=hasEntry_of_mem_zipIdx hmem hkey
      refine ⟨.call key x h',fun sub=>(hrun sub).trans (by rw[hselect]; rfl),.call (fun key' hadd=>?_) hpicked.sane hpicked.grows ?_ hget
       (.plain hentry hplain hnode)⟩
      · cases hkey.symm.trans hadd.1
        rfl
      · by_cases htext:∃ text,TextFor o entries key text
        · exact .inl ⟨hplain,⟨_,hentry⟩,htext⟩
        · exact .inr (hpicked.same (not_exists.mp htext))

lemma substituteFallback_acts {s:Progress} {entry:(Node×Node)×ℕ} (hs:Sane o document s.2)
  (hdata:s.2.data place=some (.map entries)) (hmem:entry∈entries.zipIdx)
  (hold:∀ plain,HasEntry entries key plain→ decorated key=false→ key∈s.1.map Prod.fst)
  (hname:entry.1.1.asString=.ok (key++ "#fallback")) : ∃ action:Action,
   (∀ sub,substituteFallback o sub place entries s key (place.child entry.2)=action.run sub s) ∧
    action.Right o document entries s (addsFallback entry) := by
 have hadds:∀ key',addsFallback entry key'→ key'=key:=by
  intro key' hadd
  have happend:key'++ "#fallback"=key++ "#fallback" := Except.ok.inj (hadd.symm.trans hname)
  simpa using happend
 by_cases hcontains:(s.1.map Prod.fst).contains key
 · refine ⟨.skip,fun sub=>if_pos hcontains,.skip fun key' hadd=>?_⟩
   rw[hadds key' hadd]
   exact contains_iff_mem.mp hcontains
 · have hentry:=hasEntry_of_mem_zipIdx hmem hname
   have hdecorated:∀ plain,HasEntry entries key plain→ decorated key=true:=by
    intro plain hplain
    by_contra hnot
    exact hcontains (contains_iff_mem.mpr (hold plain hplain (Bool.eq_false_of_not_eq_true hnot)))
   have hget:s.2.get (place.child entry.2)=some entry.1.2:=by
    obtain hget | ⟨hplain,-⟩:=hs.get_entry hdata (mem_zipIdx_iff_getElem?.mp hmem) hname
    · exact hget
    · cases (decorated_fallback key).symm.trans hplain
   have hcall:environmentText o entries key=none →
    (Action.call key (place.child entry.2) s.2).Right o document entries s (addsFallback entry) :=
    fun hnone=>.call hadds hs prefix_rfl (.inr rfl) hget (.fallback hentry hdecorated hnone)
   obtain ⟨henv,hfind⟩ | ⟨y,node,henv,hgetEnv,hfind⟩:=hs.get_decorated hdata (decorated_env key)
   · exact ⟨.call key (place.child entry.2) s.2,fun sub=>by simp only[substituteFallback,hcontains,henv]; rfl,
      hcall (by simp[environmentText,hfind])⟩
   · rcases htext:node.asString with e | text
     · refine ⟨.stop e,fun sub=>?_,.stop e⟩
       simp only[substituteFallback,hcontains,henv,Heap.asString,hgetEnv,htext]
       rfl
     · have henvironment:environmentText o entries key=o.environment text:=by
        simp[environmentText,hfind,htext,Except.toOption]
       rcases hvalue:o.environment text with _ | value
       · refine ⟨.call key (place.child entry.2) s.2,fun sub=>?_,hcall (henvironment.trans hvalue)⟩
         simp only[substituteFallback,hcontains,henv,Heap.asString,hgetEnv,htext,of_ok_bind,hvalue]
         rfl
       · refine ⟨.store key (o.parseReplacement value),fun sub=>?_,.store hadds (.inl (henvironment.trans hvalue))⟩
         simp only[substituteFallback,hcontains,henv,Heap.asString,hgetEnv,htext,of_ok_bind,hvalue]
         rfl

lemma fallbackEntry_acts : Acts o document place entries
  (fun key=>decorated key=false∧∃ plain,HasEntry entries key plain) addsFallback
  fun sub=>fallbackEntry o sub place entries := by
 intro s entry hs hdata hmem hold
 rcases hname:entry.1.1.asString with e | name
 · exact ⟨.stop e,fun sub=>by simp only[fallbackEntry,hname]; rfl,.stop e⟩
 · cases hend:endsWith name "#fallback" with
   | false =>
    refine ⟨.skip,fun sub=>by simp only[fallbackEntry,hname]; exact if_pos (by simp[hend]),.skip fun key hadd=>?_⟩
    cases hname.symm.trans hadd
    cases hend.symm.trans (endsWith_append _ _)
   | true =>
    have hsplit:=endsWith_split hend
    obtain ⟨action,hrun,hright⟩:=substituteFallback_acts hs hdata hmem
     (fun plain hplain hdecorated=>hold _ ⟨hdecorated,plain,hplain⟩) (hsplit▸hname)
    refine ⟨action,fun sub=>?_,hright⟩
    rw[← hrun]
    simp only[fallbackEntry,hname]
    exact if_neg (by simp[hend])

end Places
end ServiceLib.ConfigSubstitution
