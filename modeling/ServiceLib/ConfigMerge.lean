import ServiceLib.ConfigLoader

set_option autoImplicit false
attribute [-instance] instBooleanRingBool

/-!
# Merging configuration trees
-/
namespace ServiceLib.ConfigMerge
open List Option
open ConfigSubstitution (Node Entries)
open ConfigLoader (Error assign deepMerge mergeEntries mergeEntry)

/-- Every map that is not below a sequence has scalar keys, none of them twice. -/
inductive Regular : Node → Prop
 | null : Regular .null
 | scalar (text:String) : Regular (.scalar text)
 | sequence (items:List Node) : Regular (.sequence items)
 | map {entries:Entries} (keys:∀ entry ∈ entries,∃ key,entry.1 = .scalar key)
  (nodup:(entries.map Prod.fst).Nodup) (values:∀ entry ∈ entries,Regular entry.2) : Regular (.map entries)

def isMap : Node → Bool
 | .map _ => true
 | .null | .scalar _ | .sequence _ => false

def nodeAt : Node → List String → Option Node
 | node,[] => some node
 | .map entries,key :: path => (Node.find entries key).bind fun node=>nodeAt node path
 | .null,_ :: _ | .scalar _,_ :: _ | .sequence _,_ :: _ => none

variable {key other:String} {value base node merged:Node} {entries overrides result:Entries}

@[grind =]
lemma find_cons (k value:Node) (entries:Entries) (key:String) :
  Node.find ((k,value)::entries) key =
   match k with
   | .scalar text => if text=key then some value else Node.find entries key
   | .null | .sequence _ | .map _ => Node.find entries key := by
 cases k with
 | scalar text => by_cases h : text=key <;> simp[Node.find,Node.hasKey,h]
 | null | sequence | map => rfl

lemma find_assign (key other:String) (value:Node) (entries:Entries) :
  Node.find (assign key value entries) other=if other=key then some value else Node.find entries other := by
 induction entries with
 | nil => grind[assign,Node.find]
 | cons entry entries ih =>
  obtain ⟨k,v⟩:=entry
  cases k <;> grind[assign]

lemma assign_of_find (h:Node.find entries key=some value) : assign key value entries=entries := by
 induction entries with
 | nil => cases h
 | cons entry entries ih =>
  obtain ⟨k,v⟩:=entry
  cases k <;> grind[assign]

lemma find_of_mem (hnodup:(entries.map Prod.fst).Nodup) (h:(.scalar key,value)∈entries) :
  Node.find entries key=some value := by
 induction entries with
 | nil => cases h
 | cons entry entries ih => grind[nodup_cons]

lemma mem_of_find (h:Node.find entries key=some value) : (.scalar key,value)∈entries := by
 induction entries with
 | nil => cases h
 | cons entry entries ih =>
  obtain ⟨k,v⟩:=entry
  cases k <;> grind

def underKey (base overrides:Option Node) : Except Error (Option Node) :=
 match base,overrides with
 | base,none => .ok base
 | none,some value => .ok (some value)
 | some current,some value => (deepMerge current value).map some

lemma find_mergeEntries (hkeys:∀ entry∈overrides,∃ key,entry.1=.scalar key)
  (hnodup:(overrides.map Prod.fst).Nodup)
  (hvalues:∀ entry∈overrides,∀ base,∃ merged,deepMerge base entry.2=.ok merged) :
  ∃ merged,mergeEntries overrides result=.ok merged ∧
   ∀ key,underKey (Node.find result key) (Node.find overrides key)=.ok (Node.find merged key) := by
 induction overrides generalizing result with
 | nil => exact ⟨result,by rw[mergeEntries],fun key=>by simp[underKey,Node.find]⟩
 | cons entry overrides ih =>
  obtain ⟨k,value⟩:=entry
  obtain ⟨key,rfl⟩:=hkeys _ mem_cons_self
  have hstep:∃ node,mergeEntry (.scalar key,value) result=.ok (assign key node result) ∧
   underKey (Node.find result key) (some value)=.ok (some node):=by
   cases hfind:Node.find result key with
   | none => exact ⟨value,by rw[mergeEntry,hfind],rfl⟩
   | some current =>
    obtain ⟨merged,hmerged⟩:=hvalues _ mem_cons_self current
    exact ⟨merged,by rw[mergeEntry,hfind]; simp only[hmerged]; rfl,by simp[underKey,hmerged,Except.map]⟩
  obtain ⟨node,hentry,hnode⟩:=hstep
  have hfresh:Node.find overrides key=none:=by
   refine eq_none_iff_forall_ne_some.mpr fun node hfind=>(nodup_cons.mp hnodup).1 ?_
   exact mem_map.mpr ⟨(.scalar key,node),mem_of_find hfind,rfl⟩
  obtain ⟨merged,hmerged,hunder⟩:=@ih (assign key node result)
   (fun entry h=>hkeys entry (mem_cons_of_mem _ h)) (nodup_cons.mp hnodup).2
   (fun entry h=>hvalues entry (mem_cons_of_mem _ h))
  refine ⟨merged,?_,fun other=>?_⟩
  · rw[mergeEntries,hentry]
    exact hmerged
  · have hother:=hunder other
    rw[find_assign] at hother
    grind[underKey]

lemma Regular.merges (h:Regular node) (base:Node) : ∃ merged,deepMerge base node=.ok merged := by
 induction h generalizing base with
 | null | scalar | sequence => exact ⟨_,by rw[deepMerge]; nofun⟩
 | @map overrides keys nodup values ih =>
  cases base with
  | null | scalar | sequence => exact ⟨_,by rw[deepMerge]⟩
  | map entries =>
   obtain ⟨merged,hmerged,-⟩:=@find_mergeEntries _ entries keys nodup ih
   exact ⟨.map merged,by rw[deepMerge,hmerged]; rfl⟩

lemma Regular.merge_maps (h:Regular (.map overrides)) (entries:Entries) :
  ∃ merged,deepMerge (.map entries) (.map overrides)=.ok (.map merged) ∧
   ∀ key,underKey (Node.find entries key) (Node.find overrides key)=.ok (Node.find merged key) := by
 cases h with
 | map keys nodup values =>
  obtain ⟨merged,hmerged,hunder⟩:=@find_mergeEntries _ entries keys nodup fun entry hmem =>
   (values entry hmem).merges
  exact ⟨merged,by rw[deepMerge,hmerged]; rfl,hunder⟩

lemma Regular.find (h:Regular (.map entries)) (hfind:Node.find entries key=some value) : Regular value := by
 cases h with
 | map keys nodup values => exact values _ (mem_of_find hfind)

lemma deepMerge_of_not_maps (h:¬(isMap base=true∧isMap node=true)) : deepMerge base node=.ok node := by
 cases node with
 | map => cases base <;> first | exact absurd ⟨rfl,rfl⟩ h | rw[deepMerge]
 | null | scalar | sequence => rw[deepMerge]; nofun

variable {path:List String}

structure Merges (base node merged:Node) (path:List String) : Prop where
 both : ∀ entries overrides,nodeAt base path = some (.map entries) → nodeAt node path = some (.map overrides) →
  ∃ both,deepMerge (.map entries) (.map overrides) = .ok both ∧ nodeAt merged path = some both
 overridden : ∀ value,nodeAt node path = some value →
  ¬(isMap value = true ∧ ∃ entries,nodeAt base path = some (.map entries)) → nodeAt merged path = some value
 kept : nodeAt node path = none →
  (∀ above key rest value,path = above ++ key :: rest → nodeAt node above = some value → isMap value = true) →
   nodeAt merged path = nodeAt base path

lemma Regular.merges_at (h:Regular node) (hmerge:deepMerge base node=.ok merged) (path:List String) :
  Merges base node merged path := by
 induction path generalizing base node merged with
 | nil =>
  refine ⟨?_,?_,nofun⟩
  · rintro entries overrides ⟨⟩ ⟨⟩
    exact ⟨merged,hmerge,rfl⟩
  · rintro value ⟨⟩ hmaps
    cases base <;> grind[deepMerge_of_not_maps,nodeAt,isMap]
 | cons key path ih =>
  by_cases hmaps:isMap base=true∧isMap node=true
  · -- both are maps: the merge has under the key what `underKey` says
    obtain ⟨hbase,hnode⟩:=hmaps
    cases base <;> cases hbase
    cases node <;> cases hnode
    rename_i entries overrides
    obtain ⟨results,hresults,hunder⟩:=h.merge_maps entries
    cases hmerge.symm.trans hresults
    have hkey:=hunder key
    cases hoverride:Node.find overrides key with
    | none => constructor <;> grind[nodeAt,underKey]
    | some value =>
     cases hcurrent:Node.find entries key with
     | none => constructor <;> grind[nodeAt,underKey]
     | some current =>
      obtain ⟨both,hboth⟩:=(h.find hoverride).merges current
      have hnew:Node.find results key=some both:=by
       simp only[hcurrent,hoverride,underKey,hboth,Except.map,Except.ok.injEq] at hkey
       exact hkey.symm
      obtain ⟨hmaps,hover,hkept⟩:=ih (h.find hoverride) hboth
      constructor <;> simp only[nodeAt,hoverride,hcurrent,hnew,bind_some]
      · exact hmaps
      · exact hover
      · intro hnone habove
        refine hkept hnone fun above key' rest value' hpath hvalue=>?_
        exact habove (key::above) key' rest value' (by rw[hpath]; rfl) (by simpa[nodeAt,hoverride] using hvalue)
  · obtain rfl:node=merged:=by grind[deepMerge_of_not_maps]
    refine ⟨?_,fun value hvalue _=>hvalue,fun hnone habove=>?_⟩
    · cases base <;> cases node <;> grind[nodeAt,isMap]
    · have hnode:=habove [] key path node rfl rfl
      cases base <;> grind[nodeAt,isMap]

lemma mergeEntries_fixed (h:∀ entry∈overrides,∃ key current,entry.1=.scalar key ∧
   Node.find result key=some current∧deepMerge current entry.2=.ok current) :
  mergeEntries overrides result=.ok result := by
 induction overrides with
 | nil => rw[mergeEntries]
 | cons entry overrides ih =>
  obtain ⟨key,current,hkey,hfind,hmerge⟩:=h entry mem_cons_self
  obtain ⟨k,value⟩:=entry
  cases hkey
  have hentry:mergeEntry (.scalar key,value) result=.ok result:=by
   rw[mergeEntry,hfind]
   simp only[hmerge,Except.map,assign_of_find hfind]
  rw[mergeEntries,hentry]
  exact ih fun entry hmem=>h entry (mem_cons_of_mem _ hmem)

lemma Regular.merge_self (h:Regular node) : deepMerge node node=.ok node := by
 induction h with
 | null | scalar | sequence => exact deepMerge_of_not_maps nofun
 | @map entries keys nodup values ih =>
  rw[deepMerge,mergeEntries_fixed]
  · rfl
  · intro entry hmem
    obtain ⟨key,hkey⟩:=keys entry hmem
    exact ⟨key,entry.2,hkey,find_of_mem nodup (hkey▸hmem),ih entry hmem⟩

lemma Regular.merge_merged (h:Regular node) (hmerge:deepMerge base node=.ok merged) :
  deepMerge merged node=.ok merged := by
 induction h generalizing base merged with
 | null | scalar | sequence => 
  rw[deepMerge_of_not_maps (by simp[isMap])] at hmerge
  rw[deepMerge_of_not_maps (by simp[isMap]),hmerge]
 | @map overrides keys nodup values ih =>
  have hregular:Regular (.map overrides):=.map keys nodup values
  by_cases hmaps:isMap base=true
  · cases base <;> cases hmaps
    rename_i entries
    obtain ⟨results,hresults,hunder⟩:=hregular.merge_maps entries
    cases hmerge.symm.trans hresults
    rw[deepMerge,mergeEntries_fixed]
    · rfl
    · intro entry hmem
      obtain ⟨key,hkey⟩:=keys entry hmem
      have hkeyed:=hunder key
      rw[find_of_mem nodup (hkey▸hmem : (.scalar key,entry.2)∈overrides)] at hkeyed
      cases hcurrent:Node.find entries key with
      | none =>
       rw[hcurrent] at hkeyed
       exact ⟨key,entry.2,hkey,(Except.ok.inj hkeyed).symm,(values entry hmem).merge_self⟩
      | some current =>
       obtain ⟨both,hboth⟩:=(values entry hmem).merges current
       rw[hcurrent] at hkeyed
       simp only[underKey,hboth,Except.map,Except.ok.injEq] at hkeyed
       exact ⟨key,both,hkey,hkeyed.symm,ih entry hmem hboth⟩
  · rw[deepMerge_of_not_maps fun h=>hmaps h.1] at hmerge
    cases hmerge
    exact hregular.merge_self

/-- The documents of the YAML library. A node refers into one of them, so what is done through
one node is seen through the others. -/
abbrev Heap := List Node

/-- A node, named by the keys that lead to it. -/
structure Ref where
 document : ℕ
 path : List String

def Ref.child (x:Ref) (key:String) : Ref :=
 ⟨x.document,x.path ++ [key]⟩

def Heap.deref (h:Heap) (x:Ref) : Option Node :=
 (h[x.document]?).bind fun node=>nodeAt node x.path

/-- An exception, or a call that needs more depth. -/
inductive Stop
 | depth
 | thrown (error:Error)

def clone (x:Ref) (h:Heap) : Except Stop (Ref × Heap) :=
 match h.deref x with
 | some node => .ok (⟨h.length,[]⟩,h ++ [node])
 | none => .error .depth

/-- `result[key] = value`. The value is a new document that nothing else refers to, so it can
as well be copied. -/
def put (result:Ref) (key:String) (value:Ref) (h:Heap) : Heap :=
 match h[result.document]?,h.deref value with
 | some (.map entries),some node => h.set result.document (.map (assign key node entries))
 | _,_ => h

abbrev Merge := Ref → Ref → Heap → Except Stop (Ref × Heap)

/-- The loop body of `DeepMerge`, which calls itself by `merge`. -/
def mergeInto (merge:Merge) (overrides result:Ref) (h:Heap) : Node × Node → Except Stop Heap
 | (.scalar key,_) => do
  let current:=result.child key
  let value:=overrides.child key
  let (merged,h) ← if (h.deref current).isSome then merge current value h else clone value h
  .ok (put result key merged h)
 | (.null,_) | (.sequence _,_) | (.map _,_) =>
  .error (.thrown (.invalidArgument "configuration mapping keys must be scalar"))

def mergeNodes : ℕ → Merge
 | 0,_,_,_ => .error .depth
 | depth + 1,base,overrides,h =>
  match h.deref base,h.deref overrides with
  | some (.map _),some (.map entries) => do
   let (result,h) ← clone base h
   let h ← entries.foldlM (mergeInto (mergeNodes depth) overrides result) h
   .ok (result,h)
  | _,_ => clone overrides h

section Heap
variable {x y:Ref} {h h₀ h':Heap} {r depth:ℕ}

lemma deref_prefix (hh:h <+: h') (hx:h.deref x=some node) : h'.deref x=some node := by
 obtain ⟨rest,rfl⟩:=hh
 obtain ⟨root,hroot,hnode⟩:=bind_eq_some_iff.mp hx
 exact bind_eq_some_iff.mpr ⟨root,by grind,hnode⟩

lemma nodeAt_append (node:Node) (path rest:List String) :
  nodeAt node (path++rest)=(nodeAt node path).bind fun node=>nodeAt node rest := by
 induction path generalizing node with
 | nil => cases rest <;> rfl
 | cons key path ih => cases node <;> simp[nodeAt,bind_assoc,ih]

lemma deref_child (hx:h.deref x=some (.map entries)) (key:String) :
  h.deref (x.child key)=Node.find entries key := by
 obtain ⟨root,hroot,hnode⟩:=bind_eq_some_iff.mp hx
 simp[Heap.deref,Ref.child,hroot,nodeAt_append,hnode,nodeAt]

structure Adds (h:Heap) (node:Node) (out:Ref × Heap) : Prop where
 frame : h <+: out.2
 deref : out.2.deref out.1 = some node

lemma clone_adds (hx:h.deref x=some node) : ∃ out,clone x h=.ok out∧Adds h node out :=
 ⟨_,by rw[clone,hx],prefix_append _ _,by simp[Heap.deref,nodeAt]⟩

structure Filled (h₀:Heap) (r:ℕ) (entries:Entries) (h:Heap) : Prop where
 frame : h₀ <+: h
 new : h₀.length ≤ r
 cell : h[r]? = some (.map entries)

lemma Filled.placed (hfilled:Filled h₀ r entries h) {out:Ref×Heap} (hadds:Adds h value out) (key:String) :
  Filled h₀ r (assign key value entries) (put ⟨r,[]⟩ key out.1 out.2) := by
 obtain ⟨⟨rest,rfl⟩,hnew,hcell⟩:=hfilled
 obtain ⟨⟨rest',hrest⟩,hvalue⟩:=hadds
 have hput:put ⟨r,[]⟩ key out.1 out.2=out.2.set r (.map (assign key value entries)):=by
  grind[put]
 rw[hput,← hrest,append_assoc,set_append_right _ _ hnew]
 exact ⟨prefix_append _ _,hnew,by grind⟩

/-- The calls on values below `bound` do what `deepMerge` says, in new documents. -/
def Correct (merge:Merge) (bound:ℕ) : Prop :=
 ∀ {h:Heap} {x y:Ref} {base node:Node},Regular node → sizeOf node < bound → h.deref x = some base →
  h.deref y = some node → ∃ merged out,deepMerge base node = .ok merged ∧ merge x y h = .ok out ∧ Adds h merged out

variable {merge:Merge}

lemma Filled.merge_entry (hmerge:Correct merge depth) (hregular:Regular value) (hsize:sizeOf value < depth)
  (hfilled:Filled h₀ r entries h) (hvalue:h₀.deref (y.child key)=some value) :
  ∃ result h',mergeEntry (.scalar key,value) entries=.ok result ∧
   mergeInto merge y ⟨r,[]⟩ h (.scalar key,value)=.ok h'∧Filled h₀ r result h' := by
 have hnode:= deref_prefix hfilled.frame hvalue
 have hcurrent:h.deref (Ref.child ⟨r,[]⟩ key)=Node.find entries key:=
  deref_child (by simp[Heap.deref,hfilled.cell,nodeAt]) key
 cases hfind:Node.find entries key with
 | none =>
  obtain ⟨out,hclone,hadds⟩:=clone_adds hnode
  refine ⟨_,_,by rw[mergeEntry,hfind],?_,hfilled.placed hadds key⟩
  simp only[mergeInto,hcurrent,hfind,hclone,isSome_none,Bool.false_eq_true,if_false]
  rfl
 | some current =>
  obtain ⟨merged,out,hmerged,hout,hadds⟩:=hmerge hregular hsize (hcurrent.trans hfind) hnode
  refine ⟨_,_,by rw[mergeEntry,hfind]; simp only[hmerged,Except.map],?_,hfilled.placed hadds key⟩
  simp only[mergeInto,hcurrent,hfind,hout,isSome_some,if_true]
  rfl

lemma Filled.merge_entries (hmerge:Correct merge depth) (hfilled:Filled h₀ r entries h)
  (hvalues:∀ override∈overrides,Regular override.2∧sizeOf override.2 < depth ∧
   ∃ key,override.1=.scalar key∧h₀.deref (y.child key)=some override.2) :
  ∃ result h',mergeEntries overrides entries=.ok result ∧
   overrides.foldlM (mergeInto merge y ⟨r,[]⟩) h=.ok h'∧Filled h₀ r result h' := by
 induction overrides generalizing entries h with
 | nil => exact ⟨entries,h,by rw[mergeEntries],rfl,hfilled⟩
 | cons override overrides ih =>
  obtain ⟨hregular,hsize,key,hkey,hvalue⟩:=hvalues override mem_cons_self
  obtain ⟨k,value⟩:=override
  cases hkey
  obtain ⟨next,h₁,hnext,hone,hfilled₁⟩:=hfilled.merge_entry hmerge hregular hsize hvalue
  obtain ⟨result,h',hresult,hrest,hfilled'⟩:=ih hfilled₁ fun o ho=>hvalues o (mem_cons_of_mem _ ho)
  refine ⟨result,h',?_,?_,hfilled'⟩
  · rw[mergeEntries,hnext]
    exact hresult
  · rw[foldlM_cons,hone]
    exact hrest

lemma mergeNodes_correct (depth:ℕ) : Correct (mergeNodes depth) depth := by
 induction depth with
 | zero => exact fun _ hsize=>absurd hsize (Nat.not_lt_zero _)
 | succ depth ih =>
  intro h x y base node hregular hsize hbase hnode
  by_cases hmaps:isMap base=true∧isMap node=true
  · obtain ⟨hbaseMap,hnodeMap⟩:=hmaps
    cases base <;> cases hbaseMap
    cases hregular <;> cases hnodeMap
    rename_i entries overrides keys nodup values
    have hstart:Filled h h.length entries (h++[.map entries]):=⟨prefix_append _ _,Nat.le_refl _,by simp⟩
    have hvalues:∀ override∈overrides,Regular override.2∧sizeOf override.2 < depth ∧
     ∃ key,override.1=.scalar key∧h.deref (y.child key)=some override.2:=by
     rintro ⟨k,v⟩ hmem
     obtain ⟨key,rfl⟩:=keys _ hmem
     refine ⟨values _ hmem,?_,key,rfl,(deref_child hnode key).trans (find_of_mem nodup hmem)⟩
     have hlt:=sizeOf_lt_of_mem hmem
     simp only[Node.map.sizeOf_spec,Prod.mk.sizeOf_spec] at hlt hsize
     dsimp only
     omega
    obtain ⟨result,h',hresult,hloop,hfilled⟩:=hstart.merge_entries ih hvalues
    refine ⟨.map result,(⟨h.length,[]⟩,h'),by rw[deepMerge,hresult]; rfl,?_,hfilled.frame,
     by simp[Heap.deref,hfilled.cell,nodeAt]⟩
    simp only[mergeNodes,hbase,hnode,clone]
    change Except.bind (List.foldlM _ _ _) _=_
    rw[hloop]
    rfl
  · obtain ⟨out,hclone,hadds⟩:=clone_adds hnode
    refine ⟨node,out,deepMerge_of_not_maps hmaps,?_,hadds⟩
    simp only[mergeNodes,hbase,hnode]
    split
    · simp_all[isMap]
    · exact hclone

end Heap

/-- For all trees `b` and `o` of the heap, `o` with scalar keys none of which is twice in a
map: `DeepMerge` returns a tree that has under each path what `Merges` says, merging `o`
into it again gives the same tree, and both inputs are as before. -/
theorem deepMerge_paths {b o : Node} (ho : Regular o) {h : Heap} {base overrides : Ref} (hbase : h.deref base = some b)
  (hoverrides : h.deref overrides = some o) {depth : ℕ} (hdepth : sizeOf o < depth) :
  ∃ merged result h', mergeNodes depth base overrides h = .ok (result, h') ∧ h'.deref result = some merged ∧
   (∀ path, Merges b o merged path) ∧
   (∃ again h'', mergeNodes depth result overrides h' = .ok (again, h'') ∧ h''.deref again = some merged) ∧
   h'.deref base = some b ∧ h'.deref overrides = some o := by
 obtain ⟨merged,⟨result,h'⟩,hmerged,hrun,hadds⟩:=mergeNodes_correct depth ho hdepth hbase hoverrides
 have hover:= deref_prefix hadds.frame hoverrides
 obtain ⟨merged',⟨again,h''⟩,hmerged',hagain,hadds'⟩:=mergeNodes_correct depth ho hdepth hadds.deref hover
 cases (ho.merge_merged hmerged).symm.trans hmerged'
 exact ⟨merged,result,h',hrun,hadds.deref,ho.merges_at hmerged,⟨again,h'',hagain,hadds'.deref⟩,
  deref_prefix hadds.frame hbase,hover⟩

def baseTree : Node :=
 .map [(.scalar "a",.map [(.scalar "x",.scalar "1"),(.scalar "y",.scalar "2")])]

def overrideTree : Node :=
 .map [(.scalar "a",.map [(.scalar "y",.scalar "3")])]

theorem deepMerge_paths_nested : ∃ merged result h',
  mergeNodes (sizeOf overrideTree + 1) ⟨0, []⟩ ⟨1, []⟩ [baseTree, overrideTree] = .ok (result, h') ∧
   h'.deref result = some merged ∧ nodeAt merged ["a", "x"] = some (.scalar "1") ∧
   nodeAt merged ["a", "y"] = some (.scalar "3") ∧ h'.deref ⟨0, []⟩ = some baseTree := by
 have hinner:Regular (.map [(.scalar "y",.scalar "3")]) := .map (by simp) (by simp) (by simp[Regular.scalar])
 have hregular:Regular overrideTree:=.map (by simp) (by simp) (by simpa using hinner)
 obtain ⟨merged,result,h',hrun,hmerged,hpaths,-,hbase,-⟩:=
  @deepMerge_paths _ _ hregular [baseTree,overrideTree] ⟨0,[]⟩ ⟨1,[]⟩ rfl rfl _ (Nat.lt_succ_self _)
 refine ⟨merged,result,h',hrun,hmerged,?_,(hpaths ["a","y"]).overridden _ rfl (fun h=>nomatch h.1),hbase⟩
 refine ((hpaths ["a","x"]).kept rfl fun above key rest value hpath hvalue=>?_).trans rfl
 rcases above with _ | ⟨k,_ | ⟨k',above⟩⟩
 · cases hvalue
   rfl
 · obtain ⟨rfl,-⟩:=List.cons.inj hpath
   cases hvalue
   rfl
 · simp at hpath

end ServiceLib.ConfigMerge
