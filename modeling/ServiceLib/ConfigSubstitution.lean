import ServiceLib.DepthRun
import Mathlib.Logic.Function.Basic

set_option autoImplicit false

/-!
# Configuration substitution

A node of the YAML library is a handle: it stands for a place in a document, and assigning another
node to it makes the place show what that node shows. The documents are trees, without aliases.
The recursion follows references as well as the document, so its depth is bounded: `none` stands
for a call that needs more. The parser, the environment and the files are parameters.
-/
namespace ServiceLib.ConfigSubstitution
open DepthRun

inductive Node
 | null
 | scalar (text:String)
 | sequence (items:List Node)
 | map (entries:List (Node × Node))

abbrev Entries := List (Node × Node)

/-- `std::runtime_error` with its text, and the exceptions of the YAML library. -/
inductive Error
 | runtime (what:String)
 | badConversion
 | badSubscript
 deriving DecidableEq

structure Options where
 «variables» : Node := .null
 baseDirectory : String := ""
 environment : String → Option String := fun _=>none
 /-- `YAML::Load`, `none` when it throws. -/
 load : String → Option Node
 /-- The contents of the files that can be read. -/
 files : String → Option String := fun _=>none

def endsWith (text suffix:String) : Bool :=
 suffix.toList.isSuffixOf text.toList

namespace Node

def asString : Node → Except Error String
 | .scalar text => .ok text
 | .null => .ok "null"
 | .sequence _ | .map _ => .error .badConversion

def hasKey (key:String) (entry:Node × Node) : Bool :=
 match entry.1 with
 | .scalar text => text == key
 | .null | .sequence _ | .map _ => false

def find (entries:Entries) (key:String) : Option Node :=
 (entries.find? (hasKey key)).map Prod.snd

def part : Node → List ℕ → Option Node
 | node,[] => some node
 | .sequence items,i :: path => items[i]?.bind fun item=>item.part path
 | .map entries,i :: path => entries[i]?.bind fun entry=>entry.2.part path
 | .null,_ :: _ | .scalar _,_ :: _ => none

end Node

namespace Options

def parseReplacement (o:Options) (value:String) : Node :=
 match o.load value with
 | none | some .null => .scalar value
 | some parsed => parsed

def readConfigFile (o:Options) (path:String) : Except Error String :=
 if path = "" then .ok ""
 else
  match o.files path with
  | some contents => .ok contents
  | none => .error (.runtime ("cannot read configuration " ++ path))

def readSubstitutionFile (o:Options) (path:String) : Except Error String :=
 (o.readConfigFile path).map fun value =>
  .ofList (value.toList.reverse.dropWhile fun c=>c == '\n' || c == '\r').reverse

def resolve (o:Options) (path:String) : String :=
 if path.toList.head? = some '/' || o.baseDirectory = "" then path
 else if endsWith o.baseDirectory "/" then o.baseDirectory ++ path
 else o.baseDirectory ++ "/" ++ path

end Options

def variableName (source:String) : Option String :=
 match source.toList with
 | '$' :: c :: rest => if c = '{' then none else some (.ofList (c :: rest))
 | _ => none

def filePath (source:String) : Option String :=
 if "$\x7bfile:".toList.isPrefixOf source.toList && endsWith source "\x7d" then
  some (.ofList (source.toList.drop 7).dropLast)
 else none

def splitDefault : List Char → List Char × Option (List Char)
 | [] => ([],none)
 | ':' :: '-' :: rest => ([],some rest)
 | c :: rest => (c :: (splitDefault rest).1,(splitDefault rest).2)

def expressionValue (o:Options) (expression:List Char) : Except Error String :=
 let name:=String.ofList (splitDefault expression).1
 match o.environment name,(splitDefault expression).2 with
 | some value,_ => .ok value
 | none,some value => .ok (.ofList value)
 | none,none => .error (.runtime ("environment variable is not defined: " ++ name))

/-- The loop over a scalar, inside of a `${` with what was read of the expression so far in
reverse. The flag tells whether anything was replaced. -/
def expand (o:Options) (source:String) : Option (List Char) → List Char → Except Error (List Char × Bool)
 | none,[] => .ok ([],false)
 | some _,[] => .error (.runtime ("unterminated configuration substitution: " ++ source))
 | some expression, '}' :: rest => do
  let value ← expressionValue o expression.reverse
  let (result,_) ← expand o source none rest
  .ok (value.toList ++ result,true)
 | some expression,c :: rest => expand o source (some (c :: expression)) rest
 | none, '$' :: '{' :: rest => expand o source (some []) rest
 | none,c :: rest => do
  let (result,changed) ← expand o source none rest
  .ok (c :: result,changed)

lemma expand_files (o:Options) (files:String → Option String) (source:String) (expression:Option (List Char))
  (text:List Char) : expand { o with files := files } source expression text=expand o source expression text := by
 fun_induction expand o source expression text <;> simp_all[expand,expressionValue]

def substituteText (o:Options) (source:String) : Except Error Node :=
 match filePath source with
 | some path => (o.readSubstitutionFile (o.resolve path)).map o.parseReplacement
 | none =>
  (expand o source none source.toList).map fun (result,changed) =>
   if changed then o.parseReplacement (.ofList result) else .scalar source

def decorated (key:String) : Bool :=
 endsWith key "#env" || endsWith key "#fallback" || endsWith key "#file"

/-- A place: a document and the way to a node in it. -/
structure Ref where
 document : ℕ
 path : List ℕ
deriving DecidableEq

def Ref.child (x:Ref) (i:ℕ) : Ref :=
 ⟨x.document,x.path ++ [i]⟩

/-- The documents as they were parsed, and the place whose data each place shows. -/
structure Heap where
 documents : List Node
 shown : Ref → Ref := id

namespace Heap

def data (h:Heap) (x:Ref) : Option Node :=
 h.documents[x.document]?.bind fun node=>node.part x.path

def get (h:Heap) (x:Ref) : Option Node :=
 h.data (h.shown x)

def asString (h:Heap) (x:Ref) : Except Error String :=
 match h.get x with
 | some node => node.asString
 | none => .error .badConversion

/-- `x = y` for two nodes. -/
def assign (h:Heap) (x y:Ref) : Heap :=
 { h with shown := Function.update h.shown x (h.shown y) }

/-- `x = value` for a value that is a document of its own. -/
def replace (h:Heap) (x:Ref) (value:Node) : Ref × Heap :=
 (⟨h.documents.length,[]⟩,assign { h with documents := h.documents ++ [value] } x ⟨h.documents.length,[]⟩)

end Heap

def assign (result:List (String × Node)) (key:String) (value:Node) : List (String × Node) :=
 if (result.map Prod.fst).contains key then
  result.map fun entry=>if entry.1 = key then (key,value) else entry
 else result ++ [(key,value)]

abbrev Substitute := Ref → Heap → Run Error (Node × Heap)

abbrev Progress := List (String × Node) × Heap

section Map
variable (o:Options) (substituteNode:Substitute)

-- `place` is where the map's data is; nothing is assigned to its node while a loop runs
variable (place:Ref) (entries:Entries)

def subscript (key:String) : Option Ref :=
 (entries.findIdx? (Node.hasKey key)).map place.child

/-- The node chosen for a key whose plain value is `selected`, which the choice is assigned to. -/
def select (h:Heap) (key:String) (selected:Ref) : Except Error (Ref × Heap) :=
 match subscript place entries (key ++ "#env") with
 | some environmentKey =>
  (h.asString environmentKey).map fun name =>
   match o.environment name,subscript place entries (key ++ "#fallback") with
   | some value,_ => h.replace selected (o.parseReplacement value)
   | none,some fallbackKey => (fallbackKey,h.assign selected fallbackKey)
   | none,none => (selected,h)
 | none =>
  match subscript place entries (key ++ "#file") with
  | some fileKey => do
   let path ← h.asString fileKey
   let value ← o.readSubstitutionFile (o.resolve path)
   .ok (h.replace selected (o.parseReplacement value))
  | none => .ok (selected,h)

/-- `result[key] = SubstituteNode(node)`. -/
def substituteKey (s:Progress) (key:String) (node:Ref) (h:Heap) : Run Error Progress := do
 let (value,h) ← substituteNode node h
 pure (assign s.1 key value,h)

def plainEntry (s:Progress) (entry:(Node × Node) × ℕ) : Run Error Progress := do
 let key ← of entry.1.1.asString
 if decorated key then pure s
 else
  let (selected,h) ← of (select o place entries s.2 key (place.child entry.2))
  substituteKey substituteNode s key selected h

/-- The value of `key#fallback` is used for a key that has none. -/
def substituteFallback (s:Progress) (key:String) (node:Ref) : Run Error Progress :=
 if (s.1.map Prod.fst).contains key then pure s
 else
  match subscript place entries (key ++ "#env") with
  | some environmentKey => do
   let name ← of (s.2.asString environmentKey)
   match o.environment name with
   | some value => pure (assign s.1 key (o.parseReplacement value),s.2)
   | none => substituteKey substituteNode s key node s.2
  | none => substituteKey substituteNode s key node s.2

def fallbackEntry (s:Progress) (entry:(Node × Node) × ℕ) : Run Error Progress := do
 let decorated ← of entry.1.1.asString
 if !endsWith decorated "#fallback" then pure s
 else
  let key:=String.ofList (decorated.toList.take (decorated.toList.length - 9))
  substituteFallback o substituteNode place entries s key (place.child entry.2)

def substituteMap (h:Heap) : Run Error (Node × Heap) := do
 let s ← entries.zipIdx.foldlM (plainEntry o substituteNode place entries) ([],h)
 let s ← entries.zipIdx.foldlM (fallbackEntry o substituteNode place entries) s
 pure (.map (s.1.map fun entry=>(.scalar entry.1,entry.2)),s.2)

def substituteItem (s:List Node × Heap) (item:Node × ℕ) : Run Error (List Node × Heap) := do
 let (value,h) ← substituteNode (place.child item.2) s.2
 pure (s.1 ++ [value],h)

end Map

/-- `options.variables` is a node too. Without variables every one of them is null. -/
def substituteScalar (o:Options) (vars:Ref) (substituteNode:Substitute) (source:String) (h:Heap) : Run Error (Node × Heap) :=
 match variableName source with
 | some name =>
  match h.get vars with
  | none | some .null => pure (.null,h)
  | some (.scalar _) => of (.error .badSubscript)
  | some (.sequence _) => of (.error (.runtime ("configuration variable is not defined: " ++ name)))
  | some (.map entries) =>
   match subscript (h.shown vars) entries name with
   | some node => substituteNode node h
   | none => of (.error (.runtime ("configuration variable is not defined: " ++ name)))
 | none => of ((substituteText o source).map fun value=>(value,h))

def substituteNode (o:Options) (vars:Ref) : ℕ → Substitute
 | 0,_,_ => none
 | depth + 1,x,h =>
  match h.get x with
  | none | some .null => pure (.null,h)
  | some (.scalar source) => substituteScalar o vars (substituteNode o vars depth) source h
  | some (.sequence items) => do
   let (values,h) ← items.zipIdx.foldlM (substituteItem (substituteNode o vars depth) (h.shown x)) ([],h)
   pure (.sequence values,h)
  | some (.map entries) => substituteMap o (substituteNode o vars depth) (h.shown x) entries h

def root : Ref := ⟨0,[]⟩

/-- The document's own variables are used when none were given. -/
def variablesOf (o:Options) (document:Node) : Ref :=
 match o.variables,document with
 | .null,.map entries => (subscript root entries "variables").getD ⟨1,[]⟩
 | _,_ => ⟨1,[]⟩

def initial (o:Options) (document:Node) : Heap :=
 { documents := [document,o.variables] }

def substituteConfiguration (o:Options) (depth:ℕ) (document:Node) : Option (Except Error Node) :=
 Option.map (Except.map Prod.fst) (substituteNode o (variablesOf o document) depth root (initial o document))

end ServiceLib.ConfigSubstitution
