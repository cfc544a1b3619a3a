import ServiceLib.ConfigSubstitution
import Mathlib.Data.List.Infix

set_option autoImplicit false
attribute [-instance] instBooleanRingBool

/-!
# Scalar expansion
-/
namespace ServiceLib.ConfigSubstitution
open List

/-- What a placeholder stands for. The default begins after the first `:-`. -/
inductive Stands (o:Options) : List Char → Except Error String → Prop
 | plain {name:List Char} (hname:¬[':', '-'] <:+: name) :
  Stands o name (match o.environment (.ofList name) with
   | some value => .ok value
   | none => .error (.runtime ("environment variable is not defined: " ++ .ofList name)))
 | default {name default:List Char} (hname:¬[':', '-'] <:+: name ++ [':']) :
  Stands o (name ++ ':' :: '-' :: default) (.ok ((o.environment (.ofList name)).getD (.ofList default)))

/-- The pass from left to right. A placeholder ends at the nearest `}`. -/
inductive Pass (o:Options) (source:String) : List Char → Except Error (List Char) → Prop
 | done : Pass o source [] (.ok [])
 | literal {c:Char} {rest:List Char} {result:Except Error (List Char)} (hc:¬['$', '{'] <+: c :: rest)
  (hrest:Pass o source rest result) : Pass o source (c :: rest) (result.map (c :: ·))
 | expanded {expression rest:List Char} {value:String} {result:Except Error (List Char)}
  (hend: '}' ∉ expression) (hvalue:Stands o expression (.ok value)) (hrest:Pass o source rest result) :
  Pass o source ('$' :: '{' :: expression ++ '}' :: rest) (result.map (value.toList ++ ·))
 | undefined {expression rest:List Char} {error:Error} (hend: '}' ∉ expression)
  (hvalue:Stands o expression (.error error)) :
  Pass o source ('$' :: '{' :: expression ++ '}' :: rest) (.error error)
 | unterminated {rest:List Char} (hend: '}' ∉ rest) :
  Pass o source ('$' :: '{' :: rest) (.error (.runtime ("unterminated configuration substitution: " ++ source)))

def FileShaped (source:String) (path:List Char) : Prop :=
 source.toList = "$\x7bfile:".toList ++ path ++ ['}']

/-- The expansion of a scalar: of the file if the text is one file placeholder, else of the
text, which is parsed again if it has a placeholder. -/
inductive Expansion (o:Options) (source:String) : Except Error Node → Prop
 | file {path:List Char} (hshape:FileShaped source path) (hpath: '}' ∉ path) :
  Expansion o source ((o.readSubstitutionFile (o.resolve (.ofList path))).map o.parseReplacement)
 | text {result:Except Error (List Char)} (hfile:∀ path,FileShaped source path → '}' ∈ path)
  (hpass:Pass o source source.toList result) :
  Expansion o source (result.map fun text =>
   if ['$', '{'] <:+: source.toList then o.parseReplacement (.ofList text) else .scalar source)

variable {o:Options} {source:String}

lemma splitDefault_cases (expression:List Char) :
  (splitDefault expression=(expression,none)∧¬[':','-'] <:+: expression) ∨
   ∃ name default,splitDefault expression=(name,some default)∧expression=name++ ':':: '-'::default ∧
    ¬[':','-'] <:+: name++[':'] := by
 fun_induction splitDefault expression with
 | case1 => exact .inl ⟨rfl,by simp⟩
 | case2 rest => exact .inr ⟨[],rest,rfl,rfl,by decide⟩
 | case3 c rest hc ih =>
  have hcolon:¬[':','-'] <+: c::rest:=by
   rintro ⟨tail,htail⟩
   cases htail
   exact hc tail rfl rfl
  rcases ih with ⟨hsplit,hrest⟩ | ⟨name,default,hsplit,rfl,hname⟩
  · exact .inl ⟨by rw[hsplit],by simp[infix_cons_iff,hcolon,hrest]⟩
  · refine .inr ⟨c::name,default,by rw[hsplit],rfl,?_⟩
    rw[cons_append,infix_cons_iff,not_or]
    exact ⟨fun hname'=>hcolon (hname'.trans ⟨'-'::default,by simp⟩),hname⟩

lemma stands_expressionValue (o:Options) (expression:List Char) :
  Stands o expression (expressionValue o expression) := by
 unfold expressionValue
 rcases splitDefault_cases expression with ⟨hsplit,hname⟩ | ⟨name,default,hsplit,rfl,hname⟩
 · rw[hsplit]
   convert Stands.plain hname using 1
   cases henv:o.environment (.ofList expression) <;> simp[henv]
 · rw[hsplit]
   convert Stands.default hname using 1
   cases henv:o.environment (.ofList name) <;> simp[henv]

def remaining : Option (List Char) → List Char → List Char
 | none,text => text
 | some expression,text => '$' :: '{' :: expression.reverse ++ text

lemma expand_pass (state:Option (List Char)) (text:List Char) (hstate:∀ expression∈state,'}'∉expression) :
  Pass o source (remaining state text) ((expand o source state text).map Prod.fst) ∧
   ∀ result,expand o source state text=.ok result→(result.2=true↔['$','{'] <:+: remaining state text) := by
 fun_induction expand o source state text with
 | case1 => exact ⟨.done,by simp[remaining]⟩
 | case2 expression => 
  refine ⟨.unterminated ?_,fun _ h=>by cases h⟩
  simpa using hstate expression rfl
 | case3 expression rest ih => 
  have hend : '}'∉expression.reverse:=by simpa using hstate expression rfl
  have hopen:['$','{'] <:+: remaining (some expression) ('}'::rest):=⟨[],_,rfl⟩
  have hvalue:=stands_expressionValue o expression.reverse
  obtain ⟨hpass,-⟩:=ih (by simp)
  cases hresult:expressionValue o expression.reverse with
  | error e =>
   rw[hresult] at hvalue
   exact ⟨.undefined hend hvalue,fun _ h=>by cases h⟩
  | ok value =>
   rw[hresult] at hvalue
   have hexpanded:=Pass.expanded hend hvalue hpass
   cases hrest:expand o source none rest with
   | error e =>
    rw[hrest] at hexpanded
    exact ⟨hexpanded,fun _ h=>by cases h⟩
   | ok result =>
    rw[hrest] at hexpanded
    refine ⟨hexpanded,?_⟩
    rintro result' ⟨⟩
    exact iff_of_true rfl hopen
 | case4 expression c rest hc ih =>
  have hsame:remaining (some (c::expression)) rest=remaining (some expression) (c::rest):=by
   simp[remaining]
  rw[← hsame]
  exact ih (by simpa using ⟨fun h=>hc h.symm,hstate expression rfl⟩)
 | case5 rest ih => exact ih (by simp)
 | case6 c rest hc ih =>
  have hopen:¬['$','{'] <+: c::rest:=by
   rintro ⟨tail,htail⟩
   cases htail
   exact hc tail rfl rfl
  obtain ⟨hpass,hflag⟩:=ih (by simp)
  have hliteral:=Pass.literal hopen hpass
  cases hrest:expand o source none rest with
  | error e =>
   rw[hrest] at hliteral
   exact ⟨hliteral,fun _ h=>by cases h⟩
  | ok result =>
   rw[hrest] at hliteral
   refine ⟨hliteral,?_⟩
   rintro result' ⟨⟩
   rw[remaining,infix_cons_iff]
   exact (hflag result hrest).trans (by simp[hopen,remaining])

lemma filePath_of_shape {path:List Char} (h:FileShaped source path) : filePath source=some (.ofList path) := by
 have hbegin : "$\x7bfile:".toList.isPrefixOf source.toList=true :=
  isPrefixOf_iff_prefix.mpr ⟨path++['}'],by rw[h,append_assoc]⟩
 have hsuffix:endsWith source "\x7d"=true := isSuffixOf_iff_suffix.mpr ⟨_,h.symm⟩
 rw[filePath,hbegin,hsuffix,h,append_assoc]
 simp

lemma shape_of_filePath {path:String} (h:filePath source=some path) : FileShaped source path.toList := by
 unfold filePath at h
 split at h
 case isTrue hshape =>
  obtain ⟨hbegin,hsuffix⟩:=Bool.and_eq_true_iff.mp hshape
  obtain ⟨rest,hrest⟩:= isPrefixOf_iff_prefix.mp hbegin
  obtain ⟨start,hstart⟩:=isSuffixOf_iff_suffix.mp hsuffix
  cases h
  rw[← hrest] at hstart
  have hlast:=congrArg List.getLast? hstart
  rcases eq_nil_or_concat rest with rfl | ⟨path,last,rfl⟩
  · simp at hlast
  · simp only[List.getLast?_append] at hlast
    simp at hlast
    simp[FileShaped,← hrest,← hlast]
 case isFalse => cases h

lemma Pass.error_cases {text:List Char} {error:Error} (h:Pass o source text (.error error)) :
  (∃ name,error=.runtime ("environment variable is not defined: "++name)) ∨
   error=.runtime ("unterminated configuration substitution: "++source) := by
 generalize hresult : Except.error error=result at h
 induction h with
 | done => cases hresult
 | literal hc hrest ih | expanded hend hvalue hrest ih => 
  rename_i result 
  cases result <;> grind[Except.map]
 | undefined hend hvalue => 
  cases hresult
  generalize hv : Except.error error=v at hvalue
  cases hvalue with
  | plain =>
   split at hv <;> grind
  | default => cases hv
 | unterminated => grind

lemma substituteScalar_text {vars:Ref} {recur:Substitute} {heap:Heap} (hname:variableName source=none) :
  (∃ result,substituteScalar o vars recur source heap=some (result.map fun value=>(value,heap))∧Expansion o source result)↔
   Expansion o source (substituteText o source) := by
 simp only[substituteScalar,hname]
 refine ⟨fun ⟨result,heq,hexpansion⟩=>?_,fun h=>⟨_,rfl,h⟩⟩
 have hresult:=Option.some.inj heq
 cases htext:substituteText o source <;> cases result <;> rw[htext] at hresult <;> cases hresult <;> exact hexpansion

/-- A text that names no variable is expanded by the grammar in every environment and with
every set of files if and only if it has no `}` inside of what looks like a file
placeholder. -/
theorem expansion_iff (vars : Ref) (recur : Substitute) (heap : Heap) (hname : variableName source = none) :
  (∀ o, ∃ result, substituteScalar o vars recur source heap = some (result.map fun value => (value, heap)) ∧
    Expansion o source result) ↔ ∀ path, FileShaped source path → '}' ∉ path := by
 simp only[substituteScalar_text hname]
 constructor
 · intro h path hshape hmem
   -- without variables and files, the code fails to read the file, which the grammar has not
   have hpath:String.ofList path≠ "":=by
    intro hempty
    have hnil:=congrArg String.toList hempty
    rw[String.toList_ofList] at hnil
    rw[hnil] at hmem
    cases hmem
   have hresult:substituteText { load:=fun _=>none } source =
    .error (.runtime ("cannot read configuration "++ .ofList path)):=by
    simp[substituteText,filePath_of_shape hshape,Options.readSubstitutionFile,Options.readConfigFile,
     Options.resolve,hpath,Except.map]
   have hexpansion:=h { load:=fun _=>none }
   rw[hresult] at hexpansion
   generalize hr : Except.error _=r at hexpansion
   cases hexpansion with
   | file hshape' hend =>
    rw[FileShaped,hshape,append_cancel_right_eq,append_cancel_left_eq] at hshape'
    exact hend (hshape'▸hmem)
   | @text result hfile hpass =>
    cases result with
    | ok => cases hr
    | error e =>
     cases hr
     rcases hpass.error_cases with ⟨name,herror⟩ | herror
     all_goals
      have htexts:=congrArg String.toList (Error.runtime.inj herror)
      simp at htexts
 · intro h o
   unfold substituteText
   cases hfile:filePath source with
   | some path => 
    have:=Expansion.file (o := o) (shape_of_filePath hfile) (h _ (shape_of_filePath hfile))
    rwa[String.ofList_toList] at this
   | none =>
    obtain ⟨hpass,hflag⟩:=@expand_pass o source none source.toList nofun
    have htext:=Expansion.text (fun path hshape=>nomatch hfile.symm.trans (filePath_of_shape hshape)) hpass
    cases hresult:expand o source none source.toList with
    | error e =>
     rw[hresult] at htext
     exact htext
    | ok result =>
     have hchanged:=hflag result hresult
     rw[hresult] at htext
     simp only[Except.map,← (show _↔['$','{'] <:+: source.toList from hchanged)] at htext
     exact htext

theorem expansion_iff_plain : variableName "a$\x7bB\x7d" = none ∧
  ∀ o, ∃ result, substituteScalar o root (fun _ _ => none) "a$\x7bB\x7d" ⟨[], id⟩ =
    some (result.map fun value => (value, ⟨[], id⟩)) ∧ Expansion o "a$\x7bB\x7d" result := by
 have hname:variableName "a$\x7bB\x7d"=none := by decide
 refine ⟨hname,(expansion_iff _ _ _ hname).mpr fun path hshape=>?_⟩
 cases hshape

def zoneOptions : Options :=
 { environment := fun name=>if name = "ZONE" then some "eu" else none
   load := fun text=>some (.scalar text) }

def zoneText : String := "$\x7bfile:-dev\x7d/$\x7bZONE\x7d"

theorem zoneText_mistaken : variableName zoneText = none ∧
  Expansion zoneOptions zoneText (.ok (.scalar "dev/eu")) ∧
  substituteScalar zoneOptions root (fun _ _ => none) zoneText ⟨[], id⟩ =
   some (.error (.runtime "cannot read configuration -dev\x7d/$\x7bZONE")) := by
 have hdefault:Stands zoneOptions "file:-dev".toList (.ok "dev") := @Stands.default _ "file".toList _ (by decide)
 have hzone:Stands zoneOptions "ZONE".toList (.ok "eu") := @Stands.plain _ "ZONE".toList (by decide)
 have hpass:Pass zoneOptions zoneText zoneText.toList (.ok "dev/eu".toList) :=
  @Pass.expanded _ _ "file:-dev".toList _ _ _ (by decide) hdefault
   (.literal (by decide) (@Pass.expanded _ _ "ZONE".toList _ _ _ (by decide) hzone .done))
 refine ⟨by decide,.text (fun path hshape=>?_) hpass,?_⟩
 · have hpath : "$\x7bfile:".toList++ "-dev\x7d/$\x7bZONE".toList++['}']= "$\x7bfile:".toList++path++['}'] := hshape
   rw[append_cancel_right_eq,append_cancel_left_eq] at hpath
   rw[← hpath]
   decide
 · rfl

end ServiceLib.ConfigSubstitution
