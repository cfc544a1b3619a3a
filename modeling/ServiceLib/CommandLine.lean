import Mathlib.Algebra.Group.Nat.Defs
import Mathlib.Data.List.Basic

set_option autoImplicit false

/-!
# The command line

`CommandLine::Parse`. A text is the list of its characters and an argument that is a null
pointer is `none`. The list is that of `argv` after the program's name.
-/
namespace ServiceLib.CommandLine
open List

abbrev Text := List Char

inductive Flag
 | config
 | values
 | workers
deriving DecidableEq

def Flag.name : Flag → Text
 | .config => "--config".toList
 | .values => "--values".toList
 | .workers => "--workers".toList

structure Settings where
 configPath : Text := "./config/config.yaml".toList
 valuesPath : Text := "./config/overrides.yaml".toList
 workers : ℕ
deriving DecidableEq

/-- `detected` is what `hardware_concurrency()` returns. -/
def defaultWorkers (detected:ℕ) : ℕ := if detected = 0 then 1 else detected

/-- `std::from_chars` for a `std::size_t`: the number and how many characters it took. -/
def fromChars (value:Text) : Option (ℕ × ℕ) :=
 let digits:=value.takeWhile Char.isDigit
 let number:=digits.foldl (fun n c=>10 * n + (c.toNat - '0'.toNat)) 0
 if digits = [] ∨ 2 ^ 64 ≤ number then none else some (number,digits.length)

def parseWorkers (value:Text) : Except Text ℕ :=
 if value = [] then .error "empty value for --workers".toList
 else
  match fromChars value with
  | some (workers,taken) =>
   if taken ≠ value.length ∨ workers = 0 then
    .error "--workers must be a positive base-10 integer".toList
   else .ok workers
  | none => .error "--workers must be a positive base-10 integer".toList

def requireValue (option value:Text) : Except Text Text :=
 if value = [] then .error ("empty value for ".toList ++ option) else .ok value

def inlineValue (argument name:Text) : Option Text :=
 if name.isPrefixOf argument = false ∨ argument.length ≤ name.length ∨ argument[name.length]? ≠ some '=' then
  none
 else some (argument.drop (name.length + 1))

inductive Branch
 | inlined (flag:Flag) (value:Text)
 | separate (flag:Flag)
 | unknown

def Flag.orElse (flag:Flag) (argument:Text) (next:Branch) : Branch :=
 match inlineValue argument flag.name with
 | some value => .inlined flag value
 | none => if argument = flag.name then .separate flag else next

def branch (argument:Text) : Branch :=
 Flag.config.orElse argument (Flag.values.orElse argument (Flag.workers.orElse argument .unknown))

def Settings.setInline (result:Settings) : Flag → Text → Except Text Settings
 | .config,value => (requireValue "--config".toList value).map fun path=>{ result with configPath := path }
 | .values,value => (requireValue "--values".toList value).map fun path=>{ result with valuesPath := path }
 | .workers,value => (parseWorkers value).map fun workers=>{ result with workers := workers }

def Settings.setNext (result:Settings) : Flag → Text → Except Text Settings
 | .config,value => .ok { result with configPath := value }
 | .values,value => .ok { result with valuesPath := value }
 | .workers,value => (parseWorkers value).map fun workers=>{ result with workers := workers }

/-- The loop of `Parse`; the argument after a flag is the one `NextValue` takes. -/
def parseFrom (result:Settings) : List (Option Text) → Except Text Settings
 | [] => .ok result
 | none :: _ => .error "null command line argument".toList
 | some argument :: rest =>
  match branch argument with
  | .inlined flag value =>
   match result.setInline flag value with
   | .ok result => parseFrom result rest
   | .error what => .error what
  | .separate flag =>
   match rest with
   | [] => .error ("missing value for ".toList ++ flag.name)
   | none :: _ => .error "null command line argument".toList
   | some value :: rest =>
    match result.setNext flag value with
    | .ok result => parseFrom result rest
    | .error what => .error what
  | .unknown => .error ("unknown command line argument: ".toList ++ argument)

def parse (detected:ℕ) (arguments:List (Option Text)) : Except Text Settings :=
 parseFrom { workers := defaultWorkers detected } arguments

lemma eq_of_inlineValue {argument name value:Text} (h:inlineValue argument name=some value) :
  argument=name++ '='::value := by
 unfold inlineValue at h
 split at h
 · cases h
 case isFalse hcond =>
  simp only[not_or,Nat.not_le,Decidable.not_not,Bool.not_eq_false] at hcond
  obtain ⟨hbegin,-,hequals⟩:=hcond
  obtain ⟨tail,rfl⟩:= isPrefixOf_iff_prefix.mp hbegin
  cases h
  cases tail with
  | nil => simp at hequals
  | cons c tail =>
   simp only[Nat.le_refl,List.getElem?_append_right,Nat.sub_self,
    List.getElem?_cons_zero,Option.some.injEq] at hequals
   rw[hequals,drop_append]
   simp

/-- The command lines without a flaw. -/
inductive Accepted : List (Option Text) → Prop
 | nil : Accepted []
 | inlined {flag:Flag} {value:Text} {rest:List (Option Text)} (hvalue:value ≠ [])
  (hworkers:flag = .workers → ∃ n,parseWorkers value = .ok n) (h:Accepted rest) :
  Accepted (some (flag.name ++ '=' :: value) :: rest)
 | separate {flag:Flag} {value:Text} {rest:List (Option Text)}
  (hworkers:flag = .workers → ∃ n,parseWorkers value = .ok n) (h:Accepted rest) :
  Accepted (some flag.name :: some value :: rest)

/-- The loop goes on with the argument after the list, or has failed in it. -/
def AtOption : List (Option Text) → Prop
 | [] => True
 | none :: _ => True
 | some argument :: rest =>
  match branch argument with
  | .inlined _ _ => AtOption rest
  | .separate _ =>
   match rest with
   | [] => False
   | _ :: rest => AtOption rest
  | .unknown => True

section Branch
variable {flag:Flag} {argument value:Text}

@[simp] lemma branch_name (flag:Flag) : branch flag.name=.separate flag := by
 cases flag <;> rfl

@[simp] lemma branch_inlined (flag:Flag) (value:Text) :
  branch (flag.name++ '='::value)=.inlined flag value := by
 cases flag <;> rfl

lemma orElse_cases (flag:Flag) (argument:Text) (next:Branch) :
  (∃ value,argument=flag.name++ '='::value∧flag.orElse argument next=.inlined flag value) ∨
   (argument=flag.name∧flag.orElse argument next=.separate flag)∨flag.orElse argument next=next := by
 unfold Flag.orElse
 split
 case h_1 value h => exact .inl ⟨value,eq_of_inlineValue h,rfl⟩
 case h_2 =>
  split
  case isTrue h => exact .inr (.inl ⟨h,rfl⟩)
  case isFalse => exact .inr (.inr rfl)

lemma branch_cases (argument:Text) :
  (∃ flag value,argument=Flag.name flag++ '='::value)∨(∃ flag,argument=Flag.name flag) ∨
   branch argument=.unknown := by
 unfold branch
 rcases orElse_cases .config argument _ with ⟨value,h,-⟩ | ⟨h,-⟩ | h
 · exact .inl ⟨_,value,h⟩
 · exact .inr (.inl ⟨_,h⟩)
 rcases orElse_cases .values argument _ with ⟨value,h,-⟩ | ⟨h,-⟩ | h'
 · exact .inl ⟨_,value,h⟩
 · exact .inr (.inl ⟨_,h⟩)
 rcases orElse_cases .workers argument .unknown with ⟨value,h,-⟩ | ⟨h,-⟩ | h''
 · exact .inl ⟨_,value,h⟩
 · exact .inr (.inl ⟨_,h⟩)
 exact .inr (.inr (h.trans (h'.trans h'')))

lemma setInline_ok_iff (result:Settings) (flag:Flag) (value:Text) :
  (∃ r,result.setInline flag value=.ok r) ↔
   value≠[]∧(flag=.workers→∃ n,parseWorkers value=.ok n) := by
 cases flag with
 | config | values => by_cases hv : value=[] <;> simp[Settings.setInline,requireValue,hv,Except.map]
 | workers =>
  cases h:parseWorkers value with
  | error what => simp[Settings.setInline,h,Except.map]
  | ok n =>
   have hv:value≠[]:=by
    rintro rfl
    cases h
   simp[Settings.setInline,h,Except.map,hv]

lemma setNext_ok_iff (result:Settings) (flag:Flag) (value:Text) :
  (∃ r,result.setNext flag value=.ok r)↔(flag=.workers→∃ n,parseWorkers value=.ok n) := by
 cases flag with
 | config | values => simp[Settings.setNext]
 | workers => cases h : parseWorkers value <;> simp[Settings.setNext,h,Except.map]

end Branch

lemma parseFrom_inlined (result:Settings) (flag:Flag) (value:Text) (rest:List (Option Text)) :
  parseFrom result (some (flag.name++ '='::value)::rest) =
   (result.setInline flag value).bind fun result=>parseFrom result rest := by
 cases h:result.setInline flag value <;> simp[parseFrom,h,Except.bind]

lemma parseFrom_separate (result:Settings) (flag:Flag) (value:Text) (rest:List (Option Text)) :
  parseFrom result (some flag.name::some value::rest) =
   (result.setNext flag value).bind fun result=>parseFrom result rest := by
 cases h:result.setNext flag value <;> simp[parseFrom,h,Except.bind]

lemma bind_ok_iff {α β:Type} {x:Except Text α} {f:α→ Except Text β} :
  (∃ b,x.bind f=.ok b)↔∃ a,x=.ok a∧∃ b,f a=.ok b := by
 cases x <;> simp[Except.bind]

lemma accepted_of_parse {arguments:List (Option Text)} {result final:Settings}
  (h:parseFrom result arguments=.ok final) : Accepted arguments := by
 induction hn : arguments.length using Nat.strongRecOn generalizing arguments result final with
 | _ n ih =>
  rcases arguments with _ | ⟨_ | argument,rest⟩
  · exact .nil
  · cases h
  · rcases branch_cases argument with ⟨flag,value,rfl⟩ | ⟨flag,rfl⟩ | hunknown
    · rw[parseFrom_inlined] at h
      obtain ⟨r,hr,b,hb⟩:=bind_ok_iff.mp ⟨final,h⟩
      obtain ⟨hvalue,hworkers⟩:=(setInline_ok_iff result flag value).mp ⟨r,hr⟩
      exact .inlined hvalue hworkers (ih _ (by simp[← hn]) hb rfl)
    · rcases rest with _ | ⟨_ | value,rest⟩
      · simp[parseFrom] at h
      · simp[parseFrom] at h
      · rw[parseFrom_separate] at h
        obtain ⟨r,hr,b,hb⟩:=bind_ok_iff.mp ⟨final,h⟩
        have hworkers:=(setNext_ok_iff result flag value).mp ⟨r,hr⟩
        exact .separate hworkers (ih _ (by simp only[length_cons] at hn; omega) hb rfl)
    · simp[parseFrom,hunknown] at h

/-- `Parse` accepts the command lines without a flaw and no others. -/
lemma parse_ok_iff (result:Settings) (arguments:List (Option Text)) :
  (∃ final,parseFrom result arguments=.ok final)↔Accepted arguments := by
 refine ⟨fun ⟨final,h⟩=>accepted_of_parse h,fun h=>?_⟩
 induction h generalizing result with
 | nil => exact ⟨result,rfl⟩
 | inlined hvalue hworkers _ ih =>
  obtain ⟨r,hr⟩:=(setInline_ok_iff result _ _).mpr ⟨hvalue,hworkers⟩
  rw[parseFrom_inlined,bind_ok_iff]
  exact ⟨r,hr,ih r⟩
 | separate hworkers _ ih =>
  obtain ⟨r,hr⟩:=(setNext_ok_iff result _ _).mpr hworkers
  rw[parseFrom_separate,bind_ok_iff]
  exact ⟨r,hr,ih r⟩

lemma parseFrom_append {before:List (Option Text)} (h:AtOption before) (result:Settings)
  (after:List (Option Text)) :
  parseFrom result (before++after)=(parseFrom result before).bind fun r=>parseFrom r after := by
 induction hn : before.length using Nat.strongRecOn generalizing before result with
 | _ n ih =>
  rcases before with _ | ⟨_ | argument,rest⟩
  · rfl
  · rfl
  · rcases branch_cases argument with ⟨flag,value,rfl⟩ | ⟨flag,rfl⟩ | hunknown
    · unfold AtOption at h
      simp only[branch_inlined] at h
      rw[cons_append,parseFrom_inlined,parseFrom_inlined]
      cases result.setInline flag value with
      | error what => rfl
      | ok r => exact ih _ (by simp[← hn]) h r rfl
    · rcases rest with _ | ⟨_ | value,rest⟩
      · simp[AtOption] at h
      · simp[parseFrom,Except.bind]
      · simp only[AtOption,branch_name] at h
        rw[cons_append,cons_append,parseFrom_separate,parseFrom_separate]
        cases result.setNext flag value with
        | error what => rfl
        | ok r => exact ih _ (by simp only[length_cons] at hn; omega) h r rfl
    · simp[parseFrom,hunknown,Except.bind]

lemma setNext_eq_setInline (result:Settings) {flag:Flag} {value:Text}
  (h:value≠[]∨flag=.workers) : result.setNext flag value=result.setInline flag value := by
 cases flag with
 | config | values =>
  have hv:value≠[]:=h.resolve_right (by simp)
  simp[Settings.setNext,Settings.setInline,requireValue,hv,Except.map]
 | workers => rfl

lemma setInline_rejects (result:Settings) {flag:Flag} (h:flag≠ .workers) :
  ∃ what,result.setInline flag []=.error what := by
 cases flag with
 | config | values => exact ⟨_,rfl⟩
 | workers => exact absurd rfl h

/-- At the place of an option, `--name value` and `--name=value` have the same effect unless the
value is empty, the option takes a path and the other arguments are accepted. -/
theorem forms_agree_iff (detected : ℕ) {before after : List (Option Text)} (flag : Flag) (value : Text)
  (h : AtOption before) :
  (parse detected (before ++ some flag.name :: some value :: after)).toOption =
    (parse detected (before ++ some (flag.name ++ '=' :: value) :: after)).toOption ↔
   value ≠ [] ∨ flag = .workers ∨ ¬Accepted (before ++ after) := by
 unfold parse
 rw[parseFrom_append h,parseFrom_append h,← parse_ok_iff { workers := defaultWorkers detected },
  parseFrom_append h]
 simp only[parseFrom_separate,parseFrom_inlined]
 by_cases hsame:value≠[]∨flag=.workers
 · simp only[setNext_eq_setInline _ hsame]
   exact iff_of_true trivial (hsame.imp_right .inl)
 · obtain ⟨hvalue,hflag⟩ : value=[]∧flag≠ .workers:=by simpa using hsame
   subst hvalue
   cases parseFrom { workers := defaultWorkers detected } before with
   | error what => simp[Except.bind,Except.toOption]
   | ok result =>
    -- only the separate form goes on
    obtain ⟨what,hreject⟩:=setInline_rejects result hflag
    obtain ⟨next,hnext⟩ : ∃ r,result.setNext flag []=.ok r:=
     (setNext_ok_iff result flag []).mpr (absurd · hflag)
    have hafter:=(parse_ok_iff next after).trans (parse_ok_iff result after).symm
    simp only[Except.bind,hreject,hnext,Except.toOption,ne_eq,not_true_eq_false,hflag,false_or]
    rw[← hafter]
    cases parseFrom next after <;> simp

theorem forms_agree_path :
  (parse 4 [some "--values".toList, some "v.yaml".toList, some "--workers".toList, some "2".toList]).toOption =
   (parse 4 [some "--values=v.yaml".toList, some "--workers".toList, some "2".toList]).toOption :=
 (@forms_agree_iff 4 [] [some "--workers".toList,some "2".toList] .values "v.yaml".toList trivial).mpr
  (.inl (by decide))

/-- An empty path is refused in one form only. -/
theorem empty_path_accepted :
  parse 4 [some "--config".toList, some []] = .ok { configPath := [], workers := 4 } ∧
   parse 4 [some "--config=".toList] = .error "empty value for --config".toList :=
 ⟨rfl,rfl⟩

end ServiceLib.CommandLine
