import ServiceLib.ConfigFiles
import ServiceLib.Transition

set_option autoImplicit false
attribute [-instance] instBooleanRingBool

/-!
# The configuration loader

`Load` and `PollOnce` of `ConfigLoader`. What holds `reloadMutex_` is one step; its label gives
the files as they were at each of its reads, so they may change in between. The callback of a
poll is a step of its own.
-/
namespace ServiceLib.ConfigLoader
open ConfigSubstitution (Node Entries Options Referenced substituteConfiguration)
open Transition Option

inductive Error
 | substitution (error:ConfigSubstitution.Error)
 | runtime (what:String)
 | invalidArgument (what:String)

abbrev Files := String → Option String

def assign (key:String) (value:Node) : Entries → Entries
 | [] => [(.scalar key,value)]
 | (.scalar text,old) :: rest =>
  if text = key then (.scalar text,value) :: rest else (.scalar text,old) :: assign key value rest
 | entry :: rest => entry :: assign key value rest

mutual

def deepMerge (base:Node) : Node → Except Error Node
 | .map overrides =>
  match base with
  | .map entries => (mergeEntries overrides entries).map .map
  | .null | .scalar _ | .sequence _ => .ok (.map overrides)
 | overrides => .ok overrides

def mergeEntries : Entries → Entries → Except Error Entries
 | [],result => .ok result
 | entry :: rest,result => do
  let result ← mergeEntry entry result
  mergeEntries rest result

def mergeEntry : Node × Node → Entries → Except Error Entries
 | (.scalar key,value),result =>
  match Node.find result key with
  | some current => (deepMerge current value).map fun merged=>assign key merged result
  | none => .ok (assign key value result)
 | (.null,_),_ | (.sequence _,_),_ | (.map _,_),_ =>
  .error (.invalidArgument "configuration mapping keys must be scalar")

end

def parseYaml (load:String → Except String Node) (contents source:String) : Except Error Node :=
 match load contents with
 | .error what => .error (.runtime ("cannot parse configuration " ++ source ++ ": " ++ what))
 | .ok .null => .ok (.map [])
 | .ok (.map entries) => .ok (.map entries)
 | .ok (.scalar _) | .ok (.sequence _) =>
  .error (.invalidArgument ("configuration root must be a mapping: " ++ source))

structure Paths where
 configPath : String
 overridePath : Option String
 /-- `parent_path()` of the configuration's path. -/
 baseDirectory : String

structure Fingerprint where
 config : String
 values : String
deriving DecidableEq

/-- The code outside of the loader: the YAML parser with the text of its exception, the
environment, the generated adapter and the construction of `RuntimeConfig`. `depth` bounds
the recursion of the substitution. -/
structure Setup (Config:Type) where
 paths : Paths
 load : String → Except String Node
 environment : String → Option String
 make : Except Error Config
 apply : Node → Config → Except Error Config
 finalize : Config → Except Error Config
 runtimeConfig : Config → Except Error Unit
 depth : ℕ

section Build
variable {Config:Type} (u:Setup Config)

def Setup.options (files:Files) : Options :=
 { baseDirectory := u.paths.baseDirectory
   environment := u.environment
   load := fun text=>(u.load text).toOption
   files := files }

def Setup.override : Option String :=
 u.paths.overridePath.filter fun path=>path ≠ ""

def readConfigFile (files:Files) (path:String) : Except Error String :=
 ((u.options files).readConfigFile path).mapError .substitution

def readFingerprint (configFiles valuesFiles:Files) : Except Error Fingerprint := do
 let config ← readConfigFile u configFiles u.paths.configPath
 match u.override with
 | none => .ok ⟨config, ""⟩
 | some path =>
  let values ← readConfigFile u valuesFiles path
  .ok ⟨config,values⟩

def mergedDocument (fingerprint:Fingerprint) : Except Error Node := do
 let merged ← parseYaml u.load fingerprint.config u.paths.configPath
 match u.override with
 | none => .ok merged
 | some path =>
  let values ← parseYaml u.load fingerprint.values path
  deepMerge merged values

def configure (document:Node) : Except Error Config := do
 let config ← u.make
 let config ← u.apply document config
 let config ← u.finalize config
 u.runtimeConfig config
 .ok config

/-- `BuildCandidate` after its first line. `none` when the substitution does not end. -/
def buildFrom (fingerprint:Fingerprint) (files:Files) : Option (Except Error Config) :=
 match mergedDocument u fingerprint with
 | .error e => some (.error e)
 | .ok merged =>
  (substituteConfiguration (u.options files) u.depth merged).map fun result =>
   (result.mapError Error.substitution).bind (configure u)

/-- The files at the reads of a build: of the configuration, of the override file and of the
files that the document refers to. -/
structure Reads where
 config : Files
 values : Files
 references : Files

def buildCandidate (reads:Reads) : Option (Except Error (Config × Fingerprint)) :=
 match readFingerprint u reads.config reads.values with
 | .error e => some (.error e)
 | .ok fingerprint =>
  (buildFrom u fingerprint reads.references).map fun result=>result.map fun config=>(config,fingerprint)

/-- `onReload` tells whether a callback is set and `pending` is the configuration that the
poller is about to call it with. Recorded besides: the files that the published
configuration was built with, the publications of polls that have a callback to run, and
its calls. -/
structure State (Config:Type) where
 published : Option Config := none
 fingerprint : Option Fingerprint := none
 onReload : Bool := false
 polling : Bool := false
 pending : Option Config := none
 references : Files := fun _=>none
 publications : List Config := []
 calls : List Config := []

inductive Label
 | load (reads:Reads)
 | start (onReload:Bool)
 | stop
 | poll (configFiles valuesFiles:Files) (reads:Reads)
 | callback

def State.publish (s:State Config) (config:Config) (fingerprint:Fingerprint) (reads:Reads) : State Config :=
 { s with published := some config,fingerprint := some fingerprint,references := reads.references }

/-- The critical section of `PollOnce`, which swallows every exception. -/
def pollOnce (s:State Config) (configFiles valuesFiles:Files) (reads:Reads) : Option (State Config) :=
 match readFingerprint u configFiles valuesFiles with
 | .error _ => some s
 | .ok observed =>
  if s.fingerprint = some observed then some s
  else
   match buildCandidate u reads with
   | none => none
   | some (.error _) => some s
   | some (.ok (config,fingerprint)) =>
    let published:=s.publish config fingerprint reads
    some (if s.onReload then
     { published with pending := some config,publications := s.publications ++ [config] } else published)

/-- `Start` and `Stop` wait for the poller, which is past the callback of its last poll then. -/
def step (s:State Config) : Label → Option (State Config)
 | .load reads =>
  match buildCandidate u reads with
  | none => none
  | some (.error _) => some s
  | some (.ok (config,fingerprint)) => some (s.publish config fingerprint reads)
 | .start onReload =>
  if s.pending.isNone then some { s with onReload := onReload,polling := u.override.isSome } else none
 | .stop => if s.pending.isNone then some { s with polling := false } else none
 | .poll configFiles valuesFiles reads =>
  if s.polling ∧ s.pending.isNone then pollOnce u s configFiles valuesFiles reads else none
 | .callback =>
  match s.pending with
  | none => none
  | some config => some { s with pending := none,calls := s.calls ++ [config] }

end Build

variable {Config:Type} {u:Setup Config} {s s':State Config}

/-- The published configuration was built from the stored texts, and the callbacks that have
run, with one that is about to, are the publications of the polls. -/
structure Consistent (u:Setup Config) (s:State Config) : Prop where
 loaded : s.published.isSome = s.fingerprint.isSome
 built : ∀ config fingerprint,s.published = some config → s.fingerprint = some fingerprint →
  buildFrom u fingerprint s.references = some (.ok config)
 notified : s.calls ++ s.pending.toList = s.publications

lemma built_of_candidate {reads:Reads} {config:Config} {fingerprint:Fingerprint}
  (h:buildCandidate u reads=some (.ok (config,fingerprint))) :
  readFingerprint u reads.config reads.values=.ok fingerprint ∧
   buildFrom u fingerprint reads.references=some (.ok config) := by
 unfold buildCandidate at h
 split at h
 · cases h
 · next found hfound =>
   obtain ⟨result,hresult,hmap⟩:=map_eq_some_iff.mp h
   cases result with
   | error e => cases hmap
   | ok config' =>
    cases hmap
    exact ⟨hfound,hresult⟩

lemma Consistent.publish (h:Consistent u s) {reads:Reads} {config:Config} {fingerprint:Fingerprint}
    (hbuild:buildCandidate u reads=some (.ok (config,fingerprint))) :
    Consistent u (s.publish config fingerprint reads) where
 loaded := rfl
 built config' fingerprint' hconfig hfingerprint:=by
  cases hconfig
  cases hfingerprint
  exact (built_of_candidate hbuild).2
 notified := h.notified

/-- A poll changes nothing, or it publishes what it has built and leaves its call to the poller. -/
lemma pollOnce_cases {configFiles valuesFiles:Files} {reads:Reads}
  (h:pollOnce u s configFiles valuesFiles reads=some s') :
  (s'=s∧∀ observed,readFingerprint u configFiles valuesFiles=.ok observed →
    s.fingerprint=some observed∨∃ e,buildCandidate u reads=some (.error e)) ∨
  ∃ config fingerprint,buildCandidate u reads=some (.ok (config,fingerprint)) ∧
   (∃ observed,readFingerprint u configFiles valuesFiles=.ok observed∧s.fingerprint≠some observed) ∧
   s'=if s.onReload then
     { s.publish config fingerprint reads with
       pending := some config,publications := s.publications++[config] }
    else s.publish config fingerprint reads := by
 grind[pollOnce]

lemma Consistent.step {l:Label} (h:Consistent u s) (hstep:step u s l=some s') : Consistent u s' := by
 cases l with
 | load reads =>
  simp only[ConfigLoader.step] at hstep
  split at hstep <;> cases hstep
  · exact h
  · next hbuild => exact h.publish hbuild
 | start | stop =>
  simp only[ConfigLoader.step] at hstep
  split at hstep <;> cases hstep
  exact ⟨h.loaded,h.built,h.notified⟩
 | poll configFiles valuesFiles reads =>
  simp only[ConfigLoader.step] at hstep
  split at hstep
  · next hidle =>
    obtain ⟨rfl,-⟩ | ⟨config,fingerprint,hbuild,-,rfl⟩:=pollOnce_cases hstep
    · exact h
    · have hpublished:=h.publish hbuild
      have hcalls:s.calls=s.publications:=by
       rw[← h.notified,isNone_iff_eq_none.mp hidle.2]
       exact (List.append_nil _).symm
      split
      · exact ⟨hpublished.loaded,hpublished.built,congrArg (·++[config]) hcalls⟩
      · exact hpublished
  · cases hstep
 | callback =>
  simp only[ConfigLoader.step] at hstep
  split at hstep <;> cases hstep
  next config hpending =>
   refine ⟨h.loaded,h.built,?_⟩
   rw[← h.notified,hpending]
   exact List.append_nil _

lemma Consistent.exec {ls:List Label} (hrun:exec (ConfigLoader.step u) {} ls=some s) : Consistent u s :=
 exec_invariant (fun _ _ _ h hstep=>h.step hstep) ⟨rfl,fun _ _ h=>(by cases h),rfl⟩ hrun

/-- In every run, whatever the files are at each read: the published configuration is the one
built from the stored texts; a poll that fails or finds nothing new leaves the state as it
is, and any other publishes its own build with the texts that it read for it; and the
calls of the callback are the publications of the polls, the last of which is about to
get its call. -/
theorem reload_atomic {ls : List Label} (hrun : exec (step u) {} ls = some s) :
  (s.published.isSome = s.fingerprint.isSome ∧
   ∀ config fingerprint, s.published = some config → s.fingerprint = some fingerprint →
    buildFrom u fingerprint s.references = some (.ok config)) ∧
  (∀ configFiles valuesFiles reads s', step u s (.poll configFiles valuesFiles reads) = some s' →
   (s' = s ∧ ∀ observed, readFingerprint u configFiles valuesFiles = .ok observed →
     s.fingerprint = some observed ∨ ∃ e, buildCandidate u reads = some (.error e)) ∨
   ∃ config fingerprint, buildCandidate u reads = some (.ok (config, fingerprint)) ∧
    (∃ observed, readFingerprint u configFiles valuesFiles = .ok observed ∧ s.fingerprint ≠ some observed) ∧
    s'.published = some config ∧ s'.fingerprint = some fingerprint ∧ s'.calls = s.calls ∧
    s'.pending = if s.onReload then some config else none) ∧
  s.calls ++ s.pending.toList = s.publications ∧
  ∀ config, s.pending = some config →
   step u s .callback = some { s with pending := none, calls := s.calls ++ [config] } := by
 have h:=Consistent.exec hrun
 refine ⟨⟨h.loaded,h.built⟩,fun configFiles valuesFiles reads s' hstep=>?_,h.notified,
  fun config hpending=>by simp only[step,hpending]⟩
 simp only[step] at hstep
 split at hstep
 · next hidle =>
   obtain hsame | ⟨config,fingerprint,hbuild,hchanged,rfl⟩:=pollOnce_cases hstep
   · exact .inl hsame
   · refine .inr ⟨config,fingerprint,hbuild,hchanged,?_⟩
     split
     · exact ⟨rfl,rfl,rfl,rfl⟩
     · exact ⟨rfl,rfl,rfl,isNone_iff_eq_none.mp hidle.2⟩
 · cases hstep

def Reads.still (files:Files) : Reads := ⟨files,files,files⟩

def plainSetup : Setup Node where
 paths := ⟨"config.yaml",some "values.yaml", ""⟩
 load text :=
  if text = "" then .ok .null
  else if text = "password: $\x7bfile:secret\x7d" then
   .ok (.map [(.scalar "password",.scalar "$\x7bfile:secret\x7d")])
  else if text = "password: new" then .ok (.map [(.scalar "password",.scalar "new")])
  else .ok (.scalar text)
 environment _ := none
 make := .ok .null
 apply document _ := .ok document
 finalize := .ok
 runtimeConfig _ := .ok ()
 depth := 3

def filesWith (secret:String) : Files := fun path =>
 if path = "config.yaml" then some "password: $\x7bfile:secret\x7d"
 else if path = "values.yaml" then some ""
 else if path = "secret" then some secret
 else none

def loadAndStart : List Label :=
 [.load (.still (filesWith "one")),.start true]

def filesBut (changed contents:String) : Files := fun path =>
 if path = changed then some contents else filesWith "one" path

def pollWith (files:Files) : Label := .poll files files (.still files)

/-- A poll that finds a new configuration, its callback, and a poll that finds no change. -/
def reloadRun : List Label :=
 loadAndStart ++ [pollWith (filesBut "config.yaml" "password: new"),.callback,
  pollWith (filesBut "config.yaml" "password: new")]

theorem reload_atomic_reloadRun : ∃ s, exec (step plainSetup) {} reloadRun = some s ∧
  s.published = some (.map [(.scalar "password", .scalar "new")]) ∧
  s.publications = [.map [(.scalar "password", .scalar "new")]] ∧
  exec (step plainSetup) {} reloadRun.dropLast = some s ∧ s.calls ++ s.pending.toList = s.publications :=
 have hrun:exec (step plainSetup) {} reloadRun=some _:=rfl
 ⟨_,hrun,rfl,rfl,rfl,(reload_atomic hrun).2.2.1⟩

lemma buildFrom_congr {fingerprint:Fingerprint} {files files' :Files}
  (hfiles:∀ document path,mergedDocument u fingerprint=.ok document→ Referenced (u.options files') document path →
   files path=files' path) : buildFrom u fingerprint files=buildFrom u fingerprint files' := by
 unfold buildFrom
 cases hmerged:mergedDocument u fingerprint with
 | error e => rfl
 | ok document =>
  have hsame:=ConfigSubstitution.substituteConfiguration_congr (hfiles document · hmerged) u.depth
  exact congrArg (Option.map _) hsame

/-- For every state reached and every contents of the files under which a build succeeds: a
poll during which they do not change publishes what `Load` would, if the texts are not the
stored ones or no file that the document refers to has changed since it was published. -/
theorem reload_complete {ls : List Label} (hrun : exec (step u) {} ls = some s)
  (hidle : s.polling ∧ s.pending.isNone) {files : Files} {config : Config} {fingerprint : Fingerprint}
  (hbuild : buildCandidate u (.still files) = some (.ok (config, fingerprint)))
  (hfiles : s.fingerprint ≠ some fingerprint ∨ ∀ document path, mergedDocument u fingerprint = .ok document →
   Referenced (u.options s.references) document path → files path = s.references path) :
  ∃ s', step u s (pollWith files) = some s' ∧ s'.published = some config ∧ s'.fingerprint = some fingerprint := by
 have h:=Consistent.exec hrun
 obtain ⟨hread,hfrom⟩:=built_of_candidate hbuild
 have hread':readFingerprint u files files=.ok fingerprint:=hread
 simp only[pollWith,step,if_pos hidle,pollOnce,hread']
 by_cases hsame:s.fingerprint=some fingerprint
 · refine ⟨s,if_pos hsame,?_,hsame⟩
   obtain ⟨published,hpublished⟩ : ∃ published,s.published=some published:=by
    refine isSome_iff_exists.mp ?_
    rw[h.loaded,hsame]
    rfl
   have hbuilt:=h.built published fingerprint hpublished hsame
   have hold:=buildFrom_congr (hfiles.resolve_left (not_not.mpr hsame))
   cases (hfrom.symm.trans hold).trans hbuilt
   exact hpublished
 · rw[if_neg hsame,hbuild]
   refine ⟨_,rfl,?_⟩
   split <;> exact ⟨rfl,rfl⟩

lemma referenced_secret {o:Options} (hdirectory:o.baseDirectory="") {path:String}
  (h:Referenced o (.map [(.scalar "password",.scalar "$\x7bfile:secret\x7d")]) path) : path="secret" := by
 have hplain:∀ entry∈[(Node.scalar "password",Node.scalar "$\x7bfile:secret\x7d")],
  ∀ name,entry.1.asString=.ok name→ ConfigSubstitution.decorated name=false := by simp[Node.asString]; decide
 obtain ⟨node,hreach,hname⟩:=h
 have hnode:node=.map [(.scalar "password",.scalar "$\x7bfile:secret\x7d")]∨node=.scalar "$\x7bfile:secret\x7d":=by
  clear hname
  induction hreach with
  | refl => exact .inl rfl
  | tail _ hrefers ih =>
   rcases ih with rfl | rfl
   · exact .inr (by simpa using ConfigSubstitution.refers_plain hplain hrefers)
   · cases hrefers with
     | «variable» hname => cases hname
 rcases hnode with rfl | rfl
 · cases hname with
   | map hfind => cases (ConfigSubstitution.find_decorated hplain (ConfigSubstitution.decorated_file _)).symm.trans hfind
 · cases hname with
   | scalar hfile =>
    cases hfile
    simp[Options.resolve,hdirectory]

/-- A file that the document does not refer to changes. -/
theorem reload_complete_otherFile :
  ∃ s s', exec (step plainSetup) {} loadAndStart = some s ∧ step plainSetup s (pollWith (filesBut "other" "changed")) = some s' ∧
   s'.published = some (.map [(.scalar "password", .scalar "one")]) := by
 have hrun:exec (step plainSetup) {} loadAndStart=some _:=rfl
 have hbuild:buildCandidate plainSetup (.still (filesBut "other" "changed"))=some (.ok (_,_)) := rfl
 have hfiles:∀ document path,
  mergedDocument plainSetup ⟨"password: $\x7bfile:secret\x7d", ""⟩=.ok document →
   Referenced (plainSetup.options (filesWith "one")) document path→ filesBut "other" "changed" path=filesWith "one" path:=by
  intro document path hdocument hpath
  cases hdocument
  cases referenced_secret rfl hpath
  rfl
 obtain ⟨s',hs',hpublished,-⟩:=reload_complete hrun ⟨rfl,rfl⟩ hbuild (.inr hfiles)
 exact ⟨_,s',hrun,hs',hpublished⟩

/-- Only `secret` changes: the poll keeps the old password, a fresh `Load` has the new one. -/
theorem secret_change_missed :
  ∃ s s' config fingerprint, exec (step plainSetup) {} loadAndStart = some s ∧
   step plainSetup s (pollWith (filesWith "two")) = some s' ∧
   s'.published = some (.map [(.scalar "password", .scalar "one")]) ∧
   buildCandidate plainSetup (.still (filesWith "two")) = some (.ok (config, fingerprint)) ∧
   config = .map [(.scalar "password", .scalar "two")] :=
 ⟨_,_,_,_,rfl,rfl,rfl,rfl,rfl⟩

end ServiceLib.ConfigLoader
