import RouteHelpers.Proofs.CommandLine.Step
import RouteHelpers.Proofs.Generation
import RouteHelpers.Proofs.OptionFile
import RouteHelpers.Proofs.Report
import RouteHelpers.Proofs.Router
import RouteHelpers.Proofs.Summary

/-!
Runs that no fault escapes from.

A run of the generating command succeeds, or it tells its user of an error and ends with exit code 1
(`isContained_ofReading`). This is so for whatever the words of the command said, and for every host that
does as its libraries promise (`Host.IsFaithful`): its console prints texts whose tags are in order, and its
parser of Ruby cuts no character. Its reader of YAML may do what it likes, and its disk may be full.

What the run is given has to be sound for that: `Reading.IsSound` says which values it may not come upon.
They are those that the program uses without looking at what they are, such as a name of an option that is no
text (`not_isContained_numberNamed`), a default value that is a date, or a place with a bracket, which is
read as markup where the place is told, and those that are nested too deep.
-/

namespace RouteHelpers

/-- A host does as its libraries promise. -/
structure Host.IsFaithful (host : Host) : Prop where
  console : host.console.IsFaithful
  ruby : host.CutsNone

namespace CommandLine

/-- An outcome without a fault: a success, or an error that is told. -/
structure Outcome.IsContained (host : Host) (o : Outcome) : Prop where
  fault : o.fault = none
  exit : o.exitCode = 0 ∨
    o.exitCode = 1 ∧ ∃ before line, o.printed = before ++ line ∧ Run.IsErrorLine host line

namespace Reading

variable (host : Host)

/-- The options that are asked for: those of a file with those of the switches on top. -/
def options (t : Files.Tree) (r : Reading) : Except OptionFile.ReadFault (List (String × Value)) :=
  match r.value? "config" with
  | none => .ok (optionsOf r)
  | some name => (OptionFile.read host.yaml t name).map (· ++ optionsOf r)

/-- What a configuration leads to is sound: its router is, its places are texts, the data in the emitted
code has a JSON form, and what is shown of the routes is plain. -/
structure IsSoundWith (t : Files.Tree) (r : Reading) (c : Configuration) : Prop where
  router : Router.IsSound host t "." c.router
  places : c.settings.HavePlaces
  data : ∀ records, (Router.records host t [] "." c.router).outcome = .ok records →
    c.settings.HaveData (Extract.settledRoutes c.settings records)
  shown : r.has "show-routes" = true → ∀ records,
    (Router.records host t [] "." c.router).outcome = .ok records →
    ∀ route ∈ Extract.settledRoutes c.settings records, Report.IsPlain route

/-- What a run of a reading comes upon in a tree is sound. -/
structure IsSound (t : Files.Tree) (r : Reading) : Prop where
  optionFile : ∀ name, r.value? "config" = some name → Files.IsNullFree name ∧
    ∀ s, t.read name = .ok (.text s) → OptionFile.IsSound host.yaml name s
  configuration : ∀ given, r.options host t = .ok given → (Configuration.assignAll {} given).IsSound
  settings : ∀ given c, r.options host t = .ok given → Configuration.ofOptions given = .ok c →
    r.IsSoundWith host t c

end Reading

namespace Run

variable {host : Host} {t : Files.Tree} {r : Reading} {P : Files.Tree → Prop}

/-- A fault of reading an option file is told. -/
theorem isReported_of_read (ht : t.HoldsTexts) (h : r.IsSound host t) {name : String}
    (hname : r.value? "config" = some name) {f : OptionFile.ReadFault}
    (hf : OptionFile.read host.yaml t name = .error f) : (RunFault.options f).isReported = true := by
  obtain ⟨hnull, hfile⟩ := h.optionFile name hname
  have htext : ∀ content, t.read name = .ok content →
      ∃ s, content = .text s ∧ OptionFile.IsSound host.yaml name s := fun content hcontent => by
    obtain ⟨s, rfl⟩ := ht.exists_text hcontent
    exact ⟨s, rfl, hfile s hcontent⟩
  rcases OptionFile.read_eq_error hnull htext hf with ⟨f, rfl, hkind⟩ | ⟨c, rfl⟩
  · simpa [RunFault.isReported, RunFault.isOfSystem] using hkind
  · rfl

/-- **The configuration** comes out, or a fault that is told. -/
theorem contains_configuration (ht : t.HoldsTexts) (h : r.IsSound host t) :
    Contains (· = t) (configuration host r) fun c t' => r.IsSoundWith host t c ∧ t' = t := by
  -- the options that were put together so far are those of the reading
  have hsettle (given : List (String × Value)) :
      Contains (fun t' => r.options host t = .ok given ∧ t' = t)
        (settle .configuration (Configuration.ofOptions given))
        fun c t' => r.IsSoundWith host t c ∧ t' = t := by
    refine contains_settle (fun c hc t' ⟨hgiven, ht'⟩ => ?_) fun e he t' ⟨hgiven, _⟩ => ?_
    · exact ⟨h.settings given c hgiven hc, ht'⟩
    · obtain ⟨f, rfl⟩ := Configuration.ofOptions_eq_error (h.configuration given hgiven) he
      rfl
  unfold configuration
  rcases hname : r.value? "config" with - | name
  · have hoptions : r.options host t = .ok ([] ++ optionsOf r) := by
      rw [Reading.options, hname]
      rfl
    exact (contains_pure (Q := fun fromFile t' => fromFile = [] ∧ t' = t) fun _ ht => ⟨rfl, ht⟩).bind
      fun fromFile p ⟨hnil, ht⟩ => hsettle _ p ⟨by rw [hnil]; exact hoptions, ht⟩
  · refine contains_tree.bind fun t' => Contains.bind (Q := fun fromFile t' =>
      r.options host t = .ok (fromFile ++ optionsOf r) ∧ t' = t) (contains_settle ?_ ?_) fun _ => hsettle _
    · rintro fromFile hfile _ ⟨rfl, rfl⟩
      exact ⟨by rw [Reading.options, hname]; exact congrArg (Except.map (· ++ optionsOf r)) hfile, rfl⟩
    · rintro f hf _ ⟨rfl, rfl⟩
      exact isReported_of_read ht h hname hf

/-- The records of a router come out, or a fault that is told. -/
theorem contains_records (hhost : host.IsFaithful) (ht : t.HoldsTexts) {router : Value}
    (h : Router.IsSound host t "." router) :
    Contains P (follow .router (Router.records host t [] "." router)) fun records _ =>
      (Router.records host t [] "." router).outcome = .ok records :=
  contains_follow (fun _ hrecords _ _ => hrecords) fun _ hf _ _ =>
    Router.records_eq_error hhost.ruby ht h hf

/-- What is generated for the records has its places and can be shown, or names collide, which is told. -/
theorem contains_ofEntries {c : Configuration} (hc : r.IsSoundWith host t c) {records : List Record}
    (hrecords : (Router.records host t [] "." c.router).outcome = .ok records) :
    Contains P (follow .generate (Generation.ofEntries c.settings (records.map .record))) fun g _ =>
      (∀ f ∈ g.files, f.destination.IsNamed IsPlace) ∧ (∀ route ∈ g.routes, route.verb ∈ Verb.all) ∧
        (r.has "show-routes" = true → ∀ route ∈ g.routes, Report.IsPlain route) := by
  rcases Generation.ofEntries_cases hc.places (hc.data records hrecords) with
    ⟨fs, hfs, hnamed⟩ | ⟨name, paths, hfault⟩
  · refine contains_follow (fun g hg _ _ => ?_) fun f hf => ?_
    · obtain rfl := Except.ok.inj (hfs.symm.trans hg)
      exact ⟨hnamed, Report.verb_of_mem_settledRoutes, fun hshow => hc.shown hshow records hrecords⟩
    · rw [hfs] at hf
      cases hf
  · refine contains_follow (fun g hg => ?_) fun f hf _ _ => ?_
    · rw [hfault] at hg
      cases hg
    · obtain rfl := Except.error.inj (hfault.symm.trans hf)
      rfl

/-- **Generating** comes to routes that can be shown, or to a fault that is told. -/
theorem contains_generate (hhost : host.IsFaithful) (ht : t.HoldsTexts) (h : r.IsSound host t) :
    Contains (· = t) (generate host r) fun routes _ => (∀ route ∈ routes, route.verb ∈ Verb.all) ∧
      (r.has "show-routes" = true → ∀ route ∈ routes, Report.IsPlain route) := by
  have hnumber (n : Nat) : '[' ∉ (toString n).toList := Report.not_mem_toString (by decide) n
  have hcount {s : String} (hs : '[' ∉ s.toList) (n : Nat) : '[' ∉ (toString n ++ s).toList :=
    Console.not_mem_append (hnumber n) hs
  have hloaded (n : Nat) : '[' ∉ ("Loaded " ++ toString n ++ " route records").toList :=
    Console.not_mem_append (Console.not_mem_append (by decide) (hnumber n)) (by decide)
  unfold generate
  refine (contains_configuration ht h).bind fun c p ⟨hc, hp⟩ => ?_
  refine ((contains_tellAll (P := (· = t)) _).bind fun _ => ?_) p hp
  -- the router is read from the tree that the run started in
  refine contains_tree.bind fun t' p hp => ?_
  obtain rfl : t' = t := hp.2
  refine Contains.bind (P := fun _ => True) (contains_records hhost ht hc.router) (fun records => ?_)
    p trivial
  refine (contains_sayDone hhost.console (hloaded records.length)).bind fun _ p hrecords => ?_
  refine Contains.bind (P := fun _ => True) (contains_ofEntries hc hrecords) (fun g => ?_) p trivial
  -- from here on nothing is asked of the tree, which the files change
  intro p ⟨hnamed, hverbs, hshown⟩
  refine Contains.bind (P := fun _ => True) (contains_store (fun _ h => h.nullFree) hnamed)
    (fun written => ?_) p trivial
  intro p hwritten
  refine Contains.bind (P := fun _ => True) (contains_forIn fun path hpath => ?_) (fun _ => ?_) p trivial
  · exact contains_sayDone hhost.console (Console.not_mem_append (by decide) (hwritten path hpath).no_bracket)
  · exact (contains_sayDone hhost.console (hcount (by decide) _)).bind fun _ =>
      contains_pure fun _ _ => ⟨hverbs, hshown⟩

/-- **The command** ends with exit code 0, or with exit code 1 behind an error that it told. -/
theorem command_ends (hhost : host.IsFaithful) (ht : t.HoldsTexts) (h : r.IsSound host t) :
    ∃ code p, (command host r).run.run ⟨t, "", []⟩ = (.ok code, p) ∧ (code = 0 ∨
      code = 1 ∧ ∃ before line, p.printed = before ++ line ∧ IsErrorLine host line) := by
  have hattempt := isAttempted_attempt hhost.console (contains_generate hhost ht h) (p := ⟨t, "", []⟩) rfl
  rw [command, run_bind]
  generalize (attempt host (generate host r)).run.run ⟨t, "", []⟩ = ending at hattempt ⊢
  rcases ending with ⟨f | - | routes, p⟩
  · exact hattempt.elim
  · exact ⟨1, p, rfl, .inr ⟨rfl, hattempt⟩⟩
  · obtain ⟨hverbs, hshown⟩ : (∀ route ∈ routes, route.verb ∈ Verb.all) ∧
        (r.has "show-routes" = true → ∀ route ∈ routes, Report.IsPlain route) := hattempt
    dsimp only
    split
    next hshow =>
      have hreport := Report.fault_print hhost.console hverbs (hshown hshow)
      unfold emit
      rw [hreport]
      exact ⟨0, _, rfl, .inl rfl⟩
    · exact ⟨0, p, rfl, .inl rfl⟩

end Run

namespace Outcome

variable {host : Host} {t : Files.Tree} {r : Reading}

/-- A text without the tags in it. -/
def withoutTags (isInTag : Bool) : List Char → List Char
  | [] => []
  | c :: rest =>
    if isInTag then withoutTags (c != ']') rest
    else if c == '[' then withoutTags true rest
    else c :: withoutTags false rest

/-- A host whose console leaves styles out, and which knows one YAML document and no Ruby. -/
def smallHost : Host where
  yaml text :=
    if text = "1: x\n".toList then .ok (.map [(.int 1, .text "x")]) else .error .malformed
  ruby _ := []
  jsonDepth := 900
  console :=
    { line := fun s => .ok (String.ofList (withoutTags false s.toList) ++ "\n")
      table := fun t => .ok (Text.joinWith "\n" (t.title :: t.rows.map (Text.joinWith " ")))
      escape := id }
  disk := .ample

theorem isFaithful_smallHost : smallHost.IsFaithful where
  ruby _ _ _ hn := absurd hn List.not_mem_nil
  console :=
    { line := fun _ _ => ⟨_, rfl⟩
      table := fun _ _ => ⟨_, rfl⟩
      error := by
        intro message text htext
        obtain rfl := Except.ok.inj htext
        have hlabel : (Console.styled "red" "Error:").toList = "[red]Error:[/red]".toList := by decide
        have hline (l : List Char) : (String.ofList l ++ "\n").toList = l ++ "\n".toList := by
          simp only [String.toList_append, String.toList_ofList]
        rw [hline, String.toList_append, String.toList_append, hlabel]
        exact ⟨' ' :: (withoutTags false message.toList ++ "\n".toList), rfl⟩ }

/-- A project with a manifest of one route. -/
def rootProject : Files.Tree :=
  ⟨[], [(["routes.json"],
    .file (.text "[\x7b\"verb\": \"GET\", \"path\": \"/\", \"helper\": \"root\"\x7d]"))]⟩

/-- The document of its manifest. -/
def rootDocument : Value :=
  .list [.map [(.text "verb", .text "GET"), (.text "path", .text "/"), (.text "helper", .text "root")]]

theorem documentOf_rootManifest : ∃ s, rootProject.read "./routes.json" = .ok (.text s) ∧
    Manifest.documentOf smallHost.yaml smallHost.jsonDepth "./routes.json" (.text s) = .ok rootDocument :=
  ⟨_, rfl, rfl⟩

theorem isSoundFile_rootManifest : Router.IsSoundFile smallHost rootProject "./routes.json" := by
  have hending : ¬ Router.IsRoutesFile "./routes.json" := by
    unfold Router.IsRoutesFile
    decide +kernel
  obtain ⟨text, htext, hdocument⟩ := documentOf_rootManifest
  refine ⟨fun _ s hs => ?_, fun h => absurd h hending, fun h => absurd h hending,
    fun h => absurd h hending⟩
  obtain rfl : text = s := Files.Content.text.inj (Except.ok.inj (htext.symm.trans hs))
  refine ⟨fun f hf => ?_, fun detail hf => ?_, fun document items hread hitems fields hfields => ?_,
    fun document hread => ?_⟩
  · rw [hdocument] at hf
    cases hf
  · rw [hdocument] at hf
    cases hf
  · obtain rfl := Except.ok.inj (hdocument.symm.trans hread)
    obtain rfl := Except.ok.inj hitems
    obtain rfl := Value.map.inj (List.mem_singleton.1 hfields)
    exact ⟨rfl, .nothing rfl⟩
  · obtain rfl := Except.ok.inj (hdocument.symm.trans hread)
    simp [rootDocument, Value.IsWithin, nestingLimit]

theorem records_rootProject : (Router.records smallHost rootProject [] "." .null).outcome
    = .ok [⟨"GET", "/", some "root", none, false, []⟩] := by
  have hdetected : (Router.detect rootProject ".").outcome = .ok "./routes.json" := rfl
  have hread : Manifest.read smallHost.yaml smallHost.jsonDepth rootProject "./routes.json"
      = Manifest.entries "./routes.json" rootDocument := by
    obtain ⟨s, hs, hdocument⟩ := documentOf_rootManifest
    rw [Manifest.read_eq, hs]
    exact congrArg (· >>= _) hdocument
  unfold Router.records
  rw [if_pos (by decide), Traced.outcome_bind_ok hdetected]
  unfold Router.ofName
  rw [if_pos (by decide +kernel)]
  dsimp only
  rw [if_neg (by decide +kernel)]
  unfold Router.ofFile
  rw [if_neg (by decide +kernel)]
  dsimp only
  rw [if_pos (by decide +kernel), hread]
  refine Traced.outcome_bind_eq_ok.2 ⟨_, Traced.outcome_mapError_eq_ok.2 rfl, ?_⟩
  rfl

/-- Without options the configuration is that of the defaults. -/
theorem ofOptions_nil : Configuration.ofOptions [] = .ok {} := by
  have hnames : Configuration.unknownNames [] = [] := by
    simp [Configuration.unknownNames, Text.sorted, Text.distinct]
  rw [Configuration.ofOptions, Configuration.merge, hnames]
  rfl

theorem isSoundWith_rootProject : Reading.IsSoundWith smallHost rootProject ⟨[], []⟩ {} := by
  have hfile : Router.fileOf rootProject "./routes.json" = "./routes.json" := rfl
  have hrecords (records : List Record)
      (h : (Router.records smallHost rootProject [] "." .null).outcome = .ok records) :
      records = [⟨"GET", "/", some "root", none, false, []⟩] :=
    Except.ok.inj (h.symm.trans records_rootProject)
  have hbare : ∀ r ∈ Extract.settledRoutes ({} : Configuration).settings
      [⟨"GET", "/", some "root", none, false, []⟩], r.optional = [] := by decide +kernel
  refine ⟨⟨fun h => absurd h Bool.false_ne_true, fun name hname => ?_, fun name hname => ?_⟩,
    ⟨?_, ?_, fun h => ?_⟩, fun records h _ _ => ?_, fun h => absurd h Bool.false_ne_true⟩
  · obtain rfl : "./routes.json" = name := Option.some.inj hname
    exact fun hitem => absurd hitem (by decide +kernel)
  · obtain rfl : "./routes.json" = name := Option.some.inj hname
    rw [hfile]
    exact isSoundFile_rootManifest
  · exact fun _ => ⟨_, rfl, by decide, by decide⟩
  · exact fun _ _ => ⟨_, rfl, by decide, by decide⟩
  · cases h
  · obtain rfl := hrecords records h
    exact ⟨⟨_, rfl⟩, fun r hr name hname => by simp [hbare r hr] at hname⟩

theorem isSound_rootProject : Reading.IsSound smallHost rootProject ⟨[], []⟩ := by
  have hnone (word : String) (value : String) : Reading.value? ⟨[], []⟩ word ≠ some value :=
    (Option.some_ne_none value).symm
  have hempty (v : Value) (hv : v ∈ [Value.list [], .list []]) (items : List Value)
      (h : v = .list items ∨ v = .tuple items) : items = [] := by
    obtain rfl : v = .list [] := by simpa using hv
    exact h.elim (fun h => (Value.list.inj h).symm) nofun
  refine ⟨fun name hname => absurd hname (hnone _ name), fun given hgiven => ?_,
    fun given c hgiven hc => ?_⟩
  · obtain rfl : [] = given := Except.ok.inj hgiven
    refine ⟨by decide, fun v hv items hitems source hsource => ?_,
      fun v hv items hitems source hsource => ?_⟩
    all_goals
      rw [hempty v hv items hitems] at hsource
      cases hsource
  · obtain rfl : [] = given := Except.ok.inj hgiven
    obtain rfl := Except.ok.inj (ofOptions_nil.symm.trans hc)
    exact isSoundWith_rootProject

/-- A project whose option file has a number for the name of an option. -/
def numberNamed : Files.Tree :=
  ⟨[], [(["routes.json"], .file (.text "[]")), (["c.yml"], .file (.text "1: x\n"))]⟩

/-- What the words say that name the option file. -/
def numberReading : Reading :=
  ⟨[⟨⟨"config", none, .file, "YAML file with generation options"⟩, "c.yml"⟩], []⟩

end Outcome
end CommandLine
end RouteHelpers
