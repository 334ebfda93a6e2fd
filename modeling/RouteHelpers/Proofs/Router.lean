import RouteHelpers.CommandLine.Run
import RouteHelpers.Proofs.Depth
import RouteHelpers.Proofs.Files.Fault
import RouteHelpers.Proofs.RouteFile.Completion
import RouteHelpers.Proofs.Text.Octet

/-!
What can be wrong with a router.

A router that gives no records is told of, where it is named by a text and what it leads to can be read:
a manifest whose scalars have their forms and whose entries have defaults, or a routes file that no
reading breaks off at. `Router.IsSound` says this of a router in a tree; whether an entry or a call is
such a one is looked at nowhere before the records are made.

Of the reader of YAML documents nothing is known. The parser of routes files is to cut no character
(`Host.CutsNone`).
-/

namespace RouteHelpers

/-! ### Entries -/

namespace Record

/-- A value gives defaults: nothing, a mapping, or pairs whose first elements can be keys. -/
inductive HasDefaults (v : Value) : Prop
  | nothing : v.isTrue = false → HasDefaults v
  | mapping {entries : Entries} : v = .map entries → HasDefaults v
  | pairs {items : List Value} : elements? v = some items →
      (∀ i ∈ items, ∃ key x, elements? i = some [key, x] ∧ key.isKey = true) → HasDefaults v

/-- The fields of an entry can be written, and its defaults are defaults. -/
structure AreSound (fields : Entries) : Prop where
  writable : Value.areWritable [firstGiven fields verbKeys, (fields.getText? "path").getD .null,
    firstGiven fields helperKeys, firstGiven fields actionKeys] = true
  defaults : HasDefaults ((fields.getText? "defaults").getD .null)

theorem exists_defaultsOfPairs {items : List Value}
    (h : ∀ i ∈ items, ∃ key x, elements? i = some [key, x] ∧ key.isKey = true) (index : Nat)
    (done : Entries) : ∃ d, defaultsOfPairs index done items = .ok d := by
  induction items generalizing index done with
  | nil => exact ⟨done, rfl⟩
  | cons i items ih =>
    obtain ⟨⟨key, x, hi, hkey⟩, hitems⟩ := List.forall_mem_cons.1 h
    obtain ⟨d, hd⟩ := ih hitems (index + 1) (done.set key x)
    refine ⟨d, ?_⟩
    rw [defaultsOfPairs, hi]
    simp only [hkey, if_true]
    exact hd

theorem exists_defaultsOf {v : Value} (h : HasDefaults v) : ∃ d, defaultsOf v = .ok d := by
  unfold defaultsOf
  split
  · exact ⟨[], rfl⟩
  next htrue =>
    cases h with
    | nothing h => simp [h] at htrue
    | mapping h => subst h; exact ⟨_, rfl⟩
    | pairs helements hpairs =>
      split
      · exact ⟨_, rfl⟩
      · rw [helements]
        exact exists_defaultsOfPairs hpairs 0 []

theorem exists_ofFields {fields : Entries} (h : AreSound (Entries.released fields)) :
    ∃ r, (ofFields fields).outcome = .ok r := by
  obtain ⟨d, hd⟩ := exists_defaultsOf h.defaults
  unfold ofFields
  dsimp only
  split
  · exact ⟨none, rfl⟩
  · rw [h.writable, Bool.not_true, if_neg Bool.false_ne_true, hd]
    exact ⟨_, rfl⟩

/-- What is no mapping has no path, so it is skipped. -/
theorem exists_ofEntry {v : Value} (h : ∀ fields, v = .map fields → AreSound (Entries.released fields)) :
    ∃ r, (ofEntry (Entry.ofValue v)).outcome = .ok r := by
  obtain ⟨r, hr⟩ : ∃ r, (ofEntryUnchecked (Entry.ofValue v)).outcome = .ok r := by
    unfold Entry.ofValue
    split
    next fields => exact exists_ofFields (h fields rfl)
    · exact ⟨none, rfl⟩
  rw [ofEntry, Traced.outcome_bind_ok hr]
  cases r with
  | none => exact ⟨none, rfl⟩
  | some r =>
    dsimp only
    split
    · exact ⟨_, rfl⟩
    · exact ⟨none, rfl⟩

/-- **Entries give records**, where those with fields give theirs. -/
theorem exists_ofEntries {items : List Value}
    (h : ∀ fields, .map fields ∈ items → AreSound (Entries.released fields)) :
    ∃ records, (ofEntries (items.map Entry.ofValue)).outcome = .ok records := by
  have hentry : ∀ e ∈ items.map Entry.ofValue, ∃ r, (ofEntry e).outcome = .ok r := fun e he => by
    obtain ⟨v, hv, rfl⟩ := List.mem_map.1 he
    exact exists_ofEntry fun fields hfields => h fields (hfields ▸ hv)
  obtain ⟨records, hrecords⟩ := Traced.exists_mapEach hentry
  exact ⟨records.filterMap id, by rw [ofEntries, Traced.outcome_bind_ok hrecords]; rfl⟩

end Record

/-! ### Manifests -/

namespace Manifest

section Documents

variable (yaml : List Char → Except Yaml.ReadFault Value) (depth : Nat)

/-- The document in a file, by the ending of its name. -/
def documentOf (file : String) (content : Files.Content) : Except ReadFault Value :=
  if isJson file then jsonDocument depth file content else yamlDocument yaml file content

/-- The manifest with a text has its scalars in form, the fields of its entries are sound, and nothing in
it is too deep. -/
structure IsSound (file s : String) : Prop where
  scalars : ∀ f, documentOf yaml depth file (.text s) ≠ .error (.badScalar f)
  read : ∀ detail, documentOf yaml depth file (.text s) ≠ .error (.tooDeep detail)
  entries : ∀ document items, documentOf yaml depth file (.text s) = .ok document →
    entries file document = .ok items →
    ∀ fields, .map fields ∈ items → Record.AreSound (Entries.released fields)
  depth : ∀ document, documentOf yaml depth file (.text s) = .ok document →
    document.IsWithin nestingLimit

theorem read_eq (t : Files.Tree) (name : String) :
    Manifest.read yaml depth t name = (t.read name).mapError .file >>= fun content =>
      documentOf yaml depth name content >>= Manifest.entries name := by
  rw [Manifest.read]
  refine bind_congr fun content => ?_
  unfold documentOf
  split <;> simp only

variable {yaml depth} {file s : String} {f : ReadFault}

/-- A fault of a document is that it cannot be read, or it is excluded. -/
theorem faultOfJson_cases (file : String) (text : List Char) (f : Json.ReadFault) :
    (∃ detail, faultOfJson file text f = .unreadable file detail) ∨
      ∃ detail, faultOfJson file text f = .tooDeep detail := by
  unfold faultOfJson
  split
  · exact .inr ⟨_, rfl⟩
  · exact .inl ⟨_, rfl⟩

theorem faultOfYaml_cases (file : String) (f : Yaml.ReadFault) :
    (∃ detail, faultOfYaml file f = .unreadable file detail) ∨
      (∃ detail, faultOfYaml file f = .tooDeep detail) ∨ ∃ g, faultOfYaml file f = .badScalar g := by
  unfold faultOfYaml
  split
  all_goals first | exact .inr (.inr ⟨_, rfl⟩) | exact .inr (.inl ⟨_, rfl⟩) | exact .inl ⟨_, rfl⟩

theorem documentOf_eq_error (h : IsSound yaml depth file s)
    (hf : documentOf yaml depth file (.text s) = .error f) : ∃ detail, f = .unreadable file detail := by
  have hscalar := h.scalars
  have hdeep := h.read
  rw [hf] at hscalar hdeep
  unfold documentOf jsonDocument yamlDocument at hf
  split at hf
  · obtain ⟨text, -, hf⟩ := (Except.bind_eq_error.1 hf).resolve_left nofun
    obtain ⟨g, -, rfl⟩ := Except.mapError_eq_error.1 hf
    refine (faultOfJson_cases file text g).resolve_right fun ⟨detail, hdetail⟩ => ?_
    exact hdeep detail (congrArg Except.error hdetail)
  · obtain ⟨text, -, hf⟩ := (Except.bind_eq_error.1 hf).resolve_left nofun
    obtain ⟨g, -, rfl⟩ := Except.mapError_eq_error.1 hf
    rcases faultOfYaml_cases file g with hg | ⟨detail, hdetail⟩ | ⟨k, hk⟩
    · exact hg
    · exact absurd (congrArg Except.error hdetail) (hdeep detail)
    · exact absurd (congrArg Except.error hk) (hscalar k)

/-- A manifest of texts that gives no entries is unreadable, or there is no list in it. -/
theorem read_eq_error {t : Files.Tree} {name : String} (hfile : t.isFile name = true)
    (htext : ∀ content, t.read name = .ok content → ∃ s, content = .text s ∧ IsSound yaml depth name s)
    (hf : Manifest.read yaml depth t name = .error f) :
    (∃ detail, f = .unreadable name detail) ∨ f = .noRoutes name := by
  obtain ⟨content, hcontent⟩ := Files.Tree.exists_read hfile
  obtain ⟨s, rfl, hs⟩ := htext content hcontent
  rw [read_eq, hcontent, Except.mapError, Except.ok_bind] at hf
  rcases Except.bind_eq_error.1 hf with hf | ⟨document, -, hf⟩
  · exact .inl (documentOf_eq_error hs hf)
  · right
    unfold Manifest.entries at hf
    dsimp only at hf
    split at hf
    · cases hf
    · exact (Except.error.inj hf).symm

/-- The entries of a sound manifest have sound fields. -/
theorem areSound_of_read {t : Files.Tree} {name : String} {items : List Value}
    (htext : ∀ content, t.read name = .ok content → ∃ s, content = .text s ∧ IsSound yaml depth name s)
    (h : Manifest.read yaml depth t name = .ok items) {fields : Entries} (hfields : .map fields ∈ items) :
    Record.AreSound (Entries.released fields) := by
  rw [read_eq] at h
  obtain ⟨content, hcontent, h⟩ := Except.bind_eq_ok.1 h
  rw [Except.mapError_eq_ok] at hcontent
  obtain ⟨s, rfl, hs⟩ := htext content hcontent
  obtain ⟨document, hdocument, h⟩ := Except.bind_eq_ok.1 h
  exact hs.entries document items hdocument h fields hfields

end Documents
end Manifest

/-! ### Files that routers read -/

/-- The parser of Ruby source cuts no character: where no octet stands for itself in the source, what its
nodes say is text. -/
def Host.CutsNone (host : Host) : Prop :=
  ∀ source : List Char, (∀ c ∈ source, Text.isMark c = false) → ∀ n ∈ host.ruby source, n.IsReadable

namespace Router

/-- The name is that of a manifest. -/
def IsManifest (file : String) : Prop :=
  Text.lower (Files.extension file) ∈ [".yaml", ".yml", ".json"]

/-- The name is that of a routes file. -/
def IsRoutesFile (file : String) : Prop :=
  Text.lower (Files.extension file) = ".rb"

/-- The file is the one of a router, or one that its routes may draw. -/
def IsSource (file source : String) : Prop :=
  source = file ∨ ∃ name, source = RouteFile.drawnFile file name

/-- What is read for the file of a router is sound. -/
structure IsSoundFile (host : Host) (t : Files.Tree) (file : String) : Prop where
  manifest : IsManifest file → ∀ s, t.read file = .ok (.text s) →
    Manifest.IsSound host.yaml host.jsonDepth file s
  /-- No character of routes stands for an octet, as the last ones of all do. -/
  unmarked : IsRoutesFile file → ∀ source s, IsSource file source → t.read source = .ok (.text s) →
    ∀ c ∈ s.toList, Text.isMark c = false
  calls : IsRoutesFile file → ∀ c, (RouteFile.Sources.ofTree host.ruby t).HasCall file c → c.IsSound
  /-- No routes file draws itself, no concern uses itself, and no statement is too deep. -/
  depth : IsRoutesFile file → ∀ ns, (RouteFile.Sources.ofTree host.ruby t).statements file = .ok ns →
    (RouteFile.Sources.ofTree host.ruby t).Fits file nestingLimit ns

variable {host : Host} {t : Files.Tree} {file : String}

theorem IsSoundFile.exists_statements (hhost : host.CutsNone) (ht : t.HoldsTexts)
    (h : IsSoundFile host t file) (hending : IsRoutesFile file) {source : String}
    (hsource : IsSource file source) (hfile : t.isFile source = true) :
    ∃ ns, (RouteFile.Sources.ofTree host.ruby t).statements source = .ok ns ∧
      ∀ n ∈ ns, n.IsSound := by
  obtain ⟨content, hcontent⟩ := Files.Tree.exists_read hfile
  obtain ⟨s, rfl⟩ := ht.exists_text hcontent
  have hmarks := h.unmarked hending source s hsource hcontent
  have hns : RouteFile.statementsOf host.ruby t source = .ok (host.ruby s.toList) := by
    rw [RouteFile.statementsOf, hcontent, ← Text.marked_encodeUtf8 hmarks]
    rfl
  refine ⟨_, hns, fun n hn => ⟨?_, fun c hc => ?_⟩⟩
  · exact hhost s.toList hmarks n hn
  · exact h.calls hending c ⟨source, _, hsource, hns, n, hn, hc⟩

/-- **A sound routes file** gives records. -/
theorem IsSoundFile.exists_routes (hhost : host.CutsNone) (ht : t.HoldsTexts)
    (h : IsSoundFile host t file) (hending : IsRoutesFile file) (hfile : t.isFile file = true) :
    ∃ st, (RouteFile.read host.ruby t file {}).outcome = .ok st := by
  obtain ⟨ns, hns, hsound⟩ := h.exists_statements hhost ht hending (.inl rfl) hfile
  -- a reading goes deeper than what is sound
  have hfits := (h.depth hending ns hns).mono (by decide : nestingLimit ≤ RouteFile.depthLimit)
  obtain ⟨st, hst, -⟩ := RouteFile.readingOf_completes RouteFile.completes_declare
    ⟨ns, hns, hsound, hfits⟩
    (fun name => h.exists_statements hhost ht hending (.inr ⟨name, rfl⟩)) {}
    (fun _ hp => absurd hp List.not_mem_nil)
  exact ⟨st, by rw [RouteFile.read, Traced.mapError, hst]; rfl⟩

/-! ### Routers -/

open CommandLine (RunFault)

variable {f : Fault}

theorem IsSoundFile.exists_manifest (ht : t.HoldsTexts) (h : IsSoundFile host t file)
    (hending : IsManifest file) {content : Files.Content} (hcontent : t.read file = .ok content) :
    ∃ s, content = .text s ∧ Manifest.IsSound host.yaml host.jsonDepth file s := by
  obtain ⟨s, rfl⟩ := ht.exists_text hcontent
  exact ⟨s, rfl, h.manifest hending s hcontent⟩

/-- A file that gives no records is told of: it is missing, or its ending is of no use, or it is a manifest
that cannot be read. -/
theorem ofFile_eq_error (hhost : host.CutsNone) (ht : t.HoldsTexts) (h : IsSoundFile host t file)
    (hf : (ofFile host t file).outcome = .error f) : RunFault.isOfRouter f = true := by
  unfold ofFile at hf
  split at hf
  · cases hf
    rfl
  next hfile =>
    have hfile : t.isFile file = true := by simpa using hfile
    dsimp only at hf
    split at hf
    next hending =>
      -- entries that are read are sound, so they give records
      have htext : ∀ content, t.read file = .ok content →
          ∃ s, content = .text s ∧ Manifest.IsSound host.yaml host.jsonDepth file s := fun content =>
        h.exists_manifest ht (List.contains_iff_mem.1 hending)
      rw [Traced.outcome_bind] at hf
      rcases Except.bind_eq_error.1 hf with hf | ⟨items, hitems, hf⟩
      · obtain ⟨g, hg, rfl⟩ := Except.mapError_eq_error.1 hf
        rcases Manifest.read_eq_error hfile htext hg with ⟨detail, rfl⟩ | rfl <;> rfl
      · obtain ⟨records, hrecords⟩ := Record.exists_ofEntries fun fields hfields =>
          Manifest.areSound_of_read htext (Except.mapError_eq_ok.1 hitems) hfields
        rw [ofEntries, Traced.mapError, hrecords] at hf
        cases hf
    · split at hf
      next hending =>
        -- a routes file is read to its end
        obtain ⟨st, hst⟩ := h.exists_routes hhost ht (eq_of_beq hending) hfile
        rw [Traced.outcome_bind, Traced.mapError, hst] at hf
        cases hf
      · cases hf
        rfl

/-- The file that the name of a router leads to: in the directory of a project, its routes file. -/
def fileOf (t : Files.Tree) (name : String) : String :=
  if t.isDirectory name then Files.join (Files.join name "config") "routes.rb" else name

/-- A name that is no file and no directory is no reference to a module either. -/
def IsNoReference (t : Files.Tree) (name : String) : Prop :=
  t.hasItem name = false → reference? name = none

theorem ofName_eq_error (hhost : host.CutsNone) (ht : t.HoldsTexts) {modules : HostModules}
    {name : String} (hname : IsNoReference t name) (h : IsSoundFile host t (fileOf t name))
    (hf : (ofName host t modules name).outcome = .error f) : RunFault.isOfRouter f = true := by
  have hnone : (if t.hasItem name then none else reference? name) = none := by
    split
    · rfl
    next hitem => exact hname (by simpa using hitem)
  unfold ofName at hf
  rw [hnone] at hf
  unfold fileOf at h
  split at hf
  next hreference => cases hreference
  · split at hf
    next hdirectory =>
      -- a project has a routes file, or none is found in it
      rw [if_pos hdirectory] at h
      dsimp only at hf
      split at hf
      · exact ofFile_eq_error hhost ht h hf
      · cases hf
        rfl
    next hdirectory =>
      rw [if_neg hdirectory] at h
      exact ofFile_eq_error hhost ht h hf

/-- The name of a router, which is detected where none is given. -/
def name? (t : Files.Tree) (root : String) (router : Value) : Option String :=
  if !router.isTrue then (detect t root).outcome.toOption
  else
    match router with
    | .text name => some name
    | _ => none

/-- What a router leads to is sound: a text names it, which is no reference to a module, and its file is
sound. -/
structure IsSound (host : Host) (t : Files.Tree) (root : String) (router : Value) : Prop where
  named : router.isTrue = true → ∃ name, router = .text name
  noReference : ∀ name, name? t root router = some name → IsNoReference t name
  file : ∀ name, name? t root router = some name → IsSoundFile host t (fileOf t name)

/-- **A router that gives no records** is told of, where what it leads to is sound. -/
theorem records_eq_error (hhost : host.CutsNone) (ht : t.HoldsTexts) {modules : HostModules}
    {root : String} {router : Value} (h : IsSound host t root router)
    (hf : (records host t modules root router).outcome = .error f) : RunFault.isOfRouter f = true := by
  have hfile : ∀ name, name? t root router = some name →
      IsNoReference t name ∧ IsSoundFile host t (fileOf t name) :=
    fun name hname => ⟨h.noReference name hname, h.file name hname⟩
  unfold records at hf
  unfold name? at hfile
  split at hf
  next hfalse =>
    -- no router is given, and where none is detected that is told
    have hfalse : router.isTrue = false := by simpa using hfalse
    rw [hfalse, Bool.not_false, if_pos rfl] at hfile
    rw [Traced.outcome_bind] at hf
    rcases Except.bind_eq_error.1 hf with hf | ⟨name, hname, hf⟩
    · unfold detect at hf
      split at hf
      · cases hf
      · cases hf
        rfl
    · obtain ⟨hreference, hsound⟩ := hfile name (by rw [hname]; rfl)
      exact ofName_eq_error hhost ht hreference hsound hf
  next htrue =>
    have htrue : router.isTrue = true := by simpa using htrue
    obtain ⟨name, rfl⟩ := h.named htrue
    rw [htrue, Bool.not_true, if_neg Bool.false_ne_true] at hfile
    obtain ⟨hreference, hsound⟩ := hfile name rfl
    exact ofName_eq_error hhost ht hreference hsound hf

end Router
end RouteHelpers
