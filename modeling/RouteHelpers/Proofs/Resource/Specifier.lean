import RouteHelpers.Proofs.Resource.Tree
import RouteHelpers.Proofs.Script.Arguments
import RouteHelpers.Proofs.Script.Specifier

/-!
Which modules the files of the output tree name.

A file is read as a script is (`specifiers`), from its first character to its last. The runtime names no
module, a barrel those that it re-exports from, in order, and the file of a resource names the runtime and
nothing else (`modules_source`).

What routes add to a file is their paths, once in a comment and once as a literal. A path that closes the
comment or the line gets out of it, and what follows is read as code, so the file of a resource is known
where its routes do neither (`Resource.IsPasteable`). Nothing is asked of a barrel: words and resources are
all it tells.
-/

namespace RouteHelpers

open Script

/-! ### The runtime -/

namespace Script.Runtime

/-- Lines with a line feed behind each. -/
def lined (lines : List String) : String :=
  String.join (lines.map (· ++ "\n"))

theorem unlines_append_lineFeed {lines : List String} (h : lines ≠ []) :
    unlines lines ++ "\n" = lined lines := by
  induction lines with
  | nil => exact absurd rfl h
  | cons line lines ih =>
    have hfirst : lined (line :: lines) = line ++ "\n" ++ lined lines := String.join_cons
    by_cases hnil : lines = []
    · rw [hfirst, hnil]
      exact (String.append_empty).symm
    · rw [hfirst, ← ih hnil, unlines, Text.joinWith_cons _ _ hnil, String.append_assoc, unlines]

/-- The characters of lines. -/
inductive Spells : List String → List (List Char) → Prop
  | nil : Spells [] []
  | cons (cs : List Char) {lines : List String} {css : List (List Char)} :
    Spells lines css → Spells (String.ofList cs :: lines) (cs :: css)

theorem toList_lined {lines : List String} {css : List (List Char)} (h : Spells lines css) :
    (lined lines).toList = css.flatMap (· ++ ['\n']) := by
  induction h with
  | nil => rfl
  | cons cs _ ih =>
    rw [lined, List.map_cons, String.join_cons, String.toList_append, String.toList_append,
      String.toList_ofList, List.flatMap_cons]
    exact congrArg _ ih

theorem gives_lined {lines : List String} {css : List (List Char)} (h : Spells lines css)
    (hread : (Scan.start.read (css.flatMap (· ++ ['\n']))).IsIdle ∧
      (Scan.start.read (css.flatMap (· ++ ['\n']))).specifiers = []) : Gives (lined lines) [] := by
  rw [← toList_lined h] at hread
  exact .of_start hread.1 hread.2

theorem gives_lined_flatten {parts : List (List String)} (h : ∀ part ∈ parts, Gives (lined part) []) :
    Gives (lined parts.flatten) [] := by
  induction parts with
  | nil => exact .empty
  | cons part parts ih =>
    obtain ⟨hpart, hparts⟩ := List.forall_mem_cons.1 h
    have happend : lined (part ++ parts.flatten) = lined part ++ lined parts.flatten := by
      rw [lined, List.map_append, String.join_append]
      rfl
    rw [List.flatten_cons, happend]
    exact hpart.append (ih hparts)

/-- The parts that the module is put together from. -/
def parts (withForms : Bool) : List (List String) :=
  [wayfinderHeader, routeFunctionStart, if withForms then ["  form: FormFunction<P>;"] else [],
    routeFunctionEnd, if withForms then formFunctionType else [], factoryStart,
    if withForms then formBuilder else [""], factoryMiddle, if withForms then formProperty else [],
    factoryEnd, wayfinderFunctions]

theorem wayfinder_eq_flatten (withForms : Bool) : wayfinder withForms = (parts withForms).flatten := by
  simp only [wayfinder, parts, List.flatten_cons, List.flatten_nil, List.append_nil, List.append_assoc]

/-- **The runtime** names no module. -/
theorem gives_wayfinder (withForms : Bool) : Gives (lined (wayfinder withForms)) [] := by
  rw [wayfinder_eq_flatten]
  refine gives_lined_flatten ?_
  simp only [parts, List.forall_mem_cons]
  cases withForms
  all_goals
    refine ⟨?_, ?_, ?_, ?_, ?_, ?_, ?_, ?_, ?_, ?_, ?_, List.forall_mem_nil _⟩
  all_goals
    apply gives_lined
    · repeat first | exact .nil | apply Spells.cons
    · decide +kernel

end Script.Runtime

/-! ### Plain names -/

namespace Script

variable {name rest : String}

/-- Characters of a kind that quotes and slashes are not of. -/
theorem isPlain_of_class {p : Char → Bool} (hp : ['\'', '"', '\x60', '/'].any p = false)
    {c : Char} (h : p c = true) : Scan.isQuote c = false ∧ c ≠ '/' := by
  have hne (d : Char) (hd : d ∈ ['\'', '"', '\x60', '/']) : c ≠ d := fun heq =>
    List.any_eq_false.1 hp d hd (heq ▸ h)
  refine ⟨?_, hne '/' (by simp)⟩
  simp [Scan.isQuote, hne '\'' (by simp), hne '"' (by simp), hne '\x60' (by simp)]

theorem isPlain_safeName (name : String) : IsPlain (safeName name) :=
  fun c hc => isPlain_of_class (by decide) ((IsArgumentName.safeName name).isIdentifierChar c hc)

theorem Gives.of_isPlain_append (hname : IsPlain name) (hrest : IsPlain rest)
    (hend : EndsInStop rest) : Gives (name ++ rest) [] :=
  .of_isPlain (hname.append hrest) (hend.append name)

theorem isPlain_of_isPlainKey (h : isPlainKey name = true) : IsPlain name := by
  unfold isPlainKey at h
  rw [IsPlain, ← Text.cutFinalNewline_append name.toList]
  intro c hc
  rcases List.mem_append.1 hc with hc | hc
  · split at h
    · cases h
    next first rest hlist =>
      rw [Bool.and_eq_true] at h
      rw [hlist] at hc
      rcases List.mem_cons.1 hc with rfl | hc
      · exact isPlain_of_class (by decide) h.1
      · exact isPlain_of_class (by decide) (List.all_eq_true.1 h.2 c hc)
  · -- a line feed at the end goes unnoticed
    rcases Text.cutFinalNewline_snd name.toList with hnil | hfeed
    · rw [hnil] at hc
      cases hc
    · rw [hfeed, List.mem_singleton] at hc
      rw [hc]
      decide

/-- A key, whatever its name, and what stands behind it. -/
theorem gives_key_append (name : String) (hrest : IsPlain rest) (hend : EndsInStop rest) :
    Gives (key name ++ rest) [] := by
  unfold key
  split
  next hplain => exact .of_isPlain_append (isPlain_of_isPlainKey hplain) hrest hend
  next => exact (gives_doubleQuoted name).append (.of_isPlain hrest hend)

/-- A route in single quotes. -/
theorem Opens.gives_singleQuoted {text s : String} (h : Opens (text ++ "'") '\'' false)
    (hs : IsOnOneLine s) : Gives (text ++ singleQuoted s) [] := by
  rw [singleQuoted, ← String.append_assoc, ← String.append_assoc]
  exact h.gives (isBody_singleQuoted hs) rfl

end Script

/-! ### Files of resources -/

/-- The route of an action can be pasted into the file of its resource: what is told of it stays in the
comment, and its path and method are on one line. -/
structure ResourceAction.IsPasteable (documented : Bool) (a : ResourceAction) : Prop where
  path : IsOnOneLine a.route.path
  method : IsOnOneLine a.route.method
  told : documented = true → IsComment (unlines (Resource.actionDocumentation a))

namespace Resource

/-- What the file of a resource tells of routes can be pasted into it. -/
def IsPasteable (documented : Bool) (r : Resource) : Prop :=
  ∀ a ∈ r.actions, a.IsPasteable documented

/-- The name under which the object of a resource is exported. -/
def objectName (r : Resource) : String :=
  Script.safeName r.name

variable {r : Resource} {a : ResourceAction} {documented : Bool}

/-- A parameter, as a type argument tells it. -/
def parameterText (p : Parameter) : String :=
  Script.key p.name ++ (if p.required then "" else "?") ++ ": Param"

theorem parameterType_of_ne {params : List Parameter} (h : params ≠ []) : parameterType params
    = "<\x7b " ++ Text.joinWith "; " (params.map parameterText) ++ " \x7d>" := by
  rw [parameterType, if_neg (by simpa using h)]
  rfl

theorem gives_parameterText (p : Parameter) {ending : String} (hending : ending ∈ [";", " \x7d>"]) :
    Gives (parameterText p ++ ending) [] := by
  have hrest : ∀ sign ∈ ["", "?"], ∀ ending ∈ [";", " \x7d>"],
      IsPlain (sign ++ ": Param" ++ ending) ∧ EndsInStop (sign ++ ": Param" ++ ending) := by
    decide +kernel
  have hsign : (if p.required then "" else "?") ∈ ["", "?"] := by split <;> simp
  obtain ⟨hplain, hend⟩ := hrest _ hsign ending hending
  have hgives := gives_key_append p.name hplain hend
  rwa [← String.append_assoc, ← String.append_assoc] at hgives

/-- The parameters of an action are told between `route` and its arguments. -/
theorem opens_route (params : List Parameter) :
    Opens (" route" ++ parameterType params ++ "(" ++ "'") '\'' false := by
  by_cases hnil : params = []
  · rw [hnil]
    exact .of_start (by decide) (by decide) (by decide)
  · have hopen : Gives " route<\x7b " [] := .of_start (by decide) (by decide)
    have hsep : ∀ w ∈ params.map parameterText, Gives (w ++ "; ") [] := by
      refine List.forall_mem_map.2 fun p _ => ?_
      have hblank : "; " = ";" ++ " " := rfl
      rw [hblank, ← String.append_assoc]
      exact (gives_parameterText p (by simp)).append gives_blank
    have hending : ∀ w ∈ params.map parameterText, Gives (w ++ " \x7d>") [] :=
      List.forall_mem_map.2 fun p _ => gives_parameterText p (by simp)
    have hmembers := hopen.append (.joinWith hsep hending (by simpa using hnil))
    have htext : " route" ++ parameterType params ++ "(" ++ "'" = " route<\x7b " ++
        (Text.joinWith "; " (params.map parameterText) ++ " \x7d>") ++ "('" := by
      have hroute : " route<\x7b " = " route" ++ "<\x7b " := rfl
      have hquote : "('" = "(" ++ "'" := rfl
      simp only [parameterType_of_ne hnil, hroute, hquote, String.append_assoc]
    have hquote : Opens "('" '\'' false := .of_start (by decide) (by decide) (by decide)
    rw [htext]
    intro s hs
    obtain ⟨hidle, hspecifiers⟩ := hmembers s hs
    rw [String.toList_append, Scan.read_append]
    obtain ⟨hmode, hliteral, hfound⟩ := hquote _ hidle
    exact ⟨hmode, hliteral, by rw [hfound, hspecifiers]; exact List.append_nil _⟩

theorem gives_call (h : a.IsPasteable documented) {name : String} (hname : IsPlain name) :
    Gives (actionText false a name) [] := by
  have hconst : Gives ("const " ++ name ++ " =") [] :=
    .of_isPlain_append (.append (by decide) hname) (by decide) (by decide)
  have hpath := (opens_route a.params).gives_singleQuoted h.path
  have hmethod : Gives (", " ++ singleQuoted a.route.method) [] :=
    Opens.gives_singleQuoted (.of_start (by decide) (by decide) (by decide)) h.method
  have hend : Gives ");" [] := .of_isPlain (by decide) (by decide)
  have hcall := ((hconst.append hpath).append hmethod).append hend
  have htext : actionText false a name = "const " ++ name ++ " =" ++
      (" route" ++ parameterType a.params ++ "(" ++ singleQuoted a.route.path) ++
        (", " ++ singleQuoted a.route.method) ++ ");" := by
    have hroute : " = route" = " =" ++ " route" := rfl
    simp only [actionText, hroute, String.append_assoc, if_neg Bool.false_ne_true]
  rw [htext]
  exact hcall

theorem gives_actionText (h : a.IsPasteable documented) {name : String} (hname : IsPlain name) :
    Gives (actionText documented a name) [] := by
  cases documented with
  | false => exact gives_call h hname
  | true =>
    rw [actionText_documented]
    exact ((gives_comment (h.told rfl)).append gives_lineFeed).append (gives_call h hname)

/-- The line of an action in the object of a resource. -/
theorem gives_property (action : String) {name : String} (hname : IsPlain name) :
    Gives ("  " ++ property action name ++ ",") [] := by
  have hindent : Gives "  " [] := .of_start (by decide) (by decide)
  rw [property, String.append_assoc]
  refine hindent.append ?_
  split
  next hown =>
    obtain rfl : name = action := eq_of_beq hown
    exact .of_isPlain_append hname (by decide) (by decide)
  next =>
    have hrest : IsPlain (": " ++ name ++ ",") := .append (.append (by decide) hname) (by decide)
    have hgives := gives_key_append action hrest (.append _ (by decide))
    rwa [← String.append_assoc, ← String.append_assoc] at hgives

theorem isPlain_binding (r : Resource) (action : String) : IsPlain (binding r action) := by
  rw [binding]
  split <;> exact isPlain_safeName _

/-- The module that a file imports stays in its quotes. -/
theorem isBody_runtimeImport (r : Resource) : IsBody '\'' r.runtimeImport.toList := by
  have hplain : ∀ text ∈ ["./", "../", runtimeModule],
      text.toList.all (Scan.staysInside '\'') = true := by decide +kernel
  have hup (n : Nat) : IsBody '\'' (Text.repeated n "../").toList := by
    induction n with
    | zero => exact .nil _
    | succ n ih =>
      rw [Text.repeated, String.toList_append]
      exact .append (.of_all (hplain _ (by simp))) ih
  rw [runtimeImport, String.toList_append]
  refine .append ?_ (.of_all (hplain _ (by simp)))
  unfold wayUp
  split
  · exact .of_all (hplain _ (by simp))
  · exact hup _

/-- What stands above the object of a resource: the import and the actions. -/
def headLines (documented : Bool) (r : Resource) : List String :=
  ("import \x7b route, type Route, type RouteOptions, type Param \x7d from '" ++ runtimeImport r ++
    "';") :: "" :: r.actions.flatMap fun a => [actionText documented a (binding r a.name), ""]

/-- What stands below the line that opens the object. -/
def restLines (r : Resource) : List String :=
  r.actions.map (fun a => "  " ++ property a.name (binding r a.name) ++ ",") ++
    ["\x7d as const;", "",
      "export \x7b " ++ Text.joinWith ", " (r.actions.map fun a => binding r a.name) ++ " \x7d;", ""]

theorem fileText_eq (documented : Bool) (r : Resource) : fileText documented r
    = unlines (headLines documented r) ++ "\n" ++ ("export const " ++ r.objectName ++ " = \x7b") ++
        "\n" ++ unlines (restLines r) := by
  have hlines : fileText documented r = unlines (headLines documented r ++
      ("export const " ++ r.objectName ++ " = \x7b") :: restLines r) := by
    simp only [fileText, headLines, restLines, objectName, List.flatMap_map, List.map_map,
      Function.comp_def, List.append_assoc, List.cons_append, List.nil_append]
  have hhead : headLines documented r ≠ [] := List.cons_ne_nil _ _
  have hrest : restLines r ≠ [] := List.append_ne_nil_of_right_ne_nil _ (List.cons_ne_nil _ _)
  rw [hlines, unlines, Text.joinWith_append_append _ hhead (List.cons_ne_nil _ _),
    Text.joinWith_cons _ _ hrest]
  simp only [unlines, String.append_assoc]

theorem gives_import (r : Resource) :
    Gives ("import \x7b route, type Route, type RouteOptions, type Param \x7d from '" ++
      runtimeImport r ++ "';") [r.runtimeImport] := by
  have himport : "import \x7b route, type Route, type RouteOptions, type Param \x7d from '"
      = "import \x7b route, type Route, type RouteOptions, type Param \x7d" ++ " from '" := rfl
  rw [himport]
  exact gives_from (by decide) (isBody_runtimeImport r)

theorem gives_headLines (h : r.IsPasteable documented) :
    Gives (unlines (headLines documented r)) [r.runtimeImport] := by
  have hactions : ∀ line ∈ "" :: r.actions.flatMap fun a =>
      [actionText documented a (binding r a.name), ""], Gives line [] := by
    refine List.forall_mem_cons.2 ⟨.empty, List.forall_mem_flatMap.2 fun a ha => ?_⟩
    exact List.forall_mem_cons.2 ⟨gives_actionText (h a ha) (isPlain_binding r a.name),
      List.forall_mem_singleton.2 .empty⟩
  rw [headLines, unlines, Text.joinWith_cons _ _ (List.cons_ne_nil _ _)]
  exact ((gives_import r).append gives_lineFeed).append (gives_unlines hactions)

theorem gives_restLines (r : Resource) : Gives (unlines (restLines r)) [] := by
  have hnames : IsPlain (Text.joinWith ", " (r.actions.map fun a => binding r a.name)) := by
    intro c hc
    rcases Text.mem_joinWith hc with hc | ⟨name, hname, hc⟩
    · exact (show IsPlain ", " by decide) c hc
    · obtain ⟨a, -, rfl⟩ := List.mem_map.1 hname
      exact isPlain_binding r a.name c hc
  refine gives_unlines (List.forall_mem_append.2 ⟨List.forall_mem_map.2 fun a _ => ?_, ?_⟩)
  · exact gives_property a.name (isPlain_binding r a.name)
  · simp only [List.forall_mem_cons]
    refine ⟨.of_isPlain (by decide) (by decide), .empty, ?_, .empty, List.forall_mem_nil _⟩
    exact .of_isPlain_append (.append (by decide) hnames) (by decide) (by decide)

/-- The import stands at the start, whatever is pasted below it. -/
theorem mem_specifiers_fileText (documented : Bool) (r : Resource) :
    r.runtimeImport ∈ specifiers (fileText documented r) := by
  obtain ⟨rest, hrest⟩ : ∃ rest : String, fileText documented r
      = "import \x7b route, type Route, type RouteOptions, type Param \x7d from '" ++
        runtimeImport r ++ "';" ++ rest := by
    rw [fileText_eq, headLines, unlines, Text.joinWith_cons _ _ (List.cons_ne_nil _ _)]
    simp only [String.append_assoc]
    exact ⟨_, rfl⟩
  rw [hrest]
  exact (gives_import r).mem_specifiers_append (by simp) rest

/-- **The file of a resource** names the runtime and nothing else, if what it tells of routes can be
pasted. -/
theorem gives_fileText (h : r.IsPasteable documented) :
    Gives (fileText documented r) [r.runtimeImport] := by
  have hobject : Gives ("export const " ++ r.objectName ++ " = \x7b") [] :=
    .of_isPlain_append (.append (by decide) (isPlain_safeName _)) (by decide) (by decide)
  rw [fileText_eq]
  exact ((((gives_headLines h).append gives_lineFeed).append hobject).append gives_lineFeed).append
    (gives_restLines r)

end Resource

/-! ### Barrels -/

/-- The module of a re-export as its barrel names it. -/
def ReExport.specifier (e : ReExport) : String :=
  "./" ++ e.module

/-- A re-export is written as it is meant: its binding is plain, and its module stays in its quotes. -/
structure ReExport.IsWritable (e : ReExport) : Prop where
  binding : IsPlain e.binding
  module : IsBody '\'' e.specifier.toList

/-- The words of a key stay in quotes. -/
theorem isBody_of_isKeyChar {w : String} (h : ∀ c ∈ w.toList, ResourceKey.isKeyChar c = true) :
    IsBody '\'' w.toList := by
  have hapart : ['\'', '\\', '\n', '\r'].any ResourceKey.isKeyChar = false := by decide
  refine .of_all (List.all_eq_true.2 fun c hc => ?_)
  have hne (d : Char) (hd : d ∈ ['\'', '\\', '\n', '\r']) : c ≠ d := fun heq =>
    List.any_eq_false.1 hapart d hd (heq ▸ h c hc)
  simp [Scan.staysInside, Scan.isLineEnd, hne '\'' (by simp), hne '\\' (by simp), hne '\n' (by simp),
    hne '\r' (by simp)]

namespace Barrel

/-- The lines of a barrel. -/
def lines (withTypes : Bool) (b : Barrel) : List String :=
  b.resources.map (fun e => "export \x7b " ++ e.binding ++ " \x7d from './" ++ e.module ++ "';") ++
    b.namespaces.map (fun e => "export * as " ++ e.binding ++ " from './" ++ e.module ++ "';") ++
    if withTypes then runtimeTypeLines else []

/-- The modules that a barrel names. -/
def modules (withTypes : Bool) (b : Barrel) : List String :=
  (b.resources ++ b.namespaces).map (·.specifier) ++
    if withTypes then ["./" ++ Resource.runtimeModule] else []

variable {e : ReExport}

theorem gives_resourceLine (h : e.IsWritable) :
    Gives ("export \x7b " ++ e.binding ++ " \x7d from './" ++ e.module ++ "';") [e.specifier] := by
  have hplain : IsPlain ("export \x7b " ++ e.binding ++ " \x7d") :=
    .append (.append (by decide) h.binding) (by decide)
  have hgives := gives_from hplain h.module
  have hlink : " \x7d from './" = " \x7d" ++ (" from '" ++ "./") := rfl
  rw [hlink]
  simpa only [ReExport.specifier, String.append_assoc] using hgives

theorem gives_namespaceLine (h : e.IsWritable) :
    Gives ("export * as " ++ e.binding ++ " from './" ++ e.module ++ "';") [e.specifier] := by
  have hplain : IsPlain ("export * as " ++ e.binding) := .append (by decide) h.binding
  have hgives := gives_from hplain h.module
  have hlink : " from './" = " from '" ++ "./" := rfl
  rw [hlink]
  simpa only [ReExport.specifier, String.append_assoc] using hgives

theorem gives_runtimeTypeLines :
    (∀ line ∈ runtimeTypeLines, Gives (line ++ "\n") (specifiers line)) ∧
      runtimeTypeLines.flatMap specifiers = ["./" ++ Resource.runtimeModule] := by
  have hmodule : Gives ("export type \x7b Route, RouteOptions, FormAttrs, Param, Method \x7d from './" ++
      Resource.runtimeModule ++ "';") ["./" ++ Resource.runtimeModule] :=
    .of_start (by decide +kernel) (by decide +kernel)
  have hcomment : Gives ("// Runtime types" ++ "\n") [] := .of_start (by decide) (by decide)
  have hspecifiers : specifiers "// Runtime types" = [] := by decide
  constructor
  · simp only [runtimeTypeLines, List.forall_mem_cons]
    exact ⟨Gives.empty.withLineFeed, hspecifiers ▸ hcomment, hmodule.withLineFeed, List.forall_mem_nil _⟩
  · simp only [runtimeTypeLines, List.flatMap_cons, List.flatMap_nil, hspecifiers,
      Gives.empty.specifiers_eq, hmodule.specifiers_eq, List.nil_append, List.append_nil]

/-- **A barrel** names the modules of its re-exports. -/
theorem gives_text (withTypes : Bool) {b : Barrel}
    (h : ∀ e ∈ b.resources ++ b.namespaces, e.IsWritable) :
    Gives (b.text withTypes) (b.modules withTypes) := by
  obtain ⟨hresources, hnamespaces⟩ := List.forall_mem_append.1 h
  have hlines : ∀ line ∈ b.lines withTypes, Gives (line ++ "\n") (specifiers line) := by
    refine List.forall_mem_append.2 ⟨List.forall_mem_append.2 ⟨?_, ?_⟩, ?_⟩
    · exact List.forall_mem_map.2 fun e he => (gives_resourceLine (hresources e he)).withLineFeed
    · exact List.forall_mem_map.2 fun e he => (gives_namespaceLine (hnamespaces e he)).withLineFeed
    · split
      · exact gives_runtimeTypeLines.1
      · exact List.forall_mem_nil _
  have hmodules : (b.lines withTypes).flatMap specifiers = b.modules withTypes := by
    rw [lines, List.flatMap_append, List.flatMap_append, List.flatMap_map, List.flatMap_map,
      modules, List.map_append]
    rw [List.flatMap_congr fun e he => (gives_resourceLine (hresources e he)).specifiers_eq,
      List.flatMap_congr fun e he => (gives_namespaceLine (hnamespaces e he)).specifiers_eq,
      ← List.map_eq_flatMap, ← List.map_eq_flatMap]
    cases withTypes with
    | false => rfl
    | true => rw [if_pos rfl, if_pos rfl, gives_runtimeTypeLines.2]
  -- the empty lines that are dropped name nothing
  have hdropped : ((b.lines withTypes).dropWhile (·.isEmpty)).flatMap specifiers
      = (b.lines withTypes).flatMap specifiers := by
    have hempty : ((b.lines withTypes).takeWhile (·.isEmpty)).flatMap specifiers = [] := by
      refine List.flatMap_eq_nil_iff.2 fun line hline => ?_
      obtain rfl : line = "" := by simpa using List.all_eq_true.1 List.all_takeWhile line hline
      exact Gives.empty.specifiers_eq
    conv_rhs => rw [← List.takeWhile_append_dropWhile (p := (·.isEmpty)) (l := b.lines withTypes)]
    rw [List.flatMap_append, hempty, List.nil_append]
  rw [← hmodules, ← hdropped]
  exact gives_join fun line hline => hlines line ((List.dropWhile_suffix _).subset hline)

end Barrel

/-! ### The tree -/

namespace SourceFile

/-- The modules that a file imports or re-exports from. -/
def modules (f : SourceFile) : List String :=
  specifiers f.content

end SourceFile

namespace Resource

/-- The file of a resource imports the runtime and nothing else, if what it tells of routes can be
pasted. -/
theorem modules_source {documented : Bool} {r : Resource} (h : r.IsPasteable documented) :
    (r.source documented).modules = [r.runtimeImport] :=
  (gives_fileText h).specifiers_eq

/-- **The runtime** names no module. -/
theorem modules_runtimeFile (withForms : Bool) : (runtimeFile withForms).modules = [] := by
  have hne : Runtime.wayfinder withForms ≠ [] := by
    simp [Runtime.wayfinder_eq_flatten, Runtime.parts, Runtime.wayfinderHeader]
  have hgives := Runtime.gives_wayfinder withForms
  rw [← Runtime.unlines_append_lineFeed hne] at hgives
  exact hgives.specifiers_eq

end Resource
end RouteHelpers
