import Mathlib.Data.List.Induction
import RouteHelpers.Proofs.Resource.Component
import RouteHelpers.Resource.Barrel

/-!
Places of files in the output tree, and where an import leads from there.

`place directory name` is the path of a file. As long as its words are components, the path tells the
directory and the name (`place_inj`).

`resolve? file specifier` is the path that an import in a file leads to: the directory of the file is
left and entered component by component. The two ways in which files of the tree name each other are
covered by one lemma each,

    resolve? (place dir name) ("./" ++ …)              = what stands below `dir`      (`resolve?_below`)
    resolve? (place dir name) (wayUp dir.length ++ …)  = what stands below the top    (`resolve?_wayUp`)
-/

namespace RouteHelpers.Resource

variable {directory directory' below : List String} {name name' target : String}

/-! ### Places -/

/-- The path of the file with a name in a directory. -/
def place (directory : List String) (name : String) : String :=
  Text.joinWith "/" (directory ++ [name]) ++ fileEnding

theorem path_eq_place (r : Resource) : r.path = place r.scope r.name := rfl

theorem runtimeFile_path (withForms : Bool) :
    (runtimeFile withForms).path = place ["lib"] "wayfinder" := by
  show runtimeModule ++ fileEnding = _
  decide

/-! The names of the files that do not depend on the routes are components as well. -/

theorem isComponent_index : IsComponent "index" := by decide

theorem isComponent_lib : ∀ w ∈ ["lib"], IsComponent w := by decide

theorem isComponent_wayfinder : IsComponent "wayfinder" := by decide

theorem runtimeModule_eq : runtimeModule = Text.joinWith "/" (["lib"] ++ ["wayfinder"]) := by
  decide

theorem split_place (hdirectory : ∀ w ∈ directory, '/' ∉ w.toList) (hname : '/' ∉ name.toList) :
    Text.split '/' (place directory name) = directory ++ [name ++ fileEnding] := by
  rw [place, Text.joinWith_concat_append]
  refine Text.split_joinWith (List.concat_ne_nil _ _) fun w hw => ?_
  rcases List.mem_append.1 hw with hw | hw
  · exact hdirectory w hw
  · rw [List.mem_singleton.1 hw, String.toList_append, List.mem_append, not_or]
    exact ⟨hname, by decide⟩

/-- Different files have different paths. -/
theorem place_inj (hdirectory : ∀ w ∈ directory, IsComponent w) (hname : IsComponent name)
    (hdirectory' : ∀ w ∈ directory', IsComponent w) (hname' : IsComponent name') :
    place directory name = place directory' name' ↔ directory = directory' ∧ name = name' := by
  constructor
  · intro h
    have hsplit := congrArg (Text.split '/') h
    rw [split_place (fun w hw => (hdirectory w hw).no_slash) hname.no_slash,
      split_place (fun w hw => (hdirectory' w hw).no_slash) hname'.no_slash] at hsplit
    obtain ⟨hd, hn⟩ := List.append_inj' hsplit rfl
    exact ⟨hd, String.append_left_inj _ |>.1 (List.singleton_inj.1 hn)⟩
  · rintro ⟨rfl, rfl⟩
    rfl

/-! ### Imports -/

/-- Whether a specifier is relative to the file that it stands in; any other names a package. -/
def isRelative (specifier : String) : Bool :=
  Text.startsWith "./" specifier || Text.startsWith "../" specifier

/-- The directory that a component of a specifier leads to. An empty one and `.` stay, and `..` goes
up, which the output directory does not allow. -/
def follow (directory : List String) (component : String) : Option (List String) :=
  if component = "" ∨ component = "." then some directory
  else if component = ".." then if directory = [] then none else some directory.dropLast
  else some (directory ++ [component])

/-- The path of the file that a specifier leads to from the file at a path. Specifiers leave out the
ending of the file. -/
def resolve? (file specifier : String) : Option String :=
  if isRelative specifier then
    ((Text.split '/' specifier).foldlM follow (Text.split '/' file).dropLast).map fun components =>
      Text.joinWith "/" components ++ fileEnding
  else none

theorem follow_component {w : String} (h : IsComponent w) :
    follow directory w = some (directory ++ [w]) := by
  rw [follow, if_neg (not_or.2 ⟨h.nonempty, h.ne_period⟩), if_neg h.ne_periods]

/-- Components lead down. -/
theorem foldlM_follow (h : ∀ w ∈ below, IsComponent w) :
    below.foldlM follow directory = some (directory ++ below) := by
  induction below generalizing directory with
  | nil => simp
  | cons w below ih =>
    rw [List.foldlM_cons, follow_component (h w List.mem_cons_self), Option.bind_eq_bind,
      Option.bind_some, ih fun v hv => h v (List.mem_cons_of_mem w hv), List.append_assoc,
      List.singleton_append]

/-- As many steps up as a directory is deep lead to the output directory. -/
theorem foldlM_follow_up (directory : List String) :
    (List.replicate directory.length "..").foldlM follow directory = some [] := by
  -- from the end, since each step up leaves the last word
  induction directory using List.reverseRecOn with
  | nil => rfl
  | append_singleton directory w ih =>
    have hup : follow (directory ++ [w]) ".." = some directory := by
      simp [follow]
    rw [List.length_append, List.length_singleton, List.replicate_succ, List.foldlM_cons, hup,
      Option.bind_eq_bind, Option.bind_some, ih]

theorem split_repeated_up (n : Nat) (s : String) :
    Text.split '/' (Text.repeated n "../" ++ s) = List.replicate n ".." ++ Text.split '/' s := by
  induction n with
  | zero => rw [Text.repeated, String.empty_append, List.replicate_zero, List.nil_append]
  | succ n ih =>
    have hup : "../" = ".." ++ String.singleton '/' := rfl
    rw [Text.repeated, hup, String.append_assoc, Text.split_append_sep, ← hup, ih,
      Text.split_of_not_mem (by decide), List.replicate_succ]
    rfl

theorem split_wayUp (n : Nat) (s : String) :
    Text.split '/' (wayUp n ++ s)
      = (if n = 0 then ["."] else List.replicate n "..") ++ Text.split '/' s := by
  unfold wayUp
  split
  · have hhere : "./" = "." ++ String.singleton '/' := rfl
    rw [hhere, Text.split_append_sep, Text.split_of_not_mem (by decide)]
  · exact split_repeated_up n s

theorem isRelative_wayUp (n : Nat) (s : String) : isRelative (wayUp n ++ s) = true := by
  rw [isRelative, Bool.or_eq_true, Text.startsWith, Text.startsWith, List.isPrefixOf_iff_prefix,
    List.isPrefixOf_iff_prefix, String.toList_append]
  cases n with
  | zero => exact .inl (List.prefix_append _ _)
  | succ n =>
    refine .inr ?_
    rw [wayUp, if_neg n.succ_ne_zero, Text.repeated, String.toList_append, List.append_assoc]
    exact List.prefix_append _ _

section
variable (hdirectory : ∀ w ∈ directory, IsComponent w) (hname : IsComponent name)
variable (hbelow : ∀ w ∈ below, IsComponent w) (htarget : IsComponent target)
include hdirectory hname hbelow htarget

/-- The components of an import, once those that lead up are followed. -/
theorem resolve?_place (n : Nat) {start : List String}
    (hstart : (if n = 0 then ["."] else List.replicate n "..").foldlM follow directory = some start) :
    resolve? (place directory name) (wayUp n ++ Text.joinWith "/" (below ++ [target]))
      = some (place (start ++ below) target) := by
  have hcomponents : ∀ w ∈ below ++ [target], IsComponent w := by
    intro w hw
    rcases List.mem_append.1 hw with hw | hw
    · exact hbelow w hw
    · rwa [List.mem_singleton.1 hw]
  have hsplit : Text.split '/' (Text.joinWith "/" (below ++ [target])) = below ++ [target] :=
    Text.split_joinWith (List.concat_ne_nil _ _) fun w hw => (hcomponents w hw).no_slash
  rw [resolve?, if_pos (isRelative_wayUp n _), split_wayUp, hsplit,
    split_place (fun w hw => (hdirectory w hw).no_slash) hname.no_slash, List.dropLast_concat,
    List.foldlM_append, hstart, Option.bind_eq_bind, Option.bind_some, foldlM_follow hcomponents,
    Option.map_some, place, List.append_assoc]

/-- An import that starts with `./` leads below the directory of its file. -/
theorem resolve?_below :
    resolve? (place directory name) ("./" ++ Text.joinWith "/" (below ++ [target]))
      = some (place (directory ++ below) target) :=
  resolve?_place hdirectory hname hbelow htarget 0 rfl

/-- An import that starts with the way up leads below the output directory. -/
theorem resolve?_wayUp :
    resolve? (place directory name)
        (wayUp directory.length ++ Text.joinWith "/" (below ++ [target]))
      = some (place below target) := by
  have hup : (if directory.length = 0 then ["."] else List.replicate directory.length "..").foldlM
      follow directory = some [] := by
    split
    case isTrue h =>
      rw [List.eq_nil_of_length_eq_zero h]
      rfl
    case isFalse => exact foldlM_follow_up directory
  exact resolve?_place hdirectory hname hbelow htarget directory.length hup

end

end RouteHelpers.Resource
