import RouteHelpers.Proofs.Path.Normal
import RouteHelpers.Proofs.Path.Required

/-!
Where the names of parameters stand in the tree of a path.

The tree is data: slots are lists of a tag and a name, and groups are lists of a tag and nodes. A name
occurs in it if it is that of a slot among the nodes, or occurs in a group among them (`Occurs`). The
names that are required are those of slots among the nodes themselves (`exists_slot_iff`). Those in
groups are collected without globs, which would make a difference if groups had any; the groups of a
path that is parsed have literals and parameters only, and no group within a group (`isFlat_parse`). So

    Occurs name (nodes (parse path)) ↔
      name ∈ requiredNames (parse path) ∨ name ∈ optionalNames (parse path)
-/

namespace RouteHelpers

namespace Path

variable {name : String} {segments : List Segment}

/-! ### Names in a tree -/

/-- A node is a slot for a name. -/
def IsSlot (name : String) (node : Value) : Prop :=
  node = .list [.text "param", .text name] ∨ node = .list [.text "glob", .text name]

/-- A name is that of a slot among nodes or, at any depth, in a group among them. -/
inductive Occurs (name : String) : List Value → Prop
  | slot {v : Value} {vs : List Value} : v ∈ vs → IsSlot name v → Occurs name vs
  | group {children vs : List Value} :
    .list [.text "optional", .list children] ∈ vs → Occurs name children → Occurs name vs

theorem mem_nodes {v : Value} : v ∈ nodes segments ↔ ∃ s ∈ segments, v = node s := by
  induction segments with
  | nil => simp [nodes]
  | cons s rest ih => simp [nodes, ih]

theorem isSlot_node {s : Segment} :
    IsSlot name (node s) ↔ s = .param name ∨ s = .glob name := by
  cases s <;> simp [IsSlot, node]

/-- Slots among the nodes are those outside of groups. -/
theorem exists_slot_iff :
    (∃ v ∈ nodes segments, IsSlot name v) ↔ Segment.HasSlot segments name := by
  constructor
  · rintro ⟨v, hv, hslot⟩
    obtain ⟨s, hs, rfl⟩ := mem_nodes.1 hv
    rcases isSlot_node.1 hslot with rfl | rfl
    · exact .inl hs
    · exact .inr hs
  · rintro (h | h)
    · exact ⟨_, mem_nodes.2 ⟨_, h, rfl⟩, isSlot_node.2 (.inl rfl)⟩
    · exact ⟨_, mem_nodes.2 ⟨_, h, rfl⟩, isSlot_node.2 (.inr rfl)⟩

/-- A name occurs in the tree of segments in a slot or in a group. -/
theorem occurs_nodes_iff : Occurs name (nodes segments) ↔ Segment.HasSlot segments name ∨
    ∃ children, .group children ∈ segments ∧ Occurs name (nodes children) := by
  constructor
  · rintro (⟨hv, hslot⟩ | ⟨hgroup, h⟩)
    · exact .inl (exists_slot_iff.1 ⟨_, hv, hslot⟩)
    · obtain ⟨s, hs, hnode⟩ := mem_nodes.1 hgroup
      cases s with
      | literal | param | glob => simp [node] at hnode
      | group children =>
        simp only [node, Value.list.injEq, List.cons.injEq, and_true, true_and] at hnode
        exact .inr ⟨children, hs, hnode ▸ h⟩
  · rintro (h | ⟨children, hgroup, h⟩)
    · obtain ⟨v, hv, hslot⟩ := exists_slot_iff.2 h
      exact .slot hv hslot
    · exact .group (mem_nodes.2 ⟨_, hgroup, by simp [node]⟩) h

/-! ### Groups of a path -/

/-- A segment is a literal or a parameter, as those in groups are. -/
def IsPlain : Segment → Prop
  | .literal _ | .param _ => True
  | .glob _ | .group _ => False

/-- Groups have literals and parameters only. -/
def IsFlat (segments : List Segment) : Prop :=
  ∀ children, .group children ∈ segments → ∀ s ∈ children, IsPlain s

theorem isPlain_of_mem_groupMembers {inner : String} {s : Segment} (h : s ∈ groupMembers inner) :
    IsPlain s := by
  unfold groupMembers at h
  split at h
  · rcases List.mem_pair.1 h with rfl | rfl <;> trivial
  · rw [List.mem_singleton.1 h]
    trivial
  · cases h
  · rw [List.mem_singleton.1 h]
    trivial

/-- The group of a piece has the members that its inside says. -/
theorem exists_of_group_mem_pieceSegments {piece : String} {children : List Segment}
    (h : .group children ∈ pieceSegments piece) :
    ∃ inner, children = normalize (groupMembers inner) := by
  have hplain (p : String) : .group children ∉ plainPiece p := by
    unfold plainPiece
    split <;> simp
  have hhead (p : String) : .group children ∉ headSegments p := by
    unfold headSegments
    split
    · exact hplain p
    · exact hplain p
    · simp
  unfold pieceSegments at h
  split at h
  · split at h
    next head inner _ =>
      rcases List.mem_append.1 h with h | h
      · exact absurd h (hhead head)
      · exact ⟨inner, Segment.group.inj (List.mem_singleton.1 h)⟩
    next => simp at h
  · exact absurd h (hplain piece)

/-- **The groups of a path that is parsed** have no globs and no groups in them. -/
theorem isFlat_parse (path : String) : IsFlat (parse path) := by
  intro children hgroup s hs
  obtain ⟨piece, -, hpiece⟩ := List.mem_flatMap.1 ((mem_normalize_iff rfl).1 hgroup)
  obtain ⟨inner, rfl⟩ := exists_of_group_mem_pieceSegments hpiece
  cases hliteral : isLiteral s with
  | true =>
    cases s with
    | literal => trivial
    | param | glob | group => cases hliteral
  | false => exact isPlain_of_mem_groupMembers ((mem_normalize_iff hliteral).1 hs)

/-! ### Names in groups -/

theorem mem_optionalNames : name ∈ Segment.optionalNames segments ↔
    ∃ children, .group children ∈ segments ∧ name ∈ Segment.groupNamesOfAll children := by
  rw [Segment.optionalNames, Segment.mem_addNew, List.mem_flatMap]
  constructor
  · rintro (h | ⟨s, hs, hname⟩)
    · exact absurd h List.not_mem_nil
    · cases s with
      | literal | param | glob => exact absurd hname List.not_mem_nil
      | group children => exact ⟨children, hs, hname⟩
  · rintro ⟨children, hs, hname⟩
    exact .inr ⟨_, hs, hname⟩

/-- The names that a group collects are those of the parameters in it. -/
theorem mem_groupNamesOfAll_iff {children : List Segment} (h : ∀ s ∈ children, IsPlain s) :
    name ∈ Segment.groupNamesOfAll children ↔ .param name ∈ children := by
  induction children with
  | nil => simp [Segment.groupNamesOfAll]
  | cons s rest ih =>
    obtain ⟨hs, hrest⟩ := List.forall_mem_cons.1 h
    rw [Segment.groupNamesOfAll, List.mem_append, ih hrest, List.mem_cons]
    refine or_congr_left ?_
    cases s with
    | literal => simp [Segment.groupNames]
    | param => simp [Segment.groupNames]
    | glob | group => exact hs.elim

theorem occurs_nodes_of_isPlain {children : List Segment} (h : ∀ s ∈ children, IsPlain s) :
    Occurs name (nodes children) ↔ .param name ∈ children := by
  rw [occurs_nodes_iff]
  constructor
  · rintro ((hslot | hslot) | ⟨inner, hgroup, -⟩)
    · exact hslot
    · exact (h _ hslot).elim
    · exact (h _ hgroup).elim
  · exact fun hslot => .inl (.inl hslot)

/-- **The names that occur in the tree of a path** are those that are required and those in groups. -/
theorem occurs_nodes_parse (path : String) : Occurs name (nodes (parse path)) ↔
    name ∈ Segment.requiredNames (parse path) ∨ name ∈ Segment.optionalNames (parse path) := by
  rw [occurs_nodes_iff, Segment.mem_requiredNames, mem_optionalNames]
  refine or_congr_right (exists_congr fun children => and_congr_right fun hgroup => ?_)
  have hplain := isFlat_parse path children hgroup
  rw [occurs_nodes_of_isPlain hplain, mem_groupNamesOfAll_iff hplain]

end Path
end RouteHelpers
