import RouteHelpers.Console

/-!
What is known of consoles.

The program needs little of a console: that a text is printed in which tags do no more than put words into
styles of the program, each tag being closed by its own, and that an escaped text is printed too, whatever
it was. `Console.IsFaithful` says so much. Nothing is said of texts with other tags, nor of how the text
comes out, but that a line about an error begins with its label.
-/

namespace RouteHelpers.Console

/-- The styles that the program puts texts into. -/
def styles : List String :=
  ["green", "red", "yellow", "blue", "white", "bold", "dim"]

/-- A text may stand in front of a tag: no tag opens in it, and no backslash at its end makes text of the
tag. -/
structure IsFront (s : String) : Prop where
  no_bracket : '[' ∉ s.toList
  no_backslash : s.toList.getLast? ≠ some '\\'

variable {c : Console} {s t front rest style : String}

/-- A text in which tags only put words into styles of the program. What is escaped stands at its end. -/
inductive IsMarked (c : Console) : String → Prop
  | plain {s : String} : '[' ∉ s.toList → IsMarked c s
  | escaped (s : String) : IsMarked c (c.escape s)
  | behind {front rest : String} : IsFront front → IsMarked c rest → IsMarked c (front ++ rest)
  | styled {style s rest : String} : style ∈ styles → IsFront s → IsMarked c rest →
      IsMarked c (Console.styled style s ++ rest)

/-- The title, the headers and the cells of a table are such texts. -/
structure Table.IsMarked (c : Console) (t : Table) : Prop where
  title : Console.IsMarked c t.title
  headers : ∀ column ∈ t.columns, Console.IsMarked c column.header
  cells : ∀ row ∈ t.rows, ∀ cell ∈ row, Console.IsMarked c cell

/-- A console prints what the program asks it to print, as long as tags are in order. -/
structure IsFaithful (c : Console) : Prop where
  line : ∀ s, IsMarked c s → ∃ text, c.line s = .ok text
  table : ∀ t, Table.IsMarked c t → ∃ text, c.table t = .ok text
  /-- What is printed of an error begins with the label of errors. -/
  error : ∀ message text, c.line (styled "red" "Error:" ++ " " ++ c.escape message) = .ok text →
    "Error:".toList <+: text.toList

/-! ### Texts that are put together -/

/-- What is put together from texts without brackets has none. -/
theorem not_mem_append {x : Char} (hs : x ∉ s.toList) (ht : x ∉ t.toList) : x ∉ (s ++ t).toList := by
  rw [String.toList_append]
  exact fun hmem => (List.mem_append.1 hmem).elim hs ht

/-- A text is in front of a tag if it ends in another that is. -/
theorem IsFront.append (hs : '[' ∉ s.toList) (ht : IsFront t) (hne : t ≠ "") : IsFront (s ++ t) := by
  refine ⟨not_mem_append hs ht.no_bracket, ?_⟩
  obtain ⟨last, hlast⟩ : ∃ last, t.toList.getLast? = some last :=
    ⟨_, List.getLast?_eq_some_getLast fun h => hne (String.toList_eq_nil_iff.1 h)⟩
  rw [String.toList_append, List.getLast?_append, hlast, Option.some_or, ← hlast]
  exact ht.no_backslash

theorem isMarked_styled (hstyle : style ∈ styles) (h : IsFront s) : IsMarked c (styled style s) := by
  have hmarked := IsMarked.styled (c := c) hstyle h (.plain (s := "") List.not_mem_nil)
  rwa [String.append_empty] at hmarked

/-- A line about a step that succeeded is printed. -/
theorem IsFaithful.exists_done (h : c.IsFaithful) (hs : '[' ∉ s.toList) :
    ∃ text, c.line (styled "green" "✓" ++ " " ++ s) = .ok text := by
  refine h.line _ ?_
  rw [String.append_assoc]
  exact .styled (by decide) ⟨by decide, by decide⟩ (.plain (not_mem_append (by decide) hs))

/-- A line about an error is printed, whatever the error. -/
theorem IsFaithful.exists_error (h : c.IsFaithful) (message : String) :
    ∃ text, c.line (styled "red" "Error:" ++ " " ++ c.escape message) = .ok text := by
  refine h.line _ ?_
  rw [String.append_assoc]
  exact .styled (by decide) ⟨by decide, by decide⟩ (.behind ⟨by decide, by decide⟩ (.escaped message))

end RouteHelpers.Console
