import Mathlib.Data.Bool.AllAny
import RouteHelpers.Proofs.Extract.RouteTable
import RouteHelpers.Proofs.Resource.Component
import RouteHelpers.Proofs.Text.CamelCase
import RouteHelpers.Proofs.Text.Percent
import RouteHelpers.Script.Identifier

/-!
Names that code can bind.

A helper that is an identifier does not always give a name that is one, nor a name that is free: under
compact naming the helper `new` gives the name `new`, and a path `/2fa/login` may put `2fa` in front of
a helper. `isBindable_settledRoute` says exactly when that happens, for each record by itself.

Two things can be wrong with a name. It can start with a digit, which in camel case comes out from
behind underscores (`LeadsWithDigit`); and it can be empty or a reserved word, which takes a compact
name that nothing was added to (`trunk`). A name in camel case is not read off the helper directly, but
what it starts with is (`head?_camelFrom_first`), and so is whether it is a word in lower case
(`camelFrom_eq_dropEndList`).
-/

namespace RouteHelpers

/-! ### Identifiers -/

namespace Script

/-- A letter or an underscore, followed by letters, digits and underscores. -/
def IsIdentifier (name : String) : Prop :=
  match name.toList with
  | [] => False
  | c :: rest => (c = '_' ∨ c.isAlpha = true) ∧ ∀ d ∈ rest, d = '_' ∨ d.isAlphanum = true

instance : DecidablePred IsIdentifier := fun name => by
  unfold IsIdentifier
  exact match name.toList with
    | [] => instDecidableFalse
    | _ :: rest => @instDecidableAnd _ _ _ (List.decidableBAll _ rest)

/-- A name that can be bound: an identifier that is no reserved word. -/
def IsBindable (name : String) : Prop :=
  IsIdentifier name ∧ isReserved name = false

instance : DecidablePred IsBindable := fun _ => inferInstanceAs (Decidable (_ ∧ _))

/-- A word that is missing or reserved. -/
def IsTaken (word : String) : Prop :=
  word = "" ∨ isReserved word = true

instance : DecidablePred IsTaken := fun _ => inferInstanceAs (Decidable (_ ∨ _))

theorem isLower_of_isTaken {word : String} (h : IsTaken word) :
    ∀ c ∈ word.toList, c.isLower = true := by
  rcases h with rfl | h
  · simp
  · have hall : reservedWords.all (fun w => w.toList.all Char.isLower) = true := by decide
    exact List.all_eq_true.1 (List.all_eq_true.1 hall word (List.contains_iff_mem.1 h))

end Script

namespace Text

theorem isNameChar_iff {c : Char} : IsNameChar c ↔ c = '_' ∨ c.isAlphanum = true := by
  constructor
  · intro h
    by_cases hc : c = '_'
    · exact .inl hc
    · exact .inr (isAlphanum_of_isNameChar h hc)
  · intro h
    have hascii : isAscii c = true := by
      rcases h with rfl | h
      · decide
      · exact decide_eq_true (toNat_lt_of_isAlphanum h)
    refine ⟨hascii, ?_⟩
    rw [isWord_of_ascii hascii, Bool.or_eq_true, beq_iff_eq]
    exact h

end Text

namespace Script

variable {name : String}

theorem isNameChar_of_isIdentifier (h : IsIdentifier name) :
    ∀ c ∈ name.toList, Text.IsNameChar c := by
  unfold IsIdentifier at h
  split at h
  next => exact h.elim
  next c rest hname =>
    rw [hname, List.forall_mem_cons]
    refine ⟨Text.isNameChar_iff.2 (h.1.imp_right fun hc => ?_), fun d hd =>
      Text.isNameChar_iff.2 (h.2 d hd)⟩
    rw [Char.isAlphanum, hc, Bool.true_or]

/-- Of the names that have the right characters, those are identifiers that start with no digit. -/
theorem isIdentifier_iff (h : ∀ c ∈ name.toList, Text.IsNameChar c) :
    IsIdentifier name ↔ name ≠ "" ∧ name.toList.head?.any Char.isDigit = false := by
  unfold IsIdentifier
  split
  next hnil =>
    simp [String.toList_eq_nil_iff.1 hnil]
  next c rest hname =>
    rw [hname, List.forall_mem_cons] at h
    have hne : name ≠ "" := fun e => by simp [e] at hname
    -- of the first character only a digit is in question, and no letter and no underscore is one
    have hrest : ∀ d ∈ rest, d = '_' ∨ d.isAlphanum = true :=
      fun d hd => Text.isNameChar_iff.1 (h.2 d hd)
    have hfirst : (c = '_' ∨ c.isAlpha = true) ↔ c.isDigit = false := by
      have hc : c = '_' ∨ c.isAlpha = true ∨ c.isDigit = true := by
        rw [← Bool.or_eq_true, ← Char.isAlphanum]
        exact Text.isNameChar_iff.1 h.1
      have hdisjoint : (c = '_' → c.isDigit = false) ∧ (c.isAlpha = true → c.isDigit = false) :=
        Text.forall_ascii (P := fun c => (c = '_' → c.isDigit = false) ∧
          (c.isAlpha = true → c.isDigit = false)) (by decide) h.1.1
      constructor
      · exact fun hor => hor.elim hdisjoint.1 hdisjoint.2
      · intro hdigit
        exact hc.imp_right fun hor => hor.resolve_right (by simp [hdigit])
    rw [hname]
    exact ⟨fun hname => ⟨hne, hfirst.1 hname.1⟩, fun hname => ⟨hfirst.2 hname.2, hrest⟩⟩

end Script

/-! ### How a name starts and what is left of it -/

theorem head?_camelFrom_first (cs : List Char) :
    (camelFrom .first cs).head? = if cs.head? = some '_' then
      (cs.dropWhile (· == '_')).head?.map Char.toUpper else cs.head? := by
  cases cs with
  | nil => rfl
  | cons c rest =>
    by_cases hc : c = '_'
    · rw [camelFrom, if_pos hc, head?_camelFrom_start, hc]
      rfl
    · rw [camelFrom, if_neg hc]
      simp [hc, WordPlace.cased]

namespace Naming

variable (n : Naming)

/-- The characters that the name of a helper starts with: in camel case no underscores. -/
def leading (helper : String) : List Char :=
  if n.camelCase then helper.toList.dropWhile (· == '_') else helper.toList

/-- The name of a helper starts with a digit. -/
def LeadsWithDigit (helper : String) : Prop :=
  (n.leading helper).head?.any Char.isDigit = true

instance : DecidablePred n.LeadsWithDigit := fun _ => inferInstanceAs (Decidable (_ = true))

/-- A helper without the underscores at its end that leave no trace in its name. -/
def trunk (helper : String) : String :=
  if n.camelCase then Text.dropEnd (· == '_') helper else helper

variable {n} {helper : String}

theorem toList_cased (h : ∀ c ∈ helper.toList, Text.IsNameChar c) :
    (n.cased helper).toList
      = if n.camelCase then camelFrom .first helper.toList else helper.toList := by
  unfold cased
  split
  · exact toList_camelCased fun c hc => (h c hc).1
  · rfl

theorem isNameChar_cased (h : ∀ c ∈ helper.toList, Text.IsNameChar c) :
    ∀ c ∈ (n.cased helper).toList, Text.IsNameChar c := by
  rw [toList_cased h]
  split
  · exact fun c hc => Text.isNameChar_iff.2 (.inr (isAlphanum_of_mem_camelFrom h hc))
  · exact h

/-- A name starts with a digit if the helper does, but for underscores. -/
theorem any_isDigit_cased (h : ∀ c ∈ helper.toList, Text.IsNameChar c) :
    (n.cased helper).toList.head?.any Char.isDigit = (n.leading helper).head?.any Char.isDigit := by
  rw [toList_cased h, leading]
  split
  · rw [head?_camelFrom_first]
    split
    next =>
      -- behind underscores the first character is raised, which makes no digit of a letter
      rcases hfirst : (helper.toList.dropWhile (· == '_')).head? with - | c
      · rfl
      · have hmem : c ∈ helper.toList :=
          (List.dropWhile_suffix _).subset (List.mem_of_head? hfirst)
        have hne : c ≠ '_' := by
          have hnot := List.head?_dropWhile_not (· == '_') helper.toList
          rw [hfirst] at hnot
          simpa using hnot
        simp [(Text.isAlphanum_cases (h c hmem) hne).2.2.2]
    next hne =>
      cases hlist : helper.toList with
      | nil => rfl
      | cons c rest =>
        rw [hlist] at hne
        rw [List.dropWhile_cons_of_neg (by simpa using hne)]
  · rfl

/-- A name is missing or reserved if what is left of the helper is. -/
theorem isTaken_cased_iff (h : ∀ c ∈ helper.toList, Text.IsNameChar c) :
    Script.IsTaken (n.cased helper) ↔ Script.IsTaken (n.trunk helper) := by
  suffices hsame : (Script.IsTaken (n.cased helper) ∨ Script.IsTaken (n.trunk helper)) →
      n.cased helper = n.trunk helper by
    exact ⟨fun ht => hsame (.inl ht) ▸ ht, fun ht => (hsame (.inr ht)).symm ▸ ht⟩
  intro ht
  -- in camel case a word in lower case is what is left of a helper that has no words behind the first
  have hlower := ht.imp Script.isLower_of_isTaken Script.isLower_of_isTaken
  rw [toList_cased h] at hlower
  apply String.toList_injective
  rw [toList_cased h]
  unfold trunk at hlower ⊢
  split
  next hcamel =>
    rw [if_pos hcamel, if_pos hcamel, Text.dropEnd, String.toList_ofList] at hlower
    rw [Text.dropEnd, String.toList_ofList]
    exact camelFrom_eq_dropEndList h hlower
  next => rfl

/-- **When a name can be bound**: no digit leads it, and a word is left of it that is free. -/
theorem isBindable_cased_iff (h : ∀ c ∈ helper.toList, Text.IsNameChar c) :
    Script.IsBindable (n.cased helper) ↔
      ¬ n.LeadsWithDigit helper ∧ ¬ Script.IsTaken (n.trunk helper) := by
  rw [Script.IsBindable, Script.isIdentifier_iff (isNameChar_cased h), any_isDigit_cased h,
    ← isTaken_cased_iff h, Script.IsTaken, not_or, LeadsWithDigit, Bool.not_eq_true,
    Bool.not_eq_true]
  tauto

/-! ### Words added to a helper -/

/-- A text behind an underscore that does not end in one stays, and the underscore with it. -/
theorem not_isTaken_trunk {before word : String} (h : ∃ c, word.toList.getLast? = some c ∧ c ≠ '_') :
    ¬ Script.IsTaken (n.trunk (before ++ "_" ++ word)) := by
  intro ht
  have hlist : (n.trunk (before ++ "_" ++ word)).toList = before.toList ++ '_' :: word.toList := by
    obtain ⟨c, hlast, hne⟩ := h
    have hkept : Text.dropEndList (· == '_') (before.toList ++ '_' :: word.toList)
        = before.toList ++ '_' :: word.toList := by
      refine List.rdropWhile_eq_self_iff.2 fun hnil => ?_
      have hend : (before.toList ++ '_' :: word.toList).getLast hnil = c := by
        apply Option.some.inj
        rw [← List.getLast?_eq_some_getLast, List.getLast?_append, List.getLast?_cons, hlast]
        rfl
      simpa [hend] using hne
    unfold trunk
    split
    · rw [Text.dropEnd, String.toList_ofList]
      simpa using hkept
    · simp
  -- but no reserved word has an underscore in it
  have hlower := Script.isLower_of_isTaken ht '_' (by simp [hlist])
  exact absurd hlower (by decide)

/-- A word for the kind of a name does not change how the name starts. -/
theorem leadsWithDigit_append {word : String}
    (h : ∃ c, word.toList.head? = some c ∧ c ≠ '_' ∧ c.isDigit = false) :
    n.LeadsWithDigit (helper ++ "_" ++ word) ↔ n.LeadsWithDigit helper := by
  obtain ⟨c, hfirst, hne, hdigit⟩ := h
  obtain ⟨rest, hword⟩ := List.head?_eq_some_iff.1 hfirst
  unfold LeadsWithDigit leading
  split
  · by_cases hnil : helper.toList.dropWhile (· == '_') = []
    · simp [List.dropWhile_append, hnil, hword, hne, hdigit]
    · simp [List.dropWhile_append, hnil, List.head?_append_of_ne_nil _ hnil]
  · cases hlist : helper.toList with
    | nil => simp [hlist]
    | cons d ds => simp [hlist]

/-- A text that starts with no underscore starts the name as it stands. -/
theorem leadsWithDigit_of_head? {before : String} (rest : String)
    (h : ∃ c, before.toList.head? = some c ∧ c ≠ '_') :
    n.LeadsWithDigit (before ++ rest) ↔ before.toList.head?.any Char.isDigit = true := by
  obtain ⟨c, hfirst, hne⟩ := h
  obtain ⟨cs, hlist⟩ := List.head?_eq_some_iff.1 hfirst
  unfold LeadsWithDigit leading
  split <;> simp [hlist, hne]

theorem isNameChar_append {before word : String}
    (hbefore : ∀ c ∈ before.toList, Text.IsNameChar c)
    (hword : ∀ c ∈ word.toList, Text.IsNameChar c) :
    ∀ c ∈ (before ++ "_" ++ word).toList, Text.IsNameChar c := by
  intro c hc
  simp only [String.toList_append, List.mem_append] at hc
  rcases hc with (hc | hc) | hc
  · exact hbefore c hc
  · obtain rfl : c = '_' := by simpa using hc
    decide
  · exact hword c hc

theorem isBindable_append_iff {word : String} (h : ∀ c ∈ helper.toList, Text.IsNameChar c)
    (hword : ∀ c ∈ word.toList, Text.IsNameChar c)
    (hfirst : ∃ c, word.toList.head? = some c ∧ c ≠ '_' ∧ c.isDigit = false)
    (hlast : ∃ c, word.toList.getLast? = some c ∧ c ≠ '_') :
    Script.IsBindable (n.cased (helper ++ "_" ++ word)) ↔ ¬ n.LeadsWithDigit helper := by
  rw [isBindable_cased_iff (isNameChar_append h hword), leadsWithDigit_append hfirst]
  exact and_iff_left (not_isTaken_trunk hlast)

theorem isBindable_urlName_iff (h : ∀ c ∈ helper.toList, Text.IsNameChar c) :
    Script.IsBindable (n.urlName helper) ↔ ¬ n.LeadsWithDigit helper := by
  have hname : n.urlName helper = n.cased (helper ++ "_" ++ "url") := by
    rw [urlName, String.append_assoc]
    rfl
  rw [hname]
  have hword : ∀ c ∈ "url".toList, Text.IsNameChar c := List.all_iff_forall_prop.1 (by decide)
  exact isBindable_append_iff h hword ⟨'u', by decide⟩ ⟨'l', by decide⟩

theorem isBindable_pathName_iff (h : ∀ c ∈ helper.toList, Text.IsNameChar c) :
    Script.IsBindable (n.pathName helper) ↔
      ¬ n.LeadsWithDigit helper ∧ (n.compact = true → ¬ Script.IsTaken (n.trunk helper)) := by
  unfold pathName
  cases n.compact with
  | true => simpa using isBindable_cased_iff h
  | false =>
    have hname : helper ++ "_path" = helper ++ "_" ++ "path" := by
      rw [String.append_assoc]
      rfl
    simp only [Bool.false_eq_true, if_false, false_implies, and_true, hname]
    have hword : ∀ c ∈ "path".toList, Text.IsNameChar c := List.all_iff_forall_prop.1 (by decide)
    exact isBindable_append_iff h hword ⟨'p', by decide⟩ ⟨'h', by decide⟩

end Naming

/-! ### Words that are put around a helper -/

theorem Text.getLast?_strip {p : Char → Bool} {s : String} {c : Char}
    (h : (strip p s).toList.getLast? = some c) : p c = false := by
  rw [strip, String.toList_ofList] at h
  exact getLast?_dropEndList h

/-- A word that is not missing neither starts nor ends with an underscore. -/
theorem ends_wordToken {s : String} (h : wordToken s ≠ "") :
    (∃ c, (wordToken s).toList.head? = some c ∧ c ≠ '_') ∧
      ∃ c, (wordToken s).toList.getLast? = some c ∧ c ≠ '_' := by
  have hnil : (wordToken s).toList ≠ [] := fun e => h (String.toList_eq_nil_iff.1 e)
  constructor
  · refine ⟨_, List.head?_eq_some_head hnil, fun hc => ?_⟩
    have hfirst : (wordToken s).toList.head? = some '_' := by rw [List.head?_eq_some_head hnil, hc]
    rw [wordToken, Text.strip, String.toList_ofList] at hfirst
    exact absurd (Text.head?_stripList hfirst) (by decide)
  · refine ⟨_, List.getLast?_eq_some_getLast hnil, fun hc => ?_⟩
    have hlast : (wordToken s).toList.getLast? = some '_' := by
      rw [List.getLast?_eq_some_getLast hnil, hc]
    exact absurd (Text.getLast?_strip hlast) (by decide)

/-- The word of an ASCII text has characters that names are made of. -/
theorem isNameChar_wordToken {s : String} (h : ∀ c ∈ s.toList, Text.isAscii c = true) :
    ∀ c ∈ (wordToken s).toList, Text.IsNameChar c := by
  intro c hc
  rcases mem_wordToken hc with rfl | ⟨hmem, hword⟩
  · decide
  · exact ⟨h c hmem, hword⟩

namespace Action

theorem isNameChar_token {r : Route}
    (h : ∀ c ∈ (r.action.getD "").toList, Text.isAscii c = true) :
    ∀ c ∈ (token r).toList, Text.IsNameChar c := by
  rw [token_eq]
  split
  · have hall : order.all (fun action => action.toList.all fun c => decide (Text.IsNameChar c)) = true := by
      decide
    exact List.all_iff_forall_prop.1 (List.all_eq_true.1 hall _ (infer_mem_order _ _ _))
  · exact isNameChar_wordToken h

theorem getLast?_token (r : Route) : ∃ c, (token r).toList.getLast? = some c ∧ c ≠ '_' := by
  obtain ⟨hword, hne⟩ := wordToken_of_mem_order (infer_mem_order r.helperName (Text.upper r.verb) r.path)
  rw [token_eq]
  split
  · have hlast := (ends_wordToken (by rwa [hword])).2
    rwa [hword] at hlast
  next hgiven => exact (ends_wordToken hgiven).2

end Action

namespace Extract

theorem helperWithAction_eq (r : Route) :
    helperWithAction r = r.helper ++ "_" ++ Action.token r := by
  rw [helperWithAction, Action.token_eq]

/-- What holds of the characters of some components holds of those that are static. -/
theorem forall_mem_staticComponents {P : Char → Prop} {found : Bool} {components : List String}
    (h : ∀ w ∈ components, ∀ c ∈ w.toList, P c) :
    ∀ w ∈ staticComponents found components, ∀ c ∈ w.toList, P c := by
  induction components generalizing found with
  | nil => exact fun w hw => absurd hw List.not_mem_nil
  | cons component rest ih =>
    rw [List.forall_mem_cons] at h
    have hhead : ∀ c ∈ (Text.cut '(' component).1.toList, P c := by
      intro c hc
      rw [Text.cut, String.toList_ofList] at hc
      exact h.1 c ((Text.cutList_fst_isPrefix '(' component.toList).subset hc)
    simp only [staticComponents]
    split_ifs
    · exact ih h.2
    · exact fun w hw => absurd hw List.not_mem_nil
    · exact ih h.2
    · exact List.forall_mem_cons.2 ⟨hhead, ih h.2⟩

theorem isNameChar_scopeToken {path : String} (h : ∀ c ∈ path.toList, Text.isAscii c = true) :
    ∀ c ∈ (scopeToken path).toList, Text.IsNameChar c := by
  simp only [scopeToken]
  split
  · exact List.all_iff_forall_prop.1 (by decide)
  · refine isNameChar_wordToken fun c hc => ?_
    rcases Text.mem_joinWith hc with hc | ⟨w, hw, hc⟩
    · obtain rfl : c = '_' := by simpa using hc
      decide
    · refine forall_mem_staticComponents (P := fun c => Text.isAscii c = true)
        (fun piece hpiece d hd => ?_) w hw c hc
      obtain ⟨cs, hcs, rfl⟩ := List.mem_map.1 hpiece
      rw [String.toList_ofList] at hd
      exact h d (Text.mem_of_mem_splitList hcs hd)

theorem head?_scopeToken (path : String) :
    ∃ c, (scopeToken path).toList.head? = some c ∧ c ≠ '_' := by
  simp only [scopeToken]
  split
  · exact ⟨'r', by decide⟩
  next h => exact (ends_wordToken (by simpa using h)).1

end Extract

/-! ### The names of a table -/

/-- Names are made of ASCII, and of a helper that is an identifier if there is one. -/
structure Record.IsPlain (r : Record) : Prop where
  path : ∀ c ∈ r.path.toList, Text.isAscii c = true
  action : ∀ c ∈ (r.action.getD "").toList, Text.isAscii c = true
  helper : r.helper.getD "" ≠ "" → Script.IsIdentifier (r.helper.getD "")

instance : DecidablePred Record.IsPlain := fun r =>
  decidable_of_iff (r.path.toList.all Text.isAscii = true ∧
      (r.action.getD "").toList.all Text.isAscii = true ∧
      (r.helper.getD "" ≠ "" → Script.IsIdentifier (r.helper.getD "")))
    ⟨fun ⟨h₁, h₂, h₃⟩ => ⟨List.all_eq_true.1 h₁, List.all_eq_true.1 h₂, h₃⟩,
      fun ⟨h₁, h₂, h₃⟩ => ⟨List.all_eq_true.2 h₁, List.all_eq_true.2 h₂, h₃⟩⟩

namespace Extract

open Script

variable {s : Settings} {records : List Record} {routes : List Route}

/-- A name that is longer than the helper can be bound if it starts with no digit. -/
theorem isBindable_names_iff {n : Naming} {before word : String}
    (hbefore : ∀ c ∈ before.toList, Text.IsNameChar c) (hword : ∀ c ∈ word.toList, Text.IsNameChar c)
    (hlast : ∃ c, word.toList.getLast? = some c ∧ c ≠ '_') :
    ∀ name ∈ [n.pathName (before ++ "_" ++ word), n.urlName (before ++ "_" ++ word)],
      IsBindable name ↔ ¬ n.LeadsWithDigit (before ++ "_" ++ word) := by
  have hchars := Naming.isNameChar_append hbefore hword
  rw [List.forall_mem_cons, List.forall_mem_singleton]
  refine ⟨?_, Naming.isBindable_urlName_iff hchars⟩
  rw [Naming.isBindable_pathName_iff hchars]
  exact and_iff_left fun _ => Naming.not_isTaken_trunk hlast

/-- **When the names of a table can be bound.** The names of a record that keeps its helper can, unless
a digit leads them or a compact name is empty or reserved; those of a record whose action is added,
unless a digit leads them; and those of a record whose scope is put in front as well, unless the scope
starts with a digit. -/
theorem isBindable_settledRoute (hplain : ∀ r ∈ records, r.IsPlain)
    (hok : (ofEntries s (records.map .record)).outcome = .ok routes) :
    routes.Perm ((survivors s records).map (settledRoute s records)) ∧
    ∀ q ∈ survivors s records,
      let built := Route.ofRecord s.naming q
      let r := settledRoute s records q
      (r.helper = built.helper ∧
        (IsBindable r.urlName ↔ ¬ s.naming.LeadsWithDigit built.helper) ∧
        (IsBindable r.name ↔ ¬ s.naming.LeadsWithDigit built.helper ∧
          (s.naming.compact = true → ¬ IsTaken (s.naming.trunk built.helper)))) ∨
      (r.helper = helperWithAction built ∧
        ∀ name ∈ [r.name, r.urlName],
          IsBindable name ↔ ¬ s.naming.LeadsWithDigit (helperWithAction built)) ∨
      (r.helper = scopeToken q.path ++ "_" ++ helperWithAction built ∧
        ∀ name ∈ [r.name, r.urlName],
          IsBindable name ↔ ¬ (scopeToken q.path).toList.head?.any Char.isDigit = true) := by
  refine ⟨eq_settledRoutes_of_ok hok ▸ settledRoutes_perm_map s records, fun q hq => ?_⟩
  intro built r
  obtain ⟨hmem, hwanted, -⟩ := mem_survivors.1 hq
  have hq : q.IsPlain := hplain q hmem
  have hhelper : ∀ c ∈ built.helper.toList, Text.IsNameChar c :=
    isNameChar_of_isIdentifier (hq.helper hwanted.1)
  have htoken : ∀ c ∈ (Action.token built).toList, Text.IsNameChar c :=
    Action.isNameChar_token hq.action
  have hlast := Action.getLast?_token built
  obtain ⟨hname, hurl⟩ := (isNamed_settle s.naming (builtRoutes s records) built).names
  have hcases : r.helper = built.helper ∨ r.helper = helperWithAction built ∨
      r.helper = scopeToken q.path ++ "_" ++ helperWithAction built := settledHelper_cases _ _ _
  change r.name = s.naming.pathName r.helper at hname
  change r.urlName = s.naming.urlName r.helper at hurl
  rw [hname, hurl]
  rcases hcases with h | h | h
  · -- the helper is kept: of its names only the compact one has nothing added
    rw [h]
    exact .inl ⟨rfl, Naming.isBindable_urlName_iff hhelper, Naming.isBindable_pathName_iff hhelper⟩
  · -- the action stands behind it, so that no name is a reserved word
    rw [h, helperWithAction_eq]
    exact .inr (.inl ⟨rfl, isBindable_names_iff hhelper htoken hlast⟩)
  · -- the scope stands in front, and how it starts is how the names start
    rw [h]
    refine .inr (.inr ⟨rfl, ?_⟩)
    have hscope := Naming.isNameChar_append (isNameChar_scopeToken hq.path) hhelper
    have hnames := isBindable_names_iff (n := s.naming) hscope htoken hlast
    have hassoc : scopeToken q.path ++ "_" ++ helperWithAction built
        = scopeToken q.path ++ "_" ++ built.helper ++ "_" ++ Action.token built := by
      simp only [helperWithAction_eq, String.append_assoc]
    have hlead : s.naming.LeadsWithDigit (scopeToken q.path ++ "_" ++ helperWithAction built) ↔
        (scopeToken q.path).toList.head?.any Char.isDigit = true := by
      rw [String.append_assoc]
      exact Naming.leadsWithDigit_of_head? _ (head?_scopeToken q.path)
    rw [← hassoc, hlead] at hnames
    exact hnames

/-- Two ways to log in that share a helper, one of them in a scope that starts with a digit. -/
def loginTable : List Record :=
  [⟨"GET", "/2fa/login", some "login", some "new", false, []⟩,
   ⟨"GET", "/login", some "login", some "new", false, []⟩]

theorem isBindable_loginTable :
    (∀ r ∈ loginTable, r.IsPlain) ∧
    ∃ routes, (ofEntries Settings.default (loginTable.map .record)).outcome = .ok routes ∧
      routes.Perm ((survivors Settings.default loginTable).map
        (settledRoute Settings.default loginTable)) ∧
      ∀ q ∈ survivors Settings.default loginTable,
        let built := Route.ofRecord Settings.default.naming q
        let r := settledRoute Settings.default loginTable q
        (r.helper = built.helper ∧
          (IsBindable r.urlName ↔ ¬ Settings.default.naming.LeadsWithDigit built.helper) ∧
          (IsBindable r.name ↔ ¬ Settings.default.naming.LeadsWithDigit built.helper ∧
            (Settings.default.naming.compact = true →
              ¬ IsTaken (Settings.default.naming.trunk built.helper)))) ∨
        (r.helper = helperWithAction built ∧
          ∀ name ∈ [r.name, r.urlName],
            IsBindable name ↔ ¬ Settings.default.naming.LeadsWithDigit (helperWithAction built)) ∨
        (r.helper = scopeToken q.path ++ "_" ++ helperWithAction built ∧
          ∀ name ∈ [r.name, r.urlName],
            IsBindable name ↔ ¬ (scopeToken q.path).toList.head?.any Char.isDigit = true) := by
  have hplain : ∀ r ∈ loginTable, r.IsPlain := by decide
  have hok : (ofEntries Settings.default (loginTable.map .record)).outcome.toOption.isSome = true := by
    decide +kernel
  obtain ⟨routes, h⟩ := Except.exists_eq_ok hok
  exact ⟨hplain, routes, h, isBindable_settledRoute hplain h⟩

/-- Settings under which path helpers have no suffix. -/
def compactSettings : Settings :=
  Configuration.settings { compact := .bool true }

/-- A record whose helper is a reserved word. -/
def newRecord : Record :=
  ⟨"GET", "/new", some "new", none, false, []⟩

theorem not_isBindable_newRecord :
    newRecord.IsPlain ∧
    ∃ routes, (ofEntries compactSettings [.record newRecord]).outcome = .ok routes ∧
      ∃ r ∈ routes, r.name = "new" ∧ ¬ IsBindable r.name := by
  have hnodup : ((settledRoutes compactSettings [newRecord]).flatMap
      (emitted compactSettings)).Nodup := by
    decide +kernel
  have hname : settledRoutes compactSettings [newRecord] ≠ [] ∧
      ∀ r ∈ settledRoutes compactSettings [newRecord], r.name = "new" := by
    decide +kernel
  obtain ⟨r, hr⟩ := List.exists_mem_of_ne_nil _ hname.1
  refine ⟨by decide, _, outcome_of_nodup hnodup, r, hr, hname.2 r hr, ?_⟩
  rw [hname.2 r hr]
  decide

end Extract
end RouteHelpers
