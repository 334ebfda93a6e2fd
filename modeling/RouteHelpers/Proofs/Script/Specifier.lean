import RouteHelpers.Proofs.Script.Comment

/-!
Which modules a script names.

A script is read character by character, from left to right, and with each character it is known whether
it belongs to code, to a comment or to a literal (`Scan.step`). A literal behind `from`, `import` or
`require` names a module, and `specifiers` collects these. Of code nothing else is looked at, so regular
expressions count as code, and what stands in a template is not read as code of its own.

What is read so far matters to what follows in one way only: a word at its end may go on. So where it ends
with something else, a text gives the same specifiers wherever it stands (`Gives`), and what a script gives is
put together from what its parts give. Of literals and comments all that counts is that they are closed
where they are meant to be: a literal has its quotes behind backslashes and stays on one line, and a comment
holds no `*/`.
-/

namespace RouteHelpers.Script

/-! ### Reading scripts -/

/-- What a character of a script belongs to. -/
inductive Mode where
  | code
  /-- Code behind a slash, which may open a comment. -/
  | slash
  /-- A comment that ends with its line. -/
  | lineComment
  | comment
  /-- A comment behind a star, which may close it. -/
  | star
  /-- A literal, by its quote and whether it names a module. -/
  | literal (quote : Char) (named : Bool)
  /-- A literal behind a backslash. -/
  | escape (quote : Char) (named : Bool)
  deriving DecidableEq

/-- How far a script is read. -/
structure Scan where
  mode : Mode
  /-- The code since the last literal without blanks and opening parentheses, its end first. -/
  recent : List Char
  /-- The literal so far, its end first. -/
  literal : List Char
  specifiers : List String
  deriving DecidableEq

namespace Scan

/-- Nothing is read yet. -/
def start : Scan :=
  ⟨.code, [], [], []⟩

/-- Whether code ends in a word behind which a literal names a module. -/
def isNaming (recent : List Char) : Bool :=
  ["from", "import", "require"].any fun word => word.toList.reverse.isPrefixOf recent

/-- Whether a character ends a line; the separators of lines and paragraphs do so in code only. -/
def isLineEnd (c : Char) : Bool :=
  c == '\n' || c == '\r'

/-- Whether a character opens a literal. -/
def isQuote (c : Char) : Bool :=
  c == '\'' || c == '"' || c == '\x60'

/-- The next character of code. -/
def code (s : Scan) (c : Char) : Scan :=
  if isQuote c then { s with mode := .literal c (isNaming s.recent) }
  else if c == '/' then { s with mode := .slash }
  else if Text.isBlank c || c == '\ufeff' || c == '(' then { s with mode := .code }
  else { s with mode := .code, recent := c :: s.recent }

/-- The end of a literal. -/
def close (s : Scan) (named : Bool) : Scan :=
  ⟨.code, [], [], if named then s.specifiers ++ [String.ofList s.literal.reverse] else s.specifiers⟩

/-- The next character of a script. -/
def step (s : Scan) (c : Char) : Scan :=
  match s.mode with
  | .code => s.code c
  | .slash =>
    if c == '/' then { s with mode := .lineComment }
    else if c == '*' then { s with mode := .comment }
    else code { s with recent := '/' :: s.recent } c
  | .lineComment =>
    if isLineEnd c || c == '\u2028' || c == '\u2029' then { s with mode := .code } else s
  | .comment => if c == '*' then { s with mode := .star } else s
  | .star =>
    if c == '/' then { s with mode := .code }
    else if c == '*' then s
    else { s with mode := .comment }
  | .literal quote named =>
    -- nothing but a template goes on behind the end of a line
    if c == quote || isLineEnd c && quote != '\x60' then s.close named
    else if c == '\\' then { s with mode := .escape quote named, literal := c :: s.literal }
    else { s with literal := c :: s.literal }
  | .escape quote named => { s with mode := .literal quote named, literal := c :: s.literal }

/-- What comes of more characters. -/
def read (s : Scan) (cs : List Char) : Scan :=
  cs.foldl step s

theorem read_append (s : Scan) (cs ds : List Char) : s.read (cs ++ ds) = (s.read cs).read ds :=
  List.foldl_append

end Scan

/-- The modules that a script names. -/
def specifiers (script : String) : List String :=
  (Scan.start.read script.toList).specifiers

/-! ### Where a text stands -/

/-- Code does not end in a word that may go on. -/
def IsCalm (recent : List Char) : Prop :=
  ∀ c ∈ recent.head?, c.isAlpha = false

instance (recent : List Char) : Decidable (IsCalm recent) :=
  decidable_of_iff (recent.head?.all (!·.isAlpha) = true) (by simp [IsCalm, Option.all_eq_true])

namespace Scan

/-- Code can go on with whatever comes: no word, comment or literal is open. -/
structure IsIdle (s : Scan) : Prop where
  mode : s.mode = .code
  calm : IsCalm s.recent
  literal : s.literal = []

instance (s : Scan) : Decidable s.IsIdle :=
  decidable_of_iff (s.mode = .code ∧ IsCalm s.recent ∧ s.literal = [])
    ⟨fun ⟨h₁, h₂, h₃⟩ => ⟨h₁, h₂, h₃⟩, fun ⟨h₁, h₂, h₃⟩ => ⟨h₁, h₂, h₃⟩⟩

theorem isIdle_start : IsIdle start :=
  ⟨rfl, nofun, rfl⟩

/-- What is read goes on like a script of its own, behind some specifiers. -/
structure Continues (s own : Scan) (before : List String) : Prop where
  mode : s.mode = own.mode
  literal : s.literal = own.literal
  recent : ∃ older, IsCalm older ∧ s.recent = own.recent ++ older
  specifiers : s.specifiers = before ++ own.specifiers

variable {s own : Scan} {before : List String}

theorem IsIdle.continues (h : s.IsIdle) : s.Continues start s.specifiers where
  mode := h.mode
  literal := h.literal
  recent := ⟨s.recent, h.calm, rfl⟩
  specifiers := (List.append_nil _).symm

/-- No word ends in code that begins with older code, if that ends in something else. -/
theorem isPrefixOf_append {word older : List Char} (hword : word.all Char.isAlpha = true)
    (h : IsCalm older) (recent : List Char) :
    word.isPrefixOf (recent ++ older) = word.isPrefixOf recent := by
  rw [Bool.eq_iff_iff, List.isPrefixOf_iff_prefix, List.isPrefixOf_iff_prefix]
  refine ⟨fun hprefix => ?_, fun hprefix => hprefix.trans (List.prefix_append _ _)⟩
  rcases List.prefix_or_prefix_of_prefix hprefix (List.prefix_append recent older) with h' | ⟨rest, hrest⟩
  · exact h'
  · rcases rest with - | ⟨c, rest⟩
    · rw [← hrest, List.append_nil]
    · -- the word would go on with the end of the older code
      rw [← hrest, List.prefix_append_right_inj] at hprefix
      obtain ⟨more, rfl⟩ := hprefix
      have hletter : c.isAlpha = true := List.all_eq_true.1 hword c (hrest ▸ by simp)
      rw [h c rfl] at hletter
      cases hletter

theorem isNaming_append {older : List Char} (h : IsCalm older) (recent : List Char) :
    isNaming (recent ++ older) = isNaming recent := by
  simp only [isNaming, List.any_cons, List.any_nil]
  rw [isPrefixOf_append (by decide) h, isPrefixOf_append (by decide) h, isPrefixOf_append (by decide) h]

namespace Continues

theorem withMode (h : s.Continues own before) (mode : Mode) :
    { s with mode }.Continues { own with mode } before :=
  ⟨rfl, h.literal, h.recent, h.specifiers⟩

theorem code (h : s.Continues own before) (c : Char) : (s.code c).Continues (own.code c) before := by
  obtain ⟨older, hcalm, hrecent⟩ := h.recent
  have hnaming : isNaming s.recent = isNaming own.recent := by rw [hrecent, isNaming_append hcalm]
  unfold Scan.code
  rw [hnaming]
  split
  · exact h.withMode _
  · split
    · exact h.withMode _
    · split
      · exact h.withMode _
      · exact ⟨rfl, h.literal, ⟨older, hcalm, congrArg (c :: ·) hrecent⟩, h.specifiers⟩

theorem close (h : s.Continues own before) (named : Bool) :
    (s.close named).Continues (own.close named) before := by
  refine ⟨rfl, rfl, ⟨[], nofun, rfl⟩, ?_⟩
  cases named with
  | false => exact h.specifiers
  | true =>
    show s.specifiers ++ _ = before ++ (own.specifiers ++ _)
    rw [h.specifiers, h.literal, List.append_assoc]

theorem withLiteral (h : s.Continues own before) (c : Char) :
    { s with literal := c :: s.literal }.Continues { own with literal := c :: own.literal } before :=
  ⟨h.mode, congrArg (c :: ·) h.literal, h.recent, h.specifiers⟩

theorem step (h : s.Continues own before) (c : Char) : (s.step c).Continues (own.step c) before := by
  unfold Scan.step
  rw [h.mode]
  rcases hmode : own.mode with - | - | - | - | - | ⟨quote, named⟩ | ⟨quote, named⟩
  case code => exact h.code c
  case slash =>
    obtain ⟨older, hcalm, hrecent⟩ := h.recent
    dsimp only
    split
    · exact h.withMode _
    · split
      · exact h.withMode _
      · have hslash : { s with recent := '/' :: s.recent }.Continues
            { own with recent := '/' :: own.recent } before :=
          ⟨h.mode, h.literal, ⟨older, hcalm, congrArg ('/' :: ·) hrecent⟩, h.specifiers⟩
        exact hslash.code c
  case lineComment =>
    dsimp only
    split
    · exact h.withMode _
    · exact h
  case comment =>
    dsimp only
    split
    · exact h.withMode _
    · exact h
  case star =>
    dsimp only
    split
    · exact h.withMode _
    · split
      · exact h
      · exact h.withMode _
  case literal =>
    dsimp only
    split
    · exact h.close named
    · split
      · exact (h.withLiteral c).withMode _
      · exact (h.withLiteral c).withMode _
  case escape => exact (h.withLiteral c).withMode _

theorem read (h : s.Continues own before) (cs : List Char) :
    (s.read cs).Continues (own.read cs) before := by
  induction cs generalizing s own with
  | nil => exact h
  | cons c cs ih => exact ih (h.step c)

theorem isIdle (h : s.Continues own before) (hown : own.IsIdle) : s.IsIdle := by
  obtain ⟨older, hcalm, hrecent⟩ := h.recent
  refine ⟨h.mode.trans hown.mode, fun c hc => ?_, h.literal.trans hown.literal⟩
  rw [hrecent, List.head?_append] at hc
  rcases hhead : own.recent.head? with - | d
  · rw [hhead, Option.none_or] at hc
    exact hcalm c hc
  · rw [hhead, Option.some_or] at hc
    exact hown.calm c (hhead ▸ hc)

end Continues
end Scan

/-! ### What texts give -/

/-- Wherever code can go on, it can go on behind the text, which names the modules. -/
def Gives (text : String) (modules : List String) : Prop :=
  ∀ s : Scan, s.IsIdle → (s.read text.toList).IsIdle ∧
    (s.read text.toList).specifiers = s.specifiers ++ modules

/-- Wherever code can go on, a literal is open behind the text. -/
def Opens (text : String) (quote : Char) (named : Bool) : Prop :=
  ∀ s : Scan, s.IsIdle → (s.read text.toList).mode = .literal quote named ∧
    (s.read text.toList).literal = [] ∧ (s.read text.toList).specifiers = s.specifiers

variable {text more : String} {modules others ws : List String}

namespace Gives

theorem specifiers_eq (h : Gives text modules) : specifiers text = modules :=
  (h _ Scan.isIdle_start).2

/-- What a text gives by itself it gives everywhere. -/
theorem of_start (h : (Scan.start.read text.toList).IsIdle) (hmodules : specifiers text = modules) :
    Gives text modules := fun _ hs =>
  have hcontinues := hs.continues.read text.toList
  ⟨hcontinues.isIdle h, hcontinues.specifiers.trans (congrArg _ hmodules)⟩

theorem empty : Gives "" [] := fun s hs =>
  ⟨hs, (List.append_nil s.specifiers).symm⟩

theorem append (h : Gives text modules) (hmore : Gives more others) :
    Gives (text ++ more) (modules ++ others) := by
  intro s hs
  obtain ⟨hidle, hmodules⟩ := h s hs
  obtain ⟨hmidle, hothers⟩ := hmore _ hidle
  rw [String.toList_append, Scan.read_append]
  exact ⟨hmidle, by rw [hothers, hmodules, List.append_assoc]⟩

/-- Texts that give nothing, between two others. -/
theorem joinWith {sep ending : String} (hsep : ∀ w ∈ ws, Gives (w ++ sep) [])
    (hending : ∀ w ∈ ws, Gives (w ++ ending) []) (hne : ws ≠ []) :
    Gives (Text.joinWith sep ws ++ ending) [] := by
  induction ws with
  | nil => exact absurd rfl hne
  | cons w ws ih =>
    obtain ⟨hw, hws⟩ := List.forall_mem_cons.1 hsep
    obtain ⟨hwend, hwsend⟩ := List.forall_mem_cons.1 hending
    by_cases hnil : ws = []
    · rw [hnil]
      exact hwend
    · rw [Text.joinWith_cons _ _ hnil, String.append_assoc]
      exact hw.append (ih hws hwsend hnil)

end Gives

namespace Scan

/-- What is found stays found. -/
theorem specifiers_isPrefix_step (s : Scan) (c : Char) : s.specifiers <+: (s.step c).specifiers := by
  have hcode (s : Scan) : s.specifiers <+: (s.code c).specifiers := by
    unfold Scan.code
    split_ifs <;> exact List.prefix_refl _
  have hclose (named : Bool) : s.specifiers <+: (s.close named).specifiers := by
    cases named with
    | false => exact List.prefix_refl _
    | true => exact List.prefix_append _ _
  unfold step
  split
  · exact hcode s
  · split_ifs
    · exact List.prefix_refl _
    · exact List.prefix_refl _
    · exact hcode { s with recent := '/' :: s.recent }
  · split <;> exact List.prefix_refl _
  · split <;> exact List.prefix_refl _
  · split_ifs <;> exact List.prefix_refl _
  · split_ifs
    · exact hclose _
    · exact List.prefix_refl _
    · exact List.prefix_refl _
  · exact List.prefix_refl _

theorem specifiers_isPrefix_read (s : Scan) (cs : List Char) :
    s.specifiers <+: (s.read cs).specifiers := by
  induction cs generalizing s with
  | nil => exact List.prefix_refl _
  | cons c cs ih => exact (s.specifiers_isPrefix_step c).trans (ih _)

end Scan

/-- The modules that the start of a script names are named by the script. -/
theorem Gives.mem_specifiers_append {module : String} (h : Gives text modules) (hmodule : module ∈ modules)
    (more : String) : module ∈ specifiers (text ++ more) := by
  rw [specifiers, String.toList_append, Scan.read_append]
  refine (Scan.specifiers_isPrefix_read _ _).subset ?_
  rw [(h _ Scan.isIdle_start).2]
  exact hmodule

/-! ### Code -/

namespace Scan

/-- What is read of a text that opens no literal and no comment. -/
theorem read_plain {cs : List Char} (h : ∀ c ∈ cs, isQuote c = false ∧ c ≠ '/') {s : Scan}
    (hs : s.mode = .code) : (s.read cs).mode = .code ∧ (s.read cs).literal = s.literal ∧
      (s.read cs).specifiers = s.specifiers := by
  induction cs generalizing s with
  | nil => exact ⟨hs, rfl, rfl⟩
  | cons c cs ih =>
    obtain ⟨⟨hquote, hslash⟩, hcs⟩ := List.forall_mem_cons.1 h
    have hstep : (s.step c).mode = .code ∧ (s.step c).literal = s.literal ∧
        (s.step c).specifiers = s.specifiers := by
      rw [step, hs]
      dsimp only
      rw [Scan.code, hquote, if_neg Bool.false_ne_true, if_neg (by simpa using hslash)]
      split <;> exact ⟨rfl, rfl, rfl⟩
    obtain ⟨hmode, hliteral, hspecifiers⟩ := ih hcs hstep.1
    exact ⟨hmode, hliteral.trans hstep.2.1, hspecifiers.trans hstep.2.2⟩

end Scan

/-- A text opens no literal and no comment. -/
def IsPlain (text : String) : Prop :=
  ∀ c ∈ text.toList, Scan.isQuote c = false ∧ c ≠ '/'

instance (text : String) : Decidable (IsPlain text) :=
  decidable_of_iff (text.toList.all (fun c => !Scan.isQuote c && c != '/') = true) (by simp [IsPlain])

/-- A character is no part of a word, and nothing that can be left out. -/
def isStop (c : Char) : Bool :=
  !(c.isAlpha || Text.isBlank c || c == '\ufeff' || c == '(')

/-- A text ends in a stop. -/
def EndsInStop (text : String) : Prop :=
  text.toList.getLast?.any isStop = true

instance (text : String) : Decidable (EndsInStop text) :=
  inferInstanceAs (Decidable (text.toList.getLast?.any isStop = true))

theorem IsPlain.append (h : IsPlain text) (hmore : IsPlain more) : IsPlain (text ++ more) := by
  intro c hc
  rw [String.toList_append] at hc
  exact (List.mem_append.1 hc).elim (h c) (hmore c)

theorem EndsInStop.append (text : String) (h : EndsInStop more) : EndsInStop (text ++ more) := by
  rw [EndsInStop, String.toList_append, List.getLast?_append]
  rcases hlast : more.toList.getLast? with - | last
  · rw [EndsInStop, hlast] at h
    cases h
  · rwa [EndsInStop, hlast] at h

/-- Plain code that ends in a stop names no module. -/
theorem Gives.of_isPlain (h : IsPlain text) (hend : EndsInStop text) : Gives text [] := by
  intro s hs
  obtain ⟨last, hlast, hstop⟩ : ∃ last, text.toList.getLast? = some last ∧ isStop last = true := by
    simpa [EndsInStop, Option.any_eq_true] using hend
  obtain ⟨hmode, hliteral, hspecifiers⟩ := Scan.read_plain h hs.mode
  refine ⟨⟨hmode, ?_, hliteral.trans hs.literal⟩, by rw [hspecifiers, List.append_nil]⟩
  -- the stop is what the code ends in
  obtain ⟨front, hfront⟩ := List.getLast?_eq_some_iff.1 hlast
  have hfrontmode : (s.read front).mode = .code :=
    (Scan.read_plain (fun c hc => h c (hfront ▸ List.mem_append_left _ hc)) hs.mode).1
  obtain ⟨hquote, hslash⟩ := h last (hfront ▸ by simp)
  simp only [isStop, Bool.not_eq_true', Bool.or_eq_false_iff] at hstop
  rw [hfront, Scan.read_append]
  show IsCalm ((s.read front).step last).recent
  rw [Scan.step, hfrontmode]
  dsimp only
  rw [Scan.code, hquote, if_neg Bool.false_ne_true, if_neg (by simpa using hslash),
    if_neg (by simp [hstop])]
  rintro c ⟨rfl⟩
  exact hstop.1.1.1

/-! ### Literals -/

/-- A text is on one line. -/
def IsOnOneLine (text : String) : Prop :=
  ∀ c ∈ text.toList, Scan.isLineEnd c = false

instance (text : String) : Decidable (IsOnOneLine text) :=
  decidable_of_iff (text.toList.all (!Scan.isLineEnd ·) = true) (by simp [IsOnOneLine])

/-- Whether a character only makes a literal in quotes longer. -/
def Scan.staysInside (quote c : Char) : Bool :=
  c != quote && c != '\\' && !isLineEnd c

/-- Characters belong to a literal in quotes: they do not close it. -/
def IsBody (quote : Char) (cs : List Char) : Prop :=
  ∀ (s : Scan) (named : Bool), s.mode = .literal quote named →
    s.read cs = { s with literal := cs.reverse ++ s.literal }

namespace IsBody

variable {quote : Char} {cs ds : List Char}

theorem nil (quote : Char) : IsBody quote [] := fun _ _ _ => rfl

theorem append (h : IsBody quote cs) (hds : IsBody quote ds) : IsBody quote (cs ++ ds) := by
  intro s named hs
  rw [Scan.read_append, h s named hs]
  have hmore := hds { s with literal := cs.reverse ++ s.literal } named hs
  rwa [← List.append_assoc, ← List.reverse_append] at hmore

theorem singleton {c : Char} (h : Scan.staysInside quote c = true) : IsBody quote [c] := by
  intro s named hs
  obtain ⟨⟨hquote, hbackslash⟩, hline⟩ : (c ≠ quote ∧ c ≠ '\\') ∧ Scan.isLineEnd c = false := by
    simpa [Scan.staysInside] using h
  show s.step c = _
  rw [Scan.step, hs]
  dsimp only
  rw [if_neg (by simp [hquote, hline]), if_neg (by simpa using hbackslash)]
  rfl

/-- Whatever stands behind a backslash is part of the literal. -/
theorem escape (hquote : quote ≠ '\\') (c : Char) : IsBody quote ['\\', c] := by
  intro s named hs
  have hbackslash : s.step '\\'
      = { s with mode := .escape quote named, literal := '\\' :: s.literal } := by
    rw [Scan.step, hs]
    dsimp only
    rw [if_neg (by simp [hquote.symm, Scan.isLineEnd]), if_pos (by decide)]
  show (s.step '\\').step c = _
  rw [hbackslash, hs]
  rfl

theorem flatMap {f : Char → List Char} (h : ∀ c ∈ cs, IsBody quote (f c)) :
    IsBody quote (cs.flatMap f) := by
  induction cs with
  | nil => exact nil quote
  | cons c cs ih =>
    obtain ⟨hc, hcs⟩ := List.forall_mem_cons.1 h
    exact hc.append (ih hcs)

theorem of_all (h : cs.all (Scan.staysInside quote) = true) : IsBody quote cs := by
  have hbody := flatMap fun c hc => singleton (List.all_eq_true.1 h c hc)
  rwa [List.flatMap_singleton'] at hbody

end IsBody

/-- **A literal** names the module that it holds, or none. -/
theorem Opens.gives {quote : Char} {named : Bool} {body close : String} (h : Opens text quote named)
    (hbody : IsBody quote body.toList) (hclose : close.toList = [quote]) :
    Gives (text ++ body ++ close) (if named then [body] else []) := by
  intro s hs
  obtain ⟨hmode, hliteral, hspecifiers⟩ := h s hs
  have hend : s.read (text ++ body ++ close).toList
      = (Scan.close { s.read text.toList with literal := body.toList.reverse } named) := by
    rw [String.toList_append, String.toList_append, Scan.read_append, Scan.read_append,
      hbody _ named hmode, hclose, hliteral, List.append_nil]
    show Scan.step _ quote = _
    rw [Scan.step]
    dsimp only
    rw [hmode]
    dsimp only
    rw [if_pos (by simp)]
  rw [hend]
  refine ⟨⟨rfl, nofun, rfl⟩, ?_⟩
  cases named with
  | false => rw [← hspecifiers]; exact (List.append_nil _).symm
  | true =>
    show (s.read text.toList).specifiers ++ [String.ofList body.toList.reverse.reverse] = _
    rw [hspecifiers, List.reverse_reverse, String.ofList_toList]
    rfl

/-- What a text opens by itself it opens everywhere. -/
theorem Opens.of_start {quote : Char} {named : Bool}
    (hmode : (Scan.start.read text.toList).mode = .literal quote named)
    (hliteral : (Scan.start.read text.toList).literal = []) (hmodules : specifiers text = []) :
    Opens text quote named := fun _ hs =>
  have hcontinues := hs.continues.read text.toList
  ⟨hcontinues.mode.trans hmode, hcontinues.literal.trans hliteral,
    (hcontinues.specifiers.trans (congrArg _ hmodules)).trans (List.append_nil _)⟩

/-- A text stays in its quotes if it has one line. -/
theorem isBody_singleQuoted {s : String} (h : IsOnOneLine s) :
    IsBody '\'' (Text.flatMap singleQuotedChar s).toList := by
  rw [Text.flatMap, String.toList_ofList]
  refine .flatMap fun c hc => ?_
  unfold singleQuotedChar
  split
  · exact .escape (by decide) c
  next hplain =>
    rw [Bool.or_eq_true, not_or, beq_iff_eq, beq_iff_eq] at hplain
    exact .singleton (by simp [Scan.staysInside, hplain.1, hplain.2, h c hc])

theorem isBody_hex (width n : Nat) : IsBody '"' (Text.hex width n) := by
  have hdigit : ∀ d < 16, Scan.staysInside '"' (Text.hexDigit d) = true := by decide
  induction width generalizing n with
  | zero => exact .nil _
  | succ width ih =>
    exact (ih (n / 16)).append (.singleton (hdigit (n % 16) (Nat.mod_lt n (by decide))))

/-- What a character is written as stays in double quotes. -/
theorem isBody_writeChar (c : Char) : IsBody '"' (Json.writeChar .ascii c) := by
  have hpair (d : Char) : IsBody '"' ['\\', d] := .escape (by decide) d
  have hunit (n : Nat) : IsBody '"' (['\\', 'u'] ++ Text.hex 4 n) := (hpair 'u').append (isBody_hex 4 n)
  unfold Json.writeChar
  split_ifs with hquote hbackslash hfeed hreturn htab hform hback hcontrol hwide
  case pos => exact hpair '"'
  case pos => exact hpair '\\'
  case pos => exact hpair 'n'
  case pos => exact hpair 'r'
  case pos => exact hpair 't'
  case pos => exact hpair 'f'
  case pos => exact hpair 'b'
  case pos => exact hunit _
  case pos =>
    show IsBody '"' (if c.toNat < 0x10000 then _ else _)
    split
    · exact hunit _
    · exact (hunit _).append (hunit _)
  case neg =>
    exact .singleton (by simp [Scan.staysInside, Scan.isLineEnd, hquote, hbackslash, hfeed, hreturn])

/-- Whatever the text, it stays in double quotes. -/
theorem gives_doubleQuoted (s : String) : Gives (doubleQuoted s) [] := by
  have hopens : Opens "\"" '"' false := .of_start (by decide) (by decide) (by decide)
  have hbody : IsBody '"' (String.ofList (s.toList.flatMap (Json.writeChar .ascii))).toList := by
    rw [String.toList_ofList]
    exact .flatMap fun c _ => isBody_writeChar c
  have htext : doubleQuoted s
      = "\"" ++ String.ofList (s.toList.flatMap (Json.writeChar .ascii)) ++ "\"" := by
    rw [doubleQuoted, Json.writeText, ← String.toList_inj]
    simp
  rw [htext]
  exact hopens.gives hbody rfl

/-! ### Imports -/

/-- Behind `from` a literal names a module, whatever stands before that. -/
theorem opens_from (h : IsPlain text) : Opens (text ++ " from '") '\'' true := by
  intro s hs
  obtain ⟨hmode, hliteral, hspecifiers⟩ := Scan.read_plain h hs.mode
  rw [String.toList_append, Scan.read_append]
  generalize s.read text.toList = s' at hmode hliteral hspecifiers
  obtain ⟨mode, recent, literal, found⟩ := s'
  obtain rfl : mode = .code := hmode
  exact ⟨rfl, hliteral.trans hs.literal, hspecifiers⟩

/-- A line that imports or re-exports from a module. -/
theorem gives_from {module : String} (h : IsPlain text) (hmodule : IsBody '\'' module.toList) :
    Gives (text ++ " from '" ++ module ++ "';") [module] := by
  have hend : "';" = "'" ++ ";" := rfl
  have hstop : Gives ";" [] := .of_isPlain (by decide) (by decide)
  rw [hend, ← String.append_assoc]
  exact ((opens_from h).gives hmodule rfl).append hstop

/-! ### Comments -/

namespace Scan

variable {s : Scan} {c : Char} {cs : List Char}

theorem step_comment (h : s.mode = .comment) (hc : c ≠ '*') : s.step c = s := by
  rw [step, h]
  exact if_neg (by simpa using hc)

theorem step_star (h : s.mode = .star) (hstar : c ≠ '*') (hslash : c ≠ '/') :
    s.step c = { s with mode := .comment } := by
  rw [step, h]
  dsimp only
  rw [if_neg (by simpa using hslash), if_neg (by simpa using hstar)]

/-- What is read is in a comment that a text does not close. -/
def IsOpenFor (s : Scan) (cs : List Char) : Prop :=
  s.mode = .comment ∧ closings cs = 0 ∨ s.mode = .star ∧ closings ('*' :: cs) = 0

/-- Each character of the text leaves the comment open, and nothing but the mode changes. -/
theorem IsOpenFor.step (h : s.IsOpenFor (c :: cs)) :
    ∃ mode, s.step c = { s with mode } ∧ ({ s with mode } : Scan).IsOpenFor cs := by
  rcases h with ⟨hmode, hopen⟩ | ⟨hmode, hopen⟩
  · by_cases hc : c = '*'
    · -- a star may be the start of the end
      subst hc
      refine ⟨.star, ?_, .inr ⟨rfl, hopen⟩⟩
      rw [Scan.step, hmode]
      rfl
    · refine ⟨.comment, ?_, .inl ⟨rfl, closings_cons_of_ne hc cs ▸ hopen⟩⟩
      rw [step_comment hmode hc, ← hmode]
  · have hc : c ≠ '/' := by
      rintro rfl
      cases hopen
    have hrest : closings (c :: cs) = 0 := by
      rw [closings] at hopen
      · exact hopen
      · exact fun rest _ h => hc (List.cons.inj h).1
    by_cases hc' : c = '*'
    · subst hc'
      have hsame : s.step '*' = s := by
        rw [Scan.step, hmode]
        rfl
      exact ⟨.star, by rw [hsame, ← hmode], .inr ⟨rfl, hrest⟩⟩
    · exact ⟨.comment, step_star hmode hc' hc, .inl ⟨rfl, closings_cons_of_ne hc' cs ▸ hrest⟩⟩

/-- A comment goes on where nothing closes it. -/
theorem read_comment (h : s.IsOpenFor cs) (hstar : c ≠ '*') (hslash : c ≠ '/') :
    s.read (cs ++ [c]) = { s with mode := .comment } := by
  induction cs generalizing s with
  | nil =>
    show s.step c = _
    rcases h with ⟨hmode, -⟩ | ⟨hmode, -⟩
    · rw [step_comment hmode hstar, ← hmode]
    · exact step_star hmode hstar hslash
  | cons d cs ih =>
    obtain ⟨mode, hstep, hopen⟩ := h.step
    show (s.step d).read (cs ++ [c]) = _
    rw [hstep]
    exact ih hopen

end Scan

/-- **A comment** names no module if it is closed where it is meant to be. -/
theorem gives_comment {lines : List String} (h : IsComment (unlines (comment lines))) :
    Gives (unlines (comment lines)) [] := by
  have hopen : closings (inside lines).toList = 0 := by
    rw [closings_inside, sum_closings_eq_zero_iff]
    exact isComment_unlines_iff.1 h
  intro s hs
  have hbegin : s.read "/*".toList = { s with mode := .comment } := by
    have hslash : s.step '/' = { s with mode := .slash } := by
      rw [Scan.step, hs.mode]
      rfl
    show (s.step '/').step '*' = _
    rw [hslash]
    rfl
  have hinside : (s.read "/*".toList).read ((inside lines).toList ++ ['\n'])
      = { s with mode := .comment } := by
    rw [hbegin]
    exact Scan.read_comment (.inl ⟨rfl, hopen⟩) (by decide) (by decide)
  have hread : s.read (unlines (comment lines)).toList = s := by
    have hlist : (unlines (comment lines)).toList
        = "/*".toList ++ ((inside lines).toList ++ ['\n']) ++ " */".toList := by
      simp [unlines_comment]
    rw [hlist, Scan.read_append, Scan.read_append, hinside]
    show { s with mode := .code } = s
    rw [← hs.mode]
  rw [hread]
  exact ⟨hs, (List.append_nil _).symm⟩

/-! ### Lines -/

theorem gives_lineFeed : Gives "\n" [] :=
  .of_start (by decide) (by decide)

theorem gives_blank : Gives " " [] :=
  .of_start (by decide) (by decide)

/-- Lines that name no module, one below the other. -/
theorem gives_unlines {lines : List String} (h : ∀ line ∈ lines, Gives line []) :
    Gives (unlines lines) [] := by
  induction lines with
  | nil => exact .empty
  | cons line lines ih =>
    obtain ⟨hline, hlines⟩ := List.forall_mem_cons.1 h
    by_cases hnil : lines = []
    · rw [hnil]
      exact hline
    · rw [unlines, Text.joinWith_cons _ _ hnil]
      exact (hline.append gives_lineFeed).append (ih hlines)

/-- Lines with a line feed behind each, one below the other. -/
theorem gives_join {lines : List String}
    (h : ∀ line ∈ lines, Gives (line ++ "\n") (specifiers line)) :
    Gives (String.join (lines.map (· ++ "\n"))) (lines.flatMap specifiers) := by
  induction lines with
  | nil => exact .empty
  | cons line lines ih =>
    obtain ⟨hline, hlines⟩ := List.forall_mem_cons.1 h
    rw [List.map_cons, String.join_cons, List.flatMap_cons]
    exact hline.append (ih hlines)

/-- A line that names modules by itself names them above others. -/
theorem Gives.withLineFeed (h : Gives text modules) : Gives (text ++ "\n") (specifiers text) := by
  have hgives := h.append gives_lineFeed
  rwa [List.append_nil, ← h.specifiers_eq] at hgives

end RouteHelpers.Script
