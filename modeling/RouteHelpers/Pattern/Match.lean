import RouteHelpers.Pattern.Term

/-!
Searching a text for a pattern.

A position is the text before it, in reverse, and the text after it. `run` tries the choices of a
term in order and hands every position it reaches to the rest of the pattern, its continuation; the
first that the continuation accepts is the answer. The depth argument only ends runs that could not
end by themselves: a repetition does not go on after a pass that consumed nothing, so `Term.depth`
bounds the passes that matter.
-/

namespace RouteHelpers.Pattern

/-- A position in a text, with the texts that the groups captured so far. -/
structure Position where
  before : List Char
  after : List Char
  captures : List (Nat × List Char)

namespace Position

/-- The text that a group captured last. -/
def capture? (p : Position) (number : Nat) : Option (List Char) :=
  (p.captures.find? fun c => c.1 == number).map (·.2)

/-- The position after the next character. -/
def next? (p : Position) : Option (Char × Position) :=
  match p.after with
  | [] => none
  | c :: rest => some (c, { p with before := c :: p.before, after := rest })

/-- The position `n` characters back. -/
def back? : Nat → Position → Option Position
  | 0, p => some p
  | n + 1, p =>
    match p.before with
    | [] => none
    | c :: rest => back? n { p with before := rest, after := c :: p.after }

/-- The position after a given text, up to a folding. -/
def skip? (f : Folding) : List Char → Position → Option Position
  | [], p => some p
  | c :: rest, p =>
    match p.next? with
    | none => none
    | some (d, q) => if f.apply c == f.apply d then skip? f rest q else none

/-- Whether an anchor holds at a position. -/
def anchored (p : Position) : Anchor → Bool
  | .textStart => p.before.isEmpty
  | .textEnd => p.after.isEmpty
  | .textEndOrNewline => p.after.isEmpty || p.after == ['\n']
  | .lineStart => p.before.head?.all (· == '\n')
  | .lineEnd => p.after.head?.all (· == '\n')
  | .wordBoundary negated asciiOnly =>
    let isWord (c : Option Char) := c.any (Category.word.holds asciiOnly)
    if p.before.isEmpty && p.after.isEmpty then false
    else (isWord p.before.head? != isWord p.after.head?) != negated

end Position

/-- A number of nested steps that no search of a text with the given length exceeds. -/
def Term.depth (length : Nat) : Term → Nat
  | .empty | .one _ | .reference .. | .anchor _ => 1
  | .seq a b | .alt a b | .ifGroup _ a b => a.depth length + b.depth length + 1
  | .repeated low _ _ body => (low + length + 2) * (body.depth length + 2)
  | .group _ body | .ahead _ body | .behind _ _ body | .atomic body => body.depth length + 2

/-- Runs a term at a position and the continuation `k` behind it; `none` if no choice succeeds. -/
def run : Nat → Term → Position → (Position → Option Position) → Option Position
  | 0, _, _, _ => none
  | depth + 1, term, p, k =>
    match term with
    | .empty => k p
    | .one test =>
      match p.next? with
      | none => none
      | some (c, q) => if test.holds c then k q else none
    | .seq a b => run depth a p fun q => run depth b q k
    | .alt a b => (run depth a p k).orElse fun _ => run depth b p k
    | .repeated (low + 1) high .possessive body =>
      (run depth body p some).bind fun q =>
        run depth (.repeated low (high.map (· - 1)) .possessive body) q k
    | .repeated (low + 1) high greed body =>
      run depth body p fun q => run depth (.repeated low (high.map (· - 1)) greed body) q k
    | .repeated 0 (some 0) _ _ => k p
    | .repeated 0 high greed body =>
      -- after a pass that consumed nothing there is no further one
      let goOn (q : Position) : Option Position :=
        if q.after.length == p.after.length then k q
        else run depth (.repeated 0 (high.map (· - 1)) greed body) q k
      match greed with
      | .greedy => (run depth body p goOn).orElse fun _ => k p
      | .lazy => (k p).orElse fun _ => run depth body p goOn
      | .possessive =>
        match run depth body p some with
        | some q => goOn q
        | none => k p
    | .group number body =>
      run depth body p fun q =>
        let taken := p.after.take (p.after.length - q.after.length)
        k { q with captures := (number, taken) :: q.captures }
    | .reference number folding =>
      match p.capture? number with
      | none => none
      | some taken =>
        match p.skip? folding taken with
        | none => none
        | some q => k q
    | .ifGroup number yes no =>
      if (p.capture? number).isSome then run depth yes p k else run depth no p k
    | .ahead negated body =>
      match run depth body p some with
      | some q => if negated then none else k { p with captures := q.captures }
      | none => if negated then k p else none
    | .behind width negated body =>
      match (p.back? width).bind fun q => run depth body q some with
      | some q => if negated then none else k { p with captures := q.captures }
      | none => if negated then k p else none
    | .atomic body =>
      match run depth body p some with
      | some q => k q
      | none => none
    | .anchor a => if p.anchored a then k p else none

/-- Whether a term matches at a position or at one behind it. -/
def searchFrom (term : Term) (depth : Nat) (before : List Char) : List Char → Bool
  | [] => (run depth term ⟨before, [], []⟩ some).isSome
  | c :: rest =>
    (run depth term ⟨before, c :: rest, []⟩ some).isSome ||
      searchFrom term depth (c :: before) rest

/-- Whether a term matches anywhere in a text. -/
def Term.occursIn (term : Term) (s : String) : Bool :=
  searchFrom term (term.depth s.length + 1) [] s.toList

end RouteHelpers.Pattern
