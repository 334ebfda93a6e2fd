import RouteHelpers.RouteFile.Expression

/-!
Statements, and the tree of a whole routes file.
-/

namespace RouteHelpers.RouteFile

/-- An expression that can be a statement, behind the word that may negate it. -/
def listExpression (ctx : Context) : Reader Node := do
  let start ← get
  let first ← expression ctx
  let more ← many do
    let behind ← get
    passToOperator ctx.lines
    if ← accept "," then do
      blanks true
      if ← accept "=" then blanks true else pure ()
      some <$> expression ctx
    else if ← accept "=>" then do
      blanks true
      some <$> argument ctx
    else do set behind; pure none
  chain start (first :: more) more.isEmpty

/-- An expression that can be joined to others by words. -/
def joinable (ctx : Context) : Reader Node :=
  if ctx.commaTaken then expression ctx else listExpression ctx

/-- An expression that can be a statement: lists of operands, joined by words. -/
def condition (ctx : Context) : Reader Node := do
  let start ← get
  let first ← joinable ctx
  let more ← many do
    let behind ← get
    passToOperator ctx.lines
    let word := String.ofList (nameOf (← get).rest)
    if word == "and" || word == "or" || (word == "rescue" && ctx.commaTaken) then do
      advance word.length
      blanks true
      let next ← joinable ctx
      pure (some [next])
    else if word == "in" && !ctx.inTaken then do
      advance word.length
      blanks true
      if ctx.commaTaken then do
        let pattern ← argument { ctx with commaTaken := false }
        pure (some [pattern])
      else some <$> bareArguments ctx
    else do set behind; pure none
  chain start (first :: more.flatten) more.isEmpty

/-- A statement: an expression and the modifiers behind it. -/
def statement : Reader Node := do
  let start ← get
  let first ← condition .statement
  let more ← many do
    let behind ← get
    passToOperator false
    if ← ahead (startsWithOneOf ("rescue" :: modifierWords)) then do
      advance (nameOf (← get).rest).length
      blanks true
      some <$> condition .statement
    else do set behind; pure none
  chain start (first :: more) more.isEmpty

/-- Whether a text starts with the line that ends a file before its end. -/
def startsEndLine (cs : List Char) : Bool :=
  "__END__\n".toList.isPrefixOf cs || "__END__\r".toList.isPrefixOf cs

/-- A statement with the bodies of heredocs that the end of its line brings, and with what was read
from a cursor on before it. -/
def statementFrom (start : Cursor) : Reader (List Node) := do
  let before ← takeAsides start
  let node ← statement
  bodiesAtLineEnd
  let behind ← takeAsides start
  pure ((before ++ node :: behind).filter (!·.isRemark))

/-- Whether a text opens and closes nothing: it holds no bracket and no word of a construct. `fuel` bounds
the characters. -/
def isFlat : Nat → List Char → Bool
  | 0, _ => true
  | _, [] => true
  | fuel + 1, c :: rest =>
    let name := nameOf (c :: rest)
    let word := String.ofList name
    if name.isEmpty then !"()[]\x7b\x7d".toList.contains c && isFlat fuel rest
    else
      !joiningWords.contains word && !modifierWords.contains word && !openingWords.contains word &&
        isFlat fuel (rest.drop (name.length - 1))

/-- Passes the rest of a line. -/
def passLine : Reader Unit :=
  advanceWhile (· != '\n')

/-- Passes the rest of a line, if it opens and closes nothing. -/
def passFlatLine : Reader Unit := do
  let line := (← get).rest.takeWhile (· != '\n')
  if isFlat line.length line then passLine else failure

/-- Statements, as many as there are, and what stands between them. What stands before the first of
them belongs to the construct around them, and what stands behind the line of the last one too. A line
without brackets that cannot be read is passed over. -/
def statements : Reader (List Node) := do
  passEnds
  let start ← get
  let items ← many do
    passEnds
    if !(← ahead endsList) then
      match ← attempt (statementFrom start) with
      | some nodes => pure (some nodes)
      | none => do
        passFlatLine
        pure (some [])
    else pure none
  pure items.flatten

/-- The readers of a file that holds no more than `depth` constructs inside each other. -/
def grammar : Nat → Grammar
  | 0 => ⟨fun _ _ => none, fun _ _ => none, fun _ => none⟩
  | depth + 1 =>
    ⟨fun ctx c => expression ctx (grammar depth) c, fun ctx c => condition ctx (grammar depth) c,
      fun c => statements (grammar depth) c⟩

/-- The statements of a file from a cursor on, and what stands between them. Where a statement cannot
be read, the rest of its line is passed over. -/
def program : Reader (List Node) := do
  let start ← get
  let items ← many do
    passEnds
    if ← ahead fun cs => cs.isEmpty || startsEndLine cs then pure none
    else
      match ← attempt (statementFrom start) with
      | some nodes => pure (some nodes)
      | none => do
        passLine
        pure (some [])
  pure (items.flatten ++ (← takeAsides start))

/-- The statements of a routes file. -/
def parse (source : List Char) : List Node :=
  let text := match source with
    | '\ufeff' :: rest => rest
    | _ => source
  match program (grammar (text.length + 1)) ⟨text, [], false, []⟩ with
  | some (nodes, _) => nodes
  | none => []

end RouteHelpers.RouteFile
