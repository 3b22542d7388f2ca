/-
The walk over a YAML text that gives its tokens. The state of the walk holds the columns of the open
blocks, how deep it is inside brackets, and for each depth the token that may begin a key.
-/

import Concord.Value.Yaml.Token

namespace Concord.Yaml

/-! ### State -/

/-- A token that begins a key if a colon follows on its line. -/
structure PossibleKey where
  /-- How many tokens stand before it. -/
  position : Nat
  /-- Nothing but a key may stand there. -/
  isRequired : Bool
  line : Nat
  column : Nat
  index : Nat
  deriving DecidableEq, Repr

structure Walk where
  cursor : Cursor
  tokens : List Token := []
  /-- The column of the innermost block; -1 outside of all. -/
  indent : Int := -1
  /-- The columns of the blocks around it. -/
  outer : List Int := []
  /-- How many brackets are open. -/
  depth : Nat := 0
  /-- A key may begin here. -/
  allowsKey : Bool := true
  /-- The possible keys by depth. -/
  possible : List (Nat × PossibleKey) := []

namespace Walk

/-- How far a key may be from its colon. -/
def greatestKeyLength : Nat := 1024

/-- The column of the cursor. -/
def column (walk : Walk) : Int :=
  walk.cursor.column

/-- One more token. -/
def push (walk : Walk) (token : Token) : Walk :=
  { walk with tokens := walk.tokens ++ [token] }

/-- A token put before the token at a position. -/
def insert (walk : Walk) (position : Nat) (token : Token) : Walk :=
  { walk with tokens := walk.tokens.take position ++ token :: walk.tokens.drop position }

/-! ### Possible keys -/

/-- The possible key cannot get its colon any more. -/
def isStale (walk : Walk) (key : PossibleKey) : Bool :=
  key.line != walk.cursor.line || decide (greatestKeyLength < walk.cursor.index - key.index)

/-- The walk without the possible keys that are stale. None of those may be required. -/
def withoutStale? (walk : Walk) : Option Walk :=
  if walk.possible.any fun (_, key) => walk.isStale key && key.isRequired then none
  else some { walk with possible := walk.possible.filter fun (_, key) => !walk.isStale key }

/-- The walk without the possible key of its depth, which may not be required. -/
def withoutKey? (walk : Walk) : Option Walk :=
  if (walk.possible.lookup walk.depth).any (·.isRequired) then none
  else some { walk with possible := walk.possible.filter (·.1 != walk.depth) }

/-- The next token is remembered as a possible key if a key may begin here. -/
def withPossibleKey? (walk : Walk) : Option Walk :=
  if walk.allowsKey then do
    let cleared ← walk.withoutKey?
    let key : PossibleKey := {
      position := walk.tokens.length
      isRequired := walk.depth == 0 && walk.indent == walk.column
      line := walk.cursor.line
      column := walk.cursor.column
      index := walk.cursor.index }
    return { cleared with possible := (walk.depth, key) :: cleared.possible }
  else some walk

/-! ### Blocks -/

/-- Closes blocks until the innermost is not beyond a column. -/
def closeFrom (column : Int) : (indent : Int) → (outer : List Int) → (closed : Nat) →
    Int × List Int × Nat
  | indent, [], closed => (indent, [], closed)
  | indent, next :: outer, closed =>
    if column < indent then closeFrom column next outer (closed + 1)
    else (indent, next :: outer, closed)

/-- The walk with the blocks closed that lie beyond a column. Inside brackets nothing is closed. -/
def close (walk : Walk) (column : Int) : Walk :=
  if walk.depth ≠ 0 then walk
  else
    let (indent, outer, closed) := closeFrom column walk.indent walk.outer 0
    { walk with indent, outer, tokens := walk.tokens ++ List.replicate closed .blockEnd }

/-- The walk with a block open at a column, and whether the block is new. -/
def «open» (walk : Walk) (column : Int) : Walk × Bool :=
  if walk.indent < column then
    ({ walk with indent := column, outer := walk.indent :: walk.outer }, true)
  else (walk, false)

/-- The walk with a block open at the cursor; a new block is announced by a token. Only where a key may
begin. -/
def openHere? (walk : Walk) (start : Token) : Option Walk :=
  if walk.depth ≠ 0 then some walk
  else if !walk.allowsKey then none
  else
    let (opened, isNew) := walk.open walk.column
    some (if isNew then opened.push start else opened)

/-! ### Gaps -/

/-- The walk at the next token. A new line outside of brackets may begin with a key. -/
def behindGap : (steps : Nat) → Walk → Walk
  | 0, walk => walk
  | steps + 1, walk =>
    let cursor := walk.cursor.skip (· == ' ')
    let cursor := if cursor.peek? = some '#' then cursor.skip (!isBreak ·) else cursor
    match cursor.lineEnd? with
    | some (_, behind) =>
      behindGap steps { walk with cursor := behind, allowsKey := walk.allowsKey || walk.depth == 0 }
    | none => { walk with cursor }

/-! ### One token -/

/-- A token of a fixed width has been passed. -/
def pass (walk : Walk) (token : Token) (width : Nat) : Walk :=
  { walk.push token with cursor := walk.cursor.forward width }

/-- A directive. -/
def directiveStep (walk : Walk) : Option Walk := do
  let cleared ← (walk.close (-1)).withoutKey?
  let (directive, behind) ← directive? walk.cursor
  return { cleared.push (.directive directive) with cursor := behind, allowsKey := false }

/-- The start or the end of a document. -/
def documentStep (walk : Walk) (token : Token) : Option Walk := do
  let cleared ← (walk.close (-1)).withoutKey?
  return { cleared.pass token 3 with allowsKey := false }

/-- An opening bracket. -/
def flowStart (walk : Walk) (token : Token) : Option Walk := do
  let marked ← walk.withPossibleKey?
  return { marked.pass token 1 with depth := walk.depth + 1, allowsKey := true }

/-- A closing bracket. -/
def flowEnd (walk : Walk) (token : Token) : Option Walk := do
  let cleared ← walk.withoutKey?
  if walk.depth = 0 then none
  else return { cleared.pass token 1 with depth := walk.depth - 1, allowsKey := false }

/-- A comma between items in brackets. -/
def commaStep (walk : Walk) : Option Walk := do
  let cleared ← walk.withoutKey?
  return { cleared.pass .comma 1 with allowsKey := true }

/-- A dash before an item of a block. -/
def itemStep (walk : Walk) : Option Walk := do
  let opened ← walk.openHere? .blockListStart
  let cleared ← opened.withoutKey?
  return { cleared.pass .item 1 with allowsKey := true }

/-- A question mark before a key. -/
def keyStep (walk : Walk) : Option Walk := do
  let opened ← walk.openHere? .blockMappingStart
  let cleared ← opened.withoutKey?
  return { cleared.pass .key 1 with allowsKey := walk.depth == 0 }

/-- A colon behind a possible key. -/
def valueOf (walk : Walk) (key : PossibleKey) : Walk :=
  let cleared := { walk with possible := walk.possible.filter (·.1 != walk.depth) }
  let keyed := cleared.insert key.position .key
  let opened :=
    if walk.depth ≠ 0 then keyed
    else
      let (opened, isNew) := keyed.open key.column
      if isNew then opened.insert key.position .blockMappingStart else opened
  { opened.pass .value 1 with allowsKey := false }

/-- A colon before a value. -/
def valueStep (walk : Walk) : Option Walk :=
  match walk.possible.lookup walk.depth with
  | some key => some (walk.valueOf key)
  | none => do
    let opened ← walk.openHere? .blockMappingStart
    let cleared ← opened.withoutKey?
    return { cleared.pass .value 1 with allowsKey := walk.depth == 0 }

/-- A token that may begin a key. -/
def keyedStep (walk : Walk) (read : Cursor → Except Refusal (Token × Cursor × Bool)) :
    Except Refusal Walk := do
  let marked ← ofFormat walk.withPossibleKey?
  let (token, behind, allowsKey) ← read walk.cursor
  return { marked.push token with cursor := behind, allowsKey }

/-- A scalar as a token. -/
def scalarToken (isPlain : Bool) (lexeme : Lexeme) : Token × Cursor × Bool :=
  (.scalar (String.ofList lexeme.text) isPlain, lexeme.cursor, lexeme.allowsKey)

/-- A block scalar. -/
def blockScalarStep (walk : Walk) (isFolded : Bool) : Option Walk := do
  let cleared ← walk.withoutKey?
  let lexeme ← blockScalar isFolded walk.indent walk.cursor
  let (token, behind, allowsKey) := scalarToken false lexeme
  return { cleared.push token with cursor := behind, allowsKey }

/-- A plain scalar begins with the character. -/
def beginsPlain (walk : Walk) (c : Char) : Bool :=
  if "-?:,[]#&*!|>'\"%@\x60\x7b\x7d".toList.contains c || isWhite c || isBreak c then
    !opensWithGap walk.cursor.next.rest &&
      (c == '-' || (walk.depth == 0 && (c == '?' || c == ':')))
  else true

/-- The indicator at the cursor stands alone, or in brackets, where it need not. -/
def isIndicator (walk : Walk) (evenInFlow : Bool) : Bool :=
  (evenInFlow && walk.depth != 0) || opensWithGap walk.cursor.next.rest

/-- The walk behind the token that begins with a character. -/
def step (walk : Walk) (c : Char) : Except Refusal Walk :=
  let atMark := fun (mark : Char) => walk.cursor.column == 0 && walk.cursor.isAtMark mark
  if c = '%' ∧ walk.cursor.column = 0 then ofFormat walk.directiveStep
  else if atMark '-' then ofFormat (walk.documentStep .documentStart)
  else if atMark '.' then ofFormat (walk.documentStep .documentEnd)
  else if c = '[' then ofFormat (walk.flowStart .flowListStart)
  else if c = '\x7b' then ofFormat (walk.flowStart .flowMappingStart)
  else if c = ']' then ofFormat (walk.flowEnd .flowListEnd)
  else if c = '\x7d' then ofFormat (walk.flowEnd .flowMappingEnd)
  else if c = ',' then ofFormat walk.commaStep
  else if c = '-' ∧ walk.isIndicator false then ofFormat walk.itemStep
  else if c = '?' ∧ walk.isIndicator true then ofFormat walk.keyStep
  else if c = ':' ∧ walk.isIndicator true then ofFormat walk.valueStep
  else if c = '*' then walk.keyedStep fun cursor =>
    (ofFormat (anchorName? cursor)).map fun (name, behind) => (.reference name, behind, false)
  else if c = '&' then walk.keyedStep fun cursor =>
    (ofFormat (anchorName? cursor)).map fun (name, behind) => (.anchor name, behind, false)
  else if c = '!' then walk.keyedStep fun cursor =>
    (ofFormat (writtenTag? cursor)).map fun (tag, behind) => (.tag tag, behind, false)
  else if c = '|' ∧ walk.depth = 0 then ofFormat (walk.blockScalarStep false)
  else if c = '>' ∧ walk.depth = 0 then ofFormat (walk.blockScalarStep true)
  else if c = '\x27' ∨ c = '\x22' then walk.keyedStep fun cursor =>
    (quotedScalar c cursor).map (scalarToken false)
  else if walk.beginsPlain c then walk.keyedStep fun cursor =>
    .ok (scalarToken true (plainScalar (walk.indent + 1) (walk.depth != 0) cursor))
  else .error .malformed

/-! ### All tokens -/

/-- The walk at the next token, with everything settled that the gap before it decides. -/
def atNext? (walk : Walk) : Option Walk := do
  let settled ← (behindGap (walk.cursor.rest.length + 1) walk).withoutStale?
  return settled.close settled.column

/-- The walk to the end of the text. Every step takes a character. -/
def toEnd : (steps : Nat) → Walk → Except Refusal Walk
  | 0, _ => .error .malformed
  | steps + 1, walk => do
    let here ← ofFormat walk.atNext?
    match here.cursor.peek? with
    | none => ofFormat (here.close (-1)).withoutKey?
    | some c =>
      let behind ← here.step c
      toEnd steps behind

end Walk

/-- The tokens of a text. It is not of the format if something stands where no token can, or a character
that may not stand in a text at all. -/
def tokensOf (text : String) : Except Refusal (List Token) :=
  let characters := text.toList
  if !characters.all isAllowed then .error .malformed
  else
    let start : Walk := { cursor := Cursor.ofText characters }
    (start.toEnd (characters.length + 1)).map (·.tokens)

end Concord.Yaml
