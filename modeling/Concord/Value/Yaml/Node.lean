/-
The nodes of a YAML document: scalars, lists and mappings, each with the tag that is written before it, if
any. They are put together from tokens. A reference stands for the node that its anchor names, which must
have been read before.
-/

import Concord.Value.Yaml.Lexer

namespace Concord.Yaml

/-! ### Nodes -/

/-- The tag of a node. -/
inductive Tag where
  /-- None is written, or one that says nothing. -/
  | unsaid
  | named (name : String)
  deriving DecidableEq, Repr

inductive Node where
  /-- A scalar; one that is not open is a text unless its tag says otherwise. -/
  | scalar (tag : Tag) (isOpen : Bool) (text : String)
  | list (tag : Tag) (items : List Node)
  | mapping (tag : Tag) (entries : List (Node × Node))
  deriving Repr

instance : Inhabited Node := ⟨.scalar .unsaid true ""⟩

/-- The node that stands where nothing is written. -/
def Node.empty : Node := .scalar .unsaid true ""

/-! ### Tags -/

/-- What handles stand for. -/
abbrev Handles := List (String × String)

/-- What the handles stand for that every document has. -/
def commonHandles : Handles :=
  [("!", "!"), ("!!", "tag:yaml.org,2002:")]

/-- The tag that a written tag stands for. None if its handle stands for nothing. -/
def WrittenTag.name? (tag : WrittenTag) (handles : Handles) : Option String :=
  match tag.handle with
  | none => some tag.suffix
  | some handle => (handles.lookup handle).map (· ++ tag.suffix)

/-! ### Reading -/

/-- What is known while a document is read: the tokens to come, and the nodes that have anchors. -/
structure Progress where
  tokens : List Token
  anchors : List (String × Node) := []

namespace Progress

/-- The next token. -/
def peek? (progress : Progress) : Option Token :=
  progress.tokens.head?

/-- The next token is one of several. -/
def isAt (progress : Progress) (tokens : List Token) : Bool :=
  progress.peek?.any tokens.contains

/-- Behind the next token. -/
def next (progress : Progress) : Progress :=
  { progress with tokens := progress.tokens.tail }

/-- Behind the next token, if it is the one. -/
def past? (progress : Progress) (token : Token) : Option Progress :=
  if progress.isAt [token] then some progress.next else none

/-- A node gets an anchor, which no other node may have. -/
def name? (progress : Progress) (anchor : Option String) (node : Node) : Option Progress :=
  match anchor with
  | some anchor =>
    if (progress.anchors.lookup anchor).isSome then none
    else some { progress with anchors := (anchor, node) :: progress.anchors }
  | none => some progress

end Progress

/-- What is written before a node. -/
structure Properties where
  anchor : Option String := none
  tag : Option WrittenTag := none

/-- An anchor and a tag, in either order, each of which may be left out. -/
def properties (progress : Progress) : Properties × Progress :=
  match progress.tokens with
  | .anchor name :: .tag tag :: rest => (⟨some name, some tag⟩, { progress with tokens := rest })
  | .tag tag :: .anchor name :: rest => (⟨some name, some tag⟩, { progress with tokens := rest })
  | .anchor name :: rest => (⟨some name, none⟩, { progress with tokens := rest })
  | .tag tag :: rest => (⟨none, some tag⟩, { progress with tokens := rest })
  | _ => ({}, progress)

/-- Where a node stands, which decides what may be one. -/
inductive Place where
  | flow
  | block
  /-- Behind a key or a colon of a block, where a list need not be indented. -/
  | entry
  deriving DecidableEq, Repr

/-- The tag of properties. None if it has an unknown handle. -/
def Properties.tag? (found : Properties) (handles : Handles) : Option Tag :=
  match found.tag with
  | none => some .unsaid
  | some tag => do
    let name ← tag.name? handles
    return if name = "!" then .unsaid else .named name

/-- A scalar is open: it is plain and has no tag, or its tag says nothing. -/
def Properties.leavesOpen (found : Properties) (isPlain : Bool) (tag : Tag) : Bool :=
  if found.tag.isNone then isPlain else tag == .unsaid

/-- The empty node, which needs an anchor or a tag. -/
def emptyAfter (found : Properties) (tag : Tag) (progress : Progress) : Option (Node × Progress) :=
  if found.anchor.isSome || found.tag.isSome then
    some (.scalar tag (tag == .unsaid) "", progress)
  else none

mutual

/-- A node at a place. -/
def readNode (handles : Handles) : (fuel : Nat) → Place → Progress → Option (Node × Progress)
  | 0, _, _ => none
  | fuel + 1, place, progress =>
    match progress.tokens with
    | .reference name :: rest => do
      let node ← progress.anchors.lookup name
      return (node, { progress with tokens := rest })
    | _ => do
      let (found, behind) := properties progress
      let tag ← found.tag? handles
      let (node, last) ← readContent handles fuel place found tag behind
      let named ← last.name? found.anchor node
      return (node, named)

/-- The node behind its properties. -/
def readContent (handles : Handles) : (fuel : Nat) → Place → Properties → Tag → Progress →
    Option (Node × Progress)
  | 0, _, _, _, _ => none
  | fuel + 1, place, found, tag, progress =>
    match progress.peek? with
    | some (.scalar text isPlain) =>
      some (.scalar tag (found.leavesOpen isPlain tag) text, progress.next)
    | some .flowListStart => do
      let (items, last) ← readFlowItems handles fuel true progress.next
      return (.list tag items, last)
    | some .flowMappingStart => do
      let (entries, last) ← readFlowEntries handles fuel true progress.next
      return (.mapping tag entries, last)
    | some .item =>
      if place = .entry then do
        let (items, last) ← readItems handles fuel [.item, .key, .value, .blockEnd] progress
        return (.list tag items, last)
      else emptyAfter found tag progress
    | some .blockListStart =>
      if place = .flow then emptyAfter found tag progress
      else do
        let (items, last) ← readItems handles fuel [.item, .blockEnd] progress.next
        let last ← last.past? .blockEnd
        return (.list tag items, last)
    | some .blockMappingStart =>
      if place = .flow then emptyAfter found tag progress
      else do
        let (entries, last) ← readEntries handles fuel progress.next
        return (.mapping tag entries, last)
    | _ => emptyAfter found tag progress

/-- A node, or the empty one before certain tokens. -/
def readNodeOr (handles : Handles) : (fuel : Nat) → Place → List Token → Progress →
    Option (Node × Progress)
  | 0, _, _, _ => none
  | fuel + 1, place, enders, progress =>
    if progress.isAt enders then some (.empty, progress) else readNode handles fuel place progress

/-- The items of a list in a block. -/
def readItems (handles : Handles) : (fuel : Nat) → List Token → Progress →
    Option (List Node × Progress)
  | 0, _, _ => none
  | fuel + 1, enders, progress =>
    if progress.isAt [.item] then do
      let (item, behind) ← readNodeOr handles fuel .block enders progress.next
      let (items, last) ← readItems handles fuel enders behind
      return (item :: items, last)
    else some ([], progress)

/-- The entries of a mapping in a block, and its end. -/
def readEntries (handles : Handles) : (fuel : Nat) → Progress → Option (List (Node × Node) × Progress)
  | 0, _ => none
  | fuel + 1, progress => do
    if progress.isAt [.key] then
      let (key, behind) ← readNodeOr handles fuel .entry [.key, .value, .blockEnd] progress.next
      let (value, next) ←
        if behind.isAt [.value] then
          readNodeOr handles fuel .entry [.key, .value, .blockEnd] behind.next
        else some (.empty, behind)
      let (entries, last) ← readEntries handles fuel next
      return ((key, value) :: entries, last)
    else
      let last ← progress.past? .blockEnd
      return ([], last)

/-- An entry between brackets that begins with a key, or whose key begins here. -/
def readFlowEntry (handles : Handles) : (fuel : Nat) → (closer : Token) → Progress →
    Option ((Node × Node) × Progress)
  | 0, _, _ => none
  | fuel + 1, closer, progress => do
    let (key, behind) ← readNodeOr handles fuel .flow [.value, .comma, closer] progress
    if behind.isAt [.value] then
      let (value, last) ← readNodeOr handles fuel .flow [.comma, closer] behind.next
      return ((key, value), last)
    else return ((key, .empty), behind)

/-- The items of a list in brackets, and its end. An item may be a single entry of a mapping. -/
def readFlowItems (handles : Handles) : (fuel : Nat) → (isFirst : Bool) → Progress →
    Option (List Node × Progress)
  | 0, _, _ => none
  | fuel + 1, isFirst, progress => do
    if progress.isAt [.flowListEnd] then return ([], progress.next)
    else
      let start ← if isFirst then some progress else progress.past? .comma
      if start.isAt [.key] then
        let (entry, behind) ← readFlowEntry handles fuel .flowListEnd start.next
        let (items, last) ← readFlowItems handles fuel false behind
        return (.mapping .unsaid [entry] :: items, last)
      else if start.isAt [.flowListEnd] then return ([], start.next)
      else
        let (item, behind) ← readNode handles fuel .flow start
        let (items, last) ← readFlowItems handles fuel false behind
        return (item :: items, last)

/-- The entries of a mapping in braces, and its end. -/
def readFlowEntries (handles : Handles) : (fuel : Nat) → (isFirst : Bool) → Progress →
    Option (List (Node × Node) × Progress)
  | 0, _, _ => none
  | fuel + 1, isFirst, progress => do
    if progress.isAt [.flowMappingEnd] then return ([], progress.next)
    else
      let start ← if isFirst then some progress else progress.past? .comma
      if start.isAt [.key] then
        let (entry, behind) ← readFlowEntry handles fuel .flowMappingEnd start.next
        let (entries, last) ← readFlowEntries handles fuel false behind
        return (entry :: entries, last)
      else if start.isAt [.flowMappingEnd] then return ([], start.next)
      else
        let (key, behind) ← readNode handles fuel .flow start
        let (entries, last) ← readFlowEntries handles fuel false behind
        return ((key, .empty) :: entries, last)

end

/-! ### Documents -/

/-- The handles that directives bring, and the tokens behind them. A directive may not be repeated, and
the main part of the version has to be one. -/
def readDirectives : (hasVersion : Bool) → Handles → List Token → Option (Handles × List Token)
  | hasVersion, handles, .directive directive :: rest =>
    match directive with
    | .version main =>
      if hasVersion || main != 1 then none else readDirectives true handles rest
    | .handle name meaning =>
      if (handles.lookup name).isSome then none
      else readDirectives hasVersion (handles ++ [(name, meaning)]) rest
    | .other => readDirectives hasVersion handles rest
  | _, handles, tokens => some (handles, tokens)

/-- Enough fuel for a document of some tokens: between two tokens reading goes through few calls. -/
def fuelFor (tokens : List Token) : Nat :=
  4 * tokens.length + 8

/-- The node of a document, and the tokens behind it. -/
def readDocument (handles : Handles) (tokens : List Token) : Option (Node × List Token) :=
  (readNode handles (fuelFor tokens) .block { tokens }).map fun (node, last) => (node, last.tokens)

/-- The node of a document behind its start, which may be empty. -/
def readStarted (handles : Handles) (tokens : List Token) : Option (Node × List Token) :=
  match tokens with
  | [] | .directive _ :: _ | .documentStart :: _ | .documentEnd :: _ => some (.empty, tokens)
  | tokens => readDocument handles tokens

/-- The tokens behind the ends of documents. -/
def behindEnds (tokens : List Token) : List Token :=
  tokens.dropWhile (· == .documentEnd)

/-- The document that begins with directives or with its start. -/
def readExplicit (tokens : List Token) : Option (Node × List Token) := do
  let (handles, rest) ← readDirectives false [] tokens
  match rest with
  | .documentStart :: rest => readStarted (handles ++ commonHandles) rest
  | _ => none

/-- The only document that tokens make; none in the result when they make no document at all. -/
def onlyDocument? (tokens : List Token) : Option (Option Node) := do
  match tokens with
  | [] => return none
  | first :: _ =>
    let isExplicit := match first with
      | .directive _ | .documentStart => true
      | _ => false
    let (node, rest) ← if isExplicit then readExplicit tokens else readDocument commonHandles tokens
    if (behindEnds rest).isEmpty then return some node else none

end Concord.Yaml
