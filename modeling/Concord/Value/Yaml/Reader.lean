/-
Values from YAML text. The text is cut into tokens, these make the nodes of one document, and every node
stands for a value: by its tag if it has one, otherwise by its form. Keys are scalars; a repeated key keeps
its first place and its last value. A mapping may take over the entries of others, which come before its
own.
-/

import Concord.Value.Yaml.Resolution

namespace Concord.Yaml

/-! ### Tags -/

/-- The full name of a tag of the format itself. -/
def tagName (short : String) : String :=
  "tag:yaml.org,2002:" ++ short

/-- The form that a tag tells. -/
def Form.ofTag? (name : String) : Option Form :=
  (Form.shortNames.find? fun (short, _) => tagName short == name).map (·.2)

/-- The form of a scalar node. A tag that tells none stands for nothing. -/
def formOf? (tag : Tag) (isOpen : Bool) (text : String) : Option Form :=
  match tag with
  | .named name => Form.ofTag? name
  | .unsaid => some (if isOpen then .of text else .text)

/-- The scalar of a scalar node. -/
def scalarOf (tag : Tag) (isOpen : Bool) (text : String) : Except Refusal Scalar := do
  let form ← ofFormat (formOf? tag isOpen text)
  form.scalar text

/-- The tag is not written or it is the given one. -/
def Tag.admits (tag : Tag) (short : String) : Bool :=
  tag == .unsaid || tag == .named (tagName short)

/-- The node is the key under which other entries are taken over. -/
def Node.isMerge : Node → Bool
  | .scalar tag isOpen text => formOf? tag isOpen text == some .merge
  | _ => false

/-- The key of a node. The one that stands for a whole mapping is a text like others. -/
def keyOf (node : Node) : Except Refusal Scalar :=
  match node with
  | .scalar tag isOpen text =>
    if formOf? tag isOpen text = some .whole then .ok (.text text) else scalarOf tag isOpen text
  | _ => .error .malformed

/-! ### Values -/

mutual

/-- The value of a node. -/
def valueOf : Node → Except Refusal Value
  | .scalar tag isOpen text => (scalarOf tag isOpen text).map .scalar
  | .list tag items =>
    if tag.admits "seq" then (valuesOf items).map .list else .error .malformed
  | .mapping tag entries =>
    if tag.admits "map" then
      (entriesOf entries).map fun (taken, own) => .mapping (Value.ofEntries (taken ++ own))
    else .error .malformed

/-- The values of nodes. -/
def valuesOf : List Node → Except Refusal (List Value)
  | [] => .ok []
  | node :: nodes => do
    let value ← valueOf node
    let values ← valuesOf nodes
    return value :: values

/-- The entries that a mapping takes over, and its own. -/
def entriesOf : List (Node × Node) → Except Refusal (List (Scalar × Value) × List (Scalar × Value))
  | [] => .ok ([], [])
  | (key, value) :: entries => do
    if key.isMerge then
      let found ← takenFrom value
      let (taken, own) ← entriesOf entries
      return (found ++ taken, own)
    else
      let name ← keyOf key
      let content ← valueOf value
      let (taken, own) ← entriesOf entries
      return (taken, (name, content) :: own)

/-- The entries that are taken over from a mapping, or from a list of mappings, the last of them first. -/
def takenFrom : Node → Except Refusal (List (Scalar × Value))
  | .mapping _ entries => (entriesOf entries).map fun (taken, own) => taken ++ own
  | .list _ nodes => takenFromAll nodes
  | .scalar _ _ _ => .error .malformed

/-- The entries that are taken over from mappings, the last of them first. -/
def takenFromAll : List Node → Except Refusal (List (Scalar × Value))
  | [] => .ok []
  | .mapping _ entries :: nodes => do
    let (taken, own) ← entriesOf entries
    let others ← takenFromAll nodes
    return others ++ (taken ++ own)
  | _ :: _ => .error .malformed

end

/-! ### Reading -/

/-- The value of a text; null when it holds no document. -/
def read (text : String) : Except Refusal Value := do
  let tokens ← tokensOf text
  match ← ofFormat (onlyDocument? tokens) with
  | none => return .null
  | some node => valueOf node

/-- The refusal of bytes that are those of no text. A character that the end of the file cuts off is placed
among the bytes that are still waiting, of which it is the first. -/
def refuseBroken (content : List UInt8) : Refusal :=
  match Utf8.decode content with
  | .error refusal =>
    .undecodable (if refusal.reason = .unexpectedEnd then { refusal with position := 0 } else refusal)
  | .ok _ => .malformed

/-- The reader of this library. A file that is no text is refused for that, whatever stands before the
fault. -/
def reading : Reading where
  ofText := read
  ofBroken := refuseBroken

end Concord.Yaml
