/-
Templates: texts with placeholders. A dollar sign before a name, bare or in braces, stands for the value
of that name, and two dollar signs stand for one. A name is made of ASCII letters, digits and
underscores and does not open with a digit; any other use of the dollar sign is refused.
-/

import Concord.Text.Lines
import Concord.Text.Quoted

namespace Concord.Template

open Text

/-! ### Refusals -/

inductive Refusal where
  /-- The name has no value. -/
  | unknownName (name : String)
  /-- A dollar sign that begins no placeholder, by line and column. -/
  | badPlaceholder (line column : Nat)
  deriving DecidableEq, Repr

/-- The refusal in words. -/
def Refusal.message : Refusal → String
  | .unknownName name => quote name
  | .badPlaceholder line column => s!"Invalid placeholder in string: line {line}, col {column}"

/-- The refusal of the dollar sign that ends `before`, which is everything up to it. -/
def refusalAt (before : List Char) : Refusal :=
  let found := lines before
  .badPlaceholder found.length ((found.getLast?.map List.length).getD 0)

/-! ### Names -/

/-- May open a name. -/
def opensName (c : Char) : Bool :=
  c == '_' || c.isAlpha

/-- May stand in a name. -/
def continuesName (c : Char) : Bool :=
  c == '_' || c.isAlphanum

/-- The name that opens a text, and how many characters it has. -/
def name? : List Char → Option (List Char)
  | [] => none
  | c :: rest => if opensName c then some (c :: rest.takeWhile continuesName) else none

/-- What stands behind a dollar sign. -/
inductive Placeholder where
  | dollar
  | named (name : List Char)
  | braced (name : List Char)
  | bad
  deriving DecidableEq, Repr

/-- How many characters a placeholder takes behind its dollar sign. -/
def Placeholder.width : Placeholder → Nat
  | .dollar => 1
  | .named name => name.length
  | .braced name => name.length + 2
  | .bad => 0

/-- The placeholder whose dollar sign stands before a text. -/
def placeholder (text : List Char) : Placeholder :=
  match text with
  | '$' :: _ => .dollar
  | '\x7b' :: rest =>
    match name? rest with
    | some name =>
      if (rest.drop name.length).head? = some '\x7d' then .braced name else .bad
    | none => .bad
  | text =>
    match name? text with
    | some name => .named name
    | none => .bad

/-! ### Substitution -/

/-- The value of a name. -/
def valueOf (values : List (String × String)) (name : List Char) : Except Refusal (List Char) :=
  match values.lookup (String.ofList name) with
  | some value => .ok value.toList
  | none => .error (.unknownName (String.ofList name))

/-- What a placeholder stands for; `before` is the template up to and with its dollar sign. -/
def Placeholder.value (values : List (String × String)) (before : List Char) :
    Placeholder → Except Refusal (List Char)
  | .dollar => .ok ['$']
  | .named name | .braced name => valueOf values name
  | .bad => .error (refusalAt before)

/-- The rest of a template with values for its placeholders. `before` is what has been read, in reverse,
and the next `skipped` characters belong to a placeholder that has been replaced. -/
def fillFrom (values : List (String × String)) (before : List Char) (skipped : Nat) :
    List Char → Except Refusal (List Char)
  | [] => .ok []
  | c :: rest =>
    match skipped with
    | skipped + 1 => fillFrom values (c :: before) skipped rest
    | 0 =>
      if c = '$' then do
        let found := placeholder rest
        let value ← found.value values (c :: before).reverse
        let others ← fillFrom values (c :: before) found.width rest
        return value ++ others
      else do
        let others ← fillFrom values (c :: before) 0 rest
        return c :: others

/-- A template with values for its placeholders. -/
def fill (values : List (String × String)) (template : String) : Except Refusal String :=
  (fillFrom values [] 0 template.toList).map String.ofList

end Concord.Template
