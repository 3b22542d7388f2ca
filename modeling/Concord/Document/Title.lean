/-
Titles and routes, which are read from the lines of prose. The first heading of the first level gives
the title, without the words `Contract` and `Domain` at its end; a document that has none is called
by the stem of its path. A heading of the third level that names a request method and a path is a
route.
-/

import Concord.Path
import Concord.Text.Blank

namespace Concord.Document

open Text

/-! ### Titles -/

/-- The text of a heading of the first level. -/
def heading? : List Char → Option (List Char)
  | '#' :: rest =>
    let blanks := rest.takeWhile isBlank
    let heading := stripEnd (stripStart rest)
    if blanks.isEmpty ∨ (heading.isEmpty ∧ blanks.length < 2) then none else some heading
  | _ => none

/-- The text without a word at its end and the blanks before that word. -/
def withoutLastWord (word text : List Char) : List Char :=
  match upTo? text word with
  | some before => if (before.getLast?.map isBlank).getD false then stripEnd before else text
  | none => text

/-- The title that a heading gives. -/
def titleOfHeading (heading : List Char) : String :=
  String.ofList <| strip <|
    withoutLastWord "Domain".toList (withoutLastWord "Contract".toList heading)

/-- The text without the mark `-contract` at its end, in whatever letter case. A line feed may follow
the mark and stays. -/
def withoutContractMark (stem : List Char) : List Char :=
  let mark := "-contract".toList
  let dropMark := fun text =>
    if endsWith (text.map Char.toLower) mark then some (text.take (text.length - mark.length))
    else none
  match dropMark stem with
  | some text => text
  | none =>
    match upTo? stem ['\n'] with
    | some line => ((dropMark line).map (· ++ ['\n'])).getD stem
    | none => stem

/-- The title of a document without a heading. -/
def titleOfPath (identifier : String) : String :=
  String.ofList (replaced '-' ' ' (withoutContractMark (Path.ofText identifier).stem.toList))

/-- The title of a prose document. -/
def titleOf (prose : List (Nat × String)) (identifier : String) : String :=
  match prose.findSome? fun (_, line) => heading? line.toList with
  | some heading => titleOfHeading heading
  | none => titleOfPath identifier

/-! ### Routes -/

/-- The request methods that a route may name. -/
def requestMethods : List String :=
  ["GET", "POST", "PUT", "PATCH", "DELETE"]

/-- The text behind the blanks that must open it. -/
def behindBlanks? : List Char → Option (List Char)
  | c :: rest => if isBlank c then some (stripStart rest) else none
  | [] => none

/-- The request method and the path that a line names. -/
def routeOfLine? (line : List Char) : Option (String × String) := do
  let text ← (after? "###".toList line).bind behindBlanks?
  requestMethods.findSome? fun method => do
    let rest ← (after? method.toList text).bind behindBlanks?
    match rest.takeWhile fun c => !isBlank c with
    | [] => none
    | path => return (method, String.ofList path)

end Concord.Document
