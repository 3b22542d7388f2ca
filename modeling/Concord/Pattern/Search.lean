/-
Where a pattern leads in a text. From a place a pattern reaches other places, in the order in which it
prefers them; a text holds the pattern if from some place anything is reached. The order matters only to the
parts of a pattern that settle for the first way, and to what groups keep.
-/

import Concord.Pattern

namespace Concord.Pattern

/-! ### How far a search has got -/

/-- A place in the text, and where the groups that are asked for have begun and ended. -/
structure Progress where
  place : Nat
  opened : List (Nat × Nat)
  closed : List (Nat × Nat)
  deriving DecidableEq, Repr

namespace Progress

/-- At a place, with nothing kept. -/
def startingAt (place : Nat) : Progress :=
  ⟨place, [], []⟩

/-- A group begins here. -/
def openGroup (number : Nat) (progress : Progress) : Progress :=
  { progress with
    opened := (number, progress.place) :: progress.opened.filter fun entry => entry.1 != number }

/-- A group ends here. -/
def closeGroup (number : Nat) (progress : Progress) : Progress :=
  { progress with
    closed := (number, progress.place) :: progress.closed.filter fun entry => entry.1 != number }

/-- From where to where the text goes that is kept under a number. -/
def kept? (number : Nat) (progress : Progress) : Option (Nat × Nat) := do
  let first ← progress.opened.lookup number
  let last ← progress.closed.lookup number
  if first ≤ last then some (first, last) else none

end Progress

/-- What is searched: a text, and the groups that are asked for. -/
structure Subject where
  text : Array Char
  asked : List Nat

/-! ### Repetition -/

/-- The ends of a step from each of several, in order. -/
def stepFrom (step : Progress → List Progress) (starts : List Progress) : List Progress :=
  (starts.flatMap step).eraseDups

/-- The ends of a number of steps, in order. -/
def after (step : Progress → List Progress) : (count : Nat) → List Progress → List Progress
  | 0, starts => starts
  | count + 1, starts => if starts.isEmpty then [] else after step count (stepFrom step starts)

/-- What a repetition has found: its ends, in order, and from where it has gone on already with how many
steps to spare. -/
structure Found where
  ends : List Progress
  explored : List (Option Nat × Progress)

namespace Found

/-- One more end, unless it is known. -/
def add (found : Found) (progress : Progress) : Found :=
  if found.ends.contains progress then found
  else { found with ends := found.ends ++ [progress] }

end Found

/-- The ends of any number of steps, as many as there are to spare, that come on top of what is found.
A step that takes nothing is the last. The depth bounds how often the place can move on. -/
def explore (step : Progress → List Progress) (isLazy : Bool) :
    (depth : Nat) → (spare? : Option Nat) → Progress → Found → Found
  | 0, _, progress, found => found.add progress
  | depth + 1, spare?, progress, found =>
    if found.explored.contains (spare?, progress) then found
    else
      let marked := { found with explored := (spare?, progress) :: found.explored }
      let early := if isLazy then marked.add progress else marked
      let further :=
        if spare? = some 0 then early
        else (step progress).foldl (fun found next =>
          if next.place = progress.place then found.add next
          else explore step isLazy depth (spare?.map (· - 1)) next found) early
      if isLazy then further else further.add progress

/-- The end of a number of steps, each taken the first way. -/
def strides (step : Progress → List Progress) : (count : Nat) → Progress → Option Progress
  | 0, progress => some progress
  | count + 1, progress => (step progress).head?.bind (strides step count)

/-- The end of as many steps as there are, each taken the first way. A step that takes nothing is the
last. -/
def march (step : Progress → List Progress) : (count : Nat) → Progress → Progress
  | 0, progress => progress
  | count + 1, progress =>
    match step progress with
    | [] => progress
    | next :: _ => if next.place = progress.place then next else march step count next

/-- The ends of a repetition of a step. More than as many steps as there are characters left are never
needed, and one more for a step that takes none. -/
def repetition (step : Progress → List Progress) (left : Nat) (manner : Manner) (least : Nat)
    (most? : Option Nat) (progress : Progress) : List Progress :=
  let bound := left + 1
  let spare? := most?.map (· - least)
  match manner with
  | .possessive =>
    ((strides step (min least bound) progress).map
      (march step (min (spare?.getD bound) bound))).toList
  | manner =>
    ((after step (min least bound) [progress]).foldl
      (fun found start => explore step (manner == .lazy) bound spare? start found) ⟨[], []⟩).ends

/-! ### Where a pattern leads -/

/-- The characters of a part of the text stand at a place too. -/
def repeatsAt (likeness : Likeness) (text : Array Char) (part : Nat × Nat) (place : Nat) : Bool :=
  let count := part.2 - part.1
  let folded := fun (first : Nat) =>
    (text.extract first (first + count)).toList.map likeness.folded
  place + count ≤ text.size && folded part.1 == folded place

/-- The ends that a pattern reaches, the preferred ones first. -/
def ends (subject : Subject) : Pattern → Progress → List Progress
  | .empty, progress => [progress]
  | .set isNegated likeness items, progress =>
    match subject.text[progress.place]? with
    | none => []
    | some c =>
      if items.any (·.covers likeness c) != isNegated then
        [{ progress with place := progress.place + 1 }]
      else []
  | .anchor condition, progress =>
    if condition.holds subject.text progress.place then [progress] else []
  | .sequence first second, progress => stepFrom (ends subject second) (ends subject first progress)
  | .choice first second, progress =>
    (ends subject first progress ++ ends subject second progress).eraseDups
  | .repeated manner body least most?, progress =>
    repetition (ends subject body) (subject.text.size - progress.place) manner least most? progress
  | .look back isNegated body, progress =>
    let reached :=
      if progress.place < back.least then []
      else ends subject body { progress with place := progress.place - back.least }
    match reached with
    | [] => if isNegated then [progress] else []
    | first :: _ => if isNegated then [] else [{ first with place := progress.place }]
  | .atomic body, progress => (ends subject body progress).take 1
  | .group number body, progress =>
    if subject.asked.contains number then
      (ends subject body (progress.openGroup number)).map (·.closeGroup number)
    else ends subject body progress
  | .reference likeness number, progress =>
    match progress.kept? number with
    | none => []
    | some part =>
      if repeatsAt likeness subject.text part progress.place then
        [{ progress with place := progress.place + (part.2 - part.1) }]
      else []
  | .conditional number kept missing, progress =>
    match progress.kept? number with
    | some _ => ends subject kept progress
    | none => ends subject missing progress

/-- The pattern fits some part of the text. -/
def isFoundIn (pattern : Pattern) (text : List Char) : Bool :=
  let subject : Subject := ⟨text.toArray, pattern.asked⟩
  (List.range (text.length + 1)).any fun place => !(ends subject pattern (.startingAt place)).isEmpty

end Concord.Pattern
