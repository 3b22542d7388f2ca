/-
The program on the command line. Before a run, what its words may name is read from the disk: the files at
paths, and everything below the directories in which patterns are looked for. After it, what has changed is
written back, and then the output is printed.
-/

import Concord.Run
import Std.Time.DateTime.Timestamp

namespace Concord

/-! ### Reading the disk -/

/-- The place of components below the root, as a path. -/
def diskPath (place : List String) : String :=
  "/" ++ "/".intercalate place

/-- The regular file or directory at a place; with everything below if that is wanted. -/
partial def readNode (isDeep : Bool) (place : List String) : IO (Option Node) := do
  let path ← (IO.FS.realPath (diskPath place)).toBaseIO
  match path with
  | .error _ => return none
  | .ok path =>
    if ← path.isDir then
      if !isDeep then return some (.directory [])
      let mut entries := []
      for entry in ← path.readDir do
        if let some node ← readNode isDeep (place ++ [entry.fileName]) then
          entries := (entry.fileName, node) :: entries
      return some (.directory entries.reverse)
    else
      match ← (IO.FS.readBinFile path).toBaseIO with
      | .ok content => return some (.file content.toList)
      | .error _ => return none

/-- The storage with what stands at a place on the disk, and with the directories on the way to it. -/
def readPlace (isDeep : Bool) (storage : Storage) (place : List String) : IO Storage := do
  let mut storage := storage
  for count in List.range (place.length + 1) do
    let reached := place.take count
    let isLast := count == place.length
    let isKnown := (storage.root.at? reached).isSome
    if !isKnown || (isLast && isDeep) then
      if let some node ← readNode (isDeep && isLast) reached then
        storage := storage.put reached node
  return storage

/-- The texts that a word may hold: all of it, and what stands behind an equals sign. -/
def textsIn (word : String) : List String :=
  match Text.cutAt (· == '=') word.toList with
  | (_, some rest) => [word, String.ofList rest]
  | (_, none) => [word]

/-- The storage with what a text may name. -/
def readNamed (storage : Storage) (text : String) : IO Storage := do
  let characters := text.toList
  if characters.contains '\x00' then return storage
  else if NamePattern.hasMagic characters then
    let directory := Storage.literalPart characters.length characters
    readPlace true storage (storage.namedBy (.ofText (String.ofList directory)))
  else readPlace false storage (storage.namedBy (.ofText text))

/-- The working directory. -/
def workingPlace : IO (List String) := do
  return (Path.ofText (← IO.currentDir).toString).components

/-! ### Writing to the disk -/

/-- The bytes of the file at a place. -/
def bytesAt? (storage : Storage) (place : List String) : Option (List UInt8) :=
  match storage.root.at? place with
  | some (.file content) => some content
  | _ => none

/-- The file at a place is written if it is not as it was. -/
def writeChanged (before after : Storage) (place : List String) : IO Unit := do
  if bytesAt? after place != bytesAt? before place then
    if let some content := bytesAt? after place then
      IO.FS.createDirAll (diskPath place.dropLast)
      IO.FS.writeBinFile (diskPath place) (ByteArray.mk content.toArray)

/-! ### The program -/

/-- The time of the clock. -/
def clock : IO Instant := do
  let now := (← Std.Time.Timestamp.now).toNanosecondsSinceUnixEpoch.val.toNat
  return .ofSeconds (now / 1000000000) (now / 1000 % 1000000)

/-- What surrounds this run. -/
def surroundings : IO Run.Surroundings := do
  return {
    runId := ← IO.getEnv "RUN_ID"
    profile := ← IO.getEnv "PROFILE"
    settingsPath := ← IO.getEnv "CONTRACTCTL_CONFIG"
    now := ← clock
    readers := .own Pattern.noNames }

end Concord

open Concord in
/-- Runs the program on the words of its command line. -/
def main (words : List String) : IO UInt32 := do
  let around ← surroundings
  let texts := words.flatMap textsIn ++ around.settingsPath.toList
  let start : Storage := { root := .directory [], current := ← workingPlace }
  let storage ← texts.foldlM readNamed start
  let outcome := Run.ofWords around storage words
  for text in texts do
    writeChanged storage outcome.storage (storage.namedBy (.ofText text))
  outcome.diagnostics.forM IO.eprintln
  IO.print outcome.output
  return outcome.exitCode.toUInt32
