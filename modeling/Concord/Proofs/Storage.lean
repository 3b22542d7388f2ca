/-
Writing a file. A file that is written holds what was written. When writing is refused, which may be
after directories have been made, no file stands at the path, and none stood there before. Both rest on
one fact: what is made on the way leaves every directory a directory and every file as it was.
-/

import Concord.Storage

namespace Concord

/-! ### Entries of a directory -/

namespace Node

theorem lookup_putEntry_self (name : String) (node : Node) (entries : List (String × Node)) :
    (putEntry name node entries).lookup name = some node := by
  induction entries with
  | nil => simp [putEntry]
  | cons entry entries inductionHypothesis =>
    obtain ⟨known, old⟩ := entry
    rw [putEntry]
    split
    · simp
    · next isOther =>
      rw [List.lookup_cons, beq_false_of_ne (Ne.symm isOther)]
      exact inductionHypothesis

theorem lookup_putEntry_other {name other : String} (isOther : other ≠ name) (node : Node)
    (entries : List (String × Node)) :
    (putEntry name node entries).lookup other = entries.lookup other := by
  induction entries with
  | nil => simp [putEntry, List.lookup_cons, beq_false_of_ne isOther]
  | cons entry entries inductionHypothesis =>
    obtain ⟨known, old⟩ := entry
    rw [putEntry]
    split
    · next same =>
      subst same
      simp only [List.lookup_cons, beq_false_of_ne isOther]
    · simp only [List.lookup_cons, inductionHypothesis]

/-- The entry of a name in a tree with a node put somewhere below that name. -/
theorem entry?_put_self (root : Node) (name : String) (names : List String) (node : Node) :
    entry? (root.put (name :: names) node) name =
      some (((root.entry? name).getD (.directory [])).put names node) := by
  cases root with
  | file content => simp [put, entry?]
  | directory entries => simp only [put, entry?, lookup_putEntry_self]

theorem entry?_put_other {name other : String} (isOther : other ≠ name) (entries : List (String × Node))
    (names : List String) (node : Node) :
    entry? ((directory entries).put (name :: names) node) other = entry? (directory entries) other := by
  simp only [put, entry?, lookup_putEntry_other isOther]

/-! ### Places of a tree -/

theorem at?_cons (root : Node) (name : String) (names : List String) :
    root.at? (name :: names) = (root.entry? name).bind (·.at? names) := rfl

theorem at?_put_self (root : Node) (place : List String) (node : Node) :
    (root.put place node).at? place = some node := by
  induction place generalizing root with
  | nil => rfl
  | cons name names inductionHypothesis =>
    rw [at?_cons, entry?_put_self, Option.bind_some, inductionHypothesis]

/-- A directory stands at the place. -/
def HasDirectory (root : Node) (place : List String) : Prop :=
  ∃ entries, root.at? place = some (.directory entries)

theorem HasDirectory.root {root : Node} {name : String} {names : List String} {node : Node}
    (found : root.at? (name :: names) = some node) : ∃ entries, root = .directory entries := by
  cases root with
  | file content => cases found
  | directory entries => exact ⟨entries, rfl⟩

theorem hasDirectory_cons {root child : Node} {name : String} {names : List String}
    (entry : root.entry? name = some child) :
    root.HasDirectory (name :: names) ↔ child.HasDirectory names := by
  simp only [HasDirectory, at?_cons, entry, Option.bind_some]

/-- A node that is put where no directory stands leaves every directory a directory. -/
theorem HasDirectory.put {root : Node} {place other : List String} (node : Node)
    (isFree : ¬ root.HasDirectory place) (standing : root.HasDirectory other) :
    (root.put place node).HasDirectory other := by
  induction place generalizing root other with
  | nil =>
    -- The root itself is no directory, so nothing stands below it.
    obtain ⟨entries, found⟩ := standing
    cases other with
    | nil => exact absurd ⟨entries, found⟩ isFree
    | cons name names =>
      obtain ⟨others, rfl⟩ := HasDirectory.root found
      exact absurd ⟨others, rfl⟩ isFree
  | cons name names inductionHypothesis =>
    cases other with
    | nil =>
      obtain ⟨entries, found⟩ := standing
      obtain rfl := Option.some.inj found
      exact ⟨_, rfl⟩
    | cons otherName otherNames =>
      obtain ⟨entries, rfl⟩ := HasDirectory.root standing.choose_spec
      by_cases same : otherName = name
      · subst same
        obtain ⟨inner, found⟩ := standing
        obtain ⟨child, entry, below⟩ := Option.bind_eq_some_iff.1 found
        rw [hasDirectory_cons (entry?_put_self _ _ _ _), entry, Option.getD_some]
        exact inductionHypothesis (fun taken => isFree ((hasDirectory_cons entry).2 taken))
          ⟨inner, below⟩
      · obtain ⟨inner, found⟩ := standing
        refine ⟨inner, ?_⟩
        rw [at?_cons, entry?_put_other same, ← at?_cons, found]

/-- A node that is put where nothing stands, into a directory, leaves every file as it was. -/
theorem at?_put_of_file {root : Node} {above : List String} {name : String} {node : Node}
    {other : List String} {content : List UInt8} (isFree : root.at? (above ++ [name]) = none)
    (into : root.HasDirectory above) (standing : root.at? other = some (.file content)) :
    (root.put (above ++ [name]) node).at? other = some (.file content) := by
  induction above generalizing root other with
  | nil =>
    obtain ⟨entries, same⟩ := into
    obtain rfl := Option.some.inj same
    cases other with
    | nil => cases standing
    | cons otherName otherNames =>
      have isOther : otherName ≠ name := by
        rintro rfl
        rw [List.nil_append, at?_cons] at isFree
        rw [at?_cons] at standing
        obtain ⟨child, entry, -⟩ := Option.bind_eq_some_iff.1 standing
        rw [entry, Option.bind_some] at isFree
        cases isFree
      rw [at?_cons, List.nil_append, entry?_put_other isOther, ← at?_cons, standing]
  | cons first above inductionHypothesis =>
    obtain ⟨entries, rfl⟩ := HasDirectory.root into.choose_spec
    cases other with
    | nil => cases standing
    | cons otherName otherNames =>
      by_cases same : otherName = first
      · subst same
        obtain ⟨child, entry, below⟩ := Option.bind_eq_some_iff.1 standing
        rw [List.cons_append, at?_cons, entry?_put_self, entry, Option.getD_some, Option.bind_some]
        refine inductionHypothesis ?_ ((hasDirectory_cons entry).1 into) below
        rw [List.cons_append, at?_cons, entry, Option.bind_some] at isFree
        exact isFree
      · rw [List.cons_append, at?_cons, entry?_put_other same, ← at?_cons, standing]

end Node

/-! ### Walks -/

namespace Storage

theorem walk_append (root : Node) (place front rest : List String) :
    walk root place (front ++ rest) =
      (walk root place front).bind fun between => walk root between rest := by
  induction front generalizing place with
  | nil => rfl
  | cons component front inductionHypothesis =>
    rw [List.cons_append, walk, walk]
    split
    · rfl
    · rfl
    · split <;> exact inductionHypothesis _

/-- A walk that goes on has come to a directory. -/
theorem hasDirectory_of_walk {root : Node} {place rest target : List String} (goesOn : rest ≠ [])
    (walked : walk root place rest = .ok target) : root.HasDirectory place := by
  obtain ⟨component, others, rfl⟩ := List.exists_cons_of_ne_nil goesOn
  rw [walk] at walked
  split at walked
  · cases walked
  · cases walked
  · next entries found => exact ⟨entries, found⟩

/-- A walk leads to the same place in a tree where no directory is missing. -/
theorem walk_of_kept {before after : Node}
    (kept : ∀ place, before.HasDirectory place → after.HasDirectory place)
    {place components target : List String} (walked : walk before place components = .ok target) :
    walk after place components = .ok target := by
  induction components generalizing place with
  | nil => exact walked
  | cons component components inductionHypothesis =>
    obtain ⟨entries, standing⟩ := hasDirectory_of_walk (List.cons_ne_nil _ _) walked
    obtain ⟨others, keptStanding⟩ := kept place ⟨entries, standing⟩
    rw [walk, standing] at walked
    rw [walk, keptStanding]
    simp only at walked ⊢
    split at walked
    · next up => rw [if_pos up]; exact inductionHypothesis walked
    · next down => rw [if_neg down]; exact inductionHypothesis walked

/-! ### What is kept -/

/-- The working directory is the same, every directory is one still, and every file is as it was. -/
structure Keeps (before after : Storage) : Prop where
  current : after.current = before.current
  directory : ∀ place, before.root.HasDirectory place → after.root.HasDirectory place
  file : ∀ place content, before.root.at? place = some (.file content) →
    after.root.at? place = some (.file content)

namespace Keeps

theorem refl (storage : Storage) : storage.Keeps storage :=
  ⟨rfl, fun _ => id, fun _ _ => id⟩

theorem trans {first second third : Storage} (former : first.Keeps second)
    (latter : second.Keeps third) : first.Keeps third :=
  ⟨latter.current.trans former.current, fun place => latter.directory place ∘ former.directory place,
    fun place content => latter.file place content ∘ former.file place content⟩

theorem place {before after : Storage} (keeps : before.Keeps after) {path : Path}
    {target : List String} (found : before.place path = .ok target) : after.place path = .ok target := by
  rw [Storage.place, keeps.current]
  exact walk_of_kept keeps.directory found

end Keeps

/-- A file stands at a path just when the path leads to it and can be one. -/
theorem bytes_eq_ok_iff {storage : Storage} {path : Path} {content : List UInt8} :
    storage.bytes path = .ok content ↔
      holdsNull path = false ∧
        ∃ place, storage.place path = .ok place ∧ storage.root.at? place = some (.file content) := by
  rw [bytes]
  cases isNull : holdsNull path with
  | true => simp
  | false =>
    cases found : storage.place path with
    | error cause => simp [node, found, bind, Except.bind]
    | ok place =>
      cases standing : storage.root.at? place with
      | none => simp [node, found, standing, bind, Except.bind]
      | some node =>
        cases node <;> simp [Storage.node, found, standing, bind, Except.bind, pure, Except.pure]

/-- A file that stood at a path stands there still. -/
theorem Keeps.bytes {before after : Storage} (keeps : before.Keeps after) {path : Path}
    {content : List UInt8} (standing : before.bytes path = .ok content) :
    after.bytes path = .ok content := by
  obtain ⟨isFree, place, found, file⟩ := bytes_eq_ok_iff.1 standing
  exact bytes_eq_ok_iff.2 ⟨isFree, place, keeps.place found, keeps.file place content file⟩

/-- What leads to a file is a directory. -/
theorem isDirectory_of_bytes {storage : Storage} {path : Path} {content : List UInt8}
    {front rest : List String} (parts : path.components = front ++ rest) (goesOn : rest ≠ [])
    (standing : storage.bytes path = .ok content) :
    storage.isDirectory ⟨path.slashes, front⟩ = true := by
  obtain ⟨-, place, found, -⟩ := bytes_eq_ok_iff.1 standing
  rw [Storage.place, parts, walk_append] at found
  cases between : walk storage.root (if path.isAbsolute then [] else storage.current) front with
  | error cause =>
    rw [between] at found
    cases found
  | ok middle =>
    rw [between] at found
    obtain ⟨entries, directory⟩ := hasDirectory_of_walk goesOn found
    have reached : storage.place ⟨path.slashes, front⟩ = .ok middle := between
    simp [isDirectory, node, reached, directory, bind, Except.bind, pure, Except.pure, Node.isDirectory]

/-! ### Making directories -/

theorem keeps_makeOne {before after : Storage} {path : Path}
    (made : before.makeOne path = .ok after) : before.Keeps after := by
  unfold makeOne at made
  cases found : before.place path with
  | error cause => simp [found, bind, Except.bind] at made
  | ok place =>
    simp only [found, bind, Except.bind] at made
    split at made
    · cases made
    · next isFree =>
      split at made
      · next entries into =>
        obtain rfl := Except.ok.inj made
        -- The root always stands, so a free place has a last name.
        have parts : place ≠ [] := by
          rintro rfl
          cases isFree
        rw [← List.dropLast_concat_getLast parts] at isFree ⊢
        refine ⟨rfl, fun other standing => ?_, fun other content standing => ?_⟩
        · refine standing.put _ ?_
          rintro ⟨others, taken⟩
          rw [isFree] at taken
          cases taken
        · exact Node.at?_put_of_file isFree ⟨entries, into⟩ standing
      · cases made
      · cases made

theorem keeps_makeDirectory (storage : Storage) (slashes : Nat) (reversed : List String) :
    storage.Keeps (storage.makeDirectory slashes reversed).1 := by
  induction reversed generalizing storage with
  | nil => exact .refl storage
  | cons name above inductionHypothesis =>
    rw [makeDirectory]
    simp only
    split
    · next made => exact keeps_makeOne made
    · have keepsAbove := inductionHypothesis storage
      split
      · next refused => rwa [refused] at keepsAbove
      · next made =>
        rw [made] at keepsAbove
        split
        · next madeHere => exact keepsAbove.trans (keeps_makeOne madeHere)
        · split <;> exact keepsAbove
    · split <;> exact .refl storage

/-- A refusal leaves some part of the path that is no directory. -/
theorem makeDirectory_refused {before after : Storage} {slashes : Nat} {reversed : List String}
    {refusal : StorageRefusal}
    (refused : before.makeDirectory slashes reversed = (after, some refusal)) :
    ∃ part ≠ [], part <:+ reversed ∧ after.isDirectory ⟨slashes, part.reverse⟩ = false := by
  induction reversed generalizing before with
  | nil => cases refused
  | cons name above inductionHypothesis =>
    -- A directory that cannot be made here will do if one stands here already.
    have settled {storage : Storage} {cause : SystemCause} {path : Path}
        (same : path = ⟨slashes, (name :: above).reverse⟩)
        (refused : (if storage.isDirectory path then (storage, none)
          else (storage, some (.system cause path.text))) = (after, some refusal)) :
        ∃ part ≠ [], part <:+ name :: above ∧ after.isDirectory ⟨slashes, part.reverse⟩ = false := by
      subst same
      split at refused
      · cases refused
      · next isNone =>
        obtain ⟨rfl, -⟩ := Prod.mk.inj refused
        exact ⟨_, List.cons_ne_nil _ _, List.suffix_refl _, Bool.not_eq_true _ ▸ isNone⟩
    rw [makeDirectory] at refused
    simp only at refused
    split at refused
    · cases refused
    · split at refused
      · next stopped =>
        rw [refused] at stopped
        obtain ⟨part, isPart, isSuffix, isNone⟩ := inductionHypothesis stopped
        exact ⟨part, isPart, isSuffix.trans (List.suffix_cons _ _), isNone⟩
      · split at refused
        · cases refused
        · exact settled rfl refused
    · exact settled rfl refused

/-! ### Writing -/

theorem holdsNull_of_parent {path : Path} (isNull : holdsNull path.parent = true) :
    holdsNull path = true := by
  obtain ⟨component, member, isNullHere⟩ := List.any_eq_true.1 isNull
  exact List.any_eq_true.2 ⟨component, List.dropLast_subset _ member, isNullHere⟩

/-- A file that is written holds what was written. -/
theorem bytes_write {before after : Storage} {path : Path} {text : String}
    (done : before.write path text = (after, none)) : after.bytes path = .ok (Utf8.encode text) := by
  unfold write at done
  split at done
  · cases done
  · split at done
    · cases done
    · next made _ =>
      split at done
      · cases done
      · next isFree =>
        split at done
        · cases done
        · next place found =>
          split at done
          · cases done
          · next notDirectory =>
            obtain ⟨rfl, -⟩ := Prod.mk.inj done
            refine bytes_eq_ok_iff.2 ⟨Bool.not_eq_true _ ▸ isFree, place, ?_,
              Node.at?_put_self _ _ _⟩
            refine walk_of_kept (fun other standing => standing.put _ ?_) found
            exact fun taken => notDirectory _ taken.choose_spec

/-- What a refusal to write comes from. Directories may have been made before it. -/
theorem write_refused_cases {before after : Storage} {path : Path} {text : String}
    {refusal : StorageRefusal} (refused : before.write path text = (after, some refusal)) :
    before.Keeps after ∧
      (holdsNull path = true ∨
        (∃ part ≠ [], part <:+ path.parent.components.reverse ∧
          after.isDirectory ⟨path.slashes, part.reverse⟩ = false) ∨
        (∃ cause, after.place path = .error cause) ∨
        ∃ place, after.place path = .ok place ∧ after.root.HasDirectory place) := by
  unfold write at refused
  have keeps := keeps_makeDirectory before path.slashes path.parent.components.reverse
  split at refused
  · next isNull =>
    obtain ⟨rfl, -⟩ := Prod.mk.inj refused
    exact ⟨.refl _, .inl (holdsNull_of_parent isNull)⟩
  · split at refused
    · next stopped =>
      rw [refused] at stopped
      rw [stopped] at keeps
      exact ⟨keeps, .inr (.inl (makeDirectory_refused stopped))⟩
    · next made =>
      rw [made] at keeps
      split at refused
      · next isNull =>
        obtain ⟨rfl, -⟩ := Prod.mk.inj refused
        exact ⟨keeps, .inl isNull⟩
      · split at refused
        · next cause notFound =>
          obtain ⟨rfl, -⟩ := Prod.mk.inj refused
          exact ⟨keeps, .inr (.inr (.inl ⟨cause, notFound⟩))⟩
        · next place found =>
          split at refused
          · next entries standing =>
            obtain ⟨rfl, -⟩ := Prod.mk.inj refused
            exact ⟨keeps, .inr (.inr (.inr ⟨place, found, entries, standing⟩))⟩
          · cases refused

/-- Where writing is refused no file stands. -/
theorem bytes_ne_ok_of_write_refused {before after : Storage} {path : Path} {text : String}
    {refusal : StorageRefusal} (refused : before.write path text = (after, some refusal))
    (content : List UInt8) : after.bytes path ≠ .ok content := by
  intro standing
  obtain ⟨isFree, place, found, file⟩ := bytes_eq_ok_iff.1 standing
  rcases (write_refused_cases refused).2 with
    isNull | ⟨part, isPart, isSuffix, isNone⟩ | ⟨cause, notFound⟩ | ⟨other, otherFound, entries, taken⟩
  · rw [isNull] at isFree
    cases isFree
  · -- The part that is no directory would have to lead to the file.
    obtain ⟨rest, parts⟩ := isSuffix
    have parts : path.components.dropLast = part.reverse ++ rest.reverse := by
      rw [← List.reverse_append, parts, List.reverse_reverse, Path.parent]
    have named : path.components ≠ [] := by
      intro empty
      rw [empty, List.dropLast_nil, eq_comm, List.append_eq_nil_iff] at parts
      exact isPart (List.reverse_eq_nil_iff.1 parts.1)
    have leads : path.components =
        part.reverse ++ (rest.reverse ++ [path.components.getLast named]) := by
      rw [← List.append_assoc, ← parts, List.dropLast_concat_getLast]
    rw [isDirectory_of_bytes leads (by simp) standing] at isNone
    cases isNone
  · rw [notFound] at found
    cases found
  · obtain rfl := Except.ok.inj (otherFound.symm.trans found)
    rw [taken] at file
    cases file

/-- A refusal to write leaves what stands at the path as it was. -/
theorem bytes_of_write_refused {before after : Storage} {path : Path} {text : String}
    {refusal : StorageRefusal} (refused : before.write path text = (after, some refusal))
    (content : List UInt8) : after.bytes path = .ok content ↔ before.bytes path = .ok content :=
  iff_of_false (bytes_ne_ok_of_write_refused refused content) fun standing =>
    bytes_ne_ok_of_write_refused refused content ((write_refused_cases refused).1.bytes standing)

end Storage

end Concord
