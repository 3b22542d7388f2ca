/-
Import statements as an author prints them, and how they are read back. Between the braces blanks and
comments may stand around every word. A statement is printed through a view of these fillings and of the
name of the module: the source has them as they are written, the clean view has blanks for the comments,
and the masked view has blanks for the name of the module too. Statements are found in the masked view and
their parts are cut out of the clean one at the same places.
-/

import Concord.Import
import Concord.Proofs.Declaration.Members
import Concord.Proofs.Source.Fillings
import Concord.Proofs.Source.Literals

namespace Concord.Import

open Source Text

/-! ### Statements -/

/-- An entry `[type] name [as alias]` of an import list. -/
structure Entry where
  before : List Filling
  /-- The gap behind the word `type`, if that word is there. -/
  typeGap : Option Gap
  name : Printed.Name
  notType : name.text ≠ "type".toList
  /-- The gaps around the word `as`, and the alias. -/
  alternative : Option (Gap × Gap × Printed.Name)
  behind : List Filling

/-- The name of a module between quotes. -/
structure Module where
  quote : Char
  quotes : quote = '\x27' ∨ quote = '\x22'
  name : List Char
  contents : ∀ c ∈ name, endsModule c = false ∧ c ≠ '\\'
  something : name ≠ []
  isStripped : strip name = name

/-- An import statement and what stands before it. -/
structure PrintedStatement where
  lead : List Filling
  isTypeOnly : Bool
  defaultName : Option Printed.Name
  entries : List Entry
  /-- What stands behind the comma after the last entry, if there is one, or between the braces of an
  empty list. -/
  ending : Option (List Filling)
  module : Module

/-! ### Printing -/

section

variable (fill : List Filling → List Char) (inside : List Char → List Char)

/-- The word `type` and the gap behind it. -/
def typeWord : Option Gap → List Char
  | none => []
  | some gap => "type".toList ++ fill gap.fillings

/-- The word `as` with the gaps around it, and the alias. -/
def asAlias : Option (Gap × Gap × Printed.Name) → List Char
  | none => []
  | some (first, second, name) =>
    fill first.fillings ++ ("as".toList ++ (fill second.fillings ++ name.text))

/-- The entry without what stands around it. -/
def Entry.binding (entry : Entry) : List Char :=
  typeWord fill entry.typeGap ++ (entry.name.text ++ asAlias fill entry.alternative)

def Entry.text (entry : Entry) : List Char :=
  fill entry.before ++ (entry.binding fill ++ fill entry.behind)

/-- What stands between the list and the name of the module. -/
def joint (quote : Char) : List Char :=
  "\x7d from ".toList ++ [quote]

/-- The name of a default import and the comma behind it. -/
def defaultWord : Option Printed.Name → List Char
  | none => []
  | some name => name.text ++ [',', ' ']

namespace PrintedStatement

variable (printed : PrintedStatement)

/-- What stands between the commas. -/
def chunks : List (List Char) :=
  printed.entries.map (·.text fill) ++ (printed.ending.map fill).toList

/-- What stands between the braces. -/
def listed : List Char :=
  [','].intercalate (printed.chunks fill)

/-- The words before the brace. -/
def front : List Char :=
  "import".toList ++ ' ' :: ((if printed.isTypeOnly then "type".toList ++ [' '] else []) ++
    defaultWord printed.defaultName)

/-- The statement without its semicolon. -/
def text : List Char :=
  printed.front ++ '\x7b' :: (printed.listed fill ++
    (joint printed.module.quote ++ (inside printed.module.name ++ [printed.module.quote])))

/-- The statement with what stands before it, and its semicolon. -/
def passage : List Char :=
  fill printed.lead ++ (printed.text fill inside ++ [';'])

end PrintedStatement

/-- Statements one after another, and what stands behind them. -/
def script (statements : List PrintedStatement) (trail : List Filling) : List Char :=
  statements.flatMap (·.passage fill inside) ++ fill trail

end

/-- What the statement imports when it stands at a location. -/
def PrintedStatement.imports (printed : PrintedStatement) (location : Location) : List Import :=
  printed.entries.map fun entry =>
    ⟨String.ofList entry.name.text, String.ofList printed.module.name, location⟩

/-- What statements import when the passage of the first begins on a line. -/
def importsFrom (document : String) (line : Nat) : List PrintedStatement → List Import
  | [] => []
  | printed :: statements =>
    printed.imports ⟨document, line + (written printed.lead).count '\n'⟩ ++
      importsFrom document (line + (printed.passage written id).count '\n') statements

/-! ### Names in the list -/

theorem words_gap (gap : Gap) (first second : List Char) :
    words (first ++ (spaced gap.fillings ++ second)) = words first ++ words second := by
  obtain ⟨c, rest, isText, blank, blankRest⟩ := gap.exists_spaced
  rw [isText, List.cons_append, words_append_blank blank, words_behindBlank blankRest]

theorem words_typeWord (typeGap : Option Gap) (rest : List Char) :
    words (typeWord spaced typeGap ++ rest) =
      (typeGap.map fun _ => "type".toList).toList ++ words rest := by
  cases typeGap with
  | none => rfl
  | some gap =>
    have isWord : words "type".toList = ["type".toList] := words_solid ⟨by decide, by decide⟩
    rw [typeWord, List.append_assoc, words_gap, isWord]
    rfl

theorem words_asAlias (name : Printed.Name) (alternative : Option (Gap × Gap × Printed.Name)) :
    words (name.text ++ asAlias spaced alternative) = name.text ::
      ((alternative.map fun (_, _, other) => ["as".toList, other.text]).getD []) := by
  cases alternative with
  | none => rw [asAlias, List.append_nil, words_solid name.isSolid]; rfl
  | some alternative =>
    obtain ⟨first, second, other⟩ := alternative
    have isWord : words "as".toList = ["as".toList] := words_solid ⟨by decide, by decide⟩
    rw [asAlias, words_gap, words_gap, words_solid name.isSolid, isWord, words_solid other.isSolid]
    rfl

/-- An entry imports its name, whatever alias it has. -/
theorem Entry.entryName? (entry : Entry) :
    Import.entryName? (withoutType (words (entry.text spaced))) = some entry.name.text := by
  have noType : ∀ others, withoutType (entry.name.text :: others) = entry.name.text :: others := by
    intro others
    cases others with
    | nil => rfl
    | cons next others => exact if_neg entry.notType
  have named := entry.name.isIdentifier
  have isRead : Import.entryName? (entry.name.text ::
      ((entry.alternative.map fun (_, _, other) => ["as".toList, other.text]).getD [])) =
        some entry.name.text := by
    cases entry.alternative with
    | none => exact if_pos named
    | some alternative => exact if_pos ⟨rfl, named, alternative.2.2.isIdentifier⟩
  rw [Entry.text, words_surrounded _ (isAllBlank_spaced _) (isAllBlank_spaced _), Entry.binding,
    words_typeWord, words_asAlias]
  cases entry.typeGap with
  | none => exact (congrArg Import.entryName? (noType _)).trans isRead
  | some gap => exact isRead

/-- Stands in the list: in a word, or between words. -/
def isListed (c : Char) : Bool :=
  continuesIdentifier c || isBlank c

theorem isListed_word {word : List Char} (isWord : IsWord word) : ∀ c ∈ word, isListed c = true := by
  intro c member
  rw [isListed, isWord c member]
  rfl

theorem isListed_spaced (fillings : List Filling) : ∀ c ∈ spaced fillings, isListed c = true := by
  intro c member
  rw [isListed, List.all_eq_true.1 (isAllBlank_spaced fillings) c member, Bool.or_true]

theorem Entry.isListed (entry : Entry) : ∀ c ∈ entry.text spaced, isListed c = true := by
  rw [Entry.text, binding]
  simp only [List.forall_mem_append]
  refine ⟨isListed_spaced _, ⟨?_, isListed_word entry.name.isWord, ?_⟩, isListed_spaced _⟩
  · cases entry.typeGap with
    | none => exact fun _ absent => absurd absent List.not_mem_nil
    | some gap => exact List.forall_mem_append.2 ⟨by decide, isListed_spaced _⟩
  · cases entry.alternative with
    | none => exact fun _ absent => absurd absent List.not_mem_nil
    | some alternative =>
      rw [asAlias]
      simp only [List.forall_mem_append]
      exact ⟨isListed_spaced _, by decide, isListed_spaced _, isListed_word alternative.2.2.isWord⟩

namespace PrintedStatement

variable (printed : PrintedStatement)

theorem isListed_chunks : ∀ chunk ∈ printed.chunks spaced, ∀ c ∈ chunk, isListed c = true := by
  intro chunk member
  rcases List.mem_append.1 member with isEntry | isEnding
  · obtain ⟨entry, -, rfl⟩ := List.mem_map.1 isEntry
    exact entry.isListed
  · obtain ⟨fillings, -, rfl⟩ := Option.map_eq_some_iff.1 (Option.mem_toList.1 isEnding)
    exact isListed_spaced fillings

theorem noBrace_listed : ∀ c ∈ printed.listed spaced, isBrace c = false := by
  refine forall_mem_intercalate (by decide) fun chunk member c inside => ?_
  have listed := printed.isListed_chunks chunk member c inside
  cases brace : isBrace c with
  | false => rfl
  | true =>
    rcases Bool.or_eq_true_iff.1 brace with same | same <;> rw [beq_iff_eq.1 same] at listed <;>
      exact absurd listed (by decide)

theorem filterMap_chunks :
    (printed.chunks spaced).filterMap (fun chunk => entryName? (withoutType (words chunk))) =
      printed.entries.map (·.name.text) := by
  have blank : ∀ fillings, entryName? (withoutType (words (spaced fillings))) = none := by
    intro fillings
    rw [words_eq_nil_of_isAllBlank (isAllBlank_spaced fillings)]
    rfl
  have ending : (printed.ending.map spaced).toList.filterMap
      (fun chunk => entryName? (withoutType (words chunk))) = [] := by
    cases printed.ending with
    | none => rfl
    | some fillings => exact List.filterMap_cons_none (blank fillings)
  rw [chunks, List.filterMap_append, ending, List.append_nil, List.filterMap_map]
  exact (List.filterMap_congr fun entry _ => entry.entryName?).trans
    (congrFun List.filterMap_eq_map' _)

/-- The names in the list are those of its entries, in order. -/
theorem names_listed : names (printed.listed spaced) = printed.entries.map (·.name.text) := by
  have noComma : ∀ chunk ∈ printed.chunks spaced, ∀ c ∈ chunk, (c == ',') = false := by
    intro chunk member c inside
    have listed := printed.isListed_chunks chunk member c inside
    refine beq_eq_false_iff_ne.2 ?_
    rintro rfl
    exact absurd listed (by decide)
  rw [names, listed, ← printed.filterMap_chunks]
  cases isChunks : printed.chunks spaced with
  | nil => rfl
  | cons chunk chunks =>
    rw [isChunks] at noComma
    rw [pieces_intercalate (by decide) (by simp) noComma]

end PrintedStatement

/-! ### One statement in the masked view -/

section

variable {quote : Char} {listed module : List Char} (rest : List Char)

theorem quotedModule?_printed (start : Nat) (quotes : quote = '\x27' ∨ quote = '\x22')
    (plain : ∀ c ∈ module, endsModule c = false) :
    quotedModule? (start + (module ++ quote :: rest).length) (quote :: (module ++ quote :: rest)) =
      some (⟨start, start + module.length⟩, start + module.length + 1) := by
  have ends : endsModule quote = true := by
    rcases quotes with rfl | rfl <;> decide
  have isRest : (module ++ quote :: rest).dropWhile (fun c => !endsModule c) = quote :: rest := by
    refine dropWhile_append_of_stops (fun c member => by rw [plain c member]; rfl) ?_
    rintro c ⟨⟩
    rw [ends]
    rfl
  have size : (module ++ quote :: rest).length = module.length + (rest.length + 1) := by
    rw [List.length_append, List.length_cons]
  rw [quotedModule?, if_pos quotes, isRest]
  simp only [if_pos]
  rw [size]
  simp only [Option.some.injEq, Prod.mk.injEq, Span.mk.injEq]
  omega

theorem length_joint (quote : Char) : (joint quote).length = 8 :=
  rfl

theorem bindings?_printed (start : Nat) (noBrace : ∀ c ∈ listed, isBrace c = false)
    (quotes : quote = '\x27' ∨ quote = '\x22') (plain : ∀ c ∈ module, endsModule c = false) :
    bindings? (start + (listed ++ (joint quote ++ (module ++ quote :: rest))).length)
        ('\x7b' :: (listed ++ (joint quote ++ (module ++ quote :: rest)))) =
      some ⟨⟨start, start + listed.length⟩,
        ⟨start + listed.length + 8, start + listed.length + 8 + module.length⟩,
        start + listed.length + 8 + module.length + 1⟩ := by
  have noBlank : ∀ c, (quote :: (module ++ quote :: rest)).head? = some c → isBlank c = false := by
    rintro c ⟨⟩
    rcases quotes with rfl | rfl <;> decide
  have isRest : (listed ++ (joint quote ++ (module ++ quote :: rest))).dropWhile (fun c => !isBrace c) =
      '\x7d' :: ' ' :: ("from".toList ++ ' ' :: quote :: (module ++ quote :: rest)) := by
    refine dropWhile_append_of_stops (fun c member => by rw [noBrace c member]; rfl) ?_
    rintro c ⟨⟩
    decide
  have isSource : stripStart (' ' :: ("from".toList ++ ' ' :: quote :: (module ++ quote :: rest))) =
      "from".toList ++ ' ' :: quote :: (module ++ quote :: rest) := by
    refine (List.dropWhile_cons_of_pos (by decide)).trans (stripStart_of_not_isBlank ?_)
    rintro c ⟨⟩
    decide
  have isQuoted : stripStart (' ' :: quote :: (module ++ quote :: rest)) =
      quote :: (module ++ quote :: rest) :=
    (List.dropWhile_cons_of_pos (by decide)).trans (stripStart_of_not_isBlank noBlank)
  have word : "from".toList.length = 4 := rfl
  have whole : start + (listed ++ (joint quote ++ (module ++ quote :: rest))).length =
      start + listed.length + 8 + (module ++ quote :: rest).length := by
    simp only [List.length_append, List.length_cons, length_joint]
    omega
  rw [bindings?, isRest]
  simp only [isSource, after?_append, isQuoted, whole, quotedModule?_printed rest _ quotes plain,
    Option.bind_eq_bind, Option.bind_some]
  simp only [Option.pure_def, Option.some.injEq, Statement.mk.injEq, Span.mk.injEq, and_true,
    List.length_append, List.length_cons, length_joint, word]
  omega

end

namespace PrintedStatement

variable (printed : PrintedStatement)

/-- The clause behind the words `import` and `type` is read whether or not it names a default. -/
theorem clause?_printed {length : Nat} {rest : List Char} {statement : Statement}
    (read : bindings? length ('\x7b' :: rest) = some statement) (defaultName : Option Printed.Name) :
    clause? length (defaultWord defaultName ++ '\x7b' :: rest) = some statement := by
  cases defaultName with
  | none =>
    have noName : identifier? ('\x7b' :: rest) = none := by rw [identifier?, if_neg (by decide)]
    have noDefault : behindDefault? ('\x7b' :: rest) = none := by
      rw [behindDefault?, noName]
      rfl
    rw [defaultWord, List.nil_append, clause?, noDefault, Option.bind_none, Option.none_or, read]
  | some name =>
    have isText : defaultWord (some name) ++ '\x7b' :: rest =
        name.text ++ ',' :: ' ' :: '\x7b' :: rest := List.append_assoc ..
    have isName : identifier? (name.text ++ ',' :: ' ' :: '\x7b' :: rest) =
        some (name.text, ',' :: ' ' :: '\x7b' :: rest) := by
      refine identifier?_word name.isIdentifier ?_
      rintro c ⟨⟩
      decide
    have isComma : stripStart (',' :: ' ' :: '\x7b' :: rest) = ',' :: ' ' :: '\x7b' :: rest :=
      stripStart_of_not_isBlank (by rintro c ⟨⟩; decide)
    have isBehind : stripStart (' ' :: '\x7b' :: rest) = '\x7b' :: rest :=
      (List.dropWhile_cons_of_pos (by decide)).trans
        (stripStart_of_not_isBlank (by rintro c ⟨⟩; decide))
    have default : behindDefault? (name.text ++ ',' :: ' ' :: '\x7b' :: rest) =
        some ('\x7b' :: rest) := by
      rw [behindDefault?, isName]
      simp only [Option.bind_eq_bind, Option.bind_some, isComma, isBehind, Option.pure_def]
    rw [isText, clause?, default, Option.bind_some, read, Option.some_or]

/-- No clause is read as one behind the word `type`: behind a default of that name stands a comma. -/
theorem spacedKeyword?_clause (defaultName : Option Printed.Name) (rest : List Char) :
    spacedKeyword? "type".toList (defaultWord defaultName ++ '\x7b' :: rest) = none := by
  cases defaultName with
  | none => rfl
  | some name =>
    rw [defaultWord, List.append_assoc]
    exact (spacedKeyword?_word (by decide) name.isWord (by decide)).trans
      (if_neg fun both => absurd both.2 (by decide))

theorem head_clause (defaultName : Option Printed.Name) (rest : List Char) :
    ∀ c, (defaultWord defaultName ++ '\x7b' :: rest).head? = some c → isBlank c = false := by
  cases defaultName with
  | none =>
    rintro c ⟨⟩
    decide
  | some name =>
    intro c head
    rw [defaultWord, List.append_assoc] at head
    exact isBlank_of_continuesIdentifier (name.head _ c head)

/-- The words before the brace are passed over. -/
theorem statement?_front {rest : List Char} {statement : Statement}
    (read : bindings? (printed.front ++ '\x7b' :: rest).length ('\x7b' :: rest) = some statement) :
    statement? (printed.front ++ '\x7b' :: rest) = some statement := by
  have isImport : IsWord "import".toList := by decide
  have isType : IsWord "type".toList := by decide
  have isRead := clause?_printed read printed.defaultName
  have head := head_clause printed.defaultName rest
  have isFront : printed.front ++ '\x7b' :: rest = "import".toList ++ ' ' ::
      ((if printed.isTypeOnly then "type".toList ++ [' '] else []) ++
        (defaultWord printed.defaultName ++ '\x7b' :: rest)) := by
    rw [front, List.append_assoc, List.cons_append, List.append_assoc]
  rw [statement?]
  generalize (printed.front ++ '\x7b' :: rest).length = length at isRead ⊢
  rw [isFront]
  cases printed.isTypeOnly with
  | true =>
    have behindType := spacedKeyword?_space isType head
    rw [if_pos rfl, List.append_assoc, List.singleton_append, spacedKeyword?_space isImport]
    · simp only [Option.bind_eq_bind, Option.bind_some, behindType, isRead, Option.some_or]
    · rintro c ⟨⟩
      decide
  | false =>
    rw [if_neg Bool.false_ne_true, List.nil_append, spacedKeyword?_space isImport head]
    simp only [Option.bind_eq_bind, Option.bind_some, spacedKeyword?_clause, Option.bind_none, isRead,
      Option.none_or]

/-- Where the parts of a statement stand that begins a text. -/
def spans : Statement :=
  let start := printed.front.length + 1
  let stop := start + (printed.listed spaced).length
  let module := stop + 8
  let close := module + printed.module.name.length
  ⟨⟨start, stop⟩, ⟨module, close⟩, close + 1⟩

/-- The statement as the masked view shows it. -/
def masked : List Char :=
  printed.text spaced (·.map blanked)

theorem masked_append (rest : List Char) :
    printed.masked ++ rest = printed.front ++ '\x7b' :: (printed.listed spaced ++
      (joint printed.module.quote ++
        (printed.module.name.map blanked ++ printed.module.quote :: rest))) := by
  simp only [masked, text, List.append_assoc, List.cons_append, List.nil_append]

theorem statement?_masked (rest : List Char) :
    statement? (printed.masked ++ rest) = some printed.spans := by
  have plain : ∀ c ∈ printed.module.name.map blanked, endsModule c = false := by
    intro c member
    obtain ⟨d, inside, rfl⟩ := List.mem_map.1 member
    rcases blanked_eq_or d with same | same
    · rw [same]
      exact (printed.module.contents d inside).1
    · rw [same]
      decide
  have read := bindings?_printed rest (printed.front.length + 1) printed.noBrace_listed
    printed.module.quotes plain
  rw [List.length_map] at read
  rw [masked_append]
  refine printed.statement?_front ?_
  rw [List.length_append, List.length_cons, ← Nat.add_assoc, Nat.add_right_comm]
  exact read

theorem length_text {inside : List Char → List Char} (same : ∀ text, (inside text).length = text.length) :
    (printed.text spaced inside).length = printed.spans.stop := by
  simp only [text, spans, List.length_append, List.length_cons, List.length_nil, same, length_joint]
  omega

end PrintedStatement

/-! ### The views of what is printed -/

theorem clears_intercalate {parts : Type} {sources cleans : parts → List Char}
    (clears : ∀ part, Clears (sources part) (cleans part) (cleans part)) (list : List parts) :
    Clears ([','].intercalate (list.map sources)) ([','].intercalate (list.map cleans))
      ([','].intercalate (list.map cleans)) := by
  induction list with
  | nil => exact .nil
  | cons part list inductionHypothesis =>
    cases list with
    | nil => simpa only [List.map_cons, List.map_nil, List.intercalate_singleton] using clears part
    | cons next list =>
      simp only [List.map_cons, List.intercalate_cons_cons]
      exact ((clears part).append (clears_quiet (by decide))).append inductionHypothesis

theorem clears_name (name : Printed.Name) : Clears name.text name.text name.text :=
  .of_shows name.shows

theorem clears_typeWord (typeGap : Option Gap) :
    Clears (typeWord written typeGap) (typeWord spaced typeGap) (typeWord spaced typeGap) := by
  cases typeGap with
  | none => exact .nil
  | some gap => exact (clears_quiet (by decide)).append (clears_fillings gap.fillings)

theorem clears_asAlias (alternative : Option (Gap × Gap × Printed.Name)) :
    Clears (asAlias written alternative) (asAlias spaced alternative) (asAlias spaced alternative) := by
  cases alternative with
  | none => exact .nil
  | some alternative =>
    exact (clears_fillings _).append ((clears_quiet (by decide)).append
      ((clears_fillings _).append (clears_name _)))

theorem Entry.clears (entry : Entry) :
    Clears (entry.text written) (entry.text spaced) (entry.text spaced) :=
  (clears_fillings _).append (((clears_typeWord _).append ((clears_name _).append
    (clears_asAlias _))).append (clears_fillings _))

theorem Module.content (module : Module) : IsContent module.quote module.name := by
  refine .of_forall fun c member => ?_
  obtain ⟨noEnd, noBackslash⟩ := module.contents c member
  refine ⟨?_, noBackslash, ?_⟩
  · rintro rfl
    rcases module.quotes with same | same <;> rw [same] at noEnd <;> exact absurd noEnd (by decide)
  · rintro rfl
    exact absurd noEnd (by decide)

/-- The quoted module as a literal. -/
def Module.literal (module : Module) : Literal :=
  ⟨module.quote, module.name, by rcases module.quotes with same | same <;> rw [same] <;> decide,
    module.content⟩

theorem Module.clears (module : Module) :
    Clears (joint module.quote ++ (module.name ++ [module.quote]))
      (joint module.quote ++ (module.name ++ [module.quote]))
      (joint module.quote ++ (module.name.map blanked ++ [module.quote])) := by
  have isJoint : ∀ text, joint module.quote ++ text = "\x7d from ".toList ++ (module.quote :: text) :=
    fun text => List.append_assoc _ _ text
  have words : Clears "\x7d from ".toList "\x7d from ".toList "\x7d from ".toList :=
    clears_quiet (by decide)
  have literal : Clears (module.quote :: (module.name ++ [module.quote])) _
      (module.quote :: (module.name.map blanked ++ [module.quote])) :=
    .of_shows ⟨module.literal.settled.1, module.literal.settled.2⟩
  rw [isJoint, isJoint]
  exact words.append literal

namespace PrintedStatement

variable (printed : PrintedStatement)

theorem clears_listed :
    Clears (printed.listed written) (printed.listed spaced) (printed.listed spaced) := by
  have chunks : ∀ fill : List Filling → List Char, printed.chunks fill =
      (printed.entries.map Sum.inl ++ (printed.ending.map Sum.inr).toList).map
        (Sum.elim (Entry.text fill) fill) := by
    intro fill
    rw [PrintedStatement.chunks, List.map_append, List.map_map]
    cases printed.ending <;> rfl
  rw [listed, listed, chunks, chunks]
  refine clears_intercalate (fun part => ?_) _
  cases part with
  | inl entry => exact entry.clears
  | inr fillings => exact clears_fillings fillings

theorem isQuiet_front : ∀ c ∈ printed.front, isQuiet c = true := by
  rw [front, List.forall_mem_append, List.forall_mem_cons, List.forall_mem_append]
  refine ⟨by decide, by decide, ?_, ?_⟩
  · cases printed.isTypeOnly <;> decide
  · cases printed.defaultName with
    | none => exact fun _ absent => absurd absent List.not_mem_nil
    | some name => exact List.forall_mem_append.2 ⟨Printed.isQuiet_of_isWord name.isWord, by decide⟩

theorem clears_text :
    Clears (printed.text written id) (printed.text spaced id) printed.masked := by
  have brace : Clears ['\x7b'] ['\x7b'] ['\x7b'] := clears_quiet (by decide)
  exact (clears_quiet printed.isQuiet_front).append
    (brace.append (printed.clears_listed.append printed.module.clears))

theorem clears_passage :
    Clears (printed.passage written id) (printed.passage spaced id)
      (printed.passage spaced (·.map blanked)) :=
  (clears_fillings _).append (printed.clears_text.append (clears_quiet (by decide)))

end PrintedStatement

theorem clears_script (statements : List PrintedStatement) (trail : List Filling) :
    Clears (script written id statements trail) (script spaced id statements trail)
      (script spaced (·.map blanked) statements trail) :=
  (clears_flatMap PrintedStatement.clears_passage statements).append (clears_fillings trail)

/-! ### The search for statements -/

section

variable (index resume : Nat) {previous : Option Char} {c : Char} {rest : List Char}

theorem statement?_other (other : c ≠ 'i') : statement? (c :: rest) = none := by
  have isWord : "import".toList = 'i' :: "mport".toList := by decide
  rw [statement?, isWord, spacedKeyword?, after?, if_neg (Ne.symm other)]
  rfl

theorem statementsFrom_other (other : c ≠ 'i') :
    statementsFrom index resume previous (c :: rest) =
      statementsFrom (index + 1) resume (some c) rest := by
  rw [statementsFrom, statement?_other other, ite_self]

theorem statementsFrom_found {statement : Statement} (found : statement? (c :: rest) = some statement)
    (free : resume ≤ index) (noWord : Header.isWordAt previous = false) :
    statementsFrom index resume previous (c :: rest) = (index, statement.shifted index) ::
      statementsFrom (index + 1) (index + statement.stop) (some c) rest := by
  rw [statementsFrom, decide_eq_true free, noWord, Bool.not_false, Bool.and_true, if_pos rfl, found]

/-- Nothing is found in blanks, and no word is left in front of what follows. -/
theorem statementsFrom_blanks {blanks : List Char} (blank : isAllBlank blanks = true)
    (noWord : Header.isWordAt previous = false) (rest : List Char) :
    ∃ last, Header.isWordAt last = false ∧ statementsFrom index resume previous (blanks ++ rest) =
      statementsFrom (index + blanks.length) resume last rest := by
  induction blanks generalizing index previous with
  | nil => exact ⟨previous, noWord, rfl⟩
  | cons c blanks inductionHypothesis =>
    rw [isAllBlank_cons, Bool.and_eq_true] at blank
    have other : c ≠ 'i' := by
      rintro rfl
      exact absurd blank.1 (by decide)
    have noWordHere : Header.isWordAt (some c) = false := by
      have stops := continuesIdentifier_of_isBlank blank.1
      rw [continuesIdentifier, Bool.or_eq_false_iff] at stops
      exact stops.1
    have size : index + (c :: blanks).length = index + 1 + blanks.length := by
      rw [List.length_cons]
      omega
    rw [List.cons_append, statementsFrom_other _ _ other, size]
    exact inductionHypothesis (index + 1) blank.2 noWordHere

/-- Nothing begins inside a statement. -/
theorem statementsFrom_inside (part rest : List Char) (inside : index + part.length ≤ resume) :
    ∃ last, statementsFrom index resume previous (part ++ rest) =
      statementsFrom (index + part.length) resume last rest := by
  induction part generalizing index previous with
  | nil => exact ⟨previous, rfl⟩
  | cons c part inductionHypothesis =>
    have size : index + (c :: part).length = index + 1 + part.length := by
      rw [List.length_cons]
      omega
    rw [size] at inside ⊢
    have notFree : decide (resume ≤ index) = false := decide_eq_false (by omega)
    rw [List.cons_append, statementsFrom, notFree, Bool.false_and, if_neg Bool.false_ne_true]
    exact inductionHypothesis (index + 1) inside

end

namespace PrintedStatement

variable (printed : PrintedStatement)

theorem length_passage {inside : List Char → List Char}
    (same : ∀ text, (inside text).length = text.length) :
    (printed.passage spaced inside).length =
      (spaced printed.lead).length + (printed.spans.stop + 1) := by
  rw [passage, List.length_append, List.length_append, printed.length_text same, List.length_singleton]

theorem statementsFrom_masked {index resume : Nat} {previous : Option Char} (rest : List Char)
    (free : resume ≤ index) (noWord : Header.isWordAt previous = false) :
    statementsFrom index resume previous (printed.masked ++ ';' :: rest) =
      (index, printed.spans.shifted index) ::
        statementsFrom (index + (printed.spans.stop + 1)) (index + printed.spans.stop) (some ';') rest := by
  have found := printed.statement?_masked (';' :: rest)
  have size : printed.masked.length = printed.spans.stop :=
    printed.length_text fun _ => List.length_map _
  obtain ⟨c, part, isText⟩ : ∃ c part, printed.masked = c :: part :=
    List.exists_cons_of_ne_nil (by rw [← List.length_pos_iff, size]; exact Nat.succ_pos _)
  rw [isText, List.length_cons] at size
  rw [isText, List.cons_append] at found ⊢
  have behind : index + 1 + part.length = index + printed.spans.stop := by omega
  obtain ⟨last, skipped⟩ := statementsFrom_inside (index + 1) _ part (';' :: rest) behind.le
  rw [statementsFrom_found _ _ found free noWord, skipped, statementsFrom_other _ _ (by decide), behind]
  rfl

/-- A statement is found where it stands, and the search goes on behind it. -/
theorem statementsFrom_passage {index resume : Nat} {previous : Option Char} (rest : List Char)
    (free : resume ≤ index) (noWord : Header.isWordAt previous = false) :
    statementsFrom index resume previous (printed.passage spaced (·.map blanked) ++ rest) =
      (index + (spaced printed.lead).length,
        printed.spans.shifted (index + (spaced printed.lead).length)) ::
        statementsFrom (index + (printed.passage spaced (·.map blanked)).length)
          (index + (spaced printed.lead).length + printed.spans.stop) (some ';') rest := by
  obtain ⟨last, noWordBehind, skipped⟩ := statementsFrom_blanks index resume
    (isAllBlank_spaced printed.lead) noWord (printed.masked ++ ';' :: rest)
  have isText : printed.passage spaced (·.map blanked) ++ rest =
      spaced printed.lead ++ (printed.masked ++ ';' :: rest) := by
    rw [passage, List.append_assoc, List.append_assoc]
    rfl
  rw [isText, skipped, printed.statementsFrom_masked rest (by omega) noWordBehind,
    printed.length_passage fun _ => List.length_map _, Nat.add_assoc]

theorem ofStatement_printed {passage : Passage} {before rest : List Char}
    (clean : passage.views.clean = before ++ (printed.text spaced id ++ rest)) :
    ofStatement passage before.length (printed.spans.shifted before.length) =
      printed.imports (passage.locate before.length) := by
  have listedHere : passage.views.clean.drop (before.length + (printed.front.length + 1)) =
      printed.listed spaced ++
        (joint printed.module.quote ++ (printed.module.name ++ [printed.module.quote]) ++ rest) := by
    rw [clean, ← List.drop_drop, List.drop_left, text, List.append_assoc, ← List.drop_drop,
      List.drop_left, List.cons_append, List.drop_succ_cons, List.drop_zero, List.append_assoc]
    rfl
  have moduleHere : passage.views.clean.drop
      (before.length + (printed.front.length + 1) + (printed.listed spaced).length + 8) =
        printed.module.name ++ ([printed.module.quote] ++ rest) := by
    rw [← List.drop_drop, ← List.drop_drop, listedHere, List.drop_left, List.append_assoc,
      List.drop_left' (length_joint _), List.append_assoc]
  have listedSpan : (printed.spans.shifted before.length).listed =
      ⟨before.length + (printed.front.length + 1),
        before.length + (printed.front.length + 1) + (printed.listed spaced).length⟩ := by
    simp only [Statement.shifted, spans, Span.mk.injEq]
    omega
  have moduleSpan : (printed.spans.shifted before.length).quoted =
      ⟨before.length + (printed.front.length + 1) + (printed.listed spaced).length + 8,
        before.length + (printed.front.length + 1) + (printed.listed spaced).length + 8 +
          printed.module.name.length⟩ := by
    simp only [Statement.shifted, spans, Span.mk.injEq]
    omega
  obtain ⟨c, name, isName⟩ := List.exists_cons_of_ne_nil printed.module.something
  rw [ofStatement, listedSpan, moduleSpan, slice_of_drop listedHere rfl, slice_of_drop moduleHere rfl,
    printed.module.isStripped, printed.names_listed, imports, isName]
  exact List.map_map ..

/-- Where a passage stands behind something, its statement is read as what it imports. -/
theorem ofStatement_passage {passage : Passage} {before beforeClean rest restClean : List Char}
    (masked : passage.views.masked = before ++ (printed.passage spaced (·.map blanked) ++ rest))
    (clean : passage.views.clean = beforeClean ++ (printed.passage spaced id ++ restClean))
    (same : beforeClean.length = before.length) :
    ofStatement passage (before.length + (spaced printed.lead).length)
        (printed.spans.shifted (before.length + (spaced printed.lead).length)) =
      printed.imports ⟨passage.document,
        passage.startLine + before.count '\n' + (written printed.lead).count '\n'⟩ := by
  rw [PrintedStatement.passage, List.append_assoc, List.append_assoc, ← List.append_assoc]
    at masked clean
  have located : passage.locate (before.length + (spaced printed.lead).length) = ⟨passage.document,
      passage.startLine + before.count '\n' + (written printed.lead).count '\n'⟩ := by
    have lead := (clears_fillings printed.lead).count
    rw [Passage.locate, Views.lineOf, lineOf, masked, ← List.length_append, List.take_left,
      List.count_append, lead, Nat.add_assoc]
  have read := printed.ofStatement_printed clean
  rw [List.length_append, same] at read
  rw [read, located]

end PrintedStatement

theorem script_passage (fill : List Filling → List Char) (inside : List Char → List Char)
    (printed : PrintedStatement) (statements : List PrintedStatement) (trail : List Filling) :
    script fill inside (printed :: statements) trail =
      printed.passage fill inside ++ script fill inside statements trail := by
  rw [script, List.flatMap_cons, List.append_assoc, script]

/-- Statements that stand behind something are read as what they import, each at its own line. -/
theorem flatMap_statementsFrom (passage : Passage) (statements : List PrintedStatement)
    (trail : List Filling) {resume : Nat} {previous : Option Char} (before beforeClean : List Char)
    (masked : passage.views.masked = before ++ script spaced (·.map blanked) statements trail)
    (clean : passage.views.clean = beforeClean ++ script spaced id statements trail)
    (same : beforeClean.length = before.length) (free : resume ≤ before.length)
    (noWord : Header.isWordAt previous = false) :
    (statementsFrom before.length resume previous
        (script spaced (·.map blanked) statements trail)).flatMap
          (fun found => ofStatement passage found.1 found.2) =
      importsFrom passage.document (passage.startLine + before.count '\n') statements := by
  induction statements generalizing resume previous before beforeClean with
  | nil =>
    obtain ⟨last, -, nothing⟩ :=
      statementsFrom_blanks before.length resume (isAllBlank_spaced trail) noWord []
    rw [List.append_nil] at nothing
    rw [script, List.flatMap_nil, List.nil_append, nothing]
    rfl
  | cons printed statements inductionHypothesis =>
    rw [script_passage] at masked clean ⊢
    have here := printed.ofStatement_passage masked clean same
    have size : (printed.passage spaced (·.map blanked)).length = _ :=
      printed.length_passage fun _ => List.length_map _
    have sizeClean : (printed.passage spaced id).length = _ := printed.length_passage fun _ => rfl
    have sameBehind : (beforeClean ++ printed.passage spaced id).length =
        (before ++ printed.passage spaced (·.map blanked)).length := by
      rw [List.length_append, List.length_append, same, size, sizeClean]
    have freeBehind : before.length + (spaced printed.lead).length + printed.spans.stop ≤
        (before ++ printed.passage spaced (·.map blanked)).length := by
      rw [List.length_append, size]
      omega
    have count := printed.clears_passage.count
    rw [← List.append_assoc] at masked clean
    rw [printed.statementsFrom_passage _ free noWord, List.flatMap_cons, here, ← List.length_append,
      inductionHypothesis _ _ masked clean sameBehind freeBehind (by decide), List.count_append, count,
      ← Nat.add_assoc]
    rfl

/-- The imports of printed statements are read back, each under its own name and at the line on which its
statement begins. -/
theorem ofRegion_script (line : Nat) (statements : List PrintedStatement) (trail : List Filling)
    (document : String) :
    ofRegion ⟨line, String.ofList (script written id statements trail)⟩ document =
      importsFrom document line statements := by
  have views := (clears_script statements trail).views
  have isPassage : Region.passage ⟨line, String.ofList (script written id statements trail)⟩ document =
      ⟨document, line, script spaced id statements trail,
        script spaced (·.map blanked) statements trail⟩ := by
    rw [Region.passage, String.toList_ofList, views]
  rw [ofRegion, isPassage]
  exact flatMap_statementsFrom _ statements trail [] [] rfl rfl rfl (Nat.le_refl 0) rfl

example : ofRegion ⟨20, "\nimport type Base, \x7b\n  as as b, // \x7d it's\n  /* , */ type T,\n" ++
    "\x7d from './x';"⟩ "a" = [⟨"as", "./x", ⟨"a", 21⟩⟩, ⟨"T", "./x", ⟨"a", 21⟩⟩] := by
  decide +kernel

end Concord.Import
