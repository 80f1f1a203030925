import ZoneAccess.Atom
import ZoneAccess.Question

namespace ZoneAccess

/-!
# Queries

* `Predicate` — the name of the engine's entry predicate, which has to be an atom that
  needs no quotes;
* `Query` — a call of the entry predicate on the tokens of a question, of which there is
  at least one;
* `Query.text` — the goal that is sent, `name(['first','second'])`;
* `QueryError` — why a text is no query.
-/

/-- Why there is no query. -/
inductive QueryError
  | noTokens
  | badPredicate (name : String)
  deriving DecidableEq

/-- The wording of a query error. -/
def QueryError.message : QueryError → String
  | noTokens => "cannot compile an empty token sequence"
  | badPredicate name =>
    "entry predicate '" ++ name ++
      "' must start with a lowercase letter and contain only letters, digits or '_'"

/-- Whether a character is one of the 26 small letters of ASCII. -/
def isSmallLetter (c : Char) : Bool := 97 ≤ c.toNat && c.toNat ≤ 122

/-- Whether a character may stand behind the first in a plain name. -/
def isNameChar (c : Char) : Bool :=
  isSmallLetter c || (65 ≤ c.toNat && c.toNat ≤ 90) || (48 ≤ c.toNat && c.toNat ≤ 57) || c == '_'

/-- Whether characters form an atom that needs no quotes. -/
def isPlainName : List Char → Bool
  | [] => false
  | c :: cs => isSmallLetter c && cs.all isNameChar

/-- The name of the entry predicate. -/
structure Predicate where
  name : String
  plain : isPlainName name.toList = true
  deriving DecidableEq

/-- A name as that of the entry predicate. -/
def Predicate.ofName (name : String) : Except QueryError Predicate :=
  if h : isPlainName name.toList = true then .ok ⟨name, h⟩ else .error (.badPredicate name)

/-- A predicate has the name that it was made of. -/
theorem Predicate.name_of_ofName {name : String} {predicate : Predicate}
    (h : ofName name = .ok predicate) : predicate.name = name := by
  unfold ofName at h
  split at h
  · rw [← Except.ok.inj h]
  · cases h

/-- The entry predicate called on tokens. -/
structure Query where
  predicate : Predicate
  tokens : List String
  tokens_ne_nil : tokens ≠ []

namespace Query

/-- The call on tokens, unless there are none. -/
def ofTokens (predicate : Predicate) (tokens : List String) : Except QueryError Query :=
  if h : tokens = [] then .error .noTokens else .ok ⟨predicate, tokens, h⟩

/-- The call on the tokens of a question. -/
def ofQuestion (predicate : Predicate) (question : String) : Except QueryError Query :=
  ofTokens predicate (Question.tokens question)

/-- A question with tokens becomes the query of them. -/
theorem ofQuestion_of_tokens {predicate : Predicate} {question : String}
    (h : Question.tokens question ≠ []) :
    ofQuestion predicate question = .ok ⟨predicate, Question.tokens question, h⟩ := by
  rw [ofQuestion, ofTokens, dif_neg h]

/-- One without tokens becomes none, whatever the predicate. -/
theorem ofQuestion_of_no_tokens {predicate : Predicate} {question : String}
    (h : Question.tokens question = []) : ofQuestion predicate question = .error .noTokens := by
  rw [ofQuestion, ofTokens, dif_pos h]

/-- The characters of a call. -/
def chars (predicate : List Char) (tokens : List (List Char)) : List Char :=
  predicate ++ "([".toList ++ [','].intercalate (tokens.map Atom.quoteChars) ++ "])".toList

/-- The goal that is sent to the engine. -/
def text (q : Query) : String :=
  String.ofList (chars q.predicate.name.toList (q.tokens.map String.toList))

end Query

end ZoneAccess
