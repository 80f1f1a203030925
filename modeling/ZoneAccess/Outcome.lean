namespace ZoneAccess

/-!
# Outcomes

* `Outcome` — what a question or a setup check comes to;
* `Outcome.display` — an outcome in plain text, failures marked as such;
* `Outcome.record` — an outcome as a JSON object with its kind and its message.
-/

/-- The kinds of outcome. -/
inductive OutcomeKind
  | success
  | setupError
  | runtimeError
  deriving DecidableEq

/-- The name of a kind in records. -/
def OutcomeKind.name : OutcomeKind → String
  | success => "success"
  | setupError => "setup_error"
  | runtimeError => "runtime_error"

/-- An answer, or what went wrong with the setup or with a question. -/
inductive Outcome
  | success (message : String)
  | setupError (message : String)
  | runtimeError (message : String)
  deriving DecidableEq

namespace Outcome

/-- The kind of an outcome. -/
def kind : Outcome → OutcomeKind
  | success _ => .success
  | setupError _ => .setupError
  | runtimeError _ => .runtimeError

/-- The text of an outcome, without a mark. -/
def message : Outcome → String
  | success m => m
  | setupError m => m
  | runtimeError m => m

/-- Whether all went well. -/
def isSuccess : Outcome → Bool
  | success _ => true
  | _ => false

/-- An outcome in plain text. -/
def display : Outcome → String
  | success m => m
  | setupError m => "setup error: " ++ m
  | runtimeError m => "error: " ++ m

/-- An outcome with this kind and this message. -/
def ofKind : OutcomeKind → String → Outcome
  | .success => success
  | .setupError => setupError
  | .runtimeError => runtimeError

/-- An outcome is its kind and its message. -/
theorem ofKind_kind_message (o : Outcome) : ofKind o.kind o.message = o := by
  cases o <;> rfl

/-! ### Records -/

/-- A character inside a JSON string. -/
def jsonChar (c : Char) : List Char :=
  if c = '\"' then ['\\', '\"']
  else if c = '\\' then ['\\', '\\']
  else if c.toNat = 8 then ['\\', 'b']
  else if c.toNat = 9 then ['\\', 't']
  else if c.toNat = 10 then ['\\', 'n']
  else if c.toNat = 12 then ['\\', 'f']
  else if c.toNat = 13 then ['\\', 'r']
  else if c.toNat < 0x20 then
    ['\\', 'u', '0', '0', Nat.digitChar (c.toNat / 16), Nat.digitChar (c.toNat % 16)]
  else [c]

/-- The characters of a JSON string. -/
def jsonString (cs : List Char) : List Char := ['\"'] ++ cs.flatMap jsonChar ++ ['\"']

/-- The characters of the record of an outcome. -/
def recordChars (o : Outcome) : List Char :=
  "\x7b\"kind\":".toList ++ jsonString o.kind.name.toList ++ ",\"message\":".toList ++
    jsonString o.message.toList ++ "\x7d".toList

/-- An outcome as a JSON object. -/
def record (o : Outcome) : String := String.ofList o.recordChars

end Outcome

end ZoneAccess
