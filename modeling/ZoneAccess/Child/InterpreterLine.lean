import ZoneAccess.Text.Utf8

namespace ZoneAccess.Child

/-!
# Interpreter lines

A program file that is not for the machine may name its interpreter in its first line.

* `InterpreterLine` — the path of an interpreter, and an argument for it;
* `InterpreterLine.ofContent?` — the one at the front of a file. The system looks at a fixed
  number of bytes only; a name that may go on behind them counts for nothing, while an
  argument is cut off.
-/

/-- The path of an interpreter, and an argument for it. -/
structure InterpreterLine where
  interpreter : Bytes
  argument : Option Bytes
  deriving DecidableEq

namespace InterpreterLine

/-- The number of bytes that the system looks at. -/
def window : Nat := 256

/-- Whether a byte is blank. -/
def isBlank (b : UInt8) : Bool := b == 32 || b == 9

/-- Whether a byte ends the name of an interpreter. -/
def isEnd (b : UInt8) : Bool := isBlank b || b == 0

/-- Bytes without the blanks at either end. -/
def trimmed (bs : Bytes) : Bytes :=
  ((bs.dropWhile isBlank).reverse.dropWhile isBlank).reverse

/-- What the text of the line says: the name ends at a blank, and the argument is all that
    follows the blanks behind it. -/
def ofText (text : Bytes) : InterpreterLine :=
  let name := text.takeWhile fun b => !isEnd b
  match text.drop name.length with
  | [] => ⟨name, none⟩
  | b :: rest =>
    if b = 0 then ⟨name, none⟩
    else ⟨name, some ((rest.dropWhile isBlank).takeWhile (· != 0))⟩

/-- The interpreter line of a file, which has to end in a line feed or to leave no doubt
    where the name ends. Behind the end of the file stand zeros. -/
def ofContent? (content : Bytes) : Option InterpreterLine :=
  match (content ++ List.replicate window 0).take window with
  | 35 :: 33 :: rest =>
    let line := rest.takeWhile fun b => b != 10 && b != 0
    let isClosed := (rest.drop line.length).head? == some 10
    -- Without a line feed the last byte is not looked at.
    let text := trimmed (if isClosed then line else rest.dropLast)
    if text = [] then none
    else if isClosed || (rest.dropWhile isBlank).any isEnd then some (ofText text)
    else none
  | _ => none

end InterpreterLine

end ZoneAccess.Child
