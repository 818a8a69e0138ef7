import PsxPlayer.Settings.Basic
import PsxPlayer.Text.Numeral

namespace PsxPlayer

/-!
# Settings documents

A settings file is a document of TOML 1.1. This module reads its lines into
statements: an assignment of a value to a dotted key, or the heading of a section.

A setting is a truth value, an integer or a text. Besides, a choice among names
may be written as a table with that name as its only key and nothing behind it.
Values of other kinds belong to no setting, so that a document with one is
refused.
-/

/-- A value in a document. -/
inductive DocumentValue where
  | flag (value : Bool)
  | integer (value : Int)
  | text (value : String)
  /-- A table or list without elements. -/
  | hollow
  /-- A table with one key, which has a hollow value. -/
  | choice (name : String)
  deriving DecidableEq, Repr

/-- A line of a document. -/
inductive Statement where
  | assign (path : List String) (value : DocumentValue)
  | section (path : List String)
  deriving DecidableEq, Repr

namespace Document

/-- What a reader makes of the beginning of a text, with the rest of the text. -/
abbrev Read (α : Type) := Option (α × List Char)

/-! ## Characters -/

/-- Whether a character separates words inside a line. -/
def isSpace (char : Char) : Bool :=
  char == ' ' || char == '\t'

/-- Control characters, of which only the tab may stand in a text or a comment. -/
def isControl (char : Char) : Bool :=
  (char.toNat < 0x20 && char != '\t') || char.toNat == 0x7F

/-- Whether a character may stand in a key without quotes. -/
def isKeyChar (char : Char) : Bool :=
  char.isAlphanum || char == '_' || char == '-'

/-- The text behind spaces. -/
def skipSpaces (chars : List Char) : List Char :=
  chars.dropWhile isSpace

/-- The text behind an end of line. -/
def lineEnd? : List Char → Option (List Char)
  | '\n' :: rest => some rest
  | '\r' :: '\n' :: rest => some rest
  | _ => none

/-- The text behind a comment: its end of line, or the end of the document. -/
def afterComment? : List Char → Option (List Char)
  | [] => some []
  | char :: rest =>
      match lineEnd? (char :: rest) with
      | some _ => some (char :: rest)
      | none => if isControl char then none else afterComment? rest

/-- The text behind spaces and a comment, if there is one. -/
def afterRemark? (chars : List Char) : Option (List Char) :=
  match skipSpaces chars with
  | '#' :: rest => afterComment? rest
  | rest => some rest

/-- The text behind lines that say nothing; `fuel` is at least their number. -/
def skipLines : Nat → List Char → Option (List Char)
  | 0, chars => afterRemark? chars
  | fuel + 1, chars =>
      match afterRemark? chars with
      | some rest =>
          match lineEnd? rest with
          | some rest => skipLines fuel rest
          | none => some rest
      | none => none

/-- The text behind the ends of line and comments that may stand inside brackets. -/
def skipGap? (chars : List Char) : Option (List Char) :=
  skipLines chars.length chars

/-- The text behind the end of a statement, which ends its line. -/
def statementEnd? (chars : List Char) : Option (List Char) :=
  match afterRemark? chars with
  | some [] => some []
  | some rest => lineEnd? rest
  | none => none

/-! ## Texts -/

/-- The character that a letter behind a backslash stands for. -/
def escaped? : Char → Option Char
  | 'b' => some '\x08'
  | 'e' => some '\x1B'
  | 't' => some '\t'
  | 'n' => some '\n'
  | 'f' => some '\x0C'
  | 'r' => some '\r'
  | '"' => some '"'
  | '\\' => some '\\'
  | _ => none

/-- The character with a number in hexadecimal digits. -/
def numbered? (digits : List Char) : Option Char :=
  (numeral? 16 digits).bind fun code =>
    if code.isValidChar then some (Char.ofNat code) else none

/-- Put a character in front of what is read behind it. -/
def prepend (char : Char) : Read (List Char) → Read (List Char) :=
  Option.map fun (chars, rest) => (char :: chars, rest)

/-- Put a character, if there is one, in front of what is read behind it. -/
def prepend? (char : Option Char) (behind : Read (List Char)) : Read (List Char) :=
  char.bind fun char => prepend char behind

/-- The characters up to the quote that closes a text of one line. -/
def quoted : List Char → Read (List Char)
  | [] => none
  | '"' :: rest => some ([], rest)
  | '\\' :: 'x' :: a :: b :: rest => prepend? (numbered? [a, b]) (quoted rest)
  | '\\' :: 'u' :: a :: b :: c :: d :: rest => prepend? (numbered? [a, b, c, d]) (quoted rest)
  | '\\' :: 'U' :: a :: b :: c :: d :: e :: f :: g :: h :: rest =>
      prepend? (numbered? [a, b, c, d, e, f, g, h]) (quoted rest)
  | '\\' :: char :: rest => prepend? (escaped? char) (quoted rest)
  | char :: rest => if isControl char then none else prepend char (quoted rest)

/-- The characters up to the apostrophe that closes a literal text of one line. -/
def literal : List Char → Read (List Char)
  | [] => none
  | '\'' :: rest => some ([], rest)
  | char :: rest => if isControl char then none else prepend char (literal rest)

/-- The text without an end of line at its start. -/
def skipFirstEnd (chars : List Char) : List Char :=
  (lineEnd? chars).getD chars

/-- Characters that a backslash at the end of a line swallows. -/
def isFolded (char : Char) : Bool :=
  isSpace char || char == '\n' || char == '\r'

/--
The characters up to the three quotes that close a text of many lines. A
backslash at the end of a line removes the white space up to the next character:
`folding` says that this is going on.
-/
def quotedLines (folding : Bool) : List Char → Read (List Char)
  | [] => none
  | '"' :: '"' :: '"' :: '"' :: '"' :: rest => some (['"', '"'], rest)
  | '"' :: '"' :: '"' :: '"' :: rest => some (['"'], rest)
  | '"' :: '"' :: '"' :: rest => some ([], rest)
  | '\\' :: 'x' :: a :: b :: rest =>
      prepend? (numbered? [a, b]) (quotedLines false rest)
  | '\\' :: 'u' :: a :: b :: c :: d :: rest =>
      prepend? (numbered? [a, b, c, d]) (quotedLines false rest)
  | '\\' :: 'U' :: a :: b :: c :: d :: e :: f :: g :: h :: rest =>
      prepend? (numbered? [a, b, c, d, e, f, g, h]) (quotedLines false rest)
  | '\\' :: char :: rest =>
      if isFolded char then
        match lineEnd? (skipSpaces (char :: rest)) with
        | some _ => quotedLines true rest
        | none => none
      else
        prepend? (escaped? char) (quotedLines false rest)
  | '\r' :: '\n' :: rest =>
      if folding then quotedLines true rest else prepend '\n' (quotedLines false rest)
  | char :: rest =>
      if folding && isFolded char && char != '\r' then quotedLines true rest
      else if isControl char && char != '\n' then none
      else prepend char (quotedLines false rest)

/-- The characters up to the three apostrophes that close a literal of many lines. -/
def literalLines : List Char → Read (List Char)
  | [] => none
  | '\'' :: '\'' :: '\'' :: '\'' :: '\'' :: rest => some (['\'', '\''], rest)
  | '\'' :: '\'' :: '\'' :: '\'' :: rest => some (['\''], rest)
  | '\'' :: '\'' :: '\'' :: rest => some ([], rest)
  | '\r' :: '\n' :: rest => prepend '\n' (literalLines rest)
  | char :: rest =>
      if isControl char && char != '\n' then none else prepend char (literalLines rest)

/-- Read characters as a text. -/
def asText (found : Read (List Char)) : Read String :=
  found.map fun (chars, rest) => (String.ofList chars, rest)

/-- Read a text of one line or of many. -/
def text? : List Char → Read String
  | '"' :: '"' :: '"' :: rest => asText (quotedLines false (skipFirstEnd rest))
  | '"' :: rest => asText (quoted rest)
  | '\'' :: '\'' :: '\'' :: rest => asText (literalLines (skipFirstEnd rest))
  | '\'' :: rest => asText (literal rest)
  | _ => none

/-! ## Keys -/

/-- Read one part of a key. -/
def keyPart? : List Char → Read String
  | '"' :: rest => asText (quoted rest)
  | '\'' :: rest => asText (literal rest)
  | chars =>
      match chars.takeWhile isKeyChar with
      | [] => none
      | name => some (String.ofList name, chars.dropWhile isKeyChar)

/-- Read a key of parts with points between them; `fuel` is at least their number. -/
def key? : Nat → List Char → Read (List String)
  | 0, _ => none
  | fuel + 1, chars =>
      match keyPart? chars with
      | some (part, rest) =>
          match skipSpaces rest with
          | '.' :: rest =>
              (key? fuel (skipSpaces rest)).map fun (parts, rest) => (part :: parts, rest)
          | rest => some ([part], rest)
      | none => none

/-! ## Values -/

/-- Digits without the underscores, each of which stands between two digits. -/
def plainDigits? : List Char → Option (List Char)
  | [] => none
  | [digit] => if digit = '_' then none else some [digit]
  | digit :: '_' :: next :: rest =>
      if digit = '_' then none else (plainDigits? (next :: rest)).map (digit :: ·)
  | digit :: rest =>
      if digit = '_' then none else (plainDigits? rest).map (digit :: ·)

/-- The value of digits in a base. -/
def magnitude? (base : Nat) (digits : List Char) : Option Nat :=
  (plainDigits? digits).bind (numeral? base)

/-- The value of decimal digits, of which only a single zero may come first. -/
def decimal? : List Char → Option Nat
  | ['0'] => some 0
  | '0' :: _ => none
  | digits => magnitude? 10 digits

/-- The integer that a word stands for: decimal with a sign, or in another base. -/
def integerOf? : List Char → Option Int
  | '0' :: 'x' :: digits => (magnitude? 16 digits).map Int.ofNat
  | '0' :: 'o' :: digits => (magnitude? 8 digits).map Int.ofNat
  | '0' :: 'b' :: digits => (magnitude? 2 digits).map Int.ofNat
  | '+' :: digits => (decimal? digits).map Int.ofNat
  | '-' :: digits => (decimal? digits).map fun value => -Int.ofNat value
  | digits => (decimal? digits).map Int.ofNat

/-- Whether a character may stand in a truth value or an integer. -/
def isWordChar (char : Char) : Bool :=
  isKeyChar char || char == '+' || char == '.' || char == ':'

/-- The value that a word without quotes stands for. -/
def wordValue? (word : List Char) : Option DocumentValue :=
  if word = "true".toList then some (.flag true)
  else if word = "false".toList then some (.flag false)
  else (integerOf? word).map .integer

/-- The text behind a closing bracket and what may stand in front of it. -/
def closing? (bracket : Char) (chars : List Char) : Option (List Char) :=
  match skipGap? chars with
  | some (char :: rest) => if char = bracket then some rest else none
  | _ => none

/-- The text behind an empty list or table. -/
def hollow? : List Char → Option (List Char)
  | '[' :: rest => closing? ']' rest
  | '{' :: rest => closing? '}' rest
  | _ => none

/--
Read the key and the hollow value of a table whose opening brace has been read. A
comma may follow the value.
-/
def choice? (chars : List Char) : Option (DocumentValue × List Char) := do
  let (name, rest) ← keyPart? (← skipGap? chars)
  let '=' :: rest ← skipGap? rest | none
  let rest ← hollow? (← skipGap? rest)
  match ← skipGap? rest with
  | ',' :: rest => return (.choice name, ← closing? '}' rest)
  | rest => return (.choice name, ← closing? '}' rest)

/-- Read a table or a list. -/
def grouped? (chars : List Char) : Read DocumentValue :=
  match hollow? chars with
  | some rest => some (.hollow, rest)
  | none =>
      match chars with
      | '{' :: rest => choice? rest
      | _ => none

/-- Read a value. -/
def value? : List Char → Read DocumentValue
  | [] => none
  | first :: rest =>
      let chars := first :: rest
      if first = '"' || first = '\'' then
        (text? chars).map fun (text, rest) => (.text text, rest)
      else if first = '[' || first = '{' then
        grouped? chars
      else
        (wordValue? (chars.takeWhile isWordChar)).map fun value =>
          (value, chars.dropWhile isWordChar)

/-! ## Statements -/

/-- Read the heading of a section, whose opening bracket has been read. -/
def heading? (chars : List Char) : Option (Statement × List Char) := do
  let (path, rest) ← key? chars.length (skipSpaces chars)
  let ']' :: rest := skipSpaces rest | none
  return (.section path, ← statementEnd? rest)

/-- Read an assignment. -/
def assignment? (chars : List Char) : Option (Statement × List Char) := do
  let (path, rest) ← key? chars.length chars
  let '=' :: rest := skipSpaces rest | none
  let (value, rest) ← value? (skipSpaces rest)
  return (.assign path value, ← statementEnd? rest)

/-- Read a statement. -/
def statement? : List Char → Read Statement
  | '[' :: rest => heading? rest
  | chars => assignment? chars

/-- Read all statements; `fuel` is at least their number. -/
def statements? : Nat → List Char → Option (List Statement)
  | 0, chars => if chars.isEmpty then some [] else none
  | fuel + 1, chars => do
      match ← skipLines chars.length chars with
      | [] => return []
      | rest =>
          let (statement, rest) ← statement? rest
          return statement :: (← statements? fuel rest)

/-- The characters of a document without the byte order mark in front. -/
def contents (text : String) : List Char :=
  match text.toList with
  | '\uFEFF' :: rest => rest
  | chars => chars

/-- The statements of a document, if it is one. -/
def parse? (text : String) : Option (List Statement) :=
  let chars := contents text
  statements? (chars.length + 1) chars

end Document

end PsxPlayer
