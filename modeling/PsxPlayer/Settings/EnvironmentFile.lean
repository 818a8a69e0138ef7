import PsxPlayer.Text.Alphanumeric
import PsxPlayer.Text.Blank
import PsxPlayer.Text.Utf8

namespace PsxPlayer

/-!
# Environment files

A file of lines `KEY=value` that give variables values. A value may be quoted:
between apostrophes everything stands for itself; between double quotes and
outside of quotes a backslash escapes a character, and `$NAME` and `${NAME}` stand
for the value of another variable; without braces the name ends before the first
character that is no letter and no number. Quoted values may go over several lines.
A comment starts with `#` at the start of a line or behind a blank.

Reading ends at the first line that is malformed.
-/

/-- A part of a value. -/
inductive ValuePiece where
  | char (value : Char)
  /-- The value of another variable. -/
  | reference (name : String)
  deriving DecidableEq, Repr

/-- A variable and its value. -/
structure EnvironmentEntry where
  key : String
  pieces : List ValuePiece
  deriving DecidableEq, Repr

namespace EnvironmentFile

/-! ## Lines -/

/-- What the characters of a line so far leave open. -/
inductive LineState where
  | complete
  /-- Behind a blank, where a comment may start. -/
  | blank
  | escape
  | literal
  | literalEscape
  | quoted
  | quotedEscape
  deriving DecidableEq, Repr

namespace LineState

/-- The state behind a character outside of quotes. -/
def outside (char : Char) : LineState :=
  match char with
  | '\\' => .escape
  | '"' => .quoted
  | '\'' => .literal
  | _ => .complete

/-- Whether a comment may start behind a character. -/
def opensComment (char : Char) : Bool :=
  isBlank char && char != '\n' && char != '\r'

/-- The state behind a character, unless it starts a comment. -/
def next? (state : LineState) (char : Char) : Option LineState :=
  match state with
  | .complete => some (if opensComment char then .blank else outside char)
  | .blank => if char = '#' then none else some (outside char)
  | .escape => some .complete
  | .quoted =>
      some (if char = '\\' then .quotedEscape else if char = '"' then .complete else .quoted)
  | .quotedEscape => some .quoted
  | .literal =>
      some (if char = '\\' then .literalEscape else if char = '\'' then .complete else .literal)
  | .literalEscape => some .literal

end LineState

/--
The state at the end of a line, or nothing if the line ends with a comment, and
the characters in front of the comment.
-/
def scanLine : LineState → List Char → Option LineState × List Char
  | state, [] => (some state, [])
  | state, char :: rest =>
      match state.next? char with
      | some state =>
          let (last, kept) := scanLine state rest
          (last, char :: kept)
      | none => (none, [])

/-- Whether a line is nothing but a comment. -/
def isRemark (chars : List Char) : Bool :=
  (chars.dropWhile isBlank).head? == some '#'

/-- A line without its end. -/
def withoutEnd (chars : List Char) : List Char :=
  match chars.reverse with
  | '\n' :: '\r' :: rest => rest.reverse
  | '\n' :: rest => rest.reverse
  | _ => chars

/--
Join lines as long as something is open. `buffer` holds the lines joined so far;
a line that is no text, or an end of the file where something is open, gives a
line that is missing.
-/
def joinLines :
    LineState → List Char → List (Option (List Char)) → List (Option (List Char))
  | state, _, [] => if state = .complete then [] else [none]
  | _, _, none :: _ => [none]
  | state, buffer, some line :: rest =>
      if isRemark (buffer ++ line) then
        some [] :: joinLines .complete [] rest
      else
        match scanLine state line with
        | (none, kept) => some (buffer ++ kept) :: joinLines .complete [] rest
        | (some .complete, _) =>
            some (withoutEnd (buffer ++ line)) :: joinLines .complete [] rest
        | (some state, _) => joinLines state (buffer ++ line) rest

/-- The bytes of a file line by line; every line but the last ends with a line feed. -/
def splitBytes : List UInt8 → List (List UInt8)
  | [] => []
  | byte :: rest =>
      if byte = 0x0A then
        [byte] :: splitBytes rest
      else
        match splitBytes rest with
        | [] => [[byte]]
        | line :: lines => (byte :: line) :: lines

/-- The text of a line, if it is text. -/
def lineText? (bytes : List UInt8) : Option (List Char) :=
  (Utf8.decode? ⟨bytes.toArray⟩).map String.toList

/-- The bytes of a file without the byte order mark in front. -/
def contents (file : ByteArray) : List UInt8 :=
  match file.toList with
  | 0xEF :: 0xBB :: 0xBF :: rest => rest
  | bytes => bytes

/-! ## Values -/

/-- What the characters of a value so far leave open. -/
inductive ValueState where
  | plain
  | literal
  | quoted
  /-- Behind a backslash, inside or outside of double quotes. -/
  | escape (inQuotes : Bool)
  /-- Behind a dollar sign and the name so far. -/
  | name (inQuotes : Bool) (chars : List Char)
  /-- Behind `${` and the name so far. -/
  | braced (inQuotes : Bool) (chars : List Char)
  /-- Behind the blank that ends the value. -/
  | done
  deriving DecidableEq, Repr

/-- The state inside or outside of double quotes. -/
def resting (inQuotes : Bool) : ValueState :=
  if inQuotes then .quoted else .plain

/-- A reference to the variable with a name. -/
def referenceTo (chars : List Char) : ValuePiece :=
  .reference (String.ofList chars)

/-- The character that one behind a backslash stands for. -/
def escaped? (char : Char) : Option Char :=
  match char with
  | '\\' | '\'' | '"' | '$' | ' ' => some char
  | 'n' => some '\n'
  | _ => none

/-- The pieces that end a value in some state; nothing if a quote or a brace is open. -/
def lastPieces? : ValueState → Option (List ValuePiece)
  | .plain | .done | .escape false => some []
  | .name false chars => some [referenceTo chars]
  | _ => none

/-- The pieces of a character and the state behind it, if it may stand there. -/
def nextPieces? (state : ValueState) (char : Char) : Option (List ValuePiece × ValueState) :=
  match state with
  | .done => if char = ' ' ∨ char = '\t' then some ([], .done) else none
  | .escape inQuotes => (escaped? char).map fun char => ([.char char], resting inQuotes)
  | .literal => if char = '\'' then some ([], .plain) else some ([.char char], .literal)
  | .name inQuotes chars =>
      if isAlphanumeric char then some ([], .name inQuotes (chars ++ [char]))
      else if char = '{' ∧ chars = [] then some ([], .braced inQuotes [])
      else if char = '$' then some ([referenceTo chars], .name inQuotes [])
      else some ([referenceTo chars, .char char], resting inQuotes)
  | .braced inQuotes chars =>
      if char = '}' then some ([referenceTo chars], resting inQuotes)
      else some ([], .braced inQuotes (chars ++ [char]))
  | .quoted =>
      match char with
      | '$' => some ([], .name true [])
      | '"' => some ([], .plain)
      | '\\' => some ([], .escape true)
      | _ => some ([.char char], .quoted)
  | .plain =>
      match char with
      | '$' => some ([], .name false [])
      | '\'' => some ([], .literal)
      | '"' => some ([], .quoted)
      | '\\' => some ([], .escape false)
      | ' ' | '\t' => some ([], .done)
      | _ => some ([.char char], .plain)

/-- The pieces of a value, up to a comment behind it. -/
def pieces? : ValueState → List Char → Option (List ValuePiece)
  | state, [] => lastPieces? state
  | .done, '#' :: _ => some []
  | state, char :: rest =>
      (nextPieces? state char).bind fun (found, state) =>
        (pieces? state rest).map (found ++ ·)

/-! ## Entries -/

/-- Whether a character may start a key. -/
def isKeyStart (char : Char) : Bool :=
  char.isAlpha || char == '_'

/-- Whether a character may stand in a key. -/
def isKeyChar (char : Char) : Bool :=
  char.isAlphanum || char == '_' || char == '.'

/-- A text without the blanks in front. -/
def skipBlanks (chars : List Char) : List Char :=
  chars.dropWhile isBlank

/-- Read a key and the blanks behind it. -/
def key? (chars : List Char) : Option (String × List Char) :=
  if (chars.head?.map isKeyStart).getD false then
    some (String.ofList (chars.takeWhile isKeyChar), skipBlanks (chars.dropWhile isKeyChar))
  else
    none

/-- Read a key and the equals sign behind it, which the word `export` may precede. -/
def assignment? (chars : List Char) : Option (String × List Char) :=
  match key? chars with
  | some (key, '=' :: rest) => some (key, rest)
  | some ("export", rest) =>
      match key? rest with
      | some (key, '=' :: rest) => some (key, rest)
      | _ => none
  | _ => none

/-- The entry of a line. -/
def entry? (chars : List Char) : Option EnvironmentEntry :=
  (assignment? chars).bind fun (key, rest) =>
    match skipBlanks rest with
    | [] => some ⟨key, []⟩
    | '#' :: _ => some ⟨key, []⟩
    | value => (pieces? .plain value).map fun pieces => ⟨key, pieces⟩

/-- The entries of lines up to the first that is malformed. -/
def entriesOfLines : List (Option (List Char)) → List EnvironmentEntry
  | [] => []
  | none :: _ => []
  | some line :: rest =>
      match trimChars line with
      | [] => entriesOfLines rest
      | '#' :: _ => entriesOfLines rest
      | chars =>
          match entry? chars with
          | some entry => entry :: entriesOfLines rest
          | none => []

/-- The entries of a file. -/
def entries (file : ByteArray) : List EnvironmentEntry :=
  entriesOfLines (joinLines .complete [] ((splitBytes (contents file)).map lineText?))

end EnvironmentFile

end PsxPlayer
