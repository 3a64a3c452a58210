/-
Module: RubyBindings.Toml.Document
Purpose: TOML documents. Every reader takes the input from where it stands and gives what it read
  with the input after it, or nothing if the input is not TOML there.
Main exports: readDocument
-/
import RubyBindings.Toml.Quoted
import RubyBindings.Toml.DateTime
import RubyBindings.Toml.Table

namespace RubyBindings.Toml

/-- A space or a tab. -/
def isBlank (character : Char) : Bool :=
  character == ' ' || character == '\t'

/-- Drop spaces and tabs. -/
def dropBlanks (input : List Char) : List Char :=
  input.dropWhile isBlank

/-- Drop everything between two values or lines: blanks, line ends and comments. `inComment` says
that a comment has begun. -/
def dropFiller (inComment : Bool) : List Char → Option (List Char)
  | [] => some []
  | '\n' :: rest => dropFiller false rest
  | '\r' :: '\n' :: rest => dropFiller false rest
  | character :: rest =>
    if inComment then if isPlain character then dropFiller true rest else none
    else if isBlank character then dropFiller false rest
    else if character = '#' then dropFiller true rest
    else some (character :: rest)

/-- Read the end of a line: blanks, a comment, and then a line end or the end of the document. -/
def readLineEnd (inComment : Bool) : List Char → Option (List Char)
  | [] => some []
  | '\n' :: rest => some rest
  | '\r' :: '\n' :: rest => some rest
  | character :: rest =>
    if inComment then if isPlain character then readLineEnd true rest else none
    else if isBlank character then readLineEnd false rest
    else if character = '#' then readLineEnd true rest
    else none

/-- A character of a key without quotes. -/
def isBareKey (character : Char) : Bool :=
  character.isAlphanum || character == '_' || character == '-'

/-- Read one key, with or without quotes. -/
def readKey : List Char → Option (List Char × List Char)
  | '"' :: rest => readBasic rest
  | '\'' :: rest => readLiteral rest
  | input =>
    let key := input.takeWhile isBareKey
    if key.isEmpty then none else some (key, input.dropWhile isBareKey)

/-- How many keys a dotted key may have. -/
def longestKeyPath : Nat := 80

/-- Read the keys of a dotted key, at most `budget` of them, and drop the blanks after it. -/
def readKeysWithin : Nat → List Char → Option (List (List Char) × List Char)
  | 0, _ => none
  | budget + 1, input => do
    let (key, rest) ← readKey (dropBlanks input)
    match dropBlanks rest with
    | '.' :: rest =>
      let (keys, rest) ← readKeysWithin budget rest
      return (key :: keys, rest)
    | rest => return ([key], rest)

/-- A dotted key: the keys before the last one, and the last one. -/
structure KeyPath where
  path : List (List Char)
  key : List Char

/-- Read a dotted key and drop the blanks after it. -/
def readKeyPath (input : List Char) : Option (KeyPath × List Char) := do
  let (keys, rest) ← readKeysWithin longestKeyPath input
  let key ← keys.getLast?
  return (⟨keys.dropLast, key⟩, rest)

/-- A character that ends a value without quotes: a line end, or a mark that TOML puts between
values. -/
def endsLiteral (character : Char) : Bool :=
  ['\r', '\n', '=', ',', '[', ']', '{', '}', '#'].contains character

/-- A character that goes on with a value without quotes when only blanks come before it. -/
def resumesLiteral (character : Char) : Bool :=
  !endsLiteral character && character != '.' && character != '"' && character != '\''

/-- Take the longest literal without quotes from the input. Blanks belong to it if the literal goes
on behind them, as it does between a date and a time. `inGap` says that this is so for the blanks
that come next. -/
def splitLiteral (inGap : Bool) : List Char → List Char × List Char
  | [] => ([], [])
  | character :: rest =>
    let belongs :=
      if isBlank character then inGap || (dropBlanks rest).head?.any resumesLiteral
      else !endsLiteral character
    if belongs then
      let (literal, rest) := splitLiteral (isBlank character) rest
      (character :: literal, rest)
    else ([], character :: rest)

/-- The value that a literal without quotes writes. -/
def literalValue? (literal : List Char) : Option Value :=
  if literal = ['t', 'r', 'u', 'e'] then some (.boolean true)
  else if literal = ['f', 'a', 'l', 's', 'e'] then some (.boolean false)
  else if isFloat literal then some (.float literal)
  else if isDateTime literal then some (.dateTime literal)
  else if isInteger literal then some (.integer literal)
  else none

/-- Read a value without quotes. -/
def readLiteralValue (input : List Char) : Option (Value × List Char) :=
  let (literal, rest) := splitLiteral false input
  (literalValue? literal).map fun value => (value, rest)

/-- Read a value that holds no other values. -/
def readScalar : List Char → Option (Value × List Char)
  | '"' :: '"' :: '"' :: rest =>
    (readBasicLines rest).map fun (text, rest) => (.text text, rest)
  | '\'' :: '\'' :: '\'' :: rest =>
    (readLiteralLines rest).map fun (text, rest) => (.text text, rest)
  | '"' :: rest => (readBasic rest).map fun (text, rest) => (.text text, rest)
  | '\'' :: rest => (readLiteral rest).map fun (text, rest) => (.text text, rest)
  | input => readLiteralValue input

/-- Read the items of an array and its closing bracket, at most `budget` items. A comma may stand
after the last one. -/
def readItems (readValue : List Char → Option (Value × List Char)) :
    Nat → List Char → Option (List Value × List Char)
  | 0, _ => none
  | budget + 1, input => do
    match ← dropFiller false input with
    | ']' :: rest => return ([], rest)
    | input =>
      let (item, rest) ← readValue input
      match ← dropFiller false rest with
      | ',' :: rest =>
        let (items, rest) ← readItems readValue budget rest
        return (item :: items, rest)
      | ']' :: rest => return ([item], rest)
      | _ => none

/-- Read a dotted key, the equals sign and the value, and define the key in a table. `dropSpace`
drops what may stand on both sides of the equals sign. -/
def readDefinition (dropSpace : List Char → Option (List Char))
    (readValue : List Char → Option (Value × List Char)) (table : Table) (input : List Char) :
    Option (Table × List Char) := do
  let (keyPath, rest) ← readKeyPath input
  match ← dropSpace rest with
  | '=' :: rest =>
    let (value, rest) ← readValue (← dropSpace rest)
    let table ← table.insertDotted keyPath.path keyPath.key value
    return (table, rest)
  | _ => none

/-- Read the definitions of an inline table and its closing brace, at most `budget` of them. A
comma may stand after the last one, and a definition may go over several lines, save for its
key. -/
def readDefinitions (readValue : List Char → Option (Value × List Char)) :
    Nat → Table → List Char → Option (Table × List Char)
  | 0, _, _ => none
  | budget + 1, table, input => do
    match ← dropFiller false input with
    | '}' :: rest => return (table, rest)
    | input =>
      let (table, rest) ← readDefinition (dropFiller false) readValue table input
      match ← dropFiller false rest with
      | ',' :: rest => readDefinitions readValue budget table rest
      | '}' :: rest => return (table, rest)
      | _ => none

/-- How deep arrays and inline tables may be nested. -/
def deepestNesting : Nat := 80

/-- Read a value in which arrays and inline tables are nested at most `depth` deep. -/
def readValueWithin : Nat → List Char → Option (Value × List Char)
  | depth + 1, '[' :: rest =>
    (readItems (readValueWithin depth) (rest.length + 1) rest).map fun (items, rest) =>
      (.array items, rest)
  | depth + 1, '{' :: rest =>
    (readDefinitions (readValueWithin depth) (rest.length + 1) [] rest).map fun (table, rest) =>
      (.table .inline table, rest)
  | _, input => readScalar input

/-- Read a value. -/
def readValue (input : List Char) : Option (Value × List Char) :=
  readValueWithin deepestNesting input

/-- The header whose table the following lines define. -/
inductive Header where
  /-- The document itself, before any header. -/
  | document
  | table (keyPath : KeyPath)
  | tables (keyPath : KeyPath)

/-- What has been read of a document: the tables that are finished, and the one that the current
lines define. -/
structure Draft where
  finished : Table
  header : Header
  current : Table

namespace Draft

/-- Nothing has been read. -/
def empty : Draft where
  finished := []
  header := .document
  current := []

/-- Put the current table in its place: an array of tables gets it as its last one. -/
def finish (draft : Draft) : Option Table :=
  match draft.header with
  | .document => some draft.current
  | .table ⟨path, key⟩ =>
    draft.finished.under path fun table => table.define key (.table .header draft.current)
  | .tables ⟨path, key⟩ =>
    draft.finished.under path fun table =>
      match table.find? key with
      | none => some (table ++ [(key, .tables [.table .header draft.current])])
      | some (.tables items) =>
        some (table.put key (.tables (items ++ [.table .header draft.current])))
      | some _ => none

/-- Begin the table of a header. What longer headers have put into it already stays. -/
def beginTable (draft : Draft) (keyPath : KeyPath) : Option Draft := do
  let table ← draft.finish
  let existing ← Table.find? (← parentOf keyPath.path table) keyPath.key |> resumed
  let finished ← table.under keyPath.path fun parent => some (parent.remove keyPath.key)
  return { finished, header := .table keyPath, current := existing }
where
  /-- The table at the end of a path. -/
  parentOf : List (List Char) → Table → Option Table
    | [], table => some table
    | key :: path, table =>
      match table.find? key with
      | none => some []
      | some (.table _ entries) => parentOf path entries
      | some (.tables items) =>
        match items.getLast? with
        | some (.table _ entries) => parentOf path entries
        | _ => none
      | some _ => none
  /-- The entries that a new header goes on with. -/
  resumed : Option Value → Option Table
    | none => some []
    | some (.table .implied entries) => some entries
    | some _ => none

/-- Begin another table of an array of tables. -/
def beginTables (draft : Draft) (keyPath : KeyPath) : Option Draft := do
  return { finished := ← draft.finish, header := .tables keyPath, current := [] }

/-- Read one header or definition with the end of its line. -/
def readLine (draft : Draft) : List Char → Option (Draft × List Char)
  | '[' :: '[' :: rest => do
    match ← readKeyPath rest with
    | (keyPath, ']' :: ']' :: rest) =>
      return (← draft.beginTables keyPath, ← readLineEnd false rest)
    | _ => none
  | '[' :: rest => do
    match ← readKeyPath rest with
    | (keyPath, ']' :: rest) =>
      return (← draft.beginTable keyPath, ← readLineEnd false rest)
    | _ => none
  | input => do
    let (current, rest) ← readDefinition (some ∘ dropBlanks) readValue draft.current input
    return ({ draft with current }, ← readLineEnd false rest)

/-- Read headers and definitions up to the end of the document, at most `budget` of them. -/
def readLines : Nat → Draft → List Char → Option Draft
  | 0, _, _ => none
  | budget + 1, draft, input => do
    match ← dropFiller false input with
    | [] => return draft
    | input =>
      let (draft, rest) ← draft.readLine input
      readLines budget draft rest

end Draft

/-- Drop a byte order mark at the beginning. -/
def withoutByteOrderMark : List Char → List Char
  | '\ufeff' :: rest => rest
  | input => input

/-- Read a whole document. -/
def readDocument (text : String) : Option Table := do
  let input := withoutByteOrderMark text.toList
  let draft ← Draft.readLines (input.length + 1) .empty input
  draft.finish

end RubyBindings.Toml
