import RouteTree.Toml.Item
import RouteTree.Toml.Scalar

namespace RouteTree.Toml

/-- Arrays, inline tables and dotted keys that reach this depth are refused. -/
def depthLimit : Nat := 80

/-- Drops a comment up to the end of its line; it holds no control characters. -/
def dropComment? (t : Text) : Option Text :=
  match t with
  | '#' :: rest =>
      match rest.dropWhile isTextual with
      | [] => some []
      | rest => if (lineEnd? rest).isSome then some rest else none
  | rest => some rest

def dropLineRest? (t : Text) : Option Text :=
  (dropComment? (skipBlank t)).bind fun rest =>
    if rest.isEmpty then some [] else lineEnd? rest

def dropFiller? : Nat → Text → Option Text
  | 0, _ => none
  | fuel + 1, t =>
      match skipBlankLines t with
      | '#' :: rest => (dropComment? ('#' :: rest)).bind (dropFiller? fuel)
      | rest => some rest

def isBare (c : Char) : Bool := c.isAlphanum || c == '-' || c == '_'

def readSimpleKey? (t : Text) : Option (Text × Text) :=
  match t with
  | '"' :: rest => readBasic? (rest.length + 1) rest
  | '\'' :: rest => readLiteral? rest
  | t =>
      let key := t.takeWhile isBare
      if key.isEmpty then none else some (key, t.dropWhile isBare)

def readKeys? : Nat → Text → Option (List Text × Text)
  | 0, _ => none
  | fuel + 1, t => do
      let (key, t) ← readSimpleKey? (skipBlank t)
      match skipBlank t with
      | '.' :: rest =>
          let (keys, rest) ← readKeys? fuel rest
          return (key :: keys, rest)
      | rest => return ([key], rest)

def readPath? (t : Text) : Option (List Text × Text) :=
  (readKeys? (t.length + 1) t).bind fun (keys, rest) =>
    if keys.length < depthLimit then some (keys, rest) else none

/-- Reads the items of an array up to its closing bracket; a comma can stand after the last. -/
def readItems? (read? : Text → Option (Toml × Text)) :
    Nat → Text → Option (List Toml × Text)
  | 0, _ => none
  | fuel + 1, t => do
      match ← dropFiller? (t.length + 1) t with
      | ']' :: rest => return ([], rest)
      | t =>
          let (item, t) ← read? t
          match ← dropFiller? (t.length + 1) t with
          | ',' :: rest =>
              let (items, rest) ← readItems? read? fuel rest
              return (item :: items, rest)
          | ']' :: rest => return ([item], rest)
          | _ => none

def readEntry? (read? : Text → Option (Toml × Text)) (t : Text) :
    Option ((List Text × Toml) × Text) := do
  let (path, t) ← readPath? t
  let t ← expect? '=' t
  let (value, t) ← read? (skipBlank t)
  return ((path, value), skipBlank t)

def readEntries? (read? : Text → Option (Toml × Text)) :
    Nat → Text → Option (List (List Text × Toml) × Text)
  | 0, _ => none
  | fuel + 1, t => do
      let (entry, t) ← readEntry? read? t
      match t with
      | ',' :: rest =>
          let (entries, rest) ← readEntries? read? fuel rest
          return (entry :: entries, rest)
      | '\x7d' :: rest => return ([entry], rest)
      | _ => none

def inlineTable? (entries : List (List Text × Toml)) : Option Toml :=
  (entries.foldlM (fun (table : Entries Item) (entry : List Text × Toml) =>
    entry.1.getLast?.bind fun key => Item.addValue? entry.1.dropLast key entry.2 table) []).map
    fun table => .table (Item.entriesToToml table)

def readValue? : Nat → Text → Option (Toml × Text)
  | 0, _ => none
  | depth + 1, t =>
      match t with
      | [] => none
      | '[' :: rest =>
          if depth = 0 then none
          else
            (readItems? (readValue? depth) (rest.length + 1) rest).map fun (items, rest) =>
              (.array items, rest)
      | '\x7b' :: rest =>
          if depth = 0 then none
          else
            match skipBlank rest with
            | '\x7d' :: rest => some (.table [], rest)
            | rest => do
                let (entries, rest) ← readEntries? (readValue? depth) (rest.length + 1) rest
                let table ← inlineTable? entries
                return (table, rest)
      | 't' :: 'r' :: 'u' :: 'e' :: rest => some (.bool true, rest)
      | 'f' :: 'a' :: 'l' :: 's' :: 'e' :: rest => some (.bool false, rest)
      | c :: rest =>
          if c = '"' ∨ c = '\'' then
            (readString? (c :: rest)).map fun (s, rest) => (.string s, rest)
          else readNumeric? (c :: rest)

def readHeader? (d : Document) (t : Text) : Option (Document × Text) :=
  match t with
  | '[' :: rest => do
      let (path, rest) ← readPath? rest
      let rest ← expect? ']' rest
      let rest ← expect? ']' rest
      let d ← d.startArrayTable? path
      let rest ← dropLineRest? rest
      return (d, rest)
  | rest => do
      let (path, rest) ← readPath? rest
      let rest ← expect? ']' rest
      let d ← d.startTable? path
      let rest ← dropLineRest? rest
      return (d, rest)

def readLine? (d : Document) (t : Text) : Option (Document × Text) := do
  let (path, t) ← readPath? t
  let t ← expect? '=' t
  let (value, t) ← readValue? depthLimit (skipBlank t)
  let key ← path.getLast?
  let d ← d.addValue? path.dropLast key value
  let rest ← dropLineRest? t
  return (d, rest)

def readLines : Nat → Document → Text → Option Document
  | 0, _, _ => none
  | fuel + 1, d, t => do
      match ← dropFiller? (t.length + 1) t with
      | [] => return d
      | '[' :: rest =>
          let (d, rest) ← readHeader? d rest
          readLines fuel d rest
      | rest =>
          let (d, rest) ← readLine? d rest
          readLines fuel d rest

/-- A byte order mark in front of the text does not count. -/
def ofText? (t : Text) : Option Toml := do
  let t := (Text.after? ['\ufeff'] t).getD t
  let d ← readLines (t.length + 1) .empty t
  let root ← d.finish?
  return .table (Item.entriesToToml root)

end RouteTree.Toml
