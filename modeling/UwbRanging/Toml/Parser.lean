import UwbRanging.Toml.Scalar
import UwbRanging.Toml.Text
import UwbRanging.Toml.Tree

namespace UwbRanging.Toml

-- Values in brackets and braces, and keys, may be nested less deep than this.
def depthLimit : Nat := 80

-- What follows a comment in front. Control characters end it.
def skipComment (input : List Char) : List Char :=
  match input with
  | '#' :: rest => rest.dropWhile isPlain
  | input => input

-- What follows blanks, comments and line breaks. A comment ends with its line or with the text.
def skipLines : (fuel : Nat) → List Char → Option (List Char)
  | 0, input => some input
  | fuel + 1, input =>
    let rest := input.dropWhile isSpace
    let after := skipComment rest
    match lineBreak? after with
    | some next => skipLines fuel next
    | none => if after.isEmpty then some [] else if rest.head? = some '#' then none else some rest

-- The entries of a table in braces, with dotted keys resolved.
def inlineTable (pairs : List (List String × Toml)) : Option Toml := do
  let entries ← pairs.foldlM (fun (entries : Entries) pair => do
    match ← addKey pair.1 pair.2 .header entries with
    | table _ entries => some entries
    | _ => none) []
  return table .inline entries

def openingKey? (input : List Char) : Option (List String × List Char) := do
  let (path, rest) ← key? (input.length + 1) input
  if path.length < depthLimit then return (path, rest) else none

mutual

-- A value at the front, and what follows it. `depth` counts the brackets and braces around it.
def value : (fuel : Nat) → (depth : Nat) → List Char → Option (Toml × List Char)
  | 0, _, _ => none
  | fuel + 1, depth, input =>
    match input with
    | '"' :: _ => (quotation? input).map fun p => (text p.1, p.2)
    | '\'' :: _ => (quotation? input).map fun p => (text p.1, p.2)
    | '[' :: rest => if depth + 1 < depthLimit then (items fuel (depth + 1) rest).map fun p => (arr p.1, p.2) else none
    | '\x7b' :: rest =>
      if depth + 1 < depthLimit then
        match rest.dropWhile isSpace with
        | '\x7d' :: rest => some (table .inline [], rest)
        | rest => do
          let (pairs, rest) ← pairs fuel (depth + 1) rest
          return (← inlineTable pairs, rest)
      else none
    | input =>
      let (token, rest) := spanToken input
      (scalar? token).map fun v => (v, rest)

-- The values of an array up to its end. A comma may stand after the last one.
def items : (fuel : Nat) → (depth : Nat) → List Char → Option (List Toml × List Char)
  | 0, _, _ => none
  | fuel + 1, depth, input => do
    match ← skipLines (input.length + 1) input with
    | ']' :: rest => return ([], rest)
    | input =>
      let (item, rest) ← value fuel depth input
      match ← skipLines (rest.length + 1) rest with
      | ',' :: rest =>
        let (more, rest) ← items fuel depth rest
        return (item :: more, rest)
      | ']' :: rest => return ([item], rest)
      | _ => none

-- The keys and values of a table in braces up to its end, all on one line.
def pairs : (fuel : Nat) → (depth : Nat) → List Char → Option (List (List String × Toml) × List Char)
  | 0, _, _ => none
  | fuel + 1, depth, input => do
    let (path, rest) ← openingKey? input
    match rest with
    | '=' :: rest =>
      let (v, rest) ← value fuel depth (rest.dropWhile isSpace)
      match rest.dropWhile isSpace with
      | ',' :: rest =>
        let (more, rest) ← pairs fuel depth rest
        return ((path, v) :: more, rest)
      | '\x7d' :: rest => return ([(path, v)], rest)
      | _ => none
    | _ => none

end

-- A header in single or double brackets, or an entry, and what follows it on its line.
def line? (input : List Char) : Option (Line × List Char) :=
  match input with
  | '[' :: '[' :: rest => do
    let (path, rest) ← openingKey? rest
    match rest with
    | ']' :: ']' :: rest => return (.element path, rest)
    | _ => none
  | '[' :: rest => do
    let (path, rest) ← openingKey? rest
    match rest with
    | ']' :: rest => return (.header path, rest)
    | _ => none
  | input => do
    let (path, rest) ← openingKey? input
    match rest with
    | '=' :: rest =>
      let rest := rest.dropWhile isSpace
      let (v, rest) ← value (rest.length + 1) 0 rest
      return (.entry path v, rest)
    | _ => none

-- Adds the lines of a text to a document. Each ends with a line break or the text.
def addLines : (fuel : Nat) → Document → List Char → Option Document
  | 0, _, _ => none
  | fuel + 1, d, input => do
    let input ← skipLines (input.length + 1) input
    if input.isEmpty then return d
    let (line, rest) ← line? input
    let d ← d.add line
    let rest := skipComment (rest.dropWhile isSpace)
    if rest.isEmpty then return d
    addLines fuel d (← lineBreak? rest)

-- The root table of a document. A byte order mark in front does not count.
def parse (text : List Char) : Option Toml := do
  let body := match text with
    | '\ufeff' :: rest => rest
    | text => text
  let d ← addLines (body.length + 2) {} body
  return table .header d.root

end UwbRanging.Toml
