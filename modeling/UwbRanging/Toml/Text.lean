import UwbRanging.Radio.Attribute

namespace UwbRanging.Toml

-- What may stand in a comment and, with exceptions, in a string: all but control characters other
-- than the tab.
def isPlain (c : Char) : Bool := c == '\t' || (0x20 ≤ c.toNat && c.toNat != 0x7f)

def isSpace (c : Char) : Bool := c == ' ' || c == '\t'

-- What follows a line break in front.
def lineBreak? : List Char → Option (List Char)
  | '\n' :: rest => some rest
  | '\r' :: '\n' :: rest => some rest
  | _ => none

def shortEscape? : Char → Option Char
  | 'b' => some '\x08'
  | 't' => some '\t'
  | 'n' => some '\n'
  | 'f' => some '\x0c'
  | 'r' => some '\r'
  | '"' => some '"'
  | '\\' => some '\\'
  | _ => none

-- The character with a hexadecimal number.
def numbered? (digits : List Char) : Option Char := do
  let values ← digits.mapM AttrValue.hexDigit?
  let n := values.foldl (fun n d => 16 * n + d) 0
  if n.isValidChar then return Char.ofNat n else none

-- The character of an escape after its backslash, and what follows it.
def escape? : List Char → Option (Char × List Char)
  | 'u' :: rest => if 4 ≤ rest.length then (numbered? (rest.take 4)).map fun c => (c, rest.drop 4) else none
  | 'U' :: rest => if 8 ≤ rest.length then (numbered? (rest.take 8)).map fun c => (c, rest.drop 8) else none
  | e :: rest => (shortEscape? e).map fun c => (c, rest)
  | [] => none

-- A text in double quotes after its opening quote.
def basic : (fuel : Nat) → List Char → Option (List Char × List Char)
  | 0, _ => none
  | fuel + 1, input =>
    match input with
    | '"' :: rest => some ([], rest)
    | '\\' :: rest => do
      let (c, rest) ← escape? rest
      let (cs, rest) ← basic fuel rest
      return (c :: cs, rest)
    | c :: rest => if isPlain c then (basic fuel rest).map fun p => (c :: p.1, p.2) else none
    | [] => none

-- A text in single quotes after its opening quote. It has no escapes.
def literal : List Char → Option (List Char × List Char)
  | '\'' :: rest => some ([], rest)
  | c :: rest => if isPlain c then (literal rest).map fun p => (c :: p.1, p.2) else none
  | [] => none

-- A run of quotes at the end of a text of several lines: three of them end it, and up to two more
-- before those belong to it.
def closing? (quote : Char) (input : List Char) : Option (List Char × List Char) :=
  let run := (input.takeWhile (· == quote)).length
  if run < 3 then none
  else
    let kept := min (run - 3) 2
    some (List.replicate kept quote, input.drop (kept + 3))

-- The rest after blanks and line breaks. A carriage return without a line feed is neither.
def skipBlanks : List Char → List Char
  | ' ' :: rest => skipBlanks rest
  | '\t' :: rest => skipBlanks rest
  | '\n' :: rest => skipBlanks rest
  | '\r' :: '\n' :: rest => skipBlanks rest
  | rest => rest

-- What follows a backslash at the end of a line: the blanks up to the next visible character are
-- left out, among them at least one line break.
def continued? (input : List Char) : Option (List Char) :=
  match lineBreak? (input.dropWhile isSpace) with
  | some rest => some (skipBlanks rest)
  | none => none

-- A text of several lines in double quotes after its opening quotes.
def multiBasic : (fuel : Nat) → List Char → Option (List Char × List Char)
  | 0, _ => none
  | fuel + 1, input =>
    match closing? '"' input with
    | some ending => some ending
    | none =>
      match input with
      | '\\' :: rest =>
        match continued? rest with
        | some rest => multiBasic fuel rest
        | none => do
          let (c, rest) ← escape? rest
          let (cs, rest) ← multiBasic fuel rest
          return (c :: cs, rest)
      | '\r' :: '\n' :: rest => (multiBasic fuel rest).map fun p => ('\n' :: p.1, p.2)
      | c :: rest =>
        if c == '\n' || isPlain c then (multiBasic fuel rest).map fun p => (c :: p.1, p.2) else none
      | [] => none

-- A text of several lines in single quotes after its opening quotes.
def multiLiteral : (fuel : Nat) → List Char → Option (List Char × List Char)
  | 0, _ => none
  | fuel + 1, input =>
    match closing? '\'' input with
    | some ending => some ending
    | none =>
      match input with
      | '\r' :: '\n' :: rest => (multiLiteral fuel rest).map fun p => ('\n' :: p.1, p.2)
      | c :: rest =>
        if c == '\n' || isPlain c then (multiLiteral fuel rest).map fun p => (c :: p.1, p.2) else none
      | [] => none

-- The rest after a line break directly behind opening quotes, which does not count.
def skipBreak (input : List Char) : List Char := (lineBreak? input).getD input

-- A text of any of the four forms.
def quotation? (input : List Char) : Option (String × List Char) :=
  let named := fun (p : List Char × List Char) => (String.ofList p.1, p.2)
  match input with
  | '"' :: '"' :: '"' :: rest => (multiBasic (rest.length + 1) (skipBreak rest)).map named
  | '\'' :: '\'' :: '\'' :: rest => (multiLiteral (rest.length + 1) (skipBreak rest)).map named
  | '"' :: rest => (basic (rest.length + 1) rest).map named
  | '\'' :: rest => (literal rest).map named
  | _ => none

def isBareKeyChar (c : Char) : Bool := c.isAlphanum || c == '_' || c == '-'

-- One part of a key: bare, or quoted on one line.
def keyPart? (input : List Char) : Option (String × List Char) :=
  match input with
  | '"' :: rest => (basic (rest.length + 1) rest).map fun p => (String.ofList p.1, p.2)
  | '\'' :: rest => (literal rest).map fun p => (String.ofList p.1, p.2)
  | input =>
    let bare := input.takeWhile isBareKeyChar
    if bare.isEmpty then none else some (String.ofList bare, input.dropWhile isBareKeyChar)

-- The parts of a key, joined by points with blanks around them.
def key? : (fuel : Nat) → List Char → Option (List String × List Char)
  | 0, _ => none
  | fuel + 1, input => do
    let (part, rest) ← keyPart? (input.dropWhile isSpace)
    match rest.dropWhile isSpace with
    | '.' :: rest =>
      let (parts, rest) ← key? fuel rest
      return (part :: parts, rest)
    | rest => return ([part], rest)

end UwbRanging.Toml
