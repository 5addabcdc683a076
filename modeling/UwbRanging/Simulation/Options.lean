import UwbRanging.Decimal.Literal

namespace UwbRanging

-- What a batch is asked for.
structure Options where
  config : String := "config.toml"
  count : Nat := 100
  threeDevice : Bool := false
  scenario : String := "nominal"
  port : UInt16 := 8912

-- What the arguments of a command ask for.
inductive Request where
  | run (options : Options)
  | help
  -- arguments that make no sense
  | misuse

namespace Options

inductive Switch where
  | config
  | count
  | threeDevice
  | scenario
  | port
  | help
  deriving DecidableEq, Repr

namespace Switch

def ofLong : String → Option Switch
  | "config" => some config
  | "count" => some count
  | "three-device" => some threeDevice
  | "scenario" => some scenario
  | "port" => some port
  | "help" => some help
  | _ => none

def ofShort : Char → Option Switch
  | 'c' => some config
  | 'n' => some count
  | 'h' => some help
  | _ => none

def takesValue : Switch → Bool
  | threeDevice => false
  | help => false
  | _ => true

end Switch

-- The options with one of them set to what a text says.
def set (o : Options) (s : Switch) (value : List Char) : Option Options :=
  match s with
  | .config => some { o with config := String.ofList value }
  | .scenario => some { o with scenario := String.ofList value }
  | .count => ((Decimal.readNat value).filter (· < UInt64.size)).map fun n => { o with count := n }
  | .port =>
    ((Decimal.readInt value).filter fun (n : Int) => 0 ≤ n ∧ n < UInt16.size).map fun n => { o with port := UInt16.ofNat n.toNat }
  | .threeDevice => some { o with threeDevice := true }
  | .help => some o

-- The arguments read so far: the options, and which of them were named.
structure Progress where
  options : Options := {}
  named : List Switch := []

-- Takes an option in. No option may be named twice.
def Progress.take (p : Progress) (s : Switch) (value : List Char) : Option Progress :=
  if s ∈ p.named then none else (p.options.set s value).map fun o => ⟨o, s :: p.named⟩

-- One argument taken apart.
inductive Word where
  -- an option, with what stands joined to it
  | switch (s : Switch) (joined : Option (List Char))
  -- the end of the options
  | stop
  | other

-- The parts of a word around its first equals sign.
def splitEquals (cs : List Char) : List Char × Option (List Char) :=
  match cs.dropWhile (· != '=') with
  | [] => (cs, none)
  | _ :: value => (cs.takeWhile (· != '='), some value)

def Word.ofChars : List Char → Word
  | ['-', '-'] => stop
  | '-' :: '-' :: name =>
    let (name, joined) := splitEquals name
    (Switch.ofLong (String.ofList name)).elim other fun s => switch s joined
  | ['-'] => other
  | '-' :: letter :: rest =>
    match Switch.ofShort letter with
    | none => other
    | some .help => switch .help none
    | some s => switch s (if rest.isEmpty then none else some (if rest.head? = some '=' then rest.tail else rest))
  | _ => other

-- Whether a word can be the value of the option before it.
def isValue : List Char → Bool
  | '-' :: _ :: _ => false
  | _ => true

-- The value of an option, and the arguments after it. A value that is not joined is the next argument.
def valueOf (s : Switch) (joined : Option (List Char)) (rest : List (List Char)) :
    Option (List Char × { after : List (List Char) // after.length ≤ rest.length }) :=
  if s.takesValue then
    match joined, rest with
    | some value, rest => some (value, ⟨rest, Nat.le_refl _⟩)
    | none, next :: after => if isValue next then some (next, ⟨after, Nat.le_succ _⟩) else none
    | none, [] => none
  else if joined.isNone then some ([], ⟨rest, Nat.le_refl _⟩)
  else none

-- Reads the arguments from left to right. The first that makes no sense, or asks for help, decides.
def readFrom (p : Progress) : List (List Char) → Request
  | [] => .run p.options
  | word :: rest =>
    match Word.ofChars word with
    | .switch .help none => .help
    | .switch s joined =>
      match valueOf s joined rest with
      | none => .misuse
      | some (value, ⟨after, _⟩) =>
        match p.take s value with
        | some p => readFrom p after
        | none => .misuse
    | .stop => if rest.isEmpty then .run p.options else .misuse
    | .other => .misuse
termination_by args => args.length
decreasing_by
  simp only [List.length_cons]
  omega

def read (args : List String) : Request := readFrom {} (args.map String.toList)

def help : String := "Simulated Tail radios with a DS-TWR batch run

Usage: tail-sim [OPTIONS]

Options:
  -c, --config <CONFIG>      Config file path [default: config.toml]
  -n, --count <COUNT>        Ranging attempts [default: 100]
      --three-device         Range through a listener (third device) instead of two-way
      --scenario <SCENARIO>  Fault preset: nominal, drift, lossy, far, antenna, rough [default: nominal]
      --port <PORT>          First daemon port; device i listens on port + i [default: 8912]
  -h, --help                 Print help
"

end Options

end UwbRanging
