import StreamRtp.CommandLine.Numeral
import StreamRtp.Engine.State

/-!
# Arguments

The program has the subcommands `listen`, `send` and `help`, and each of the first two has options
of its own. An option has a long name and perhaps a letter. Its value follows in the next argument
or is attached: `--name value`, `--name=value`, `-n value`, `-nvalue`, `-n=value`. An argument that
starts with a dash, other than a single dash, is never taken for the value of the option before it.

## Which of several faults is reported

A value that stands in an argument of its own takes effect when the next option is met, or at the
end. Until then it is `pending`, and an unknown option that comes next is reported instead of what
may be wrong with the pending value. An option that is given twice is reported before its second
value is looked at. What is missing is reported last.
-/

namespace StreamRtp.CommandLine

/-! ## What can be asked for -/

/-- How to serve clients. -/
structure ListenOptions where
  /-- The address to listen at. -/
  bind : String
  /-- Whether media packets are sent back to every connection. -/
  echo : Bool
  maxPacketSize : Nat
  deriving DecidableEq, Repr

/-- Serve everybody, without sending anything back. -/
def ListenOptions.default : ListenOptions := ⟨"0.0.0.0:5004", false, defaultMaxPacketSize⟩

/-- What to send. -/
structure SendOptions where
  /-- The address of the peer. -/
  connect : String
  /-- The number of packets. -/
  count : Nat
  /-- The time between two packets in milliseconds. -/
  interval : UInt64
  /-- The number of bytes after the header. -/
  payloadSize : Nat
  payloadType : UInt8
  deriving DecidableEq, Repr

/-- Two seconds of media to a peer. -/
def SendOptions.to (peer : String) : SendOptions := ⟨peer, 100, 20, 160, 96⟩

/-- What the program was asked to do. -/
inductive Invocation where
  | listen (options : ListenOptions)
  | send (options : SendOptions)
  deriving DecidableEq, Repr

/-- Why the arguments ask for nothing that can be done. -/
inductive UsageError where
  /-- They ask for help. -/
  | help
  | noSubcommand
  | unknownSubcommand (name : String)
  | unknownArgument (argument : String)
  /-- An option has no value. -/
  | missingValue (option : String)
  /-- An option cannot have this value. -/
  | refusedValue (option value : String)
  | repeated (option : String)
  /-- An option that must be given is not there. -/
  | missingOption (option : String)
  /-- An option that takes no value has one. -/
  | needlessValue (option value : String)
  deriving DecidableEq, Repr

namespace UsageError

/-- The wording of a usage error. -/
def message : UsageError → String
  | help => "usage: rtp-tcp listen [--bind ADDRESS] [--echo] [--max-packet-size BYTES]\n"
      ++ "       rtp-tcp send --connect ADDRESS [--count N] [--interval-ms N]"
      ++ " [--payload-size N] [--payload-type N]"
  | noSubcommand => "a subcommand is required: listen, send or help"
  | unknownSubcommand name => "unrecognized subcommand '" ++ name ++ "'"
  | unknownArgument argument => "unexpected argument '" ++ argument ++ "'"
  | missingValue option => "a value is required for '--" ++ option ++ "'"
  | refusedValue option value => "invalid value '" ++ value ++ "' for '--" ++ option ++ "'"
  | repeated option => "the argument '--" ++ option ++ "' cannot be used multiple times"
  | missingOption option => "the argument '--" ++ option ++ "' is required"
  | needlessValue option value => "unexpected value '" ++ value ++ "' for '--" ++ option ++ "'"

end UsageError

/-! ## Options -/

/-- What an option does to settings of type `α`. -/
inductive Effect (α : Type) where
  /-- It takes a value, which it may refuse. -/
  | value (set : String → α → Option α)
  | flag (set : α → α)
  /-- It ends the reading. -/
  | help

/-- An option of a subcommand. -/
structure OptionRule (α : Type) where
  name : String
  letter : Option Char
  effect : Effect α

/-- The option that every subcommand has. -/
def helpRule {α : Type} : OptionRule α := ⟨"help", some 'h', .help⟩

/-- A value that fits into 64 bits. -/
def word? (value : String) : Option Nat := (unsigned? value.toList).filter (· < UInt64.size)

/-- A value that is at most `limit`. Zero may be written with a minus sign. -/
def upTo? (limit : Nat) (value : String) : Option Nat :=
  ((signed? value.toList).filter fun n : Int ↦ 0 ≤ n ∧ n ≤ limit).map Int.toNat

/-- The options of `listen`. -/
def listenRules : List (OptionRule ListenOptions) :=
  [⟨"bind", some 'b', .value fun v o ↦ some { o with bind := v }⟩,
   ⟨"echo", none, .flag fun o ↦ { o with echo := true }⟩,
   ⟨"max-packet-size", none, .value fun v o ↦ (word? v).map ({ o with maxPacketSize := · })⟩,
   helpRule]

/-- The options of `send`. -/
def sendRules : List (OptionRule SendOptions) :=
  [⟨"connect", some 'c', .value fun v o ↦ some { o with connect := v }⟩,
   ⟨"count", none, .value fun v o ↦ (upTo? 4294967295 v).map ({ o with count := · })⟩,
   ⟨"interval-ms", none, .value fun v o ↦ (word? v).map ({ o with interval := ·.toUInt64 })⟩,
   ⟨"payload-size", none, .value fun v o ↦ (word? v).map ({ o with payloadSize := · })⟩,
   ⟨"payload-type", none, .value fun v o ↦ (upTo? 255 v).map ({ o with payloadType := ·.toUInt8 })⟩,
   helpRule]

/-! ## Reading -/

/-- An option that waits to take effect. -/
structure Pending (α : Type) where
  name : String
  set : String → α → Option α
  value : Option String

/-- How far the arguments have been read. -/
structure Reading (α : Type) where
  settings : α
  /-- The names of the options that have taken effect. -/
  given : List String
  pending : Option (Pending α)

namespace Reading

variable {α : Type}

/-- Nothing has been read. -/
def start (settings : α) : Reading α := ⟨settings, [], none⟩

/-- Note that an option takes effect, which it does only once. -/
def once (r : Reading α) (name : String) : Except UsageError (Reading α) :=
  if name ∈ r.given then .error (.repeated name) else .ok { r with given := name :: r.given }

/-- Give an option its value. -/
def assign (r : Reading α) (name : String) (set : String → α → Option α) (value : String) :
    Except UsageError (Reading α) := do
  let r ← r.once name
  match set value r.settings with
  | some settings => .ok { r with settings }
  | none => .error (.refusedValue name value)

/-- Let the pending option take effect. -/
def settle (r : Reading α) : Except UsageError (Reading α) :=
  match r.pending with
  | none => .ok r
  | some ⟨name, _, none⟩ => .error (.missingValue name)
  | some ⟨name, set, some value⟩ => { r with pending := none }.assign name set value

/-- Read an option, with the value attached to it if there is one. -/
def apply (r : Reading α) (rule : OptionRule α) (attached : Option String) :
    Except UsageError (Reading α) :=
  match rule.effect, attached with
  | .value set, some value => do (← r.settle).assign rule.name set value
  | .value set, none => do
    let r ← r.settle
    .ok { r with pending := some ⟨rule.name, set, none⟩ }
  | .flag _, some value | .help, some value => .error (.needlessValue rule.name value)
  | .flag set, none => do
    let r ← (← r.settle).once rule.name
    .ok { r with settings := set r.settings }
  | .help, none => do
    let _ ← r.settle
    .error .help

/-- Read what stands behind two dashes. -/
def long (rules : List (OptionRule α)) (r : Reading α) (text : List Char) :
    Except UsageError (Reading α) :=
  let name := String.ofList (text.takeWhile (· ≠ '='))
  let attached :=
    match text.dropWhile (· ≠ '=') with
    | [] => none
    | _ :: value => some (String.ofList value)
  match rules.find? (·.name = name) with
  | none => .error (.unknownArgument ("--" ++ String.ofList text))
  | some rule => r.apply rule attached

/-- The value attached to a letter. An equals sign before it does not belong to it. -/
def attachedToLetter : List Char → Option String
  | [] => none
  | '=' :: value => some (String.ofList value)
  | value => some (String.ofList value)

/-- Read what stands behind one dash: letters, of which the last can have a value attached. -/
def letters (rules : List (OptionRule α)) (r : Reading α) :
    List Char → Except UsageError (Reading α)
  | [] => .ok r
  | letter :: rest =>
    match rules.find? (·.letter = some letter) with
    | none => .error (.unknownArgument ("-" ++ String.singleton letter))
    | some rule =>
      match rule.effect with
      | .value _ => r.apply rule (attachedToLetter rest)
      | _ => do (← r.apply rule none).letters rules rest

/-- Read an argument that is no option: the value of the option before it, or nothing that is
expected. -/
def plain (r : Reading α) (argument : String) : Except UsageError (Reading α) :=
  match r.pending with
  | some ⟨name, set, none⟩ => .ok { r with pending := some ⟨name, set, some argument⟩ }
  | _ => .error (.unknownArgument argument)

/-- Read the arguments of a subcommand. Behind two dashes alone nothing is expected. -/
def all (rules : List (OptionRule α)) (r : Reading α) :
    List String → Except UsageError (Reading α)
  | [] => r.settle
  | argument :: rest =>
    match argument.toList with
    | ['-', '-'] =>
      match rest with
      | [] => r.settle
      | stray :: _ => .error (.unknownArgument stray)
    | '-' :: '-' :: text => do (← r.long rules text).all rules rest
    | '-' :: letter :: text => do (← r.letters rules (letter :: text)).all rules rest
    | _ => do (← r.plain argument).all rules rest

end Reading

/-! ## Subcommands -/

/-- The names of the subcommands. -/
def subcommands : List String := ["listen", "send", "help"]

/-- Why `help` cannot explain a subcommand, if it cannot. Subcommands have no subcommands. -/
def helpFor : List String → UsageError
  | [] => .help
  | [name] => if name ∈ subcommands then .help else .unknownSubcommand name
  | name :: more :: _ => .unknownSubcommand (if name ∈ subcommands then more else name)

/-- What is wrong with an argument in the place of a subcommand. -/
def notASubcommand (argument : String) (rest : List String) : UsageError :=
  let start : Reading Unit := .start ()
  let refused (read : Except UsageError (Reading Unit)) : UsageError :=
    match read with
    | .error e => e
    | .ok _ => .noSubcommand
  match argument.toList, rest with
  | ['-', '-'], [] => .noSubcommand
  | ['-', '-'], stray :: _ =>
    if stray ∈ subcommands then .unknownArgument stray else .unknownSubcommand stray
  | '-' :: '-' :: text, _ => refused (start.long [helpRule] text)
  | '-' :: letter :: text, _ => refused (start.letters [helpRule] (letter :: text))
  | _, _ => .unknownSubcommand argument

/-- Read the arguments of the program. -/
def Invocation.ofArguments : List String → Except UsageError Invocation
  | [] => .error .noSubcommand
  | "listen" :: arguments => do
    let r ← (Reading.start ListenOptions.default).all listenRules arguments
    .ok (.listen r.settings)
  | "send" :: arguments => do
    let r ← (Reading.start (SendOptions.to "")).all sendRules arguments
    if "connect" ∈ r.given then .ok (.send r.settings) else .error (.missingOption "connect")
  | "help" :: arguments => .error (helpFor arguments)
  | argument :: rest => .error (notASubcommand argument rest)

end StreamRtp.CommandLine
