import StreamRtp.CommandLine.Numeral
import StreamRtp.Io.Error

/-!
# Addresses

An address names a host and, by a number, one of its services: `host:number`, where the last colon
is the one that counts, or `[host]:number` for a numeric host with colons in it. Hosts are numeric
or the name of the machine itself; other names are not known.
-/

namespace StreamRtp.CommandLine

/-- A host and the number of a service on it. -/
structure Address where
  host : List Char
  service : Nat
  deriving DecidableEq, Repr

/-- The parts of a text between the occurrences of a separator. -/
def fields (separator : Char) : List Char → List (List Char)
  | [] => [[]]
  | c :: rest =>
    if c = separator then [] :: fields separator rest
    else
      match fields separator rest with
      | [] => [[c]]
      | first :: others => (c :: first) :: others

/-! ## Numeric hosts -/

namespace Host

/-- A number in an address of four bytes: hexadecimal, octal or decimal, as its beginning says. -/
def number? : List Char → Option Nat
  | ['0'] => some 0
  | '0' :: 'x' :: digits | '0' :: 'X' :: digits => numeral? 16 digits
  | '0' :: digits => numeral? 8 digits
  | digits => numeral? 10 digits

/-- Whether numbers make up an address: each takes one byte, and the last one whatever is left,
which is at least one. The limit is the number of addresses that are left to choose from. -/
def fills : (limit : Nat) → List Nat → Bool
  | _, [] => false
  | limit, [last] => 1 < limit && last < limit
  | limit, n :: rest => n < 256 && fills (limit / 256) rest

/-- Whether a host is an address of four bytes. -/
def isFourBytes (host : List Char) : Bool :=
  match (fields '.' host).mapM number? with
  | some numbers => fills UInt32.size numbers
  | none => false

/-- Whether a host is an address of four bytes in its plain form: four decimal numbers. -/
def isDottedQuad (host : List Char) : Bool :=
  let numbers := fields '.' host
  numbers.length = 4 && numbers.all fun digits ↦
    (digits.length = 1 || digits.head? ≠ some '0')
      && match numeral? 10 digits with
        | some n => n < 256
        | none => false

/-- The number of two-byte groups in fields that stand between colons. The last field may be an
address of four bytes, where that is allowed. -/
def groups? (quad : Bool) : List (List Char) → Option Nat
  | [] => some 0
  | [last] =>
    if quad && isDottedQuad last then some 2
    else if last.length ≤ 4 && (numeral? 16 last).isSome then some 1
    else none
  | field :: rest =>
    if field.length ≤ 4 && (numeral? 16 field).isSome then (groups? quad rest).map (1 + ·)
    else none

/-- The number of groups in a part of an address. -/
def groupsOf? (quad : Bool) : List Char → Option Nat
  | [] => some 0
  | part => groups? quad (fields ':' part)

/-- The parts of a text before and after its first two adjacent colons. -/
def atGap : List Char → Option (List Char × List Char)
  | ':' :: ':' :: rest => some ([], rest)
  | c :: rest => (atGap rest).map fun (before, after) ↦ (c :: before, after)
  | [] => none

/-- Whether a host is an address of sixteen bytes: eight groups, or fewer around one gap. -/
def isSixteenBytes (host : List Char) : Bool :=
  match atGap host with
  | none => groupsOf? true host = some 8
  | some (before, after) =>
    match groupsOf? false before, groupsOf? true after with
    | some m, some n => m + n ≤ 7
    | _, _ => false

/-- Whether a text is the number of a scope. -/
def isScopeNumber (scope : List Char) : Bool :=
  match numeral? 10 scope with
  | some n => n < UInt32.size
  | none => false

/-- Whether a host is an address of sixteen bytes, perhaps with the number of a scope. -/
def isScoped (host : List Char) : Bool :=
  match host.span (· ≠ '%') with
  | (address, []) => isSixteenBytes address
  | (address, _ :: scope) => isSixteenBytes address && isScopeNumber scope

/-- Whether an address of sixteen bytes is one of a single link: only there an interface can be
named as the scope. -/
def isLinkLocal (address : List Char) : Bool :=
  match numeral? 16 (address.takeWhile (· ≠ ':')) with
  | some group =>
    group / 64 = 0xfe80 / 64
      || (group / 256 = 0xff && (group % 16 = 1 || group % 16 = 2))
  | none => false

/-- Whether a host is an address of a single link on the machine's own interface. -/
def isOnLoopback (host : List Char) : Bool :=
  match host.span (· ≠ '%') with
  | (address, _ :: scope) =>
    isSixteenBytes address && isLinkLocal address && scope = "lo".toList
  | (_, []) => false

/-- Whether a host is known. The case of a name does not matter. -/
def isKnown (host : List Char) : Bool :=
  isFourBytes host || isScoped host || isOnLoopback host
    || host.map Char.toLower = "localhost".toList

end Host

/-! ## Addresses as text -/

namespace Address

/-- The number of a service. -/
def service? (text : List Char) : Option Nat := (unsigned? text).filter (· < UInt16.size)

/-- Read an address of the form `[host]:number`. The number has no sign here. -/
def bracketed? (text : List Char) : Option Address :=
  match text with
  | '[' :: rest =>
    match rest.span (· ≠ ']') with
    | (host, ']' :: ':' :: digits) =>
      if Host.isScoped host then ((numeral? 10 digits).filter (· < UInt16.size)).map (⟨host, ·⟩)
      else none
    | _ => none
  | _ => none

/-- The parts of a text before and after its last colon. -/
def atLastColon (text : List Char) : Option (List Char × List Char) :=
  match text.reverse.span (· ≠ ':') with
  | (_, []) => none
  | (after, _ :: before) => some (before.reverse, after.reverse)

/-- Read an address. The host is looked up last: a text whose number is no number fails for that,
and a host with a null character in it fails before it is looked up. -/
def ofText (text : String) : Except IoError Address :=
  match bracketed? text.toList with
  | some address => .ok address
  | none =>
    match atLastColon text.toList with
    | none => .error (.described .invalidInput "invalid socket address")
    | some (host, digits) =>
      match service? digits with
      | none => .error (.described .invalidInput "invalid port value")
      | some service =>
        if '\x00' ∈ host then
          .error (.described .invalidInput "file name contained an unexpected NUL byte")
        else if Host.isKnown host then .ok ⟨host, service⟩
        else
          .error (.described .uncategorized
            "failed to lookup address information: Name or service not known")

end Address

end StreamRtp.CommandLine
