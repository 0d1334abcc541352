import ProxyOperator.Settings.Basic
/-!
Settings from the command line and from environment variables. Each setting has a flag with a value and
a variable; the flag comes before the variable, and what neither gives keeps its standard value.
-/
namespace ProxyOperator

inductive UsageError where
  | invalidNumber
  | unknownArgument
  | missingValue
  | repeatedFlag
  | unexpectedValue
  | helpRequested
  deriving DecidableEq, Repr

def UsageError.message : UsageError → String
  | .invalidNumber => "a value is not a number in range"
  | .unknownArgument => "an argument is not known"
  | .missingValue => "a flag has no value"
  | .repeatedFlag => "a flag is given twice"
  | .unexpectedValue => "a flag that takes no value has one"
  | .helpRequested => "help was asked for"

namespace Settings

inductive Flag where
  | operatorNamespace
  | defaultEmail
  | requeueSeconds
  | resyncSeconds
  | refreshMarginSeconds
  | statusWriteAttempts
  deriving DecidableEq, Repr

namespace Flag

def all : List Flag :=
  [.operatorNamespace, .defaultEmail, .requeueSeconds, .resyncSeconds, .refreshMarginSeconds,
    .statusWriteAttempts]

def name : Flag → String
  | .operatorNamespace => "operator-namespace"
  | .defaultEmail => "default-letsencrypt-email"
  | .requeueSeconds => "requeue-seconds"
  | .resyncSeconds => "resync-seconds"
  | .refreshMarginSeconds => "token-refresh-margin-seconds"
  | .statusWriteAttempts => "status-write-attempts"

def variableName : Flag → String
  | .operatorNamespace => "OPERATOR_NAMESPACE"
  | .defaultEmail => "DEFAULT_LETSENCRYPT_EMAIL"
  | .requeueSeconds => "REQUEUE_SECONDS"
  | .resyncSeconds => "RESYNC_SECONDS"
  | .refreshMarginSeconds => "TOKEN_REFRESH_MARGIN_SECONDS"
  | .statusWriteAttempts => "STATUS_WRITE_ATTEMPTS"

def ofName? (name : String) : Option Flag := all.find? (·.name = name)

end Flag

def digits? : List Char → Option Nat
  | [] => none
  | digits =>
      if digits.all Char.isDigit then
        some (digits.foldl (fun value digit => value * 10 + (digit.toNat - 48)) 0)
      else none

/-- A whole number: digits with a sign before them, or without one. -/
def whole? (text : String) : Option Int :=
  match text.toList with
  | '+' :: digits => Int.ofNat <$> digits? digits
  | '-' :: digits => (fun value => -Int.ofNat value) <$> digits? digits
  | digits => Int.ofNat <$> digits? digits

/-- A number of 64 bits; a minus sign is not accepted even before a zero. -/
def uint64 (text : String) : Except UsageError UInt64 :=
  match whole? text with
  | some value =>
      if text.startsWith "-" ∨ value ≥ 18446744073709551616 then .error .invalidNumber
      else .ok (UInt64.ofNat value.toNat)
  | none => .error .invalidNumber

def uint32 (text : String) : Except UsageError UInt32 :=
  match whole? text with
  | some value =>
      if 0 ≤ value ∧ value < 4294967296 then .ok (UInt32.ofNat value.toNat)
      else .error .invalidNumber
  | none => .error .invalidNumber

def set (settings : Settings) (value : String) : Flag → Except UsageError Settings
  | .operatorNamespace => .ok { settings with operatorNamespace := value }
  | .defaultEmail => .ok { settings with defaultEmail := some value }
  | .requeueSeconds => do return { settings with requeueSeconds := ← uint64 value }
  | .resyncSeconds => do return { settings with resyncSeconds := ← uint64 value }
  | .refreshMarginSeconds => do return { settings with refreshMarginSeconds := ← uint64 value }
  | .statusWriteAttempts => do return { settings with statusWriteAttempts := ← uint32 value }

/-- How far a command line has been read. -/
structure Reading where
  settings : Settings
  given : List Flag
  /-- The flag read last, and its value once it was read; it is set when the next flag is met. -/
  pending : Option (Flag × Option String)

namespace Reading

/-- Set a flag, for the first time. -/
def take (reading : Reading) (flag : Flag) (value : String) : Except UsageError Reading := do
  if flag ∈ reading.given then throw .repeatedFlag
  return ⟨← reading.settings.set value flag, flag :: reading.given, none⟩

def settle (reading : Reading) : Except UsageError Reading :=
  match reading.pending with
  | none => .ok reading
  | some (_, none) => .error .missingValue
  | some (flag, some value) => reading.take flag value

def readLong (reading : Reading) (name : String) (value : Option String) :
    Except UsageError Reading :=
  if name = "help" then
    if value.isSome then .error .unexpectedValue
    else do
      let _ ← reading.settle
      throw .helpRequested
  else
    match Flag.ofName? name, value with
    | none, _ => .error .unknownArgument
    | some flag, some value => do (← reading.settle).take flag value
    | some flag, none => do return { ← reading.settle with pending := some (flag, none) }

def readShort (reading : Reading) (letter : Char) : Except UsageError Reading := do
  if letter ≠ 'h' then throw .unknownArgument
  let _ ← reading.settle
  throw .helpRequested

def readValue (reading : Reading) (value : String) : Except UsageError Reading :=
  match reading.pending with
  | some (flag, none) => .ok { reading with pending := some (flag, some value) }
  | _ => .error .unknownArgument

/-- Read the arguments one after the other. Nothing may follow two dashes that stand alone. -/
def readAll (reading : Reading) : List String → Except UsageError Reading
  | [] => reading.settle
  | argument :: rest =>
      match argument.toList with
      | ['-', '-'] => if rest.isEmpty then reading.settle else .error .unknownArgument
      | '-' :: '-' :: long =>
          let name := String.ofList (long.takeWhile (· ≠ '='))
          let value := (long.dropWhile (· ≠ '=')).tail?.map String.ofList
          do (← reading.readLong name value).readAll rest
      | '-' :: letter :: _ => do (← reading.readShort letter).readAll rest
      | _ => do (← reading.readValue argument).readAll rest

end Reading

def ofArguments (arguments : List String) (environment : String → Option String) :
    Except UsageError Settings := do
  let reading ← Reading.readAll ⟨standard, [], none⟩ arguments
  Flag.all.foldlM (fun settings flag =>
    if flag ∈ reading.given then return settings
    else
      match environment flag.variableName with
      | some value => settings.set value flag
      | none => return settings) reading.settings

end Settings

end ProxyOperator
