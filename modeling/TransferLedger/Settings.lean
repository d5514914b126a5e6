/-
# TransferLedger.Settings -- how the service is set up

Every setting has a flag, some have an environment variable, and all have a default, in this order
of precedence. A flag takes its value after `=` or as the next argument, unless that looks like a
flag. Arguments are read from left to right. A value that stands by itself is looked at when the
next known flag comes or at the end, so that an unknown argument is reported before a bad value in
front of it.
-/

import TransferLedger.Json.Basic
import TransferLedger.Query.Compile

namespace TransferLedger

open TransferLedger.Text TransferLedger.Number

/-- **How the service is set up.** -/
structure Settings where
  serviceName : String
  providers : List String
  logsDb : String
  accountsDb : String
  host : String
  port : UInt16
  /-- How many deliveries are handled at once. -/
  prefetch : UInt64
  /-- How many deliveries wait before senders do. -/
  queueSize : UInt64
  /-- Milliseconds between two health checks, as given. -/
  healthCheckInterval : UInt64
  /-- Negations select rows with any argument that differs in every component. -/
  legacyNegation : Bool
deriving DecidableEq, Repr

/-- Why arguments cannot be used. -/
inductive SettingsFault where
  | unknownArgument
  | missingValue
  | badValue
  | repeated
  /-- A switch is given a value. -/
  | unneededValue
  /-- Help is asked for. -/
  | help
deriving DecidableEq, Repr

/-- The wording of the fault. -/
def SettingsFault.message : SettingsFault → String
  | unknownArgument => "unknown argument"
  | missingValue => "a flag has no value"
  | badValue => "a value is no number in range"
  | repeated => "a flag is given twice"
  | unneededValue => "a switch is given a value"
  | help => "help is asked for"

/-- A setting with a value. -/
inductive Setting where
  | serviceName
  | providers
  | logsDb
  | accountsDb
  | host
  | port
  | prefetch
  | queueSize
  | healthCheckInterval
deriving DecidableEq, Repr

namespace Setting

/-- All settings with a value. -/
def all : List Setting :=
  [serviceName, providers, logsDb, accountsDb, host, port, prefetch, queueSize, healthCheckInterval]

/-- The flag of a setting. -/
def flag : Setting → String
  | serviceName => "service-name"
  | providers => "providers"
  | logsDb => "logs-db"
  | accountsDb => "accounts-db"
  | host => "host"
  | port => "port"
  | prefetch => "prefetch"
  | queueSize => "queue-size"
  | healthCheckInterval => "health-check-interval-ms"

/-- The environment variable of a setting, if it has one. -/
def environmentName? : Setting → Option String
  | serviceName => some "RABBIT_SERVICE_NAME"
  | providers => some "WEB3_PROVIDERS"
  | logsDb => some "LOGS_DB"
  | accountsDb => some "ACCOUNTS_DB"
  | host => some "HOST"
  | port => some "PORT"
  | prefetch | queueSize | healthCheckInterval => none

end Setting

/-- The flags, one in a line, with the variables that stand in for them. -/
def usage : String :=
  let line (s : Setting) : String :=
    "  --" ++ s.flag ++ " VALUE" ++
      match s.environmentName? with
      | some name => " (" ++ name ++ ")"
      | none => ""
  "\n".intercalate (Setting.all.map line ++ ["  --legacy-negation", "  --help"])

/-! ## Values -/

/-- The number of decimal digits, of which there has to be one, behind an optional plus sign. -/
def unsigned? (cs : List Char) : Option Nat :=
  let digits := if cs.head? = some '+' then cs.drop 1 else cs
  if digits.isEmpty then none else decimalNat? digits

/-- A port number. Zero may carry a minus sign. -/
def port? (v : String) : Option UInt16 :=
  let n :=
    match v.toList with
    | '-' :: digits => if digits.head? = some '+' then none else (unsigned? digits).filter (· == 0)
    | digits => unsigned? digits
  (n.filter (· < 2 ^ 16)).map UInt16.ofNat

/-- A number of 64 bits. -/
def word64? (v : String) : Option UInt64 :=
  ((unsigned? v.toList).filter (· < 2 ^ 64)).map UInt64.ofNat

/-- The pieces of a list between its commas. -/
def commaPieces (v : String) : List String :=
  (v.toList.foldr
    (fun c (pieces : List (List Char)) =>
      match pieces with
      | piece :: rest => if c = ',' then [] :: piece :: rest else (c :: piece) :: rest
      | [] => [[c]])
    [[]]).map String.ofList

/-! ## What is given -/

/-- **The settings that have been given.** -/
structure Given where
  serviceName : Option String
  providers : Option (List String)
  logsDb : Option String
  accountsDb : Option String
  host : Option String
  port : Option UInt16
  prefetch : Option UInt64
  queueSize : Option UInt64
  healthCheckInterval : Option UInt64
  legacyNegation : Bool
deriving DecidableEq, Repr

namespace Given

/-- Nothing is given. -/
def nothing : Given := ⟨none, none, none, none, none, none, none, none, none, false⟩

/-- Whether a setting is given. -/
def has (g : Given) : Setting → Bool
  | .serviceName => g.serviceName.isSome
  | .providers => g.providers.isSome
  | .logsDb => g.logsDb.isSome
  | .accountsDb => g.accountsDb.isSome
  | .host => g.host.isSome
  | .port => g.port.isSome
  | .prefetch => g.prefetch.isSome
  | .queueSize => g.queueSize.isSome
  | .healthCheckInterval => g.healthCheckInterval.isSome

/-- A value that has to be of a kind. -/
def sound (value : Option α) : Except SettingsFault α :=
  match value with
  | some a => .ok a
  | none => .error .badValue

/-- **One more value.** Only the providers may be given several times, and add up. -/
def assign (g : Given) (s : Setting) (v : String) : Except SettingsFault Given :=
  if s ≠ .providers ∧ g.has s then .error .repeated
  else
    match s with
    | .serviceName => .ok { g with serviceName := some v }
    | .providers => .ok { g with providers := some (g.providers.getD [] ++ commaPieces v) }
    | .logsDb => .ok { g with logsDb := some v }
    | .accountsDb => .ok { g with accountsDb := some v }
    | .host => .ok { g with host := some v }
    | .port => (sound (port? v)).map fun n => { g with port := some n }
    | .prefetch => (sound (word64? v)).map fun n => { g with prefetch := some n }
    | .queueSize => (sound (word64? v)).map fun n => { g with queueSize := some n }
    | .healthCheckInterval =>
      (sound (word64? v)).map fun n => { g with healthCheckInterval := some n }

/-- The switch for legacy negation. -/
def switchOn (g : Given) : Except SettingsFault Given :=
  if g.legacyNegation then .error .repeated else .ok { g with legacyNegation := true }

/-- The settings of an environment for those that are not given. -/
def addEnvironment (environment : String → Option String) (g : Given) :
    Except SettingsFault Given :=
  Setting.all.foldlM
    (fun g s =>
      if g.has s then .ok g
      else
        match s.environmentName?.bind environment with
        | some v => g.assign s v
        | none => .ok g)
    g

end Given

/-! ## Arguments -/

/-- A flag whose value stands by itself and has not been looked at. -/
structure PendingFlag where
  setting : Setting
  value : Option String
deriving DecidableEq, Repr

/-- What a flag is for. -/
inductive FlagKind where
  | takes (s : Setting)
  | legacyNegation
  | help
deriving DecidableEq, Repr

/-- What a flag is for, if it is known. -/
def flagKind? (name : List Char) : Option FlagKind :=
  if name = "legacy-negation".toList then some .legacyNegation
  else if name = "help".toList then some .help
  else (Setting.all.find? fun s => name = s.flag.toList).map .takes

namespace Given

/-- What is given after a pending flag has been looked at. -/
def lookAt (g : Given) : Option PendingFlag → Except SettingsFault Given
  | none => .ok g
  | some ⟨_, none⟩ => .error .missingValue
  | some ⟨s, some v⟩ => g.assign s v

/-- **What some arguments give.** -/
def readArguments : (g : Given) → (pending : Option PendingFlag) → List String →
    Except SettingsFault Given
  | g, pending, [] => g.lookAt pending
  | g, pending, argument :: rest =>
    match argument.toList with
    | ['-', '-'] => if rest.isEmpty then g.lookAt pending else .error .unknownArgument
    | '-' :: '-' :: flag =>
      let name := flag.takeWhile (· != '=')
      let attached := if flag.contains '=' then some (flag.drop (name.length + 1)) else none
      match flagKind? name, attached with
      | none, _ => .error .unknownArgument
      | some (.takes s), some v => do
        let g ← g.lookAt pending
        readArguments (← g.assign s (String.ofList v)) none rest
      | some (.takes s), none => do
        readArguments (← g.lookAt pending) (some ⟨s, none⟩) rest
      | some _, some _ => .error .unneededValue
      | some .legacyNegation, none => do
        let g ← g.lookAt pending
        readArguments (← g.switchOn) none rest
      | some .help, none => do
        let _ ← g.lookAt pending
        throw .help
    | '-' :: letter :: _ =>
      if letter = 'h' then do
        let _ ← g.lookAt pending
        throw .help
      else .error .unknownArgument
    | _ =>
      match pending with
      | some ⟨s, none⟩ => readArguments g (some ⟨s, some argument⟩) rest
      | _ => .error .unknownArgument

/-- The settings, with defaults for those that are not given. -/
def settings (g : Given) : Settings where
  serviceName := g.serviceName.getD "app_eth"
  providers := g.providers.getD ["http://localhost:8545"]
  logsDb := g.logsDb.getD "./logs.db"
  accountsDb := g.accountsDb.getD "./accounts.db"
  host := g.host.getD "0.0.0.0"
  port := g.port.getD 8081
  prefetch := g.prefetch.getD 2
  queueSize := g.queueSize.getD 1024
  healthCheckInterval := g.healthCheckInterval.getD 5000
  legacyNegation := g.legacyNegation

end Given

namespace Settings

/-- **The settings of some arguments and an environment.** -/
def read (arguments : List String) (environment : String → Option String) :
    Except SettingsFault Settings := do
  let given ← Given.nothing.readArguments none arguments
  return (← given.addEnvironment environment).settings

/-- Milliseconds between two health checks, one at least. -/
def checkInterval (s : Settings) : Nat := max s.healthCheckInterval.toNat 1

/-- What negations select. -/
def negation (s : Settings) : Negation := if s.legacyNegation then .fieldWise else .complement

/-- The settings as a document. -/
def toJson (s : Settings) : Json :=
  .object [("service_name", .str s.serviceName), ("providers", .texts s.providers),
    ("logs_db", .str s.logsDb), ("accounts_db", .str s.accountsDb), ("host", .str s.host),
    ("port", .nat s.port.toNat), ("prefetch", .nat s.prefetch.toNat),
    ("queue_size", .nat s.queueSize.toNat), ("health_check_interval_ms", .nat s.checkInterval),
    ("negation", .str (if s.legacyNegation then "FieldWise" else "Complement"))]

end Settings

end TransferLedger
