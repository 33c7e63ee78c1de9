import BoxOffice.Settings
import BoxOffice.Text.Bytes
import BoxOffice.Text.Uppercase

/-! What the environment of the program sets, and its reading. The environment keeps names and
values in bytes that end before a zero. -/
namespace BoxOffice

/- The lead time is in seconds. -/
structure Configuration where
  secretKey : String
  debug : Bool
  allowedHosts : List String
  engine : String
  databaseName : String
  user : String
  password : String
  host : String
  port : String
  minEventLead : Int
  maxTierCapacity : Int
  escrowAccount : String
  store : String
  logLevel : String
  deriving DecidableEq, Repr

namespace Configuration

def readInteger (text : String) : Except Failure Int :=
  match Text.integer text with
  | .ok value => .ok value
  | .error fault => .error (.notAnInteger fault (Text.quotedStart text))

def readLead (text : String) : Except Failure Int := do
  let seconds ← readInteger text
  let _ ← spanOfSeconds (.whole seconds)
  return seconds

def saysTrue (text : String) : Bool :=
  text.toList.map Char.toLower == "true".toList

def encoded (text : String) : Except Failure (List Nat) :=
  match Text.bytes? (Text.pointsOf text) with
  | some bytes => .ok bytes
  | none => .error .notEncodable

def variableOf (name : String) (value : Raw) : Except Failure (String × String) := do
  let nameBytes ← encoded name
  let .text value := value | throw .notAText
  let valueBytes ← encoded value
  if nameBytes.contains 0 || valueBytes.contains 0 then throw .embeddedZero
  if nameBytes.contains '='.toNat then throw .variableMisnamed
  if nameBytes.isEmpty then throw .variableUnnamed
  return (name, Text.ofPoints (Text.ofBytes valueBytes))

def ofEnvironment (given : List (String × Raw)) : Except Failure Configuration := do
  let environment ← given.mapM fun (name, value) => variableOf name value
  let get (name fallback : String) : String := (environment.lookup name).getD fallback
  let minEventLead ← readLead (get "TICKETING_MIN_EVENT_LEAD_SECONDS" "86400")
  let maxTierCapacity ← readInteger (get "TICKETING_MAX_TIER_CAPACITY" "100000")
  return {
    secretKey := get "DJANGO_SECRET_KEY" "insecure-development-key"
    debug := saysTrue (get "DJANGO_DEBUG" "false")
    allowedHosts := ((get "DJANGO_ALLOWED_HOSTS" "").splitOn ",").filter (!·.isEmpty)
    engine := get "DATABASE_ENGINE" "django.db.backends.sqlite3"
    databaseName := get "DATABASE_NAME" "<BASE_DIR>/db.sqlite3"
    user := get "DATABASE_USER" ""
    password := get "DATABASE_PASSWORD" ""
    host := get "DATABASE_HOST" ""
    port := get "DATABASE_PORT" ""
    minEventLead
    maxTierCapacity
    escrowAccount := get "TICKETING_ESCROW_ACCOUNT" Settings.standard.escrowAccount.plain
    store := get "TICKETING_STORE" Settings.standard.store.plain
    logLevel := Text.upper (get "LOG_LEVEL" "INFO")
  }

end Configuration
end BoxOffice
