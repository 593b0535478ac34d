import CityGuide.Crypto.Bytes
import CityGuide.Text.Blank
import CityGuide.Text.Digits
import CityGuide.Text.Quoted

namespace CityGuide

/-- What the service is started with; times are in seconds. -/
structure Config where
  port : Nat
  databaseUrl : String
  maxConnections : Nat
  secret : String
  tokenLifetime : UInt64
  origins : List String
  requestTimeout : UInt64
  deriving DecidableEq, Repr

namespace Config

open Text

inductive Fault where
  | port
  | noDatabase
  | maxConnections
  | noSecret
  | shortSecret
  | tokenLifetime
  | requestTimeout
  deriving DecidableEq, Repr

def Fault.message : Fault → String
  | port => "PORT must be a valid u16"
  | noDatabase => "DATABASE_URL environment variable is required"
  | maxConnections => "DATABASE_MAX_CONNECTIONS must be a valid u32"
  | noSecret => "JWT_SECRET environment variable is required"
  | shortSecret => "JWT_SECRET must be at least 32 bytes"
  | tokenLifetime => "ACCESS_TOKEN_TTL_SECS must be a number of seconds"
  | requestTimeout => "REQUEST_TIMEOUT_SECS must be a number of seconds"

abbrev Environment := String → Option String

def variableNames : List String :=
  ["PORT", "DATABASE_URL", "DATABASE_MAX_CONNECTIONS", "JWT_SECRET", "ACCESS_TOKEN_TTL_SECS",
    "CORS_ALLOWED_ORIGINS", "REQUEST_TIMEOUT_SECS"]

def number (env : Environment) (name : String) (default bits : Nat) (fault : Fault) :
    Except Fault Nat :=
  match env name with
  | none => .ok default
  | some s =>
      match unsigned? (maxWord bits) s.toList with
      | some n => .ok n
      | none => .error fault

def needed (env : Environment) (name : String) (fault : Fault) : Except Fault String :=
  match env name with
  | some s => .ok s
  | none => .error fault

def minSecretBytes : Nat := 32

def wildcard : String := "*"

def parseOrigins (s : String) : List String :=
  match ((parts ',' s).map trim).filter fun o => !o.isEmpty with
  | [] => [wildcard]
  | origins => origins

def ofEnvironment (env : Environment) : Except Fault Config := do
  let port ← number env "PORT" 3000 16 .port
  let databaseUrl ← needed env "DATABASE_URL" .noDatabase
  let maxConnections ← number env "DATABASE_MAX_CONNECTIONS" 10 32 .maxConnections
  let secret ← needed env "JWT_SECRET" .noSecret
  if secret.utf8ByteSize < minSecretBytes then .error .shortSecret
  else do
    let tokenLifetime ← number env "ACCESS_TOKEN_TTL_SECS" 86400 64 .tokenLifetime
    let requestTimeout ← number env "REQUEST_TIMEOUT_SECS" 30 64 .requestTimeout
    .ok {
      port, databaseUrl, maxConnections, secret
      tokenLifetime := UInt64.ofNat tokenLifetime
      origins := ((env "CORS_ALLOWED_ORIGINS").map parseOrigins).getD [wildcard]
      requestTimeout := UInt64.ofNat requestTimeout }

def secretBytes (c : Config) : Crypto.Bytes := Crypto.utf8 c.secret

def seconds (n : UInt64) : String := if n = 0 then "0ns" else toString n.toNat ++ "s"

def summary (c : Config) : String :=
  "Config \x7b port: " ++ toString c.port ++
    ", database_max_connections: " ++ toString c.maxConnections ++
    ", access_token_ttl: " ++ seconds c.tokenLifetime ++
    ", cors_allowed_origins: [" ++ ", ".intercalate (c.origins.map Quoted.encode) ++
    "], request_timeout: " ++ seconds c.requestTimeout ++ ", .. \x7d"

def tokenSummary (lifetime : UInt64) : String :=
  "TokenService \x7b ttl: " ++ seconds lifetime ++ ", .. \x7d"

end Config

end CityGuide
