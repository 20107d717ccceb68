import Vdba.Models

namespace Vdba

/-- Clock readings and spans of time, in microseconds. -/
abbrev Time := Nat

def seconds (n : Nat) : Time := n * 1000000

def POSTGRES_DB : String := "appdb"
def CLICKHOUSE_DB : String := "appdb"
def ADMIN_POLICY_NAME : String := "db-access-admin"
def TOKEN_ROLE_NAME : String := "vdba-grant"

def TOKEN_GRACE_SECONDS : Int := 120
def HELPER_TTL_SECONDS : Int := 60

def ALLOWED_POSTGRES_COMMANDS : List String := ["SELECT", "INSERT", "UPDATE", "DELETE"]
def ALLOWED_CLICKHOUSE_COMMANDS : List String := ["SELECT", "INSERT", "ALTER UPDATE", "ALTER DELETE"]

def MAX_ACCESSOR_SCAN : Nat := 20000

def MAX_ISSUE_OPS : Nat := 6
def MAX_REVOKE_OPS : Nat := 4
def MAX_AUTH_OPS : Nat := 4
def MAX_SESSION_CHECKS : Nat := 8

def BODY_LIMIT : Nat := 64 * 1024

def SESSION_ABSOLUTE_SECONDS : Nat := 8 * 3600
def SESSION_IDLE_SECONDS : Nat := 30 * 60

/-- What the environment of the process sets. -/
structure Config where
  ttlMin : Int
  ttlMax : Int
  sessionRecheckSeconds : Nat
  testHooks : Bool
  publicOrigin : String
  extraOrigins : List String
  deriving DecidableEq

end Vdba
