import RespClient.Duration
import RespClient.SetupMode
import RespClient.Text.Blank

/-!
# Configuration of a pool

The number of connections, the servers they go to, how long to wait for a server, and how far the
connections are set up in advance.
-/

namespace RespClient.Pool

/-- The timeout that stands in for none. -/
def defaultTimeout : Duration := .ofSeconds 15

/-- What a pool is built from. -/
structure Config where
  /-- The number of connections. -/
  capacity : Nat := 8
  /-- The addresses of the servers, given to the connections in turn. -/
  addresses : List String := ["127.0.0.1:6379"]
  /-- How long to wait for a server; zero stands for the default. -/
  timeout : Duration := defaultTimeout
  /-- How far connections are set up when the pool opens. -/
  mode : SetupMode := .lazy
  deriving DecidableEq, Repr, Inhabited

namespace Config

/-- The timeout that connections get, which is never zero. -/
def connectionTimeout (config : Config) : Duration :=
  if config.timeout.isZero then defaultTimeout else config.timeout

/-- Refuses a configuration with the first of its faults. -/
def check (config : Config) : Except Error Unit :=
  if config.capacity = 0 then .error (.config .zeroCapacity)
  else if config.addresses.isEmpty then .error (.config .noAddress)
  else
    match config.addresses.findIdx? isBlank with
    | some index => .error (.config (.blankAddress index))
    | none => .ok ()

end Config

end RespClient.Pool
