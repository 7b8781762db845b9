import RespClient.Pipeline
import RespClient.Pool.Config
import RespClient.Pool.Rotation
import RespClient.Pool.Stock

/-!
# Connection pools

A pool opens a fixed number of connections to one or more servers, lends them out, and closes them.
Connections go to the addresses of the configuration in turn.

A connection is stored only if it is fit for the next borrower: one that comes back closed, or that
owes replies, is replaced by a new connection to the next address. So a pool loses none of its
places to failures.
-/

namespace RespClient

/-- What a pool has while it is open: its idle connections, and whose turn it is next. -/
structure Pool.Opened (C : Type) where
  idle : Pool.Stock C
  rotation : Pool.Rotation
  deriving Repr

/-- A pool of connections. -/
structure Pool (C : Type) where
  config : Pool.Config
  opened : Option (Pool.Opened C) := none
  deriving Repr

namespace Pool

variable {C Net : Type}

/-- Whether the pool is open. -/
def isOpen (pool : Pool C) : Bool := pool.opened.isSome

/-- Whether the pool is closed. -/
def isClosed (pool : Pool C) : Bool := !pool.isOpen

/-- The number of connections that the pool is for, while it is open. -/
def size (pool : Pool C) : Nat := (pool.opened.map fun opened => opened.idle.capacity).getD 0

/-- The number of connections ready to be lent out. -/
def length (pool : Pool C) : Nat := (pool.opened.map fun opened => opened.idle.length).getD 0

/-- Whether no connection is ready to be lent out. -/
def isEmpty (pool : Pool C) : Bool := pool.length = 0

variable [Connection C Net]

/-! ## Opening and closing -/

/-- Sets up a connection to the address whose turn it is. One that is to be probed and does not
answer is closed. -/
def setUp (config : Config) : Rotation × World Net → Except Error C × Rotation × World Net
  | (rotation, world) =>
    let address := rotation.current
    let (connection, world) := Connection.create address config.connectionTimeout world
    match config.mode with
    | .lazy => (.ok connection, rotation.advance, world)
    | .aggressive =>
      match Connection.probe connection world with
      | (.ok (), connection, world) => (.ok connection, rotation.advance, world)
      | (.error error, connection, world) =>
        let (_, _, world) :=
          Connection.close connection (world.report (.probeFailed address error))
        (.error error, rotation.advance, world)

/-- Opens the pool with all its connections, or leaves it as it was. -/
def start (pool : Pool C) (world : World Net) : Except Failure Unit × Pool C × World Net :=
  match pool.config.check with
  | .error error => (.error (.reported error), pool, world)
  | .ok () =>
    if pool.isOpen then (.error (.reported .poolAlreadyOpen), pool, world)
    else
      match Rotation.ofAddresses pool.config.addresses with
      | .error error => (.error (.reported error), pool, world)
      | .ok rotation =>
        match Stock.create pool.config.capacity (setUp pool.config) (rotation, world) with
        | (.error failure, _, world) => (.error failure, pool, world)
        | (.ok idle, rotation, world) =>
          (.ok (), { pool with opened := some ⟨idle, rotation⟩ },
            world.report (.poolOpened idle.capacity rotation.size pool.config.mode))

/-- Closes connections one after the other, and reports those that object. -/
def closeAll : List C → World Net → World Net
  | [], world => world
  | connection :: rest, world =>
    match Connection.close connection world with
    | (.ok (), _, world) => closeAll rest world
    | (.error error, _, world) => closeAll rest (world.report (.pooledCloseFailed error))

/-- Closes the pool with the connections in it. Connections that are out are closed when they come
back. -/
def stop (pool : Pool C) (world : World Net) : Pool C × World Net :=
  match pool.opened with
  | none => (pool, world)
  | some opened =>
    ({ pool with opened := none },
      (closeAll opened.idle.available world).report
        (.poolClosed opened.idle.length opened.idle.capacity))

/-! ## Lending -/

omit [Connection C Net] in
/-- Lends out the connection that has been idle longest. -/
def checkOut (pool : Pool C) : Except Error (C × Pool C) :=
  match pool.opened with
  | none => .error .poolClosed
  | some opened =>
    match opened.idle.take with
    | none => .error .poolExhausted
    | some (connection, idle) =>
      .ok (connection, { pool with opened := some { opened with idle } })

/-- A returned connection as it may be stored: closed if it owes replies. -/
def closeIfOwing (connection : C) (world : World Net) : C × World Net :=
  let unread := Connection.owed connection
  if !Connection.isClosed connection && 0 < unread then
    (Connection.close connection (world.report (.returnedUnread unread))).2
  else (connection, world)

/-- The connection to store for a returned one, and the rotation after that: a closed connection is
replaced. -/
def renew (config : Config) (connection : C) (rotation : Rotation) (world : World Net) :
    C × Rotation × World Net :=
  if Connection.isClosed connection then
    let (fresh, world) := Connection.create rotation.current config.connectionTimeout world
    (fresh, rotation.advance, world)
  else (connection, rotation, world)

/-- Takes a connection back. A pool that is closed or full closes it instead. -/
def checkIn (pool : Pool C) (connection : C) (world : World Net) : Pool C × World Net :=
  match pool.opened with
  | none => (pool, (Connection.close connection (world.report .returnedToClosedPool)).2.2)
  | some opened =>
    let (connection, world) := closeIfOwing connection world
    let (connection, rotation, world) := renew pool.config connection opened.rotation world
    match opened.idle.put connection with
    | .ok idle => ({ pool with opened := some ⟨idle, rotation⟩ }, world)
    | .error surplus =>
      ({ pool with opened := some { opened with rotation } },
        (Connection.close surplus (world.report .returnedToFullPool)).2.2)

/-- Executes commands in one round trip on a connection of the pool. -/
def exchange (commands : List Command) (pool : Pool C) (world : World Net) :
    Except Failure Unit × List Command × Pool C × World Net :=
  match pool.checkOut with
  | .error error => (.error (.reported error), commands, pool, world)
  | .ok (connection, pool) =>
    let (result, commands, connection, world) :=
      RespClient.exchange commands connection world
    let (pool, world) := pool.checkIn connection world
    (result, commands, pool, world)

end Pool

end RespClient
