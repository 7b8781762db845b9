import RespClient.Proofs.NumberedConnections
import RespClient.Proofs.PoolViews

/-!
# Pools of numbered connections

Numbers change nothing for a pool: what a pool of numbered connections does is, without the numbers,
what the pool does with the connections themselves.
-/

namespace RespClient.Pool

variable {C Net : Type}

/-- The pool without the numbers of its connections. -/
def plain (pool : Pool (Numbered C)) : Pool C where
  config := pool.config
  opened := pool.opened.map fun opened =>
    ⟨opened.idle.map Numbered.connection, opened.rotation⟩

theorem checkOut_plain (pool : Pool (Numbered C)) :
    pool.plain.checkOut =
      pool.checkOut.map fun lent => (lent.1.connection, lent.2.plain) :=
  checkOut_map Numbered.connection pool

variable [Connection C Net]

theorem start_plain (pool : Pool (Numbered C)) (world : World (Register C Net)) :
    pool.plain.start world.plain =
      ((pool.start world).1, (pool.start world).2.1.plain, (pool.start world).2.2.plain) :=
  start_view Numbered.view pool world

theorem stop_plain (pool : Pool (Numbered C)) (world : World (Register C Net)) :
    pool.plain.stop world.plain = ((pool.stop world).1.plain, (pool.stop world).2.plain) :=
  stop_view Numbered.view pool world

theorem checkIn_plain (pool : Pool (Numbered C)) (place : Numbered C)
    (world : World (Register C Net)) :
    pool.plain.checkIn place.connection world.plain =
      ((pool.checkIn place world).1.plain, (pool.checkIn place world).2.plain) :=
  checkIn_view Numbered.view pool place world

theorem exchange_pool_plain (commands : List Command) (pool : Pool (Numbered C))
    (world : World (Register C Net)) :
    pool.plain.exchange commands world.plain =
      ((pool.exchange commands world).1, (pool.exchange commands world).2.1,
        (pool.exchange commands world).2.2.1.plain,
        (pool.exchange commands world).2.2.2.plain) :=
  exchange_pool_view Numbered.view commands pool world

end RespClient.Pool
