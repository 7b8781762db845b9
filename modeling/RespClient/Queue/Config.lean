import RespClient.Error

/-!
# Sizing of a queue

How many commands wait, how many workers send them, and how many go into one batch.
-/

namespace RespClient.Queue

/-- What a queue is built from. -/
structure Config where
  /-- The most commands that wait for a worker. -/
  queueSize : Nat := 1024
  /-- The number of workers, each with its own connection. -/
  workers : Nat := 4
  /-- The most commands in one batch. -/
  batchSize : Nat := 32
  deriving DecidableEq, Repr, Inhabited

/-- Refuses a sizing with the first constraint that it violates. -/
def Config.check (config : Config) : Except Error Unit :=
  if config.queueSize = 0 then .error .zeroQueueSize
  else if config.workers = 0 then .error .zeroWorkers
  else if config.batchSize = 0 then .error .zeroBatchSize
  else if config.queueSize < config.workers then
    .error (.queueTooSmall config.queueSize config.workers)
  else .ok ()

end RespClient.Queue
