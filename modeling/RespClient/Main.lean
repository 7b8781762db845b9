import RespClient.CommandLine

/-!
# Entry point

The program has no sockets of its own. The servers that it is told to use stand in for real ones:
each accepts one connection that has something to say, and says what is read from the standard
input.
-/

namespace RespClient.CommandLine

/-- Everything that is left to read. -/
partial def readAllBytes (input : IO.FS.Stream) (before : ByteArray) : IO ByteArray := do
  let piece ← input.read 65536
  if piece.isEmpty then return before else readAllBytes input (before ++ piece)

/-- Servers that answer their first connection with the same stream. -/
def standIns (addresses : List String) (stream : Bytes) : Tcp.Network where
  routed := true
  servers := addresses.eraseDups.map fun name => { name, streams := [stream], ending := .closed }

/-- How fast a load went. -/
def pace (count milliseconds : Nat) : String :=
  let elapsed := max milliseconds 1
  let fraction := toString (elapsed % 1000)
  let zeros := "".pushn '0' (3 - fraction.length)
  s!" in {elapsed / 1000}.{zeros}{fraction}s ({count * 1000 / elapsed} ops/s)\n"

/-- Runs the program and writes what it has to say. -/
def execute (arguments : List String) : IO UInt32 := do
  let began ← IO.monoMsNow
  let outcome ←
    match Invocation.ofArguments arguments with
    | .error exit => pure (Outcome.exited exit)
    | .ok invocation => do
      let stream ← readAllBytes (← IO.getStdin) ByteArray.empty
      let net := standIns invocation.pool.addresses stream.data.toList
      pure (invocation.run { net }).1
  IO.print outcome.stdout
  match outcome with
  | .loaded count => IO.print (pace count ((← IO.monoMsNow) - began))
  | _ => pure ()
  IO.eprint outcome.stderr
  return UInt32.ofNat outcome.code

end RespClient.CommandLine

/-- Runs the program. -/
def main (arguments : List String) : IO UInt32 := RespClient.CommandLine.execute arguments
