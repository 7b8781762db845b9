import RespClient.Error
import RespClient.Text.Decimal

/-!
# Command frames

A command travels as an array of bulk strings, its name first. `framePieces` lists the pieces of
the frame in the order in which they are written, and `frame` is the frame itself.

`writeWithin` writes a frame into a writer that takes a limited number of bytes. What the writer
has taken is then exactly the beginning of the frame: nothing is written behind a piece that did
not fit.
-/

namespace RespClient

/-- The pieces of a bulk string: its header, its content, and its line end. -/
def bulkPieces (data : Bytes) : List Bytes :=
  ['$'.toUInt8 :: Decimal.ofNat data.length ++ crlf, data, crlf]

/-- The pieces of the frame of a command. The header of the array is one piece, and so is the header of
each bulk string. A writer may well be handed these in several parts, and nothing hangs on that: what
it takes in the end depends on the bytes alone, and the call that takes nothing is the last one either
way. -/
def framePieces (name : String) (args : List Bytes) : List Bytes :=
  ('*'.toUInt8 :: Decimal.ofNat (args.length + 1) ++ crlf) ::
    (bulkPieces (utf8 name) ++ args.flatMap bulkPieces)

/-- The frame of a command. -/
def frame (name : String) (args : List Bytes) : Bytes := (framePieces name args).flatten

/-- Writes pieces in order into a writer with `room` bytes left, and stops at the first piece that
does not fit. The second component is what the writer took. -/
def writePieces (room : Nat) : List Bytes → Except Error Unit × Bytes
  | [] => (.ok (), [])
  | piece :: rest =>
    if piece.length ≤ room then
      let (result, taken) := writePieces (room - piece.length) rest
      (result, piece ++ taken)
    else (.error (.io .writeZero), piece.take room)

/-- Writes the frame of a command into a writer that takes `room` bytes. -/
def writeWithin (room : Nat) (name : String) (args : List Bytes) : Except Error Unit × Bytes :=
  writePieces room (framePieces name args)

end RespClient
