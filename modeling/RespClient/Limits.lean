/-!
# Size limits

The largest replies that are accepted, and the most that memory has room for. A reply that declares
more than is accepted is refused before its content is read. Whoever asks for more room than there
can be crashes.
-/

namespace RespClient

/-- The most bytes in a bulk string. -/
def maxBulkLength : Nat := 512 * 1024 * 1024

/-- The most elements in an array. -/
def maxArrayLength : Nat := 1024 * 1024

/-- The most entries for which room can be set aside at once. No block of memory has `2 ^ 63` bytes, and
every entry is taken to have `2 ^ 10` of them, whatever it is. Smaller ones overflow a block only in
greater numbers, at `2 ^ 63` bytes over the size of one. Below that number there may still be too little
memory for them, and then the whole program ends; a crash for want of room stands for that too. -/
def maxRoom : Nat := 1 <<< 53

end RespClient
