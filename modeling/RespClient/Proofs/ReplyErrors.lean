import Mathlib.Data.Nat.Init
import RespClient.Wire.Reader

/-!
# Errors of replies

Every error with which a reply cannot be read concerns the connection, and not the command that was to be
answered: the stream ended or fell silent, or its bytes are no reply. There is one statement for each stage
of reading, and `Reply.concernsConnection_of_read` for replies at any depth.
-/

namespace RespClient

/-! ## Lines and headers -/

theorem concernsConnection_of_lineCutShort (ending : Ending) (bytes : Bytes) :
    (lineCutShort ending bytes).concernsConnection = true := by
  unfold lineCutShort
  split <;> rfl

theorem concernsConnection_of_bulkCutShort (ending : Ending) :
    (bulkCutShort ending).concernsConnection = true := by
  cases ending <;> rfl

theorem concernsConnection_of_readBulk {ending : Ending} {length : Int64} {bytes rest : Bytes}
    {error : Error} (read : readBulk ending length bytes = (.error error, rest)) :
    error.concernsConnection = true := by
  unfold readBulk at read
  split at read
  · cases read
  · split at read
    · cases read
      rfl
    · split at read
      · cases read
      · next cause rest' content =>
        cases read
        unfold readContent at content
        dsimp only at content
        split at content
        · cases content
          exact concernsConnection_of_bulkCutShort ending
        · split at content
          · cases content
          · cases content
            rfl

theorem concernsConnection_of_readDeclared {ending : Ending} {marker : Marker}
    {text bytes rest : Bytes} {error : Error}
    (read : readDeclared ending marker text bytes = (.error error, rest)) :
    error.concernsConnection = true := by
  cases marker with
  | status | error => cases read
  | integer =>
    simp only [readDeclared] at read
    split at read
    · cases read
      rfl
    · cases read
  | bulk =>
    simp only [readDeclared] at read
    split at read
    · cases read
      rfl
    · split at read
      · cases read
      · next content =>
        cases read
        exact concernsConnection_of_readBulk content
  | array =>
    simp only [readDeclared] at read
    split at read
    · cases read
      rfl
    · split at read
      · cases read
      · split at read
        · cases read
          rfl
        · cases read

theorem concernsConnection_of_readHeader {ending : Ending} {input rest : Input} {error : Error}
    (read : readHeader ending input = (.error error, rest)) :
    error.concernsConnection = true := by
  unfold readHeader at read
  split at read
  · next cause input' line =>
    cases read
    unfold readLine at line
    split at line
    · cases line
      exact concernsConnection_of_lineCutShort ending _
    · dsimp only at line
      split at line
      · cases line
      · cases line
        rfl
  · split at read
    · cases read
      rfl
    · split at read
      · cases read
        rfl
      · next first text line marker known =>
        exact concernsConnection_of_readDeclared (Prod.ext (Prod.mk.inj read).1 rfl)

/-! ## Replies -/

theorem Reply.concernsConnection_of_readList {ending : Ending} {limit : Nat}
    (single : ∀ {bytes rest : Bytes} {error : Error}, bytes.length < limit →
      Reply.read ending bytes = (.error error, rest) → error.concernsConnection = true)
    {count : Nat} {bytes rest : Bytes} {error : Error} (short : bytes.length < limit)
    (read : Reply.readList ending count bytes = (.error error, rest)) :
    error.concernsConnection = true := by
  induction count generalizing bytes with
  | zero =>
    rw [readList_zero] at read
    cases read
  | succ count others =>
    rw [readList_succ] at read
    split at read
    · next first =>
      cases read
      exact single short first
    · next item rest' first =>
      split at read
      · cases read
      · next later =>
        cases read
        exact others (Nat.lt_trans (length_lt_of_read first) short) later

/-- An error with which a reply cannot be read concerns the connection, at any depth. -/
theorem Reply.concernsConnection_of_read {ending : Ending} {bytes rest : Bytes} {error : Error}
    (read : Reply.read ending bytes = (.error error, rest)) :
    error.concernsConnection = true := by
  -- The elements of an array are shorter than the array by at least its line.
  induction length : bytes.length using Nat.strong_induction_on generalizing bytes rest error with
  | _ limit shorter =>
    rw [read_eq] at read
    split at read
    · next header =>
      cases read
      exact concernsConnection_of_readHeader header
    · cases read
    · next count inside header =>
      have fewer := length_lt_of_readHeader header
      rw [length] at fewer
      split at read
      · cases read
      · next list =>
        cases read
        exact concernsConnection_of_readList (fun short read => shorter _ short read rfl) fewer list

theorem Reply.concernsConnection_of_readFrom {ending : Ending} {input rest : Input} {error : Error}
    (read : Reply.readFrom ending input = (.error error, rest)) :
    error.concernsConnection = true := by
  have reads := Reply.read_unread ending input
  rw [read] at reads
  exact concernsConnection_of_read reads

end RespClient
