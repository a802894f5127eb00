import Mathlib
import RivetGo.Data.Bare
import RivetGo.Wire.Command

/-!
# Responses of the Actor Runtime Socket

The first part is the schema: the types of a response and their encoding. The second is the
decoder of the client. It bounds strings, blobs and the number of columns, refuses a list that
claims more elements than there are bytes, and wants each row as wide as the list of columns.

On the encoding of a response the decoder succeeds exactly if the response is within its limits.
-/

namespace RivetGo.SocketCodec

open Bare (Decoder Reads Stable fail remaining loop littleEndian ofLittleEndian)
open Wire (SQLiteValue WireError)

/-! ## The schema -/

inductive SqlValue where
  | null
  | integer (n : Int64)
  | real (bits : UInt64)
  | text (s : Bytes)
  | blob (b : Bytes)

/-- A list has fewer than `2 ^ 64` elements, since its length is a `uint`. -/
structure SqliteQueryOk where
  columns : List Bytes
  rows : List (List SqlValue)
  changes : Int64
  lastInsertRowId : Option Int64
  rows_lt : rows.length < 2 ^ 64

inductive ResponsePayload where
  | sqliteExecOk
  | sqliteQueryOk (result : SqliteQueryOk)
  | sqliteBeginOk
  | sqliteCommitOk
  | sqliteRollbackOk
  | sqlError (code : Int32) (statementIndex : UInt32) (message : Bytes)
  | endpointClosed
  | queueFull (limit : Bytes) (capacity : UInt32)
  | invalidLeaseKey (message : Bytes)
  | leaseExpired (timeoutMs : UInt64) (message : Bytes)
  | responseTooLarge

structure Response where
  requestId : UInt32
  payload : ResponsePayload

def encodeI64 (n : Int64) : Bytes := littleEndian 8 n.toUInt64.toNat

def SqlValue.encode : SqlValue → Bytes
  | .null => Bare.uint 0
  | .integer n => Bare.uint 1 ++ encodeI64 n
  | .real bits => Bare.uint 2 ++ littleEndian 8 bits.toNat
  | .text s => Bare.uint 3 ++ Bare.data s
  | .blob b => Bare.uint 4 ++ Bare.data b

def SqliteQueryOk.encode (r : SqliteQueryOk) : Bytes :=
  Bare.list Bare.data r.columns ++ (Bare.list (Bare.list SqlValue.encode) r.rows ++
    (encodeI64 r.changes ++ Bare.optional encodeI64 r.lastInsertRowId))

def ResponsePayload.encode : ResponsePayload → Bytes
  | .sqliteExecOk => Bare.uint 0
  | .sqliteQueryOk result => Bare.uint 1 ++ result.encode
  | .sqliteBeginOk => Bare.uint 2
  | .sqliteCommitOk => Bare.uint 3
  | .sqliteRollbackOk => Bare.uint 4
  | .sqlError code statementIndex message =>
    Bare.uint 5 ++ (littleEndian 4 code.toUInt32.toNat ++
      (littleEndian 4 statementIndex.toNat ++ Bare.data message))
  | .endpointClosed => Bare.uint 6
  | .queueFull limit capacity =>
    Bare.uint 7 ++ (Bare.data limit ++ littleEndian 4 capacity.toNat)
  | .invalidLeaseKey message => Bare.uint 8 ++ Bare.data message
  | .leaseExpired timeoutMs message =>
    Bare.uint 9 ++ (littleEndian 8 timeoutMs.toNat ++ Bare.data message)
  | .responseTooLarge => Bare.uint 10

def protocolVersion : Nat := 1

/-- A `ServerFrame` of the first kind. -/
def Response.frame (r : Response) : Bytes :=
  Bare.uint 0 ++ (littleEndian 4 r.requestId.toNat ++ r.payload.encode)

/-- The frame behind the version of its schema. -/
def Response.encode (r : Response) : Bytes := littleEndian 2 protocolVersion ++ r.frame

/-! ## The decoder -/

def maxValueBytes : Nat := 2 ^ 20

def maxColumns : Nat := 1024

/-- The record `response`. -/
structure DecodedResponse where
  id : UInt32
  columns : List Bytes := []
  values : List SQLiteValue := []
  changes : Int64 := 0
  lastInsertId : Option Int64 := none
  err : Option WireError := none

def take (count : Nat) : Decoder Bytes := fun s =>
  if s.length < count then .error s!"BARE value needs {count} bytes with {s.length} remaining"
  else .ok (s.take count, s.drop count)

/-- The loop of `uint`, with the passes that are left. -/
def uintLoop : Nat → Nat → Nat → Decoder Nat
  | 0, _, _ => fail "BARE uint is too long"
  | passes + 1, shift, value => do
      let data ← take 1
      let part := (data.headD 0).toNat
      if shift = 63 ∧ 1 < part then fail "BARE uint overflows u64"
      else
        let value := value ||| ((part &&& 0x7f) <<< shift) % 2 ^ 64
        if part < 0x80 then pure value else uintLoop passes (shift + 7) value

def uint : Decoder Nat := uintLoop 10 0 0

def u32 : Decoder UInt32 := do return UInt32.ofNat (ofLittleEndian (← take 4))

def u64 : Decoder UInt64 := do return UInt64.ofNat (ofLittleEndian (← take 8))

def i32 : Decoder Int32 := do return (UInt32.ofNat (ofLittleEndian (← take 4))).toInt32

def i64 : Decoder Int64 := do return (← u64).toInt64

def boolean : Decoder Bool := do
  let data ← take 1
  let b := (data.headD 0).toNat
  if 1 < b then fail s!"BARE bool has invalid value {b}" else pure (b == 1)

def length (maximum : Nat) : Decoder Nat := do
  let length ← uint
  let left ← remaining
  if maximum < length ∨ left < length then
    fail s!"BARE length {length} exceeds limit or {left} remaining bytes"
  else pure length

/-- `d.length(d.remaining())`. -/
def lengthRemaining : Decoder Nat := do length (← remaining)

def string : Decoder Bytes := do
  let data ← take (← length maxValueBytes)
  if ¬ Utf8.Valid data then fail "BARE string is not UTF-8" else pure data

/-- `append([]byte(nil), data...)`, which is nil without data. -/
def appendToNil (data : Bytes) : Option Bytes := if data = [] then none else some data

def sqlValue : Decoder SQLiteValue := do
  let tag ← uint
  match tag with
  | 0 => pure { kind := "null" }
  | 1 => do return { kind := "integer", integer := some (← i64) }
  | 2 => do return { kind := "real", bits := some (← u64) }
  | 3 => do return { kind := "text", text := some (← string) }
  | 4 => do
      let data ← take (← length maxValueBytes)
      return { kind := "blob", blob := some (some ((appendToNil data).getD [])) }
  | _ => fail s!"unknown BARE SqlValue tag {tag}"

/-- The body of the loop over the columns. -/
def decodeColumn (columns : List Bytes) : Decoder (List Bytes) := do
  return columns ++ [← string]

/-- The body of the loop over the values of a row. -/
def decodeValue (values : List SQLiteValue) : Decoder (List SQLiteValue) := do
  return values ++ [← sqlValue]

/-- The body of the loop over the rows. -/
def decodeRow (columnCount : Nat) (values : List SQLiteValue) : Decoder (List SQLiteValue) := do
  let valueCount ← length maxColumns
  if valueCount ≠ columnCount then
    fail s!"SQLite row has {valueCount} values for {columnCount} columns"
  else loop decodeValue valueCount values

def decodeLastInsertId : Decoder (Option Int64) := do
  if ← boolean then return some (← i64) else return none

def decodeQueryResult (result : DecodedResponse) : Decoder DecodedResponse := do
  let columnCount ← length maxColumns
  let columns ← loop decodeColumn columnCount []
  let rowCount ← lengthRemaining
  let values ← loop (decodeRow columnCount) rowCount []
  let changes ← i64
  let lastInsertId ← decodeLastInsertId
  return { result with
    columns := columns, values := values, changes := changes, lastInsertId := lastInsertId }

/-- The `switch` of `decodeResponse`. -/
def decodePayload (result : DecodedResponse) (payloadTag : Nat) : Decoder DecodedResponse :=
  match payloadTag with
  | 0 => pure result
  | 2 => pure result
  | 3 => pure result
  | 4 => pure result
  | 1 => decodeQueryResult result
  | 5 => do
      let code ← i32
      let statement ← u32
      let message ← string
      return { result with
        err := some ⟨Utf8.encode "sqlite_error", message, some code, some statement⟩ }
  | 6 => pure { result with
      err := some { code := Utf8.encode "sqlite_endpoint_closed"
                    message := Utf8.encode "Actor Runtime Socket endpoint is closed" } }
  | 7 => do
      let limit ← string
      let capacity ← u32
      return { result with
        err := some { code := Utf8.encode "sqlite_queue_full"
                      message := limit ++
                        Utf8.encode s!" queue is full (capacity {capacity})" } }
  | 8 => do
      let message ← string
      return { result with
        err := some { code := Utf8.encode "invalid_lease_key", message := message } }
  | 9 => do
      let timeout ← u64
      let message ← string
      return { result with
        err := some { code := Utf8.encode "transaction_expired"
                      message := message ++ Utf8.encode s!" (timeout {timeout} ms)" } }
  | 10 => pure { result with
      err := some { code := Utf8.encode "sqlite_result_too_large"
                    message :=
                      Utf8.encode "SQLite result exceeds Actor Runtime Socket maxFrameBytes" } }
  | _ => fail s!"unknown ResponsePayload tag {payloadTag}"

/-- `decodeResponse` between the version and the check of the remaining bytes. -/
def decodeFrame : Decoder DecodedResponse := do
  let frameTag ← uint
  if frameTag = 1 then do
    let reason ← uint
    fail s!"Actor Runtime Socket sent GoAway reason {reason}"
  else if frameTag ≠ 0 then fail s!"unknown ServerFrame tag {frameTag}"
  else do
    let id ← u32
    let payloadTag ← uint
    decodePayload { id := id } payloadTag

def versionedDecoder (payload : Bytes) : Except String Bytes :=
  if payload.length < 2 then .error "vbare payload has no embedded version"
  else
    let version := ofLittleEndian (payload.take 2)
    if version ≠ protocolVersion then
      .error s!"unsupported Actor Runtime Socket protocol version {version}"
    else .ok (payload.drop 2)

def decodeResponse (payload : Bytes) : Except String DecodedResponse := do
  let (result, rest) ← decodeFrame (← versionedDecoder payload)
  if rest.length ≠ 0 then .error "ServerFrame has remaining bytes" else .ok result

/-! ## What is expected -/

def SqlValue.received : SqlValue → SQLiteValue
  | .null => { kind := "null" }
  | .integer n => { kind := "integer", integer := some n }
  | .real bits => { kind := "real", bits := some bits }
  | .text s => { kind := "text", text := some s }
  | .blob b => { kind := "blob", blob := some (some b) }

/-- A string that the decoder takes. -/
def StringFits (s : Bytes) : Prop := s.length ≤ maxValueBytes ∧ Utf8.Valid s

def SqlValue.Fits : SqlValue → Prop
  | .text s => StringFits s
  | .blob b => b.length ≤ maxValueBytes
  | _ => True

/-- Every row is as wide as the list of columns. -/
def SqliteQueryOk.Rectangular (r : SqliteQueryOk) : Prop :=
  ∀ row ∈ r.rows, row.length = r.columns.length

/-- What the decoder takes, apart from the width of the rows. -/
structure SqliteQueryOk.Fits (r : SqliteQueryOk) : Prop where
  columns_le : r.columns.length ≤ maxColumns
  columns : ∀ column ∈ r.columns, StringFits column
  values : ∀ row ∈ r.rows, ∀ v ∈ row, v.Fits

def ResponsePayload.Fits : ResponsePayload → Prop
  | .sqliteQueryOk result => result.Fits
  | .sqlError _ _ message => StringFits message
  | .queueFull limit _ => StringFits limit
  | .invalidLeaseKey message => StringFits message
  | .leaseExpired _ message => StringFits message
  | _ => True

def ResponsePayload.Rectangular : ResponsePayload → Prop
  | .sqliteQueryOk result => result.Rectangular
  | _ => True

/-- What a payload adds to the response. -/
def ResponsePayload.received (id : UInt32) : ResponsePayload → DecodedResponse
  | .sqliteQueryOk r =>
    { id := id
      columns := r.columns
      values := r.rows.flatten.map SqlValue.received
      changes := r.changes
      lastInsertId := r.lastInsertRowId }
  | .sqlError code statementIndex message =>
    { id := id
      err := some ⟨Utf8.encode "sqlite_error", message, some code, some statementIndex⟩ }
  | .endpointClosed =>
    { id := id
      err := some { code := Utf8.encode "sqlite_endpoint_closed"
                    message := Utf8.encode "Actor Runtime Socket endpoint is closed" } }
  | .queueFull limit capacity =>
    { id := id
      err := some { code := Utf8.encode "sqlite_queue_full"
                    message := limit ++
                      Utf8.encode s!" queue is full (capacity {capacity})" } }
  | .invalidLeaseKey message =>
    { id := id, err := some { code := Utf8.encode "invalid_lease_key", message := message } }
  | .leaseExpired timeoutMs message =>
    { id := id
      err := some { code := Utf8.encode "transaction_expired"
                    message := message ++ Utf8.encode s!" (timeout {timeoutMs} ms)" } }
  | .responseTooLarge =>
    { id := id
      err := some { code := Utf8.encode "sqlite_result_too_large"
                    message :=
                      Utf8.encode "SQLite result exceeds Actor Runtime Socket maxFrameBytes" } }
  | _ => { id := id }

end RivetGo.SocketCodec
