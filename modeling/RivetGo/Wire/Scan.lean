import RivetGo.Data.Check
import RivetGo.Data.MessagePack.Header

/-!
# The scanner in front of the event decoder

`validateShape` walks raw MessagePack before it is decoded and refuses lengths
that do not fit the input, blobs over a mebibyte, containers of more than 1024
entries and values nested too deeply. A cursor is the input that is left and
its offset. The source counts the depth up to its limit; here the levels that
are left are counted down, so that the scanner is a structural recursion.
-/

namespace RivetGo.Wire

open Check (require)
open MessagePack (readBigEndian)

def maxScanDepth : Nat := 64

def maxArrayEntries : Nat := 1024

def maxMapEntries : Nat := 1024

def maxBlobBytes : Nat := 2 ^ 20

/-- The input that is left to scan, and its offset. -/
structure Cursor where
  rest : Bytes
  pos : Nat

def Cursor.advance (c : Cursor) (n : Nat) : Cursor := ⟨c.rest.drop n, c.pos + n⟩

def checkLimit (kind : String) (got maximum : Nat) : Check :=
  require (got ≤ maximum) s!"{kind} length {got} exceeds limit {maximum}"

/-- Read a length of the given width and refuse one that exceeds the input. -/
def scanLen (c : Cursor) (width : Nat) : Except String (Nat × Cursor) :=
  match readBigEndian width 0 c.rest with
  | none => .error s!"truncated length at offset {c.pos}"
  | some (n, _) => do
      let c := c.advance width
      require (n ≤ c.rest.length)
        s!"declared length {n} exceeds {c.rest.length} remaining bytes"
      return (n, c)

def scanBlob (c : Cursor) (n : Nat) : Except String Cursor := do
  checkLimit "blob" n maxBlobBytes
  require (n ≤ c.rest.length) s!"truncated payload: need {n} bytes, have {c.rest.length}"
  return c.advance n

/-- The loop of `scanEntries`. -/
def scanLoop (scan : Cursor → Except String Cursor) : Nat → Cursor → Except String Cursor
  | 0, c => .ok c
  | count + 1, c => do scanLoop scan count (← scan c)

def scanEntries (scan : Cursor → Except String Cursor) (c : Cursor) (count : Nat) :
    Except String Cursor := do
  require (count ≤ c.rest.length)
    s!"container claims {count} entries with {c.rest.length} bytes remaining"
  scanLoop scan count c

/-- A blob behind a length of the given width; `extra` counts the type byte of
an extension. -/
def scanSizedBlob (c : Cursor) (width extra : Nat) : Except String Cursor := do
  let (n, c) ← scanLen c width
  scanBlob c (n + extra)

/-- A container behind a length of the given width; an entry of a map is two
values. -/
def scanSizedEntries (scan : Cursor → Except String Cursor) (c : Cursor) (width : Nat)
    (kind : String) (maximum values : Nat) : Except String Cursor := do
  let (n, c) ← scanLen c width
  checkLimit kind n maximum
  scanEntries scan c (values * n)

/-- `scanValue`, with the number of levels that may still be entered. -/
def scanValue : Nat → Cursor → Except String Cursor
  | 0, _ => .error s!"nesting depth exceeds {maxScanDepth}"
  | _ + 1, ⟨[], pos⟩ => .error s!"truncated value at offset {pos}"
  | levels + 1, ⟨b :: rest, pos⟩ =>
    let c : Cursor := ⟨rest, pos + 1⟩
    let t := b.toNat
    if t ≤ 0x7f ∨ 0xe0 ≤ t then .ok c
    else if t ≤ 0x8f then scanEntries (scanValue levels) c (2 * (t - 0x80))
    else if t ≤ 0x9f then scanEntries (scanValue levels) c (t - 0x90)
    else if t ≤ 0xbf then scanBlob c (t - 0xa0)
    else match t with
      | 0xc0 => .ok c
      | 0xc2 => .ok c
      | 0xc3 => .ok c
      | 0xc1 => .error s!"reserved byte 0xc1 at offset {pos}"
      | 0xca => scanBlob c 4
      | 0xcb => scanBlob c 8
      | 0xcc => scanBlob c 1
      | 0xd0 => scanBlob c 1
      | 0xcd => scanBlob c 2
      | 0xd1 => scanBlob c 2
      | 0xce => scanBlob c 4
      | 0xd2 => scanBlob c 4
      | 0xcf => scanBlob c 8
      | 0xd3 => scanBlob c 8
      | 0xd4 => scanBlob c (1 + 1)
      | 0xd5 => scanBlob c (1 + 2)
      | 0xd6 => scanBlob c (1 + 4)
      | 0xd7 => scanBlob c (1 + 8)
      | 0xd8 => scanBlob c (1 + 16)
      | 0xc4 => scanSizedBlob c 1 0
      | 0xd9 => scanSizedBlob c 1 0
      | 0xc5 => scanSizedBlob c 2 0
      | 0xda => scanSizedBlob c 2 0
      | 0xc6 => scanSizedBlob c 4 0
      | 0xdb => scanSizedBlob c 4 0
      | 0xc7 => scanSizedBlob c 1 1
      | 0xc8 => scanSizedBlob c 2 1
      | 0xc9 => scanSizedBlob c 4 1
      | 0xdc => scanSizedEntries (scanValue levels) c 2 "array" maxArrayEntries 1
      | 0xdd => scanSizedEntries (scanValue levels) c 4 "array" maxArrayEntries 1
      | 0xde => scanSizedEntries (scanValue levels) c 2 "map" maxMapEntries 2
      | 0xdf => scanSizedEntries (scanValue levels) c 4 "map" maxMapEntries 2
      | _ =>
        let hex := String.ofList (Nat.toDigits 16 t)
        .error s!"unrecognized type byte 0x{hex} at offset {pos}"

def validateShape (data : Bytes) : Check := do
  let c ← scanValue (maxScanDepth + 1) ⟨data, 0⟩
  require (c.rest = []) s!"trailing bytes after envelope: {c.rest.length} unread"

/-! ### What a step accepts -/

variable {c d : Cursor} {scan : Cursor → Except String Cursor} {n pos levels : Nat} {s : Bytes}

theorem scanBlob_eq_ok :
    scanBlob c n = .ok d ↔ n ≤ maxBlobBytes ∧ n ≤ c.rest.length ∧ c.advance n = d := by
  simp [scanBlob, checkLimit]

theorem scanEntries_eq_ok :
    scanEntries scan c n = .ok d ↔ n ≤ c.rest.length ∧ scanLoop scan n c = .ok d := by
  simp [scanEntries]

theorem scanLoop_succ :
    scanLoop scan (n + 1) c = .ok d ↔ ∃ c', scan c = .ok c' ∧ scanLoop scan n c' = .ok d := by
  rw [scanLoop, Check.bind_eq_ok]

theorem scanValue_small {b : UInt8} (h : b.toNat ≤ 0x7f ∨ 0xe0 ≤ b.toNat) :
    scanValue (levels + 1) ⟨b :: s, pos⟩ = .ok ⟨s, pos + 1⟩ := by
  rw [scanValue, if_pos h]

/-- The codes that have the length in them. -/
theorem scanValue_fixstr (hn : n < 0x20) :
    scanValue (levels + 1) ⟨UInt8.ofNat (0xa0 + n) :: s, pos⟩ = scanBlob ⟨s, pos + 1⟩ n := by
  have hb : (UInt8.ofNat (0xa0 + n)).toNat = 0xa0 + n := MessagePack.toNat_byte (by omega)
  rw [scanValue, hb, if_neg (by omega), if_neg (by omega), if_neg (by omega), if_pos (by omega),
    Nat.add_sub_cancel_left]

theorem scanValue_fixarray (hn : n < 0x10) :
    scanValue (levels + 1) ⟨UInt8.ofNat (0x90 + n) :: s, pos⟩ =
      scanEntries (scanValue levels) ⟨s, pos + 1⟩ n := by
  have hb : (UInt8.ofNat (0x90 + n)).toNat = 0x90 + n := MessagePack.toNat_byte (by omega)
  rw [scanValue, hb, if_neg (by omega), if_neg (by omega), if_pos (by omega),
    Nat.add_sub_cancel_left]

theorem scanValue_fixmap (hn : n < 0x10) :
    scanValue (levels + 1) ⟨UInt8.ofNat (0x80 + n) :: s, pos⟩ =
      scanEntries (scanValue levels) ⟨s, pos + 1⟩ (2 * n) := by
  have hb : (UInt8.ofNat (0x80 + n)).toNat = 0x80 + n := MessagePack.toNat_byte (by omega)
  rw [scanValue, hb, if_neg (by omega), if_pos (by omega), Nat.add_sub_cancel_left]

end RivetGo.Wire
