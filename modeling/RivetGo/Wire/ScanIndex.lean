import Mathlib.Tactic.IntervalCases
import RivetGo.Wire.ScanGrammar

/-!
# The scanner on its slice

The source scans one slice and keeps a position in it. A read outside the slice is a panic, which
is a result of its own here, apart from the refusals. The depth is counted up to its limit.

The positions are those of a cursor on the slice, so the scan is the one with a cursor, and none
of its reads is outside the slice.
-/

namespace RivetGo.Wire.Indexed

open MessagePack (Encodes readBigEndian)

/-- How a scan fails. -/
inductive Fault where
  | refused (message : String)
  /-- The panic of a read outside the slice. -/
  | outOfRange
  deriving DecidableEq

/-- `data[pos]`. -/
def readByte (data : Bytes) (pos : Nat) : Except Fault UInt8 :=
  match data[pos]? with
  | some b => .ok b
  | none => .error .outOfRange

/-- `data[pos:]`. -/
def sliceFrom (data : Bytes) (pos : Nat) : Except Fault Bytes :=
  if pos ≤ data.length then .ok (data.drop pos) else .error .outOfRange

/-- `binary.BigEndian.Uint16` and `Uint32`, which read the last byte of the number first. -/
def bigEndianUint (width : Nat) (s : Bytes) : Except Fault Nat :=
  match readBigEndian width 0 s with
  | some (n, _) => .ok n
  | none => .error .outOfRange

/-- `len(data)-pos`. -/
def remaining (data : Bytes) (pos : Nat) : Int := data.length - pos

def checkLimit (kind : String) (got maximum : Nat) : Except Fault Unit :=
  (Wire.checkLimit kind got maximum).mapError .refused

/-- The `switch` of `scanLen`. -/
def readLen (data : Bytes) (pos : Nat) : Nat → Except Fault Nat
  | 1 => (readByte data pos).map UInt8.toNat
  | 2 => do bigEndianUint 2 (← sliceFrom data pos)
  | 4 => do bigEndianUint 4 (← sliceFrom data pos)
  | _ => .ok 0

/-- The first check makes the remaining length of the second one nonnegative. -/
def scanLen (data : Bytes) (pos width : Nat) : Except Fault (Nat × Nat) :=
  if data.length < pos + width then .error (.refused s!"truncated length at offset {pos}")
  else do
    let n ← readLen data pos width
    if data.length - (pos + width) < n then
      .error (.refused
        s!"declared length {n} exceeds {data.length - (pos + width)} remaining bytes")
    else .ok (n, pos + width)

def scanBlob (data : Bytes) (pos n : Nat) : Except Fault Nat := do
  checkLimit "blob" n maxBlobBytes
  if remaining data pos < n then
    .error (.refused s!"truncated payload: need {n} bytes, have {remaining data pos}")
  else .ok (pos + n)

/-- The loop of `scanEntries`. -/
def scanLoop (scan : Nat → Except Fault Nat) : Nat → Nat → Except Fault Nat
  | 0, pos => .ok pos
  | count + 1, pos => do scanLoop scan count (← scan pos)

def scanEntries (scan : Nat → Except Fault Nat) (data : Bytes) (pos count : Nat) :
    Except Fault Nat :=
  if remaining data pos < count then
    .error (.refused
      s!"container claims {count} entries with {remaining data pos} bytes remaining")
  else scanLoop scan count pos

def scanSizedBlob (data : Bytes) (pos width extra : Nat) : Except Fault Nat := do
  let (n, pos) ← scanLen data pos width
  scanBlob data pos (n + extra)

def scanSizedEntries (scan : Nat → Except Fault Nat) (data : Bytes) (pos width : Nat)
    (kind : String) (maximum values : Nat) : Except Fault Nat := do
  let (n, pos) ← scanLen data pos width
  checkLimit kind n maximum
  scanEntries scan data pos (values * n)

/-- The two `switch`es of `scanValue`, on the byte `t` in front of `pos`. -/
def scanBody (scan : Nat → Except Fault Nat) (data : Bytes) (pos t : Nat) : Except Fault Nat :=
  if t ≤ 0x7f ∨ 0xe0 ≤ t then .ok pos
  else if t ≤ 0x8f then scanEntries scan data pos (2 * (t - 0x80))
  else if t ≤ 0x9f then scanEntries scan data pos (t - 0x90)
  else if t ≤ 0xbf then scanBlob data pos (t - 0xa0)
  else match t with
    | 0xc0 => .ok pos
    | 0xc2 => .ok pos
    | 0xc3 => .ok pos
    | 0xc1 => .error (.refused s!"reserved byte 0xc1 at offset {pos - 1}")
    | 0xca => scanBlob data pos 4
    | 0xcb => scanBlob data pos 8
    | 0xcc => scanBlob data pos 1
    | 0xd0 => scanBlob data pos 1
    | 0xcd => scanBlob data pos 2
    | 0xd1 => scanBlob data pos 2
    | 0xce => scanBlob data pos 4
    | 0xd2 => scanBlob data pos 4
    | 0xcf => scanBlob data pos 8
    | 0xd3 => scanBlob data pos 8
    | 0xd4 => scanBlob data pos (1 + 1)
    | 0xd5 => scanBlob data pos (1 + 2)
    | 0xd6 => scanBlob data pos (1 + 4)
    | 0xd7 => scanBlob data pos (1 + 8)
    | 0xd8 => scanBlob data pos (1 + 16)
    | 0xc4 => scanSizedBlob data pos 1 0
    | 0xd9 => scanSizedBlob data pos 1 0
    | 0xc5 => scanSizedBlob data pos 2 0
    | 0xda => scanSizedBlob data pos 2 0
    | 0xc6 => scanSizedBlob data pos 4 0
    | 0xdb => scanSizedBlob data pos 4 0
    | 0xc7 => scanSizedBlob data pos 1 1
    | 0xc8 => scanSizedBlob data pos 2 1
    | 0xc9 => scanSizedBlob data pos 4 1
    | 0xdc => scanSizedEntries scan data pos 2 "array" maxArrayEntries 1
    | 0xdd => scanSizedEntries scan data pos 4 "array" maxArrayEntries 1
    | 0xde => scanSizedEntries scan data pos 2 "map" maxMapEntries 2
    | 0xdf => scanSizedEntries scan data pos 4 "map" maxMapEntries 2
    | _ =>
      let hex := String.ofList (Nat.toDigits 16 t)
      .error (.refused s!"unrecognized type byte 0x{hex} at offset {pos - 1}")

def scanValue (data : Bytes) (pos depth : Nat) : Except Fault Nat :=
  if _ : maxScanDepth < depth then
    .error (.refused s!"nesting depth exceeds {maxScanDepth}")
  else if data.length ≤ pos then .error (.refused s!"truncated value at offset {pos}")
  else do
    let b ← readByte data pos
    scanBody (fun pos => scanValue data pos (depth + 1)) data (pos + 1) b.toNat
termination_by maxScanDepth + 1 - depth

def validateShape (data : Bytes) : Except Fault Unit := do
  let pos ← scanValue data 0 0
  if pos ≠ data.length then
    .error (.refused s!"trailing bytes after envelope: {remaining data pos} unread")
  else .ok ()

/-! ### Results with and without a panic -/

section
variable {α β γ δ : Type} {f : α → β} {g : γ → δ}

/-- A result that is no panic. -/
def report (f : α → β) : Except String α → Except Fault β
  | .ok a => .ok (f a)
  | .error message => .error (.refused message)

theorem mapError_eq_report (x : Check) : x.mapError Fault.refused = report id x := by
  cases x <;> rfl

theorem report_bind {x : Except String α} {k : α → Except String γ} {y : Except Fault β}
    {k' : β → Except Fault δ} (hx : y = report f x)
    (hk : ∀ a, x = .ok a → k' (f a) = report g (k a)) : (y >>= k') = report g (x >>= k) := by
  subst hx
  cases x with
  | error message => rfl
  | ok a => exact hk a rfl

/-- A check that the source makes the other way round. -/
theorem report_require {p q : Prop} [Decidable p] [Decidable q] {message message' : String}
    {y : Except Fault δ} {k : Except String γ} (hq : q ↔ ¬ p) (hmessage : message' = message)
    (hk : p → y = report g k) :
    (if q then .error (.refused message') else y) =
      report g (Check.require p message >>= fun _ => k) := by
  rw [Check.require]
  by_cases hp : p
  · rw [if_neg fun h => hq.mp h hp, if_pos hp]
    exact hk hp
  · rw [if_pos (hq.mpr hp), if_neg hp, hmessage]
    rfl

theorem report_ne_outOfRange (x : Except String α) : report f x ≠ .error .outOfRange := by
  cases x with
  | ok a => exact fun h => by cases h
  | error message => exact fun h => by cases h

end

/-! ### The cursor on the slice -/

variable {data b : Bytes} {pos n w extra depth levels : Nat} {c d : Cursor}

def cursor (data : Bytes) (pos : Nat) : Cursor := ⟨data.drop pos, pos⟩

theorem length_cursor : (cursor data pos).rest.length = data.length - pos := List.length_drop

theorem remaining_eq (hpos : pos ≤ data.length) :
    remaining data pos = ((cursor data pos).rest.length : Int) := by
  rw [length_cursor, remaining]
  omega

theorem remaining_lt_iff (hpos : pos ≤ data.length) :
    remaining data pos < n ↔ ¬ n ≤ (cursor data pos).rest.length := by
  rw [remaining_eq hpos]
  omega

/-- A cursor on the slice stays on it. -/
theorem cursor_of_passes (hpos : pos ≤ data.length) (hp : (cursor data pos).Passes b d) :
    d = cursor data d.pos ∧ d.pos ≤ data.length := by
  obtain ⟨hrest, hadvanced⟩ := hp
  have hadvanced : d.pos = pos + b.length := hadvanced
  have hrest : data.drop pos = b ++ d.rest := hrest
  have hlength := congrArg List.length hrest
  rw [List.length_drop, List.length_append] at hlength
  refine ⟨?_, by omega⟩
  obtain ⟨rest, p⟩ := d
  obtain rfl : p = pos + b.length := hadvanced
  refine congrArg (Cursor.mk · _) ?_
  rw [← List.drop_drop, hrest, List.drop_left]

/-! ### The scans agree -/

theorem scanBlob_eq (hpos : pos ≤ data.length) :
    scanBlob data pos n = report Cursor.pos (Wire.scanBlob (cursor data pos) n) := by
  refine report_bind (mapError_eq_report _) fun _ _ => ?_
  refine report_require (remaining_lt_iff hpos) ?_ fun _ => rfl
  rw [remaining_eq hpos]
  rfl

/-- The widths of a length. -/
theorem readLen_eq {rest : Bytes} (hw : w ∈ [1, 2, 4]) (hpos : pos ≤ data.length)
    (hread : readBigEndian w 0 (data.drop pos) = some (n, rest)) : readLen data pos w = .ok n := by
  have hslice : sliceFrom data pos = .ok (data.drop pos) := if_pos hpos
  simp only [List.mem_cons, List.not_mem_nil, or_false] at hw
  obtain rfl | rfl | rfl := hw
  · obtain ⟨b, hlength, rfl, hdrop⟩ := MessagePack.readBigEndian_iff.mp hread
    obtain ⟨x, rfl⟩ := List.length_eq_one_iff.mp hlength
    have hx : data[pos]? = some x := by
      rw [← Nat.add_zero pos, ← List.getElem?_drop, hdrop]
      rfl
    simp [readLen, readByte, hx, MessagePack.ofBigEndian, Except.map]
  · simp only [readLen, hslice, bigEndianUint, bind, Except.bind, hread]
  · simp only [readLen, hslice, bigEndianUint, bind, Except.bind, hread]

theorem scanLen_eq (hw : w ∈ [1, 2, 4]) (hpos : pos ≤ data.length) :
    scanLen data pos w =
      report (fun r => (r.1, r.2.pos)) (Wire.scanLen (cursor data pos) w) := by
  rw [scanLen, Wire.scanLen]
  cases hread : readBigEndian w 0 (cursor data pos).rest with
  | none =>
    have hshort : data.length < pos + w := by
      by_contra hlong
      have hlength : w ≤ (data.drop pos).length := by
        rw [List.length_drop]
        omega
      have hsome := MessagePack.readBigEndian_iff.mpr
        ⟨_, List.length_take_of_le hlength, rfl, (List.take_append_drop w _).symm⟩
      exact absurd (hsome.symm.trans hread) (Option.some_ne_none _)
    exact if_pos hshort
  | some r =>
    obtain ⟨n, rest⟩ := r
    obtain ⟨b, rfl, rfl, hdrop⟩ := MessagePack.readBigEndian_iff.mp hread
    have hlength := congrArg List.length hdrop
    rw [length_cursor, List.length_append] at hlength
    have hrest : ((cursor data pos).advance b.length).rest.length =
        data.length - (pos + b.length) := by
      rw [Cursor.advance, List.length_drop, length_cursor]
      omega
    rw [if_neg (by omega), readLen_eq hw hpos hread]
    refine report_require ?_ ?_ fun _ => rfl
    · rw [hrest]
      exact not_le.symm
    · rw [hrest]

theorem cursor_of_scanLen (hpos : pos ≤ data.length) {r : Nat × Cursor}
    (h : Wire.scanLen (cursor data pos) w = .ok r) :
    r.2 = cursor data r.2.pos ∧ r.2.pos ≤ data.length := by
  obtain ⟨_, -, -, hp, -⟩ := scanLen_iff.mp h
  exact cursor_of_passes hpos hp

theorem scanSizedBlob_eq (hw : w ∈ [1, 2, 4]) (hpos : pos ≤ data.length) :
    scanSizedBlob data pos w extra =
      report Cursor.pos (Wire.scanSizedBlob (cursor data pos) w extra) := by
  refine report_bind (scanLen_eq hw hpos) fun r hr => ?_
  obtain ⟨hcursor, hle⟩ := cursor_of_scanLen hpos hr
  refine (scanBlob_eq hle).trans ?_
  rw [← hcursor]

section
variable {scan : Nat → Except Fault Nat}
  (hscan : ∀ pos ≤ data.length,
    scan pos = report Cursor.pos (Wire.scanValue levels (cursor data pos)))
include hscan

theorem scanLoop_eq (hpos : pos ≤ data.length) : scanLoop scan n pos =
    report Cursor.pos (Wire.scanLoop (Wire.scanValue levels) n (cursor data pos)) := by
  induction n generalizing pos with
  | zero => rfl
  | succ n ih =>
    refine report_bind (hscan pos hpos) fun d hd => ?_
    obtain ⟨_, _, -, -, hp⟩ := scanValue_iff.mp hd
    obtain ⟨hcursor, hle⟩ := cursor_of_passes hpos hp
    refine (ih hle).trans ?_
    rw [← hcursor]

theorem scanEntries_eq (hpos : pos ≤ data.length) : scanEntries scan data pos n =
    report Cursor.pos (Wire.scanEntries (Wire.scanValue levels) (cursor data pos) n) := by
  refine report_require (remaining_lt_iff hpos) ?_ fun _ => scanLoop_eq hscan hpos
  rw [remaining_eq hpos]
  rfl

theorem scanSizedEntries_eq {kind : String} {maximum values : Nat} (hw : w ∈ [1, 2, 4])
    (hpos : pos ≤ data.length) : scanSizedEntries scan data pos w kind maximum values =
      report Cursor.pos (Wire.scanSizedEntries (Wire.scanValue levels) (cursor data pos) w kind
        maximum values) := by
  refine report_bind (scanLen_eq hw hpos) fun r hr => ?_
  obtain ⟨hcursor, hle⟩ := cursor_of_scanLen hpos hr
  refine report_bind (mapError_eq_report _) fun _ _ => ?_
  refine (scanEntries_eq hscan hle).trans ?_
  rw [← hcursor]

/-- Both `switch`es have the same cases. -/
theorem scanBody_eq {x : UInt8} (hpos : pos + 1 ≤ data.length) :
    scanBody scan data (pos + 1) x.toNat =
      report Cursor.pos (Wire.scanValue (levels + 1) ⟨x :: data.drop (pos + 1), pos⟩) := by
  rw [Wire.scanValue]
  generalize x.toNat = t
  simp only [scanBody]
  split_ifs with hfix hmap harray hstr
  · rfl
  · exact scanEntries_eq hscan hpos
  · exact scanEntries_eq hscan hpos
  · exact scanBlob_eq hpos
  · have hlow : 192 ≤ t := by omega
    have hhigh : t < 224 := by omega
    clear hfix hmap harray hstr
    interval_cases t <;> first
      | rfl
      | exact scanBlob_eq hpos
      | exact scanSizedBlob_eq (by decide) hpos
      | exact scanSizedEntries_eq hscan (by decide) hpos

end

theorem scanValue_eq (hlevels : levels + depth = maxScanDepth + 1) (hpos : pos ≤ data.length) :
    scanValue data pos depth = report Cursor.pos (Wire.scanValue levels (cursor data pos)) := by
  induction levels generalizing depth pos with
  | zero =>
    rw [scanValue, dif_pos (by omega)]
    rfl
  | succ levels ih =>
    rw [scanValue, dif_neg (by omega)]
    by_cases hend : data.length ≤ pos
    · rw [if_pos hend, cursor, List.drop_eq_nil_of_le hend]
      rfl
    · have hlt : pos < data.length := Nat.lt_of_not_le hend
      rw [if_neg hend, cursor, List.drop_eq_getElem_cons hlt, readByte,
        List.getElem?_eq_getElem hlt]
      exact scanBody_eq (fun pos hpos => ih (by omega) hpos) hlt

theorem validateShape_eq (data : Bytes) :
    validateShape data = report id (Wire.validateShape data) := by
  have hstart : 0 ≤ data.length := Nat.zero_le _
  refine report_bind (scanValue_eq (Nat.add_zero (maxScanDepth + 1)) hstart) fun c hc => ?_
  obtain ⟨_, b, -, -, hp⟩ := scanValue_iff.mp hc
  have hp : (cursor data 0).Passes b c := hp
  obtain ⟨hcursor, hle⟩ := cursor_of_passes hstart hp
  have hend : c.pos ≠ data.length ↔ ¬ c.rest = [] := by
    rw [show c.rest = data.drop c.pos from congrArg Cursor.rest hcursor, List.drop_eq_nil_iff]
    omega
  rw [Check.require]
  by_cases hrest : c.rest = []
  · rw [if_neg fun h => hend.mp h hrest, if_pos hrest]
    rfl
  · rw [if_pos (hend.mpr hrest), if_neg hrest, remaining_eq hle, ← hcursor]
    rfl

/-- `validateShape` accepts exactly the encodings of one value in which no value is inside more
than 64 containers and every blob and container is within its limit, and it never reads outside
its input. -/
theorem validateShape_exact (data : Bytes) :
    (validateShape data = .ok () ↔ ∃ v, Encodes v data ∧ ∀ n x, v.Contains n x →
      n ≤ 64 ∧ x.Sized { blob := 2 ^ 20, array := 1024, map := 1024 }) ∧
    validateShape data ≠ .error .outOfRange := by
  rw [validateShape_eq]
  refine ⟨?_, report_ne_outOfRange _⟩
  have hok : report id (Wire.validateShape data) = .ok () ↔ Wire.validateShape data = .ok () := by
    cases Wire.validateShape data <;> simp [report]
  rw [hok, validateShape_iff]
  simp only [Nat.lt_succ_iff, MessagePack.Item.Within]
  rfl

end RivetGo.Wire.Indexed
