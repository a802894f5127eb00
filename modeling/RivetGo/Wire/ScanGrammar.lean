import RivetGo.Wire.Scan
import RivetGo.Data.MessagePack.Grammar
import RivetGo.Data.MessagePack.Size

/-!
# What the scanner accepts

The scanner goes past the encoding of a value that is within its limits, whatever form the
encoding has, and past nothing else. The codes of MessagePack come in families that the scanner
treats alike: numbers, blobs behind a length, containers behind a length. That it goes past the
head of a value and on to its body is proved once for a family, and the equivalence is by
induction on the levels that are left.

Native writes the shortest form of a value. Of these encodings the scanner accepts exactly those
of values within its limits.
-/

namespace RivetGo.Wire

open MessagePack (Item Encodes EncodesAll LengthCodes Value ofBigEndian)

def limits : Item.Limits where
  blob := maxBlobBytes
  array := maxArrayEntries
  map := maxMapEntries

variable {c d e : Cursor} {scan : Cursor → Except String Cursor} {n w pos levels extra : Nat}
  {b b' s : Bytes} {code : UInt8} {codes : LengthCodes}

/-! ### Cursors -/

/-- The bytes between two cursors. -/
def Cursor.Passes (c : Cursor) (b : Bytes) (d : Cursor) : Prop :=
  c.rest = b ++ d.rest ∧ d.pos = c.pos + b.length

namespace Cursor

theorem passes_nil : c.Passes [] d ↔ c = d := by
  constructor
  · rintro ⟨hrest, hpos⟩
    cases c
    cases d
    exact congr (congrArg Cursor.mk hrest) hpos.symm
  · rintro rfl
    exact ⟨rfl, rfl⟩

theorem passes_append : c.Passes (b ++ b') e ↔ ∃ d, c.Passes b d ∧ d.Passes b' e := by
  constructor
  · rintro ⟨hrest, hpos⟩
    refine ⟨⟨b' ++ e.rest, c.pos + b.length⟩, ⟨?_, rfl⟩, rfl, ?_⟩
    · rw [hrest, List.append_assoc]
    · rw [hpos, List.length_append, Nat.add_assoc]
  · rintro ⟨d, ⟨hrest, hpos⟩, hrest', hpos'⟩
    refine ⟨?_, ?_⟩
    · rw [hrest, hrest', List.append_assoc]
    · rw [hpos', hpos, List.length_append, Nat.add_assoc]

theorem passes_cons : c.Passes (code :: b) e ↔
    ∃ s, c.rest = code :: s ∧ (Cursor.mk s (c.pos + 1)).Passes b e := by
  constructor
  · rintro ⟨hrest, hpos⟩
    refine ⟨b ++ e.rest, hrest, rfl, ?_⟩
    exact hpos.trans (by rw [List.length_cons, Nat.add_assoc, Nat.add_comm 1])
  · rintro ⟨s, hrest, hs, hpos⟩
    refine ⟨hrest.trans (congrArg (code :: ·) hs), ?_⟩
    exact hpos.trans (by rw [List.length_cons, Nat.add_assoc, Nat.add_comm 1])

theorem Passes.exists_cons (h : c.Passes (code :: b) e) :
    ∃ s pos, c = ⟨code :: s, pos⟩ ∧ (Cursor.mk s (pos + 1)).Passes b e := by
  obtain ⟨s, hs, hp⟩ := passes_cons.mp h
  obtain ⟨rest, pos⟩ := c
  exact ⟨s, pos, congrArg (Cursor.mk · pos) hs, hp⟩

theorem advance_iff : n ≤ c.rest.length ∧ c.advance n = d ↔ ∃ b, b.length = n ∧ c.Passes b d := by
  constructor
  · rintro ⟨hn, rfl⟩
    have hlength : (c.rest.take n).length = n := List.length_take_of_le hn
    refine ⟨c.rest.take n, hlength, (List.take_append_drop n c.rest).symm, ?_⟩
    rw [hlength]
    rfl
  · rintro ⟨b, rfl, hrest, hpos⟩
    refine ⟨?_, ?_⟩
    · rw [hrest, List.length_append]
      exact Nat.le_add_right _ _
    · cases d
      rw [advance, hrest, List.drop_left, ← hpos]

theorem Passes.unique (h : c.Passes b d) (h' : c.Passes b' e) (hlength : b.length = b'.length) :
    b = b' ∧ d = e := by
  obtain ⟨hb, hrest⟩ := List.append_inj (h.1.symm.trans h'.1) hlength
  have hpos : d.pos = e.pos := by rw [h.2, h'.2, hlength]
  cases d
  cases e
  exact ⟨hb, congr (congrArg Cursor.mk hrest) hpos⟩

end Cursor

/-! ### Lengths and blobs -/

theorem scanBlob_iff :
    scanBlob c n = .ok d ↔ n ≤ maxBlobBytes ∧ ∃ b, b.length = n ∧ c.Passes b d := by
  rw [scanBlob_eq_ok, Cursor.advance_iff]

/-- The length that is read is not larger than the input that is left. -/
theorem scanLen_iff : scanLen c w = .ok (n, d) ↔
    ∃ b, b.length = w ∧ ofBigEndian b = n ∧ c.Passes b d ∧ n ≤ d.rest.length := by
  constructor
  · intro h
    rw [scanLen] at h
    cases hread : MessagePack.readBigEndian w 0 c.rest with
    | none =>
      rw [hread] at h
      cases h
    | some r =>
      obtain ⟨m, rest⟩ := r
      rw [hread] at h
      obtain ⟨hle, hr⟩ := Check.seq_eq_ok.mp h
      obtain ⟨rfl, rfl⟩ := Prod.mk.inj (Except.ok.inj hr)
      obtain ⟨b, hlength, hn, hrest⟩ := MessagePack.readBigEndian_iff.mp hread
      have hw : w ≤ c.rest.length := by
        rw [hrest, List.length_append, hlength]
        exact Nat.le_add_right _ _
      obtain ⟨b', hlength', hp⟩ := Cursor.advance_iff.mp ⟨hw, rfl⟩
      have hb : b' = b :=
        List.append_inj_left (hp.1.symm.trans hrest) (hlength'.trans hlength.symm)
      exact ⟨b', hlength', hb ▸ hn, hp, Check.require_eq_ok.mp hle⟩
  · rintro ⟨b, rfl, rfl, hp, hle⟩
    have hread : MessagePack.readBigEndian b.length 0 c.rest = some (ofBigEndian b, d.rest) :=
      MessagePack.readBigEndian_iff.mpr ⟨b, rfl, rfl, hp.1⟩
    have hadvance : c.advance b.length = d := (Cursor.advance_iff.mpr ⟨b, rfl, hp⟩).2
    rw [scanLen, hread]
    simp only [hadvance, Check.seq_eq_ok, Check.require_eq_ok, Check.pure_eq_ok, and_true]
    exact hle

/-! ### Families of codes -/

/-- The scanner reads the head of a value and goes on to its body with the length it has read. -/
structure Family (codes : LengthCodes) (body : Nat → Cursor → Nat → Except String Cursor) :
    Prop where
  fixed : ∀ {code : UInt8} {n : Nat}, (code, n) ∈ codes.fixed → ∀ levels s pos,
    scanValue (levels + 1) ⟨code :: s, pos⟩ = body levels ⟨s, pos + 1⟩ n
  sized : ∀ {code : UInt8} {w : Nat}, (code, w) ∈ codes.sized → ∀ levels s pos,
    scanValue (levels + 1) ⟨code :: s, pos⟩ =
      scanLen ⟨s, pos + 1⟩ w >>= fun r => body levels r.2 r.1
  /-- A length beyond the input is refused with or without the check of `scanLen`. -/
  room : ∀ {levels n : Nat} {c d : Cursor}, body levels c n = .ok d → n ≤ c.rest.length

section
variable {body : Nat → Cursor → Nat → Except String Cursor} {head : Bytes}

theorem Family.scanValue_head (h : Family codes body) (hhead : codes.Head n head)
    (hp : c.Passes head e) : scanValue (levels + 1) c = .ok d ↔ body levels e n = .ok d := by
  cases hhead with
  | fixed hmem =>
    obtain ⟨s, pos, rfl, hs⟩ := hp.exists_cons
    rw [h.fixed hmem, ← Cursor.passes_nil.mp hs]
  | sized hmem =>
    obtain ⟨s, pos, rfl, hs⟩ := hp.exists_cons
    rw [h.sized hmem, Check.bind_eq_ok]
    constructor
    · rintro ⟨⟨n, e'⟩, hlen, hbody⟩
      obtain ⟨len, hw, rfl, hp', -⟩ := scanLen_iff.mp hlen
      obtain ⟨rfl, rfl⟩ := hp'.unique hs hw
      exact hbody
    · intro hbody
      exact ⟨(_, e), scanLen_iff.mpr ⟨_, rfl, rfl, hs, h.room hbody⟩, hbody⟩

theorem Family.exists_head (h : Family codes body) (hstart : codes.Starts code)
    (hok : scanValue (levels + 1) ⟨code :: s, pos⟩ = .ok d) :
    ∃ head n e, codes.Head n head ∧ (Cursor.mk (code :: s) pos).Passes head e ∧
      body levels e n = .ok d := by
  obtain hstart | hstart := hstart
  · obtain ⟨⟨code, n⟩, hmem, rfl⟩ := List.mem_map.mp hstart
    rw [h.fixed hmem] at hok
    exact ⟨[code], n, _, .fixed hmem,
      Cursor.passes_cons.mpr ⟨s, rfl, Cursor.passes_nil.mpr rfl⟩, hok⟩
  · obtain ⟨⟨code, w⟩, hmem, rfl⟩ := List.mem_map.mp hstart
    rw [h.sized hmem, Check.bind_eq_ok] at hok
    obtain ⟨⟨n, e⟩, hlen, hbody⟩ := hok
    obtain ⟨len, rfl, rfl, hp, -⟩ := scanLen_iff.mp hlen
    exact ⟨code :: len, _, e, .sized hmem, Cursor.passes_cons.mpr ⟨s, rfl, hp⟩, hbody⟩

end

/-- A blob is `extra` bytes longer than its length says. -/
def blobBody (extra _levels : Nat) (c : Cursor) (n : Nat) : Except String Cursor :=
  scanBlob c (n + extra)

theorem blobBody_room (h : blobBody extra levels c n = .ok d) : n ≤ c.rest.length :=
  (Nat.le_add_right n extra).trans (scanBlob_eq_ok.mp h).2.1

theorem strFamily : Family MessagePack.strCodes (blobBody 0) where
  fixed := by
    intro code n hmem levels s pos
    obtain ⟨hn, rfl⟩ := MessagePack.mem_shortCodes.mp hmem
    exact scanValue_fixstr hn
  sized := by
    intro code w hmem levels s pos
    simp only [MessagePack.strCodes, List.mem_cons, Prod.mk.injEq, List.not_mem_nil, or_false]
      at hmem
    obtain ⟨rfl, rfl⟩ | ⟨rfl, rfl⟩ | ⟨rfl, rfl⟩ := hmem <;> rfl
  room := blobBody_room

theorem binFamily : Family MessagePack.binCodes (blobBody 0) where
  fixed hmem := absurd hmem List.not_mem_nil
  sized := by
    intro code w hmem levels s pos
    simp only [MessagePack.binCodes, List.mem_cons, Prod.mk.injEq, List.not_mem_nil, or_false]
      at hmem
    obtain ⟨rfl, rfl⟩ | ⟨rfl, rfl⟩ | ⟨rfl, rfl⟩ := hmem <;> rfl
  room := blobBody_room

/-- The type byte of an extension is a part of its blob. -/
theorem extFamily : Family MessagePack.extCodes (blobBody 1) where
  fixed := by
    intro code n hmem levels s pos
    simp only [MessagePack.extCodes, List.mem_cons, Prod.mk.injEq, List.not_mem_nil, or_false]
      at hmem
    obtain ⟨rfl, rfl⟩ | ⟨rfl, rfl⟩ | ⟨rfl, rfl⟩ | ⟨rfl, rfl⟩ | ⟨rfl, rfl⟩ := hmem <;> rfl
  sized := by
    intro code w hmem levels s pos
    simp only [MessagePack.extCodes, List.mem_cons, Prod.mk.injEq, List.not_mem_nil, or_false]
      at hmem
    obtain ⟨rfl, rfl⟩ | ⟨rfl, rfl⟩ | ⟨rfl, rfl⟩ := hmem <;> rfl
  room := blobBody_room

/-- A container has `values` values for each entry. -/
def containerBody (kind : String) (maximum values levels : Nat) (c : Cursor) (n : Nat) :
    Except String Cursor := do
  checkLimit kind n maximum
  scanEntries (scanValue levels) c (values * n)

section
variable {kind : String} {maximum values : Nat}

theorem containerBody_eq_ok : containerBody kind maximum values levels c n = .ok d ↔
    n ≤ maximum ∧ scanEntries (scanValue levels) c (values * n) = .ok d := by
  rw [containerBody, Check.seq_eq_ok, checkLimit, Check.require_eq_ok]

theorem containerBody_of_le (h : n ≤ maximum) : containerBody kind maximum values levels c n =
    scanEntries (scanValue levels) c (values * n) := by
  rw [containerBody, checkLimit, Check.require, if_pos h]
  rfl

theorem containerBody_room (hvalues : 0 < values)
    (h : containerBody kind maximum values levels c n = .ok d) : n ≤ c.rest.length :=
  (Nat.le_mul_of_pos_left n hvalues).trans (scanEntries_eq_ok.mp (containerBody_eq_ok.mp h).2).1

end

theorem arrayFamily : Family MessagePack.arrayCodes (containerBody "array" maxArrayEntries 1) where
  fixed := by
    intro code n hmem levels s pos
    obtain ⟨hn, rfl⟩ := MessagePack.mem_shortCodes.mp hmem
    have hle : n ≤ maxArrayEntries := show n ≤ 1024 by omega
    rw [scanValue_fixarray hn, containerBody_of_le hle, Nat.one_mul]
  sized := by
    intro code w hmem levels s pos
    simp only [MessagePack.arrayCodes, List.mem_cons, Prod.mk.injEq, List.not_mem_nil, or_false]
      at hmem
    obtain ⟨rfl, rfl⟩ | ⟨rfl, rfl⟩ := hmem <;> rfl
  room := containerBody_room Nat.one_pos

theorem mapFamily : Family MessagePack.mapCodes (containerBody "map" maxMapEntries 2) where
  fixed := by
    intro code n hmem levels s pos
    obtain ⟨hn, rfl⟩ := MessagePack.mem_shortCodes.mp hmem
    have hle : n ≤ maxMapEntries := show n ≤ 1024 by omega
    rw [scanValue_fixmap hn, containerBody_of_le hle]
  sized := by
    intro code w hmem levels s pos
    simp only [MessagePack.mapCodes, List.mem_cons, Prod.mk.injEq, List.not_mem_nil, or_false]
      at hmem
    obtain ⟨rfl, rfl⟩ | ⟨rfl, rfl⟩ := hmem <;> rfl
  room := containerBody_room Nat.two_pos

/-! ### Entries -/

/-- A value within the limits stands between two cursors. -/
def Reads (levels : Nat) (c d : Cursor) : Prop :=
  ∃ v b, Encodes v b ∧ v.Within limits levels ∧ c.Passes b d

def ReadsAll (levels n : Nat) (c d : Cursor) : Prop :=
  ∃ vs bs, vs.length = n ∧ EncodesAll vs bs ∧ (∀ v ∈ vs, v.Within limits levels) ∧ c.Passes bs d

theorem ReadsAll.le_length (h : ReadsAll levels n c d) : n ≤ c.rest.length := by
  obtain ⟨vs, bs, rfl, hall, -, hrest, -⟩ := h
  have hle := hall.length_le
  rw [hrest, List.length_append]
  omega

section
variable (hscan : ∀ c d, scan c = .ok d ↔ Reads levels c d)
include hscan

theorem scanLoop_iff : scanLoop scan n c = .ok d ↔ ReadsAll levels n c d := by
  induction n generalizing c with
  | zero =>
    constructor
    · intro h
      exact ⟨[], [], rfl, .nil, List.forall_mem_nil _, Cursor.passes_nil.mpr (Except.ok.inj h)⟩
    · rintro ⟨vs, bs, hlength, hall, -, hp⟩
      obtain rfl := List.length_eq_zero_iff.mp hlength
      cases hall
      exact congrArg Except.ok (Cursor.passes_nil.mp hp)
  | succ n ih =>
    rw [scanLoop_succ]
    constructor
    · rintro ⟨c', hc', hloop⟩
      obtain ⟨v, b, hv, hwithin, hp⟩ := (hscan c c').mp hc'
      obtain ⟨vs, bs, rfl, hvs, hall, hps⟩ := ih.mp hloop
      exact ⟨v :: vs, b ++ bs, rfl, .cons hv hvs, List.forall_mem_cons.mpr ⟨hwithin, hall⟩,
        Cursor.passes_append.mpr ⟨c', hp, hps⟩⟩
    · rintro ⟨vs, bs, hlength, hall, hwithin, hp⟩
      cases hall with
      | nil => cases hlength
      | cons hv hvs =>
        obtain ⟨c', hp, hps⟩ := Cursor.passes_append.mp hp
        obtain ⟨hfirst, hothers⟩ := List.forall_mem_cons.mp hwithin
        exact ⟨c', (hscan c c').mpr ⟨_, _, hv, hfirst, hp⟩,
          ih.mpr ⟨_, _, Nat.succ.inj hlength, hvs, hothers, hps⟩⟩

/-- The check of the number of entries refuses nothing that could be read. -/
theorem scanEntries_iff : scanEntries scan c n = .ok d ↔ ReadsAll levels n c d := by
  rw [scanEntries_eq_ok, scanLoop_iff hscan]
  exact and_iff_right_of_imp ReadsAll.le_length

end

/-! ### Scalars -/

/-- A value of one byte. -/
theorem scanValue_single
    (h : code.toNat < 0x80 ∨ 0xe0 ≤ code.toNat ∨ code = 0xc0 ∨ code = 0xc2 ∨ code = 0xc3) :
    scanValue (levels + 1) ⟨code :: s, pos⟩ = .ok ⟨s, pos + 1⟩ := by
  obtain h | h | rfl | rfl | rfl := h
  · exact scanValue_small (.inl (Nat.le_of_lt_succ h))
  · exact scanValue_small (.inr h)
  · rfl
  · rfl
  · rfl

def numberCodes : List (UInt8 × Nat) :=
  [(0xca, 4), (0xcb, 8)] ++ MessagePack.uintCodes ++ MessagePack.intCodes

theorem scanValue_number (h : (code, w) ∈ numberCodes) :
    scanValue (levels + 1) ⟨code :: s, pos⟩ = scanBlob ⟨s, pos + 1⟩ w := by
  simp only [numberCodes, MessagePack.uintCodes, MessagePack.intCodes, List.cons_append,
    List.nil_append, List.mem_cons, Prod.mk.injEq, List.not_mem_nil, or_false] at h
  rcases h with ⟨rfl, rfl⟩ | ⟨rfl, rfl⟩ | ⟨rfl, rfl⟩ | ⟨rfl, rfl⟩ | ⟨rfl, rfl⟩ | ⟨rfl, rfl⟩ |
    ⟨rfl, rfl⟩ | ⟨rfl, rfl⟩ | ⟨rfl, rfl⟩ | ⟨rfl, rfl⟩ <;> rfl

theorem number_le (h : (code, w) ∈ numberCodes) : w ≤ maxBlobBytes := by
  have hall : ∀ number ∈ numberCodes, number.2 ≤ maxBlobBytes := by decide
  exact hall _ h

theorem number_sound (h : (code, w) ∈ numberCodes)
    (hok : scanValue (levels + 1) ⟨code :: s, pos⟩ = .ok d) :
    ∃ b, b.length = w ∧ (Cursor.mk (code :: s) pos).Passes (code :: b) d := by
  rw [scanValue_number h] at hok
  obtain ⟨-, b, hb, hp⟩ := scanBlob_iff.mp hok
  exact ⟨b, hb, Cursor.passes_cons.mpr ⟨s, rfl, hp⟩⟩

theorem number_complete (h : (code, b.length) ∈ numberCodes) (hp : c.Passes (code :: b) d) :
    scanValue (levels + 1) c = .ok d := by
  obtain ⟨s, pos, rfl, hs⟩ := hp.exists_cons
  rw [scanValue_number h]
  exact scanBlob_iff.mpr ⟨number_le h, b, rfl, hs⟩

/-! ### Values -/

section
variable (hscan : ∀ c d, scanValue levels c = .ok d ↔ Reads levels c d)
include hscan

/-- What the scanner goes past is an encoding. -/
theorem scanValue_sound (hok : scanValue (levels + 1) c = .ok d) : Reads (levels + 1) c d := by
  obtain ⟨_ | ⟨code, s⟩, pos⟩ := c
  · cases hok
  by_cases hreserved : code = 0xc1
  · subst hreserved
    cases hok
  have hsingle (v : Item) (hv : Encodes v [code]) (hleaf : v.isContainer = false)
      (hsized : v.Sized limits)
      (hcode : code.toNat < 0x80 ∨ 0xe0 ≤ code.toNat ∨ code = 0xc0 ∨ code = 0xc2 ∨ code = 0xc3) :
      Reads (levels + 1) ⟨code :: s, pos⟩ d := by
    rw [scanValue_single hcode] at hok
    obtain rfl := Except.ok.inj hok
    exact ⟨v, [code], hv, Item.within_of_leaf hleaf hsized, rfl, rfl⟩
  rcases MessagePack.starts_of_ne hreserved with h | h | h | h | h | h | h | h | h | h
  · exact hsingle _ (.positiveFixint h) rfl trivial (.inl h)
  · exact hsingle _ (.negativeFixint h) rfl trivial (.inr (.inl h))
  · simp only [List.mem_cons, List.not_mem_nil, or_false] at h
    rcases h with rfl | rfl | rfl | rfl | rfl
    · exact hsingle _ .nil rfl trivial (.inr (.inr (.inl rfl)))
    · exact hsingle _ .false rfl trivial (.inr (.inr (.inr (.inl rfl))))
    · exact hsingle _ .true rfl trivial (.inr (.inr (.inr (.inr rfl))))
    · obtain ⟨b, hb, hp⟩ := number_sound (w := 4) (by decide) hok
      exact ⟨_, _, .float32 hb, Item.within_of_leaf rfl trivial, hp⟩
    · obtain ⟨b, hb, hp⟩ := number_sound (w := 8) (by decide) hok
      exact ⟨_, _, .float64 hb, Item.within_of_leaf rfl trivial, hp⟩
  · obtain ⟨⟨code, w⟩, hmem, rfl⟩ := List.mem_map.mp h
    obtain ⟨b, rfl, hp⟩ :=
      number_sound (List.mem_append_left _ (List.mem_append_right _ hmem)) hok
    exact ⟨_, _, .uint hmem, Item.within_of_leaf rfl trivial, hp⟩
  · obtain ⟨⟨code, w⟩, hmem, rfl⟩ := List.mem_map.mp h
    obtain ⟨b, rfl, hp⟩ := number_sound (List.mem_append_right _ hmem) hok
    exact ⟨_, _, .int hmem, Item.within_of_leaf rfl trivial, hp⟩
  · obtain ⟨head, n, c', hhead, hp, hbody⟩ := strFamily.exists_head h hok
    obtain ⟨hle, b, rfl, hp'⟩ := scanBlob_iff.mp hbody
    exact ⟨.str b, _, .str hhead, Item.within_of_leaf rfl hle,
      Cursor.passes_append.mpr ⟨c', hp, hp'⟩⟩
  · obtain ⟨head, n, c', hhead, hp, hbody⟩ := binFamily.exists_head h hok
    obtain ⟨hle, b, rfl, hp'⟩ := scanBlob_iff.mp hbody
    exact ⟨.bin b, _, .bin hhead, Item.within_of_leaf rfl hle,
      Cursor.passes_append.mpr ⟨c', hp, hp'⟩⟩
  · obtain ⟨head, n, c', hhead, hp, hbody⟩ := extFamily.exists_head h hok
    obtain ⟨hle, _ | ⟨type, b⟩, hb, hp'⟩ := scanBlob_iff.mp hbody
    · cases hb
    · obtain rfl := Nat.succ.inj hb
      exact ⟨.ext type b, _, .ext hhead, Item.within_of_leaf rfl hle,
        Cursor.passes_append.mpr ⟨c', hp, hp'⟩⟩
  · obtain ⟨head, n, c', hhead, hp, hbody⟩ := arrayFamily.exists_head h hok
    rw [containerBody_eq_ok, scanEntries_iff hscan] at hbody
    obtain ⟨hmaximum, vs, bs, hlength, hall, hwithin, hps⟩ := hbody
    obtain rfl : vs.length = n := hlength.trans (Nat.one_mul n)
    exact ⟨.array vs, head ++ bs, .array hhead hall, Item.within_array.mpr ⟨hmaximum, hwithin⟩,
      Cursor.passes_append.mpr ⟨c', hp, hps⟩⟩
  · obtain ⟨head, n, c', hhead, hp, hbody⟩ := mapFamily.exists_head h hok
    rw [containerBody_eq_ok, scanEntries_iff hscan] at hbody
    obtain ⟨hmaximum, vs, bs, hlength, hall, hwithin, hps⟩ := hbody
    obtain ⟨entries, rfl, rfl⟩ := Item.exists_flat hlength
    exact ⟨.map entries, head ++ bs, .map hhead hall, Item.within_map.mpr ⟨hmaximum, hwithin⟩,
      Cursor.passes_append.mpr ⟨c', hp, hps⟩⟩

/-- Every encoding of a value within the limits is gone past. -/
theorem scanValue_complete (h : Reads (levels + 1) c d) : scanValue (levels + 1) c = .ok d := by
  obtain ⟨v, b, hv, hwithin, hp⟩ := h
  have hsingle (code : UInt8) (hp : c.Passes [code] d)
      (hcode : code.toNat < 0x80 ∨ 0xe0 ≤ code.toNat ∨ code = 0xc0 ∨ code = 0xc2 ∨ code = 0xc3) :
      scanValue (levels + 1) c = .ok d := by
    obtain ⟨s, pos, rfl, hs⟩ := hp.exists_cons
    rw [scanValue_single hcode]
    exact congrArg Except.ok (Cursor.passes_nil.mp hs)
  cases hv with
  | nil => exact hsingle _ hp (.inr (.inr (.inl rfl)))
  | false => exact hsingle _ hp (.inr (.inr (.inr (.inl rfl))))
  | true => exact hsingle _ hp (.inr (.inr (.inr (.inr rfl))))
  | positiveFixint h => exact hsingle _ hp (.inl h)
  | negativeFixint h => exact hsingle _ hp (.inr (.inl h))
  | uint h => exact number_complete (List.mem_append_left _ (List.mem_append_right _ h)) hp
  | int h => exact number_complete (List.mem_append_right _ h) hp
  | float32 h => exact number_complete (h.symm ▸ by decide) hp
  | float64 h => exact number_complete (h.symm ▸ by decide) hp
  | str h =>
    obtain ⟨c', hp, hps⟩ := Cursor.passes_append.mp hp
    exact (strFamily.scanValue_head h hp).mpr (scanBlob_iff.mpr ⟨hwithin.sized, _, rfl, hps⟩)
  | bin h =>
    obtain ⟨c', hp, hps⟩ := Cursor.passes_append.mp hp
    exact (binFamily.scanValue_head h hp).mpr (scanBlob_iff.mpr ⟨hwithin.sized, _, rfl, hps⟩)
  | ext h =>
    obtain ⟨c', hp, hps⟩ := Cursor.passes_append.mp hp
    exact (extFamily.scanValue_head h hp).mpr (scanBlob_iff.mpr ⟨hwithin.sized, _, rfl, hps⟩)
  | array h hall =>
    obtain ⟨hmaximum, hwithin⟩ := Item.within_array.mp hwithin
    obtain ⟨c', hp, hps⟩ := Cursor.passes_append.mp hp
    rw [arrayFamily.scanValue_head h hp, containerBody_eq_ok, scanEntries_iff hscan]
    exact ⟨hmaximum, _, _, (Nat.one_mul _).symm, hall, hwithin, hps⟩
  | map h hall =>
    obtain ⟨hmaximum, hwithin⟩ := Item.within_map.mp hwithin
    obtain ⟨c', hp, hps⟩ := Cursor.passes_append.mp hp
    rw [mapFamily.scanValue_head h hp, containerBody_eq_ok, scanEntries_iff hscan]
    exact ⟨hmaximum, _, _, Item.length_flat _, hall, hwithin, hps⟩

end

theorem scanValue_iff : scanValue levels c = .ok d ↔ Reads levels c d := by
  induction levels generalizing c d with
  | zero =>
    constructor
    · intro h
      cases h
    · rintro ⟨v, b, -, hwithin, -⟩
      exact absurd hwithin Item.not_within_zero
  | succ levels ih => exact ⟨scanValue_sound fun _ _ => ih, scanValue_complete fun _ _ => ih⟩

/-- The input is accepted if it is one value within the limits. -/
theorem validateShape_iff {data : Bytes} : validateShape data = .ok () ↔
    ∃ v, Encodes v data ∧ v.Within limits (maxScanDepth + 1) := by
  rw [validateShape, Check.bind_eq_ok]
  constructor
  · rintro ⟨c, hc, hrest⟩
    obtain ⟨v, b, hv, hwithin, hp, -⟩ := scanValue_iff.mp hc
    have hdata : data = b := by
      rw [Check.require_eq_ok.mp hrest, List.append_nil] at hp
      exact hp
    exact ⟨v, hdata ▸ hv, hwithin⟩
  · rintro ⟨v, hv, hwithin⟩
    exact ⟨⟨[], data.length⟩, scanValue_iff.mpr
      ⟨v, data, hv, hwithin, (List.append_nil data).symm, (Nat.zero_add _).symm⟩,
      Check.require_eq_ok.mpr rfl⟩

/-! ### Shortest forms -/

theorem scanBlob_passes (hp : c.Passes b e) :
    scanBlob c b.length = .ok d ↔ b.length ≤ maxBlobBytes ∧ e = d := by
  rw [scanBlob_iff]
  apply and_congr_right'
  constructor
  · rintro ⟨b', hlength, hp'⟩
    exact (hp.unique hp' hlength.symm).2
  · rintro rfl
    exact ⟨b, rfl, hp⟩

/-- The scanner goes past the encoding of `v` exactly when `v` is within the limits and not nested
too deeply. -/
def Bounded (levels : Nat) (v : Value) : Prop :=
  ∀ c d e, c.Passes v.encode e → (scanValue levels c = .ok d ↔
    (v.Within maxBlobBytes maxArrayEntries ∧ v.depth ≤ levels) ∧ e = d)

theorem scanLoop_encodeAll {vs : List Value} (h : ∀ v ∈ vs, Bounded levels v)
    (hp : c.Passes (Value.encodeAll vs) e) : scanLoop (scanValue levels) vs.length c = .ok d ↔
      (∀ v ∈ vs, v.Within maxBlobBytes maxArrayEntries ∧ v.depth ≤ levels) ∧ e = d := by
  induction vs generalizing c with
  | nil =>
    obtain rfl := Cursor.passes_nil.mp hp
    simp [scanLoop]
  | cons v vs ih =>
    obtain ⟨hv, hvs⟩ := List.forall_mem_cons.mp h
    rw [Value.encodeAll] at hp
    obtain ⟨c', hp, hps⟩ := Cursor.passes_append.mp hp
    simp only [List.length_cons, scanLoop_succ, List.forall_mem_cons, and_assoc (c := e = d),
      ← ih hvs hps, hv c _ c' hp]
    constructor
    · rintro ⟨_, ⟨hwithin, rfl⟩, hloop⟩
      exact ⟨hwithin, hloop⟩
    · rintro ⟨hwithin, hloop⟩
      exact ⟨c', ⟨hwithin, rfl⟩, hloop⟩

theorem containerBody_encodeAll {kind : String} {maximum values : Nat} {vs : List Value}
    (h : ∀ v ∈ vs, Bounded levels v) (hlength : vs.length = values * n)
    (hp : c.Passes (Value.encodeAll vs) e) :
    containerBody kind maximum values levels c n = .ok d ↔
      (n ≤ maximum ∧ ∀ v ∈ vs, v.Within maxBlobBytes maxArrayEntries ∧ v.depth ≤ levels) ∧
        e = d := by
  have hroom : vs.length ≤ c.rest.length := by
    rw [hp.1, List.length_append]
    exact (Value.length_le_encodeAll vs).trans (Nat.le_add_right _ _)
  rw [containerBody_eq_ok, scanEntries_eq_ok, ← hlength, and_iff_right hroom,
    scanLoop_encodeAll h hp, and_assoc]

theorem bounded_of_fits {v : Value} (hfits : v.Fits) : Bounded levels v := by
  induction levels generalizing v with
  | zero =>
    intro c d e _
    cases v <;> simp [scanValue, Value.depth]
  | succ levels ih =>
    intro c d e hp
    have hleaf (i : Item) (hi : Encodes i v.encode) (hleaf : i.isContainer = false)
        (hsized : i.Sized limits) (hwithin : v.Within maxBlobBytes maxArrayEntries)
        (hdepth : v.depth = 1) : scanValue (levels + 1) c = .ok d ↔
          (v.Within maxBlobBytes maxArrayEntries ∧ v.depth ≤ levels + 1) ∧ e = d := by
      rw [scanValue_iff.mpr ⟨i, _, hi, Item.within_of_leaf hleaf hsized, hp⟩, Except.ok.injEq]
      exact (and_iff_right ⟨hwithin, hdepth.le.trans (Nat.le_add_left 1 levels)⟩).symm
    cases v with
    | nil => exact hleaf _ .nil rfl trivial trivial rfl
    | bool b =>
      cases b
      · exact hleaf _ .false rfl trivial trivial rfl
      · exact hleaf _ .true rfl trivial trivial rfl
    | int i =>
      obtain ⟨j, hj⟩ := MessagePack.encodes_int i
      exact hleaf _ hj rfl trivial trivial rfl
    | float bits =>
      exact hleaf _ (.float64 (MessagePack.length_bigEndian 8 bits)) rfl trivial trivial rfl
    | str b =>
      rw [Value.encode] at hp
      obtain ⟨c', hp, hp'⟩ := Cursor.passes_append.mp hp
      rw [strFamily.scanValue_head (MessagePack.head_str hfits) hp, blobBody, Nat.add_zero,
        scanBlob_passes hp']
      simp
    | bin b =>
      rw [Value.encode] at hp
      obtain ⟨c', hp, hp'⟩ := Cursor.passes_append.mp hp
      rw [binFamily.scanValue_head (MessagePack.head_bin hfits) hp, blobBody, Nat.add_zero,
        scanBlob_passes hp']
      simp
    | array vs =>
      obtain ⟨hlength, hall⟩ := Value.array_fits.mp hfits
      rw [Value.encode] at hp
      obtain ⟨c', hp, hp'⟩ := Cursor.passes_append.mp hp
      rw [arrayFamily.scanValue_head (MessagePack.head_array hlength) hp,
        containerBody_encodeAll (fun v hv => ih (hall v hv)) (Nat.one_mul _).symm hp',
        Value.array_within, Value.depth_array_le]
      simp only [imp_and, forall_and, and_assoc]
    | map kvs =>
      obtain ⟨hlength, hall⟩ := Value.map_fits.mp hfits
      have hbounded : ∀ v ∈ Value.flat kvs, Bounded levels v :=
        Value.forall_mem_flat.mpr fun kv hkv => ⟨ih (hall kv hkv).1, ih (hall kv hkv).2⟩
      rw [Value.encode, Value.encodePairs_eq] at hp
      obtain ⟨c', hp, hp'⟩ := Cursor.passes_append.mp hp
      rw [mapFamily.scanValue_head (MessagePack.head_map hlength) hp,
        containerBody_encodeAll hbounded (Value.length_flat kvs) hp', Value.map_within,
        Value.depth_map_le, Value.forall_mem_flat]
      simp only [imp_and, forall_and]
      tauto

/-- `validateShape` accepts exactly the encodings of values within the limits. -/
theorem validateShape_encode {v : Value} (hfits : v.Fits) :
    validateShape v.encode = .ok () ↔
      v.Within maxBlobBytes maxArrayEntries ∧ v.depth ≤ maxScanDepth + 1 := by
  have hp : (Cursor.mk v.encode 0).Passes v.encode ⟨[], v.encode.length⟩ :=
    ⟨(List.append_nil _).symm, (Nat.zero_add _).symm⟩
  simp only [validateShape, Check.bind_eq_ok, bounded_of_fits hfits _ _ _ hp, Check.require_eq_ok]
  constructor
  · rintro ⟨d, ⟨hwithin, rfl⟩, -⟩
    exact hwithin
  · intro hwithin
    exact ⟨_, ⟨hwithin, rfl⟩, rfl⟩

end RivetGo.Wire
