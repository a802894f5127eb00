import RivetGo.Data.Runes
import RivetGo.Native.SqliteDispatch

/-!
# Statements that can only read

Both sides decide from the text of a statement whether it can only read. Go compares the first
six bytes of the trimmed text with the keyword under the simple folding of Unicode, native takes
them as a string, if they end at a character, and compares without regard to ASCII case.

Both decisions are reduced to the bytes of the trimmed text: six of them are the keyword in some
case, and the next one, if there is one, is a separator. Under simple folding the long s is an S,
but it takes two bytes, and then there are not six characters left to compare.
-/

namespace RivetGo.ReadOnly

open Native (SqliteCommand SqliteRequestKind awaitSqliteDeadline)

/-- Space, tab, newline, carriage return and form feed. -/
def separators : Bytes := [0x20, 0x09, 0x0a, 0x0d, 0x0c]

/-! ## Go -/

/-- The characters that are an upper-case ASCII letter under simple folding: its two cases, and
two characters outside ASCII. -/
def foldsTo (c letter : Char) : Bool :=
  c.toUpper == letter || (letter == 'K' && c == 'K') || (letter == 'S' && c == 'ſ')

/-- `strings.EqualFold` with a word of upper-case ASCII letters. -/
def equalFold (s : Bytes) (word : List Char) : Bool := (Utf8.chars s).isEqv word foldsTo

def definitelyReadOnly (sql : Bytes) : Bool :=
  let trimmed := Utf8.trim sql
  if trimmed.length < 6 || !equalFold (trimmed.take 6) "SELECT".toList then false
  else if trimmed.length = 6 then true
  else separators.contains (trimmed.getD 6 0)

/-- What a session waits for beyond the end of its context. -/
def mayWrite (kind : SqliteRequestKind) (sql : Bytes) : Bool :=
  (kind ≠ .exec && kind ≠ .query) || !definitelyReadOnly sql

/-! ## Native -/

/-- `str::is_char_boundary`. -/
def isCharBoundary (s : Bytes) (i : Nat) : Bool :=
  match s[i]? with
  | none => i = s.length
  | some b => b.toNat < 0x80 || 0xc0 ≤ b.toNat

/-- `s.get(..i)`. -/
def getTo (s : Bytes) (i : Nat) : Option Bytes :=
  if isCharBoundary s i then some (s.take i) else none

def toAsciiLowercase (b : UInt8) : UInt8 :=
  if 0x41 ≤ b.toNat ∧ b.toNat ≤ 0x5a then b ||| 0x20 else b

def eqIgnoreAsciiCase (a b : Bytes) : Bool := a.map toAsciiLowercase == b.map toAsciiLowercase

def sqliteStatementIsDefinitelyReadOnly (sql : String) : Bool :=
  let trimmed := Utf8.encode (Utf8.trimText sql)
  match getTo trimmed 6 with
  | none => false
  | some keyword =>
    if !eqIgnoreAsciiCase keyword (Utf8.encode "SELECT") then false
    else
      match trimmed[6]? with
      | none => true
      | some b => separators.contains b

/-! ## What is meant -/

/-- The word `SELECT` in any case, alone or in front of a separator. -/
def IsSelect (text : String) : Prop :=
  ∃ word rest, text.toList = word ++ rest ∧ word.map Char.toUpper = "SELECT".toList ∧
    ∀ c ∈ rest.head?, c ∈ [' ', '\t', '\n', '\r', '\x0c']

/-- The same on bytes. -/
def IsSelectBytes (t : Bytes) : Prop :=
  (t.take 6).map toAsciiLowercase = Utf8.encode "select" ∧ ∀ b ∈ t[6]?, b ∈ separators

/-! ## Letters -/

/-- The letters of the keyword. -/
def letters : List Char := ['S', 'E', 'L', 'E', 'C', 'T']

theorem toList_select : "SELECT".toList = letters := rfl

/-- A letter of the keyword in lower case, as a byte. -/
def lowerByte (letter : Char) : UInt8 := UInt8.ofNat letter.toLower.toNat

/-- A fact about each letter. -/
theorem forall_letters {P : Char → Prop} (s : P 'S') (e : P 'E') (l : P 'L') (c : P 'C')
    (t : P 'T') : ∀ letter ∈ letters, P letter := by
  intro letter hletter
  simp only [letters, List.mem_cons, List.not_mem_nil, or_false] at hletter
  obtain rfl | rfl | rfl | rfl | rfl | rfl := hletter
  · exact s
  · exact e
  · exact l
  · exact e
  · exact c
  · exact t

/-- Below 128 all comparisons with a letter are one. -/
theorem letter_iff : ∀ letter ∈ letters, ∀ n < 0x80,
    (foldsTo (Char.ofNat n) letter = true ↔
      toAsciiLowercase (UInt8.ofNat n) = lowerByte letter) ∧
    ((Char.ofNat n).toUpper = letter ↔ toAsciiLowercase (UInt8.ofNat n) = lowerByte letter) := by
  apply forall_letters <;> decide +kernel

theorem toAsciiLowercase_of_le {x : UInt8} (hx : 0x80 ≤ x.toNat) : toAsciiLowercase x = x :=
  if_neg (by omega)

theorem lowerByte_lt : ∀ letter ∈ letters, (lowerByte letter).toNat < 0x80 := by
  apply forall_letters <;> decide

theorem not_foldsTo_replacement :
    ∀ letter ∈ letters, foldsTo Utf8.replacement letter = false := by
  apply forall_letters <;> decide

/-! ## Go -/

theorem length_of_equalFold {s : Bytes} {word : List Char} (h : equalFold s word = true) :
    (Utf8.runes s).length = word.length := by
  rw [equalFold, List.isEqv_eq_decide] at h
  split_ifs at h with hlength
  rwa [Utf8.chars, List.length_map] at hlength

theorem equalFold_iff {word : List Char} (hword : ∀ l ∈ word, l ∈ letters) {k : Bytes}
    (hlength : k.length = word.length) :
    equalFold k word = true ↔ k.map toAsciiLowercase = word.map lowerByte := by
  induction word generalizing k with
  | nil =>
    obtain rfl := List.length_eq_zero_iff.mp hlength
    exact iff_of_true rfl rfl
  | cons letter word ih =>
    obtain ⟨hletter, hword⟩ := List.forall_mem_cons.mp hword
    obtain ⟨x, k, rfl⟩ := List.exists_cons_of_length_eq_add_one hlength
    have hlength : k.length = word.length := Nat.succ.inj hlength
    by_cases hx : x.toNat < 0x80
    · have hcons : equalFold (x :: k) (letter :: word) =
          (foldsTo (Char.ofNat x.toNat) letter && equalFold k word) := by
        rw [equalFold, Utf8.chars, Utf8.runes_cons_of_lt hx]
        rfl
      have hfirst := (letter_iff letter hletter _ hx).1
      rw [UInt8.ofNat_toNat] at hfirst
      rw [hcons, Bool.and_eq_true, ih hword hlength, hfirst, List.map_cons, List.map_cons,
        List.cons.injEq]
    · have hx : 0x80 ≤ x.toNat := Nat.le_of_not_lt hx
      refine iff_of_false (fun hfold => ?_) (fun hbytes => ?_)
      · rw [equalFold, Utf8.chars, Utf8.runes_cons, List.map_cons, List.isEqv,
          Bool.and_eq_true] at hfold
        obtain hreplaced | hlong := Utf8.firstRune_of_le hx k
        · rw [hreplaced, not_foldsTo_replacement letter hletter] at hfold
          exact absurd hfold.1 Bool.false_ne_true
        · -- a character of several bytes leaves fewer bytes than letters
          have hrunes := length_of_equalFold hfold.2
          have hbytes := Utf8.length_runes_le
            ((x :: k).drop (Utf8.firstRune x k).bytes.length)
          have hfirst := Utf8.length_firstRune_le x k
          rw [List.length_drop, List.length_cons] at hbytes
          omega
      · rw [List.map_cons, List.map_cons, List.cons.injEq, toAsciiLowercase_of_le hx] at hbytes
        have := lowerByte_lt letter hletter
        rw [← hbytes.1] at this
        omega

theorem map_lowerByte : letters.map lowerByte = Utf8.encode "select" := rfl

theorem definitelyReadOnly_iff (sql : Bytes) :
    definitelyReadOnly sql = true ↔ IsSelectBytes (Utf8.trim sql) := by
  unfold definitelyReadOnly IsSelectBytes
  generalize Utf8.trim sql = t
  dsimp only
  by_cases hshort : t.length < 6
  · refine iff_of_false (by simp [hshort]) ?_
    rintro ⟨hword, -⟩
    have hlength := congrArg List.length hword
    rw [List.length_map, List.length_take] at hlength
    have : (Utf8.encode "select").length = 6 := rfl
    omega
  · have hlength : (t.take 6).length = letters.length := by
      rw [List.length_take]
      exact Nat.min_eq_left (Nat.le_of_not_lt hshort)
    have hword := equalFold_iff (fun _ h => h) hlength
    rw [map_lowerByte] at hword
    rw [toList_select, ← hword]
    by_cases hfold : equalFold (t.take 6) letters = true
    · rw [hfold, Bool.not_true, Bool.or_false, decide_eq_false hshort, if_neg Bool.false_ne_true,
        and_iff_right rfl]
      cases hnext : t[6]? with
      | none =>
        have hle := List.getElem?_eq_none_iff.mp hnext
        rw [if_pos (by omega)]
        simp
      | some b =>
        obtain ⟨hlt, -⟩ := List.getElem?_eq_some_iff.mp hnext
        rw [if_neg (by omega), List.getD_eq_getElem?_getD, hnext]
        simp
    · simp [hfold]

example : definitelyReadOnly (Utf8.encode "\t select\n* from t ") = true := by decide +kernel

/-! ## Texts -/

/-- A word of characters below 128. -/
theorem map_toAsciiLowercase_iff {word ls : List Char} (hls : ∀ l ∈ ls, l ∈ letters)
    (hword : ∀ c ∈ word, c.toNat < 0x80) :
    (word.map fun c => toAsciiLowercase (UInt8.ofNat c.toNat)) = ls.map lowerByte ↔
      word.map Char.toUpper = ls := by
  induction word generalizing ls with
  | nil =>
    rw [List.map_nil, List.map_nil, List.nil_eq, List.map_eq_nil_iff]
    exact eq_comm
  | cons c word ih =>
    obtain ⟨hc, hword⟩ := List.forall_mem_cons.mp hword
    cases ls with
    | nil => exact iff_of_false (List.cons_ne_nil _ _) (List.cons_ne_nil _ _)
    | cons l ls =>
      obtain ⟨hl, hls⟩ := List.forall_mem_cons.mp hls
      have hfirst := (letter_iff l hl c.toNat hc).2
      rw [Char.ofNat_toNat] at hfirst
      rw [List.map_cons, List.map_cons, List.map_cons, List.cons.injEq, List.cons.injEq,
        hfirst, ih hls hword]

theorem toNat_lt_of_toUpper {c : Char} (h : c.toUpper ∈ letters) : c.toNat < 0x80 := by
  unfold Char.toUpper at h
  split_ifs at h with hlower
  · have hle : c.toNat ≤ 'z'.toNat := hlower.2
    exact Nat.lt_of_le_of_lt hle (by decide)
  · revert h
    apply forall_letters (P := fun c => c.toNat < 0x80) <;> decide

/-- The byte behind the keyword is a separator if the character is. -/
theorem separator_iff (rest : List Char) :
    (∀ b ∈ (rest.flatMap String.utf8EncodeChar).head?, b ∈ separators) ↔
      ∀ c ∈ rest.head?, c ∈ [' ', '\t', '\n', '\r', '\x0c'] := by
  cases rest with
  | nil => simp
  | cons c rest =>
    obtain ⟨x, t, hx⟩ := List.exists_cons_of_ne_nil (Utf8.utf8EncodeChar_ne_nil c)
    have hmem : x ∈ String.utf8EncodeChar c := hx ▸ List.mem_cons_self
    have hchar {d : Char} (hd : d.toNat < 0x80) : x = UInt8.ofNat d.toNat ↔ c = d := by
      constructor
      · rintro rfl
        exact (Utf8.mem_utf8EncodeChar_iff hd).mp hmem
      · rintro rfl
        rw [Utf8.utf8EncodeChar_of_lt hd] at hx
        exact (List.cons.inj hx).1.symm
    have hhead : ((c :: rest).flatMap String.utf8EncodeChar).head? = some x := by
      rw [List.flatMap_cons, hx]
      rfl
    rw [hhead]
    simp only [Option.mem_some_iff, forall_eq', List.head?_cons, separators, List.mem_cons,
      List.not_mem_nil, or_false]
    exact or_congr (hchar (d := ' ') (by decide)) (or_congr (hchar (d := '\t') (by decide))
      (or_congr (hchar (d := '\n') (by decide)) (or_congr (hchar (d := '\r') (by decide))
        (hchar (d := '\x0c') (by decide)))))

/-- A text that begins with six characters below 128. -/
theorem isSelectBytes_append {word rest : List Char} (hword : ∀ c ∈ word, c.toNat < 0x80)
    (hlength : word.length = 6) :
    IsSelectBytes ((word ++ rest).flatMap String.utf8EncodeChar) ↔
      word.map Char.toUpper = letters ∧
        ∀ b ∈ (rest.flatMap String.utf8EncodeChar).head?, b ∈ separators := by
  have hbytes : (word.map fun c => UInt8.ofNat c.toNat).length = 6 := by
    rw [List.length_map, hlength]
  rw [IsSelectBytes, List.flatMap_append, Utf8.flatMap_utf8EncodeChar_of_lt hword,
    List.take_left' hbytes, List.map_map, ← map_lowerByte,
    List.getElem?_append_right (Nat.le_of_eq hbytes), hbytes, Nat.sub_self,
    ← List.head?_eq_getElem?, ← map_toAsciiLowercase_iff (fun _ h => h) hword]
  rfl

/-- The bytes of the keyword in front of a text are six characters of it. -/
theorem exists_word {cs : List Char} (h : IsSelectBytes (cs.flatMap String.utf8EncodeChar)) :
    ∃ word rest, cs = word ++ rest ∧ (∀ c ∈ word, c.toNat < 0x80) ∧ word.length = 6 := by
  have hlength := congrArg List.length h.1
  rw [List.length_map, List.length_take] at hlength
  have hsix : (Utf8.encode "select").length = 6 := rfl
  refine Utf8.exists_ascii_front (by omega) fun x hx => Nat.lt_of_not_le fun hge => ?_
  have hmem := List.mem_map_of_mem (f := toAsciiLowercase) hx
  rw [h.1, ← map_lowerByte, toAsciiLowercase_of_le hge] at hmem
  obtain ⟨letter, hletter, rfl⟩ := List.mem_map.mp hmem
  have := lowerByte_lt letter hletter
  omega

theorem isSelectBytes_iff (text : String) : IsSelectBytes (Utf8.encode text) ↔ IsSelect text := by
  rw [Utf8.encode_eq_flatMap, IsSelect, toList_select]
  constructor
  · intro h
    obtain ⟨word, rest, hcs, hword, hlength⟩ := exists_word h
    rw [hcs, isSelectBytes_append hword hlength, separator_iff] at h
    exact ⟨word, rest, hcs, h⟩
  · rintro ⟨word, rest, hcs, hupper, hrest⟩
    have hword : ∀ c ∈ word, c.toNat < 0x80 := fun c hc =>
      toNat_lt_of_toUpper (hupper ▸ List.mem_map_of_mem hc)
    have hlength : word.length = 6 := by
      rw [← List.length_map (f := Char.toUpper), hupper]
      rfl
    rw [hcs, isSelectBytes_append hword hlength, separator_iff]
    exact ⟨hupper, hrest⟩

/-! ## Native -/

/-- Six characters below 128 end at a boundary, because the next byte begins a character. -/
theorem isCharBoundary_of_isSelectBytes {text : String}
    (h : IsSelectBytes (Utf8.encode text)) : isCharBoundary (Utf8.encode text) 6 = true := by
  rw [Utf8.encode_eq_flatMap] at h ⊢
  obtain ⟨word, rest, hcs, hword, hlength⟩ := exists_word h
  have hbytes : (word.map fun c => UInt8.ofNat c.toNat).length = 6 := by
    rw [List.length_map, hlength]
  rw [hcs, List.flatMap_append, Utf8.flatMap_utf8EncodeChar_of_lt hword, isCharBoundary,
    List.getElem?_append_right (Nat.le_of_eq hbytes), hbytes, Nat.sub_self,
    ← List.head?_eq_getElem?]
  cases rest with
  | nil => simp [hlength]
  | cons c rest =>
    obtain ⟨x, t, hx⟩ := List.exists_cons_of_ne_nil (Utf8.utf8EncodeChar_ne_nil c)
    have hfirst := Utf8.head_utf8EncodeChar (c := c) (x := x) (by rw [hx]; rfl)
    rw [List.flatMap_cons, hx]
    simpa using hfirst

theorem eqIgnoreAsciiCase_select (k : Bytes) :
    eqIgnoreAsciiCase k (Utf8.encode "SELECT") = true ↔
      k.map toAsciiLowercase = Utf8.encode "select" := by
  have hlower : (Utf8.encode "SELECT").map toAsciiLowercase = Utf8.encode "select" := by decide
  rw [eqIgnoreAsciiCase, hlower, beq_iff_eq]

theorem sqliteStatementIsDefinitelyReadOnly_iff (sql : String) :
    sqliteStatementIsDefinitelyReadOnly sql = true ↔
      IsSelectBytes (Utf8.encode (Utf8.trimText sql)) := by
  have hboundary := @isCharBoundary_of_isSelectBytes (Utf8.trimText sql)
  revert hboundary
  unfold sqliteStatementIsDefinitelyReadOnly getTo
  generalize Utf8.encode (Utf8.trimText sql) = t
  intro hboundary
  dsimp only
  by_cases hsix : isCharBoundary t 6 = true
  · rw [if_pos hsix, IsSelectBytes, ← eqIgnoreAsciiCase_select]
    dsimp only
    by_cases hword : eqIgnoreAsciiCase (t.take 6) (Utf8.encode "SELECT") = true
    · rw [hword]
      cases t[6]? <;> simp
    · simp [hword]
  · rw [if_neg hsix]
    exact iff_of_false Bool.false_ne_true (mt hboundary hsix)

/-! ## Agreement -/

theorem definitelyReadOnly_encode (sql : String) :
    definitelyReadOnly (Utf8.encode sql) = sqliteStatementIsDefinitelyReadOnly sql := by
  rw [Bool.eq_iff_iff, definitelyReadOnly_iff, Utf8.trim_encode,
    sqliteStatementIsDefinitelyReadOnly_iff]

/-- What native abandons at the deadline is decided in the same way. -/
theorem native_definitelyReadOnly (sql : String) :
    Native.definitelyReadOnly sql = sqliteStatementIsDefinitelyReadOnly sql := by
  have htrimmed : (sql.toList.dropWhile Utf8.isWhiteSpace).rdropWhile Utf8.isWhiteSpace =
      (Utf8.trimText sql).toList := (String.toList_ofList).symm
  rw [Bool.eq_iff_iff, sqliteStatementIsDefinitelyReadOnly_iff, isSelectBytes_iff,
    Native.definitelyReadOnly, htrimmed]
  generalize (Utf8.trimText sql) = text
  rw [IsSelect, Bool.and_eq_true, beq_iff_eq, Option.all_eq_true]
  constructor
  · rintro ⟨hword, hnext⟩
    refine ⟨text.toList.take 6, text.toList.drop 6, (List.take_append_drop _ _).symm, hword, ?_⟩
    intro c hc
    rw [List.head?_drop] at hc
    exact of_decide_eq_true (hnext c hc)
  · rintro ⟨word, rest, hcs, hword, hnext⟩
    have hlength : word.length = 6 := by
      rw [← List.length_map (f := Char.toUpper), hword]
      rfl
    rw [hcs, List.take_left' hlength, List.getElem?_append_right (Nat.le_of_eq hlength), hlength,
      Nat.sub_self, ← List.head?_eq_getElem?]
    exact ⟨hword, fun c hc => decide_eq_true (hnext c hc)⟩

theorem abandonSafe_eq (c : SqliteCommand) :
    c.abandonSafe = !mayWrite c.kind (Utf8.encode c.sql) := by
  rw [SqliteCommand.abandonSafe, native_definitelyReadOnly, mayWrite, definitelyReadOnly_encode]
  cases c.kind <;> simp

/-- The two classifiers agree, they recognise the keyword and nothing else, and native abandons
no statement that Go waits for. -/
theorem classifiers_agree (sql : String) :
    definitelyReadOnly (Utf8.encode sql) = sqliteStatementIsDefinitelyReadOnly sql ∧
    (definitelyReadOnly (Utf8.encode sql) = true ↔ IsSelect (Utf8.trimText sql)) ∧
    ∀ (c : SqliteCommand) inTime result, c.sql = sql →
      mayWrite c.kind (Utf8.encode sql) = true →
        awaitSqliteDeadline c.abandonSafe inTime result ≠ .abandoned := by
  refine ⟨definitelyReadOnly_encode sql, ?_, ?_⟩
  · rw [definitelyReadOnly_iff, Utf8.trim_encode, isSelectBytes_iff]
  · rintro c inTime result rfl hwrite
    rw [abandonSafe_eq, hwrite, awaitSqliteDeadline]
    cases inTime <;> simp

/-- A statement with a long s in place of the S, which is late. -/
def lateStatement : SqliteCommand where
  requestId := 1
  aid := "actor-1"
  generation := 1
  kind := .exec
  sql := "ſELECT 1"
  deadlineMs := 10

theorem longS_agree :
    definitelyReadOnly (Utf8.encode "ſELECT 1") =
        sqliteStatementIsDefinitelyReadOnly "ſELECT 1" ∧
      ∀ result, awaitSqliteDeadline lateStatement.abandonSafe false result ≠ .abandoned := by
  obtain ⟨hagree, -, hwait⟩ := classifiers_agree "ſELECT 1"
  refine ⟨hagree, fun result => hwait lateStatement false result rfl ?_⟩
  decide +kernel

end RivetGo.ReadOnly
