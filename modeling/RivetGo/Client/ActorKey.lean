import Mathlib
import RivetGo.Data.Runes

/-!
# Actor keys

A key is a list of segments. On the wire it is one string: the segments are joined by slashes,
a backslash and a slash inside a segment get a backslash in front, and an empty segment is
written as a backslash and a zero. The reader goes through the string character by character.

What the writer makes of the text of a segment is stated on characters; the reader, started
between two segments, is then followed through one segment, and through a key by induction.
-/

namespace RivetGo.ActorKey

def backslash : UInt8 := 0x5c

def slash : UInt8 := 0x2f

/-! ## Writing -/

/-- `strings.ReplaceAll` of one byte. -/
def replaceAll (s : Bytes) (old : UInt8) (new : Bytes) : Bytes :=
  s.flatMap fun b => if b = old then new else [b]

/-- The body of the loop of `serializeActorKey`. -/
def serializePart (part : Bytes) : Bytes :=
  if part = [] then Utf8.encode "\\0"
  else
    let part := replaceAll part backslash (Utf8.encode "\\\\")
    replaceAll part slash (Utf8.encode "\\/")

def serializeActorKey (key : List Bytes) : Bytes :=
  if key.length = 0 then Utf8.encode "/"
  else List.intercalate (Utf8.encode "/") (key.map serializePart)

/-! ## Reading -/

/-- The variables of `deserializeActorKey`. -/
structure Reader where
  parts : List Bytes := []
  current : Bytes := []
  escaping : Bool := false
  emptyMarker : Bool := false

/-- The body of the loop. -/
def Reader.next (r : Reader) (char : Char) : Reader :=
  if r.escaping then
    if char = '0' then { r with emptyMarker := true, escaping := false }
    else { r with current := r.current ++ String.utf8EncodeChar char, escaping := false }
  else if char = '\\' then { r with escaping := true }
  else if char = '/' then
    if r.emptyMarker then { r with parts := r.parts ++ [[]], emptyMarker := false, current := [] }
    else { r with parts := r.parts ++ [r.current], current := [] }
  else { r with current := r.current ++ String.utf8EncodeChar char }

/-- What follows the loop. -/
def Reader.finish (r : Reader) : List Bytes :=
  if r.escaping then r.parts ++ [r.current ++ Utf8.encode "\\"]
  else if r.emptyMarker then r.parts ++ [[]]
  else if 0 < r.current.length then r.parts ++ [r.current]
  else r.parts

def deserializeActorKey (formatted : Bytes) : List Bytes :=
  if formatted = [] ∨ formatted = Utf8.encode "/" then []
  else ((Utf8.chars formatted).foldl Reader.next {}).finish

/-! ## Looking an actor up -/

/-- An actor of the engine, as far as it is compared or read. -/
structure ActorMetadataJSON where
  actorId : Bytes
  name : Bytes
  key : Bytes

structure ActorHandle where
  id : Bytes
  name : Bytes
  key : List Bytes
  formattedKey : Bytes

inductive GetError where
  | emptyName
  | notFound

def newHandle (actor : ActorMetadataJSON) : ActorHandle where
  id := actor.actorId
  name := actor.name
  key := deserializeActorKey actor.key
  formattedKey := actor.key

/-- `GetByKey` after the engine has listed `actors`. -/
def getByKey (name : Bytes) (key : List Bytes) (actors : List ActorMetadataJSON) :
    Except GetError ActorHandle :=
  if Utf8.blankBytes name then .error .emptyName
  else
    let formattedKey := serializeActorKey key
    match actors.find? fun actor => actor.name = name ∧ actor.key = formattedKey with
    | some actor => .ok (newHandle actor)
    | none => .error .notFound

/-! ## What is written, in characters -/

/-- A character of a segment on the wire. -/
def escape (c : Char) : List Char :=
  if c = '\\' then ['\\', '\\'] else if c = '/' then ['\\', '/'] else [c]

/-- A segment on the wire. -/
def written (segment : String) : List Char :=
  if segment = "" then ['\\', '0'] else segment.toList.flatMap escape

theorem replaceAll_of_notMem {s new : Bytes} {old : UInt8} (h : old ∉ s) :
    replaceAll s old new = s := by
  have hkeep : ∀ b ∈ s, (if b = old then new else [b]) = [b] := by
    intro b hb
    refine if_neg ?_
    rintro rfl
    exact h hb
  rw [replaceAll, List.flatMap_congr hkeep, List.flatMap_singleton']

theorem replaceAll_flatMap {α : Type} (xs : List α) (f : α → Bytes) (old : UInt8) (new : Bytes) :
    replaceAll (xs.flatMap f) old new = xs.flatMap fun x => replaceAll (f x) old new :=
  List.flatMap_assoc

/-- The two replacements on one character. -/
theorem replaceAll_char (c : Char) :
    replaceAll (replaceAll (String.utf8EncodeChar c) backslash (Utf8.encode "\\\\")) slash
      (Utf8.encode "\\/") = (escape c).flatMap String.utf8EncodeChar := by
  by_cases hback : c = '\\'
  · subst hback
    rfl
  by_cases hslash : c = '/'
  · subst hslash
    rfl
  have hbackslash : backslash ∉ String.utf8EncodeChar c :=
    mt (Utf8.mem_utf8EncodeChar_iff (d := '\\') (by decide)).mp hback
  have hslashes : slash ∉ String.utf8EncodeChar c :=
    mt (Utf8.mem_utf8EncodeChar_iff (d := '/') (by decide)).mp hslash
  rw [replaceAll_of_notMem hbackslash, replaceAll_of_notMem hslashes, escape, if_neg hback,
    if_neg hslash, List.flatMap_singleton]

theorem serializePart_encode (segment : String) :
    serializePart (Utf8.encode segment) = (written segment).flatMap String.utf8EncodeChar := by
  unfold serializePart written
  by_cases hempty : segment = ""
  · subst hempty
    rfl
  · rw [if_neg (mt Utf8.encode_eq_nil.mp hempty), if_neg hempty, Utf8.encode_eq_flatMap,
      replaceAll_flatMap, replaceAll_flatMap, List.flatMap_assoc]
    exact List.flatMap_congr fun c _ => replaceAll_char c

/-- The characters of a key that is not empty. -/
def writtenKey (key : List String) : List Char := List.intercalate ['/'] (key.map written)

theorem writtenKey_cons (segment next : String) (key : List String) :
    writtenKey (segment :: next :: key) = written segment ++ '/' :: writtenKey (next :: key) := by
  simp [writtenKey, List.intercalate]

theorem serializeActorKey_encode {key : List String} (hkey : key ≠ []) :
    serializeActorKey (key.map Utf8.encode) =
      (writtenKey key).flatMap String.utf8EncodeChar := by
  have hlength : (key.map Utf8.encode).length ≠ 0 := by simpa using hkey
  rw [serializeActorKey, if_neg hlength, List.map_map]
  -- `intercalate` recurses on the tail of a list of at least two segments
  induction key with
  | nil => exact absurd rfl hkey
  | cons segment key ih =>
    cases key with
    | nil => simpa [writtenKey, List.intercalate] using serializePart_encode segment
    | cons next key =>
      have htail := ih (List.cons_ne_nil _ _) (by simp)
      rw [writtenKey_cons, List.flatMap_append, List.flatMap_cons, ← htail,
        ← serializePart_encode]
      simp [List.intercalate]
      rfl

/-! ## What is read -/

/-- The reader between two segments. -/
def between (parts : List Bytes) : Reader := { parts := parts }

/-- The reader at the end of a segment. -/
def after (parts : List Bytes) (segment : String) : Reader :=
  { parts := parts, current := Utf8.encode segment, emptyMarker := decide (segment = "") }

theorem foldl_escape (r : Reader) (hr : r.escaping = false) (c : Char) :
    (escape c).foldl Reader.next r =
      { r with current := r.current ++ String.utf8EncodeChar c } := by
  obtain ⟨parts, current, escaping, emptyMarker⟩ := r
  obtain rfl : escaping = false := hr
  unfold escape
  split_ifs with hback hslash
  · subst hback
    rfl
  · subst hslash
    rfl
  · simp [Reader.next, hback, hslash]

theorem foldl_flatMap_escape (r : Reader) (hr : r.escaping = false) (cs : List Char) :
    (cs.flatMap escape).foldl Reader.next r =
      { r with current := r.current ++ cs.flatMap String.utf8EncodeChar } := by
  induction cs generalizing r with
  | nil => simp
  | cons c cs ih =>
    rw [List.flatMap_cons, List.foldl_append, foldl_escape r hr,
      ih { r with current := r.current ++ String.utf8EncodeChar c } hr, List.flatMap_cons,
      List.append_assoc]

/-- One segment. -/
theorem foldl_written (parts : List Bytes) (segment : String) :
    (written segment).foldl Reader.next (between parts) = after parts segment := by
  unfold written
  split_ifs with hempty
  · subst hempty
    rfl
  · rw [foldl_flatMap_escape _ rfl, ← Utf8.encode_eq_flatMap, after, decide_eq_false hempty]
    rfl

theorem next_slash (parts : List Bytes) (segment : String) :
    (after parts segment).next '/' = between (parts ++ [Utf8.encode segment]) := by
  by_cases hempty : segment = ""
  · subst hempty
    rfl
  · simp [after, Reader.next, hempty, between]

theorem finish_after (parts : List Bytes) (segment : String) :
    (after parts segment).finish = parts ++ [Utf8.encode segment] := by
  by_cases hempty : segment = ""
  · subst hempty
    rfl
  · have hlength : 0 < (Utf8.encode segment).length :=
      List.length_pos_iff.mpr (mt Utf8.encode_eq_nil.mp hempty)
    simp [after, Reader.finish, hempty, hlength]

/-- A whole key. -/
theorem finish_foldl_writtenKey {key : List String} (hkey : key ≠ []) (parts : List Bytes) :
    ((writtenKey key).foldl Reader.next (between parts)).finish =
      parts ++ key.map Utf8.encode := by
  induction key generalizing parts with
  | nil => exact absurd rfl hkey
  | cons segment key ih =>
    cases key with
    | nil =>
      have hone : writtenKey [segment] = written segment := by
        simp [writtenKey, List.intercalate]
      rw [hone, foldl_written, finish_after]
      rfl
    | cons next key =>
      rw [writtenKey_cons, List.foldl_append, foldl_written, List.foldl_cons, next_slash,
        ih (List.cons_ne_nil _ _), List.append_assoc]
      rfl

/-! ## Round trip -/

/-- What is written for a segment does not begin with a slash. -/
theorem written_eq_cons (segment : String) : ∃ c cs, written segment = c :: cs ∧ c ≠ '/' := by
  unfold written
  split_ifs with hempty
  · exact ⟨'\\', ['0'], rfl, by decide⟩
  · obtain ⟨c, cs, hcs⟩ := List.exists_cons_of_ne_nil (mt String.toList_eq_nil_iff.mp hempty)
    rw [hcs, List.flatMap_cons]
    unfold escape
    split_ifs with hback hslash
    · exact ⟨'\\', _, rfl, by decide⟩
    · exact ⟨'\\', _, rfl, by decide⟩
    · exact ⟨c, _, rfl, hslash⟩

theorem writtenKey_eq_cons {key : List String} (hkey : key ≠ []) :
    ∃ c cs, writtenKey key = c :: cs ∧ c ≠ '/' := by
  obtain ⟨segment, key, rfl⟩ := List.exists_cons_of_ne_nil hkey
  obtain ⟨c, cs, hwritten, hc⟩ := written_eq_cons segment
  cases key with
  | nil => exact ⟨c, cs, by simp [writtenKey, List.intercalate, hwritten], hc⟩
  | cons next key => exact ⟨c, _, by rw [writtenKey_cons, hwritten, List.cons_append], hc⟩

theorem chars_serializeActorKey {key : List String} (hkey : key ≠ []) :
    Utf8.chars (serializeActorKey (key.map Utf8.encode)) = writtenKey key := by
  rw [serializeActorKey_encode hkey, ← Utf8.encode_ofList, Utf8.chars_encode,
    String.toList_ofList]

theorem deserializeActorKey_serializeActorKey (key : List String) :
    deserializeActorKey (serializeActorKey (key.map Utf8.encode)) = key.map Utf8.encode := by
  by_cases hkey : key = []
  · subst hkey
    rfl
  · obtain ⟨c, cs, hchars, hc⟩ := writtenKey_eq_cons hkey
    rw [← chars_serializeActorKey hkey] at hchars
    have hother : ¬ (serializeActorKey (key.map Utf8.encode) = [] ∨
        serializeActorKey (key.map Utf8.encode) = Utf8.encode "/") := by
      rintro (hnil | hslash)
      · rw [hnil] at hchars
        cases hchars
      · rw [hslash, Utf8.chars_encode] at hchars
        exact hc (List.cons.inj hchars).1.symm
    rw [deserializeActorKey, if_neg hother, chars_serializeActorKey hkey]
    exact finish_foldl_writtenKey hkey []

theorem serializeActorKey_injective :
    Function.Injective fun key : List String => serializeActorKey (key.map Utf8.encode) := by
  intro key key' h
  have hkeys := congrArg deserializeActorKey h
  rw [deserializeActorKey_serializeActorKey, deserializeActorKey_serializeActorKey] at hkeys
  exact Utf8.encode_injective.list_map hkeys

theorem getByKey_eq_ok {name : Bytes} {key : List Bytes} {actors : List ActorMetadataJSON}
    {handle : ActorHandle} (h : getByKey name key actors = .ok handle) :
    ∃ actor ∈ actors, actor.name = name ∧ actor.key = serializeActorKey key ∧
      handle = newHandle actor := by
  unfold getByKey at h
  split_ifs at h
  dsimp only at h
  split at h
  case h_1 actor hfind =>
    have hfound := List.find?_some hfind
    simp only [decide_eq_true_eq] at hfound
    exact ⟨actor, List.mem_of_find?_eq_some hfind, hfound.1, hfound.2, (Except.ok.inj h).symm⟩
  case h_2 => cases h

/-- A key is read back as it was written, different keys are written differently, and so an actor
that is found under a key has that key and is found under no other. -/
theorem actorKey_roundTrip (key : List String) :
    deserializeActorKey (serializeActorKey (key.map Utf8.encode)) = key.map Utf8.encode ∧
    (∀ key' : List String, key ≠ key' →
      serializeActorKey (key.map Utf8.encode) ≠ serializeActorKey (key'.map Utf8.encode)) ∧
    ∀ name actors handle, getByKey name (key.map Utf8.encode) actors = .ok handle →
      handle.key = key.map Utf8.encode ∧
      ∀ (key' : List String) name' actors', key ≠ key' →
        getByKey name' (key'.map Utf8.encode) actors' ≠ .ok handle := by
  refine ⟨deserializeActorKey_serializeActorKey key, ?_, ?_⟩
  · intro key' hne
    exact serializeActorKey_injective.ne hne
  · intro name actors handle hfound
    obtain ⟨actor, -, -, hkey, rfl⟩ := getByKey_eq_ok hfound
    have hread : (newHandle actor).key = key.map Utf8.encode := by
      rw [newHandle, hkey, deserializeActorKey_serializeActorKey]
    refine ⟨hread, fun key' name' actors' hne hfound' => hne ?_⟩
    obtain ⟨actor', -, -, hkey', hsame⟩ := getByKey_eq_ok hfound'
    have hformatted : actor.key = actor'.key := congrArg ActorHandle.formattedKey hsame
    rw [hkey, hkey'] at hformatted
    exact serializeActorKey_injective hformatted

/-- An actor with a slash in its key. -/
def slashed : ActorMetadataJSON where
  actorId := Utf8.encode "actor-1"
  name := Utf8.encode "counter"
  key := Utf8.encode "a\\/b"

/-- A slash inside a segment and one between two segments, and a segment that looks like the mark
of an empty one. -/
theorem slashes_roundTrip :
    deserializeActorKey (serializeActorKey (["a/b", "", "\\0"].map Utf8.encode)) =
        ["a/b", "", "\\0"].map Utf8.encode ∧
      serializeActorKey (["a/b"].map Utf8.encode) ≠
        serializeActorKey (["a", "b"].map Utf8.encode) ∧
      (newHandle slashed).key = ["a/b"].map Utf8.encode ∧
      getByKey (Utf8.encode "counter") (["a", "b"].map Utf8.encode) [slashed] ≠
        .ok (newHandle slashed) := by
  have hne : ["a/b"] ≠ ["a", "b"] := by decide
  have hfound : getByKey (Utf8.encode "counter") (["a/b"].map Utf8.encode) [slashed] =
      .ok (newHandle slashed) := by
    rw [getByKey, if_neg (by rw [Utf8.blankBytes_encode]; decide)]
    rfl
  obtain ⟨hread, hother⟩ := (actorKey_roundTrip ["a/b"]).2.2 _ _ _ hfound
  exact ⟨(actorKey_roundTrip ["a/b", "", "\\0"]).1, (actorKey_roundTrip ["a/b"]).2.1 _ hne, hread,
    hother _ _ _ hne⟩

end RivetGo.ActorKey
