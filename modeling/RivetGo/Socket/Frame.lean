import Mathlib
import RivetGo.Data.MessagePack.Header

/-!
# Writing frames to the Actor Runtime Socket

A frame is the length of its payload in four bytes and the payload. A `Write` may take a part of
what it is given, also when it fails. Calls write one at a time. One whose write has failed closes
the client, but another may write before that.
-/

namespace RivetGo.SocketFrame

open MessagePack (bigEndian)

def frame (payload : Bytes) : Bytes := bigEndian 4 payload.length ++ payload

/-- What a call of `Write` comes to. -/
structure Written where
  count : Nat
  failed : Bool

/-- What gets on the wire, and whether the error is nil. The connection is closed after its last
answer. -/
def writeAll : Bytes → List Written → Bytes × Bool
  | [], _ => ([], true)
  | _ :: _, [] => ([], false)
  | b :: data, w :: answers =>
    let written := (b :: data).take w.count
    if w.failed ∨ w.count = 0 then (written, false)
    else (writeAll ((b :: data).drop w.count) answers).map (written ++ ·) id

/-- A call of `writeFrame` that gets to write. `cleared` if it can clear the deadline. -/
structure Call where
  payload : Bytes
  header : List Written
  body : List Written
  cleared : Bool

def writeFrame (c : Call) : Bytes × Bool :=
  if 2 ^ 32 ≤ c.payload.length then ([], false)
  else
    let header := writeAll (bigEndian 4 c.payload.length) c.header
    if header.2 then (writeAll c.payload c.body).map (header.1 ++ ·) (· && c.cleared)
    else header

/-- The write returns nil. -/
def Call.ok (c : Call) : Bool := (writeFrame c).2

/-- The bytes that the peer gets. -/
def wire (calls : List Call) : Bytes := calls.flatMap fun c => (writeFrame c).1

theorem writeAll_bytes (data : Bytes) (answers : List Written) :
    (writeAll data answers).1 <+: data ∧
      ((writeAll data answers).2 = true → (writeAll data answers).1 = data) := by
  fun_induction writeAll data answers with
  | case1 => exact ⟨List.prefix_rfl, fun _ => rfl⟩
  | case2 => exact ⟨by simp, nofun⟩
  | case3 b data w => exact ⟨⟨_, List.take_append_drop w.count (b :: data)⟩, nofun⟩
  | case4 b data w answers written _ ih =>
    have hsplit := List.take_append_drop w.count (b :: data)
    obtain ⟨rest, hrest⟩ := ih.1
    refine ⟨⟨rest, ?_⟩, fun h => by rw [Prod.map_fst, ih.2 h, hsplit]⟩
    rw [Prod.map_fst, List.append_assoc, hrest, hsplit]

theorem writeFrame_bytes (c : Call) : (writeFrame c).1 <+: frame c.payload ∧
    (c.ok = true → (writeFrame c).1 = frame c.payload) := by
  obtain ⟨hheader, hheader'⟩ := writeAll_bytes (bigEndian 4 c.payload.length) c.header
  obtain ⟨hbody, hbody'⟩ := writeAll_bytes c.payload c.body
  simp only [Call.ok, writeFrame]
  split_ifs with hlarge hok
  · exact ⟨by simp, nofun⟩
  · rw [hheader' hok]
    refine ⟨(List.prefix_append_right_inj _).mpr hbody, fun h => ?_⟩
    rw [Prod.map_fst, hbody' (Bool.and_eq_true_iff.mp h).1, frame]
  · exact ⟨hheader.trans (List.prefix_append _ _), (absurd · hok)⟩

/-- Up to the first write that fails the peer gets the frames in the order of the calls, and of the
one that fails at most a part. -/
theorem wire_framed (calls : List Call) :
    let whole := calls.takeWhile Call.ok
    let torn := (calls.dropWhile Call.ok).take 1
    ∃ t, wire (whole ++ torn) = whole.flatMap (fun c => frame c.payload) ++ t ∧
      t <+: torn.flatMap fun c => frame c.payload := by
  intro whole torn
  have hwhole : wire whole = whole.flatMap fun c => frame c.payload :=
    List.flatMap_congr fun c hc => (writeFrame_bytes c).2 (List.mem_takeWhile_imp hc)
  refine ⟨wire torn, by rw [wire, List.flatMap_append, ← wire, hwhole, ← wire], ?_⟩
  cases hrest : calls.dropWhile Call.ok with
  | nil => simp [torn, hrest, wire]
  | cons c rest => simpa [torn, hrest, wire] using (writeFrame_bytes c).1

/-- A write after a failed one: the peer gets a frame with the length and the first bytes of the
failed payload, filled up with the other frame. -/
theorem torn_frame_filled {c d : Call} {k : Nat} (hk : (writeFrame c).1.length = 4 + k)
    (hok : d.ok = true) (hfill : c.payload.length ≤ k + (frame d.payload).length)
    (calls : List Call) :
    ∃ rest, wire (calls ++ [c, d]) = wire calls ++
      (frame (c.payload.take k ++ (frame d.payload).take (c.payload.length - k)) ++ rest) := by
  have htorn : (writeFrame c).1 = bigEndian 4 c.payload.length ++ c.payload.take k := by
    rw [List.prefix_iff_eq_take.mp (writeFrame_bytes c).1, hk, frame]
    simp [List.take_append, List.take_of_length_le]
  have hsize : (c.payload.take k ++ (frame d.payload).take (c.payload.length - k)).length =
      c.payload.length := by
    rw [List.length_append, List.length_take, List.length_take]
    omega
  refine ⟨(frame d.payload).drop (c.payload.length - k), ?_⟩
  rw [frame.eq_1 (_ ++ _), hsize]
  simp [wire, htorn, (writeFrame_bytes d).2 hok]

theorem torn_frame_filled_once : ∃ rest : Bytes,
    [0, 0, 0, 2, 8, 0, 0, 0, 1, 7] = frame [8, 0] ++ rest :=
  torn_frame_filled (c := ⟨[8, 9], [⟨4, false⟩], [⟨1, true⟩], true⟩)
    (d := ⟨[7], [⟨4, false⟩], [⟨1, false⟩], true⟩) (k := 1) rfl rfl (by decide) []

end RivetGo.SocketFrame
