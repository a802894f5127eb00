import RivetGo.Boundary.Command
import RivetGo.Session.Command

/-!
# Byte strings across the command wire

The methods of a session that take byte slices, with the command that native is
meant to decode: the same kind of command with the same bytes. A queue body, a
message or a chunk arrives whatever its bytes are. The methods for state and
key-value storage copy with `append([]byte(nil), data...)`, which makes nil of
an empty slice, and native does not decode a command whose bytes are nil. The
bytes of such a call arrive exactly when none of them is empty.
-/

namespace RivetGo.Session

open Utf8 (encode)
open Wire (Command pointer slice)
open MessagePack (Value)

/-- A call of a session method that takes byte slices. -/
inductive ByteCall where
  | save (state : Option Bytes)
  | kvGet (key : Option Bytes)
  | kvList (keyPrefix : Option Bytes) (reverse : Bool) (limit : Option UInt32)
  | kvPut (key value : Option Bytes)
  | kvDelete (key : Option Bytes)
  | queueSend (name : String) (body : Option Bytes)
  | queueEnqueueWait (name : String) (body : Option Bytes) (timeout : Option Int64)
  | queueComplete (messageId : UInt64) (response : Option (Option Bytes))
  | sendWebSocket (wsId : { id : String // id ≠ "" }) (data : Option Bytes) (binary : Bool)
  | writeHTTPResponseChunk (reqId : UInt64) (body : Option Bytes) (finish : Bool)

namespace ByteCall

/-- The command that the method builds. -/
def command (actor : Identity) (id : Correlation) : ByteCall → Except String Command
  | .save state => .ok (Session.save actor state)
  | .kvGet key => .ok (Session.kvGet actor id key)
  | .kvList keyPrefix reverse limit => .ok (Session.kvList actor id keyPrefix reverse limit)
  | .kvPut key value => .ok (Session.kvPut actor id key value)
  | .kvDelete key => .ok (Session.kvDelete actor id key)
  | .queueSend name body => .ok (Session.queueSend actor id (encode name) body)
  | .queueEnqueueWait name body timeout =>
    .ok (Session.queueEnqueueWait actor id (encode name) body timeout)
  | .queueComplete messageId response => .ok (Session.queueComplete actor id messageId response)
  | .sendWebSocket wsId data binary => Session.sendWebSocket (encode wsId.1) data binary
  | .writeHTTPResponseChunk reqId body finish => Session.writeHTTPResponseChunk reqId body finish

/-- The command that native is meant to decode: the same kind with exactly the
bytes that were passed. -/
def intended (actor : Identity) (id : Correlation) : ByteCall → Native.Command
  | .save state => .saveState actor.aid actor.generation (content state)
  | .kvGet key => .kvGet id actor.aid actor.generation (content key)
  | .kvList keyPrefix reverse limit =>
    .kvList id actor.aid actor.generation (content keyPrefix) reverse limit
  | .kvPut key value => .kvPut id actor.aid actor.generation (content key) (content value)
  | .kvDelete key => .kvDelete id actor.aid actor.generation (content key)
  | .queueSend name body => .queueSend id actor.aid actor.generation name (content body)
  | .queueEnqueueWait name body timeout =>
    .queueEnqueueWait id actor.aid actor.generation name (content body)
      (timeout.map durationMilliseconds)
  | .queueComplete messageId response =>
    .queueComplete id actor.aid actor.generation messageId (response.map content)
  | .sendWebSocket wsId data binary => .wsSend wsId (content data) binary
  | .writeHTTPResponseChunk reqId body finish => .httpResponseChunk reqId (content body) finish

/-- The byte strings that are passed. -/
def bytes : ByteCall → List Bytes
  | .save state => [content state]
  | .kvGet key => [content key]
  | .kvList keyPrefix _ _ => [content keyPrefix]
  | .kvPut key value => [content key, content value]
  | .kvDelete key => [content key]
  | .queueSend _ body => [content body]
  | .queueEnqueueWait _ body _ => [content body]
  | .queueComplete _ response => response.toList.map content
  | .sendWebSocket _ data _ => [content data]
  | .writeHTTPResponseChunk _ body _ => [content body]

/-- The names that are passed along. -/
def texts : ByteCall → List String
  | .queueSend name _ => [name]
  | .queueEnqueueWait name _ _ => [name]
  | .sendWebSocket wsId _ _ => [wsId.1]
  | _ => []

/-- The methods that copy their slices with `append([]byte(nil), data...)`. -/
def copiesEmptyToNil : ByteCall → Bool
  | .save _ | .kvGet _ | .kvList _ _ _ | .kvPut _ _ | .kvDelete _ => true
  | _ => false

end ByteCall

variable {actor : Identity} {id : Correlation} {call : ByteCall} {cmd : Command}

theorem appendNil_small {data : Option Bytes} {n : Nat} (h : (content data).length < n) :
    ∀ b, appendNil data = some b → b.length < n := by
  intro b hb
  rw [appendNil_eq] at hb
  split_ifs at hb with hempty
  obtain rfl := Option.some.inj hb
  exact h

/-- A small call gives a command, and the command can be encoded. -/
theorem ByteCall.command_fits (haid : actor.aid.utf8ByteSize < 2 ^ 32)
    (hbytes : ∀ b ∈ call.bytes, b.length ≤ 2 ^ 20)
    (htexts : ∀ t ∈ call.texts, t.utf8ByteSize < 2 ^ 32) :
    ∃ cmd, call.command actor id = .ok cmd ∧ cmd.toValue.Fits := by
  have hlt : ∀ b ∈ call.bytes, b.length < 2 ^ 32 := by
    intro b hb
    have hle := hbytes b hb
    omega
  cases call with
  | save state =>
    have hstate := appendNil_small (hlt _ List.mem_cons_self)
    refine ⟨_, rfl, Command.toValue_fits_of_small rfl rfl rfl rfl ?_ ?_⟩
    · simpa [Command.texts, Session.save, Utf8.length_encode] using haid
    · simpa [Command.slices, Session.save] using hstate
  | kvGet key =>
    have hkey := appendNil_small (hlt _ List.mem_cons_self)
    refine ⟨_, rfl, Command.toValue_fits_of_small rfl rfl rfl rfl ?_ ?_⟩
    · simpa [Command.texts, Session.kvGet, Session.kv, Utf8.length_encode] using haid
    · simpa [Command.slices, Session.kvGet, Session.kv] using hkey
  | kvList keyPrefix reverse limit =>
    have hprefix := appendNil_small (hlt _ List.mem_cons_self)
    refine ⟨_, rfl, Command.toValue_fits_of_small rfl rfl rfl rfl ?_ ?_⟩
    · simpa [Command.texts, Session.kvList, Session.kv, Utf8.length_encode] using haid
    · simpa [Command.slices, Session.kvList, Session.kv] using hprefix
  | kvPut key value =>
    have hkey := appendNil_small (hlt _ List.mem_cons_self)
    have hvalue := appendNil_small (hlt _ (List.mem_cons_of_mem _ List.mem_cons_self))
    refine ⟨_, rfl, Command.toValue_fits_of_small rfl rfl rfl rfl ?_ ?_⟩
    · simpa [Command.texts, Session.kvPut, Session.kv, Utf8.length_encode] using haid
    · simpa [Command.slices, Session.kvPut, Session.kv] using ⟨hkey, hvalue⟩
  | kvDelete key =>
    have hkey := appendNil_small (hlt _ List.mem_cons_self)
    refine ⟨_, rfl, Command.toValue_fits_of_small rfl rfl rfl rfl ?_ ?_⟩
    · simpa [Command.texts, Session.kvDelete, Session.kv, Utf8.length_encode] using haid
    · simpa [Command.slices, Session.kvDelete, Session.kv] using hkey
  | queueSend name body =>
    have hname := htexts name List.mem_cons_self
    have hbody := hlt _ List.mem_cons_self
    refine ⟨_, rfl, Command.toValue_fits_of_small rfl rfl rfl rfl ?_ ?_⟩
    · simpa [Command.texts, Session.queueSend, actorOperation, Utf8.length_encode]
        using ⟨haid, hname⟩
    · simpa [Command.slices, Session.queueSend, actorOperation] using hbody
  | queueEnqueueWait name body timeout =>
    have hname := htexts name List.mem_cons_self
    have hbody := hlt _ List.mem_cons_self
    refine ⟨_, rfl, Command.toValue_fits_of_small rfl rfl rfl rfl ?_ ?_⟩
    · simpa [Command.texts, Session.queueEnqueueWait, actorOperation, Utf8.length_encode]
        using ⟨haid, hname⟩
    · simpa [Command.slices, Session.queueEnqueueWait, actorOperation] using hbody
  | queueComplete messageId response =>
    refine ⟨_, rfl, Command.toValue_fits_of_small rfl rfl rfl rfl ?_ ?_⟩
    · simpa [Command.texts, Session.queueComplete, actorOperation, Utf8.length_encode]
        using haid
    · cases response with
      | none => simp [Command.slices, Session.queueComplete, actorOperation]
      | some body =>
        have hbody := hlt _ List.mem_cons_self
        simpa [Command.slices, Session.queueComplete, actorOperation] using hbody
  | sendWebSocket wsId data binary =>
    have hdata := hlt _ List.mem_cons_self
    refine ⟨_, Session.sendWebSocket_eq_ok.mpr ⟨by simpa using wsId.2, ?_, rfl⟩, ?_⟩
    · exact hbytes _ List.mem_cons_self
    · refine Command.toValue_fits_of_small rfl rfl rfl rfl ?_ ?_
      · simpa [Command.texts, Utf8.length_encode, ByteCall.texts] using htexts
      · simpa [Command.slices] using hdata
  | writeHTTPResponseChunk reqId body finish =>
    have hbody := hlt _ List.mem_cons_self
    refine ⟨_, Session.writeHTTPResponseChunk_eq_ok.mpr ⟨?_, rfl⟩, ?_⟩
    · exact hbytes _ List.mem_cons_self
    · refine Command.toValue_fits_of_small rfl rfl rfl rfl ?_ ?_
      · simp [Command.texts]
      · simpa [Command.slices] using hbody

/-- The copy of a slice is what native is meant to get, unless it is empty. -/
theorem appendNil_bind_eq_some {data : Option Bytes} {α : Type} {f : Bytes → α} {a : α} :
    ((appendNil data).bind fun b => some (f b)) = some a ↔
      content data ≠ [] ∧ f (content data) = a := by
  rw [appendNil_eq]
  split_ifs with hempty <;> simp [hempty]

/-- Native decodes the intended command exactly when no slice that the method
copies with `append` is empty. -/
theorem ByteCall.received_iff (hcmd : call.command actor id = .ok cmd) :
    cmd.received = some (call.intended actor id) ↔
      (call.copiesEmptyToNil = true → [] ∉ call.bytes) := by
  cases call with
  | save state =>
    obtain rfl := Except.ok.inj hcmd
    simp [Command.received, Session.save, appendNil_bind_eq_some, intended, bytes,
      copiesEmptyToNil]
  | kvGet key =>
    obtain rfl := Except.ok.inj hcmd
    simp [Command.received, Session.kvGet, kv, appendNil_bind_eq_some, intended, bytes,
      copiesEmptyToNil]
  | kvList keyPrefix reverse limit =>
    obtain rfl := Except.ok.inj hcmd
    simp [Command.received, Session.kvList, kv, appendNil_bind_eq_some, intended, bytes,
      copiesEmptyToNil]
  | kvPut key value =>
    obtain rfl := Except.ok.inj hcmd
    rw [Command.received]
    by_cases hkey : content key = []
    · simp [Session.kvPut, kv, appendNil_eq, hkey, intended, bytes, copiesEmptyToNil]
    · simp [Session.kvPut, kv, appendNil_eq key, hkey, appendNil_bind_eq_some, intended, bytes,
        copiesEmptyToNil]
  | kvDelete key =>
    obtain rfl := Except.ok.inj hcmd
    simp [Command.received, Session.kvDelete, kv, appendNil_bind_eq_some, intended, bytes,
      copiesEmptyToNil]
  | queueSend name body =>
    obtain rfl := Except.ok.inj hcmd
    simp [Command.received, Session.queueSend, actorOperation, intended, copiesEmptyToNil]
  | queueEnqueueWait name body timeout =>
    obtain rfl := Except.ok.inj hcmd
    simp [Command.received, Session.queueEnqueueWait, actorOperation, intended,
      copiesEmptyToNil]
  | queueComplete messageId response =>
    obtain rfl := Except.ok.inj hcmd
    cases response <;>
      simp [Command.received, Session.queueComplete, actorOperation, intended, copiesEmptyToNil]
  | sendWebSocket wsId data binary =>
    obtain ⟨-, -, rfl⟩ := Session.sendWebSocket_eq_ok.mp hcmd
    simp [Command.received, intended, copiesEmptyToNil]
  | writeHTTPResponseChunk reqId body finish =>
    obtain ⟨-, rfl⟩ := Session.writeHTTPResponseChunk_eq_ok.mp hcmd
    simp [Command.received, intended, copiesEmptyToNil]

/-- The bytes that Go encodes for a call of at most a mebibyte decode in native
to the intended command exactly when the call does not pass an empty slice to
one of the methods that make nil of it. -/
theorem byteCall_survives_iff (haid : actor.aid.utf8ByteSize < 2 ^ 32)
    (hbytes : ∀ b ∈ call.bytes, b.length ≤ 2 ^ 20)
    (htexts : ∀ t ∈ call.texts, t.utf8ByteSize < 2 ^ 32) :
    (∃ cmd, call.command actor id = .ok cmd ∧
        Native.decodeCommandBatch (Wire.encodeCommandBatch [cmd]) =
          some [call.intended actor id]) ↔
      (call.copiesEmptyToNil = true → [] ∉ call.bytes) := by
  obtain ⟨cmd, hcmd, hfits⟩ := @ByteCall.command_fits actor id call haid hbytes htexts
  have hbatch : (Wire.batchValue [cmd]).Fits :=
    Wire.batchValue_fits (by simp) (by simpa using hfits)
  have hdecode : Native.decodeCommandBatch (Wire.encodeCommandBatch [cmd]) =
      some [call.intended actor id] ↔ cmd.received = some (call.intended actor id) := by
    rw [decodeCommandBatch_encode hbatch]
    cases hreceived : cmd.received <;> simp [hreceived]
  rw [← ByteCall.received_iff hcmd, ← hdecode]
  constructor
  · rintro ⟨cmd', hcmd', h⟩
    obtain rfl := Except.ok.inj (hcmd.symm.trans hcmd')
    exact h
  · intro h
    exact ⟨cmd, hcmd, h⟩

theorem someActor_aid_ne : "actor" ≠ "" := by decide

/-- An actor for the two cases below. -/
def someActor : Identity := { aid := "actor", generation := 1, aid_ne := someActor_aid_ne }

theorem kvPut_survives :
    ∃ cmd, (ByteCall.kvPut (some [1]) (some [2])).command someActor ⟨7, by decide⟩ = .ok cmd ∧
      Native.decodeCommandBatch (Wire.encodeCommandBatch [cmd]) =
        some [.kvPut 7 "actor" 1 [1] [2]] :=
  (byteCall_survives_iff (by decide) (by decide) (by decide)).mpr (by decide)

/-- Saving an empty state sends a command that native cannot decode. -/
theorem save_empty_not_decoded :
    (ByteCall.save (some [])).command someActor ⟨7, by decide⟩ =
        .ok (Session.save someActor (some [])) ∧
      Native.decodeCommandBatch (Wire.encodeCommandBatch [Session.save someActor (some [])]) =
        none := by
  have hbatch : (Wire.batchValue [Session.save someActor (some [])]).Fits := by
    refine Wire.batchValue_fits (by decide) ?_
    rw [List.forall_mem_singleton]
    refine Command.toValue_fits_of_small rfl rfl rfl rfl ?_ ?_ <;> decide
  refine ⟨rfl, ?_⟩
  rw [decodeCommandBatch_encode hbatch, List.mapM_cons,
    Command.received_eq_none_of_nil_state rfl rfl]
  rfl

end RivetGo.Session
