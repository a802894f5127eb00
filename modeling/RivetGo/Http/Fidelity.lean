import Mathlib
import RivetGo.Http.Writer

/-!
# What a response says

`Draft` is what the calls of a handler commit a response to: the first `Write`, or the
first `WriteHeader` whose status code is valid, fixes the status and the header, and the
body is what all `Write` calls were given. A response that native delivers is the one
that the calls of its handler describe.

The proof looks at a request in two places. `View` is what native makes of a sequence of
commands for one request, whatever else it handles in between. What native has handled
and what is still in the queue give the commands that the writer has sent, and
`Conduct` says what these amount to at each stage of the writer.
-/

namespace RivetGo.Http

variable {s s' : State} {a : Action} {id : Nat} {r : Request} {c : Command}

/-! ### What a handler asks for -/

inductive Draft where
  | pending (header : Header)
  | fixed (status : Nat) (header : Header)
  deriving DecidableEq

namespace Draft

def call : Draft → Call → Draft
  | .pending _, .setHeader header => .pending header
  | .pending header, .writeHeader statusCode =>
    if 100 ≤ statusCode ∧ statusCode ≤ 999 then .fixed statusCode.toNat header
    else .pending header
  | .pending header, .write _ => .fixed 200 header
  | .fixed status header, _ => .fixed status header

def status : Draft → Nat
  | .pending _ => 200
  | .fixed status _ => status

def header : Draft → Header
  | .pending header => header
  | .fixed _ header => header

/-- The draft after the calls of a handler. -/
def ofCalls (calls : List Call) : Draft := calls.foldl call (.pending [])

end Draft

def Call.body : Call → Bytes
  | .write body => body
  | _ => []

/-- All that `Write` was given. -/
def written (calls : List Call) : Bytes := calls.flatMap Call.body

theorem ofCalls_append (calls : List Call) (c : Call) :
    Draft.ofCalls (calls ++ [c]) = (Draft.ofCalls calls).call c := by
  simp [Draft.ofCalls, List.foldl_append]

theorem written_append (calls : List Call) (c : Call) :
    written (calls ++ [c]) = written calls ++ c.body := by
  simp [written]

/-- The response is the one that the calls describe. -/
structure Faithful (calls : List Call) (a : Assembly) : Prop where
  status : a.status = (Draft.ofCalls calls).status
  fields : flattenHeaders (Draft.ofCalls calls).header = .ok a.fields
  body : a.body = written calls
  bounded : a.body.length ≤ maxHTTPResponseBytes
  declared : ∀ n, contentLength (Draft.ofCalls calls).header = .ok (some n) → a.body.length = n

/-! ### What native makes of the commands for a request -/

inductive View where
  | unanswered (assembly : Option Assembly)
  | responded (a : Assembly)
  | failed
  deriving DecidableEq

def View.handle : View → Command → View
  | .unanswered assembly, .start status fields body stream error =>
    if error then .failed
    else if maxHTTPResponseBytes < body.length then .failed
    else if stream then
      match assembly with
      | none => .unanswered (some ⟨status, fields, body⟩)
      | some _ => .failed
    else .responded ⟨status, fields, body⟩
  | .unanswered none, .chunk _ _ => .failed
  | .unanswered (some a), .chunk body finish =>
    if maxHTTPResponseBytes < a.body.length ∨
        maxHTTPResponseBytes - a.body.length < body.length then .failed
    else if finish then .responded { a with body := a.body ++ body }
    else .unanswered (some { a with body := a.body ++ body })
  | v, _ => v

def View.handleAll (v : View) (cs : List Command) : View := cs.foldl View.handle v

theorem handleAll_failed (cs : List Command) : View.failed.handleAll cs = .failed := by
  induction cs with
  | nil => rfl
  | cons c cs ih => exact ih

theorem handleAll_responded (a : Assembly) (cs : List Command) :
    (View.responded a).handleAll cs = .responded a := by
  induction cs with
  | nil => rfl
  | cons c cs ih => exact ih

/-- How a request was resolved, if it was. -/
def Native.resolution (t : Native) (id : Nat) : Option Resolution := t.resolved.lookup id

/-- The state of native for one request. -/
def Native.view (t : Native) (id : Nat) : View :=
  if id ∈ t.correlations then .unanswered (t.responses id)
  else
    match t.resolution id with
    | some (.response a) => .responded a
    | _ => .failed

/-- A request that waits has not been resolved, and none is resolved twice. -/
structure Native.Sound (t : Native) : Prop where
  waiting : ∀ id ∈ t.correlations, id ∉ t.resolved.map Prod.fst
  once : (t.resolved.map Prod.fst).Nodup

section Native

variable {t : Native} {j : Nat}

theorem Native.Sound.resolution_eq_none (h : t.Sound) (hid : id ∈ t.correlations) :
    t.resolution id = none := by
  refine List.lookup_eq_none_iff.mpr fun p hp => ?_
  have hne : id ≠ p.1 := by
    rintro rfl
    exact h.waiting p.1 hid (List.mem_map_of_mem hp)
  simpa using hne

/-- Resolved requests are seen as they were resolved. -/
def Resolution.view : Resolution → View
  | .response a => .responded a
  | .error => .failed

theorem view_resolve_self (h : t.Sound) (hid : id ∈ t.correlations) (r : Resolution) :
    (t.resolve id r).view id = r.view := by
  have hnone : t.resolved.lookup id = none := h.resolution_eq_none hid
  have hgone : id ∉ t.correlations.filter (· ≠ id) := by simp
  rw [Native.resolve, if_pos hid, Native.view, if_neg hgone, Native.resolution, List.lookup_append,
    hnone]
  cases r <;> simp [Resolution.view]

theorem view_resolve_ne (hne : j ≠ id) (r : Resolution) : (t.resolve id r).view j = t.view j := by
  rw [Native.resolve]
  split_ifs
  · have hmem : j ∈ t.correlations.filter (· ≠ id) ↔ j ∈ t.correlations := by simp [hne]
    simp only [Native.view, Native.resolution, hmem, Function.update_of_ne hne,
      List.lookup_append, List.lookup_cons, List.lookup_nil]
    rw [beq_false_of_ne hne]
    simp
  · rfl

theorem sound_resolve (h : t.Sound) (r : Resolution) : (t.resolve id r).Sound := by
  rw [Native.resolve]
  split_ifs with hid
  · refine ⟨fun k hk => ?_, ?_⟩
    · obtain ⟨hk, hne⟩ := List.mem_filter.mp hk
      simp only [List.map_append, List.map_cons, List.map_nil, List.mem_append,
        List.mem_singleton, not_or]
      exact ⟨h.waiting k hk, by simpa using hne⟩
    · simp only [List.map_append, List.map_cons, List.map_nil]
      refine List.nodup_append.mpr ⟨h.once, List.nodup_singleton _, fun x hx y hy => ?_⟩
      obtain rfl := List.mem_singleton.mp hy
      rintro rfl
      exact h.waiting x hid hx
  · exact h

theorem view_responses (hid : id ∈ t.correlations) (x : Option Assembly) :
    ({ t with responses := Function.update t.responses id x } : Native).view id =
      .unanswered x := by
  simp [Native.view, hid]

theorem view_responses_ne (hne : j ≠ id) (x : Option Assembly) :
    ({ t with responses := Function.update t.responses id x } : Native).view j = t.view j := by
  simp [Native.view, Native.resolution, Function.update_of_ne hne]

theorem view_of_waiting (hid : id ∈ t.correlations) : t.view id = .unanswered (t.responses id) :=
  if_pos hid

/-- A request that was resolved stays as it is. -/
theorem handle_of_not_waiting (hid : id ∉ t.correlations) (c : Command) :
    (t.view id).handle c = t.view id := by
  rw [Native.view, if_neg hid]
  split <;> rfl

theorem view_handle_self (h : t.Sound) (c : Command) :
    (t.handle id c).view id = (t.view id).handle c := by
  by_cases hid : id ∈ t.correlations
  · rw [view_of_waiting hid]
    cases c with
    | start status fields body stream error =>
      simp only [Native.handle, Native.startHttpResponse, View.handle, if_neg (not_not.mpr hid)]
      split_ifs
      · exact view_resolve_self h hid _
      · exact view_resolve_self h hid _
      · cases t.responses id with
        | none => exact view_responses hid _
        | some a => exact view_resolve_self h hid _
      · exact view_resolve_self h hid _
    | chunk body finish =>
      simp only [Native.handle, Native.appendHttpResponse, if_neg (not_not.mpr hid)]
      cases t.responses id with
      | none => exact view_resolve_self h hid _
      | some a =>
        simp only [View.handle]
        split_ifs
        · exact view_resolve_self h hid _
        · exact view_resolve_self h hid _
        · exact view_responses hid _
  · rw [handle_of_not_waiting hid]
    cases c <;> simp [Native.handle, Native.startHttpResponse, Native.appendHttpResponse, hid]

/-- A command leaves the tables alone, resolves its request, or goes on with it. -/
theorem handle_cases (t : Native) (id : Nat) (c : Command) :
    t.handle id c = t ∨ (∃ r, t.handle id c = t.resolve id r) ∨
      ∃ x, t.handle id c = { t with responses := Function.update t.responses id x } := by
  cases c with
  | start status fields body stream error =>
    simp only [Native.handle, Native.startHttpResponse]
    by_cases hid : id ∈ t.correlations
    · rw [if_neg (not_not.mpr hid)]
      refine .inr ?_
      cases t.responses id with
      | none =>
        split_ifs
        · exact .inl ⟨_, rfl⟩
        · exact .inl ⟨_, rfl⟩
        · exact .inr ⟨_, rfl⟩
        · exact .inl ⟨_, rfl⟩
      | some a =>
        refine .inl ?_
        split_ifs <;> exact ⟨_, rfl⟩
    · exact .inl (if_pos hid)
  | chunk body finish =>
    simp only [Native.handle, Native.appendHttpResponse]
    by_cases hid : id ∈ t.correlations
    · rw [if_neg (not_not.mpr hid)]
      refine .inr ?_
      cases t.responses id with
      | none => exact .inl ⟨_, rfl⟩
      | some a =>
        dsimp only
        split_ifs
        · exact .inl ⟨_, rfl⟩
        · exact .inl ⟨_, rfl⟩
        · exact .inr ⟨_, rfl⟩
    · exact .inl (if_pos hid)

theorem view_handle_ne (hne : j ≠ id) (c : Command) : (t.handle id c).view j = t.view j := by
  rcases handle_cases t id c with h | ⟨r, h⟩ | ⟨x, h⟩ <;> rw [h]
  · exact view_resolve_ne hne r
  · exact view_responses_ne hne x

theorem sound_handle (h : t.Sound) (c : Command) : (t.handle id c).Sound := by
  rcases handle_cases t id c with he | ⟨r, he⟩ | ⟨x, he⟩ <;> rw [he]
  · exact h
  · exact sound_resolve h r
  · exact ⟨h.waiting, h.once⟩

/-- Native has never heard of the request. -/
structure Native.Unknown (t : Native) (id : Nat) : Prop where
  correlations : id ∉ t.correlations
  resolved : id ∉ t.resolved.map Prod.fst
  responses : t.responses id = none

theorem unknown_resolve (h : t.Unknown j) (id : Nat) (r : Resolution) :
    (t.resolve id r).Unknown j := by
  rw [Native.resolve]
  split_ifs with hid
  · have hne : j ≠ id := by
      rintro rfl
      exact h.correlations hid
    refine ⟨fun hj => h.correlations (List.mem_filter.mp hj).1, ?_, ?_⟩
    · simpa [hne] using h.resolved
    · simpa [hne] using h.responses
  · exact h

theorem unknown_handle (h : t.Unknown j) (hne : j ≠ id) (c : Command) :
    (t.handle id c).Unknown j := by
  rcases handle_cases t id c with he | ⟨r, he⟩ | ⟨x, he⟩ <;> rw [he]
  · exact h
  · exact unknown_resolve h id r
  · exact ⟨h.correlations, h.resolved, by simpa [hne] using h.responses⟩

end Native

/-! ### What the writer has sent -/

/-- The start of the response has been submitted, or is being submitted. -/
structure Begun (r : Request) (status : Nat) (fields : Fields) : Prop where
  started : r.writer.started = true
  err : r.writer.err = none
  status : status = (Draft.ofCalls r.calls).status
  fields : flattenHeaders (Draft.ofCalls r.calls).header = .ok fields
  length : contentLength (Draft.ofCalls r.calls).header = .ok r.writer.length

/-- No later call changes the status or the header. -/
def Fixed (r : Request) : Prop := ∃ status header, Draft.ofCalls r.calls = .fixed status header

def Next.Fits (r : Request) : Next → Prop
  | .leave => Fixed r ∧ written r.calls = []
  | .write body => Fixed r ∧ written r.calls = body
  | .finish => written r.calls = []

/-- The writer will send nothing but an error. -/
def Quiet (r : Request) : Prop :=
  r.stage = .idle ∧ r.writer.err ≠ none ∨ r.stage = .failing ∨ r.stage = .done

/-- The `Write` under way, if there is one, has `rest` left. -/
def Stage.Left (stage : Stage) (left : Bytes) : Prop :=
  stage = .idle ∧ left = [] ∨ ∃ body rest, stage = .chunk body rest ∧ left = body ++ rest

/-- What native makes of all that was sent for the request. -/
inductive Phase (r : Request) : View → Prop where
  | fresh : r.writer = { header := r.writer.header } → r.stage = .idle →
      Draft.ofCalls r.calls = .pending r.writer.header → written r.calls = [] →
      Phase r (.unanswered none)
  | starting {status : Nat} {fields : Fields} {next : Next} : Begun r status fields →
      r.stage = .start status fields next → r.writer.finished = false → r.writer.written = 0 →
      next.Fits r → Phase r (.unanswered none)
  | streaming {a : Assembly} {left : Bytes} : Begun r a.status a.fields → Fixed r →
      r.writer.finished = false → r.writer.written = a.body.length → r.stage.Left left →
      written r.calls = a.body ++ left → (written r.calls).length ≤ maxHTTPResponseBytes →
      Phase r (.unanswered (some a))
  | finishing {a : Assembly} : r.stage = .finishing → Faithful r.calls a →
      Phase r (.unanswered (some a))
  | complete {a : Assembly} : r.stage = .failing ∨ r.stage = .done → Faithful r.calls a →
      Phase r (.responded a)
  | broken {assembly : Option Assembly} : Quiet r → Phase r (.unanswered assembly)
  | lost : Phase r .failed

theorem quiet_write {body : Bytes} (h : r.writer.err ≠ none) : Quiet (r.write body) := by
  rw [Request.write, if_pos (.inr h)]
  exact .inl ⟨rfl, h⟩

theorem quiet_finish (h : r.writer.err ≠ none) : Quiet r.finish := by
  rw [Request.finish, if_pos h]
  exact .inr (.inl rfl)

theorem quiet_goOn (h : r.writer.err ≠ none) (next : Next) : Quiet (r.goOn next) := by
  cases next with
  | leave => exact .inl ⟨rfl, h⟩
  | write body => exact quiet_write h
  | finish => exact quiet_finish h

theorem quiet_writeHeaderLocked (h : r.writer.err ≠ none) (status : Nat) (next : Next) :
    Quiet (r.writeHeaderLocked status next) := by
  rw [Request.writeHeaderLocked, if_pos (.inr (.inr h))]
  exact quiet_goOn h next

theorem quiet_call (hidle : r.stage = .idle) (h : r.writer.err ≠ none) (c : Call) :
    Quiet (r.call c) := by
  cases c with
  | setHeader header => exact .inl ⟨hidle, h⟩
  | writeHeader statusCode =>
    rw [Request.call]
    split_ifs
    · exact quiet_writeHeaderLocked h _ _
    · exact .inl ⟨hidle, h⟩
  | write body =>
    rw [Request.call]
    split_ifs
    · exact quiet_write h
    · exact quiet_writeHeaderLocked h _ _

theorem quiet_returns (h : r.writer.err ≠ none) : Quiet r.returns := by
  rw [Request.returns]
  split_ifs
  · exact quiet_finish h
  · exact quiet_writeHeaderLocked h _ _

/-! ### The stages of a response -/

theorem phase_writeChunks {w : Assembly} {body : Bytes} (hbegun : Begun r w.status w.fields)
    (hfixed : Fixed r) (hopen : r.writer.finished = false)
    (hwritten : r.writer.written = w.body.length) (hall : written r.calls = w.body ++ body)
    (hbound : (written r.calls).length ≤ maxHTTPResponseBytes) :
    Phase (r.writeChunks body) (.unanswered (some w)) := by
  have hbegun' : ∀ stage, Begun { r with stage := stage } w.status w.fields := fun _ =>
    ⟨hbegun.started, hbegun.err, hbegun.status, hbegun.fields, hbegun.length⟩
  rw [Request.writeChunks]
  split_ifs with hempty
  · exact .streaming (hbegun' _) hfixed hopen hwritten (.inl ⟨rfl, rfl⟩) (hempty ▸ hall) hbound
  · refine .streaming (hbegun' _) hfixed hopen hwritten (.inr ⟨_, _, rfl, rfl⟩) ?_ hbound
    rw [List.take_append_drop]
    exact hall

/-- `Write` in a response that has started. -/
theorem phase_write {w : Assembly} {body : Bytes} (hbegun : Begun r w.status w.fields)
    (hfixed : Fixed r) (hopen : r.writer.finished = false)
    (hwritten : r.writer.written = w.body.length) (hall : written r.calls = w.body ++ body)
    (hbound : w.body.length ≤ maxHTTPResponseBytes) :
    Phase (r.write body) (.unanswered (some w)) := by
  rw [Request.write, if_neg (by simp [hopen, hbegun.err])]
  split_ifs with hlength hsize
  · exact .broken (.inl ⟨rfl, by simp [Request.fail]⟩)
  · exact .broken (.inl ⟨rfl, by simp [Request.fail]⟩)
  · refine phase_writeChunks hbegun hfixed hopen hwritten hall ?_
    rw [hall, List.length_append]
    omega

/-- `finish` in a response that has started. -/
theorem phase_finish {w : Assembly} (hbegun : Begun r w.status w.fields)
    (hwritten : r.writer.written = w.body.length) (hall : written r.calls = w.body)
    (hbound : w.body.length ≤ maxHTTPResponseBytes) :
    Phase r.finish (.unanswered (some w)) := by
  rw [Request.finish, if_neg (by simp [hbegun.err])]
  split_ifs with hlength
  · exact .broken (.inr (.inl rfl))
  · refine .finishing rfl ⟨hbegun.status, hbegun.fields, hall.symm, hbound, fun n hn => ?_⟩
    have hsome : r.writer.length = some n := Except.ok.inj (hbegun.length.symm.trans hn)
    by_contra hne
    exact hlength ⟨n, hsome, by rwa [hwritten]⟩

theorem quiet_refuse (e : Failure) (next : Next) : Quiet (r.refuse e next) :=
  quiet_goOn (by simp) next

/-- The first `WriteHeader`, `Write` or `finish`. -/
theorem phase_writeHeaderLocked {status : Nat} {next : Next}
    (hfresh : r.writer = { header := r.writer.header })
    (hstatus : status = (Draft.ofCalls r.calls).status)
    (hheader : (Draft.ofCalls r.calls).header = r.writer.header)
    (hnext : ∀ w : Writer, ∀ stage, next.Fits { r with writer := w, stage := stage }) :
    Phase (r.writeHeaderLocked status next) (.unanswered none) := by
  have hstarted : r.writer.started = false := by rw [hfresh]
  have hfinished : r.writer.finished = false := by rw [hfresh]
  have herr : r.writer.err = none := by rw [hfresh]
  have hwritten : r.writer.written = 0 := by rw [hfresh]
  rw [Request.writeHeaderLocked, if_neg (by simp [hstarted, hfinished, herr])]
  cases hfields : flattenHeaders r.writer.header with
  | error e => exact .broken (quiet_refuse e next)
  | ok fields =>
    cases hlength : contentLength r.writer.header with
    | error e => exact .broken (quiet_refuse e next)
    | ok length =>
      refine .starting ⟨rfl, herr, hstatus, ?_, ?_⟩ rfl hfinished hwritten (hnext _ _)
      · exact (congrArg flattenHeaders hheader).trans hfields
      · exact (congrArg contentLength hheader).trans hlength

theorem Begun.append {status : Nat} {fields : Fields} (h : Begun r status fields)
    (hfixed : Fixed r) (c : Call) :
    Begun { r with calls := r.calls ++ [c] } status fields := by
  obtain ⟨fixed, header, hdraft⟩ := hfixed
  have hsame : Draft.ofCalls (r.calls ++ [c]) = Draft.ofCalls r.calls := by
    rw [ofCalls_append, hdraft]
    rfl
  refine ⟨h.started, h.err, ?_, ?_, ?_⟩
  · exact h.status.trans (by rw [hsame])
  · rw [hsame]
    exact h.fields
  · rw [hsame]
    exact h.length

theorem Fixed.append (h : Fixed r) (c : Call) : Fixed { r with calls := r.calls ++ [c] } := by
  obtain ⟨fixed, header, hdraft⟩ := h
  refine ⟨fixed, header, ?_⟩
  rw [ofCalls_append, hdraft]
  rfl

/-- A call of a handler whose response has not started. -/
theorem phase_call_fresh (hfresh : r.writer = { header := r.writer.header })
    (hidle : r.stage = .idle) (hdraft : Draft.ofCalls r.calls = .pending r.writer.header)
    (hempty : written r.calls = []) (c : Call) :
    Phase ({ r with calls := r.calls ++ [c] }.call c) (.unanswered none) := by
  have hdraft' := ofCalls_append r.calls c
  have hempty' := written_append r.calls c
  rw [hdraft] at hdraft'
  rw [hempty, List.nil_append] at hempty'
  cases c with
  | setHeader header =>
    refine .fresh ?_ hidle hdraft' hempty'
    simp only [Request.call]
    rw [hfresh]
  | writeHeader statusCode =>
    by_cases hvalid : 100 ≤ statusCode ∧ statusCode ≤ 999
    · simp only [Draft.call, if_pos hvalid] at hdraft'
      rw [Request.call, if_pos hvalid]
      refine phase_writeHeaderLocked hfresh ?_ ?_ fun _ _ => ⟨⟨_, _, hdraft'⟩, hempty'⟩
      · rw [hdraft']
        rfl
      · rw [hdraft']
        rfl
    · simp only [Draft.call, if_neg hvalid] at hdraft'
      rw [Request.call, if_neg hvalid]
      exact .fresh hfresh hidle hdraft' hempty'
  | write body =>
    have hstarted : r.writer.started = false := by rw [hfresh]
    rw [Request.call, if_neg (by simp [hstarted])]
    refine phase_writeHeaderLocked hfresh ?_ ?_ fun _ _ => ⟨⟨_, _, hdraft'⟩, hempty'⟩
    · rw [hdraft']
      rfl
    · rw [hdraft']
      rfl

theorem left_of_idle {stage : Stage} {left : Bytes} (h : stage.Left left) (hidle : stage = .idle) :
    left = [] := by
  rcases h with ⟨-, hleft⟩ | ⟨body, rest, hchunk, -⟩
  · exact hleft
  · rw [hidle] at hchunk
    cases hchunk

/-- The response has started and no `Write` is under way. -/
theorem phase_idle {w : Assembly} (hbegun : Begun r w.status w.fields) (hfixed : Fixed r)
    (hopen : r.writer.finished = false) (hwritten : r.writer.written = w.body.length)
    (hidle : r.stage = .idle) (hall : written r.calls = w.body)
    (hbound : w.body.length ≤ maxHTTPResponseBytes) : Phase r (.unanswered (some w)) := by
  have hleft : r.stage.Left [] := .inl ⟨hidle, rfl⟩
  exact .streaming hbegun hfixed hopen hwritten hleft (by simpa using hall) (hall ▸ hbound)

/-- A call of a handler whose response has started. -/
theorem phase_call_streaming {w : Assembly} (hbegun : Begun r w.status w.fields)
    (hfixed : Fixed r) (hopen : r.writer.finished = false)
    (hwritten : r.writer.written = w.body.length) (hidle : r.stage = .idle)
    (hall : written r.calls = w.body) (hbound : w.body.length ≤ maxHTTPResponseBytes) (c : Call) :
    Phase ({ r with calls := r.calls ++ [c] }.call c) (.unanswered (some w)) := by
  have hbegun' := hbegun.append hfixed c
  have hfixed' := hfixed.append c
  have hall' := written_append r.calls c
  rw [hall] at hall'
  cases c with
  | setHeader header =>
    have hall' : written (r.calls ++ [.setHeader header]) = w.body := by
      simpa [Call.body] using hall'
    refine phase_idle ?_ hfixed' hopen hwritten hidle hall' hbound
    exact ⟨hbegun'.started, hbegun'.err, hbegun'.status, hbegun'.fields, hbegun'.length⟩
  | writeHeader statusCode =>
    have hall' : written (r.calls ++ [.writeHeader statusCode]) = w.body := by
      simpa [Call.body] using hall'
    rw [Request.call]
    split_ifs with hvalid
    · rw [Request.writeHeaderLocked, if_pos (.inl hbegun.started)]
      refine phase_idle ?_ hfixed' hopen hwritten rfl hall' hbound
      exact ⟨hbegun'.started, hbegun'.err, hbegun'.status, hbegun'.fields, hbegun'.length⟩
    · exact phase_idle hbegun' hfixed' hopen hwritten hidle hall' hbound
  | write body =>
    rw [Request.call, if_pos hbegun.started]
    exact phase_write hbegun' hfixed' hopen hwritten hall' hbound

/-! ### A step of a request -/

theorem phase_call {v : View} (h : Phase r v) (hidle : r.stage = .idle) (c : Call) :
    Phase ({ r with calls := r.calls ++ [c] }.call c) v := by
  cases h with
  | fresh hfresh _ hdraft hempty => exact phase_call_fresh hfresh hidle hdraft hempty c
  | starting _ hstage => exact absurd (hidle.symm.trans hstage) (by simp)
  | streaming hbegun hfixed hopen hwritten hleft hall hbound =>
    obtain rfl := left_of_idle hleft hidle
    rw [List.append_nil] at hall
    exact phase_call_streaming hbegun hfixed hopen hwritten hidle hall (hall ▸ hbound) c
  | finishing hstage => exact absurd (hidle.symm.trans hstage) (by simp)
  | complete hstage => rcases hstage with hstage | hstage <;> simp [hidle] at hstage
  | broken hquiet =>
    rcases hquiet with ⟨-, herr⟩ | hstage | hstage
    · exact .broken (quiet_call (r := { r with calls := r.calls ++ [c] }) hidle herr c)
    · exact absurd (hidle.symm.trans hstage) (by simp)
    · exact absurd (hidle.symm.trans hstage) (by simp)
  | lost => exact .lost

theorem phase_returns {v : View} (h : Phase r v) (hidle : r.stage = .idle) :
    Phase r.returns v := by
  cases h with
  | fresh hfresh _ hdraft hempty =>
    have hstarted : r.writer.started = false := by rw [hfresh]
    rw [Request.returns, if_neg (by simp [hstarted])]
    refine phase_writeHeaderLocked hfresh ?_ ?_ fun _ _ => hempty
    · rw [hdraft]
      rfl
    · rw [hdraft]
      rfl
  | starting _ hstage => exact absurd (hidle.symm.trans hstage) (by simp)
  | streaming hbegun hfixed hopen hwritten hleft hall hbound =>
    obtain rfl := left_of_idle hleft hidle
    rw [List.append_nil] at hall
    rw [Request.returns, if_pos hbegun.started]
    exact phase_finish hbegun hwritten hall (hall ▸ hbound)
  | finishing hstage => exact absurd (hidle.symm.trans hstage) (by simp)
  | complete hstage => rcases hstage with hstage | hstage <;> simp [hidle] at hstage
  | broken hquiet =>
    rcases hquiet with ⟨-, herr⟩ | hstage | hstage
    · exact .broken (quiet_returns herr)
    · exact absurd (hidle.symm.trans hstage) (by simp)
    · exact absurd (hidle.symm.trans hstage) (by simp)
  | lost => exact .lost

theorem phase_fails {v : View} (h : Phase r v) (hidle : r.stage = .idle) :
    Phase { r with stage := .failing } v := by
  cases h with
  | complete hstage => rcases hstage with hstage | hstage <;> simp [hidle] at hstage
  | lost => exact .lost
  | fresh => exact .broken (.inr (.inl rfl))
  | starting => exact .broken (.inr (.inl rfl))
  | streaming => exact .broken (.inr (.inl rfl))
  | finishing => exact .broken (.inr (.inl rfl))
  | broken => exact .broken (.inr (.inl rfl))

/-- Nothing but an error is left to be sent, and no response has been sent. -/
theorem phase_of_quiet {v : View} (h : Quiet r) (hv : ∀ w, v ≠ .responded w) : Phase r v := by
  cases v with
  | unanswered assembly => exact .broken h
  | responded w => exact absurd rfl (hv w)
  | failed => exact .lost

theorem goOn_starting {status : Nat} {fields : Fields} {next : Next}
    (hbegun : Begun r status fields) (hopen : r.writer.finished = false)
    (hwritten : r.writer.written = 0) (hnext : next.Fits r) :
    Phase (r.goOn next) (.unanswered (some ⟨status, fields, []⟩)) := by
  cases next with
  | leave =>
    exact phase_idle (w := ⟨status, fields, []⟩)
      ⟨hbegun.started, hbegun.err, hbegun.status, hbegun.fields, hbegun.length⟩ hnext.1 hopen
      hwritten rfl hnext.2 (Nat.zero_le _)
  | write body =>
    exact phase_write (w := ⟨status, fields, []⟩) hbegun hnext.1 hopen hwritten hnext.2
      (Nat.zero_le _)
  | finish => exact phase_finish (w := ⟨status, fields, []⟩) hbegun hwritten hnext (Nat.zero_le _)

/-- The requests after the two ends of a submission, and what native makes of it. -/
structure Submitted (v : View) (c : Command) (accepted failed : Request) : Prop where
  accepted : Phase accepted (v.handle c)
  delivered : Phase failed (v.handle c)
  dropped : Phase failed v

theorem submitted_starting {status : Nat} {fields : Fields} {next : Next}
    (hbegun : Begun r status fields) (hopen : r.writer.finished = false)
    (hwritten : r.writer.written = 0) (hnext : next.Fits r) :
    Submitted (.unanswered none) (.start status fields [] true false) (r.goOn next)
      ({ r with writer := { r.writer with err := some .submission } }.goOn next) := by
  have hview : (View.unanswered none).handle (.start status fields [] true false) =
      .unanswered (some ⟨status, fields, []⟩) := by simp [View.handle]
  have hquiet : Quiet ({ r with writer := { r.writer with err := some .submission } }.goOn next) :=
    quiet_goOn (by simp) next
  refine ⟨?_, ?_, .broken hquiet⟩ <;> rw [hview]
  · exact goOn_starting hbegun hopen hwritten hnext
  · exact .broken hquiet

theorem submitted_chunk {w : Assembly} {body rest : Bytes} (hbegun : Begun r w.status w.fields)
    (hfixed : Fixed r) (hopen : r.writer.finished = false)
    (hwritten : r.writer.written = w.body.length)
    (hall : written r.calls = w.body ++ (body ++ rest))
    (hbound : (written r.calls).length ≤ maxHTTPResponseBytes) :
    Submitted (.unanswered (some w)) (.chunk body false)
      ({ r with
        writer := { r.writer with written := r.writer.written + body.length } }.writeChunks rest)
      { r with writer := { r.writer with err := some .submission }, stage := .idle } := by
  have hquiet : Quiet { r with
      writer := { r.writer with err := some .submission }, stage := .idle } :=
    .inl ⟨rfl, by simp⟩
  have hsize := hbound
  rw [hall, List.length_append, List.length_append] at hsize
  have hview : (View.unanswered (some w)).handle (.chunk body false) =
      .unanswered (some { w with body := w.body ++ body }) := by
    rw [View.handle, if_neg (by omega)]
    rfl
  refine ⟨?_, ?_, .broken hquiet⟩ <;> rw [hview]
  · refine phase_writeChunks ⟨hbegun.started, hbegun.err, hbegun.status, hbegun.fields,
      hbegun.length⟩ hfixed hopen ?_ ?_ hbound
    · rw [List.length_append, hwritten]
    · rw [List.append_assoc]
      exact hall
  · exact .broken hquiet

theorem submitted_finishing {w : Assembly} (hw : Faithful r.calls w) :
    Submitted (.unanswered (some w)) (.chunk [] true) { r with stage := .done }
      { r with writer := { r.writer with err := some .submission }, stage := .failing } := by
  have hsize := hw.bounded
  have hview : (View.unanswered (some w)).handle (.chunk [] true) = .responded w := by
    rw [View.handle, if_neg (by simp; omega), if_pos rfl, List.append_nil]
  refine ⟨?_, ?_, .broken (.inr (.inl rfl))⟩ <;> rw [hview]
  · exact .complete (.inr rfl) hw
  · exact .complete (.inl rfl) hw

/-- Native answers an error with a failure, unless it has answered already. -/
theorem submitted_failing {v : View} (h : Phase r v) :
    Submitted v (.start 0 [] [] false true) { r with stage := .done }
      { r with stage := .done } := by
  have hdone : Quiet { r with stage := .done } := .inr (.inr rfl)
  have hdone' : Phase { r with stage := .done } v := by
    cases h with
    | complete _ hw => exact .complete (.inr rfl) hw
    | _ => exact phase_of_quiet hdone (by simp)
  have hview : Phase { r with stage := .done } (v.handle (.start 0 [] [] false true)) := by
    cases h with
    | complete _ hw => exact .complete (.inr rfl) hw
    | _ => exact .lost
  exact ⟨hview, hview, hdone'⟩

theorem submission_of_idle (h : r.stage = .idle) : r.submission = none := by
  simp [Request.submission, h]

theorem submission_of_done (h : r.stage = .done) : r.submission = none := by
  simp [Request.submission, h]

theorem phase_submitted {v : View} {accepted failed : Request} (h : Phase r v)
    (hsub : r.submission = some (c, accepted, failed)) : Submitted v c accepted failed := by
  have hfailing : r.stage = .failing → Submitted v c accepted failed := fun hstage => by
    obtain ⟨rfl, rfl, rfl⟩ : _ = c ∧ _ = accepted ∧ _ = failed := by
      simpa [Request.submission, hstage] using hsub
    exact submitted_failing h
  have hidle : r.stage ≠ .idle := fun hstage =>
    absurd ((submission_of_idle hstage).symm.trans hsub) (by simp)
  have hdone : r.stage ≠ .done := fun hstage =>
    absurd ((submission_of_done hstage).symm.trans hsub) (by simp)
  cases h with
  | fresh _ hstage => exact absurd hstage hidle
  | starting hbegun hstage hopen hwritten hnext =>
    obtain ⟨rfl, rfl, rfl⟩ : _ = c ∧ _ = accepted ∧ _ = failed := by
      simpa [Request.submission, hstage] using hsub
    exact submitted_starting hbegun hopen hwritten hnext
  | streaming hbegun hfixed hopen hwritten hleft hall hbound =>
    rcases hleft with ⟨hstage, -⟩ | ⟨body, rest, hstage, rfl⟩
    · exact absurd hstage hidle
    · obtain ⟨rfl, rfl, rfl⟩ : _ = c ∧ _ = accepted ∧ _ = failed := by
        simpa [Request.submission, hstage] using hsub
      exact submitted_chunk hbegun hfixed hopen hwritten hall hbound
  | finishing hstage hw =>
    obtain ⟨rfl, rfl, rfl⟩ : _ = c ∧ _ = accepted ∧ _ = failed := by
      simpa [Request.submission, hstage] using hsub
    exact submitted_finishing hw
  | complete hstage hw =>
    rcases hstage with hstage | hstage
    · exact hfailing hstage
    · exact absurd hstage hdone
  | broken hquiet =>
    rcases hquiet with ⟨hstage, -⟩ | hstage | hstage
    · exact absurd hstage hidle
    · exact hfailing hstage
    · exact absurd hstage hdone
  | lost => exact ⟨.lost, .lost, .lost⟩

/-! ### A step of the system -/

/-- The commands for a request that are in the queue. -/
def commands (queue : List (Nat × Command)) (id : Nat) : List Command :=
  queue.filterMap fun p => if p.1 = id then some p.2 else none

/-- What native will make of the request when the queue is empty. -/
def State.outlook (s : State) (id : Nat) : View :=
  (s.native.view id).handleAll (commands s.queue id)

structure Sound (s : State) : Prop where
  native : s.native.Sound
  unknown : ∀ id, s.requests id = none → s.native.Unknown id ∧ commands s.queue id = []
  phase : ∀ id r, s.requests id = some r → Phase r (s.outlook id)

theorem sound_initial : Sound initial where
  native := ⟨by simp [initial], by simp [initial]⟩
  unknown id _ := ⟨⟨by simp [initial], by simp [initial], rfl⟩, rfl⟩
  phase id r h := by simp [initial] at h

theorem commands_push_self (queue : List (Nat × Command)) (id : Nat) (c : Command) :
    commands (queue ++ [(id, c)]) id = commands queue id ++ [c] := by
  simp [commands]

theorem commands_push_ne (queue : List (Nat × Command)) {id j : Nat} (hne : j ≠ id) (c : Command) :
    commands (queue ++ [(id, c)]) j = commands queue j := by
  simp [commands, Ne.symm hne]

theorem handleAll_push (v : View) (cs : List Command) (c : Command) :
    v.handleAll (cs ++ [c]) = (v.handleAll cs).handle c := by
  simp [View.handleAll]

/-- A request goes on by itself. -/
theorem Sound.setRequest {r' : Request} (h : Sound s) (hr : s.requests id = some r)
    (hphase : Phase r' (s.outlook id)) : Sound (s.setRequest id r') where
  native := h.native
  unknown j hj := by
    refine h.unknown j ?_
    by_cases hne : j = id
    · subst hne
      simp [State.setRequest] at hj
    · simpa [State.setRequest, hne] using hj
  phase j x hj := by
    by_cases hne : j = id
    · subst hne
      obtain rfl : r' = x := by simpa [State.setRequest] using hj
      exact hphase
    · exact h.phase j x (by simpa [State.setRequest, hne] using hj)

theorem outlook_push_self (s : State) (id : Nat) (c : Command) :
    (s.push id c true).outlook id = (s.outlook id).handle c := by
  simp only [State.push, if_true, State.outlook, commands_push_self, handleAll_push]

theorem sound_request (h : Sound s) (hid : s.requests id = none) :
    Sound { s.setRequest id {} with
      native := { s.native with correlations := id :: s.native.correlations } } := by
  obtain ⟨hunknown, hqueue⟩ := h.unknown id hid
  refine ⟨⟨?_, h.native.once⟩, fun j hj => ?_, fun j x hj => ?_⟩
  · intro k hk
    rcases List.mem_cons.mp hk with rfl | hk
    · exact hunknown.resolved
    · exact h.native.waiting k hk
  · have hne : j ≠ id := by
      rintro rfl
      simp [State.setRequest] at hj
    obtain ⟨hj, hcommands⟩ := h.unknown j (by simpa [State.setRequest, hne] using hj)
    refine ⟨⟨?_, hj.resolved, hj.responses⟩, hcommands⟩
    simpa [hne] using hj.correlations
  · by_cases hne : j = id
    · subst hne
      obtain rfl : {} = x := by simpa [State.setRequest] using hj
      have hview : State.outlook { s.setRequest j {} with
          native := { s.native with correlations := j :: s.native.correlations } } j =
            .unanswered none := by
        simp [State.outlook, State.setRequest, hqueue, View.handleAll, Native.view,
          hunknown.responses]
      rw [hview]
      exact .fresh rfl rfl rfl rfl
    · have hx := h.phase j x (by simpa [State.setRequest, hne] using hj)
      have hview : State.outlook { s.setRequest id {} with
          native := { s.native with correlations := id :: s.native.correlations } } j =
            s.outlook j := by
        simp [State.outlook, State.setRequest, Native.view, Native.resolution, hne]
      rw [hview]
      exact hx

/-- A command of a request enters the queue. -/
theorem sound_push {r' : Request} (h : Sound s) (hr : s.requests id = some r)
    (hphase : Phase r' ((s.outlook id).handle c)) :
    Sound ((s.push id c true).setRequest id r') where
  native := h.native
  unknown j hj := by
    have hne : j ≠ id := by
      rintro rfl
      simp [State.setRequest] at hj
    obtain ⟨hunknown, hqueue⟩ := h.unknown j (by simpa [State.setRequest, State.push, hne] using hj)
    refine ⟨hunknown, ?_⟩
    exact (commands_push_ne s.queue hne c).trans hqueue
  phase j x hj := by
    by_cases hne : j = id
    · subst hne
      obtain rfl : r' = x := by simpa [State.setRequest] using hj
      exact (outlook_push_self s j c).symm ▸ hphase
    · have hx := h.phase j x (by simpa [State.setRequest, State.push, hne] using hj)
      have hview : ((s.push id c true).setRequest id r').outlook j = s.outlook j :=
        congrArg (s.native.view j).handleAll (commands_push_ne s.queue hne c)
      rw [hview]
      exact hx

theorem sound_submitted {accepted failed : Request} (h : Sound s) (hr : s.requests id = some r)
    (hsub : r.submission = some (c, accepted, failed)) :
    Sound ((s.push id c true).setRequest id accepted) ∧
      ∀ delivered, Sound ((s.push id c delivered).setRequest id failed) := by
  have hphase := phase_submitted (h.phase id r hr) hsub
  refine ⟨sound_push h hr hphase.accepted, fun delivered => ?_⟩
  cases delivered with
  | true => exact sound_push h hr hphase.delivered
  | false => exact h.setRequest hr hphase.dropped

theorem sound_dispatch {queue : List (Nat × Command)} (h : Sound s)
    (hqueue : s.queue = (id, c) :: queue) :
    Sound { s with queue := queue, native := s.native.handle id c } where
  native := sound_handle h.native c
  unknown j hj := by
    obtain ⟨hunknown, hcommands⟩ := h.unknown j hj
    have hne : j ≠ id := by
      rintro rfl
      simp [hqueue, commands] at hcommands
    refine ⟨unknown_handle hunknown hne c, ?_⟩
    simpa [hqueue, commands, Ne.symm hne] using hcommands
  phase j x hj := by
    have hview : State.outlook { s with queue := queue, native := s.native.handle id c } j =
        s.outlook j := by
      by_cases hne : j = id
      · subst hne
        simp [State.outlook, hqueue, commands, view_handle_self h.native, View.handleAll]
      · simp [State.outlook, hqueue, commands, view_handle_ne hne, Ne.symm hne]
    rw [hview]
    exact h.phase j x hj

theorem sound_expire (h : Sound s) :
    Sound { s with native := s.native.resolve id .error } where
  native := sound_resolve h.native _
  unknown j hj := ⟨unknown_resolve (h.unknown j hj).1 id _, (h.unknown j hj).2⟩
  phase j x hj := by
    by_cases hne : j = id
    · subst hne
      by_cases hwaiting : j ∈ s.native.correlations
      · have hview : State.outlook { s with native := s.native.resolve j .error } j = .failed := by
          rw [State.outlook, view_resolve_self h.native hwaiting]
          exact handleAll_failed _
        rw [hview]
        exact .lost
      · have hsame : s.native.resolve j .error = s.native := if_neg hwaiting
        have hview : State.outlook { s with native := s.native.resolve j .error } j =
            s.outlook j := by rw [State.outlook, hsame, State.outlook]
        rw [hview]
        exact h.phase j x hj
    · have hview : State.outlook { s with native := s.native.resolve id .error } j =
          s.outlook j := by rw [State.outlook, view_resolve_ne hne, State.outlook]
      rw [hview]
      exact h.phase j x hj

theorem sound_step : Run.Keeps step Run.anyAction Sound := by
  intro s a s' h _ hs
  cases a with
  | request id =>
    obtain ⟨hid, rfl⟩ := Run.guard_eq_some.mp hs
    exact sound_request h hid
  | call id c =>
    obtain ⟨r, hr, hs⟩ := Option.bind_eq_some_iff.mp hs
    obtain ⟨hidle, rfl⟩ := Run.guard_eq_some.mp hs
    exact h.setRequest hr (phase_call (h.phase id r hr) hidle c)
  | returns id =>
    obtain ⟨r, hr, hs⟩ := Option.bind_eq_some_iff.mp hs
    obtain ⟨hidle, rfl⟩ := Run.guard_eq_some.mp hs
    exact h.setRequest hr (phase_returns (h.phase id r hr) hidle)
  | fails id =>
    obtain ⟨r, hr, hs⟩ := Option.bind_eq_some_iff.mp hs
    obtain ⟨hidle, rfl⟩ := Run.guard_eq_some.mp hs
    exact h.setRequest hr (phase_fails (h.phase id r hr) hidle)
  | backpressure id =>
    obtain ⟨r, hr, hs⟩ := Option.bind_eq_some_iff.mp hs
    obtain ⟨-, rfl⟩ := Run.guard_eq_some.mp hs
    exact h
  | submitted id o =>
    obtain ⟨r, hr, hs⟩ := Option.bind_eq_some_iff.mp hs
    obtain ⟨⟨c, accepted, failed⟩, hsub, hs⟩ := Option.bind_eq_some_iff.mp hs
    obtain ⟨haccepted, hfailed⟩ := sound_submitted h hr hsub
    cases o with
    | accepted =>
      obtain rfl := Option.some.inj hs
      exact haccepted
    | failed delivered =>
      obtain rfl := Option.some.inj hs
      exact hfailed delivered
  | dispatch =>
    simp only [step] at hs
    split at hs
    case h_1 => cases hs
    case h_2 hqueue =>
      obtain rfl := Option.some.inj hs
      exact sound_dispatch h hqueue
  | expire id =>
    obtain rfl := Option.some.inj hs
    exact sound_expire h

/-! ### What native delivers -/

theorem lookup_of_mem {l : List (Nat × Resolution)} {x : Resolution}
    (h : (l.map Prod.fst).Nodup) (hmem : (id, x) ∈ l) : l.lookup id = some x := by
  obtain ⟨l₁, l₂, rfl⟩ := List.mem_iff_append.mp hmem
  refine List.lookup_eq_some_iff.mpr ⟨l₁, l₂, rfl, fun p hp => ?_⟩
  have hne : id ≠ p.1 := by
    rintro rfl
    rw [List.map_append, List.map_cons] at h
    exact (List.nodup_append.mp h).2.2 p.1 (List.mem_map_of_mem hp) p.1 List.mem_cons_self rfl
  simpa using hne

theorem outlook_of_response {w : Assembly} (h : Sound s)
    (hw : (id, Resolution.response w) ∈ s.native.resolved) : s.outlook id = .responded w := by
  have hgone : id ∉ s.native.correlations := fun hid =>
    h.native.waiting id hid (List.mem_map_of_mem hw)
  have hview : s.native.view id = .responded w := by
    rw [Native.view, if_neg hgone, Native.resolution, lookup_of_mem h.native.once hw]
  rw [State.outlook, hview]
  exact handleAll_responded w _

/-- A request is resolved at most once; and if it is resolved with a response, its
handler has returned, the response has the status and the header that the first `Write`
or valid `WriteHeader` has fixed, and its body is all that `Write` was given. -/
theorem response_fidelity (h : Reaches s) (id : Nat) :
    (s.native.resolved.map Prod.fst).count id ≤ 1 ∧
      ∀ w, (id, Resolution.response w) ∈ s.native.resolved →
        ∃ r, s.requests id = some r ∧ (r.stage = .failing ∨ r.stage = .done) ∧
          Faithful r.calls w := by
  have hsound : Sound s := h.invariant sound_initial sound_step
  refine ⟨List.nodup_iff_count_le_one.mp hsound.native.once id, fun w hw => ?_⟩
  cases hr : s.requests id with
  | none => exact absurd (List.mem_map_of_mem hw) (hsound.unknown id hr).1.resolved
  | some r =>
    have hphase := hsound.phase id r hr
    rw [outlook_of_response hsound hw] at hphase
    cases hphase with
    | complete hstage hfaithful => exact ⟨r, rfl, hstage, hfaithful⟩

/-- A handler writes in two pieces, and the first submission meets backpressure. -/
def twoWrites : List Action :=
  [.request 1, .call 1 (.writeHeader 404), .backpressure 1, .submitted 1 .accepted,
    .call 1 (.write [1, 2]), .submitted 1 .accepted, .dispatch, .call 1 (.write [3]),
    .submitted 1 .accepted, .returns 1, .submitted 1 .accepted, .dispatch, .dispatch, .dispatch]

theorem twoWrites_faithful : ∃ s, Run.run step initial twoWrites = some s ∧
    s.native.resolved = [(1, .response ⟨404, [], [1, 2, 3]⟩)] ∧
    ∃ r, s.requests 1 = some r ∧ (r.stage = .failing ∨ r.stage = .done) ∧
      Faithful r.calls ⟨404, [], [1, 2, 3]⟩ := by
  refine ⟨_, rfl, rfl, (response_fidelity
    (Run.reachable_of_run twoWrites (rfl : Run.run step initial twoWrites = some _)) 1).2 _ ?_⟩
  exact List.mem_singleton.mpr rfl

/-- The status code of the first `WriteHeader`, or 200. -/
def firstStatus (calls : List Call) : Int :=
  (calls.findSome? fun c =>
    match c with
    | .writeHeader statusCode => some statusCode
    | _ => none).getD 200

/-- A handler writes before it sets the status: `Write` has set it to 200. -/
def writeFirst : List Action :=
  [.request 1, .call 1 (.write [1]), .submitted 1 .accepted, .submitted 1 .accepted,
    .call 1 (.writeHeader 404), .returns 1, .submitted 1 .accepted, .dispatch, .dispatch, .dispatch]

theorem writeFirst_status : ∃ s r, Run.run step initial writeFirst = some s ∧
    s.requests 1 = some r ∧ s.native.resolved = [(1, .response ⟨200, [], [1]⟩)] ∧
    firstStatus r.calls = 404 :=
  ⟨_, _, rfl, rfl, rfl, rfl⟩

end RivetGo.Http
