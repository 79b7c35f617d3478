/-
  The runs of the operations on streams.

  * `receive_cases`: a read ends with the first answer that is no interruption;
  * `send_run` and `flush_run`: a send or a flush is one of the schedule, whose writer is the socket;
  * `Worked` says what every operation that writes or registers keeps: what the socket takes, followed
    by what is scheduled then (or by what the socket was to take when it failed), is what was
    scheduled before, followed by what was sent;
  * `Delivers`, `Announces`, `Starts` and `Flushes` are the operations in the sequences in which
    handlers use them.
-/
import SocksProxy.Proofs.Offers
import SocksProxy.Proofs.Transcript

namespace SocksProxy

open Dialogue

namespace Verb

variable {v : Verb} {role : Role} {s t : Socket}

/-- Work on a stream: sending, and changes of how it is watched. -/
def IsWorkOn (s : Socket) (v : Verb) : Prop :=
  v = .send s ∨ v = .register s

theorem IsWorkOn.receives (h : v.IsWorkOn s) : v.receives role = false := by
  rcases h with rfl | rfl <;> rfl

theorem IsWorkOn.sends (h : v.IsWorkOn s) (hr : s.role ≠ role) : v.sends role = false := by
  rcases h with rfl | rfl
  · simp [Verb.sends, hr]
  · rfl

theorem IsWorkOn.registers (h : v.IsWorkOn s) (hs : s ≠ t) : v.registers t = false := by
  rcases h with rfl | rfl
  · rfl
  · simp [Verb.registers, hs]

end Verb

namespace Stream

variable {turns : Nat} {s s' : Stream} {data : Bytes} {es : Transcript}

theorem hasPending_eq_false : s.hasPending = false ↔ s.outbound.pending = [] := by
  simp [hasPending, Schedule.isEmpty]

theorem hasPending_eq_true : s.hasPending = true ↔ s.outbound.pending ≠ [] := by
  simp [hasPending, Schedule.isEmpty]

/-! ## Reading -/

/-- Reads that found nothing and had no end to report. -/
structure Fruitless (socket : Socket) (es : Transcript) : Prop where
  receives : Transcript.All (· = .receive socket) es
  read : ∀ role, Transcript.read role es = []
  sawEnd : ∀ role, Transcript.sawEnd role es = false

theorem Fruitless.cons {socket : Socket} {max : Nat} {e : IoError} (h : Fruitless socket es) :
    Fruitless socket (⟨.receive socket max, .error e⟩ :: es) where
  receives := h.receives.cons rfl
  read := h.read
  sawEnd := h.sawEnd

theorem fruitless_nil {socket : Socket} : Fruitless socket [] :=
  ⟨Transcript.all_nil, fun _ => rfl, fun _ => rfl⟩

theorem retry_receive_cases {socket : Socket} {max : Nat}
    {r : Except IoError (Option (Chunk max))}
    (h : Run (Talk.retry (call (I := SessionNet) (.receive socket max)) turns) es r) :
    ∃ (es₀ : Transcript) (a : Except IoError (Chunk max)),
      es = es₀ ++ [⟨.receive socket max, a⟩] ∧ Fruitless socket es₀ ∧
      r = match a with
        | .ok b => .ok (some b)
        | .error e => if e.isWouldBlock then .ok none else .error e := by
  induction turns generalizing es with
  | zero => exact absurd h not_run_stuck
  | succ turns ih =>
    simp only [Talk.retry] at h
    obtain ⟨es₁, es₂, a, rfl, h₁, h₂⟩ := run_monad_bind_iff.1 h
    obtain rfl := run_call_iff.1 h₁
    cases a with
    | ok b =>
      obtain ⟨rfl, rfl⟩ := run_pure_iff.1 h₂
      exact ⟨[], .ok b, rfl, fruitless_nil, rfl⟩
    | error e =>
      simp only at h₂
      by_cases hw : e.isWouldBlock = true
      · simp only [hw, if_true] at h₂
        obtain ⟨rfl, rfl⟩ := run_pure_iff.1 h₂
        exact ⟨[], .error e, rfl, fruitless_nil, by simp [hw]⟩
      · simp only [hw] at h₂
        by_cases hi : e.isInterrupted = true
        · simp only [hi, if_true] at h₂
          obtain ⟨es₀, a, rfl, hf, rfl⟩ := ih h₂
          exact ⟨⟨.receive socket max, .error e⟩ :: es₀, a, rfl, hf.cons, rfl⟩
        · simp only [hi] at h₂
          obtain ⟨rfl, rfl⟩ := run_pure_iff.1 h₂
          exact ⟨[], .error e, rfl, fruitless_nil, by simp [hw]⟩

/-- What the answer to a read says. -/
def found : Except IoError (Chunk bufferSize) → Except IoError Received
  | .ok b => .ok (if b.val = [] then .closed else .data b.val)
  | .error e => if e.isWouldBlock then .ok .wouldBlock else .error e

/-- A read ends with the first answer that is no interruption. -/
theorem receive_cases {r : Except IoError Received} (h : Run (s.receive turns) es r) :
    ∃ (es₀ : Transcript) (a : Except IoError (Chunk bufferSize)),
      es = es₀ ++ [⟨.receive s.socket bufferSize, a⟩] ∧ Fruitless s.socket es₀ ∧ r = found a := by
  simp only [receive] at h
  obtain ⟨es₁, es₂, x, rfl, h₁, h₂⟩ := run_monad_bind_iff.1 h
  obtain ⟨es₀, a, rfl, hf, rfl⟩ := retry_receive_cases h₁
  have heq : es₂ = [] ∧ r = found a := by
    rcases a with e | ⟨_ | ⟨b, bs⟩, hb⟩
    · by_cases hw : e.isWouldBlock = true
      · simp only [hw, if_true] at h₂
        simpa [found, hw] using run_pure_iff.1 h₂
      · simp only [hw] at h₂
        simpa [found, hw] using run_pure_iff.1 h₂
    · exact run_pure_iff.1 h₂
    · exact run_pure_iff.1 h₂
  obtain ⟨rfl, rfl⟩ := heq
  exact ⟨es₀, a, List.append_nil _, hf, rfl⟩

theorem receive_all {r : Except IoError Received} (h : Run (s.receive turns) es r) :
    Transcript.All (· = .receive s.socket) es := by
  obtain ⟨es₀, a, rfl, hf, -⟩ := receive_cases h
  exact hf.receives.append (Transcript.all_singleton rfl)

/-- Reading sends nothing, and reads from one stream only. -/
theorem receive_mute {role : Role} {r : Except IoError Received} (h : Run (s.receive turns) es r) :
    Transcript.Mute role es :=
  (receive_all h).imp fun v hv => by rw [hv]; rfl

theorem receive_deaf (role : Role) {r : Except IoError Received} (h : Run (s.receive turns) es r)
    (hr : s.socket.role ≠ role) : Transcript.Deaf role es :=
  (receive_all h).imp fun v hv => by rw [hv]; simp [Verb.receives, hr]

theorem receive_data {b : Bytes} (h : Run (s.receive turns) es (.ok (.data b))) :
    b ≠ [] ∧ b.length ≤ bufferSize ∧ (∀ role, Transcript.sawEnd role es = false) ∧
      ∀ role, Transcript.read role es = if s.socket.role = role then b else [] := by
  obtain ⟨es₀, a, rfl, hf, hr⟩ := receive_cases h
  rcases a with e | ⟨c, hc⟩
  · simp only [found] at hr
    split at hr <;> simp at hr
  · by_cases hn : c = []
    · simp [found, hn] at hr
    · simp only [found, hn, if_false, Except.ok.injEq, Received.data.injEq] at hr
      subst hr
      refine ⟨hn, hc, fun role => ?_, fun role => ?_⟩
      · rw [Transcript.sawEnd_append, hf.sawEnd, Transcript.sawEnd_cons]
        simp [SessionEvent.isEnd, hn]
      · rw [Transcript.read_append, hf.read, Transcript.read_cons]
        simp [SessionEvent.read]

theorem receive_wouldBlock (h : Run (s.receive turns) es (.ok .wouldBlock)) :
    (∀ role, Transcript.read role es = []) ∧ (∀ role, Transcript.sawEnd role es = false) ∧
      Transcript.dry s.socket es = true := by
  obtain ⟨es₀, a, rfl, hf, hr⟩ := receive_cases h
  rcases a with e | ⟨c, hc⟩
  · by_cases hw : e.isWouldBlock = true
    · refine ⟨fun role => ?_, fun role => ?_, ?_⟩
      · rw [Transcript.read_append, hf.read]; rfl
      · rw [Transcript.sawEnd_append, hf.sawEnd]; rfl
      · rw [Transcript.dry_append]
        simp [Transcript.dry, SessionEvent.isDry, hw]
    · simp [found, hw] at hr
  · simp only [found, Except.ok.injEq] at hr
    split at hr <;> simp at hr

theorem receive_closed (h : Run (s.receive turns) es (.ok .closed)) :
    (∀ role, Transcript.read role es = []) ∧
      ∀ role, Transcript.sawEnd role es = decide (s.socket.role = role) := by
  obtain ⟨es₀, a, rfl, hf, hr⟩ := receive_cases h
  rcases a with e | ⟨c, hc⟩
  · simp only [found] at hr
    split at hr <;> simp at hr
  · by_cases hn : c = []
    · subst hn
      refine ⟨fun role => ?_, fun role => ?_⟩
      · rw [Transcript.read_append, hf.read, Transcript.read_cons]
        simp [SessionEvent.read]
      · rw [Transcript.sawEnd_append, hf.sawEnd, Transcript.sawEnd_cons]
        simp [SessionEvent.isEnd]
    · simp [found, hn] at hr

theorem receive_error {e : IoError} (h : Run (s.receive turns) es (.error e)) :
    (∀ role, Transcript.read role es = []) ∧ ∀ role, Transcript.sawEnd role es = false := by
  obtain ⟨es₀, a, rfl, hf, hr⟩ := receive_cases h
  rcases a with e | ⟨c, hc⟩
  · refine ⟨fun role => ?_, fun role => ?_⟩
    · rw [Transcript.read_append, hf.read]; rfl
    · rw [Transcript.sawEnd_append, hf.sawEnd]; rfl
  · simp [found] at hr

theorem receive_empty {x : Except IoError Received} (h : Run (s.receive turns) es x)
    (hx : ∀ b, x ≠ .ok (.data b)) (role : Role) : Transcript.read role es = [] := by
  rcases x with e | b | _ | _
  · exact (receive_error h).1 role
  · exact absurd rfl (hx b)
  · exact (receive_wouldBlock h).1 role
  · exact (receive_closed h).1 role

/-! ## Writing -/

/-- What was done to offer bytes to a socket: the socket has taken a part of them, and the rest is left,
    or was to be taken when the socket failed. -/
structure Offered (socket : Socket) (data : Bytes) (es : Transcript) (r : Except IoError Bytes) :
    Prop where
  calls : Transcript.All (· = .send socket) es
  asked : Transcript.Asked socket.role data es
  result : ∃ rest, Transcript.taken socket.role es ++ rest = data ∧
    (r = .ok rest ∧ Transcript.failed socket.role es = none ∨
      (∃ e, r = .error e) ∧ Transcript.failed socket.role es = some rest)

section
variable {socket : Socket} {rest : Bytes} {a : SessionCall.Answer (.send socket data)}
  {r : Except IoError Bytes}

theorem offered_nil : Offered socket data [] (.ok data) :=
  ⟨Transcript.all_nil, Transcript.mute_nil.asked, data, rfl, .inl ⟨rfl, rfl⟩⟩

theorem Offered.cons (h : Offered socket rest es r)
    (ht : SessionEvent.taken socket.role ⟨.send socket data, a⟩ ++ rest = data)
    (hf : SessionEvent.failed socket.role ⟨.send socket data, a⟩ = none) :
    Offered socket data (⟨.send socket data, a⟩ :: es) r := by
  refine ⟨h.calls.cons rfl, h.asked.cons ht, ?_⟩
  obtain ⟨left, hl, hr⟩ := h.result
  refine ⟨left, ?_, ?_⟩
  · rw [Transcript.taken_cons, List.append_assoc, hl, ht]
  · rw [Transcript.failed_cons, hf, Option.none_or]
    exact hr

theorem offered_failed {e : IoError}
    (ht : SessionEvent.taken socket.role ⟨.send socket data, a⟩ = [])
    (hf : SessionEvent.failed socket.role ⟨.send socket data, a⟩ = some data) :
    Offered socket data [⟨.send socket data, a⟩] (.error e) := by
  have hnil : Transcript.Asked socket.role data [] := Transcript.mute_nil.asked
  refine ⟨Transcript.all_singleton rfl, hnil.cons (by rw [ht]; rfl), data, ?_, .inr ⟨⟨e, rfl⟩, ?_⟩⟩
  · rw [Transcript.taken_cons, ht]
    rfl
  · rw [Transcript.failed_cons, hf]
    rfl

end

theorem offered_of_offers (socket : Socket) {ws : List Writer.Event} {r : Except IoError Bytes}
    (h : Schedule.Offers data ws r) :
    Offered socket data (ws.map (SessionEvent.onStream socket)) r := by
  induction h with
  | done => exact offered_nil
  | took hn _ ih =>
    exact ih.cons (by simp [SessionEvent.taken]) (by simp [SessionEvent.failed, hn])
  | full _ hw => exact offered_nil.cons rfl (by simp [SessionEvent.failed, hw])
  | interrupted hw hi _ ih => exact ih.cons rfl (by simp [SessionEvent.failed, hi])
  | refused hn =>
    exact offered_failed (by simp [SessionEvent.taken, hn]) (by simp [SessionEvent.failed, hn])
  | failed hw hi => exact offered_failed rfl (by simp [SessionEvent.failed, hw, hi])

/-! ## Work on a stream -/

/-- What writing and registering keep. -/
structure Worked {α : Type} (s : Stream) (data : Bytes) (es : Transcript) (r : Except IoError α)
    (s' : Stream) : Prop where
  calls : Transcript.All (Verb.IsWorkOn s.socket) es
  socket : s'.socket = s.socket
  /-- No byte is lost, doubled or moved. -/
  conserved : Transcript.taken s.socket.role es ++
    (Transcript.failed s.socket.role es).getD s'.outbound.pending = s.outbound.pending ++ data
  complete : ∀ a, r = .ok a → Transcript.failed s.socket.role es = none
  asked : Transcript.Asked s.socket.role (s.outbound.pending ++ data) es
  /-- The stream knows the interest that it is registered with. -/
  watched : Transcript.interest s.socket (some s.interest) es = some s'.interest
  /-- No more is scheduled than was scheduled and sent. -/
  sized : s'.outbound.size ≤ s.outbound.size + data.length

theorem Worked.deaf {α : Type} {role : Role} {r : Except IoError α} (h : Worked s data es r s') :
    Transcript.Deaf role es :=
  h.calls.imp fun _ hv => hv.receives

theorem Worked.mute {α : Type} {role : Role} {r : Except IoError α} (h : Worked s data es r s')
    (hr : s.socket.role ≠ role) : Transcript.Mute role es :=
  h.calls.imp fun _ hv => hv.sends hr

theorem Worked.trans {α β : Type} {s₁ s₂ : Stream} {es₁ es₂ : Transcript} {a : α}
    {r : Except IoError β} (h₁ : Worked s data es₁ (.ok a) s₁) (h₂ : Worked s₁ [] es₂ r s₂) :
    Worked s data (es₁ ++ es₂) r s₂ := by
  have hs := h₁.socket
  have hf := h₁.complete a rfl
  have hc := h₁.conserved
  have hc₂ := h₂.conserved
  have ha₂ := h₂.asked
  rw [hf, Option.getD_none] at hc
  rw [hs, List.append_nil] at hc₂ ha₂
  refine ⟨h₁.calls.append (hs ▸ h₂.calls), h₂.socket.trans hs, ?_, fun b hb => ?_,
    h₁.asked.append ha₂ hc, ?_, Nat.le_trans h₂.sized h₁.sized⟩
  · rw [Transcript.taken_append, Transcript.failed_append, hf, Option.none_or, List.append_assoc,
      hc₂, hc]
  · rw [Transcript.failed_append, hf, Option.none_or, ← hs]
    exact h₂.complete b hb
  · rw [Transcript.interest_append, h₁.watched, ← hs]
    exact h₂.watched

/-- The result can be told in another way. -/
theorem Worked.result {α β : Type} {r : Except IoError α} {q : Except IoError β}
    (h : Worked s data es r s') (hq : ∀ b, q = .ok b → ∃ a, r = .ok a) : Worked s data es q s' := by
  refine ⟨h.calls, h.socket, h.conserved, fun b hb => ?_, h.asked, h.watched, h.sized⟩
  obtain ⟨a, ha⟩ := hq b hb
  exact h.complete a ha

/-- An operation that only sends does not change the interest. -/
theorem watched_of_sends (h : Transcript.All (· = .send s.socket) es) :
    Transcript.interest s.socket (some s.interest) es = some s.interest :=
  Transcript.interest_of_all (h.imp fun v hv => by rw [hv]; rfl)

theorem mute_of_registers {socket : Socket} {role : Role}
    (h : Transcript.All (· = .register socket) es) : Transcript.Mute role es :=
  h.imp fun v hv => by rw [hv]; rfl

/-- An operation that sends nothing leaves everything scheduled. -/
theorem worked_of_registers {α : Type} {r : Except IoError α}
    (h : Transcript.All (· = .register s.socket) es) (hs : s'.socket = s.socket)
    (ho : s'.outbound.pending = s.outbound.pending ++ data)
    (hi : Transcript.interest s.socket (some s.interest) es = some s'.interest) :
    Worked s data es r s' where
  calls := h.imp fun v hv => .inr hv
  socket := hs
  conserved := by
    rw [(mute_of_registers h).taken, (mute_of_registers h).failed, Option.getD_none, ho]
    rfl
  complete _ _ := (mute_of_registers h).failed
  asked := (mute_of_registers h).asked
  watched := hi
  sized := by rw [Schedule.size, ho, List.length_append]; exact Nat.le_refl _

/-! ## Sending and flushing -/

/-- What writes to the schedule of a stream writes to its socket. -/
theorem outbound_run {p : Dialogue Writer (Except IoError Flush × Schedule)}
    {r : Except IoError Flush}
    (h : Run (do
      let (r, outbound) ← p.via (sendRoute s.socket)
      return (r, { s with outbound })) es (r, s')) :
    ∃ ws outbound, es = ws.map (SessionEvent.onStream s.socket) ∧ s' = { s with outbound } ∧
      Run p ws (r, outbound) := by
  obtain ⟨es₁, es₂, ⟨q, outbound⟩, rfl, h₁, h₂⟩ := run_monad_bind_iff.1 h
  obtain ⟨rfl, heq⟩ := run_pure_iff.1 h₂
  cases heq
  obtain ⟨ws, hws, rfl⟩ := run_via_send h₁
  exact ⟨ws, outbound, List.append_nil _, rfl, hws⟩

theorem send_run {r : Except IoError Flush} (h : Run (s.send turns data) es (r, s')) :
    ∃ ws outbound, es = ws.map (SessionEvent.onStream s.socket) ∧ s' = { s with outbound } ∧
      Run (s.outbound.send turns data) ws (r, outbound) :=
  outbound_run h

theorem flush_run {r : Except IoError Flush} (h : Run (s.flush turns) es (r, s')) :
    ∃ ws outbound, es = ws.map (SessionEvent.onStream s.socket) ∧ s' = { s with outbound } ∧
      Run (s.outbound.flush turns) ws (r, outbound) :=
  outbound_run h

/-- An offer of everything that there is to write is work on the stream. -/
theorem worked_of_leaves {outbound : Schedule} {ws : List Writer.Event} {r : Except IoError Flush}
    (h : s.outbound.Leaves (s.outbound.pending ++ data) ws r outbound) :
    Worked s data (ws.map (SessionEvent.onStream s.socket)) r { s with outbound } := by
  cases h with
  | @offered left h =>
    have hoffered := offered_of_offers s.socket h
    obtain ⟨rest, ht, ⟨⟨⟩, hf⟩ | ⟨⟨e, he⟩, -⟩⟩ := hoffered.result
    · refine ⟨hoffered.calls.imp fun _ => .inl, rfl, ?_, fun _ _ => hf, hoffered.asked,
        watched_of_sends hoffered.calls, ?_⟩
      · rw [hf, Option.getD_none]
        exact ht
      · have hlength := congrArg List.length ht
        rw [List.length_append, List.length_append] at hlength
        change left.length ≤ s.outbound.pending.length + data.length
        omega
    · cases he
  | failed h =>
    have hoffered := offered_of_offers s.socket h
    obtain ⟨rest, ht, ⟨he, -⟩ | ⟨-, hf⟩⟩ := hoffered.result
    · cases he
    · refine ⟨hoffered.calls.imp fun _ => .inl, rfl, ?_, nofun, hoffered.asked,
        watched_of_sends hoffered.calls, Nat.le_add_right _ _⟩
      rw [hf, Option.getD_some]
      exact ht

theorem hasPending_of_pending (h : Flush.pending = .drained ↔ s.hasPending = false) :
    s.hasPending = true := by
  cases hp : s.hasPending with
  | true => rfl
  | false => nomatch h.2 hp

/-- A send or a flush says whether its offer has left anything. -/
theorem drained_iff_of_leaves {outbound : Schedule} {ws : List Writer.Event} {f : Flush}
    (h : s.outbound.Leaves data ws (.ok f) outbound) :
    f = .drained ↔ hasPending { s with outbound } = false := by
  cases h with
  | offered => rw [Schedule.outcome_eq_drained, hasPending_eq_false]

/-- What is sent behind scheduled bytes is scheduled; else it is offered. -/
theorem send_cases {r : Except IoError Flush} (h : Run (s.send turns data) es (r, s')) :
    Worked s data es r s' ∧ s'.interest = s.interest ∧
      (∀ f, r = .ok f → (f = .drained ↔ s'.hasPending = false)) ∧
      (s.hasPending = true → s'.hasPending = true) := by
  obtain ⟨ws, outbound, rfl, rfl, hrun⟩ := send_run h
  rcases Schedule.send_run hrun with ⟨hempty, hleaves⟩ | ⟨hpending, rfl, rfl, rfl⟩
  · refine ⟨worked_of_leaves (by rwa [hempty, List.nil_append]), rfl, ?_, fun hp => ?_⟩
    · rintro f rfl
      exact drained_iff_of_leaves hleaves
    · exact absurd hempty (hasPending_eq_true.1 hp)
  · have hp : hasPending { s with outbound := s.outbound.push data } = true :=
      hasPending_eq_true.2 (List.append_ne_nil_of_left_ne_nil hpending _)
    refine ⟨worked_of_registers Transcript.all_nil rfl rfl rfl, rfl, ?_, fun _ => hp⟩
    rintro f ⟨⟩
    rw [hp]
    exact iff_of_false nofun nofun

theorem flush_cases {r : Except IoError Flush} (h : Run (s.flush turns) es (r, s')) :
    Worked s [] es r s' ∧ s'.interest = s.interest ∧
      (∀ f, r = .ok f → (f = .drained ↔ s'.hasPending = false)) := by
  obtain ⟨ws, outbound, rfl, rfl, hrun⟩ := flush_run h
  have hleaves := Schedule.flush_run hrun
  refine ⟨worked_of_leaves (by rwa [List.append_nil]), rfl, ?_⟩
  rintro f rfl
  exact drained_iff_of_leaves hleaves

/-! ## Changing the interest -/

/-- The stream is registered with the interest that fits its schedule. -/
def Fits (s : Stream) : Prop :=
  s.interest = s.fitting

theorem fitting_of_hasPending_eq (h : s'.hasPending = s.hasPending) : s'.fitting = s.fitting := by
  rw [fitting, fitting, h]

/-- What was done to a stream does not let it fall asleep: when the last of its schedule has left, the
    poller is told to report what there is to read. -/
structure StaysAwake (s : Stream) (es : Transcript) (s' : Stream) : Prop where
  fits : s.Fits → s'.Fits
  rearmed : s.hasPending = true → s'.hasPending = false → Transcript.rearmed s.socket es = true

/-- The stream was registered anew. -/
structure Wakes (s : Stream) (es : Transcript) (s' : Stream) : Prop where
  fits : s'.Fits
  rearmed : s'.hasPending = false → Transcript.rearmed s.socket es = true

theorem Wakes.after {s₁ : Stream} {es₁ : Transcript} (h : Wakes s₁ es s')
    (hs : s₁.socket = s.socket) : Wakes s (es₁ ++ es) s' := by
  refine ⟨h.fits, fun hp => ?_⟩
  rw [Transcript.rearmed_append, ← hs, h.rearmed hp, Bool.or_true]

theorem resume_cases {r : Except IoError Unit} (h : Run s.resume es (r, s')) :
    Worked s [] es r s' ∧ s'.outbound = s.outbound ∧
      Transcript.All (· = .register s.socket) es ∧ (r = .ok () → Wakes s es s') := by
  obtain ⟨(a : Except IoError Unit), es', rfl, h'⟩ := run_ask_iff.1 h
  cases a with
  | ok _ =>
    obtain ⟨rfl, heq⟩ := run_done_iff.1 h'
    cases heq
    have hall : Transcript.All (· = .register s.socket)
        [⟨.reregister s.socket s.fitting, (.ok () : Except IoError Unit)⟩] :=
      Transcript.all_singleton rfl
    refine ⟨worked_of_registers hall rfl (List.append_nil _).symm ?_, rfl, hall, fun _ => ?_⟩
    · rw [Transcript.interest_cons]
      simp [SessionEvent.interest]
    · refine ⟨rfl, fun hp => ?_⟩
      have hr : s.fitting = .read := by
        rw [fitting, show s.hasPending = false from hp]; rfl
      simp [Transcript.rearmed, SessionEvent.isRearm, hr]
  | error e =>
    obtain ⟨rfl, heq⟩ := run_done_iff.1 h'
    cases heq
    have hall : Transcript.All (· = .register s.socket)
        [⟨.reregister s.socket s.fitting, (.error e : Except IoError Unit)⟩] :=
      Transcript.all_singleton rfl
    exact ⟨worked_of_registers hall rfl (List.append_nil _).symm rfl, rfl, hall, nofun⟩

theorem settle_cases {r : Except IoError Unit} (h : Run s.settle es (r, s')) :
    Worked s [] es r s' ∧ s'.outbound = s.outbound ∧ (r = .ok () → s'.Fits) := by
  by_cases hf : s.interest = s.fitting
  · rw [settle, if_pos hf] at h
    obtain ⟨rfl, heq⟩ := run_done_iff.1 h
    cases heq
    exact ⟨worked_of_registers Transcript.all_nil rfl (List.append_nil _).symm rfl, rfl, fun _ => hf⟩
  · rw [settle, if_neg hf] at h
    obtain ⟨hw, ho, -, hk⟩ := resume_cases h
    exact ⟨hw, ho, fun hr => (hk hr).fits⟩

theorem hasPending_of_outbound (h : s'.outbound = s.outbound) : s'.hasPending = s.hasPending := by
  rw [hasPending, hasPending, h]

/-! ## Sequences -/

/-- Sends bytes, and settles unless none of them is left. -/
inductive Delivers (turns : Nat) (s : Stream) (data : Bytes) :
    Transcript → Except IoError Unit → Stream → Prop where
  | refused {es : Transcript} {e : IoError} {s' : Stream} :
      Run (s.send turns data) es (.error e, s') → Delivers turns s data es (.error e) s'
  | drained {es : Transcript} {s' : Stream} :
      Run (s.send turns data) es (.ok .drained, s') → Delivers turns s data es (.ok ()) s'
  | settled {es₁ es₂ : Transcript} {f : Flush} {r : Except IoError Unit} {s₁ s' : Stream} :
      Run (s.send turns data) es₁ (.ok f, s₁) → Run s₁.settle es₂ (r, s') →
      Delivers turns s data (es₁ ++ es₂) r s'

theorem Delivers.worked {r : Except IoError Unit} (h : Delivers turns s data es r s') :
    Worked s data es r s' := by
  cases h with
  | refused h => exact (send_cases h).1.result nofun
  | drained h => exact (send_cases h).1.result fun _ _ => ⟨_, rfl⟩
  | settled h₁ h₂ => exact (send_cases h₁).1.trans (settle_cases h₂).1

theorem Delivers.hasPending {r : Except IoError Unit} (h : Delivers turns s data es r s') :
    s.hasPending = true → s'.hasPending = true := by
  cases h with
  | refused h => exact (send_cases h).2.2.2
  | drained h => exact (send_cases h).2.2.2
  | settled h₁ h₂ =>
    rw [hasPending_of_outbound (settle_cases h₂).2.1]
    exact (send_cases h₁).2.2.2

theorem Delivers.staysAwake (h : Delivers turns s data es (.ok ()) s') : StaysAwake s es s' := by
  refine ⟨fun hf => ?_, fun hp hn => ?_⟩
  · cases h with
    | drained h =>
      obtain ⟨-, hi, hd, hk⟩ := send_cases h
      have hn : s'.hasPending = false := (hd _ rfl).1 rfl
      have hn₀ : s.hasPending = false := by
        cases hp : s.hasPending with
        | false => rfl
        | true => rw [← hk hp, hn]
      rw [Fits, hi, fitting_of_hasPending_eq (hn.trans hn₀.symm)]
      exact hf
    | settled _ h₂ => exact (settle_cases h₂).2.2 rfl
  · rw [h.hasPending hp] at hn
    nomatch hn

/-- Delivers bytes, and registers the stream anew. -/
inductive Announces (turns : Nat) (s : Stream) (data : Bytes) :
    Transcript → Except IoError Unit → Stream → Prop where
  | refused {es : Transcript} {e : IoError} {s' : Stream} :
      Delivers turns s data es (.error e) s' → Announces turns s data es (.error e) s'
  | resumed {es₁ es₂ : Transcript} {r : Except IoError Unit} {s₁ s' : Stream} :
      Delivers turns s data es₁ (.ok ()) s₁ → Run s₁.resume es₂ (r, s') →
      Announces turns s data (es₁ ++ es₂) r s'

theorem Announces.worked {r : Except IoError Unit} (h : Announces turns s data es r s') :
    Worked s data es r s' := by
  cases h with
  | refused h => exact h.worked
  | resumed h₁ h₂ => exact h₁.worked.trans (resume_cases h₂).1

theorem Announces.wakes (h : Announces turns s data es (.ok ()) s') : Wakes s es s' := by
  cases h with
  | resumed h₁ h₂ => exact ((resume_cases h₂).2.2.2 rfl).after h₁.worked.socket

/-- The stream with bytes scheduled behind its schedule. -/
def queue (s : Stream) (data : Bytes) : Stream :=
  { s with outbound := s.outbound.push data }

theorem queue_pending_of_empty {s : Stream} {data : Bytes} (h : s.outbound = .empty) :
    (s.queue data).outbound.pending = data := by
  rw [queue, h]
  rfl

/-- Writes what is scheduled, and registers the stream anew. -/
inductive Starts (turns : Nat) (s : Stream) : Transcript → Except IoError Unit → Stream → Prop where
  | refused {es : Transcript} {e : IoError} {s' : Stream} :
      Run (s.flush turns) es (.error e, s') → Starts turns s es (.error e) s'
  | resumed {es₁ es₂ : Transcript} {f : Flush} {r : Except IoError Unit} {s₁ s' : Stream} :
      Run (s.flush turns) es₁ (.ok f, s₁) → Run s₁.resume es₂ (r, s') →
      Starts turns s (es₁ ++ es₂) r s'

theorem Starts.worked {r : Except IoError Unit} (h : Starts turns s es r s') :
    Worked s [] es r s' := by
  cases h with
  | refused h => exact (flush_cases h).1.result nofun
  | resumed h₁ h₂ => exact (flush_cases h₁).1.trans (resume_cases h₂).1

theorem Starts.wakes (h : Starts turns s es (.ok ()) s') : Wakes s es s' := by
  cases h with
  | resumed h₁ h₂ => exact ((resume_cases h₂).2.2.2 rfl).after (flush_cases h₁).1.socket

/-- Writes what is scheduled, and registers the stream anew if nothing is left. -/
inductive Flushes (turns : Nat) (s : Stream) :
    Transcript → Except IoError Flush → Stream → Prop where
  | refused {es : Transcript} {e : IoError} {s' : Stream} :
      Run (s.flush turns) es (.error e, s') → Flushes turns s es (.error e) s'
  | pending {es : Transcript} {s' : Stream} :
      Run (s.flush turns) es (.ok .pending, s') → Flushes turns s es (.ok .pending) s'
  | resumed {es₁ es₂ : Transcript} {s₁ s' : Stream} :
      Run (s.flush turns) es₁ (.ok .drained, s₁) → Run s₁.resume es₂ (.ok (), s') →
      Flushes turns s (es₁ ++ es₂) (.ok .drained) s'
  | lost {es₁ es₂ : Transcript} {e : IoError} {s₁ s' : Stream} :
      Run (s.flush turns) es₁ (.ok .drained, s₁) → Run s₁.resume es₂ (.error e, s') →
      Flushes turns s (es₁ ++ es₂) (.error e) s'

theorem Flushes.worked {r : Except IoError Flush} (h : Flushes turns s es r s') :
    Worked s [] es r s' := by
  cases h with
  | refused h => exact (flush_cases h).1
  | pending h => exact (flush_cases h).1
  | resumed h₁ h₂ => exact ((flush_cases h₁).1.trans (resume_cases h₂).1).result fun _ _ => ⟨_, rfl⟩
  | lost h₁ h₂ => exact ((flush_cases h₁).1.trans (resume_cases h₂).1).result nofun

theorem Flushes.drained (h : Flushes turns s es (.ok .drained) s') :
    Wakes s es s' ∧ s'.hasPending = false := by
  cases h with
  | resumed h₁ h₂ =>
    obtain ⟨hw, -, hd⟩ := flush_cases h₁
    obtain ⟨-, ho, -, hk⟩ := resume_cases h₂
    exact ⟨(hk rfl).after hw.socket, (hasPending_of_outbound ho).trans ((hd _ rfl).1 rfl)⟩

theorem Flushes.pending_staysAwake (h : Flushes turns s es (.ok .pending) s') :
    StaysAwake s es s' ∧ s'.hasPending = true := by
  cases h with
  | pending h =>
    obtain ⟨hw, hi, hd⟩ := flush_cases h
    have hp' := hasPending_of_pending (hd _ rfl)
    have hp : s.hasPending = true := by
      have hc := hw.conserved
      rw [hw.complete _ rfl, Option.getD_none, List.append_nil] at hc
      rw [hasPending_eq_true] at hp' ⊢
      rw [← hc]
      exact List.append_ne_nil_of_right_ne_nil _ hp'
    refine ⟨⟨fun hf => ?_, fun _ hn => ?_⟩, hp'⟩
    · rw [Fits, hi, fitting_of_hasPending_eq (hp'.trans hp.symm)]
      exact hf
    · rw [hp'] at hn
      nomatch hn

end Stream

end SocksProxy
