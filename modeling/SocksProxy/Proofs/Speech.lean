/-
  What a session says to its client.

  * `Utterance` lists what a step can say, with what it leads to;
  * `Speaks` ties it to the calls of the step: the bytes reach the stream of the client in order, and
    what a remote side sends is read before it is passed on. `Step.speaks` says so of every step.
-/
import SocksProxy.Proofs.Life

namespace SocksProxy

open Dialogue

/-! ## Utterances -/

/-- The negotiation is over, and the request is not answered yet. -/
def Stage.IsAgreed (stage : Stage) : Prop :=
  stage = .authenticated ∨ stage = .resolving ∨ stage = .connecting

/-- What a session can say in one step, what it gets from the remote side in it, whether it goes on, and
    its stage then. -/
inductive Utterance (settings : Settings) (s : Session) :
    Bytes → Bytes → Except SessionError Unit → Stage → Prop where
  | nothing {r : Except SessionError Unit} {next : Stage} :
      next = s.stage ∨ (s.stage.IsAgreed ∧ next.IsAgreed) → Utterance settings s [] [] r next
  | answer {n : Nat} {data : Bytes} {next : Stage} :
      Accepts settings s n data next → Utterance settings s data [] (.ok ()) next
  /-- The client does not take the answer. -/
  | unanswered {n : Nat} {data : Bytes} {next : Stage} {e : SessionError} :
      Accepts settings s n data next → Utterance settings s data [] (.error e) s.stage
  | farewell {data : Bytes} {e : SessionError} :
      Farewell settings s data → Utterance settings s data [] (.error e) s.stage
  | tunnel {bound : Address} {r : Except SessionError Unit} :
      s.stage = .connecting → Utterance settings s (Reply.encode ⟨.success, bound⟩) [] r .connected
  | association {bound : Address} {r : Except SessionError Unit} :
      s.stage.IsAgreed → Utterance settings s (Reply.encode ⟨.success, bound⟩) [] r .associated
  /-- What one read has given is passed on, since nothing waits for the client. -/
  | data {b : Bytes} {r : Except SessionError Unit} :
      s.stage = .connected → s.client.stream.hasPending = false → b.length ≤ Stream.bufferSize →
      Utterance settings s b b r .connected

/-- Calls that offer bytes to the stream of a client. -/
structure Spoken (client : Stream) (said : Bytes) (es : Transcript) (r : Except SessionError Unit)
    (client' : Stream) : Prop where
  /-- No byte is lost, doubled or moved. -/
  conserved : Transcript.taken .client es ++
    (Transcript.failed .client es).getD client'.outbound.pending = client.outbound.pending ++ said
  complete : r = .ok () → Transcript.failed .client es = none
  /-- The client is asked to take no other bytes, and only when the remote side has been read. -/
  asked : ∀ es₁ e es₂, es = es₁ ++ e :: es₂ → ∀ socket data, e.1 = .send socket data →
    socket.role = .client → Transcript.taken .client es₁ ++ data = client.outbound.pending ++ said ∧
      Transcript.read .remote es₁ = Transcript.read .remote es
  /-- The end of the remote side is seen only when the client has taken everything. -/
  remoteEnd : Transcript.sawEnd .remote es = true →
    (∃ e, r = .error e) ∧ client.outbound.pending ++ said = []
  /-- No more is scheduled than was scheduled and said. -/
  sized : client'.outbound.size ≤ client.outbound.size + said.length

/-- What a step says to the client. -/
structure Speaks (settings : Settings) (s : Session) (said : Bytes) (es : Transcript)
    (r : Except SessionError Unit) (s' : Session) : Prop where
  spoken : Spoken s.client.stream said es r s'.client.stream
  utterance : Utterance settings s said (Transcript.read .remote es) r s'.stage

section
variable {settings : Settings} {s s' : Session} {said : Bytes} {es es₁ es₂ : Transcript}
  {client client' : Stream} {r : Except SessionError Unit}

theorem Transcript.Mute.not_send {role : Role} {e : SessionEvent} {socket : Socket} {data : Bytes}
    (h : Transcript.Mute role (es₁ ++ e :: es₂)) (he : e.1 = .send socket data) :
    socket.role ≠ role := by
  intro hr
  have hv := h e (List.mem_append_right es₁ List.mem_cons_self)
  simp [he, SessionCall.verb, Verb.sends, hr] at hv

namespace Spoken

/-- The client is not spoken to. -/
theorem of_mute (hm : Transcript.Mute .client es)
    (he : Transcript.sawEnd .remote es = true →
      (∃ e, r = .error e) ∧ client.outbound.pending = []) :
    Spoken client [] es r client where
  conserved := by
    rw [hm.taken, hm.failed, Option.getD_none, List.append_nil]
    rfl
  complete _ := hm.failed
  asked := by
    rintro es₁ e es₂ rfl socket data hd hrole
    exact absurd hrole (hm.not_send hd)
  remoteEnd h := by
    rw [List.append_nil]
    exact he h
  sized := Nat.le_refl _

theorem of_worked {α : Type} {q : Except IoError α} (hw : client.Worked said es q client')
    (hrole : client.socket.role = .client) (hq : r = .ok () → ∃ a, q = .ok a) :
    Spoken client said es r client' := by
  have hd : Transcript.Deaf .remote es := hw.deaf
  have hc := hw.conserved
  have ha := hw.asked
  rw [hrole] at hc ha
  refine ⟨hc, fun hr => ?_, ?_, by rw [hd.sawEnd]; nofun, hw.sized⟩
  · obtain ⟨a, ha⟩ := hq hr
    rw [← hrole]
    exact hw.complete a ha
  · rintro es₁ e es₂ rfl socket data he hr
    have hfront : Transcript.Deaf .remote es₁ := fun e' he' => hd e' (List.mem_append_left _ he')
    exact ⟨ha es₁ e es₂ rfl socket data he hr, by rw [hd.read, hfront.read]⟩

/-- Other calls go before. -/
theorem behind (hm : Transcript.Mute .client es₁) (hsaw : Transcript.sawEnd .remote es₁ = false)
    (h : Spoken client said es r client') : Spoken client said (es₁ ++ es) r client' := by
  refine ⟨?_, fun hr => ?_, ?_, fun hend => h.remoteEnd ?_, h.sized⟩
  · rw [Transcript.taken_append, Transcript.failed_append, hm.taken, hm.failed, Option.none_or,
      List.nil_append]
    exact h.conserved
  · rw [Transcript.failed_append, hm.failed, Option.none_or]
    exact h.complete hr
  · intro front e rest heq socket data he hr
    rcases Transcript.append_split heq with ⟨tail, rfl⟩ | ⟨front', rfl, hes⟩
    · exact absurd hr (hm.not_send he)
    · obtain ⟨ht, hread⟩ := h.asked front' e rest hes socket data he hr
      rw [Transcript.taken_append, Transcript.read_append, Transcript.read_append, hm.taken, hread,
        List.nil_append]
      exact ⟨ht, rfl⟩
  · rwa [Transcript.sawEnd_append, hsaw, Bool.false_or] at hend

/-- Other calls follow. -/
theorem ahead (hm : Transcript.Mute .client es₂) (hd : Transcript.Deaf .remote es₂)
    (h : Spoken client said es r client') : Spoken client said (es ++ es₂) r client' := by
  refine ⟨?_, fun hr => ?_, ?_, fun hend => h.remoteEnd ?_, h.sized⟩
  · rw [Transcript.taken_append, Transcript.failed_append, hm.taken, hm.failed, Option.or_none,
      List.append_nil]
    exact h.conserved
  · rw [Transcript.failed_append, hm.failed, Option.or_none]
    exact h.complete hr
  · intro front e rest heq socket data he hr
    rcases Transcript.append_split heq with ⟨tail, hes⟩ | ⟨front', rfl, rfl⟩
    · rw [Transcript.read_append, hd.read, List.append_nil]
      exact h.asked front e tail hes socket data he hr
    · exact absurd hr (hm.not_send he)
  · rwa [Transcript.sawEnd_append, hd.sawEnd, Bool.or_false] at hend

end Spoken

namespace Speaks

/-- The remote side is read for nothing, and the client is not spoken to. -/
theorem of_quiet (hm : Transcript.Mute .client es) (hr : Transcript.read .remote es = [])
    (he : Transcript.sawEnd .remote es = true →
      (∃ e, r = .error e) ∧ s.client.stream.outbound.pending = [])
    (hp : s'.client = s.client)
    (hst : s'.stage = s.stage ∨ (s.stage.IsAgreed ∧ s'.stage.IsAgreed)) :
    Speaks settings s [] es r s' := by
  refine ⟨?_, ?_⟩
  · rw [hp]
    exact .of_mute hm he
  · rw [hr]
    exact .nothing hst

/-- Neither side is spoken to or read. -/
theorem of_aloof (hm : Transcript.Mute .client es) (hd : Transcript.Deaf .remote es)
    (hp : s'.client = s.client)
    (hst : s'.stage = s.stage ∨ (s.stage.IsAgreed ∧ s'.stage.IsAgreed)) :
    Speaks settings s [] es r s' :=
  of_quiet hm hd.read (by rw [hd.sawEnd]; nofun) hp hst

/-- The stream of the client is worked on. -/
theorem of_worked {α : Type} {q : Except IoError α} (hs : s.Shaped)
    (hw : s.client.stream.Worked said es q s'.client.stream) (hq : r = .ok () → ∃ a, q = .ok a)
    (hu : Utterance settings s said [] r s'.stage) : Speaks settings s said es r s' := by
  have hd : Transcript.Deaf .remote es := hw.deaf
  refine ⟨.of_worked hw (by rw [hs.client]) hq, ?_⟩
  rw [hd.read]
  exact hu

theorem behind (hm : Transcript.Mute .client es₁) (hd : Transcript.Deaf .remote es₁)
    (h : Speaks settings s said es r s') : Speaks settings s said (es₁ ++ es) r s' := by
  refine ⟨h.spoken.behind hm hd.sawEnd, ?_⟩
  rw [Transcript.read_append, hd.read, List.nil_append]
  exact h.utterance

theorem ahead (hm : Transcript.Mute .client es₂) (hd : Transcript.Deaf .remote es₂)
    (h : Speaks settings s said es r s') : Speaks settings s said (es ++ es₂) r s' := by
  refine ⟨h.spoken.ahead hm hd, ?_⟩
  rw [Transcript.read_append, hd.read, List.append_nil]
  exact h.utterance

end Speaks

/-! ## Steps -/

variable {ctx : Context} {origin : Stage}

theorem Session.Shaped.mute_remote {α : Type} {stream stream' : Stream} {data : Bytes}
    {q : Except IoError α} (hs : s.Shaped) (hst : s.stage = .connected)
    (hrem : s.remoteStream? = some stream) (hw : stream.Worked data es q stream') :
    Transcript.Mute .client es :=
  hw.mute (by rw [hs.connected_role hst hrem]; nofun)

theorem Session.Shaped.mute_candidate {α : Type} {out : Outgoing} {stream stream' : Stream}
    {data early : Bytes} {q : Except IoError α} (hs : s.Shaped) (hst : s.stage = .connecting)
    (hrem : s.remote = some (.stream out)) (hout : out.stream = some stream)
    (hw : (stream.queue early).Worked data es q stream') : Transcript.Mute .client es := by
  refine hw.mute ?_
  change stream.socket.role ≠ .client
  rw [(hs.connecting hst hrem hout).1]
  nofun

theorem Requested.isAgreed {intent : Intent} (h : Requested s intent s') :
    s.stage.IsAgreed ∧ s'.stage = s.stage := by
  cases h with
  | literal hst => exact ⟨.inl hst, rfl⟩
  | resolved hst => exact ⟨.inr (.inl hst), rfl⟩

/-- What is read from the remote side is said to the client. -/
theorem Speaks.of_data {turns : Nat} {b : Bytes} {stream client : Stream}
    {q : Except IoError Unit} (hs : s.Shaped) (hst : s.stage = .connected)
    (hrem : s.remoteStream? = some stream) (hp : s.client.stream.hasPending = false)
    (h₁ : Run (stream.receive turns) es₁ (.ok (.data b)))
    (h₂ : s.client.stream.Worked b es₂ q client) :
    Speaks settings s b (es₁ ++ es₂) (verdict q) (s.withClientStream client) := by
  have hd : Transcript.Deaf .remote es₂ := h₂.deaf
  obtain ⟨-, hle, hsaw, hb⟩ := Stream.receive_data h₁
  have hread : Transcript.read .remote (es₁ ++ es₂) = b := by
    rw [Transcript.read_append, hd.read, List.append_nil, hb, hs.connected_role hst hrem, if_pos rfl]
  refine ⟨(Spoken.of_worked h₂ (by rw [hs.client]) fun hr => verdict_eq_ok hr).behind
    (Stream.receive_mute h₁) (hsaw _), ?_⟩
  rw [hread, Session.withClientStream_stage, hst]
  exact .data hst hp hle

/-- The end of the remote side is seen only when nothing waits for the client. -/
theorem Speaks.of_polled {turns : Nat} {stream : Stream} {x : Except IoError Received}
    (hp : s.client.stream.hasPending = false) (h : Run (stream.receive turns) es x)
    (hx : ∀ b, x ≠ .ok (.data b)) : Speaks settings s [] es (Received.verdict x) s := by
  refine .of_quiet (Stream.receive_mute h) (Stream.receive_empty h hx _) (fun hsaw => ?_) rfl (.inl rfl)
  refine ⟨?_, Stream.hasPending_eq_false.1 hp⟩
  rcases x with e | b | _ | _
  · exact ⟨_, rfl⟩
  · exact absurd rfl (hx b)
  · rw [(Stream.receive_wouldBlock h).2.1] at hsaw
    nomatch hsaw
  · exact ⟨_, rfl⟩

/-- Every step says something to the client, perhaps nothing. -/
theorem Step.speaks (h : Step ctx origin s es r s') (hs : s.Shaped) :
    ∃ said, Speaks ctx.settings s said es r s' := by
  cases h with
  | aside h | ended _ h =>
    exact ⟨[], .of_aloof (Transcript.mute_of_aside h) (Transcript.deaf_of_aside h) rfl (.inl rfl)⟩
  | clientPolled _ _ h =>
    have hd := Stream.receive_deaf .remote h (by rw [hs.client]; nofun)
    exact ⟨[], .of_aloof (Stream.receive_mute h) hd rfl (.inl rfl)⟩
  | clientFlushed h _ =>
    exact ⟨[], .of_worked hs h.worked (fun hr => verdict_eq_ok hr) (.nothing (.inl rfl))⟩
  | clientResumed h =>
    exact ⟨[], .of_worked hs (Stream.resume_cases h).1 (fun hr => verdict_eq_ok hr)
      (.nothing (.inl rfl))⟩
  | heard _ _ h | discarded _ _ h =>
    have hd := Stream.receive_deaf .remote h (by rw [hs.client]; nofun)
    exact ⟨[], .of_aloof (Stream.receive_mute h) hd rfl (.inl rfl)⟩
  | cut => exact ⟨[], .of_aloof Transcript.mute_nil Transcript.deaf_nil rfl (.inl rfl)⟩
  | answered ha h₁ h₂ =>
    exact ⟨_, .behind (Transcript.mute_of_aside h₁) (Transcript.deaf_of_aside h₁)
      (.of_worked hs h₂.worked (fun _ => ⟨_, rfl⟩) (.answer ha))⟩
  | unanswered ha h₁ h₂ =>
    exact ⟨_, .behind (Transcript.mute_of_aside h₁) (Transcript.deaf_of_aside h₁)
      (.of_worked hs h₂.worked nofun (.unanswered ha))⟩
  | farewell _ hf h₁ h₂ h₃ =>
    exact ⟨_, .ahead (Transcript.mute_of_aside h₃) (Transcript.deaf_of_aside h₃)
      (.behind (Transcript.mute_of_aside h₁) (Transcript.deaf_of_aside h₁)
        (.of_worked hs (Stream.send_cases h₂).1 nofun (.farewell hf)))⟩
  | queried _ h | datagrams _ _ h | lookupsClosed _ h =>
    exact ⟨[], .of_aloof (Transcript.mute_of_offStream h) (Transcript.deaf_of_offStream h) rfl
      (.inl rfl)⟩
  | lookupStarted hst _ _ _ h =>
    exact ⟨[], .of_aloof (Transcript.mute_of_offStream h) (Transcript.deaf_of_offStream h) rfl
      (.inr ⟨.inl hst, .inr (.inl rfl)⟩)⟩
  | connectStarted hreq =>
    exact ⟨[], .of_aloof Transcript.mute_nil Transcript.deaf_nil (hreq.frame hs).1
      (.inr ⟨hreq.isAgreed.1, .inr (.inr rfl)⟩)⟩
  | attemptStarted _ _ h | attemptFailed _ _ h =>
    have hall := (Talk.openStream_cases h).1
    exact ⟨[], .of_aloof (Transcript.mute_of_setup hall) (Transcript.deaf_of_setup hall) rfl
      (.inl rfl)⟩
  | abandoned _ _ hsome hnone =>
    have hall := Outgoing.abandon_upkeep hsome hnone
    exact ⟨[], .of_aloof (Transcript.mute_of_upkeep hall) (Transcript.deaf_of_upkeep hall) rfl
      (.inl rfl)⟩
  | unbound _ _ _ h₁ h₂ =>
    have hall := (Talk.peerOf_all h₁).append h₂
    exact ⟨[], .of_aloof (Transcript.mute_of_aside hall) (Transcript.deaf_of_aside hall) rfl
      (.inl rfl)⟩
  | unstarted hst hrem hout h₁ h₂ h₃ =>
    have hall := (Talk.peerOf_all h₁).append h₂
    exact ⟨[], .behind (Transcript.mute_of_aside hall) (Transcript.deaf_of_aside hall)
      (.of_aloof (hs.mute_candidate hst hrem hout h₃.worked) h₃.worked.deaf rfl (.inl rfl))⟩
  | established hst hrem hout h₁ h₂ h₃ h₄ h₅ =>
    have hall := (Talk.peerOf_all h₁).append h₂
    have hm := hs.mute_candidate hst hrem hout h₃.worked
    exact ⟨_, .behind
      (((Transcript.mute_of_aside hall).append hm).append (Transcript.mute_of_aside h₄))
      (((Transcript.deaf_of_aside hall).append h₃.worked.deaf).append (Transcript.deaf_of_aside h₄))
      (.of_worked hs h₅.worked (fun hr => verdict_eq_ok hr) (.tunnel hst))⟩
  | relayedUp _ hst hrem _ h₁ h₂ =>
    have hd := Stream.receive_deaf .remote h₁ (by rw [hs.client]; nofun)
    exact ⟨[], .of_aloof ((Stream.receive_mute h₁).append (hs.mute_remote hst hrem h₂.worked))
      (hd.append h₂.worked.deaf) Session.withRemoteStream_client
      (.inl Session.withRemoteStream_stage)⟩
  | remotePolled _ _ hp h hx => exact ⟨[], .of_polled hp h hx⟩
  | relayedDown hst hrem hp h₁ h₂ => exact ⟨_, .of_data hs hst hrem hp h₁ h₂.worked⟩
  | clientDrained hst hrem h₁ h₂ =>
    obtain ⟨hw, -, hreg, -⟩ := Stream.resume_cases h₂
    refine ⟨[], .ahead (Stream.mute_of_registers hreg) hw.deaf ?_⟩
    refine .of_worked (q := .ok Flush.drained) hs ?_ (fun _ => ⟨_, rfl⟩)
      (.nothing (.inl Session.withRemoteStream_stage))
    rw [Session.withRemoteStream_client]
    exact h₁.worked
  | remoteFlushed hst hrem h _ =>
    exact ⟨[], .of_aloof (hs.mute_remote hst hrem h.worked) h.worked.deaf
      Session.withRemoteStream_client (.inl Session.withRemoteStream_stage)⟩
  | remoteDrained hst hrem h₁ h₂ =>
    refine ⟨[], .behind (hs.mute_remote hst hrem h₁.worked) h₁.worked.deaf ?_⟩
    refine .of_worked hs ?_ (fun hr => verdict_eq_ok hr)
      (.nothing (.inl Session.withRemoteStream_stage))
    rw [Session.withRemoteStream_client]
    exact (Stream.resume_cases h₂).1
  | unassociated hreq h =>
    exact ⟨[], .of_aloof (Transcript.mute_of_offStream h) (Transcript.deaf_of_offStream h)
      (hreq.frame hs).1 (.inl hreq.isAgreed.2)⟩
  | associated hreq h₁ h₂ =>
    have hw := h₂.worked
    rw [(hreq.frame hs).1] at hw
    exact ⟨_, .behind (Transcript.mute_of_offStream h₁) (Transcript.deaf_of_offStream h₁)
      (.of_worked hs hw (fun hr => verdict_eq_ok hr) (.association hreq.isAgreed.1))⟩

end

end SocksProxy
