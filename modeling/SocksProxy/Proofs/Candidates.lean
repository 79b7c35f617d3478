/-
  The candidates of a tunnel, and the bytes of its client.

  Nothing is written to a candidate before its attempt has succeeded, and from the first attempt on
  nothing is read from the client until the tunnel is up.

  **`tunnel_conveys_client`**: what the remote side takes is what the client sends.
-/
import SocksProxy.Proofs.Rehearsal
import SocksProxy.Proofs.Upstream

namespace SocksProxy

open Dialogue

/-! ## What calls need -/

namespace Transcript

/-- An attempt was made. -/
def Tried (es : Transcript) : Prop :=
  ∃ e ∈ es, ∃ socket, e.1.verb = .connect socket

/-- The attempt of the socket has succeeded: the socket has a peer. -/
def Confirmed (es : Transcript) (socket : Socket) : Prop :=
  ∃ peer, ⟨.peerAddress socket, (.ok peer : Except IoError Endpoint)⟩ ∈ es

variable {es es' : Transcript} {socket : Socket}

theorem tried_append : Tried (es ++ es') ↔ Tried es ∨ Tried es' := by
  simp only [Tried, List.mem_append, or_and_right, exists_or]

theorem Confirmed.mono (h : Confirmed es socket) (hp : es <+: es') : Confirmed es' socket := by
  obtain ⟨peer, he⟩ := h
  exact ⟨peer, hp.subset he⟩

end Transcript

/-- What a call needs: a candidate that is written to has a peer, and a client that is read from does
    not wait for an attempt: after the first one, it has a tunnel. -/
structure Orderly (before : Transcript) (origin : Stage) (e : SessionEvent) : Prop where
  sends : ∀ socket, e.1.verb = .send socket → socket.role = .remote →
    Transcript.Confirmed before socket
  receives : ∀ socket, e.1.verb = .receive socket → socket.role = .client →
    origin ≠ .connecting ∧ (Transcript.Tried before → origin = .connected)

/-- A call that needs nothing, and is no attempt either. -/
def Verb.IsPlain (v : Verb) : Prop :=
  v.sends .remote = false ∧ v.receives .client = false ∧ ∀ socket, v ≠ .connect socket

theorem orderly_of_verb {before : Transcript} {origin : Stage} {e : SessionEvent}
    (hs : e.1.verb.sends .remote = false) (hr : e.1.verb.receives .client = false) :
    Orderly before origin e := by
  refine ⟨fun socket he hrole => ?_, fun socket he hrole => ?_⟩
  · simp [he, Verb.sends, hrole] at hs
  · simp [he, Verb.receives, hrole] at hr

namespace Transcript

variable {es : Transcript} {before : Transcript} {origin : Stage}

theorem orderly_of_plain (h : All Verb.IsPlain es) : Guarded Orderly before origin es :=
  guarded_of_all h fun _ _ _ hv => orderly_of_verb hv.1 hv.2.1

theorem not_tried_of_plain (h : All Verb.IsPlain es) : ¬ Tried es := by
  rintro ⟨e, he, socket, hv⟩
  exact (h e he).2.2 socket hv

theorem plain_of_upkeep (h : All Verb.IsUpkeep es) : All Verb.IsPlain es :=
  h.imp fun v hv => ⟨hv.sends, hv.receives, by rcases hv with rfl | ⟨s, rfl⟩ <;> nofun⟩

theorem plain_of_aside (h : All (· = .aside) es) : All Verb.IsPlain es :=
  plain_of_upkeep (h.imp fun _ hv => .inl hv)

theorem plain_of_offStream (h : All Verb.IsOffStream es) : All Verb.IsPlain es :=
  h.imp fun v hv => ⟨hv.sends, hv.receives, by rintro s rfl; exact hv⟩

theorem plain_of_receive {socket : Socket} (h : All (· = .receive socket) es)
    (hr : socket.role ≠ .client) : All Verb.IsPlain es :=
  h.imp fun v hv => by
    rw [hv]
    refine ⟨rfl, ?_, nofun⟩
    simp [Verb.receives, hr]

theorem not_tried_of_receive {socket : Socket} (h : All (· = .receive socket) es) :
    ¬ Tried es := by
  rintro ⟨e, he, socket, hv⟩
  rw [h e he] at hv
  nomatch hv

end Transcript

namespace Stream

variable {α : Type} {s s' : Stream} {data : Bytes} {es before : Transcript} {origin : Stage}
  {r : Except IoError α}

theorem Worked.not_tried (h : Worked s data es r s') : ¬ Transcript.Tried es := by
  rintro ⟨e, he, socket, hv⟩
  rcases h.calls e he with h | h <;>
  · rw [h] at hv
    nomatch hv

theorem Worked.plain (h : Worked s data es r s') (hr : s.socket.role ≠ .remote) :
    Transcript.All Verb.IsPlain es :=
  h.calls.imp fun v hv => ⟨hv.sends hr, hv.receives, by rcases hv with rfl | rfl <;> nofun⟩

/-- Work on a stream with a peer. -/
theorem Worked.orderly (h : Worked s data es r s') (hc : Transcript.Confirmed before s.socket) :
    Transcript.Guarded Orderly before origin es := by
  refine Transcript.guarded_of_all h.calls fun before' e hp hv => ⟨fun socket he _ => ?_, ?_⟩
  · rcases hv with hv | hv
    · rw [he] at hv
      cases hv
      exact hc.mono hp
    · rw [he] at hv
      nomatch hv
  · intro socket he
    rcases hv with hv | hv <;>
    · rw [he] at hv
      nomatch hv

/-- A client is read while no attempt was made, or when the tunnel is up. -/
theorem receive_orderly {turns : Nat} {x : Except IoError Received}
    (h : Run (s.receive turns) es x) (hn : origin ≠ .connecting)
    (ho : Transcript.Tried before → origin = .connected) :
    Transcript.Guarded Orderly before origin es := by
  have hall := receive_all h
  rintro es₁ e es₂ rfl
  have he := hall e (List.mem_append_right es₁ List.mem_cons_self)
  refine ⟨fun socket hv => ?_, fun _ _ _ => ⟨hn, fun ht => ?_⟩⟩
  · rw [he] at hv
    nomatch hv
  · rcases Transcript.tried_append.1 ht with ht | ht
    · exact ho ht
    · have hall₁ : Transcript.All (· = .receive s.socket) es₁ :=
        fun e he => hall e (List.mem_append_left _ he)
      exact absurd ht (Transcript.not_tried_of_receive hall₁)

end Stream

/-! ## The invariant -/

/-- Attempts are made for a tunnel only, and the candidate of a tunnel that is up has a peer. -/
structure Candidates (before : Transcript) (s : Session) : Prop where
  tried : Transcript.Tried before → s.stage = .connecting ∨ s.stage = .connected
  confirmed : s.stage = .connected → ∀ stream, s.remoteStream? = some stream →
    Transcript.Confirmed before stream.socket

namespace Candidates

variable {before es : Transcript} {s s' : Session}

theorem untried (h : ¬ Transcript.Tried before) (hs : s.stage ≠ .connected) : Candidates before s :=
  ⟨fun ht => absurd ht h, fun hc => absurd hc hs⟩

theorem connecting (hs : s.stage = .connecting) : Candidates before s :=
  ⟨fun _ => .inl hs, fun hc => by rw [hs] at hc; nomatch hc⟩

theorem not_tried (h : Candidates before s) (hs : s.stage ≠ .connecting) (hc : s.stage ≠ .connected) :
    ¬ Transcript.Tried before :=
  fun ht => (h.tried ht).elim hs hc

theorem not_tried_of_handshake (h : Candidates before s) (hs : s.stage.isHandshake = true) :
    ¬ Transcript.Tried before :=
  h.not_tried (fun hc => by rw [hc] at hs; nomatch hs) fun hc => by rw [hc] at hs; nomatch hs

/-- The session has the same stage, and what it has for a tunnel is the same socket. -/
theorem keep (h : Candidates before s) (hes : ¬ Transcript.Tried es) (hst : s'.stage = s.stage)
    (hrem : s.stage = .connected → ∀ stream', s'.remoteStream? = some stream' →
      ∃ stream, s.remoteStream? = some stream ∧ stream'.socket = stream.socket) :
    Candidates (before ++ es) s' := by
  refine ⟨fun ht => ?_, fun hc stream' hs' => ?_⟩
  · rw [hst]
    exact h.tried ((Transcript.tried_append.1 ht).resolve_right hes)
  · rw [hst] at hc
    obtain ⟨stream, hs, heq⟩ := hrem hc stream' hs'
    rw [heq]
    exact (h.confirmed hc stream hs).mono (List.prefix_append before es)

theorem same (h : Candidates before s) (hes : ¬ Transcript.Tried es) (hst : s'.stage = s.stage)
    (hrem : s'.remoteStream? = s.remoteStream?) : Candidates (before ++ es) s' :=
  h.keep hes hst fun _ stream hs => ⟨stream, hrem.symm.trans hs, rfl⟩

theorem untried_append (h : ¬ Transcript.Tried before) (hes : ¬ Transcript.Tried es)
    (hs : s.stage ≠ .connected) : Candidates (before ++ es) s :=
  .untried (fun ht => (Transcript.tried_append.1 ht).elim h hes) hs

/-- Another remote stream stands for the old one. -/
theorem withRemoteStream {stream stream' : Stream} (h : Candidates before s)
    (hes : ¬ Transcript.Tried es) (hrem : s.remoteStream? = some stream)
    (hs : stream'.socket = stream.socket) : Candidates (before ++ es) (s.withRemoteStream stream') := by
  refine h.keep hes Session.withRemoteStream_stage fun _ found hf => ⟨stream, hrem, ?_⟩
  rw [Session.withRemoteStream_remoteStream? _ hrem] at hf
  cases hf
  exact hs

end Candidates

/-! ## Steps -/

variable {ctx : Context} {origin : Stage} {s s' : Session} {es before : Transcript}
  {r : Except SessionError Unit}

theorem Stage.Listens.origin_ne {now : Stage} (h : origin.Listens now) : origin ≠ .connecting := by
  rintro rfl
  rcases h.2 with rfl | ⟨ho, -⟩
  · exact h.1 rfl
  · nomatch ho

theorem Requested.not_tried {s₁ : Session} {intent : Intent} (h : Requested s intent s₁)
    (hc : Candidates before s) : ¬ Transcript.Tried before := by
  cases h with
  | literal hst | resolved hst => exact hc.not_tried (by rw [hst]; nofun) (by rw [hst]; nofun)

/-- A step with plain calls only. -/
theorem Keeps.of_plain (hp : Transcript.All Verb.IsPlain es)
    (hk : ¬ Transcript.Tried es → r = .ok () → Candidates (before ++ es) s') :
    Keeps Orderly Candidates before origin es r s' :=
  ⟨Transcript.orderly_of_plain hp, hk (Transcript.not_tried_of_plain hp)⟩

theorem Session.Shaped.plain_client {α : Type} {stream : Stream} {data : Bytes}
    {q : Except IoError α} (hs : s.Shaped) (hw : s.client.stream.Worked data es q stream) :
    Transcript.All Verb.IsPlain es :=
  hw.plain (by rw [hs.client]; nofun)

theorem Session.Shaped.plain_remote {turns : Nat} {stream : Stream} {x : Except IoError Received}
    (hs : s.Shaped) (hst : s.stage = .connected) (hrem : s.remoteStream? = some stream)
    (h : Run (stream.receive turns) es x) : Transcript.All Verb.IsPlain es :=
  Transcript.plain_of_receive (Stream.receive_all h) (by rw [hs.connected_role hst hrem]; nofun)

/-- A step with plain calls only that leaves the stage and the candidate as they are. -/
theorem Candidates.rests (hc : Candidates before s) (hp : Transcript.All Verb.IsPlain es)
    (hst : s'.stage = s.stage) (hrem : s'.remoteStream? = s.remoteStream?) :
    Keeps Orderly Candidates before origin es r s' :=
  .of_plain hp fun ht _ => hc.same ht hst hrem

/-- The client is read while no attempt was made, or when the tunnel is up. -/
theorem Candidates.listens {turns : Nat} {x : Except IoError Received} (hc : Candidates before s)
    (h : Run (s.client.stream.receive turns) es x) (hn : origin ≠ .connecting)
    (ho : Transcript.Tried before → origin = .connected) (hst : s'.stage = s.stage)
    (hrem : s'.remoteStream? = s.remoteStream?) : Keeps Orderly Candidates before origin es r s' :=
  ⟨Stream.receive_orderly h hn ho, fun _ =>
    hc.same (Transcript.not_tried_of_receive (Stream.receive_all h)) hst hrem⟩

theorem Candidates.origin_of_listens (hc : Candidates before s) (hl : origin.Listens s.stage)
    (ht : Transcript.Tried before) : origin = .connected := by
  rcases hc.tried ht with hst | hst
  · exact absurd hst hl.1
  · rcases hl.2 with ho | ⟨-, ho⟩
    · exact ho.trans hst
    · rw [hst] at ho
      nomatch ho

/-- The peer of a candidate is asked for before the candidate takes bytes. -/
theorem Candidates.starts {turns : Nat} {early : Bytes} {es₁ es₂ es₃ : Transcript}
    {stream stream' : Stream} {peer : Endpoint} {q : Except IoError Unit}
    (h₁ : Run (Talk.peerOf stream) es₁ (.ok (some peer))) (h₂ : es₂.All (· = .aside))
    (h₃ : (stream.queue early).Starts turns es₃ q stream') :
    Transcript.Guarded Orderly before origin (es₁ ++ es₂ ++ es₃) ∧
      Transcript.Confirmed (before ++ (es₁ ++ es₂ ++ es₃)) stream'.socket := by
  have hpeer : Transcript.Confirmed (before ++ (es₁ ++ es₂)) stream.socket :=
    ⟨peer, List.mem_append_right _ (List.mem_append_left _ (Talk.peerOf_some h₁))⟩
  have hfront : Transcript.Guarded Orderly before origin (es₁ ++ es₂) :=
    Transcript.orderly_of_plain (Transcript.plain_of_aside ((Talk.peerOf_all h₁).append h₂))
  refine ⟨hfront.append (h₃.worked.orderly hpeer), ?_⟩
  rw [h₃.worked.socket]
  exact hpeer.mono ⟨es₃, List.append_assoc ..⟩

/-- A step keeps the order of attempts, peers and bytes. -/
theorem Step.candidates (h : Step ctx origin s es r s') (hs : s.Shaped) (hc : Candidates before s) :
    Keeps Orderly Candidates before origin es r s' := by
  cases h with
  | aside h => exact hc.rests (Transcript.plain_of_aside h) rfl rfl
  | ended _ h => exact .of_plain (Transcript.plain_of_aside h) nofun
  | clientPolled hl _ h _ => exact hc.listens h hl.origin_ne (hc.origin_of_listens hl) rfl rfl
  | clientFlushed h => exact hc.rests (hs.plain_client h.worked) rfl rfl
  | clientResumed h => exact hc.rests (hs.plain_client (Stream.resume_cases h).1) rfl rfl
  | heard ho hst h =>
    exact hc.listens h (by rintro rfl; nomatch ho)
      (fun ht => absurd ht (hc.not_tried_of_handshake hst)) rfl rfl
  | cut => exact .of_plain Transcript.all_nil nofun
  | @answered _ _ _ _ next _ ha h₁ h₂ =>
    obtain ⟨hst, hnext⟩ := ha.isHandshake
    refine .of_plain ((Transcript.plain_of_aside h₁).append (hs.plain_client h₂.worked))
      fun ht _ => .untried_append (hc.not_tried_of_handshake hst) ht fun (hn : next = .connected) => ?_
    rw [hn] at hnext
    nomatch hnext
  | unanswered _ h₁ h₂ =>
    exact .of_plain ((Transcript.plain_of_aside h₁).append (hs.plain_client h₂.worked)) nofun
  | farewell _ _ h₁ h₂ h₃ =>
    exact .of_plain (((Transcript.plain_of_aside h₁).append
      (hs.plain_client (Stream.send_cases h₂).1)).append (Transcript.plain_of_aside h₃)) nofun
  | queried _ h | lookupsClosed _ h | datagrams _ _ h =>
    exact hc.rests (Transcript.plain_of_offStream h) rfl rfl
  | lookupStarted hst _ _ _ h =>
    have hno := hc.not_tried_of_handshake (by rw [hst]; rfl)
    exact .of_plain (Transcript.plain_of_offStream h) fun ht _ => .untried_append hno ht nofun
  | connectStarted => exact .of_plain Transcript.all_nil fun _ _ => .connecting rfl
  | attemptStarted hst _ h | attemptFailed hst _ h =>
    refine ⟨Transcript.guarded_of_all (Talk.openStream_cases h).1 fun _ _ _ hv =>
      orderly_of_verb hv.sends hv.receives, fun _ => .connecting hst⟩
  | abandoned hst _ hsome hnone =>
    have hall := Outgoing.abandon_upkeep hsome hnone
    exact .of_plain (Transcript.plain_of_upkeep hall) fun _ _ => .connecting hst
  | unbound _ _ _ h₁ h₂ =>
    exact .of_plain (Transcript.plain_of_aside ((Talk.peerOf_all h₁).append h₂)) nofun
  | unstarted _ _ _ h₁ h₂ h₃ => exact ⟨(Candidates.starts h₁ h₂ h₃).1, nofun⟩
  | @established es₁ es₂ es₃ es₄ es₅ _ _ _ _ _ _ _ _ _ _ h₁ h₂ h₃ h₄ h₅ =>
    obtain ⟨hfront, hpeer⟩ : Transcript.Guarded Orderly before origin _ ∧
      Transcript.Confirmed (before ++ _) _ := Candidates.starts h₁ h₂ h₃
    have hback : Transcript.All Verb.IsPlain (es₄ ++ es₅) :=
      (Transcript.plain_of_aside h₄).append (hs.plain_client h₅.worked)
    rw [List.append_assoc (es₁ ++ es₂ ++ es₃)]
    refine ⟨hfront.append (Transcript.orderly_of_plain hback), fun _ => ⟨fun _ => .inr rfl, ?_⟩⟩
    rintro - stream ⟨⟩
    exact hpeer.mono ⟨es₄ ++ es₅, List.append_assoc ..⟩
  | @relayedUp es₁ _ _ stream _ _ ho hst hrem _ h₁ h₂ =>
    have hnot := Transcript.not_tried_of_receive (Stream.receive_all h₁)
    have hpeer : Transcript.Confirmed (before ++ es₁) stream.socket :=
      (hc.confirmed hst stream hrem).mono (List.prefix_append before es₁)
    refine ⟨(Stream.receive_orderly h₁ (by rw [ho]; nofun) fun _ => ho).append
      (h₂.worked.orderly hpeer), fun _ => ?_⟩
    refine hc.withRemoteStream (fun h => ?_) hrem h₂.worked.socket
    exact (Transcript.tried_append.1 h).elim hnot h₂.worked.not_tried
  | remotePolled hst hrem _ h _ => exact hc.rests (hs.plain_remote hst hrem h) rfl rfl
  | relayedDown hst hrem _ h₁ h₂ =>
    exact hc.rests ((hs.plain_remote hst hrem h₁).append (hs.plain_client h₂.worked)) rfl rfl
  | clientDrained hst hrem h₁ h₂ =>
    obtain ⟨hw, -, hreg, -⟩ := Stream.resume_cases h₂
    have hplain := Transcript.plain_of_upkeep (hreg.imp fun v hv => .inr ⟨_, hv⟩)
    refine .of_plain ((hs.plain_client h₁.worked).append hplain) fun ht _ => ?_
    exact Candidates.withRemoteStream (s := s.withClientStream _)
      ⟨hc.tried, hc.confirmed⟩ ht hrem hw.socket
  | remoteFlushed hst hrem h =>
    exact ⟨h.worked.orderly (hc.confirmed hst _ hrem),
      fun _ => hc.withRemoteStream h.worked.not_tried hrem h.worked.socket⟩
  | remoteDrained hst hrem h₁ h₂ =>
    have hw := (Stream.resume_cases h₂).1
    refine ⟨(h₁.worked.orderly (hc.confirmed hst _ hrem)).append
      (Transcript.orderly_of_plain (hs.plain_client hw)), fun _ => ?_⟩
    refine Candidates.withRemoteStream (s := s.withClientStream _)
      ⟨hc.tried, hc.confirmed⟩ (fun h => ?_) hrem h₁.worked.socket
    exact (Transcript.tried_append.1 h).elim h₁.worked.not_tried hw.not_tried
  | unassociated _ h => exact .of_plain (Transcript.plain_of_offStream h) nofun
  | associated hreq h₁ h₂ =>
    have hw := h₂.worked
    rw [(hreq.frame hs).1] at hw
    exact .of_plain ((Transcript.plain_of_offStream h₁).append (hs.plain_client hw))
      fun ht _ => .untried_append (hreq.not_tried hc) ht nofun
  | discarded hst ho h =>
    have hne : s.stage ≠ .connecting ∧ s.stage ≠ .connected := by
      rcases hst with hst | hst <;> rw [hst] <;> exact ⟨nofun, nofun⟩
    exact hc.listens h (ho ▸ hne.1) (fun ht => absurd ht (hc.not_tried hne.1 hne.2)) rfl rfl

/-! ## Sessions -/

theorem candidates_invariant :
    Invariant ctx (fun h s => Candidates h.calls s ∧ h.Guarded Orderly)
      (fun h _ => True ∧ h.Guarded Orderly) := by
  refine guarded_invariant (J := Candidates) (F := fun _ _ => True) (fun hopens => ?_)
    (fun hs hc h => ?_) (fun hs hc h => ?_) (fun _ => trivial) (fun _ _ => trivial)
    fun _ _ _ hv => orderly_of_verb hv.sends hv.receives
  · exact .untried (Transcript.not_tried_of_plain (Transcript.plain_of_upkeep hopens.upkeep)) nofun
  · obtain ⟨hg, hkept⟩ := h.candidates hs hc
    exact ⟨hg, hkept rfl⟩
  · exact ⟨(h.candidates hs hc).guarded, trivial⟩

/-- **A tunnel conveys its client.** What a client sends is `E`, behind its request, and then `R`, while
    the tunnel is up.

    * A session that goes on has written nothing to the remote side and read nothing for it before the
      tunnel is up, and keeps `E`; then what the remote side has taken, followed by what is scheduled
      for it, is `E ++ R`.
    * When a session has ended, the remote side has taken a prefix of `E ++ R`; when it has ended
      because its client did, all of it.
    * At any time, a candidate is written to only when it has a peer, and the client is not read from
      while an attempt is made. -/
theorem tunnel_conveys_client {h : History} :
    (Life ctx h s → Upstream ctx.settings s h.heard h.relayed (h.taken .remote)) ∧
      (Ended ctx h s →
        UpstreamEnd ctx.settings h.heard h.relayed (h.taken .remote) h.sawClientEnd) ∧
      (Life ctx h s ∨ Ended ctx h s → h.Guarded Orderly) := by
  refine ⟨fun hl => (upstream_invariant.life hl).1, fun he => upstream_invariant.ended he, ?_⟩
  rintro (hl | he)
  · exact (candidates_invariant.life hl).2
  · exact (candidates_invariant.ended he).2

/-- What `tunnel_conveys_client` says while a tunnel is up and when its client has left. -/
theorem tunnel_conveys_hasty_client :
    (∃ h s, Life ⟨{}, none, 9⟩ h s ∧ s.stage = .connected ∧ h.taken .remote = [104, 105] ∧
      Upstream {} s h.heard h.relayed (h.taken .remote) ∧ h.Guarded Orderly) ∧
    ∃ h s, Ended ⟨{}, none, 9⟩ h s ∧ h.taken .remote = [104, 105, 121, 111] ∧
      h.sawClientEnd = true ∧ UpstreamEnd {} h.heard h.relayed (h.taken .remote) h.sawClientEnd ∧
      h.Guarded Orderly := by
  constructor
  · obtain ⟨h, s, hl, hx⟩ := exists_life_of_rehearse ⟨{}, none, 9⟩
      (.between (hastyReads.take 2) []) (handshake 2 ++ [attemptDone])
      (fun h s => s.stage = .connected ∧ h.taken .remote = [104, 105]) (by decide +kernel)
    obtain ⟨hst, ht⟩ := of_decide_eq_true hx
    exact ⟨h, s, hl, hst, ht, tunnel_conveys_client.1 hl, tunnel_conveys_client.2.2 (.inl hl)⟩
  · obtain ⟨h, s, he, hx⟩ := exists_ended_of_rehearseEnd ⟨{}, none, 9⟩ hastyClient
      (handshake 2 ++ [attemptDone]) .client { readable := true }
      (fun h _ => h.taken .remote = [104, 105, 121, 111] ∧ h.sawClientEnd = true) (by decide +kernel)
    obtain ⟨ht, hsaw⟩ := of_decide_eq_true hx
    exact ⟨h, s, he, ht, hsaw, tunnel_conveys_client.2.1 he, tunnel_conveys_client.2.2 (.inr he)⟩

end SocksProxy
