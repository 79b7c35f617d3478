/-
  What a client sees of its session.

  A conversation is the answer to a greeting, perhaps a judgement of credentials, one reply, and the
  data of a tunnel. `Conversation.Fits` says how far it has come in each stage of a session that goes
  on, `Conversation.Closes` in a session that has ended.

  **`client_sees_conversation`**: a client is offered a conversation, and takes it from the front.
-/
import SocksProxy.Proofs.Invariant
import SocksProxy.Proofs.Rehearsal
import SocksProxy.Proofs.Speech

namespace SocksProxy

open Dialogue

/-! ## Conversations -/

/-- What was said to a client. -/
inductive Conversation where
  | silent
  /-- The greeting was answered. -/
  | selected (method : Option AuthMethod)
  /-- A password was asked for, and judged. -/
  | judged (granted : Bool)
  /-- A method was agreed on, and the request was answered. -/
  | replied (method : AuthMethod) (reply : Reply)
  /-- A method was agreed on, a tunnel was announced, and the remote side has sent the data. -/
  | relayed (method : AuthMethod) (bound : Address) (data : Bytes)

namespace Conversation

/-- The negotiation that ends in agreement on the method. -/
def agreed : AuthMethod → Conversation
  | .none => selected (some .none)
  | .password => judged true

/-- The bytes of a negotiation that ends in agreement. -/
def negotiation : AuthMethod → Bytes
  | .none => selection (some .none)
  | .password => selection (some .password) ++ authStatus true

/-- The conversation as bytes. -/
def bytes : Conversation → Bytes
  | silent => []
  | selected method => selection method
  | judged granted => selection (some .password) ++ authStatus granted
  | replied method reply => negotiation method ++ reply.encode
  | relayed method bound data => negotiation method ++ Reply.encode ⟨.success, bound⟩ ++ data

/-- The data of the tunnel. -/
def data : Conversation → Bytes
  | relayed _ _ data => data
  | _ => []

/-- The conversation of a session that goes on. -/
def Fits (settings : Settings) : Stage → Conversation → Prop
  | .accepted, c => c = silent
  | .authRequested, c => settings.authMethod = .password ∧ c = selected (some .password)
  | .authenticated, c | .resolving, c | .connecting, c => c = agreed settings.authMethod
  | .connected, c => ∃ bound data, c = relayed settings.authMethod bound data
  | .associated, c => ∃ bound, c = replied settings.authMethod ⟨.success, bound⟩

/-- The conversation of a session that has ended. It may have said something without effect. -/
def Closes (settings : Settings) : Stage → Conversation → Prop
  | .accepted, c => c = silent ∨ ∃ method, c = selected method
  | .authRequested, c => settings.authMethod = .password ∧
    (c = selected (some .password) ∨ ∃ granted, c = judged granted)
  | .authenticated, c | .resolving, c | .connecting, c => c = agreed settings.authMethod ∨
    ∃ reply, reply.code ≠ .success ∧ c = replied settings.authMethod reply
  | .connected, c => ∃ bound data, c = relayed settings.authMethod bound data
  | .associated, c => ∃ bound, c = replied settings.authMethod ⟨.success, bound⟩

variable {settings : Settings} {stage next : Stage} {c : Conversation} {method : AuthMethod}

theorem bytes_agreed : (agreed method).bytes = negotiation method := by
  cases method <;> rfl

theorem data_agreed : (agreed method).data = [] := by
  cases method <;> rfl

theorem Fits.closes (h : c.Fits settings stage) : c.Closes settings stage := by
  cases stage with
  | accepted => exact .inl h
  | authRequested => exact ⟨h.1, .inl h.2⟩
  | authenticated | resolving | connecting => exact .inl h
  | connected | associated => exact h

theorem fits_agreed (h : stage.IsAgreed) : c.Fits settings stage ↔ c = agreed settings.authMethod := by
  rcases h with rfl | rfl | rfl <;> exact Iff.rfl

theorem fits_connected {bound : Address} {data : Bytes} :
    (relayed settings.authMethod bound data).Fits settings .connected :=
  ⟨bound, data, rfl⟩

theorem fits_associated {bound : Address} :
    (replied settings.authMethod ⟨.success, bound⟩).Fits settings .associated :=
  ⟨bound, rfl⟩

theorem closes_replied {reply : Reply} (h : stage.IsAgreed) (hr : reply.code ≠ .success) :
    (replied settings.authMethod reply).Closes settings stage := by
  rcases h with rfl | rfl | rfl <;> exact .inr ⟨reply, hr, rfl⟩

/-- The conversation behind a step that goes on or does not. -/
def After (settings : Settings) (r : Except SessionError Unit) (stage : Stage) (c : Conversation) :
    Prop :=
  match r with
  | .ok _ => c.Fits settings stage
  | .error _ => c.Closes settings stage

theorem Fits.after {r : Except SessionError Unit} (h : c.Fits settings stage) :
    c.After settings r stage := by
  cases r with
  | ok _ => exact h
  | error e => exact h.closes

end Conversation

/-- An accepted message leads the conversation on. -/
theorem Accepts.conversation {settings : Settings} {s : Session} {n : Nat} {data : Bytes}
    {next : Stage} {c : Conversation} (h : Accepts settings s n data next)
    (hc : c.Fits settings s.stage) :
    ∃ c' : Conversation, c'.Fits settings next ∧ c'.Closes settings s.stage ∧
      c'.bytes = c.bytes ++ data ∧ c.data = [] ∧ c'.data = [] := by
  cases h with
  | @greeting offered n method hst hd hm =>
    rw [hst] at hc ⊢
    obtain rfl := hc
    obtain ⟨hmethod, -⟩ := select_eq_some hm
    refine ⟨.selected (some method), ?_, .inr ⟨_, rfl⟩, rfl, rfl, rfl⟩
    cases method with
    | none => exact (Conversation.fits_agreed (.inl rfl)).2 (by rw [← hmethod]; rfl)
    | password => exact ⟨hmethod.symm, rfl⟩
  | credentials hst hd hm =>
    rw [hst] at hc ⊢
    obtain ⟨hmethod, rfl⟩ := hc
    refine ⟨.judged true, ?_, ⟨hmethod, .inr ⟨_, rfl⟩⟩, rfl, rfl, rfl⟩
    exact (Conversation.fits_agreed (.inl rfl)).2 (by rw [hmethod]; rfl)

theorem Farewell.conversation {settings : Settings} {s : Session} {data : Bytes} {c : Conversation}
    (h : Farewell settings s data) (hc : c.Fits settings s.stage) :
    ∃ c' : Conversation, c'.Closes settings s.stage ∧ c'.bytes = c.bytes ++ data ∧ c.data = [] ∧
      c'.data = [] := by
  cases h with
  | version hst | method hst =>
    rw [hst] at hc ⊢
    obtain rfl := hc
    exact ⟨.selected none, .inr ⟨_, rfl⟩, rfl, rfl, rfl⟩
  | credentials hst =>
    rw [hst] at hc ⊢
    obtain ⟨hmethod, rfl⟩ := hc
    exact ⟨.judged false, ⟨hmethod, .inr ⟨_, rfl⟩⟩, rfl, rfl, rfl⟩
  | @reply reply hst hcode =>
    obtain rfl := (Conversation.fits_agreed hst).1 hc
    refine ⟨.replied settings.authMethod reply, Conversation.closes_replied hst hcode, ?_,
      Conversation.data_agreed, rfl⟩
    rw [Conversation.bytes_agreed]
    rfl

/-- What is said leads the conversation on, and data of the remote side is said as it is. -/
theorem Utterance.conversation {settings : Settings} {s : Session} {said got : Bytes}
    {r : Except SessionError Unit} {next : Stage} {c : Conversation}
    (h : Utterance settings s said got r next) (hc : c.Fits settings s.stage) :
    ∃ c' : Conversation, c'.After settings r next ∧ c'.bytes = c.bytes ++ said ∧
      c'.data = c.data ++ got := by
  cases h with
  | nothing hnext =>
    refine ⟨c, ?_, (List.append_nil _).symm, (List.append_nil _).symm⟩
    rcases hnext with rfl | ⟨hst, hnext⟩
    · exact hc.after
    · exact Conversation.Fits.after ((Conversation.fits_agreed hnext).2
        ((Conversation.fits_agreed hst).1 hc))
  | answer ha =>
    obtain ⟨c', hf, -, hb, hd, hd'⟩ := ha.conversation hc
    exact ⟨c', hf, hb, by rw [hd, hd']; rfl⟩
  | unanswered ha =>
    obtain ⟨c', -, hc', hb, hd, hd'⟩ := ha.conversation hc
    exact ⟨c', hc', hb, by rw [hd, hd']; rfl⟩
  | farewell hf =>
    obtain ⟨c', hc', hb, hd, hd'⟩ := hf.conversation hc
    exact ⟨c', hc', hb, by rw [hd, hd']; rfl⟩
  | @tunnel bound _ hst =>
    obtain rfl := (Conversation.fits_agreed (.inr (.inr hst))).1 hc
    refine ⟨.relayed settings.authMethod bound [],
      Conversation.fits_connected.after, ?_, ?_⟩
    · rw [Conversation.bytes_agreed, Conversation.bytes, List.append_nil]
    · rw [Conversation.data_agreed]
      rfl
  | @association bound _ hst =>
    obtain rfl := (Conversation.fits_agreed hst).1 hc
    refine ⟨.replied settings.authMethod ⟨.success, bound⟩,
      Conversation.fits_associated.after, ?_, ?_⟩
    · rw [Conversation.bytes_agreed]
      rfl
    · rw [Conversation.data_agreed]
      rfl
  | data hst =>
    rw [hst] at hc
    obtain ⟨bound, data, rfl⟩ := hc
    refine ⟨.relayed settings.authMethod bound (data ++ said), ?_, ?_, rfl⟩
    · exact Conversation.fits_connected.after
    · simp only [Conversation.bytes, List.append_assoc]

/-! ## The invariant -/

/-- What the stream of the client was offered: what it has taken, and what it is to take, or was to take
    when it failed. -/
def Session.offered (s : Session) (es : Transcript) : Bytes :=
  Transcript.taken .client es ++
    (Transcript.failed .client es).getD s.client.stream.outbound.pending

/-- The conversation of a session that goes on: every byte of it was taken or is scheduled. -/
structure Downstream (settings : Settings) (s : Session) (es : Transcript) : Prop where
  conversation : ∃ c : Conversation, c.Fits settings s.stage ∧ c.data = Transcript.read .remote es ∧
    Transcript.taken .client es ++ s.client.stream.outbound.pending = c.bytes
  unbroken : Transcript.failed .client es = none
  remoteOpen : Transcript.sawEnd .remote es = false

/-- The conversation of a session that has ended: all of it was taken when the remote side has ended. -/
def DownstreamEnd (settings : Settings) (s : Session) (es : Transcript) : Prop :=
  ∃ c : Conversation, c.Closes settings s.stage ∧ c.data = Transcript.read .remote es ∧
    s.offered es = c.bytes ∧
      (Transcript.sawEnd .remote es = true → Transcript.taken .client es = c.bytes)

/-- What a step leaves, whether the session goes on or not. -/
def DownstreamAfter (settings : Settings) (r : Except SessionError Unit) (s : Session)
    (es : Transcript) : Prop :=
  match r with
  | .ok _ => Downstream settings s es
  | .error _ => DownstreamEnd settings s es

/-- Whenever a client is asked to take bytes, they complete a conversation, with the data that was read
    from the remote side until then. -/
def Conversed (before : Transcript) (_origin : Stage) (e : SessionEvent) : Prop :=
  ∀ socket data, e.1 = .send socket data → socket.role = .client →
    ∃ c : Conversation, Transcript.taken .client before ++ data = c.bytes ∧
      c.data = Transcript.read .remote before

variable {ctx : Context} {origin : Stage} {s s' : Session} {es before : Transcript}
  {r : Except SessionError Unit}

theorem Downstream.offered_eq {settings : Settings} (h : Downstream settings s es) :
    s.offered es = Transcript.taken .client es ++ s.client.stream.outbound.pending := by
  rw [Session.offered, h.unbroken, Option.getD_none]

theorem Downstream.ended {settings : Settings} (h : Downstream settings s es) :
    DownstreamEnd settings s es := by
  obtain ⟨c, hf, hd, hb⟩ := h.conversation
  refine ⟨c, hf.closes, hd, h.offered_eq.trans hb, ?_⟩
  rw [h.remoteOpen]
  nofun

theorem Session.offered_mute {es' : Transcript} (h : Transcript.Mute .client es') :
    s.offered (es ++ es') = s.offered es := by
  rw [offered, offered, Transcript.taken_append, Transcript.failed_append, h.taken, h.failed,
    Option.or_none, List.append_nil]

theorem Session.offered_client (hc : s'.client = s.client) : s'.offered es = s.offered es := by
  rw [offered, hc, ← offered]

/-- Calls that do not touch the streams change nothing. -/
theorem DownstreamEnd.upkeep {settings : Settings} {es' : Transcript}
    (h : DownstreamEnd settings s es) (hall : Transcript.All Verb.IsUpkeep es') :
    DownstreamEnd settings s (es ++ es') := by
  have hm : Transcript.Mute .client es' := Transcript.mute_of_upkeep hall
  have hd : Transcript.Deaf .remote es' := Transcript.deaf_of_upkeep hall
  unfold DownstreamEnd
  rw [Session.offered_mute hm, Transcript.taken_append, Transcript.read_append,
    Transcript.sawEnd_append, hm.taken, hd.read, hd.sawEnd, Bool.or_false, List.append_nil,
    List.append_nil]
  exact h

theorem conversed_of_upkeep {e : SessionEvent} (h : e.1.verb.IsUpkeep) :
    Conversed before origin e := by
  intro socket data he
  rw [he] at h
  rcases h with h | ⟨_, h⟩ <;> nomatch h

/-! ## Steps -/

/-- What is said is offered behind what was offered before. -/
theorem Spoken.offered {settings : Settings} {said : Bytes}
    (h : Spoken s.client.stream said es r s'.client.stream) (hd : Downstream settings s before) :
    s'.offered (before ++ es) = s.offered before ++ said := by
  rw [Session.offered, Transcript.taken_append, Transcript.failed_append, hd.unbroken,
    Option.none_or, List.append_assoc, h.conserved, hd.offered_eq, List.append_assoc]

/-- A step offers the client more, and what it was offered then is a conversation. -/
theorem Step.downstream (h : Step ctx origin s es r s') (hs : s.Shaped)
    (hd : Downstream ctx.settings s before) :
    Transcript.Guarded Conversed before origin es ∧
      DownstreamAfter ctx.settings r s' (before ++ es) ∧
        s.offered before <+: s'.offered (before ++ es) := by
  obtain ⟨said, hspeaks, hutter⟩ := h.speaks hs
  obtain ⟨c, hf, hdata, hb⟩ := hd.conversation
  obtain ⟨c', hc', hb', hd'⟩ := hutter.conversation hf
  have hread : c'.data = Transcript.read .remote (before ++ es) := by
    rw [hd', hdata, Transcript.read_append]
  -- What was offered before is followed by what is said.
  have hall : Transcript.taken .client before ++ (s.client.stream.outbound.pending ++ said) =
      c'.bytes := by
    rw [← List.append_assoc, hb, hb']
  have hoffered : s'.offered (before ++ es) = c'.bytes := by
    rw [hspeaks.offered hd, hd.offered_eq, hb, hb']
  have hsaw : Transcript.sawEnd .remote (before ++ es) = Transcript.sawEnd .remote es := by
    rw [Transcript.sawEnd_append, hd.remoteOpen, Bool.false_or]
  refine ⟨?_, ?_, ?_⟩
  · rintro es₁ e es₂ rfl socket data he hrole
    obtain ⟨ht, hr⟩ := hspeaks.asked es₁ e es₂ rfl socket data he hrole
    refine ⟨c', ?_, ?_⟩
    · rw [Transcript.taken_append, List.append_assoc, ht, hall]
    · rw [hd', hdata, ← hr, Transcript.read_append]
  · cases r with
    | ok _ =>
      have hfailed := hspeaks.complete rfl
      refine ⟨⟨c', hc', hread, ?_⟩, ?_, ?_⟩
      · rw [← hoffered, Session.offered, Transcript.failed_append, hd.unbroken, hfailed]
        rfl
      · rw [Transcript.failed_append, hd.unbroken, hfailed]
        rfl
      · rw [hsaw]
        cases hend : Transcript.sawEnd .remote es with
        | false => rfl
        | true => nomatch (hspeaks.remoteEnd hend).1
    | error e =>
      refine ⟨c', hc', hread, hoffered, fun hend => ?_⟩
      -- Nothing was left to be taken, and nothing is said.
      rw [hsaw] at hend
      have hempty := (hspeaks.remoteEnd hend).2
      have hnone := hspeaks.conserved
      rw [hempty] at hnone hall
      rw [Transcript.taken_append, (List.append_eq_nil_iff.1 hnone).1, ← hall]
  · rw [hd.offered_eq, hb, hoffered, hb']
    exact List.prefix_append _ _

theorem Steps.downstream (h : Steps ctx origin s es r s') (hs : s.Shaped)
    (hd : Downstream ctx.settings s before) :
    DownstreamAfter ctx.settings r s' (before ++ es) ∧
      s.offered before <+: s'.offered (before ++ es) := by
  induction h with
  | nil =>
    rw [List.append_nil]
    exact ⟨hd, List.prefix_rfl⟩
  | snoc h₁ h₂ ih =>
    obtain ⟨hd₁, hp₁⟩ := ih
    obtain ⟨-, hd₂, hp₂⟩ := h₂.downstream (h₁.shaped rfl hs) hd₁
    rw [← List.append_assoc]
    exact ⟨hd₂, hp₁.trans hp₂⟩

/-! ## Sessions -/

theorem downstream_fresh {settings : Settings} {peer localAddress : Endpoint}
    (hopens : Transcript.Opens es) :
    Downstream settings (Session.fresh peer localAddress) es := by
  have hm : Transcript.Mute .client es := Transcript.mute_of_upkeep hopens.upkeep
  have hd : Transcript.Deaf .remote es := Transcript.deaf_of_upkeep hopens.upkeep
  refine ⟨⟨.silent, rfl, hd.read.symm, ?_⟩, hm.failed, hd.sawEnd⟩
  exact (List.append_nil _).trans hm.taken

theorem downstream_invariant : Invariant ctx
    (fun h s => Downstream ctx.settings s h.calls ∧ h.Guarded Conversed)
    (fun h s => DownstreamEnd ctx.settings s h.calls ∧ h.Guarded Conversed) := by
  refine guarded_invariant (J := fun es s => Downstream ctx.settings s es)
    (F := fun es s => DownstreamEnd ctx.settings s es) downstream_fresh (fun hs hi h => ?_)
    (fun hs hi h => ?_) (fun hd => hd.ended) (fun he hall => he.upkeep hall)
    fun _ _ _ hv => conversed_of_upkeep hv
  · obtain ⟨hg, hd, -⟩ := h.downstream hs hi
    exact ⟨hg, hd⟩
  · obtain ⟨hg, hd, -⟩ := h.downstream hs hi
    exact ⟨hg, hd⟩

theorem turn_offers {h : History} {role : Role} {readiness : Readiness} {ids ids' : Dns.QueryIds}
    {goes : Bool} (hl : Life ctx h s)
    (hrun : Run (Session.handle ctx role readiness ⟨s, ids⟩) es (goes, ⟨s', ids'⟩)) :
    s.offered h.calls <+: s'.offered (h.calls ++ es) := by
  have hd := (downstream_invariant.life hl).1
  cases goes with
  | true => exact ((turn_steps hl.shaped hrun).1.downstream hl.shaped hd).2
  | false =>
    obtain ⟨es₁, es₂, e, rfl, hsteps, h₂⟩ := turn_fails hl.shaped hrun
    rw [← List.append_assoc, Session.offered_mute (Transcript.mute_of_aside h₂)]
    exact (hsteps.downstream hl.shaped hd).2

/-- **What a client sees is a conversation.** At any time, what was offered to a client, the bytes it
    has taken followed by those it is still to take, is a conversation, and with every event it only
    grows.

    * While the session goes on, the stage says how far the conversation has come, nothing that was
      offered is lost, and the data of a tunnel is what was read from the remote side.
    * When a session has ended, the client has taken a prefix of what it was offered; when it has ended
      because the remote side did, all of it. A success was announced only if the session has reached
      the stage for it, and then nothing else.
    * Whenever the client is asked to take bytes, they complete a conversation. -/
theorem client_sees_conversation {h : History} :
    (Life ctx h s → Downstream ctx.settings s h.calls) ∧
      (Ended ctx h s →
        DownstreamEnd ctx.settings s h.calls ∧ h.taken .client <+: s.offered h.calls) ∧
      (Life ctx h s ∨ Ended ctx h s → h.Guarded Conversed) ∧
      (Life ctx h s → ∀ role readiness ids es goes s' ids',
        Run (Session.handle ctx role readiness ⟨s, ids⟩) es (goes, ⟨s', ids'⟩) →
          s.offered h.calls <+: s'.offered (h.calls ++ es)) := by
  refine ⟨fun hl => (downstream_invariant.life hl).1, fun he => ?_, ?_, ?_⟩
  · exact ⟨(downstream_invariant.ended he).1, List.prefix_append _ _⟩
  · rintro (hl | he)
    · exact (downstream_invariant.life hl).2
    · exact (downstream_invariant.ended he).2
  · intro hl role readiness ids es goes s' ids' hrun
    exact turn_offers hl hrun

/-- What `client_sees_conversation` says while a tunnel is up and when its remote side has left. -/
theorem keyholder_sees_conversation :
    (∃ h s, Life ⟨lockedSettings, none, 9⟩ h s ∧ s.stage = .connected ∧
      Downstream lockedSettings s h.calls ∧ h.Guarded Conversed) ∧
    ∃ h s, Ended ⟨lockedSettings, none, 9⟩ h s ∧ Transcript.sawEnd .remote h.calls = true ∧
      h.taken .client = [5, 2, 1, 0, 5, 0, 0, 1, 192, 0, 2, 1, 4, 56, 7, 8] ∧
      DownstreamEnd lockedSettings s h.calls ∧ h.Guarded Conversed := by
  constructor
  · obtain ⟨h, s, hl, hx⟩ := exists_life_of_rehearse ⟨lockedSettings, none, 9⟩ keyholder
      (handshake 3 ++ [attemptDone]) (fun _ s => s.stage = .connected) (by decide +kernel)
    exact ⟨h, s, hl, of_decide_eq_true hx, client_sees_conversation.1 hl,
      client_sees_conversation.2.2.1 (.inl hl)⟩
  · obtain ⟨h, s, he, hx⟩ := exists_ended_of_rehearseEnd ⟨lockedSettings, none, 9⟩ keyholder
      (handshake 3 ++ [attemptDone]) .remote { readable := true }
      (fun h _ => Transcript.sawEnd .remote h.calls = true ∧
        h.taken .client = [5, 2, 1, 0, 5, 0, 0, 1, 192, 0, 2, 1, 4, 56, 7, 8]) (by decide +kernel)
    obtain ⟨hend, ht⟩ := of_decide_eq_true hx
    exact ⟨h, s, he, hend, ht, (client_sees_conversation.2.1 he).1,
      client_sees_conversation.2.2.1 (.inr he)⟩

end SocksProxy
