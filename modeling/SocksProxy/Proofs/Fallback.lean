/-
  Falling back to the next candidate.

  * `Wants` ties the candidates of a tunnel to what the client asked for and what a name server has
    answered;
  * `Attempts.Records` ties the attempts of a session to its history, and `Session.Seeks` says it of
    each stage;
  * `Turn.seeks`: a turn goes on where the history stands.

  **`candidates_tried_in_order`** puts them together for whole lives.
-/
import SocksProxy.Proofs.Conversation
import SocksProxy.Proofs.Progress

namespace SocksProxy

open Dialogue

/-! ## Answers of name servers -/

theorem Dns.addressesIn_eq_ok {id : UInt16} {response : Bytes} {addresses : List Ip}
    (h : Dns.addressesIn id response = .ok addresses) :
    ∃ m, Dns.Message.parse? response = some m ∧ m.id = id ∧ addresses = m.addresses ∧
      addresses ≠ [] := by
  rw [Dns.addressesIn] at h
  split at h
  · nomatch h
  · next m hm =>
    split at h
    · nomatch h
    · next hid =>
      split at h
      · nomatch h
      · split at h
        · nomatch h
        · split at h
          · nomatch h
          · next hne =>
            cases h
            exact ⟨m, hm, by simpa using hid, rfl, by simpa using hne⟩

theorem Dns.Query.id_of_ofText {id : UInt16} {text : String} {type : Dns.RecordType} {query : Dns.Query}
    (h : Dns.Query.ofText id text type = .ok query) : query.id = id := by
  simp only [Dns.Query.ofText] at h
  split at h
  · nomatch h
  · split at h
    · nomatch h
    · split at h
      · cases h
        rfl
      · nomatch h

/-! ## Candidates -/

namespace Transcript

variable {es : Transcript}

theorem targets_of_untried (h : ¬ Tried es) : targets es = [] :=
  targets_eq_nil fun e he socket hv => h ⟨e, he, socket, hv⟩

theorem Minor.targets (h : Minor es) : targets es = [] :=
  targets_of_untried h.untried

end Transcript

theorem History.targets_turn {h : History} {role : Role} {r : Readiness} {stage : Stage}
    {es : Transcript} (ht : h.calls.targets = []) (hes : es.targets = []) :
    (calls (h ++ [.event role r] ++ turn stage es)).targets = [] := by
  rw [calls_append, calls_event, calls_turn, Transcript.targets_append, ht, hes]
  rfl

/-- The client has made the request behind its negotiation. -/
def History.Asks (settings : Settings) (h : History) (request : Request) : Prop :=
  ∃ rest n, behindNegotiation settings h.heard = some rest ∧ Request.decode rest = .ok (request, n)

/-- The client wants a tunnel to one of the candidates: to the address of its request, or to the addresses
    that the name server has given for the name of its request. -/
inductive Wants (settings : Settings) (h : History) : List Endpoint → Prop where
  | literal {request : Request} {endpoint : Endpoint} :
      h.Asks settings request → request.command = .connect →
      request.address.endpoint? = some endpoint → Wants settings h [endpoint]
  | resolved {request : Request} {name : DomainName} {query : Dns.Query} {socket : Socket}
      {server : Endpoint} {datagram : Chunk Handler.datagramSize} {m : Dns.Message} :
      h.Asks settings request → request.command = .connect →
      request.address.host = .domain name →
      Dns.Query.ofText query.id name.text .a = .ok query →
      ⟨.sendTo socket query.encode server, (.ok () : Except IoError Unit)⟩ ∈ h.calls →
      ⟨.receiveFrom socket Handler.datagramSize, (.ok (datagram, server) :
        Except IoError (Chunk Handler.datagramSize × Endpoint))⟩ ∈ h.calls →
      Dns.Message.parse? datagram = some m → m.id = query.id → m.addresses ≠ [] →
      Wants settings h (m.addresses.map (⟨·, request.address.port⟩))

section
variable {settings : Settings} {h h' : History} {request : Request} {candidates : List Endpoint}

theorem History.Asks.mono (ha : h.Asks settings request) : (h ++ h').Asks settings request := by
  obtain ⟨rest, n, hrest, hd⟩ := ha
  refine ⟨rest ++ Transcript.read .client (h'.callsIn Stage.isHandshake), n, ?_,
    (Request.decode_front hd).2 _⟩
  rw [heard, callsIn_append, Transcript.read_append]
  exact behindNegotiation_takesFront.append hrest _

theorem History.mem_calls {e : SessionEvent} (he : e ∈ h.calls) : e ∈ (h ++ h').calls := by
  rw [calls_append]
  exact List.mem_append_left _ he

theorem Wants.mono (hw : Wants settings h candidates) : Wants settings (h ++ h') candidates := by
  cases hw with
  | literal ha hc he => exact .literal ha.mono hc he
  | resolved ha hc hh hq hs hr hm hid hne =>
    exact .resolved ha.mono hc hh hq (History.mem_calls hs) (History.mem_calls hr) hm hid hne

theorem Wants.ne_nil (hw : Wants settings h candidates) : candidates ≠ [] := by
  cases hw with
  | literal => nofun
  | resolved _ _ _ _ _ _ _ _ hne => exact fun h => hne (List.map_eq_nil_iff.1 h)

end

/-! ## Records -/

/-- The attempts are those of a history with the failures. -/
structure Attempts.Records (a : Attempts) (candidates : List Endpoint)
    (failures : List (Endpoint × IoError)) : Prop where
  started : a.started = failures.length
  candidates : failures.map (·.1) ++ a.remaining = candidates
  current : a.current = failures.getLast?.map (·.1)
  lastError : a.lastError = failures.getLast?.map (·.2)

section
variable {a a' : Attempts} {candidates rest : List Endpoint} {failures : List (Endpoint × IoError)}
  {target : Endpoint} {e : IoError} {es : Transcript} {h : History} {stage : Stage}

theorem Attempts.records_new : (Attempts.new candidates).Records candidates [] :=
  ⟨rfl, rfl, rfl, rfl⟩

theorem Attempts.Records.failed (ha : a.Records candidates failures)
    (hrem : a.remaining = target :: rest) :
    ((a.begin target rest).failed e).Records candidates (failures ++ [(target, e)]) where
  started := by
    rw [List.length_append, ← ha.started]
    rfl
  candidates := by
    rw [← ha.candidates, hrem, List.map_append, List.append_assoc]
    rfl
  current := by
    rw [List.getLast?_concat]
    rfl
  lastError := by
    rw [List.getLast?_concat]
    rfl

theorem Attempts.Records.failureReply (ha : a.Records candidates failures)
    (hl : failures.getLast? = some (target, e)) :
    a.failureReply = ⟨.ofConnectError e, .ofEndpoint target⟩ := by
  rw [Attempts.failureReply, ha.current, ha.lastError, hl]
  rfl

theorem Tries.pursues (stage : Stage) (ht : Tries a es a') (ha : a.Records candidates failures)
    (hp : Pursues failures h) :
    ∃ failures', a'.Records candidates failures' ∧ Pursues failures' (h ++ .turn stage es) := by
  induction ht with
  | nil => exact ⟨failures, ha, hp.logged Transcript.logs_nil⟩
  | snoc _ hrem h₁ h₂ h₃ ih =>
    obtain ⟨failures', ha', hp'⟩ := ih
    rw [ha'.started] at h₂
    refine ⟨_, ha'.failed hrem, ?_⟩
    simp only [History.turn_append, ← List.append_assoc]
    exact ((hp'.logged h₁).failed (.atOnce h₂)).logged h₃

end

/-- The session has an attempt under way, at one of the candidates. -/
inductive Session.Attempting (candidates : List Endpoint) (h : History) (s : Session) : Prop where
  | intro {failures : List (Endpoint × IoError)} {a : Attempts} {target : Endpoint}
      {rest : List Endpoint} {stream : Stream} {early : Bytes} :
      a.Records candidates failures → a.remaining = target :: rest →
      s.remote = some (.stream ⟨a.begin target rest, some stream, early⟩) →
      stream.socket = ⟨.remote, failures.length⟩ → SocksProxy.Attempting failures target h →
      Session.Attempting candidates h s

/-- All candidates have failed, and the client was told why the last one did. -/
def GivenUp (settings : Settings) (candidates : List Endpoint) (h : History) (s : Session) : Prop :=
  ∃ last e, Exhausted candidates last e h ∧
    s.offered h.calls = Conversation.negotiation settings.authMethod ++
      Reply.encode ⟨.ofConnectError e, .ofEndpoint last⟩

/-- What becomes of the candidates, whether the session goes on or not. -/
def SoughtAfter (settings : Settings) (candidates : List Endpoint) (x : Except SessionError Unit)
    (h : History) (s : Session) : Prop :=
  match x with
  | .ok _ => s.Attempting candidates h
  | .error _ => GivenUp settings candidates h s

section
variable {settings : Settings} {s s' : Session} {es es' : Transcript} {x : Except SessionError Unit}
  {h : History} {stage : Stage}

/-- Calls that do not touch the streams leave the conversation as it is. -/
theorem Downstream.quiet (s' : Session) (hd : Downstream settings s es) (hq : es'.Quiet)
    (hc : s'.client = s.client)
    (hst : s'.stage = s.stage ∨ s.stage.IsAgreed ∧ s'.stage.IsAgreed) :
    Downstream settings s' (es ++ es') := by
  obtain ⟨c, hf, hdata, hb⟩ := hd.conversation
  have hm : Transcript.Mute .client es' := hq.mute
  have hr : Transcript.Deaf .remote es' := hq.deaf
  refine ⟨⟨c, ?_, ?_, ?_⟩, ?_, ?_⟩
  · rcases hst with hst | ⟨hst, hst'⟩
    · rw [hst]
      exact hf
    · exact (Conversation.fits_agreed hst').2 ((Conversation.fits_agreed hst).1 hf)
  · rw [Transcript.read_append, hr.read, List.append_nil]
    exact hdata
  · rw [Transcript.taken_append, hm.taken, List.append_nil, hc]
    exact hb
  · rw [Transcript.failed_append, hm.failed, hd.unbroken]
    rfl
  · rw [Transcript.sawEnd_append, hr.sawEnd, hd.remoteOpen]
    rfl

theorem Downstream.agreed (hd : Downstream settings s es) (hst : s.stage.IsAgreed) :
    s.offered es = Conversation.negotiation settings.authMethod := by
  obtain ⟨c, hf, -, hb⟩ := hd.conversation
  rw [hd.offered_eq, hb, (Conversation.fits_agreed hst).1 hf, Conversation.bytes_agreed]

theorem Proceeds.sought (stage : Stage) {a : Attempts} {early : Bytes} {candidates : List Endpoint}
    {failures : List (Endpoint × IoError)} (hx : Proceeds s a early es x s')
    (ha : a.Records candidates failures) (hp : Pursues failures h) (hne : candidates ≠ [])
    (hd : Downstream settings s h.calls) (hst : s.stage.IsAgreed)
    (hrole : s.client.stream.socket.role = .client) :
    SoughtAfter settings candidates x (h ++ .turn stage es) s' := by
  cases hx with
  | @opened es₁ es₂ es₃ _ _ _ _ ht hrem hlogs hsocket hbegins =>
    obtain ⟨failures', ha', hp'⟩ := ht.pursues stage ha hp
    rw [ha'.started] at hsocket hbegins
    have hlogged : Pursues failures' (h ++ .turn stage es₁ ++ .turn stage es₂) := hp'.logged hlogs
    have hattempt : Attempting failures' _
        (h ++ .turn stage es₁ ++ .turn stage es₂ ++ .turn stage es₃ ++ []) :=
      .intro hlogged hbegins .nil
    rw [List.append_nil] at hattempt
    simp only [History.turn_append, ← List.append_assoc]
    exact .intro ha' hrem rfl hsocket hattempt
  | @exhausted es₁ es₂ es₃ a' r stream ht hrem hw haside =>
    obtain ⟨failures', ha', hp'⟩ := ht.pursues stage ha hp
    have hall : failures'.map (·.1) = candidates := by
      rw [← ha'.candidates, hrem, List.append_nil]
    obtain ⟨⟨last, e⟩, hlast⟩ : ∃ failure, failures'.getLast? = some failure := by
      refine Option.isSome_iff_exists.1 ?_
      rw [List.getLast?_isSome]
      rintro rfl
      exact hne hall.symm
    have hreply : a'.failureReply = ⟨.ofConnectError e, .ofEndpoint last⟩ := ha'.failureReply hlast
    have hd' : Downstream settings s (h.calls ++ es₁) :=
      hd.quiet _ (Transcript.quiet_of_setup ht.setup) rfl (.inl rfl)
    have hspoken : Spoken s.client.stream a'.failureReply.encode es₂
        (.error (.connect a'.failureText)) stream := .of_worked hw hrole nofun
    refine ⟨last, e, ?_, ?_⟩
    · have hrest : (History.turn stage (es₂ ++ es₃)).calls.targets = [] := by
        rw [History.calls_turn, Transcript.targets_append, Transcript.targets_of_aside haside,
          Transcript.targets_eq_nil (Transcript.tunnel_of_work hw.calls |>.imp fun _ hv => hv.1)]
        rfl
      rw [History.turn_append, ← List.append_assoc]
      exact .intro hall hlast hp' hrest
    · have hsaid : ((s.withOutgoing ⟨a', none, early⟩).withClientStream stream).offered
          (h.calls ++ es₁ ++ es₂) = s.offered (h.calls ++ es₁) ++ a'.failureReply.encode :=
        hspoken.offered hd'
      rw [History.calls_append, History.calls_turn, ← List.append_assoc, ← List.append_assoc,
        Session.offered_mute (Transcript.mute_of_aside haside), hsaid, hd'.agreed hst, hreply]

end

/-! ## Sessions -/

/-- The request whose name is being resolved, and the query that was sent for it. -/
inductive Awaits (settings : Settings) (h : History) (s : Session) : Prop where
  | intro {request : Request} {intent : Intent} {name : DomainName} :
      h.Asks settings request → request.command = intent.command →
      request.address.host = .domain name → s.pending = some ⟨intent, request.address.port⟩ →
      (∀ (slot : Nat) (lookup : Lookup), s.lookups[slot]? = some (some lookup) → ∃ query,
        query.id = lookup.id ∧ Dns.Query.ofText query.id name.text .a = .ok query ∧
        ⟨.sendTo lookup.socket query.encode lookup.server, (.ok () : Except IoError Unit)⟩ ∈ h.calls) →
      Awaits settings h s

/-- Where a session stands with its candidates. -/
structure Session.Seeks (settings : Settings) (h : History) (s : Session) : Prop where
  untried : s.stage ≠ .connecting → s.stage ≠ .connected → h.calls.targets = []
  awaits : s.stage = .resolving → Awaits settings h s
  attempting : s.stage = .connecting → ∃ candidates, Wants settings h candidates ∧
    s.Attempting candidates h
  established : s.stage = .connected → ∃ candidates, Wants settings h candidates ∧
    Established candidates h

/-- Where a session stood with its candidates when it ended. -/
def Session.Sought (settings : Settings) (h : History) (s : Session) : Prop :=
  h.calls.targets = [] ∨ ∃ candidates, Wants settings h candidates ∧
    (UnderWay candidates h ∨ Established candidates h ∨ GivenUp settings candidates h s)

/-- Where a session stands behind a turn, whether it goes on or not. -/
def SeeksAfter (settings : Settings) (x : Except SessionError Unit) (h : History) (s : Session) :
    Prop :=
  match x with
  | .ok _ => s.Seeks settings h
  | .error _ => s.Sought settings h

section
variable {settings : Settings} {s s' : Session} {h h' : History} {es : Transcript}
  {x : Except SessionError Unit} {role : Role} {r : Readiness} {stage : Stage} {socket : Socket}
  {candidates : List Endpoint}

/-! ## What keeps sessions where they stand -/

theorem Session.Attempting.underWay (ha : s.Attempting candidates h) : UnderWay candidates h := by
  obtain ⟨ha, hrem, -, -, hattempt⟩ := ha
  exact .intro (by rw [← hrem, ha.candidates]) hattempt

theorem Session.Seeks.stands (hs : s.Seeks settings h) : h.calls.targets = [] ∨
    ∃ candidates, Wants settings h candidates ∧ (UnderWay candidates h ∨ Established candidates h) := by
  by_cases hc : s.stage = .connecting
  · obtain ⟨candidates, hw, ha⟩ := hs.attempting hc
    exact .inr ⟨candidates, hw, .inl ha.underWay⟩
  · by_cases hd : s.stage = .connected
    · obtain ⟨candidates, hw, he⟩ := hs.established hd
      exact .inr ⟨candidates, hw, .inr he⟩
    · exact .inl (hs.untried hc hd)

theorem Session.Seeks.sought (hs : s.Seeks settings h) : s.Sought settings h :=
  hs.stands.imp_right fun ⟨candidates, hw, h⟩ => ⟨candidates, hw, h.imp_right .inl⟩

theorem Session.Seeks.after (hs : s.Seeks settings h) : SeeksAfter settings x h s := by
  cases x with
  | ok _ => exact hs
  | error e => exact hs.sought

theorem seeksAfter_untried (ht : h.calls.targets = [])
    (hst : x = .ok () → s.stage ≠ .connecting ∧ s.stage ≠ .connected)
    (ha : x = .ok () → s.stage = .resolving → Awaits settings h s) : SeeksAfter settings x h s := by
  cases x with
  | ok _ =>
    obtain ⟨hc, hd⟩ := hst rfl
    exact ⟨fun _ _ => ht, ha rfl, fun h => absurd h hc, fun h => absurd h hd⟩
  | error e => exact .inl ht

theorem SoughtAfter.seeks (ha : SoughtAfter settings candidates x h s)
    (hw : Wants settings h candidates) (hst : s.stage = .connecting) : SeeksAfter settings x h s := by
  cases x with
  | ok _ =>
    exact ⟨fun hc => absurd hst hc, fun h => absurd (hst.symm.trans h) nofun,
      fun _ => ⟨candidates, hw, ha⟩, fun h => absurd (hst.symm.trans h) nofun⟩
  | error e => exact .inr ⟨candidates, hw, .inr (.inr ha)⟩

theorem Awaits.mono (h' : History) (ha : Awaits settings h s) : Awaits settings (h ++ h') s := by
  obtain ⟨hasks, hc, hh, hp, hl⟩ := ha
  refine .intro hasks.mono hc hh hp fun slot lookup hlookup => ?_
  obtain ⟨query, hid, hq, hsent⟩ := hl slot lookup hlookup
  exact ⟨query, hid, hq, History.mem_calls hsent⟩

theorem Established.mono (he : Established candidates h) (hh : h'.calls.targets = []) :
    Established candidates (h ++ h') := by
  obtain ⟨hc, ha, hlook, hrest⟩ := he
  rw [List.append_assoc]
  refine .intro hc ha hlook ?_
  rw [History.calls_append, Transcript.targets_append, hrest, hh]
  rfl

theorem Attempting.wait {failures : List (Endpoint × IoError)} {target : Endpoint}
    (ha : Attempting failures target h) (hw : ∀ {h₁ : History},
      Waits ⟨.remote, failures.length⟩ h₁ → Waits ⟨.remote, failures.length⟩ (h₁ ++ h')) :
    Attempting failures target (h ++ h') := by
  obtain ⟨hp, hb, hwaits⟩ := ha
  rw [List.append_assoc]
  exact .intro hp hb (hw hwaits)

/-- Nothing comes of the attempt yet, and no other is made. -/
theorem Session.Seeks.wait (stream : Stream) (hs : s.Seeks settings h) (hh : h'.calls.targets = [])
    (hw : s.stage = .connecting → ∀ {n : Nat} {h₁ : History}, Waits ⟨.remote, n⟩ h₁ →
      Waits ⟨.remote, n⟩ (h₁ ++ h')) : (s.withClientStream stream).Seeks settings (h ++ h') where
  untried hc hd := by
    rw [History.calls_append, Transcript.targets_append, hs.untried hc hd, hh]
    rfl
  awaits hst := by
    obtain ⟨hasks, hc, hh, hp, hl⟩ := (hs.awaits hst).mono h'
    exact .intro hasks hc hh hp hl
  attempting hst := by
    obtain ⟨candidates, hwants, ha, hrem, hremote, hsocket, hattempt⟩ := hs.attempting hst
    exact ⟨candidates, hwants.mono, .intro ha hrem hremote hsocket (hattempt.wait (hw hst))⟩
  established hst := by
    obtain ⟨candidates, hwants, he⟩ := hs.established hst
    exact ⟨candidates, hwants.mono, he.mono hh⟩

/-! ## Turns -/

theorem Fulfils.seeks {intent : Intent} (hf : Fulfils s intent candidates es x s')
    (hw : intent = .connect → Wants settings h candidates) (ht : h.calls.targets = [])
    (hd : Downstream settings s h.calls) (hst : s.stage.IsAgreed)
    (hrole : s.client.stream.socket.role = .client) :
    SeeksAfter settings x (h ++ .turn stage es) s' := by
  cases hf with
  | connect hp =>
    have hd' := hd.quiet { s with
      stage := .connecting
      inbound := []
      remote := some (.stream ⟨Attempts.new candidates, none, s.inbound⟩) }
      Transcript.all_nil rfl (.inr ⟨hst, .inr (.inr rfl)⟩)
    rw [List.append_nil] at hd'
    have hsought := hp.sought stage Attempts.records_new (.untried ht) (hw rfl).ne_nil hd'
      (.inr (.inr rfl)) hrole
    exact hsought.seeks (hw rfl).mono hp.stage
  | associate hminor hassociates =>
    refine seeksAfter_untried ?_ (fun hx => ?_) fun hx h => ?_
    · rw [History.calls_append, History.calls_turn, Transcript.targets_append, ht, hminor.targets]
      rfl
    · rw [(hassociates hx).stage]
      exact ⟨nofun, nofun⟩
    · exact absurd ((hassociates hx).stage.symm.trans h) nofun

theorem Obeys.seeks (ho : Obeys s es x s') (hs : s.Shaped) (hst : s.stage = .authenticated)
    (hb : behindNegotiation settings h.heard = some s.inbound) (ht : h.calls.targets = [])
    (hd : Downstream settings s h.calls) : SeeksAfter settings x (h ++ .turn stage es) s' := by
  have hasks {request : Request} {n : Nat} (hd : Request.decode s.inbound = .ok (request, n)) :
      h.Asks settings request := ⟨s.inbound, n, hb, hd⟩
  cases ho with
  | refused href =>
    refine seeksAfter_untried ?_ nofun nofun
    rw [History.calls_append, History.calls_turn, Transcript.targets_append, ht,
      Transcript.targets_of_untried href.untried]
    rfl
  | @resolving es₁ es₂ request n intent name query slot id server hdec hc hh hq hsent hlogs hask =>
    refine seeksAfter_untried ?_ (fun _ => ⟨nofun, nofun⟩) fun _ _ => ?_
    · rw [History.calls_append, History.calls_turn, Transcript.targets_append, ht,
        Transcript.targets_append, Transcript.targets_of_aside hlogs.aside,
        Transcript.targets_of_untried hask.untried]
      rfl
    · refine .intro (hasks hdec).mono hc hh rfl fun i lookup hlookup => ?_
      obtain ⟨hl, -⟩ := (Session.holds_handshake (by rw [hst]; rfl)).1 hs.holds
      rw [Vector.getElem?_set] at hlookup
      split at hlookup
      · cases hlookup
        have hid := Dns.Query.id_of_ofText hq
        refine ⟨query, hid, by rw [hid]; exact hq, ?_⟩
        rw [History.calls_append, History.calls_turn]
        exact List.mem_append_right _ (List.mem_append_right _ hsent)
      · exact absurd hlookup (hl.getElem? i lookup)
  | @fulfilled es₁ es₂ request n intent endpoint x s' hdec hc he hlogs hf =>
    have hlit (hintent : intent = .connect) : Wants settings (h ++ .turn stage es₁) [endpoint] :=
      .literal (hasks hdec).mono (by rw [hc, hintent]; rfl) he
    have hd' := hd.quiet { s with inbound := s.inbound.drop n }
      (Transcript.quiet_of_aside hlogs.aside) rfl (.inl rfl)
    rw [History.turn_append, ← List.append_assoc]
    refine hf.seeks hlit ?_ ?_ (.inl hst) (congrArg Socket.role hs.client)
    · rw [History.calls_append, History.calls_turn, Transcript.targets_append, ht,
        Transcript.targets_of_aside hlogs.aside]
      rfl
    · rw [History.calls_append, History.calls_turn]
      exact hd'

end

variable {ctx : Context} {s s' : Session} {h : History} {es : Transcript}
  {x : Except SessionError Unit} {role : Role} {r : Readiness}

/-- An attempt that is under way is given up. -/
theorem Attempting.fails {failures : List (Endpoint × IoError)} {target : Endpoint} {e : IoError}
    {es₁ es₂ es₃ : Transcript} (stage : Stage) (ha : Attempting failures target h)
    (hb : es₁.Breaks ⟨.remote, failures.length⟩ r e) (hlogs : es₂.Logs)
    (hc : es₃.Closes ⟨.remote, failures.length⟩) :
    Pursues (failures ++ [(target, e)])
      (h ++ [.event .remote r] ++ .turn stage (es₁ ++ es₂ ++ es₃)) := by
  obtain @⟨_, _, stage₁, _, hp, hbegins, hwaits⟩ := ha
  have hfails := hp.failed (@Fails.later _ _ _ stage₁ stage _ _ _ _ _ _ hbegins hwaits hb hlogs hc)
  simp only [← List.append_assoc] at hfails ⊢
  exact hfails

theorem Attempted.seeks {out : Outgoing} {stream : Stream} (ha : Attempted s r out stream es x s')
    (hl : Life ctx h s) (hs : s.Seeks ctx.settings h) (hst : s.stage = .connecting)
    (hrem : s.remote = some (.stream out)) (hout : out.stream = some stream) :
    SeeksAfter ctx.settings x (h ++ [.event .remote r] ++ .turn s.stage es) s' := by
  obtain ⟨candidates, hw, @⟨failures, a, target, rest, _, early, hrec, hremain, hremote, hsocket,
    hattempt⟩⟩ := hs.attempting hst
  rw [hrem] at hremote
  cases hremote
  cases hout
  cases ha with
  | waits hlook hfatal =>
    rw [hsocket] at hlook
    rw [List.append_assoc]
    refine SoughtAfter.seeks (x := .ok ()) (.intro hrec hremain hrem hsocket ?_) hw.mono hst
    exact hattempt.wait fun hwait => by
      rw [← List.append_assoc]
      exact hwait.look hfatal hlook
  | @breaks es₁ es₂ es₃ es₄ why _ _ hbreaks hlogs hcloses hp =>
    rw [hsocket] at hbreaks hcloses
    have hpursues := hattempt.fails s.stage hbreaks hlogs hcloses
    have hquiet := (Transcript.quiet_of_aside (hbreaks.aside.append hlogs.aside)).append
      (Transcript.quiet_of_upkeep (hcloses.upkeep.imp fun _ hv => hv.imp_right fun h => ⟨_, h⟩))
    have hd := (downstream_invariant.life hl).1.quiet s hquiet rfl (.inl rfl)
    rw [History.turn_append, ← List.append_assoc]
    refine (hp.sought _ (hrec.failed hremain) hpursues hw.ne_nil ?_ (.inr (.inr hst))
      (congrArg Socket.role hl.shaped.client)).seeks ?_ (hp.stage.trans hst)
    · rw [History.calls_append, History.calls_event, History.calls_turn]
      exact hd
    · rw [List.append_assoc, List.append_assoc]
      exact hw.mono
  | @succeeds es₁ es₂ peer _ _ hlook hall hconnected =>
    rw [hsocket] at hlook
    have hestablished : Established candidates
        (h ++ [.event .remote r] ++ .turn s.stage (es₁ ++ es₂)) := by
      rw [History.turn_append, ← List.append_assoc]
      refine .intro (by rw [← hremain, hrec.candidates]) hattempt hlook ?_
      rw [History.calls_turn]
      exact Transcript.targets_eq_nil (hall.imp fun _ hv => hv.1)
    have hwants : Wants ctx.settings (h ++ [.event .remote r] ++ .turn s.stage (es₁ ++ es₂))
        candidates := by
      rw [List.append_assoc]
      exact hw.mono
    cases x with
    | ok _ =>
      obtain ⟨hst', -⟩ := hconnected rfl
      exact ⟨fun _ hc => absurd hst' hc, fun h => absurd (hst'.symm.trans h) nofun,
        fun h => absurd (hst'.symm.trans h) nofun, fun _ => ⟨candidates, hwants, hestablished⟩⟩
    | error e => exact .inr ⟨candidates, hwants, .inr (.inl hestablished)⟩

theorem Session.Seeks.untried_handshake (hs : s.Seeks ctx.settings h)
    (hst : s.stage.isHandshake = true) : h.calls.targets = [] :=
  hs.untried (fun h => by rw [h] at hst; nomatch hst) fun h => by rw [h] at hst; nomatch hst

theorem Session.Seeks.untried_resolving (hs : s.Seeks ctx.settings h) (hst : s.stage = .resolving) :
    h.calls.targets = [] :=
  hs.untried (by rw [hst]; nofun) (by rw [hst]; nofun)

/-- What the name server has answered is wanted. -/
theorem Handler.Answered.wants {lookup : Lookup} {addresses : List Ip} {request : PendingRequest}
    {slot : Nat} (ha : Handler.Answered lookup es addresses) (hw : Awaits ctx.settings h s)
    (hlookup : s.lookups[slot]? = some (some lookup)) (hp : s.pending = some request)
    (hintent : request.intent = .connect) (hes : ∀ e ∈ es, e ∈ h.calls) :
    Wants ctx.settings h (addresses.map (⟨·, request.port⟩)) := by
  obtain ⟨hasks, hc, hh, hp', hl⟩ := hw
  obtain ⟨query, hid, hq, hsent⟩ := hl slot lookup hlookup
  obtain ⟨datagram, hreceived, hin⟩ := ha
  obtain ⟨m, hm, hmid, rfl, hne⟩ := Dns.addressesIn_eq_ok hin
  rw [hp] at hp'
  cases hp'
  obtain rfl := hintent
  exact .resolved hasks hc hh hq hsent (hes _ hreceived) hm (hmid.trans hid.symm) hne

/-- What is not about an attempt changes nothing. -/
theorem Session.Seeks.aside (hs : s.Seeks ctx.settings h) (stream : Stream) (hes : es.OfClient)
    (hr : role = .remote → s.stage ≠ .connecting) :
    SeeksAfter ctx.settings x (h ++ [.event role r] ++ .turn s.stage es) (s.withClientStream stream) := by
  rw [List.append_assoc]
  refine (hs.wait stream ?_ fun hst _ h₁ hwait => ?_).after
  · rw [History.calls_append, History.calls_turn, Transcript.targets_append, hes.targets]
    rfl
  · rw [← List.append_assoc]
    exact (hwait.event fun h => hr h hst).calls hes

/-- What a request leads to is seen behind the messages in front of it. -/
theorem Handshakes.seeks {w : Work} {es₁ es₂ : Transcript} {s₁ : Session} (hl : Life ctx h s)
    (hs : s.Seeks ctx.settings h) (hst : s.stage.isHandshake = true)
    (hn : Handshakes ctx s (.ok ()) w es₁) (hauth : w.session.stage = .authenticated)
    (ho : Obeys w.session es₂ x s₁) :
    SeeksAfter ctx.settings x (h ++ [.event role r] ++ .turn s.stage (es₁ ++ es₂)) s₁ := by
  have hup := (upstream_invariant.steps hl.shaped
    (@Invariant.event _ _ _ upstream_invariant _ _ role r (upstream_invariant.life hl)) hn.steps).1
  have hdown := (downstream_invariant.steps hl.shaped
    (@Invariant.event _ _ _ downstream_invariant _ _ role r (downstream_invariant.life hl)) hn.steps).1
  rw [Upstream, hauth] at hup
  rw [History.turn_append, ← List.append_assoc]
  exact ho.seeks (hn.shaped hl.shaped) hauth hup.1
    (History.targets_turn (hs.untried_handshake hst) hn.calls.targets) hdown

/-- Behind the answer of the name server, the request is fulfilled with the addresses that it gave. -/
theorem Fulfils.seeks_resolved {es₁ es₂ : Transcript} {lookup : Lookup} {addresses : List Ip}
    {request : PendingRequest} {slot : Nat} (hl : Life ctx h s) (hs : s.Seeks ctx.settings h)
    (hst : s.stage = .resolving) (hlookup : s.lookups[slot]? = some (some lookup))
    (hp : s.pending = some request) (hanswer : Handler.Answered lookup es₁ addresses)
    (hminor : es₁.Minor) (hquiet : es₁.Quiet)
    (hf : Fulfils { s with lookups := .replicate _ none, pending := none } request.intent
      (addresses.map (⟨·, request.port⟩)) es₂ x s') :
    SeeksAfter ctx.settings x (h ++ [.event role r] ++ .turn s.stage (es₁ ++ es₂)) s' := by
  have hwants (hintent : request.intent = .connect) : Wants ctx.settings
      (h ++ [.event role r] ++ .turn s.stage es₁) (addresses.map (⟨·, request.port⟩)) := by
    have hawaits := (hs.awaits hst).mono ([.event role r] ++ History.turn s.stage es₁)
    rw [← List.append_assoc] at hawaits
    refine hanswer.wants hawaits hlookup hp hintent fun e he => ?_
    rw [History.calls_append, History.calls_turn]
    exact List.mem_append_right _ he
  have hd := (downstream_invariant.life hl).1.quiet { s with
    lookups := .replicate _ none
    pending := none } hquiet rfl (.inl rfl)
  rw [History.turn_append, ← List.append_assoc]
  refine hf.seeks hwants (History.targets_turn (hs.untried_resolving hst) hminor.targets) ?_
    (.inr (.inl hst)) (congrArg Socket.role hl.shaped.client)
  rw [History.calls_append, History.calls_event, History.calls_turn]
  exact hd

theorem Turn.seeks (ht : Turn ctx s role r es x s') (hl : Life ctx h s)
    (hs : s.Seeks ctx.settings h) :
    SeeksAfter ctx.settings x (h ++ [.event role r] ++ .turn s.stage es) s' := by
  cases ht with
  | idle hr => exact hs.aside s.client.stream Transcript.ofClient_nil hr
  | tended hr _ hes => exact hs.aside _ hes fun h => by rw [hr] at h; nomatch h
  | negotiated hst hn =>
    have hst' := hn.isHandshake
    refine seeksAfter_untried (History.targets_turn (hs.untried_handshake hst) hn.calls.targets)
      (fun _ => ⟨fun h => ?_, fun h => ?_⟩) fun _ h => ?_ <;>
    · rw [h] at hst'
      nomatch hst'
  | requested hst hn hauth ho => exact hn.seeks hl hs hst hauth ho
  | resumed hst hn hauth ho hes =>
    have hseeks : SeeksAfter ctx.settings (.ok ()) (h ++ [.event role r] ++ .turn s.stage _) _ :=
      hn.seeks hl hs hst hauth ho
    rw [History.turn_append, ← List.append_assoc]
    refine (hseeks.wait _ ?_ fun _ _ _ hwait => hwait.calls hes).after
    rw [History.calls_turn]
    exact hes.targets
  | awaited hst hminor =>
    rw [List.append_assoc]
    refine Session.Seeks.wait s.client.stream hs ?_ fun h => absurd (hst.symm.trans h) nofun
    rw [History.calls_append, History.calls_turn, Transcript.targets_append, hminor.targets]
    rfl
  | unresolved hst hminor =>
    exact seeksAfter_untried (History.targets_turn (hs.untried_resolving hst) hminor.targets) nofun nofun
  | resolved hst hlookup hp hanswer hminor hquiet hf =>
    exact hf.seeks_resolved hl hs hst hlookup hp hanswer hminor hquiet
  | attempted hr hst hrem hout ha =>
    subst hr
    exact ha.seeks hl hs hst hrem hout
  | tunnelled hst hall hst' =>
    obtain ⟨candidates, hw, he⟩ := hs.established hst
    have htargets : (History.calls ([.event role r] ++ History.turn s.stage es)).targets = [] := by
      rw [History.calls_append, History.calls_turn, Transcript.targets_append,
        Transcript.targets_eq_nil (hall.imp fun _ hv => hv.1)]
      rfl
    rw [List.append_assoc]
    refine Session.Seeks.after ⟨fun _ hc => absurd hst' hc, fun h => absurd (hst'.symm.trans h) nofun,
      fun h => absurd (hst'.symm.trans h) nofun, fun _ => ⟨candidates, hw.mono, he.mono htargets⟩⟩
  | carried hst hminor ha =>
    have hst' := ha.stage
    refine seeksAfter_untried (History.targets_turn ?_ hminor.targets) (fun _ => ?_) fun _ h => ?_
    · exact hs.untried (by rw [hst]; nofun) (by rw [hst]; nofun)
    · rw [hst']
      exact ⟨nofun, nofun⟩
    · rw [hst'] at h
      nomatch h

/-! ## Lives -/

theorem Life.seeks (hl : Life ctx h s) : s.Seeks ctx.settings h := by
  induction hl with
  | start hrun =>
    obtain ⟨⟨localAddress, rfl⟩, hopens⟩ := start_cases hrun
    refine seeksAfter_untried (x := .ok ()) ?_ (fun _ => ⟨nofun, nofun⟩) nofun
    rw [History.calls_turn]
    exact (Transcript.minor_of_upkeep hopens.upkeep).targets
  | turn hl hrun ih => exact (turn_goes hl.shaped hl.represented hrun).seeks hl ih

/-- A line of the log changes nothing. -/
theorem Session.Sought.logged {settings : Settings} (stage : Stage) (hs : s.Sought settings h)
    (hlogs : es.Logs) : s.Sought settings (h ++ .turn stage es) := by
  have htargets : (History.calls (History.turn stage es)).targets = [] := by
    rw [History.calls_turn, Transcript.targets_of_aside hlogs.aside]
  rcases hs with ht | ⟨candidates, hw, ⟨hc, ha⟩ | he | ⟨last, e, ⟨hc, hl, hp, hrest⟩, ho⟩⟩
  · left
    rw [History.calls_append, Transcript.targets_append, ht, htargets]
    rfl
  · exact .inr ⟨candidates, hw.mono, .inl (.intro hc (ha.wait fun hwait => hwait.calls hlogs.ofClient))⟩
  · exact .inr ⟨candidates, hw.mono, .inr (.inl (he.mono htargets))⟩
  · refine .inr ⟨candidates, hw.mono, .inr (.inr ⟨last, e, ?_, ?_⟩)⟩
    · rw [List.append_assoc]
      refine .intro hc hl hp ?_
      rw [History.calls_append, Transcript.targets_append, hrest, htargets]
      rfl
    · rw [History.calls_append, History.calls_turn,
        Session.offered_mute (Transcript.mute_of_aside hlogs.aside), ho]

theorem Session.Sought.targets {settings : Settings} (hs : s.Sought settings h) :
    h.calls.targets = [] ∨ ∃ candidates, Wants settings h candidates ∧
      h.calls.targets <+: candidates ∧
        (UnderWay candidates h ∨ Established candidates h ∨ GivenUp settings candidates h s) := by
  rcases hs with ht | ⟨candidates, hw, hu | he | hg⟩
  · exact .inl ht
  · exact .inr ⟨candidates, hw, hu.targets, .inl hu⟩
  · exact .inr ⟨candidates, hw, he.targets, .inr (.inl he)⟩
  · obtain ⟨last, e, hx, ho⟩ := hg
    have hprefix : h.calls.targets <+: candidates := hx.targets ▸ List.prefix_rfl
    exact .inr ⟨candidates, hw, hprefix, .inr (.inr ⟨last, e, hx, ho⟩)⟩

theorem Ended.sought (he : Ended ctx h s) : ∃ before stage closing,
    h = before ++ History.turn stage closing ∧ Run s.close closing () ∧
      s.Sought ctx.settings before := by
  cases he with
  | @failed h s₀ _ role r _ _ es closing hl hrun hclose =>
    obtain ⟨es₁, es₂, e, rfl, hturn, hlogs⟩ := turn_ends hl.shaped hl.represented hrun
    have hsought : s.Sought ctx.settings _ := hturn.seeks hl hl.seeks
    refine ⟨_, s₀.stage, closing, ?_, hclose, hsought.logged s₀.stage hlogs⟩
    simp only [History.turn_append, ← List.append_assoc]
  | stopped hl hclose => exact ⟨_, _, _, rfl, hclose, hl.seeks.sought⟩

/-- The hasty client, whose attempts turn out to be refused. -/
def refusedClient : SocketScript :=
  { hastyClient with
    instead
      | .pendingError _ => some (.ok (some (.system .connrefused)))
      | _ => none }

end SocksProxy
