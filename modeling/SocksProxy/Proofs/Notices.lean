/-
  What observers are told of the remote side of a tunnel.

  * `Session.announced` and `Session.revoked`: that it is connected, and that it no longer is;
  * `Handler.onAttempt_announces`: an attempt is announced when it has succeeded, unless its stream
    fails before it can be put into service;
  * `Handler.onEvent_announces`: no other event changes what is announced;
  * `close_notices`: what was recorded is revoked when a session is closed.

  **`remote_notices_paired`** puts them together for whole lives: what is announced is revoked, once and
  before the client is gone. `revoked_before_announced` is a tunnel that was never announced and is
  revoked: its stream failed when it was to send what the client had sent ahead.
-/
import SocksProxy.Proofs.Discretion
import SocksProxy.Proofs.Faults
import SocksProxy.Proofs.Progress

namespace SocksProxy

open Dialogue

namespace Session

/-- What observers are told when a tunnel is up. -/
def announced (s : Session) : List Notice :=
  s.peer?.toList.map .remoteConnected

/-- What observers are told of its remote side when it is closed. -/
def revoked (s : Session) : List Notice :=
  s.peer?.toList.map .remoteDisconnected

variable {s : Session} {peer : Endpoint}

theorem announced_of_unconnected (h : s.Unconnected) : s.announced = [] := by
  rw [announced, show s.peer? = none from h]
  rfl

theorem announced_of_peer? (h : s.peer? = some peer) : s.announced = [.remoteConnected peer] := by
  rw [announced, h]
  rfl

theorem revoked_of_peer? (h : s.peer? = some peer) : s.revoked = [.remoteDisconnected peer] := by
  rw [revoked, h]
  rfl

/-- Between two turns, a session has a peer exactly if its tunnel is up. -/
theorem Represented.connectedTo_or_unconnected (h : s.Represented) :
    (∃ peer, s.ConnectedTo peer) ∨ s.stage ≠ .connected ∧ s.Unconnected := by
  have hnone (hremote : s.remote = none) : s.Unconnected :=
    peer?_of_not_stream (by simp [hremote])
  cases hst : s.stage with
  | accepted | authRequested | authenticated =>
    exact .inr ⟨nofun, hnone ((represented_handshake (by rw [hst]; rfl)).1 h).1⟩
  | resolving => exact .inr ⟨nofun, hnone (h.resolving hst).1⟩
  | connecting =>
    obtain ⟨-, -, -, out, _, _, hrem, -, -, hp⟩ := h.connecting hst
    exact .inr ⟨nofun, (peer?_of_stream hrem).trans hp⟩
  | connected =>
    obtain ⟨out, _, peer, hrem, -, hp, -⟩ := h.connected hst
    exact .inl ⟨peer, hst, (peer?_of_stream hrem).trans hp⟩
  | associated =>
    have hrem := (h.associated hst).1.remote
    exact .inr ⟨nofun, peer?_of_not_stream (by simp [hrem])⟩

/-- An attempt has succeeded, but its stream failed before it was put into service. -/
structure Stillborn (s s' : Session) (es : Transcript) : Prop where
  before : s.stage = .connecting
  behind : s'.stage = .connecting
  fails : es.Fails .remote
  discreet : es.notices = []
  unannounced : s.announced = []

end Session

namespace Handler

variable {ctx : Context} {w : Work} {role : Role} {r : Readiness}

/-- Observers are told of a tunnel exactly if it is up behind the handler. -/
def Announces (h : Handler Unit) (w : Work) (es : Transcript) : Prop :=
  h.Always w es
    (fun _ w' es => w.session.announced ++ es.notices = w'.session.announced)
    (fun _ w' es => w.session.announced ++ es.notices = w'.session.announced ∨
      w.session.Stillborn w'.session es)

theorem Announces.of_unconnected {h : Handler Unit} {es : Transcript} (hw : w.session.Unconnected)
    (hh : h.Always w es (fun _ w' es => w'.session.Unconnected ∧ es.notices = [])
      (fun _ w' es => w'.session.Unconnected ∧ es.notices = [])) : h.Announces w es := by
  have hsame (w' : Work) (es : Transcript) (h : w'.session.Unconnected ∧ es.notices = []) :
      w.session.announced ++ es.notices = w'.session.announced := by
    rw [Session.announced_of_unconnected hw, Session.announced_of_unconnected h.1, h.2]
    rfl
  exact hh.imp (fun _ => hsame) fun _ w' es h => .inl (hsame w' es h)

theorem Announces.of_discreet {h : Handler Unit} {es : Transcript} (hw : w.session.Unconnected)
    (hes : es.notices = []) (hh : Discreet Session.Unconnected h) : h.Announces w es :=
  .of_unconnected hw (hh.behind hw hes)

/-- Observers are told of a stream behind the calls that put it into service; or these fail. -/
theorem Establishes.announces {s s' : Session} {es : Transcript} {x : Except SessionError Unit}
    {out : Outgoing} {stream : Stream} {peer : Endpoint} (h : Establishes ctx s out stream peer es x s')
    (hrole : stream.socket.role = .remote) :
    es.notices = [.remoteConnected peer] ∧ s'.peer? = some peer ∨
      (∃ e, x = .error e) ∧ s'.stage = s.stage ∧ es.notices = [] ∧ es.Fails .remote := by
  have haddress {bound : Except IoError Endpoint} :
      Transcript.notices [⟨.localAddress stream.socket, bound⟩] = [] := rfl
  cases h with
  | unbound => exact .inr ⟨⟨_, rfl⟩, rfl, rfl, Transcript.fails_singleton (decide_eq_true hrole)⟩
  | unstarted h =>
    have hfails : Transcript.Fails (stream.queue out.early).socket.role _ := h.fails
    exact .inr ⟨⟨_, rfl⟩, rfl, Transcript.notices_behind haddress h.worked.notices,
      Transcript.Fails.right (hrole ▸ hfails)⟩
  | established h₁ h₂ =>
    refine .inl ⟨Transcript.notices_behind (Transcript.notices_ahead ?_ rfl) h₂.worked.notices, rfl⟩
    exact Transcript.notices_behind haddress h₁.worked.notices

/-- The stream of a successful attempt is put into service, and then observers are told. -/
theorem establish_announces {out : Outgoing} {stream : Stream} {peer : Endpoint}
    (hst : w.session.stage = .connecting) (hw : w.session.Unconnected)
    (hrole : stream.socket.role = .remote) {es : Transcript} (hes : es.notices = []) :
    (establish ctx out stream peer).Announces w es := by
  have hbefore := Session.announced_of_unconnected hw
  refine (establish_cases.shift es).imp ?_ ?_
  · rintro _ w' _ ⟨es₁, rfl, h⟩
    obtain ⟨htold, hpeer⟩ := (h.announces hrole).resolve_right fun hx => nomatch hx.1.choose_spec
    rw [hbefore, Session.announced_of_peer? hpeer, Transcript.notices_ahead hes htold]
    rfl
  · rintro e w' _ ⟨es₁, rfl, h⟩
    rcases h.announces hrole with ⟨htold, hpeer⟩ | ⟨-, hst', hdiscreet, hfails⟩
    · left
      rw [hbefore, Session.announced_of_peer? hpeer, Transcript.notices_ahead hes htold]
      rfl
    · exact .inr ⟨hst, hst'.trans hst, hfails.right, Transcript.notices_behind hes hdiscreet, hbefore⟩

/-- Observers are told of an attempt when it has succeeded, unless its stream fails first. -/
theorem onAttempt_announces {out : Outgoing} (hst : w.session.stage = .connecting)
    (hw : w.session.Unconnected) (hrem : w.session.remote = some (.stream out))
    (hrole : ∀ stream, out.stream = some stream → stream.socket.role = .remote) :
    (onAttempt ctx r out).Announces w [] := by
  have hpeer : out.attempts.peer = none := (Session.peer?_of_stream hrem).symm.trans hw
  have habandon {why : IoError} : Discreet Session.Unconnected (abandon ctx out why) := by
    unfold abandon
    split
    · exact discreet_bind (discreet_talk Talk.discreet_close) fun _ => discreet_tryEach hpeer
    · exact discreet_tryEach hpeer
  have habandonFailed {why : IoError} : Discreet Session.Unconnected (abandonFailed ctx out why) :=
    discreet_bind discreet_log fun _ => habandon
  unfold onAttempt
  split
  · exact .of_discreet hw rfl habandonFailed
  · next stream hout =>
    rw [Announces, always_bind, always_talk]
    intro es₁ x h₁
    have hlooked : Transcript.notices ([] ++ es₁) = [] := Talk.discreet_peerOf _ _ h₁
    rcases x with e | _ | peer
    · exact Announces.of_discreet hw hlooked habandonFailed
    · have hwait : Discreet Session.Unconnected
          (if r.isFatal then abandon ctx out (.plain .notConnected) else pure () : Handler Unit) := by
        split
        · exact habandon
        · exact discreet_pure
      exact Announces.of_discreet hw hlooked hwait
    · exact establish_announces hst hw (hrole stream hout) hlooked

/-- Between two turns, a session has announced its tunnel exactly if it is up. -/
theorem onEvent_announces (hs : w.session.Shaped) (hr : w.session.Represented) :
    (onEvent ctx role r).Announces w [] := by
  rcases hr.connectedTo_or_unconnected with ⟨peer, hw⟩ | ⟨hst, hw⟩
  · have hsame (w' : Work) (es : Transcript) (h : w'.session.ConnectedTo peer ∧ es.notices = []) :
        w.session.announced ++ es.notices = w'.session.announced := by
      rw [Session.announced_of_peer? hw.2, Session.announced_of_peer? h.1.2, h.2]
      rfl
    exact (onEvent_connected hs hw).imp (fun _ => hsame) fun _ w' es h => .inl (hsame w' es h)
  · by_cases hattempt : role = .remote ∧ w.session.stage = .connecting
    · obtain ⟨rfl, hst⟩ := hattempt
      obtain ⟨-, -, -, out, hrem, hrole⟩ := (Session.holds_connecting hst).1 hs.holds
      rw [onEvent, onRemote, Announces, always_bind, always_session]
      split
      · next h => cases h.symm.trans hrem
      · next h => cases h.symm.trans hrem
      · next out' h =>
        cases h.symm.trans hrem
        rw [if_pos hst]
        exact onAttempt_announces hst hw hrem fun stream hout => (hrole stream hout).1
    · exact .of_unconnected hw (onEvent_unconnected hw fun hrole hst => hattempt ⟨hrole, hst⟩)

end Handler

/-! ## Closing -/

theorem closeRemote_notices {out : Outgoing} {es : Transcript} {u : Unit}
    (h : Run (Session.closeRemote (.stream out)) es u) :
    es.notices = out.attempts.peer.toList.map .remoteDisconnected := by
  obtain ⟨es', rfl, hstream, hnone⟩ := Session.closeRemote_parts h
  have hquiet : Transcript.notices es' = [] := by
    cases hs : out.stream with
    | none => rw [hnone hs]; rfl
    | some stream => exact Talk.discreet_close _ _ (hstream stream hs)
  rw [Transcript.notices_append, hquiet]
  cases out.attempts.peer <;> rfl

/-- When a session is closed, its tunnel is revoked, and then its client is. -/
theorem close_notices {s : Session} {es : Transcript} (h : Run s.close es ()) :
    es.notices = s.revoked ++ [.clientDisconnected s.client.peer] := by
  obtain ⟨es₁, es₂, es₃, es₄, rfl, h₁, hrelay, hnorelay, hremote, hnoremote, h₄⟩ := Session.close_parts h
  have h₂ : Transcript.notices es₂ = [] := by
    cases hr : s.relay with
    | none => rw [hnorelay hr]; rfl
    | some relay => exact Talk.discreet_deregister _ _ (hrelay relay hr)
  have h₃ : Transcript.notices es₃ = s.revoked := by
    cases hr : s.remote with
    | none =>
      rw [hnoremote hr, Session.revoked, Session.peer?_of_not_stream (by simp [hr])]
      rfl
    | some remote =>
      cases remote with
      | datagram socket =>
        rw [Talk.discreet_deregister _ _ (hremote _ hr), Session.revoked,
          Session.peer?_of_not_stream (by simp [hr])]
        rfl
      | stream out => rw [closeRemote_notices (hremote _ hr), Session.revoked, Session.peer?_of_stream hr]
  rw [Transcript.notices_append, Transcript.notices_append, Transcript.notices_append,
    Transcript.notices_append, Talk.discreet_deregisterAll _ _ h₁, h₂, h₃, Talk.discreet_close _ _ h₄]
  rfl

/-! ## Whole lives -/

section
variable {ctx : Context} {h : History} {s : Session}

theorem discreet_start {settings : Settings} {peer : Endpoint} :
    Talk.Discreet (Session.start settings peer) := by
  refine Talk.discreet_bind Talk.discreet_tune fun r => ?_
  cases r with
  | error e => exact Talk.discreet_done
  | ok _ =>
    refine Talk.discreet_bind (Talk.discreet_call rfl) fun (r : Except IoError Endpoint) => ?_
    cases r with
    | error e => exact Talk.discreet_done
    | ok _ =>
      refine Talk.discreet_bind (Talk.discreet_call rfl) fun (r : Except IoError Unit) => ?_
      cases r <;> exact Talk.discreet_done

/-- A session that goes on has announced its tunnel exactly if it is up, and revoked nothing. -/
theorem Life.announced (hl : Life ctx h s) : h.calls.notices = s.announced := by
  induction hl with
  | start h =>
    obtain ⟨⟨localAddress, rfl⟩, -⟩ := start_cases h
    rw [History.calls_turn]
    exact discreet_start _ _ h
  | turn hl hrun ih =>
    rw [History.calls_append, History.calls_event, History.calls_turn, Transcript.notices_append, ih]
    exact Handler.onEvent_announces hl.shaped hl.represented _ _ _ (handle_goes hrun)

theorem discreet_logEnd {stage : Stage} {why : SessionError} :
    Talk.Discreet (Session.logEnd stage why) := by
  cases why <;> exact Talk.discreet_log

/-- What observers are told in the life of a session, when it is over. -/
theorem Ended.notices (he : Ended ctx h s) :
    h.calls.notices = s.announced ++ s.revoked ++ [.clientDisconnected s.client.peer] ∨
      h.calls.notices = s.revoked ++ [.clientDisconnected s.client.peer] ∧
        s.stage = .connecting ∧ h.calls.Fails .remote := by
  cases he with
  | @failed h₀ s₀ _ role r ids ids' es es' hl hrun hclose =>
    obtain ⟨es₁, es₂, e, rfl, hevent, hlogs⟩ := handle_fails hrun
    have hturn : s₀.announced ++ es₁.notices = s.announced ∨ s₀.Stillborn s es₁ :=
      Handler.onEvent_announces hl.shaped hl.represented _ _ _ hevent
    simp only [History.calls_append, History.calls_singleton, History.calls_turn, List.append_nil]
    have hhandle : Transcript.notices (es₁ ++ es₂) = Transcript.notices es₁ :=
      Transcript.notices_behind rfl (discreet_logEnd _ _ hlogs)
    rw [Transcript.notices_append, Transcript.notices_append, hl.announced, hhandle,
      close_notices hclose]
    rcases hturn with hturn | hturn
    · refine .inl ?_
      rw [← List.append_assoc, hturn, List.append_assoc]
    · refine .inr ⟨?_, hturn.behind, hturn.fails.left.left.right⟩
      rw [hturn.unannounced, hturn.discreet]
      rfl
  | stopped hl hclose =>
    refine .inl ?_
    rw [History.calls_append, History.calls_turn, Transcript.notices_append, hl.announced,
      close_notices hclose, List.append_assoc]

/-- **What is announced of a remote side is revoked, once and before the client is gone.**

    * While a session lives, a tunnel is announced exactly if it is up, and nothing is revoked.
    * When it is over, what was announced was revoked behind it, and the client was the last.
    * The one exception is the stream of a successful attempt that failed before it was in service. It
      is revoked, and never was announced. -/
theorem remote_notices_paired :
    (Life ctx h s → h.calls.notices = s.peer?.toList.map .remoteConnected ∧
      (s.peer?.isSome ↔ s.stage = .connected)) ∧
    (Ended ctx h s →
      h.calls.notices = [.clientDisconnected s.client.peer] ∨
      ∃ peer, s.peer? = some peer ∧
        (h.calls.notices = [.remoteConnected peer, .remoteDisconnected peer,
            .clientDisconnected s.client.peer] ∨
          h.calls.notices = [.remoteDisconnected peer, .clientDisconnected s.client.peer] ∧
            s.stage = .connecting ∧ h.calls.Fails .remote)) := by
  refine ⟨fun hl => ⟨hl.announced, ?_⟩, fun he => ?_⟩
  · rcases hl.represented.connectedTo_or_unconnected with ⟨peer, hst, hp⟩ | ⟨hst, hp⟩
    · exact iff_of_true (by rw [hp]; rfl) hst
    · exact iff_of_false (by rw [show s.peer? = none from hp]; nofun) hst
  · cases hp : s.peer? with
    | none =>
      have hnone : s.announced = [] ∧ s.revoked = [] := by
        rw [Session.announced, Session.revoked, hp]
        exact ⟨rfl, rfl⟩
      rcases he.notices with h | ⟨h, -⟩
      · exact .inl (by rw [h, hnone.1, hnone.2]; rfl)
      · exact .inl (by rw [h, hnone.2]; rfl)
    | some peer =>
      rcases he.notices with h | ⟨h, hst, hfails⟩
      · exact .inr ⟨peer, rfl, .inl
          (by rw [h, Session.announced_of_peer? hp, Session.revoked_of_peer? hp]; rfl)⟩
      · exact .inr ⟨peer, rfl, .inr ⟨by rw [h, Session.revoked_of_peer? hp]; rfl, hst, hfails⟩⟩

end

/-- What `remote_notices_paired` says of a tunnel that is up, and of one that was. -/
theorem hasty_client_is_announced :
    (∃ h s, Life ⟨{}, none, 9⟩ h s ∧ s.stage = .connected ∧
      ∃ peer, h.calls.notices = [.remoteConnected peer]) ∧
    ∃ h s peer, Ended ⟨{}, none, 9⟩ h s ∧ h.calls.notices =
      [.remoteConnected peer, .remoteDisconnected peer, .clientDisconnected s.client.peer] := by
  constructor
  · obtain ⟨h, s, hl, hx⟩ := exists_life_of_rehearse ⟨{}, none, 9⟩ hastyClient
      (handshake 2 ++ [attemptDone]) (fun _ s => s.stage = .connected) (by decide +kernel)
    obtain ⟨hn, hp⟩ := remote_notices_paired.1 hl
    obtain ⟨peer, hpeer⟩ := Option.isSome_iff_exists.1 (hp.2 (of_decide_eq_true hx))
    exact ⟨h, s, hl, of_decide_eq_true hx, peer, by rw [hn, hpeer]; rfl⟩
  · obtain ⟨h, s, he, hx⟩ := exists_ended_of_rehearseEnd ⟨{}, none, 9⟩ hastyClient
      (handshake 2 ++ [attemptDone]) .client { hangup := true }
      (fun h s => s.stage = .connected ∧ h.calls.notices.length = 3) (by decide +kernel)
    obtain ⟨hst, hlen⟩ := of_decide_eq_true hx
    rcases remote_notices_paired.2 he with hn | ⟨peer, -, hn | ⟨-, hst', -⟩⟩
    · rw [hn] at hlen
      nomatch hlen
    · exact ⟨h, s, peer, he, hn⟩
    · nomatch hst.symm.trans hst'

/-- The hasty client, whose remote side breaks when it is to take bytes. -/
def brokenOffClient : SocketScript :=
  { hastyClient with
    instead
      | .send s _ => if s.role = .remote then some (.error (.plain .brokenPipe)) else none
      | _ => none }

/-- A client sends two bytes ahead, and the stream that is to take them breaks: its peer is revoked, and
    never was announced. -/
theorem revoked_before_announced :
    ¬ ∀ (ctx : Context) (h : History) (s : Session), Ended ctx h s →
      ∀ peer, .remoteDisconnected peer ∈ h.calls.notices →
        .remoteConnected peer ∈ h.calls.notices := by
  intro hall
  obtain ⟨h, s, he, hx⟩ := exists_ended_of_rehearseEnd ⟨{}, none, 9⟩ brokenOffClient (handshake 2)
    .remote { writable := true }
    (fun h _ => h.calls.notices = [.remoteDisconnected hastyClient.address,
      .clientDisconnected hastyClient.address]) (by decide +kernel)
  have hn := of_decide_eq_true hx
  have hmem := hall _ h s he hastyClient.address (by rw [hn]; exact List.mem_cons_self)
  rw [hn] at hmem
  simp at hmem

end SocksProxy
