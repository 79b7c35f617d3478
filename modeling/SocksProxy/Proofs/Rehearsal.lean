/-
  Sessions on a network that follows a script.

  * `Dialogue.play` follows a rule for the answers and keeps the calls, `run_of_play` says that this is a
    run;
  * `SocketScript` lays down what the sockets of a session give, and `SocketScript.answer` is the rule that
    comes of it;
  * `rehearse` plays a session event by event: what it yields is a `Life` (`life_of_rehearse`), and with one
    more event that ends the session it is an `Ended` (`ended_of_rehearseEnd`). What is seen then can be
    computed.
-/
import SocksProxy.Proofs.Life

namespace SocksProxy

namespace Dialogue

variable {I : Interface} {α σ : Type}

/-- Follows the answers of an environment with state `s`, and keeps the calls with their answers; no
    result when the dialogue is stuck. -/
def play (answer : (c : I.Call) → σ → I.Answer c × σ) :
    Dialogue I α → σ → Option (List I.Event × α × σ)
  | .done a, s => some ([], a, s)
  | .ask c next, s =>
    let (r, s) := answer c s
    (play answer (next r) s).map fun (es, a, s) => (⟨c, r⟩ :: es, a, s)
  | .stuck, _ => none

theorem run_of_play {answer : (c : I.Call) → σ → I.Answer c × σ} {p : Dialogue I α} {s s' : σ}
    {es : List I.Event} {a : α} (h : p.play answer s = some (es, a, s')) : Run p es a := by
  induction p generalizing s es with
  | done b =>
    cases h
    exact .done
  | ask c next ih =>
    obtain ⟨⟨es', a', s''⟩, h', heq⟩ := Option.map_eq_some_iff.1 h
    cases heq
    exact .ask (ih _ h')
  | stuck => nomatch h

/-- What is seen of a dialogue that is played is seen of a run. -/
theorem exists_run_of_play {answer : (c : I.Call) → σ → I.Answer c × σ} {p : Dialogue I α} {s : σ}
    {q : List I.Event → α → Bool}
    (h : (p.play answer s).any (fun x => q x.1 x.2.1) = true) :
    ∃ es a, Run p es a ∧ q es a = true := by
  obtain ⟨⟨es, a, s'⟩, hx, hq⟩ := (Option.any_eq_true ..).1 h
  exact ⟨es, a, run_of_play hx, hq⟩

end Dialogue

open Dialogue

/-! ## Scripts -/

/-- A call that fails, if it can. -/
def SessionCall.refused (e : IoError) : (c : SessionCall) → Option c.Answer
  | .log _ _ | .notify _ => none
  | .tune _ _ | .localAddress _ | .peerAddress _ | .pendingError _ | .connect _ _ | .bindDatagram _ _
  | .register _ _ | .reregister _ _ | .deregister _ | .shutdown _ | .receive _ _ | .send _ _
  | .receiveFrom _ _ | .sendTo _ _ _ => some (.error e)

/-- What the sockets of a session give, for each role one thing after the other. Where `none` is written
    there is nothing yet, and so it is behind the last entry. -/
structure SocketScript where
  /-- What is read from a stream. No bytes are the end of its peer. -/
  reads : Role → List (Option Bytes) := fun _ => []
  datagrams : Role → List (Option (Bytes × Endpoint)) := fun _ => []
  /-- How many bytes a stream takes at once. -/
  window : Nat := 64
  /-- The address of every socket. -/
  address : Endpoint := ⟨.v4 ⟨192, 0, 2, 1⟩, 1080⟩
  /-- The answers to some calls, if they are to be others. -/
  instead : (c : SessionCall) → Option c.Answer := fun _ => none

namespace SocketScript

/-- What the two sides of a tunnel send, read by read. Each takes three bytes at once. -/
def between (client remote : List Bytes) : SocketScript where
  reads
    | .client => client.map some
    | .remote => remote.map some
    | _ => []
  window := 3

/-- The first entry for a role, and the entries that are left. -/
def first {α : Type} (role : Role) (lists : Role → List (Option α)) :
    Except IoError α × (Role → List (Option α)) :=
  (match (lists role).head? with
    | some (some a) => .ok a
    | _ => .error (.plain .wouldBlock),
    fun role' => if role' = role then (lists role').tail else lists role')

/-- The answer to a call for which no other is written down. Whatever can be granted is. -/
def grant (c : SessionCall) (script : SocketScript) : c.Answer × SocketScript :=
  match c with
  | .tune _ _ | .connect _ _ | .bindDatagram _ _ | .register _ _ | .reregister _ _ | .deregister _
  | .shutdown _ | .sendTo _ _ _ => (.ok (), script)
  | .localAddress _ | .peerAddress _ => (.ok script.address, script)
  | .pendingError _ => (.ok none, script)
  | .receive socket max =>
    let (found, reads) := first socket.role script.reads
    (found.map fun b => ⟨b.take max, List.length_take_le max b⟩, { script with reads })
  | .send _ data =>
    if script.window = 0 then (.error (.plain .wouldBlock), script)
    else (.ok ⟨min script.window data.length, Nat.lt_succ_of_le (Nat.min_le_right _ _)⟩, script)
  | .receiveFrom socket max =>
    let (found, datagrams) := first socket.role script.datagrams
    (found.map fun (b, source) => (⟨b.take max, List.length_take_le max b⟩, source),
      { script with datagrams })
  | .log _ _ | .notify _ => ((), script)

/-- Answers a call. -/
def answer (c : SessionCall) (script : SocketScript) : c.Answer × SocketScript :=
  match script.instead c with
  | some r => (r, script)
  | none => grant c script

end SocketScript

/-! ## Sessions -/

/-- Goes on with a session, event by event, while it does not end. -/
def rehearseTurns (ctx : Context) :
    List (Role × Readiness) → History → Work → SocketScript → Option (History × Work × SocketScript)
  | [], h, w, script => some (h, w, script)
  | (role, r) :: rest, h, w, script =>
    match (Session.handle ctx role r w).play SocketScript.answer script with
    | some (es, (true, w'), script) =>
      rehearseTurns ctx rest (h ++ [.event role r] ++ History.turn w.session.stage es) w' script
    | _ => none

/-- A session with the events, from its first call on. -/
def rehearse (ctx : Context) (script : SocketScript) (events : List (Role × Readiness)) :
    Option (History × Work × SocketScript) :=
  match (Session.start ctx.settings script.address).play SocketScript.answer script with
  | some (es, .ok s, script) => rehearseTurns ctx events (History.turn .accepted es) ⟨s, ⟨1⟩⟩ script
  | _ => none

/-- A session that ends with the last event. -/
def rehearseEnd (ctx : Context) (script : SocketScript) (events : List (Role × Readiness)) (role : Role)
    (r : Readiness) : Option (History × Session) :=
  match rehearse ctx script events with
  | some (h, w, script) =>
    match (Session.handle ctx role r w).play SocketScript.answer script with
    | some (es, (false, w'), script) =>
      match w'.session.close.play SocketScript.answer script with
      | some (es', (), _) =>
        some (h ++ [.event role r] ++ History.turn w.session.stage (es ++ es'), w'.session)
      | none => none
    | _ => none
  | none => none

section
variable {ctx : Context} {script script' : SocketScript} {events : List (Role × Readiness)}
  {h h' : History} {w w' : Work}

theorem life_of_rehearseTurns (hl : Life ctx h w.session)
    (hp : rehearseTurns ctx events h w script = some (h', w', script')) : Life ctx h' w'.session := by
  induction events generalizing h w script with
  | nil =>
    cases hp
    exact hl
  | cons event rest ih =>
    obtain ⟨role, r⟩ := event
    rw [rehearseTurns] at hp
    split at hp
    · next es w₁ script₁ hplay => exact ih (hl.turn (run_of_play hplay)) hp
    · nomatch hp

theorem life_of_rehearse (hp : rehearse ctx script events = some (h, w, script')) :
    Life ctx h w.session := by
  rw [rehearse] at hp
  split at hp
  · next es s script₁ hplay => exact life_of_rehearseTurns (.start (run_of_play hplay)) hp
  · nomatch hp

/-- A handler has ended the session, and it was closed. -/
theorem failed_of_rehearseEnd {role : Role} {r : Readiness} {s' : Session}
    (hp : rehearseEnd ctx script events role r = some (h', s')) :
    ∃ h s ids ids' es es', Life ctx h s ∧
      Run (Session.handle ctx role r ⟨s, ids⟩) es (false, ⟨s', ids'⟩) ∧ Run s'.close es' () ∧
        h' = h ++ [.event role r] ++ History.turn s.stage (es ++ es') := by
  rw [rehearseEnd] at hp
  split at hp
  · next h₀ w script₁ hfirst =>
    split at hp
    · next es w' script₂ hplay =>
      split at hp
      · next es' script₃ hclose =>
        cases hp
        exact ⟨h₀, w.session, w.ids, w'.ids, es, es', life_of_rehearse hfirst, run_of_play hplay,
          run_of_play hclose, rfl⟩
      · nomatch hp
    · nomatch hp
  · nomatch hp

theorem ended_of_rehearseEnd {role : Role} {r : Readiness} {s : Session}
    (hp : rehearseEnd ctx script events role r = some (h, s)) : Ended ctx h s := by
  obtain ⟨h₀, s₀, ids, ids', es, es', hl, hrun, hclose, rfl⟩ := failed_of_rehearseEnd hp
  exact .failed hl hrun hclose

/-- What is seen of a session that is played is seen of a session. -/
theorem exists_life_of_rehearse (ctx : Context) (script : SocketScript) (events : List (Role × Readiness))
    (p : History → Session → Bool)
    (hp : (rehearse ctx script events).any (fun x => p x.1 x.2.1.session) = true) :
    ∃ h s, Life ctx h s ∧ p h s = true := by
  obtain ⟨⟨h, w, script'⟩, hx, hp⟩ := (Option.any_eq_true ..).1 hp
  exact ⟨h, w.session, life_of_rehearse hx, hp⟩

/-- What is seen of the turn of a session that is played is seen of a turn of a session. -/
theorem exists_turn_of_rehearse (ctx : Context) (script : SocketScript) (events : List (Role × Readiness))
    (role : Role) (r : Readiness) (p : History → Session → Transcript → Bool)
    (hp : (rehearse ctx script events).any (fun x =>
      ((Session.handle ctx role r x.2.1).play SocketScript.answer x.2.2).any fun y =>
        p x.1 x.2.1.session y.1) = true) :
    ∃ h s ids es goes s' ids', Life ctx h s ∧
      Run (Session.handle ctx role r ⟨s, ids⟩) es (goes, ⟨s', ids'⟩) ∧ p h s es = true := by
  obtain ⟨⟨h, w, script'⟩, hx, hp⟩ := (Option.any_eq_true ..).1 hp
  obtain ⟨es, ⟨goes, w'⟩, hrun, hp⟩ := exists_run_of_play (q := fun es _ => p h w.session es) hp
  exact ⟨h, w.session, w.ids, es, goes, w'.session, w'.ids, life_of_rehearse hx, hrun, hp⟩

theorem exists_ended_of_rehearseEnd (ctx : Context) (script : SocketScript)
    (events : List (Role × Readiness)) (role : Role) (r : Readiness) (p : History → Session → Bool)
    (hp : (rehearseEnd ctx script events role r).any (fun x => p x.1 x.2) = true) :
    ∃ h s, Ended ctx h s ∧ p h s = true := by
  obtain ⟨⟨h, s⟩, hx, hp⟩ := (Option.any_eq_true ..).1 hp
  exact ⟨h, s, ended_of_rehearseEnd hx, hp⟩

/-- What is seen of a turn that ends a session that is played is seen of a turn that ends a session. -/
theorem exists_failed_of_rehearseEnd (ctx : Context) (script : SocketScript)
    (events : List (Role × Readiness)) (role : Role) (r : Readiness) (p : History → Session → Bool)
    (hp : (rehearseEnd ctx script events role r).any (fun x => p x.1 x.2) = true) :
    ∃ h s ids ids' es es' s', Life ctx h s ∧
      Run (Session.handle ctx role r ⟨s, ids⟩) es (false, ⟨s', ids'⟩) ∧ Run s'.close es' () ∧
        p (h ++ [.event role r] ++ History.turn s.stage (es ++ es')) s' = true := by
  obtain ⟨⟨h', s'⟩, hx, hp⟩ := (Option.any_eq_true ..).1 hp
  obtain ⟨h, s, ids, ids', es, es', hl, hrun, hclose, rfl⟩ := failed_of_rehearseEnd hx
  exact ⟨h, s, ids, ids', es, es', s', hl, hrun, hclose, hp⟩

end

/-! ## Clients -/

/-- Two bytes behind a request, two when the tunnel is up, and the end. -/
def hastyReads : List Bytes :=
  [[5, 1, 0], [5, 1, 0, 1, 192, 0, 2, 7, 0, 80, 104, 105], [121, 111], []]

/-- A client that sends two bytes behind its request and two when the tunnel is up, and leaves. -/
def hastyClient : SocketScript :=
  .between hastyReads []

/-- Settings with a user `u` whose password is `p`. -/
def lockedSettings : Settings := { username := "u", password := "p" }

/-- The messages of a client that authenticates as `u` with the password `p`. -/
def keyholderReads : List Bytes :=
  [[5, 1, 2], [1, 1, 117, 1, 112], [5, 1, 0, 1, 192, 0, 2, 7, 0, 80]]

/-- That client, and a remote side that sends two bytes and leaves. -/
def keyholder : SocketScript :=
  .between keyholderReads [[7, 8], []]

/-! ## Events -/

/-- There is something to read from the socket of the role. -/
def Role.reads (role : Role) : Role × Readiness :=
  (role, { readable := true })

/-- There is something to read from the client, for each of its messages. -/
def handshake (messages : Nat) : List (Role × Readiness) :=
  .replicate messages Role.client.reads

/-- The attempt has come to its end. -/
def attemptDone : Role × Readiness :=
  (.remote, { writable := true })

end SocksProxy
