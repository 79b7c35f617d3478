/-
  Servers on a network that follows a script.

  * `ServerScript` lays down who comes to a server, what its poller reports and what the sockets of its
    sessions give;
  * `rehearseBind` binds a server. What is seen of what it does then is seen of a run
    (`exists_bound_of_rehearse`).
-/
import SocksProxy.Proofs.Rehearsal
import SocksProxy.Proofs.Serving

namespace SocksProxy

open Dialogue

/-! ## Scripts -/

/-- What happens to a server. -/
structure ServerScript where
  /-- Who comes to the listener, or why nobody can be let in, one after the other. -/
  arrivals : List (Except IoError Endpoint) := []
  /-- What the poller reports, poll by poll. Behind the last report it breaks. -/
  polls : List (List (Token × PollFlags)) := []
  /-- What the sockets of each session give. -/
  sockets : SessionId → SocketScript
  /-- The address of the listener. -/
  address : Endpoint := ⟨.v4 ⟨192, 0, 2, 1⟩, 1080⟩

/-- Answers a call. Whatever can be granted is. -/
def ServerScript.answer (c : ServerCall) (script : ServerScript) : c.Answer × ServerScript :=
  match c with
  | .openListener _ | .reuseAddress | .nonblocking | .bindListener _ | .listen _ | .openPoll
  | .registerListener | .deregisterListener | .openWaker => (.ok (), script)
  | .listenerAddress => (.ok script.address, script)
  | .accept _ =>
    match script.arrivals with
    | [] => (.error (.plain .wouldBlock), script)
    | arrival :: rest => (arrival, { script with arrivals := rest })
  | .resolverFile => (none, script)
  | .firstQueryId => ((0 : UInt16), script)
  | .stopRequested => (false, script)
  | .poll =>
    match script.polls with
    | [] => (.error (.plain .other), script)
    | events :: rest => (.ok events, { script with polls := rest })
  | .log _ _ | .notify _ => ((), script)
  | .session id c =>
    let (r, own) := (script.sockets id).answer c
    (r, { script with sockets := fun id' => if id' = id then own else script.sockets id' })

/-! ## Events -/

/-- There is somebody at the listener. -/
def ReadyEvent.atListener : ReadyEvent :=
  ⟨.listener, { readable := true }⟩

/-- There is something to read from the client of a session. -/
def ReadyEvent.fromClient (id : SessionId) : ReadyEvent :=
  ⟨.socket ⟨id, .client⟩, { readable := true }⟩

/-! ## Servers -/

/-- A server that is bound, and the calls for it. -/
def rehearseBind (script : ServerScript) : Option (List ServerEvent × Server × ServerScript) :=
  match (Server.bind {}).play ServerScript.answer script with
  | some (es, .ok bound, script) => some (es, bound, script)
  | _ => none

theorem run_of_rehearseBind {script script' : ServerScript} {es : List ServerEvent} {bound : Server}
    (h : rehearseBind script = some (es, bound, script')) : Run (Server.bind {}) es (.ok bound) := by
  rw [rehearseBind] at h
  split at h
  · next hbind =>
    cases h
    exact run_of_play hbind
  · cases h

/-- What is seen of a server that is bound and then does what `p` says is seen of a run. -/
theorem exists_bound_of_rehearse {α : Type} (script : ServerScript) (p : Server → Dialogue ServerNet α)
    (q : List ServerEvent → Server → List ServerEvent → α → Bool)
    (hq : (rehearseBind script).any (fun x =>
      ((p x.2.1).play ServerScript.answer x.2.2).any fun y => q x.1 x.2.1 y.1 y.2.1) = true) :
    ∃ es bound es' a, Run (Server.bind {}) es (.ok bound) ∧ Run (p bound) es' a ∧
      q es bound es' a = true := by
  obtain ⟨⟨es, bound, script'⟩, hx, hq⟩ := (Option.any_eq_true ..).1 hq
  obtain ⟨es', a, hrun, hq⟩ := exists_run_of_play hq
  exact ⟨es, bound, es', a, run_of_rehearseBind hx, hrun, hq⟩

/-! ## A client of a server -/

/-- A client that speaks another protocol. -/
def stranger : ServerScript where
  arrivals := [.ok ⟨.v4 ⟨192, 0, 2, 9⟩, 4000⟩]
  sockets := fun _ => .between [[4, 1, 0]] []

end SocksProxy
