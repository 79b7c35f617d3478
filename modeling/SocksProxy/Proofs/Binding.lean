/-
  How a server is bound.

  * `ServerEvent.isSetup`: the calls that prepare a server, apart from the two that put something on the
    poller;
  * `Server.bind_parts`: when a server is bound, the listener and then the waker were put on the poller, each
    once, and nothing else happened that matters later. There are no sessions, and the first gets id 1.
-/
import SocksProxy.Proofs.Serving

namespace SocksProxy

open Dialogue

/-! ## Calls that can fail -/

/-- A sequence of calls that can fail comes to a result part by part. -/
theorem run_ok_bind {ε α β : Type} {p : ExceptT ε (Dialogue ServerNet) α}
    {f : α → ExceptT ε (Dialogue ServerNet) β} {es : List ServerEvent} {b : β}
    (h : Run (p >>= f).run es (.ok b)) :
    ∃ es₁ es₂ a, es = es₁ ++ es₂ ∧ Run p.run es₁ (.ok a) ∧ Run (f a).run es₂ (.ok b) := by
  rw [ExceptT.run_bind] at h
  obtain ⟨es₁, es₂, a, rfl, h₁, h₂⟩ := run_monad_bind_iff.1 h
  cases a with
  | ok a => exact ⟨es₁, es₂, a, rfl, h₁, h₂⟩
  | error failure => cases (run_pure_iff.1 h₂).2

theorem run_ok_lift {ε α : Type} {p : Dialogue ServerNet α} {es : List ServerEvent} {a : α}
    (h : Run (ExceptT.lift p : ExceptT ε (Dialogue ServerNet) α).run es (.ok a)) : Run p es a := by
  obtain ⟨es₁, es₂, b, rfl, h₁, h₂⟩ := run_bind_iff.1 h
  obtain ⟨rfl, heq⟩ := run_done_iff.1 h₂
  cases heq
  rwa [List.append_nil]

namespace Server

theorem run_ok_purposed {α : Type} {purpose : Option String} {p : Dialogue ServerNet (Except IoError α)}
    {es : List ServerEvent} {a : α} (h : Run (purposed purpose p).run es (.ok a)) : Run p es (.ok a) := by
  obtain ⟨es₁, es₂, b, rfl, h₁, h₂⟩ := run_bind_iff.1 h
  cases b with
  | ok b =>
    obtain ⟨rfl, heq⟩ := run_done_iff.1 h₂
    cases heq
    rwa [List.append_nil]
  | error e => cases (run_done_iff.1 h₂).2

end Server

/-! ## Preparing -/

/-- The call prepares a server, and puts nothing on the poller. -/
def ServerEvent.isSetup (e : ServerEvent) : Bool :=
  match e.1 with
  | .openListener _ | .reuseAddress | .nonblocking | .bindListener _ | .listen _ | .listenerAddress
  | .openPoll | .resolverFile | .firstQueryId | .log _ _ => true
  | _ => false

/-- All calls prepare a server. -/
def AllSetup (es : List ServerEvent) : Prop :=
  ∀ e ∈ es, e.isSetup = true

theorem allSetup_nil : AllSetup [] :=
  List.forall_mem_nil _

theorem AllSetup.append {es es' : List ServerEvent} (h : AllSetup es) (h' : AllSetup es') :
    AllSetup (es ++ es') :=
  List.forall_mem_append.2 ⟨h, h'⟩

theorem allSetup_singleton {e : ServerEvent} (h : e.isSetup = true) : AllSetup [e] :=
  List.forall_mem_singleton.2 h

namespace Server

variable {es : List ServerEvent}

theorem run_ask_server {c : ServerCall} {a : c.Answer} (h : Run (Server.ask c) es a) : es = [⟨c, a⟩] :=
  run_call_iff.1 h

theorem openListener_setup {addr : Endpoint} {u : Unit} (h : Run (openListener addr) es (.ok u)) :
    AllSetup es := by
  obtain ⟨es₁, es', _, rfl, h₁, h⟩ := run_ok_bind h
  obtain ⟨es₂, es', _, rfl, h₂, h⟩ := run_ok_bind h
  obtain ⟨es₃, es', _, rfl, h₃, h⟩ := run_ok_bind h
  obtain ⟨es₄, es₅, _, rfl, h₄, h₅⟩ := run_ok_bind h
  rw [run_ask_server h₁, run_ask_server h₂, run_ask_server h₃, run_ask_server h₄, run_ask_server h₅]
  intro e he
  simp only [List.mem_append, List.mem_singleton] at he
  rcases he with rfl | rfl | rfl | rfl | rfl <;> rfl

theorem systemServers_setup {servers : List Ip} (h : Run systemServers es servers) : AllSetup es := by
  obtain ⟨es₁, es₂, found, rfl, h₁, h₂⟩ := run_monad_bind_iff.1 h
  rw [run_ask_server h₁]
  refine (allSetup_singleton rfl).append ?_
  cases found with
  | none =>
    obtain ⟨rfl, -⟩ := run_pure_iff.1 h₂
    exact allSetup_nil
  | some text =>
    cases hservers : Dns.ResolverFile.nameservers? text with
    | some servers =>
      simp only [hservers] at h₂
      obtain ⟨rfl, -⟩ := run_pure_iff.1 h₂
      exact allSetup_nil
    | none =>
      simp only [hservers] at h₂
      obtain ⟨es₃, es₄, _, rfl, h₃, h₄⟩ := run_monad_bind_iff.1 h₂
      obtain ⟨rfl, -⟩ := run_pure_iff.1 h₄
      rw [run_ask_server h₃, List.append_nil]
      exact allSetup_singleton rfl

theorem chooseNameServer_setup {settings : Settings} {server? : Option Endpoint}
    (h : Run (chooseNameServer settings) es server?) : AllSetup es := by
  rw [chooseNameServer] at h
  split at h
  · obtain ⟨es₁, es₂, servers, rfl, h₁, h₂⟩ := run_monad_bind_iff.1 h
    refine (systemServers_setup h₁).append ?_
    simp only at h₂
    split at h₂
    · obtain ⟨es₃, es₄, _, rfl, h₃, h₄⟩ := run_monad_bind_iff.1 h₂
      obtain ⟨rfl, -⟩ := run_pure_iff.1 h₄
      rw [run_ask_server h₃, List.append_nil]
      exact allSetup_singleton rfl
    · obtain ⟨rfl, -⟩ := run_pure_iff.1 h₂
      exact allSetup_nil
  · obtain ⟨rfl, -⟩ := run_pure_iff.1 h
    exact allSetup_nil

/-- **When a server is bound, its listener and its waker are on the poller.** All other calls have only
    prepared it; it has no sessions, and no id was given away. -/
theorem bind_parts {settings : Settings} {server : Server}
    (h : Run (Server.bind settings) es (.ok server)) :
    server.sessions = [] ∧ server.nextId = 1 ∧
      ∃ es₁ es₂, es = es₁ ++ ([⟨.registerListener, (.ok () : Except IoError Unit)⟩,
          ⟨.openWaker, (.ok () : Except IoError Unit)⟩] ++ es₂) ∧
        AllSetup es₁ ∧ AllSetup es₂ := by
  obtain ⟨es₁, es', _, rfl, h₁, h⟩ := run_ok_bind h
  obtain ⟨es₂, es', localAddress, rfl, h₂, h⟩ := run_ok_bind h
  obtain ⟨es₃, es', _, rfl, h₃, h⟩ := run_ok_bind h
  obtain ⟨es₄, es', _, rfl, h₄, h⟩ := run_ok_bind h
  obtain ⟨es₅, es', _, rfl, h₅, h⟩ := run_ok_bind h
  obtain ⟨es₆, es', nameServer, rfl, h₆, h⟩ := run_ok_bind h
  have hfront : AllSetup (es₁ ++ (es₂ ++ es₃)) := by
    rw [run_ask_server (run_ok_purposed h₂), run_ask_server (run_ok_purposed h₃)]
    exact (openListener_setup (run_ok_purposed h₁)).append
      ((allSetup_singleton rfl).append (allSetup_singleton rfl))
  -- The server comes behind one line about name resolution.
  have hrest {es : List ServerEvent} (h : Run (do
      let first ← ExceptT.lift (ask .firstQueryId)
      return { settings, localAddress, nameServer, sessions := [], nextId := 1, ids := ⟨first⟩,
               acceptStalled := false } : ExceptT Failure (Dialogue ServerNet) Server).run es
        (.ok server)) : AllSetup es ∧ server.sessions = [] ∧ server.nextId = 1 := by
    obtain ⟨es₁, es₂, first, rfl, h₁, h₂⟩ := run_ok_bind h
    obtain ⟨rfl, heq⟩ := run_done_iff.1 h₂
    cases heq
    rw [run_ask_server (run_ok_lift h₁), List.append_nil]
    exact ⟨allSetup_singleton rfl, rfl, rfl⟩
  obtain ⟨hlast, hsessions, hnext⟩ :
      AllSetup es' ∧ server.sessions = [] ∧ server.nextId = 1 := by
    cases nameServer <;>
    · obtain ⟨es₇, es₈, _, rfl, h₇, h₈⟩ := run_ok_bind h
      obtain ⟨hall, hserver⟩ := hrest h₈
      rw [run_ask_server (run_ok_lift h₇)]
      exact ⟨(allSetup_singleton rfl).append hall, hserver⟩
  refine ⟨hsessions, hnext, es₁ ++ (es₂ ++ es₃), es₆ ++ es', ?_, hfront,
    (chooseNameServer_setup (run_ok_lift h₆)).append hlast⟩
  rw [run_ask_server (run_ok_purposed h₄), run_ask_server (run_ok_purposed h₅)]
  simp only [List.append_assoc, List.cons_append, List.nil_append]

/-- A server that was bound just now has no sessions. -/
theorem bind_sessions {settings : Settings} {server : Server}
    (h : Run (Server.bind settings) es (.ok server)) : server.sessions = [] :=
  (bind_parts h).1

end Server

end SocksProxy
