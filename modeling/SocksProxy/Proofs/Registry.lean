/-
  What is on the poller of a server, and what is held by it.

  * `registry`: what the poller has in its table behind the calls of a server. `movesOf` is what happened to
    one entry of it;
  * `Server.Holds`: what is to be on the poller by the state of the server;
  * `Server.Leaks`: what a session that is over has left there, which is at most a relay.

  **`registry_matches_ownership`**: whatever the server does, the poller has what the server holds and what was
  left behind, each once and under a token of its own. `relay_is_left_behind` is a server that leaves a relay
  there.
-/
import SocksProxy.Proofs.Chronicle
import SocksProxy.Proofs.Custody
import SocksProxy.Proofs.ServerRehearsal
import SocksProxy.Proofs.Tokens

namespace SocksProxy

open Dialogue

/-! ## The table of the poller -/

/-- What can be on the poller. -/
inductive Enrolled where
  | listener
  | waker
  | socket (id : SessionId) (k : Socket)
  deriving DecidableEq, Repr

/-- The token under which it is there. -/
def Enrolled.token : Enrolled → Token
  | listener => Token.listener
  | waker => Token.waker
  | socket id k => (⟨id, k.role⟩ : Key).token

/-- What the call puts on the poller or takes off. What is to be taken off always is. -/
def ServerEvent.move? : ServerEvent → Option (Enrolled × Move)
  | ⟨.registerListener, .ok ()⟩ => some (.listener, .on)
  | ⟨.deregisterListener, _⟩ => some (.listener, .off)
  | ⟨.openWaker, .ok ()⟩ => some (.waker, .on)
  | ⟨.session id c, r⟩ => (SessionEvent.move? ⟨c, r⟩).map fun m => (.socket id m.1, m.2)
  | _ => none

/-- The table with one entry more or less. -/
def Enrolled.follow (table : List Enrolled) : Enrolled × Move → List Enrolled
  | (x, .on) => x :: table
  | (x, .off) => table.erase x

/-- What is on the poller behind the calls. -/
def registry (es : List ServerEvent) : List Enrolled :=
  (es.filterMap ServerEvent.move?).foldl Enrolled.follow []

/-- What happened to one entry. -/
def movesOf (x : Enrolled) (es : List ServerEvent) : List Move :=
  ((es.filterMap ServerEvent.move?).filter fun m => m.1 = x).map Prod.snd

/-- How many entries there are behind the move, if there were `n`. -/
def Move.tally (n : Nat) : Move → Nat
  | on => n + 1
  | off => n - 1

section
variable {es es' : List ServerEvent} {x : Enrolled} {id : SessionId} {k : Socket} {e : ServerEvent}

@[simp] theorem movesOf_append : movesOf x (es ++ es') = movesOf x es ++ movesOf x es' := by
  simp only [movesOf, List.filterMap_append, List.filter_append, List.map_append]

theorem count_foldl_follow {ms : List (Enrolled × Move)} {table : List Enrolled} :
    (ms.foldl Enrolled.follow table).count x =
      ((ms.filter fun m => m.1 = x).map Prod.snd).foldl Move.tally (table.count x) := by
  induction ms generalizing table with
  | nil => rfl
  | cons m ms ih =>
    obtain ⟨y, move⟩ := m
    rw [List.foldl_cons, ih]
    by_cases heq : y = x
    · subst heq
      cases move <;> simp [Enrolled.follow, Move.tally]
    · cases move <;> simp [Enrolled.follow, heq, List.count_cons_of_ne, List.count_erase_of_ne, Ne.symm heq]

/-- How often something is on the poller can be told from what happened to it. -/
theorem count_registry : (registry es).count x = (movesOf x es).foldl Move.tally 0 :=
  count_foldl_follow

theorem movesOf_singleton_socket : movesOf (.socket id k) [e] = (callsOf id [e]).record k := by
  obtain ⟨c, r⟩ := e
  cases c with
  | session id' c =>
    cases hm : SessionEvent.move? ⟨c, r⟩ with
    | none =>
      by_cases hid : id' = id <;>
        simp [movesOf, ServerEvent.move?, callsOf, ServerEvent.of?, Transcript.record, Transcript.moves, hm, hid]
    | some m =>
      by_cases hid : id' = id <;> by_cases hk : m.1 = k <;>
        simp [movesOf, ServerEvent.move?, callsOf, ServerEvent.of?, Transcript.record, Transcript.moves, hm, hid, hk]
  | registerListener =>
    cases r <;> rfl
  | openWaker =>
    cases r <;> rfl
  | _ => rfl

/-- What happens to a socket of a session is done on behalf of the session. -/
theorem movesOf_socket : movesOf (.socket id k) es = (callsOf id es).record k := by
  induction es with
  | nil => rfl
  | cons e es ih =>
    rw [← List.singleton_append, movesOf_append, callsOf_append, Transcript.record_append, ih,
      movesOf_singleton_socket]

/-! ### The listener and the waker -/

theorem movesOf_eq_nil (h : ∀ e ∈ es, ∀ m, e.move? = some m → m.1 ≠ x) : movesOf x es = [] := by
  rw [movesOf, List.map_eq_nil_iff, List.filter_eq_nil_iff]
  intro m hm
  obtain ⟨e, he, hmove⟩ := List.mem_filterMap.1 hm
  simpa using h e he m hmove

/-- Calls of sessions do not touch what is the server's own. -/
theorem movesOf_onBehalf {es : Transcript} (hx : ∀ id k, x ≠ .socket id k) :
    movesOf x (es.map (SessionEvent.onBehalf id)) = [] := by
  refine movesOf_eq_nil fun e he m hm => ?_
  obtain ⟨e, -, rfl⟩ := List.mem_map.1 he
  obtain ⟨m, -, rfl⟩ := Option.map_eq_some_iff.1 hm
  exact (hx id m.1).symm

theorem ServerEvent.move?_of_isAside (h : e.isAside = true) : e.move? = none := by
  obtain ⟨c, r⟩ := e
  cases c with
  | accept id => rfl
  | stopRequested | poll | log | notify => rfl
  | _ => cases h

theorem AllSetup.movesOf (h : AllSetup es) : SocksProxy.movesOf x es = [] := by
  refine movesOf_eq_nil fun e he m hm => ?_
  have hsetup := h e he
  obtain ⟨c, r⟩ := e
  cases c with
  | session id c => cases hsetup
  | registerListener | deregisterListener | openWaker => cases hsetup
  | _ => cases hm

end

namespace Server

variable {turns : Nat} {server server' : Server} {es es' : List ServerEvent} {x : Enrolled}

theorem Deed.movesOf_own (h : server.Deed turns es server') (hx : ∀ id k, x ≠ .socket id k) :
    movesOf x es = [] := by
  have haccept {peer : Endpoint} {es : List ServerEvent} (hes : movesOf x es = []) :
      movesOf x (⟨.accept server.nextId, (.ok peer : Except IoError Endpoint)⟩ :: es) = [] := hes
  cases h with
  | aside he =>
    refine movesOf_eq_nil fun e' he' m hm => ?_
    rw [List.mem_singleton.1 he', ServerEvent.move?_of_isAside he] at hm
    cases hm
  | notes => rfl
  | refuses _ => exact haccept (movesOf_onBehalf hx)
  | admits _ => exact haccept (movesOf_onBehalf hx)
  | handles _ _ => exact movesOf_onBehalf hx
  | closes _ _ _ => exact movesOf_onBehalf hx

theorem closeAll_movesOf_own {ss : Sessions} (h : Run (closeAll ss) es ()) (hx : ∀ id k, x ≠ .socket id k) :
    movesOf x es = [] := by
  induction ss generalizing es with
  | nil =>
    obtain ⟨rfl, -⟩ := run_pure_iff.1 h
    rfl
  | cons entry rest ih =>
    obtain ⟨es₁, es₂, _, rfl, h₁, h₂⟩ := run_monad_bind_iff.1 h
    obtain ⟨es₃, -, rfl⟩ := run_via_session h₁
    rw [movesOf_append, movesOf_onBehalf hx, ih h₂]
    rfl

/-- The listener and the waker are on the poller from the first. -/
theorem Course.movesOf_own (h : Course turns es server) :
    movesOf .listener es = [.on] ∧ movesOf .waker es = [.on] := by
  induction h with
  | bound h =>
    obtain ⟨-, -, es₁, es₂, rfl, hfront, hback⟩ := bind_parts h
    simp only [movesOf_append, hfront.movesOf, hback.movesOf]
    exact ⟨rfl, rfl⟩
  | deed _ h' ih =>
    rw [movesOf_append, movesOf_append, ih.1, ih.2, h'.movesOf_own (by simp), h'.movesOf_own (by simp)]
    exact ⟨rfl, rfl⟩
  | stopped _ h' ih =>
    rw [movesOf_append, movesOf_append, ih.1, ih.2, closeAll_movesOf_own h' (by simp),
      closeAll_movesOf_own h' (by simp)]
    exact ⟨rfl, rfl⟩

/-! ## What is held -/

/-- The server holds its listener and its waker, and the sockets of its live sessions. -/
def Holds (server : Server) : Enrolled → Prop
  | .listener | .waker => True
  | .socket id k => ∃ s, (id, s) ∈ server.sessions ∧ k ∈ s.holdings

/-- A session that is over has left the socket behind: a relay whose address the system has not told. -/
def Leaks (server : Server) (es : List ServerEvent) : Enrolled → Prop
  | .listener | .waker => False
  | .socket id k => ¬ server.Live id ∧ (callsOf id es).Strands k

/-- What happened to a socket of a session that is not live. -/
theorem Course.settled {id : SessionId} (h : Course turns es server) (hdead : ¬ server.Live id) (k : Socket) :
    (callsOf id es).Released k ∨ (callsOf id es).Strands k := by
  rcases h.chronicle.gone id hdead with hnone | ⟨peer, e, hstart⟩ | ⟨past, s, hended, hpast⟩
  · exact .inl (.inl (by rw [hnone]; rfl))
  · exact .inl (.inl (Transcript.record_of_moves_nil (start_fails_moves hstart)))
  · rw [← hpast]
    exact hended.settled k

theorem Course.custody {id : SessionId} {s : Session} (h : Course turns es server)
    (hm : (id, s) ∈ server.sessions) : Custody (callsOf id es) s := by
  obtain ⟨past, hl, hpast⟩ := h.chronicle.live id s hm
  rw [← hpast]
  exact hl.custody

/-- What is on the poller was put there and not taken off. -/
theorem Course.holds_or_leaks_iff (h : Course turns es server) :
    server.Holds x ∨ server.Leaks es x ↔ movesOf x es = [.on] := by
  cases x with
  | listener => exact iff_of_true (.inl trivial) h.movesOf_own.1
  | waker => exact iff_of_true (.inl trivial) h.movesOf_own.2
  | socket id k =>
    rw [movesOf_socket]
    constructor
    · rintro (⟨s, hm, hk⟩ | ⟨-, hleft⟩)
      · exact (h.custody hm).mem_holdings_iff.1 hk
      · exact hleft.2.1
    · intro hrecord
      by_cases hl : server.Live id
      · obtain ⟨⟨id, s⟩, hm, rfl⟩ := live_iff_exists.1 hl
        exact .inl ⟨s, hm, (h.custody hm).mem_holdings_iff.2 hrecord⟩
      · refine .inr ⟨hl, (h.settled hl k).resolve_left ?_⟩
        rintro (hr | hr | hr) <;> simp [hr] at hrecord

/-- Whatever is not on the poller was never put there, or was taken off, once. -/
theorem Course.movesOf_cases (h : Course turns es server) (x : Enrolled) :
    movesOf x es = [.on] ∨ movesOf x es = [] ∨ movesOf x es = [.off] ∨ movesOf x es = [.on, .off] := by
  cases x with
  | listener => exact .inl h.movesOf_own.1
  | waker => exact .inl h.movesOf_own.2
  | socket id k =>
    rw [movesOf_socket]
    by_cases hl : server.Live id
    · obtain ⟨⟨id, s⟩, hm, rfl⟩ := live_iff_exists.1 hl
      have hc := h.custody hm
      by_cases hk : k ∈ s.holdings
      · exact .inl (hc.mem_holdings_iff.1 hk)
      · rcases hc.released k hk with hr | ⟨-, hr, -⟩
        · exact .inr hr
        · exact .inl hr
    · rcases h.settled hl k with hr | ⟨-, hr, -⟩
      · exact .inr hr
      · exact .inl hr

theorem Course.count_registry (h : Course turns es server) :
    (registry es).count x = if movesOf x es = [.on] then 1 else 0 := by
  rw [SocksProxy.count_registry]
  rcases h.movesOf_cases x with hm | hm | hm | hm <;> rw [hm] <;> rfl

theorem Course.registry_nodup (h : Course turns es server) : (registry es).Nodup := by
  rw [List.nodup_iff_count_le_one]
  intro x
  rw [h.count_registry]
  split <;> simp

theorem Course.mem_registry (h : Course turns es server) :
    x ∈ registry es ↔ server.Holds x ∨ server.Leaks es x := by
  rw [h.holds_or_leaks_iff, ← List.count_pos_iff, h.count_registry]
  split <;> simp_all

end Server

/-! ## Tokens -/

/-- The roles of what a session holds fit into the low bits of a token. -/
theorem Session.Housed.slot_lt {s : Session} {k : Socket} (h : s.Housed) (hk : k ∈ s.holdings) :
    k.role.slot < 8 := by
  rcases Session.mem_holdings.1 hk with hl | ⟨relay, hr, rfl⟩ | hr | rfl
  · obtain ⟨slot, lookup, hlookup, rfl⟩ := Session.mem_lookupSockets.1 hl
    obtain ⟨hlt, -⟩ := Vector.getElem?_eq_some_iff.1 hlookup
    rw [h.lookups slot lookup hlookup]
    show 3 + slot < 8
    have hlt' : slot < 5 := hlt
    omega
  · rw [h.relay relay hr]
    decide
  · rw [h.remote k hr]
    decide
  · rw [h.client]
    decide

namespace Server

variable {turns : Nat} {server : Server} {es : List ServerEvent} {x y : Enrolled}

/-- A socket that is on the poller has a token of its session. -/
theorem Course.token_of_socket {id : Nat} {k : Socket} (h : Course turns es server)
    (hbound : server.nextId ≤ UInt64.size / 8) (hx : movesOf (.socket id k) es = [.on]) :
    0 < id ∧ (Enrolled.token (.socket id k)).toNat = 8 * id + k.role.slot ∧ k.role.slot < 8 := by
  have hslot : k.role.slot < 8 := by
    rcases h.holds_or_leaks_iff.2 hx with ⟨s, hm, hk⟩ | ⟨-, rfl, -⟩
    · exact (h.custody hm).housed.slot_lt hk
    · decide
  have hcalls : callsOf id es ≠ [] := by
    intro hnone
    rw [movesOf_socket, hnone] at hx
    cases hx
  obtain ⟨hpos, hlt⟩ := h.chronicle.given id hcalls
  exact ⟨hpos, Key.token_toNat (Nat.lt_of_lt_of_le hlt hbound) hslot, hslot⟩

/-- Two sockets of a session are not on the poller in the same role. -/
theorem Course.socket_unique {id : SessionId} {k k' : Socket} (h : Course turns es server)
    (hk : movesOf (.socket id k) es = [.on]) (hk' : movesOf (.socket id k') es = [.on])
    (hrole : k.role = k'.role) : k = k' := by
  rw [movesOf_socket] at hk hk'
  by_cases hl : server.Live id
  · obtain ⟨⟨id, s⟩, hm, rfl⟩ := live_iff_exists.1 hl
    have hc := h.custody hm
    exact List.inj_on_of_nodup_map hc.housed.nodup (hc.mem_holdings_iff.2 hk)
      (hc.mem_holdings_iff.2 hk') hrole
  · have hleft {k : Socket} (hk : (callsOf id es).record k = [.on]) : k = ⟨.relay, 0⟩ := by
      rcases h.settled hl k with (hr | hr | hr) | ⟨hr, -, -⟩
      · simp [hr] at hk
      · simp [hr] at hk
      · simp [hr] at hk
      · exact hr
    rw [hleft hk, hleft hk']

theorem Course.token_inj (h : Course turns es server) (hbound : server.nextId ≤ UInt64.size / 8)
    (hx : movesOf x es = [.on]) (hy : movesOf y es = [.on]) (htoken : x.token = y.token) : x = y := by
  have hnat : x.token.toNat = y.token.toNat := congrArg UInt64.toNat htoken
  have hlistener : Token.listener.toNat = 0 := rfl
  have hwaker : Token.waker.toNat = 1 := rfl
  cases x <;> cases y
  case listener.listener | waker.waker => rfl
  case listener.waker | waker.listener => simp [Enrolled.token, hlistener, hwaker] at hnat
  case listener.socket id k | waker.socket id k =>
    obtain ⟨hpos, htoken, -⟩ := h.token_of_socket hbound hy
    simp only [Enrolled.token, hlistener, hwaker] at hnat htoken
    omega
  case socket.listener id k | socket.waker id k =>
    obtain ⟨hpos, htoken, -⟩ := h.token_of_socket hbound hx
    simp only [Enrolled.token, hlistener, hwaker] at hnat htoken
    omega
  case socket.socket id k id' k' =>
    obtain ⟨-, htoken, hslot⟩ := h.token_of_socket hbound hx
    obtain ⟨-, htoken', hslot'⟩ := h.token_of_socket hbound hy
    have hsplit {a b i j : Nat} (hi : i < 8) (hj : j < 8) (hsum : 8 * a + i = 8 * b + j) :
        a = b ∧ i = j := by
      omega
    obtain ⟨rfl, hrole⟩ := hsplit hslot hslot' (htoken.symm.trans (hnat.trans htoken'))
    rw [h.socket_unique hx hy (Role.slot_inj hrole)]

end Server

/-! ## Who owns what is on the poller -/

/-- **What is on the poller is what the server holds, and what it has left behind.**

    Whatever a server has done, its poller has the listener, the waker, the sockets that its live sessions
    hold, and every relay whose session is over because the system did not tell the relay's address; it has
    each of them once. As long as ids fit into tokens, no two have the same token. And whatever else was put on
    the poller on behalf of a session that is over was taken off again, once. -/
theorem registry_matches_ownership {turns : Nat} {server : Server} {es : List ServerEvent}
    (h : server.Course turns es) :
    (registry es).Nodup ∧
      (∀ x, x ∈ registry es ↔ server.Holds x ∨ server.Leaks es x) ∧
      (server.nextId ≤ UInt64.size / 8 → ((registry es).map Enrolled.token).Nodup) ∧
      ∀ id k, ¬ server.Live id → .on ∈ movesOf (.socket id k) es →
        movesOf (.socket id k) es = [.on, .off] ∨ server.Leaks es (.socket id k) := by
  refine ⟨h.registry_nodup, fun x => h.mem_registry, fun hbound => ?_, fun id k hdead hon => ?_⟩
  · refine List.Nodup.map_on (fun x hx y hy htoken => ?_) h.registry_nodup
    rw [h.mem_registry, h.holds_or_leaks_iff] at hx hy
    exact h.token_inj hbound hx hy htoken
  · rw [movesOf_socket] at hon ⊢
    rcases h.settled hdead k with (hr | hr | hr) | hleft
    · simp [hr] at hon
    · simp [hr] at hon
    · exact .inl hr
    · exact .inr ⟨hdead, hleft⟩

/-! ## A batch of a server -/

/-- What is seen of a server that is bound and handles a batch is seen of a server. -/
theorem exists_course_of_rehearse (batch : List ReadyEvent) (script : ServerScript)
    (p : List ServerEvent → Server → Bool)
    (hp : (rehearseBind script).any (fun x =>
      (((Serving.handleAll 8 batch).exec x.2.1).play ServerScript.answer x.2.2).any fun y =>
        p (x.1 ++ y.1) y.2.1.2) = true) :
    ∃ es server, Server.Course 8 es server ∧ p es server = true := by
  obtain ⟨es, bound, es', ⟨r, server⟩, hbind, hhandle, hp⟩ :=
    exists_bound_of_rehearse script (Serving.handleAll 8 batch).exec
      (fun es _ es' y => p (es ++ es') y.2) hp
  exact ⟨es ++ es', server,
    (Server.Course.bound hbind).acts (Serving.handleFirst_acts hhandle), hp⟩

/-- Two clients, of whom the first speaks another protocol, and is gone by the end of the batch. -/
def ServerScript.pair : ServerScript :=
  { stranger with arrivals := [.ok ⟨.v4 ⟨192, 0, 2, 9⟩, 4000⟩, .ok ⟨.v4 ⟨192, 0, 2, 7⟩, 4000⟩] }

/-- What `registry_matches_ownership` says behind that batch. -/
theorem registry_matches_second_client :
    ∃ es server, Server.Course 8 es server ∧ server.Live 2 ∧ ¬ server.Live 1 ∧
      registry es = [.socket 2 ⟨.client, 0⟩, .waker, .listener] ∧ (registry es).Nodup ∧
      (∀ x, x ∈ registry es ↔ server.Holds x ∨ server.Leaks es x) ∧
      ((registry es).map Enrolled.token).Nodup ∧
      (movesOf (.socket 1 ⟨.client, 0⟩) es = [.on, .off] ∨ server.Leaks es (.socket 1 ⟨.client, 0⟩)) := by
  obtain ⟨es, server, hc, hp⟩ := exists_course_of_rehearse [.atListener, .fromClient 1] .pair
    (fun es server => decide (server.Live 2) && !decide (server.Live 1) &&
      decide (registry es = [.socket 2 ⟨.client, 0⟩, .waker, .listener]) &&
      decide (server.nextId ≤ UInt64.size / 8) && decide (.on ∈ movesOf (.socket 1 ⟨.client, 0⟩) es))
    (by decide +kernel)
  simp only [Bool.and_eq_true, Bool.not_eq_true', decide_eq_true_eq, decide_eq_false_iff_not] at hp
  obtain ⟨⟨⟨⟨hlive, hdead⟩, htable⟩, hbound⟩, hon⟩ := hp
  obtain ⟨hnodup, hmem, htokens, hover⟩ := registry_matches_ownership hc
  exact ⟨es, server, hc, hlive, hdead, htable, hnodup, hmem, htokens hbound, hover 1 _ hdead hon⟩

/-- A client that asks for an association, on a system that does not tell the address of the relay. -/
def ServerScript.reticent : ServerScript :=
  { stranger with
    sockets := fun _ =>
      { SocketScript.between [[5, 1, 0], [5, 3, 0, 1, 0, 0, 0, 0, 0, 0]] [] with
        instead
          | .localAddress ⟨.relay, 0⟩ => some (.error (.plain .other))
          | _ => none } }

/-- A relay is left on the poller: its session is over, and it was not taken off. -/
theorem relay_is_left_behind :
    ¬ ∀ turns es server, Server.Course turns es server →
      (∀ x, x ∈ registry es ↔ server.Holds x) ∧
        ∀ id k, ¬ server.Live id → .on ∈ movesOf (.socket id k) es →
          movesOf (.socket id k) es = [.on, .off] := by
  intro hclaim
  obtain ⟨es, server, hc, hp⟩ := exists_course_of_rehearse [.atListener, .fromClient 1] .reticent
    (fun es server => !decide (server.Live 1) && decide (movesOf (.socket 1 ⟨.relay, 0⟩) es = [.on]))
    (by decide +kernel)
  simp only [Bool.and_eq_true, Bool.not_eq_true', decide_eq_true_eq, decide_eq_false_iff_not] at hp
  obtain ⟨hdead, hon⟩ := hp
  have hoff := (hclaim 8 es server hc).2 1 ⟨.relay, 0⟩ hdead (by rw [hon]; exact List.mem_singleton_self _)
  rw [hon] at hoff
  cases hoff

end SocksProxy
