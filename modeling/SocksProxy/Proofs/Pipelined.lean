/-
  What becomes of all that a client sends.

  A client need not wait for answers. What it sends behind its request is read with the request, or when
  the tunnel is up, or else while its name is being resolved; and there it is thrown away.

  * `Step.reads`: in which stages a step reads from the client;
  * `arranged_invariant`: what was read stands in the order of the stages.

  **`tunnel_skips_what_resolving_reads`**: of what the client has sent behind its request, the remote side
  misses exactly the bytes that were read while the name was being resolved.
-/
import Mathlib
import SocksProxy.Proofs.Progress
import SocksProxy.Proofs.Rehearsal
import SocksProxy.Proofs.Upstream

namespace SocksProxy

open Dialogue

/-! ## What was read -/

namespace History

variable {h : History} {stage : Stage} {es : Transcript} {role : Role} {r : Readiness} {k : Nat}

/-- All that was read from the client. -/
def given (h : History) : Bytes :=
  Transcript.read .client h.calls

/-- What was read from the client in turns that began in a stage of the rank. -/
def readAt (h : History) (k : Nat) : Bytes :=
  Transcript.read .client (h.callsIn (·.rank = k))

/-- What was read from the client while its name was being resolved. -/
def passedOver (h : History) : Bytes :=
  Transcript.read .client (h.callsIn (· = .resolving))

@[simp] theorem given_turn : given (h ++ turn stage es) = h.given ++ Transcript.read .client es := by
  rw [given, calls_append, calls_turn, Transcript.read_append]
  rfl

@[simp] theorem given_event : given (h ++ [.event role r]) = h.given := by
  rw [given, given, calls_event]

@[simp] theorem readAt_event : readAt (h ++ [.event role r]) k = h.readAt k := by
  rw [readAt, readAt, callsIn_event]

@[simp] theorem readAt_turn : readAt (h ++ turn stage es) k =
    h.readAt k ++ if stage.rank = k then Transcript.read .client es else [] := by
  rw [readAt, callsIn_append, callsIn_turn, Transcript.read_append]
  by_cases hk : stage.rank = k <;> simp [readAt, hk]

/-- Kinds of stages that are the same have the same calls. -/
theorem callsIn_congr {p q : Stage → Bool} (hpq : ∀ stage, p stage = q stage) :
    h.callsIn p = h.callsIn q :=
  congrArg h.callsIn (funext hpq)

theorem readAt_zero : h.readAt 0 = h.heard := by
  rw [readAt, heard]
  refine congrArg _ (callsIn_congr fun stage => ?_)
  cases stage <;> rfl

theorem readAt_one : h.readAt 1 = h.passedOver := by
  rw [readAt, passedOver]
  refine congrArg _ (callsIn_congr fun stage => ?_)
  cases stage <;> rfl

theorem readAt_three : h.readAt 3 = h.relayed := by
  rw [readAt, relayed]
  refine congrArg _ (callsIn_congr fun stage => ?_)
  cases stage <;> rfl

end History

/-! ## Steps -/

/-- A turn that began in the stage `origin` reads from the client in the stage `now`: it has not left the
    part of the session where it began, and no attempt is waited for. -/
def Stage.Reads (origin now : Stage) : Prop :=
  origin.rank = now.rank ∧ now ≠ .connecting

section
variable {ctx : Context} {origin : Stage} {s s' : Session} {es : Transcript}
  {r : Except SessionError Unit}

theorem Step.reads (h : Step ctx origin s es r s') (hs : s.Shaped) :
    Transcript.read .client es = [] ∨ origin.Reads s.stage := by
  have hpeer {es : Transcript} {stream : Stream} {x : Except IoError Received}
      (hst : s.stage = .connected) (hrem : s.remoteStream? = some stream)
      (h : Run (stream.receive ctx.turns) es x) : Transcript.Deaf .client es := by
    refine Stream.receive_deaf .client h ?_
    rw [hs.connected_role hst hrem]
    nofun
  cases h with
  | aside h | ended _ h => exact .inl (Transcript.deaf_of_aside h).read
  | cut | connectStarted => exact .inl rfl
  | clientPolled _ _ h hx => exact .inl (Stream.receive_empty h hx .client)
  | clientFlushed h => exact .inl h.worked.deaf.read
  | clientResumed h => exact .inl (Stream.resume_cases h).1.deaf.read
  | heard ho hst =>
    refine .inr ⟨(Stage.rank_eq_zero.2 ho).trans (Stage.rank_eq_zero.2 hst).symm, ?_⟩
    rintro heq
    rw [heq] at hst
    nomatch hst
  | answered _ h₁ h₂ | unanswered _ h₁ h₂ =>
    exact .inl ((Transcript.deaf_of_aside h₁).append h₂.worked.deaf).read
  | farewell _ _ h₁ h₂ h₃ =>
    have hw := (Stream.send_cases h₂).1
    exact .inl (((Transcript.deaf_of_aside h₁).append hw.deaf).append
      (Transcript.deaf_of_aside h₃)).read
  | queried _ h | lookupsClosed _ h | unassociated _ h | datagrams _ _ h =>
    exact .inl (Transcript.deaf_of_offStream h).read
  | lookupStarted _ _ _ _ h => exact .inl (Transcript.deaf_of_offStream h).read
  | attemptStarted _ _ h | attemptFailed _ _ h =>
    exact .inl (Transcript.deaf_of_setup (Talk.openStream_cases h).1).read
  | abandoned _ _ hsome hnone =>
    exact .inl (Transcript.deaf_of_upkeep (Outgoing.abandon_upkeep hsome hnone)).read
  | unbound _ _ _ h₁ h₂ =>
    exact .inl (Transcript.deaf_of_aside ((Talk.peerOf_all h₁).append h₂)).read
  | unstarted _ _ _ h₁ h₂ h₃ =>
    exact .inl ((Transcript.deaf_of_aside ((Talk.peerOf_all h₁).append h₂)).append h₃.worked.deaf).read
  | established _ _ _ h₁ h₂ h₃ h₄ h₅ =>
    have hfront : Transcript.Deaf .client _ :=
      (Transcript.deaf_of_aside ((Talk.peerOf_all h₁).append h₂)).append h₃.worked.deaf
    exact .inl ((hfront.append (Transcript.deaf_of_aside h₄)).append h₅.worked.deaf).read
  | relayedUp ho hst => exact .inr ⟨congrArg _ (ho.trans hst.symm), by rw [hst]; nofun⟩
  | remotePolled hst hrem _ h => exact .inl (hpeer hst hrem h).read
  | relayedDown hst hrem _ h₁ h₂ => exact .inl ((hpeer hst hrem h₁).append h₂.worked.deaf).read
  | clientDrained _ _ h₁ h₂ =>
    exact .inl (h₁.worked.deaf.append (Stream.resume_cases h₂).1.deaf).read
  | remoteFlushed _ _ h => exact .inl h.worked.deaf.read
  | remoteDrained _ _ h₁ h₂ =>
    exact .inl (h₁.worked.deaf.append (Stream.resume_cases h₂).1.deaf).read
  | associated _ h₁ h₂ => exact .inl ((Transcript.deaf_of_offStream h₁).append h₂.worked.deaf).read
  | discarded hst ho =>
    refine .inr ⟨congrArg _ ho, ?_⟩
    rcases hst with hst | hst <;> rw [hst] <;> nofun

end

/-! ## The order of what was read -/

/-- What was read from the client stands in the order of the parts of the session. Nothing was read for a
    part that is still to come, nor while an attempt was waited for. -/
structure Arranged (h : History) (stage : Stage) : Prop where
  given : h.given = (List.range (stage.rank + 1)).flatMap h.readAt
  later : ∀ k, stage.rank < k → h.readAt k = []
  unread : h.readAt 2 = []

section
variable {ctx : Context} {origin stage stage' : Stage} {h : History} {s s' : Session} {es : Transcript}
  {r : Except SessionError Unit} {role : Role} {ready : Readiness}

theorem Arranged.event (ha : Arranged h stage) : Arranged (h ++ [Entry.event role ready]) stage := by
  have hsame : (h ++ [Entry.event role ready]).readAt = h.readAt := funext fun k => History.readAt_event
  refine ⟨?_, ?_, ?_⟩
  · rw [History.given_event, hsame]
    exact ha.given
  · rw [hsame]
    exact ha.later
  · rw [hsame]
    exact ha.unread

/-- A session that has moved on has read nothing for the parts in between. -/
theorem Arranged.advance (ha : Arranged h stage) (hle : stage.rank ≤ stage'.rank) :
    Arranged h stage' := by
  refine ⟨?_, fun k hk => ha.later k (Nat.lt_of_le_of_lt hle hk), ha.unread⟩
  obtain ⟨n, hn⟩ := Nat.exists_eq_add_of_le (Nat.succ_le_succ hle)
  have hbehind : ((List.range n).map (stage.rank + 1 + ·)).flatMap h.readAt = [] := by
    refine List.flatMap_eq_nil_iff.2 fun k hk => ?_
    obtain ⟨i, -, rfl⟩ := List.mem_map.1 hk
    exact ha.later _ (by omega)
  rw [← Nat.succ_eq_add_one, hn, List.range_add, List.flatMap_append, hbehind, List.append_nil]
  exact ha.given

theorem Arranged.turn (ha : Arranged h stage)
    (hreads : Transcript.read .client es = [] ∨ origin.Reads stage) :
    Arranged (h ++ History.turn origin es) stage := by
  rcases hreads with hnil | ⟨hrank, hne⟩
  · have hsame : (h ++ History.turn origin es).readAt = h.readAt := by
      funext k
      rw [History.readAt_turn, hnil, ite_self, List.append_nil]
    refine ⟨?_, ?_, ?_⟩
    · rw [History.given_turn, hnil, List.append_nil, hsame]
      exact ha.given
    · rw [hsame]
      exact ha.later
    · rw [hsame]
      exact ha.unread
  · have hother {k : Nat} (hk : k ≠ stage.rank) :
        (h ++ History.turn origin es).readAt k = h.readAt k := by
      rw [History.readAt_turn, hrank, if_neg (Ne.symm hk), List.append_nil]
    have hhere : (h ++ History.turn origin es).readAt stage.rank =
        h.readAt stage.rank ++ Transcript.read .client es := by
      rw [History.readAt_turn, hrank, if_pos rfl]
    have hbefore : (List.range stage.rank).flatMap (h ++ History.turn origin es).readAt =
        (List.range stage.rank).flatMap h.readAt :=
      List.flatMap_congr fun k hk => hother (Nat.ne_of_lt (List.mem_range.1 hk))
    refine ⟨?_, fun k hk => ?_, ?_⟩
    · rw [History.given_turn, ha.given, List.range_succ, List.flatMap_append, List.flatMap_append,
        hbefore, List.flatMap_singleton, List.flatMap_singleton, hhere, List.append_assoc]
    · rw [hother (Nat.ne_of_gt hk)]
      exact ha.later k hk
    · rw [hother]
      · exact ha.unread
      · revert hne
        cases stage <;> decide

theorem Step.arranged (h' : Step ctx origin s es r s') (hs : s.Shaped) (ha : Arranged h s.stage) :
    Arranged (h ++ History.turn origin es) s'.stage := by
  have hread := ha.turn (h'.reads hs)
  rcases h'.next with heq | hnext
  · rw [heq]
    exact hread
  · exact hread.advance (Stage.rank_le_of_next hnext)

theorem arranged_invariant :
    Invariant ctx (fun h s => Arranged h s.stage) (fun h s => Arranged h s.stage) where
  fresh hopens := by
    have hnil : Arranged [] .accepted := ⟨rfl, fun _ _ => rfl, rfl⟩
    rw [← List.nil_append (History.turn _ _)]
    exact hnil.turn (.inl (Transcript.deaf_of_upkeep hopens.upkeep).read)
  event := Arranged.event
  goes hs ha h := h.arranged hs ha
  ends hs ha h := h.arranged hs ha
  stops ha := ha
  closes ha hall := ha.turn (.inl (Transcript.deaf_of_upkeep hall).read)

end

/-! ## Behind the request -/

section
variable {ctx : Context} {h : History} {s : Session}

/-- The request of a session whose tunnel was up is in what was heard. -/
theorem requested_invariant : Invariant ctx
    (fun h s => Upstream ctx.settings s h.heard h.relayed (h.taken .remote) ∧ h.sawClientEnd = false)
    (fun h s => s.stage = .connected → ∃ early, behindRequest ctx.settings h.heard = some early) where
  fresh := upstream_invariant.fresh
  event := upstream_invariant.event
  goes := upstream_invariant.goes
  ends {h _ s s' _ _} hs hi hstep hst := by
    have hbefore : ∃ early, behindRequest ctx.settings h.heard = some early := by
      rcases hstep.next with heq | hnext
      · obtain ⟨stream, hrem, -⟩ := hs.connected (heq ▸ hst)
        obtain ⟨early, he, -⟩ := hi.1.connected (heq ▸ hst) hrem
        exact ⟨early, he⟩
      · have hconnecting : s.stage = .connecting := by
          rw [hst] at hnext
          revert hnext
          cases s.stage <;> decide
        obtain ⟨-, -, -, out, hrem, -⟩ := (Session.holds_connecting hconnecting).1 hs.holds
        exact ⟨out.early, (hi.1.connecting hconnecting hrem).1⟩
    obtain ⟨early, he⟩ := hbefore
    rw [History.heard_turn]
    exact ⟨_, behindRequest_takesFront.append he _⟩
  stops hi hst := by
    have hu := hi.1
    unfold Upstream at hu
    rw [hst] at hu
    obtain ⟨_, early, -, he, -⟩ := hu
    exact ⟨early, he⟩
  closes he _ hst := by
    obtain ⟨early, he⟩ := he hst
    rw [History.heard_turn]
    exact ⟨_, behindRequest_takesFront.append he _⟩

/-- While a tunnel is up, what was read was heard, passed over or relayed. -/
theorem Arranged.connected (ha : Arranged h s.stage) (hst : s.stage = .connected) :
    h.given = h.heard ++ (h.passedOver ++ h.relayed) := by
  have hg := ha.given
  rw [hst] at hg
  rw [hg, ← History.readAt_zero, ← History.readAt_one, ← History.readAt_three]
  simp [Stage.rank, List.range_succ, ha.unread]

/-- **The remote side misses what was read while a name was being resolved.** Once the tunnel is up, a client
    has sent behind its request what was read with the request, `E`, what was read while its name was being
    resolved, `P`, and what was read since, `R`.

    * What the remote side has taken, followed by what is scheduled for it, is `E ++ R`.
    * When the session has ended, the remote side has taken a prefix of `E ++ R`.
    * If `P` is empty, the remote side takes a prefix of what the client has sent behind its request, however
      that was cut into reads. -/
theorem tunnel_skips_what_resolving_reads (hst : s.stage = .connected) :
    (Life ctx h s → ∃ early stream, s.remoteStream? = some stream ∧
      behindRequest ctx.settings h.heard = some early ∧
      behindRequest ctx.settings h.given = some (early ++ (h.passedOver ++ h.relayed)) ∧
      h.taken .remote ++ stream.outbound.pending = early ++ h.relayed) ∧
    (Ended ctx h s → ∃ early, behindRequest ctx.settings h.heard = some early ∧
      behindRequest ctx.settings h.given = some (early ++ (h.passedOver ++ h.relayed)) ∧
      h.taken .remote <+: early ++ h.relayed) ∧
    (Life ctx h s ∨ Ended ctx h s → h.passedOver = [] →
      ∃ sent, behindRequest ctx.settings h.given = some sent ∧ h.taken .remote <+: sent) := by
  have hlife (hl : Life ctx h s) : ∃ early stream, s.remoteStream? = some stream ∧
      behindRequest ctx.settings h.heard = some early ∧
      behindRequest ctx.settings h.given = some (early ++ (h.passedOver ++ h.relayed)) ∧
      h.taken .remote ++ stream.outbound.pending = early ++ h.relayed := by
    obtain ⟨stream, hrem, -⟩ := hl.shaped.connected hst
    obtain ⟨early, he, htaken⟩ := (upstream_invariant.life hl).1.connected hst hrem
    refine ⟨early, stream, hrem, he, ?_, htaken⟩
    rw [(arranged_invariant.life hl).connected hst]
    exact behindRequest_takesFront.append he _
  have hended (he : Ended ctx h s) : ∃ early, behindRequest ctx.settings h.heard = some early ∧
      behindRequest ctx.settings h.given = some (early ++ (h.passedOver ++ h.relayed)) ∧
      h.taken .remote <+: early ++ h.relayed := by
    obtain ⟨early, hearly⟩ := requested_invariant.ended he hst
    have htaken := (upstream_invariant.ended he).1
    rw [hearly, Option.getD_some] at htaken
    refine ⟨early, hearly, ?_, htaken⟩
    rw [(arranged_invariant.ended he).connected hst]
    exact behindRequest_takesFront.append hearly _
  refine ⟨hlife, hended, ?_⟩
  rintro (hl | he) hnone
  · obtain ⟨early, stream, -, -, hsent, htaken⟩ := hlife hl
    rw [hnone, List.nil_append] at hsent
    exact ⟨_, hsent, htaken ▸ List.prefix_append _ _⟩
  · obtain ⟨early, -, hsent, htaken⟩ := hended he
    rw [hnone, List.nil_append] at hsent
    exact ⟨_, hsent, htaken⟩

end

/-! ## A client that does not wait -/

/-- The name server that is asked. -/
def eagerServer : Endpoint :=
  ⟨.v4 ⟨192, 0, 2, 53⟩, 53⟩

/-- A client that asks for the name `x` and sends one byte with its request, perhaps more while the name is
    being resolved, and two bytes when the tunnel is up. -/
def eagerClient (meanwhile : List (Option Bytes)) : SocketScript where
  reads
    | .client => [some [5, 1, 0], some [5, 1, 0, 3, 1, 120, 0, 80, 104]] ++ meanwhile ++
      [some [121, 111]]
    | _ => []
  datagrams
    | .query 0 => [some ([0, 1, 0x81, 0x80, 0, 1, 0, 1, 0, 0, 0, 0, 1, 120, 0, 0, 1, 0, 1, 0xc0, 12, 0, 1,
      0, 1, 0, 0, 0, 60, 0, 4, 192, 0, 2, 7], eagerServer)]
    | _ => []

/-- The client makes its request, is listened to while the name is being resolved, and again when the tunnel
    is up. -/
def eagerEvents : List (Role × Readiness) :=
  [Role.client.reads, Role.client.reads, (Role.query 0).reads, attemptDone, Role.client.reads]

/-- A client that sends a byte while its name is being resolved has a tunnel at last. -/
theorem exists_life_eager_client :
    ∃ h s, Life ⟨{}, some eagerServer, 9⟩ h s ∧ s.stage = .connected ∧ h.passedOver = [105] ∧
      behindRequest {} h.given = some [104, 105, 121, 111] ∧ h.taken .remote = [104, 121, 111] := by
  obtain ⟨h, s, hl, hx⟩ := exists_life_of_rehearse ⟨{}, some eagerServer, 9⟩
    (eagerClient [some [105], none]) eagerEvents
    (fun h s => s.stage = .connected ∧ h.passedOver = [105] ∧
      behindRequest {} h.given = some [104, 105, 121, 111] ∧ h.taken .remote = [104, 121, 111]) (by cbv)
  exact ⟨h, s, hl, of_decide_eq_true hx⟩

/-- What `tunnel_skips_what_resolving_reads` says of a client that is silent while its name is being
    resolved, and of one that is not. -/
theorem tunnel_skips_of_eager_client :
    (∃ h s sent, Life ⟨{}, some eagerServer, 9⟩ h s ∧ s.stage = .connected ∧ h.passedOver = [] ∧
      behindRequest {} h.given = some sent ∧ h.taken .remote <+: sent ∧
      h.taken .remote = [104, 121, 111]) ∧
    ∃ h s early stream, Life ⟨{}, some eagerServer, 9⟩ h s ∧ s.stage = .connected ∧
      h.passedOver = [105] ∧ s.remoteStream? = some stream ∧
      behindRequest {} h.given = some (early ++ (h.passedOver ++ h.relayed)) ∧
      h.taken .remote ++ stream.outbound.pending = early ++ h.relayed := by
  constructor
  · obtain ⟨h, s, hl, hx⟩ := exists_life_of_rehearse ⟨{}, some eagerServer, 9⟩ (eagerClient [none])
      eagerEvents (fun h s => s.stage = .connected ∧ h.passedOver = [] ∧
        h.taken .remote = [104, 121, 111]) (by cbv)
    obtain ⟨hst, hnone, htaken⟩ := of_decide_eq_true hx
    obtain ⟨sent, hsent, hprefix⟩ :=
      (tunnel_skips_what_resolving_reads hst).2.2 (.inl hl) hnone
    exact ⟨h, s, sent, hl, hst, hnone, hsent, hprefix, htaken⟩
  · obtain ⟨h, s, hl, hst, hpassed, -⟩ := exists_life_eager_client
    obtain ⟨early, stream, hrem, -, hsent, htaken⟩ :=
      (tunnel_skips_what_resolving_reads hst).1 hl
    exact ⟨h, s, early, stream, hl, hst, hpassed, hrem, hsent, htaken⟩

/-- A byte in the middle is left out: the client has sent `hiyo` behind its request, and the remote side has
    taken `hyo`. -/
theorem eager_client_loses_a_byte :
    ∃ h s sent, Life ⟨{}, some eagerServer, 9⟩ h s ∧ s.stage = .connected ∧
      behindRequest {} h.given = some sent ∧ sent = [104, 105, 121, 111] ∧
      h.taken .remote = [104, 121, 111] ∧ ¬ h.taken .remote <+: sent := by
  obtain ⟨h, s, hl, hst, -, hsent, htaken⟩ := exists_life_eager_client
  refine ⟨h, s, _, hl, hst, hsent, rfl, htaken, ?_⟩
  rw [htaken]
  decide

end SocksProxy
