/-
  The handlers that look a name up are made of steps.

  A query uses sockets of its own. Until its answer is there the session stays as it is, and when
  the answer is there the query is closed first.
-/
import SocksProxy.Proofs.ConnectSteps

namespace SocksProxy

open Dialogue Handler

variable {ctx : Context} {origin : Stage} {s t : Session} {w : Work} {es : Transcript}

namespace Session

theorem Shaped.resolving_of_lookup {slot : Nat} {lookup : Lookup} (h : s.Shaped)
    (hl : s.lookups[slot]? = some (some lookup)) : s.stage = .resolving := by
  have hn : ¬ s.NoLookups := fun hn => hn.getElem? slot lookup hl
  have hh := h.holds
  unfold Holds at hh
  cases hs : s.stage <;> rw [hs] at hh <;> first | rfl | exact absurd hh.1 hn

/-- While no name is looked up, there is a free slot. -/
theorem NoLookups.findSlot_ne_none (h : s.NoLookups) : s.lookups.findFinIdx? (·.isNone) ≠ none := by
  rw [h]
  simp [Vector.findFinIdx?_eq_none_iff, Role.maxQueries]

theorem Shaped.lookupSockets_ne_client (h : s.Shaped) :
    ∀ socket ∈ s.lookupSockets, socket.role ≠ .client := by
  intro socket hm
  obtain ⟨entry, he, hs⟩ := List.mem_filterMap.1 hm
  cases entry with
  | none => nomatch hs
  | some lookup =>
    cases hs
    obtain ⟨slot, hslot⟩ := Vector.getElem?_of_mem (Vector.mem_toList_iff.1 he)
    exact h.queries slot lookup hslot

end Session

namespace Handler

/-! ## Asking -/

section
variable {Q : UInt16 → Work → Transcript → Prop} {E : SessionError → Work → Transcript → Prop}

theorem always_drawId :
    drawId.Always w es Q E ↔ Q w.ids.draw.1 { w with ids := w.ids.draw.2 } es := by
  constructor
  · intro h
    rw [← List.append_nil es]
    exact h [] (.ok w.ids.draw.1) _ .done
  · intro h es' r w' hr
    obtain ⟨rfl, hr⟩ := run_done_iff.1 hr
    cases hr
    rw [List.append_nil]
    exact h

end

/-- What comes of sending a query. No slot is free; or an id is drawn, and then the name fits no query, or
    the socket of the slot cannot be opened, or it is closed since the query does not leave, or the query
    leaves and the lookup takes the slot. -/
inductive StartsLookup (ctx : Context) (name : DomainName) (server : Endpoint) (w : Work) :
    Transcript → Except SessionError Unit → Work → Prop where
  | full :
      w.session.lookups.findFinIdx? (·.isNone) = none →
      StartsLookup ctx name server w [] (.error (.exhausted "DNS query slots")) w
  | unasked {slot : Fin Role.maxQueries} {text : String} :
      w.session.lookups.findFinIdx? (·.isNone) = some slot →
      StartsLookup ctx name server w [] (.error (.resolution text)) { w with ids := w.ids.draw.2 }
  | unopened {slot : Fin Role.maxQueries} {es : Transcript} {e : IoError} :
      w.session.lookups.findFinIdx? (·.isNone) = some slot →
      Run (Talk.openDatagram ⟨.query slot, 0⟩ (Endpoint.wildcard server.ip)) es (.error e) →
      StartsLookup ctx name server w es (.error (.transport e)) { w with ids := w.ids.draw.2 }
  | unsent {slot : Fin Role.maxQueries} {query : Dns.Query} {es₁ es₂ es₃ : Transcript}
      {r : Except IoError Bool} {e : SessionError} :
      w.session.lookups.findFinIdx? (·.isNone) = some slot →
      Run (Talk.openDatagram ⟨.query slot, 0⟩ (Endpoint.wildcard server.ip)) es₁ (.ok ()) →
      Run (Talk.sendTo ctx.turns ⟨.query slot, 0⟩ query.encode server) es₂ r → r ≠ .ok true →
      Run (Talk.deregister ⟨.query slot, 0⟩) es₃ () →
      e.IsFinal → (∀ what, e ≠ .exhausted what) →
      StartsLookup ctx name server w (es₁ ++ es₂ ++ es₃) (.error e) { w with ids := w.ids.draw.2 }
  | sent {slot : Fin Role.maxQueries} {query : Dns.Query} {es₁ es₂ : Transcript} :
      w.session.lookups.findFinIdx? (·.isNone) = some slot →
      Dns.Query.ofText w.ids.draw.1 name.text .a = .ok query →
      Run (Talk.openDatagram ⟨.query slot, 0⟩ (Endpoint.wildcard server.ip)) es₁ (.ok ()) →
      Run (Talk.sendTo ctx.turns ⟨.query slot, 0⟩ query.encode server) es₂ (.ok true) →
      StartsLookup ctx name server w
        (es₁ ++ es₂ ++
          [⟨.log .session ⟨.debug, .session, s!"Resolving {name.text} via {server.text}"⟩, ()⟩]) (.ok ())
        ⟨{ w.session with
            lookups :=
              w.session.lookups.set slot.val (some ⟨⟨.query slot, 0⟩, server, w.ids.draw.1, name⟩)
                slot.isLt },
          w.ids.draw.2⟩

/-- A query is sent in one of these ways. -/
theorem startLookup_cases {name : DomainName} {server : Endpoint} :
    (startLookup ctx name server).Always w []
      (fun _ w' es' => StartsLookup ctx name server w es' (.ok ()) w')
      (fun e w' es' => StartsLookup ctx name server w es' (.error e) w') := by
  rw [startLookup, always_bind, always_session]
  cases hslot : w.session.lookups.findFinIdx? (·.isNone) with
  | none => exact always_fail.2 (.full hslot)
  | some slot =>
    simp only
    rw [always_bind, always_drawId]
    cases hquery : Dns.Query.ofText w.ids.draw.1 name.text .a with
    | error fault => exact always_fail.2 (.unasked hslot)
    | ok query =>
      simp only
      rw [always_bind, always_attempt]
      intro es₁ r₁ h₁
      cases r₁ with
      | error e => exact .unopened hslot h₁
      | ok _ =>
        simp only
        rw [always_bind, always_talk]
        intro es₂ r₂ h₂
        rcases r₂ with e | _ | _
        · simp only [always_bind, always_talk]
          exact fun es₃ _ h₃ => always_fail.2 (.unsent hslot h₁ h₂ nofun h₃ nofun nofun)
        · simp only [always_bind, always_talk]
          exact fun es₃ _ h₃ => always_fail.2 (.unsent hslot h₁ h₂ nofun h₃ nofun nofun)
        · simp only
          rw [always_bind, always_log, always_update]
          exact .sent hslot hquery h₁ h₂

/-- A lookup takes a slot, or leaves the session as it was. -/
theorem startLookup_always {name : DomainName} {server : Endpoint} (hl : w.session.NoLookups) :
    (startLookup ctx name server).Always w es
      (fun _ w' es' => ∃ (es₁ : Transcript) (slot : Fin Role.maxQueries) (lookup : Lookup),
        es' = es ++ es₁ ∧ es₁.All Verb.IsOffStream ∧ lookup.socket.role = .query slot ∧
        w'.session = { w.session with
          lookups := w.session.lookups.set slot.val (some lookup) slot.isLt })
      (fun e w' es' => w'.session = w.session ∧ e.IsFinal ∧ (∀ what, e ≠ .exhausted what) ∧
        ∃ es₁, es' = es ++ es₁ ∧ es₁.All Verb.IsOffStream) := by
  refine (startLookup_cases.shift es).imp ?_ ?_
  · rintro _ w' _ ⟨es₁, rfl, h⟩
    cases h with
    | sent _ _ h₁ h₂ =>
      exact ⟨_, _, _, rfl, ((Talk.openDatagram_all (by nofun) h₁).append (Talk.sendTo_all h₂)).append
        (Transcript.all_singleton trivial), rfl, rfl⟩
  · rintro e w' _ ⟨es₁, rfl, h⟩
    cases h with
    | full hslot => exact absurd hslot hl.findSlot_ne_none
    | unasked => exact ⟨rfl, nofun, nofun, _, rfl, Transcript.all_nil⟩
    | unopened _ h₁ => exact ⟨rfl, nofun, nofun, _, rfl, Talk.openDatagram_all (by nofun) h₁⟩
    | unsent _ h₁ h₂ _ h₃ hfinal hne =>
      exact ⟨rfl, hfinal, hne, _, rfl,
        ((Talk.openDatagram_all (by nofun) h₁).append (Talk.sendTo_all h₂)).append
          (Talk.deregister_offStream (by nofun) h₃)⟩

/-- Looks the name of a request up, which was taken off what was read. -/
theorem resolve_walks {request : Request} {n : Nat} {name : DomainName} {pending : PendingRequest}
    (hs : Steps ctx origin s es (.ok ()) t) (ht : t.Shaped) (hst : t.stage = .authenticated)
    (hd : Request.decode t.inbound = .ok (request, n))
    (hc : request.command = pending.intent.command)
    (hw : w.session = { t with inbound := t.inbound.drop n }) :
    (resolve ctx name pending).Walks ctx origin s w es := by
  obtain ⟨hl, -⟩ := (Session.holds_handshake (by rw [hst]; rfl)).1 ht.holds
  have hw' : w.session = { t with inbound := w.session.inbound } := by
    rw [hw]
  unfold Walks resolve
  cases ctx.nameServer with
  | none => exact farewell_walks nofun (.reply (.inl hst) nofun) hs hw'
  | some server =>
    simp only
    rw [always_bind, always_outcome]
    refine (startLookup_always (by rw [hw]; exact hl)).imp ?_ ?_
    · rintro _ w₁ _ ⟨es₁, slot, lookup, rfl, hall, hrole, heq⟩
      simp only
      rw [always_update]
      have hstep := hs.snoc (.lookupStarted hst hd hc hrole hall)
      rw [heq, hw]
      exact hstep
    · rintro e w₁ _ ⟨heq, hfinal, hne, es₁, rfl, hall⟩
      have hs₁ := hs.snoc (.queried (.inl hst) hall)
      have hw₁ : w₁.session = { t with inbound := w₁.session.inbound } := by
        rw [heq]
        exact hw'
      cases e with
      | exhausted what => exact absurd rfl (hne what)
      | _ => exact farewell_walks hfinal (.reply (.inl hst) nofun) hs₁ hw₁

/-! ## Answers -/

/-- Waiting for an answer changes nothing. -/
theorem receiveAnswer_always {lookup : Lookup} {turns : Nat} :
    (receiveAnswer ctx lookup turns).Always w es
      (fun _ w' es' => w' = w ∧ ∃ es₁, es' = es ++ es₁ ∧ es₁.All Verb.IsOffStream)
      (fun e w' es' => w' = w ∧ e.IsFinal ∧ ∃ es₁, es' = es ++ es₁ ∧ es₁.All Verb.IsOffStream) := by
  induction turns generalizing es with
  | zero =>
    rw [receiveAnswer, always_talk]
    exact fun _ _ h => absurd h not_run_stuck
  | succ turns ih =>
    -- A datagram that is no answer is logged, and the next one is looked at.
    have hnext {es₁ : Transcript} {e : SessionEvent} (h : es₁.All Verb.IsOffStream)
        (he : e.1.verb.IsOffStream) :
        (receiveAnswer ctx lookup turns).Always w (es ++ es₁ ++ [e])
          (fun _ w' es' => w' = w ∧ ∃ es₁, es' = es ++ es₁ ∧ es₁.All Verb.IsOffStream)
          (fun e w' es' => w' = w ∧ e.IsFinal ∧ ∃ es₁, es' = es ++ es₁ ∧ es₁.All Verb.IsOffStream) := by
      have hfront := h.append (Transcript.all_singleton he)
      refine ih.imp ?_ ?_
      · rintro _ _ _ ⟨rfl, es₂, rfl, h₂⟩
        exact ⟨rfl, _, by simp only [List.append_assoc], hfront.append h₂⟩
      · rintro _ _ _ ⟨rfl, hfinal, es₂, rfl, h₂⟩
        exact ⟨rfl, hfinal, _, by simp only [List.append_assoc], hfront.append h₂⟩
    rw [receiveAnswer, always_bind, always_attempt]
    intro es₁ r₁ h₁
    have hall := Talk.receiveFrom_all h₁
    rcases r₁ with e | _ | ⟨datagram, source⟩
    · exact ⟨rfl, nofun, es₁, rfl, hall⟩
    · simp only
      rw [always_pure]
      exact ⟨rfl, es₁, rfl, hall⟩
    · simp only
      split
      · rw [always_bind, always_talk]
        intro es₂ _ h₂
        rw [run_log_iff.1 h₂]
        exact hnext hall trivial
      · split
        · rw [always_pure]
          exact ⟨rfl, es₁, rfl, hall⟩
        · rw [always_bind, always_talk]
          intro es₂ _ h₂
          rw [run_log_iff.1 h₂]
          exact hnext hall trivial
        · rw [always_fail]
          exact ⟨rfl, nofun, es₁, rfl, hall⟩

theorem lookupResult_always {lookup : Lookup} {r : Readiness} :
    (lookupResult ctx lookup r).Always w es
      (fun _ w' es' => w' = w ∧ ∃ es₁, es' = es ++ es₁ ∧ es₁.All Verb.IsOffStream)
      (fun e w' es' => w' = w ∧ e.IsFinal ∧ ∃ es₁, es' = es ++ es₁ ∧ es₁.All Verb.IsOffStream) := by
  rw [lookupResult]
  split
  · rw [always_fail]
    exact ⟨rfl, nofun, [], (List.append_nil es).symm, Transcript.all_nil⟩
  · exact receiveAnswer_always

theorem closeLookups_always {Q : Unit → Work → Transcript → Prop}
    {E : SessionError → Work → Transcript → Prop} (hw : w.session.Shaped)
    (h : ∀ es₁, es₁.All Verb.IsOffStream →
      Q () { w with session := { w.session with lookups := .replicate _ none } } (es ++ es₁)) :
    closeLookups.Always w es Q E := by
  simp only [closeLookups, always_bind, always_session, always_talk, always_update]
  intro es₁ _ h₁
  exact h es₁ (Talk.deregisterAll_offStream hw.lookupSockets_ne_client h₁)

theorem onLookup_walks {slot : Nat} {r : Readiness} (hs : Steps ctx origin s es (.ok ()) w.session)
    (hw : w.session.Shaped) : (onLookup ctx slot r).Walks ctx origin s w es := by
  unfold Walks onLookup
  rw [always_bind, always_session]
  split
  · next lookup hlookup =>
    have hst := hw.resolving_of_lookup hlookup
    rw [always_bind, always_outcome]
    refine lookupResult_always.imp ?_ ?_
    · rintro a _ _ ⟨rfl, es₁, rfl, hall⟩
      have hs₁ := hs.snoc (.queried (.inr hst) hall)
      cases a with
      | none =>
        simp only
        rw [always_pure]
        exact hs₁
      | some addresses =>
        simp only
        rw [always_bind, always_log, always_bind]
        refine closeLookups_always hw fun es₂ hall₂ => ?_
        have hs₂ := (hs₁.call (e := ⟨.log .session ⟨.debug, .session,
          s!"Resolved {addresses.length} addresses"⟩, ()⟩) rfl).snoc (.lookupsClosed hst hall₂)
        unfold onResolved
        rw [always_bind, always_session]
        split
        · rw [always_pure]
          exact hs₂
        · next request hpending =>
          rw [always_bind, always_update]
          exact fulfil_walks hs₂ (.resolved hst hpending rfl)
    · rintro e w₁ _ ⟨rfl, hfinal, es₁, rfl, hall⟩
      have hs₁ := hs.snoc (.queried (.inr hst) hall)
      simp only
      rw [always_bind]
      refine closeLookups_always hw fun es₂ hall₂ => ?_
      exact farewell_walks (t := { w₁.session with lookups := .replicate _ none }) hfinal
        (.reply (.inr (.inl hst)) nofun) (hs₁.snoc (.lookupsClosed hst hall₂)) rfl
  · rw [always_pure]
    exact hs

end Handler

end SocksProxy
