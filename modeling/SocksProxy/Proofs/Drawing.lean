/-
  Who draws the ids of queries.

  All sessions draw from one counter, and a session that draws moves it for the others.

  * `Handler.Idless h`: `h` has nothing to do with the counter. `BuiltFor.idless`: that is so if none of
    its parts draws;
  * `Handler.Frugal h`: each run of `h` has nothing to do with the counter, or draws one id, behind which
    no handshake goes on that could lead to another one;
  * `handle_frugal`: no event makes a session draw twice.
-/
import SocksProxy.Proofs.Causes
import SocksProxy.Proofs.Life
import SocksProxy.Proofs.Segments

namespace SocksProxy

open Dialogue

namespace Handler

variable {α β : Type} {P : WireError → Prop} {ctx : Context} {w w₁ w' : Work} {es es' : Transcript}

/-! ## Runs and the counter -/

/-- The run has nothing to do with the counter: it keeps it, and goes the same way whatever it is. -/
structure Unseen (h : Handler α) (w : Work) (es : Transcript) (r : Except SessionError α)
    (w' : Work) : Prop where
  kept : w'.ids = w.ids
  anyway : ∀ ids, Run (h.exec { w with ids }) es (r, { w' with ids })

/-- The run has drawn an id. Behind it the handshake is over, or the session ends. -/
structure Drew (w : Work) (r : Except SessionError α) (w' : Work) : Prop where
  ids : w'.ids = w.ids.draw.2
  past : ∀ a, r = .ok a → w'.session.stage.isHandshake = false
  final : ∀ e, r = .error e → e.IsFinal

/-- No run has anything to do with the counter. -/
def Idless (h : Handler α) : Prop :=
  ∀ w es r w', Run (h.exec w) es (r, w') → Unseen h w es r w'

/-- No run draws twice. -/
def Frugal (h : Handler α) : Prop :=
  ∀ w es r w', Run (h.exec w) es (r, w') → Unseen h w es r w' ∨ Drew w r w'

section
variable {h : Handler α} {f : α → Handler β} {r : Except SessionError β}

theorem Unseen.bind {a : α} (hh : Unseen h w es (.ok a) w₁) (hf : Unseen (f a) w₁ es' r w') :
    Unseen (h >>= f) w (es ++ es') r w' :=
  ⟨hf.kept.trans hh.kept, fun ids => run_bind (hh.anyway ids) (hf.anyway ids)⟩

theorem Unseen.ends {e : SessionError} (hh : Unseen h w es (.error e) w') :
    Unseen (h >>= f) w es (.error e) w' :=
  ⟨hh.kept, fun ids => run_bind_error (hh.anyway ids)⟩

theorem Unseen.outcome {f : Except SessionError α → Handler β} {x : Except SessionError α}
    (hh : Unseen h w es x w₁) (hf : Unseen (f x) w₁ es' r w') :
    Unseen (Handler.outcome h >>= f) w (es ++ es') r w' :=
  ⟨hf.kept.trans hh.kept, fun ids =>
    run_outcome_bind_iff.2 ⟨es, es', x, _, rfl, hh.anyway ids, hf.anyway ids⟩⟩

theorem Drew.behind (hh : w₁.ids = w.ids) (hf : Drew w₁ r w') : Drew w r w' :=
  ⟨hh ▸ hf.ids, hf.past, hf.final⟩

end

/-! ## Handlers that do not draw -/

theorem BuiltFor.idless {h : Handler α} (hb : BuiltFor P False h) : Idless h := by
  induction hb with
  | draw hd => exact hd.elim
  | pure | fail _ | session | update =>
    intro w es r w' hr
    obtain ⟨rfl, heq⟩ := run_done_iff.1 hr
    cases heq
    exact ⟨rfl, fun _ => .done⟩
  | talk =>
    intro w es r w' hr
    rw [exec_talk] at hr
    obtain ⟨es₁, es₂, a, rfl, h₁, h₂⟩ := run_bind_iff.1 hr
    obtain ⟨rfl, heq⟩ := run_done_iff.1 h₂
    cases heq
    refine ⟨rfl, fun ids => ?_⟩
    rw [exec_talk]
    exact run_bind_iff.2 ⟨es₁, [], a, rfl, h₁, .done⟩
  | bind _ _ ih ihf =>
    intro w es r w' hr
    obtain ⟨es₁, es₂, a, w₁, rfl, h₁, h₂⟩ | ⟨e, rfl, h₁⟩ := run_bind_cases hr
    · exact (ih _ _ _ _ h₁).bind (ihf _ _ _ _ _ h₂)
    · exact (ih _ _ _ _ h₁).ends
  | outcome hb _ _ ih ihok iherror =>
    intro w es r w' hr
    obtain ⟨es₁, es₂, x, w₁, rfl, h₁, h₂⟩ := run_outcome_bind_iff.1 hr
    refine (ih _ _ _ _ h₁).outcome ?_
    cases x with
    | ok a => exact ihok _ _ _ _ _ h₂
    | error e => exact iherror e (hb.drawing.blames w [] _ _ _ h₁) _ _ _ _ h₂

/-- Whatever its parts blame the client for. -/
theorem idless_of_built {h : Handler α} (hb : BuiltFor (fun _ => True) False h) : Idless h :=
  hb.idless

/-! ## Frugality -/

theorem Idless.frugal {h : Handler α} (hi : Idless h) : Frugal h :=
  fun w es r w' hr => .inl (hi w es r w' hr)

theorem frugal_of_built {h : Handler α} (hb : BuiltFor (fun _ => True) False h) : Frugal h :=
  hb.idless.frugal

theorem frugal_ite {c : Prop} [Decidable c] {h h' : Handler α} (hh : Frugal h) (hh' : Frugal h') :
    Frugal (if c then h else h') := by
  split
  · exact hh
  · exact hh'

theorem frugal_bind {h : Handler α} {f : α → Handler β} (hh : Idless h) (hf : ∀ a, Frugal (f a)) :
    Frugal (h >>= f) := by
  intro w es r w' hr
  obtain ⟨es₁, es₂, a, w₁, rfl, h₁, h₂⟩ | ⟨e, rfl, h₁⟩ := run_bind_cases hr
  · have hkept := hh _ _ _ _ h₁
    exact (hf a _ _ _ _ h₂).imp hkept.bind (.behind hkept.kept)
  · exact .inl (hh _ _ _ _ h₁).ends

theorem frugal_session_bind {f : Session → Handler β} (hf : ∀ s, Frugal (f s)) :
    Frugal (session >>= f) :=
  frugal_bind (idless_of_built .session) hf

/-! ## Resolving -/

theorem exec_startLookup_of_full {name : DomainName} {server : Endpoint}
    (hslot : w.session.lookups.findFinIdx? (·.isNone) = none) :
    (startLookup ctx name server).exec w = .done (.error (.exhausted "DNS query slots"), w) := by
  rw [startLookup, exec_bind, exec_session]
  simp only [Dialogue.bind, hslot, exec_fail]

/-- A lookup that gets a slot draws an id first of all. -/
theorem startLookup_draws {name : DomainName} {server : Endpoint} {slot : Fin Role.maxQueries}
    (hslot : w.session.lookups.findFinIdx? (·.isNone) = some slot) :
    (startLookup ctx name server).Always w es (fun _ w' _ => w'.ids = w.ids.draw.2)
      fun e w' _ => w'.ids = w.ids.draw.2 ∧ e.IsFinal ∧ ∀ what, e ≠ .exhausted what := by
  refine (startLookup_cases.shift es).imp ?_ ?_
  · rintro _ w' _ ⟨es₁, rfl, h⟩
    cases h with
    | sent => rfl
  · rintro e w' _ ⟨es₁, rfl, h⟩
    cases h with
    | full hnone => nomatch hnone.symm.trans hslot
    | unasked => exact ⟨rfl, nofun, nofun⟩
    | unopened => exact ⟨rfl, nofun, nofun⟩
    | unsent _ _ _ _ _ hfinal hne => exact ⟨rfl, hfinal, hne⟩

theorem resolve_frugal {name : DomainName} {request : PendingRequest} :
    Frugal (resolve ctx name request) := by
  unfold resolve
  split
  · exact frugal_of_built (.bind built_reject fun _ => .fail fun _ _ => trivial)
  · next server _ =>
    intro w es r w' hr
    obtain ⟨es₁, es₂, x, w₁, rfl, h₁, h₂⟩ := run_outcome_bind_iff.1 hr
    cases hslot : w.session.lookups.findFinIdx? (·.isNone) with
    | none =>
      -- Without a slot the request is dropped before an id is drawn.
      rw [exec_startLookup_of_full hslot] at h₁
      obtain ⟨rfl, heq⟩ := run_done_iff.1 h₁
      cases heq
      have hfull : Unseen (startLookup ctx name server) w [] (.error (.exhausted "DNS query slots")) w :=
        ⟨rfl, fun ids => by rw [exec_startLookup_of_full (w := { w with ids }) hslot]; exact .done⟩
      exact .inl (hfull.outcome (idless_of_built built_log _ _ _ _ h₂))
    | some slot =>
      have hdraws : (startLookup ctx name server).Always w [] _ _ := startLookup_draws hslot
      have hdrawn := hdraws es₁ x w₁ h₁
      cases x with
      | ok _ =>
        obtain ⟨rfl, heq⟩ := run_done_iff.1 h₂
        cases heq
        exact .inr ⟨hdrawn, fun _ _ => rfl, nofun⟩
      | error e =>
        obtain ⟨hids, hfinal, hslots⟩ := hdrawn
        have hover : (do reject ctx .hostUnreachable; fail e : Handler Unit).Always w₁ []
            (fun _ _ _ => False) fun e' w' _ => e' = e ∧ w'.ids = w₁.ids := by
          rw [always_bind]
          exact always_sendLast fun _ _ _ _ _ _ => always_fail.2 ⟨rfl, rfl⟩
        have hgone : Run ((do reject ctx .hostUnreachable; fail e : Handler Unit).exec w₁) es₂ (r, w') := by
          cases e with
          | exhausted what => exact absurd rfl (hslots what)
          | _ => exact h₂
        have hends := hover es₂ r w' hgone
        cases r with
        | ok _ => exact hends.elim
        | error e' =>
          obtain ⟨rfl, hkept⟩ := hends
          exact .inr ⟨hkept.trans hids, nofun, fun _ heq => Except.error.inj heq ▸ hfinal⟩

/-! ## The handshake -/

theorem onRequest_frugal : Frugal (onRequest ctx) := by
  refine frugal_session_bind fun s => ?_
  split
  · next fault _ =>
    have hrefuse : BuiltFor (fun _ => True) False (refuse fault : Handler Unit) := built_refuse trivial
    cases fault with
    | addressTypeNotSupported type => exact (BuiltFor.bind built_reject fun _ => hrefuse).idless.frugal
    | _ => exact hrefuse.idless.frugal
  · next request n _ =>
    refine frugal_bind (idless_of_built .update) fun _ => ?_
    refine frugal_bind (idless_of_built built_log) fun _ => ?_
    obtain ⟨command, host, port⟩ := request
    cases command with
    | connect | associate =>
      cases host with
      | domain name => exact resolve_frugal
      | _ => exact frugal_of_built fulfil_built
    | _ => exact frugal_of_built (.bind built_reject fun _ => built_refuse trivial)

theorem onMessage_frugal {stage : Stage} : Frugal (onMessage ctx stage) := by
  cases stage with
  | accepted => exact onGreeting_built.idless.frugal
  | authRequested => exact onCredentials_built.idless.frugal
  | _ => exact onRequest_frugal

/-- Behind a message that has drawn an id no other one is handled. -/
theorem parse_frugal {burstDone : Bool} {n : Nat} : Frugal (parse ctx burstDone n) := by
  induction n with
  | zero => exact frugal_of_built .pure
  | succ n ih =>
    refine frugal_session_bind fun s =>
      frugal_ite (frugal_of_built .pure) ?_
    intro w es r w' hr
    obtain ⟨es₁, es₂, x, w₁, rfl, h₁, h₂⟩ := run_outcome_bind_iff.1 hr
    rcases onMessage_frugal _ _ _ _ h₁ with hunseen | hdrew
    · have hon : Frugal (parseOn ctx burstDone n x) := by
        unfold parseOn
        split
        · exact ih
        · exact frugal_of_built (built_ite (built_refuse trivial) .pure)
        · exact frugal_of_built (.fail fun _ _ => trivial)
      exact (hon _ _ _ _ h₂).imp hunseen.outcome (.behind hunseen.kept)
    · have h₂ : Run ((parseOn ctx burstDone n x).exec w₁) es₂ (r, w') := h₂
      cases x with
      | ok a =>
        have hover := hdrew.past a rfl
        rw [show parseOn ctx burstDone n (.ok a) = parse ctx burstDone n from rfl,
          exec_parse_of_over hover] at h₂
        obtain ⟨rfl, heq⟩ := run_done_iff.1 h₂
        cases heq
        exact .inr ⟨hdrew.ids, fun _ _ => hover, nofun⟩
      | error e =>
        rw [parseOn_error (hdrew.final e rfl)] at h₂
        obtain ⟨rfl, heq⟩ := run_done_iff.1 h₂
        cases heq
        exact .inr ⟨hdrew.ids, nofun, fun _ heq => Except.error.inj heq ▸ hdrew.final e rfl⟩

theorem parseAll_frugal {burstDone : Bool} : Frugal (parseAll ctx burstDone) :=
  frugal_session_bind fun _ => parse_frugal

/-- Nor is more of a handshake read then. -/
theorem readHandshake_frugal {turns : Nat} : Frugal (readHandshake ctx turns) := by
  induction turns with
  | zero => exact frugal_of_built .talk
  | succ turns ih =>
    refine frugal_session_bind fun s =>
      frugal_bind (idless_of_built built_attempt) fun x => ?_
    cases x with
    | closed => exact frugal_of_built (.fail fun _ _ => trivial)
    | wouldBlock => exact parseAll_frugal
    | data b =>
      refine frugal_bind (idless_of_built .update) fun _ => ?_
      intro w es r w' hr
      obtain ⟨es₁, es₂, _, w₁, rfl, h₁, h₂⟩ | ⟨e, rfl, h₁⟩ := run_bind_cases hr
      · have h₂ : Run ((readOn ctx turns).exec w₁) es₂ (r, w') := h₂
        rcases parseAll_frugal _ _ _ _ h₁ with hunseen | hdrew
        · have hon : Frugal (readOn ctx turns) :=
            frugal_session_bind fun s => frugal_ite
              (frugal_of_built built_onClientStream)
              (frugal_ite (frugal_of_built (built_refuse trivial)) ih)
          exact (hon _ _ _ _ h₂).imp hunseen.bind (.behind hunseen.kept)
        · have hover := hdrew.past _ rfl
          rw [exec_readOn_of_over hover] at h₂
          have hresume : (onClientStream (·.resume)).Always w₁ []
              (fun _ w' _ => w'.ids = w₁.ids ∧ w'.session.stage = w₁.session.stage)
              fun e w' _ => w'.ids = w₁.ids ∧ e.IsFinal := by
            refine always_onClientStream.2 fun _ r _ _ => ?_
            cases r <;> exact ⟨rfl, by first | rfl | nofun⟩
          have hends := hresume es₂ r w' h₂
          cases r with
          | ok _ => exact .inr ⟨hends.1.trans hdrew.ids, fun _ _ => hends.2 ▸ hover, nofun⟩
          | error e =>
            exact .inr ⟨hends.1.trans hdrew.ids, nofun, fun _ heq => Except.error.inj heq ▸ hends.2⟩
      · exact (parseAll_frugal _ _ _ _ h₁).imp Unseen.ends fun hdrew =>
          ⟨hdrew.ids, nofun, fun _ heq => hdrew.final _ (Except.error.inj heq ▸ rfl)⟩

/-! ## Events -/

theorem readClient_frugal : Frugal (readClient ctx) := by
  refine frugal_session_bind fun s => ?_
  cases s.stage with
  | accepted | authRequested | authenticated =>
    exact frugal_ite (frugal_of_built .pure) readHandshake_frugal
  | connected => exact frugal_of_built pumpClient_built
  | connecting => exact frugal_of_built .pure
  | resolving | associated => exact frugal_of_built discard_built

theorem onClient_frugal {r : Readiness} : Frugal (onClient ctx r) := by
  have hread : Frugal (if r.readable then readClient ctx else pure ()) :=
    frugal_ite readClient_frugal (frugal_of_built .pure)
  unfold onClient
  refine frugal_ite (frugal_of_built (.bind .session fun _ => built_behindEvent)) ?_
  exact frugal_ite (frugal_of_built (built_fail_bind fun _ _ => trivial))
    (frugal_ite (frugal_bind (idless_of_built flushClient_built) fun _ => hread) hread)

theorem onEvent_frugal {role : Role} {r : Readiness} : Frugal (onEvent ctx role r) := by
  cases role with
  | client => exact onClient_frugal
  | remote => exact frugal_of_built onRemote_built
  | relay => exact frugal_of_built onRelay_built
  | query slot => exact frugal_of_built onLookup_built

end Handler

namespace Session

variable {ctx : Context} {role : Role} {r : Readiness} {w w' : Work} {es : Transcript} {goesOn : Bool}

/-- An event has nothing to do with the counter, or moves it by one. -/
theorem handle_frugal (h : Run (handle ctx role r w) es (goesOn, w')) :
    (w'.ids = w.ids ∧ ∀ ids, Run (handle ctx role r { w with ids }) es (goesOn, { w' with ids })) ∨
      w'.ids = w.ids.draw.2 := by
  obtain ⟨es₁, es₂, x, rfl, h₁, h₂⟩ := run_handle_iff.1 h
  refine (Handler.onEvent_frugal _ _ _ _ h₁).imp (fun hunseen => ⟨hunseen.kept, fun ids => ?_⟩) (·.ids)
  exact run_handle_iff.2 ⟨es₁, es₂, x, rfl, hunseen.anyway ids, h₂⟩

end Session

theorem Dns.QueryIds.draw_ne (ids : Dns.QueryIds) : ids.draw.2 ≠ ids := by
  intro h
  have hnext : ids.next + 1 = ids.next := congrArg Dns.QueryIds.next h
  simp at hnext

end SocksProxy
