/-
  Invariants of sessions.

  * `Invariant`: what a new session has and every step keeps, `Invariant.life` and `Invariant.ended`
    say of every session;
  * `History.Guarded`: every call is warranted by the calls before it, which is an invariant if it is
    one of every step (`guarded_invariant`).
-/
import SocksProxy.Proofs.Life

namespace SocksProxy

open Dialogue

/-! ## What steps keep -/

/-- A new session has `I`, and every step keeps it; a step that ends the session leaves `E`. -/
structure Invariant (ctx : Context) (I E : History → Session → Prop) : Prop where
  fresh : ∀ {peer localAddress : Endpoint} {es : Transcript}, Transcript.Opens es →
    I (History.turn .accepted es) (Session.fresh peer localAddress)
  event : ∀ {h : History} {s : Session} {role : Role} {r : Readiness}, I h s →
    I (h ++ [.event role r]) s
  goes : ∀ {h : History} {origin : Stage} {s s' : Session} {es : Transcript}, s.Shaped → I h s →
    Step ctx origin s es (.ok ()) s' → I (h ++ History.turn origin es) s'
  ends : ∀ {h : History} {origin : Stage} {s s' : Session} {es : Transcript} {e : SessionError},
    s.Shaped → I h s → Step ctx origin s es (.error e) s' → E (h ++ History.turn origin es) s'
  stops : ∀ {h : History} {s : Session}, I h s → E h s
  closes : ∀ {h : History} {origin : Stage} {s : Session} {es : Transcript}, E h s →
    Transcript.All Verb.IsUpkeep es → E (h ++ History.turn origin es) s

namespace Invariant

variable {ctx : Context} {I E : History → Session → Prop} {h : History} {origin : Stage}
  {s s' : Session} {es : Transcript}

theorem steps (hI : Invariant ctx I E) (hs : s.Shaped) (hi : I h s)
    (hsteps : Steps ctx origin s es (.ok ()) s') : I (h ++ History.turn origin es) s' := by
  generalize hr : (Except.ok () : Except SessionError Unit) = r at hsteps
  induction hsteps with
  | nil =>
    rw [History.turn, List.map_nil, List.append_nil]
    exact hi
  | snoc h₁ h₂ ih =>
    subst hr
    rw [History.turn_append, ← List.append_assoc]
    exact hI.goes (h₁.shaped rfl hs) (ih rfl) h₂

theorem steps_fail {e : SessionError} (hI : Invariant ctx I E) (hs : s.Shaped) (hi : I h s)
    (hsteps : Steps ctx origin s es (.error e) s') : E (h ++ History.turn origin es) s' := by
  cases hsteps with
  | snoc h₁ h₂ =>
    rw [History.turn_append, ← List.append_assoc]
    exact hI.ends (h₁.shaped rfl hs) (hI.steps hs hi h₁) h₂

theorem life (hI : Invariant ctx I E) (hl : Life ctx h s) : I h s := by
  induction hl with
  | start hrun =>
    obtain ⟨⟨localAddress, rfl⟩, hopens⟩ := start_cases hrun
    exact hI.fresh hopens
  | turn hl hrun ih => exact hI.steps hl.shaped (hI.event ih) (turn_steps hl.shaped hrun).1

theorem ended (hI : Invariant ctx I E) (he : Ended ctx h s) : E h s := by
  cases he with
  | failed hl hrun hclose =>
    obtain ⟨es₁, es₂, e, rfl, hsteps, h₂⟩ := turn_fails hl.shaped hrun
    rw [History.turn_append, History.turn_append, ← List.append_assoc, ← List.append_assoc]
    exact hI.closes (hI.closes (hI.steps_fail hl.shaped (hI.event (hI.life hl)) hsteps)
      (h₂.imp fun _ hv => .inl hv)) (close_upkeep hclose)
  | stopped hl hclose => exact hI.closes (hI.stops (hI.life hl)) (close_upkeep hclose)

end Invariant

/-! ## What calls need -/

/-- Each of the calls `es` behind the calls `before`, in a turn that began in the stage `origin`, has
    what `G` says that it needs. -/
def Transcript.Guarded (G : Transcript → Stage → SessionEvent → Prop) (before : Transcript)
    (origin : Stage) (es : Transcript) : Prop :=
  ∀ es₁ e es₂, es = es₁ ++ e :: es₂ → G (before ++ es₁) origin e

/-- Every call has what `G` says that it needs. -/
def History.Guarded (G : Transcript → Stage → SessionEvent → Prop) (h : History) : Prop :=
  ∀ (h₁ : History) origin e (h₂ : History), h = h₁ ++ .call origin e :: h₂ → G h₁.calls origin e

section
variable {G : Transcript → Stage → SessionEvent → Prop} {before es es' : Transcript}
  {origin : Stage} {h : History}

theorem Transcript.guarded_of_all {p : Verb → Prop} (h : All p es)
    (hp : ∀ before' e, before <+: before' → p e.1.verb → G before' origin e) :
    Guarded G before origin es := by
  rintro es₁ e es₂ rfl
  exact hp _ e (List.prefix_append _ _) (h e (List.mem_append_right es₁ List.mem_cons_self))

theorem Transcript.Guarded.append (h : Guarded G before origin es)
    (h' : Guarded G (before ++ es) origin es') : Guarded G before origin (es ++ es') := by
  intro es₁ e es₂ heq
  rcases append_split heq with ⟨rest, hes⟩ | ⟨front, rfl, hes⟩
  · exact h es₁ e rest hes
  · rw [← List.append_assoc]
    exact h' front e es₂ hes

theorem History.guarded_nil : Guarded G [] := by
  intro h₁ origin e h₂ heq
  cases h₁ <;> nomatch heq

/-- An entry of a history that was made longer is the last one, or one of those before. -/
theorem History.snoc_cases {h h₁ h₂ : History} {x y : Entry} (heq : h ++ [x] = h₁ ++ y :: h₂) :
    (h = h₁ ∧ x = y) ∨ ∃ h₂', h = h₁ ++ y :: h₂' := by
  rcases List.eq_nil_or_concat h₂ with rfl | ⟨h₂, z, rfl⟩
  · obtain ⟨hh, hx⟩ := List.append_inj' heq rfl
    exact .inl ⟨hh, (List.cons.inj hx).1⟩
  · rw [List.concat_eq_append, ← List.cons_append, ← List.append_assoc] at heq
    exact .inr ⟨h₂, (List.append_inj' heq rfl).1⟩

theorem History.Guarded.append_call {e : SessionEvent} (hg : h.Guarded G) (he : G h.calls origin e) :
    Guarded G (h ++ [.call origin e]) := by
  intro h₁ origin' e' h₂ heq
  rcases snoc_cases heq with ⟨rfl, hx⟩ | ⟨h₂', hh⟩
  · cases hx
    exact he
  · exact hg h₁ origin' e' h₂' hh

theorem History.Guarded.event {role : Role} {r : Readiness} (hg : h.Guarded G) :
    Guarded G (h ++ [.event role r]) := by
  intro h₁ origin e h₂ heq
  rcases snoc_cases heq with ⟨-, hx⟩ | ⟨h₂', hh⟩
  · nomatch hx
  · exact hg h₁ origin e h₂' hh

theorem History.Guarded.turn (hg : h.Guarded G) (hes : Transcript.Guarded G h.calls origin es) :
    Guarded G (h ++ History.turn origin es) := by
  induction es generalizing h with
  | nil =>
    rw [History.turn, List.map_nil, List.append_nil]
    exact hg
  | cons e es ih =>
    have hcalls : calls (h ++ [.call origin e]) = h.calls ++ [e] := by
      rw [calls_append]
      rfl
    have he : G h.calls origin e := by simpa using hes [] e es rfl
    rw [History.turn, List.map_cons, ← List.singleton_append, ← List.append_assoc]
    refine ih (hg.append_call he) fun es₁ e' es₂ heq => ?_
    have hrest := hes (e :: es₁) e' es₂ (by rw [heq]; rfl)
    rw [hcalls, List.append_assoc]
    exact hrest

/-- What a step leaves behind the calls `before`: its calls have what they need, and `J` holds again if
    the session goes on. -/
structure Keeps (G : Transcript → Stage → SessionEvent → Prop) (J : Transcript → Session → Prop)
    (before : Transcript) (origin : Stage) (es : Transcript) (r : Except SessionError Unit)
    (s : Session) : Prop where
  guarded : Transcript.Guarded G before origin es
  kept : r = .ok () → J (before ++ es) s

/-- What every step keeps and warrants its calls holds of every session and warrants all calls, if it
    leaves `F` when the session ends. -/
theorem guarded_invariant {ctx : Context} {J F : Transcript → Session → Prop}
    (hfresh : ∀ {peer localAddress : Endpoint} {es : Transcript}, Transcript.Opens es →
      J es (Session.fresh peer localAddress))
    (hgoes : ∀ {before : Transcript} {origin : Stage} {s s' : Session} {es : Transcript},
      s.Shaped → J before s → Step ctx origin s es (.ok ()) s' →
      Transcript.Guarded G before origin es ∧ J (before ++ es) s')
    (hends : ∀ {before : Transcript} {origin : Stage} {s s' : Session} {es : Transcript}
      {e : SessionError}, s.Shaped → J before s → Step ctx origin s es (.error e) s' →
      Transcript.Guarded G before origin es ∧ F (before ++ es) s')
    (hstops : ∀ {before : Transcript} {s : Session}, J before s → F before s)
    (hcloses : ∀ {before es : Transcript} {s : Session}, F before s →
      Transcript.All Verb.IsUpkeep es → F (before ++ es) s)
    (hupkeep : ∀ before origin (e : SessionEvent), e.1.verb.IsUpkeep → G before origin e) :
    Invariant ctx (fun h s => J h.calls s ∧ h.Guarded G) (fun h s => F h.calls s ∧ h.Guarded G) where
  fresh hopens := by
    rw [← List.nil_append (History.turn _ _), History.calls_append, History.calls_turn]
    exact ⟨hfresh hopens, History.guarded_nil.turn
      (Transcript.guarded_of_all hopens.upkeep fun before e _ he => hupkeep before _ e he)⟩
  event hi := by
    rw [History.calls_event]
    exact ⟨hi.1, hi.2.event⟩
  goes hs hi h := by
    obtain ⟨hg, hj⟩ := hgoes hs hi.1 h
    rw [History.calls_append, History.calls_turn]
    exact ⟨hj, hi.2.turn hg⟩
  ends hs hi h := by
    obtain ⟨hg, hf⟩ := hends hs hi.1 h
    rw [History.calls_append, History.calls_turn]
    exact ⟨hf, hi.2.turn hg⟩
  stops hi := ⟨hstops hi.1, hi.2⟩
  closes he hall := by
    rw [History.calls_append, History.calls_turn]
    exact ⟨hcloses he.1 hall, he.2.turn
      (Transcript.guarded_of_all hall fun before e _ hv => hupkeep before _ e hv)⟩

end

end SocksProxy
