/-
  Dialogues: programs that ask their environment and go on with its answers.

  A dialogue is a tree. It is `done`, or it makes a call and continues for each answer; a loop
  that was given a number of turns and has used them all is `stuck`. What the environment does is
  no part of a dialogue, so a statement over all environments quantifies over its runs.

  * `Dialogue.Run p es a`: the calls and answers `es` lead through `p` to the result `a`;
  * `Dialogue.run` follows the answers of one environment with a state;
  * `Dialogue.via` makes the calls through another interface;
  * `run_bind_iff`: the runs of a sequence are the sequences of runs.
-/

namespace SocksProxy

/-- A set of calls, each with the type of its answers. -/
structure Interface where
  Call : Type
  Answer : Call → Type

/-- A call together with the answer to it. -/
abbrev Interface.Event (I : Interface) : Type :=
  (c : I.Call) × I.Answer c

/-- A program that asks its environment through the interface `I` and ends with an `α`. -/
inductive Dialogue (I : Interface) (α : Type) where
  | done (a : α)
  | ask (c : I.Call) (next : I.Answer c → Dialogue I α)
  | stuck

namespace Dialogue

variable {I J : Interface} {α β γ : Type}

/-! ## Sequencing -/

/-- Goes on with `f` once `p` is done. -/
def bind (p : Dialogue I α) (f : α → Dialogue I β) : Dialogue I β :=
  match p with
  | done a => f a
  | ask c next => ask c fun r => (next r).bind f
  | stuck => stuck

instance : Monad (Dialogue I) where
  pure := done
  bind := bind

/-- Makes one call. -/
def call (c : I.Call) : Dialogue I (I.Answer c) :=
  ask c done

theorem bind_assoc (p : Dialogue I α) (f : α → Dialogue I β) (g : β → Dialogue I γ) :
    (p.bind f).bind g = p.bind fun a => (f a).bind g := by
  induction p with
  | done a => rfl
  | ask c next ih => simp only [bind, ih]
  | stuck => rfl

theorem bind_done (p : Dialogue I α) : p.bind done = p := by
  induction p with
  | done a => rfl
  | ask c next ih => simp only [bind, ih]
  | stuck => rfl

instance : LawfulMonad (Dialogue I) :=
  LawfulMonad.mk' (Dialogue I) (fun p => bind_done p) (fun _ _ => rfl) bind_assoc

/-! ## Runs -/

/-- The events `es` lead through the dialogue to the result. -/
inductive Run : Dialogue I α → List I.Event → α → Prop where
  | done {a : α} : Run (.done a) [] a
  | ask {c : I.Call} {next : I.Answer c → Dialogue I α} {r : I.Answer c} {es : List I.Event} {a : α} :
      Run (next r) es a → Run (.ask c next) (⟨c, r⟩ :: es) a

theorem run_bind_iff {p : Dialogue I α} {f : α → Dialogue I β} {es : List I.Event} {b : β} :
    Run (p.bind f) es b ↔ ∃ es₁ es₂ a, es = es₁ ++ es₂ ∧ Run p es₁ a ∧ Run (f a) es₂ b := by
  induction p generalizing es with
  | done a =>
    constructor
    · exact fun h => ⟨[], es, a, rfl, .done, h⟩
    · rintro ⟨_, _, _, rfl, h₁, h₂⟩
      cases h₁
      exact h₂
  | ask c next ih =>
    constructor
    · intro h
      cases h with
      | ask h =>
        obtain ⟨es₁, es₂, a, rfl, h₁, h₂⟩ := (ih _).1 h
        exact ⟨_ :: es₁, es₂, a, rfl, .ask h₁, h₂⟩
    · rintro ⟨_, es₂, a, rfl, h₁, h₂⟩
      cases h₁ with
      | ask h₁ => exact .ask ((ih _).2 ⟨_, es₂, a, rfl, h₁, h₂⟩)
  | stuck =>
    constructor
    · exact nofun
    · rintro ⟨_, _, _, _, h₁, _⟩
      cases h₁

/-! ## Environments -/

/-- Follows the answers of an environment with state `s`; no result when the dialogue is stuck. -/
def run {σ : Type} (answer : (c : I.Call) → σ → I.Answer c × σ) : Dialogue I α → σ → Option α × σ
  | .done a, s => (some a, s)
  | .ask c next, s =>
    let (r, s) := answer c s
    run answer (next r) s
  | .stuck, s => (none, s)

/-! ## Calls through another interface -/

/-- A way to make the calls of `I` through `J`: the call to make, and what its answer means. -/
abbrev Route (I J : Interface) : Type :=
  (c : I.Call) → (d : J.Call) × (J.Answer d → I.Answer c)

/-- The same dialogue, with its calls made through `J`. -/
def via (route : Route I J) : Dialogue I α → Dialogue J α
  | .done a => .done a
  | .ask c next => .ask (route c).1 fun r => (next ((route c).2 r)).via route
  | .stuck => .stuck

end Dialogue

end SocksProxy
