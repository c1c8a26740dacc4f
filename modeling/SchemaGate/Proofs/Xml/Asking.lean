import SchemaGate.Proofs.Discipline
import SchemaGate.Xml.Asking

/-! What comes of asking.

    A computation that only asks does nothing else: what holds of doing nothing, of one run after another,
    and of the answer to every request, holds of running it (`run_holds`), and what it comes to is what
    some answers lead to (`yields_of_runIn`). -/

namespace SchemaGate.Xml.Asking

variable {α β : Type}

theorem bind_done (x : Asking α) : x.bind .done = x := by
  induction x with
  | done a => rfl
  | ask request next ih => exact congrArg (ask request) (funext ih)

theorem bind_bind {γ : Type} (x : Asking α) (f : α → Asking β) (g : β → Asking γ) :
    (x.bind f).bind g = x.bind fun a => (f a).bind g := by
  induction x with
  | done a => rfl
  | ask request next ih => exact congrArg (ask request) (funext ih)

instance : LawfulMonad Asking :=
  .mk' Asking bind_done (fun _ _ => rfl) bind_bind

/-- What holds of every request that is answered holds of a computation that asks. -/
theorem run_holds {m : Type → Type} [Monad m] (D : Discipline m) {fetch : Fetch m}
    (hfetch : ∀ request, D.Holds (fetch request)) (x : Asking α) : D.Holds (x.run fetch) := by
  induction x with
  | done a => exact D.pure a
  | ask request next ih => exact D.bind (hfetch request) ih

/-! ### Results -/

@[simp] theorem yields_pure_iff {a b : α} : Yields (pure a) b ↔ a = b := by
  constructor
  · rintro ⟨⟩
    rfl
  · rintro rfl
    exact .done a

theorem yields_bind_iff {x : Asking α} {f : α → Asking β} {b : β} :
    Yields (x >>= f) b ↔ ∃ a, Yields x a ∧ Yields (f a) b := by
  change Yields (x.bind f) b ↔ _
  induction x with
  | done a =>
    constructor
    · intro h
      exact ⟨a, .done a, h⟩
    · rintro ⟨_, ⟨⟩, h⟩
      exact h
  | ask request next ih =>
    constructor
    · rintro (_ | ⟨answer, h⟩)
      obtain ⟨a, hfirst, hnext⟩ := (ih answer).1 h
      exact ⟨a, .ask answer hfirst, hnext⟩
    · rintro ⟨a, _ | ⟨answer, hfirst⟩, hnext⟩
      exact .ask answer ((ih answer).2 ⟨a, hfirst, hnext⟩)

/-- What a run comes to is what the answers lead to that it was given. -/
theorem yields_of_runIn {σ : Type} {fetch : Fetch (Run σ)} {x : Asking α} {w w' : World σ} {a : α}
    (h : Run.runIn (x.run fetch) w = (.ok a, w')) : x.Yields a := by
  induction x generalizing w with
  | done b =>
    cases h
    exact .done a
  | ask request next ih =>
    obtain ⟨answer, w₁, -, hnext⟩ := Run.runIn_bind_eq_ok.1 h
    exact .ask answer (ih answer hnext)

end SchemaGate.Xml.Asking
