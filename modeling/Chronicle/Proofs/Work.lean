import Chronicle.Database.Save
import Mathlib.Logic.Relation

/-!
# Runs of work, step by step

What a sequence of two pieces of work does is what the first and then the second does. A relation that
every single change respects is respected by all work that is put together from such changes, also when
it fails on the way.
-/
namespace Chronicle

variable {ε σ α β : Type}

theorem bind_eq_ok {x : EStateM ε σ α} {f : α → EStateM ε σ β} {s s' : σ} {b : β} :
    (x >>= f) s = .ok b s' ↔ ∃ a s₁, x s = .ok a s₁ ∧ f a s₁ = .ok b s' := by
  cases h : x s <;> simp [bind, EStateM.bind, h, and_assoc]

theorem bind_eq_error {x : EStateM ε σ α} {f : α → EStateM ε σ β} {s s' : σ} {e : ε} :
    (x >>= f) s = .error e s' ↔
      x s = .error e s' ∨ ∃ a s₁, x s = .ok a s₁ ∧ f a s₁ = .error e s' := by
  cases h : x s <;> simp [bind, EStateM.bind, h, and_assoc]

theorem pure_eq_ok {s s' : σ} {a b : α} :
    (pure a : EStateM ε σ α) s = .ok b s' ↔ b = a ∧ s' = s := by
  simp [pure, EStateM.pure, eq_comm]

theorem pure_ne_error {s s' : σ} {a : α} {e : ε} : (pure a : EStateM ε σ α) s ≠ .error e s' := by
  simp [pure, EStateM.pure]

theorem forM_append_eq_ok {f : α → EStateM ε σ PUnit} {l l' : List α} {s s' : σ} :
    (l ++ l').forM f s = .ok () s' ↔ ∃ s₁, l.forM f s = .ok () s₁ ∧ l'.forM f s₁ = .ok () s' := by
  induction l generalizing s with
  | nil =>
    constructor
    · exact fun h => ⟨s, rfl, h⟩
    · rintro ⟨s₁, h, h'⟩
      obtain ⟨-, rfl⟩ := pure_eq_ok.1 h
      exact h'
  | cons a l ih =>
    constructor
    · intro h
      obtain ⟨_, s₁, ha, h⟩ := bind_eq_ok.1 h
      obtain ⟨s₂, hl, h'⟩ := ih.1 h
      exact ⟨s₂, bind_eq_ok.2 ⟨(), s₁, ha, hl⟩, h'⟩
    · rintro ⟨s₂, h, h'⟩
      obtain ⟨_, s₁, ha, hl⟩ := bind_eq_ok.1 h
      exact bind_eq_ok.2 ⟨(), s₁, ha, ih.2 ⟨s₂, hl, h'⟩⟩

theorem get_bind_apply {f : σ → EStateM ε σ β} {s : σ} : (get >>= f) s = f s s := rfl

theorem except_bind_eq_ok {x : Except ε α} {f : α → Except ε β} {b : β} :
    (x >>= f) = .ok b ↔ ∃ a, x = .ok a ∧ f a = .ok b := by
  cases x <;> simp [bind, Except.bind]

theorem except_bind_eq_error {x : Except ε α} {f : α → Except ε β} {e : ε} :
    (x >>= f) = .error e ↔ x = .error e ∨ ∃ a, x = .ok a ∧ f a = .error e := by
  cases x <;> simp [bind, Except.bind]

theorem unit_bind_eq_ok {x : Except ε Unit} {f : Unit → Except ε β} {b : β} :
    (x >>= f) = .ok b ↔ x = .ok () ∧ f () = .ok b := by
  cases x <;> simp [bind, Except.bind]

theorem map_pair_eq_ok {x : Except ε σ} {u : Unit} {s : σ} :
    x.map ((), ·) = .ok (u, s) ↔ x = .ok s := by
  cases x <;> simp [Except.map]

/-- The state that work leaves behind, whether it succeeded or failed. -/
def left : EStateM.Result ε σ α → σ
  | .ok _ s => s
  | .error _ s => s

/-- Work that takes every state to one that the steps lead to. -/
def Moves (step : σ → σ → Prop) (x : EStateM ε σ α) : Prop :=
  ∀ s, Relation.ReflTransGen step s (left (x s))

namespace Moves

variable {step : σ → σ → Prop}

theorem pure (a : α) : Moves step (pure a : EStateM ε σ α) := fun _ => .refl

/-- What comes second may count on what the first came to. -/
theorem bind_of_ok {x : EStateM ε σ α} {f : α → EStateM ε σ β} (hx : Moves step x)
    (hf : ∀ a s s', x s = .ok a s' → Moves step (f a)) : Moves step (x >>= f) := by
  intro s
  have hs := hx s
  cases h : x s with
  | ok a s₁ =>
    rw [h] at hs
    have hbind : (x >>= f) s = f a s₁ := by simp [Bind.bind, EStateM.bind, h]
    rw [hbind]
    exact hs.trans (hf a s s₁ h s₁)
  | error e s₁ =>
    rw [h] at hs
    have hbind : (x >>= f) s = .error e s₁ := by simp [Bind.bind, EStateM.bind, h]
    rw [hbind]
    exact hs

theorem bind {x : EStateM ε σ α} {f : α → EStateM ε σ β} (hx : Moves step x)
    (hf : ∀ a, Moves step (f a)) : Moves step (x >>= f) :=
  hx.bind_of_ok fun a _ _ _ => hf a

theorem get_bind {f : σ → EStateM ε σ β} (hf : ∀ a, Moves step (f a)) : Moves step (get >>= f) :=
  fun s => hf s s

theorem forM {f : α → EStateM ε σ PUnit} {l : List α} (hf : ∀ a ∈ l, Moves step (f a)) :
    Moves step (l.forM f) := by
  induction l with
  | nil => exact pure _
  | cons a l ih =>
    exact bind (hf a List.mem_cons_self) fun _ => ih fun b hb => hf b (List.mem_cons_of_mem _ hb)

end Moves

/-- Work that fails only with errors that the state it leaves behind accounts for. -/
def FailsOnly (cause : σ → ε → Prop) (x : EStateM ε σ α) : Prop :=
  ∀ s e s', x s = .error e s' → cause s' e

namespace FailsOnly

variable {cause : σ → ε → Prop}

theorem pure (a : α) : FailsOnly cause (pure a : EStateM ε σ α) :=
  fun _ _ _ h => absurd h pure_ne_error

theorem bind {x : EStateM ε σ α} {f : α → EStateM ε σ β} (hx : FailsOnly cause x)
    (hf : ∀ a, FailsOnly cause (f a)) : FailsOnly cause (x >>= f) := by
  intro s e s' h
  rcases bind_eq_error.1 h with h | ⟨a, s₁, -, h⟩
  · exact hx s e s' h
  · exact hf a s₁ e s' h

/-- What comes second may count on what the first came to. -/
theorem bind_of_ok {x : EStateM ε σ α} {f : α → EStateM ε σ β} (hx : FailsOnly cause x)
    (hf : ∀ a s s', x s = .ok a s' → FailsOnly cause (f a)) : FailsOnly cause (x >>= f) := by
  intro s e s' h
  rcases bind_eq_error.1 h with h | ⟨a, s₁, ha, h⟩
  · exact hx s e s' h
  · exact hf a s s₁ ha s₁ e s' h

theorem get_bind {f : σ → EStateM ε σ β} (hf : ∀ a, FailsOnly cause (f a)) :
    FailsOnly cause (get >>= f) :=
  fun s e s' h => hf s s e s' h

theorem of_modify (f : σ → σ) : FailsOnly cause (modify f : EStateM ε σ PUnit) :=
  fun s e s' h => nomatch (show EStateM.Result.ok PUnit.unit (f s) = .error e s' from h)

theorem forM {f : α → EStateM ε σ PUnit} {l : List α} (hf : ∀ a ∈ l, FailsOnly cause (f a)) :
    FailsOnly cause (l.forM f) := by
  induction l with
  | nil => exact pure _
  | cons a l ih =>
    exact bind (hf a List.mem_cons_self) fun _ => ih fun b hb => hf b (List.mem_cons_of_mem _ hb)

end FailsOnly

namespace Work

theorem moves_look {step : Store → Store → Prop} (f : Store → Except Error α) :
    Moves step (look f) := by
  intro s
  unfold look
  cases f s <;> exact .refl

theorem moves_change {step : Store → Store → Prop} {f : Store → Except StoreFault (α × Store)}
    (h : ∀ s a s', f s = .ok (a, s') → Relation.ReflTransGen step s s') : Moves step (change f) := by
  intro s
  unfold change
  cases hf : f s with
  | ok p => exact h s p.1 p.2 hf
  | error e => exact .refl

/-- What comes after a check may count on it. -/
theorem moves_check_bind {step : Store → Store → Prop} {c : Except Error α} {f : α → Work β}
    (h : ∀ a, c = .ok a → Moves step (f a)) : Moves step (check c >>= f) := by
  intro s
  cases hc : c with
  | ok a => exact h a hc s
  | error e => exact .refl

theorem look_eq_ok {f : Store → Except Error α} {s s' : Store} {a : α} :
    look f s = .ok a s' ↔ f s = .ok a ∧ s' = s := by
  unfold look
  cases h : f s <;> simp [eq_comm]

theorem look_eq_error {f : Store → Except Error α} {s s' : Store} {e : Error} :
    look f s = .error e s' ↔ f s = .error e ∧ s' = s := by
  unfold look
  cases h : f s <;> simp [eq_comm]

theorem check_eq_ok {c : Except Error α} {s s' : Store} {a : α} :
    check c s = .ok a s' ↔ c = .ok a ∧ s' = s :=
  look_eq_ok

theorem check_eq_error {c : Except Error α} {s s' : Store} {e : Error} :
    check c s = .error e s' ↔ c = .error e ∧ s' = s :=
  look_eq_error

theorem change_eq_ok {f : Store → Except StoreFault (α × Store)} {s s' : Store} {a : α} :
    change f s = .ok a s' ↔ f s = .ok (a, s') := by
  unfold change
  cases h : f s with
  | ok p => obtain ⟨b, t⟩ := p; simp
  | error e => simp

theorem change_eq_error {f : Store → Except StoreFault (α × Store)} {s s' : Store} {e : Error} :
    change f s = .error e s' ↔ ∃ fault, f s = .error fault ∧ e = .store fault ∧ s' = s := by
  unfold change
  cases h : f s with
  | ok p => simp
  | error fault => simp [eq_comm]

end Work

end Chronicle
