import Gascan.Lib.Program

/-!
# `Gascan.Lib.Protocol`: programs that keep to a protocol

A protocol says which commands are allowed in a state, which replies are expected, and which state
follows a reply. `Prog.Abides` says that a program issues only allowed commands, and in which states
it ends. `wp_of_abides` turns it into a weakest precondition in a world that stays related to the
state, and `obeys_of_abides` into a condition on every command.
-/

namespace Gascan.Lib

/-- The rules for the commands `C` in the states `S`. -/
structure Protocol (C : Type) (R : C → Type) (S : Type) where
  answers : (c : C) → R c → Prop
  allows : S → C → Prop
  next : S → (c : C) → R c → S

/-- The commands that are allowed in a state and do not change it. -/
def Protocol.Still {C : Type} {R : C → Type} {S : Type} (P : Protocol C R S) (s : S) (c : C) :
    Prop :=
  P.allows s c ∧ ∀ r, P.next s c r = s

namespace Prog

variable {C : Type} {R : C → Type} {ε δ α β S : Type}

/-- As long as every reply is expected, every command is allowed in the state it is issued in. `Q`
and `E` are the conditions on the state where the program returns and where it ends with an
error. -/
def Abides (P : Protocol C R S) (Q : α → S → Prop) (E : ε → S → Prop) : Prog C R ε α → S → Prop
  | .pure a, s => Q a s
  | .throw e, s => E e s
  | .call c k, s => P.allows s c ∧ ∀ r, P.answers c r → (k r).Abides P Q E (P.next s c r)

variable {P : Protocol C R S} {Q Q' : α → S → Prop} {E E' : ε → S → Prop} {s : S}

variable {p : Prog C R ε α}

/-- The rule of consequence. -/
theorem abides_mono (h : p.Abides P Q E s) (hQ : ∀ a s, Q a s → Q' a s)
    (hE : ∀ e s, E e s → E' e s) : p.Abides P Q' E' s := by
  induction p generalizing s with
  | pure a => exact hQ a s h
  | throw e => exact hE e s h
  | call c k ih => exact ⟨h.1, fun r hr => ih r (h.2 r hr)⟩

variable {f : α → Prog C R ε β} {M : α → S → Prop}

/-- Sequencing with a condition in between. -/
theorem abides_seq {Q : β → S → Prop} (hp : p.Abides P M E s)
    (hf : ∀ a s', M a s' → (f a).Abides P Q E s') : (p.bind f).Abides P Q E s := by
  induction p generalizing s with
  | pure a => exact hf a s hp
  | throw e => exact hp
  | call c k ih => exact ⟨hp.1, fun r hr => ih r (hp.2 r hr)⟩

/-- A result that is handled, with a condition for each way in which the program ends. -/
theorem abides_handle {f : Except ε α → Prog C R δ β} {N : ε → S → Prop} {Q : β → S → Prop}
    {E : δ → S → Prop} (hp : p.Abides P M N s)
    (hok : ∀ a s', M a s' → (f (.ok a)).Abides P Q E s')
    (herror : ∀ e s', N e s' → (f (.error e)).Abides P Q E s') :
    ((p.attempt : Prog C R δ (Except ε α)).bind f).Abides P Q E s := by
  induction p generalizing s with
  | pure a => exact hok a s hp
  | throw e => exact herror e s hp
  | call c k ih => exact ⟨hp.1, fun r hr => ih r (hp.2 r hr)⟩

/-- A program whose commands all leave the state as it is. -/
theorem abides_of_uses (hp : p.Uses (P.Still s)) :
    p.Abides P (fun _ => (· = s)) (fun _ => (· = s)) s := by
  induction p with
  | pure a => rfl
  | throw e => rfl
  | call c k ih =>
    refine ⟨hp.1.1, fun r _ => ?_⟩
    rw [hp.1.2 r]
    exact ih r (hp.2 r)

/-- A program that leaves the state as it is, before another one. -/
theorem abides_still {Q : β → S → Prop} (hp : p.Uses (P.Still s)) (hE : ∀ e, E e s)
    (hf : ∀ a, (f a).Abides P Q E s) : (p.bind f).Abides P Q E s := by
  have hkept : p.Abides P (fun _ => (· = s)) E s :=
    abides_mono (abides_of_uses hp) (fun _ _ h => h) fun e _ h => h ▸ hE e
  exact abides_seq hkept fun a _ h => h ▸ hf a

/-- What a program returns may be added to its postcondition. -/
theorem abides_yields {φ : α → Prop} (h : p.Abides P Q E s) (hp : p.Yields φ) :
    p.Abides P (fun a s' => Q a s' ∧ φ a) E s := by
  induction p generalizing s with
  | pure a => exact ⟨h, hp⟩
  | throw e => exact h
  | call c k ih => exact ⟨h.1, fun r hr => ih r (h.2 r hr) (hp r)⟩

/-- A condition on every command that is allowed in any state. -/
theorem obeys_of_abides {A : C → Prop} (h : p.Abides P Q E s)
    (hallows : ∀ s c, P.allows s c → A c) : p.Obeys P.answers A fun _ => True := by
  induction p generalizing s with
  | pure a => trivial
  | throw e => trivial
  | call c k ih => exact ⟨hallows s c h.1, fun r hr => ih r (h.2 r hr)⟩

/-- A world that stays related to the state of the protocol, whatever others and the allowed
commands do to it. -/
theorem wp_of_abides {W X : Type} {perf : (c : C) → X → W → R c × W} {env : Env C W X}
    {G : W → W → Prop} {I : S → W → Prop} (hrely : ∀ s w w', env.rely w w' → I s w → I s w')
    (hstep : ∀ s c x w, I s w → env.allows c x w → P.allows s c → P.answers c (perf c x w).1 ∧ G w
      (perf c x w).2 ∧ I (P.next s c (perf c x w).1) (perf c x w).2) {w : W}
    (h : p.Abides P Q E s) (hw : I s w) :
    p.wp perf env G (fun a w' => ∃ s', Q a s' ∧ I s' w') (fun e w' => ∃ s', E e s' ∧ I s' w')
      w := by
  induction p generalizing s w with
  | pure a => exact ⟨s, h, hw⟩
  | throw e => exact ⟨s, h, hw⟩
  | call c k ih =>
    intro w1 hr x hallows
    obtain ⟨hanswer, hg, hrel⟩ := hstep s c x w1 (hrely s w w1 hr hw) hallows h.1
    exact ⟨hg, ih _ (h.2 _ hanswer) hrel⟩

end Prog

end Gascan.Lib
