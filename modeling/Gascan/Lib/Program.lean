import Mathlib.Logic.Basic

/-!
# `Gascan.Lib.Program`: effectful programs and a predicate transformer for them

A `Prog C R ε α` issues commands `c : C`, reads a reply of type `R c` after each one, and ends with
a value or an error. `perform` says what a command does: it takes the state of the world and one
environment choice `x : X` to the reply and the next state. A list of `Tick`s resolves a whole run:
each tick lets other parties change the world (`interfere`) and then picks the choice for the next
command. When the list ends before the program does, the run was cut there: a crash.

`Prog.wp` is the weakest precondition over every run whose ticks stay within an `Env`. Besides the
two postconditions it carries a guarantee: a relation that every command of the program keeps,
whatever the others did in between. `wp_run` says what it means for runs, `wp_bind`, `wp_attempt`
and `wp_mono` compose it, `wp_of_uses` proves an invariant from the commands a program uses, and
`wp_stable` carries it over the steps of others.
-/

namespace Gascan.Lib

/-- A program over the commands `C`, whose replies have the types `R c`. -/
inductive Prog (C : Type) (R : C → Type) (ε α : Type) : Type where
  | pure (a : α) : Prog C R ε α
  | throw (e : ε) : Prog C R ε α
  | call (c : C) (k : R c → Prog C R ε α) : Prog C R ε α

namespace Prog

variable {C : Type} {R : C → Type} {ε δ α β : Type}

/-- Sequencing: an error ends the program. -/
def bind : Prog C R ε α → (α → Prog C R ε β) → Prog C R ε β
  | .pure a, f => f a
  | .throw e, _ => .throw e
  | .call c k, f => .call c fun r => (k r).bind f

/-- Runs a program to its end and hands its result over as a value, as a `match` on a `Result`
does. The new error type is free. -/
def attempt : Prog C R ε α → Prog C R δ (Except ε α)
  | .pure a => .pure (.ok a)
  | .throw e => .pure (.error e)
  | .call c k => .call c fun r => (k r).attempt

instance : Monad (Prog C R ε) where
  pure := Prog.pure
  bind := Prog.bind

/-- The program that issues one command and returns its reply. -/
def perform (c : C) : Prog C R ε (R c) := .call c .pure

/-- The program that ends with the given result. -/
def ofExcept : Except ε α → Prog C R ε α
  | .ok a => .pure a
  | .error e => .throw e

/-- Changes the error a program ends with. -/
def mapError (f : ε → δ) (p : Prog C R ε α) : Prog C R δ α :=
  p.attempt.bind fun
    | .ok a => .pure a
    | .error e => .throw (f e)

/-- Runs a program only under a condition. -/
def when (c : Bool) (p : Prog C R ε Unit) : Prog C R ε Unit := if c then p else .pure ()

@[simp] theorem pure_eq (a : α) : (Pure.pure a : Prog C R ε α) = .pure a := rfl

@[simp] theorem bind_eq (p : Prog C R ε α) (f : α → Prog C R ε β) : p >>= f = p.bind f := rfl

@[simp] theorem pure_bind (a : α) (f : α → Prog C R ε β) : (Prog.pure a).bind f = f a := rfl

@[simp] theorem throw_bind (e : ε) (f : α → Prog C R ε β) :
    (Prog.throw e : Prog C R ε α).bind f = .throw e := rfl

@[simp] theorem call_bind (c : C) (k : R c → Prog C R ε α) (f : α → Prog C R ε β) :
    (Prog.call c k).bind f = .call c fun r => (k r).bind f := rfl

@[simp] theorem ofExcept_ok (a : α) : (ofExcept (.ok a) : Prog C R ε α) = .pure a := rfl

@[simp] theorem ofExcept_error (e : ε) : (ofExcept (.error e) : Prog C R ε α) = .throw e := rfl

/-! ### Runs -/

/-- How one command of a run is resolved: what others do to the world before it, and the choice
the environment makes for it. -/
structure Tick (W X : Type) where
  interfere : W → W := id
  choice : X

/-- How a run ended. -/
inductive Outcome (ε α : Type) : Type where
  | returned (a : α)
  | threw (e : ε)
  | cut
  deriving DecidableEq, Repr

/-- Whether a run returned a value. -/
def Outcome.isReturned : Outcome ε α → Bool
  | .returned _ => true
  | _ => false

/-- Whether a run came to its end. -/
def Outcome.ended : Outcome ε α → Bool
  | .cut => false
  | _ => true

section Run

variable {W X : Type} (perf : (c : C) → X → W → R c × W)

/-- The run of a program under a list of ticks, and the world it leaves. A list that is too short
cuts the run. -/
def run : Prog C R ε α → List (Tick W X) → W → Outcome ε α × W
  | .pure a, _, w => (.returned a, w)
  | .throw e, _, w => (.threw e, w)
  | .call _ _, [], w => (.cut, w)
  | .call c k, t :: ts, w =>
    (k (perf c t.choice (t.interfere w)).1).run ts (perf c t.choice (t.interfere w)).2

/-- What is assumed of the environment of a run: the changes others make between two commands of
the program, and the choices it makes for a command in the world where the command is issued. -/
structure Env (C W X : Type) where
  rely : W → W → Prop
  allows : C → X → W → Prop

/-- Every tick the run uses stays within `env`. -/
def Respects (env : Env C W X) : Prog C R ε α → List (Tick W X) → W → Prop
  | .call c k, t :: ts, w =>
    env.rely w (t.interfere w) ∧ env.allows c t.choice (t.interfere w) ∧
    (k (perf c t.choice (t.interfere w)).1).Respects env ts (perf c t.choice (t.interfere w)).2
  | _, _, _ => True

/-- The weakest precondition of a program. `Q` and `E` are the conditions on the world where it
returns and where it ends with an error, and `G` relates the worlds before and after each of its
commands. -/
def wp (env : Env C W X) (G : W → W → Prop) (Q : α → W → Prop) (E : ε → W → Prop) :
    Prog C R ε α → W → Prop
  | .pure a, w => Q a w
  | .throw e, w => E e w
  | .call c k, w => ∀ w1, env.rely w w1 → ∀ x, env.allows c x w1 →
    G w1 (perf c x w1).2 ∧ (k (perf c x w1).1).wp env G Q E (perf c x w1).2

variable {perf} {env : Env C W X} {G G' : W → W → Prop} {Q Q' : α → W → Prop}
  {E E' : ε → W → Prop}

@[simp] theorem wp_pure (a : α) (w : W) : (Prog.pure a).wp perf env G Q E w ↔ Q a w := Iff.rfl

@[simp] theorem wp_throw (e : ε) (w : W) : (Prog.throw e).wp perf env G Q E w ↔ E e w := Iff.rfl

theorem wp_call (c : C) (k : R c → Prog C R ε α) (w : W) :
    (Prog.call c k).wp perf env G Q E w ↔
      ∀ w1, env.rely w w1 → ∀ x, env.allows c x w1 →
        G w1 (perf c x w1).2 ∧ (k (perf c x w1).1).wp perf env G Q E (perf c x w1).2 := Iff.rfl

variable {w : W} {f : α → Prog C R ε β} {φ : α → Prop} (p : Prog C R ε α)

/-- The rule of consequence. -/
theorem wp_mono (hG : ∀ w w', G w w' → G' w w') (hQ : ∀ a w, Q a w → Q' a w)
    (hE : ∀ e w, E e w → E' e w) (h : p.wp perf env G Q E w) : p.wp perf env G' Q' E' w := by
  induction p generalizing w with
  | pure a => exact hQ a w h
  | throw e => exact hE e w h
  | call c k ih =>
    intro w1 hrely x hallows
    obtain ⟨hg, hk⟩ := h w1 hrely x hallows
    exact ⟨hG _ _ hg, ih _ hk⟩

/-- The rule of consequence for the ends of a program. -/
theorem wp_imp {p : Prog C R ε α} (hQ : ∀ a w, Q a w → Q' a w) (hE : ∀ e w, E e w → E' e w)
    (h : p.wp perf env G Q E w) : p.wp perf env G Q' E' w := wp_mono p (fun _ _ h => h) hQ hE h

theorem wp_imp_error {p : Prog C R ε α} (hE : ∀ e w, E e w → E' e w)
    (h : p.wp perf env G Q E w) : p.wp perf env G Q E' w := wp_imp (fun _ _ h => h) hE h

/-- The rule for sequencing. -/
theorem wp_bind (f : α → Prog C R ε β) {Q : β → W → Prop} :
    (p.bind f).wp perf env G Q E w ↔
      p.wp perf env G (fun a w' => (f a).wp perf env G Q E w') E w := by
  induction p generalizing w with
  | pure a => rfl
  | throw e => rfl
  | call c k ih => simp only [call_bind, wp_call, ih]

/-- The rule for a handled result: both endings of the program go to one postcondition. -/
theorem wp_attempt {Q : Except ε α → W → Prop} {E : δ → W → Prop} :
    (p.attempt : Prog C R δ (Except ε α)).wp perf env G Q E w ↔
      p.wp perf env G (fun a => Q (.ok a)) (fun e => Q (.error e)) w := by
  induction p generalizing w with
  | pure a => rfl
  | throw e => rfl
  | call c k ih => simp only [attempt, wp_call, ih]

variable {M : α → W → Prop} {I : W → Prop} (ts : List (Tick W X))

/-- Sequencing with a condition in between. -/
theorem wp_seq {p : Prog C R ε α} {Q : β → W → Prop} (hp : p.wp perf env G M E w)
    (hf : ∀ a w', M a w' → (f a).wp perf env G Q E w') : (p.bind f).wp perf env G Q E w :=
  (wp_bind p f).2 (wp_imp hf (fun _ _ h => h) hp)

/-- A result that is handled, with a condition for each way in which the program ends. -/
theorem wp_handle {p : Prog C R ε α} {f : Except ε α → Prog C R δ β} {N : ε → W → Prop}
    {Q : β → W → Prop} {E : δ → W → Prop} (hp : p.wp perf env G M N w)
    (hok : ∀ a w', M a w' → (f (.ok a)).wp perf env G Q E w')
    (herror : ∀ e w', N e w' → (f (.error e)).wp perf env G Q E w') :
    ((p.attempt : Prog C R δ (Except ε α)).bind f).wp perf env G Q E w :=
  (wp_bind _ f).2 ((wp_attempt p).2 (wp_imp hok herror hp))

theorem wp_mapError (f : ε → δ) (p : Prog C R ε α) {E : δ → W → Prop} :
    (p.mapError f).wp perf env G Q E w ↔ p.wp perf env G Q (fun e => E (f e)) w := by
  rw [mapError, wp_bind, wp_attempt]
  rfl

theorem wp_ofExcept (r : Except ε α) :
    (ofExcept r : Prog C R ε α).wp perf env G Q E w ↔
      (∀ a, r = .ok a → Q a w) ∧ (∀ e, r = .error e → E e w) := by
  cases r with
  | ok a => simp
  | error e => simp

theorem wp_when (c : Bool) (p : Prog C R ε Unit) {Q : Unit → W → Prop} :
    (when c p).wp perf env G Q E w ↔ (c = true → p.wp perf env G Q E w) ∧ (c = false → Q () w) := by
  cases c <;> simp [when]

/-- What the weakest precondition says about a run that ended. -/
theorem wp_run (hp : p.wp perf env G Q E w) (hts : p.Respects perf env ts w) :
    match p.run perf ts w with
    | (.returned a, w') => Q a w'
    | (.threw e, w') => E e w'
    | (.cut, _) => True := by
  induction p generalizing w ts with
  | pure a => exact hp
  | throw e => exact hp
  | call c k ih =>
    cases ts with
    | nil => trivial
    | cons t ts =>
      obtain ⟨hrely, hallows, hrest⟩ := hts
      obtain ⟨_, hk⟩ := hp _ hrely _ hallows
      exact ih _ ts hk hrest

/-- Steps of others do not disturb a weakest precondition whose postconditions they keep. -/
theorem wp_stable {w' : W} (htrans : ∀ w1 w2 w3, env.rely w1 w2 → env.rely w2 w3 → env.rely w1 w3)
    (hQ : ∀ a w w', env.rely w w' → Q a w → Q a w')
    (hE : ∀ e w w', env.rely w w' → E e w → E e w') (hrely : env.rely w w')
    (h : p.wp perf env G Q E w) : p.wp perf env G Q E w' := by
  cases p with
  | pure a => exact hQ a w w' hrely h
  | throw e => exact hE e w w' hrely h
  | call c k => exact fun w1 hw1 => h w1 (htrans _ _ _ hrely hw1)

/-- The frame rule: a condition that others keep and the guarantee keeps is carried along. -/
theorem wp_frame (hrely : ∀ w w', env.rely w w' → I w → I w') (hG : ∀ w w', G w w' → I w → I w')
    (h : p.wp perf env G Q E w) (hI : I w) :
    p.wp perf env G (fun a w' => Q a w' ∧ I w') (fun e w' => E e w' ∧ I w') w := by
  induction p generalizing w with
  | pure a => exact ⟨h, hI⟩
  | throw e => exact ⟨h, hI⟩
  | call c k ih =>
    intro w1 hr x hallows
    obtain ⟨hg, hk⟩ := h w1 hr x hallows
    exact ⟨hg, ih _ hk (hG _ _ hg (hrely _ _ hr hI))⟩

/-- Two postconditions of a program hold together. -/
theorem wp_and {Q' : α → W → Prop} (h : p.wp perf env G Q E w) (h' : p.wp perf env G Q' E w) :
    p.wp perf env G (fun a w' => Q a w' ∧ Q' a w') E w := by
  induction p generalizing w with
  | pure a => exact ⟨h, h'⟩
  | throw e => exact h
  | call c k ih =>
    intro w1 hr x hallows
    obtain ⟨hg, hk⟩ := h w1 hr x hallows
    exact ⟨hg, ih _ hk (h' w1 hr x hallows).2⟩

/-- A program can be run in an environment that does less. -/
theorem wp_env {env' : Env C W X} {p : Prog C R ε α} (h : p.wp perf env G Q E w)
    (hrely : ∀ w w', env'.rely w w' → env.rely w w')
    (hallows : ∀ c x w, env'.allows c x w → env.allows c x w) : p.wp perf env' G Q E w := by
  induction p generalizing w with
  | pure a => exact h
  | throw e => exact h
  | call c k ih =>
    intro w1 hr x hx
    obtain ⟨hg, hk⟩ := h w1 (hrely _ _ hr) x (hallows _ _ _ hx)
    exact ⟨hg, ih _ hk⟩

/-- A guarantee that every command keeps anyway may be added. -/
theorem wp_guarantee (hG : ∀ c x w, G' w (perf c x w).2) (h : p.wp perf env G Q E w) :
    p.wp perf env (fun w w' => G w w' ∧ G' w w') Q E w := by
  induction p generalizing w with
  | pure a => exact h
  | throw e => exact h
  | call c k ih =>
    intro w1 hr x hallows
    obtain ⟨hg, hk⟩ := h w1 hr x hallows
    exact ⟨⟨hg, hG c x w1⟩, ih _ hk⟩

/-- A run stays within an environment that allows every choice if what others do stays within it
from any world. -/
theorem respects_of_ticks (hallows : ∀ c x w, env.allows c x w) {ts : List (Tick W X)}
    (hts : ∀ t ∈ ts, ∀ w, env.rely w (t.interfere w)) (p : Prog C R ε α) (w : W) :
    p.Respects perf env ts w := by
  induction p generalizing ts w with
  | pure a => trivial
  | throw e => trivial
  | call c k ih =>
    cases ts with
    | nil => trivial
    | cons t ts =>
      exact ⟨hts t List.mem_cons_self w, hallows .., ih _
        (fun t' ht' => hts t' (List.mem_cons_of_mem t ht')) _⟩

/-- A run in which nobody interferes stays within an environment that allows every choice. -/
theorem respects_of_quiet (hrefl : ∀ w, env.rely w w) (hallows : ∀ c x w, env.allows c x w)
    {ts : List (Tick W X)} (hts : ∀ t ∈ ts, t.interfere = id) (p : Prog C R ε α) (w : W) :
    p.Respects perf env ts w := by
  refine respects_of_ticks hallows (fun t ht w => ?_) p w
  rw [hts t ht]
  exact hrefl w

/-- A condition that others and every command keep holds wherever a run ends or is cut. -/
theorem run_invariant (hp : p.wp perf env G Q E w) (hts : p.Respects perf env ts w)
    (hrely : ∀ w w', env.rely w w' → I w → I w') (hG : ∀ w w', G w w' → I w → I w') (hI : I w) :
    I (p.run perf ts w).2 := by
  induction p generalizing w ts with
  | pure a => exact hI
  | throw e => exact hI
  | call c k ih =>
    cases ts with
    | nil => exact hI
    | cons t ts =>
      obtain ⟨hr, hallows, hrest⟩ := hts
      obtain ⟨hg, hk⟩ := hp _ hr _ hallows
      exact ih _ ts hk hrest (hG _ _ hg (hrely _ _ hr hI))

/-! ### Runs to the end

A run that is not cut follows an unlimited sequence of ticks. It always comes to its end, because
a program is a well-founded tree. -/

variable (perf) in
/-- The run of a program along an unlimited sequence of ticks. -/
def follow : Prog C R ε α → (Nat → Tick W X) → W → Except ε α × W
  | .pure a, _, w => (.ok a, w)
  | .throw e, _, w => (.error e, w)
  | .call c k, ts, w =>
    (k (perf c (ts 0).choice ((ts 0).interfere w)).1).follow (fun n => ts (n + 1))
      (perf c (ts 0).choice ((ts 0).interfere w)).2

variable (perf) in
/-- Every tick the run uses stays within `env`. -/
def Within (env : Env C W X) : Prog C R ε α → (Nat → Tick W X) → W → Prop
  | .pure _, _, _ => True
  | .throw _, _, _ => True
  | .call c k, ts, w =>
    env.rely w ((ts 0).interfere w) ∧ env.allows c (ts 0).choice ((ts 0).interfere w) ∧
    (k (perf c (ts 0).choice ((ts 0).interfere w)).1).Within env (fun n => ts (n + 1))
      (perf c (ts 0).choice ((ts 0).interfere w)).2

/-- What the weakest precondition says about a run that is not cut. -/
theorem wp_follow (ts : Nat → Tick W X) (hp : p.wp perf env G Q E w)
    (hts : p.Within perf env ts w) :
    match p.follow perf ts w with
    | (.ok a, w') => Q a w'
    | (.error e, w') => E e w' := by
  induction p generalizing w ts with
  | pure a => exact hp
  | throw e => exact hp
  | call c k ih =>
    obtain ⟨hrely, hallows, hrest⟩ := hts
    exact ih _ _ (hp _ hrely _ hallows).2 hrest

/-! ### Runs under one choice -/

variable (perf) in
/-- The run of a program when nobody else acts and every command is resolved by the same choice. -/
def exec (x : X) (p : Prog C R ε α) (w : W) : Except ε α × W :=
  p.follow perf (fun _ => { choice := x }) w

variable {x : X}

@[simp] theorem exec_pure (a : α) (w : W) :
    (Prog.pure a : Prog C R ε α).exec perf x w = (.ok a, w) := rfl

@[simp] theorem exec_throw (e : ε) (w : W) :
    (Prog.throw e : Prog C R ε α).exec perf x w = (.error e, w) := rfl

@[simp] theorem exec_call (c : C) (k : R c → Prog C R ε α) (w : W) :
    (Prog.call c k).exec perf x w = (k (perf c x w).1).exec perf x (perf c x w).2 := rfl

/-- Ticks that are always allowed keep the run within the environment. -/
theorem within_of_ticks {ts : Nat → Tick W X} (hrely : ∀ n w, env.rely w ((ts n).interfere w))
    (hts : ∀ n c w, env.allows c (ts n).choice w) (p : Prog C R ε α) (w : W) :
    p.Within perf env ts w := by
  induction p generalizing ts w with
  | pure a => trivial
  | throw e => trivial
  | call c k ih =>
    exact ⟨hrely 0 w, hts 0 c _, ih _ (fun n => hrely (n + 1)) (fun n => hts (n + 1)) _⟩

/-- A choice that is always allowed keeps the run within the environment. -/
theorem within_of_allows (hrefl : ∀ w, env.rely w w) (hx : ∀ c w, env.allows c x w)
    (p : Prog C R ε α) (w : W) : p.Within perf env (fun _ => { choice := x }) w :=
  within_of_ticks (fun _ => hrefl) (fun _ => hx) p w

variable (perf) in
/-- Whether a test holds for every command that such a run issues. -/
def check (test : C → X → W → Bool) (x : X) : Prog C R ε α → W → Bool
  | .pure _, _ => true
  | .throw _, _ => true
  | .call c k, w => test c x w && (k (perf c x w).1).check test x (perf c x w).2

theorem check_true (x : X) (p : Prog C R ε α) (w : W) :
    p.check perf (fun _ _ _ => true) x w = true := by
  induction p generalizing w with
  | pure a => rfl
  | throw e => rfl
  | call c k ih => exact ih _ _

/-- A test of the choices puts the run within an environment that others leave alone. -/
theorem within_of_check {test : C → X → W → Bool} (hrefl : ∀ w, env.rely w w)
    (htest : ∀ c w, test c x w = true → env.allows c x w) {p : Prog C R ε α}
    (h : p.check perf test x w = true) : p.Within perf env (fun _ => { choice := x }) w := by
  induction p generalizing w with
  | pure a => trivial
  | throw e => trivial
  | call c k ih =>
    obtain ⟨hc, hk⟩ := Bool.and_eq_true_iff.1 h
    exact ⟨hrefl w, htest c w hc, ih _ hk⟩

theorem exec_bind (f : α → Prog C R ε β) (w : W) :
    (p.bind f).exec perf x w =
      match p.exec perf x w with
      | (.ok a, w') => (f a).exec perf x w'
      | (.error e, w') => (.error e, w') := by
  induction p generalizing w with
  | pure a => rfl
  | throw e => rfl
  | call c k ih => exact ih _ _

theorem exec_bind_ok {p : Prog C R ε α} {w' : W} {a : α} (h : p.exec perf x w = (.ok a, w')) :
    (p.bind f).exec perf x w = (f a).exec perf x w' := by
  rw [exec_bind, h]

theorem exec_bind_eq_ok {p : Prog C R ε α} {w'' : W} {b : β} :
    (p.bind f).exec perf x w = (.ok b, w'') ↔
      ∃ a w', p.exec perf x w = (.ok a, w') ∧ (f a).exec perf x w' = (.ok b, w'') := by
  rw [exec_bind]
  constructor
  · intro h
    cases hp : p.exec perf x w with
    | mk result w' =>
      rw [hp] at h
      cases result with
      | ok a => exact ⟨a, w', rfl, h⟩
      | error e => cases h
  · rintro ⟨a, w', hp, hf⟩
    rw [hp]
    exact hf

/-! ### The commands a program uses -/

variable (P : C → Prop)

/-- Every command the program can issue satisfies `P`. -/
def Uses : Prog C R ε α → Prop
  | .pure _ => True
  | .throw _ => True
  | .call c k => P c ∧ ∀ r, (k r).Uses

variable {P} {p}

@[simp] theorem uses_pure (a : α) : (Prog.pure a : Prog C R ε α).Uses P := trivial

@[simp] theorem uses_throw (e : ε) : (Prog.throw e : Prog C R ε α).Uses P := trivial

@[simp] theorem uses_call (c : C) (k : R c → Prog C R ε α) :
    (Prog.call c k).Uses P ↔ P c ∧ ∀ r, (k r).Uses P := Iff.rfl

@[simp] theorem uses_perform (c : C) : (Prog.perform c : Prog C R ε (R c)).Uses P ↔ P c := by
  simp [perform]

@[simp] theorem uses_ofExcept (r : Except ε α) : (ofExcept r : Prog C R ε α).Uses P := by
  cases r <;> trivial

theorem uses_when {c : Bool} {p : Prog C R ε Unit} (hp : p.Uses P) : (when c p).Uses P := by
  cases c
  · trivial
  · exact hp

theorem uses_elim {γ : Type} {o : Option γ} {f : γ → Prog C R ε α}
    (hp : p.Uses P) (hf : ∀ a, (f a).Uses P) : (o.elim p f).Uses P := by
  cases o with
  | none => exact hp
  | some a => exact hf a

theorem uses_bind (hp : p.Uses P) (hf : ∀ a, (f a).Uses P) :
    (p.bind f).Uses P := by
  induction p with
  | pure a => exact hf a
  | throw e => trivial
  | call c k ih => exact ⟨hp.1, fun r => ih r (hp.2 r)⟩

theorem uses_mono {P' : C → Prop} (h : ∀ c, P c → P' c) (hp : p.Uses P) :
    p.Uses P' := by
  induction p with
  | pure a => trivial
  | throw e => trivial
  | call c k ih => exact ⟨h c hp.1, fun r => ih r (hp.2 r)⟩

theorem uses_attempt (hp : p.Uses P) :
    (p.attempt : Prog C R δ (Except ε α)).Uses P := by
  induction p with
  | pure a => trivial
  | throw e => trivial
  | call c k ih => exact ⟨hp.1, fun r => ih r (hp.2 r)⟩

theorem uses_mapError {f : ε → δ} (hp : p.Uses P) :
    (p.mapError f).Uses P := by
  refine uses_bind (uses_attempt hp) fun r => ?_
  cases r <;> trivial

/-- A condition that others keep and every used command keeps is an invariant of the program. -/
theorem wp_of_uses (hp : p.Uses P) (hrely : ∀ w w', env.rely w w' → I w → I w')
    (hstep : ∀ c x w, P c → I w → env.allows c x w → G w (perf c x w).2 ∧ I (perf c x w).2)
    (hI : I w) : p.wp perf env G (fun _ => I) (fun _ => I) w := by
  induction p generalizing w with
  | pure a => exact hI
  | throw e => exact hI
  | call c k ih =>
    intro w1 hr x hallows
    obtain ⟨hg, hI'⟩ := hstep c x w1 hp.1 (hrely w w1 hr hI) hallows
    exact ⟨hg, ih _ (hp.2 _) hI'⟩

/-! ### The values a program returns -/

/-- Every value the program can return satisfies `φ`, whatever the replies are. -/
def Yields (φ : α → Prop) : Prog C R ε α → Prop
  | .pure a => φ a
  | .throw _ => True
  | .call _ k => ∀ r, (k r).Yields φ

theorem yields_ofExcept {r : Except ε α} (h : ∀ a, r = .ok a → φ a) :
    (ofExcept r : Prog C R ε α).Yields φ := by
  cases r with
  | ok a => exact h a rfl
  | error e => trivial

/-- What a sequence returns is what its second part returns. -/
theorem yields_bind {φ : β → Prop} {ψ : α → Prop} (hp : p.Yields ψ)
    (hf : ∀ a, ψ a → (f a).Yields φ) : (p.bind f).Yields φ := by
  induction p with
  | pure a => exact hf a hp
  | throw e => trivial
  | call c k ih => exact fun r => ih r (hp r)

theorem yields_true (p : Prog C R ε α) : p.Yields fun _ => True := by
  induction p with
  | pure a => trivial
  | throw e => trivial
  | call c k ih => exact ih

/-- The second part of a sequence may not depend on what the first one returns. -/
theorem yields_bind_right {φ : β → Prop} (hf : ∀ a, (f a).Yields φ) :
    (p.bind f).Yields φ :=
  yields_bind (yields_true p) fun a _ => hf a

theorem yields_attempt (hp : p.Yields φ) :
    (p.attempt : Prog C R δ (Except ε α)).Yields fun r => ∀ a, r = .ok a → φ a := by
  induction p with
  | pure a =>
    intro a' h
    cases h
    exact hp
  | throw e => exact fun a h => nomatch h
  | call c k ih => exact fun r => ih r (hp r)

theorem yields_mapError {f : ε → δ} (hp : p.Yields φ) :
    (p.mapError f).Yields φ := by
  refine yields_bind (yields_attempt hp) fun r hr => ?_
  cases r with
  | ok a => exact hr a rfl
  | error e => trivial

/-- What a program returns may be added to its postcondition. -/
theorem wp_yields (hp : p.Yields φ) (h : p.wp perf env G Q E w) :
    p.wp perf env G (fun a w' => Q a w' ∧ φ a) E w := by
  induction p generalizing w with
  | pure a => exact ⟨h, hp⟩
  | throw e => exact h
  | call c k ih =>
    intro w1 hr x hallows
    obtain ⟨hg, hk⟩ := h w1 hr x hallows
    exact ⟨hg, ih _ (hp _) hk⟩

end Run

/-! ### Commands and values under replies of a kind -/

section Obeys

variable (A : (c : C) → R c → Prop) (P : C → Prop)

/-- As long as every reply satisfies `A`, every command the program issues satisfies `P`, and every
value it returns satisfies `φ`. -/
def Obeys (φ : α → Prop) : Prog C R ε α → Prop
  | .pure a => φ a
  | .throw _ => True
  | .call c k => P c ∧ ∀ r, A c r → (k r).Obeys φ

variable {A P} {φ : α → Prop} {ψ : β → Prop}

/-- The commands and the values of a program, whatever the replies are. -/
theorem obeys_of_uses {p : Prog C R ε α} (hp : p.Uses P) (hφ : p.Yields φ) : p.Obeys A P φ := by
  induction p with
  | pure a => exact hφ
  | throw e => trivial
  | call c k ih => exact ⟨hp.1, fun r _ => ih r (hp.2 r) (hφ r)⟩

end Obeys

end Prog

end Gascan.Lib
