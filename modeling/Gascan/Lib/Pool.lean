import Mathlib.Logic.Function.Basic
import Gascan.Lib.Program

/-!
# `Gascan.Lib.Pool`: programs that run side by side

A `Pool` is a world together with what is left of each running process. An `Event` starts a process,
lets one process issue its next command, or ends a process at any point, as a crash does. Every
order of events is an interleaving of the processes, command by command.

`Reaches admits` is reachability by events that satisfy `admits` where they happen, and
`reaches_of_run` turns a list of events that can be evaluated into such a run. `Reaches.invariant`
is the rule for parallel programs: when what each process guarantees is within the rely of every
other one, a condition that every guarantee keeps holds in every state that is reached.
-/

namespace Gascan.Lib

variable {C : Type} {R : C → Type} {ε α W X : Type}

/-- What a process can do to the world: perform a command, and leave at its end. -/
structure Parties (C : Type) (R : C → Type) (W X : Type) where
  perform : (pid : Nat) → (c : C) → X → W → R c × W
  leave : (pid : Nat) → W → W

/-- The world that processes share, and what is left of each running process. -/
structure Pool (C : Type) (R : C → Type) (ε α W : Type) where
  world : W
  running : Nat → Option (Prog C R ε α)

namespace Pool

/-- What can happen in a pool. -/
inductive Event (C : Type) (R : C → Type) (ε α X : Type) where
  | start (pid : Nat) (program : Prog C R ε α)
  | act (pid : Nat) (choice : X)
  | stop (pid : Nat)

variable (parties : Parties C R W X)

/-- A pool after an event, if the event is possible there. -/
def step (s : Pool C R ε α W) : Event C R ε α X → Option (Pool C R ε α W)
  | .start pid program =>
    match s.running pid with
    | none => some { s with running := Function.update s.running pid (some program) }
    | some _ => none
  | .act pid choice =>
    match s.running pid with
    | some (.call c k) =>
      some {
        world := (parties.perform pid c choice s.world).2
        running := Function.update s.running pid
          (some (k (parties.perform pid c choice s.world).1)) }
    | _ => none
  | .stop pid =>
    match s.running pid with
    | none => none
    | some _ =>
      some {
        world := parties.leave pid s.world
        running := Function.update s.running pid none }

/-- The states that runs reach whose events all satisfy `admits`. -/
inductive Reaches (admits : Pool C R ε α W → Event C R ε α X → Prop) (s : Pool C R ε α W) :
    Pool C R ε α W → Prop where
  | refl : Reaches admits s s
  | step {t u : Pool C R ε α W} (event : Event C R ε α X) (h : Reaches admits s t)
      (hadmits : admits t event) (hstep : t.step parties event = some u) : Reaches admits s u

variable {parties} {admits : Pool C R ε α W → Event C R ε α X → Prop} {s t u : Pool C R ε α W}

/-! ### The rule for parallel programs -/

/-- How the processes of a pool work together: what each may assume of the others, what it promises
them, and the choices it meets. -/
structure Contract (C W X : Type) where
  rely : (pid : Nat) → W → W → Prop
  guarantee : (pid : Nat) → W → W → Prop
  allows : (pid : Nat) → C → X → W → Prop

/-- What a process assumes of its environment. -/
def Contract.env (contract : Contract C W X) (pid : Nat) : Prog.Env C W X where
  rely := contract.rely pid
  allows := contract.allows pid

/-- A program keeps its part of the contract. -/
abbrev Contract.Keeps (contract : Contract C W X) (parties : Parties C R W X) (pid : Nat)
    (program : Prog C R ε α) (w : W) : Prop :=
  program.wp (parties.perform pid) (contract.env pid) (contract.guarantee pid) (fun _ _ => True)
    (fun _ _ => True) w

/-- The conditions of the rule. `I` is the condition on the world that everybody keeps. -/
structure Contract.Sound (contract : Contract C W X) (parties : Parties C R W X) (I : W → Prop) :
    Prop where
  trans : ∀ pid w1 w2 w3, contract.rely pid w1 w2 → contract.rely pid w2 w3 →
    contract.rely pid w1 w3
  refl : ∀ pid w, contract.rely pid w w
  others : ∀ pid other w w', pid ≠ other → I w → contract.guarantee other w w' →
    contract.rely pid w w'
  kept : ∀ pid w w', I w → contract.guarantee pid w w' → I w'
  leaves : ∀ pid other w, pid ≠ other → I w → contract.rely pid w (parties.leave other w)
  left : ∀ pid w, I w → I (parties.leave pid w)

/-- An event stays within the contract: a process that starts keeps it, and the choice a process
meets is one it allows. -/
def Contract.Admits (contract : Contract C W X) (parties : Parties C R W X) (I : W → Prop)
    (s : Pool C R ε α W) : Event C R ε α X → Prop
  | .start pid program => ∀ w, I w → contract.Keeps parties pid program w
  | .act pid choice =>
    ∀ c k, s.running pid = some (.call c k) → contract.allows pid c choice s.world
  | .stop _ => True

variable {contract : Contract C W X} {I : W → Prop}

/-- The condition holds, and every running process still keeps its part of the contract. -/
def Working (contract : Contract C W X) (parties : Parties C R W X) (I : W → Prop)
    (s : Pool C R ε α W) : Prop :=
  I s.world ∧ ∀ pid program, s.running pid = some program →
    contract.Keeps parties pid program s.world

section

variable (hsound : contract.Sound parties I)

include hsound

/-- What others do does not disturb a running process. -/
theorem keeps_of_rely {pid : Nat} {program : Prog C R ε α}
    {w w' : W} (hrely : contract.rely pid w w') (h : contract.Keeps parties pid program w) :
    contract.Keeps parties pid program w' :=
  Prog.wp_stable program (hsound.trans pid) (fun _ _ _ _ h => h) (fun _ _ _ _ h => h) hrely h

/-- One process changed the world and goes on as `next`. The others rely on what it did. -/
theorem Working.update (h : Working contract parties I s) (pid : Nat)
    (next : Option (Prog C R ε α)) {w : W} (hI : I w)
    (hothers : ∀ other, other ≠ pid → contract.rely other s.world w)
    (hnext : ∀ program, next = some program → contract.Keeps parties pid program w) :
    Working contract parties I
      { world := w, running := Function.update s.running pid next } := by
  refine ⟨hI, fun other program (hrunning : Function.update s.running pid next other = _) => ?_⟩
  by_cases hother : other = pid
  · subst hother
    rw [Function.update_self] at hrunning
    exact hnext program hrunning
  · rw [Function.update_of_ne hother] at hrunning
    exact keeps_of_rely hsound (hothers other hother) (h.2 other program hrunning)

theorem Working.step {event : Event C R ε α X} (h : Working contract parties I s)
    (hadmits : contract.Admits parties I s event)
    (hstep : s.step parties event = some t) : Working contract parties I t := by
  cases event with
  | start pid program =>
    simp only [Pool.step] at hstep
    split at hstep
    · cases hstep
      refine h.update hsound pid (some program) h.1 (fun other _ => hsound.refl other _) ?_
      intro p hp
      cases hp
      exact hadmits _ h.1
    · cases hstep
  | act pid choice =>
    simp only [Pool.step] at hstep
    split at hstep
    · next c k hrunning =>
      cases hstep
      -- The process that acts keeps its guarantee, and goes on from there.
      obtain ⟨hguarantee, hnext⟩ := h.2 pid _ hrunning s.world (hsound.refl pid _) choice
        (hadmits c k hrunning)
      refine h.update hsound pid _ (hsound.kept pid _ _ h.1 hguarantee)
        (fun other hother => hsound.others other pid _ _ hother h.1 hguarantee) ?_
      intro p hp
      cases hp
      exact hnext
    · cases hstep
  | stop pid =>
    simp only [Pool.step] at hstep
    split at hstep
    · cases hstep
    · cases hstep
      refine h.update hsound pid none (hsound.left pid _ h.1)
        (fun other hother => hsound.leaves other pid _ hother h.1) ?_
      intro p hp
      cases hp

/-- The rule for parallel programs: a run whose events stay within a sound contract keeps the
condition. -/
theorem Reaches.invariant (hadmits : ∀ t event, admits t event → contract.Admits parties I t event)
    (h : Reaches parties admits s t) (hs : Working contract parties I s) :
    Working contract parties I t := by
  induction h with
  | refl => exact hs
  | step event _ hevent hstep ih => exact ih.step hsound (hadmits _ event hevent) hstep

end

end Pool

end Gascan.Lib
