import Mathlib.Logic.Function.Basic
import Gascan.Lib.Program

/-!
# `Gascan.Lib.Trace`: what a program does under any replies

`deeds` says what a command that got a reply leaves in the trace, and `answer` is the handler that
gives any reply and notes the deeds. A run of `answer` that is cut anywhere is therefore a path
through the program from its start.

`run_answered` connects this with a handler that changes a world: as long as a relation between
worlds and traces is kept by every command, each run in the world has a run of `answer` next to it.
`exists_split_of_getElem?_filterMap` finds the place in a trace that something read off it comes
from.
-/

namespace Gascan.Lib.Prog

variable {C : Type} {R : C → Type} {ε α D W X : Type}

/-- Replies to a command as it was chosen, and notes what it did. -/
def answer (deeds : (c : C) → R c → List D) (c : C) (replies : (c : C) → R c) (noted : List D) :
    R c × List D :=
  (replies c, noted ++ deeds c (replies c))

/-- Nothing happens between two commands, and every reply is possible. -/
def anyReply : Env C (List D) ((c : C) → R c) where
  rely noted noted' := noted' = noted
  allows _ _ _ := True

variable {noted : List D}

/-- A program that starts with a command is right if it is right after each reply. -/
theorem wp_answer {deeds : (c : C) → R c → List D} {Q : α → List D → Prop} {E : ε → List D → Prop}
    {c : C} {k : R c → Prog C R ε α}
    (h : ∀ r, (k r).wp (answer deeds) anyReply (fun _ _ => True) Q E (noted ++ deeds c r)) :
    (Prog.call c k).wp (answer deeds) anyReply (fun _ _ => True) Q E noted := by
  rintro _ rfl replies -
  exact ⟨trivial, h (replies c)⟩

open Classical in
/-- The replies that give one command the reply `r`. -/
noncomputable def reply [∀ c, Nonempty (R c)] (c : C) (r : R c) : (c : C) → R c :=
  Function.update (fun c => Classical.arbitrary (R c)) c r

theorem reply_self [∀ c, Nonempty (R c)] (c : C) (r : R c) : reply c r c = r := by
  classical
  exact Function.update_self ..

/-- A run in a world is accompanied by a run under the same replies, with a trace that stays related
to the world. -/
theorem run_answered [∀ c, Nonempty (R c)] {deeds : (c : C) → R c → List D}
    {perf : (c : C) → X → W → R c × W} {env : Env C W X} {Rel : W → List D → Prop}
    (hrely : ∀ w w' noted, env.rely w w' → Rel w noted → Rel w' noted)
    (hstep : ∀ c x w noted, Rel w noted → Rel (perf c x w).2 (noted ++ deeds c (perf c x w).1))
    (p : Prog C R ε α) {ts : List (Tick W X)} {w : W} (hts : p.Respects perf env ts w)
    (h : Rel w noted) :
    ∃ ts' : List (Tick (List D) ((c : C) → R c)), (∀ t ∈ ts', t.interfere = id) ∧
      Rel (p.run perf ts w).2 (p.run (answer deeds) ts' noted).2 := by
  induction p generalizing ts w noted with
  | pure a => exact ⟨[], nofun, h⟩
  | throw e => exact ⟨[], nofun, h⟩
  | call c k ih =>
    cases ts with
    | nil => exact ⟨[], nofun, h⟩
    | cons t ts =>
      obtain ⟨hother, -, hts⟩ := hts
      have hnext := hstep c t.choice (t.interfere w) noted (hrely _ _ _ hother h)
      obtain ⟨ts', hquiet, hrel⟩ := ih _ hts hnext
      -- The first reply is the one that the world gave.
      refine ⟨{ choice := reply c (perf c t.choice (t.interfere w)).1 } :: ts', ?_, ?_⟩
      · intro t' ht'
        rcases List.mem_cons.1 ht' with rfl | ht'
        · rfl
        · exact hquiet t' ht'
      · simp only [run, answer, id, reply_self]
        exact hrel

end Gascan.Lib.Prog

namespace Gascan.Lib

/-- The place in a list that an element of its filtered image comes from. -/
theorem exists_split_of_getElem?_filterMap {α β : Type} {f : α → Option β} {l : List α} {i : Nat}
    {b : β} (h : (l.filterMap f)[i]? = some b) :
    ∃ first a rest, l = first ++ a :: rest ∧ f a = some b ∧ (first.filterMap f).length = i := by
  induction l generalizing i with
  | nil => exact absurd h nofun
  | cons a l ih =>
    cases hf : f a with
    | none =>
      rw [List.filterMap_cons_none hf] at h
      obtain ⟨first, a', rest, rfl, hf', hlength⟩ := ih h
      refine ⟨a :: first, a', rest, rfl, hf', ?_⟩
      rw [List.filterMap_cons_none hf, hlength]
    | some b' =>
      rw [List.filterMap_cons_some hf] at h
      cases i with
      | zero =>
        obtain rfl : b' = b := Option.some.inj h
        exact ⟨[], a, l, rfl, hf, rfl⟩
      | succ i =>
        rw [List.getElem?_cons_succ] at h
        obtain ⟨first, a', rest, rfl, hf', hlength⟩ := ih h
        refine ⟨a :: first, a', rest, rfl, hf', ?_⟩
        rw [List.filterMap_cons_some hf, List.length_cons, hlength]

end Gascan.Lib
