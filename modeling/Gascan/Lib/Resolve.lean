import Gascan.Lib.Text
import Mathlib.Logic.Relation

/-!
# `Gascan.Lib.Resolve`: resolving paths through symbolic links

A `Walker` resolves a relative path in a tree, component by component, and follows every symbolic
link that it meets; a `..` after a link is taken from where the link leads. `depth` is the lexical
count that does not look at the tree.

`contained_iff` is for trees in which every link passes the lexical count. No link of such a tree
leads out of it if and only if no link takes a `detour`: a `..` of its target that stands after a
part which goes through another link and ends at the root. `Safe` is the invariant of the walk.
-/

namespace Gascan.Lib.Resolve

open Lib.Text List

variable {ν : Type}

/-- What is at a path of a tree. -/
inductive Kind (ν : Type) where
  | directory
  | file
  | symlink (target : List (Component ν))
  deriving DecidableEq

/-- A resolution under way: the directory it is in, the components that it has still to follow, and
whether it went through a link. -/
structure Walker (ν : Type) where
  dir : List ν
  todo : List (Component ν)
  linked : Bool
  deriving DecidableEq

section Walk

variable (nodes : List ν → Option (Kind ν))

/-- One step of a resolution. It stops at a file, at a name that does not exist, and where it would
leave the tree. -/
def step (w : Walker ν) : Option (Walker ν) :=
  match w.todo with
  | [] => none
  | .rootDir :: _ => none
  | .curDir :: rest => some { w with todo := rest }
  | .parentDir :: rest =>
    if w.dir.isEmpty then none else some { w with dir := w.dir.dropLast, todo := rest }
  | .normal name :: rest =>
    match nodes (w.dir ++ [name]) with
    | some .directory => some { w with dir := w.dir ++ [name], todo := rest }
    | some (.symlink target) => some { dir := w.dir, todo := target ++ rest, linked := true }
    | _ => none

/-- A resolution gets from one state to another. -/
abbrev Walks : Walker ν → Walker ν → Prop :=
  Relation.ReflTransGen fun w w' => step nodes w = some w'

/-- The next step of a resolution leaves the tree: it starts from the root of the file system, or
takes the parent of the root of the tree. -/
def Walker.Escapes (w : Walker ν) : Prop :=
  w.todo.head? = some .rootDir ∨ w.todo.head? = some .parentDir ∧ w.dir = []

/-- The resolution of the target of a link in a directory. -/
def follow (dir : List ν) (target : List (Component ν)) : Walker ν :=
  { dir, todo := target, linked := false }

/-- The resolution of a link never leaves the tree. -/
def Stays (dir : List ν) (target : List (Component ν)) : Prop :=
  ∀ w, Walks nodes (follow dir target) w → ¬w.Escapes

/-- A target has a `..` after a part that goes through another link and ends at the root. -/
def Detours (dir : List ν) (target : List (Component ν)) : Prop :=
  ∃ part rest, target = part ++ .parentDir :: rest ∧
    Walks nodes (follow dir part) { dir := [], todo := [], linked := true }

/-- The links of a tree, with the directories they are in. -/
def Link (dir : List ν) (target : List (Component ν)) : Prop :=
  ∃ name, nodes (dir ++ [name]) = some (.symlink target)

end Walk

/-- The lexical depth after a path, if the path does not go above depth zero on its way. -/
def depth : Nat → List (Component ν) → Option Nat
  | n, [] => some n
  | n, .normal _ :: rest => depth (n + 1) rest
  | n, .curDir :: rest => depth n rest
  | n + 1, .parentDir :: rest => depth n rest
  | 0, .parentDir :: _ => none
  | _, .rootDir :: _ => none

/-! ### The lexical count -/

theorem depth_append (n : Nat) (part rest : List (Component ν)) :
    depth n (part ++ rest) = (depth n part).bind (depth · rest) := by
  induction part generalizing n with
  | nil => rfl
  | cons component part ih =>
    cases component with
    | rootDir => simp [depth]
    | curDir => exact ih n
    | normal name => exact ih (n + 1)
    | parentDir =>
      cases n with
      | zero => simp [depth]
      | succ n => exact ih n

variable {n : Nat}

/-- A `..` that the count accepts stands at a depth above zero. -/
theorem depth_before_parent {part rest : List (Component ν)}
    (h : (depth n (part ++ .parentDir :: rest)).isSome) : ∃ m, depth n part = some (m + 1) := by
  rw [depth_append] at h
  cases hpart : depth n part with
  | none => simp [hpart] at h
  | some m =>
    cases m with
    | zero => simp [hpart, depth] at h
    | succ m => exact ⟨m, rfl⟩

/-- The count accepts no path from the root of the file system. -/
theorem rootDir_notMem_of_depth {target : List (Component ν)} (h : (depth n target).isSome) :
    .rootDir ∉ target := by
  intro hmem
  obtain ⟨part, rest, rfl⟩ := append_of_mem hmem
  rw [depth_append] at h
  cases hpart : depth n part with
  | none => simp [hpart] at h
  | some m => simp [hpart, depth] at h

/-! ### Steps -/

section Steps

variable {nodes : List ν → Option (Kind ν)} {w w' : Walker ν}

/-- What a step can be. -/
inductive Move (nodes : List ν → Option (Kind ν)) : Walker ν → Walker ν → Prop where
  | here (dir : List ν) (rest : List (Component ν)) (linked : Bool) :
      Move nodes ⟨dir, .curDir :: rest, linked⟩ ⟨dir, rest, linked⟩
  | up {dir : List ν} (rest : List (Component ν)) (linked : Bool) (h : dir ≠ []) :
      Move nodes ⟨dir, .parentDir :: rest, linked⟩ ⟨dir.dropLast, rest, linked⟩
  | enter {dir : List ν} {name : ν} (rest : List (Component ν)) (linked : Bool)
      (h : nodes (dir ++ [name]) = some .directory) :
      Move nodes ⟨dir, .normal name :: rest, linked⟩ ⟨dir ++ [name], rest, linked⟩
  | turn {dir : List ν} {name : ν} {target : List (Component ν)} (rest : List (Component ν))
      (linked : Bool) (h : nodes (dir ++ [name]) = some (.symlink target)) :
      Move nodes ⟨dir, .normal name :: rest, linked⟩ ⟨dir, target ++ rest, true⟩

theorem step_eq_some_iff : step nodes w = some w' ↔ Move nodes w w' := by
  constructor
  · intro h
    obtain ⟨dir, todo, linked⟩ := w
    match todo with
    | [] | .rootDir :: _ => cases h
    | .curDir :: rest =>
      cases h
      exact .here dir rest linked
    | .parentDir :: rest =>
      cases dir with
      | nil => cases h
      | cons name dir =>
        cases h
        exact .up rest linked (cons_ne_nil _ _)
    | .normal name :: rest =>
      cases hnode : nodes (dir ++ [name]) with
      | none => simp [step, hnode] at h
      | some kind =>
        cases kind with
        | file => simp [step, hnode] at h
        | directory =>
          simp only [step, hnode, Option.some.injEq] at h
          exact h ▸ .enter rest linked hnode
        | symlink target =>
          simp only [step, hnode, Option.some.injEq] at h
          exact h ▸ .turn rest linked hnode
  · intro h
    cases h with
    | here dir rest linked => rfl
    | up rest linked h => simp [step, h]
    | enter rest linked h => simp [step, h]
    | turn rest linked h => simp [step, h]

variable (rest : List (Component ν))

/-- A step does not look at what comes after. -/
theorem step_append (h : step nodes w = some w') :
    step nodes { w with todo := w.todo ++ rest } = some { w' with todo := w'.todo ++ rest } := by
  rw [step_eq_some_iff] at h ⊢
  cases h with
  | here dir todo linked => exact .here dir (todo ++ rest) linked
  | up todo linked h => exact .up (todo ++ rest) linked h
  | enter todo linked h => exact .enter (todo ++ rest) linked h
  | turn todo linked h =>
    simp only [append_assoc]
    exact .turn (todo ++ rest) linked h

theorem walks_append (h : Walks nodes w w') :
    Walks nodes { w with todo := w.todo ++ rest } { w' with todo := w'.todo ++ rest } := by
  induction h with
  | refl => exact .refl
  | tail _ hstep ih => exact ih.tail (step_append rest hstep)

/-- A resolution does not depend on the links it went through before. -/
theorem walks_linked (linked : Bool) (h : Walks nodes w w') :
    ∃ linked', Walks nodes { w with linked } { w' with linked := linked' } := by
  induction h with
  | refl => exact ⟨linked, .refl⟩
  | tail _ hstep ih =>
    obtain ⟨before, hwalk⟩ := ih
    cases step_eq_some_iff.1 hstep with
    | here dir todo _ => exact ⟨before, hwalk.tail (step_eq_some_iff.2 (.here dir todo before))⟩
    | up todo _ h => exact ⟨before, hwalk.tail (step_eq_some_iff.2 (.up todo before h))⟩
    | enter todo _ h => exact ⟨before, hwalk.tail (step_eq_some_iff.2 (.enter todo before h))⟩
    | turn todo _ h => exact ⟨true, hwalk.tail (step_eq_some_iff.2 (.turn todo before h))⟩

/-- As long as a resolution goes through no link, the lexical count is the real depth. -/
theorem depth_of_walks (h : Walks nodes w w') (hlinked : w'.linked = false) :
    depth w.dir.length w.todo = depth w'.dir.length w'.todo := by
  induction h with
  | refl => rfl
  | tail _ hstep ih =>
    cases step_eq_some_iff.1 hstep with
    | here dir todo _ => exact ih hlinked
    | turn todo _ h => cases hlinked
    | enter todo _ h =>
      rw [ih hlinked, length_append]
      rfl
    | up todo _ h =>
      rw [ih hlinked]
      obtain ⟨n, hn⟩ := Nat.exists_eq_succ_of_ne_zero (mt length_eq_zero_iff.1 h)
      rw [length_dropLast, hn]
      rfl

end Steps

/-- A number of steps. -/
def run (nodes : List ν → Option (Kind ν)) : Nat → Walker ν → Option (Walker ν)
  | 0, w => some w
  | n + 1, w => (step nodes w).bind (run nodes n)

/-- A resolution that can be evaluated. -/
theorem walks_of_run {nodes : List ν → Option (Kind ν)} {w w' : Walker ν}
    (h : run nodes n w = some w') : Walks nodes w w' := by
  induction n generalizing w with
  | zero =>
    cases h
    exact .refl
  | succ n ih =>
    obtain ⟨next, hstep, hrest⟩ := Option.bind_eq_some_iff.1 h
    exact .head hstep (ih hrest)

/-! ### Containment -/

section Contained

variable {nodes : List ν → Option (Kind ν)} {w w' : Walker ν}

/-- Every `..` that a resolution has still to follow is at a directory below the root by then. -/
structure Safe (nodes : List ν → Option (Kind ν)) (w : Walker ν) : Prop where
  relative : .rootDir ∉ w.todo
  below : ∀ part rest, w.todo = part ++ .parentDir :: rest →
    ∀ linked, ¬Walks nodes { w with todo := part } ⟨[], [], linked⟩

theorem Safe.not_escapes (h : Safe nodes w) : ¬w.Escapes := by
  rintro (hroot | ⟨hparent, hdir⟩)
  · exact h.relative (mem_of_head? hroot)
  · obtain ⟨rest, htodo⟩ := head?_eq_some_iff.1 hparent
    refine h.below [] rest htodo w.linked ?_
    rw [hdir]

/-- A component is done. -/
theorem Safe.tail {component : Component ν} {dir dir' : List ν} {rest : List (Component ν)}
    {linked : Bool} (h : Safe nodes ⟨dir, component :: rest, linked⟩)
    (hstep : ∀ todo, step nodes ⟨dir, component :: todo, linked⟩ = some ⟨dir', todo, linked⟩) :
    Safe nodes ⟨dir', rest, linked⟩ where
  relative hmem := h.relative (mem_cons_of_mem _ hmem)
  below part rest' hsplit linked' hwalk := by
    have htodo : component :: rest = (component :: part) ++ .parentDir :: rest' :=
      congrArg (component :: ·) hsplit
    exact h.below (component :: part) rest' htodo linked' (.head (hstep part) hwalk)

/-- A target that the lexical count accepts and that takes no detour. -/
structure Direct (nodes : List ν → Option (Kind ν)) (dir : List ν) (target : List (Component ν)) :
    Prop where
  accepted : (depth dir.length target).isSome
  detours : ¬Detours nodes dir target

/-- Such a target is safe, also when it is reached through other links. -/
theorem Direct.safe {dir : List ν} {target : List (Component ν)} (h : Direct nodes dir target)
    (linked : Bool) : Safe nodes ⟨dir, target, linked⟩ where
  relative := rootDir_notMem_of_depth h.accepted
  below part rest hsplit linked' hwalk := by
    have hsplit : target = part ++ .parentDir :: rest := hsplit
    obtain ⟨turned, hwalk⟩ := walks_linked false hwalk
    cases turned with
    | true => exact h.detours ⟨part, rest, hsplit, hwalk⟩
    | false =>
      -- Without a link the end of the walk is where the count says, and that is not the root.
      obtain ⟨m, hdepth⟩ := depth_before_parent (hsplit ▸ h.accepted)
      have hroot : depth dir.length part = some 0 := depth_of_walks hwalk rfl
      exact absurd (hroot.symm.trans hdepth) (by simp)

/-- In a tree whose links are all direct, a step keeps a resolution safe. -/
theorem Safe.step (hlinks : ∀ dir target, Link nodes dir target → Direct nodes dir target)
    (h : Safe nodes w) (hstep : step nodes w = some w') : Safe nodes w' := by
  cases step_eq_some_iff.1 hstep with
  | here dir rest linked => exact h.tail fun todo => step_eq_some_iff.2 (.here dir todo linked)
  | up rest linked hdir => exact h.tail fun todo => step_eq_some_iff.2 (.up todo linked hdir)
  | enter rest linked hnode =>
    exact h.tail fun todo => step_eq_some_iff.2 (.enter todo linked hnode)
  | @turn dir name target rest linked hnode =>
    have htarget : Safe nodes ⟨dir, target, true⟩ := (hlinks dir target ⟨name, hnode⟩).safe true
    refine { relative := ?_, below := ?_ }
    · intro hmem
      rcases mem_append.1 hmem with hmem | hmem
      · exact htarget.relative hmem
      · exact h.relative (mem_cons_of_mem _ hmem)
    · intro part rest' hsplit linked' hwalk
      -- A `..` after the link was safe before the step, with the link in front of its part.
      have hafter : ∀ later, rest = later ++ .parentDir :: rest' →
          ¬Walks nodes ⟨dir, target ++ later, true⟩ ⟨[], [], linked'⟩ := by
        intro later hrest hwalk
        refine h.below (.normal name :: later) rest' (congrArg _ hrest) linked' ?_
        exact .head (step_eq_some_iff.2 (.turn later linked hnode)) hwalk
      rcases append_eq_append_iff.1 hsplit with
        ⟨later, rfl, hrest⟩ | ⟨later, htarget', hrest⟩
      · exact hafter later hrest hwalk
      · cases later with
        | nil =>
          obtain rfl : target = part := by simpa using htarget'
          refine hafter [] hrest.symm ?_
          rw [append_nil]
          exact hwalk
        | cons component later =>
          obtain ⟨rfl, hrest⟩ := List.cons.inj hrest
          exact htarget.below part later htarget' linked' hwalk

theorem Safe.walks (hlinks : ∀ dir target, Link nodes dir target → Direct nodes dir target)
    (h : Safe nodes w) (hwalk : Walks nodes w w') : Safe nodes w' := by
  induction hwalk with
  | refl => exact h
  | tail _ hstep ih => exact ih.step hlinks hstep

/-- A detour leads out of the tree. -/
theorem not_stays_of_detours {dir : List ν} {target : List (Component ν)}
    (h : Detours nodes dir target) : ¬Stays nodes dir target := by
  obtain ⟨part, rest, rfl, hwalk⟩ := h
  intro hstays
  exact hstays _ (walks_append (.parentDir :: rest) hwalk) (.inr ⟨rfl, rfl⟩)

/-- **Containment.** In a tree whose links all pass the lexical count, no link leads out of the tree
if and only if no link takes a detour. -/
theorem contained_iff
    (haccepted : ∀ dir target, Link nodes dir target → (depth dir.length target).isSome) :
    (∀ dir target, Link nodes dir target → Stays nodes dir target) ↔
      ∀ dir target, Link nodes dir target → ¬Detours nodes dir target := by
  constructor
  · exact fun h dir target hlink hdetours => not_stays_of_detours hdetours (h dir target hlink)
  · intro h dir target hlink w hwalk
    have hdirect : ∀ dir target, Link nodes dir target → Direct nodes dir target :=
      fun dir target hlink => ⟨haccepted dir target hlink, h dir target hlink⟩
    exact (((hdirect dir target hlink).safe false).walks hdirect hwalk).not_escapes

end Contained

end Gascan.Lib.Resolve
