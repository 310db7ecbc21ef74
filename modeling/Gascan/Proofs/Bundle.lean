import Gascan.Scripts.Bundle

/-!
# `Gascan.Proofs.Bundle`: where the links of a bundle lead

`validateManifest` checks the target of each link by itself, and counts how deep it is. A target can
go through another link, to a place that is less deep than the count says. `bundle_escapes` is a
manifest that is accepted and has such a link out of the tree. `extracted_stays_iff` says for which
manifests this does not happen.

The tree is compared with the manifest by `Shape`. A pass over the archive adds one entry after the
other and replaces none, so the tree has in the end exactly the entries of the manifest and the
directories above them (`kind_extractValidated`).
-/

namespace Gascan.Bundle

open Lib Lib.Text Lib.Resolve List

/-! ### What is in a tree -/

def Node.kind : Node → Kind Name
  | .directory => .directory
  | .file _ => .file
  | .symlink target => .symlink (components target)

/-- What is at a path of a tree, without the contents of files. -/
def Tree.kind (tree : Tree) (path : List Name) : Option (Kind Name) :=
  (tree.node path).map Node.kind

def ManifestEntry.kind : ManifestEntry → Kind Name
  | .file .. => .file
  | .directory _ => .directory
  | .symlink _ target => .symlink (components target)

def ManifestEntry.names (entry : ManifestEntry) : List Name := Text.names entry.path

/-- What a manifest says about a path: it lists the path, or something below it. -/
def BundleManifest.kind (manifest : BundleManifest) (path : List Name) : Option (Kind Name) :=
  if path = [] then some .directory
  else
    match manifest.files.find? (·.names = path) with
    | some entry => some entry.kind
    | none =>
      if manifest.files.any (fun entry => path.isPrefixOf entry.names) then some .directory
      else none

/-- Every entry of the manifest is in the archive, as `validate_expanded_archive` requires. -/
def Complete (archive : List ArchiveEntry) (manifest : BundleManifest) : Prop :=
  ∀ entry ∈ manifest.files, ∃ part ∈ archive, part.path = entry.path

@[simp] theorem Tree.kind_root (tree : Tree) : tree.kind [] = some .directory := rfl

variable {tree : Tree} {name : Name} {tree' : Tree} {entry : ManifestEntry}
  {files : List ManifestEntry}

variable {path : List Char} {p : List Name} {node : Node} {rest reached above : List Name}
  {parts : List (Component Name)} {done : List ManifestEntry} {symlinksOnly : Bool}
  {manifest : BundleManifest} {expanded expanded' : Nat}

theorem Tree.kind_cons {path : List Name} (hp : p ≠ []) :
    Tree.kind ((path, node) :: tree) p = if path = p then some node.kind else tree.kind p := by
  by_cases h : path = p
  · simp [Tree.kind, Tree.node, Table.lookup, hp, h]
  · simp [Tree.kind, Tree.node, Table.lookup, hp, h]

theorem kind_eq_directory_of_node {path : List Name} (h : tree.node path = some .directory) :
    tree.kind path = some .directory := by
  rw [Tree.kind, h]
  rfl

/-! ### Creating directories -/

/-- The directories of a path are there, and nothing else changed. Before there was nothing in
their place, or they were there already. -/
structure Ensured (tree tree' : Tree) (reached rest : List Name) : Prop where
  there : ∀ q, q ≠ [] → q <+: rest → tree'.kind (reached ++ q) = some .directory
  before : ∀ q, q ≠ [] → q <+: rest →
    tree.kind (reached ++ q) = none ∨ tree.kind (reached ++ q) = some .directory
  other : ∀ p, (∀ q, q ≠ [] → q <+: rest → p ≠ reached ++ q) → tree'.kind p = tree.kind p

theorem ensured_refl (tree : Tree) (reached : List Name) : Ensured tree tree reached [] where
  there _ hq hpre := absurd (prefix_nil.1 hpre) hq
  before _ hq hpre := absurd (prefix_nil.1 hpre) hq
  other _ _ := rfl

theorem exists_cons_of_prefix {q : List Name} (hq : q ≠ []) (h : q <+: name :: rest) :
    ∃ q', q = name :: q' ∧ q' <+: rest := by
  cases q with
  | nil => exact absurd rfl hq
  | cons first q =>
    obtain ⟨rfl, hpre⟩ := cons_prefix_cons.1 h
    exact ⟨q, rfl, hpre⟩

theorem Ensured.cons {tree1 : Tree}
    (hfirst : ∀ p, tree1.kind p = if p = reached ++ [name] then some .directory else tree.kind p)
    (hbefore : tree.kind (reached ++ [name]) = none ∨ tree.kind (reached ++ [name]) = some
      .directory) (h : Ensured tree1 tree' (reached ++ [name]) rest) :
    Ensured tree tree' reached (name :: rest) := by
  -- A place below the first directory is not the first directory.
  have hbelow : ∀ q, q ≠ [] → reached ++ [name] ≠ reached ++ [name] ++ q :=
    fun q hq heq => hq (self_eq_append_right.1 heq)
  have happend : ∀ q, reached ++ name :: q = reached ++ [name] ++ q := by simp
  refine { there := ?_, before := ?_, other := ?_ }
  · intro q hq hpre
    obtain ⟨q, rfl, hrest⟩ := exists_cons_of_prefix hq hpre
    by_cases hq : q = []
    · subst hq
      rw [h.other _ fun q hq _ => hbelow q hq, hfirst, if_pos rfl]
    · rw [happend]
      exact h.there q hq hrest
  · intro q hq hpre
    obtain ⟨q, rfl, hrest⟩ := exists_cons_of_prefix hq hpre
    by_cases hq : q = []
    · subst hq
      exact hbefore
    · have hold := h.before q hq hrest
      rw [hfirst, if_neg (hbelow q hq).symm] at hold
      rw [happend]
      exact hold
  · intro p hp
    rw [h.other p, hfirst, if_neg (hp [name] (cons_ne_nil _ _) (prefix_append [name] _))]
    intro q hq hpre
    rw [← happend]
    exact hp (name :: q) (cons_ne_nil _ _) (cons_prefix_cons.2 ⟨rfl, hpre⟩)

theorem ensured_of_ensureDirectories (h : ensureDirectories reached rest tree = .ok tree') :
    Ensured tree tree' reached rest := by
  induction rest generalizing reached tree with
  | nil =>
    cases h
    exact ensured_refl tree' reached
  | cons name rest ih =>
    have hne : reached ++ [name] ≠ [] := by simp
    rw [ensureDirectories] at h
    cases hnode : tree.node (reached ++ [name]) with
    | none =>
      rw [hnode] at h
      refine (ih h).cons (fun p => ?_) (.inl (by rw [Tree.kind, hnode]; rfl))
      by_cases hp : p = []
      · subst hp
        rw [if_neg hne.symm, Tree.kind_root, Tree.kind_root]
      · rw [Tree.kind_cons hp]
        exact if_congr eq_comm rfl rfl
    | some node =>
      rw [hnode] at h
      cases node with
      | file data => cases h
      | symlink target => cases h
      | directory =>
        have hkind := kind_eq_directory_of_node hnode
        refine (ih h).cons (fun p => ?_) (.inr hkind)
        by_cases hp : p = reached ++ [name]
        · rw [if_pos hp, hp, hkind]
        · rw [if_neg hp]

/-! ### Creating an entry -/

/-- An entry is in the tree, with the directories above it, and nothing else changed. -/
structure Extends (tree tree' : Tree) (full : List Name) (kind : Kind Name) : Prop where
  there : tree'.kind full = some kind
  above : ∀ p, p ≠ [] → p <+: full → p ≠ full → tree'.kind p = some .directory
  other : ∀ p, ¬p <+: full → tree'.kind p = tree.kind p
  fresh : tree.kind full = none ∨ tree.kind full = some kind
  before : ∀ p, p ≠ [] → p <+: full → p ≠ full →
    tree.kind p = none ∨ tree.kind p = some .directory

theorem extends_of_ensured {tree tree' : Tree} {full : List Name} (hfull : full ≠ [])
    (h : Ensured tree tree' [] full) : Extends tree tree' full .directory where
  there := h.there full hfull (prefix_refl _)
  above p hp hpre _ := h.there p hp hpre
  other p hp := h.other p fun _ _ hpre heq => hp (heq ▸ hpre)
  fresh := h.before full hfull (prefix_refl _)
  before p hp hpre _ := h.before p hp hpre

theorem prefix_of_prefix_concat (h : p <+: above ++ [name]) (hne : p ≠ above ++ [name]) :
    p <+: above :=
  (prefix_concat_iff.1 h).resolve_left hne

theorem extends_of_create {tree1 : Tree} (h : Ensured tree tree1 [] above)
    (hfree : tree1.node (above ++ [name]) = none) :
    Extends tree ((above ++ [name], node) :: tree1) (above ++ [name]) node.kind := by
  have hne : above ++ [name] ≠ [] := by simp
  have hkept : ∀ p, p ≠ [] → p ≠ above ++ [name] →
      Tree.kind ((above ++ [name], node) :: tree1) p = tree1.kind p := by
    intro p hp hother
    rw [Tree.kind_cons hp, if_neg hother.symm]
  have hlonger : ∀ q, q ≠ [] → q <+: above → above ++ [name] ≠ [] ++ q := by
    intro q _ hpre heq
    have hlength := hpre.length_le
    rw [nil_append] at heq
    rw [← heq, length_append] at hlength
    exact absurd hlength (Nat.not_succ_le_self _)
  refine { there := ?_, above := ?_, other := ?_, fresh := .inl ?_, before := ?_ }
  · rw [Tree.kind_cons hne, if_pos rfl]
  · intro p hp hpre hother
    rw [hkept p hp hother]
    exact h.there p hp (prefix_of_prefix_concat hpre hother)
  · intro p hp
    have hroot : p ≠ [] := fun hnil => hp (hnil ▸ nil_prefix)
    rw [hkept p hroot fun heq => hp (heq ▸ prefix_refl _)]
    exact h.other p fun _ _ hpre heq => hp (heq ▸ hpre.trans (prefix_append _ _))
  · rw [← h.other _ hlonger, Tree.kind, hfree]
    rfl
  · intro p hp hpre hother
    exact h.before p hp (prefix_of_prefix_concat hpre hother)

/-! ### Paths with normal components only -/

theorem map_normal_filterMap (h : parts.all (fun part => (normalName part).isSome) = true) :
    (parts.filterMap normalName).map Component.normal = parts := by
  induction parts with
  | nil => rfl
  | cons part parts ih =>
    rw [all_cons, Bool.and_eq_true] at h
    cases part with
    | normal name => exact congrArg (Component.normal name :: ·) (ih h.2)
    | rootDir | curDir | parentDir => exact absurd h.1 (by decide)

theorem ensureDirectoryPath_spec (h : ensureDirectoryPath tree path parts = .ok tree') :
    Ensured tree tree' [] (parts.filterMap normalName) := by
  obtain ⟨-, hdirs⟩ := check_bind_eq_ok.1 h
  exact ensured_of_ensureDirectories hdirs

theorem createNode_spec (h : createNode tree path node = .ok tree') :
    names path ≠ [] ∧ Extends tree tree' (names path) node.kind := by
  obtain ⟨tree1, hdirs, h⟩ := bind_eq_ok.1 h
  obtain ⟨name, hname, h⟩ := bind_eq_ok.1 h
  obtain ⟨hfree, h⟩ := check_bind_eq_ok.1 h
  cases h
  rw [ensureThat_eq_ok] at hfree
  -- The last component is the name, so the names of the path end with it.
  obtain ⟨part, hpart, hnormal⟩ := Option.bind_eq_some_iff.1 (okOr_eq_ok.1 hname)
  have hnames : names path = (components path).dropLast.filterMap normalName ++ [name] := by
    rw [names]
    conv_lhs => rw [← dropLast_append_getLast? part hpart]
    rw [filterMap_append]
    simp [hnormal]
  refine ⟨by simp [hnames], ?_⟩
  rw [hnames]
  exact extends_of_create (ensureDirectoryPath_spec hdirs) hfree

/-! ### A tree with the entries of a manifest -/

/-- A tree has these entries, and the directories above them. -/
def Shape (tree : Tree) (done : List ManifestEntry) : Prop :=
  ∀ p, p ≠ [] → ∀ kind, tree.kind p = some kind ↔
    (∃ entry ∈ done, entry.names = p ∧ entry.kind = kind) ∨
      kind = .directory ∧ ∃ entry ∈ done, p <+: entry.names ∧ p ≠ entry.names

theorem shape_nil : Shape [] [] := by
  intro p hp kind
  simp [Tree.kind, Tree.node, Table.lookup, hp]

theorem Extends.kind_of_kind {full : List Name} {kind kind' : Kind Name}
    (h : Extends tree tree' full kind) (hp : p ≠ []) (hkind : tree.kind p = some kind') :
    tree'.kind p = some kind' := by
  by_cases hfull : p = full
  · subst hfull
    rcases h.fresh with hnone | hsame
    · exact nomatch hnone.symm.trans hkind
    · rw [h.there, ← hsame, hkind]
  · by_cases hpre : p <+: full
    · rcases h.before p hp hpre hfull with hnone | hdir
      · exact nomatch hnone.symm.trans hkind
      · rw [h.above p hp hpre hfull, ← hdir, hkind]
    · rw [h.other p hpre, hkind]

theorem Shape.cons (h : Shape tree done) (hextends : Extends tree tree' entry.names entry.kind) :
    Shape tree' (entry :: done) := by
  intro p hp kind
  constructor
  · intro hkind
    by_cases hfull : p = entry.names
    · subst hfull
      exact .inl ⟨entry, mem_cons_self, rfl,
        Option.some.inj (hextends.there.symm.trans hkind)⟩
    · by_cases hpre : p <+: entry.names
      · refine .inr ⟨?_, entry, mem_cons_self, hpre, hfull⟩
        exact Option.some.inj (hkind.symm.trans (hextends.above p hp hpre hfull))
      · rw [hextends.other p hpre] at hkind
        rcases (h p hp kind).1 hkind with ⟨e, he, hrest⟩ | ⟨hdir, e, he, hrest⟩
        · exact .inl ⟨e, mem_cons_of_mem _ he, hrest⟩
        · exact .inr ⟨hdir, e, mem_cons_of_mem _ he, hrest⟩
  · rintro (⟨e, he, hnames, hkind⟩ | ⟨rfl, e, he, hpre, hne⟩)
    · rcases mem_cons.1 he with rfl | he
      · rw [← hnames, ← hkind]
        exact hextends.there
      · exact hextends.kind_of_kind hp ((h p hp kind).2 (.inl ⟨e, he, hnames, hkind⟩))
    · rcases mem_cons.1 he with rfl | he
      · exact hextends.above p hp hpre hne
      · exact hextends.kind_of_kind hp ((h p hp .directory).2 (.inr ⟨rfl, e, he, hpre, hne⟩))

def ManifestEntry.isSymlink : ManifestEntry → Bool
  | .symlink .. => true
  | _ => false

/-- A pass does something with the entries of its kind, and nothing with the others. -/
theorem extractEntry_spec {data : List UInt8} (hnames : entry.names ≠ [])
    (h : extractEntry symlinksOnly tree data entry = .ok tree') :
    if entry.isSymlink = symlinksOnly then Extends tree tree' entry.names entry.kind
    else tree' = tree := by
  cases symlinksOnly with
  | false =>
    cases entry with
    | symlink path target =>
      cases h
      rfl
    | directory path => exact extends_of_ensured hnames (ensureDirectoryPath_spec h)
    | file path size sha256 =>
      obtain ⟨tree1, hcreate, h⟩ := bind_eq_ok.1 h
      obtain ⟨-, h⟩ := check_bind_eq_ok.1 h
      cases h
      exact (createNode_spec hcreate).2
  | true =>
    cases entry with
    | symlink path target => exact (createNode_spec h).2
    | directory path =>
      cases h
      rfl
    | file path size sha256 =>
      cases h
      rfl

/-- After a pass the tree has the entries of the pass as well. -/
theorem extractPass_spec {archive : List ArchiveEntry}
    (hnames : ∀ entry ∈ manifest.files, entry.names ≠ [])
    (h : extractPass manifest symlinksOnly archive tree = .ok tree') (hshape : Shape tree done) :
    ∃ done', Shape tree' done' ∧ ∀ entry, entry ∈ done' ↔ entry ∈ done ∨
      entry.isSymlink = symlinksOnly ∧
        ∃ part ∈ archive, manifest.files.find? (·.path = part.path) = some entry := by
  induction archive generalizing tree done with
  | nil =>
    cases h
    exact ⟨done, hshape, by simp⟩
  | cons part archive ih =>
    obtain ⟨expected, hexpected, h⟩ := bind_eq_ok.1 h
    obtain ⟨tree1, hentry, hrest⟩ := bind_eq_ok.1 h
    have hfound := okOr_eq_ok.1 hexpected
    have hspec := extractEntry_spec (hnames expected (mem_of_find?_eq_some hfound)) hentry
    by_cases hkind : expected.isSymlink = symlinksOnly
    · rw [if_pos hkind] at hspec
      obtain ⟨done', hshape', hdone⟩ := ih hrest (hshape.cons hspec)
      refine ⟨done', hshape', fun entry => ?_⟩
      rw [hdone, mem_cons, exists_mem_cons_iff, hfound]
      constructor
      · rintro ((rfl | hdone) | ⟨hlink, hlater⟩)
        · exact .inr ⟨hkind, .inl rfl⟩
        · exact .inl hdone
        · exact .inr ⟨hlink, .inr hlater⟩
      · rintro (hdone | ⟨hlink, hfirst | hlater⟩)
        · exact .inl (.inr hdone)
        · exact .inl (.inl (Option.some.inj hfirst).symm)
        · exact .inr ⟨hlink, hlater⟩
    · rw [if_neg hkind] at hspec
      subst hspec
      obtain ⟨done', hshape', hdone⟩ := ih hrest hshape
      refine ⟨done', hshape', fun entry => ?_⟩
      rw [hdone, exists_mem_cons_iff, hfound]
      constructor
      · rintro (hdone | ⟨hlink, hlater⟩)
        · exact .inl hdone
        · exact .inr ⟨hlink, .inr hlater⟩
      · rintro (hdone | ⟨hlink, hfirst | hlater⟩)
        · exact .inl hdone
        · exact absurd (Option.some.inj hfirst ▸ hlink) hkind
        · exact .inr ⟨hlink, hlater⟩

/-! ### Accepted manifests -/

theorem textBefore_irrefl (text : List Char) : textBefore text text = false := by
  induction text with
  | nil => rfl
  | cons c cs ih => simp [textBefore, ih]

theorem textBefore_trans {a b c : List Char} (hab : textBefore a b = true)
    (hbc : textBefore b c = true) : textBefore a c = true := by
  induction a generalizing b c with
  | nil =>
    cases c with
    | nil => cases b <;> cases hbc
    | cons => rfl
  | cons x a ih =>
    cases b with
    | nil => cases hab
    | cons y b =>
      cases c with
      | nil => cases hbc
      | cons z c =>
        simp only [textBefore, Bool.or_eq_true, Bool.and_eq_true, decide_eq_true_eq]
          at hab hbc ⊢
        rcases hab with hxy | ⟨rfl, hab⟩
        · rcases hbc with hyz | ⟨rfl, -⟩
          · exact .inl (Nat.lt_trans hxy hyz)
          · exact .inl hxy
        · exact hbc.imp_right fun ⟨heq, hbc⟩ => ⟨heq, ih hab hbc⟩

/-- What `validateManifest` says about the entries of a manifest. -/
structure Accepted (files : List ManifestEntry) : Prop where
  paths : ∀ entry ∈ files, validateRelativePath entry.path = .ok ()
  links : ∀ path target, .symlink path target ∈ files → validateLink path target = .ok ()
  sorted : files.Pairwise (textBefore ·.path ·.path)

theorem validateFile_symlink {later : List ManifestEntry} {target : List Char}
    (h : validateFile expanded later (.symlink path target) = .ok expanded') :
    validateLink path target = .ok () :=
  (check_bind_eq_ok.1 h).1

theorem accepted_of_validateFiles {previous : Option (List Char)}
    (h : validateFiles previous expanded files = .ok expanded') :
    Accepted files ∧ ∀ before ∈ previous, ∀ entry ∈ files, textBefore before entry.path = true := by
  induction files generalizing previous expanded with
  | nil => exact ⟨⟨nofun, nofun, .nil⟩, fun _ _ => nofun⟩
  | cons entry later ih =>
    obtain ⟨hpath, hrest⟩ := check_bind_eq_ok.1 h
    obtain ⟨hafter, hrest⟩ := check_bind_eq_ok.1 hrest
    obtain ⟨expanded1, hfile, hrest⟩ := bind_eq_ok.1 hrest
    obtain ⟨haccepted, hsorted⟩ := ih hrest
    have hfirst : ∀ e ∈ later, textBefore entry.path e.path = true := hsorted entry.path rfl
    rw [ensureThat_eq_ok, Option.all_eq_true] at hafter
    refine ⟨?_, ?_⟩
    · refine
        { paths := forall_mem_cons.2 ⟨hpath, haccepted.paths⟩
          links := fun path target hmem => ?_
          sorted := pairwise_cons.2 ⟨hfirst, haccepted.sorted⟩ }
      rcases mem_cons.1 hmem with rfl | hmem
      · exact validateFile_symlink hfile
      · exact haccepted.links path target hmem
    · intro before hbefore e he
      rcases mem_cons.1 he with rfl | he
      · exact hafter before hbefore
      · exact textBefore_trans (hafter before hbefore) (hfirst e he)

theorem accepted_of_validateManifest (h : validateManifest manifest = .ok ()) :
    Accepted manifest.files := by
  obtain ⟨-, hrest⟩ := check_bind_eq_ok.1 h
  obtain ⟨-, hrest⟩ := check_bind_eq_ok.1 hrest
  obtain ⟨expanded, hfiles, -⟩ := bind_eq_ok.1 hrest
  exact (accepted_of_validateFiles hfiles).1

theorem Accepted.names_spec (h : Accepted files) (hentry : entry ∈ files) :
    entry.names ≠ [] ∧ entry.names.length = (components entry.path).length := by
  have hpath := h.paths entry hentry
  rw [validateRelativePath, ensureThat_eq_ok] at hpath
  obtain ⟨hne, -, -, hnormal, hnormalized⟩ := hpath
  constructor
  · intro hnil
    rw [normalized, show names entry.path = [] from hnil] at hnormalized
    exact hne hnormalized.symm
  · have hlength := congrArg List.length (map_normal_filterMap hnormal)
    rwa [length_map] at hlength

theorem Accepted.find (h : Accepted files) (hentry : entry ∈ files) :
    files.find? (·.path = entry.path) = some entry := by
  have hkeys : (files.map ManifestEntry.path).Nodup := by
    refine pairwise_map.2 (h.sorted.imp fun {e e'} hbefore hsame => ?_)
    rw [hsame, textBefore_irrefl] at hbefore
    cases hbefore
  exact (Table.lookup_eq_some hkeys).2 ⟨hentry, rfl⟩

/-! ### The extracted tree -/

section Extracted

variable {archive : List ArchiveEntry} {manifest : BundleManifest} {tree : Tree}

theorem shape_extractValidated (haccepted : Accepted manifest.files)
    (hcomplete : Complete archive manifest)
    (hextract : extractValidated archive manifest = .ok tree) : Shape tree manifest.files := by
  have hnames : ∀ entry ∈ manifest.files, entry.names ≠ [] :=
    fun entry hentry => (haccepted.names_spec hentry).1
  obtain ⟨tree1, hfirst, hsecond⟩ := bind_eq_ok.1 hextract
  obtain ⟨done1, hshape1, hdone1⟩ := extractPass_spec hnames hfirst shape_nil
  obtain ⟨done, hshape, hdone⟩ := extractPass_spec hnames hsecond hshape1
  -- The two passes together have seen every entry of the manifest.
  have hall : ∀ entry, entry ∈ done ↔ entry ∈ manifest.files := by
    intro entry
    rw [hdone, hdone1]
    constructor
    · rintro ((hnil | ⟨-, part, -, hfound⟩) | ⟨-, part, -, hfound⟩)
      · exact absurd hnil not_mem_nil
      · exact mem_of_find?_eq_some hfound
      · exact mem_of_find?_eq_some hfound
    · intro hentry
      obtain ⟨part, hpart, hpath⟩ := hcomplete entry hentry
      have hfound : manifest.files.find? (·.path = part.path) = some entry := by
        rw [hpath]
        exact haccepted.find hentry
      cases hlink : entry.isSymlink with
      | false => exact .inl (.inr ⟨rfl, part, hpart, hfound⟩)
      | true => exact .inr ⟨rfl, part, hpart, hfound⟩
  intro p hp kind
  simp only [hshape p hp kind, hall]

/-- The tree is what the manifest says. -/
theorem kind_extractValidated (haccepted : Accepted manifest.files)
    (hcomplete : Complete archive manifest)
    (hextract : extractValidated archive manifest = .ok tree) : tree.kind = manifest.kind := by
  have hshape := shape_extractValidated haccepted hcomplete hextract
  funext p
  by_cases hp : p = []
  · subst hp
    rfl
  rw [BundleManifest.kind, if_neg hp]
  cases hfind : manifest.files.find? (·.names = p) with
  | some entry =>
    have hnames : entry.names = p := by simpa using find?_some hfind
    exact (hshape p hp _).2 (.inl ⟨entry, mem_of_find?_eq_some hfind, hnames, rfl⟩)
  | none =>
    have hlisted : ∀ entry ∈ manifest.files, entry.names ≠ p := by simpa using hfind
    dsimp only
    split_ifs with hbelow
    · obtain ⟨entry, hentry, hpre⟩ := any_eq_true.1 hbelow
      refine (hshape p hp _).2 (.inr ⟨rfl, entry, hentry, isPrefixOf_iff_prefix.1 hpre, ?_⟩)
      exact (hlisted entry hentry).symm
    · refine Option.eq_none_iff_forall_not_mem.2 fun kind hkind => ?_
      rcases (hshape p hp kind).1 hkind with
        ⟨entry, hentry, hnames, -⟩ | ⟨-, entry, hentry, hpre, -⟩
      · exact hlisted entry hentry hnames
      · exact hbelow (any_eq_true.2 ⟨entry, hentry, isPrefixOf_iff_prefix.2 hpre⟩)

theorem link_iff (haccepted : Accepted manifest.files) (hshape : Shape tree manifest.files)
    {dir : List Name} {parts : List (Component Name)} :
    Link tree.kind dir parts ↔ ∃ path target, .symlink path target ∈ manifest.files ∧
      dir = (names path).dropLast ∧ parts = components target := by
  constructor
  · rintro ⟨name, hkind⟩
    have hne : dir ++ [name] ≠ [] := by simp
    rcases (hshape _ hne _).1 hkind with ⟨entry, hentry, hnames, hlink⟩ | ⟨hdir, -⟩
    · cases entry with
      | symlink path target =>
        refine ⟨path, target, hentry, ?_, (Kind.symlink.inj hlink).symm⟩
        rw [show names path = dir ++ [name] from hnames, dropLast_concat]
      | file path size sha256 => cases hlink
      | directory path => cases hlink
    · cases hdir
  · rintro ⟨path, target, hentry, rfl, rfl⟩
    have hne : names path ≠ [] := (haccepted.names_spec hentry).1
    refine ⟨(names path).getLast hne, ?_⟩
    rw [dropLast_append_getLast]
    exact (hshape _ hne _).2 (.inl ⟨_, hentry, rfl, rfl⟩)

/-- **The links of a bundle.** Resolving the links of an extracted bundle never leaves the tree, if
and only if no target of a link has a `..` after a part of it that goes through another link and
ends at the root. -/
theorem extracted_stays_iff (hmanifest : validateManifest manifest = .ok ())
    (hcomplete : Complete archive manifest)
    (hextract : extractValidated archive manifest = .ok tree) :
    (∀ dir parts, Link tree.kind dir parts → Stays tree.kind dir parts) ↔
      ∀ path target, .symlink path target ∈ manifest.files →
        ¬Detours manifest.kind (names path).dropLast (components target) := by
  have haccepted := accepted_of_validateManifest hmanifest
  have hshape := shape_extractValidated haccepted hcomplete hextract
  have hcount : ∀ dir parts, Link tree.kind dir parts → (depth dir.length parts).isSome := by
    intro dir parts hlink
    obtain ⟨path, target, hentry, rfl, rfl⟩ := (link_iff haccepted hshape).1 hlink
    have hvalid := haccepted.links path target hentry
    have hlength : (names path).length = (components path).length := (haccepted.names_spec hentry).2
    rw [validateLink, ensureThat_eq_ok, length_dropLast, ← hlength] at hvalid
    rw [length_dropLast]
    exact hvalid.2.2
  rw [contained_iff hcount, ← kind_extractValidated haccepted hcomplete hextract]
  constructor
  · intro h path target hentry
    exact h _ _ ((link_iff haccepted hshape).2 ⟨path, target, hentry, rfl, rfl⟩)
  · intro h dir parts hlink
    obtain ⟨path, target, hentry, rfl, rfl⟩ := (link_iff haccepted hshape).1 hlink
    exact h path target hentry

end Extracted

/-! ### A link that leads out of the tree -/

/-- A directory `a` with a link `a/l` to the root, and a link `x`. -/
def linkedManifest (target : String) : BundleManifest where
  version := 1
  platform := bundlePlatform
  files :=
    [.directory "a".toList, .symlink "a/l".toList "..".toList, .symlink "x".toList target.toList]

def linkedArchive : List ArchiveEntry :=
  [⟨"a".toList, []⟩, ⟨"a/l".toList, []⟩, ⟨"x".toList, []⟩]

/-- The tree of such a manifest. -/
def linkedTree (target : String) : Tree :=
  [(["x".toList], .symlink target.toList), (["a".toList, "l".toList], .symlink "..".toList),
    (["a".toList], .directory)]

theorem complete_linked (target : String) : Complete linkedArchive (linkedManifest target) := by
  intro entry hentry
  simp only [linkedManifest, mem_cons, not_mem_nil, or_false] at hentry
  rcases hentry with rfl | rfl | rfl <;> simp [linkedArchive, ManifestEntry.path]

/-- The target `a/l/..` is two names deep before its `..`, but `a/l` is the root. -/
theorem bundle_escapes :
    validateManifest (linkedManifest "a/l/..") = .ok () ∧
      Complete linkedArchive (linkedManifest "a/l/..") ∧
      extractValidated linkedArchive (linkedManifest "a/l/..") = .ok (linkedTree "a/l/..") ∧
      Link (linkedTree "a/l/..").kind [] (components "a/l/..".toList) ∧
      ¬Stays (linkedTree "a/l/..").kind [] (components "a/l/..".toList) := by
  refine ⟨by decide +kernel, complete_linked _, by decide +kernel,
    ⟨"x".toList, by decide +kernel⟩, ?_⟩
  intro hstays
  have hrun : run (linkedTree "a/l/..").kind 3 (follow [] (components "a/l/..".toList)) =
      some ⟨[], [.parentDir], true⟩ := by
    decide +kernel
  exact hstays _ (walks_of_run hrun) (.inr ⟨rfl, rfl⟩)

/-- The same tree with the target `a/l` has no link that leads out of it. -/
theorem bundle_stays :
    validateManifest (linkedManifest "a/l") = .ok () ∧
      extractValidated linkedArchive (linkedManifest "a/l") = .ok (linkedTree "a/l") ∧
      ∀ dir parts, Link (linkedTree "a/l").kind dir parts →
        Stays (linkedTree "a/l").kind dir parts := by
  have hvalid : validateManifest (linkedManifest "a/l") = .ok () := by decide +kernel
  have hextract : extractValidated linkedArchive (linkedManifest "a/l") =
      .ok (linkedTree "a/l") := by
    decide +kernel
  refine ⟨hvalid, hextract, (extracted_stays_iff hvalid (complete_linked _) hextract).2 ?_⟩
  rintro path target hentry ⟨part, rest, hsplit, hwalk⟩
  simp only [linkedManifest, mem_cons, not_mem_nil, or_false, reduceCtorEq, false_or,
    ManifestEntry.symlink.injEq] at hentry
  rcases hentry with ⟨rfl, rfl⟩ | ⟨rfl, rfl⟩
  · -- The only `..` is the first component, and the link is in `a`.
    rw [show components "..".toList = [.parentDir] by decide +kernel] at hsplit
    obtain rfl : part = [] := by
      cases part with
      | nil => rfl
      | cons first part => simp at hsplit
    rw [show names "a/l".toList = ["a".toList, "l".toList] by decide +kernel] at hwalk
    rcases hwalk.cases_head with heq | ⟨next, hstep, -⟩
    · cases heq
    · cases hstep
  · -- This target has no `..` at all.
    have hmem : .parentDir ∈ components "a/l".toList := by
      rw [hsplit]
      exact mem_append_right _ mem_cons_self
    exact absurd hmem (by decide +kernel)

/-! ### What a bundle has -/

/-- **An extracted bundle is what its manifest lists.** Whatever the order of the archive, the tree
of an accepted manifest has its entries and the directories above them, and nothing else. -/
theorem extracted_as_listed {archive : List ArchiveEntry} {manifest : BundleManifest} {tree : Tree}
    (hmanifest : validateManifest manifest = .ok ()) (hcomplete : Complete archive manifest)
    (hextract : extractValidated archive manifest = .ok tree) : tree.kind = manifest.kind :=
  kind_extractValidated (accepted_of_validateManifest hmanifest) hcomplete hextract

theorem linked_as_listed : (linkedTree "a/l").kind = (linkedManifest "a/l").kind :=
  extracted_as_listed (by decide +kernel) (complete_linked _) (by decide +kernel)

end Gascan.Bundle
