import Mathlib.Data.List.Infix
import SqlMapping.Files.Tree
import SqlMapping.Proofs.Result

/-!
# What is found in a tree

A node that is put into a directory is found at its place (`find_put_self`), the directories on the
way stay directories (`isDirectoryAt_put`), and what is neither above nor below that place is found
as before (`find_put_of_apart`). A path from the root without a name that leads up again leads to
what its names find (`locate_absolute`).
-/

namespace SqlMapping.Files

/-- What stands first under a name is found under it. -/
lemma lookup_entry_cons (name key : String) (node : Node) (entries : List (String × Node)) :
    ((name, node) :: entries).lookup key =
      if key = name then some node else entries.lookup key := by
  rw [List.lookup_cons]
  by_cases h : key = name
  · rw [if_pos h, beq_iff_eq.mpr h]
  · rw [if_neg h, beq_eq_false_iff_ne.mpr h]

/-- The entry of a name is the one that is put under it; the others stay. -/
lemma lookup_putEntry (name key : String) (node : Node) (entries : List (String × Node)) :
    (putEntry name node entries).lookup key =
      if key = name then some node else entries.lookup key := by
  induction entries with
  | nil => exact lookup_entry_cons name key node []
  | cons entry entries ih =>
    obtain ⟨other, old⟩ := entry
    rw [putEntry]
    split
    · next hname =>
      subst hname
      rw [lookup_entry_cons, lookup_entry_cons]
      split_ifs <;> rfl
    · next hname =>
      rw [lookup_entry_cons, lookup_entry_cons, ih]
      by_cases h : key = other
      · have hkey : key ≠ name := fun heq => hname (h.symm.trans heq)
        rw [if_pos h, if_neg hkey, if_pos h]
      · rw [if_neg h, if_neg h]

namespace Node

/-- Names lead to a directory. -/
def IsDirectoryAt (root : Node) (place : List String) : Prop :=
  ∃ entries, root.find place = .ok (.directory entries)

variable {root new : Node} {place other : List String} {name : String}

/-- Names are followed one after the other. -/
lemma find_append (root : Node) (place rest : List String) :
    root.find (place ++ rest) = root.find place >>= fun node => node.find rest := by
  induction place generalizing root with
  | nil => rfl
  | cons name place ih =>
    cases root with
    | file data => rfl
    | directory entries =>
      rw [List.cons_append, find, find]
      cases entries.lookup name with
      | none => rfl
      | some node => exact ih node

/-- What is found at a place decides whether a directory stands there. -/
lemma isDirectoryAt_congr {before after : Node} (h : after.find place = before.find other) :
    after.IsDirectoryAt place ↔ before.IsDirectoryAt other := by
  rw [IsDirectoryAt, IsDirectoryAt, h]

/-- Everything on the way to a directory is a directory. -/
lemma IsDirectoryAt.above (h : root.IsDirectoryAt place) (hother : other <+: place) :
    root.IsDirectoryAt other := by
  obtain ⟨rest, rfl⟩ := hother
  obtain ⟨entries, hfind⟩ := h
  rw [find_append] at hfind
  obtain ⟨node, hnode, hrest⟩ := bind_eq_ok.mp hfind
  cases node with
  | directory others => exact ⟨others, hnode⟩
  | file data =>
    cases rest with
    | nil => exact absurd (Except.ok.inj hrest) (by simp)
    | cons name rest => exact absurd hrest (by simp [find])

/-- The way to a directory below another one: the other one, and the entry of the first name. -/
lemma exists_entry (h : root.IsDirectoryAt (name :: place)) :
    ∃ entries node, root = .directory entries ∧ entries.lookup name = some node ∧
      node.IsDirectoryAt place := by
  obtain ⟨others, hfind⟩ := h
  cases root with
  | file data => exact absurd hfind (by simp [find])
  | directory entries =>
    rw [find] at hfind
    cases hlookup : entries.lookup name with
    | none => exact absurd hfind (by simp [hlookup])
    | some node =>
      rw [hlookup] at hfind
      exact ⟨entries, node, rfl, hlookup, others, hfind⟩

/-- A node that is put into a directory is found there. -/
theorem find_put_self (h : root.IsDirectoryAt place) :
    (put new (place ++ [name]) root).find (place ++ [name]) = .ok new := by
  induction place generalizing root with
  | nil =>
    obtain ⟨entries, hroot⟩ := h
    obtain rfl := Except.ok.inj hroot
    rw [List.nil_append, put, find, lookup_putEntry, if_pos rfl]
    rfl
  | cons first place ih =>
    obtain ⟨entries, node, rfl, hlookup, hnode⟩ := exists_entry h
    rw [List.cons_append, put, find, lookup_putEntry, if_pos rfl, hlookup]
    exact ih hnode

/-- The directories on the way to what is put are directories. -/
theorem isDirectoryAt_put (h : root.IsDirectoryAt place) (hother : other <+: place) :
    (put new (place ++ [name]) root).IsDirectoryAt other := by
  induction other generalizing root place with
  | nil =>
    obtain ⟨entries, hroot⟩ := h.above List.nil_prefix
    obtain rfl := Except.ok.inj hroot
    cases place with
    | nil => exact ⟨_, rfl⟩
    | cons first place => exact ⟨_, rfl⟩
  | cons first other ih =>
    obtain ⟨rest, rfl⟩ := hother
    obtain ⟨entries, node, rfl, hlookup, hnode⟩ := exists_entry h
    obtain ⟨others, hothers⟩ := ih hnode (List.prefix_append other rest)
    refine ⟨others, ?_⟩
    rw [List.cons_append, List.cons_append, put, find, lookup_putEntry, if_pos rfl, hlookup]
    exact hothers

/-- What is neither above nor below a place is found as before after something is put there. -/
theorem find_put_of_apart (habove : ¬other <+: place) (hbelow : ¬place <+: other) :
    (put new place root).find other = root.find other := by
  induction place generalizing root other with
  | nil => exact absurd List.nil_prefix hbelow
  | cons first place ih =>
    cases root with
    | file data => rfl
    | directory entries =>
      cases other with
      | nil => exact absurd List.nil_prefix habove
      | cons next other =>
        rw [put, find, find, lookup_putEntry]
        by_cases hsame : next = first
        · subst hsame
          have habove' : ¬other <+: place := fun h => habove (List.cons_prefix_cons.mpr ⟨rfl, h⟩)
          have hbelow' : ¬place <+: other := fun h => hbelow (List.cons_prefix_cons.mpr ⟨rfl, h⟩)
          rw [if_pos rfl]
          cases entries.lookup next with
          | some node => exact ih habove' hbelow'
          | none =>
            -- a directory that is made on the way is empty but for what is put into it
            refine (@ih (.directory []) other habove' hbelow').trans ?_
            cases other with
            | nil => exact absurd List.nil_prefix habove'
            | cons last other => rfl
        · rw [if_neg hsame]

/-- What a name that is missing in a directory leads to. -/
lemma find_of_missing (h : root.IsDirectoryAt place)
    (hmissing : ∀ node, root.find (place ++ [name]) ≠ .ok node) (rest : List String) :
    root.find (place ++ name :: rest) = .error .missing := by
  obtain ⟨entries, hentries⟩ := h
  rw [find_append, hentries] at hmissing ⊢
  cases hlookup : entries.lookup name with
  | some node => exact absurd (by simp [Bind.bind, Except.bind, find, hlookup]) (hmissing node)
  | none => simp [Bind.bind, Except.bind, find, hlookup]

/-- A directory that is made where nothing stood is empty: all other places are as before, those
inside it too. -/
theorem find_put_directory (h : root.IsDirectoryAt place)
    (hmissing : ∀ node, root.find (place ++ [name]) ≠ .ok node)
    (hother : ¬other <+: place ++ [name]) :
    (put (.directory []) (place ++ [name]) root).find other = root.find other := by
  by_cases hinside : place ++ [name] <+: other
  · obtain ⟨rest, rfl⟩ := hinside
    cases rest with
    | nil => exact absurd (by rw [List.append_nil]) hother
    | cons next rest =>
      have hbefore := find_of_missing h hmissing (next :: rest)
      have hmade : (put (.directory []) (place ++ [name]) root).find (place ++ [name]) =
          .ok (.directory []) := find_put_self h
      rw [find_append, hmade, List.append_assoc, List.singleton_append, hbefore]
      rfl
  · exact find_put_of_apart hother hinside

end Node

namespace FileSystem

open Node

variable {fs : FileSystem} {names place : List String}

/-- Names that do not lead up are followed to what they find. -/
lemma follow_eq (hup : FilePath.up ∉ names) {node : Node} (hplace : fs.root.find place = .ok node) :
    fs.follow place names = (fs.root.find (place ++ names)).map fun _ => place ++ names := by
  induction names generalizing place node with
  | nil =>
    rw [follow, List.append_nil, hplace]
    rfl
  | cons name names ih =>
    have hname : name ≠ FilePath.up := fun h => hup (h ▸ List.mem_cons_self)
    have hnames : FilePath.up ∉ names := fun h => hup (List.mem_cons_of_mem name h)
    have hfind : fs.root.find (place ++ name :: names) = node.find (name :: names) := by
      rw [find_append, hplace]
      rfl
    rw [follow, hplace, hfind]
    cases node with
    | file data => rfl
    | directory entries =>
      rw [find]
      cases hlookup : entries.lookup name with
      | none =>
        simp only [hlookup, if_neg hname]
        rfl
      | some entry =>
        have hentry : fs.root.find (place ++ [name]) = .ok entry := by
          rw [find_append, hplace]
          show find [name] (.directory entries) = _
          rw [find, hlookup]
          rfl
        have hstep := ih hnames hentry
        rw [List.append_assoc, List.singleton_append, hfind, find, hlookup] at hstep
        simp only [if_neg hname, hlookup, Option.isSome_some, if_true]
        exact hstep

/-- A path from the root that does not lead up leads to its names. -/
lemma locate_absolute (hup : FilePath.up ∉ names) :
    fs.locate ⟨true, names⟩ = (fs.root.find names).map fun _ => names :=
  @follow_eq fs names [] hup fs.root rfl

/-- A path from the root that does not lead up leads to a directory exactly when its names do. -/
lemma isDirectory_absolute (hup : FilePath.up ∉ names) :
    fs.isDirectory ⟨true, names⟩ = true ↔ fs.root.IsDirectoryAt names := by
  have hfind : fs.find? ⟨true, names⟩ = (fs.root.find names).toOption := by
    rw [find?, locate_absolute hup]
    cases hnode : fs.root.find names with
    | error e => rfl
    | ok node =>
      have hfound : (((.ok node : Except Obstacle Node).map fun _ => names).bind fun place =>
          fs.root.find place) = .ok node := hnode
      rw [hfound]
      rfl
  rw [isDirectory, hfind, IsDirectoryAt]
  cases fs.root.find names with
  | error e => simp [Except.toOption]
  | ok node => cases node <;> simp [Except.toOption, Node.isDirectory]

end FileSystem

end SqlMapping.Files
