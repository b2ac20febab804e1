import SqlMapping.Files.Write
import SqlMapping.Proofs.Files.Tree
import SqlMapping.Proofs.Text.CodePoint

/-!
# What writing changes

A text that is written to a file changes nothing but the directories on the way, which are made, and
the place of the file (`storesTo_writeFile`); several texts are written one after the other
(`storesTo_ofFiles`). A directory at the place of a file is the exception: the file is moved into
it, so the place does not come to hold the text. What is written is exactly what was to be written
if, and only if, no directory has the place of a file (`StoresTo.holdsExactly_iff`). Where the
writing ends without a failure of the system, a half of a surrogate pair stands in one of the texts
(`exists_isWhole_eq_false_of_noBytes`).
-/

namespace SqlMapping.Files

open SqlMapping.Text

variable {fs made after : FileSystem} {around names place : List String} {name mark : String}

/-! ## Plain names -/

/-- A name that is a path of its own: it is not cut, dropped or followed upwards. -/
structure IsPlainName (name : String) : Prop where
  /-- It has no slash. -/
  slash : '/' ∉ name.toList
  /-- It is not empty. -/
  ne_empty : name ≠ ""
  /-- It does not name the directory itself. -/
  ne_here : name ≠ "."
  /-- It does not lead up. -/
  ne_up : name ≠ FilePath.up

/-- A plain name denotes the path of that name. -/
lemma IsPlainName.ofText (h : IsPlainName name) : FilePath.ofText name = ⟨false, [name]⟩ := by
  have habsolute : (name.toList.head? == some '/') = false := by
    rw [beq_eq_false_iff_ne]
    intro hhead
    exact h.slash (List.mem_of_mem_head? hhead)
  have hkept : [name].filter (fun name => name != "" && name != ".") = [name] := by
    simp [h.ne_empty, h.ne_here]
  rw [FilePath.ofText, habsolute, List.splitOn_eq_singleton h.slash, List.map_singleton,
    String.ofList_toList, hkept]

/-- The name under which a file is written aside does not lead up. -/
lemma FileSystem.asideName_ne_up (name mark : String) : asideName name mark ≠ FilePath.up := by
  intro heq
  have hlength := congrArg String.length heq
  rw [asideName, String.length_append] at hlength
  have hshort : FilePath.up.length < ".tmp".length := by decide
  omega

/-! ## Directories -/

namespace FileSystem

/-- The place of an entry of a directory is found below that directory. -/
lemma placeOf_eq_ok (hup : FilePath.up ∉ around ++ [name]) :
    fs.placeOf ⟨true, around ++ [name]⟩ = .ok place ↔
      fs.root.IsDirectoryAt around ∧ place = around ++ [name] := by
  rw [List.mem_append, List.mem_singleton, not_or] at hup
  obtain ⟨hup, hname⟩ := hup
  have hparent : (FilePath.mk true (around ++ [name])).parent = ⟨true, around⟩ := by
    rw [FilePath.parent, List.dropLast_concat]
  simp only [placeOf, List.getLast?_concat, hparent, locate_absolute hup, bind_eq_ok, map_eq_ok]
  constructor
  · rintro ⟨_, ⟨node, hnode, rfl⟩, hplace⟩
    rw [hnode] at hplace
    cases node with
    | file data => exact absurd hplace (by simp [throw, throwThe, MonadExceptOf.throw])
    | directory entries =>
      simp only [if_neg (Ne.symm hname)] at hplace
      exact ⟨⟨entries, hnode⟩, (Except.ok.inj hplace).symm⟩
  · rintro ⟨⟨entries, hentries⟩, rfl⟩
    refine ⟨around, ⟨_, hentries, rfl⟩, ?_⟩
    rw [hentries]
    simp only [if_neg (Ne.symm hname)]
    rfl

end FileSystem

/-- The directories on the way to names, and at these, are made, and nothing else is changed. -/
structure MakesWay (names : List String) (before after : FileSystem) : Prop where
  /-- The working directory is the same. -/
  directory : after.directory = before.directory
  /-- The names lead to a directory. -/
  isDirectoryAt : after.root.IsDirectoryAt names
  /-- The names that do not lead to one of these directories lead to what they led to. -/
  elsewhere : ∀ other, ¬other <+: names → after.root.find other = before.root.find other

namespace MakesWay

/-- Nothing has to be made for a directory that is there. -/
lemma refl (h : fs.root.IsDirectoryAt names) : MakesWay names fs fs :=
  ⟨rfl, h, fun _ _ => rfl⟩

/-- A way is made step by step. -/
lemma trans (h : MakesWay around fs made) (hnext : MakesWay (around ++ [name]) made after) :
    MakesWay (around ++ [name]) fs after where
  directory := hnext.directory.trans h.directory
  isDirectoryAt := hnext.isDirectoryAt
  elsewhere := by
    intro other hother
    have haround : ¬other <+: around :=
      fun hbegins => hother (hbegins.trans (List.prefix_append _ _))
    exact (hnext.elsewhere other hother).trans (h.elsewhere other haround)

end MakesWay

namespace FileSystem

/-- One directory that is made. -/
lemma makesWay_makeDirectory (hup : FilePath.up ∉ names)
    (h : fs.makeDirectory ⟨true, names⟩ = .ok made) : MakesWay names fs made := by
  rw [makeDirectory] at h
  rcases List.eq_nil_or_concat names with rfl | ⟨around, name, rfl⟩
  · -- the root is there, so it is not made
    exact absurd h (by simp [placeOf, start, Node.find, Pure.pure, Except.pure])
  · rw [List.concat_eq_append] at hup h ⊢
    cases hplace : fs.placeOf ⟨true, around ++ [name]⟩ with
    | error obstacle => exact absurd h (by simp [hplace])
    | ok place =>
      obtain ⟨haround, rfl⟩ := (placeOf_eq_ok hup).mp hplace
      cases hfind : fs.root.find (around ++ [name]) with
      | ok node => exact absurd h (by simp [hplace, hfind])
      | error obstacle =>
        cases hrefuses : fs.refuses .make ⟨true, around ++ [name]⟩ with
        | some fault => exact absurd h (by simp [hplace, hfind, hrefuses])
        | none =>
          simp only [hplace, hfind, hrefuses] at h
          obtain rfl := Except.ok.inj h
          have hmissing : ∀ node, fs.root.find (around ++ [name]) ≠ .ok node := by simp [hfind]
          exact ⟨rfl, ⟨[], Node.find_put_self haround⟩,
            fun other => Node.find_put_directory haround hmissing⟩

/-- A directory that is made unless it is there. -/
lemma makesWay_ensureDirectory (hup : FilePath.up ∉ names)
    (h : fs.ensureDirectory ⟨true, names⟩ = .ok made) : MakesWay names fs made := by
  rw [ensureDirectory] at h
  cases hmake : fs.makeDirectory ⟨true, names⟩ with
  | ok other =>
    rw [hmake] at h
    obtain rfl := Except.ok.inj h
    exact makesWay_makeDirectory hup hmake
  | error cause =>
    simp only [hmake] at h
    split at h
    · next hthere =>
      obtain rfl := Except.ok.inj h
      exact .refl ((isDirectory_absolute hup).mp ((Bool.and_eq_true _ _).mp hthere).2)
    · exact absurd h (by simp)

/-- Nothing has failed where there is a result. -/
lemma orFail_eq_ok {result : Except WriteFault FileSystem}
    (h : fs.orFail result = (made, .ok ())) : result = .ok made := by
  cases result with
  | ok other =>
    obtain rfl : other = made := congrArg Prod.fst h
    rfl
  | error fault => exact absurd (congrArg Prod.snd h) (by simp [orFail])

/-- A directory that is made with those around it. -/
theorem makesWay_ensureDirectories (hup : FilePath.up ∉ names)
    (h : fs.ensureDirectories true names.reverse = (made, .ok ())) : MakesWay names fs made := by
  induction names using List.reverseRecOn generalizing made with
  | nil => exact makesWay_ensureDirectory hup (orFail_eq_ok h)
  | append_singleton around name ih =>
    rw [List.reverse_append, List.reverse_singleton, List.singleton_append, ensureDirectories,
      List.reverse_cons, List.reverse_reverse] at h
    cases hfirst : fs.ensureDirectory ⟨true, around ++ [name]⟩ with
    | ok other =>
      simp only [hfirst] at h
      obtain rfl : other = made := congrArg Prod.fst h
      exact makesWay_ensureDirectory hup hfirst
    | error fault =>
      have haround : FilePath.up ∉ around := fun hmem => hup (List.mem_append_left _ hmem)
      simp only [hfirst] at h
      split_ifs at h
      · -- the directories around come first, then the one that is asked for
        cases hmiddle : fs.ensureDirectories true around.reverse with
        | mk middle result =>
          cases result with
          | error other => exact absurd (congrArg Prod.snd h) (by simp [hmiddle])
          | ok done =>
            simp only [hmiddle] at h
            exact (ih haround hmiddle).trans (makesWay_ensureDirectory hup (orFail_eq_ok h))
      · exact absurd (congrArg Prod.snd h) (by simp)

end FileSystem

/-! ## Files -/

/-- There is a file with the bytes of a text at a place. -/
def HoldsText (fs : FileSystem) (place : List String) (content : String) : Prop :=
  ∃ data, encode? content = some data ∧ fs.root.find place = .ok (.file data)

/-- What holds a text is no directory. -/
lemma HoldsText.not_isDirectoryAt {content : String} (h : HoldsText fs place content) :
    ¬fs.root.IsDirectoryAt place := by
  obtain ⟨data, -, hdata⟩ := h
  rintro ⟨entries, hentries⟩
  rw [hdata] at hentries
  exact absurd (Except.ok.inj hentries) (by simp)

/-- What storing texts under names in a directory changes. -/
structure StoresTo (around : List String) (files : List (String × String))
    (before after : FileSystem) : Prop where
  /-- The texts have bytes. -/
  whole : ∀ file ∈ files, isWhole file.2 = true
  /-- The working directory is the same. -/
  directory : after.directory = before.directory
  /-- The directory is there, unless nothing asks for it. -/
  isDirectoryAt : before.root.IsDirectoryAt around ∨ files ≠ [] → after.root.IsDirectoryAt around
  /-- Everything is as before, apart from the directories on the way and the places of the files. -/
  elsewhere : ∀ other, ¬other <+: around → (∀ file ∈ files, ¬around ++ [file.1] <+: other) →
    after.root.find other = before.root.find other
  /-- A directory that has the place of a file stays there. -/
  stays : ∀ file ∈ files, before.root.IsDirectoryAt (around ++ [file.1]) →
    after.root.IsDirectoryAt (around ++ [file.1])
  /-- Every other place of a file comes to hold its text. -/
  holds : ∀ file ∈ files, ¬before.root.IsDirectoryAt (around ++ [file.1]) →
    HoldsText after (around ++ [file.1]) file.2

/-- A place below a directory is not on the way to it. -/
lemma not_prefix_of_entry (around : List String) (name : String) :
    ¬around ++ [name] <+: around := by
  intro hbegins
  have hle := hbegins.length_le
  rw [List.length_append, List.length_singleton] at hle
  omega

/-- Entries of different names are not below each other. -/
lemma not_prefix_of_ne {name other : String} (h : name ≠ other) :
    ¬around ++ [name] <+: around ++ [other] := by
  intro hbegins
  rw [List.prefix_append_right_inj] at hbegins
  exact h (List.cons_prefix_cons.mp hbegins).1

/-- What is neither on the way to a directory nor below an entry is not on the way to the entry. -/
lemma not_prefix_concat {other : List String} (hway : ¬other <+: around)
    (hentry : ¬around ++ [name] <+: other) : ¬other <+: around ++ [name] := by
  intro hbegins
  rcases List.prefix_concat_iff.mp hbegins with rfl | hbegins
  · exact hentry (List.prefix_refl _)
  · exact hway hbegins

namespace FileSystem

/-- What is put at the place of an entry changes only that place. -/
lemma find_put_entry {node : Node} {other : List String} (hway : ¬other <+: around)
    (hentry : ¬around ++ [name] <+: other) :
    (fs.put (around ++ [name]) node).root.find other = fs.root.find other :=
  Node.find_put_of_apart (not_prefix_concat hway hentry) hentry

/-- A text that is put at the place of its file is stored there, unless a directory has the place. -/
lemma storesTo_put {content : String} {data : List UInt8} (hdata : encode? content = some data)
    (hway : MakesWay around fs made) (hfree : ¬fs.root.IsDirectoryAt (around ++ [name])) :
    StoresTo around [(name, content)] fs (made.put (around ++ [name]) (.file data)) where
  whole := by
    intro file hfile
    obtain rfl := List.mem_singleton.mp hfile
    exact isWhole_iff_encode.mpr ⟨data, hdata⟩
  directory := hway.directory
  isDirectoryAt _ := Node.isDirectoryAt_put hway.isDirectoryAt (List.prefix_refl _)
  elsewhere := by
    intro other hother hfiles
    have hentry := hfiles _ (List.mem_singleton_self _)
    exact (find_put_entry hother hentry).trans (hway.elsewhere other hother)
  stays := by
    intro file hfile hthere
    obtain rfl := List.mem_singleton.mp hfile
    exact absurd hthere hfree
  holds := by
    intro file hfile _
    obtain rfl := List.mem_singleton.mp hfile
    exact ⟨data, hdata, Node.find_put_self hway.isDirectoryAt⟩

/-- A file that is moved into the directory that has its place leaves that directory there. -/
lemma storesTo_moveInto {content : String} {data : List UInt8} (hdata : encode? content = some data)
    (hup : FilePath.up ∉ around ++ [name]) (hway : MakesWay around fs made)
    (hthere : fs.root.IsDirectoryAt (around ++ [name]))
    (h : made.moveInto ⟨true, around ++ [name]⟩ mark data = .ok after) :
    StoresTo around [(name, content)] fs after := by
  have hsame := hway.elsewhere _ (not_prefix_of_entry around name)
  have hmade := (Node.isDirectoryAt_congr hsame).mpr hthere
  have hup' : FilePath.up ∉ around ++ [name] ++ [asideName name mark] := by
    intro hmem
    rcases List.mem_append.mp hmem with hmem | hmem
    · exact hup hmem
    · exact asideName_ne_up name mark (List.mem_singleton.mp hmem).symm
  have hinside : (FilePath.mk true (around ++ [name])).append ⟨false, [asideName name mark]⟩ =
      ⟨true, around ++ [name] ++ [asideName name mark]⟩ := rfl
  simp only [moveInto, List.getLast?_concat, Option.getD_some, hinside,
    (placeOf_eq_ok hup').mpr ⟨hmade, rfl⟩] at h
  split at h
  · exact absurd h (by simp)
  · exact absurd h (by simp)
  · obtain rfl := Except.ok.inj h
    refine ⟨?_, hway.directory, fun _ => ?_, ?_, ?_, ?_⟩
    · intro file hfile
      obtain rfl := List.mem_singleton.mp hfile
      exact isWhole_iff_encode.mpr ⟨data, hdata⟩
    · exact Node.isDirectoryAt_put hmade (List.prefix_append _ _)
    · intro other hother hfiles
      have hentry := hfiles _ (List.mem_singleton_self _)
      have hapart := not_prefix_concat hother hentry
      have hbelow : ¬around ++ [name] ++ [asideName name mark] <+: other :=
        fun hbegins => hentry ((List.prefix_append _ _).trans hbegins)
      exact (find_put_entry hapart hbelow).trans (hway.elsewhere other hother)
    · intro file hfile _
      obtain rfl := List.mem_singleton.mp hfile
      exact Node.isDirectoryAt_put hmade (List.prefix_refl _)
    · intro file hfile hfree
      obtain rfl := List.mem_singleton.mp hfile
      exact absurd hthere hfree

/-- The bytes of a text are stored under the name of its file. -/
lemma storesTo_store {content : String} {data : List UInt8} (hdata : encode? content = some data)
    (hup : FilePath.up ∉ around ++ [name]) (hway : MakesWay around fs made)
    (h : made.store (some mark) ⟨true, around ++ [name]⟩ data = .ok after) :
    StoresTo around [(name, content)] fs after := by
  have hsame := hway.elsewhere _ (not_prefix_of_entry around name)
  have hplace := (placeOf_eq_ok hup).mpr ⟨hway.isDirectoryAt, rfl⟩
  cases hrefuses : made.refuses .write ⟨true, around ++ [name]⟩ with
  | some fault => exact absurd h (by simp [store, replaceFile, hplace, hrefuses])
  | none =>
    simp only [store, replaceFile, hplace, hrefuses, hsame] at h
    cases hnode : fs.root.find (around ++ [name]) with
    | error obstacle =>
      have hfree : ¬fs.root.IsDirectoryAt (around ++ [name]) := by simp [Node.IsDirectoryAt, hnode]
      simp only [hnode] at h
      obtain rfl := Except.ok.inj h
      exact storesTo_put hdata hway hfree
    | ok node =>
      simp only [hnode] at h
      cases node with
      | directory entries => exact storesTo_moveInto hdata hup hway ⟨entries, hnode⟩ h
      | file old =>
        have hfree : ¬fs.root.IsDirectoryAt (around ++ [name]) := by
          simp [Node.IsDirectoryAt, hnode]
        obtain rfl := Except.ok.inj h
        exact storesTo_put hdata hway hfree

/-- A text that is written to a file is stored under its name. -/
theorem storesTo_writeFile {content : String} {size : Nat} (hup : FilePath.up ∉ around ++ [name])
    (h : fs.writeFile (some mark) ⟨true, around ++ [name]⟩ content = (after, .ok size)) :
    StoresTo around [(name, content)] fs after := by
  have haround : FilePath.up ∉ around := fun hmem => hup (List.mem_append_left _ hmem)
  rw [writeFile, FilePath.parent, List.dropLast_concat] at h
  split at h
  · exact absurd (congrArg Prod.snd h) (by simp)
  · next made hmade =>
    have hway := makesWay_ensureDirectories haround hmade
    split at h
    · exact absurd (congrArg Prod.snd h) (by simp)
    · next data hdata =>
      split at h
      · next written hwritten =>
        obtain rfl : written = after := congrArg Prod.fst h
        exact storesTo_store hdata hup hway hwritten
      · exact absurd (congrArg Prod.snd h) (by simp)

/-- A text that has no bytes is not whole. -/
lemma isWhole_eq_false_of_writeFile {aside : Option String} {path : FilePath} {content : String}
    (h : (fs.writeFile aside path content).2 = .error .noBytes) : isWhole content = false := by
  rw [← Bool.not_eq_true, isWhole_iff_encode]
  rintro ⟨data, hdata⟩
  rw [writeFile, hdata] at h
  split at h
  · exact absurd h (by simp)
  · dsimp only at h
    split at h <;> exact absurd h (by simp)

end FileSystem

/-! ## Several files -/

namespace StoresTo

variable {files : List (String × String)} {file : String × String}

/-- One more text that is stored before others, under a name of its own. -/
lemma cons (h : StoresTo around [file] fs made) (hrest : StoresTo around files made after)
    (hnew : file.1 ∉ files.map Prod.fst) : StoresTo around (file :: files) fs after := by
  have hother : ∀ other ∈ files, ¬other.1 = file.1 := fun other hmem heq =>
    hnew (heq ▸ List.mem_map_of_mem hmem)
  -- neither step touches the place of the other one
  have hfirst : after.root.find (around ++ [file.1]) = made.root.find (around ++ [file.1]) :=
    hrest.elsewhere _ (not_prefix_of_entry around file.1) fun other hmem =>
      not_prefix_of_ne (hother other hmem)
  have hlater : ∀ other ∈ files,
      made.root.find (around ++ [other.1]) = fs.root.find (around ++ [other.1]) := by
    intro other hmem
    refine h.elsewhere _ (not_prefix_of_entry around other.1) fun one hone => ?_
    obtain rfl := List.mem_singleton.mp hone
    exact not_prefix_of_ne fun heq => hother other hmem heq.symm
  constructor
  · have hfile := h.whole _ (List.mem_singleton_self _)
    exact List.forall_mem_cons.mpr ⟨hfile, hrest.whole⟩
  · exact hrest.directory.trans h.directory
  · exact fun _ => hrest.isDirectoryAt (Or.inl (h.isDirectoryAt (Or.inr (List.cons_ne_nil _ _))))
  · intro other hway hplaces
    have hrestPlaces := hrest.elsewhere other hway fun f hf => hplaces f (List.mem_cons_of_mem _ hf)
    refine hrestPlaces.trans (h.elsewhere other hway fun f hf => ?_)
    obtain rfl := List.mem_singleton.mp hf
    exact hplaces _ List.mem_cons_self
  · intro other hmem hthere
    rcases List.mem_cons.mp hmem with rfl | hmem
    · have hmade := h.stays _ (List.mem_singleton_self _) hthere
      exact (Node.isDirectoryAt_congr hfirst).mpr hmade
    · have hmade := (Node.isDirectoryAt_congr (hlater other hmem)).mpr hthere
      exact hrest.stays other hmem hmade
  · intro other hmem hfree
    rcases List.mem_cons.mp hmem with rfl | hmem
    · obtain ⟨data, hdata, hfound⟩ := h.holds _ (List.mem_singleton_self _) hfree
      exact ⟨data, hdata, hfirst.trans hfound⟩
    · have hmade := fun hthere => hfree ((Node.isDirectoryAt_congr (hlater other hmem)).mp hthere)
      exact hrest.holds other hmem hmade

end StoresTo

namespace Writing

variable {base : FilePath} {aside : Option String} {files : List (String × String)}

/-- What ends the writing ends it for good. -/
lemma foldl_add_of_stop {w : Writing} {stop : Unwritten} (h : w.stop = some stop) :
    files.foldl (add aside base) w = w := by
  induction files with
  | nil => rfl
  | cons file files ih =>
    have hadd : add aside base w file = w := by rw [add, h]
    rw [List.foldl_cons, hadd, ih]

/-- A text that is added without a failure is stored under its name. -/
lemma storesTo_add {w : Writing} {file : String × String} (haround : FilePath.up ∉ around)
    (hplain : IsPlainName file.1) (hstop : w.stop = none)
    (h : (add (some mark) ⟨true, around⟩ w file).stop = none) :
    StoresTo around [file] w.system (add (some mark) ⟨true, around⟩ w file).system := by
  have hpath : (FilePath.mk true around).append (.ofText file.1) = ⟨true, around ++ [file.1]⟩ := by
    rw [hplain.ofText]
    rfl
  have hup : FilePath.up ∉ around ++ [file.1] := by
    intro hmem
    rcases List.mem_append.mp hmem with hmem | hmem
    · exact haround hmem
    · exact hplain.ne_up (List.mem_singleton.mp hmem).symm
  simp only [add, hstop, hpath] at h ⊢
  cases hwrite : w.system.writeFile (some mark) ⟨true, around ++ [file.1]⟩ file.2 with
  | mk system result =>
    cases result with
    | error stop => exact absurd h (by simp [hwrite])
    | ok size => exact FileSystem.storesTo_writeFile hup hwrite

/-- A text that ends the writing for want of bytes is not whole. -/
lemma isWhole_eq_false_of_add {w : Writing} {file : String × String} (hstop : w.stop = none)
    (h : (add aside base w file).stop = some .noBytes) : isWhole file.2 = false := by
  simp only [add, hstop] at h
  cases hwrite : w.system.writeFile aside (base.append (.ofText file.1)) file.2 with
  | mk system result =>
    simp only [hwrite] at h
    cases result with
    | ok size => exact absurd h (by simp)
    | error stop =>
      obtain rfl := Option.some.inj h
      exact FileSystem.isWhole_eq_false_of_writeFile (congrArg Prod.snd hwrite)

/-- Texts that are all added without a failure are stored under their names. -/
lemma storesTo_foldl_add {w : Writing} (haround : FilePath.up ∉ around)
    (hplain : ∀ file ∈ files, IsPlainName file.1) (hnames : (files.map Prod.fst).Nodup)
    (hstop : w.stop = none)
    (h : (files.foldl (add (some mark) ⟨true, around⟩) w).stop = none) :
    StoresTo around files w.system (files.foldl (add (some mark) ⟨true, around⟩) w).system := by
  induction files generalizing w with
  | nil => exact ⟨fun file hfile => absurd hfile List.not_mem_nil, rfl,
      fun hthere => hthere.resolve_right (fun hne => hne rfl), fun _ _ _ => rfl,
      fun file hfile => absurd hfile List.not_mem_nil,
      fun file hfile => absurd hfile List.not_mem_nil⟩
  | cons file files ih =>
    rw [List.map_cons, List.nodup_cons] at hnames
    rw [List.foldl_cons] at h ⊢
    have hadd : (add (some mark) ⟨true, around⟩ w file).stop = none := by
      cases hfirst : (add (some mark) ⟨true, around⟩ w file).stop with
      | none => rfl
      | some stop =>
        rw [foldl_add_of_stop hfirst, hfirst] at h
        exact absurd h (by simp)
    have hfirst := storesTo_add haround (hplain file List.mem_cons_self) hstop hadd
    have hrest := ih (fun f hf => hplain f (List.mem_cons_of_mem _ hf)) hnames.2 hadd h
    exact hfirst.cons hrest hnames.1

/-- **What writing changes.** Texts that are all written are stored under their names. -/
theorem storesTo_ofFiles (haround : FilePath.up ∉ around)
    (hplain : ∀ file ∈ files, IsPlainName file.1) (hnames : (files.map Prod.fst).Nodup)
    (h : (ofFiles fs (some mark) ⟨true, around⟩ files).stop = none) :
    StoresTo around files fs (ofFiles fs (some mark) ⟨true, around⟩ files).system :=
  storesTo_foldl_add haround hplain hnames rfl h

/-- A writing that has ended for want of bytes has met a text that is not whole. -/
theorem exists_isWhole_eq_false_of_noBytes {w : Writing} (hstop : w.stop = none)
    (h : (files.foldl (add aside base) w).stop = some .noBytes) :
    ∃ file ∈ files, isWhole file.2 = false := by
  induction files generalizing w with
  | nil => exact absurd (h.symm.trans hstop) (by simp)
  | cons file files ih =>
    rw [List.foldl_cons] at h
    cases hadd : (add aside base w file).stop with
    | none =>
      obtain ⟨other, hmem, hother⟩ := ih hadd h
      exact ⟨other, List.mem_cons_of_mem _ hmem, hother⟩
    | some stop =>
      rw [foldl_add_of_stop hadd] at h
      exact ⟨file, List.mem_cons_self, isWhole_eq_false_of_add hstop h⟩

end Writing

/-! ## Nothing but the texts -/

/-- A directory has come to hold texts under names, each exactly as it was to be written, and
nothing else has changed but the directories on the way, which are made. -/
structure HoldsExactly (around : List String) (files : List (String × String))
    (before after : FileSystem) : Prop where
  /-- The working directory is the same. -/
  directory : after.directory = before.directory
  /-- The directory is there. -/
  isDirectoryAt : after.root.IsDirectoryAt around
  /-- Each text is in the file of its name. -/
  stored : ∀ file ∈ files, HoldsText after (around ++ [file.1]) file.2
  /-- Everything else is as before, apart from the directories on the way. -/
  elsewhere : ∀ other, ¬other <+: around → (∀ file ∈ files, ¬around ++ [file.1] <+: other) →
    after.root.find other = before.root.find other

/-- Texts that are held are whole. -/
lemma HoldsExactly.whole {files : List (String × String)}
    (h : HoldsExactly around files fs after) : ∀ file ∈ files, isWhole file.2 = true := by
  intro file hfile
  obtain ⟨data, hdata, -⟩ := h.stored file hfile
  exact isWhole_iff_encode.mpr ⟨data, hdata⟩

/-- Texts that are stored are exactly what is written, unless a directory has the place of one. -/
theorem StoresTo.holdsExactly_iff {files : List (String × String)}
    (h : StoresTo around files fs after) (hsome : files ≠ []) :
    HoldsExactly around files fs after ↔
      ∀ file ∈ files, ¬fs.root.IsDirectoryAt (around ++ [file.1]) := by
  constructor
  · intro hholds file hfile hthere
    exact (hholds.stored file hfile).not_isDirectoryAt (h.stays file hfile hthere)
  · intro hfree
    exact ⟨h.directory, h.isDirectoryAt (Or.inr hsome),
      fun file hfile => h.holds file hfile (hfree file hfile), h.elsewhere⟩

end SqlMapping.Files
