import SqlMapping.Proofs.Render.Arguments

/-!
# The names of arguments

The arguments of a query method are named one after the other. The name of an argument is made from
the safe identifier of its parameter, and the position of the parameter is appended to it as long as
an earlier argument has that name (`Settles`). A candidate gets longer in each round, so the names
that it can still meet get fewer, and as many rounds as there are earlier names are always enough
(`exists_settles`). In this way the naming of all arguments comes to an end (`assigns_iff`).

What is appended ends in an underscore or a digit, as no keyword, no built-in name and none of the
names that methods use themselves does. So no round undoes what an earlier step has done, and the
arguments have distinct names that are safe (`argumentNames_areLegal`).
-/

namespace SqlMapping.Render

open SqlMapping.Number SqlMapping.Text

/-! ## The rounds of one name -/

/-- A suffix is appended to a candidate as long as it is one of the names. After that many rounds
the candidate is none of them. -/
inductive Settles (names : List String) (suffix : String) : Nat → String → String → Prop
  /-- A candidate that is none of the names stays as it is. -/
  | free {candidate : String} (h : candidate ∉ names) : Settles names suffix 0 candidate candidate
  /-- A candidate that is one of the names gets the suffix. -/
  | taken {rounds : Nat} {candidate name : String} (h : candidate ∈ names)
      (hrest : Settles names suffix rounds (candidate ++ suffix) name) :
      Settles names suffix (rounds + 1) candidate name

section Rounds

variable {names : List String} {suffix candidate name : String} {rounds : Nat}

/-- What the rounds end with is none of the names. -/
lemma Settles.not_mem (h : Settles names suffix rounds candidate name) : name ∉ names := by
  induction h with
  | free hfree => exact hfree
  | taken _ _ ih => exact ih

/-- The rounds end with one name only. -/
lemma Settles.unique (h : Settles names suffix rounds candidate name) {rounds' : Nat}
    {name' : String} (h' : Settles names suffix rounds' candidate name') : name = name' := by
  induction h generalizing rounds' with
  | free hfree =>
    cases h' with
    | free => rfl
    | taken htaken => exact absurd htaken hfree
  | taken htaken _ ih =>
    cases h' with
    | free hfree => exact absurd htaken hfree
    | taken _ hrest => exact ih hrest

/-- What the suffix keeps, the rounds keep. -/
lemma Settles.keeps {p : String → Prop} (h : Settles names suffix rounds candidate name)
    (happend : ∀ s, p s → p (s ++ suffix)) (hcandidate : p candidate) : p name := by
  induction h with
  | free => exact hcandidate
  | taken _ _ ih => exact ih (happend _ hcandidate)

/-- The names that are at least as long as a candidate. The candidate can be equal to these only, in
this round or in a later one. -/
def rivals (names : List String) (candidate : String) : List String :=
  names.filter fun name => candidate.length ≤ name.length

/-- A round leaves fewer rivals. -/
lemma length_rivals_append (hsuffix : suffix ≠ "") (h : candidate ∈ names) :
    (rivals names (candidate ++ suffix)).length < (rivals names candidate).length := by
  have hlonger : candidate.length < (candidate ++ suffix).length := by
    have hpositive : suffix.length ≠ 0 := by simpa using hsuffix
    rw [String.length_append]
    omega
  have hfewer : rivals names (candidate ++ suffix) =
      (rivals names candidate).filter fun name => (candidate ++ suffix).length ≤ name.length := by
    rw [rivals, rivals, List.filter_filter]
    refine List.filter_congr fun name _ => ?_
    rw [← Bool.decide_and, decide_eq_decide]
    omega
  rw [hfewer, List.length_filter_lt_length_iff_exists]
  refine ⟨candidate, List.mem_filter.mpr ⟨h, by simp⟩, ?_⟩
  rw [decide_eq_true_eq]
  exact Nat.not_le_of_lt hlonger

/-- As many rounds as a candidate has rivals are enough. -/
lemma exists_settles_of_rivals (hsuffix : suffix ≠ "") {fuel : Nat}
    (h : (rivals names candidate).length ≤ fuel) :
    ∃ rounds ≤ fuel, Settles names suffix rounds candidate
      (freeName names suffix fuel candidate) := by
  induction fuel generalizing candidate with
  | zero =>
    have hfree : candidate ∉ names := by
      intro hmem
      have hrival : candidate ∈ rivals names candidate :=
        List.mem_filter.mpr ⟨hmem, by simp⟩
      rw [List.length_eq_zero_iff.mp (Nat.le_zero.mp h)] at hrival
      exact absurd hrival List.not_mem_nil
    exact ⟨0, Nat.le_refl 0, .free hfree⟩
  | succ fuel ih =>
    by_cases hmem : candidate ∈ names
    · have hfewer : (rivals names (candidate ++ suffix)).length ≤ fuel :=
        Nat.le_of_lt_succ ((length_rivals_append hsuffix hmem).trans_le h)
      obtain ⟨rounds, hrounds, hsettles⟩ := ih hfewer
      rw [freeName, if_pos (List.contains_iff_mem.mpr hmem)]
      exact ⟨rounds + 1, Nat.succ_le_succ hrounds, .taken hmem hsettles⟩
    · rw [freeName_of_not_mem hmem]
      exact ⟨0, Nat.zero_le _, .free hmem⟩

/-- As many rounds as there are names are enough, whatever the candidate is. -/
lemma exists_settles (names : List String) (hsuffix : suffix ≠ "") (candidate : String) :
    ∃ rounds ≤ names.length, Settles names suffix rounds candidate
      (freeName names suffix names.length candidate) :=
  exists_settles_of_rivals hsuffix (List.length_filter_le _ _)

end Rounds

/-! ## Legal names -/

/-- A name that an argument may have: a safe one that methods do not use themselves. -/
structure IsLegal (name : String) : Prop where
  /-- The name is an identifier, no keyword and no built-in name. -/
  safe : IsSafeName name
  /-- No part of a method has the name. -/
  free : name ∉ takenArguments

/-- Whether a text ends in an underscore or a digit. -/
def endsMarked (s : String) : Bool :=
  s.toList.getLast?.any fun c => c == '_' || c.isDigit

/-- What ends in an underscore or a digit is no keyword, no built-in name and none of the names that
methods use. -/
lemma not_mem_of_endsMarked {s : String} (h : endsMarked s = true) :
    s ∉ moduleKeywords ∧ s ∉ hiddenBuiltins ∧ s ∉ takenArguments := by
  have hwords : ∀ word ∈ moduleKeywords ++ hiddenBuiltins ++ takenArguments,
      endsMarked word = false := by
    decide
  have hother : s ∉ moduleKeywords ++ hiddenBuiltins ++ takenArguments := by
    intro hmem
    rw [hwords s hmem] at h
    exact Bool.false_ne_true h
  simpa [and_assoc] using hother

/-- A text ends in an underscore or a digit if what is appended to it does. -/
lemma endsMarked_append {ending : String} (h : endsMarked ending = true) (s : String) :
    endsMarked (s ++ ending) = true := by
  unfold endsMarked at h ⊢
  rw [String.toList_append, List.getLast?_append]
  cases hlast : ending.toList.getLast? with
  | none =>
    rw [hlast] at h
    exact absurd h Bool.false_ne_true
  | some c =>
    rw [hlast] at h
    exact h

/-- An identifier with such an ending is a legal name. -/
lemma isLegal_append {s ending : String} (hs : isIdentifier s = true)
    (hending : ∀ c ∈ ending.toList, isIdentifierPart c = true)
    (hmarked : endsMarked ending = true) : IsLegal (s ++ ending) := by
  obtain ⟨hkeyword, hbuiltin, hfree⟩ := not_mem_of_endsMarked (endsMarked_append hmarked s)
  exact ⟨⟨isIdentifier_append hs hending, hkeyword, hbuiltin⟩, hfree⟩

/-- The base of the name of an argument is a legal name. -/
lemma isLegal_argumentBase (b : Binding) : IsLegal (argumentBase b) := by
  have hsafe := isSafeName_safeIdentifier b.name
  unfold argumentBase
  split_ifs with htaken
  · exact isLegal_append hsafe.identifier isIdentifierPart_of_mem_underscore (by decide)
  · exact ⟨hsafe, mt List.contains_iff_mem.mpr htaken⟩

/-! ## The names of all arguments -/

/-- What is appended to the name of an argument that an earlier one has. -/
def positionSuffix (b : Binding) : String :=
  "_" ++ natText b.position

/-- The characters of the suffix of a binding. -/
lemma toList_positionSuffix (b : Binding) :
    (positionSuffix b).toList = '_' :: Nat.toDigits 10 b.position := by
  have hdigits : (natText b.position).toList = Nat.toDigits 10 b.position := String.toList_ofList
  rw [positionSuffix, String.toList_append, hdigits]
  rfl

/-- There is something in the suffix of a binding. -/
lemma positionSuffix_ne_empty (b : Binding) : positionSuffix b ≠ "" := by
  intro hempty
  have hlist := toList_positionSuffix b
  rw [hempty] at hlist
  exact absurd hlist (List.cons_ne_nil _ _).symm

/-- The suffix of a binding ends in a digit. -/
lemma endsMarked_positionSuffix (b : Binding) : endsMarked (positionSuffix b) = true := by
  obtain ⟨d, hlast, hdigit⟩ := getLast?_natText b.position
  refine endsMarked_append ?_ "_"
  rw [endsMarked, hlast, Option.any_some, hdigit, Bool.or_true]

/-- A legal name with the suffix of a binding is legal. -/
lemma IsLegal.append_positionSuffix {name : String} (h : IsLegal name) (b : Binding) :
    IsLegal (name ++ positionSuffix b) := by
  refine isLegal_append h.safe.identifier ?_ (endsMarked_positionSuffix b)
  intro c hc
  rw [toList_positionSuffix, List.mem_cons] at hc
  rcases hc with rfl | hmem
  · decide
  · have hdigit : c.isDigit = true := Nat.isDigit_of_mem_toDigits (by decide) (by decide) hmem
    simp [isIdentifierPart, Char.isAlphanum, hdigit]

/-- Bindings get their names one after the other, each after the rounds that it takes to differ from
the names before it. -/
inductive Assigns : List String → List Binding → List String → Prop
  /-- Without bindings there are no names. -/
  | nil {names : List String} : Assigns names [] []
  /-- The first binding gets its name, and the others avoid this one, too. -/
  | cons {names others : List String} {b : Binding} {rest : List Binding} {rounds : Nat}
      {name : String} (hname : Settles names (positionSuffix b) rounds (argumentBase b) name)
      (hrest : Assigns (names ++ [name]) rest others) : Assigns names (b :: rest) (name :: others)

section Assigning

variable {names result : List String} {bs : List Binding}

/-- Naming comes to an end, and it does so with the names of the arguments only. -/
lemma assigns_iff : Assigns names bs result ↔ result = argumentNamesAfter names bs := by
  have hfound (names : List String) (b : Binding) :
      ∃ rounds, Settles names (positionSuffix b) rounds (argumentBase b) (argumentName names b) :=
    let ⟨rounds, _, hsettles⟩ :=
      exists_settles names (positionSuffix_ne_empty b) (argumentBase b)
    ⟨rounds, hsettles⟩
  constructor
  · intro h
    induction h with
    | nil => rfl
    | @cons names others b rest rounds name hname _ ih =>
      obtain ⟨_, hsettles⟩ := hfound names b
      obtain rfl : name = argumentName names b := hname.unique hsettles
      rw [argumentNamesAfter, ih]
  · rintro rfl
    induction bs generalizing names with
    | nil => exact .nil
    | cons b rest ih =>
      obtain ⟨_, hsettles⟩ := hfound names b
      exact .cons hsettles ih

/-- Every binding gets a name. -/
lemma Assigns.length_eq (h : Assigns names bs result) : result.length = bs.length := by
  induction h with
  | nil => rfl
  | cons _ _ ih => rw [List.length_cons, List.length_cons, ih]

/-- The names are distinct, and they differ from the names before them. -/
lemma Assigns.nodup (h : Assigns names bs result) (hnames : names.Nodup) :
    (names ++ result).Nodup := by
  induction h with
  | nil => rwa [List.append_nil]
  | @cons names others b rest rounds name hname _ ih =>
    have hlonger : (names ++ [name]).Nodup := by
      rw [← List.concat_eq_append]
      exact List.Nodup.concat hname.not_mem hnames
    rw [List.append_cons]
    exact ih hlonger

/-- The names are legal. -/
lemma Assigns.isLegal (h : Assigns names bs result) : ∀ name ∈ result, IsLegal name := by
  induction h with
  | nil => exact fun name hmem => absurd hmem List.not_mem_nil
  | @cons names others b rest rounds name hname _ ih =>
    have hlegal : IsLegal name :=
      hname.keeps (fun _ hs => hs.append_positionSuffix b) (isLegal_argumentBase b)
    exact List.forall_mem_cons.mpr ⟨hlegal, ih⟩

end Assigning

/-- Names for the arguments of a statement: one for each parameter, all of them distinct, and all of
them legal. -/
structure AreLegal (s : Statement) (names : List String) : Prop where
  /-- Naming comes to an end with these names. -/
  assigned : ∀ result, Assigns [] s.bindings result ↔ result = names
  /-- There is one name for each parameter. -/
  length_eq : names.length = s.parameterCount
  /-- No two arguments have the same name. -/
  distinct : names.Nodup
  /-- Every argument may have its name. -/
  legal : ∀ name ∈ names, IsLegal name

/-- **Arguments have distinct, legal names.** Whatever the parameters of a statement are, naming its
arguments comes to an end with distinct names, one for each parameter, that are legal. This rests on
safe identifiers, which any text has: they are safe names, and their own safe identifiers. -/
theorem argumentNames_areLegal (s : Statement) (text : String) :
    AreLegal s (argumentNames s) ∧ IsSafeName (safeIdentifier text) ∧
      safeIdentifier (safeIdentifier text) = safeIdentifier text := by
  have hassigns : Assigns [] s.bindings (argumentNames s) := assigns_iff.mpr rfl
  have hlegal : AreLegal s (argumentNames s) := {
    assigned := fun _ => assigns_iff
    length_eq := hassigns.length_eq
    distinct := hassigns.nodup List.nodup_nil
    legal := hassigns.isLegal }
  exact ⟨hlegal, isSafeName_safeIdentifier text, safeIdentifier_safeIdentifier text⟩

/-- A suffix can make a name that is there already, and then another one is appended. -/
example : argumentNames (Query.toStatement { name := "find", sql := "SELECT 1", parameters :=
    [{ name := "a_3" }, { name := "a" }, { name := "a" }, { name := "self" }, { name := "a b" }] }) =
      ["a_3", "a", "a_3_3", "self_", "a_b"] := by decide +kernel

end SqlMapping.Render
