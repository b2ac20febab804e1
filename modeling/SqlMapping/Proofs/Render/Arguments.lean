import SqlMapping.Proofs.Render.Module
import SqlMapping.Proofs.Text.Identifier
import SqlMapping.Proofs.Validation.Names

/-!
# The arguments of query methods

The method of a query refers to its instance, to the block that is given the result, to the
connection and to the constant that holds the text of the query (`ownNames`). An argument of one of
these names captures what the method refers to.

The arguments avoid the first three names. An argument that ends in neither a digit nor an
underscore is the safe identifier of its parameter, and one that is named like a constant is the
parameter itself. So an argument is named like the constant exactly when a parameter is
(`capturesNothing_iff`), which nothing forbids (`not_capturesNothing_shadowing`).
-/

namespace SqlMapping.Render

open SqlMapping.Number SqlMapping.Text

/-! ## The names of constants -/

/-- The characters of the name of the constant of a query. -/
lemma toList_constantName (query : String) :
    (constantName query).toList =
      "QUERY_".toList ++ ((snakeCase query).toList.map Char.toUpper ++ "_SQL".toList) := by
  have hcapitals : (String.ofList ((snakeCase query).toList.map Char.toUpper)).toList =
      (snakeCase query).toList.map Char.toUpper := String.toList_ofList
  rw [constantName, String.toList_append, String.toList_append, hcapitals, List.append_assoc]

/-- The name of the constant of a query begins with a capital. -/
lemma head?_constantName (query : String) : (constantName query).toList.head? = some 'Q' := by
  rw [toList_constantName]
  rfl

/-- The name of the constant of a query ends in a letter. -/
lemma getLast?_constantName (query : String) : (constantName query).toList.getLast? = some 'L' := by
  rw [toList_constantName, List.getLast?_append, List.getLast?_append]
  rfl

/-- The name of the constant of a query is a plain name. -/
lemma isPlainName_constantName (query : String) : isPlainName (constantName query) = true := by
  have hname := constantName_isName query
  have hhead := head?_constantName query
  rw [isPlainName]
  cases hquery : (constantName query).toList with
  | nil =>
    rw [hquery] at hhead
    exact absurd hhead (by simp)
  | cons c rest =>
    rw [hquery, List.all_cons, Bool.and_eq_true] at hname
    rw [hquery, List.head?_cons, Option.some.injEq] at hhead
    rw [isPlainNameList, hhead]
    exact (Bool.and_eq_true _ _).mpr ⟨by decide, hname.2⟩

/-- The name of the constant of a query is its own safe identifier, as no taken word begins with
that capital. -/
lemma safeIdentifier_constantName (query : String) :
    safeIdentifier (constantName query) = constantName query := by
  have hword : isTakenWord (constantName query) = false :=
    not_isTakenWord_of (p := fun word => word.toList.head? = some 'Q') (by decide)
      (head?_constantName query)
  rw [safeIdentifier_of_isPlainName (isPlainName_constantName query), hword,
    if_neg Bool.false_ne_true]

/-- A name whose safe identifier is the name of a constant is that name. -/
lemma eq_constantName_of_safeIdentifier {name query : String}
    (h : safeIdentifier name = constantName query) : name = constantName query := by
  have hhead : (safeIdentifier name).toList.head? ≠ some '_' := by
    rw [h, head?_constantName]
    decide
  obtain ⟨-, hsafe⟩ := safeIdentifier_of_head_ne hhead
  rw [h] at hsafe
  split_ifs at hsafe with htaken
  · -- an underscore ends no constant
    have hlast := getLast?_constantName query
    rw [hsafe, getLast?_append_underscore] at hlast
    exact absurd hlast (by decide)
  · unfold identifierBase at hsafe
    split_ifs at hsafe with hidentifier
    · exact hsafe.symm
    · -- snake case has no capitals
      have hmem : 'Q' ∈ (snakeCase name).toList :=
        hsafe ▸ List.mem_of_mem_head? (head?_constantName query)
      have hsmall : ∀ c ∈ (snakeCase name).toList, c ≠ 'Q' :=
        forall_mem_snakeCase (by decide) (fun c => of_isAlphanum (p := fun c => c.toLower ≠ 'Q')
          (by decide)) name
      exact absurd rfl (hsmall 'Q' hmem)

/-! ## The names of arguments -/

/-- What the name of an argument is made from: the safe identifier of the parameter, with an
underscore behind a name that arguments avoid. -/
def argumentBase (b : Binding) : String :=
  if takenArguments.contains (safeIdentifier b.name) then safeIdentifier b.name ++ "_"
  else safeIdentifier b.name

/-- The name of an argument is made from its base, so that it differs from the others. -/
lemma argumentName_eq (names : List String) (b : Binding) :
    argumentName names b =
      freeName names ("_" ++ natText b.position) names.length (argumentBase b) := rfl

/-- A free name is the candidate, or it ends in the suffix. -/
lemma freeName_eq_or_exists (names : List String) (suffix : String) (fuel : Nat)
    (candidate : String) :
    freeName names suffix fuel candidate = candidate ∨
      ∃ front, freeName names suffix fuel candidate = front ++ suffix := by
  induction fuel generalizing candidate with
  | zero => exact Or.inl rfl
  | succ fuel ih =>
    rw [freeName]
    split_ifs
    · rcases ih (candidate ++ suffix) with hsame | hends
      · exact Or.inr ⟨candidate, hsame⟩
      · exact Or.inr hends
    · exact Or.inl rfl

/-- A candidate that differs from all names is free. -/
lemma freeName_of_not_mem {names : List String} {candidate : String} (h : candidate ∉ names)
    (suffix : String) (fuel : Nat) : freeName names suffix fuel candidate = candidate := by
  cases fuel with
  | zero => rfl
  | succ fuel => rw [freeName, if_neg (mt List.contains_iff_mem.mp h)]

/-- The text of a number ends in a digit. -/
lemma getLast?_natText (n : Nat) :
    ∃ d, (natText n).toList.getLast? = some d ∧ d.isDigit = true := by
  have hdigits : (natText n).toList = Nat.toDigits 10 n := String.toList_ofList
  rw [hdigits, List.getLast?_eq_some_getLast Nat.toDigits_ne_nil]
  exact ⟨_, rfl, Nat.isDigit_of_mem_toDigits (by decide) (by decide) (List.getLast_mem _)⟩

/-- The name of an argument that ends in neither an underscore nor a digit is the safe identifier of
its parameter, and it is none of the names that arguments avoid. -/
lemma safeIdentifier_of_argumentName {names : List String} {b : Binding} {name : String}
    (hlast : name.toList.getLast?.any (fun c => c == '_' || c.isDigit) = false)
    (h : argumentName names b = name) : safeIdentifier b.name = name ∧ name ∉ takenArguments := by
  rw [argumentName_eq] at h
  rcases freeName_eq_or_exists names ("_" ++ natText b.position) names.length (argumentBase b) with
    hsame | ⟨front, hends⟩
  · rw [hsame, argumentBase] at h
    split_ifs at h with htaken
    · rw [← h, getLast?_append_underscore] at hlast
      exact absurd hlast (by decide)
    · rw [List.contains_iff_mem, h] at htaken
      exact ⟨h, htaken⟩
  · obtain ⟨d, hd, hdigit⟩ := getLast?_natText b.position
    have hmem : name.toList.getLast? = some d := by
      rw [← h, hends, String.toList_append, String.toList_append, List.getLast?_append,
        List.getLast?_append, hd]
      rfl
    rw [hmem, Option.any_some, hdigit, Bool.or_true] at hlast
    exact absurd hlast (by decide)

/-- The names of arguments are names for the bindings, each after some others. -/
lemma exists_of_mem_argumentNamesAfter {names : List String} {bs : List Binding} {name : String}
    (h : name ∈ argumentNamesAfter names bs) :
    ∃ b ∈ bs, ∃ earlier, argumentName earlier b = name := by
  induction bs generalizing names with
  | nil => exact absurd h List.not_mem_nil
  | cons b rest ih =>
    rcases List.mem_cons.mp h with rfl | h
    · exact ⟨b, List.mem_cons_self, names, rfl⟩
    · obtain ⟨other, hother, earlier, hname⟩ := ih h
      exact ⟨other, List.mem_cons_of_mem b hother, earlier, hname⟩

/-- If a parameter is named like a constant, then so is an argument, if no earlier name is. -/
lemma constantName_mem_argumentNamesAfter {query : String} {names : List String} {bs : List Binding}
    (hnew : constantName query ∉ names) (h : constantName query ∈ bs.map Binding.name) :
    constantName query ∈ argumentNamesAfter names bs := by
  have htaken : constantName query ∉ takenArguments := by
    have hheads : ∀ name ∈ takenArguments, name.toList.head? ≠ some 'Q' := by
      decide
    exact fun hmem => hheads _ hmem (head?_constantName query)
  induction bs generalizing names with
  | nil => exact absurd h List.not_mem_nil
  | cons b rest ih =>
    rw [argumentNamesAfter, List.mem_cons]
    by_cases hfirst : argumentName names b = constantName query
    · exact Or.inl hfirst.symm
    · refine Or.inr (ih (fun hmem => ?_) ?_)
      · rcases List.mem_append.mp hmem with hmem | hmem
        · exact hnew hmem
        · exact hfirst (List.mem_singleton.mp hmem).symm
      · rcases List.mem_cons.mp h with hname | hrest
        · refine absurd ?_ hfirst
          rw [argumentName_eq, argumentBase, ← hname, safeIdentifier_constantName,
            if_neg (mt List.contains_iff_mem.mp htaken), freeName_of_not_mem hnew]
        · exact hrest

/-! ## Captured names -/

/-- The names that the method of a query refers to beside its arguments. -/
def ownNames (query : String) : List String :=
  ["self", "block", "connection", constantName query]

/-- No argument of the method of a query has a name that the method refers to. -/
def CapturesNothing (query : String) (s : Statement) : Prop :=
  ∀ name ∈ argumentNames s, name ∉ ownNames query

/-- The arguments of a statement avoid the instance, the block and the connection. -/
lemma fixedNames_not_mem_argumentNames (s : Statement) :
    ∀ name ∈ ["self", "block", "connection"], name ∉ argumentNames s := by
  intro name hname hmem
  have hends : ∀ name ∈ ["self", "block", "connection"],
      name.toList.getLast?.any (fun c => c == '_' || c.isDigit) = false ∧
        name ∈ takenArguments := by
    decide
  obtain ⟨hlast, htaken⟩ := hends name hname
  obtain ⟨b, -, earlier, hargument⟩ := exists_of_mem_argumentNamesAfter hmem
  exact (safeIdentifier_of_argumentName hlast hargument).2 htaken

/-- An argument is named like the constant of a query exactly when a parameter is. -/
lemma constantName_mem_argumentNames_iff {query : String} {s : Statement} :
    constantName query ∈ argumentNames s ↔ constantName query ∈ s.bindings.map Binding.name := by
  constructor
  · intro hmem
    obtain ⟨b, hb, earlier, hargument⟩ := exists_of_mem_argumentNamesAfter hmem
    have hlast : (constantName query).toList.getLast?.any (fun c => c == '_' || c.isDigit) =
        false := by
      rw [getLast?_constantName]
      rfl
    have hsafe := (safeIdentifier_of_argumentName hlast hargument).1
    exact List.mem_map.mpr ⟨b, hb, eq_constantName_of_safeIdentifier hsafe⟩
  · exact constantName_mem_argumentNamesAfter List.not_mem_nil

/-- A method captures nothing exactly when no parameter is named like the constant of the query. -/
lemma capturesNothing_statement_iff {query : String} {s : Statement} :
    CapturesNothing query s ↔ constantName query ∉ s.bindings.map Binding.name := by
  rw [← constantName_mem_argumentNames_iff]
  have hfixed := fixedNames_not_mem_argumentNames s
  constructor
  · exact fun hcaptures hmem => hcaptures _ hmem (by simp [ownNames])
  · intro hconstant name hmem hown
    have hparts : ownNames query = ["self", "block", "connection"] ++ [constantName query] := rfl
    rw [hparts] at hown
    rcases List.mem_append.mp hown with hown | hown
    · exact hfixed name hown hmem
    · exact hconstant (List.mem_singleton.mp hown ▸ hmem)

/-- **What arguments capture.** The arguments of the rendered methods avoid the instance, the block
and the connection. They capture nothing at all exactly when no parameter is named like the constant
of its own query. -/
theorem capturesNothing_iff {s : Schema} {queries : List Query} {settings : Settings}
    {a : Artifacts} (h : (s.generate queries settings).result = .ok a) :
    (∀ entry ∈ a.queries, ∀ name ∈ ["self", "block", "connection"],
        name ∉ argumentNames entry.2) ∧
      ((∀ entry ∈ a.queries, CapturesNothing entry.1 entry.2) ↔
        ∀ q ∈ queries, ∀ p ∈ q.parameters, p.name ≠ constantName q.name) := by
  refine ⟨fun entry _ => fixedNames_not_mem_argumentNames entry.2, ?_⟩
  rw [(Schema.queries_generate h).2, List.forall_mem_map]
  refine forall₂_congr fun q _ => ?_
  have hnames : q.toStatement.bindings.map Binding.name = q.parameters.map QueryParameter.name :=
    Query.map_name_bindings 1 q.parameters
  rw [capturesNothing_statement_iff, hnames, List.mem_map, not_exists]
  exact forall_congr' fun p => not_and

/-- A schema with nothing but a key. -/
def keyed : Schema :=
  { entity := "Card"
    table := "cards"
    columns := [{ name := "number", hostType := "int", type := .int, isKey := true }]
    hasKey := rfl }

/-- Queries with parameters that are named like the parts of a method and like the constant of
another query. -/
def renamed : List Query :=
  [{ name := "find", sql := "SELECT ?, ?, ?", parameters :=
      [{ name := "block" }, { name := "block_" }, { name := "connection" }] },
    { name := "drop", sql := "SELECT ?", parameters := [{ name := "QUERY_FIND_SQL" }] }]

/-- Methods whose arguments have to be renamed. -/
theorem capturesNothing_renamed :
    ∃ a, (keyed.generate renamed {}).result = .ok a ∧
      a.queries.map (fun entry => argumentNames entry.2) =
        [["block_", "block__2", "connection_"], ["QUERY_FIND_SQL"]] ∧
      ∀ entry ∈ a.queries, CapturesNothing entry.1 entry.2 := by
  obtain ⟨a, ha⟩ := isOk_iff.mp
    (by decide +kernel : (keyed.generate renamed {}).result.isOk = true)
  have hnames : ∀ q ∈ renamed, ∀ p ∈ q.parameters, p.name ≠ constantName q.name := by
    decide +kernel
  refine ⟨a, ha, ?_, (capturesNothing_iff ha).2.mpr hnames⟩
  rw [(Schema.queries_generate ha).2]
  decide +kernel

/-- A query with a parameter that is named like its own constant. -/
def shadowing : List Query :=
  [{ name := "find", sql := "SELECT ?", parameters := [{ name := "QUERY_FIND_SQL" }] }]

/-- A method that executes its argument in place of its constant. -/
theorem not_capturesNothing_shadowing :
    ∃ a, (keyed.generate shadowing {}).result = .ok a ∧
      ∃ entry ∈ a.queries, (queryMethod entry.1 entry.2).getLast? =
          some "        return block(connection.execute(QUERY_FIND_SQL, (QUERY_FIND_SQL,)))" ∧
        ¬CapturesNothing entry.1 entry.2 := by
  obtain ⟨a, ha⟩ := isOk_iff.mp
    (by decide +kernel : (keyed.generate shadowing {}).result.isOk = true)
  have hqueries := (Schema.queries_generate ha).2
  rw [shadowing, List.map_singleton] at hqueries
  refine ⟨a, ha, _, hqueries ▸ List.mem_singleton_self _, by decide +kernel, ?_⟩
  rw [capturesNothing_statement_iff]
  decide +kernel

end SqlMapping.Render
