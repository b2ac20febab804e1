import SqlMapping.Proofs.Render.Arguments

/-!
# The members of a rendered class

The class of an entity has the methods of its operations, and one method for each query. The names
of the methods are read back from the lines of the class, those of the attributes from the method
that sets them. Read in this way, the members of a class have distinct names
(`keepsApart_of_generate`): the accessors of accepted queries are distinct, avoid the operations and
begin with no underscore. As an accessor is made from the snake case of the name of its query, and
so is the constant of the query, the constants are distinct as well.
-/

namespace SqlMapping.Render

open SqlMapping.Text

/-! ## Accessors -/

/-- A text is a plain name exactly when it is a name. -/
lemma isPlainName_iff {s : String} : isPlainName s = true ↔ IsName s := by
  rw [isPlainName, IsName]
  cases s.toList with
  | nil => exact iff_of_false (by decide) (by simp)
  | cons c rest =>
    rw [isPlainNameList, Bool.and_eq_true, List.all_eq_true, isPlainStart_iff]
    simp only [isPlainPart_iff, List.cons.injEq]
    constructor
    · rintro ⟨hfirst, hrest⟩
      exact ⟨c, rest, ⟨rfl, rfl⟩, hfirst, hrest⟩
    · rintro ⟨_, _, ⟨rfl, rfl⟩, hfirst, hrest⟩
      exact ⟨hfirst, hrest⟩

/-- The accessor of a query is the safe identifier of its name in snake case. -/
lemma accessor_eq (q : Query) : q.accessor = safeIdentifier (snakeCase q.name) := rfl

/-- The accessor of an accepted query is none that every entity has, and begins with no
underscore. -/
lemma accessor_of_fault?_eq_none {q : Query} (h : q.fault? = none) :
    q.accessor ∉ Query.takenAccessors ∧ q.accessor.toList.head? ≠ some '_' := by
  unfold Query.fault? at h
  dsimp only at h
  split_ifs at h with hname htaken
  rw [Bool.or_eq_true, not_or, List.contains_iff_mem, beq_iff_eq] at htaken
  exact htaken

/-- The accessor of an accepted query is a name. -/
lemma isName_accessor {q : Query} (h : q.fault? = none) : IsName q.accessor := by
  have hhead := (accessor_of_fault?_eq_none h).2
  rw [accessor_eq] at hhead
  obtain ⟨⟨c, rest, hbase, hdigit⟩, haccessor⟩ := safeIdentifier_of_head_ne hhead
  have hsnake : ∃ other, identifierBase (snakeCase q.name) = snakeCase other := by
    unfold identifierBase
    split_ifs
    · exact ⟨q.name, rfl⟩
    · exact ⟨snakeCase q.name, rfl⟩
  obtain ⟨other, hother⟩ := hsnake
  rw [hother] at hbase haccessor
  have hplain := isPlainName_snakeCase hbase hdigit
  rw [← isPlainName_iff, accessor_eq, haccessor]
  split_ifs
  · exact isPlainName_append_underscore hplain
  · exact hplain

/-- The accessor of an accepted query can be the name of a method. -/
lemma isUsable_accessor {q : Query} (h : q.fault? = none) : IsUsable q.accessor := by
  refine ⟨isIdentifier_of_isPlainName (isPlainName_iff.mpr (isName_accessor h)), fun hkeyword => ?_⟩
  have htaken : isTakenWord q.accessor = true := isTakenWord_iff.mpr (Or.inl hkeyword)
  rw [accessor_eq, not_isTakenWord_safeIdentifier] at htaken
  exact Bool.false_ne_true htaken

/-! ## Constants -/

/-- The constants that every module has. -/
def ownConstants : List String :=
  ["TABLE_NAME", "CREATE_TABLE_SQL", "INSERT_SQL", "SELECT_BY_ID_SQL", "UPDATE_SQL",
    "DELETE_BY_ID_SQL"]

/-- The constants of a module are those that every module has, and those of the queries. -/
lemma map_fst_constants (a : Artifacts) : (constants a).map Prod.fst =
    ownConstants ++ (a.queries.map Prod.fst).map constantName := by
  rw [constants, List.map_append, List.map_map, List.map_map]
  rfl

/-- Queries with the same constant have the same snake case. -/
lemma snakeCase_eq_of_constantName_eq {query other : String}
    (h : constantName query = constantName other) : snakeCase query = snakeCase other := by
  have hlower (name : String) :
      ((snakeCase name).toList.map Char.toUpper).map Char.toLower = (snakeCase name).toList := by
    have hsame : ∀ c ∈ (snakeCase name).toList, c.toUpper.toLower = c :=
      forall_mem_snakeCase (by decide)
        (fun c => of_isAlphanum (p := fun c => c.toLower.toUpper.toLower = c.toLower) (by decide))
        name
    rw [List.map_map]
    exact (List.map_congr_left hsame).trans (List.map_id' _)
  have hchars := congrArg String.toList h
  rw [toList_constantName, toList_constantName] at hchars
  have hcapitals := List.append_cancel_right (List.append_cancel_left hchars)
  rw [← String.toList_inj, ← hlower query, hcapitals, hlower other]

/-- If the accessors of queries are distinct, so are the constants of the module. Those that every
module has begin in other ways. -/
lemma nodup_ownConstants_append {names : List String}
    (h : (names.map Query.accessorName).Nodup) :
    (ownConstants ++ names.map constantName).Nodup := by
  have hheads : ∀ constant ∈ ownConstants, constant.toList.head? ≠ some 'Q' := by
    decide
  have hconstants : (names.map constantName).Nodup := by
    rw [List.Nodup, List.pairwise_map] at h ⊢
    refine h.imp fun hdiffer hsame => hdiffer ?_
    rw [Query.accessorName, Query.accessorName, snakeCase_eq_of_constantName_eq hsame]
  refine List.nodup_append'.mpr ⟨by decide, hconstants, fun constant hown hquery => ?_⟩
  obtain ⟨name, -, rfl⟩ := List.mem_map.mp hquery
  exact hheads _ hown (head?_constantName name)

/-! ## Reading a class -/

/-- The name of the method that a line of the class opens. -/
def methodName? (line : String) : Option String :=
  (skip? "    def " line.toList).map fun rest => String.ofList (rest.takeWhile isNameChar)

/-- The name of the attribute that a line of the class sets. -/
def attributeName? (line : String) : Option String :=
  (skip? "        self." line.toList).bind fun rest =>
    (skip? ": " (rest.dropWhile isNameChar)).map fun _ => String.ofList (rest.takeWhile isNameChar)

/-- The methods of a class, and the attributes that it sets when an instance is made. -/
def memberNames (a : Artifacts) (naming : Settings) : List String :=
  (indentLines initMethod 1 4).filterMap attributeName? ++
    (classLines a naming).filterMap methodName?

/-- The members that every class has. -/
def ownMembers : List String :=
  ["_provider", "_entity_type", "current_subject", "__init__", "_decode", "create_table", "insert",
    "select_by_id", "select_self", "update", "delete_by_id", "delete_self"]

/-- A beginning that the fixed text shares is skipped with it. -/
lemma skip_append_append (front fixed : String) (cs : List Char) :
    skip? (front ++ fixed) (front.toList ++ cs) = skip? fixed cs := by
  have hsame : (front.toList ++ fixed.toList).isPrefixOf (front.toList ++ cs) =
      fixed.toList.isPrefixOf cs := by
    rw [Bool.eq_iff_iff, List.isPrefixOf_iff_prefix, List.isPrefixOf_iff_prefix]
    exact List.prefix_append_right_inj front.toList
  unfold skip?
  rw [String.toList_append, hsame, List.length_append, List.drop_length_add_append]

/-- A text with a letter is not skipped in a blank line. -/
lemma skip_of_isBlankText {fixed line : String} {c : Char} (hc : c ∈ fixed.toList)
    (hletter : isBlank c = false) (h : isBlankText line = true) :
    skip? fixed line.toList = none := by
  rw [skip?, if_neg]
  intro hstart
  have hmem := (List.isPrefixOf_iff_prefix.mp hstart).subset hc
  exact Bool.false_ne_true (hletter.symm.trans (List.all_eq_true.mp h c hmem))

/-- Behind the indentation, a text with a letter is skipped in a line of the class as it is before
the line is moved. -/
lemma skip_shift {fixed : String} {c : Char} (hc : c ∈ fixed.toList) (hletter : isBlank c = false)
    (line : String) : skip? (indent ++ fixed) (shift line).toList = skip? fixed line.toList := by
  cases hblank : isBlankText line with
  | true =>
    have hmem : c ∈ (indent ++ fixed).toList := by
      rw [String.toList_append]
      exact List.mem_append_right _ hc
    rw [shift, hblank, if_pos rfl, skip_of_isBlankText hc hletter hblank,
      skip_of_isBlankText hmem hletter hblank]
  | false =>
    have hmoved : shift line = indent ++ line := if_neg (ne_true_of_eq_false hblank)
    rw [hmoved, String.toList_append, skip_append_append]

/-- Which method a line of the class opens shows before the line is moved. -/
lemma methodName?_shift {line : String} {cs : List Char} (h : line.toList = cs) :
    methodName? (shift line) =
      (skip? "def " cs).map fun rest => String.ofList (rest.takeWhile isNameChar) := by
  have hfixed : "    def " = indent ++ "def " := by decide
  rw [methodName?, hfixed, skip_shift (by decide : 'd' ∈ "def ".toList) (by decide), h]

/-- Which attribute a line of the class sets shows before the line is moved. -/
lemma attributeName?_shift (line : String) :
    attributeName? (shift line) = (skip? "    self." line.toList).bind fun rest =>
      (skip? ": " (rest.dropWhile isNameChar)).map fun _ =>
        String.ofList (rest.takeWhile isNameChar) := by
  have hfixed : "        self." = indent ++ "    self." := by decide
  rw [attributeName?, hfixed, skip_shift (by decide : 's' ∈ "    self.".toList) (by decide)]

/-- A line that begins with spaces opens no method. -/
lemma methodName?_shift_indent (rest : String) : methodName? (shift (indent ++ rest)) = none := by
  rw [methodName?_shift String.toList_append]
  rfl

/-- A line that is moved twice opens no method. -/
lemma methodName?_shift_shift (line : String) : methodName? (shift (shift line)) = none := by
  cases hblank : isBlankText line with
  | true =>
    have hsame : shift line = line := if_pos hblank
    rw [hsame, methodName?_shift rfl,
      skip_of_isBlankText (by decide : 'd' ∈ "def ".toList) (by decide) hblank]
    rfl
  | false =>
    have hmoved : shift line = indent ++ line := if_neg (ne_true_of_eq_false hblank)
    rw [hmoved]
    exact methodName?_shift_indent line

/-- A line that opens the method of a name is read back. -/
lemma methodName?_shift_def {name : String} (hname : name.toList.all isNameChar = true)
    (rest : String) : methodName? (shift ("def " ++ (name ++ ("(" ++ rest)))) = some name := by
  have htake : (name.toList ++ ("(".toList ++ rest.toList)).takeWhile isNameChar = name.toList := by
    rw [List.takeWhile_append_of_pos (List.all_eq_true.mp hname)]
    exact List.append_nil _
  rw [methodName?_shift String.toList_append, skip_append, String.toList_append,
    String.toList_append, Option.map_some, htake, String.ofList_toList]

/-! ## The methods of the renderer -/

/-- The methods that lines open when they are moved into the class. -/
def openedMethods (lines : List String) : List String :=
  (indentLines lines 1 4).filterMap methodName?

/-- A line that opens a method comes before the others. -/
lemma openedMethods_cons_some {line name : String} (h : methodName? (shift line) = some name)
    (rest : List String) : openedMethods (line :: rest) = name :: openedMethods rest :=
  List.filterMap_cons_some h

/-- A line that opens no method is left out. -/
lemma openedMethods_cons_none {line : String} (h : methodName? (shift line) = none)
    (rest : List String) : openedMethods (line :: rest) = openedMethods rest :=
  List.filterMap_cons_none h

/-- No line opens no method. -/
lemma openedMethods_nil : openedMethods [] = [] := rfl

/-- The empty line is left out. -/
lemma openedMethods_empty (rest : List String) : openedMethods ("" :: rest) = openedMethods rest :=
  openedMethods_cons_none (methodName?_shift rfl) rest

/-- The body of a method is left out. -/
lemma openedMethods_indent (line : String) (rest : List String) :
    openedMethods ((indent ++ line) :: rest) = openedMethods rest :=
  openedMethods_cons_none (methodName?_shift_indent line) rest

/-- The method that sets up an instance. -/
lemma openedMethods_initMethod : openedMethods initMethod = ["__init__"] := by
  have hopens : methodName? (shift "def __init__(") = some "__init__" :=
    (methodName?_shift String.toList_ofList).trans rfl
  have hcloses : methodName? (shift ") -> None:") = none :=
    (methodName?_shift String.toList_ofList).trans rfl
  rw [initMethod, openedMethods_cons_some hopens]
  simp only [openedMethods_indent, openedMethods_cons_none hcloses, openedMethods_empty,
    openedMethods_nil]

/-- The method that makes an instance of a row. -/
lemma openedMethods_decodeMethod (a : Artifacts) :
    openedMethods (decodeMethod a) = ["_decode"] := by
  have hopens : methodName? (shift "def _decode(self, row: Any) -> Any:") = some "_decode" :=
    (methodName?_shift String.toList_ofList).trans rfl
  have hbody (lines : List String) : openedMethods (indentLines lines 1 4) = [] := by
    induction lines with
    | nil => rfl
    | cons line rest ih => exact (openedMethods_cons_none (methodName?_shift_shift line) _).trans ih
  rw [decodeMethod, openedMethods_cons_some hopens, hbody]

/-- The methods of the operations. -/
lemma openedMethods_operationMethods (a : Artifacts) :
    openedMethods (operationMethods a) =
      ["create_table", "insert", "select_by_id", "select_self", "update", "delete_by_id",
        "delete_self"] := by
  have hcreate : methodName? (shift
      "def create_table(self, block: Optional[Callable[[bool], Any]] = None) -> bool:") =
        some "create_table" :=
    (methodName?_shift String.toList_ofList).trans rfl
  have hinsert : methodName? (shift "def insert(self, obj: Any) -> Any:") = some "insert" :=
    (methodName?_shift String.toList_ofList).trans rfl
  have hselect : methodName? (shift "def select_by_id(self, id_: Any) -> Any:") =
      some "select_by_id" :=
    (methodName?_shift String.toList_ofList).trans rfl
  have hselectSelf : methodName? (shift "def select_self(self) -> Any:") = some "select_self" :=
    (methodName?_shift String.toList_ofList).trans rfl
  have hupdate : methodName? (shift "def update(self, obj: Any) -> int:") = some "update" :=
    (methodName?_shift String.toList_ofList).trans rfl
  have hdelete : methodName? (shift
      "def delete_by_id(self, id_: Any, block: Callable[[int], Any]) -> None:") =
        some "delete_by_id" :=
    (methodName?_shift String.toList_ofList).trans rfl
  have hdeleteSelf : methodName? (shift
      "def delete_self(self, block: Callable[[int], Any]) -> None:") = some "delete_self" :=
    (methodName?_shift String.toList_ofList).trans rfl
  rw [operationMethods]
  simp only [connectionLine, String.append_assoc, openedMethods_indent, openedMethods_empty,
    openedMethods_cons_some hcreate, openedMethods_cons_some hinsert,
    openedMethods_cons_some hselect, openedMethods_cons_some hselectSelf,
    openedMethods_cons_some hupdate, openedMethods_cons_some hdelete,
    openedMethods_cons_some hdeleteSelf, openedMethods_nil]

/-- The attributes that are set when an instance is made. -/
lemma attributeNames_initMethod : (indentLines initMethod 1 4).filterMap attributeName? =
    ["_provider", "_entity_type", "current_subject"] := by
  have hmoved : (indentLines initMethod 1 4).filterMap attributeName? =
      initMethod.filterMap (attributeName? ∘ shift) := List.filterMap_map
  have hread : attributeName? ∘ shift = fun line => (skip? "    self." line.toList).bind fun rest =>
      (skip? ": " (rest.dropWhile isNameChar)).map fun _ =>
        String.ofList (rest.takeWhile isNameChar) :=
    funext attributeName?_shift
  rw [hmoved, hread]
  decide +kernel

/-- The method of a query goes by its accessor. -/
lemma openedMethods_queryMethod {name : String}
    (hname : (Query.accessorName name).toList.all isNameChar = true) (s : Statement) :
    openedMethods (queryMethod name s) = [Query.accessorName name] := by
  rw [queryMethod]
  simp only [connectionLine, String.append_assoc, openedMethods_indent,
    openedMethods_cons_some (methodName?_shift_def hname _), openedMethods_nil]

/-- The methods of queries go by their accessors, in their order. -/
lemma methodNames_queries {queries : List (String × Statement)}
    (h : ∀ entry ∈ queries, (Query.accessorName entry.1).toList.all isNameChar = true) :
    (queries.flatMap fun (name, s) => "" :: indentLines (queryMethod name s) 1 4).filterMap
        methodName? = (queries.map Prod.fst).map Query.accessorName := by
  have hblank : methodName? "" = none := rfl
  induction queries with
  | nil => rfl
  | cons entry rest ih =>
    rw [List.forall_mem_cons] at h
    have hopened : (indentLines (queryMethod entry.1 entry.2) 1 4).filterMap methodName? = _ :=
      openedMethods_queryMethod h.1 entry.2
    rw [List.flatMap_cons, List.filterMap_append, ih h.2, List.filterMap_cons_none hblank, hopened]
    rfl

/-- The methods of a class are those that every class has, and the accessors of the queries. -/
lemma methodNames_classLines {a : Artifacts} {naming : Settings}
    (h : ∀ entry ∈ a.queries, (Query.accessorName entry.1).toList.all isNameChar = true) :
    (classLines a naming).filterMap methodName? =
      ["__init__", "_decode", "create_table", "insert", "select_by_id", "select_self", "update",
        "delete_by_id", "delete_self"] ++ (a.queries.map Prod.fst).map Query.accessorName := by
  have hclass : methodName? ("class " ++ className a.entity naming ++ ":") = none := by
    rw [methodName?, String.toList_append, String.toList_append, List.append_assoc]
    rfl
  have hnote : methodName? (indent ++ "\"\"\"Accessors for the " ++ quote a.table ++
      " table.\"\"\"") = none := by
    rw [methodName?, String.toList_append, String.toList_append, String.toList_append,
      List.append_assoc, List.append_assoc]
    rfl
  have hblank : methodName? "" = none := rfl
  have hinit : (indentLines initMethod 1 4).filterMap methodName? = _ := openedMethods_initMethod
  have hdecode : (indentLines (decodeMethod a) 1 4).filterMap methodName? = _ :=
    openedMethods_decodeMethod a
  have hoperations : (indentLines (operationMethods a) 1 4).filterMap methodName? = _ :=
    openedMethods_operationMethods a
  rw [classLines, List.filterMap_append, List.filterMap_append, List.filterMap_append,
    List.filterMap_append, methodNames_queries h, List.filterMap_cons_none hblank, hoperations,
    hinit, hdecode, List.filterMap_cons_none hclass, List.filterMap_cons_none hnote,
    List.filterMap_cons_none hblank]
  rfl

/-- The members of a class are those that every class has, and the accessors of the queries. -/
lemma memberNames_eq {a : Artifacts} {naming : Settings}
    (h : ∀ entry ∈ a.queries, (Query.accessorName entry.1).toList.all isNameChar = true) :
    memberNames a naming = ownMembers ++ (a.queries.map Prod.fst).map Query.accessorName := by
  rw [memberNames, attributeNames_initMethod, methodNames_classLines h]
  rfl

/-! ## Names that are kept apart -/

/-- Generated artifacts keep every query, under names of its own. -/
structure KeepsApart (queries : List Query) (a : Artifacts) (naming : Settings) : Prop where
  /-- Every query is kept in its place, with its text as it is. -/
  kept : (a.queries.map fun entry => (entry.1, entry.2.sql)) = queries.map fun q => (q.name, q.sql)
  /-- No query is kept twice. -/
  once : (a.queries.map Prod.fst).Nodup
  /-- The parameters of a query are bound in their order, from the first position on. -/
  bound : (a.queries.map fun entry => entry.2.bindings.map fun b => (b.name, b.position)) =
    queries.map fun q => (q.parameters.map QueryParameter.name).zipIdx 1
  /-- The members of the class are those that every class has, and the accessors. -/
  members : memberNames a naming = ownMembers ++ queries.map Query.accessor
  /-- The members of the class are distinct. -/
  membersDistinct : (memberNames a naming).Nodup
  /-- The accessors are names of ASCII characters, none of which is a keyword or begins with an
  underscore. -/
  accessors : ∀ q ∈ queries,
    IsName q.accessor ∧ IsUsable q.accessor ∧ q.accessor.toList.head? ≠ some '_'
  /-- The constants of the module are those that every module has, and those of the queries. -/
  constants : ((constantLines a).filterMap readDefinition).map Prod.fst =
    ownConstants ++ queries.map fun q => constantName q.name
  /-- The constants of the module are distinct. -/
  constantsDistinct : (((constantLines a).filterMap readDefinition).map Prod.fst).Nodup

/-- Parameters are bound one after the other. -/
lemma map_bindings (position : Nat) (ps : List QueryParameter) :
    ((Query.bindings position ps).map fun b => (b.name, b.position)) =
      (ps.map QueryParameter.name).zipIdx position := by
  induction ps generalizing position with
  | nil => rfl
  | cons p rest ih =>
    rw [Query.bindings, List.map_cons, List.map_cons, List.zipIdx_cons, ih]

/-- The accessors of accepted queries are distinct from the members that every class has. -/
lemma nodup_ownMembers_append {queries : List Query} (haccepted : ∀ q ∈ queries, q.fault? = none)
    (hnodup : (queries.map Query.accessor).Nodup) :
    (ownMembers ++ queries.map Query.accessor).Nodup := by
  have hown : ∀ member ∈ ownMembers,
      member.toList.head? = some '_' ∨ member ∈ Query.takenAccessors := by
    decide
  refine List.nodup_append'.mpr ⟨by decide, hnodup, fun member hmember haccessor => ?_⟩
  obtain ⟨q, hq, rfl⟩ := List.mem_map.mp haccessor
  obtain ⟨hfree, hhead⟩ := accessor_of_fault?_eq_none (haccepted q hq)
  rcases hown _ hmember with hunderscore | htaken
  · exact hhead hunderscore
  · exact hfree htaken

/-- **Queries are kept apart.** Generated artifacts keep every query in its place, with its text and
its parameters. The members of the rendered class are distinct, the accessors of the queries among
them, which are ASCII names, no keywords, and begin with no underscore. The constants of the module
are distinct as well. -/
theorem keepsApart_of_generate {s : Schema} {queries : List Query} {settings : Settings}
    {a : Artifacts} (h : (s.generate queries settings).result = .ok a) (naming : Settings) :
    KeepsApart queries a naming := by
  obtain ⟨⟨haccepted, hnodup, -⟩, hqueries⟩ := Schema.queries_generate h
  have hnames : a.queries.map Prod.fst = queries.map Query.name := by
    rw [hqueries, List.map_map]
    rfl
  have haccessors : (queries.map Query.name).map Query.accessorName =
      queries.map Query.accessor := by
    rw [List.map_map]
    refine List.map_congr_left fun q _ => ?_
    rw [Function.comp_apply, Query.accessor]
  have hdistinct : ((queries.map Query.name).map Query.accessorName).Nodup := by
    rw [haccessors]
    exact hnodup
  have hchars : ∀ entry ∈ a.queries,
      (Query.accessorName entry.1).toList.all isNameChar = true := by
    rw [hqueries, List.forall_mem_map]
    intro q hq
    have hplain := isPlainName_iff.mpr (isName_accessor (haccepted q hq))
    exact List.all_eq_true.mpr (isPlainPart_of_isPlainName hplain)
  have hmembers : memberNames a naming = ownMembers ++ queries.map Query.accessor := by
    rw [memberNames_eq hchars, hnames, haccessors]
  have hconstants : ((constantLines a).filterMap readDefinition).map Prod.fst =
      ownConstants ++ (queries.map Query.name).map constantName := by
    rw [filterMap_constantLines, map_fst_constants, hnames]
  exact {
    kept := by
      rw [hqueries, List.map_map]
      rfl
    once := by
      rw [hnames]
      exact List.Nodup.of_map Query.accessorName hdistinct
    bound := by
      rw [hqueries, List.map_map]
      exact List.map_congr_left fun q _ => map_bindings 1 q.parameters
    members := hmembers
    membersDistinct := by
      rw [hmembers]
      exact nodup_ownMembers_append haccepted hnodup
    accessors := fun q hq =>
      ⟨isName_accessor (haccepted q hq), isUsable_accessor (haccepted q hq),
        (accessor_of_fault?_eq_none (haccepted q hq)).2⟩
    constants := by
      rw [hconstants, List.map_map]
      rfl
    constantsDistinct := by
      rw [hconstants]
      exact nodup_ownConstants_append hdistinct }

/-- Queries whose names are a keyword, a built-in name and a number behind letters. -/
def several : List Query :=
  [{ name := "class", sql := "SELECT ?, ?", parameters := [{ name := "a" }, { name := "class" }] },
    { name := "Type", sql := "SELECT 1" },
    { name := "HTTPGet2", sql := "SELECT 1" }]

/-- Queries whose accessors have to be changed. -/
theorem keepsApart_several :
    ∃ a, (keyed.generate several {}).result = .ok a ∧ KeepsApart several a {} ∧
      several.map Query.accessor = ["class_", "type_", "http_get2"] := by
  obtain ⟨a, ha⟩ := isOk_iff.mp
    (by decide +kernel : (keyed.generate several {}).result.isOk = true)
  exact ⟨a, ha, keepsApart_of_generate ha {}, by decide +kernel⟩

end SqlMapping.Render
