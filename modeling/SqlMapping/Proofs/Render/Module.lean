import SqlMapping.Access.Accessor
import SqlMapping.Proofs.Entity.Generated
import SqlMapping.Proofs.Text.Literal
import SqlMapping.Proofs.Text.Words
import SqlMapping.Render.Module

/-!
# What rendered modules denote

The text of a module is read back line by line. The definition of a constant takes one line: its name,
and a literal that is read by the rules of literals. A method is opened by a line with its name and
its parameter; the line that executes its constant holds a tuple of expressions, each of which reads a
field of the parameter or is the parameter itself. A tuple of one expression needs a comma, or it
would be the expression alone.

Read in this way, the module of an entity says what its artifacts say (`denotes_of_generate`): the
constants are the generated texts, and the tuples have the values that an accessor binds. This holds
for all names and texts, since what needs an escape has one and no line is broken.
-/

namespace SqlMapping.Render

open SqlMapping.Text

/-! ## Fixed texts -/

/-- What follows a fixed text at the beginning. -/
def skip? (fixed : String) (cs : List Char) : Option (List Char) :=
  if fixed.toList.isPrefixOf cs then some (cs.drop fixed.toList.length) else none

/-- A fixed text is skipped. -/
lemma skip_append (fixed : String) (cs : List Char) :
    skip? fixed (fixed.toList ++ cs) = some cs := by
  have hprefix : fixed.toList.isPrefixOf (fixed.toList ++ cs) = true :=
    List.isPrefixOf_iff_prefix.mpr (List.prefix_append _ _)
  rw [skip?, if_pos hprefix, List.drop_left]

/-- What follows a fixed text is shorter than what begins with it. -/
lemma length_lt_of_skip {fixed : String} (hfixed : fixed.toList ≠ []) {cs rest : List Char}
    (h : skip? fixed cs = some rest) : rest.length < cs.length := by
  unfold skip? at h
  split at h
  · next hprefix =>
    obtain rfl := Option.some.inj h
    have hle := (List.isPrefixOf_iff_prefix.mp hprefix).length_le
    have hpos := List.length_pos_iff.mpr hfixed
    rw [List.length_drop]
    omega
  · exact absurd h (by simp)

/-! ## Constants -/

/-- A character of a name. -/
def isNameChar (c : Char) : Bool :=
  c.isAlphanum || c == '_'

/-- Reads the definition of a text constant, which takes the whole line: its name and its text. -/
def readDefinition (line : String) : Option (String × String) := do
  let name := line.toList.takeWhile isNameChar
  let rest ← skip? ": str = " (line.toList.dropWhile isNameChar)
  match readLiteral rest with
  | some (text, []) => some (String.ofList name, String.ofList text)
  | _ => none

/-- The definition of a constant is read back. -/
lemma readDefinition_constantLine {name : String} (hname : name.toList.all isNameChar = true)
    (text : String) : readDefinition (constantLine name text) = some (name, text) := by
  have hline : (constantLine name text).toList =
      name.toList ++ (": str = ".toList ++ (quote text).toList) := by
    rw [constantLine, String.toList_append, String.toList_append, List.append_assoc]
  have hall := List.all_eq_true.mp hname
  have htake : (constantLine name text).toList.takeWhile isNameChar = name.toList := by
    rw [hline, List.takeWhile_append_of_pos hall]
    exact List.append_nil _
  have hdrop : (constantLine name text).toList.dropWhile isNameChar =
      ": str = ".toList ++ (quote text).toList := by
    rw [hline, List.dropWhile_append_of_pos hall]
    rfl
  have hend : ∀ c ∈ ([] : List Char).head?, ¬IsLiteralQuote c := by
    simp
  have hread : readLiteral (quote text).toList = some (text.toList, []) := by
    rw [← readLiteral_quote text hend, List.append_nil]
  rw [readDefinition, htake, hdrop, skip_append]
  simp only [Option.bind_eq_bind, Option.bind_some, hread, String.ofList_toList]

/-- The name of the constant of a query is a name. -/
lemma constantName_isName (query : String) :
    (constantName query).toList.all isNameChar = true := by
  have hupper : ∀ c ∈ (snakeCase query).toList, isNameChar c.toUpper = true :=
    forall_mem_snakeCase (p := fun c => isNameChar c.toUpper = true) (by decide)
      (fun c hc => of_isAlphanum (p := fun c => isNameChar c.toLower.toUpper = true) (by decide) hc)
      query
  have hmiddle : ((snakeCase query).toList.map Char.toUpper).all isNameChar = true := by
    rw [List.all_map]
    exact List.all_eq_true.mpr hupper
  have hcapitals : (String.ofList ((snakeCase query).toList.map Char.toUpper)).toList =
      (snakeCase query).toList.map Char.toUpper := String.toList_ofList
  rw [constantName, String.toList_append, String.toList_append, hcapitals, List.all_append,
    List.all_append, hmiddle]
  rfl

/-- A method that executes the statement of an operation with values of its own parameter. -/
structure BindingMethod where
  /-- The operation. -/
  operation : Operation
  /-- The constant that holds its statement. -/
  constant : String
  /-- The parameter of the method. -/
  parameter : String

/-- The methods that execute statements with values of their own parameters. -/
def bindingMethods : List BindingMethod :=
  [⟨.insert, "INSERT_SQL", "obj"⟩, ⟨.selectById, "SELECT_BY_ID_SQL", "id_"⟩,
    ⟨.update, "UPDATE_SQL", "obj"⟩, ⟨.deleteById, "DELETE_BY_ID_SQL", "id_"⟩]

/-- The constants of artifacts, and their texts. -/
def constants (a : Artifacts) : List (String × String) :=
  ("TABLE_NAME", a.table) :: ("CREATE_TABLE_SQL", a.createTable) ::
    bindingMethods.map (fun m => (m.constant, (a.statement m.operation).sql)) ++
    a.queries.map fun (name, s) => (constantName name, s.sql)

/-- The definitions of the constants are read back, in their order. -/
lemma filterMap_constantLines (a : Artifacts) :
    (constantLines a).filterMap readDefinition = constants a := by
  have hblank : readDefinition "" = none := rfl
  have hquery : readDefinition ∘ (fun (query : String × Statement) =>
      constantLine (constantName query.1) query.2.sql) =
        some ∘ fun query => (constantName query.1, query.2.sql) := by
    funext query
    exact readDefinition_constantLine (constantName_isName query.1) query.2.sql
  have hread {name : String} (hname : name.toList.all isNameChar = true) (text : String)
      (rest : List String) : (constantLine name text :: rest).filterMap readDefinition =
        (name, text) :: rest.filterMap readDefinition :=
    List.filterMap_cons_some (readDefinition_constantLine hname text)
  rw [constantLines, List.filterMap_append, List.filterMap_map, hquery, List.filterMap_eq_map]
  rw [hread (by decide), List.filterMap_cons_none hblank, hread (by decide), hread (by decide),
    hread (by decide), hread (by decide), hread (by decide)]
  rfl

/-- A name stands on one line. -/
lemma isOneLine_of_isName {name : String} (hname : name.toList.all isNameChar = true) :
    IsOneLine name := by
  rw [IsOneLine, List.all_eq_true]
  intro c hc
  have hchar := List.all_eq_true.mp hname c hc
  have hbreak : breaksLine c = false := by
    rw [breaksLine, Bool.or_eq_false_iff, beq_eq_false_iff_ne, beq_eq_false_iff_ne]
    constructor
    · rintro rfl
      exact absurd hchar (by decide)
    · rintro rfl
      exact absurd hchar (by decide)
  rw [hbreak]
  rfl

/-- The definition of a constant stands on one line. -/
lemma isOneLine_constantLine {name : String} (hname : name.toList.all isNameChar = true)
    (text : String) : IsOneLine (constantLine name text) :=
  ((isOneLine_of_isName hname).append (by decide)).append (isOneLine_quote text)

/-- Every line of the definitions is one line. -/
lemma isOneLine_of_mem_constantLines {a : Artifacts} {line : String} (h : line ∈ constantLines a) :
    IsOneLine line := by
  rcases List.mem_append.mp h with h | h
  · simp only [List.mem_cons, List.not_mem_nil, or_false] at h
    rcases h with rfl | rfl | rfl | rfl | rfl | rfl | rfl
    · exact isOneLine_constantLine (by decide) a.table
    · decide
    all_goals exact isOneLine_constantLine (by decide) _
  · obtain ⟨⟨name, s⟩, -, rfl⟩ := List.mem_map.mp h
    exact isOneLine_constantLine (constantName_isName name) s.sql

/-! ## Tuples -/

/-- An expression in the tuple of a method. -/
inductive Expression where
  /-- A field of the instance that the method is given. -/
  | field (name : String)
  /-- The key that the method is given. -/
  | key

namespace Expression

/-- The text of an expression. -/
def text : Expression → String
  | .field name => "read_value(obj, " ++ quote name ++ ")"
  | .key => "id_"

/-- The text of the expression of a field. -/
lemma text_field (name : String) :
    (field name).text = "read_value(obj, " ++ quote name ++ ")" := rfl

/-- The text of the expression of the key. -/
lemma text_key : key.text = "id_" := rfl

/-- The parameter of the method that an expression is about. -/
def parameter : Expression → String
  | .field _ => "obj"
  | .key => "id_"

/-- The value of an expression, given the values of the parameters. -/
def evaluate (given : Access.Given) : Expression → Except Access.Fault Value
  | .field name => (given.instance?.field name).mapError .unread
  | .key => .ok given.key

/-- The expression of a binding to a field or to the key that is given. -/
def ofBinding (b : Binding) : Expression :=
  match b.source with
  | .id => .key
  | _ => .field b.name

end Expression

/-- Reads an expression. -/
def readExpression (cs : List Char) : Option (Expression × List Char) :=
  match skip? "id_" cs with
  | some rest => some (.key, rest)
  | none => do
    let rest ← skip? "read_value(obj, " cs
    let (name, rest) ← readLiteral rest
    let rest ← skip? ")" rest
    return (.field (String.ofList name), rest)

/-- What follows a text inside a literal is shorter than what begins with it. -/
lemma length_lt_of_readText {quote : Char} {state : LiteralState} {cs text rest : List Char}
    (h : readText quote state cs = some (text, rest)) : rest.length < cs.length := by
  induction cs generalizing state text with
  | nil => exact absurd h (by simp [readText])
  | cons c cs ih =>
    rw [readText] at h
    split at h
    · obtain ⟨-, rfl⟩ := Prod.mk.inj (Option.some.inj h)
      exact Nat.lt_succ_self _
    · obtain ⟨step, -, h⟩ := Option.bind_eq_some_iff.mp h
      obtain ⟨⟨others, after⟩, hread, h⟩ := Option.map_eq_some_iff.mp h
      obtain ⟨-, rfl⟩ := Prod.mk.inj h
      exact Nat.lt_succ_of_lt (ih hread)

/-- What follows a literal is not longer than what begins with it. -/
lemma length_le_of_readLiteral {cs text rest : List Char}
    (h : readLiteral cs = some (text, rest)) : rest.length ≤ cs.length := by
  cases cs with
  | nil => exact absurd h (by simp [readLiteral])
  | cons c cs =>
    rw [readLiteral] at h
    split at h
    · have hlt := length_lt_of_readText h
      rw [List.length_cons]
      omega
    · exact absurd h (by simp)

/-- What follows an expression is shorter than what begins with it. -/
lemma length_lt_of_readExpression {cs rest : List Char} {e : Expression}
    (h : readExpression cs = some (e, rest)) : rest.length < cs.length := by
  unfold readExpression at h
  split at h
  · next after hkey =>
    obtain ⟨-, rfl⟩ := Prod.mk.inj (Option.some.inj h)
    exact length_lt_of_skip (by decide) hkey
  · obtain ⟨cs₁, hopen, h⟩ := Option.bind_eq_some_iff.mp h
    obtain ⟨⟨name, cs₂⟩, hname, h⟩ := Option.bind_eq_some_iff.mp h
    obtain ⟨cs₃, hclose, h⟩ := Option.bind_eq_some_iff.mp h
    obtain ⟨-, rfl⟩ := Prod.mk.inj (Option.some.inj h)
    have hfirst := length_lt_of_skip (by decide) hopen
    have hsecond := length_le_of_readLiteral hname
    have hthird := length_lt_of_skip (by decide) hclose
    omega

/-- Reads the items of a tuple up to its closing parenthesis. Each is followed by a comma, unless it
is the last one. -/
def readItems (cs : List Char) : Option (List Expression × List Char) :=
  match cs with
  | ')' :: rest => some ([], rest)
  | cs =>
    match _hread : readExpression cs with
    | some (e, ')' :: rest) => some ([e], rest)
    | some (e, ',' :: rest) => (readItems (rest.dropWhile (· == ' '))).map (Prod.map (e :: ·) id)
    | _ => none
termination_by cs.length
decreasing_by
  have hshort := length_lt_of_readExpression _hread
  have hdrop := (List.dropWhile_sublist (l := rest) (· == ' ')).length_le
  rw [List.length_cons] at hshort
  omega

/-- Reads a tuple. An expression between parentheses is one only if a comma follows it. -/
def readTuple : List Char → Option (List Expression × List Char)
  | '(' :: ')' :: rest => some ([], rest)
  | '(' :: cs =>
    match readExpression cs with
    | some (e, ',' :: rest) => (readItems (rest.dropWhile (· == ' '))).map (Prod.map (e :: ·) id)
    | _ => none
  | _ => none

/-- An expression is read back, whatever follows it. -/
lemma readExpression_text (e : Expression) (rest : List Char) :
    readExpression (e.text.toList ++ rest) = some (e, rest) := by
  cases e with
  | key => rw [readExpression, Expression.text_key, skip_append]
  | field name =>
    have htext : (Expression.field name).text.toList ++ rest =
        "read_value(obj, ".toList ++ ((quote name).toList ++ (")".toList ++ rest)) := by
      rw [Expression.text_field, String.toList_append, String.toList_append, List.append_assoc,
        List.append_assoc]
    have hother : skip? "id_" ("read_value(obj, ".toList ++
        ((quote name).toList ++ (")".toList ++ rest))) = none := rfl
    have hread : readLiteral ((quote name).toList ++ (")".toList ++ rest)) =
        some (name.toList, ")".toList ++ rest) := by
      refine readLiteral_quote name ?_
      intro c hc
      obtain rfl : ')' = c := by simpa using hc
      rintro (h | h) <;> exact absurd h (by decide)
    rw [htext, readExpression, hother]
    simp only [skip_append, hread, Option.bind_eq_bind, Option.bind_some, String.ofList_toList]
    rfl

/-- An item before the closing parenthesis is the last one. -/
lemma readItems_last {cs rest : List Char} {e : Expression}
    (h : readExpression cs = some (e, ')' :: rest)) : readItems cs = some ([e], rest) := by
  have hopen : ∀ tail, cs ≠ ')' :: tail := by
    rintro tail rfl
    exact absurd h (by simp [show readExpression (')' :: tail) = none from rfl])
  unfold readItems
  split
  · exact absurd rfl (hopen _)
  · split
    · next hread =>
      rw [h] at hread
      cases hread
      rfl
    · next hread =>
      rw [h] at hread
      cases hread
    · next hlast _ => exact absurd h (hlast e rest)

/-- An item before a comma is followed by the items after it. -/
lemma readItems_comma {cs rest : List Char} {e : Expression}
    (h : readExpression cs = some (e, ',' :: rest)) :
    readItems cs = (readItems (rest.dropWhile (· == ' '))).map (Prod.map (e :: ·) id) := by
  have hopen : ∀ tail, cs ≠ ')' :: tail := by
    rintro tail rfl
    exact absurd h (by simp [show readExpression (')' :: tail) = none from rfl])
  conv => lhs; unfold readItems
  split
  · exact absurd rfl (hopen _)
  · split
    · next hread =>
      rw [h] at hread
      cases hread
    · next hread =>
      rw [h] at hread
      cases hread
      rfl
    · next hcomma => exact absurd h (hcomma e rest)

/-- The texts of several expressions begin with that of the first one. -/
lemma toList_commaList (e next : Expression) (es : List Expression) (rest : List Char) :
    (commaList ((e :: next :: es).map Expression.text)).toList ++ rest =
      e.text.toList ++ ',' :: ' ' ::
        ((commaList ((next :: es).map Expression.text)).toList ++ rest) := by
  have hjoin : commaList ((e :: next :: es).map Expression.text) =
      e.text ++ ", " ++ commaList ((next :: es).map Expression.text) := String.intercalate_cons_cons
  rw [hjoin, String.toList_append, String.toList_append, List.append_assoc, List.append_assoc]
  rfl

/-- No space stands before an expression. -/
lemma dropWhile_text (e : Expression) (rest : List Char) :
    (e.text.toList ++ rest).dropWhile (· == ' ') = e.text.toList ++ rest := by
  cases e with
  | key => rfl
  | field name =>
    rw [Expression.text_field, String.toList_append, String.toList_append, List.append_assoc,
      List.append_assoc]
    rfl

/-- The items of a tuple are read back, also after spaces. -/
lemma readItems_commaList (e : Expression) (es : List Expression) (rest : List Char) :
    readItems (((commaList ((e :: es).map Expression.text)).toList ++ ')' :: rest).dropWhile
        (· == ' ')) = some (e :: es, rest) := by
  induction es generalizing e with
  | nil =>
    have hsingle : commaList ([e].map Expression.text) = e.text := String.intercalate_singleton
    rw [hsingle, dropWhile_text]
    exact readItems_last (readExpression_text e (')' :: rest))
  | cons next es ih =>
    rw [toList_commaList, dropWhile_text, readItems_comma (readExpression_text e _)]
    rw [List.dropWhile_cons_of_pos (by rfl), ih next]
    rfl

/-- A first item before a comma is followed by the items after it. -/
lemma readTuple_first {cs rest : List Char} {e : Expression}
    (h : readExpression cs = some (e, ',' :: rest)) :
    readTuple ('(' :: cs) =
      (readItems (rest.dropWhile (· == ' '))).map (Prod.map (e :: ·) id) := by
  rw [readTuple]
  · rw [h]
    rfl
  · rintro tail rfl
    exact absurd h (by simp [show readExpression (')' :: tail) = none from rfl])

/-- **Tuples are read back**, the empty one and those of one expression as well. -/
theorem readTuple_tupleText (es : List Expression) (rest : List Char) :
    readTuple ((tupleText (es.map Expression.text)).toList ++ rest) = some (es, rest) := by
  match es with
  | [] => rfl
  | [e] =>
    have htext : (tupleText ([e].map Expression.text)).toList ++ rest =
        '(' :: (e.text.toList ++ ',' :: ')' :: rest) := by
      rw [List.map_singleton, tupleText, String.toList_append, String.toList_append,
        List.append_assoc, List.append_assoc]
      rfl
    rw [htext, readTuple_first (readExpression_text e _), List.dropWhile_cons_of_neg (by decide),
      readItems]
    rfl
  | e :: next :: es =>
    have htext : (tupleText ((e :: next :: es).map Expression.text)).toList ++ rest =
        '(' :: ((commaList ((e :: next :: es).map Expression.text)).toList ++ ')' :: rest) := by
      have hseveral : tupleText ((e :: next :: es).map Expression.text) =
          "(" ++ commaList ((e :: next :: es).map Expression.text) ++ ")" := rfl
      rw [hseveral, String.toList_append, String.toList_append, List.append_assoc,
        List.append_assoc]
      rfl
    rw [htext, toList_commaList, readTuple_first (readExpression_text e _)]
    rw [List.dropWhile_cons_of_pos (by rfl), readItems_commaList]
    rfl

/-- The tuple of bindings to fields and to the key that is given. -/
lemma tupleText_valueExpression (key : String) {bindings : List Binding}
    (h : ∀ b ∈ bindings, b.source = .field ∨ b.source = .id) :
    tupleText (bindings.map (valueExpression key)) =
      tupleText ((bindings.map Expression.ofBinding).map Expression.text) := by
  rw [List.map_map]
  congr 1
  refine List.map_congr_left fun b hb => ?_
  rcases h b hb with hsource | hsource
  · rw [valueExpression, Function.comp_apply, Expression.ofBinding, hsource]
    rfl
  · rw [valueExpression, Function.comp_apply, Expression.ofBinding, hsource]
    rfl

/-- The expression of a binding has the value that is bound. -/
lemma evaluate_ofBinding {accessor : Access.Accessor} {given : Access.Given} {b : Binding}
    (h : b.source = .field ∨ b.source = .id) :
    (Expression.ofBinding b).evaluate given = accessor.bindOne given b := by
  rcases h with hsource | hsource
  · rw [Expression.ofBinding, Access.Accessor.bindOne, hsource]
    rfl
  · rw [Expression.ofBinding, Access.Accessor.bindOne, hsource]
    rfl

/-- The expressions of bindings have the values that are bound, in their order. -/
lemma mapM_evaluate {accessor : Access.Accessor} {given : Access.Given} {s : Statement}
    (h : ∀ b ∈ s.bindings, b.source = .field ∨ b.source = .id) :
    (s.bindings.map Expression.ofBinding).mapM (Expression.evaluate given) =
      accessor.bindValues s given := by
  rw [List.mapM_map, Access.Accessor.bindValues]
  exact mapM_congr fun b hb => evaluate_ofBinding (h b hb)

/-- An expression stands on one line. -/
lemma isOneLine_text (e : Expression) : IsOneLine e.text := by
  cases e with
  | field name =>
    have hopen : IsOneLine "read_value(obj, " := by decide
    exact (hopen.append (isOneLine_quote name)).append (by decide)
  | key => decide

/-- Expressions with commas between them stand on one line. -/
lemma isOneLine_commaList (es : List Expression) :
    IsOneLine (commaList (es.map Expression.text)) := by
  induction es with
  | nil => decide
  | cons e es ih =>
    cases es with
    | nil =>
      have hsingle : commaList ([e].map Expression.text) = e.text := String.intercalate_singleton
      rw [hsingle]
      exact isOneLine_text e
    | cons next es =>
      have hjoin : commaList ((e :: next :: es).map Expression.text) =
          e.text ++ ", " ++ commaList ((next :: es).map Expression.text) :=
        String.intercalate_cons_cons
      rw [hjoin]
      exact ((isOneLine_text e).append (by decide)).append ih

/-- A tuple of expressions stands on one line. -/
lemma isOneLine_tupleText (es : List Expression) :
    IsOneLine (tupleText (es.map Expression.text)) := by
  have hopen : IsOneLine "(" := by decide
  match es with
  | [] => decide
  | [e] => exact (hopen.append (isOneLine_text e)).append (by decide)
  | e :: next :: es =>
    exact (hopen.append (isOneLine_commaList (e :: next :: es))).append (by decide)

/-! ## Methods -/

/-- What follows the first occurrence of a fixed text. -/
def after? (fixed : String) : List Char → Option (List Char)
  | [] => none
  | c :: cs =>
    match skip? fixed (c :: cs) with
    | some rest => some rest
    | none => after? fixed cs

/-- Reads the line that opens a method of the class: its name and its first parameter. -/
def readOpening (line : List Char) : Option (String × String) := do
  let rest ← skip? "    def " line
  let name := rest.takeWhile isNameChar
  let rest ← skip? "(self, " (rest.dropWhile isNameChar)
  return (String.ofList name, String.ofList (rest.takeWhile isNameChar))

/-- Reads a line that executes a constant: its name and the tuple of the values. -/
def readExecution (line : String) : Option (String × List Expression) := do
  let rest ← after? "connection.execute(" line.toList
  let constant := rest.takeWhile isNameChar
  let rest ← skip? ", " (rest.dropWhile isNameChar)
  let (es, rest) ← readTuple rest
  let _ ← skip? ")" rest
  return (String.ofList constant, es)

/-- Lines hold a method that executes its constant with a tuple of expressions: the line that opens
the method, and no other, stands before the line that executes the constant, and the expressions are
about the parameter of the method. -/
def Executes (lines : List String) (m : BindingMethod) (es : List Expression) : Prop :=
  ∃ opening body execution, opening :: body ++ [execution] <:+: lines ∧
    readOpening opening.toList = some (m.operation.name, m.parameter) ∧
    (∀ line ∈ body, readOpening line.toList = none) ∧
    readExecution execution = some (m.constant, es) ∧
    ∀ e ∈ es, e.parameter = m.parameter

/-- A constant that is executed with a tuple is read back. -/
lemma readExecution_line {front : String}
    (hfront : ∀ cs, after? "connection.execute(" (front.toList ++ cs) = some cs) {constant : String}
    (hconstant : constant.toList.all isNameChar = true) (es : List Expression) (back : String) :
    readExecution (front ++ (constant ++ (", " ++
      (tupleText (es.map Expression.text) ++ (")" ++ back))))) = some (constant, es) := by
  have hall := List.all_eq_true.mp hconstant
  have htake (cs : List Char) :
      (constant.toList ++ (", ".toList ++ cs)).takeWhile isNameChar = constant.toList := by
    rw [List.takeWhile_append_of_pos hall]
    exact List.append_nil _
  have hdrop (cs : List Char) :
      (constant.toList ++ (", ".toList ++ cs)).dropWhile isNameChar = ", ".toList ++ cs := by
    rw [List.dropWhile_append_of_pos hall]
    rfl
  unfold readExecution
  rw [String.toList_append, hfront, String.toList_append, String.toList_append]
  simp only [Option.bind_eq_bind, Option.bind_some, htake, hdrop, skip_append]
  rw [String.toList_append, readTuple_tupleText]
  simp only [Option.bind_some, String.toList_append, skip_append, String.ofList_toList]
  rfl

/-- A line of the class. -/
def shift (line : String) : String :=
  if isBlankText line then line else spaces 4 ++ line

/-- The characters of two texts that are put together. -/
lemma toList_append_of_toList {s t : String} {cs ds : List Char} (hs : s.toList = cs)
    (ht : t.toList = ds) : (s ++ t).toList = cs ++ ds := by
  rw [String.toList_append, hs, ht]

/-- The characters of a line of the class, from those of the line that is moved. -/
lemma toList_shift {line : String} {cs : List Char} (h : line.toList = cs)
    (hblank : cs.all isBlank = false) : (shift line).toList = ' ' :: ' ' :: ' ' :: ' ' :: cs := by
  rw [shift, isBlankText, h, hblank, if_neg Bool.false_ne_true, String.toList_append, h]
  rfl

/-- A line that is moved stands on one line. -/
lemma isOneLine_shift {line : String} (h : IsOneLine line) : IsOneLine (shift line) := by
  have hspaces : IsOneLine (spaces 4) := by decide
  unfold shift
  split
  · exact h
  · exact hspaces.append h

/-- A line that opens a method is moved. -/
lemma readOpening_shift {line : String} {cs : List Char} (h : line.toList = cs)
    (hblank : cs.all isBlank = false) :
    readOpening (shift line).toList = readOpening (' ' :: ' ' :: ' ' :: ' ' :: cs) := by
  rw [toList_shift h hblank]

/-- The line of the class that executes a constant, from its text in the method. -/
lemma shift_execution {text front constant : String} (htext : isBlankText text = false)
    (hfront : spaces 4 ++ text = front ++ (constant ++ ", ")) (tuple : String) {tail back : String}
    (hback : tail = ")" ++ back) :
    shift (text ++ tuple ++ tail) = front ++ (constant ++ (", " ++ (tuple ++ (")" ++ back)))) := by
  have hblank : isBlankText (text ++ tuple ++ tail) = false := by
    unfold isBlankText at *
    rw [String.toList_append, String.toList_append, List.all_append, List.all_append, htext,
      Bool.false_and, Bool.false_and]
  rw [shift, hblank, if_neg Bool.false_ne_true, ← String.append_assoc, ← String.append_assoc, hfront,
    hback, String.append_assoc, String.append_assoc, String.append_assoc]

/-- A method of the class, from its lines among those of the operations. -/
lemma isInfix_shift {a : Artifacts} {op : Operation} {before body after : List String}
    {opening text tail front constant back : String}
    (hlines : before ++ (opening :: body ++ [text ++ boundTuple a op ++ tail]) ++ after =
      operationMethods a)
    (htext : isBlankText text = false) (hfront : spaces 4 ++ text = front ++ (constant ++ ", "))
    (hback : tail = ")" ++ back) :
    shift opening :: body.map shift ++
        [front ++ (constant ++ (", " ++ (boundTuple a op ++ (")" ++ back))))] <:+:
      (operationMethods a).map shift := by
  refine ⟨before.map shift, after.map shift, ?_⟩
  rw [← hlines, ← shift_execution htext hfront _ hback]
  simp only [List.map_append, List.map_cons, List.map_nil]

/-- The parts of a method of the class around its constant and its tuple. -/
structure IsMethod (m : BindingMethod) (opening : String) (body : List String)
    (front back : String) : Prop where
  /-- The first line opens the method. -/
  opens : readOpening opening.toList = some (m.operation.name, m.parameter)
  /-- No other line does. -/
  continues : ∀ line ∈ body, readOpening line.toList = none
  /-- The constant is executed after its front. -/
  executes : ∀ cs, after? "connection.execute(" (front.toList ++ cs) = some cs
  /-- The constant is a name. -/
  isName : m.constant.toList.all isNameChar = true
  /-- Every line of the body is one line. -/
  oneLine_body : ∀ line ∈ body, IsOneLine line
  /-- Every other part is one line. -/
  oneLine : ∀ part ∈ [opening, front, back], IsOneLine part

/-- A method of the class, from the characters of its parts. -/
lemma isMethod_shift {m : BindingMethod} {opening front back : String} {body : List String}
    {openingChars frontChars backChars : List Char} (hopening : opening.toList = openingChars)
    (hblank : openingChars.all isBlank = false)
    (hopens : readOpening (' ' :: ' ' :: ' ' :: ' ' :: openingChars) =
      some (m.operation.name, m.parameter))
    (hopeningLine : openingChars.all (fun c => !breaksLine c) = true)
    (hbody : ∀ line ∈ body, readOpening (shift line).toList = none ∧ IsOneLine (shift line))
    (hfront : front.toList = frontChars)
    (hexecutes : ∀ cs, after? "connection.execute(" (frontChars ++ cs) = some cs)
    (hfrontLine : frontChars.all (fun c => !breaksLine c) = true)
    (hback : back.toList = backChars) (hbackLine : backChars.all (fun c => !breaksLine c) = true)
    (hname : m.constant.toList.all isNameChar = true) :
    IsMethod m (shift opening) (body.map shift) front back where
  opens := (readOpening_shift hopening hblank).trans hopens
  continues := by
    rintro line hline
    obtain ⟨original, horiginal, rfl⟩ := List.mem_map.mp hline
    exact (hbody original horiginal).1
  executes := by
    rw [hfront]
    exact hexecutes
  isName := hname
  oneLine_body := by
    rintro line hline
    obtain ⟨original, horiginal, rfl⟩ := List.mem_map.mp hline
    exact (hbody original horiginal).2
  oneLine := by
    simp only [List.forall_mem_cons]
    refine ⟨isOneLine_shift (isOneLine_of_toList hopening hopeningLine),
      isOneLine_of_toList hfront hfrontLine, isOneLine_of_toList hback hbackLine, ?_⟩
    exact fun part hpart => absurd hpart List.not_mem_nil

/-- The line that asks for a connection opens no method. -/
lemma readOpening_connectionLine :
    readOpening (shift connectionLine).toList = none ∧ IsOneLine (shift connectionLine) := by
  have hindent : indent.toList = [' ', ' ', ' ', ' '] := String.toList_ofList
  have hrest : "with self._provider.acquire_connection() as connection:".toList = _ :=
    String.toList_ofList
  have hline : connectionLine.toList = _ := toList_append_of_toList hindent hrest
  exact ⟨(readOpening_shift hline rfl).trans rfl, isOneLine_shift (isOneLine_of_toList hline rfl)⟩

/-- The line that says what the insertion does. -/
def insertionNote : String :=
  indent ++ "\"\"\"Insert *obj* without its primary key; " ++
    "returns the new row id if the driver reports one.\"\"\""

/-- The line that says what the insertion does opens no method. -/
lemma readOpening_insertionNote :
    readOpening (shift insertionNote).toList = none ∧ IsOneLine (shift insertionNote) := by
  have hindent : indent.toList = [' ', ' ', ' ', ' '] := String.toList_ofList
  have hfirst : "\"\"\"Insert *obj* without its primary key; ".toList = _ :=
    String.toList_ofList
  have hsecond : "returns the new row id if the driver reports one.\"\"\"".toList = _ :=
    String.toList_ofList
  have hline : insertionNote.toList = _ :=
    toList_append_of_toList (toList_append_of_toList hindent hfirst) hsecond
  exact ⟨(readOpening_shift hline rfl).trans rfl, isOneLine_shift (isOneLine_of_toList hline rfl)⟩

/-- The methods stand in the class. -/
lemma exists_isMethod (a : Artifacts) {m : BindingMethod} (hm : m ∈ bindingMethods) :
    ∃ opening body front back, IsMethod m opening body front back ∧
      opening :: body ++ [front ++ (m.constant ++ (", " ++ (boundTuple a m.operation ++
        (")" ++ back))))] <:+: (operationMethods a).map shift := by
  let deep := indent ++ indent
  let lines := operationMethods a
  have hconnection : ∀ line ∈ [connectionLine],
      readOpening (shift line).toList = none ∧ IsOneLine (shift line) :=
    List.forall_mem_singleton.mpr readOpening_connectionLine
  simp only [bindingMethods, List.mem_cons, List.not_mem_nil, or_false] at hm
  rcases hm with rfl | rfl | rfl | rfl
  · have hlines : lines.take 10 ++ ("def insert(self, obj: Any) -> Any:" ::
        [insertionNote, connectionLine] ++
        [deep ++ "result = connection.execute(INSERT_SQL, " ++ boundTuple a .insert ++ ")"]) ++
        lines.drop 14 = operationMethods a := rfl
    refine ⟨_, _, "            result = connection.execute(", "", ?_,
      isInfix_shift hlines (by decide +kernel) (by decide +kernel) rfl⟩
    exact isMethod_shift String.toList_ofList rfl rfl rfl
      (List.forall_mem_cons.mpr ⟨readOpening_insertionNote, hconnection⟩)
      String.toList_ofList (fun _ => rfl) rfl String.toList_ofList rfl (by decide)
  · have hlines : lines.take 16 ++ ("def select_by_id(self, id_: Any) -> Any:" ::
        [connectionLine] ++
        [deep ++ "row = connection.execute(SELECT_BY_ID_SQL, " ++ boundTuple a .selectById ++
          ").fetchone()"]) ++ lines.drop 19 = operationMethods a := rfl
    refine ⟨_, _, "            row = connection.execute(", ".fetchone()", ?_,
      isInfix_shift hlines (by decide +kernel) (by decide +kernel) (by decide +kernel)⟩
    exact isMethod_shift String.toList_ofList rfl rfl rfl hconnection String.toList_ofList
      (fun _ => rfl) rfl String.toList_ofList rfl (by decide)
  · have hlines : lines.take 24 ++ ("def update(self, obj: Any) -> int:" ::
        [connectionLine] ++
        [deep ++ "return connection.execute(UPDATE_SQL, " ++ boundTuple a .update ++
          ").rowcount"]) ++ lines.drop 27 = operationMethods a := rfl
    refine ⟨_, _, "            return connection.execute(", ".rowcount", ?_,
      isInfix_shift hlines (by decide +kernel) (by decide +kernel) (by decide +kernel)⟩
    exact isMethod_shift String.toList_ofList rfl rfl rfl hconnection String.toList_ofList
      (fun _ => rfl) rfl String.toList_ofList rfl (by decide)
  · have hlines : lines.take 28 ++
        ("def delete_by_id(self, id_: Any, block: Callable[[int], Any]) -> None:" ::
        [connectionLine] ++
        [deep ++ "affected: int = connection.execute(DELETE_BY_ID_SQL, " ++
          boundTuple a .deleteById ++ ").rowcount"]) ++ lines.drop 31 = operationMethods a := rfl
    refine ⟨_, _, "            affected: int = connection.execute(", ".rowcount", ?_,
      isInfix_shift hlines (by decide +kernel) (by decide +kernel) (by decide +kernel)⟩
    exact isMethod_shift String.toList_ofList rfl rfl rfl hconnection String.toList_ofList
      (fun _ => rfl) rfl String.toList_ofList rfl (by decide)

/-- A method whose tuple is that of expressions about its parameter executes its constant with them,
in every text in whose lines it stands. -/
lemma executes_of_isMethod {lines : List String} {m : BindingMethod} {opening front back : String}
    {body : List String} (hmethod : IsMethod m opening body front back) {es : List Expression}
    (hlines : opening :: body ++ [front ++ (m.constant ++ (", " ++
      (tupleText (es.map Expression.text) ++ (")" ++ back))))] <:+: lines)
    (hparameter : ∀ e ∈ es, e.parameter = m.parameter) :
    Executes (physicalLines (joinLines lines)) m es := by
  have hparts := hmethod.oneLine
  simp only [List.forall_mem_cons] at hparts
  obtain ⟨hopening, hfront, hback, -⟩ := hparts
  have hexecution := hfront.append ((isOneLine_of_isName hmethod.isName).append
    ((show IsOneLine ", " by decide).append ((isOneLine_tupleText es).append
      ((show IsOneLine ")" by decide).append hback))))
  refine ⟨opening, body, _, isInfix_physicalLines hlines ?_, hmethod.opens, hmethod.continues,
    readExecution_line hmethod.executes hmethod.isName es back, hparameter⟩
  intro line hline
  rcases List.mem_append.mp hline with hline | hline
  · rcases List.mem_cons.mp hline with rfl | hline
    · exact hopening
    · exact hmethod.oneLine_body line hline
  · rw [List.mem_singleton.mp hline]
    exact hexecution

/-! ## Modules -/

/-- Bindings to columns are bindings to fields. -/
lemma source_of_mem_fieldBindings {position : Nat} {columns : List Column} {b : Binding}
    (h : b ∈ Schema.fieldBindings position columns) : b.source = .field := by
  induction columns generalizing position with
  | nil => exact absurd h List.not_mem_nil
  | cons c columns ih =>
    rcases List.mem_cons.mp h with rfl | h
    · rfl
    · exact ih h

/-- The statement that a method executes binds values of the parameter of the method. -/
lemma binds_parameter (s : Schema) {m : BindingMethod} (hm : m ∈ bindingMethods) :
    ∀ b ∈ (s.statement m.operation).bindings, (b.source = .field ∨ b.source = .id) ∧
      (Expression.ofBinding b).parameter = m.parameter := by
  have hfield {b : Binding} (hb : b.source = .field) :
      (b.source = .field ∨ b.source = .id) ∧ (Expression.ofBinding b).parameter = "obj" := by
    rw [Expression.ofBinding, hb]
    exact ⟨Or.inl rfl, rfl⟩
  have hkey : ∀ b ∈ [s.keyBinding .id 1],
      (b.source = .field ∨ b.source = .id) ∧ (Expression.ofBinding b).parameter = "id_" :=
    List.forall_mem_singleton.mpr ⟨Or.inr rfl, rfl⟩
  simp only [bindingMethods, List.mem_cons, List.not_mem_nil, or_false] at hm
  rcases hm with rfl | rfl | rfl | rfl
  · exact fun b hb => hfield (source_of_mem_fieldBindings hb)
  · exact hkey
  · intro b hb
    rcases List.mem_append.mp hb with hb | hb
    · exact hfield (source_of_mem_fieldBindings hb)
    · rw [List.mem_singleton.mp hb]
      exact hfield rfl
  · exact hkey

/-- The lines of the methods stand in the module. -/
lemma isInfix_operationMethods (a : Artifacts) (naming : Settings) :
    (operationMethods a).map shift <:+:
      headerLines a ++ constantLines a ++ ["", ""] ++ classLines a naming ++ [""] := by
  have hclass : (operationMethods a).map shift <:+: classLines a naming := by
    refine List.IsInfix.trans ?_ (List.prefix_append _ _).isInfix
    exact (List.suffix_cons "" _).isInfix.trans (List.suffix_append _ _).isInfix
  refine hclass.trans (List.IsInfix.trans ?_ (List.prefix_append _ _).isInfix)
  exact (List.suffix_append _ _).isInfix

/-- Lines denote artifacts. -/
structure Denotes (lines : List String) (a : Artifacts) : Prop where
  /-- The constants are defined one after the other, each on a line of its own, with the texts that
  are generated. -/
  constants : ∃ block, block <:+: lines ∧ block.filterMap readDefinition = constants a
  /-- Every method executes its constant with a tuple of expressions, whose values are those that the
  statement binds, in their order. -/
  tuples : ∀ m ∈ bindingMethods, ∃ es, Executes lines m es ∧
    ∀ (accessor : Access.Accessor) (given : Access.Given),
      es.mapM (Expression.evaluate given) = accessor.bindValues (a.statement m.operation) given

/-- **Rendered modules denote what is generated.** Whatever characters the names and the texts of an
entity hold, every constant of its module is defined on one line whose literal is its text, and every
method that binds values of its parameter binds the values that the statement asks for. -/
theorem denotes_of_generate {s : Schema} {queries : List Query} {settings : Settings}
    {a : Artifacts} (h : (s.generate queries settings).result = .ok a) (naming : Settings) :
    Denotes (physicalLines (moduleText a naming)) a := by
  obtain ⟨-, hstatement, -, -⟩ := Schema.generate_spec h
  constructor
  · refine ⟨constantLines a, ?_, filterMap_constantLines a⟩
    have hinfix : constantLines a <:+:
        headerLines a ++ constantLines a ++ ["", ""] ++ classLines a naming ++ [""] := by
      refine ⟨headerLines a, ["", ""] ++ classLines a naming ++ [""], ?_⟩
      simp only [List.append_assoc]
    exact isInfix_physicalLines hinfix fun line hline => isOneLine_of_mem_constantLines hline
  · intro m hm
    have hbinds := binds_parameter s hm
    rw [← hstatement] at hbinds
    have hsource := fun b hb => (hbinds b hb).1
    obtain ⟨opening, body, front, back, hmethod, hinfix⟩ := exists_isMethod a hm
    refine ⟨(a.statement m.operation).bindings.map Expression.ofBinding, ?_,
      fun accessor given => mapM_evaluate hsource⟩
    refine executes_of_isMethod hmethod ?_ ?_
    · rw [← tupleText_valueExpression a.key hsource]
      exact hinfix.trans (isInfix_operationMethods a naming)
    · intro e he
      obtain ⟨b, hb, rfl⟩ := List.mem_map.mp he
      exact (hbinds b hb).2

/-- A schema whose names hold quotes, backslashes and line breaks. -/
def awkward : Schema :=
  { entity := "It's"
    table := "a\"b'c\n\\"
    columns :=
      [{ name := "it's\r", hostType := "str", type := .text },
       { name := "id", hostType := "int", type := .int, isKey := true }]
    hasKey := rfl }

/-- The module of an entity whose names need escapes. -/
theorem denotes_awkward :
    ∃ a, (awkward.generate [{ name := "all", sql := "SELECT '\x00'" }] {}).result = .ok a ∧
      Denotes (physicalLines (moduleText a {})) a := by
  obtain ⟨a, ha⟩ := isOk_iff.mp
    (by decide +kernel :
      (awkward.generate [{ name := "all", sql := "SELECT '\x00'" }] {}).result.isOk = true)
  exact ⟨a, ha, denotes_of_generate ha {}⟩

end SqlMapping.Render
