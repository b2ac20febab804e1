import SqlMapping.Proofs.Entity.Resolved
import SqlMapping.Proofs.Statement.Create

/-!
# The statement that creates a table is unambiguous

The statement is read back from its tokens. A clause that begins with a name is a column, and one
that begins with `FOREIGN` is a reference; every optional group of words is recognised by its first
word, which no later group begins with. What is read is everything that the statement says about the
table (`TableShape`), so two schemas with the same text agree on all of it.
-/

namespace SqlMapping.Sql

open SqlMapping.Number SqlMapping.Text SqlMapping.Statement

/-! ## What the statement says -/

/-- What the clause of a column says. -/
structure ColumnShape where
  /-- The name. -/
  name : String
  /-- The SQL type with its size. -/
  sqlType : String
  /-- Whether the column is the key. -/
  isPrimary : Bool
  /-- Whether the values of the column are distinct. -/
  isUnique : Bool
  /-- Whether the column always has a value. -/
  isNotNull : Bool
  /-- The literal of the default; it is empty when there is no default. -/
  literal : Except OverlongInteger String

/-- What the statement that creates a table says. -/
structure TableShape where
  /-- The name of the table. -/
  table : String
  /-- The columns in their order. -/
  columns : List ColumnShape
  /-- The references in their order, each with the column it belongs to. -/
  references : List (String × Reference)

/-- What is to be said of a column of a schema. -/
def columnShape (s : Schema) (c : Column) : ColumnShape :=
  { name := c.name
    sqlType := c.sqlType
    isPrimary := decide (c = s.primaryKey)
    isUnique := c.isUnique
    isNotNull := c.isNotNull
    literal := c.default.literal }

/-- What is to be said of the table of a schema. -/
def tableShape (s : Schema) : TableShape :=
  ⟨s.table, s.columns.map (columnShape s), references s⟩

/-! ## The reader -/

/-- Reads the size of a type, if there is one. -/
def readSize : List Token → String × List Token
  | .symbol '(' :: .word n :: .symbol ')' :: rest => ("(" ++ n ++ ")", rest)
  | rest => ("", rest)

/-- Reads a group of words, if it is there. -/
def readFlag (words : List String) (ts : List Token) : Bool × List Token :=
  if (words.map Token.word).isPrefixOf ts then (true, ts.drop words.length) else (false, ts)

/-- The literal that a token stands for. -/
def readLiteral? : Token → Option String
  | .word w => some w
  | .text s => some (delimit '\'' s)
  | _ => none

/-- Reads the default at the end of a clause, if there is one. -/
def readDefault? : List Token → Option String
  | [] => some ""
  | [.word "DEFAULT", literal] => readLiteral? literal
  | _ => none

/-- Reads the clause of a column. -/
def readColumn? : List Token → Option ColumnShape
  | .name name :: .word type :: rest =>
    let (size, rest) := readSize rest
    let (isPrimary, rest) := readFlag ["PRIMARY", "KEY"] rest
    let (isUnique, rest) := readFlag ["UNIQUE"] rest
    let (isNotNull, rest) := readFlag ["NOT", "NULL"] rest
    (readDefault? rest).map fun literal =>
      ⟨name, type ++ size, isPrimary, isUnique, isNotNull, .ok literal⟩
  | _ => none

/-- Reads the words of an action. -/
def readAction : List Token → ReferentialAction × List Token
  | .word "CASCADE" :: rest => (.cascade, rest)
  | .word "SET" :: .word "NULL" :: rest => (.setNull, rest)
  | .word "SET" :: .word "DEFAULT" :: rest => (.setDefault, rest)
  | .word "RESTRICT" :: rest => (.restrict, rest)
  | rest => (.noAction, rest)

/-- Reads the action on an event, if there is one. -/
def readEvent (event : String) (ts : List Token) : ReferentialAction × List Token :=
  if [.word "ON", .word event].isPrefixOf ts then readAction (ts.drop 2) else (.noAction, ts)

/-- Reads the clause of a reference. -/
def readReference? : List Token → Option (String × Reference)
  | .word "FOREIGN" :: .word "KEY" :: .symbol '(' :: .name column :: .symbol ')' ::
      .word "REFERENCES" :: .name table :: .symbol '(' :: .name target :: .symbol ')' :: rest =>
    let (onDelete, rest) := readEvent "DELETE" rest
    let (onUpdate, _) := readEvent "UPDATE" rest
    some (column, ⟨table, target, onDelete, onUpdate⟩)
  | _ => none

/-- Reads the statement that creates a table. -/
def readTable? : List Token → Option TableShape
  | .word "CREATE" :: .word "TABLE" :: .name table :: .symbol '(' :: rest =>
    let clauses := rest.dropLast.splitOn (.symbol ',')
    some ⟨table, clauses.filterMap readColumn?, clauses.filterMap readReference?⟩
  | _ => none

/-! ## Columns -/

/-- A group of words that is there under a condition is read in front of tokens that do not begin
with its first word. -/
lemma readFlag_flagTokens (b : Bool) {first : String} (words : List String) {rest : List Token}
    (hrest : rest.head? ≠ some (.word first)) :
    readFlag (first :: words) (flagTokens b (first :: words) ++ rest) = (b, rest) := by
  cases b with
  | true =>
    have hprefix : ((first :: words).map Token.word).isPrefixOf
        ((first :: words).map Token.word ++ rest) = true :=
      List.isPrefixOf_iff_prefix.mpr (List.prefix_append _ _)
    rw [flagTokens, if_pos rfl, readFlag, if_pos hprefix, List.drop_left' (List.length_map _)]
  | false =>
    have hprefix : ¬((first :: words).map Token.word).isPrefixOf rest = true := by
      intro h
      cases rest with
      | nil => exact absurd h (by simp)
      | cons t rest =>
        rw [List.map_cons, List.isPrefixOf_cons_cons, Bool.and_eq_true, beq_iff_eq] at h
        exact hrest (congrArg some h.1.symm)
    rw [flagTokens, if_neg Bool.false_ne_true, List.nil_append, readFlag, if_neg hprefix]

/-- A group of words in front of other tokens does not begin with a token that neither its first
word is nor the other tokens begin with. -/
lemma head_flagTokens_ne (b : Bool) {first : String} (words : List String) {rest : List Token}
    {t : Token} (hfirst : .word first ≠ t) (hrest : rest.head? ≠ some t) :
    (flagTokens b (first :: words) ++ rest).head? ≠ some t := by
  cases b with
  | true => exact fun h => hfirst (Option.some.inj h)
  | false => exact hrest

/-- A default is nothing, or begins with a word of its own. -/
lemma head_defaultTokens_ne (d : DefaultValue) {t : Token} (ht : .word "DEFAULT" ≠ t) :
    (defaultTokens d).head? ≠ some t := by
  rw [defaultTokens]
  cases literalToken? d with
  | none => simp
  | some literal => exact fun h => ht (Option.some.inj h)

/-- The literal of a default is read back. -/
lemma readDefault_defaultTokens {d : DefaultValue} {literal : String}
    (h : d.literal = .ok literal) : readDefault? (defaultTokens d) = some literal := by
  have hinteger : ∀ n, writeInteger n = .ok literal → intText n = literal := by
    intro n hn
    rw [writeInteger] at hn
    split_ifs at hn
    exact Except.ok.inj hn
  cases d with
  | none => exact congrArg some (Except.ok.inj h)
  | integer width n => exact congrArg some (hinteger n h)
  | whole precision n => exact congrArg some (hinteger n h)
  | real precision x => exact congrArg some (Except.ok.inj h)
  | bool b => exact congrArg some (Except.ok.inj h)
  | text s => exact congrArg some (Except.ok.inj h)

/-- The text of the size of a type. -/
def sizeText : Option Int → String
  | some n => "(" ++ intText n ++ ")"
  | none => ""

/-- An SQL type is the name of a column type with the size. -/
lemma sqlType_eq (c : Column) : c.sqlType = c.type.name ++ sizeText c.size := by
  unfold Column.sqlType sizeText
  cases c.size with
  | none => exact String.append_empty.symm
  | some n => simp only [String.append_assoc]

/-- The size of a type is read back in front of tokens that do not begin with a parenthesis. -/
lemma readSize_sizeTokens (size : Option Int) {rest : List Token}
    (hrest : rest.head? ≠ some (.symbol '(')) :
    readSize (sizeTokens size ++ rest) = (sizeText size, rest) := by
  cases size with
  | some n => rfl
  | none =>
    show readSize rest = ("", rest)
    unfold readSize
    split
    · exact absurd rfl hrest
    · rfl

/-- The clause of a column is read back. -/
lemma readColumn_columnTokens {c : Column} {literal : String} (isPrimary : Bool)
    (h : c.default.literal = .ok literal) :
    readColumn? (columnTokens c isPrimary) = some
      ⟨c.name, c.sqlType, c.isKey && isPrimary, c.isUnique, c.isNotNull, c.default.literal⟩ := by
  -- whichever groups are left out, what follows a group does not begin like it
  have hnotNull : (defaultTokens c.default).head? ≠ some (.word "NOT") :=
    head_defaultTokens_ne _ (by decide)
  have hunique : (flagTokens c.isNotNull ["NOT", "NULL"] ++ defaultTokens c.default).head? ≠
      some (.word "UNIQUE") :=
    head_flagTokens_ne _ _ (by decide) (head_defaultTokens_ne _ (by decide))
  have hprimary : (flagTokens c.isUnique ["UNIQUE"] ++
      (flagTokens c.isNotNull ["NOT", "NULL"] ++ defaultTokens c.default)).head? ≠
      some (.word "PRIMARY") :=
    head_flagTokens_ne _ _ (by decide)
      (head_flagTokens_ne _ _ (by decide) (head_defaultTokens_ne _ (by decide)))
  have hsize : (flagTokens (c.isKey && isPrimary) ["PRIMARY", "KEY"] ++
      (flagTokens c.isUnique ["UNIQUE"] ++
        (flagTokens c.isNotNull ["NOT", "NULL"] ++ defaultTokens c.default))).head? ≠
      some (.symbol '(') :=
    head_flagTokens_ne _ _ (by decide) (head_flagTokens_ne _ _ (by decide)
      (head_flagTokens_ne _ _ (by decide) (head_defaultTokens_ne _ (by decide))))
  rw [columnTokens, constraintTokens, List.append_assoc, List.append_assoc, readColumn?,
    readSize_sizeTokens _ hsize]
  dsimp only
  rw [readFlag_flagTokens _ _ hprimary]
  dsimp only
  rw [readFlag_flagTokens _ _ hunique]
  dsimp only
  rw [readFlag_flagTokens _ _ hnotNull]
  dsimp only
  rw [readDefault_defaultTokens h, sqlType_eq, h]
  rfl

/-! ## References -/

/-- The clause of a reference is read back. -/
lemma readReference_referenceTokens (column : String) (r : Reference) :
    readReference? (referenceTokens column r) = some (column, r) := by
  obtain ⟨table, target, onDelete, onUpdate⟩ := r
  cases onDelete <;> cases onUpdate <;> rfl

/-- The clause of a reference is not one of a column. -/
lemma readColumn_referenceTokens (column : String) (r : Reference) :
    readColumn? (referenceTokens column r) = none :=
  rfl

/-- The clause of a column is not one of a reference. -/
lemma readReference_columnTokens (c : Column) (isPrimary : Bool) :
    readReference? (columnTokens c isPrimary) = none :=
  rfl

/-! ## The statement -/

/-- Every default of a table whose statement is written has a literal. -/
lemma literal_of_createTable {s : Schema} {text : String} (h : s.createTable = .ok text) :
    ∀ c ∈ s.columns, ∃ literal, c.default.literal = .ok literal := by
  intro c hc
  obtain ⟨clauses, hclauses, -⟩ := map_eq_ok.mp h
  obtain ⟨clause, -, hclause⟩ := exists_of_mapM_eq_ok hclauses hc
  obtain ⟨default, hdefault, -⟩ := map_eq_ok.mp hclause
  obtain ⟨literal, hliteral, -⟩ := map_eq_ok.mp hdefault
  exact ⟨literal, hliteral⟩

/-- In a resolved schema the constraint of the key is written for the key and for no other column.
-/
lemma isPrimary_iff {s : Schema} (hnames : s.columnNames.Nodup) {c : Column} (hc : c ∈ s.columns) :
    (c.isKey && c.name == s.primaryKey.name) = decide (c = s.primaryKey) := by
  by_cases hkey : c = s.primaryKey
  · rw [decide_eq_true hkey, hkey, s.isKey_primaryKey, beq_self_eq_true]
    rfl
  · have hname : (c.name == s.primaryKey.name) = false := by
      rw [beq_eq_false_iff_ne]
      exact fun heq => hkey (Schema.eq_primaryKey_of_name hnames hc heq)
    rw [decide_eq_false hkey, hname, Bool.and_false]

/-- The columns are read back from the clauses. -/
lemma readColumns_clauseTokens {s : Schema} (hnames : s.columnNames.Nodup)
    (hliteral : ∀ c ∈ s.columns, ∃ literal, c.default.literal = .ok literal) :
    (clauseTokens s).filterMap readColumn? = s.columns.map (columnShape s) := by
  have hcolumns : ∀ c ∈ s.columns,
      (readColumn? ∘ fun c => columnTokens c (c.name == s.primaryKey.name)) c =
        (some ∘ columnShape s) c := by
    intro c hc
    obtain ⟨literal, hc'⟩ := hliteral c hc
    exact (readColumn_columnTokens _ hc').trans
      (congrArg (fun b => some (ColumnShape.mk _ _ b _ _ _)) (isPrimary_iff hnames hc))
  have hreferences : ∀ reference ∈ references s,
      (readColumn? ∘ fun reference => referenceTokens reference.1 reference.2) reference = none :=
    fun reference _ => readColumn_referenceTokens reference.1 reference.2
  rw [clauseTokens, List.filterMap_append, List.filterMap_map, List.filterMap_map,
    List.filterMap_congr hcolumns, List.filterMap_eq_nil_iff.mpr hreferences, List.append_nil,
    List.filterMap_eq_map]

/-- The references are read back from the clauses. -/
lemma readReferences_clauseTokens (s : Schema) :
    (clauseTokens s).filterMap readReference? = references s := by
  have hcolumns : ∀ c ∈ s.columns,
      (readReference? ∘ fun c => columnTokens c (c.name == s.primaryKey.name)) c = none :=
    fun c _ => readReference_columnTokens c _
  have hreferences : ∀ reference ∈ references s,
      (readReference? ∘ fun reference => referenceTokens reference.1 reference.2) reference =
        some reference :=
    fun reference _ => readReference_referenceTokens reference.1 reference.2
  rw [clauseTokens, List.filterMap_append, List.filterMap_map, List.filterMap_map,
    List.filterMap_eq_nil_iff.mpr hcolumns, List.filterMap_congr hreferences, List.nil_append,
    List.filterMap_some]

/-- The clauses between the commas of a statement that creates a table. -/
def clauses (ts : List Token) : List (List Token) :=
  (ts.drop 4).dropLast.splitOn (.symbol ',')

/-- The clauses of the statement are those of the schema. -/
lemma clauses_createTokens (s : Schema) : clauses (createTokens s) = clauseTokens s := by
  have hne : clauseTokens s ≠ [] := by
    have hcolumns : s.columns ≠ [] := List.ne_nil_of_mem s.primaryKey_mem
    simp [clauseTokens, hcolumns]
  have hcomma : ∀ ts ∈ clauseTokens s, Token.symbol ',' ∉ ts :=
    fun ts hts => notMem_of_mem_clauseTokens hts rfl
  have hinside : (createTokens s).drop 4 = commaTokens (clauseTokens s) ++ [.symbol ')'] := rfl
  rw [clauses, hinside, List.dropLast_concat, commaTokens, List.splitOn_intercalate _ hcomma hne]

/-- **The statement is read back.** The text that creates the table of a schema with distinct column
names says what is to be said of the table. -/
theorem readTable_createTable {s : Schema} {text : String} (hnames : s.columnNames.Nodup)
    (h : s.createTable = .ok text) : readTable? (tokens text) = some (tableShape s) := by
  have hread : readTable? (createTokens s) =
      some ⟨s.table, (clauseTokens s).filterMap readColumn?,
        (clauseTokens s).filterMap readReference?⟩ := by
    rw [← clauses_createTokens]
    rfl
  rw [tokens_createTable h, hread, readReferences_clauseTokens,
    readColumns_clauseTokens hnames (literal_of_createTable h)]
  rfl

/-- **The statement that creates a table is unambiguous.** Two resolved schemas with the same text
have the same table name, the same columns with the same types, constraints and defaults, and the
same references. -/
theorem tableShape_eq_of_createTable_eq {entity entity' : String} {table table' : Option String}
    {fields fields' : List FieldInput} {settings settings' : Settings} {s s' : Schema}
    {text : String} (h : (Schema.resolve entity table fields settings).result = .ok s)
    (h' : (Schema.resolve entity' table' fields' settings').result = .ok s')
    (htext : s.createTable = .ok text) (htext' : s'.createTable = .ok text) :
    tableShape s = tableShape s' := by
  have hread := readTable_createTable (Schema.columnNames_nodup h) htext
  have hread' := readTable_createTable (Schema.columnNames_nodup h') htext'
  exact Option.some.inj (hread.symm.trans hread')

/-- Two declarations of one table: the second one has another entity name, flags two keys, and
spells out the default size. -/
theorem tableShape_eq_twoDeclarations :
    ∃ s s' text,
      (Schema.resolve "Note" (some "a`, `b")
        [.declared { name := "id` INT", columnType := some .int, isKey := true },
         .declared
          { name := "t,", columnType := some .varChar, isUnique := true,
            default := some (.text "', `x` INT NOT NULL "),
            reference := some { table := "t` (", column := "c", onDelete := .setNull } }]
        {}).result = .ok s ∧
      (Schema.resolve "Remark" (some "a`, `b")
        [.declared { name := "id` INT", columnType := some .int, isKey := true },
         .declared
          { name := "t,", columnType := some .varChar, size := some 255, isKey := true,
            isUnique := true, default := some (.text "', `x` INT NOT NULL "),
            reference := some { table := "t` (", column := "c", onDelete := .setNull } }]
        { rejectsSeveralKeys := false }).result = .ok s' ∧
      s.createTable = .ok text ∧ s'.createTable = .ok text ∧ tableShape s = tableShape s' := by
  refine ⟨?_, ?_, ?_, ?first, ?second, ?text, ?text',
    tableShape_eq_of_createTable_eq ?first ?second ?text ?text'⟩
  case first => rfl
  case second => rfl
  case text => rfl
  case text' => rfl

end SqlMapping.Sql
