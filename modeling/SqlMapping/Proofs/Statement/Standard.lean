import SqlMapping.Proofs.Sql.Token
import SqlMapping.Statement.Standard

/-!
# Tokens of the standard statements

What the texts of insert, select, update and delete statements consist of, whatever the names of the
table and of its columns are.
-/

namespace SqlMapping.Sql

open SqlMapping.Text SqlMapping.Statement

/-- The tokens of a list of names. -/
def nameTokens (names : List String) : List Token :=
  commaTokens (names.map fun name => [.name name])

/-- The tokens of the condition that a column equals a bound value. -/
def conditionTokens (column : String) : List Token :=
  [.word "WHERE", .name column, .symbol '=', .mark]

/-- The tokens of an insert into columns of a table. -/
def insertTokens (table : String) (columns : List String) : List Token :=
  [.word "INSERT", .word "INTO", .name table, .symbol '('] ++ nameTokens columns ++
    [.symbol ')', .word "VALUES", .symbol '('] ++ commaTokens (columns.map fun _ => [.mark]) ++
      [.symbol ')']

/-- The tokens of a select of columns of a table by its key. -/
def selectTokens (table : String) (columns : List String) (key : String) : List Token :=
  .word "SELECT" :: nameTokens columns ++ [.word "FROM", .name table] ++ conditionTokens key

/-- The tokens of an update of columns of a table by its key. -/
def updateTokens (table : String) (columns : List String) (key : String) : List Token :=
  [.word "UPDATE", .name table, .word "SET"] ++
    commaTokens (columns.map fun column => [.name column, .symbol '=', .mark]) ++
      conditionTokens key

/-- The tokens of a delete from a table by its key. -/
def deleteTokens (table key : String) : List Token :=
  [.word "DELETE", .word "FROM", .name table] ++ conditionTokens key

/-- A list of names holds names and commas only. -/
lemma notMem_nameTokens {t : Token} (hcomma : t ≠ .symbol ',') (hname : t.name? = none)
    (names : List String) : t ∉ nameTokens names := by
  refine notMem_commaTokens hcomma fun ts hts hmem => ?_
  obtain ⟨name, -, rfl⟩ := List.mem_map.mp hts
  obtain rfl := List.mem_singleton.mp hmem
  exact absurd hname (by simp [Token.name?])

/-- The names of a list of names. -/
lemma filterMap_nameTokens (names : List String) :
    (nameTokens names).filterMap Token.name? = names := by
  induction names with
  | nil => rfl
  | cons first names ih =>
    cases names with
    | nil => rfl
    | cons second names =>
      have hcons : nameTokens (first :: second :: names) =
          .name first :: .symbol ',' :: nameTokens (second :: names) :=
        List.intercalate_cons_cons
      have hname : (Token.name first).name? = some first := rfl
      have hcomma : (Token.symbol ',').name? = none := rfl
      rw [hcons, List.filterMap_cons_some hname, List.filterMap_cons_none hcomma, ih]

/-- A quoted name that is set equal to a bound value. -/
lemma closes_assignment (column : String) :
    Closes (quoteName column ++ " = ?") [.name column, .symbol '=', .mark] :=
  (spells_quoteName column).append_closes (fun _ => rfl : Closes " = ?" [.symbol '=', .mark])
    fun _ => rfl

/-- The names of columns with commas between them. -/
lemma spells_names (columns : List Column) :
    Spells (commaList (columns.map fun c => quoteName c.name))
      (nameTokens (columns.map Column.name)) := by
  rw [nameTokens, List.map_map]
  exact spells_commaList_map fun c _ => spells_quoteName c.name

/-- The condition on the key. -/
lemma closes_keyCondition (s : Schema) :
    Closes s.keyCondition (conditionTokens s.primaryKey.name) := by
  have hwhere : Closes "WHERE " [.word "WHERE"] := fun _ => rfl
  have hbound : Closes " = ?" [.symbol '=', .mark] := fun _ => rfl
  exact (hwhere.append (spells_quoteName _)).append_closes hbound fun _ => rfl

/-- The tokens of the insert statement. -/
theorem tokens_insert (s : Schema) :
    tokens s.insert.sql = insertTokens s.table (s.nonKeyColumns.map Column.name) := by
  have hinsert : Closes "INSERT INTO " [.word "INSERT", .word "INTO"] := fun _ => rfl
  have hopen : Closes " (" [.symbol '('] := fun _ => rfl
  have hvalues : Closes ") VALUES (" [.symbol ')', .word "VALUES", .symbol '('] := fun _ => rfl
  have hclose : Closes ")" [.symbol ')'] := fun _ => rfl
  have hmarks : Spells (commaList (s.nonKeyColumns.map fun _ => "?"))
      (commaTokens ((s.nonKeyColumns.map Column.name).map fun _ => [.mark])) := by
    rw [List.map_map]
    exact spells_commaList_map fun _ _ _ _ => rfl
  have htable := (hinsert.append (spells_quoteName s.table)).append_closes hopen fun _ => rfl
  have hcolumns := htable.append (spells_names s.nonKeyColumns)
  have hall := ((hcolumns.append_closes hvalues fun _ => rfl).append hmarks).append_closes hclose
    fun _ => rfl
  exact hall.spells.tokens_eq

/-- The tokens of the select statements. -/
theorem tokens_select (s : Schema) :
    tokens s.selectText = selectTokens s.table s.columnNames s.primaryKey.name := by
  have hselect : Closes "SELECT " [.word "SELECT"] := fun _ => rfl
  have hfrom : Closes " FROM " [.word "FROM"] := fun _ => rfl
  have hspace : Closes " " [] := fun _ => rfl
  have hnames : Spells (commaList (s.columnNames.map quoteName)) (nameTokens s.columnNames) := by
    rw [Schema.columnNames, List.map_map]
    exact spells_names s.columns
  have htable := ((hselect.append hnames).append_closes hfrom fun _ => rfl).append
    (spells_quoteName s.table)
  have hall := (htable.append_closes hspace fun _ => rfl).append (closes_keyCondition s).spells
  rw [Schema.selectText, hall.tokens_eq]
  simp [selectTokens]

/-- The tokens of the update statement. -/
theorem tokens_update (s : Schema) :
    tokens s.update.sql = updateTokens s.table s.columnNames s.primaryKey.name := by
  have hupdate : Closes "UPDATE " [.word "UPDATE"] := fun _ => rfl
  have hset : Closes " SET " [.word "SET"] := fun _ => rfl
  have hspace : Closes " " [] := fun _ => rfl
  have hassignments : Spells (commaList (s.columns.map fun c => quoteName c.name ++ " = ?"))
      (commaTokens (s.columnNames.map fun column => [.name column, .symbol '=', .mark])) := by
    rw [Schema.columnNames, List.map_map]
    exact spells_commaList_map fun c _ => (closes_assignment c.name).spells
  have hcolumns := ((hupdate.append (spells_quoteName s.table)).append_closes hset
    fun _ => rfl).append hassignments
  have hall := (hcolumns.append_closes hspace fun _ => rfl).append (closes_keyCondition s).spells
  rw [Schema.update, hall.tokens_eq]
  simp [updateTokens]

/-- The tokens of the delete statements. -/
theorem tokens_delete (s : Schema) :
    tokens s.deleteText = deleteTokens s.table s.primaryKey.name := by
  have hdelete : Closes "DELETE FROM " [.word "DELETE", .word "FROM"] := fun _ => rfl
  have hspace : Closes " " [] := fun _ => rfl
  have htable := (hdelete.append (spells_quoteName s.table)).append_closes hspace fun _ => rfl
  have hall := htable.append (closes_keyCondition s).spells
  rw [Schema.deleteText, hall.tokens_eq]
  simp [deleteTokens]

end SqlMapping.Sql
