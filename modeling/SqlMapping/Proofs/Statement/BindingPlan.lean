import SqlMapping.Proofs.Entity.Resolved
import SqlMapping.Proofs.Sql.Placeholder
import SqlMapping.Proofs.Statement.Create
import SqlMapping.Proofs.Statement.Standard

/-!
# Statements and their binding plans

The text of a statement and the list of its bindings are built apart from each other. This module
proves that they agree for every resolved schema: the `k`-th placeholder that the scan of a driver
meets stands for the column of the `k`-th binding.

What a placeholder stands for is read off the text. `placeholderColumns` cuts the text where the
scan sees placeholders. A placeholder behind the name of a column and an equals sign stands for that
column; any other one is a value in a list, and stands for the listed column of the same place.
-/

namespace SqlMapping.Sql

open SqlMapping.Text SqlMapping.Statement

/-! ## The column of a placeholder -/

/-- The tokens between each placeholder that the scan sees and the placeholder before it. -/
def leads (sql : String) : List (List Token) :=
  ((parts sql).1 :: (parts sql).2).dropLast.map lex

/-- The column that a placeholder is compared with or assigned to, by the tokens in front of it. -/
def comparedColumn? (lead : List Token) : Option String :=
  match lead.reverse with
  | .symbol '=' :: .name column :: _ => some column
  | _ => none

/-- The names between the first parentheses of a statement. -/
def listedColumns (ts : List Token) : List String :=
  ((ts.dropWhile (· != .symbol '(')).takeWhile (· != .symbol ')')).filterMap Token.name?

/-- The columns that the placeholders of a statement stand for, in the order in which the scan meets
the placeholders. -/
def placeholderColumns (sql : String) : List (Option String) :=
  (leads sql).zipIdx.map fun (lead, place) =>
    (comparedColumn? lead).or (listedColumns (tokens sql))[place]?

example : placeholderColumns "UPDATE `t?` SET `a` = ?, `b``?` = ? WHERE `a` = ?" =
    [some "a", some "b`?", some "a"] := by decide

/-- The tokens in front of the placeholders are the tokens of the text, cut at the placeholders. -/
lemma leads_eq (sql : String) : leads sql = ((tokens sql).splitOn .mark).dropLast := by
  rw [splitOn_mark_tokens, leads, ← List.map_cons, List.map_dropLast]

/-- There are as many leads as placeholders. -/
lemma length_leads (sql : String) : (leads sql).length = placeholderCount sql := by
  simp [leads, placeholderCount]

/-- Placeholders that are all compared with or assigned to columns stand for these. -/
lemma placeholderColumns_of_compared {sql : String} {columns : List String}
    (h : (leads sql).map comparedColumn? = columns.map some) :
    placeholderColumns sql = columns.map some := by
  have hsome : ∀ p ∈ (leads sql).zipIdx,
      (comparedColumn? p.1).or (listedColumns (tokens sql))[p.2]? = comparedColumn? p.1 := by
    intro p hp
    have hmem : comparedColumn? p.1 ∈ columns.map some := by
      rw [← h]
      exact List.mem_map_of_mem (List.fst_mem_of_mem_zipIdx hp)
    obtain ⟨column, -, hcolumn⟩ := List.mem_map.mp hmem
    rw [← hcolumn]
    rfl
  rw [placeholderColumns, List.map_congr_left hsome, ← h]
  conv_rhs => rw [← List.zipIdx_map_fst 0 (leads sql), List.map_map]
  rfl

/-- Placeholders that are as many as the listed columns, and none of which is compared with a
column, stand for the listed columns. -/
lemma placeholderColumns_of_listed {sql : String}
    (hvalues : ∀ lead ∈ leads sql, comparedColumn? lead = none)
    (hlength : (leads sql).length = (listedColumns (tokens sql)).length) :
    placeholderColumns sql = (listedColumns (tokens sql)).map some := by
  apply List.ext_getElem
  · simp [placeholderColumns, hlength]
  · intro k hk hk'
    have hlead : k < (leads sql).length := by simpa [placeholderColumns] using hk
    have hlisted : k < (listedColumns (tokens sql)).length := hlength ▸ hlead
    have hnone := hvalues _ (List.getElem_mem hlead)
    simp [placeholderColumns, hnone, hlisted]

/-- Items of a list that each end in a placeholder, between other tokens. -/
lemma splitOn_marked {α : Type} {f : α → List Token} (hf : ∀ a, Token.mark ∉ f a)
    {lead : List Token} (hlead : Token.mark ∉ lead) (a : α) (as : List α) (rest : List Token) :
    (lead ++ commaTokens ((a :: as).map fun a => f a ++ [Token.mark]) ++ rest).splitOn .mark =
      (lead ++ f a) :: as.map (fun a => .symbol ',' :: f a) ++ rest.splitOn .mark := by
  induction as generalizing lead a with
  | nil =>
    have hfirst : Token.mark ∉ lead ++ f a := by simp [hlead, hf a]
    have hitems : lead ++ commaTokens ([a].map fun a => f a ++ [Token.mark]) ++ rest =
        (lead ++ f a) ++ Token.mark :: rest := by
      rw [List.map_singleton, commaTokens, List.intercalate_singleton]
      simp
    rw [hitems, List.splitOn_append_cons_self_of_not_mem hfirst]
    rfl
  | cons b bs ih =>
    -- the comma behind the first placeholder leads to the second item
    have hfirst : Token.mark ∉ lead ++ f a := by simp [hlead, hf a]
    have hcomma : Token.mark ∉ [Token.symbol ','] := by decide
    have hitems : lead ++ commaTokens ((a :: b :: bs).map fun a => f a ++ [Token.mark]) ++ rest =
        (lead ++ f a) ++ Token.mark :: ([Token.symbol ','] ++
          commaTokens ((b :: bs).map fun a => f a ++ [Token.mark]) ++ rest) := by
      rw [List.map_cons, List.map_cons, commaTokens, List.intercalate_cons_cons]
      simp [commaTokens]
    rw [hitems, List.splitOn_append_cons_self_of_not_mem hfirst, ih hcomma b]
    rfl

/-! ## The placeholders of the layouts -/

/-- Tokens that end in the name of a column and an equals sign. -/
lemma comparedColumn_append (lead : List Token) (column : String) :
    comparedColumn? (lead ++ [Token.name column, .symbol '=']) = some column := by
  simp [comparedColumn?]

/-- The one placeholder of a text that ends in a condition. -/
lemma compared_condition (front : List Token) (hfront : Token.mark ∉ front) (key : String) :
    (((front ++ conditionTokens key).splitOn .mark).dropLast).map comparedColumn? = [some key] := by
  have hlead : Token.mark ∉ front ++ [Token.word "WHERE", .name key, .symbol '='] := by
    simp [hfront]
  have hcut : front ++ conditionTokens key =
      (front ++ [Token.word "WHERE", .name key, .symbol '=']) ++ [Token.mark] := by
    simp [conditionTokens]
  have hfound := comparedColumn_append (front ++ [Token.word "WHERE"]) key
  rw [List.append_assoc] at hfound
  rw [hcut, List.splitOn_append_cons_self_of_not_mem hlead]
  simpa using hfound

/-- The placeholders of an update stand for its columns and then for the key. -/
lemma compared_update (table : String) (columns : List String) (key : String) :
    (((updateTokens table columns key).splitOn .mark).dropLast).map comparedColumn? =
      (columns ++ [key]).map some := by
  have hlead : Token.mark ∉ [Token.word "UPDATE", .name table, .word "SET"] := by simp
  cases columns with
  | nil => exact compared_condition _ hlead key
  | cons first columns =>
    have hmarked : ∀ column : String, Token.mark ∉ [Token.name column, Token.symbol '='] := by simp
    have hcut := splitOn_marked hmarked hlead first columns (conditionTokens key)
    have hcondition := compared_condition [] List.not_mem_nil key
    have hlayout : updateTokens table (first :: columns) key =
        [Token.word "UPDATE", .name table, .word "SET"] ++
          commaTokens ((first :: columns).map fun column =>
            [Token.name column, .symbol '='] ++ [Token.mark]) ++ conditionTokens key := rfl
    rw [List.nil_append] at hcondition
    rw [hlayout, hcut, List.dropLast_append_of_ne_nil (List.splitOn_ne_nil _ _), List.map_append,
      hcondition, List.map_cons, comparedColumn_append, List.map_map]
    have hothers : (comparedColumn? ∘ fun column => [Token.symbol ',', .name column, .symbol '=']) =
        some := by
      funext column
      exact comparedColumn_append [Token.symbol ','] column
    rw [hothers]
    simp

/-- The placeholders of a list of values are not compared with columns. -/
lemma compared_values {front : List Token} (hfront : Token.mark ∉ front)
    (hvalue : comparedColumn? front = none) (columns : List String) :
    (((front ++ commaTokens (columns.map fun _ => [Token.mark]) ++ [Token.symbol ')']).splitOn
      Token.mark).dropLast).map comparedColumn? = columns.map fun _ => none := by
  have hend : Token.mark ∉ [Token.symbol ')'] := by decide
  cases columns with
  | nil =>
    have hwhole : Token.mark ∉ front ++ commaTokens [] ++ [Token.symbol ')'] := by
      simp [hfront, commaTokens]
    rw [List.map_nil, List.splitOn_eq_singleton hwhole]
    rfl
  | cons first others =>
    have hempty : ∀ _ : String, Token.mark ∉ ([] : List Token) := fun _ => List.not_mem_nil
    have hcut := splitOn_marked hempty hfront first others [Token.symbol ')']
    rw [List.append_nil, List.splitOn_eq_singleton hend] at hcut
    have hlayout : (first :: others).map (fun _ => [Token.mark]) =
        (first :: others).map fun _ => [] ++ [Token.mark] := rfl
    rw [hlayout, hcut, List.dropLast_concat, List.map_cons, hvalue, List.map_map]
    rfl

/-- The placeholders of an insert are as many as its columns, and are not compared with columns. -/
lemma compared_insert (table : String) (columns : List String) :
    (((insertTokens table columns).splitOn .mark).dropLast).map comparedColumn? =
      columns.map fun _ => none := by
  have hnames : Token.mark ∉ nameTokens columns := notMem_nameTokens (by decide) rfl columns
  refine compared_values ?_ ?_ columns
  · simp [hnames]
  · simp [comparedColumn?]

/-- The columns that an insert lists. -/
lemma listedColumns_insert (table : String) (columns : List String) :
    listedColumns (insertTokens table columns) = columns := by
  have hclose : ∀ t ∈ .symbol '(' :: nameTokens columns, (t != Token.symbol ')') = true := by
    intro t ht
    rcases List.mem_cons.mp ht with rfl | ht
    · rfl
    · rw [bne_iff_ne]
      rintro rfl
      exact notMem_nameTokens (by decide) rfl columns ht
  have hopened : (insertTokens table columns).dropWhile (· != .symbol '(') =
      .symbol '(' :: nameTokens columns ++ .symbol ')' :: ([Token.word "VALUES", .symbol '('] ++
        commaTokens (columns.map fun _ => [Token.mark]) ++ [Token.symbol ')']) := by
    simp [insertTokens]
  rw [listedColumns, hopened, List.takeWhile_append_of_pos hclose, List.takeWhile_cons_of_neg,
    List.append_nil, List.filterMap_cons_none rfl, filterMap_nameTokens]
  decide

/-! ## Bindings -/

/-- The names that are bound to fields. -/
lemma map_name_fieldBindings (position : Nat) (columns : List Column) :
    (Schema.fieldBindings position columns).map Binding.name = columns.map Column.name := by
  induction columns generalizing position with
  | nil => rfl
  | cons c columns ih =>
    rw [Schema.fieldBindings, List.map_cons, List.map_cons, ih]

/-- The placeholders of fields are numbered in turn. -/
lemma map_position_fieldBindings (position : Nat) (columns : List Column) :
    (Schema.fieldBindings position columns).map Binding.position =
      List.range' position columns.length := by
  induction columns generalizing position with
  | nil => rfl
  | cons c columns ih =>
    rw [Schema.fieldBindings, List.map_cons, ih, List.length_cons, List.range'_succ]

/-- There is one binding for each field. -/
lemma length_fieldBindings (position : Nat) (columns : List Column) :
    (Schema.fieldBindings position columns).length = columns.length := by
  have hlength := congrArg List.length (map_name_fieldBindings position columns)
  simpa using hlength

/-- An insert takes one value for each column but the key. -/
lemma parameterCount_insert (s : Schema) : s.insert.parameterCount = s.nonKeyColumns.length :=
  length_fieldBindings 1 s.nonKeyColumns

/-- An update takes one value for each column, and the key once more. -/
lemma parameterCount_update (s : Schema) : s.update.parameterCount = s.columns.length + 1 := by
  rw [Statement.parameterCount, Schema.update, List.length_append, length_fieldBindings]
  rfl

/-- The bindings of every statement are numbered in turn, from 1 on. -/
lemma map_position_bindings (s : Schema) (op : Operation) :
    (s.statement op).bindings.map Binding.position =
      List.range' 1 (s.statement op).parameterCount := by
  cases op with
  | insert =>
    show (Schema.fieldBindings 1 s.nonKeyColumns).map _ = List.range' 1 s.insert.parameterCount
    rw [map_position_fieldBindings, parameterCount_insert]
  | update =>
    show (Schema.fieldBindings 1 s.columns ++ _).map _ = List.range' 1 s.update.parameterCount
    rw [List.map_append, map_position_fieldBindings, parameterCount_update, List.range'_concat,
      Nat.one_mul, Nat.add_comm 1]
    rfl
  | selectById => rfl
  | selectSelf => rfl
  | deleteById => rfl
  | deleteSelf => rfl

/-- The placeholders of every statement stand for the columns of its bindings. -/
theorem placeholderColumns_statement (s : Schema) (op : Operation) :
    placeholderColumns (s.statement op).sql =
      (s.statement op).bindings.map fun b => some b.name := by
  have hcondition : ∀ {sql : String} {front : List Token},
      tokens sql = front ++ conditionTokens s.primaryKey.name → Token.mark ∉ front →
        placeholderColumns sql = [some s.primaryKey.name] := by
    intro sql front hsql hfront
    have hcompared : (leads sql).map comparedColumn? = [s.primaryKey.name].map some := by
      rw [leads_eq, hsql]
      exact compared_condition front hfront s.primaryKey.name
    exact placeholderColumns_of_compared hcompared
  have hselect : placeholderColumns s.selectText = [some s.primaryKey.name] := by
    have hnames : Token.mark ∉ nameTokens s.columnNames := notMem_nameTokens (by decide) rfl _
    exact hcondition (tokens_select s) (by simp [hnames])
  have hdelete : placeholderColumns s.deleteText = [some s.primaryKey.name] :=
    hcondition (tokens_delete s) (by simp)
  cases op with
  | insert =>
    have hbound : (s.statement .insert).bindings.map (fun b => some b.name) =
        (s.nonKeyColumns.map Column.name).map some := by
      rw [← map_name_fieldBindings 1, List.map_map]
      rfl
    have hleads : (leads s.insert.sql).map comparedColumn? =
        (s.nonKeyColumns.map Column.name).map fun _ => none := by
      rw [leads_eq, tokens_insert]
      exact compared_insert _ _
    have hlisted : listedColumns (tokens s.insert.sql) = s.nonKeyColumns.map Column.name := by
      rw [tokens_insert, listedColumns_insert]
    have hvalues : ∀ lead ∈ leads s.insert.sql, comparedColumn? lead = none := by
      intro lead hlead
      have hmem := List.mem_map_of_mem (f := comparedColumn?) hlead
      rw [hleads] at hmem
      obtain ⟨column, -, hnone⟩ := List.mem_map.mp hmem
      exact hnone.symm
    have hlength : (leads s.insert.sql).length = (listedColumns (tokens s.insert.sql)).length := by
      simpa [hlisted] using congrArg List.length hleads
    rw [hbound, ← hlisted]
    exact placeholderColumns_of_listed hvalues hlength
  | update =>
    have hbound : (s.statement .update).bindings.map (fun b => some b.name) =
        (s.columnNames ++ [s.primaryKey.name]).map some := by
      rw [List.map_append, Schema.columnNames, ← map_name_fieldBindings 1, List.map_map]
      exact List.map_append
    rw [hbound]
    apply placeholderColumns_of_compared
    rw [leads_eq]
    show (((tokens s.update.sql).splitOn .mark).dropLast).map comparedColumn? = _
    rw [tokens_update]
    exact compared_update s.table s.columnNames s.primaryKey.name
  | selectById => exact hselect
  | selectSelf => exact hselect
  | deleteById => exact hdelete
  | deleteSelf => exact hdelete

/-- The scan of a driver sees one placeholder for each binding. -/
theorem placeholderCount_statement (s : Schema) (op : Operation) :
    placeholderCount (s.statement op).sql = (s.statement op).parameterCount := by
  have hlength := congrArg List.length (placeholderColumns_statement s op)
  simpa [placeholderColumns, length_leads, Statement.parameterCount] using hlength

/-! ## The statement that creates the table -/

/-- The statement that creates a table has no placeholder. -/
theorem placeholderCount_createTable {s : Schema} {text : String}
    (h : s.createTable = .ok text) : placeholderCount text = 0 := by
  have hclauses : Token.mark ∉ commaTokens (clauseTokens s) :=
    notMem_commaTokens (by decide) fun ts hts => notMem_of_mem_clauseTokens hts rfl
  have hnone : Token.mark ∉ tokens text := by
    rw [tokens_createTable h]
    simp [createTokens, hclauses]
  rw [← count_mark_tokens, List.count_eq_zero]
  exact hnone

/-! ## Every resolved schema -/

/-- The texts of the statements of a schema and their binding plans say the same. -/
structure StatementsAgree (s : Schema) : Prop where
  /-- An insert names the table and, in their order, all columns but the key. -/
  insert : tokens (s.statement .insert).sql =
    insertTokens s.table (s.columnNames.erase s.primaryKey.name)
  /-- A select lists all columns in their order, and ends in the condition on the key. -/
  select : ∀ op ∈ [Operation.selectById, .selectSelf], tokens (s.statement op).sql =
    selectTokens s.table s.columnNames s.primaryKey.name
  /-- An update sets all columns in their order, and ends in the condition on the key. -/
  update : tokens (s.statement .update).sql =
    updateTokens s.table s.columnNames s.primaryKey.name
  /-- A delete ends in the condition on the key. -/
  delete : ∀ op ∈ [Operation.deleteById, .deleteSelf], tokens (s.statement op).sql =
    deleteTokens s.table s.primaryKey.name
  /-- A driver of any style sees the placeholders between the parts of a statement. -/
  scan : ∀ op (style : ParameterStyle) (mark : Nat → List Char),
    (∀ k, style.mark k = .ok (mark k)) → adaptPlaceholders (s.statement op).sql style =
      .ok (String.ofList (written style (parts (s.statement op).sql).1 ++
        joinMarks mark 0 ((parts (s.statement op).sql).2.map (written style))))
  /-- The `k`-th placeholder stands for the column of the `k`-th binding. -/
  column : ∀ op, placeholderColumns (s.statement op).sql =
    (s.statement op).bindings.map fun b => some b.name
  /-- The `k`-th binding has the position `k`. -/
  position : ∀ op, (s.statement op).bindings.map Binding.position =
    List.range' 1 (s.statement op).parameterCount
  /-- There are as many placeholders as bindings. -/
  count : ∀ op, placeholderCount (s.statement op).sql = (s.statement op).parameterCount
  /-- An insert binds one value less than there are columns. -/
  insertCount : (s.statement .insert).parameterCount + 1 = s.columns.length
  /-- An update binds one value more than there are columns. -/
  updateCount : (s.statement .update).parameterCount = s.columns.length + 1
  /-- A select and a delete bind one value. -/
  keyCount : ∀ op ∈ [Operation.selectById, .selectSelf, .deleteById, .deleteSelf],
    (s.statement op).parameterCount = 1
  /-- The statement that creates the table has no placeholder. -/
  create : ∀ text, s.createTable = .ok text → placeholderCount text = 0

/-- **Statements agree with their binding plans**, for every schema that is resolved, whatever the
names of its table and of its columns are. -/
theorem statementsAgree_of_resolve {entity : String} {table : Option String}
    {fields : List FieldInput} {settings : Settings} {s : Schema}
    (h : (Schema.resolve entity table fields settings).result = .ok s) : StatementsAgree s := by
  have hnames := Schema.columnNames_nodup h
  refine
    { insert := ?_
      select := ?_
      update := tokens_update s
      delete := ?_
      scan := ?_
      column := placeholderColumns_statement s
      position := map_position_bindings s
      count := placeholderCount_statement s
      insertCount := ?_
      updateCount := parameterCount_update s
      keyCount := ?_
      create := fun text => placeholderCount_createTable }
  · show tokens s.insert.sql = _
    rw [tokens_insert, Schema.nonKeyColumns_names hnames]
  · intro op hop
    fin_cases hop
    · exact tokens_select s
    · exact tokens_select s
  · intro op hop
    fin_cases hop
    · exact tokens_delete s
    · exact tokens_delete s
  · intro op style mark hmark
    rw [adaptPlaceholders, adaptFrom_eq_parts hmark]
    rfl
  · show s.insert.parameterCount + 1 = _
    rw [parameterCount_insert]
    exact Schema.length_nonKeyColumns hnames
  · intro op hop
    fin_cases hop <;> rfl

/-- A table whose names hold quotes, blanks and question marks, with the key between the other
columns. -/
theorem statementsAgree_quotedNames :
    ∃ s, (Schema.resolve "Order" (some "it's `ours`?")
      [.declared { name := "a `?` b", columnType := some .varChar, default := some (.text "'?`") },
       .declared { name := "id", columnType := some .int, isKey := true },
       .declared { name := "100% ?", columnType := some .json }] {}).result = .ok s ∧
      StatementsAgree s := by
  refine ⟨?_, ?resolved, statementsAgree_of_resolve ?resolved⟩
  case resolved => rfl

end SqlMapping.Sql
