import Mathlib.Tactic.FinCases
import SqlMapping.Proofs.Result
import SqlMapping.Proofs.Sql.Number
import SqlMapping.Statement.Create

/-!
# Tokens of the statement that creates a table

What the text of the statement consists of, for any names, sizes, defaults and references. The
constraints are words, a default is the word `DEFAULT` with one more token, and the clauses have
commas between them.
-/

namespace SqlMapping.Sql

open SqlMapping.Number SqlMapping.Text SqlMapping.Statement

/-! ## Phrases -/

/-- Words with a space between each two are a word each. -/
lemma spells_phrase (words : List String)
    (h : ∀ w ∈ words, w ≠ "" ∧ w.toList.all isWordChar = true) :
    Spells (" ".intercalate words) (words.map .word) := by
  induction words with
  | nil => exact spells_empty
  | cons first words ih =>
    have hfirst : Spells first [.word first] :=
      spells_word (h first List.mem_cons_self).1 (h first List.mem_cons_self).2
    have hrest := ih fun w hw => h w (List.mem_cons_of_mem _ hw)
    cases words with
    | nil =>
      rw [String.intercalate_singleton]
      exact hfirst
    | cons second words =>
      have hspace : Closes " " [] := fun _ => rfl
      rw [String.intercalate_cons_cons]
      exact (hfirst.append_closes hspace fun _ => rfl).append hrest

/-- Nothing but a space stands in front of spaced pieces. -/
lemma breaks_spaced (pieces : List String) : breaks (spaced pieces).toList = true := by
  cases pieces with
  | nil => rfl
  | cons piece pieces =>
    rw [spaced, List.map_cons, String.join_cons, String.toList_append, String.toList_append]
    rfl

/-- One spaced piece. -/
lemma spells_spaced {piece : String} {ts : List Token} (h : Spells piece ts) :
    Spells (spaced [piece]) ts := by
  have hspace : Closes " " [] := fun _ => rfl
  have hspaced : spaced [piece] = " " ++ piece := by simp [spaced]
  rw [hspaced]
  exact hspace.append h

/-- The tokens of words that are there only under a condition. -/
def flagTokens (b : Bool) (words : List String) : List Token :=
  if b then words.map .word else []

/-- A spaced phrase that is there only under a condition. -/
lemma spells_flag (b : Bool) (words : List String)
    (h : ∀ w ∈ words, w ≠ "" ∧ w.toList.all isWordChar = true) :
    Spells (spaced (if b then [" ".intercalate words] else [])) (flagTokens b words) := by
  cases b
  · exact spells_empty
  · exact spells_spaced (spells_phrase words h)

/-- Spaced pieces that follow each other. -/
lemma spells_spaced_append {pieces others : List String} {ts us : List Token}
    (h : Spells (spaced pieces) ts) (hothers : Spells (spaced others) us) :
    Spells (spaced (pieces ++ others)) (ts ++ us) := by
  have happend : spaced (pieces ++ others) = spaced pieces ++ spaced others := by
    simp [spaced, String.join_append]
  rw [happend]
  exact h.append hothers (breaks_spaced others)

/-! ## Columns -/

/-- The tokens of the size of a type. -/
def sizeTokens : Option Int → List Token
  | some n => [.symbol '(', .word (intText n), .symbol ')']
  | none => []

/-- The tokens of constraints. -/
def constraintTokens (isPrimary isUnique isNotNull : Bool) : List Token :=
  flagTokens isPrimary ["PRIMARY", "KEY"] ++ flagTokens isUnique ["UNIQUE"] ++
    flagTokens isNotNull ["NOT", "NULL"]

/-- The token of the literal of a default. -/
def literalToken? : DefaultValue → Option Token
  | .none => none
  | .integer _ n | .whole _ n => some (.word (intText n))
  | .real _ x => some (.word x.text)
  | .bool b => some (.word (if b then "true" else "false"))
  | .text s => some (.text s)

/-- The tokens of a default. -/
def defaultTokens (d : DefaultValue) : List Token :=
  match literalToken? d with
  | some literal => [.word "DEFAULT", literal]
  | none => []

/-- The tokens of the clause of a column. -/
def columnTokens (c : Column) (isPrimary : Bool) : List Token :=
  .name c.name :: .word c.type.name :: (sizeTokens c.size ++
    (constraintTokens (c.isKey && isPrimary) c.isUnique c.isNotNull ++ defaultTokens c.default))

/-- The name of a column type is one word. -/
lemma spells_typeName (type : ColumnType) : Spells type.name [.word type.name] :=
  spells_word (by cases type <;> decide) (by cases type <;> decide)

/-- The SQL type of a column. -/
lemma spells_sqlType (c : Column) :
    Spells c.sqlType (.word c.type.name :: sizeTokens c.size) := by
  unfold Column.sqlType
  cases c.size with
  | none => exact spells_typeName c.type
  | some n =>
    have hopen : Closes "(" [.symbol '('] := fun _ => rfl
    have hclose : Closes ")" [.symbol ')'] := fun _ => rfl
    have hsize := ((spells_typeName c.type).append_closes hopen fun _ => rfl).append
      (spells_intText n)
    exact (hsize.append_closes hclose fun _ => rfl).spells

/-- The constraints of a column. -/
lemma spells_constraints (c : Column) (isPrimary : Bool) :
    Spells (spaced (c.constraints isPrimary))
      (constraintTokens (c.isKey && isPrimary) c.isUnique c.isNotNull) := by
  have hkey := spells_flag (c.isKey && isPrimary) ["PRIMARY", "KEY"] (by decide)
  have hunique := spells_flag c.isUnique ["UNIQUE"] (by decide)
  have hnotNull := spells_flag c.isNotNull ["NOT", "NULL"] (by decide)
  exact spells_spaced_append (spells_spaced_append hkey hunique) hnotNull

/-- The literal of a default is one token, and none exactly when there is no default. -/
lemma literal_token {d : DefaultValue} {literal : String} (h : d.literal = .ok literal) :
    match literalToken? d with
    | some t => literal ≠ "" ∧ Spells literal [t]
    | none => literal = "" := by
  have hinteger : ∀ n, writeInteger n = .ok literal →
      literal ≠ "" ∧ Spells literal [.word (intText n)] := by
    intro n hn
    rw [writeInteger] at hn
    split_ifs at hn
    obtain rfl := Except.ok.inj hn
    exact ⟨(intText_word n).1, spells_intText n⟩
  cases d with
  | none => exact (Except.ok.inj h).symm
  | integer width n => exact hinteger n h
  | whole precision n => exact hinteger n h
  | real precision x =>
    obtain rfl := Except.ok.inj h
    exact ⟨(realText_word x).1, spells_realText x⟩
  | bool b =>
    obtain rfl := Except.ok.inj h
    cases b
    · exact ⟨by decide, spells_word (by decide) (by decide)⟩
    · exact ⟨by decide, spells_word (by decide) (by decide)⟩
  | text s =>
    obtain rfl := Except.ok.inj h
    refine ⟨fun hempty => ?_, spells_delimit rfl s⟩
    have hlist := congrArg String.toList hempty
    rw [toList_delimit] at hlist
    exact absurd hlist (by simp [delimitList])

/-- The clause of a default. -/
lemma spells_defaultClause {d : DefaultValue} {clause : String} (h : d.clause = .ok clause) :
    Spells clause (defaultTokens d) := by
  obtain ⟨literal, hliteral, rfl⟩ := map_eq_ok.mp h
  have htoken := literal_token hliteral
  rw [defaultTokens]
  cases ht : literalToken? d with
  | none =>
    rw [ht] at htoken
    rw [if_pos htoken]
    exact spells_empty
  | some t =>
    rw [ht] at htoken
    rw [if_neg htoken.1]
    have hdefault : Closes "DEFAULT " [.word "DEFAULT"] := fun _ => rfl
    exact hdefault.append htoken.2

/-- The clause of a column. -/
lemma spells_columnClause {c : Column} {isPrimary : Bool} {clause : String}
    (h : c.clause isPrimary = .ok clause) : Spells clause (columnTokens c isPrimary) := by
  obtain ⟨default, hdefault, rfl⟩ := map_eq_ok.mp h
  have hspace : Closes " " [] := fun _ => rfl
  have htype := ((spells_quoteName c.name).append_closes hspace fun _ => rfl).append
    (spells_sqlType c)
  have hconstraints := htype.append (spells_constraints c isPrimary) (breaks_spaced _)
  have hall := (hconstraints.append_closes hspace fun _ => rfl).append
    (spells_defaultClause hdefault)
  simpa [columnTokens] using hall

/-! ## References -/

/-- The references of a schema, each with the column it belongs to. -/
def references (s : Schema) : List (String × Reference) :=
  s.columns.filterMap fun c => c.reference.map fun r => (c.name, r)

/-- The tokens of an action. -/
def actionTokens : ReferentialAction → List Token
  | .noAction => [.word "NO", .word "ACTION"]
  | .cascade => [.word "CASCADE"]
  | .setNull => [.word "SET", .word "NULL"]
  | .setDefault => [.word "SET", .word "DEFAULT"]
  | .restrict => [.word "RESTRICT"]

/-- The tokens of an action on an event; doing nothing is not written. -/
def eventTokens (event : String) (action : ReferentialAction) : List Token :=
  if action = .noAction then [] else .word "ON" :: .word event :: actionTokens action

/-- The tokens of the clause of a reference. -/
def referenceTokens (column : String) (r : Reference) : List Token :=
  [.word "FOREIGN", .word "KEY", .symbol '(', .name column, .symbol ')', .word "REFERENCES",
    .name r.table, .symbol '(', .name r.column, .symbol ')'] ++
      (eventTokens "DELETE" r.onDelete ++ eventTokens "UPDATE" r.onUpdate)

/-- The words of an action. -/
lemma spells_action (action : ReferentialAction) : Spells action.sql (actionTokens action) := by
  cases action with
  | noAction => exact spells_phrase ["NO", "ACTION"] (by decide)
  | cascade => exact spells_phrase ["CASCADE"] (by decide)
  | setNull => exact spells_phrase ["SET", "NULL"] (by decide)
  | setDefault => exact spells_phrase ["SET", "DEFAULT"] (by decide)
  | restrict => exact spells_phrase ["RESTRICT"] (by decide)

/-- The action on an event that a phrase names. -/
lemma spells_event {phrase event : String} (h : Closes phrase [.word "ON", .word event])
    (action : ReferentialAction) :
    Spells (spaced (if action = .noAction then [] else [phrase ++ action.sql]))
      (eventTokens event action) := by
  rw [eventTokens]
  split_ifs
  · exact spells_empty
  · have hpiece : Spells (phrase ++ action.sql)
        (.word "ON" :: .word event :: actionTokens action) := h.append (spells_action action)
    exact spells_spaced hpiece

/-- The actions of a reference. -/
lemma spells_actions (r : Reference) :
    Spells (spaced r.actions)
      (eventTokens "DELETE" r.onDelete ++ eventTokens "UPDATE" r.onUpdate) := by
  have hdelete : Closes "ON DELETE " [.word "ON", .word "DELETE"] := fun _ => rfl
  have hupdate : Closes "ON UPDATE " [.word "ON", .word "UPDATE"] := fun _ => rfl
  have hdeleted := spells_event hdelete r.onDelete
  have hupdated := spells_event hupdate r.onUpdate
  rw [Reference.actions]
  exact spells_spaced_append hdeleted hupdated

/-- The clause of a reference. -/
lemma spells_referenceClause (column : String) (r : Reference) :
    Spells (r.clause column) (referenceTokens column r) := by
  have hforeign : Closes "FOREIGN KEY (" [.word "FOREIGN", .word "KEY", .symbol '('] :=
    fun _ => rfl
  have hreferences : Closes ") REFERENCES " [.symbol ')', .word "REFERENCES"] := fun _ => rfl
  have hopen : Closes " (" [.symbol '('] := fun _ => rfl
  have hclose : Closes ")" [.symbol ')'] := fun _ => rfl
  have hcolumn := (hforeign.append (spells_quoteName column)).append_closes hreferences fun _ => rfl
  have htable := (hcolumn.append (spells_quoteName r.table)).append_closes hopen fun _ => rfl
  have htarget := (htable.append (spells_quoteName r.column)).append_closes hclose fun _ => rfl
  exact htarget.append (spells_actions r)

/-! ## The statement -/

/-- The tokens of the clauses of a schema. -/
def clauseTokens (s : Schema) : List (List Token) :=
  s.columns.map (fun c => columnTokens c (c.name == s.primaryKey.name)) ++
    (references s).map fun (column, r) => referenceTokens column r

/-- The tokens of the statement that creates the table of a schema. -/
def createTokens (s : Schema) : List Token :=
  [.word "CREATE", .word "TABLE", .name s.table, .symbol '('] ++ commaTokens (clauseTokens s) ++
    [.symbol ')']

/-- The tokens that clauses consist of: words, quoted parts and parentheses. -/
def Token.isPlain : Token → Bool
  | .word _ | .quoted _ _ => true
  | .symbol c => c == '(' || c == ')'
  | _ => false

/-- The clause of a column holds neither a comma nor a placeholder. -/
lemma isPlain_of_mem_columnTokens {c : Column} {isPrimary : Bool} {t : Token}
    (h : t ∈ columnTokens c isPrimary) : t.isPlain = true := by
  have hsize : ∀ u ∈ sizeTokens c.size, u.isPlain = true := by
    cases c.size <;> simp [sizeTokens, Token.isPlain]
  have hconstraints : ∀ isPrimary isUnique isNotNull,
      ∀ u ∈ constraintTokens isPrimary isUnique isNotNull, u.isPlain = true := by decide
  have hdefault : ∀ u ∈ defaultTokens c.default, u.isPlain = true := by
    cases c.default <;> simp [defaultTokens, literalToken?, Token.isPlain]
  rw [columnTokens, List.mem_cons, List.mem_cons, List.mem_append, List.mem_append] at h
  rcases h with rfl | rfl | h | h | h
  · rfl
  · rfl
  · exact hsize t h
  · exact hconstraints _ _ _ t h
  · exact hdefault t h

/-- The clause of a reference holds neither a comma nor a placeholder. -/
lemma isPlain_of_mem_referenceTokens {column : String} {r : Reference} {t : Token}
    (h : t ∈ referenceTokens column r) : t.isPlain = true := by
  have hevent : ∀ event action, ∀ u ∈ eventTokens event action, u.isPlain = true := by
    intro event action
    cases action <;> simp [eventTokens, actionTokens, Token.isPlain]
  rw [referenceTokens, List.mem_append, List.mem_append] at h
  rcases h with h | h | h
  · fin_cases h <;> rfl
  · exact hevent _ _ t h
  · exact hevent _ _ t h

/-- A token that is not plain is in no clause. -/
lemma notMem_of_mem_clauseTokens {s : Schema} {ts : List Token} (hts : ts ∈ clauseTokens s)
    {t : Token} (ht : t.isPlain = false) : t ∉ ts := by
  intro hmem
  have hplain : t.isPlain = true := by
    rcases List.mem_append.mp hts with hts | hts
    · obtain ⟨c, -, rfl⟩ := List.mem_map.mp hts
      exact isPlain_of_mem_columnTokens hmem
    · obtain ⟨reference, -, rfl⟩ := List.mem_map.mp hts
      exact isPlain_of_mem_referenceTokens hmem
  rw [hplain] at ht
  exact absurd ht (by decide)

/-- The clauses of the references are those of the referring columns. -/
lemma referenceClauses_eq (s : Schema) :
    s.referenceClauses = (references s).map fun (column, r) => r.clause column := by
  rw [Schema.referenceClauses, references, List.map_filterMap]
  congr 1
  funext c
  rw [Column.referenceClause?, Option.map_map]
  rfl

/-- The tokens of the statement that creates a table. -/
theorem tokens_createTable {s : Schema} {text : String} (h : s.createTable = .ok text) :
    tokens text = createTokens s := by
  obtain ⟨clauses, hclauses, rfl⟩ := map_eq_ok.mp h
  have hcolumns : List.Forall₂ Spells clauses
      (s.columns.map fun c => columnTokens c (c.name == s.primaryKey.name)) := by
    rw [List.forall₂_map_right_iff]
    exact (mapM_eq_ok.mp hclauses).flip.imp fun _ _ hc => spells_columnClause hc
  have hreferences : List.Forall₂ Spells s.referenceClauses
      ((references s).map fun (column, r) => referenceTokens column r) := by
    rw [referenceClauses_eq, List.forall₂_map_left_iff, List.forall₂_map_right_iff,
      List.forall₂_same]
    exact fun reference _ => spells_referenceClause reference.1 reference.2
  have hlist : Spells (commaList (clauses ++ s.referenceClauses)) (commaTokens (clauseTokens s)) :=
    spells_commaList (List.rel_append hcolumns hreferences)
  have hcreate : Closes "CREATE TABLE " [.word "CREATE", .word "TABLE"] := fun _ => rfl
  have hopen : Closes " (" [.symbol '('] := fun _ => rfl
  have hclose : Closes ")" [.symbol ')'] := fun _ => rfl
  have htable := (hcreate.append (spells_quoteName s.table)).append_closes hopen fun _ => rfl
  have hall := (htable.append hlist).append_closes hclose fun _ => rfl
  exact hall.spells.tokens_eq

end SqlMapping.Sql
