import SqlMapping.Proofs.Entity.Generated

/-!
# Accepted queries

The members of a list are accepted in turn (`AcceptedInTurn`): each of them for itself, and under
keys that are distinct. The queries of an entity have statements exactly when they are accepted in
this way, the accessors being the keys.
-/

namespace SqlMapping

/-! ## Lists whose members are accepted in turn -/

/-- The members of a list are accepted, under distinct keys that are not taken. -/
def AcceptedInTurn {α : Type} (accepts : α → Prop) (key : α → String) (taken : List String)
    (xs : List α) : Prop :=
  (∀ x ∈ xs, accepts x) ∧ (xs.map key).Nodup ∧ ∀ x ∈ xs, key x ∉ taken

/-- The first member is accepted, and the others are beside it. -/
lemma acceptedInTurn_cons {α : Type} {accepts : α → Prop} {key : α → String}
    {taken : List String} {x : α} {xs : List α} :
    AcceptedInTurn accepts key taken (x :: xs) ↔
      accepts x ∧ key x ∉ taken ∧ AcceptedInTurn accepts key (key x :: taken) xs := by
  unfold AcceptedInTurn
  rw [List.map_cons, List.nodup_cons]
  constructor
  · rintro ⟨haccepted, ⟨hfirst, hnodup⟩, hfresh⟩
    refine ⟨haccepted x List.mem_cons_self, hfresh x List.mem_cons_self,
      fun y hy => haccepted y (List.mem_cons_of_mem _ hy), hnodup, fun y hy hmem => ?_⟩
    rcases List.mem_cons.mp hmem with heq | hmem
    · exact hfirst (heq ▸ List.mem_map_of_mem hy)
    · exact hfresh y (List.mem_cons_of_mem _ hy) hmem
  · rintro ⟨hx, htaken, haccepted, hnodup, hfresh⟩
    refine ⟨?_, ⟨fun hmem => ?_, hnodup⟩, ?_⟩
    · intro y hy
      rcases List.mem_cons.mp hy with rfl | hy
      · exact hx
      · exact haccepted y hy
    · obtain ⟨y, hy, hkey⟩ := List.mem_map.mp hmem
      exact hfresh y hy (hkey ▸ List.mem_cons_self)
    · intro y hy
      rcases List.mem_cons.mp hy with rfl | hy
      · exact htaken
      · exact fun hmem => hfresh y hy (List.mem_cons_of_mem _ hmem)

/-! ## Queries -/

/-- The accessor of a query. -/
def Query.accessor (q : Query) : String :=
  accessorName q.name

/-- The result for a query: its statement, unless it has a fault. -/
lemma Query.statement_result (q : Query) (entity : String) :
    (q.statement entity).result = match q.fault? with
      | some fault => .error (.element (if entity = "" then none else some entity) fault)
      | none => .ok q.toStatement := by
  rw [Query.statement]
  cases q.fault? with
  | some fault => rfl
  | none =>
    show (if questionMarks q.sql != q.parameters.length then _ else _ : Step Statement).result =
      .ok q.toStatement
    by_cases hmarks : (questionMarks q.sql != q.parameters.length) = true
    · rw [if_pos hmarks, Run.result_bind]
      rfl
    · rw [if_neg hmarks]
      rfl

/-- Making the statement of a query succeeds when the query has no fault. -/
lemma Query.statement_eq_ok {q : Query} {entity : String} {statement : Statement} :
    (q.statement entity).result = .ok statement ↔ q.fault? = none ∧ q.toStatement = statement := by
  rw [statement_result]
  cases q.fault? with
  | none => simp
  | some fault => simp

/-- The result for queries, from the first query on. -/
lemma queryStatements_cons (entity : String) (taken : List String) (q : Query)
    (rest : List Query) :
    (queryStatements entity taken (q :: rest)).result =
      if q.name ∈ taken then .error (.element (some entity) (.repeatedQuery q.name))
      else match taken.find? fun name => Query.accessorName name == q.accessor with
        | some first => .error (.element (some entity) (.sharedAccessor first q.name q.accessor))
        | none => (q.statement entity).result >>= fun statement =>
            (queryStatements entity (q.name :: taken) rest).result.map
              ((q.name, statement) :: ·) := by
  rw [queryStatements]
  by_cases hname : q.name ∈ taken
  · rw [if_pos (List.contains_iff_mem.mpr hname), if_pos hname, Run.result_bind]
    rfl
  · rw [if_neg (mt List.contains_iff_mem.mp hname), if_neg hname]
    have haccessor : Query.accessorName q.name = q.accessor := rfl
    dsimp only
    rw [haccessor]
    cases taken.find? fun name => Query.accessorName name == q.accessor with
    | some first => rfl
    | none =>
      show ((q.statement entity) >>= fun statement => _ : Step _).result = _
      rw [Run.result_bind]
      congr 1
      funext statement
      rw [Run.result_bind]
      cases (queryStatements entity (q.name :: taken) rest).result <;> rfl

/-- An accessor is taken exactly when a name that has it is found among the taken ones. -/
lemma find_accessor_eq_none {taken : List String} {accessor : String} :
    (taken.find? fun name => Query.accessorName name == accessor) = none ↔
      accessor ∉ taken.map Query.accessorName := by
  rw [List.find?_eq_none, List.mem_map]
  constructor
  · rintro h ⟨name, hname, heq⟩
    exact h name hname (beq_iff_eq.mpr heq)
  · intro h name hname heq
    exact h ⟨name, hname, beq_iff_eq.mp heq⟩

/-- Queries have statements when the first one has no fault and its accessor is not taken, and the
others have statements beside it. -/
lemma queryStatements_cons_eq_ok {entity : String} {taken : List String} {q : Query}
    {rest : List Query} {statements : List (String × Statement)} :
    (queryStatements entity taken (q :: rest)).result = .ok statements ↔
      q.fault? = none ∧ q.accessor ∉ taken.map Query.accessorName ∧
        ∃ others, (queryStatements entity (q.name :: taken) rest).result = .ok others ∧
          (q.name, q.toStatement) :: others = statements := by
  rw [queryStatements_cons]
  by_cases hname : q.name ∈ taken
  · have htaken : q.accessor ∈ taken.map Query.accessorName := List.mem_map_of_mem hname
    rw [if_pos hname]
    simp [htaken]
  · rw [if_neg hname]
    cases hfind : taken.find? fun name => Query.accessorName name == q.accessor with
    | some first =>
      have htaken : q.accessor ∈ taken.map Query.accessorName := by
        by_contra hfree
        rw [find_accessor_eq_none.mpr hfree] at hfind
        exact absurd hfind (by simp)
      simp [htaken]
    | none =>
      have hfree := find_accessor_eq_none.mp hfind
      constructor
      · intro h
        obtain ⟨statement, hstatement, h⟩ := bind_eq_ok.mp h
        obtain ⟨hfault, rfl⟩ := Query.statement_eq_ok.mp hstatement
        exact ⟨hfault, hfree, map_eq_ok.mp h⟩
      · rintro ⟨hfault, -, hothers⟩
        exact bind_eq_ok.mpr
          ⟨q.toStatement, Query.statement_eq_ok.mpr ⟨hfault, rfl⟩, map_eq_ok.mpr hothers⟩

/-- Queries have statements exactly when each of them has no fault, under accessors that are
distinct and not taken. -/
lemma queryStatements_ok_iff {entity : String} {taken : List String} {queries : List Query} :
    (∃ statements, (queryStatements entity taken queries).result = .ok statements) ↔
      AcceptedInTurn (fun q : Query => q.fault? = none) Query.accessor
        (taken.map Query.accessorName) queries := by
  induction queries generalizing taken with
  | nil => exact ⟨fun _ => by simp [AcceptedInTurn], fun _ => ⟨[], rfl⟩⟩
  | cons q rest ih =>
    have hrest := @ih (q.name :: taken)
    rw [List.map_cons] at hrest
    have haccessor : q.accessor = Query.accessorName q.name := rfl
    rw [acceptedInTurn_cons, haccessor, ← hrest]
    constructor
    · rintro ⟨statements, h⟩
      obtain ⟨hfault, hfree, others, hothers, -⟩ := queryStatements_cons_eq_ok.mp h
      exact ⟨hfault, hfree, others, hothers⟩
    · rintro ⟨hfault, hfree, others, hothers⟩
      exact ⟨_, queryStatements_cons_eq_ok.mpr ⟨hfault, hfree, others, hothers, rfl⟩⟩

end SqlMapping
