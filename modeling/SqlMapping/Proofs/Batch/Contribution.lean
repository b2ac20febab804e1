import SqlMapping.Proofs.Batch.Isolation

/-!
# What each declaration contributes

A declaration that is attempted contributes one entry to the report on its batch: the entity that it
builds, or a failure (`Contributes`). An entity whose name an earlier declaration has built already
is a failure too. Recording one more outcome adds what the next declaration contributes
(`Collects.record`), so the report on a batch holds what each of its attempts contributes, in the
order of the declarations (`collects_of_generate`).
-/

namespace SqlMapping

/-- The entity of an outcome. -/
def Outcome.entity? : Outcome → Option BuiltEntity
  | .built entity => some entity
  | .failed _ => none

/-- The failure of an outcome. -/
def Outcome.failure? : Outcome → Option EntityFailure
  | .built _ => none
  | .failed failure => some failure

/-- An outcome is an entity or a failure, and not both. -/
lemma Outcome.length_entities_add_length_failures (outcomes : List Outcome) :
    (outcomes.filterMap entity?).length + (outcomes.filterMap failure?).length =
      outcomes.length := by
  induction outcomes with
  | nil => rfl
  | cons outcome rest ih =>
    cases outcome with
    | built entity => simp only [List.filterMap_cons, entity?, failure?, List.length_cons]; omega
    | failed failure => simp only [List.filterMap_cons, entity?, failure?, List.length_cons]; omega

namespace Batch

/-! ## Contributions -/

/-- The declaration at a place of a batch builds an entity. -/
def Builds (settings : Settings) (declarations : List DeclarationInput) (index : Nat)
    (entity : BuiltEntity) : Prop :=
  ∃ d, declarations[index]? = some d ∧ (d.build index settings).result = .ok entity

/-- A declaration before a place of a batch builds an entity of a name. -/
def IsTaken (settings : Settings) (declarations : List DeclarationInput) (index : Nat)
    (name : String) : Prop :=
  ∃ earlier < index, ∃ entity, Builds settings declarations earlier entity ∧
    entity.schema.entity = name

/-- What the declaration at a place of a batch contributes to the report. -/
inductive Contributes (settings : Settings) (declarations : List DeclarationInput) (index : Nat) :
    Outcome → Prop
  /-- An entity, if its name is new. -/
  | built {entity : BuiltEntity} (hbuilds : Builds settings declarations index entity)
      (hnew : ¬IsTaken settings declarations index entity.schema.entity) :
      Contributes settings declarations index (.built entity)
  /-- A failure, if an entity is built and its name is taken. -/
  | repeated {entity : BuiltEntity} (hbuilds : Builds settings declarations index entity)
      (htaken : IsTaken settings declarations index entity.schema.entity) :
      Contributes settings declarations index (.failed (repeatedFailure entity.schema.entity))
  /-- A failure, if no entity is built. -/
  | failed {d : DeclarationInput} {e : MappingError} (hd : declarations[index]? = some d)
      (hfails : (d.build index settings).result = .error (.mapping e)) :
      Contributes settings declarations index (.failed (e.toFailure (d.name index)))

variable {settings : Settings} {declarations : List DeclarationInput} {index : Nat}

/-- A declaration that builds an entity has a place in the batch. -/
lemma Builds.lt_length {entity : BuiltEntity} (h : Builds settings declarations index entity) :
    index < declarations.length := by
  obtain ⟨d, hd, -⟩ := h
  exact (List.getElem?_eq_some_iff.mp hd).1

/-- A declaration builds one entity at most. -/
lemma Builds.unique {entity other : BuiltEntity} (h : Builds settings declarations index entity)
    (hother : Builds settings declarations index other) : entity = other := by
  obtain ⟨d, hd, hbuild⟩ := h
  obtain ⟨d', hd', hbuild'⟩ := hother
  obtain rfl := Option.some.inj (hd.symm.trans hd')
  exact Except.ok.inj (hbuild.symm.trans hbuild')

/-- A declaration that fails builds no entity. -/
lemma not_builds_of_fails {d : DeclarationInput} {e : Failure} {entity : BuiltEntity}
    (hd : declarations[index]? = some d) (hfails : (d.build index settings).result = .error e) :
    ¬Builds settings declarations index entity := by
  rintro ⟨d', hd', hbuild⟩
  obtain rfl := Option.some.inj (hd.symm.trans hd')
  rw [hfails] at hbuild
  exact absurd hbuild (by simp)

/-- A declaration contributes one entry at most. -/
lemma Contributes.unique {outcome other : Outcome}
    (h : Contributes settings declarations index outcome)
    (hother : Contributes settings declarations index other) : outcome = other := by
  cases h with
  | built hbuilds hnew =>
    cases hother with
    | built hbuilds' _ => rw [hbuilds.unique hbuilds']
    | repeated hbuilds' htaken => exact absurd (hbuilds.unique hbuilds' ▸ htaken) hnew
    | failed hd hfails => exact absurd hbuilds (not_builds_of_fails hd hfails)
  | repeated hbuilds htaken =>
    cases hother with
    | built hbuilds' hnew => exact absurd (hbuilds.unique hbuilds' ▸ htaken) hnew
    | repeated hbuilds' _ => rw [hbuilds.unique hbuilds']
    | failed hd hfails => exact absurd hbuilds (not_builds_of_fails hd hfails)
  | failed hd hfails =>
    cases hother with
    | built hbuilds _ => exact absurd hbuilds (not_builds_of_fails hd hfails)
    | repeated hbuilds _ => exact absurd hbuilds (not_builds_of_fails hd hfails)
    | failed hd' hfails' =>
      obtain rfl := Option.some.inj (hd.symm.trans hd')
      rw [hfails] at hfails'
      obtain rfl := Failure.mapping.inj (Except.error.inj hfails')
      rfl

/-- A declaration that contributes an entity builds it, under a new name. -/
lemma contributes_built_iff {entity : BuiltEntity} :
    Contributes settings declarations index (.built entity) ↔
      Builds settings declarations index entity ∧
        ¬IsTaken settings declarations index entity.schema.entity := by
  constructor
  · rintro ⟨hbuilds, hnew⟩
    exact ⟨hbuilds, hnew⟩
  · rintro ⟨hbuilds, hnew⟩
    exact .built hbuilds hnew

/-- A name that is taken was new when it was first built. -/
lemma exists_first_of_isTaken {name : String} (h : IsTaken settings declarations index name) :
    ∃ first < index, ∃ entity, entity.schema.entity = name ∧
      Contributes settings declarations first (.built entity) := by
  induction index using Nat.strongRecOn with
  | ind index ih =>
    obtain ⟨earlier, hlt, entity, hbuilds, rfl⟩ := h
    by_cases htaken : IsTaken settings declarations earlier entity.schema.entity
    · obtain ⟨first, hfirst, other, hname, hcontributes⟩ := ih earlier hlt htaken
      exact ⟨first, Nat.lt_trans hfirst hlt, other, hname, hcontributes⟩
    · exact ⟨earlier, hlt, entity, rfl, .built hbuilds htaken⟩

/-- Two places that contribute entities of one name are the same place. -/
lemma Contributes.index_unique {other : Nat} {entity entity' : BuiltEntity}
    (h : Contributes settings declarations index (.built entity))
    (hother : Contributes settings declarations other (.built entity'))
    (hname : entity.schema.entity = entity'.schema.entity) : index = other := by
  obtain ⟨hbuilds, hnew⟩ := contributes_built_iff.mp h
  obtain ⟨hbuilds', hnew'⟩ := contributes_built_iff.mp hother
  rcases Nat.lt_trichotomy index other with hlt | heq | hlt
  · exact absurd ⟨index, hlt, entity, hbuilds, hname⟩ hnew'
  · exact heq
  · exact absurd ⟨other, hlt, entity', hbuilds', hname.symm⟩ hnew

/-! ## Reports as collections of contributions -/

/-- A report holds what the first declarations of a batch contribute, in their order. -/
structure Collects (settings : Settings) (declarations : List DeclarationInput)
    (contributions : List Outcome) (r : BatchReport) : Prop where
  /-- Each member is what the declaration at its place contributes. -/
  contributes : ∀ index outcome, contributions[index]? = some outcome →
    Contributes settings declarations index outcome
  /-- The entities of the report are those that are contributed. -/
  built : r.built = contributions.filterMap Outcome.entity?
  /-- The failures of the report are those that are contributed. -/
  failures : r.failures = contributions.filterMap Outcome.failure?

namespace Collects

variable {contributions : List Outcome} {r : BatchReport}

/-- The entities of a report are contributed by one of its declarations. -/
lemma mem_built_iff (h : Collects settings declarations contributions r) {entity : BuiltEntity} :
    entity ∈ r.built ↔ ∃ index < contributions.length,
      Contributes settings declarations index (.built entity) := by
  rw [h.built, List.mem_filterMap]
  constructor
  · rintro ⟨outcome, hmem, hentity⟩
    obtain ⟨index, hindex⟩ := List.mem_iff_getElem?.mp hmem
    obtain ⟨hlt, -⟩ := List.getElem?_eq_some_iff.mp hindex
    cases outcome with
    | failed failure => exact absurd hentity (by simp [Outcome.entity?])
    | built other =>
      obtain rfl := Option.some.inj hentity
      exact ⟨index, hlt, h.contributes index _ hindex⟩
  · rintro ⟨index, hlt, hcontributes⟩
    have hplace := h.contributes index _ (List.getElem?_eq_getElem hlt)
    refine ⟨contributions[index], List.getElem_mem hlt, ?_⟩
    rw [hplace.unique hcontributes]
    rfl

/-- A name is taken after the declarations of a report exactly when the report has an entity of
that name. -/
lemma isTaken_iff (h : Collects settings declarations contributions r) {name : String} :
    IsTaken settings declarations contributions.length name ↔
      ∃ entity ∈ r.built, entity.schema.entity = name := by
  constructor
  · intro htaken
    obtain ⟨first, hlt, entity, hname, hcontributes⟩ := exists_first_of_isTaken htaken
    exact ⟨entity, h.mem_built_iff.mpr ⟨first, hlt, hcontributes⟩, hname⟩
  · rintro ⟨entity, hmem, hname⟩
    obtain ⟨index, hlt, hcontributes⟩ := h.mem_built_iff.mp hmem
    exact ⟨index, hlt, entity, (contributes_built_iff.mp hcontributes).1, hname⟩

/-- The entities of a report have distinct names. -/
lemma nodup_names (h : Collects settings declarations contributions r) :
    (r.built.map fun entity => entity.schema.entity).Nodup := by
  have hpairwise : contributions.Pairwise fun outcome other => ∀ entity ∈ outcome.entity?,
      ∀ entity' ∈ other.entity?, entity.schema.entity ≠ entity'.schema.entity := by
    rw [List.pairwise_iff_getElem]
    intro i j hi hj hlt entity hentity entity' hentity' hname
    have hbuilt : ∀ k (hk : k < contributions.length) unit, unit ∈ contributions[k].entity? →
        Contributes settings declarations k (.built unit) := by
      intro k hk unit hunit
      have hplace := h.contributes k _ (List.getElem?_eq_getElem hk)
      cases houtcome : contributions[k] with
      | failed failure =>
        rw [houtcome] at hunit
        exact absurd hunit (by simp [Outcome.entity?])
      | built other =>
        rw [houtcome] at hunit hplace
        obtain rfl := Option.some.inj hunit
        exact hplace
    have hsame := (hbuilt i hi entity hentity).index_unique (hbuilt j hj entity' hentity') hname
    omega
  rw [h.built, List.Nodup, List.pairwise_map]
  exact hpairwise.filterMap _ fun outcome other hdiffer entity hentity entity' hentity' =>
    hdiffer entity hentity entity' hentity'

/-- A report with one more contribution. -/
lemma append (h : Collects settings declarations contributions r) {outcome : Outcome}
    (hcontributes : Contributes settings declarations contributions.length outcome)
    {other : BatchReport} (hbuilt : other.built = r.built ++ outcome.entity?.toList)
    (hfailures : other.failures = r.failures ++ outcome.failure?.toList) :
    Collects settings declarations (contributions ++ [outcome]) other where
  contributes := by
    intro index added hadded
    rcases Nat.lt_or_ge index contributions.length with hlt | hge
    · rw [List.getElem?_append_left hlt] at hadded
      exact h.contributes index added hadded
    · rw [List.getElem?_append_right hge, List.getElem?_singleton] at hadded
      obtain ⟨hzero, hsame⟩ := Option.ite_none_right_eq_some.mp hadded
      obtain rfl := Option.some.inj hsame
      obtain rfl : index = contributions.length := by omega
      exact hcontributes
  built := by
    rw [hbuilt, h.built, List.filterMap_append]
    cases outcome <;> rfl
  failures := by
    rw [hfailures, h.failures, List.filterMap_append]
    cases outcome <;> rfl

/-- Recording the outcome of the next declaration adds what that declaration contributes. -/
lemma record (h : Collects settings declarations contributions r) {d : DeclarationInput}
    {outcome : Outcome} (hd : declarations[contributions.length]? = some d)
    (houtcome : (d.outcome contributions.length settings).result = .ok outcome) :
    ∃ added, Collects settings declarations (contributions ++ [added]) (record r outcome) := by
  cases hbuild : (d.build contributions.length settings).result with
  | ok entity =>
    have hbuilds : Builds settings declarations contributions.length entity := ⟨d, hd, hbuild⟩
    rw [DeclarationInput.outcome_of_built hbuild] at houtcome
    obtain rfl := Except.ok.inj houtcome
    have hany : (r.built.any fun other => other.schema.entity == entity.schema.entity) = true ↔
        IsTaken settings declarations contributions.length entity.schema.entity := by
      rw [h.isTaken_iff, List.any_eq_true]
      simp only [beq_iff_eq]
    rw [Batch.record]
    by_cases htaken : IsTaken settings declarations contributions.length entity.schema.entity
    · rw [if_pos (hany.mpr htaken)]
      exact ⟨_, h.append (.repeated hbuilds htaken) (List.append_nil _).symm rfl⟩
    · rw [if_neg (mt hany.mp htaken)]
      exact ⟨_, h.append (.built hbuilds htaken) rfl (List.append_nil _).symm⟩
  | error failure =>
    cases failure with
    | mapping e =>
      rw [DeclarationInput.outcome_of_failed hbuild] at houtcome
      obtain rfl := Except.ok.inj houtcome
      exact ⟨_, h.append (.failed hd hbuild) (List.append_nil _).symm rfl⟩
    | escape reason =>
      rw [DeclarationInput.outcome_of_escape hbuild] at houtcome
      exact absurd houtcome (by simp)

/-- Recording the outcomes of the next declarations adds what they contribute. -/
lemma foldl_record (h : Collects settings declarations contributions r)
    {attempts : List (DeclarationInput × Nat)} {outcomes : List Outcome}
    (hattempts : attempts <+: (declarations.drop contributions.length).zipIdx contributions.length)
    (houtcomes : outcomesOf settings attempts = .ok outcomes) :
    ∃ others, others.length = contributions.length + attempts.length ∧
      Collects settings declarations others (outcomes.foldl Batch.record r) := by
  induction attempts generalizing contributions r outcomes with
  | nil =>
    obtain rfl := Except.ok.inj houtcomes
    exact ⟨contributions, rfl, h⟩
  | cons attempt rest ih =>
    obtain ⟨d, place⟩ := attempt
    cases hdrop : declarations.drop contributions.length with
    | nil =>
      rw [hdrop] at hattempts
      exact absurd (List.prefix_nil.mp hattempts) (by simp)
    | cons next others =>
      rw [hdrop, List.zipIdx_cons, List.cons_prefix_cons] at hattempts
      obtain ⟨hfirst, hrest⟩ := hattempts
      obtain ⟨rfl, rfl⟩ := Prod.mk.inj hfirst
      have hd : declarations[contributions.length]? = some d := by
        rw [← List.head?_drop, hdrop, List.head?_cons]
      have hothers : others = declarations.drop (contributions.length + 1) := by
        rw [← List.tail_drop, hdrop, List.tail_cons]
      rw [outcomesOf_cons] at houtcomes
      obtain ⟨outcome, houtcome, houtcomes⟩ := bind_eq_ok.mp houtcomes
      obtain ⟨remaining, hremaining, rfl⟩ := map_eq_ok.mp houtcomes
      obtain ⟨added, hadded⟩ := h.record hd houtcome
      have hlength : (contributions ++ [added]).length = contributions.length + 1 := by simp
      rw [hothers, ← hlength] at hrest
      obtain ⟨all, hall, hcollects⟩ := ih hadded hrest hremaining
      refine ⟨all, ?_, hcollects⟩
      rw [hall, hlength, List.length_cons]
      omega

end Collects

/-! ## Attempts -/

/-- One worker attempts the declarations in turn, from the first one on. -/
lemma attemptedInTurn_isPrefix (settings : Settings) (index : Nat)
    (declarations : List DeclarationInput) :
    attemptedInTurn settings index declarations <+: declarations.zipIdx index := by
  induction declarations generalizing index with
  | nil => exact List.prefix_rfl
  | cons d rest ih =>
    rw [attemptedInTurn, List.zipIdx_cons, List.cons_prefix_cons]
    refine ⟨rfl, ?_⟩
    split_ifs
    · exact ih (index + 1)
    · exact List.nil_prefix

/-- A batch attempts its declarations from the first one on. -/
lemma attempted_isPrefix (settings : Settings) (declarations : List DeclarationInput) :
    attempted settings declarations <+: declarations.zipIdx := by
  rw [attempted]
  split_ifs
  · exact List.prefix_rfl
  · exact attemptedInTurn_isPrefix settings 0 declarations

/-- A declaration builds an entity exactly when its build has a result. -/
lemma exists_builds_iff {d : DeclarationInput} (hd : declarations[index]? = some d) :
    (∃ entity, Builds settings declarations index entity) ↔
      (d.build index settings).result.isOk = true := by
  rw [isOk_iff]
  constructor
  · rintro ⟨entity, d', hd', hbuild⟩
    obtain rfl := Option.some.inj (hd.symm.trans hd')
    exact ⟨entity, hbuild⟩
  · rintro ⟨entity, hbuild⟩
    exact ⟨entity, d, hd, hbuild⟩

/-- A declaration builds an entity of a name if its build has a result of that name. -/
lemma exists_builds_named {d : DeclarationInput} {name : String}
    (hd : declarations[index]? = some d)
    (hbuild : ((d.build index settings).result.toOption.map fun entity => entity.schema.entity) =
      some name) :
    ∃ entity, Builds settings declarations index entity ∧ entity.schema.entity = name := by
  obtain ⟨entity, hentity, hname⟩ := Option.map_eq_some_iff.mp hbuild
  cases hresult : (d.build index settings).result with
  | error failure =>
    rw [hresult] at hentity
    exact absurd hentity (by simp [Except.toOption])
  | ok built =>
    rw [hresult] at hentity
    obtain rfl := Option.some.inj hentity
    exact ⟨built, ⟨d, hd, hresult⟩, hname⟩

/-- After an attempt of one worker, the next declaration is attempted if the settings ask to go on,
or if the attempt has built an entity. -/
lemma succ_lt_length_attemptedInTurn_iff {start : Nat} {d : DeclarationInput}
    (hd : declarations[index]? = some d) :
    index + 1 < (attemptedInTurn settings start declarations).length ↔
      index + 1 < declarations.length ∧
        index < (attemptedInTurn settings start declarations).length ∧
          (settings.continuesOnError || (d.build (start + index) settings).result.isOk) = true := by
  induction declarations generalizing start index with
  | nil => exact absurd hd (by simp)
  | cons first rest ih =>
    rw [attemptedInTurn]
    by_cases hgoes : (settings.continuesOnError || (first.build start settings).result.isOk) = true
    · rw [if_pos hgoes]
      cases index with
      | zero =>
        obtain rfl := Option.some.inj hd
        have hnonempty : 0 < (attemptedInTurn settings (start + 1) rest).length ↔
            0 < rest.length := by
          cases rest <;> simp [attemptedInTurn]
        rw [List.length_cons, List.length_cons, Nat.add_lt_add_iff_right, hnonempty,
          Nat.add_lt_add_iff_right]
        exact ⟨fun hlt => ⟨hlt, Nat.succ_pos _, hgoes⟩, fun h => h.1⟩
      | succ index =>
        have hplace : start + (index + 1) = start + 1 + index := by omega
        rw [List.getElem?_cons_succ] at hd
        rw [List.length_cons, List.length_cons, Nat.add_lt_add_iff_right, Nat.add_lt_add_iff_right,
          Nat.add_lt_add_iff_right, hplace]
        exact ih hd
    · rw [if_neg hgoes]
      cases index with
      | zero =>
        obtain rfl := Option.some.inj hd
        exact ⟨fun hlt => absurd hlt (by simp), fun h => absurd h.2.2 hgoes⟩
      | succ index => simp

/-- After an attempt, the next declaration is attempted if several workers share the batch, if the
settings ask to go on, or if the attempt has built an entity. -/
lemma succ_lt_length_attempted_iff :
    index + 1 < (attempted settings declarations).length ↔
      index + 1 < declarations.length ∧ index < (attempted settings declarations).length ∧
        (isShared settings declarations = true ∨ settings.continuesOnError = true ∨
          ∃ entity, Builds settings declarations index entity) := by
  have hle : (attempted settings declarations).length ≤ declarations.length := by
    simpa using (attempted_isPrefix settings declarations).length_le
  by_cases hlt : index < declarations.length
  · have hd := List.getElem?_eq_getElem hlt
    rw [exists_builds_iff hd, ← Bool.or_eq_true settings.continuesOnError]
    rw [attempted]
    by_cases hshared : isShared settings declarations = true
    · rw [if_pos hshared, List.length_zipIdx]
      exact ⟨fun h => ⟨h, hlt, Or.inl hshared⟩, fun h => h.1⟩
    · rw [if_neg hshared, succ_lt_length_attemptedInTurn_iff hd, Nat.zero_add]
      simp only [hshared, Bool.false_eq_true, false_or]
  · constructor
    · intro h
      omega
    · intro h
      omega

/-- Everything is attempted if every attempt is one after which the batch goes on. -/
lemma attempted_eq_zipIdx (h : ∀ index < (attempted settings declarations).length,
      isShared settings declarations = true ∨ settings.continuesOnError = true ∨
        ∃ entity, Builds settings declarations index entity) :
    attempted settings declarations = declarations.zipIdx := by
  have hall : ∀ index < declarations.length, index < (attempted settings declarations).length := by
    intro index hlt
    induction index with
    | zero =>
      cases declarations with
      | nil => exact absurd hlt (by simp)
      | cons d rest =>
        rw [attempted]
        split_ifs
        · simp
        · simp [attemptedInTurn]
    | succ index ih =>
      have hattempted := ih (Nat.lt_of_succ_lt hlt)
      exact succ_lt_length_attempted_iff.mpr ⟨hlt, hattempted, h index hattempted⟩
  refine (attempted_isPrefix settings declarations).eq_of_length_le ?_
  rw [List.length_zipIdx]
  by_contra hless
  exact Nat.lt_irrefl _ (hall _ (Nat.not_le.mp hless))

/-- **Reports hold what is contributed.** The report on a batch holds what each of the declarations
that it attempts contributes, in their order. -/
theorem collects_of_generate {report : BatchReport}
    (h : (generate settings declarations).result = .ok report) :
    ∃ contributions, contributions.length = (attempted settings declarations).length ∧
      Collects settings declarations contributions report := by
  rw [generate_result] at h
  obtain ⟨outcomes, houtcomes, rfl⟩ := map_eq_ok.mp h
  have hempty : Collects settings declarations [] ⟨[], [], settings⟩ :=
    ⟨fun index outcome hmem => absurd hmem (by simp), rfl, rfl⟩
  obtain ⟨contributions, hlength, hcollects⟩ :=
    hempty.foldl_record (attempted_isPrefix settings declarations) houtcomes
  exact ⟨contributions, hlength.trans (Nat.zero_add _), hcollects⟩

/-- An entity of a report is built by one of the declarations of the batch. -/
lemma exists_builds_of_mem_built {report : BatchReport}
    (h : (generate settings declarations).result = .ok report) {entity : BuiltEntity}
    (hentity : entity ∈ report.built) : ∃ index, Builds settings declarations index entity := by
  obtain ⟨contributions, -, hcollects⟩ := collects_of_generate h
  obtain ⟨index, -, hcontributes⟩ := hcollects.mem_built_iff.mp hentity
  exact ⟨index, (contributes_built_iff.mp hcontributes).1⟩

/-- A batch of which one declaration is no mapping, and two declare the same name. -/
def repeatedCard : List DeclarationInput :=
  [sized "Card" 10, .raw 100 (.text "Card"), sized "Card" 20, sized "Letter" 10]

end Batch

end SqlMapping
