import SqlMapping.Proofs.Batch.Contribution

/-!
# Stopping at the first failure

One worker that is not asked to go on attempts a declaration exactly when everything before it builds
an entity (`lt_length_attempted_iff`). So nothing is generated after a declaration that builds none.
A repeated name is noticed later, when the report is put together, and does not stop the worker: the
run stops at its first failure exactly when no declaration follows a repeated name that is reached.
-/

namespace SqlMapping.Batch

variable {settings : Settings} {declarations : List DeclarationInput} {report : BatchReport}

/-- A report of a run that has stopped at its first failure: there is no other failure, and every
unit is declared before each declaration that is a failure. -/
structure StopsAtFailure (settings : Settings) (declarations : List DeclarationInput)
    (report : BatchReport) : Prop where
  /-- There is one failure at most. -/
  one : report.failures.length ≤ 1
  /-- The units are declared before the failure. -/
  before : ∀ place failure, Contributes settings declarations place (.failed failure) →
    ∀ index entity, Contributes settings declarations index (.built entity) →
      entity ∈ report.built → index < place

/-! ## Attempts of one worker -/

/-- One worker that is not asked to go on attempts a declaration exactly when everything before it
builds an entity. -/
lemma lt_length_attempted_iff (hstop : settings.continuesOnError = false)
    (hworkers : settings.workers = 1) {index : Nat} :
    index < (attempted settings declarations).length ↔ index < declarations.length ∧
      ∀ earlier < index, ∃ entity, Builds settings declarations earlier entity := by
  have hshared : isShared settings declarations = false := by simp [isShared, hworkers]
  induction index with
  | zero =>
    rw [attempted, hshared]
    cases declarations <;> simp [attemptedInTurn]
  | succ index ih =>
    rw [succ_lt_length_attempted_iff, hshared, hstop]
    constructor
    · rintro ⟨hlt, hattempted, hgoes⟩
      refine ⟨hlt, fun earlier hle => ?_⟩
      rcases Nat.lt_succ_iff_lt_or_eq.mp hle with hless | rfl
      · exact (ih.mp hattempted).2 earlier hless
      · simpa using hgoes
    · rintro ⟨hlt, hearlier⟩
      refine ⟨hlt, ih.mpr ⟨Nat.lt_of_succ_lt hlt, fun earlier hless => ?_⟩, ?_⟩
      · exact hearlier earlier (Nat.lt_succ_of_lt hless)
      · exact Or.inr (Or.inr (hearlier index (Nat.lt_succ_self index)))

/-- A unit is declared among the declarations of its report. -/
lemma Collects.lt_length {contributions : List Outcome}
    (h : Collects settings declarations contributions report) {index : Nat} {entity : BuiltEntity}
    (hcontributes : Contributes settings declarations index (.built entity))
    (hmem : entity ∈ report.built) : index < contributions.length := by
  obtain ⟨place, hlt, hplace⟩ := h.mem_built_iff.mp hmem
  rwa [hcontributes.index_unique hplace rfl]

/-! ## Failures -/

/-- A report whose contributions are entities up to the last one has one failure at most. -/
lemma length_failures_le_one {contributions : List Outcome}
    (h : ∀ index, index + 1 < contributions.length →
      ∃ entity, contributions[index]? = some (.built entity)) :
    (contributions.filterMap Outcome.failure?).length ≤ 1 := by
  rcases List.eq_nil_or_concat contributions with rfl | ⟨init, last, rfl⟩
  · exact Nat.zero_le 1
  · have hinit : init.filterMap Outcome.failure? = [] := by
      rw [List.filterMap_eq_nil_iff]
      intro outcome hmem
      obtain ⟨index, hindex⟩ := List.mem_iff_getElem?.mp hmem
      obtain ⟨hlt, -⟩ := List.getElem?_eq_some_iff.mp hindex
      obtain ⟨entity, hentity⟩ := h index (by simpa using hlt)
      rw [List.concat_eq_append, List.getElem?_append_left hlt, hindex] at hentity
      rw [Option.some.inj hentity]
      rfl
    rw [List.concat_eq_append, List.filterMap_append, hinit]
    exact List.length_filterMap_le _ _

/-- A report with two failures side by side has more than one. -/
lemma one_lt_length_failures {contributions : List Outcome} {index : Nat}
    {failure other : EntityFailure} (hfailure : contributions[index]? = some (.failed failure))
    (hother : contributions[index + 1]? = some (.failed other)) :
    1 < (contributions.filterMap Outcome.failure?).length := by
  obtain ⟨hlt, hfailure⟩ := List.getElem?_eq_some_iff.mp hfailure
  obtain ⟨hlt', hother⟩ := List.getElem?_eq_some_iff.mp hother
  have hdrop : contributions.drop index =
      .failed failure :: .failed other :: contributions.drop (index + 2) := by
    rw [List.drop_eq_getElem_cons hlt, List.drop_eq_getElem_cons hlt', hfailure, hother]
  have hsublist := (List.drop_sublist index contributions).filterMap Outcome.failure?
  rw [hdrop] at hsublist
  have hle := hsublist.length_le
  rw [List.filterMap_cons, List.filterMap_cons] at hle
  simp only [Outcome.failure?, List.length_cons] at hle
  omega

/-- A run has not stopped at its first failure if it reaches a repeated name and goes on. -/
lemma not_stopsAtFailure_of_repeated {contributions : List Outcome}
    (h : Collects settings declarations contributions report) {index : Nat} {entity : BuiltEntity}
    (hlt : index + 1 < contributions.length) (hbuilds : Builds settings declarations index entity)
    (htaken : IsTaken settings declarations index entity.schema.entity) :
    ¬StopsAtFailure settings declarations report := by
  intro hstops
  have hrepeated := Contributes.repeated hbuilds htaken
  have hplace := List.getElem?_eq_getElem (Nat.lt_of_succ_lt hlt)
  rw [(h.contributes index _ hplace).unique hrepeated] at hplace
  have hnext := List.getElem?_eq_getElem hlt
  have hcontributes := h.contributes (index + 1) _ hnext
  cases houtcome : contributions[index + 1] with
  | failed failure =>
    rw [houtcome] at hnext
    have hseveral := one_lt_length_failures hplace hnext
    rw [← h.failures] at hseveral
    exact absurd hstops.one (Nat.not_le.mpr hseveral)
  | built unit =>
    rw [houtcome] at hcontributes
    have hmem := h.mem_built_iff.mpr ⟨index + 1, hlt, hcontributes⟩
    have hbefore := hstops.before index _ hrepeated (index + 1) unit hcontributes hmem
    omega

/-- A run has stopped at its first failure if everything before its last contribution is an entity
of a new name. -/
lemma stopsAtFailure_of_built {contributions : List Outcome}
    (h : Collects settings declarations contributions report)
    (hbuilt : ∀ index, index + 1 < contributions.length →
      ∃ entity, Contributes settings declarations index (.built entity)) :
    StopsAtFailure settings declarations report where
  one := by
    rw [h.failures]
    refine length_failures_le_one fun index hlt => ?_
    obtain ⟨entity, hcontributes⟩ := hbuilt index hlt
    have hplace := List.getElem?_eq_getElem (Nat.lt_of_succ_lt hlt)
    refine ⟨entity, ?_⟩
    rw [hplace, (h.contributes index _ hplace).unique hcontributes]
  before := by
    intro place failure hfailure index entity hcontributes hmem
    have hlt := h.lt_length hcontributes hmem
    by_contra hge
    rcases Nat.lt_or_eq_of_le (Nat.not_lt.mp hge) with hless | rfl
    · obtain ⟨other, hother⟩ := hbuilt place (by omega)
      exact absurd (hother.unique hfailure) (by simp)
    · exact absurd (hcontributes.unique hfailure) (by simp)

/-! ## The law -/

/-- The contributions of a batch up to that of the first declaration which builds no entity. -/
def EndsUnbuilt (settings : Settings) (declarations : List DeclarationInput)
    (contributions : List Outcome) : Prop :=
  ∀ index, index < contributions.length ↔ index < declarations.length ∧
    ∀ earlier < index, ∃ entity, Builds settings declarations earlier entity

/-- A unit is declared before each declaration that builds no entity. -/
lemma Collects.lt_of_fails {contributions : List Outcome}
    (h : Collects settings declarations contributions report)
    (hends : EndsUnbuilt settings declarations contributions) {place : Nat} {d : DeclarationInput}
    {e : MappingError} (hd : declarations[place]? = some d)
    (hfails : (d.build place settings).result = .error (.mapping e)) {index : Nat}
    {entity : BuiltEntity} (hcontributes : Contributes settings declarations index (.built entity))
    (hmem : entity ∈ report.built) : index < place := by
  obtain ⟨-, hearlier⟩ := (hends index).mp (h.lt_length hcontributes hmem)
  by_contra hge
  rcases Nat.lt_or_eq_of_le (Nat.not_lt.mp hge) with hlt | rfl
  · obtain ⟨other, hother⟩ := hearlier place hlt
    exact not_builds_of_fails hd hfails hother
  · exact not_builds_of_fails hd hfails (contributes_built_iff.mp hcontributes).1

/-- The run goes on after a repeated name that it reaches before the last declaration. -/
lemma EndsUnbuilt.succ_lt_length {contributions : List Outcome}
    (hends : EndsUnbuilt settings declarations contributions) {index : Nat} {entity : BuiltEntity}
    (hbuilds : Builds settings declarations index entity) (hlast : index + 1 ≠ declarations.length)
    (hearlier : ∀ earlier < index, ∃ other, Builds settings declarations earlier other) :
    index + 1 < contributions.length := by
  refine (hends _).mpr ⟨Nat.lt_of_le_of_ne hbuilds.lt_length hlast, fun earlier hle => ?_⟩
  rcases Nat.lt_succ_iff_lt_or_eq.mp hle with hlt | rfl
  · exact hearlier earlier hlt
  · exact ⟨entity, hbuilds⟩

/-- **Where a run stops.** One worker that is not asked to go on generates nothing that is declared
after a declaration which builds no entity. It stops at its first failure of any kind exactly when
every repeated name is that of the last declaration, or comes after a declaration which builds no
entity. -/
theorem generate_stopsAtFailure_iff (hstop : settings.continuesOnError = false)
    (hworkers : settings.workers = 1) (h : (generate settings declarations).result = .ok report) :
    (∀ place d e, declarations[place]? = some d →
      (d.build place settings).result = .error (.mapping e) →
        ∀ index entity, Contributes settings declarations index (.built entity) →
          entity ∈ report.built → index < place) ∧
      (StopsAtFailure settings declarations report ↔
        ∀ index entity, Builds settings declarations index entity →
          IsTaken settings declarations index entity.schema.entity →
            index + 1 = declarations.length ∨
              ∃ earlier < index, ∀ other, ¬Builds settings declarations earlier other) := by
  obtain ⟨contributions, hlength, hcollects⟩ := collects_of_generate h
  have hends : EndsUnbuilt settings declarations contributions := by
    intro index
    rw [hlength]
    exact lt_length_attempted_iff hstop hworkers
  refine ⟨fun place d e hd hfails index entity => hcollects.lt_of_fails hends hd hfails, ?_, ?_⟩
  · intro hstops index entity hbuilds htaken
    by_contra hreached
    push Not at hreached
    obtain ⟨hlast, hearlier⟩ := hreached
    have hlt := hends.succ_lt_length hbuilds hlast hearlier
    exact not_stopsAtFailure_of_repeated hcollects hlt hbuilds htaken hstops
  · intro hlast
    refine stopsAtFailure_of_built hcollects fun index hlt => ?_
    obtain ⟨hlt', hearlier⟩ := (hends _).mp hlt
    obtain ⟨entity, hbuilds⟩ := hearlier index (Nat.lt_succ_self index)
    refine ⟨entity, .built hbuilds fun htaken => ?_⟩
    rcases hlast index entity hbuilds htaken with heq | ⟨earlier, hless, hnone⟩
    · omega
    · obtain ⟨other, hother⟩ := hearlier earlier (Nat.lt_succ_of_lt hless)
      exact hnone other hother

/-- A worker that is not asked to go on stops at the declaration that is no mapping. -/
theorem stopsAtFailure_repeatedCard :
    ∃ report, (generate { continuesOnError := false } repeatedCard).result = .ok report ∧
      StopsAtFailure { continuesOnError := false } repeatedCard report := by
  obtain ⟨report, hreport⟩ := isOk_iff.mp (by decide +kernel :
    (generate { continuesOnError := false } repeatedCard).result.isOk = true)
  refine ⟨report, hreport, (generate_stopsAtFailure_iff rfl rfl hreport).2.mpr ?_⟩
  have hnone : ∀ entity, ¬Builds { continuesOnError := false } repeatedCard 1 entity :=
    fun entity => not_builds_of_fails rfl rfl
  intro index entity hbuilds htaken
  match index with
  | 0 =>
    obtain ⟨earlier, hlt, -⟩ := htaken
    exact absurd hlt (Nat.not_lt_zero earlier)
  | 1 => exact absurd hbuilds (hnone entity)
  | index + 2 => exact Or.inr ⟨1, by omega, hnone⟩

/-- A batch in which a name is repeated before the last declaration. -/
def repeatedFirst : List DeclarationInput :=
  [sized "Card" 10, sized "Card" 20, sized "Letter" 10]

/-- A worker that is not asked to go on goes on after a repeated name. -/
theorem not_stopsAtFailure_repeatedFirst :
    ∃ report, (generate { continuesOnError := false } repeatedFirst).result = .ok report ∧
      ¬StopsAtFailure { continuesOnError := false } repeatedFirst report := by
  obtain ⟨report, hreport⟩ := isOk_iff.mp (by decide +kernel :
    (generate { continuesOnError := false } repeatedFirst).result.isOk = true)
  obtain ⟨contributions, hlength, hcollects⟩ := collects_of_generate hreport
  have hfirst : ∃ entity, Builds { continuesOnError := false } repeatedFirst 0 entity ∧
      entity.schema.entity = "Card" := exists_builds_named rfl (by decide +kernel)
  have hsecond : ∃ entity, Builds { continuesOnError := false } repeatedFirst 1 entity ∧
      entity.schema.entity = "Card" := exists_builds_named rfl (by decide +kernel)
  have hthird : (attempted { continuesOnError := false } repeatedFirst).length = 3 := by
    decide +kernel
  obtain ⟨first, hbuilds, hname⟩ := hfirst
  obtain ⟨second, hbuilds', hname'⟩ := hsecond
  refine ⟨report, hreport, not_stopsAtFailure_of_repeated hcollects ?_ hbuilds' ?_⟩
  · rw [hlength, hthird]
    decide
  · exact ⟨0, Nat.zero_lt_one, first, hbuilds, hname.trans hname'.symm⟩

end SqlMapping.Batch
