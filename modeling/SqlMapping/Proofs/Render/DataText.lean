import SqlMapping.Proofs.Document.JsonText
import SqlMapping.Proofs.Entity.Generated
import SqlMapping.Proofs.Number.Digits

/-!
# The data text determines the artifacts

Two lists of artifacts have the same data text exactly when they are the same list once halves of
surrogate pairs that follow each other are joined in all of their texts (`dataText_eq_iff`): a
character beyond sixteen bits is written as its two halves are. Nothing else is lost on the way to
the tree of lists and records, and nothing else on the way from the tree to its text.

For the second part, the text of a tree is compared with that of another tree where something
follows both of them. The first character tells which kind of tree it is. A text shows where it ends
by its closing quote, a list and a record by their closing bracket, and a truth value is one of two
words. A number does not show where it ends, but what follows a tree is a comma or a new line, and no
digit.
-/

namespace SqlMapping.Render

open SqlMapping.Document.Json SqlMapping.Text

/-! ## Kinds of trees -/

namespace DataTree

/-- What holds of a list if it holds of its items, of a record if it holds of the values of its
fields, and of every other tree, holds of all trees. -/
@[elab_as_elim, induction_eliminator]
theorem induction {motive : DataTree → Prop} (text : ∀ s, motive (.text s))
    (nat : ∀ n, motive (.nat n)) (bool : ∀ b, motive (.bool b))
    (list : ∀ items, (∀ item ∈ items, motive item) → motive (.list items))
    (record : ∀ fields, (∀ field ∈ fields, motive field.2) → motive (.record fields))
    (t : DataTree) : motive t :=
  @DataTree.rec motive (fun items => ∀ item ∈ items, motive item)
    (fun fields => ∀ field ∈ fields, motive field.2) (fun field => motive field.2)
    text nat bool list record
    (fun _ hmem => absurd hmem List.not_mem_nil)
    (fun _ _ hitem hrest => List.forall_mem_cons.mpr ⟨hitem, hrest⟩)
    (fun _ hmem => absurd hmem List.not_mem_nil)
    (fun _ _ hfield hrest => List.forall_mem_cons.mpr ⟨hfield, hrest⟩)
    (fun _ _ hvalue => hvalue) t

/-- The kinds of trees. -/
inductive Kind where
  | text | nat | bool | list | record
deriving DecidableEq

/-- The kind of a tree. -/
def kind : DataTree → Kind
  | .text _ => .text
  | .nat _ => .nat
  | .bool _ => .bool
  | .list _ => .list
  | .record _ => .record

/-- The kind of the trees whose text begins with a character. -/
def Kind.ofChar (c : Char) : Kind :=
  if c = '"' then .text
  else if c = '[' then .list
  else if c = '\x7b' then .record
  else if c.isDigit then .nat
  else .bool

end DataTree

/-! ## Joined halves -/

mutual

/-- A tree with halves joined in its texts. -/
def DataTree.joined : DataTree → DataTree
  | .text s => .text (joinedText s)
  | .nat n => .nat n
  | .bool b => .bool b
  | .list items => .list (joinedItems items)
  | .record fields => .record (joinedFields fields)

/-- The items of a list with halves joined in their texts. -/
def joinedItems : List DataTree → List DataTree
  | [] => []
  | item :: rest => item.joined :: joinedItems rest

/-- The fields of a record with halves joined in their texts. -/
def joinedFields : List (String × DataTree) → List (String × DataTree)
  | [] => []
  | (key, item) :: rest => (joinedText key, item.joined) :: joinedFields rest

end

/-- A field of a record with halves joined in its texts. -/
def joinedField (field : String × DataTree) : String × DataTree :=
  (joinedText field.1, field.2.joined)

/-- The items of a list are joined one by one. -/
lemma joinedItems_eq_map (items : List DataTree) : joinedItems items = items.map DataTree.joined := by
  induction items with
  | nil => rfl
  | cons item items ih => rw [joinedItems, ih, List.map_cons]

/-- The fields of a record are joined one by one. -/
lemma joinedFields_eq_map (fields : List (String × DataTree)) :
    joinedFields fields = fields.map joinedField := by
  induction fields with
  | nil => rfl
  | cons field fields ih => rw [joinedFields, ih, List.map_cons, joinedField]

/-! ## First characters -/

/-- The text of a list or record begins with its opening bracket. -/
lemma exists_bracketed_eq_cons (level : Nat) (opening closing : Char) (items : List (List Char)) :
    ∃ rest, bracketed level opening closing items = opening :: rest := by
  rw [bracketed]
  split_ifs
  · exact ⟨_, rfl⟩
  · exact ⟨_, rfl⟩

/-- The first character of the text of a tree tells the kind of the tree. -/
lemma exists_render_eq_cons (level : Nat) (t : DataTree) :
    ∃ c rest, t.render level = c :: rest ∧ DataTree.Kind.ofChar c = t.kind := by
  cases t with
  | text s => exact ⟨_, _, rfl, rfl⟩
  | nat n =>
    obtain ⟨c, rest, hlist⟩ := List.exists_cons_of_ne_nil (Nat.toDigits_ne_nil (b := 10) (n := n))
    have hdigit : c.isDigit = true :=
      Nat.isDigit_of_mem_toDigits (by decide) (by decide) (hlist ▸ List.mem_cons_self)
    exact ⟨c, rest, hlist, forall_isDigit (p := fun c => DataTree.Kind.ofChar c = .nat) (by decide)
      hdigit⟩
  | bool b =>
    cases b with
    | false => exact ⟨_, _, rfl, rfl⟩
    | true => exact ⟨_, _, rfl, rfl⟩
  | list items =>
    obtain ⟨rest, hrest⟩ := exists_bracketed_eq_cons level '[' ']' (renderItems (level + 1) items)
    exact ⟨_, rest, by rw [DataTree.render, hrest], rfl⟩
  | record fields =>
    obtain ⟨rest, hrest⟩ :=
      exists_bracketed_eq_cons level '\x7b' '\x7d' (renderFields (level + 1) fields)
    exact ⟨_, rest, by rw [DataTree.render, hrest], rfl⟩

/-- Trees whose texts begin alike are of one kind. -/
lemma kind_eq_of_render {level : Nat} {t u : DataTree} {rest rest' : List Char}
    (h : t.render level ++ rest = u.render level ++ rest') : t.kind = u.kind := by
  obtain ⟨c, more, ht, hc⟩ := exists_render_eq_cons level t
  obtain ⟨d, more', hu, hd⟩ := exists_render_eq_cons level u
  rw [ht, hu] at h
  rw [← hc, ← hd, (List.cons.inj h).1]

/-! ## What follows -/

/-- What follows an item begins with a comma or a new line. -/
def FollowsItem (rest : List Char) : Prop :=
  ∃ c more, rest = c :: more ∧ (c = ',' ∨ c = '\n')

/-- What is written for a value tells a part of it, and can be told from what follows. -/
def Separates {α β : Type} (write : α → List Char) (part : α → β) (a : α) : Prop :=
  ∀ b rest rest', FollowsItem rest → FollowsItem rest' → write a ++ rest = write b ++ rest' →
    part a = part b ∧ rest = rest'

/-- The digits of a number can be told from what follows them. -/
lemma separates_toDigits (n : Nat) : Separates (Nat.toDigits 10) id n := by
  have hdigits {n : Nat} {rest : List Char} (h : FollowsItem rest) :
      (Nat.toDigits 10 n ++ rest).takeWhile Char.isDigit = Nat.toDigits 10 n := by
    obtain ⟨c, more, rfl, hc⟩ := h
    have hstop : c.isDigit = false := by
      rcases hc with rfl | rfl
      · rfl
      · rfl
    rw [List.takeWhile_append_of_pos fun _ => Nat.isDigit_of_mem_toDigits (by decide) (by decide),
      List.takeWhile_cons_of_neg (by simp [hstop]), List.append_nil]
  intro m rest rest' hrest hrest' h
  have hsame : Nat.toDigits 10 n = Nat.toDigits 10 m := by
    rw [← hdigits hrest, h, hdigits hrest']
  refine ⟨?_, ?_⟩
  · calc
      n = Nat.ofDigitChars 10 (Nat.toDigits 10 n) 0 := Nat.ofDigitChars_ten_toDigits.symm
      _ = Nat.ofDigitChars 10 (Nat.toDigits 10 m) 0 := by rw [hsame]
      _ = m := Nat.ofDigitChars_ten_toDigits
  · rw [hsame] at h
    exact List.append_cancel_left h

/-! ## Lists of items -/

section Items

variable {α β : Type} {write : α → List Char} {part : α → β} {level : Nat}

/-- The items after the first one each follow a comma. -/
lemma joinItems_cons (item : List Char) (items : List (List Char)) :
    joinItems level (item :: items) =
      newLine level ++ (item ++ items.flatMap fun next => ',' :: (newLine level ++ next)) := by
  induction items generalizing item with
  | nil => simp [joinItems]
  | cons next items ih =>
    rw [joinItems, ih, List.flatMap_cons]
    · simp
    · simp

/-- A comma or a new line follows each item. -/
lemma followsItem_flatMap (xs : List α) (rest : List Char) :
    FollowsItem ((xs.flatMap fun x => ',' :: (newLine level ++ write x)) ++ '\n' :: rest) := by
  cases xs with
  | nil => exact ⟨_, _, rfl, Or.inr rfl⟩
  | cons x xs => exact ⟨_, _, rfl, Or.inl rfl⟩

/-- The items after the first one are told apart by their commas, up to a new line without one. -/
lemma flatMap_items_inj {xs ys : List α} (h : ∀ x ∈ xs, Separates write part x)
    {rest rest' : List Char}
    (heq : (xs.flatMap fun x => ',' :: (newLine level ++ write x)) ++ '\n' :: rest =
      (ys.flatMap fun y => ',' :: (newLine level ++ write y)) ++ '\n' :: rest') :
    xs.map part = ys.map part ∧ rest = rest' := by
  induction xs generalizing ys with
  | nil =>
    cases ys with
    | nil => exact ⟨rfl, (List.cons.inj heq).2⟩
    | cons y ys => exact absurd (List.cons.inj heq).1 (by decide)
  | cons x xs ih =>
    cases ys with
    | nil => exact absurd (List.cons.inj heq).1 (by decide)
    | cons y ys =>
      obtain ⟨hx, hxs⟩ := List.forall_mem_cons.mp h
      simp only [List.flatMap_cons, List.cons_append, List.append_assoc, List.cons.injEq, true_and,
        List.append_cancel_left_eq] at heq
      obtain ⟨hfirst, hrest⟩ :=
        hx _ _ _ (followsItem_flatMap xs rest) (followsItem_flatMap ys rest') heq
      obtain ⟨hothers, rfl⟩ := ih hxs hrest
      exact ⟨List.cons_eq_cons.mpr ⟨hfirst, hothers⟩, rfl⟩

/-- Items between brackets, the first of them set apart. -/
lemma bracketed_map_cons (opening closing : Char) (x : α) (xs : List α) (rest : List Char) :
    bracketed level opening closing ((x :: xs).map write) ++ rest =
      opening :: (newLine (level + 1) ++ (write x ++
        ((xs.flatMap fun x => ',' :: (newLine (level + 1) ++ write x)) ++
          '\n' :: (List.replicate (2 * level) ' ' ++ closing :: rest)))) := by
  simp [bracketed, joinItems_cons, newLine, List.flatMap_map]

/-- Items between brackets can be told from what follows the closing bracket. -/
lemma bracketed_inj {opening closing : Char} (hclosing : closing ≠ '\n') {xs ys : List α}
    (h : ∀ x ∈ xs, Separates write part x) {rest rest' : List Char}
    (heq : bracketed level opening closing (xs.map write) ++ rest =
      bracketed level opening closing (ys.map write) ++ rest') :
    xs.map part = ys.map part ∧ rest = rest' := by
  cases xs with
  | nil =>
    cases ys with
    | nil => exact ⟨rfl, List.append_cancel_left heq⟩
    | cons y ys =>
      rw [bracketed_map_cons] at heq
      exact absurd (List.cons.inj (List.cons.inj heq).2).1 hclosing
  | cons x xs =>
    cases ys with
    | nil =>
      rw [bracketed_map_cons] at heq
      exact absurd (List.cons.inj (List.cons.inj heq).2).1.symm hclosing
    | cons y ys =>
      obtain ⟨hx, hxs⟩ := List.forall_mem_cons.mp h
      rw [bracketed_map_cons, bracketed_map_cons] at heq
      have hitems := List.append_cancel_left (List.cons.inj heq).2
      obtain ⟨hfirst, hrest⟩ :=
        hx _ _ _ (followsItem_flatMap xs _) (followsItem_flatMap ys _) hitems
      obtain ⟨hothers, hafter⟩ := flatMap_items_inj hxs hrest
      exact ⟨List.cons_eq_cons.mpr ⟨hfirst, hothers⟩,
        (List.cons.inj (List.append_cancel_left hafter)).2⟩

end Items

/-! ## Trees -/

/-- The text of a field of a record. -/
def fieldText (level : Nat) (field : String × DataTree) : List Char :=
  quotedText field.1 ++ ':' :: ' ' :: field.2.render level

/-- The items of a list are written one by one. -/
lemma renderItems_eq_map (level : Nat) (items : List DataTree) :
    renderItems level items = items.map (DataTree.render level) := by
  induction items with
  | nil => rfl
  | cons item items ih => rw [renderItems, ih, List.map_cons]

/-- The fields of a record are written one by one. -/
lemma renderFields_eq_map (level : Nat) (fields : List (String × DataTree)) :
    renderFields level fields = fields.map (fieldText level) := by
  induction fields with
  | nil => rfl
  | cons field fields ih => rw [renderFields, ih, List.map_cons, fieldText]

/-- A field can be told from what follows it if its value can. -/
lemma separates_fieldText {level : Nat} {field : String × DataTree}
    (h : Separates (DataTree.render level) DataTree.joined field.2) :
    Separates (fieldText level) joinedField field := by
  intro other rest rest' hrest hrest' heq
  simp only [fieldText, List.append_assoc, List.cons_append] at heq
  obtain ⟨hkey, hvalue⟩ := quotedText_append_inj heq
  simp only [List.cons.injEq, true_and] at hvalue
  obtain ⟨hsame, hafter⟩ := h _ _ _ hrest hrest' hvalue
  exact ⟨Prod.mk.injEq .. ▸ ⟨hkey, hsame⟩, hafter⟩

/-- The text of a tree tells the tree with halves joined, and can be told from what follows it. -/
theorem separates_render (t : DataTree) (level : Nat) :
    Separates (DataTree.render level) DataTree.joined t := by
  induction t generalizing level with
  | text s =>
    intro u rest rest' _ _ h
    have hkind := kind_eq_of_render h
    cases u with
    | text s' =>
      obtain ⟨hsame, rfl⟩ := quotedText_append_inj h
      exact ⟨congrArg DataTree.text hsame, rfl⟩
    | _ => cases hkind
  | nat n =>
    intro u rest rest' hrest hrest' h
    have hkind := kind_eq_of_render h
    cases u with
    | nat m =>
      obtain ⟨hsame, rfl⟩ := separates_toDigits n m _ _ hrest hrest' h
      exact ⟨congrArg DataTree.nat hsame, rfl⟩
    | _ => cases hkind
  | bool b =>
    intro u rest rest' _ _ h
    have hkind := kind_eq_of_render h
    cases u with
    | bool b' =>
      cases b with
      | false =>
        cases b' with
        | false => exact ⟨rfl, List.append_cancel_left h⟩
        | true => exact absurd (List.cons.inj h).1 (by decide)
      | true =>
        cases b' with
        | false => exact absurd (List.cons.inj h).1 (by decide)
        | true => exact ⟨rfl, List.append_cancel_left h⟩
    | _ => cases hkind
  | list items ih =>
    intro u rest rest' _ _ h
    have hkind := kind_eq_of_render h
    cases u with
    | list items' =>
      simp only [DataTree.render, renderItems_eq_map] at h
      obtain ⟨hsame, rfl⟩ := bracketed_inj (by decide) (fun item hmem => ih item hmem (level + 1)) h
      simp only [DataTree.joined, joinedItems_eq_map, hsame, and_self]
    | _ => cases hkind
  | record fields ih =>
    intro u rest rest' _ _ h
    have hkind := kind_eq_of_render h
    cases u with
    | record fields' =>
      simp only [DataTree.render, renderFields_eq_map] at h
      obtain ⟨hsame, rfl⟩ := bracketed_inj (by decide)
        (fun field hmem => separates_fieldText (ih field hmem (level + 1))) h
      simp only [DataTree.joined, joinedFields_eq_map, hsame, and_self]
    | _ => cases hkind

/-- A tree has the text that it has once halves are joined. -/
theorem render_joined (t : DataTree) (level : Nat) : t.joined.render level = t.render level := by
  induction t generalizing level with
  | text s => exact quotedText_joinedText s
  | nat n => rfl
  | bool b => rfl
  | list items ih =>
    have hitems : (items.map DataTree.joined).map (DataTree.render (level + 1)) =
        items.map (DataTree.render (level + 1)) := by
      rw [List.map_map]
      exact List.map_congr_left fun item hmem => ih item hmem (level + 1)
    rw [DataTree.joined, DataTree.render, DataTree.render, joinedItems_eq_map, renderItems_eq_map,
      renderItems_eq_map, hitems]
  | record fields ih =>
    have hfields : (fields.map joinedField).map (fieldText (level + 1)) =
        fields.map (fieldText (level + 1)) := by
      rw [List.map_map]
      refine List.map_congr_left fun field hmem => ?_
      rw [Function.comp_apply, joinedField, fieldText, quotedText_joinedText, ih field hmem,
        fieldText]
    rw [DataTree.joined, DataTree.render, DataTree.render, joinedFields_eq_map,
      renderFields_eq_map, renderFields_eq_map, hfields]

/-- Trees with the same text are the same once halves are joined. -/
theorem render_joined_inj {level : Nat} {t u : DataTree} (h : t.render level = u.render level) :
    t.joined = u.joined := by
  have hend : FollowsItem ['\n'] := ⟨_, _, rfl, Or.inr rfl⟩
  exact (separates_render t level u _ _ hend hend (congrArg (· ++ ['\n']) h)).1

/-! ## Artifacts -/

/-- The name of a source tells the source. -/
lemma name_injective_bindSource : Function.Injective BindSource.name := by
  intro s t h
  revert h
  cases s <;> cases t <;> decide

/-- The name of a decoder tells the decoder. -/
lemma name_injective_decoder : Function.Injective Decoder.name := by
  intro s t h
  revert h
  cases s <;> cases t <;> decide

/-- Nothing of a binding is left out. -/
lemma bindingTree_injective : Function.Injective bindingTree := by
  rintro ⟨position, name, source, hostType⟩ ⟨position', name', source', hostType'⟩ h
  simpa [bindingTree, name_injective_bindSource.eq_iff] using h

/-- Nothing of a statement is left out. -/
lemma statementTree_injective : Function.Injective statementTree := by
  rintro ⟨operation, sql, bindings⟩ ⟨operation', sql', bindings'⟩ h
  have hbindings := List.map_injective_iff.mpr bindingTree_injective
  simp only [statementTree, DataTree.record.injEq, List.cons.injEq, Prod.mk.injEq,
    DataTree.text.injEq, DataTree.list.injEq, true_and, and_true] at h
  obtain ⟨rfl, rfl, hmap, -⟩ := h
  rw [hbindings hmap]

/-- Nothing of a decode step is left out. -/
lemma stepTree_injective : Function.Injective stepTree := by
  rintro ⟨position, column, hostType, sqlType, decoder, isUntyped⟩
    ⟨position', column', hostType', sqlType', decoder', isUntyped'⟩ h
  simpa [stepTree, name_injective_decoder.eq_iff] using h

/-- Nothing of the artifacts of an entity is left out. -/
lemma artifactsTree_injective : Function.Injective artifactsTree := by
  rintro ⟨entity, table, key, createTable, statement, queries, decodePlan⟩
    ⟨entity', table', key', createTable', statement', queries', decodePlan'⟩ h
  have hquery : Function.Injective fun q : String × Statement => (q.1, statementTree q.2) :=
    fun _ _ hpair =>
      Prod.ext (Prod.mk.inj hpair).1 (statementTree_injective (Prod.mk.inj hpair).2)
  have hqueries := List.map_injective_iff.mpr hquery
  have hsteps := List.map_injective_iff.mpr stepTree_injective
  simp only [artifactsTree, DataTree.record.injEq, List.cons.injEq, Prod.mk.injEq,
    DataTree.text.injEq, DataTree.list.injEq, true_and, and_true] at h
  obtain ⟨rfl, rfl, rfl, rfl, hstatements, hmap, hplan⟩ := h
  have hstatement : statement = statement' := by
    funext op
    have hop := List.map_inj_left.mp hstatements op (by cases op <;> decide)
    exact statementTree_injective (Prod.mk.inj hop).2
  have hsame := hqueries hmap
  rw [hstatement, hsame, hsteps hplan]

/-- A binding with halves joined in its texts. -/
def joinedBinding (b : Binding) : Binding :=
  { b with name := joinedText b.name, hostType := joinedText b.hostType }

/-- A statement with halves joined in its texts. -/
def joinedStatement (s : Statement) : Statement :=
  { operation := joinedText s.operation
    sql := joinedText s.sql
    bindings := s.bindings.map joinedBinding }

/-- A decode step with halves joined in its texts. -/
def joinedStep (s : DecodeStep) : DecodeStep :=
  { s with
    column := joinedText s.column
    hostType := joinedText s.hostType
    sqlType := joinedText s.sqlType }

/-- The artifacts of an entity with halves joined in their texts. -/
def joinedArtifacts (a : Artifacts) : Artifacts :=
  { entity := joinedText a.entity
    table := joinedText a.table
    key := joinedText a.key
    createTable := joinedText a.createTable
    statement := fun op => joinedStatement (a.statement op)
    queries := a.queries.map fun (name, s) => (joinedText name, joinedStatement s)
    decodePlan := a.decodePlan.map joinedStep }

/-- The fields of a record with plain keys are joined in their values. -/
lemma joined_record {fields : List (String × DataTree)}
    (h : (fields.map Prod.fst).all isWhole = true) :
    (DataTree.record fields).joined = .record (fields.map (Prod.map id DataTree.joined)) := by
  rw [DataTree.joined, joinedFields_eq_map, DataTree.record.injEq]
  refine List.map_congr_left fun field hmem => ?_
  have hkey : isWhole field.1 = true := List.all_eq_true.mp h _ (List.mem_map_of_mem hmem)
  rw [joinedField, joinedText_of_isWhole hkey]
  rfl

/-- The tree of a binding, with halves joined, is that of the binding with halves joined. -/
lemma joined_bindingTree (b : Binding) : (bindingTree b).joined = bindingTree (joinedBinding b) := by
  have hsource : isWhole b.source.name = true := by
    cases b.source <;> decide
  rw [bindingTree, joined_record (by simp only [List.map_cons, List.map_nil]; decide)]
  simp only [List.map, Prod.map, id, DataTree.joined, joinedText_of_isWhole hsource]
  rfl

/-- The tree of a statement, with halves joined, is that of the statement with halves joined. -/
lemma joined_statementTree (s : Statement) :
    (statementTree s).joined = statementTree (joinedStatement s) := by
  have hbindings : (s.bindings.map bindingTree).map DataTree.joined =
      (s.bindings.map joinedBinding).map bindingTree := by
    rw [List.map_map, List.map_map]
    exact List.map_congr_left fun b _ => joined_bindingTree b
  rw [statementTree, joined_record (by simp only [List.map_cons, List.map_nil]; decide)]
  simp only [List.map_cons, List.map_nil, Prod.map, id, DataTree.joined, joinedItems_eq_map,
    hbindings]
  simp [statementTree, joinedStatement, Statement.parameterCount]

/-- The tree of a decode step, with halves joined, is that of the step with halves joined. -/
lemma joined_stepTree (s : DecodeStep) : (stepTree s).joined = stepTree (joinedStep s) := by
  have hdecoder : isWhole s.decoder.name = true := by
    cases s.decoder <;> decide
  rw [stepTree, joined_record (by simp only [List.map_cons, List.map_nil]; decide)]
  simp only [List.map, Prod.map, id, DataTree.joined, joinedText_of_isWhole hdecoder]
  rfl

/-- The tree of artifacts, with halves joined, is that of the artifacts with halves joined. -/
lemma joined_artifactsTree (a : Artifacts) :
    (artifactsTree a).joined = artifactsTree (joinedArtifacts a) := by
  have hstatements : (DataTree.record (Operation.all.map fun op =>
      (op.name, statementTree (a.statement op)))).joined =
        .record (Operation.all.map fun op =>
          (op.name, statementTree (joinedStatement (a.statement op)))) := by
    have hnames : (Operation.all.map Operation.name).all isWhole = true := by decide
    rw [joined_record (by rwa [List.map_map]), List.map_map]
    simp only [Function.comp_def, Prod.map, id, joined_statementTree]
  have hqueries : joinedFields (a.queries.map fun (name, s) => (name, statementTree s)) =
      (joinedArtifacts a).queries.map fun (name, s) => (name, statementTree s) := by
    rw [joinedFields_eq_map, joinedArtifacts, List.map_map, List.map_map]
    exact List.map_congr_left fun q _ => Prod.ext rfl (joined_statementTree q.2)
  have hplan : joinedItems (a.decodePlan.map stepTree) =
      (joinedArtifacts a).decodePlan.map stepTree := by
    rw [joinedItems_eq_map, joinedArtifacts, List.map_map, List.map_map]
    exact List.map_congr_left fun s _ => joined_stepTree s
  rw [artifactsTree, joined_record (by simp only [List.map_cons, List.map_nil]; decide)]
  simp only [List.map_cons, List.map_nil, Prod.map, id, hstatements]
  simp only [DataTree.joined, hqueries, hplan]
  rfl

/-- The trees of artifacts, with halves joined. -/
lemma joined_artifactsTrees (units : List Artifacts) :
    (DataTree.list (units.map artifactsTree)).joined =
      .list ((units.map joinedArtifacts).map artifactsTree) := by
  rw [DataTree.joined, joinedItems_eq_map, List.map_map, List.map_map]
  exact congrArg DataTree.list (List.map_congr_left fun a _ => joined_artifactsTree a)

/-- Artifacts have the data text that they have once halves are joined. -/
theorem dataText_joined (units : List Artifacts) :
    dataText (units.map joinedArtifacts) = dataText units := by
  rw [dataText, ← joined_artifactsTrees, render_joined, dataText]

/-- **What the data text loses.** Two lists of artifacts have the same data text exactly when they are
the same list, once halves of surrogate pairs that follow each other are joined in all of their
texts: their names, tables and keys, the statements that create the tables, the statements of the
operations and of the queries with their bindings, and the decode plans. -/
theorem dataText_eq_iff {units units' : List Artifacts} :
    dataText units = dataText units' ↔
      units.map joinedArtifacts = units'.map joinedArtifacts := by
  constructor
  · intro h
    have htrees := render_joined_inj (List.append_cancel_right (String.ofList_injective h))
    rw [joined_artifactsTrees, joined_artifactsTrees, DataTree.list.injEq] at htrees
    exact List.map_injective_iff.mpr artifactsTree_injective htrees
  · intro h
    rw [← dataText_joined units, h, dataText_joined]

/-- A schema whose only column has a type in the host program. -/
def hosted (hostType : String) : Schema :=
  { entity := "Note"
    table := "note"
    columns := [{ name := "id", hostType, type := .int, isKey := true }]
    hasKey := rfl }

/-- What is generated for this schema. -/
def hostedArtifacts (hostType : String) : Artifacts :=
  (hosted hostType).artifacts [] "CREATE TABLE `note` (`id` INT PRIMARY KEY )"
    (decodeSteps 0 (hosted hostType).columns)

/-- The two halves of the character U+1F600. -/
def grinningHalves : String :=
  String.ofList (spellingOf [.ofNumber 0xd83d, .ofNumber 0xde00])

/-- Artifacts that differ in a character beyond sixteen bits and in the halves of this character are
not the same, but their data text is. -/
theorem dataText_eq_of_ne :
    ((hosted "😀").generate [] {}).result = .ok (hostedArtifacts "😀") ∧
      ((hosted grinningHalves).generate [] {}).result = .ok (hostedArtifacts grinningHalves) ∧
      [hostedArtifacts "😀"] ≠ [hostedArtifacts grinningHalves] ∧
        dataText [hostedArtifacts "😀"] = dataText [hostedArtifacts grinningHalves] := by
  refine ⟨rfl, rfl, fun hsame => ?_, ?_⟩
  · have hplan := congrArg (fun a => a.decodePlan.map DecodeStep.hostType) (List.cons.inj hsame).1
    revert hplan
    decide
  · have hstatement : ∀ op, joinedStatement ((hosted "😀").statement op) =
        joinedStatement ((hosted grinningHalves).statement op) := by
      intro op
      cases op <;> decide +kernel
    have hplan : (decodeSteps 0 (hosted "😀").columns).map joinedStep =
        (decodeSteps 0 (hosted grinningHalves).columns).map joinedStep := by
      decide +kernel
    have hjoined : joinedArtifacts (hostedArtifacts "😀") =
        joinedArtifacts (hostedArtifacts grinningHalves) := by
      simp only [joinedArtifacts, hostedArtifacts, Schema.artifacts, hstatement, hplan]
      rfl
    rw [← dataText_joined, List.map_singleton, hjoined, ← List.map_singleton, dataText_joined]

end SqlMapping.Render
