import Mathlib.Data.Nat.Count
import SqlMapping.Number.Integer
import SqlMapping.Proofs.Sql.Placeholder

/-!
# Statements as drivers get them

What a driver gets is described by a set of places. `AdaptsAt sql places` says that in every style
the `k`-th of these places has the `k`-th mark of the style, and that every other character is kept,
percent signs being doubled where the style asks for it.

There is exactly one such set: that of the question marks with no quote open in front of them
(`adaptsAt_iff`). The scan knows of the text in front of it the quote that is open and the number of
places, and nothing else (`adaptFrom_eq_pieces`). Where percent signs are doubled, the statement can
be read back from what the driver gets (`readDoubled_pieces`).
-/

namespace SqlMapping.Sql

open SqlMapping.Number

/-! ## Styles -/

/-- A style that has marks of its own for placeholders. -/
structure Marking where
  /-- The name of the style. -/
  style : String
  /-- The mark of the placeholder of a number, counted from 1. -/
  mark : Nat → String
  /-- Whether percent signs are doubled. -/
  doublesPercent : Bool

/-- The styles that have marks of their own. -/
def markings : List Marking :=
  [⟨"format", fun _ => "%s", true⟩, ⟨"pyformat", fun _ => "%s", true⟩,
   ⟨"numeric", fun k => ":" ++ natText k, false⟩, ⟨"named", fun k => ":p" ++ natText k, false⟩]

namespace Marking

variable (m : Marking) (places : Finset Nat)

/-- What is written for the character at a place: at the given places the mark of that number, and
elsewhere the character itself, with percent signs doubled if the style asks for it. -/
def piece (c : Char) (i : Nat) : List Char :=
  if i ∈ places then (m.mark (Nat.count (· ∈ places) (i + 1))).toList
  else if c = '%' ∧ m.doublesPercent = true then ['%', '%']
  else [c]

/-- What is written for a list of characters, the first of which has the given place. -/
def pieces (i : Nat) (cs : List Char) : List Char :=
  (cs.zipIdx i).flatMap fun (c, j) => m.piece places c j

/-- A text with the marks of a style at the given places. -/
def rewrite (sql : String) : String :=
  String.ofList (m.pieces places 0 sql.toList)

/-- The pieces of a text begin with that of its first character. -/
lemma pieces_cons (i : Nat) (c : Char) (cs : List Char) :
    m.pieces places i (c :: cs) = m.piece places c i ++ m.pieces places (i + 1) cs := by
  unfold pieces
  rw [List.zipIdx_cons, List.flatMap_cons]

/-- The marks of a style are those that the scan writes. -/
lemma mark_ofName {m : Marking} (hm : m ∈ markings) (k : Nat) :
    (ParameterStyle.ofName m.style).mark k = .ok (m.mark k).toList := by
  simp only [markings, List.mem_cons, List.not_mem_nil, or_false] at hm
  rcases hm with rfl | rfl | rfl | rfl <;> simp [ParameterStyle.ofName, ParameterStyle.mark, natText]

/-- The percent signs are doubled in the styles in which the scan doubles them. -/
lemma doublesPercent_ofName {m : Marking} (hm : m ∈ markings) :
    (ParameterStyle.ofName m.style).doublesPercent = m.doublesPercent := by
  simp only [markings, List.mem_cons, List.not_mem_nil, or_false] at hm
  rcases hm with rfl | rfl | rfl | rfl <;> rfl

end Marking

/-- A driver of every style gets a text with its marks at the given places, and otherwise as it is.
-/
structure AdaptsAt (sql : String) (places : Finset Nat) : Prop where
  /-- There is a question mark at each place. -/
  marks : ∀ i ∈ places, sql.toList[i]? = some '?'
  /-- Every style writes its marks at the places. -/
  rewrites : ∀ m ∈ markings,
    adaptPlaceholders sql (.ofName m.style) = .ok (m.rewrite places sql)

/-! ## Question marks outside quotes -/

/-- A question mark stands at a place, and no quote is open in front of it when the given quote is
open in front of the text. -/
def IsUnquotedMark (open? : Option Char) (cs : List Char) (i : Nat) : Prop :=
  cs[i]? = some '?' ∧ (cs.take i).foldl quoteAfter open? = none

instance (open? : Option Char) (cs : List Char) : DecidablePred (IsUnquotedMark open? cs) :=
  fun i => inferInstanceAs (Decidable (cs[i]? = some '?' ∧ _ = none))

/-- The places of the question marks outside quotes. -/
def unquotedMarks (open? : Option Char) (cs : List Char) : Finset Nat :=
  (Finset.range cs.length).filter (IsUnquotedMark open? cs)

/-- The places of the placeholders of a statement. -/
def placeholderPlaces (sql : String) : Finset Nat :=
  unquotedMarks none sql.toList

variable {open? : Option Char} {cs : List Char}

/-- The places of a text lie inside it. -/
lemma mem_unquotedMarks {i : Nat} : i ∈ unquotedMarks open? cs ↔ IsUnquotedMark open? cs i := by
  unfold unquotedMarks
  rw [Finset.mem_filter, Finset.mem_range]
  constructor
  · exact fun h => h.2
  · intro h
    have hlt : i < cs.length := (List.getElem?_eq_some_iff.mp h.1).1
    exact ⟨hlt, h⟩

/-- Behind a part of a text there is a place exactly when the part leaves no quote open and a
question mark follows it. -/
lemma length_mem_unquotedMarks (front : List Char) (c : Char) (rest : List Char) :
    front.length ∈ unquotedMarks open? (front ++ c :: rest) ↔
      c = '?' ∧ front.foldl quoteAfter open? = none := by
  rw [mem_unquotedMarks]
  unfold IsUnquotedMark
  rw [List.take_left, List.getElem?_append_right (Nat.le_refl _), Nat.sub_self]
  simp

/-- All places of a text are counted at its end. -/
lemma count_unquotedMarks :
    Nat.count (· ∈ unquotedMarks open? cs) cs.length = (unquotedMarks open? cs).card := by
  rw [Nat.count_eq_card_filter_range]
  congr 1
  ext i
  rw [Finset.mem_filter, Finset.mem_range, mem_unquotedMarks]
  constructor
  · exact fun h => h.2
  · intro h
    exact ⟨(List.getElem?_eq_some_iff.mp h.1).1, h⟩

/-- A single character is a placeholder if it is a question mark and no quote is open. -/
lemma unquotedMarks_singleton (open? : Option Char) (c : Char) :
    unquotedMarks open? [c] = if open? = none ∧ c = '?' then {0} else ∅ := by
  ext i
  rw [mem_unquotedMarks]
  unfold IsUnquotedMark
  cases i with
  | zero => by_cases h : open? = none <;> by_cases hc : c = '?' <;> simp [h, hc]
  | succ i => split_ifs <;> simp

/-- Places behind a text of the given length. -/
def shiftPlaces (n : Nat) (places : Finset Nat) : Finset Nat :=
  places.image (n + ·)

/-- The places of two texts are those of the first one, and those of the second one behind it. -/
lemma unquotedMarks_append (open? : Option Char) (front rest : List Char) :
    unquotedMarks open? (front ++ rest) = unquotedMarks open? front ∪
      shiftPlaces front.length (unquotedMarks (front.foldl quoteAfter open?) rest) := by
  ext i
  unfold shiftPlaces
  rw [Finset.mem_union, Finset.mem_image, mem_unquotedMarks, mem_unquotedMarks]
  unfold IsUnquotedMark
  rcases Nat.lt_or_ge i front.length with hlt | hle
  · have hbehind : ¬∃ k ∈ unquotedMarks (front.foldl quoteAfter open?) rest,
        front.length + k = i := by
      rintro ⟨k, -, rfl⟩
      omega
    rw [List.getElem?_append_left hlt, List.take_append_of_le_length (Nat.le_of_lt hlt)]
    simp only [hbehind, or_false]
  · obtain ⟨k, rfl⟩ := Nat.exists_eq_add_of_le hle
    have hinside : front[front.length + k]? = none := List.getElem?_eq_none (Nat.le_add_right _ k)
    rw [List.getElem?_append_right hle, List.take_length_add_append, List.foldl_append,
      Nat.add_sub_cancel_left, hinside]
    simp only [reduceCtorEq, false_and, false_or]
    constructor
    · exact fun h => ⟨k, mem_unquotedMarks.mpr h, rfl⟩
    · rintro ⟨j, hj, hjk⟩
      rw [Nat.add_left_cancel hjk] at hj
      exact mem_unquotedMarks.mp hj

/-! ## What the scan writes -/

/-- Behind a part of a text, the scan has seen the quote that the part leaves open and the places in
it, and writes the pieces of the rest. -/
theorem adaptFrom_eq_pieces {m : Marking} (hm : m ∈ markings) (front rest : List Char)
    (hcs : front ++ rest = cs) :
    adaptFrom (.ofName m.style) (front.foldl quoteAfter none)
        (Nat.count (· ∈ unquotedMarks none cs) front.length) rest =
      .ok (m.pieces (unquotedMarks none cs) front.length rest) := by
  induction rest generalizing front with
  | nil => rfl
  | cons c rest ih =>
    have hnext : front ++ [c] ++ rest = cs := by rw [List.append_assoc, List.singleton_append, hcs]
    have hrest := ih (front ++ [c]) hnext
    rw [List.length_append, List.length_singleton, List.foldl_append, List.foldl_cons,
      List.foldl_nil, Nat.count_succ] at hrest
    have hplace : front.length ∈ unquotedMarks none cs ↔
        c = '?' ∧ front.foldl quoteAfter none = none := by
      rw [← hcs]
      exact length_mem_unquotedMarks front c rest
    rw [m.pieces_cons]
    unfold Marking.piece
    by_cases hmark : front.length ∈ unquotedMarks none cs
    · obtain ⟨rfl, hopen⟩ := hplace.mp hmark
      have hquestion : quoteAfter none '?' = none := rfl
      rw [if_pos hmark, hopen, hquestion] at hrest
      rw [if_pos hmark, Nat.count_succ, if_pos hmark, hopen,
        adaptFrom_cons_mark (by rfl) (Marking.mark_ofName hm _), hrest]
      rfl
    · have hscan : ¬((front.foldl quoteAfter none).isNone && c == '?') = true := by
        intro h
        rw [Bool.and_eq_true, Option.isNone_iff_eq_none, beq_iff_eq] at h
        exact hmark (hplace.mpr ⟨h.2, h.1⟩)
      rw [if_neg hmark, Nat.add_zero] at hrest
      rw [if_neg hmark, adaptFrom_cons_kept hscan, hrest, written_singleton,
        Marking.doublesPercent_ofName hm]
      simp only [Bool.and_eq_true, beq_iff_eq]
      rfl

/-- Every style writes its marks at the places of the question marks outside quotes. -/
lemma adaptsAt_placeholderPlaces (sql : String) : AdaptsAt sql (placeholderPlaces sql) := by
  constructor
  · intro i hi
    exact (mem_unquotedMarks.mp hi).1
  · intro m hm
    have hscan := adaptFrom_eq_pieces hm [] sql.toList (List.nil_append _)
    rw [List.length_nil, Nat.count_zero, List.foldl_nil] at hscan
    unfold adaptPlaceholders
    rw [hscan]
    rfl

/-- A driver whose placeholders are question marks gets a text as it is. -/
lemma adaptPlaceholders_questionMark (sql : String) :
    adaptPlaceholders sql .questionMark = .ok sql := by
  have hscan : ∀ (open? : Option Char) (k : Nat) (cs : List Char),
      adaptFrom .questionMark open? k cs = .ok cs := by
    intro open? k cs
    induction cs generalizing open? k with
    | nil => rfl
    | cons c cs ih =>
      by_cases hc : (open?.isNone && c == '?') = true
      · rw [adaptFrom_cons_mark hc rfl, ih]
        rw [Bool.and_eq_true, beq_iff_eq] at hc
        rw [hc.2]
        rfl
      · have hsingle : ParameterStyle.questionMark.doublesPercent = false := rfl
        rw [adaptFrom_cons_kept hc, ih, written_singleton, hsingle, Bool.and_false]
        rfl
  unfold adaptPlaceholders
  rw [hscan]
  exact congrArg Except.ok String.ofList_toList

/-! ## Reading back -/

/-- Reads a text in which percent signs are doubled: `%%` stands for a percent sign and `%s` for a
question mark that is a placeholder. A percent sign in front of anything else cannot be read. -/
def readDoubled : List Char → Option (List (Char × Bool))
  | [] => some []
  | '%' :: '%' :: rest => (readDoubled rest).map (('%', false) :: ·)
  | '%' :: 's' :: rest => (readDoubled rest).map (('?', true) :: ·)
  | '%' :: _ => none
  | c :: rest => (readDoubled rest).map ((c, false) :: ·)

/-- A character other than the percent sign stands for itself. -/
lemma readDoubled_cons {c : Char} (hc : c ≠ '%') (rest : List Char) :
    readDoubled (c :: rest) = (readDoubled rest).map ((c, false) :: ·) := by
  rw [readDoubled]
  · exact fun _ h => (hc h).elim
  · exact fun _ h => (hc h).elim
  · exact hc

/-- The placeholders of a style that doubles percent signs have one mark. -/
lemma Marking.mark_of_doublesPercent {m : Marking} (hm : m ∈ markings)
    (hdoubles : m.doublesPercent = true) (k : Nat) : m.mark k = "%s" := by
  simp only [markings, List.mem_cons, List.not_mem_nil, or_false] at hm
  rcases hm with rfl | rfl | rfl | rfl
  · rfl
  · rfl
  · exact absurd hdoubles (by decide)
  · exact absurd hdoubles (by decide)

/-- What is written with doubled percent signs reads back as the text, with the placeholders at the
places where marks are written. -/
theorem readDoubled_pieces {m : Marking} (hm : m ∈ markings) (hdoubles : m.doublesPercent = true)
    {places : Finset Nat} (i : Nat) (cs : List Char)
    (hmarks : ∀ k, i + k ∈ places → k < cs.length → cs[k]? = some '?') :
    readDoubled (m.pieces places i cs) =
      some ((cs.zipIdx i).map fun (c, j) => (c, decide (j ∈ places))) := by
  induction cs generalizing i with
  | nil => rfl
  | cons c cs ih =>
    have hrest : ∀ k, i + 1 + k ∈ places → k < cs.length → cs[k]? = some '?' := by
      intro k hk hlt
      have hnext : i + (k + 1) ∈ places := by rwa [Nat.add_comm k 1, ← Nat.add_assoc]
      exact hmarks (k + 1) hnext (Nat.succ_lt_succ hlt)
    rw [m.pieces_cons, List.zipIdx_cons, List.map_cons]
    unfold Marking.piece
    by_cases hplace : i ∈ places
    · have hc : c = '?' := Option.some.inj (hmarks 0 hplace (Nat.succ_pos _))
      have hread : readDoubled ("%s".toList ++ m.pieces places (i + 1) cs) =
          (readDoubled (m.pieces places (i + 1) cs)).map (('?', true) :: ·) := rfl
      rw [if_pos hplace, Marking.mark_of_doublesPercent hm hdoubles, hread, ih (i + 1) hrest, hc]
      simp [hplace]
    · rw [if_neg hplace]
      by_cases hc : c = '%'
      · have hread : readDoubled (['%', '%'] ++ m.pieces places (i + 1) cs) =
            (readDoubled (m.pieces places (i + 1) cs)).map (('%', false) :: ·) := rfl
        rw [if_pos ⟨hc, hdoubles⟩, hread, ih (i + 1) hrest, hc]
        simp [hplace]
      · rw [if_neg fun h => hc h.1, List.singleton_append, readDoubled_cons hc, ih (i + 1) hrest]
        simp [hplace]

/-- A driver that doubles percent signs gets a text from which the statement can be read back, with
as many placeholders as there are places. -/
def ReadsBack (sql : String) (places : Finset Nat) : Prop :=
  ∀ m ∈ markings, m.doublesPercent = true → ∃ text read,
    adaptPlaceholders sql (.ofName m.style) = .ok text ∧ readDoubled text.toList = some read ∧
      read.map Prod.fst = sql.toList ∧ read.countP Prod.snd = places.card

/-- The marks of a text that is written at places are read back at these. -/
lemma AdaptsAt.read {sql : String} {places : Finset Nat} (h : AdaptsAt sql places) {m : Marking}
    (hm : m ∈ markings) (hdoubles : m.doublesPercent = true) :
    readDoubled (m.pieces places 0 sql.toList) =
      some (sql.toList.zipIdx.map fun (c, j) => (c, decide (j ∈ places))) := by
  apply readDoubled_pieces hm hdoubles
  intro k hk _
  rw [Nat.zero_add] at hk
  exact h.marks k hk

/-- There is only one set of places at which a text is written with marks. -/
theorem adaptsAt_iff {sql : String} {places : Finset Nat} :
    AdaptsAt sql places ↔ places = placeholderPlaces sql := by
  constructor
  · intro h
    have hscan := adaptsAt_placeholderPlaces sql
    have hformat : (⟨"format", fun _ => "%s", true⟩ : Marking) ∈ markings := List.mem_cons_self
    have hsame := Except.ok.inj ((h.rewrites _ hformat).symm.trans (hscan.rewrites _ hformat))
    have hread := h.read hformat rfl
    rw [String.ofList_injective hsame, hscan.read hformat rfl, Option.some.injEq] at hread
    ext i
    constructor
    · intro hi
      have hplace := congrArg (·[i]?) hread
      simp only [List.getElem?_map, List.getElem?_zipIdx, h.marks i hi] at hplace
      simpa [hi] using hplace
    · intro hi
      have hplace := congrArg (·[i]?) hread
      simp only [List.getElem?_map, List.getElem?_zipIdx, hscan.marks i hi] at hplace
      simpa [hi] using hplace
  · rintro rfl
    exact adaptsAt_placeholderPlaces sql

/-- The marks among the characters of a text, at given places, are as many as the places up to its
end. -/
lemma countP_zipIdx (places : Finset Nat) (cs : List Char) :
    (cs.zipIdx.map fun (c, j) => (c, decide (j ∈ places))).countP Prod.snd =
      Nat.count (· ∈ places) cs.length := by
  have hplaces : cs.zipIdx.map Prod.snd = List.range cs.length := by
    rw [List.zipIdx_map_snd, List.range_eq_range']
  unfold Nat.count
  rw [← hplaces, List.countP_map, List.countP_map]
  rfl

/-- **Adaptation changes placeholders only.** There is exactly one set of places such that every
style writes its marks at these and keeps everything else, the places of the question marks outside
quotes. Where percent signs are doubled, the statement can be read back. -/
theorem adaptsAt_and_readsBack (sql : String) :
    (∀ places, AdaptsAt sql places ↔ places = placeholderPlaces sql) ∧
      ReadsBack sql (placeholderPlaces sql) := by
  refine ⟨fun places => adaptsAt_iff, ?_⟩
  intro m hm hdoubles
  have hadapts := adaptsAt_placeholderPlaces sql
  have hread : readDoubled (m.rewrite (placeholderPlaces sql) sql).toList =
      some (sql.toList.zipIdx.map fun (c, j) => (c, decide (j ∈ placeholderPlaces sql))) := by
    unfold Marking.rewrite
    rw [String.toList_ofList]
    exact hadapts.read hm hdoubles
  refine ⟨_, _, hadapts.rewrites m hm, hread, ?_, ?_⟩
  · rw [List.map_map]
    exact List.zipIdx_map_fst 0 sql.toList
  · rw [countP_zipIdx]
    exact count_unquotedMarks

example : placeholderPlaces "a LIKE '%?' OR b = ? OR `c'?` = ?" = {19, 32} := by decide

end SqlMapping.Sql
