import Mathlib.Data.List.Forall2
import Mathlib.Data.List.Nodup
import Mathlib.Tactic.Lemma
import SqlMapping.Run

/-!
# Results of sequences

What the result of a sequence of steps says about the steps, for results that may be failures; what
a search finds among members with distinct keys; and that runs form a monad.
-/

namespace SqlMapping

variable {ε α β : Type}

/-- A sequence has a result exactly when its first step has one and the rest has one after it. -/
lemma bind_eq_ok {x : Except ε α} {f : α → Except ε β} {b : β} :
    (x >>= f) = .ok b ↔ ∃ a, x = .ok a ∧ f a = .ok b := by
  cases x with
  | error e => simp [Bind.bind, Except.bind]
  | ok a => simp [Bind.bind, Except.bind]

/-- A sequence fails exactly when its first step fails or the rest fails after it. -/
lemma bind_eq_error {x : Except ε α} {f : α → Except ε β} {e : ε} :
    (x >>= f) = .error e ↔ x = .error e ∨ ∃ a, x = .ok a ∧ f a = .error e := by
  cases x with
  | error e => simp [Bind.bind, Except.bind]
  | ok a => simp [Bind.bind, Except.bind]

/-- A step that has a result has some value. -/
lemma isOk_iff {x : Except ε α} : x.isOk = true ↔ ∃ a, x = .ok a := by
  cases x with
  | error e => simp [Except.isOk, Except.toBool]
  | ok a => simp [Except.isOk, Except.toBool]

/-- A mapped result is the image of a result. -/
lemma map_eq_ok {x : Except ε α} {f : α → β} {b : β} :
    x.map f = .ok b ↔ ∃ a, x = .ok a ∧ f a = b := by
  cases x with
  | error e => simp [Except.map]
  | ok a => simp [Except.map]

/-- A mapped failure is a failure. -/
lemma map_eq_error {x : Except ε α} {f : α → β} {e : ε} : x.map f = .error e ↔ x = .error e := by
  cases x with
  | error e => simp [Except.map]
  | ok a => simp [Except.map]

/-- What is known of the value of a step, if it has one, is known of its result. -/
lemma toOption_map_eq_some {x : Except ε α} {f : α → β} {b : β} :
    x.toOption.map f = some b ↔ ∃ a, x = .ok a ∧ f a = b := by
  cases x with
  | error e => simp [Except.toOption]
  | ok a => simp [Except.toOption]

/-- The results of a list are those of its members. -/
lemma mapM_eq_ok {f : α → Except ε β} {xs : List α} {ys : List β} :
    xs.mapM f = .ok ys ↔ List.Forall₂ (fun x y => f x = .ok y) xs ys := by
  induction xs generalizing ys with
  | nil =>
    rw [List.mapM_nil, List.forall₂_nil_left_iff]
    exact ⟨fun h => (Except.ok.inj h).symm, fun h => h ▸ rfl⟩
  | cons x xs ih =>
    rw [List.mapM_cons, bind_eq_ok, List.forall₂_cons_left_iff]
    constructor
    · rintro ⟨y, hy, hrest⟩
      obtain ⟨rest, hxs, hys⟩ := bind_eq_ok.mp hrest
      exact ⟨y, rest, hy, ih.mp hxs, (Except.ok.inj hys).symm⟩
    · rintro ⟨y, rest, hy, hxs, rfl⟩
      exact ⟨y, hy, bind_eq_ok.mpr ⟨rest, ih.mpr hxs, rfl⟩⟩

/-- Every member of a list with results has one of them. -/
lemma exists_of_mapM_eq_ok {f : α → Except ε β} {xs : List α} {ys : List β}
    (h : xs.mapM f = .ok ys) {x : α} (hx : x ∈ xs) : ∃ y ∈ ys, f x = .ok y := by
  induction mapM_eq_ok.mp h with
  | nil => exact absurd hx List.not_mem_nil
  | cons hfirst hrest ih =>
    rcases List.mem_cons.mp hx with rfl | hx
    · exact ⟨_, List.mem_cons_self, hfirst⟩
    · obtain ⟨y, hy, hxy⟩ := ih (mapM_eq_ok.mpr hrest) hx
      exact ⟨y, List.mem_cons_of_mem _ hy, hxy⟩

/-- A list fails exactly when one of its members does and the members before it have results. -/
lemma mapM_eq_error_iff {f : α → Except ε β} {xs : List α} {e : ε} :
    xs.mapM f = .error e ↔ ∃ before x after, xs = before ++ x :: after ∧
      (∀ y ∈ before, ∃ b, f y = .ok b) ∧ f x = .error e := by
  induction xs with
  | nil => simp [Pure.pure, Except.pure]
  | cons x xs ih =>
    rw [List.mapM_cons, bind_eq_error]
    constructor
    · rintro (hx | ⟨y, hy, hrest⟩)
      · exact ⟨[], x, xs, rfl, by simp, hx⟩
      · rcases bind_eq_error.mp hrest with hxs | ⟨ys, -, hys⟩
        · obtain ⟨before, z, after, rfl, hbefore, hz⟩ := ih.mp hxs
          exact ⟨x :: before, z, after, rfl, List.forall_mem_cons.mpr ⟨⟨y, hy⟩, hbefore⟩, hz⟩
        · exact absurd hys (by simp [Pure.pure, Except.pure])
    · rintro ⟨before, z, after, hsplit, hbefore, hz⟩
      rcases List.cons_eq_append_iff.mp hsplit with ⟨rfl, hcons⟩ | ⟨others, rfl, rfl⟩
      · obtain ⟨rfl, rfl⟩ := List.cons.inj hcons
        exact Or.inl hz
      · obtain ⟨⟨y, hy⟩, hothers⟩ := List.forall_mem_cons.mp hbefore
        have hrest : (others ++ z :: after).mapM f = .error e :=
          ih.mpr ⟨others, z, after, rfl, hothers, hz⟩
        exact Or.inr ⟨y, hy, bind_eq_error.mpr (Or.inl hrest)⟩

/-- A list fails in some way exactly when one of its members does. -/
lemma exists_mapM_eq_error_iff {f : α → Except ε β} {xs : List α} :
    (∃ e, xs.mapM f = .error e) ↔ ∃ x ∈ xs, ∃ e, f x = .error e := by
  constructor
  · rintro ⟨e, h⟩
    obtain ⟨before, x, after, rfl, -, hx⟩ := mapM_eq_error_iff.mp h
    exact ⟨x, by simp, e, hx⟩
  · rintro ⟨x, hx, e, hfail⟩
    cases h : xs.mapM f with
    | error e' => exact ⟨e', rfl⟩
    | ok ys =>
      obtain ⟨y, -, hy⟩ := exists_of_mapM_eq_ok h hx
      exact absurd (hy.symm.trans hfail) (by simp)

/-- A list fails exactly when one of its members does, if there is only one way of failing. -/
lemma mapM_eq_error [Subsingleton ε] {f : α → Except ε β} {xs : List α} {e : ε} :
    xs.mapM f = .error e ↔ ∃ x ∈ xs, f x = .error e := by
  constructor
  · intro h
    obtain ⟨x, hx, e', hfail⟩ := exists_mapM_eq_error_iff.mp ⟨e, h⟩
    exact ⟨x, hx, Subsingleton.elim e' e ▸ hfail⟩
  · rintro ⟨x, hx, hfail⟩
    obtain ⟨e', h⟩ := exists_mapM_eq_error_iff.mpr ⟨x, hx, e, hfail⟩
    exact Subsingleton.elim e' e ▸ h

/-- Steps that agree on the members of a list agree on the list. -/
lemma mapM_congr {m : Type → Type} [Monad m] [LawfulMonad m] {f g : α → m β} {xs : List α}
    (h : ∀ x ∈ xs, f x = g x) : xs.mapM f = xs.mapM g := by
  induction xs with
  | nil => rfl
  | cons x xs ih =>
    rw [List.mapM_cons, List.mapM_cons, h x List.mem_cons_self,
      ih fun y hy => h y (List.mem_cons_of_mem _ hy)]

/-- Steps that only compute values have the list of these values as their result. -/
lemma mapM_eq_pure {m : Type → Type} [Monad m] [LawfulMonad m] {f : α → m β} {g : α → β}
    {xs : List α} (h : ∀ x ∈ xs, f x = pure (g x)) : xs.mapM f = pure (xs.map g) := by
  rw [mapM_congr h, List.mapM_pure]

/-- Among members with distinct keys, a search for a key finds the only member that has it. -/
lemma find_eq_some_of_nodup {key : α → String} {xs : List α} (hkeys : (xs.map key).Nodup)
    {k : String} {x : α} : (xs.find? fun y => key y == k) = some x ↔ x ∈ xs ∧ key x = k := by
  constructor
  · intro hfind
    exact ⟨List.mem_of_find?_eq_some hfind, by simpa using List.find?_some hfind⟩
  · rintro ⟨hmem, rfl⟩
    cases hfind : xs.find? fun y => key y == key x with
    | none => exact absurd (beq_self_eq_true (key x)) (List.find?_eq_none.mp hfind x hmem)
    | some y =>
      have hkey : key y = key x := by simpa using List.find?_some hfind
      rw [List.inj_on_of_nodup_map hkeys (List.mem_of_find?_eq_some hfind) hmem hkey]

/-! ## Runs as a monad -/

namespace Run

variable {ω γ : Type}

/-- Two runs with the same result and the same trace are the same. -/
lemma eq_of_parts {x y : Run ω ε α} (hresult : x.result = y.result) (htrace : x.trace = y.trace) :
    x = y := by
  obtain ⟨result, trace⟩ := x
  obtain rfl : result = y.result := hresult
  obtain rfl : trace = y.trace := htrace
  rfl

/-- A run that only hands on its result may be left out. -/
lemma andThen_pure (x : Run ω ε α) : (x.andThen fun a => ⟨.ok a, []⟩) = x := by
  obtain ⟨result, trace⟩ := x
  cases result with
  | ok a => exact eq_of_parts rfl (List.append_nil trace)
  | error e => rfl

/-- Three runs may be grouped in either way. -/
lemma andThen_assoc (x : Run ω ε α) (f : α → Run ω ε β) (g : β → Run ω ε γ) :
    (x.andThen f).andThen g = x.andThen fun a => (f a).andThen g := by
  obtain ⟨result, trace⟩ := x
  cases result with
  | error e => rfl
  | ok a =>
    simp only [andThen]
    cases (f a).result with
    | error e => rfl
    | ok b => exact eq_of_parts rfl (List.append_assoc trace _ _)

instance : LawfulMonad (Run ω ε) :=
  LawfulMonad.mk' (Run ω ε) (fun x => andThen_pure x) (fun _ _ => rfl) andThen_assoc

/-- A sequence of results is a sequence of runs. -/
lemma ofExcept_bind (x : Except ε α) (f : α → Except ε β) :
    (ofExcept (x >>= f) : Run ω ε β) = ofExcept x >>= fun a => ofExcept (f a) := by
  cases x <;> rfl

/-- A result that is mapped before a run is mapped for the run. -/
lemma ofExcept_map_bind (x : Except ε α) (f : α → β) (g : β → Run ω ε γ) :
    (ofExcept (x.map f) >>= g) = ofExcept x >>= fun a => g (f a) := by
  cases x <;> rfl

end Run

end SqlMapping
