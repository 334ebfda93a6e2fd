import Mathlib.Data.List.Forall2
import RouteHelpers.Notice

/-!
Outcomes of traced computations.

What comes out of a computation does not depend on what it tells on the way, so statements about
outcomes are statements about `Except`. A bind is taken apart by `outcome_bind_eq_ok`, and put together
by `outcome_bind_ok` where the outcome of the first part is known. The lemmas on `mapEach` say the same
of many computations at once.
-/

namespace RouteHelpers

theorem Except.map_eq_ok {ε α β : Type} {f : α → β} {x : Except ε α} {b : β} :
    x.map f = .ok b ↔ ∃ a, x = .ok a ∧ f a = b := by
  cases x <;> simp [Except.map]

theorem Except.bind_eq_ok {ε α β : Type} {x : Except ε α} {f : α → Except ε β} {b : β} :
    (x >>= f) = .ok b ↔ ∃ a, x = .ok a ∧ f a = .ok b := by
  cases x <;> simp [bind, Except.bind]

/-- A fault of one computation after another is one of either. -/
theorem Except.bind_eq_error {ε α β : Type} {x : Except ε α} {f : α → Except ε β} {e : ε} :
    (x >>= f) = .error e ↔ x = .error e ∨ ∃ a, x = .ok a ∧ f a = .error e := by
  cases x <;> simp [bind, Except.bind]

theorem Except.mapError_eq_error {ε ε' α : Type} {x : Except ε α} {f : ε → ε'} {e : ε'} :
    x.mapError f = .error e ↔ ∃ e', x = .error e' ∧ f e' = e := by
  cases x <;> simp [Except.mapError]

theorem Except.mapError_eq_ok {ε ε' α : Type} {x : Except ε α} {f : ε → ε'} {a : α} :
    x.mapError f = .ok a ↔ x = .ok a := by
  cases x <;> simp [Except.mapError]

theorem Except.map_eq_error {ε α β : Type} {x : Except ε α} {f : α → β} {e : ε} :
    x.map f = .error e ↔ x = .error e := by
  cases x <;> simp [Except.map]

theorem Except.ok_bind {ε α β : Type} (a : α) (f : α → Except ε β) :
    ((Except.ok a : Except ε α) >>= f) = f a := rfl

theorem Except.exists_eq_ok {ε α : Type} {x : Except ε α} (h : x.toOption.isSome = true) :
    ∃ a, x = .ok a := by
  cases x with
  | error e => cases h
  | ok a => exact ⟨a, rfl⟩

/-- What each step preserves, a fold preserves. -/
theorem Except.foldlM_preserves {ε α β : Type} {P : β → Prop} {f : β → α → Except ε β} {xs : List α}
    (h : ∀ b, ∀ x ∈ xs, ∀ c, P b → f b x = .ok c → P c) {b c : β} (hb : P b)
    (hfold : xs.foldlM f b = .ok c) : P c := by
  induction xs generalizing b with
  | nil =>
    cases hfold
    exact hb
  | cons x xs ih =>
    rw [List.foldlM_cons] at hfold
    obtain ⟨next, hnext, hfold⟩ := Except.bind_eq_ok.1 hfold
    have hrest : ∀ b, ∀ y ∈ xs, ∀ c, P b → f b y = .ok c → P c :=
      fun b y hy => h b y (List.mem_cons_of_mem x hy)
    exact ih hrest (h b x List.mem_cons_self next hb hnext) hfold

/-- Where every step succeeds, so do several. -/
theorem Except.exists_mapM_eq_ok {ε α β : Type} {f : α → Except ε β} {xs : List α}
    (h : ∀ x ∈ xs, ∃ b, f x = .ok b) : ∃ bs, xs.mapM f = .ok bs := by
  induction xs with
  | nil => exact ⟨[], rfl⟩
  | cons x xs ih =>
    obtain ⟨⟨b, hb⟩, hxs⟩ := List.forall_mem_cons.1 h
    obtain ⟨bs, hbs⟩ := ih hxs
    exact ⟨b :: bs, by rw [List.mapM_cons, hb, hbs]; rfl⟩

theorem Except.mapM_eq_ok {ε α β : Type} {f : α → Except ε β} {g : α → β} {xs : List α}
    (h : ∀ x ∈ xs, f x = .ok (g x)) : xs.mapM f = .ok (xs.map g) := by
  induction xs with
  | nil => rfl
  | cons x xs ih =>
    obtain ⟨hx, hxs⟩ := List.forall_mem_cons.1 h
    rw [List.mapM_cons, hx, ih hxs]
    rfl

/-- The results of several computations are those of the elements, in order. -/
theorem Except.forall₂_of_mapM {ε α β : Type} {f : α → Except ε β} {xs : List α} {bs : List β}
    (h : xs.mapM f = .ok bs) : List.Forall₂ (fun x b => f x = .ok b) xs bs := by
  induction xs generalizing bs with
  | nil =>
    cases h
    exact .nil
  | cons x xs ih =>
    rw [List.mapM_cons] at h
    obtain ⟨c, hc, h⟩ := Except.bind_eq_ok.1 h
    obtain ⟨cs, hcs, h⟩ := Except.bind_eq_ok.1 h
    obtain rfl := Except.ok.inj h
    exact .cons hc (ih hcs)

/-- Each of the second elements belongs to one of the first. -/
theorem exists_of_mem_right {α β : Type} {R : α → β → Prop} {xs : List α} {ys : List β}
    (h : List.Forall₂ R xs ys) {y : β} (hy : y ∈ ys) : ∃ x ∈ xs, R x y := by
  induction h with
  | nil => cases hy
  | cons hxy _ ih =>
    rcases List.mem_cons.1 hy with rfl | hy
    · exact ⟨_, List.mem_cons_self, hxy⟩
    · obtain ⟨x, hx, hxy⟩ := ih hy
      exact ⟨x, List.mem_cons_of_mem _ hx, hxy⟩

theorem Except.exists_of_mem_mapM {ε α β : Type} {f : α → Except ε β} {xs : List α} {bs : List β}
    {b : β} (h : xs.mapM f = .ok bs) (hb : b ∈ bs) : ∃ x ∈ xs, f x = .ok b :=
  exists_of_mem_right (forall₂_of_mapM h) hb

theorem Except.exists_of_mapM_eq_error {ε α β : Type} {f : α → Except ε β} {xs : List α} {e : ε}
    (h : xs.mapM f = .error e) : ∃ x ∈ xs, f x = .error e := by
  induction xs with
  | nil => cases h
  | cons x xs ih =>
    rw [List.mapM_cons] at h
    rcases Except.bind_eq_error.1 h with h | ⟨b, -, h⟩
    · exact ⟨x, List.mem_cons_self, h⟩
    · obtain ⟨y, hy, h⟩ := ih ((Except.bind_eq_error.1 h).resolve_right nofun)
      exact ⟨y, List.mem_cons_of_mem x hy, h⟩

theorem Except.exists_foldlM_eq_ok {ε α β : Type} {f : β → α → Except ε β} {xs : List α} {b : β}
    (h : ∀ b, ∀ x ∈ xs, ∃ c, f b x = .ok c) : ∃ c, xs.foldlM f b = .ok c := by
  induction xs generalizing b with
  | nil => exact ⟨b, rfl⟩
  | cons x xs ih =>
    obtain ⟨c, hc⟩ := h b x List.mem_cons_self
    rw [List.foldlM_cons, hc]
    exact ih fun b y hy => h b y (List.mem_cons_of_mem x hy)

namespace Traced

variable {ε α β γ δ : Type}

/-! ### One computation after another -/

theorem outcome_map (f : α → β) (x : Traced ε α) : (f <$> x).outcome = x.outcome.map f := by
  show (x >>= pure ∘ f).outcome = _
  rw [outcome_bind]
  cases x.outcome <;> rfl

theorem outcome_bind_ok {x : Traced ε α} {a : α} (h : x.outcome = .ok a) (f : α → Traced ε β) :
    (x >>= f).outcome = (f a).outcome := by
  rw [outcome_bind, h]
  rfl

/-- A computation succeeds if its parts do. -/
theorem outcome_bind_eq_ok {x : Traced ε α} {f : α → Traced ε β} {b : β} :
    (x >>= f).outcome = .ok b ↔ ∃ a, x.outcome = .ok a ∧ (f a).outcome = .ok b := by
  rw [outcome_bind, Except.bind_eq_ok]

/-- A success without notices adds nothing to what follows. -/
theorem ok_bind (a : α) (f : α → Traced ε β) : (pure a >>= f : Traced ε β) = f a := rfl

/-- What is told after a success is told behind what was told before. -/
theorem notices_bind_ok {x : Traced ε α} {a : α} (h : x.outcome = .ok a) (f : α → Traced ε β) :
    (x >>= f).notices = x.notices ++ (f a).notices := by
  show (andThen x f).notices = _
  rw [andThen, h]

/-- What comes out does not depend on how faults are told. -/
theorem outcome_mapError_eq_ok {ε' : Type} {f : ε → ε'} {x : Traced ε α} {a : α} :
    (x.mapError f).outcome = .ok a ↔ x.outcome = .ok a := by
  show x.outcome.mapError f = .ok a ↔ _
  cases x.outcome <;> simp [Except.mapError]

/-! ### One computation for each element -/

theorem outcome_mapEach {f : α → Traced ε β} {g : α → β} {xs : List α}
    (h : ∀ x ∈ xs, (f x).outcome = .ok (g x)) : (mapEach f xs).outcome = .ok (xs.map g) := by
  induction xs with
  | nil => rfl
  | cons x xs ih =>
    rw [mapEach, outcome_bind_ok (h x (by simp)),
      outcome_bind_ok (ih fun y hy => h y (by simp [hy]))]
    rfl

/-- What is told by one computation after another is told in order. -/
theorem notices_mapEach {f : α → Traced ε β} {g : α → β} {xs : List α}
    (h : ∀ x ∈ xs, (f x).outcome = .ok (g x)) :
    (mapEach f xs).notices = xs.flatMap fun x => (f x).notices := by
  induction xs with
  | nil => rfl
  | cons x xs ih =>
    obtain ⟨hx, hxs⟩ := List.forall_mem_cons.1 h
    rw [mapEach, notices_bind_ok hx, notices_bind_ok (outcome_mapEach hxs), ih hxs, notices_pure,
      List.append_nil, List.flatMap_cons]

/-- The results of a computation for each element are those of another, seen through a function. -/
theorem outcome_mapEach_map {f : α → Traced ε β} {g : γ → Traced ε δ} {h : α → γ} {k : δ → β}
    {xs : List α} (hf : ∀ x ∈ xs, (f x).outcome = (g (h x)).outcome.map k) :
    (mapEach f xs).outcome = (mapEach g (xs.map h)).outcome.map (List.map k) := by
  induction xs with
  | nil => rfl
  | cons x xs ih =>
    rw [List.map_cons, mapEach, mapEach, outcome_bind, outcome_bind, hf x List.mem_cons_self]
    cases (g (h x)).outcome with
    | error e => rfl
    | ok d =>
      show (mapEach f xs >>= _).outcome = Except.map _ (mapEach g (xs.map h) >>= _).outcome
      rw [outcome_bind, outcome_bind, ih fun y hy => hf y (List.mem_cons_of_mem x hy)]
      cases (mapEach g (xs.map h)).outcome <;> rfl

/-- The results for two lists in a row are those for the one and then those for the other. -/
theorem outcome_mapEach_append (f : α → Traced ε β) (xs ys : List α) :
    (mapEach f (xs ++ ys)).outcome = (do
      let front ← (mapEach f xs).outcome
      let back ← (mapEach f ys).outcome
      pure (front ++ back)) := by
  induction xs with
  | nil =>
    show (mapEach f ys).outcome = (mapEach f ys).outcome >>= pure
    rw [bind_pure]
  | cons x xs ih =>
    rw [List.cons_append, mapEach, mapEach, outcome_bind, outcome_bind, bind_assoc]
    refine bind_congr fun y => ?_
    simp only [outcome_bind, ih, outcome_pure, bind_assoc]
    rfl

/-- The results of a computation for each element are those of the elements, in order. -/
theorem forall₂_of_mapEach {f : α → Traced ε β} {xs : List α} {ys : List β}
    (h : (mapEach f xs).outcome = .ok ys) :
    List.Forall₂ (fun x y => (f x).outcome = .ok y) xs ys := by
  induction xs generalizing ys with
  | nil =>
    cases h
    exact .nil
  | cons x xs ih =>
    obtain ⟨y, hy, h⟩ := outcome_bind_eq_ok.1 h
    obtain ⟨more, hmore, h⟩ := outcome_bind_eq_ok.1 h
    cases h
    exact .cons hy (ih hmore)

/-- What is seen of each result in its element is seen of the results in the elements. -/
theorem map_of_mapEach {f : α → Traced ε β} {g : β → γ} {k : α → γ}
    (hf : ∀ x y, (f x).outcome = .ok y → g y = k x) {xs : List α} {ys : List β}
    (h : (mapEach f xs).outcome = .ok ys) : ys.map g = xs.map k := by
  rw [← List.forall₂_eq_eq_eq, List.forall₂_map_left_iff, List.forall₂_map_right_iff]
  exact (forall₂_of_mapEach h).flip.imp fun y x => hf x y

/-- Each result is the result of an element. -/
theorem exists_of_mem_mapEach {f : α → Traced ε β} {xs : List α} {ys : List β}
    (h : (mapEach f xs).outcome = .ok ys) {y : β} (hy : y ∈ ys) :
    ∃ x ∈ xs, (f x).outcome = .ok y :=
  exists_of_mem_right (forall₂_of_mapEach h) hy

/-- If the results tell what they are results of, they are the results of the elements in order. -/
theorem mapEach_eq_ok {f : α → Traced ε β} (origin : β → α)
    (horigin : ∀ x y, (f x).outcome = .ok y → origin y = x) {xs : List α} {ys : List β}
    (h : (mapEach f xs).outcome = .ok ys) :
    ys.map origin = xs ∧ ∀ y ∈ ys, (f (origin y)).outcome = .ok y := by
  refine ⟨(map_of_mapEach horigin h).trans (List.map_id _), fun y hy => ?_⟩
  obtain ⟨x, -, hx⟩ := exists_of_mem_mapEach h hy
  rwa [horigin x y hx]

theorem exists_mapEach {f : α → Traced ε β} {xs : List α}
    (h : ∀ x ∈ xs, ∃ y, (f x).outcome = .ok y) : ∃ ys, (mapEach f xs).outcome = .ok ys := by
  induction xs with
  | nil => exact ⟨[], rfl⟩
  | cons x xs ih =>
    obtain ⟨y, hy⟩ := h x List.mem_cons_self
    obtain ⟨ys, hys⟩ := ih fun z hz => h z (List.mem_cons_of_mem x hz)
    refine ⟨y :: ys, ?_⟩
    rw [mapEach, outcome_bind_ok hy, outcome_bind_ok hys, outcome_pure]

end Traced

end RouteHelpers
