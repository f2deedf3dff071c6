/-
Outcomes of computations that may fail: what a success of a sequence says about
its steps, and a success at all; and what two computations have in common that
go the same steps (`Relates`).

Whatever compiles, prepares or loads something here is a sequence of steps each
of which may fail, and is taken apart by `bind_eq_ok` and `map_eq_ok` rather
than by unfolding. Failures are taken apart too: a sequence fails with its
first step or with what comes after it (`bind_eq_error`), a traversal at the
first element that fails (`mapM_eq_error`).

Two computations can be compared in three ways. Equal ones are compared step by
step (`bind_congr_ok`). Where only successes matter, results are related if
both are there (`Relates`). And where only it matters whether, and how, they
fail, there is their `verdict`, which forgets the result.
-/

namespace IdentitySearch.Outcome

variable {ε α β : Type}

/-- A sequence succeeds if each step does. -/
theorem bind_eq_ok {x : Except ε α} {f : α → Except ε β} {b : β} :
    (x >>= f) = .ok b ↔ ∃ a, x = .ok a ∧ f a = .ok b := by
  cases x with
  | error e => exact ⟨fun h => (nomatch h), fun ⟨_, h, _⟩ => (nomatch h)⟩
  | ok a => exact ⟨fun h => ⟨a, rfl, h⟩,
    fun ⟨_, ha, h⟩ => by cases ha; exact h⟩

/-- A sequence fails where its first failing step does. -/
theorem bind_eq_error {x : Except ε α} {f : α → Except ε β} {e : ε} :
    (x >>= f) = .error e ↔ x = .error e ∨ ∃ a, x = .ok a ∧ f a = .error e := by
  cases x with
  | error e' =>
    show Except.error e' = Except.error e ↔ _
    simp
  | ok a =>
    show f a = Except.error e ↔ _
    simp

/-- What is made of a result is there exactly if the result is. -/
theorem map_eq_ok {x : Except ε α} {f : α → β} {b : β} :
    x.map f = .ok b ↔ ∃ a, x = .ok a ∧ f a = b := by
  cases x with
  | error e => exact ⟨fun h => (nomatch h), fun ⟨_, h, _⟩ => (nomatch h)⟩
  | ok a =>
    constructor
    · intro h
      injection h with h
      exact ⟨a, rfl, h⟩
    · intro hgiven
      rcases hgiven with ⟨_, ha, h⟩
      injection ha with ha
      rw [← h, ← ha]
      rfl

/-- It fails exactly with the error of the computation. -/
theorem map_eq_error {x : Except ε α} {f : α → β} {e : ε} :
    x.map f = .error e ↔ x = .error e := by
  cases x with
  | error e' =>
    show Except.error e' = Except.error e ↔ _
    simp
  | ok a => exact ⟨fun h => (nomatch h), fun h => (nomatch h)⟩

/-- Sequences go on alike if they do after every success. -/
theorem bind_congr_ok {x : Except ε α} {f g : α → Except ε β}
    (h : ∀ a, x = .ok a → f a = g a) :
    (x >>= f) = (x >>= g) := by
  cases x with
  | error e => rfl
  | ok a => exact h a rfl

theorem map_bind {γ : Type} (x : Except ε α) (f : α → Except ε β) (g : β → γ) :
    (x >>= f).map g = (x >>= fun a => (f a).map g) := by
  cases x <;> rfl

/-- Sequences say the same if they do after every success. -/
theorem map_bind_congr {β' γ : Type} {x : Except ε α} {f : α → Except ε β}
    {f' : α → Except ε β'} {g : β → γ} {g' : β' → γ}
    (h : ∀ a, x = .ok a → (f a).map g = (f' a).map g') :
    (x >>= f).map g = (x >>= f').map g' := by
  rw [map_bind, map_bind]
  exact bind_congr_ok h

-- ======================================================= two outcomes

/-- Where two computations succeed, their results are related. -/
def Relates {β' : Type} (R : β → β' → Prop) (x : Except ε β)
    (y : Except ε β') : Prop :=
  ∀ b, x = .ok b → ∀ b', y = .ok b' → R b b'

instance {β' : Type} (R : β → β' → Prop) [∀ b b', Decidable (R b b')]
    (x : Except ε β) (y : Except ε β') : Decidable (Relates R x y) :=
  match x, y with
  | .error _, _ => .isTrue fun _ h => nomatch h
  | .ok _, .error _ => .isTrue fun _ _ _ h => nomatch h
  | .ok b, .ok b' => decidable_of_iff (R b b')
    ⟨fun h _ hb _ hb' => by cases hb; cases hb'; exact h,
      fun h => h b rfl b' rfl⟩

section Relates

variable {α' β' : Type} {R : α → α' → Prop} {S : β → β' → Prop}

theorem relates_trivial (x : Except ε β) (y : Except ε β') :
    Relates (fun _ _ => True) x y :=
  fun _ _ _ _ => trivial

/-- Two results are related as outcomes if they are as results. -/
theorem relates_ok {b : β} {b' : β'} (h : S b b') :
    Relates S (.ok b : Except ε β) (.ok b' : Except ε β') := by
  intro a ha a' ha'
  cases ha
  cases ha'
  exact h

/-- Sequences give related results if each step does, from related ones. -/
theorem relates_bind {x : Except ε α} {y : Except ε α'} {f : α → Except ε β}
    {g : α' → Except ε β'} (hxy : Relates R x y)
    (hfg : ∀ a a', R a a' → Relates S (f a) (g a')) :
    Relates S (x >>= f) (y >>= g) := by
  intro b hb b' hb'
  obtain ⟨a, ha, hb⟩ := bind_eq_ok.1 hb
  obtain ⟨a', ha', hb'⟩ := bind_eq_ok.1 hb'
  exact hfg a a' (hxy a ha a' ha') b hb b' hb'

/-- What is made of related results is related, if it is made alike. -/
theorem relates_map {x : Except ε α} {y : Except ε α'} {f : α → β}
    {g : α' → β'} (hxy : Relates R x y)
    (hfg : ∀ a a', R a a' → S (f a) (g a')) :
    Relates S (x.map f) (y.map g) := by
  intro b hb b' hb'
  obtain ⟨a, ha, rfl⟩ := map_eq_ok.1 hb
  obtain ⟨a', ha', rfl⟩ := map_eq_ok.1 hb'
  exact hfg a a' (hxy a ha a' ha')

end Relates

-- ============================================================ verdicts

/-- Whether a computation succeeds, and its error if not. -/
def verdict (x : Except ε α) : Except ε Unit :=
  x.map fun _ => ()

section verdict

variable {α' β' : Type} {x : Except ε α} {x' : Except ε α'} {y : Except ε β}
  {y' : Except ε β'}

/-- Computations with one verdict fail with the same errors -/
theorem error_iff_of_verdict (h : verdict x = verdict y) (e : ε) :
    x = .error e ↔ y = .error e := by
  rw [← map_eq_error (f := fun _ => ()),
    ← map_eq_error (f := fun _ => ()) (x := y)]
  exact iff_of_eq (congrArg (· = _) h)

/-- and succeed together. -/
theorem exists_ok_iff_of_verdict (h : verdict x = verdict y) :
    (∃ a, x = .ok a) ↔ ∃ b, y = .ok b := by
  cases x with
  | error e =>
    rw [(error_iff_of_verdict h e).1 rfl]
    exact iff_of_false (fun h => nomatch h) (fun h => nomatch h)
  | ok a =>
    cases y with
    | error e => cases h
    | ok b => exact iff_of_true ⟨a, rfl⟩ ⟨b, rfl⟩

theorem verdict_map (f : α → β) : verdict (x.map f) = verdict x := by
  cases x <;> rfl

theorem verdict_return (f : α → β) :
    verdict (do return f (← x)) = verdict x := by
  cases x <;> rfl

/-- Where two computations end alike and what is made of their results is the
same, the same is made of both. -/
theorem map_eq_of_verdict {γ : Type} {f : α → γ} {g : β → γ}
    (h : verdict x = verdict y) (hfg : Relates (fun a b => f a = g b) x y) :
    x.map f = y.map g := by
  cases x with
  | error e =>
    rw [(error_iff_of_verdict h e).1 rfl]
    rfl
  | ok a =>
    obtain ⟨b, rfl⟩ := (exists_ok_iff_of_verdict h).1 ⟨a, rfl⟩
    exact congrArg Except.ok (hfg a rfl b rfl)

/-- Two sequences end alike if both of their steps do. -/
theorem verdict_seq {γ γ' : Type} (hx : verdict x = verdict x')
    (hy : verdict y = verdict y') (f : α → β → γ) (f' : α' → β' → γ') :
    verdict (do return f (← x) (← y))
      = verdict (do return f' (← x') (← y')) := by
  cases x with
  | error e =>
    rw [(error_iff_of_verdict hx e).1 rfl]
    rfl
  | ok a =>
    obtain ⟨a', rfl⟩ := (exists_ok_iff_of_verdict hx).1 ⟨a, rfl⟩
    exact (verdict_return (f a)).trans (hy.trans (verdict_return (f' a')).symm)

end verdict

-- ============================================================ success

/-- Outcomes can be compared. -/
instance decidableEqExcept [DecidableEq ε]
    [DecidableEq α] : DecidableEq (Except ε α)
  | .error e, .error e' =>
    decidable_of_iff (e = e') ⟨congrArg _, fun h => by cases h; rfl⟩
  | .ok a, .ok a' =>
    decidable_of_iff (a = a') ⟨congrArg _, fun h => by cases h; rfl⟩
  | .error _, .ok _ => .isFalse fun h => nomatch h
  | .ok _, .error _ => .isFalse fun h => nomatch h

/-- A success has a result. -/
theorem isOk_iff {x : Except ε α} : x.isOk = true ↔ ∃ a, x = .ok a := by
  cases x with
  | error e => exact ⟨fun h => (nomatch h), fun ⟨_, h⟩ => (nomatch h)⟩
  | ok a => exact ⟨fun _ => ⟨a, rfl⟩, fun _ => rfl⟩

/-- A traversal that succeeds gathers the results of its elements. -/
theorem mem_mapM {f : α → Except ε β} {l : List α} {bs : List β}
    (h : l.mapM f = .ok bs) (b : β) : b ∈ bs ↔ ∃ a ∈ l, f a = .ok b := by
  induction l generalizing bs with
  | nil =>
    cases h
    simp
  | cons a rest ih =>
    rw [List.mapM_cons] at h
    obtain ⟨c, hc, h⟩ := bind_eq_ok.1 h
    obtain ⟨cs, hcs, h⟩ := bind_eq_ok.1 h
    cases h
    rw [List.mem_cons, ih hcs]
    have hfirst : f a = .ok b ↔ b = c := by
      rw [hc, Except.ok.injEq]
      exact eq_comm
    simp only [List.mem_cons, exists_eq_or_imp, hfirst]

/-- A traversal fails where the first element does that fails. -/
theorem mapM_eq_error {f : α → Except ε β} {l : List α} {e : ε} :
    l.mapM f = .error e ↔ ∃ before a after, l = before ++ a :: after
      ∧ (∀ b ∈ before, ∃ c, f b = .ok c) ∧ f a = .error e := by
  induction l with
  | nil =>
    refine iff_of_false (fun h => nomatch h) ?_
    intro h
    obtain ⟨before, a, after, hsplit, -⟩ := h
    simp at hsplit
  | cons a rest ih =>
    rw [List.mapM_cons, bind_eq_error]
    -- once the first element is done, only the rest can fail
    have hrest : ∀ c, (rest.mapM f >>= fun cs => pure (c :: cs)) = .error e
        ↔ rest.mapM f = .error e := by
      intro c
      cases rest.mapM f with
      | error e' => rfl
      | ok cs => exact iff_of_false (fun h => nomatch h) (fun h => nomatch h)
    simp only [hrest, ih]
    constructor
    · intro h
      rcases h with hfirst | ⟨c, hc, before, b, after, rfl, hbefore, hb⟩
      · exact ⟨[], a, rest, rfl, List.forall_mem_nil _, hfirst⟩
      · exact ⟨a :: before, b, after, rfl,
          List.forall_mem_cons.2 ⟨⟨c, hc⟩, hbefore⟩, hb⟩
    · intro h
      obtain ⟨before, b, after, hsplit, hbefore, hb⟩ := h
      cases before with
      | nil =>
        cases hsplit
        exact .inl hb
      | cons a' before =>
        cases hsplit
        obtain ⟨⟨c, hc⟩, hbefore⟩ := List.forall_mem_cons.1 hbefore
        exact .inr ⟨c, hc, before, b, after, rfl, hbefore, hb⟩

/-- A traversal succeeds if every element does. -/
theorem exists_mapM_iff {f : α → Except ε β} {l : List α} :
    (∃ bs, l.mapM f = .ok bs) ↔ ∀ a ∈ l, ∃ b, f a = .ok b := by
  induction l with
  | nil => exact iff_of_true ⟨[], rfl⟩ (List.forall_mem_nil _)
  | cons a rest ih =>
    rw [List.forall_mem_cons, ← ih, List.mapM_cons]
    constructor
    · intro h
      obtain ⟨bs, h⟩ := h
      obtain ⟨b, hb, h⟩ := bind_eq_ok.1 h
      obtain ⟨cs, hcs, -⟩ := bind_eq_ok.1 h
      exact ⟨⟨b, hb⟩, cs, hcs⟩
    · intro h
      obtain ⟨⟨b, hb⟩, cs, hcs⟩ := h
      exact ⟨b :: cs, bind_eq_ok.2 ⟨b, hb, bind_eq_ok.2 ⟨cs, hcs, rfl⟩⟩⟩

end IdentitySearch.Outcome
