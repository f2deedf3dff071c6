/-
What the cache of dialects keeps to however the steps of its callers
interleave. Only putting an answer in changes the cache, and only where the
domain is not known (`step_cases`); so a domain that has a dialect keeps it
(`Extends`). The rest is one invariant of caches and calls (`Coherent`): a
dialect that a call gave back is the one its domain has, and the dialect that a
domain has was detected, and put in, by some caller. A caller who comes second
gives his own answer up for it. Left alone, a call gives back what
`getOrDetect` does (`run_alone`).

# From a step to every run

- What one call does to the cache in one step is said once, by `step_cases`,
  and each fact about steps is read off it: the cache grows (`extends_step`),
  the call stays with its domain (`domain_step`), what it gives back is in the
  cache (`result?_step_of_ok`), and an error is the one the database gave
  (`result?_step_of_error`).
- A turn is a step of one caller: the others keep their calls
  (`calls_turn_of_ne`), and so does a caller who is done
  (`calls_turn_of_over`).
- `Coherent` holds of callers who have not begun, and every turn keeps it
  (`Coherent.turn`). The caller of the turn has a new call over a new cache;
  for everybody else it is enough that the cache has grown.
- Runs are lists of turns, and all that is said of them is induction over
  the list (`Coherent.run`, `extends_run`, `result?_run_of_error`), for any
  number of callers and any order of turns.
-/
import IdentitySearch.Dialect.Callers

namespace IdentitySearch

-- ============================================================== the cache

namespace DialectCache

variable {c c' c'' : DialectCache} {domain other : String} {x y : Dialect}

/-- The domains that are known, in the order in which they came in. -/
def domains (c : DialectCache) : List String :=
  c.entries.map Prod.fst

/-- A domain is known exactly if it has a dialect. -/
theorem mem_domains : domain ∈ c.domains ↔ ∃ x, c.get? domain = some x := by
  have hnone : c.get? domain = none ↔ domain ∉ c.domains := by
    unfold get? domains
    rw [List.lookup_eq_none_iff, List.mem_map]
    simp only [bne_iff_ne, ne_eq, not_exists, not_and]
    exact forall₂_congr fun p _ => not_congr eq_comm
  rw [← Option.isSome_iff_exists, Option.isSome_iff_ne_none, ne_eq, hnone,
    Decidable.not_not]

theorem insertIfAbsent_of_known (h : c.get? domain = some x) (y : Dialect) :
    c.insertIfAbsent domain y = (x, c) := by
  unfold insertIfAbsent
  rw [h]

theorem insertIfAbsent_of_unknown (h : c.get? domain = none) (y : Dialect) :
    c.insertIfAbsent domain y = (y, ⟨c.entries ++ [(domain, y)]⟩) := by
  unfold insertIfAbsent
  rw [h]

/-- What is given back on putting in is what the domain has then. -/
theorem get?_insertIfAbsent_self (c : DialectCache) (domain : String)
    (x : Dialect) :
    (c.insertIfAbsent domain x).2.get? domain
      = some (c.insertIfAbsent domain x).1 := by
  cases h : c.get? domain with
  | some known =>
    rw [insertIfAbsent_of_known h]
    exact h
  | none =>
    rw [insertIfAbsent_of_unknown h]
    unfold get? at h ⊢
    simp [List.lookup_append, h]

/-- Other domains have what they had. -/
theorem get?_insertIfAbsent_of_ne (hne : other ≠ domain) (c : DialectCache)
    (x : Dialect) :
    (c.insertIfAbsent domain x).2.get? other = c.get? other := by
  cases h : c.get? domain with
  | some known => rw [insertIfAbsent_of_known h]
  | none =>
    have hbeq : (other == domain) = false := beq_false_of_ne hne
    rw [insertIfAbsent_of_unknown h]
    unfold get?
    simp [List.lookup_append, List.lookup_cons, hbeq]

/-- A cache knows all that another one knows, and alike. -/
structure Extends (c c' : DialectCache) : Prop where
  keeps : ∀ domain x, c.get? domain = some x → c'.get? domain = some x
  size_le : c.size ≤ c'.size

/-- A cache knows what it knows, -/
theorem Extends.refl (c : DialectCache) : c.Extends c :=
  ⟨fun _ _ h => h, Nat.le_refl _⟩

/-- and what is known of a cache in between is known at the end. -/
theorem Extends.trans (h : c.Extends c') (h' : c'.Extends c'') :
    c.Extends c'' :=
  ⟨fun domain x hx => h'.keeps domain x (h.keeps domain x hx),
    Nat.le_trans h.size_le h'.size_le⟩

/-- Nothing is forgotten on putting in. -/
theorem extends_insertIfAbsent (c : DialectCache) (domain : String)
    (x : Dialect) :
    c.Extends (c.insertIfAbsent domain x).2 := by
  cases h : c.get? domain with
  | some known =>
    rw [insertIfAbsent_of_known h]
    exact .refl c
  | none =>
    constructor
    · intro other y hy
      by_cases hother : other = domain
      · subst hother
        cases h.symm.trans hy
      · rw [get?_insertIfAbsent_of_ne hother, hy]
    · rw [insertIfAbsent_of_unknown h]
      simp [size]

/-- No domain comes in twice. -/
theorem nodup_insertIfAbsent (hc : c.domains.Nodup) (domain : String)
    (x : Dialect) :
    (c.insertIfAbsent domain x).2.domains.Nodup := by
  cases h : c.get? domain with
  | some known =>
    rw [insertIfAbsent_of_known h]
    exact hc
  | none =>
    have hnew : domain ∉ c.domains := by
      rw [mem_domains, h]
      simp
    rw [insertIfAbsent_of_unknown h]
    unfold domains at hc hnew ⊢
    rw [List.map_append, List.nodup_append]
    refine ⟨hc, List.nodup_cons.2 ⟨List.not_mem_nil, .nil⟩,
      fun a ha b hb => ?_⟩
    cases List.mem_singleton.1 hb
    exact ne_of_mem_of_not_mem ha hnew

end DialectCache

-- =============================================================== one step

namespace CacheCall

variable {c : DialectCache} {domain : String} {x : Dialect}

/-- A caller who looks up a known domain is done with it. -/
theorem step_starting_of_known (h : c.get? domain = some x)
    (answer : Except Error Dialect) :
    (starting domain).step answer c = (found domain x, c) := by
  unfold step
  simp only [h]

/-- A caller who looks up a new domain goes on to ask the database. -/
theorem step_starting_of_unknown (h : c.get? domain = none)
    (answer : Except Error Dialect) :
    (starting domain).step answer c = (detecting domain, c) := by
  unfold step
  simp only [h]

/-- A step leaves the cache alone, or puts in what a call detected. -/
theorem step_cases (answer : Except Error Dialect) (c : DialectCache)
    (call : CacheCall) :
    (call.step answer c).2 = c
      ∨ ∃ domain detected, call = .inserting domain detected
        ∧ call.step answer c
          = (.inserted domain detected (c.insertIfAbsent domain detected).1,
          (c.insertIfAbsent domain detected).2) := by
  cases call with
  | inserting domain detected => exact .inr ⟨domain, detected, rfl, rfl⟩
  | starting domain =>
    left
    cases h : c.get? domain with
    | some known => rw [step_starting_of_known h]
    | none => rw [step_starting_of_unknown h]
  | detecting domain =>
    cases answer with
    | error e => exact .inl rfl
    | ok detected => exact .inl rfl
  | _ => exact .inl rfl

/-- So no step forgets a dialect. -/
theorem extends_step (answer : Except Error Dialect) (c : DialectCache)
    (call : CacheCall) :
    c.Extends (call.step answer c).2 := by
  rcases step_cases answer c call with h | ⟨domain, detected, -, h⟩
  · rw [h]
    exact .refl c
  · rw [h]
    exact c.extends_insertIfAbsent domain detected

/-- A call stays with its domain. -/
theorem domain_step (answer : Except Error Dialect) (c : DialectCache)
    (call : CacheCall) :
    (call.step answer c).1.domain = call.domain := by
  cases call with
  | starting domain =>
    cases h : c.get? domain with
    | some known => rw [step_starting_of_known h]; rfl
    | none => rw [step_starting_of_unknown h]; rfl
  | detecting domain =>
    cases answer with
    | error e => rfl
    | ok detected => rfl
  | _ => rfl

/-- A call that is over stays as it is. -/
theorem step_of_over {call : CacheCall} (h : call.result?.isSome = true)
    (answer : Except Error Dialect) (c : DialectCache) :
    call.step answer c = (call, c) := by
  cases call with
  | reading domain | starting domain | detecting domain
  | inserting domain detected => cases h
  | _ => rfl

/-- A dialect that a step gives back is the one that the domain has after
it. -/
theorem result?_step_of_ok {answer : Except Error Dialect} {call : CacheCall}
    (h : (call.step answer c).1.result? = some (.ok (some x))) :
    call.result? = some (.ok (some x))
      ∨ (call.step answer c).2.get? call.domain = some x := by
  cases call with
  | reading domain => exact .inr (Except.ok.inj (Option.some.inj h))
  | starting domain =>
    cases hget : c.get? domain with
    | none =>
      rw [step_starting_of_unknown hget] at h
      cases h
    | some known =>
      rw [step_starting_of_known hget] at h ⊢
      cases h
      exact .inr hget
  | detecting domain =>
    cases answer with
    | error e => cases h
    | ok detected => cases h
  | inserting domain detected =>
    cases h
    exact .inr (c.get?_insertIfAbsent_self domain detected)
  | _ => exact .inl h

/-- An error that a step gives back is that of the database. -/
theorem result?_step_of_error {answer : Except Error Dialect}
    {call : CacheCall} {e : Error}
    (h : (call.step answer c).1.result? = some (.error e)) :
    call.result? = some (.error e) ∨ answer = .error e := by
  cases call with
  | starting domain =>
    cases hget : c.get? domain with
    | none =>
      rw [step_starting_of_unknown hget] at h
      cases h
    | some known =>
      rw [step_starting_of_known hget] at h
      cases h
  | detecting domain =>
    cases answer with
    | error e' =>
      cases h
      exact .inr rfl
    | ok detected => cases h
  | reading domain | inserting domain detected => cases h
  | _ => exact .inl h

/-- Three steps on end give back what `getOrDetect` does, and leave the cache
that it leaves. -/
theorem three_steps (c : DialectCache) (domain : String)
    (answer : Except Error Dialect) :
    let first := (starting domain).step answer c
    let second := first.1.step answer first.2
    let third := second.1.step answer second.2
    third.1.result? = some ((c.getOrDetect domain answer).1.map some)
      ∧ third.2 = (c.getOrDetect domain answer).2 := by
  unfold DialectCache.getOrDetect
  cases hget : c.get? domain with
  | some known =>
    rw [step_starting_of_known hget]
    exact ⟨rfl, rfl⟩
  | none =>
    rw [step_starting_of_unknown hget]
    cases answer with
    | error e => exact ⟨rfl, rfl⟩
    | ok detected => exact ⟨rfl, rfl⟩

end CacheCall

-- ============================================================== many calls

namespace Callers

variable {ι : Type} {s : Callers ι} {i : ι}

/-- Cache and calls fit together. -/
structure Coherent (s : Callers ι) : Prop where
  /-- No domain is in the cache twice. -/
  distinct : s.cache.domains.Nodup
  /-- The dialect that a call gave back is the one that its domain has. -/
  answered : ∀ i x, (s.calls i).result? = some (.ok (some x)) →
    s.cache.get? (s.calls i).domain = some x
  /-- The dialect that a domain has was detected and put in by some caller. -/
  detected : ∀ domain x, s.cache.get? domain = some x →
    ∃ i, s.calls i = .inserted domain x x

/-- Nobody has an answer before he has begun. -/
theorem result?_opening (inquiries : ι → Inquiry) (i : ι) :
    ((opening inquiries).calls i).result? = none := by
  show (CacheCall.opening (inquiries i)).result? = none
  cases inquiries i with
  | known domain => rfl
  | detected domain => rfl

/-- Callers who have not begun are in agreement with the empty cache. -/
theorem coherent_opening (inquiries : ι → Inquiry) :
    (opening inquiries).Coherent where
  distinct := .nil
  answered i x h := by cases (result?_opening inquiries i).symm.trans h
  detected domain x h := by cases h

/-- The domains that are known are those that some caller came to put an answer
in for. -/
theorem Coherent.mem_domains (hs : s.Coherent) (domain : String) :
    domain ∈ s.cache.domains
      ↔ ∃ i detected kept, s.calls i = .inserted domain detected kept := by
  rw [DialectCache.mem_domains]
  constructor
  · intro hgiven
    obtain ⟨x, hx⟩ := hgiven
    obtain ⟨i, hi⟩ := hs.detected domain x hx
    exact ⟨i, x, x, hi⟩
  · intro hgiven
    obtain ⟨i, detected, kept, hi⟩ := hgiven
    have hget := hs.answered i kept (by rw [hi]; rfl)
    rw [hi] at hget
    exact ⟨kept, hget⟩

variable [DecidableEq ι] {t : Turn ι}

-- ================================================================ turns

theorem cache_turn (s : Callers ι) (t : Turn ι) :
    (s.turn t).cache = ((s.calls t.caller).step t.answer s.cache).2 :=
  rfl

theorem calls_turn_self (s : Callers ι) (t : Turn ι) :
    (s.turn t).calls t.caller = ((s.calls t.caller).step t.answer s.cache).1 :=
  if_pos rfl

theorem calls_turn_of_ne (h : i ≠ t.caller) (s : Callers ι) :
    (s.turn t).calls i = s.calls i :=
  if_neg h

theorem run_nil (s : Callers ι) : s.run [] = s :=
  rfl

theorem run_cons (s : Callers ι) (t : Turn ι) (turns : List (Turn ι)) :
    s.run (t :: turns) = (s.turn t).run turns :=
  rfl

/-- A caller who is done stays so, whoever's turn it is. -/
theorem calls_turn_of_over (h : (s.calls i).result?.isSome = true)
    (t : Turn ι) :
    (s.turn t).calls i = s.calls i := by
  by_cases hi : i = t.caller
  · subst hi
    rw [calls_turn_self, CacheCall.step_of_over h]
  · exact calls_turn_of_ne hi s

/-- A domain that has a dialect keeps it, whatever steps follow. -/
theorem extends_run (s : Callers ι) (turns : List (Turn ι)) :
    s.cache.Extends (s.run turns).cache := by
  induction turns generalizing s with
  | nil => exact .refl s.cache
  | cons t rest ih =>
    rw [run_cons]
    exact ((s.calls t.caller).extends_step t.answer s.cache).trans
      (ih (s.turn t))

/-- Where a call fails in a run, the database failed at one of its turns. -/
theorem result?_run_of_error {turns : List (Turn ι)} {e : Error}
    (h : ((s.run turns).calls i).result? = some (.error e)) :
    (s.calls i).result? = some (.error e) ∨ ⟨i, .error e⟩ ∈ turns := by
  induction turns generalizing s with
  | nil => exact .inl h
  | cons t rest ih =>
    rw [run_cons] at h
    rcases ih h with hturn | hrest
    · by_cases hi : i = t.caller
      · subst hi
        rw [calls_turn_self] at hturn
        refine (CacheCall.result?_step_of_error hturn).imp_right
          fun hanswer => ?_
        rw [← hanswer]
        exact List.mem_cons_self
      · rw [calls_turn_of_ne hi] at hturn
        exact .inl hturn
    · exact .inr (List.mem_cons_of_mem t hrest)

-- =========================================================== the invariant

/-- A turn keeps the agreement: the call of the turn agrees with the cache that
its step leaves, and all other calls with a cache that has grown. -/
theorem Coherent.turn (hs : s.Coherent) (t : Turn ι) :
    (s.turn t).Coherent where
  distinct := by
    rw [cache_turn]
    rcases (s.calls t.caller).step_cases t.answer s.cache with
      h | ⟨domain, detected, -, h⟩
    · rw [h]
      exact hs.distinct
    · rw [h]
      exact DialectCache.nodup_insertIfAbsent hs.distinct domain detected
  answered i x h := by
    -- the dialect of a call that was done before is still there, since the
    -- cache has only grown
    have hkeeps := ((s.calls t.caller).extends_step t.answer s.cache).keeps
    by_cases hi : i = t.caller
    · subst hi
      rw [calls_turn_self] at h ⊢
      rw [CacheCall.domain_step, cache_turn]
      rcases CacheCall.result?_step_of_ok h with hbefore | hafter
      · exact hkeeps _ _ (hs.answered t.caller x hbefore)
      · exact hafter
    · rw [calls_turn_of_ne hi] at h ⊢
      exact hkeeps _ _ (hs.answered i x h)
  detected domain x h := by
    -- a call that put in the dialect of a domain is over, and stays
    have hstays : s.cache.get? domain = some x →
        ∃ i, (s.turn t).calls i = .inserted domain x x := by
      intro hget
      obtain ⟨i, hi⟩ := hs.detected domain x hget
      refine ⟨i, ?_⟩
      rw [calls_turn_of_over (by rw [hi]; rfl), hi]
    rw [cache_turn] at h
    rcases (s.calls t.caller).step_cases t.answer s.cache with
      hsame | ⟨other, y, -, hstep⟩
    · rw [hsame] at h
      exact hstays h
    · rw [hstep] at h
      by_cases hdomain : domain = other
      · subst hdomain
        cases hget : s.cache.get? domain with
        | some known =>
          rw [DialectCache.insertIfAbsent_of_known hget] at h
          exact hstays h
        | none =>
          rw [DialectCache.get?_insertIfAbsent_self] at h
          refine ⟨t.caller, ?_⟩
          rw [calls_turn_self, hstep]
          rw [DialectCache.insertIfAbsent_of_unknown hget] at h ⊢
          cases h
          rfl
      · rw [DialectCache.get?_insertIfAbsent_of_ne hdomain] at h
        exact hstays h

/-- So cache and calls agree after any turns. -/
theorem Coherent.run (hs : s.Coherent) (turns : List (Turn ι)) :
    (s.run turns).Coherent := by
  induction turns generalizing s with
  | nil => exact hs
  | cons t rest ih =>
    rw [run_cons]
    exact ih (hs.turn t)

-- ============================================================= agreement

/-- A caller whom nobody interrupts gets what `getOrDetect` gives, and leaves
the cache that it leaves. -/
theorem run_alone {domain : String} (h : s.calls t.caller = .starting domain) :
    ((s.run [t, t, t]).calls t.caller).result?
        = some ((s.cache.getOrDetect domain t.answer).1.map some)
      ∧ (s.run [t, t, t]).cache = (s.cache.getOrDetect domain t.answer).2 := by
  have hsteps := CacheCall.three_steps s.cache domain t.answer
  rw [← h] at hsteps
  simp only [run_cons, run_nil, calls_turn_self, cache_turn]
  exact hsteps

/-- However the steps of callers interleave, the cache agrees with itself and
with what they were given. What a domain has, it keeps. A dialect that was
given back is the one that the domain has from then on. A caller fails only
with the error of the database, and leaves the cache as it is; only putting in
changes it. The domains that are known are those that some caller came to put
an answer in for, each once, and what they have was detected by one of these;
they never become fewer. A caller whom nobody interrupts gets what
`getOrDetect` gives. -/
theorem interleavings_agree (inquiries : ι → Inquiry) (turns : List (Turn ι)) :
    let s := (opening inquiries).run turns
    (∀ domain x, s.cache.get? domain = some x →
        ∀ more, (s.run more).cache.get? domain = some x)
      ∧ (∀ i x, (s.calls i).result? = some (.ok (some x)) →
        ∀ more, (s.run more).cache.get? (s.calls i).domain = some x)
      ∧ (∀ i domain e, s.calls i = .detecting domain →
        s.turn ⟨i, .error e⟩ = s.set i (.failed domain e))
      ∧ (∀ i e, (s.calls i).result? = some (.error e) → ⟨i, .error e⟩ ∈ turns)
      ∧ (∀ t, (∀ domain detected, s.calls t.caller
        ≠ .inserting domain detected) → (s.turn t).cache = s.cache)
      ∧ (∀ domain, domain ∈ s.cache.domains ↔
        ∃ i detected kept, s.calls i = .inserted domain detected kept)
      ∧ (∀ domain x, s.cache.get? domain = some x
        ↔ ∃ i, s.calls i = .inserted domain x x)
      ∧ s.cache.domains.Nodup
      ∧ (∀ more, s.cache.size ≤ (s.run more).cache.size)
      ∧ ∀ t domain, s.calls t.caller = .starting domain →
        ((s.run [t, t, t]).calls t.caller).result?
            = some ((s.cache.getOrDetect domain t.answer).1.map some)
          ∧ (s.run [t, t, t]).cache
            = (s.cache.getOrDetect domain t.answer).2 := by
  intro s
  have hs : s.Coherent := (coherent_opening inquiries).run turns
  refine ⟨fun domain x hx more => ?_, fun i x hx more => ?_,
    fun i domain e hi => ?_, fun i e he => ?_, fun t ht => ?_, hs.mem_domains,
      fun domain x => ⟨hs.detected domain x, ?_⟩, hs.distinct,
    fun more => (s.extends_run more).size_le, fun t domain ht => run_alone ht⟩
  · exact (s.extends_run more).keeps domain x hx
  · exact (s.extends_run more).keeps _ x (hs.answered i x hx)
  · unfold turn
    rw [hi]
    rfl
  · refine (result?_run_of_error he).resolve_left fun hopening => ?_
    cases (result?_opening inquiries i).symm.trans hopening
  · rw [cache_turn]
    refine ((s.calls t.caller).step_cases t.answer s.cache).resolve_right
      fun hgiven => ?_
    obtain ⟨domain, detected, hcall, -⟩ := hgiven
    exact ht domain detected hcall
  · intro hgiven
    obtain ⟨i, hi⟩ := hgiven
    have hget := hs.answered i x (by rw [hi]; rfl)
    rw [hi] at hget
    exact hget

end Callers

-- ============================================================= two callers

namespace Race

/-- Two callers want the dialect of one domain. -/
def callers : Callers Bool :=
  .opening fun _ => .detected "Master"

/-- Both look up and ask before either puts in, and the second one is the first
to put in. -/
def turns : List (Turn Bool) :=
  [ ⟨false, .ok .generic⟩, ⟨true, .ok .oracle⟩, ⟨false, .ok .generic⟩,
    ⟨true, .ok .oracle⟩, ⟨true, .ok .oracle⟩, ⟨false, .ok .generic⟩ ]

end Race

open Race in
/-- Who puts in second gives back what was put in first. -/
theorem interleavings_agree_race :
    ((callers.run turns).calls false).result? = some (.ok (some .oracle))
      ∧ (callers.run turns).calls false = .inserted "Master" .generic .oracle
      ∧ ∀ more, ((callers.run turns).run more).cache.get? "Master"
        = some .oracle := by
  have hresult : ((callers.run turns).calls false).result?
      = some (.ok (some .oracle)) := rfl
  have hagree :=
    Callers.interleavings_agree (fun _ : Bool => .detected "Master") turns
  exact ⟨hresult, rfl, hagree.2.1 false .oracle hresult⟩

end IdentitySearch
