/-
What a failing store hides. A store degrades if it answers each call as before
or fails (`Store.Degrades`). What is wrong with a request is then still found
out wherever the engine gets to look at its condition: it needs the dialect for
that, and may have to ask the store for it. So an invalid request is answered
by its error where the dialect is known or detected, or where the scopes are
wrong already; else the failure to detect the dialect comes first, and the
request is answered as if nobody matched it (`degraded_search`).

Which of the two happens is decided before any statement is put to the store
(`Engine.FindsOut`), and the two halves follow the order of preparing. Where
the dialect is the same as before, so is the statement
(`searchStatement_withStore`), and with it the error. Where it is not found,
the fault stands in the place of the statement
(`searchStatement_of_not_findsOut`), and a search takes a fault of the store
for an empty list. The invalid request of `invalid_request_finds_nobody` is
answered in that way, though its condition names an attribute that does not
exist.
-/
import IdentitySearch.Directory.Memory
import IdentitySearch.Proofs.Engine.Faults

namespace IdentitySearch

open Outcome

namespace Store

/-- A store that answers every call. -/
structure Answers (store : Store) : Prop where
  detect : store.detect.isOk = true
  count : ∀ statement, (store.count statement).isOk = true
  fetch : ∀ statement, (store.fetch statement).isOk = true

/-- Another store answers each call as this one, or fails. -/
structure Degrades (store store' : Store) : Prop where
  detect : store'.detect = store.detect
    ∨ ∃ fault, store'.detect = .error (.store fault)
  count : ∀ statement, store'.count statement = store.count statement
    ∨ ∃ fault, store'.count statement = .error (.store fault)
  fetch : ∀ statement, store'.fetch statement = store.fetch statement
    ∨ ∃ fault, store'.fetch statement = .error (.store fault)

end Store

namespace Engine

variable {e : Engine} {store : Store} {r : Request} {page : PageRequest}
  {s : Session}

/-- It turns out whether a request is valid: its scopes are wrong already, or
the dialect for its condition is known, or the store says which it is. -/
def FindsOut (e : Engine) (r : Request) (s : Session) : Prop :=
  (∃ err, ScopeFilter.make e.directory r.base r.recursive r.scopes
    = .error err)
    ∨ (∃ known, e.knownDialect? s = some known)
    ∨ ∃ detected, e.store.detect = .ok detected

/-- A dialect that is known, or that the other store detects, is the one it
was. -/
theorem dialect_withStore_of_answer
    (hdetect : ∀ d, store.detect = .ok d → e.store.detect = .ok d)
    (h : (∃ known, e.knownDialect? s = some known)
      ∨ ∃ detected, store.detect = .ok detected) :
    ((e.withStore store).dialect s).1 = (e.dialect s).1 := by
  have hknown : (e.withStore store).knownDialect? s = e.knownDialect? s := rfl
  rw [dialect_fst, dialect_fst, hknown]
  cases hcase : e.knownDialect? s with
  | some known => rfl
  | none =>
    rcases h with ⟨known, hsome⟩ | ⟨d, hd⟩
    · cases hcase.symm.trans hsome
    · exact hd.trans (hdetect d hd).symm

/-- Where it turns out whether a request is valid, another store makes no
difference, if it answers about the dialect as before whenever it answers. -/
theorem searchStatement_withStore
    (hdetect : ∀ d, store.detect = .ok d → e.store.detect = .ok d)
    (h : (e.withStore store).FindsOut r s) :
    ((e.withStore store).searchStatement r page s).1
      = (e.searchStatement r page s).1 := by
  have hprepare : ((e.withStore store).prepare r s).1 = (e.prepare r s).1 := by
    cases hmake : ScopeFilter.make e.directory r.base r.recursive r.scopes with
    | error err =>
      rw [prepare_of_make_error (e.withStore store) r s hmake,
        prepare_of_make_error e r s hmake]
    | ok f =>
      rw [prepare_of_make (e.withStore store) r s hmake,
        prepare_of_make e r s hmake, dialect_withStore_of_answer hdetect
          (h.resolve_left fun ⟨err, herr⟩ => ?_)]
      · rfl
      · cases hmake.symm.trans herr
  show ((e.withStore store).prepare r s).1.bind _ = (e.prepare r s).1.bind _
  rw [hprepare]
  rfl

/-- Where it does not turn out, the statement fails as the store does. -/
theorem searchStatement_of_not_findsOut (h : ¬ e.FindsOut r s)
    (page : PageRequest) :
    ∃ err, e.store.detect = .error err
      ∧ (e.searchStatement r page s).1 = .error err := by
  rw [FindsOut, not_or, not_or] at h
  obtain ⟨hmake, hknown, hdetect⟩ := h
  cases hfilter : ScopeFilter.make e.directory r.base r.recursive r.scopes with
  | error err => exact absurd ⟨err, hfilter⟩ hmake
  | ok f =>
    cases hstore : e.store.detect with
    | ok d => exact absurd ⟨d, hstore⟩ hdetect
    | error err =>
      refine ⟨err, rfl, ?_⟩
      have hdialect : (e.dialect s).1 = .error err := by
        rw [dialect_fst]
        cases hcase : e.knownDialect? s with
        | some known => exact absurd ⟨known, hcase⟩ hknown
        | none => exact hstore
      show (e.prepare r s).1.bind _ = _
      rw [prepare_of_make e r s hfilter, hdialect]
      rfl

/-- Over a degraded store an invalid request is answered by its error where it
turns out to be invalid, and by an empty list elsewhere. -/
theorem degraded_search (hanswers : e.store.Answers)
    (hdegrades : e.store.Degrades store) {err : Error}
    (hclient : err.isClient = true)
    (h : (e.searchStatement r page s).1 = .error err) :
    (((e.withStore store).search r page s).1 = .error err
      ↔ (e.withStore store).FindsOut r s)
      ∧ (¬ (e.withStore store).FindsOut r s →
        ((e.withStore store).search r page s).1 = .ok []) := by
  have hdetect : ∀ d, store.detect = .ok d → e.store.detect = .ok d := by
    intro d hd
    rcases hdegrades.detect with hsame | ⟨fault, hfault⟩
    · rw [← hsame, hd]
    · cases hd.symm.trans hfault
  have hout : (e.withStore store).FindsOut r s →
      ((e.withStore store).search r page s).1 = .error err := by
    intro hfinds
    have hstatement := (searchStatement_withStore hdetect hfinds).trans h
    rw [search_of_statement_error hstatement, hclient]
    rfl
  have hnot : ¬ (e.withStore store).FindsOut r s →
      ((e.withStore store).search r page s).1 = .ok [] := by
    intro hfinds
    obtain ⟨err', hstore, hstatement⟩ :=
      searchStatement_of_not_findsOut hfinds page
    obtain ⟨fault, rfl⟩ : ∃ fault, err' = .store fault := by
      rcases hdegrades.detect with hsame | ⟨fault, hfault⟩
      · obtain ⟨d, hd⟩ := isOk_iff.1 hanswers.detect
        cases (hsame.trans hd).symm.trans hstore
      · exact ⟨fault, Except.error.inj (hstore.symm.trans hfault)⟩
    rw [search_of_statement_error hstatement]
    rfl
  refine ⟨⟨fun hsearch => ?_, hout⟩, hnot⟩
  refine Classical.byContradiction fun hfinds => ?_
  cases (hnot hfinds).symm.trans hsearch

end Engine

-- ======================================================== a silent store

namespace SilentStore

def answering : Store where
  detect := .ok .generic
  count _ := .ok 0
  fetch _ := .ok []

/-- Fails whatever it is asked. -/
def silent : Store where
  detect := .error (.store (.reported "no connection"))
  count _ := .error (.store (.reported "no connection"))
  fetch _ := .error (.store (.reported "no connection"))

/-- Knows no attribute, and the dialect perhaps. -/
def engine (dialect : Option Dialect) : Engine where
  config := { dialect := dialect }
  directory := MemoryDirectory.empty.directory
  store := answering

/-- Whoever has shoes of some size, which is no attribute. -/
def shoes : Request where
  base := ⟨"r0", "/"⟩
  recursive := true
  scopes := []
  condition := .leaf (.attribute "shoeSize" .eq (some "42"))
  kind := .user

/-- The first store answers every call, -/
theorem answers : answering.Answers :=
  ⟨rfl, fun _ => rfl, fun _ => rfl⟩

/-- and the second one fails at each. -/
theorem degrades : answering.Degrades silent :=
  ⟨.inr ⟨_, rfl⟩, fun _ => .inr ⟨_, rfl⟩, fun _ => .inr ⟨_, rfl⟩⟩

end SilentStore

open SilentStore in
/-- With the dialect configured an unknown schema is reported, whatever the
store does. -/
theorem degraded_search_silent_store :
    answering.Answers ∧ answering.Degrades silent
      ∧ (Error.unknownSchema "shoeSize").isClient = true
      ∧ ((engine (some .oracle)).searchStatement shoes .unpaged .start).1
        = .error (.unknownSchema "shoeSize")
      ∧ (((engine (some .oracle)).withStore silent).search shoes
        .unpaged .start).1
        = .error (.unknownSchema "shoeSize") := by
  have hstatement :
      ((engine (some .oracle)).searchStatement shoes .unpaged .start).1
      = .error (.unknownSchema "shoeSize") :=
    rfl
  have hsearch := Engine.degraded_search
      (e := engine (some .oracle)) answers degrades rfl hstatement
  exact ⟨answers, degrades, rfl, hstatement,
    hsearch.1.2 (.inr (.inl ⟨.oracle, rfl⟩))⟩

open SilentStore in
/-- An invalid request is answered as if nobody matched it, because the dialect
that its condition is compiled for cannot be detected. -/
theorem invalid_request_finds_nobody :
    answering.Answers ∧ answering.Degrades silent
      ∧ (Error.unknownSchema "shoeSize").isClient = true
      ∧ ((engine none).searchStatement shoes .unpaged .start).1
        = .error (.unknownSchema "shoeSize")
      ∧ (((engine none).withStore silent).search shoes .unpaged .start).1
        = .ok [] := by
  exact ⟨answers, degrades, rfl, rfl, rfl⟩

end IdentitySearch
