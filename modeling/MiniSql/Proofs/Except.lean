import Mathlib.Data.List.Forall2
import MiniSql.Error

/-! Computations that may fail: when one after another succeeds, and what a traversal returns; also what
they come to when they work on a state. -/

namespace MiniSql

namespace Except
universe u v
variable {ε : Type u} {α β : Type v}

theorem bind_eq_ok {first : Except ε α} {next : α → Except ε β} {result : β} :
    (first >>= next) = .ok result ↔ ∃ value, first = .ok value ∧ next value = .ok result := by
  cases first with
  | error error =>
    constructor
    · intro impossible
      cases impossible
    · intro ⟨_, impossible, _⟩
      cases impossible
  | ok value =>
    constructor
    · intro done
      exact ⟨value, rfl, done⟩
    · intro ⟨_, same, done⟩
      cases same
      exact done

theorem bind_eq_error {first : Except ε α} {next : α → Except ε β} {error : ε} :
    (first >>= next) = .error error ↔ first = .error error ∨ ∃ value, first = .ok value ∧ next value = .error error := by
  cases first with
  | error own => simp [bind, Except.bind]
  | ok value => simp [bind, Except.bind]

/-- Behind a step that succeeds, it is the rest that fails. -/
theorem rest_fails {first : Except ε α} {next : α → Except ε β} {value : α} {error : ε} (done : first = .ok value)
    (failed : (first >>= next) = .error error) : next value = .error error := by
  rw [done] at failed
  exact failed

theorem map_eq_ok {first : Except ε α} {f : α → β} {result : β} :
    f <$> first = .ok result ↔ ∃ value, first = .ok value ∧ f value = result := by
  rw [map_eq_pure_bind, bind_eq_ok]
  constructor <;> intro ⟨value, done, same⟩
  · exact ⟨value, done, Except.ok.inj same⟩
  · exact ⟨value, done, congrArg Except.ok same⟩

theorem map_eq_error {first : Except ε α} {f : α → β} {error : ε} : f <$> first = .error error ↔ first = .error error := by
  cases first <;> simp [Functor.map, Except.map]

theorem forall₂_of_mapM {f : α → Except ε β} {items : List α} {results : List β}
    (done : items.mapM f = .ok results) : List.Forall₂ (fun item result => f item = .ok result) items results := by
  induction items generalizing results with
  | nil =>
    cases done
    exact .nil
  | cons item items ih =>
    rw [List.mapM_cons] at done
    obtain ⟨result, found, done⟩ := bind_eq_ok.mp done
    obtain ⟨rest, remaining, same⟩ := bind_eq_ok.mp done
    cases same
    exact .cons found (ih remaining)

theorem getElem?_of_mapM {f : α → Except ε β} {items : List α} {results : List β} {index : Nat} {result : β}
    (done : items.mapM f = .ok results) (found : results[index]? = some result) :
    ∃ item, items[index]? = some item ∧ f item = .ok result := by
  have pairs := forall₂_of_mapM done
  clear done
  induction pairs generalizing index with
  | nil => cases found
  | @cons item first items results returned _ ih =>
    cases index with
    | zero =>
      cases found
      exact ⟨item, rfl, returned⟩
    | succ index => exact ih found

theorem mem_of_mapM {f : α → Except ε β} {items : List α} {results : List β} {result : β}
    (done : items.mapM f = .ok results) (member : result ∈ results) : ∃ item ∈ items, f item = .ok result := by
  obtain ⟨index, found⟩ := List.mem_iff_getElem?.mp member
  obtain ⟨item, present, returned⟩ := getElem?_of_mapM done found
  exact ⟨item, List.mem_of_getElem? present, returned⟩

theorem result_of_mapM {f : α → Except ε β} {items : List α} {results : List β} {item : α}
    (done : items.mapM f = .ok results) (member : item ∈ items) : ∃ result ∈ results, f item = .ok result := by
  have pairs := forall₂_of_mapM done
  clear done
  induction pairs with
  | nil => cases member
  | @cons first result items results returned _ ih =>
    rcases List.mem_cons.mp member with rfl | member
    · exact ⟨result, by simp, returned⟩
    · obtain ⟨other, present, found⟩ := ih member
      exact ⟨other, by simp [present], found⟩

theorem eq_map_of_mapM {f : α → Except ε β} {value : α → β}
    (known : ∀ item result, f item = .ok result → value item = result) {items : List α} {results : List β}
    (done : items.mapM f = .ok results) : results = items.map value := by
  have pairs := forall₂_of_mapM done
  clear done
  induction pairs with
  | nil => rfl
  | cons returned _ ih => rw [List.map_cons, known _ _ returned, ih]

theorem error_of_mapM {f : α → Except ε β} {items : List α} {error : ε} (failed : items.mapM f = .error error) :
    ∃ item ∈ items, f item = .error error := by
  induction items with
  | nil => cases failed
  | cons item items ih =>
    rw [List.mapM_cons] at failed
    cases first : f item with
    | error own =>
      rw [first] at failed
      cases failed
      exact ⟨item, by simp, first⟩
    | ok result =>
      cases rest : items.mapM f with
      | error other =>
        rw [first, rest] at failed
        cases failed
        obtain ⟨later, member, found⟩ := ih rest
        exact ⟨later, by simp [member], found⟩
      | ok results =>
        rw [first, rest] at failed
        cases failed

theorem mapM_congr {f g : α → Except ε β} {items : List α} (same : ∀ item ∈ items, f item = g item) :
    items.mapM f = items.mapM g := by
  induction items with
  | nil => rfl
  | cons item items ih =>
    obtain ⟨first, others⟩ := List.forall_mem_cons.mp same
    rw [List.mapM_cons, List.mapM_cons, first, ih others]

theorem mapM_of_forall {f : α → Except ε β} {value : α → β} {items : List α}
    (succeeds : ∀ item ∈ items, f item = .ok (value item)) : items.mapM f = .ok (items.map value) := by
  induction items with
  | nil => rfl
  | cons item items ih =>
    obtain ⟨first, others⟩ := List.forall_mem_cons.mp succeeds
    rw [List.mapM_cons, first, ih others]
    rfl

theorem mapM_eq_ok {f : α → Except ε β} {items : List α} {results : List β} :
    items.mapM f = .ok results ↔ List.Forall₂ (fun item result => f item = .ok result) items results := by
  refine ⟨forall₂_of_mapM, fun pairs => ?_⟩
  induction pairs with
  | nil => rfl
  | cons first _ ih =>
    rw [List.mapM_cons, first, ih]
    rfl

theorem mapM_eq_error {f : α → Except ε β} {items : List α} {error : ε} : items.mapM f = .error error ↔
    ∃ before item after, items = before ++ item :: after ∧ (∀ earlier ∈ before, ∃ result, f earlier = .ok result) ∧
      f item = .error error := by
  constructor
  · intro failed
    induction items with
    | nil => cases failed
    | cons item items ih =>
      rw [List.mapM_cons] at failed
      rcases bind_eq_error.mp failed with first | ⟨result, first, rest⟩
      · exact ⟨[], item, items, rfl, List.forall_mem_nil _, first⟩
      · have behind : items.mapM f = .error error := by
          rcases bind_eq_error.mp rest with behind | ⟨_, _, impossible⟩
          · exact behind
          · cases impossible
        obtain ⟨before, later, after, rfl, passed, found⟩ := ih behind
        exact ⟨item :: before, later, after, rfl, List.forall_mem_cons.mpr ⟨⟨result, first⟩, passed⟩, found⟩
  · rintro ⟨before, item, after, rfl, passed, failed⟩
    induction before with
    | nil =>
      rw [List.nil_append, List.mapM_cons, failed]
      rfl
    | cons first before ih =>
      obtain ⟨⟨result, done⟩, others⟩ := List.forall_mem_cons.mp passed
      rw [List.cons_append, List.mapM_cons, done, bind_eq_error]
      exact .inr ⟨result, rfl, bind_eq_error.mpr (.inl (ih others))⟩

/-- The computation succeeds, with a result of this kind. -/
def Returns (computed : Except ε α) (post : α → Prop) : Prop := ∃ value, computed = .ok value ∧ post value

/-- The computation succeeds with a result of one kind, or it fails with an error of another. -/
def Ends (computed : Except ε α) (post : α → Prop) (failure : ε → Prop) : Prop :=
  match computed with
  | .ok value => post value
  | .error error => failure error

namespace Ends
variable {post : α → Prop} {after : β → Prop} {failure : ε → Prop}

theorem ok {value : α} (holds : post value) : Ends (.ok value) post failure := holds

theorem error {error : ε} (fails : failure error) : Ends (.error error) post failure := fails

theorem of_returns {computed : Except ε α} (returns : Returns computed post) : Ends computed post failure := by
  obtain ⟨value, rfl, holds⟩ := returns
  exact holds

theorem returns {computed : Except ε α} (ends : Ends computed post fun _ => False) : Returns computed post := by
  cases computed with
  | error error => exact ends.elim
  | ok value => exact ⟨value, rfl, ends⟩

theorem imp {other : α → Prop} {computed : Except ε α} (ends : Ends computed post failure)
    (implies : ∀ value, post value → other value) : Ends computed other failure := by
  cases computed with
  | error error => exact ends
  | ok value => exact implies value ends

theorem result {computed : Except ε α} {value : α} (ends : Ends computed post failure) (done : computed = .ok value) :
    post value := by
  rw [done] at ends
  exact ends

theorem bind {first : Except ε α} {next : α → Except ε β} (ends : Ends first post failure)
    (rest : ∀ value, post value → Ends (next value) after failure) : Ends (first >>= next) after failure := by
  cases first with
  | error error => exact ends
  | ok value => exact rest value ends

/-- Behind a step that may fail, the whole is known to end well only where the step says something. -/
theorem guard {first : Except ε α} {next : α → Except ε β} {known : Prop} (ends : Ends first (fun _ => known) failure)
    (rest : known → Ends (first >>= next) after failure) : Ends (first >>= next) after failure := by
  cases first with
  | error error => exact ends
  | ok value => exact rest ends

theorem of_map {computed : Except ε α} {f : α → β} (ends : Ends (f <$> computed) after failure) :
    Ends computed (fun value => after (f value)) failure := by
  cases computed with
  | error error => exact ends
  | ok value => exact ends

theorem mapM {f : α → Except ε β} {known : α → Prop} {items : List α}
    (each : ∀ item ∈ items, Ends (f item) (fun _ => known item) failure) :
    Ends (items.mapM f) (fun _ => ∀ item ∈ items, known item) failure := by
  induction items with
  | nil => exact ok (List.forall_mem_nil _)
  | cons item items ih =>
    obtain ⟨first, others⟩ := List.forall_mem_cons.mp each
    rw [List.mapM_cons]
    refine bind first fun result holds => ?_
    exact bind (ih others) fun results all => ok (List.forall_mem_cons.mpr ⟨holds, all⟩)

end Ends

namespace Returns
variable {post : α → Prop} {after : β → Prop}

theorem ok {value : α} (holds : post value) : Returns (.ok value : Except ε α) post := ⟨value, rfl, holds⟩

theorem imp {other : α → Prop} {computed : Except ε α} (returns : Returns computed post)
    (implies : ∀ value, post value → other value) : Returns computed other := by
  obtain ⟨value, done, holds⟩ := returns
  exact ⟨value, done, implies value holds⟩

theorem bind {first : Except ε α} {next : α → Except ε β} (returns : Returns first post)
    (rest : ∀ value, post value → Returns (next value) after) : Returns (first >>= next) after := by
  obtain ⟨value, rfl, holds⟩ := returns
  exact rest value holds

theorem step {first : Except ε α} {next : α → Except ε β} {value : α} (done : first = .ok value)
    (rest : Returns (next value) after) : Returns (first >>= next) after := by
  rw [done]
  exact rest

theorem mapM {f : α → Except ε β} {items : List α} (each : ∀ item ∈ items, Returns (f item) after) :
    Returns (items.mapM f) fun results => ∀ result ∈ results, after result := by
  induction items with
  | nil => exact ok (by simp)
  | cons item items ih =>
    obtain ⟨first, others⟩ := List.forall_mem_cons.mp each
    rw [List.mapM_cons]
    refine bind first fun result holds => ?_
    exact bind (ih others) fun results all => ok (List.forall_mem_cons.mpr ⟨holds, all⟩)

theorem foldlM {step : β → α → Except ε β} {items : List α} {start : β} (holds : after start)
    (steps : ∀ state, after state → ∀ item ∈ items, Returns (step state item) after) : Returns (items.foldlM step start) after := by
  induction items generalizing start with
  | nil => exact ok holds
  | cons item items ih =>
    rw [List.foldlM_cons]
    refine bind (steps start holds item (by simp)) fun state kept => ?_
    exact ih kept fun state kept other member => steps state kept other (by simp [member])

end Returns

end Except

namespace Stateful
variable {σ α β : Type}

theorem bind_run (first : Stateful σ α) (next : α → Stateful σ β) (state : σ) :
    (first >>= next) state = match first state with
      | (.ok value, after) => next value after
      | (.error error, after) => (.error error, after) := by
  change ExceptT.bindCont next (first state).1 (first state).2 = _
  rcases first state with ⟨_ | _, after⟩ <;> rfl

theorem get_run (state : σ) : (get : Stateful σ σ) state = (.ok state, state) := rfl

theorem lift_run (result : Except Error α) (state : σ) : (liftM result : Stateful σ α) state = (result, state) := by
  cases result <;> rfl

theorem forM_run {edit : α → Stateful σ PUnit} {step : σ → α → Except Error σ}
    (writes : ∀ item state after, step state item = .ok after → edit item state = (.ok .unit, after))
    {items : List α} {state after : σ} (done : items.foldlM step state = .ok after) :
    items.forM edit state = (.ok .unit, after) := by
  induction items generalizing state with
  | nil =>
    cases done
    rfl
  | cons item items ih =>
    rw [List.foldlM_cons] at done
    obtain ⟨middle, first, rest⟩ := Except.bind_eq_ok.mp done
    change (edit item >>= fun _ => items.forM edit) state = _
    rw [bind_run, writes item state middle first]
    exact ih rest

end Stateful

end MiniSql
