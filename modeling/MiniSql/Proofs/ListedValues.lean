import MiniSql.Proofs.RowOrder
import MiniSql.Relation.Filter

/-! IN and NOTIN beside the single comparisons that they list. A column is in a list exactly if it equals one of the
values, compared one after another. It is not in a list exactly if it differs from each value, as long as no value is
NULL: a NULL in the list is passed over, while a single comparison with NULL does not hold. -/

namespace MiniSql

theorem Value.ofToken_eq_null {token : Token} : Value.ofToken token = .ok .null ↔ token.kind = .keyword .NULL := by
  unfold Value.ofToken
  cases token.kind with
  | literal => cases Text.Decimal.int? token.literal.toList <;> grind
  | keyword word => cases word <;> simp
  | _ => simp

namespace Value
variable {command : String} {cell value : Value} {tokens : List Token} {found : Bool}

theorem equal?_eq_true : cell.equal? command value = .ok (some true) ↔ cell ≠ .null ∧ cell = value := by
  cases cell <;> cases value <;> simp [equal?, datatype?]

theorem equal?_eq_false :
    cell.equal? command value = .ok (some false) ↔
      cell ≠ .null ∧ value ≠ .null ∧ cell.datatype? = value.datatype? ∧ cell ≠ value := by
  cases cell <;> cases value <;> simp [equal?, datatype?]

theorem equal?_eq_none : cell.equal? command value = .ok none ↔ cell = .null ∨ value = .null := by
  cases cell <;> cases value <;> simp [equal?, datatype?]

theorem among_eq_ok (done : cell.among tokens = .ok found) :
    (∀ token ∈ tokens, ∃ value same, ofToken token = .ok value ∧ cell.equal? Keyword.WHERE.text value = .ok same) ∧
      (found = true ↔ cell ≠ .null ∧ ∃ token ∈ tokens, ofToken token = .ok cell) := by
  induction tokens generalizing found with
  | nil => cases done; simp
  | cons token tokens ih =>
    obtain ⟨value, converted, done⟩ := Except.bind_eq_ok.mp done
    obtain ⟨same, compared, done⟩ := Except.bind_eq_ok.mp done
    obtain ⟨later, rest, result⟩ := Except.bind_eq_ok.mp done
    obtain ⟨others, inside⟩ := ih rest
    refine ⟨List.forall_mem_cons.mpr ⟨⟨value, same, converted, compared⟩, others⟩, ?_⟩
    have here : same = some true ↔ cell ≠ .null ∧ cell = value := by
      rw [← @equal?_eq_true Keyword.WHERE.text, compared, Except.ok.injEq]
    rw [← Except.ok.inj result, Bool.or_eq_true, inside, beq_iff_eq, here, List.exists_mem_cons_iff, converted]
    grind

/-- A NULL in a list has no say in what is among its values. -/
theorem among_present (cell : Value) (tokens : List Token) :
    cell.among (tokens.filter fun token => token.kind ≠ .keyword .NULL) = cell.among tokens := by
  induction tokens with
  | nil => rfl
  | cons token tokens ih =>
    by_cases null : token.kind = .keyword .NULL
    · rw [List.filter_cons_of_neg (by simpa using null), ih]
      have passed : cell.equal? Keyword.WHERE.text .null = .ok none := equal?_eq_none.mpr (.inr rfl)
      simp only [among, ofToken_eq_null.mpr null, passed, bind, Except.bind]
      cases cell.among tokens <;> simp [pure, Except.pure]
    · rw [List.filter_cons_of_pos (by simpa using null)]
      simp only [among, ih]

end Value

/-- Comparisons of a column with one value after another, connected as they are when they are read. -/
def Condition.chain (connect : Condition → Condition → Condition) (column : String) (comparison : Comparison)
    (token : Token) (tokens : List Token) : Condition :=
  (tokens.map (compare column comparison)).foldl connect (compare column comparison token)

namespace Condition
variable {table column : String} {columns : List String} {row : Row} {token : Token} {tokens : List Token} {truth : Bool}

theorem compare_eq_ok {comparison : Comparison} :
    holds table columns row (.compare column comparison token) = .ok truth ↔
      ∃ cell value same, cellOf table columns row column = .ok cell ∧ Value.ofToken token = .ok value ∧
        cell.equal? Keyword.WHERE.text value = .ok same ∧ truth = same.any comparison.holds := by
  constructor
  · intro done
    obtain ⟨cell, read, done⟩ := Except.bind_eq_ok.mp done
    obtain ⟨value, converted, done⟩ := Except.bind_eq_ok.mp done
    obtain ⟨same, compared, done⟩ := Except.bind_eq_ok.mp done
    refine ⟨cell, value, same, read, converted, compared, ?_⟩
    cases same <;> exact (Except.ok.inj done).symm
  · rintro ⟨cell, value, same, read, converted, compared, rfl⟩
    simp only [holds, read, converted, compared, bind, Except.bind]
    cases same <;> rfl

theorem member_eq_ok {membership : Membership} :
    holds table columns row (.member column membership tokens) = .ok truth ↔
      ∃ cell, cellOf table columns row column = .ok cell ∧
        (cell = .null ∧ truth = false ∨
          cell ≠ .null ∧ ∃ found, cell.among tokens = .ok found ∧ truth = membership.holds found) := by
  constructor
  · intro done
    obtain ⟨cell, read, done⟩ := Except.bind_eq_ok.mp done
    refine ⟨cell, read, ?_⟩
    split at done
    next null => exact .inl ⟨null, (Except.ok.inj done).symm⟩
    next present =>
      obtain ⟨found, searched, same⟩ := Except.bind_eq_ok.mp done
      exact .inr ⟨present, found, searched, (Except.ok.inj same).symm⟩
  · rintro ⟨cell, read, ⟨rfl, rfl⟩ | ⟨present, found, searched, rfl⟩⟩
    · simp only [holds, read, bind, Except.bind]
      rfl
    · simp only [holds, read, searched, bind, Except.bind, if_neg present]
      rfl

theorem equal_holds :
    holds table columns row (.compare column .equal token) = .ok true ↔
      ∃ cell, cellOf table columns row column = .ok cell ∧ cell ≠ .null ∧ Value.ofToken token = .ok cell := by
  rw [compare_eq_ok]
  constructor
  · rintro ⟨cell, value, same, read, converted, compared, holds⟩
    obtain rfl : same = some true := by cases same <;> simp_all [Comparison.holds]
    obtain ⟨present, rfl⟩ := Value.equal?_eq_true.mp compared
    exact ⟨cell, read, present, converted⟩
  · rintro ⟨cell, read, present, converted⟩
    exact ⟨cell, cell, some true, read, converted, Value.equal?_eq_true.mpr ⟨present, rfl⟩, rfl⟩

theorem notEqual_holds :
    holds table columns row (.compare column .notEqual token) = .ok true ↔
      ∃ cell value, cellOf table columns row column = .ok cell ∧ Value.ofToken token = .ok value ∧
        cell.equal? Keyword.WHERE.text value = .ok (some false) := by
  rw [compare_eq_ok]
  constructor
  · rintro ⟨cell, value, same, read, converted, compared, holds⟩
    obtain rfl : same = some false := by cases same <;> simp_all [Comparison.holds]
    exact ⟨cell, value, read, converted, compared⟩
  · rintro ⟨cell, value, read, converted, compared⟩
    exact ⟨cell, value, some false, read, converted, compared, rfl⟩

/-- A connective that is settled by a left side of one truth value, and by the right side otherwise. -/
def Connects (table : String) (columns : List String) (row : Row) (connect : Condition → Condition → Condition)
    (decisive : Bool) : Prop :=
  ∀ left right truth, holds table columns row (connect left right) = .ok truth ↔
    holds table columns row left = .ok decisive ∧ truth = decisive ∨
      holds table columns row left = .ok (!decisive) ∧ holds table columns row right = .ok truth

theorem or_connects : Connects table columns row .or true := by
  intro left right truth
  rw [holds, Except.bind_eq_ok]
  constructor
  · rintro ⟨_ | _, first, done⟩
    · exact .inr ⟨first, done⟩
    · exact .inl ⟨first, (Except.ok.inj done).symm⟩
  · rintro (⟨first, rfl⟩ | ⟨first, second⟩)
    · exact ⟨true, first, rfl⟩
    · exact ⟨false, first, second⟩

theorem and_connects : Connects table columns row .and false := by
  intro left right truth
  rw [holds, Except.bind_eq_ok]
  constructor
  · rintro ⟨_ | _, first, done⟩
    · exact .inl ⟨first, (Except.ok.inj done).symm⟩
    · exact .inr ⟨first, done⟩
  · rintro (⟨first, rfl⟩ | ⟨first, second⟩)
    · exact ⟨false, first, rfl⟩
    · exact ⟨true, first, second⟩

theorem Connects.foldl {connect : Condition → Condition → Condition} {decisive : Bool} {first : Condition}
    {others : List Condition} (connects : Connects table columns row connect decisive)
    (done : holds table columns row (others.foldl connect first) = .ok truth) :
    truth = decisive ∧ (∃ part ∈ first :: others, holds table columns row part = .ok decisive) ∨
      truth = !decisive ∧ ∀ part ∈ first :: others, holds table columns row part = .ok (!decisive) := by
  induction others generalizing first with
  | nil =>
    rw [List.foldl_nil] at done
    cases truth <;> cases decisive <;> simp [done]
  | cons other others ih =>
    rcases ih done with ⟨same, part, member, answer⟩ | ⟨same, answers⟩
    · refine .inl ⟨same, ?_⟩
      rcases List.mem_cons.mp member with rfl | later
      · rcases (connects _ _ _).mp answer with ⟨answer, _⟩ | ⟨_, answer⟩
        · exact ⟨first, by simp, answer⟩
        · exact ⟨other, by simp, answer⟩
      · exact ⟨part, by simp [later], answer⟩
    · obtain ⟨both, rest⟩ := List.forall_mem_cons.mp answers
      obtain ⟨_, impossible⟩ | ⟨one, two⟩ := (connects _ _ _).mp both
      · cases decisive <;> cases impossible
      · exact .inr ⟨same, List.forall_mem_cons.mpr ⟨one, List.forall_mem_cons.mpr ⟨two, rest⟩⟩⟩

private theorem Connects.chain {connect : Condition → Condition → Condition} {decisive : Bool} {comparison : Comparison}
    (connects : Connects table columns row connect decisive)
    (done : holds table columns row (chain connect column comparison token tokens) = .ok truth) :
    truth = decisive ∧
        (∃ listed ∈ token :: tokens, holds table columns row (.compare column comparison listed) = .ok decisive) ∨
      truth = !decisive ∧
        ∀ listed ∈ token :: tokens, holds table columns row (.compare column comparison listed) = .ok (!decisive) := by
  simpa using connects.foldl done

private theorem chain_or_iff {comparison : Comparison}
    (done : holds table columns row (chain .or column comparison token tokens) = .ok truth) :
    truth = true ↔ ∃ listed ∈ token :: tokens, holds table columns row (.compare column comparison listed) = .ok true := by
  rcases or_connects.chain done with ⟨rfl, one⟩ | ⟨rfl, none⟩
  · exact iff_of_true rfl one
  · refine iff_of_false (by decide) ?_
    rintro ⟨listed, member, answer⟩
    cases (none listed member).symm.trans answer

private theorem chain_and_iff {comparison : Comparison}
    (done : holds table columns row (chain .and column comparison token tokens) = .ok truth) :
    truth = true ↔ ∀ listed ∈ token :: tokens, holds table columns row (.compare column comparison listed) = .ok true := by
  rcases and_connects.chain done with ⟨rfl, listed, member, answer⟩ | ⟨rfl, all⟩
  · refine iff_of_false (by decide) fun all => ?_
    cases answer.symm.trans (all listed member)
  · exact iff_of_true rfl all

theorem inside_iff (done : holds table columns row (.member column .inside tokens) = .ok truth) :
    truth = true ↔ ∃ listed ∈ tokens, holds table columns row (.compare column .equal listed) = .ok true := by
  simp only [equal_holds]
  obtain ⟨cell, read, ⟨rfl, rfl⟩ | ⟨present, _, searched, rfl⟩⟩ := member_eq_ok.mp done
  · simp [read]
  · rw [(Value.among_eq_ok searched).2]
    simp [read, present]

theorem outside_iff (present : ∀ listed ∈ token :: tokens, listed.kind ≠ .keyword .NULL)
    (done : holds table columns row (.member column .outside (token :: tokens)) = .ok truth) :
    truth = true ↔ ∀ listed ∈ token :: tokens, holds table columns row (.compare column .notEqual listed) = .ok true := by
  simp only [notEqual_holds]
  obtain ⟨cell, read, ⟨rfl, rfl⟩ | ⟨filled, found, searched, rfl⟩⟩ := member_eq_ok.mp done
  · refine iff_of_false (by decide) fun differs => ?_
    obtain ⟨cell, _, readAgain, _, answer⟩ := differs token List.mem_cons_self
    cases read.symm.trans readAgain
    exact (Value.equal?_eq_false.mp answer).1 rfl
  obtain ⟨compared, inside⟩ := Value.among_eq_ok searched
  change (!found) = true ↔ _
  rw [Bool.not_eq_true', ← Bool.not_eq_true, inside]
  constructor
  · intro unequal listed member
    obtain ⟨value, same, converted, answer⟩ := compared listed member
    refine ⟨cell, value, read, converted, ?_⟩
    cases same with
    | none =>
      obtain rfl := (Value.equal?_eq_none.mp answer).resolve_left filled
      exact absurd (Value.ofToken_eq_null.mp converted) (present listed member)
    | some same =>
      cases same with
      | false => exact answer
      | true =>
        obtain ⟨_, rfl⟩ := Value.equal?_eq_true.mp answer
        exact absurd ⟨filled, listed, member, converted⟩ unequal
  · rintro differs ⟨_, listed, member, converted⟩
    obtain ⟨own, value, readOwn, convertedOwn, answer⟩ := differs listed member
    cases read.symm.trans readOwn
    cases converted.symm.trans convertedOwn
    exact (Value.equal?_eq_false.mp answer).2.2.2 rfl

theorem notEqual_null (null : token.kind = .keyword .NULL) :
    holds table columns row (.compare column .notEqual token) ≠ .ok true := by
  intro differs
  obtain ⟨cell, value, _, converted, answer⟩ := notEqual_holds.mp differs
  cases converted.symm.trans (Value.ofToken_eq_null.mpr null)
  exact (Value.equal?_eq_false.mp answer).2.1 rfl

end Condition

/-- What is in a list equals one of its values, where neither question fails. What is not in it differs from each value,
except that a NULL in the list is passed over, while nothing differs from NULL. -/
theorem Condition.member_as_comparisons (table : String) (columns : List String) (row : Row) (column : String)
    (token : Token) (tokens : List Token) :
    (∀ inside any, holds table columns row (.member column .inside (token :: tokens)) = .ok inside →
      holds table columns row (chain .or column .equal token tokens) = .ok any → inside = any) ∧
    (∀ outside all, holds table columns row (.member column .outside (token :: tokens)) = .ok outside →
      holds table columns row (chain .and column .notEqual token tokens) = .ok all →
      if ∃ listed ∈ token :: tokens, listed.kind = .keyword .NULL then all = false else outside = all) ∧
    ∀ membership, holds table columns row (.member column membership (token :: tokens)) =
      holds table columns row
        (.member column membership ((token :: tokens).filter fun listed => listed.kind ≠ .keyword .NULL)) := by
  refine ⟨fun inside any listed compared => ?_, fun outside all listed compared => ?_, fun membership => ?_⟩
  · rw [Bool.eq_iff_iff, inside_iff listed, chain_or_iff compared]
  · split
    next null =>
      obtain ⟨listed, member, null⟩ := null
      rw [← Bool.not_eq_true, chain_and_iff compared]
      exact fun differs => notEqual_null null (differs listed member)
    next present =>
      rw [Bool.eq_iff_iff, chain_and_iff compared]
      exact outside_iff (fun listed member null => present ⟨listed, member, null⟩) listed
  · simp only [holds, Value.among_present]

/-- A number is found in a list that has a NULL too, and missed in one that has other numbers only. -/
theorem Condition.two_as_comparisons :
    let one : Token := ⟨.literal, "1"⟩
    let two : Token := ⟨.literal, "2"⟩
    let three : Token := ⟨.literal, "3"⟩
    let null : Token := ⟨.keyword .NULL, "NULL"⟩
    let holds := holds "T" ["A"] [.int 2]
    (∃ inside any, holds (.member "A" .inside [null, two]) = .ok inside ∧
      holds (chain .or "A" .equal null [two]) = .ok any ∧ inside = any) ∧
    ∃ outside all, holds (.member "A" .outside [one, three]) = .ok outside ∧
      holds (chain .and "A" .notEqual one [three]) = .ok all ∧ outside = all := by
  intro one two three null holds
  have listed := (member_as_comparisons "T" ["A"] [.int 2] "A" null [two]).1 true true (by decide) (by decide)
  have unlisted := (member_as_comparisons "T" ["A"] [.int 2] "A" one [three]).2.1 true true (by decide) (by decide)
  rw [if_neg (by decide)] at unlisted
  exact ⟨⟨true, true, by decide, by decide, listed⟩, true, true, by decide, by decide, unlisted⟩

/-- A number that differs from one listed value counts as absent beside a NULL, although it does not differ from NULL. -/
theorem Condition.null_listed_apart :
    let one : Token := ⟨.literal, "1"⟩
    let null : Token := ⟨.keyword .NULL, "NULL"⟩
    holds "T" ["A"] [.int 2] (.member "A" .outside [one, null]) = .ok true ∧
      holds "T" ["A"] [.int 2] (chain .and "A" .notEqual one [null]) = .ok false := by
  decide

end MiniSql
