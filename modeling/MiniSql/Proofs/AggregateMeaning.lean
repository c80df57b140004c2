import Mathlib.Algebra.Order.BigOperators.Group.List
import Mathlib.Algebra.Order.Group.Int
import Mathlib.Algebra.Ring.Int.Defs
import Mathlib.Data.List.Induction
import MiniSql.Proofs.QueryMeaning
import MiniSql.Proofs.TypedRelation

/-! What aggregates are. The loops look at one value after another; the definition here takes the values of a column
as a whole and says what each function makes of them, where it fails and with which error. -/

namespace MiniSql

/-- The sum, and that of each part in front, is an integer of the domain. -/
def SumsFit (numbers : List Int) : Prop := ∀ front, front <+: numbers → fitsInteger front.sum

namespace AggregateFunction

/-- What a function makes of the values of a column that are not NULL, in the order of the rows. A sum meets a text
or leaves the integers, whichever comes first. -/
inductive Defines : AggregateFunction → List Value → Except Error Value → Prop
  | count {values : List Value} : Defines .count values (.ok (.int values.length))
  | nothing {function : AggregateFunction} (other : function ≠ .count) : Defines function [] (.ok .null)
  | min {values : List Value} {least : Value} {datatype : Datatype} (member : least ∈ values)
      (uniform : ∀ value ∈ values, value.datatype? = some datatype) (below : ∀ value ∈ values, (least.order value).isLE) :
    Defines .min values (.ok least)
  | max {values : List Value} {greatest : Value} {datatype : Datatype} (member : greatest ∈ values)
      (uniform : ∀ value ∈ values, value.datatype? = some datatype) (above : ∀ value ∈ values, (value.order greatest).isLE) :
    Defines .max values (.ok greatest)
  | mixed {function : AggregateFunction} {front rest : List Value} {other : Value} {expected actual : Datatype}
      (compares : function = .min ∨ function = .max) (some : front ≠ [])
      (uniform : ∀ value ∈ front, value.datatype? = .some expected) (differs : other.datatype? = .some actual)
      (distinct : actual ≠ expected) :
    Defines function (front ++ other :: rest) (.error (.valueType expected.name actual.name function.name))
  | sum {numbers : List Int} (some : numbers ≠ []) (fit : SumsFit numbers) :
    Defines .sum (numbers.map .int) (.ok (.int numbers.sum))
  | avg {numbers : List Int} (some : numbers ≠ []) (fit : SumsFit numbers) :
    Defines .avg (numbers.map .int) (.ok (.int (numbers.sum.tdiv numbers.length)))
  | text {function : AggregateFunction} {numbers : List Int} {content : String} {rest : List Value}
      (sums : function.Sums) (fit : SumsFit numbers) :
    Defines function (numbers.map .int ++ .text content :: rest)
      (.error (.valueType Datatype.int.name Datatype.text.name function.name))
  | overflow {function : AggregateFunction} {numbers : List Int} {number : Int} {rest : List Value}
      (sums : function.Sums) (fit : SumsFit numbers) (beyond : ¬ fitsInteger (numbers.sum + number)) :
    Defines function (numbers.map .int ++ .int number :: rest) (.error function.overflow)

end AggregateFunction

private theorem sumsFit_nil : SumsFit [] := by
  intro front part
  rw [List.prefix_nil.mp part]
  decide

private theorem SumsFit.snoc {numbers : List Int} {number : Int} (fit : SumsFit numbers)
    (inside : fitsInteger (numbers.sum + number)) : SumsFit (numbers ++ [number]) := by
  intro front part
  rcases List.prefix_concat_iff.mp part with rfl | part
  · rwa [List.sum_append, List.sum_singleton]
  · exact fit front part

namespace Value
variable {command : String} {values rest : List Value} {present : Value}

private theorem sumFrom_append {numbers : List Int} (fit : SumsFit numbers) :
    sumFrom command 0 (numbers.map .int ++ rest) = sumFrom command numbers.sum rest := by
  induction numbers using List.reverseRecOn generalizing rest with
  | nil => rfl
  | append_singleton numbers number ih =>
    have before : SumsFit numbers := fun front part => fit front (part.trans (List.prefix_append numbers [number]))
    have whole := fit _ List.prefix_rfl
    rw [List.sum_append, List.sum_singleton] at whole ⊢
    rw [List.map_append, List.append_assoc, ih before]
    exact if_pos whole

private theorem sumFrom_fit {numbers : List Int} (fit : SumsFit numbers) :
    sumFrom command 0 (numbers.map .int) = .ok numbers.sum := by
  have summed : sumFrom command 0 (numbers.map .int ++ []) = _ := sumFrom_append fit
  rwa [List.append_nil] at summed

/-- Values are read up to their end, or up to a text, or up to the integer that is too much. -/
theorem sum_cases (present : ∀ value ∈ values, value ≠ .null) :
    (∃ numbers, values = numbers.map .int ∧ SumsFit numbers) ∨
    (∃ numbers content rest, values = numbers.map .int ++ .text content :: rest ∧ SumsFit numbers) ∨
    ∃ numbers number rest, values = numbers.map .int ++ .int number :: rest ∧ SumsFit numbers ∧
      ¬ fitsInteger (numbers.sum + number) := by
  suffices behind : ∀ numbers, SumsFit numbers →
      (∃ more, numbers.map .int ++ values = List.map .int more ∧ SumsFit more) ∨
      (∃ more content rest, numbers.map .int ++ values = List.map .int more ++ .text content :: rest ∧ SumsFit more) ∨
      ∃ more number rest, numbers.map .int ++ values = List.map .int more ++ .int number :: rest ∧ SumsFit more ∧
        ¬ fitsInteger (more.sum + number) from behind [] sumsFit_nil
  induction values with
  | nil => exact fun numbers fit => .inl ⟨numbers, List.append_nil _, fit⟩
  | cons value values ih =>
    obtain ⟨first, others⟩ := List.forall_mem_cons.mp present
    intro numbers fit
    cases value with
    | null => exact absurd rfl first
    | text content => exact .inr (.inl ⟨numbers, content, values, rfl, fit⟩)
    | int number =>
      by_cases inside : fitsInteger (numbers.sum + number)
      · have next := ih others (numbers ++ [number]) (fit.snoc inside)
        simpa only [List.map_append, List.append_assoc, List.map_singleton, List.singleton_append] using next
      · exact .inr (.inr ⟨numbers, number, values, rfl, fit, inside⟩)

/-- The first value holds against the second where this order wins. -/
def Holds (wins : Ordering) (first second : Value) : Prop :=
  if wins = .gt then (second.order first).isLE else (first.order second).isLE

variable {wins : Ordering} {first second third : Value}

private theorem holds_refl (wins : Ordering) (value : Value) : Holds wins value value := by
  unfold Holds
  split <;> exact Std.ReflCmp.isLE_rfl

private theorem Holds.trans (one : Holds wins first second) (other : Holds wins second third) : Holds wins first third := by
  unfold Holds at one other ⊢
  by_cases greatest : wins = .gt
  · rw [if_pos greatest] at one other ⊢
    exact Std.TransCmp.isLE_trans other one
  · rw [if_neg greatest] at one other ⊢
    exact Std.TransCmp.isLE_trans one other

private theorem eq_of_order (same : first.order second = .eq) : first = second := by
  cases first <;> cases second <;> simp_all [order]

private theorem Holds.antisymm (one : Holds wins first second) (other : Holds wins second first) : first = second := by
  unfold Holds at one other
  by_cases greatest : wins = .gt
  · rw [if_pos greatest] at one other
    exact eq_of_order (Std.OrientedCmp.isLE_antisymm other one)
  · rw [if_neg greatest] at one other
    exact eq_of_order (Std.OrientedCmp.isLE_antisymm one other)

private theorem holds_of_compared {order : Ordering} (decisive : wins = .lt ∨ wins = .gt)
    (compared : first.compare? second = some order) :
    if order = wins then Holds wins first second else Holds wins second first := by
  have own := order_of_compare compared
  have swapped := order_swap second first
  rw [own] at swapped
  unfold Holds
  rcases decisive with rfl | rfl <;> cases order <;> simp_all

private theorem compare?_of_same {datatype : Datatype} (one : first.datatype? = some datatype)
    (other : second.datatype? = some datatype) : ∃ order, first.compare? second = some order := by
  have fits : first.fits datatype := by simp [fits, one]
  exact compare?_of_fits fits (by simp [Value.fits, other])

theorem extremeFrom_uniform {datatype : Datatype} (command : String) (decisive : wins = .lt ∨ wins = .gt)
    (uniform : ∀ value ∈ present :: values, value.datatype? = some datatype) :
    ∃ result ∈ present :: values, extremeFrom command wins present values = .ok result ∧
      ∀ value ∈ present :: values, Holds wins result value := by
  induction values generalizing present with
  | nil => exact ⟨present, List.mem_cons_self, rfl, List.forall_mem_singleton.mpr (holds_refl wins present)⟩
  | cons candidate values ih =>
    obtain ⟨first, second, others⟩ : present.datatype? = some datatype ∧ candidate.datatype? = some datatype ∧
        ∀ value ∈ values, value.datatype? = some datatype := by
      simpa only [List.forall_mem_cons] using uniform
    obtain ⟨order, compared⟩ := compare?_of_same second first
    have better := holds_of_compared decisive compared
    rw [extremeFrom, compared]
    by_cases replaces : order = wins
    · simp only [if_pos replaces] at better ⊢
      obtain ⟨result, member, found, holds⟩ := ih (List.forall_mem_cons.mpr ⟨second, others⟩)
      obtain ⟨own, rest⟩ := List.forall_mem_cons.mp holds
      refine ⟨result, List.mem_cons_of_mem _ member, found, List.forall_mem_cons.mpr ⟨own.trans better, holds⟩⟩
    · simp only [if_neg replaces] at better ⊢
      obtain ⟨result, member, found, holds⟩ := ih (List.forall_mem_cons.mpr ⟨first, others⟩)
      obtain ⟨own, rest⟩ := List.forall_mem_cons.mp holds
      refine ⟨result, List.cons_subset_cons present (List.subset_cons_self candidate values) member, found, ?_⟩
      exact List.forall_mem_cons.mpr ⟨own, List.forall_mem_cons.mpr ⟨own.trans better, rest⟩⟩

/-- The first value of another type stops the loop. -/
theorem extremeFrom_mixed {front : List Value} {other : Value} {expected actual : Datatype}
    (uniform : ∀ value ∈ present :: front, value.datatype? = some expected) (differs : other.datatype? = some actual)
    (distinct : actual ≠ expected) :
    extremeFrom command wins present (front ++ other :: rest) = .error (.valueType expected.name actual.name command) := by
  induction front generalizing present with
  | nil =>
    have own := List.forall_mem_singleton.mp uniform
    have none : other.compare? present = none := by
      cases other <;> cases present <;> cases expected <;> cases actual <;> simp_all [datatype?, compare?]
    rw [List.nil_append, extremeFrom, none]
    simp only [typeName, own, differs]
    rfl
  | cons candidate front ih =>
    obtain ⟨first, second, others⟩ : present.datatype? = some expected ∧ candidate.datatype? = some expected ∧
        ∀ value ∈ front, value.datatype? = some expected := by
      simpa only [List.forall_mem_cons] using uniform
    obtain ⟨order, compared⟩ := compare?_of_same second first
    rw [List.cons_append, extremeFrom, compared]
    refine ih (List.forall_mem_cons.mpr ⟨?_, others⟩)
    split
    · exact second
    · exact first

theorem uniform_or_mixed (datatype : Datatype) (present : ∀ value ∈ values, value ≠ .null) :
    (∀ value ∈ values, value.datatype? = some datatype) ∨
      ∃ front other actual rest, values = front ++ other :: rest ∧ (∀ value ∈ front, value.datatype? = some datatype) ∧
        other.datatype? = some actual ∧ actual ≠ datatype := by
  induction values with
  | nil => exact .inl (List.forall_mem_nil _)
  | cons value values ih =>
    obtain ⟨first, others⟩ := List.forall_mem_cons.mp present
    obtain ⟨actual, own⟩ : ∃ actual, value.datatype? = some actual := by
      cases value with
      | null => exact absurd rfl first
      | int | text => exact ⟨_, rfl⟩
    by_cases same : actual = datatype
    · subst same
      rcases ih others with all | ⟨front, other, actual, rest, rfl, uniform, differs, distinct⟩
      · exact .inl (List.forall_mem_cons.mpr ⟨own, all⟩)
      · exact .inr ⟨value :: front, other, actual, rest, rfl, List.forall_mem_cons.mpr ⟨own, uniform⟩, differs, distinct⟩
    · exact .inr ⟨[], value, actual, values, rfl, List.forall_mem_nil _, own, same⟩

end Value

namespace AggregateFunction
variable {function : AggregateFunction} {values : List Value} {outcome : Except Error Value}

/-- The order in which MIN and MAX prefer a value. -/
def wins (function : AggregateFunction) : Ordering := if function = .max then .gt else .lt

private theorem apply_extreme (compares : function = .min ∨ function = .max) :
    function.apply values = Value.extreme function.name function.wins values := by
  rcases compares with rfl | rfl <;> rfl

/-- A value that holds against all is the answer: two such values are equal. -/
theorem apply_uniform {best : Value} {datatype : Datatype} (compares : function = .min ∨ function = .max)
    (member : best ∈ values) (uniform : ∀ value ∈ values, value.datatype? = some datatype)
    (holds : ∀ value ∈ values, Value.Holds function.wins best value) : function.apply values = .ok best := by
  obtain ⟨first, others, rfl⟩ := List.exists_cons_of_ne_nil (List.ne_nil_of_mem member)
  have decisive : function.wins = .lt ∨ function.wins = .gt := by rcases compares with rfl | rfl <;> simp [wins]
  obtain ⟨result, inside, found, against⟩ := Value.extremeFrom_uniform function.name decisive uniform
  rw [apply_extreme compares, Value.extreme, found, (holds result inside).antisymm (against best member)]

private theorem apply_mixed {front rest : List Value} {other : Value} {expected actual : Datatype}
    (compares : function = .min ∨ function = .max) (some : front ≠ [])
    (uniform : ∀ value ∈ front, value.datatype? = .some expected) (differs : other.datatype? = .some actual)
    (distinct : actual ≠ expected) :
    function.apply (front ++ other :: rest) = .error (.valueType expected.name actual.name function.name) := by
  obtain ⟨first, others, rfl⟩ := List.exists_cons_of_ne_nil some
  rw [apply_extreme compares]
  exact Value.extremeFrom_mixed uniform differs distinct

def ofTotal (function : AggregateFunction) (count : Nat) (total : Int) : Int :=
  if function = .avg then total.tdiv count else total

private theorem apply_total (sums : function.Sums) (some : values ≠ []) :
    function.apply values = (fun total => .int (function.ofTotal values.length total)) <$>
      Value.sumFrom function.name 0 values := by
  obtain ⟨first, others, rfl⟩ := List.exists_cons_of_ne_nil some
  rcases sums with rfl | rfl <;> rfl

private theorem sumFrom_text {numbers : List Int} {content : String} {rest : List Value} (fit : SumsFit numbers) (command : String) :
    Value.sumFrom command 0 (numbers.map .int ++ .text content :: rest) =
      .error (.valueType Datatype.int.name Datatype.text.name command) := by
  rw [Value.sumFrom_append fit]
  rfl

private theorem sumFrom_beyond {numbers : List Int} {number : Int} {rest : List Value} (fit : SumsFit numbers)
    (beyond : ¬ fitsInteger (numbers.sum + number)) (command : String) :
    Value.sumFrom command 0 (numbers.map .int ++ .int number :: rest) =
      .error (.unsupportedValue (command ++ " overflows INT")) := by
  rw [Value.sumFrom_append fit]
  exact if_neg beyond

private theorem apply_of_defines (defined : function.Defines values outcome) : function.apply values = outcome := by
  cases defined with
  | count => rfl
  | nothing other => cases function <;> first | rfl | exact absurd rfl other
  | min member uniform below => exact apply_uniform (.inl rfl) member uniform below
  | max member uniform above => exact apply_uniform (.inr rfl) member uniform above
  | mixed compares some uniform differs distinct => exact apply_mixed compares some uniform differs distinct
  | sum some fit => rw [apply_total (.inl rfl) (by simpa using some), Value.sumFrom_fit fit]; rfl
  | avg some fit =>
    rw [apply_total (.inr rfl) (by simpa using some), Value.sumFrom_fit fit, List.length_map]
    rfl
  | text sums fit => rw [apply_total sums (by simp), sumFrom_text fit]; rfl
  | overflow sums fit beyond => rw [apply_total sums (by simp), sumFrom_beyond fit beyond]; rfl

private theorem defines_extreme (compares : function = .min ∨ function = .max) (some : values ≠ [])
    (present : ∀ value ∈ values, value ≠ .null) : ∃ outcome, function.Defines values outcome := by
  obtain ⟨first, others, rfl⟩ := List.exists_cons_of_ne_nil some
  obtain ⟨own, rest⟩ := List.forall_mem_cons.mp present
  obtain ⟨datatype, kind⟩ : ∃ datatype, first.datatype? = Option.some datatype := by
    cases first with
    | null => exact absurd rfl own
    | int | text => exact ⟨_, rfl⟩
  rcases Value.uniform_or_mixed datatype rest with all | ⟨front, other, actual, behind, rfl, uniform, differs, distinct⟩
  · have uniform : ∀ value ∈ first :: others, value.datatype? = Option.some datatype := List.forall_mem_cons.mpr ⟨kind, all⟩
    rcases compares with rfl | rfl
    · obtain ⟨least, member, _, holds⟩ := Value.extremeFrom_uniform "" (.inl rfl) uniform
      exact ⟨_, .min member uniform holds⟩
    · obtain ⟨greatest, member, _, holds⟩ := Value.extremeFrom_uniform "" (.inr rfl) uniform
      exact ⟨_, .max member uniform holds⟩
  · exact ⟨_, @Defines.mixed _ (first :: front) _ _ _ _ compares (List.cons_ne_nil _ _)
      (List.forall_mem_cons.mpr ⟨kind, uniform⟩) differs distinct⟩

private theorem defines_total (sums : function.Sums) (some : values ≠ []) (present : ∀ value ∈ values, value ≠ .null) :
    ∃ outcome, function.Defines values outcome := by
  rcases Value.sum_cases present with ⟨numbers, rfl, fit⟩ | ⟨numbers, content, rest, rfl, fit⟩ |
    ⟨numbers, number, rest, rfl, fit, beyond⟩
  · have filled : numbers ≠ [] := by simpa using some
    rcases sums with rfl | rfl
    · exact ⟨_, .sum filled fit⟩
    · exact ⟨_, .avg filled fit⟩
  · exact ⟨_, .text sums fit⟩
  · exact ⟨_, .overflow sums fit beyond⟩

/-- The loops do what is defined: the definition gives each function one outcome, and it is theirs. -/
theorem apply_iff (present : ∀ value ∈ values, value ≠ .null) :
    function.apply values = outcome ↔ function.Defines values outcome := by
  refine ⟨fun applied => ?_, apply_of_defines⟩
  obtain ⟨other, defined⟩ : ∃ outcome, function.Defines values outcome := by
    by_cases some : values = []
    · subst some
      cases function with
      | count => exact ⟨_, .count⟩
      | min | max | sum | avg => exact ⟨_, .nothing nofun⟩
    · cases function with
      | count => exact ⟨_, .count⟩
      | min => exact defines_extreme (.inl rfl) some present
      | max => exact defines_extreme (.inr rfl) some present
      | sum => exact defines_total (.inl rfl) some present
      | avg => exact defines_total (.inr rfl) some present
  rw [← applied, apply_of_defines defined]
  exact defined

private theorem null_iff (present : ∀ value ∈ values, value ≠ .null) (other : function ≠ .count) :
    function.Defines values (.ok .null) ↔ values = [] := by
  constructor
  · intro defined
    cases defined with
    | nothing => rfl
    | min member | max member => exact absurd rfl (present _ member)
  · rintro rfl
    exact .nothing other

/-- An average lies among the numbers, and cutting it off loses less than one for each of them. -/
theorem average_bounds {numbers : List Int} {least greatest : Int} (some : numbers ≠ [])
    (below : ∀ number ∈ numbers, least ≤ number) (above : ∀ number ∈ numbers, number ≤ greatest) :
    least ≤ numbers.sum.tdiv numbers.length ∧ numbers.sum.tdiv numbers.length ≤ greatest ∧
      (numbers.sum - numbers.sum.tdiv numbers.length * numbers.length).natAbs < numbers.length := by
  have positive : (0 : Int) < numbers.length := by exact_mod_cast List.length_pos_iff.mpr some
  have low : numbers.length * least ≤ numbers.sum := by simpa using List.card_nsmul_le_sum numbers least below
  have high : numbers.sum ≤ numbers.length * greatest := by simpa using List.sum_le_card_nsmul numbers greatest above
  refine ⟨?_, ?_, ?_⟩
  · rw [← Int.mul_tdiv_cancel_left least positive.ne']
    exact Int.tdiv_le_tdiv positive low
  · rw [← Int.mul_tdiv_cancel_left greatest positive.ne']
    exact Int.tdiv_le_tdiv positive high
  · rw [Int.mul_comm, ← Int.tmod_def, Int.natAbs_tmod, Int.natAbs_natCast]
    exact Nat.mod_lt _ (List.length_pos_iff.mpr some)

end AggregateFunction

private theorem present_of_presentValues {columns : List String} {rows : List Row} {name : String} :
    ∀ value ∈ presentValues columns rows name, value ≠ .null := by
  intro value member
  simpa using (List.mem_filter.mp member).2

private theorem length_presentValues_le (columns : List String) (rows : List Row) (name : String) :
    (presentValues columns rows name).length ≤ rows.length := by
  have fewer := List.length_filter_le (· ≠ Value.null) (rows.map fun row => row.value columns name)
  rwa [List.length_map] at fewer

namespace Relation
variable {relation : Relation} {terms : List AggregateTerm}

private theorem aggregateTerm_aligned {term : AggregateTerm} (table : String)
    (aligned : ∀ row ∈ relation.rows, row.length = relation.columns.length) (known : term.column ∈ relation.columns) :
    relation.aggregateTerm table term = term.function.apply (presentValues relation.columns relation.rows term.column) := by
  have read : relation.rows.mapM (fun row => row.cell (relation.columns.idxOf term.column)) =
      .ok (relation.rows.map fun row => row.value relation.columns term.column) :=
    Except.mapM_of_forall fun row member => Row.cell_of_mem (aligned row member) known
  rw [aggregateTerm, columnPosition_of_mem table known]
  simp only [bind, Except.bind, read]
  rfl

private theorem aggregate_aligned (table : String) (aligned : ∀ row ∈ relation.rows, row.length = relation.columns.length)
    (known : ∀ term ∈ terms, term.column ∈ relation.columns) :
    relation.aggregate table terms = (fun cells => ⟨terms.map AggregateTerm.render, [cells]⟩) <$>
      terms.mapM fun term => term.function.apply (presentValues relation.columns relation.rows term.column) := by
  have each := Except.mapM_congr fun term member => aggregateTerm_aligned table aligned (known term member)
  rw [aggregate, each, map_eq_pure_bind]

end Relation

namespace AggregateFunction

private theorem order_int {first second : Int} : ((Value.int first).order (.int second)).isLE ↔ first ≤ second := by
  rw [Value.order, Std.isLE_compare]

private theorem exists_best {numbers : List Int} {wins : Ordering} (decisive : wins = .lt ∨ wins = .gt) (some : numbers ≠ []) :
    ∃ best ∈ numbers, ∀ value ∈ numbers.map .int, Value.Holds wins (.int best) value := by
  obtain ⟨first, others, rfl⟩ := List.exists_cons_of_ne_nil some
  have uniform : ∀ value ∈ (first :: others).map Value.int, value.datatype? = .some .int := by
    intro value member
    obtain ⟨number, _, rfl⟩ := List.mem_map.mp member
    rfl
  obtain ⟨result, member, _, holds⟩ := Value.extremeFrom_uniform "" decisive uniform
  rw [← List.map_cons] at member holds
  obtain ⟨best, inside, rfl⟩ := List.mem_map.mp member
  exact ⟨best, inside, holds⟩

private theorem average_among {values : List Value} {average : Int} (defined : AggregateFunction.avg.Defines values (.ok (.int average))) :
    ∃ least greatest total : Int, AggregateFunction.min.Defines values (.ok (.int least)) ∧
      AggregateFunction.max.Defines values (.ok (.int greatest)) ∧ AggregateFunction.sum.Defines values (.ok (.int total)) ∧
      least ≤ average ∧ average ≤ greatest ∧ (total - average * values.length).natAbs < values.length := by
  cases defined with
  | @avg numbers some fit =>
    have uniform : ∀ value ∈ numbers.map Value.int, value.datatype? = .some .int := by
      intro value member
      obtain ⟨number, _, rfl⟩ := List.mem_map.mp member
      rfl
    obtain ⟨least, leastMember, below⟩ := exists_best (.inl rfl) some
    obtain ⟨greatest, greatestMember, above⟩ := exists_best (.inr rfl) some
    have bounds := average_bounds some (fun number member => order_int.mp (below _ (List.mem_map_of_mem member)))
      (fun number member => order_int.mp (above _ (List.mem_map_of_mem member)))
    rw [List.length_map]
    exact ⟨least, greatest, numbers.sum, .min (List.mem_map_of_mem leastMember) uniform below,
      .max (List.mem_map_of_mem greatestMember) uniform above, .sum some fit, bounds⟩

end AggregateFunction

/-- Aggregates of a column depend on its values that are not NULL alone, and are what is defined of them: each gives
one cell of the only row, and the first that fails gives the error. An average lies between the least and the greatest
value, and less than one for each value is lost by cutting it off. -/
theorem Relation.aggregates_as_defined {relation : Relation} {terms : List AggregateTerm} (table : String)
    (aligned : ∀ row ∈ relation.rows, row.length = relation.columns.length)
    (known : ∀ term ∈ terms, term.column ∈ relation.columns) (countable : relation.rows.length ≤ maxInteger) :
    let values := presentValues relation.columns relation.rows
    (∀ result, relation.aggregate table terms = .ok result ↔
      ∃ cells, result = ⟨terms.map AggregateTerm.render, [cells]⟩ ∧
        List.Forall₂ (fun term cell => term.function.Defines (values term.column) (.ok cell)) terms cells) ∧
    (∀ error, relation.aggregate table terms = .error error ↔
      ∃ before term after, terms = before ++ term :: after ∧
        (∀ earlier ∈ before, ∃ cell, earlier.function.Defines (values earlier.column) (.ok cell)) ∧
        term.function.Defines (values term.column) (.error error)) ∧
    (∀ term ∈ terms, fitsInteger (values term.column).length ∧
      (term.function ≠ .count → (term.function.Defines (values term.column) (.ok .null) ↔ values term.column = []))) ∧
    ∀ name ∈ relation.columns, ∀ heading average,
      relation.aggregate table [⟨.avg, name⟩] = .ok ⟨heading, [[.int average]]⟩ →
      let compared : List AggregateTerm := [⟨.min, name⟩, ⟨.max, name⟩, ⟨.sum, name⟩, ⟨.count, name⟩]
      ∃ (least greatest total : Int) (count : Nat),
        relation.aggregate table compared =
          .ok ⟨compared.map AggregateTerm.render, [[.int least, .int greatest, .int total, .int count]]⟩ ∧
        least ≤ average ∧ average ≤ greatest ∧ (total - average * count).natAbs < count := by
  intro values
  have applied (function : AggregateFunction) (name : String) (outcome : Except Error Value) :
      function.apply (presentValues relation.columns relation.rows name) = outcome ↔ function.Defines (values name) outcome :=
    AggregateFunction.apply_iff present_of_presentValues
  refine ⟨fun result => ?_, fun error => ?_, fun term member => ⟨?_, ?_⟩, fun name member heading average averaged => ?_⟩
  · rw [aggregate_aligned table aligned known, Except.map_eq_ok]
    simp only [Except.mapM_eq_ok, applied]
    exact exists_congr fun cells => by rw [and_comm, eq_comm]
  · rw [aggregate_aligned table aligned known, Except.map_eq_error, Except.mapM_eq_error]
    simp only [applied]
  · have fewer : ((values term.column).length : Int) ≤ relation.rows.length :=
      Int.ofNat_le.mpr (length_presentValues_le relation.columns relation.rows term.column)
    simp only [fitsInteger, Bool.and_eq_true, decide_eq_true_eq]
    exact ⟨Int.le_trans (by decide) (Int.natCast_nonneg _), fewer.trans countable⟩
  · exact AggregateFunction.null_iff present_of_presentValues
  · intro compared
    have only (terms : List AggregateTerm) (same : ∀ term ∈ terms, term.column = name) :
        ∀ term ∈ terms, term.column ∈ relation.columns := fun term inside => same term inside ▸ member
    rw [aggregate_aligned table aligned (only _ (by simp)), Except.map_eq_ok] at averaged
    obtain ⟨cells, computed, same⟩ := averaged
    obtain ⟨_, rfl⟩ : _ ∧ cells = [.int average] := by simpa using same
    cases Except.mapM_eq_ok.mp computed with
    | cons first _ =>
      obtain ⟨least, greatest, total, low, high, exact, bounds⟩ := AggregateFunction.average_among ((applied _ _ _).mp first)
      rw [← applied] at low high exact
      refine ⟨least, greatest, total, (values name).length, ?_, bounds⟩
      rw [aggregate_aligned table aligned (only compared (by simp [compared])), Except.map_eq_ok]
      exact ⟨_, Except.mapM_eq_ok.mpr (.cons low (.cons high (.cons exact (.cons rfl .nil)))), rfl⟩

/-- An average below zero is cut off towards zero, and NULL takes no part. -/
theorem Relation.negative_average_as_defined :
    let relation : Relation := ⟨["A", "B"], [[.int (-7), .text "X"], [.null, .text "A"], [.int 2, .null]]⟩
    let terms : List AggregateTerm := [⟨.avg, "A"⟩, ⟨.min, "B"⟩]
    (∀ row ∈ relation.rows, row.length = relation.columns.length) ∧
      (∀ term ∈ terms, term.column ∈ relation.columns) ∧ relation.rows.length ≤ maxInteger ∧
      relation.aggregate "T" terms = .ok ⟨["AVG(A)", "MIN(B)"], [[.int (-2), .text "A"]]⟩ ∧
      List.Forall₂ (fun term cell =>
        term.function.Defines (presentValues relation.columns relation.rows term.column) (.ok cell))
        terms [.int (-2), .text "A"] := by
  intro relation terms
  have aligned : ∀ row ∈ relation.rows, row.length = relation.columns.length := by decide
  have known : ∀ term ∈ terms, term.column ∈ relation.columns := by decide
  have countable : relation.rows.length ≤ maxInteger := by decide
  have ran : relation.aggregate "T" terms = .ok ⟨["AVG(A)", "MIN(B)"], [[.int (-2), .text "A"]]⟩ := by decide +kernel
  obtain ⟨cells, same, defined⟩ := ((aggregates_as_defined "T" aligned known countable).1 _).mp ran
  obtain rfl : [.int (-2), .text "A"] = cells := by simpa using congrArg Relation.rows same
  exact ⟨aligned, known, countable, ran, defined⟩

end MiniSql
