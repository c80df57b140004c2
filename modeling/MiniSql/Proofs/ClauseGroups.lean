import MiniSql.Proofs.Composition

/-! Commands put together in any way. The sequence is cut in front of each command that is no clause, and it is read as
statements exactly if every piece is a command with clauses that it takes. A SELECT keeps a place for each kind of clause,
so that clauses of different kinds may stand in any order. -/

namespace MiniSql

/-- The clauses in front of the first command that is no clause, and a group for each such command. -/
def Command.split : List Command → List Clause × List Group
  | [] => ([], [])
  | command :: commands =>
    let behind := split commands
    match plain : command.clause? with
    | some part => (part :: behind.1, behind.2)
    | none => ([], ⟨command, behind.1, plain⟩ :: behind.2)

private theorem Command.split_commands (commands : List Command) :
    (split commands).1.map clause ++ (split commands).2.flatMap Group.commands = commands := by
  induction commands with
  | nil => rfl
  | cons command commands ih =>
    simp only [split]
    split
    next part shape =>
      rw [List.map_cons, List.cons_append, ih, clause?_eq_some.mp shape]
    next plain =>
      rw [List.map_nil, List.nil_append, List.flatMap_cons, Group.commands, List.cons_append, ih]

private theorem Command.Group.plain_head (groups : List Group) :
    ∀ command ∈ (groups.flatMap Group.commands).head?, command.clause? = none := by
  cases groups with
  | nil => simp
  | cons group groups =>
    intro command first
    obtain rfl : group.head = command := Option.some.inj first
    exact group.plain

/-- At most one clause of a kind, except that an ORDER BY without keys leaves its place free. -/
structure Clause.FitSelect (clauses : List Clause) : Prop where
  filter : (clauses.map kind).count .filter ≤ 1
  order : clauses.Pairwise fun earlier later => ∀ keys, earlier = .orderBy keys → later.kind = .orderBy → keys = []
  limit : (clauses.map kind).count .limit ≤ 1
  offset : (clauses.map kind).count .offset ≤ 1

/-- The command takes the clauses behind it. -/
def Command.Group.Attached (group : Group) : Prop :=
  match group.head with
  | .select _ => Clause.FitSelect group.clauses
  | .update _ _ => group.clauses.map Clause.kind ∈ [[], [.filter]]
  | .delete _ => group.clauses.map Clause.kind = [.filter]
  | .createTable _ _ | .dropTable _ | .insert _ _ | .clause _ => group.clauses = []

namespace Clause

def condition? : Clause → Option Condition
  | filter condition => some condition
  | _ => none

def keys? : Clause → Option (List SortKey)
  | orderBy keys => some keys
  | _ => none

def limit? : Clause → Option Nat
  | limit count => some count
  | _ => none

def offset? : Clause → Option Nat
  | offset count => some count
  | _ => none

/-- What is read is read from the clauses of this kind. -/
def ReadBy (own : ClauseKind) (read : Clause → Option α) : Prop := ∀ part : Clause, (read part).isSome ↔ part.kind = own

private theorem condition_read : ReadBy .filter condition? := fun part => by cases part <;> simp [condition?, kind]
private theorem keys_read : ReadBy .orderBy keys? := fun part => by cases part <;> simp [keys?, kind]
private theorem limit_read : ReadBy .limit limit? := fun part => by cases part <;> simp [limit?, kind]
private theorem offset_read : ReadBy .offset offset? := fun part => by cases part <;> simp [offset?, kind]

variable {own : ClauseKind} {read : Clause → Option α}

private theorem ReadBy.count (reads : ReadBy own read) (clauses : List Clause) :
    (clauses.map kind).count own = (clauses.filterMap read).length := by
  rw [List.length_filterMap_eq_countP, List.count, List.countP_map]
  apply List.countP_congr
  intro part _
  simp [reads part]

private theorem ReadBy.congr (reads : ReadBy own read) {clauses others : List Clause}
    (same : clauses.filter (·.kind = own) = others.filter (·.kind = own)) : clauses.filterMap read = others.filterMap read := by
  have kept (clauses : List Clause) : (clauses.filter (·.kind = own)).filterMap read = clauses.filterMap read := by
    rw [List.filterMap_filter]
    apply List.filterMap_congr
    intro part _
    have known := reads part
    cases found : read part <;> simp_all
  rw [← kept clauses, same, kept others]

private theorem fitSelect_iff {clauses : List Clause} :
    FitSelect clauses ↔ (clauses.filterMap condition?).length ≤ 1 ∧
      (clauses.filterMap keys?).Pairwise (fun earlier _ => earlier = []) ∧
      (clauses.filterMap limit?).length ≤ 1 ∧ (clauses.filterMap offset?).length ≤ 1 := by
  have order : clauses.Pairwise (fun earlier later => ∀ keys, earlier = .orderBy keys → later.kind = .orderBy → keys = []) ↔
      (clauses.filterMap keys?).Pairwise fun earlier _ => earlier = [] := by
    rw [List.pairwise_filterMap]
    apply List.Pairwise.iff
    intro earlier later
    cases earlier <;> cases later <;> simp [keys?, kind]
  rw [← condition_read.count, ← limit_read.count, ← offset_read.count, ← order]
  constructor
  · rintro ⟨filter, order, limit, offset⟩
    exact ⟨filter, order, limit, offset⟩
  · rintro ⟨filter, order, limit, offset⟩
    exact ⟨filter, order, limit, offset⟩

private theorem perm_parts (clauses : List Clause) :
    clauses.Perm ((clauses.filterMap condition?).map filter ++ (clauses.filterMap keys?).map orderBy ++
      (clauses.filterMap limit?).map limit ++ (clauses.filterMap offset?).map offset) := by
  induction clauses with
  | nil => exact .nil
  | cons part clauses ih =>
    apply (ih.cons part).trans
    cases part with
    | filter condition => exact .refl _
    | orderBy keys =>
      simp only [List.append_assoc]
      exact List.perm_middle.symm
    | limit count =>
      exact List.perm_middle.symm.append_right _
    | offset count => exact List.perm_middle.symm

end Clause

namespace Statement
open Clause

/-- What becomes of a place for one thing when something is put there. -/
def place? (held : Option α) (item : α) : Option (Option α) := if held.isNone then some (some item) else none

def placeKeys? (held keys : List SortKey) : Option (List SortKey) := if held.isEmpty then some keys else none

private theorem foldlM_place {items : List α} {held : Option α} :
    items.foldlM place? none = some held ↔ items.length ≤ 1 ∧ items.head? = held := by
  cases items with
  | nil => simp
  | cons item items => cases items <;> simp [place?]

private theorem foldlM_placeKeys {lists : List (List SortKey)} {keys : List SortKey} :
    lists.foldlM placeKeys? [] = some keys ↔ lists.Pairwise (fun earlier _ => earlier = []) ∧ lists.flatten = keys := by
  induction lists with
  | nil => simp
  | cons first lists ih =>
    rw [List.foldlM_cons, List.pairwise_cons]
    cases first with
    | nil => simpa [placeKeys?] using ih
    | cons key others =>
      cases lists with
      | nil => simp [placeKeys?]
      | cons second lists =>
        have taken : ¬ ∀ later ∈ second :: lists, key :: others = [] := fun all =>
          List.cons_ne_nil key others (all second List.mem_cons_self)
        simp only [taken, false_and, iff_false]
        simp [placeKeys?]

/-- Each kind of clause has a place of its own, so that the clauses of one kind are put there as if there were no others. -/
theorem foldlM_attach (clauses : List Clause) (q : Query) :
    clauses.foldlM attach? (query q) = do
      let filter ← (clauses.filterMap condition?).foldlM place? q.filter
      let order ← (clauses.filterMap keys?).foldlM placeKeys? q.order
      let limit ← (clauses.filterMap limit?).foldlM place? q.limit
      let offset ← (clauses.filterMap offset?).foldlM place? q.offset
      return query ⟨q.select, filter, order, limit, offset⟩ := by
  induction clauses generalizing q with
  | nil => rfl
  | cons part clauses ih =>
    rw [List.foldlM_cons]
    cases part with
    | filter | orderBy | limit | offset =>
      simp only [attach?, List.filterMap_cons, condition?, keys?, limit?, offset?, List.foldlM_cons, place?, placeKeys?]
      split
      · exact ih _
      · simp

/-- A SELECT takes the clauses that fit it, and what they say stands in the places of their kinds. -/
theorem attach_select {select : Select} {clauses : List Clause} {statement : Statement} :
    clauses.foldlM attach? (query ⟨select, none, [], none, none⟩) = some statement ↔
      FitSelect clauses ∧ statement = query ⟨select, (clauses.filterMap condition?).head?, (clauses.filterMap keys?).flatten,
        (clauses.filterMap limit?).head?, (clauses.filterMap offset?).head?⟩ := by
  rw [foldlM_attach, fitSelect_iff]
  simp only [Option.bind_eq_bind, Option.bind_eq_some_iff, foldlM_place, foldlM_placeKeys]
  constructor
  · rintro ⟨_, ⟨filter, rfl⟩, _, ⟨order, rfl⟩, _, ⟨limit, rfl⟩, _, ⟨offset, rfl⟩, same⟩
    exact ⟨⟨filter, order, limit, offset⟩, (Option.some.inj same).symm⟩
  · rintro ⟨⟨filter, order, limit, offset⟩, rfl⟩
    exact ⟨_, ⟨filter, rfl⟩, _, ⟨order, rfl⟩, _, ⟨limit, rfl⟩, _, ⟨offset, rfl⟩, rfl⟩

private theorem toList_head_map {items : List α} (few : items.length ≤ 1) (f : α → Clause) :
    (items.head?.map f).toList = items.map f := by
  cases items with
  | nil => rfl
  | cons item others =>
    obtain rfl : others = [] := by simpa using few
    rfl

private theorem orderPart_flatten {lists : List (List SortKey)} (order : lists.Pairwise fun earlier _ => earlier = []) :
    orderPart lists.flatten = (lists.map Clause.orderBy).filter (· ≠ .orderBy []) := by
  induction lists with
  | nil => rfl
  | cons first lists ih =>
    obtain ⟨vacant, others⟩ := List.pairwise_cons.mp order
    cases first with
    | nil => simpa using ih others
    | cons key keys =>
      cases lists with
      | nil => simp [orderPart]
      | cons second lists => cases vacant second List.mem_cons_self

private theorem filter_vacant {f : α → Clause} (others : ∀ item, (f item).kind ≠ .orderBy) (items : List α) :
    (items.map f).filter (· ≠ .orderBy []) = items.map f := by
  apply List.filter_eq_self.mpr
  intro part member
  obtain ⟨item, _, rfl⟩ := List.mem_map.mp member
  apply decide_eq_true
  intro same
  exact others item (congrArg kind same)

theorem clauses_select {select : Select} {clauses : List Clause} (fit : FitSelect clauses) :
    (query ⟨select, (clauses.filterMap condition?).head?, (clauses.filterMap keys?).flatten,
      (clauses.filterMap limit?).head?, (clauses.filterMap offset?).head?⟩).clauses.Perm
        (clauses.filter (· ≠ .orderBy [])) := by
  obtain ⟨filter, order, limit, offset⟩ := fitSelect_iff.mp fit
  have parts := (perm_parts clauses).filter (· ≠ .orderBy [])
  rw [List.filter_append, List.filter_append, List.filter_append, ← orderPart_flatten order, filter_vacant (by simp [kind]),
    filter_vacant (by simp [kind]), filter_vacant (by simp [kind])] at parts
  simp only [Statement.clauses, filterPart, limitPart, offsetPart, toList_head_map filter, toList_head_map limit,
    toList_head_map offset]
  exact parts.symm

variable {statement extended : Statement} {clauses others : List Clause} {done final : List Statement} {rest : List Command}
  {progress : Progress} {group : Command.Group}

private theorem foldlM_refused (refuses : ∀ part, statement.attach? part = none) :
    clauses.foldlM attach? statement = some extended ↔ clauses = [] ∧ extended = statement := by
  cases clauses with
  | nil => simp [eq_comm]
  | cons part clauses => simp [refuses]

private theorem attach_update {table : String} {assignments : List Assignment}
    (attached : clauses.foldlM attach? (update table assignments none) = some statement) :
    ∃ filter, clauses = filterPart filter ∧ statement = update table assignments filter := by
  cases clauses with
  | nil =>
    cases attached
    exact ⟨none, rfl, rfl⟩
  | cons part clauses =>
    rw [List.foldlM_cons] at attached
    obtain ⟨middle, first, attached⟩ := Option.bind_eq_some_iff.mp attached
    cases part with
    | filter condition =>
      cases first
      obtain ⟨rfl, rfl⟩ := (foldlM_refused fun part => by cases part <;> rfl).mp attached
      exact ⟨some condition, rfl, rfl⟩
    | orderBy | limit | offset => cases first

/-- The statement of a group has the command of the group and its clauses, in the order in which they are written back. -/
structure Carries (group : Command.Group) (statement : Statement) : Prop where
  head : statement.head = group.head
  clauses : statement.clauses.Perm (group.clauses.filter (· ≠ .orderBy []))

private theorem carries_of_refused (refuses : ∀ part, statement.attach? part = none) (bare : statement.clauses = [])
    (attached : group.clauses.foldlM attach? statement = some extended) (head : statement.head = group.head) :
    group.clauses = [] ∧ Carries group extended := by
  obtain ⟨none, rfl⟩ := (foldlM_refused refuses).mp attached
  refine ⟨none, head, ?_⟩
  rw [bare, none]
  exact .nil

private theorem carries_of_read (read : ofGroup? group = some statement) : group.Attached ∧ Carries group statement := by
  obtain ⟨head, clauses, plain⟩ := group
  cases head with
  | clause => cases plain
  | createTable | dropTable | insert => exact carries_of_refused (fun part => by cases part <;> rfl) rfl read rfl
  | select select =>
    obtain ⟨fit, rfl⟩ := attach_select.mp read
    exact ⟨fit, rfl, clauses_select fit⟩
  | update table assignments =>
    obtain ⟨filter, rfl, rfl⟩ := attach_update read
    cases filter <;> exact ⟨by simp [Command.Group.Attached, filterPart, kind], rfl, .refl _⟩
  | delete table =>
    unfold ofGroup? at read
    split at read
    next condition same shape =>
      obtain rfl : clauses = _ := shape
      cases same
      cases read
      exact ⟨rfl, rfl, .refl _⟩
    next => cases read

private theorem read_of_attached (attached : group.Attached) : ∃ statement, ofGroup? group = some statement := by
  obtain ⟨head, clauses, plain⟩ := group
  cases head with
  | clause => cases plain
  | createTable | dropTable | insert =>
    obtain rfl : clauses = [] := attached
    exact ⟨_, rfl⟩
  | select select => exact ⟨_, attach_select.mpr ⟨attached, rfl⟩⟩
  | update table assignments =>
    obtain ⟨filter, rfl⟩ := filterPart_of_kinds attached
    cases filter <;> exact ⟨_, rfl⟩
  | delete table =>
    obtain ⟨part, rfl, own⟩ : ∃ part, clauses = [part] ∧ part.kind = .filter := by
      simpa [Command.Group.Attached, List.map_eq_cons_iff] using attached
    cases part <;> cases own
    exact ⟨_, rfl⟩

private theorem step_clause {part : Clause} (stepped : Progress.step ⟨statement :: done, none⟩ (.clause part) = .ok progress) :
    ∃ extended, statement.attach? part = some extended ∧ progress = ⟨extended :: done, none⟩ := by
  simp only [Progress.step, Progress.attach] at stepped
  split at stepped
  next =>
    split at stepped
    next extended attached =>
      cases stepped
      exact ⟨extended, attached, rfl⟩
    next => cases stepped
  next => cases stepped

private theorem foldlM_clauses_eq_ok :
    (clauses.map Command.clause ++ rest).foldlM Progress.step ⟨statement :: done, none⟩ = .ok progress ↔
      ∃ extended, clauses.foldlM attach? statement = some extended ∧
        rest.foldlM Progress.step ⟨extended :: done, none⟩ = .ok progress := by
  constructor
  · intro read
    induction clauses generalizing statement with
    | nil => exact ⟨statement, rfl, read⟩
    | cons part clauses ih =>
      rw [List.map_cons, List.cons_append, List.foldlM_cons] at read
      obtain ⟨_, stepped, read⟩ := Except.bind_eq_ok.mp read
      obtain ⟨middle, first, rfl⟩ := step_clause stepped
      obtain ⟨extended, attached, behind⟩ := ih read
      refine ⟨extended, ?_, behind⟩
      rw [List.foldlM_cons, first]
      exact attached
  · rintro ⟨extended, attached, behind⟩
    rw [foldlM_clauses attached]
    exact behind

/-- A DELETE that waits for its WHERE is not passed over by a command that is no clause, nor by the end. -/
theorem pending_refused {table : String} (plain : ∀ command ∈ rest.head?, command.clause? = none) :
    rest.foldlM Progress.step ⟨done, some table⟩ ≠ .ok ⟨final, none⟩ := by
  intro read
  cases rest with
  | nil => cases read
  | cons command rest =>
    have none : command.clause? = none := plain command rfl
    cases command with
    | clause => cases none
    | createTable | dropTable | insert | select | update | delete => cases read

private theorem group_of_foldlM (plain : ∀ command ∈ rest.head?, command.clause? = none)
    (read : (group.commands ++ rest).foldlM Progress.step ⟨done, none⟩ = .ok ⟨final, none⟩) :
    ∃ statement, ofGroup? group = some statement ∧
      rest.foldlM Progress.step ⟨statement :: done, none⟩ = .ok ⟨final, none⟩ := by
  obtain ⟨head, clauses, own⟩ := group
  cases head with
  | clause => cases own
  | createTable | dropTable | insert | select | update => exact foldlM_clauses_eq_ok.mp read
  | delete table =>
    cases clauses with
    | nil => exact absurd read (pending_refused plain)
    | cons part clauses =>
      cases part with
      | filter condition =>
        obtain ⟨extended, attached, behind⟩ := foldlM_clauses_eq_ok.mp read
        obtain ⟨rfl, rfl⟩ := (foldlM_refused fun part => by cases part <;> rfl).mp attached
        exact ⟨_, rfl, behind⟩
      | orderBy | limit | offset => cases read

private theorem groups_of_foldlM {groups : List Command.Group}
    (read : (groups.flatMap Command.Group.commands).foldlM Progress.step ⟨done, none⟩ = .ok ⟨final, none⟩) :
    ∃ statements, List.Forall₂ (fun group statement => ofGroup? group = some statement) groups statements ∧
      final = statements.reverse ++ done := by
  induction groups generalizing done with
  | nil =>
    cases read
    exact ⟨[], .nil, rfl⟩
  | cons group groups ih =>
    rw [List.flatMap_cons] at read
    obtain ⟨statement, own, behind⟩ := group_of_foldlM (Command.Group.plain_head groups) read
    obtain ⟨statements, others, rfl⟩ := ih behind
    exact ⟨statement :: statements, .cons own others, by simp⟩

/-- A sequence is read group by group, and there is nothing in front of the first. -/
theorem ofCommands_eq_ok_iff {commands : List Command} {statements : List Statement} :
    ofCommands commands = .ok statements ↔ (Command.split commands).1 = [] ∧
      List.Forall₂ (fun group statement => ofGroup? group = some statement) (Command.split commands).2 statements := by
  have cut := Command.split_commands commands
  constructor
  · intro read
    rw [ofCommands_eq_ok, ← cut] at read
    cases front : (Command.split commands).1 with
    | nil =>
      rw [front] at read
      obtain ⟨others, each, same⟩ := groups_of_foldlM read
      rw [List.append_nil, List.reverse_inj] at same
      exact ⟨rfl, same ▸ each⟩
    | cons part clauses =>
      rw [front] at read
      cases read
  · rintro ⟨front, each⟩
    rw [← cut, front]
    exact ofCommands_groups each

/-- It is the order within each kind that counts. -/
theorem foldlM_congr_kinds (same : ∀ own, clauses.filter (·.kind = own) = others.filter (·.kind = own)) (q : Query) :
    clauses.foldlM attach? (query q) = others.foldlM attach? (query q) := by
  rw [foldlM_attach, foldlM_attach, condition_read.congr (same _), keys_read.congr (same _), limit_read.congr (same _),
    offset_read.congr (same _)]

theorem ofCommands_reordered {front : List Command} {select : Select} {statements : List Statement}
    (same : ∀ own, clauses.filter (·.kind = own) = others.filter (·.kind = own))
    (read : ofCommands (front ++ .select select :: (clauses.map .clause ++ rest)) = .ok statements) :
    ofCommands (front ++ .select select :: (others.map .clause ++ rest)) = .ok statements := by
  rw [ofCommands_eq_ok, List.foldlM_append] at read ⊢
  obtain ⟨⟨done, pending⟩, before, read⟩ := Except.bind_eq_ok.mp read
  rw [before]
  cases pending with
  | some table => cases read
  | none =>
    obtain ⟨extended, attached, behind⟩ := foldlM_clauses_eq_ok.mp read
    exact foldlM_clauses_eq_ok.mpr ⟨extended, foldlM_congr_kinds same _ ▸ attached, behind⟩

private theorem groups_of_attached {groups : List Command.Group} (attached : ∀ group ∈ groups, group.Attached) :
    ∃ statements, List.Forall₂ (fun group statement => ofGroup? group = some statement) groups statements := by
  induction groups with
  | nil => exact ⟨[], .nil⟩
  | cons group groups ih =>
    obtain ⟨own, others⟩ := List.forall_mem_cons.mp attached
    obtain ⟨statement, read⟩ := read_of_attached own
    obtain ⟨statements, each⟩ := ih others
    exact ⟨statement :: statements, .cons read each⟩

/-- A sequence of commands, put together in any way, is read as statements exactly if it starts with no clause and every
command has clauses behind it that it takes. There is then one statement for each command that is no clause, in order, with
that command's data and exactly the clauses of its group, an ORDER BY without keys apart. Clauses of different kinds behind a
SELECT may change places. -/
theorem accepts_attached_groups :
    (∀ commands : List Command,
      ((∃ statements, ofCommands commands = .ok statements) ↔
        (Command.split commands).1 = [] ∧ ∀ group ∈ (Command.split commands).2, group.Attached) ∧
      ∀ statements, ofCommands commands = .ok statements → List.Forall₂ Carries (Command.split commands).2 statements) ∧
    ∀ (front rest : List Command) (select : Select) (clauses others : List Clause) (statements : List Statement),
      (∀ own, clauses.filter (·.kind = own) = others.filter (·.kind = own)) →
      (ofCommands (front ++ .select select :: (clauses.map .clause ++ rest)) = .ok statements ↔
        ofCommands (front ++ .select select :: (others.map .clause ++ rest)) = .ok statements) := by
  have kept {commands : List Command} {statements : List Statement} (read : ofCommands commands = .ok statements) :
      (Command.split commands).1 = [] ∧ (∀ group ∈ (Command.split commands).2, group.Attached) ∧
        List.Forall₂ Carries (Command.split commands).2 statements := by
    obtain ⟨front, each⟩ := ofCommands_eq_ok_iff.mp read
    exact ⟨front, (List.forall₂_and_left _ _).mp (each.imp fun group statement own => carries_of_read own)⟩
  constructor
  · intro commands
    refine ⟨⟨?_, ?_⟩, fun statements read => (kept read).2.2⟩
    · rintro ⟨statements, read⟩
      exact ⟨(kept read).1, (kept read).2.1⟩
    · rintro ⟨front, attached⟩
      obtain ⟨statements, each⟩ := groups_of_attached attached
      exact ⟨statements, ofCommands_eq_ok_iff.mpr ⟨front, each⟩⟩
  · intro front rest select clauses others statements same
    exact ⟨ofCommands_reordered same, ofCommands_reordered fun own => (same own).symm⟩

/-- A SELECT has its clauses in an unusual order, and an ORDER BY without keys among them. -/
theorem accepts_scattered_clauses :
    let select : Select := ⟨"T", .all, false, none⟩
    let clauses : List Clause := [.offset 1, .orderBy [], .limit 2, .orderBy [⟨"A", .ascending⟩], .filter (.constant true)]
    let others : List Clause := [.filter (.constant true), .orderBy [], .orderBy [⟨"A", .ascending⟩], .limit 2, .offset 1]
    let rest : List Command := [.delete "T", .clause (.filter (.constant false)), .update "T" [], .dropTable "T"]
    let commands := [.dropTable "U"] ++ .select select :: (clauses.map .clause ++ rest)
    let statements : List Statement := [.dropTable "U", .query ⟨select, some (.constant true), [⟨"A", .ascending⟩], some 2, some 1⟩,
      .delete "T" (.constant false), .update "T" [] none, .dropTable "T"]
    (∀ own, clauses.filter (·.kind = own) = others.filter (·.kind = own)) ∧ ofCommands commands = .ok statements ∧
      List.Forall₂ Carries (Command.split commands).2 statements ∧
      ofCommands ([.dropTable "U"] ++ .select select :: (others.map .clause ++ rest)) = .ok statements := by
  intro select clauses others rest commands statements
  have same : ∀ own, clauses.filter (·.kind = own) = others.filter (·.kind = own) := by
    intro own
    cases own <;> rfl
  have read : ofCommands commands = .ok statements := rfl
  exact ⟨same, read, (accepts_attached_groups.1 commands).2 statements read,
    (accepts_attached_groups.2 _ rest select clauses others statements same).mp read⟩

end Statement

end MiniSql
