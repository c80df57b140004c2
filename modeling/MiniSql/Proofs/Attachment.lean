import MiniSql.Proofs.RoundTrip
import MiniSql.Statement

/-! Statements and the commands they were put together from. A statement is written back as its command with
its clauses behind it. The clauses of parsed commands all find their statement: what the parser lets stand
behind a command is what that command's statement takes. -/

namespace MiniSql

/-- LIMIT moved in front of an OFFSET that it directly follows. -/
def Clause.limitFirst : List Clause → List Clause
  | .offset skipped :: .limit count :: clauses => .limit count :: .offset skipped :: limitFirst clauses
  | part :: clauses => part :: limitFirst clauses
  | [] => []

/-- A command that is no clause, and the clauses directly behind it. -/
@[ext]
structure Command.Group where
  head : Command
  clauses : List Clause
  plain : head.clause? = none

namespace Command.Group

def commands (group : Group) : List Command := group.head :: group.clauses.map clause

def limitFirst (group : Group) : Group := { group with clauses := Clause.limitFirst group.clauses }

private theorem heads_commands (groups : List Group) :
    (groups.flatMap commands).filter (fun command => command.clause?.isNone) = groups.map head := by
  induction groups with
  | nil => rfl
  | cons group groups ih =>
    have own : (group.clauses.map clause).filter (fun command => command.clause?.isNone) = [] := by
      simp [List.filter_eq_nil_iff, clause?]
    rw [List.flatMap_cons, List.filter_append, ih, commands, List.filter_cons_of_pos (by simp [group.plain]), own]
    rfl

end Command.Group

namespace Clause

def filterPart (filter : Option Condition) : List Clause := (filter.map .filter).toList

def orderPart (keys : List SortKey) : List Clause := if keys.isEmpty then [] else [.orderBy keys]

def limitPart (count : Option Nat) : List Clause := (count.map .limit).toList

def offsetPart (count : Option Nat) : List Clause := (count.map .offset).toList

end Clause

namespace Statement

def head : Statement → Command
  | createTable table columns => .createTable table columns
  | dropTable table => .dropTable table
  | insert table values => .insert table values
  | query q => .select q.select
  | update table assignments _ => .update table assignments
  | delete table _ => .delete table

/-- The clauses a statement has: WHERE, ORDER BY, LIMIT and OFFSET, in this order. -/
def clauses : Statement → List Clause
  | query q =>
    Clause.filterPart q.filter ++ Clause.orderPart q.order ++ Clause.limitPart q.limit ++ Clause.offsetPart q.offset
  | update _ _ filter => Clause.filterPart filter
  | delete _ filter => [.filter filter]
  | _ => []

/-- The statement written back. -/
def group (statement : Statement) : Command.Group := ⟨statement.head, statement.clauses, by cases statement <;> rfl⟩

def opened? : Command → Option Statement
  | .createTable table columns => some (createTable table columns)
  | .dropTable table => some (dropTable table)
  | .insert table values => some (insert table values)
  | .select select => some (query ⟨select, none, [], none, none⟩)
  | .update table assignments => some (update table assignments none)
  | _ => none

/-- The statement of a group, if all its clauses can be attached. -/
def ofGroup? (group : Command.Group) : Option Statement :=
  match group.head, group.clauses with
  | .delete table, [.filter condition] => some (delete table condition)
  | head, clauses => opened? head >>= fun statement => clauses.foldlM attach? statement

variable {statement extended : Statement} {done : List Statement} {rest : List Command}

private theorem takesClauses_of_attach {part : Clause} (attached : statement.attach? part = some extended) :
    statement.takesClauses := by
  cases statement <;> first | rfl | cases attached

private theorem step_attach {part : Clause} (attached : statement.attach? part = some extended) :
    Progress.step ⟨statement :: done, none⟩ (.clause part) = .ok ⟨extended :: done, none⟩ := by
  simp only [Progress.step, Progress.attach, takesClauses_of_attach attached, attached, if_true]

theorem foldlM_clauses {clauses : List Clause} (attached : clauses.foldlM attach? statement = some extended) :
    (clauses.map Command.clause ++ rest).foldlM Progress.step ⟨statement :: done, none⟩ =
      rest.foldlM Progress.step ⟨extended :: done, none⟩ := by
  induction clauses generalizing statement with
  | nil =>
    cases attached
    rfl
  | cons part clauses ih =>
    rw [List.foldlM_cons] at attached
    obtain ⟨middle, first, others⟩ := Option.bind_eq_some_iff.mp attached
    rw [List.map_cons, List.cons_append, List.foldlM_cons, step_attach first]
    exact ih others

private theorem step_opened {command : Command} (opens : opened? command = some statement) :
    Progress.step ⟨done, none⟩ command = .ok ⟨statement :: done, none⟩ := by
  cases command <;> cases opens <;> rfl

private theorem foldlM_group {group : Command.Group} (read : ofGroup? group = some statement) :
    (group.commands ++ rest).foldlM Progress.step ⟨done, none⟩ = rest.foldlM Progress.step ⟨statement :: done, none⟩ := by
  unfold ofGroup? at read
  unfold Command.Group.commands
  split at read
  next table condition head clauses =>
    cases read
    rw [head, clauses]
    rfl
  next =>
    obtain ⟨first, opens, attached⟩ := Option.bind_eq_some_iff.mp read
    rw [List.cons_append, List.foldlM_cons, step_opened opens]
    exact foldlM_clauses attached

theorem ofCommands_groups {groups : List Command.Group} {statements : List Statement}
    (read : List.Forall₂ (fun group statement => ofGroup? group = some statement) groups statements) :
    ofCommands (groups.flatMap Command.Group.commands) = .ok statements := by
  suffices behind : ∀ done, (groups.flatMap Command.Group.commands).foldlM Progress.step ⟨done, none⟩ =
      .ok ⟨statements.reverse ++ done, none⟩ by
    rw [ofCommands, Progress.start, behind]
    simp [bind, Except.bind, Progress.finish]
  induction read with
  | nil => exact fun done => rfl
  | cons first _ ih =>
    intro done
    rw [List.flatMap_cons, foldlM_group first, ih]
    simp

end Statement

namespace Clause
variable {clauses : List Clause}

theorem none_or_one {only : ClauseKind} (kinds : clauses.map kind ∈ [[], [only]]) :
    clauses = [] ∨ ∃ part, clauses = [part] ∧ part.kind = only := by
  match clauses with
  | [] => exact .inl rfl
  | [part] => exact .inr ⟨part, rfl, by simpa using kinds⟩
  | _ :: _ :: _ => simp at kinds

theorem filterPart_of_kinds (kinds : clauses.map kind ∈ [[], [.filter]]) : ∃ filter, clauses = filterPart filter := by
  obtain rfl | ⟨part, rfl, same⟩ := none_or_one kinds
  · exact ⟨none, rfl⟩
  · cases part <;> cases same
    exact ⟨some _, rfl⟩

/-- An ORDER BY that was read has a key, so it is not taken for a missing one. -/
theorem orderPart_of_kinds (kinds : clauses.map kind ∈ [[], [.orderBy]]) (formed : ∀ part ∈ clauses, part.Formed) :
    ∃ keys, clauses = orderPart keys := by
  obtain rfl | ⟨part, rfl, same⟩ := none_or_one kinds
  · exact ⟨[], rfl⟩
  · cases part <;> cases same
    next keys =>
      have filled : keys ≠ [] := (formed _ (List.mem_singleton.mpr rfl)).1
      exact ⟨keys, by simp [orderPart, filled]⟩

private theorem limitPart_of_kinds (kinds : clauses.map kind ∈ [[], [.limit]]) : ∃ count, clauses = limitPart count := by
  obtain rfl | ⟨part, rfl, same⟩ := none_or_one kinds
  · exact ⟨none, rfl⟩
  · cases part <;> cases same
    exact ⟨some _, rfl⟩

private theorem offsetPart_of_kinds (kinds : clauses.map kind ∈ [[], [.offset]]) : ∃ count, clauses = offsetPart count := by
  obtain rfl | ⟨part, rfl, same⟩ := none_or_one kinds
  · exact ⟨none, rfl⟩
  · cases part <;> cases same
    exact ⟨some _, rfl⟩

private theorem windowParts_of_kinds (kinds : clauses.map kind ∈ Command.windows) :
    ∃ limit offset, clauses = limitPart limit ++ offsetPart offset ∨ clauses = offsetPart offset ++ limitPart limit := by
  rcases Command.mem_windows.mp kinds with empty | ⟨_, others, same⟩ | ⟨_, others, same⟩
  · exact ⟨none, none, .inl (List.map_eq_nil_iff.mp empty)⟩
  · obtain ⟨part, behind, rfl, first, rfl⟩ := List.map_eq_cons_iff.mp same
    obtain ⟨skipped, rfl⟩ := offsetPart_of_kinds others
    cases part <;> cases first
    exact ⟨some _, skipped, .inl rfl⟩
  · obtain ⟨part, behind, rfl, first, rfl⟩ := List.map_eq_cons_iff.mp same
    obtain ⟨count, rfl⟩ := limitPart_of_kinds others
    cases part <;> cases first
    exact ⟨count, some _, .inr rfl⟩

private theorem limitFirst_append {front : List Clause} (others : ∀ part ∈ front, part.kind ≠ .offset) (clauses : List Clause) :
    limitFirst (front ++ clauses) = front ++ limitFirst clauses := by
  induction front with
  | nil => rfl
  | cons part front ih =>
    obtain ⟨own, more⟩ := List.forall_mem_cons.mp others
    rw [List.cons_append, List.cons_append, ← ih more]
    cases part <;> first | rfl | exact absurd rfl own

private theorem limitFirst_window {limit offset : Option Nat}
    (window : clauses = limitPart limit ++ offsetPart offset ∨ clauses = offsetPart offset ++ limitPart limit) :
    limitFirst clauses = limitPart limit ++ offsetPart offset := by
  rcases window with rfl | rfl <;> cases limit <;> cases offset <;> rfl

end Clause

namespace Statement
open Clause

variable {select : Select}

private theorem attach_filterPart (filter : Option Condition) :
    (filterPart filter).foldlM attach? (query ⟨select, none, [], none, none⟩) =
      some (query ⟨select, filter, [], none, none⟩) := by
  cases filter <;> rfl

private theorem attach_orderPart (filter : Option Condition) (keys : List SortKey) :
    (orderPart keys).foldlM attach? (query ⟨select, filter, [], none, none⟩) =
      some (query ⟨select, filter, keys, none, none⟩) := by
  cases keys <;> rfl

private theorem attach_windowParts {filter : Option Condition} {keys : List SortKey} {limit offset : Option Nat} {window : List Clause}
    (parts : window = limitPart limit ++ offsetPart offset ∨ window = offsetPart offset ++ limitPart limit) :
    window.foldlM attach? (query ⟨select, filter, keys, none, none⟩) =
      some (query ⟨select, filter, keys, limit, offset⟩) := by
  rcases parts with rfl | rfl <;> cases limit <;> cases offset <;> rfl

/-- A chain of clauses behind a SELECT is taken whole, with LIMIT and OFFSET in either order. -/
theorem query_of_chain {clauses : List Clause} (chain : clauses.map kind ∈ Command.selectChains)
    (formed : ∀ part ∈ clauses, part.Formed) :
    ∃ statement, clauses.foldlM attach? (query ⟨select, none, [], none, none⟩) = some statement ∧
      statement.head = .select select ∧ statement.clauses = limitFirst clauses := by
  obtain ⟨_, filterKinds, _, orderKinds, _, windowKinds, same⟩ := Command.mem_selectChains.mp chain
  obtain ⟨front, window, rfl, both, rfl⟩ := List.map_eq_append_iff.mp same
  obtain ⟨first, second, rfl, rfl, rfl⟩ := List.map_eq_append_iff.mp both
  obtain ⟨filter, rfl⟩ := filterPart_of_kinds filterKinds
  obtain ⟨keys, rfl⟩ := orderPart_of_kinds orderKinds fun part member => formed part (by simp [member])
  obtain ⟨limit, offset, parts⟩ := windowParts_of_kinds windowKinds
  refine ⟨query ⟨select, filter, keys, limit, offset⟩, ?_, rfl, ?_⟩
  · rw [List.foldlM_append, List.foldlM_append, attach_filterPart]
    simp only [Option.bind_eq_bind, Option.bind_some, attach_orderPart]
    exact attach_windowParts parts
  · have others : ∀ part ∈ filterPart filter ++ orderPart keys, part.kind ≠ .offset := by
      cases filter <;> cases keys <;> simp [filterPart, orderPart, kind]
    rw [limitFirst_append others, limitFirst_window parts]
    simp only [Statement.clauses, List.append_assoc]

/-- Whatever the parser lets stand behind a command can be read with it. -/
theorem ofGroup_of_chain {group : Command.Group} (chain : group.clauses.map kind ∈ group.head.chains)
    (formed : ∀ part ∈ group.clauses, part.Formed) :
    ∃ statement, ofGroup? group = some statement ∧ statement.group = group.limitFirst := by
  suffices read : ∃ statement, ofGroup? group = some statement ∧ statement.head = group.head ∧
      statement.clauses = limitFirst group.clauses by
    obtain ⟨statement, read, head, clauses⟩ := read
    exact ⟨statement, read, Command.Group.ext head clauses⟩
  obtain ⟨head, clauses, plain⟩ := group
  cases head with
  | clause => cases chain
  | createTable | dropTable | insert =>
    obtain rfl := List.map_eq_nil_iff.mp (List.mem_singleton.mp chain)
    exact ⟨_, rfl, rfl, rfl⟩
  | select select => exact query_of_chain chain formed
  | update table assignments =>
    obtain ⟨filter, rfl⟩ := filterPart_of_kinds chain
    cases filter <;> exact ⟨_, rfl, rfl, rfl⟩
  | delete table =>
    obtain ⟨part, rfl, same⟩ : ∃ part, clauses = [part] ∧ part.kind = .filter := by
      simpa [Command.chains, List.map_eq_cons_iff] using chain
    cases part <;> cases same
    exact ⟨_, rfl, rfl, rfl⟩

theorem groups_of_chained {commands : List Command} (chained : Command.Chained commands)
    (formed : ∀ command ∈ commands, command.Formed) :
    ∃ (groups : List Command.Group) (statements : List Statement), commands = groups.flatMap Command.Group.commands ∧
      List.Forall₂ (fun group statement => ofGroup? group = some statement) groups statements ∧
      statements.map group = groups.map Command.Group.limitFirst := by
  induction chained with
  | nil => exact ⟨[], [], rfl, .nil, rfl⟩
  | @cons rest head clauses chain _ ih =>
    obtain ⟨groups, statements, rfl, read, written⟩ := ih fun command member => formed command (by simp [member])
    let first : Command.Group := ⟨head, clauses, Command.plain_of_chain chain⟩
    obtain ⟨statement, own, same⟩ : ∃ statement, ofGroup? first = some statement ∧ statement.group = first.limitFirst :=
      ofGroup_of_chain chain fun part member => formed (.clause part) (by simp [first] at member; simp [member])
    exact ⟨first :: groups, statement :: statements, rfl, .cons own read, by simp [same, written]⟩

/-- A parsed sequence falls into groups of one command and the clauses behind it, and is read as one statement for
each group, in order: the statement of that command with those clauses and no others, a LIMIT being put in front
of an OFFSET. -/
theorem parsed_as_statements {text : String} {commands : List Command} (parsed : Command.parse text = .ok commands) :
    ∃ statements, ofCommands commands = .ok statements ∧
      statements.map head = commands.filter (fun command => command.clause?.isNone) ∧
      ∃ groups : List Command.Group, commands = groups.flatMap Command.Group.commands ∧
        statements.map group = groups.map Command.Group.limitFirst := by
  have wellFormed := Command.parse_wellFormed parsed
  obtain ⟨groups, statements, rfl, read, written⟩ := groups_of_chained wellFormed.chained wellFormed.formed
  refine ⟨statements, ofCommands_groups read, ?_, groups, rfl, written⟩
  have heads := congrArg (List.map Command.Group.head) written
  simp only [List.map_map, Function.comp_def] at heads
  rw [Command.Group.heads_commands]
  exact heads

theorem offset_before_limit_as_statements :
    let commands : List Command :=
      [.select ⟨"T", .all, false, none⟩, .clause (.filter (.constant true)), .clause (.offset 1), .clause (.limit 2),
        .delete "T", .clause (.filter (.constant false))]
    Command.parse "SELECT * FROM t; WHERE true; OFFSET 1 LIMIT 2; DELETE FROM t WHERE false;" = .ok commands ∧
      ∃ statements, ofCommands commands = .ok statements ∧
        statements.map head = commands.filter (fun command => command.clause?.isNone) ∧
        ∃ groups : List Command.Group, commands = groups.flatMap Command.Group.commands ∧
          statements.map group = groups.map Command.Group.limitFirst := by
  intro commands
  have parsed : Command.parse "SELECT * FROM t; WHERE true; OFFSET 1 LIMIT 2; DELETE FROM t WHERE false;" = .ok commands := by
    decide +kernel
  exact ⟨parsed, parsed_as_statements parsed⟩

end Statement
end MiniSql
