import Mathlib.Data.List.Basic
import MiniSql.Command.Position

/-! Which clauses may stand behind which command. The parser checks each clause against the commands
before it; told as a whole, a sequence is commands with one of a few lists of clauses behind each. -/

namespace MiniSql

namespace Command

def windows : List (List ClauseKind) := [[], [.limit], [.limit, .offset], [.offset], [.offset, .limit]]

def selectChains : List (List ClauseKind) := do
  let filter ← [[], [.filter]]
  let order ← [[], [.orderBy]]
  let window ← windows
  return filter ++ order ++ window

theorem mem_windows {kinds : List ClauseKind} : kinds ∈ windows ↔
    kinds = [] ∨ (∃ offset ∈ [[], [.offset]], kinds = .limit :: offset) ∨ ∃ limit ∈ [[], [.limit]], kinds = .offset :: limit := by
  simp [windows, or_assoc]

theorem mem_selectChains {kinds : List ClauseKind} : kinds ∈ selectChains ↔
    ∃ filter ∈ [[], [.filter]], ∃ order ∈ [[], [.orderBy]], ∃ window ∈ windows, kinds = filter ++ order ++ window := by
  simp [selectChains, or_assoc]

/-- The kinds of clauses that may stand behind a command. No clause stands alone. -/
def chains : Command → List (List ClauseKind)
  | select _ => selectChains
  | update _ _ => [[], [.filter]]
  | delete _ => [[.filter]]
  | clause _ => []
  | _ => [[]]

def endsAtClause : Command → Bool
  | createTable _ _ | dropTable _ | insert _ _ => false
  | select _ | update _ _ | delete _ | clause _ => true

inductive Chained : List Command → Prop where
  | nil : Chained []
  | cons {head : Command} {clauses : List Clause} (chain : clauses.map Clause.kind ∈ head.chains) (others : Chained rest) :
      Chained (head :: clauses.map clause ++ rest)

theorem Chained.append {commands others : List Command} (chained : Chained commands) (behind : Chained others) :
    Chained (commands ++ others) := by
  induction chained with
  | nil => exact behind
  | cons chain _ ih =>
    rw [List.append_assoc]
    exact .cons chain ih

theorem Chained.split {earlier later : List Command} (chained : Chained (earlier ++ later))
    (plain : ∀ command ∈ later.head?, command.clause? = none) : Chained earlier ∧ Chained later := by
  generalize whole : earlier ++ later = commands at chained
  induction chained generalizing earlier with
  | nil =>
    obtain ⟨rfl, rfl⟩ := List.append_eq_nil_iff.mp whole
    exact ⟨.nil, .nil⟩
  | @cons rest head clauses chain others ih =>
    cases earlier with
    | nil =>
      obtain rfl := whole
      exact ⟨.nil, .cons chain others⟩
    | cons first earlier =>
      obtain ⟨rfl, behind⟩ := List.cons.inj whole
      rcases List.append_eq_append_iff.mp behind with ⟨between, inside, parts⟩ | ⟨between, rfl, parts⟩
      · cases between with
        | nil =>
          obtain rfl : earlier = clauses.map clause := by simpa using inside.symm
          have whole : [] ++ later = rest := by simpa using parts
          obtain ⟨_, own⟩ := ih whole
          exact ⟨by simpa using Chained.cons chain .nil, own⟩
        | cons command between =>
          -- A clause of the chain would stand at the place.
          have member : command ∈ clauses.map clause := by simp [inside]
          obtain ⟨part, _, rfl⟩ := List.mem_map.mp member
          have opening := plain (clause part) (by simp [parts])
          cases opening
      · obtain ⟨front, own⟩ := ih parts.symm
        exact ⟨.cons chain front, own⟩

/-- A command may stand where it is; only clauses depend on the commands before them. -/
def Placed (command : Command) (before : List Command) : Prop :=
  ∀ part, command = clause part → part.kind.checkPosition before = .ok ()

/-- Every command is in its place behind those before it, which are given latest first. -/
inductive Ordered : List Command → List Command → Prop where
  | nil (ended : checkDelete before none = .ok ()) : Ordered before []
  | cons (placed : next.Placed before) (follows : checkDelete before (some next) = .ok ())
      (others : Ordered (next :: before) rest) : Ordered before (next :: rest)

/-- Commands read so far, latest first, when the last that is no clause has some clauses behind it. -/
def trail (head : Command) (clauses : List Clause) (older : List Command) : List Command :=
  (clauses.map clause).reverse ++ head :: older

private theorem trail_snoc (head : Command) (clauses : List Clause) (part : Clause) (older : List Command) :
    clause part :: trail head clauses older = trail head (clauses ++ [part]) older := by
  simp [trail]

/-- Whether a kind of clause may stand behind a command and the clauses it has. -/
def allows (head : Command) (earlier : List ClauseKind) (kind : ClauseKind) : Bool :=
  match head with
  | select _ => kind.allowed true earlier.reverse
  | update _ _ => kind.allowed false earlier.reverse
  | delete _ => kind.allowed false earlier.reverse
  | _ => false

variable {head : Command} {clauses : List Clause} {older : List Command}

private theorem checkPosition_trail (plain : head.clause? = none) (kind : ClauseKind) :
    kind.checkPosition (trail head clauses older) = .ok () ↔ head.allows (clauses.map Clause.kind) kind := by
  have parts : ∀ command ∈ (clauses.map clause).reverse, command.clause?.isSome := by
    intro command member
    obtain ⟨part, _, rfl⟩ := List.mem_map.mp (List.mem_reverse.mp member)
    rfl
  have earlier : ((clauses.map clause).reverse.filterMap clause?).map Clause.kind = (clauses.map Clause.kind).reverse := by
    simp [← List.map_reverse, List.filterMap_map, Function.comp_def, clause?]
  have taken : (trail head clauses older).takeWhile (fun command => command.clause?.isSome) = (clauses.map clause).reverse := by
    rw [trail, List.takeWhile_append_of_pos parts]
    simp [plain]
  have dropped : (trail head clauses older).dropWhile (fun command => command.clause?.isSome) = head :: older := by
    rw [trail, List.dropWhile_append_of_pos parts]
    simp [plain]
  simp only [ClauseKind.checkPosition, taken, dropped, earlier]
  cases head <;> simp [allows]

private theorem checkDelete_trail (next : Option Command) (settled : clauses.map Clause.kind ∈ head.chains) :
    checkDelete (trail head clauses older) next = .ok () := by
  obtain rfl | ⟨front, part, rfl⟩ := List.eq_nil_or_concat' clauses
  · cases head with
    | delete => simp [chains] at settled
    | clause => simp [chains] at settled
    | createTable | dropTable | insert | select | update => rfl
  · rw [← trail_snoc]
    rfl

private theorem allowed_false {kind : ClauseKind} {earlier : List ClauseKind} :
    kind.allowed false earlier ↔ kind = .filter ∧ earlier = [] := by
  cases kind <;> simp [ClauseKind.allowed]

private theorem checkDelete_clause {part : Clause} (allowed : head.allows (clauses.map Clause.kind) part.kind) :
    checkDelete (trail head clauses older) (some (clause part)) = .ok () := by
  obtain rfl | ⟨front, last, rfl⟩ := List.eq_nil_or_concat' clauses
  · cases head with
    | delete =>
      obtain ⟨same, _⟩ := allowed_false.mp allowed
      cases part with
      | filter => rfl
      | orderBy | limit | offset => cases same
    | createTable | dropTable | insert | select | update | clause => rfl
  · rw [← trail_snoc]
    rfl

theorem plain_of_chain {head : Command} {chain : List ClauseKind} (member : chain ∈ head.chains) : head.clause? = none := by
  cases head with
  | clause => cases member
  | createTable | dropTable | insert | select | update | delete => rfl

theorem Chained.plain_head {commands : List Command} (chained : Chained commands) :
    ∀ command ∈ commands.head?, command.clause? = none := by
  cases chained with
  | nil => exact fun _ head => nomatch head
  | cons chain =>
    intro command head
    cases head
    exact plain_of_chain chain

theorem Chained.around {commands earlier later : List Command} {part : Clause} (chained : Chained commands)
    (whole : commands = earlier ++ clause part :: later) :
    ∃ before head front back rest, earlier = before ++ head :: front.map clause ∧ later = back.map clause ++ rest ∧
      (front ++ part :: back).map Clause.kind ∈ head.chains ∧ Chained before ∧ Chained rest := by
  induction chained generalizing earlier with
  | nil => simp at whole
  | @cons rest head clauses chain others ih =>
    cases earlier with
    | nil =>
      obtain ⟨rfl, _⟩ := List.cons.inj whole
      cases chain
    | cons command earlier =>
      obtain ⟨rfl, behind⟩ := List.cons.inj whole
      have first : Chained (head :: clauses.map clause) := by simpa using Chained.cons chain .nil
      rcases List.append_eq_append_iff.mp behind with ⟨between, rfl, own⟩ | ⟨between, inside, own⟩
      · obtain ⟨before, other, front, back, rest, rfl, rfl, kinds, older, younger⟩ := ih own
        exact ⟨head :: clauses.map clause ++ before, other, front, back, rest, by simp, rfl, kinds, first.append older, younger⟩
      · cases between with
        | nil => cases others.plain_head (clause part) (by rw [← show _ = rest from own]; rfl)
        | cons _ between =>
          obtain ⟨rfl, rfl⟩ := List.cons.inj own
          obtain ⟨front, parts, rfl, rfl, shape⟩ := List.map_eq_append_iff.mp inside
          obtain ⟨_, back, rfl, same, rfl⟩ := List.map_eq_cons_iff.mp shape
          cases same
          exact ⟨[], head, front, back, rest, rfl, rfl, chain, .nil, others⟩

theorem Chained.in_front {earlier later : List Command} {part : Clause} (chained : Chained (earlier ++ clause part :: later)) :
    ∃ older last, earlier = older ++ [last] ∧ last.endsAtClause = true := by
  obtain ⟨before, head, front, back, rest, rfl, _, chain, _⟩ := chained.around rfl
  obtain rfl | ⟨front, other, rfl⟩ := List.eq_nil_or_concat' front
  · refine ⟨before, head, rfl, ?_⟩
    cases head <;> first | rfl | simp [chains] at chain
  · exact ⟨before ++ head :: front.map clause, clause other, by simp, rfl⟩

/-- A list of clauses that is complete so far, or the DELETE that waits for its WHERE. -/
def Open (head : Command) (kinds : List ClauseKind) : Prop :=
  kinds ∈ head.chains ∨ (∃ table, head = delete table) ∧ kinds = []

private theorem open_nil (plain : head.clause? = none) : Open head [] := by
  cases head with
  | clause => cases plain
  | delete table => exact .inr ⟨⟨table, rfl⟩, rfl⟩
  | select => exact .inl (by decide : [] ∈ selectChains)
  | createTable | dropTable | insert | update => exact .inl (by simp [chains])

private theorem selectChains_snoc (kind : ClauseKind) :
    ∀ chain ∈ selectChains, kind.allowed true chain.reverse → chain ++ [kind] ∈ selectChains := by
  cases kind <;> decide

private theorem selectChains_prefix : ∀ chain ∈ selectChains, ∀ index : Fin chain.length,
    chain[index].allowed true (chain.take index).reverse := by decide

/-- LIMIT and OFFSET, or OFFSET and LIMIT. -/
inductive Swaps : ClauseKind → ClauseKind → Prop where
  | limit : Swaps .limit .offset
  | offset : Swaps .offset .limit

theorem Swaps.ne {first second : ClauseKind} (swaps : Swaps first second) : first ≠ second := by
  cases swaps <;> nofun

private theorem selectChains_swap {first second : ClauseKind} (swaps : Swaps first second) :
    ∀ chain ∈ selectChains, ∀ index : Fin chain.length,
      chain.drop index = first :: second :: chain.drop (index + 2) →
        chain.take index ++ second :: first :: chain.drop (index + 2) ∈ selectChains := by
  cases swaps <;> decide

/-- LIMIT and OFFSET may stand in either order, and only behind a SELECT. -/
theorem swap_of_chain {earlier later : List ClauseKind} {first second : ClauseKind} (swaps : Swaps first second)
    (chain : earlier ++ first :: second :: later ∈ head.chains) :
    (∃ query, head = select query) ∧ earlier ++ second :: first :: later ∈ head.chains := by
  cases head with
  | select query =>
    have inside : earlier.length < (earlier ++ first :: second :: later).length := by simp
    have behind : (earlier ++ first :: second :: later).drop (earlier.length + 2) = later := by
      rw [List.drop_append, List.drop_of_length_le (by omega)]
      simp
    have swapped := selectChains_swap swaps _ chain ⟨earlier.length, inside⟩
    exact ⟨⟨query, rfl⟩, by simpa [chains, behind] using swapped⟩
  | update | delete => cases earlier <;> simp [chains] at chain
  | createTable | dropTable | insert | clause => simp [chains] at chain

/-- A clause that is allowed completes the list in front of it to one that is allowed. -/
theorem chain_of_allows {kinds : List ClauseKind} {kind : ClauseKind} (opened : Open head kinds)
    (allowed : head.allows kinds kind) : kinds ++ [kind] ∈ head.chains := by
  cases head with
  | select =>
    rcases opened with complete | ⟨⟨_, impossible⟩, _⟩
    · exact selectChains_snoc kind kinds complete allowed
    · cases impossible
  | update | delete =>
    obtain ⟨rfl, empty⟩ := allowed_false.mp allowed
    simp [chains, List.reverse_eq_nil_iff.mp empty]
  | createTable | dropTable | insert | clause => cases allowed

/-- A list that is allowed allows each of its clauses behind those in front of it. -/
theorem allows_of_chain {earlier later : List ClauseKind} {kind : ClauseKind}
    (chain : earlier ++ kind :: later ∈ head.chains) : head.allows earlier kind := by
  cases head with
  | select =>
    have inside : earlier.length < (earlier ++ kind :: later).length := by simp
    have allowed := selectChains_prefix _ chain ⟨earlier.length, inside⟩
    simpa [allows] using allowed
  | update | delete =>
    refine allowed_false.mpr ?_
    cases earlier <;> simp_all [chains]
  | createTable | dropTable | insert | clause => simp [chains] at chain

theorem settled_of_checkDelete {next : Option Command} (plain : ∀ part, next ≠ some (clause part))
    (opened : Open head (clauses.map Clause.kind)) (follows : checkDelete (trail head clauses older) next = .ok ()) :
    clauses.map Clause.kind ∈ head.chains := by
  rcases opened with complete | ⟨⟨table, rfl⟩, empty⟩
  · exact complete
  obtain rfl := List.map_eq_nil_iff.mp empty
  cases next with
  | none => cases follows
  | some next =>
    cases next with
    | clause part => exact absurd rfl (plain part)
    | createTable | dropTable | insert | select | update | delete => cases follows

theorem clause?_eq_some {command : Command} {part : Clause} : command.clause? = some part ↔ command = clause part := by
  cases command <;> simp [clause?]

private theorem chained_of_ordered {before commands : List Command} (ordered : Ordered before commands) :
    ∀ head clauses older, before = trail head clauses older → head.clause? = none → Open head (clauses.map Clause.kind) →
      ∃ more rest, commands = more.map clause ++ rest ∧ (clauses ++ more).map Clause.kind ∈ head.chains ∧ Chained rest := by
  induction ordered with
  | nil ended =>
    intro head clauses older rfl plain opened
    exact ⟨[], [], rfl, by simpa using settled_of_checkDelete (by simp) opened ended, .nil⟩
  | @cons before next commands placed follows ordered ih =>
    intro head clauses older rfl plain opened
    cases shape : next.clause? with
    | none =>
      have settled := settled_of_checkDelete (by intro part same; cases same; cases shape) opened follows
      obtain ⟨more, rest, rfl, chain, others⟩ := ih next [] _ rfl shape (open_nil shape)
      exact ⟨[], next :: (more.map clause ++ rest), rfl, by simpa using settled, .cons chain others⟩
    | some part =>
      obtain rfl := clause?_eq_some.mp shape
      have allowed := (checkPosition_trail plain part.kind).mp (placed part rfl)
      have chain := chain_of_allows opened allowed
      obtain ⟨more, rest, rfl, complete, others⟩ := ih head (clauses ++ [part]) older (trail_snoc ..) plain
        (.inl (by simpa using chain))
      exact ⟨part :: more, rest, rfl, by simpa using complete, others⟩

private theorem ordered_of_chained {commands : List Command} (chained : Chained commands) :
    ∀ before, (∀ next, checkDelete before next = .ok ()) → Ordered before commands := by
  induction chained with
  | nil => exact fun before settled => .nil (settled none)
  | @cons rest head clauses chain _ ih =>
    intro before settled
    have plain := plain_of_chain chain
    refine .cons (fun part same => by rw [clause?_eq_some.mpr same] at plain; cases plain) (settled _) ?_
    suffices behind : ∀ todo done : List Clause, (done ++ todo).map Clause.kind ∈ head.chains →
        Ordered (trail head done before) (todo.map clause ++ rest) from behind clauses [] chain
    intro todo
    induction todo with
    | nil =>
      intro done chain
      exact ih _ fun next => checkDelete_trail next (by simpa using chain)
    | cons part todo next =>
      intro done chain
      have allowed : head.allows (done.map Clause.kind) part.kind := allows_of_chain (by simpa using chain)
      refine .cons ?_ ?_ ?_
      · intro _ holds
        cases holds
        exact (checkPosition_trail plain part.kind).mpr allowed
      · exact checkDelete_clause allowed
      · rw [trail_snoc]
        exact next (done ++ [part]) (by simpa using chain)

theorem ordered_iff_chained {commands : List Command} : Ordered [] commands ↔ Chained commands := by
  constructor
  · intro ordered
    cases ordered with
    | nil => exact .nil
    | @cons _ next rest placed _ others =>
      have plain : next.clause? = none := by
        refine Option.eq_none_iff_forall_ne_some.mpr fun part shape => ?_
        cases placed part (clause?_eq_some.mp shape)
      obtain ⟨more, rest, rfl, chain, others⟩ := chained_of_ordered others next [] [] rfl plain (open_nil plain)
      exact .cons chain others
  · exact fun chained => ordered_of_chained chained [] fun next => rfl

end Command
end MiniSql
