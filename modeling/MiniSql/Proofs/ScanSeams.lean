import Mathlib.Data.List.Basic
import MiniSql.Proofs.Lexemes
import MiniSql.Text.Blank

/-! Scanning a text put together from two. Its tokens are those of the two parts, unless a word or a number goes
on across the seam. A zero character ends the text for everything behind it. -/

namespace MiniSql.Token
open Text

variable {text more rest chars : List Char} {char : Char} {token : Token}

/-- No word or number goes on from the first text into the second. -/
def Apart (text more : List Char) : Prop := (∀ char ∈ text.getLast?, continuesWord char = false) ∨ Stops more

theorem apart_append {front : List Char} (nonempty : rest ≠ []) : Apart (front ++ rest) more ↔ Apart rest more := by
  rw [Apart, List.getLast?_append_of_ne_nil front nonempty, ← Apart]

private theorem run_append {belongs : Char → Bool}
    (ends : chars.dropWhile belongs ≠ [] ∨ ∀ char ∈ more.head?, belongs char = false) :
    (chars ++ more).takeWhile belongs = chars.takeWhile belongs ∧
      (chars ++ more).dropWhile belongs = chars.dropWhile belongs ++ more := by
  induction chars with
  | nil =>
    have outside := ends.resolve_left (· rfl)
    cases more with
    | nil => exact ⟨rfl, rfl⟩
    | cons head tail =>
      have stop : ¬ belongs head = true := by simp [outside head rfl]
      exact ⟨List.takeWhile_cons_of_neg stop, List.dropWhile_cons_of_neg stop⟩
  | cons char chars ih =>
    by_cases inside : belongs char = true
    · rw [List.dropWhile_cons_of_pos inside] at ends
      obtain ⟨taken, dropped⟩ := ih ends
      simp only [List.cons_append, List.takeWhile_cons_of_pos inside, List.dropWhile_cons_of_pos inside, taken, dropped,
        and_self]
    · simp only [List.cons_append, List.takeWhile_cons_of_neg inside, List.dropWhile_cons_of_neg inside, and_self]

private theorem Apart.run_ends {belongs : Char → Bool} {front : List Char} (apart : Apart (front ++ char :: chars) more)
    (first : continuesWord char = true) (within : ∀ char, belongs char = true → continuesWord char = true) :
    chars.dropWhile belongs ≠ [] ∨ ∀ char ∈ more.head?, belongs char = false := by
  rcases apart with stop | stops
  · refine .inl fun empty => ?_
    have all : ∀ other ∈ char :: chars, continuesWord other = true := by
      refine List.forall_mem_cons.mpr ⟨first, fun other member => within other ?_⟩
      exact List.dropWhile_eq_nil_iff.mp empty other member
    have last : (front ++ char :: chars).getLast? = some ((char :: chars).getLast (by simp)) := by
      rw [List.getLast?_append_of_ne_nil _ (by simp), List.getLast?_eq_some_getLast]
    have goesOn := all _ (List.getLast_mem (by simp))
    rw [stop _ last] at goesOn
    cases goesOn
  · refine .inr fun other head => Bool.eq_false_iff.mpr fun inside => ?_
    have goesOn := within other inside
    rw [stops other head] at goesOn
    cases goesOn

private theorem next?_append (found : next? text = some (token, rest)) (apart : rest = [] → Apart text more) :
    next? (text ++ more) = some (token, rest ++ more) := by
  have split := List.takeWhile_append_dropWhile (p := isSpace) (l := text)
  unfold next? at found
  split at found
  · cases found
  next char tail shape =>
    have behind : (text ++ more).dropWhile isSpace = char :: (tail ++ more) := by
      rw [(run_append (.inl (by simp [shape]))).2, shape, List.cons_append]
    rw [shape] at split
    unfold next?
    simp only [behind]
    split at found
    · cases found
    next nonzero =>
    rw [if_neg nonzero]
    have ends {belongs : Char → Bool} (first : continuesWord char = true)
        (within : ∀ char, belongs char = true → continuesWord char = true) (left : tail.dropWhile belongs = rest) :
        tail.dropWhile belongs ≠ [] ∨ ∀ char ∈ more.head?, belongs char = false := by
      by_cases empty : rest = []
      · have apart := apart empty
        rw [← split] at apart
        exact apart.run_ends first within
      · exact .inl (left ▸ empty)
    split at found
    next number =>
      cases found
      obtain ⟨taken, dropped⟩ := run_append (ends (continuesWord_digit number) (fun _ => continuesWord_digit) rfl)
      rw [if_pos number, taken, dropped]
    next plain =>
    rw [if_neg plain]
    split at found
    next starts =>
      cases found
      obtain ⟨taken, dropped⟩ := run_append (ends (continuesWord_letter starts) (fun _ => id) rfl)
      rw [if_pos starts, taken, dropped]
    next other =>
      cases found
      rw [if_neg other]

private theorem next?_skip {blanks : List Char} (spaces : ∀ char ∈ blanks, isSpace char = true) :
    next? (blanks ++ text) = next? text := by
  unfold next?
  rw [List.dropWhile_append_of_pos spaces]

private theorem scanChars_congr {other : List Char} (same : next? text = next? other) : scanChars text = scanChars other := by
  cases found : next? other with
  | none => rw [scanChars_of_none found, scanChars_of_none (same.trans found)]
  | some result => rw [scanChars_of_some found, scanChars_of_some (same.trans found)]

theorem scanChars_skip {blanks : List Char} (spaces : ∀ char ∈ blanks, isSpace char = true) :
    scanChars (blanks ++ text) = scanChars text := scanChars_congr (next?_skip spaces)

/-- A text without a token is blank, or a zero character is the first that is not. -/
theorem next?_eq_none (ended : next? text = none) :
    (∀ char ∈ text, isSpace char = true) ∨ ∃ tail, text.dropWhile isSpace = '\x00' :: tail := by
  unfold next? at ended
  split at ended
  next empty => exact .inl (List.dropWhile_eq_nil_iff.mp empty)
  next char tail shape =>
    split at ended
    next zero => exact .inr ⟨tail, zero ▸ shape⟩
    split at ended
    · cases ended
    split at ended <;> cases ended

private theorem isSpace_of_none (nonzero : '\x00' ∉ text) (ended : next? text = none) : ∀ char ∈ text, isSpace char = true := by
  rcases next?_eq_none ended with spaces | ⟨tail, shape⟩
  · exact spaces
  · have zero : '\x00' ∈ text.dropWhile isSpace := by simp [shape]
    exact absurd ((List.dropWhile_sublist isSpace).mem zero) nonzero

private theorem suffix_of_next? (found : next? text = some (token, rest)) : rest <:+ text := by
  obtain ⟨_, blanks, _, split⟩ := lexeme_of_next? found
  exact ⟨blanks ++ token.literal.toList, by rw [split, List.append_assoc]⟩

theorem scanChars_append (nonzero : '\x00' ∉ text) (apart : Apart text more) :
    scanChars (text ++ more) = scanChars text ++ scanChars more := by
  induction text using scanChars.induct with
  | case1 text ended =>
    rw [scanChars_skip (isSpace_of_none nonzero ended), scanChars_of_none ended, List.nil_append]
  | case2 text token rest found ih =>
    obtain ⟨_, blanks, _, split⟩ := lexeme_of_next? found
    have behind : Apart rest more := by
      by_cases empty : rest = []
      · exact .inl fun char last => by rw [empty] at last; cases last
      · rw [split, ← List.append_assoc, apart_append empty] at apart
        exact apart
    rw [scanChars_of_some (next?_append found fun _ => apart), scanChars_of_some found,
      ih (fun zero => nonzero ((suffix_of_next? found).mem zero)) behind, List.cons_append]

theorem zero_not_mem_lexeme (lexeme : Lexeme token) : '\x00' ∉ token.literal.toList := by
  cases lexeme with
  | number _ all =>
    rw [String.toList_ofList]
    exact fun zero => absurd (all _ zero) (by decide)
  | @word first others starts continues =>
    rw [word_literal, String.toList_ofList]
    have plain : continuesWord '\x00' = false := by decide
    intro zero
    rcases List.mem_cons.mp zero with same | inside
    · have goesOn := continuesWord_letter starts
      rw [← same, plain] at goesOn
      cases goesOn
    · have goesOn := continues _ inside
      rw [plain] at goesOn
      cases goesOn
  | symbol separate =>
    rw [symbol_literal, String.toList_singleton, List.mem_singleton]
    exact separate.nonzero.symm

private theorem scanChars_append_of_zero (zero : '\x00' ∈ text) : scanChars (text ++ more) = scanChars text := by
  induction text using scanChars.induct with
  | case1 text ended =>
    rcases next?_eq_none ended with spaces | ⟨tail, shape⟩
    · exact absurd (spaces _ zero) (by decide)
    · have behind : (text ++ more).dropWhile isSpace = '\x00' :: (tail ++ more) := by
        rw [(run_append (.inl (by simp [shape]))).2, shape, List.cons_append]
      have none : next? (text ++ more) = none := by
        unfold next?
        simp only [behind, if_true]
      rw [scanChars_of_none none, scanChars_of_none ended]
  | case2 text token rest found ih =>
    obtain ⟨lexeme, blanks, spaces, split⟩ := lexeme_of_next? found
    have inside : '\x00' ∈ rest := by
      rw [split, List.mem_append, List.mem_append] at zero
      rcases zero with blank | own | behind
      · exact absurd (spaces _ blank) (by decide)
      · exact absurd own (zero_not_mem_lexeme lexeme)
      · exact behind
    rw [scanChars_of_some (next?_append found fun empty => by rw [empty] at inside; cases inside), scanChars_of_some found,
      ih inside]

private theorem scanChars_word_ne_nil (starts : startsWord char = true) : scanChars (char :: rest) ≠ [] := by
  obtain ⟨visible, nonzero⟩ := visible_letter starts
  have found : next? (char :: rest) = _ := next?_visible visible nonzero
  rw [if_neg (by simp [not_isDigit starts]), if_pos starts] at found
  rw [scanChars_of_some found]
  exact List.cons_ne_nil _ _

theorem scanChars_append_word {other : Char} {tail : List Char} (starts : startsWord char = true) (startsToo : startsWord other = true)
    (seam : scanChars (text ++ char :: more) = scanChars text ++ scanChars (char :: more)) :
    scanChars (text ++ other :: tail) = scanChars text ++ scanChars (other :: tail) := by
  induction text using scanChars.induct with
  | case1 text ended =>
    rcases next?_eq_none ended with spaces | ⟨behind, shape⟩
    · rw [scanChars_skip spaces, scanChars_of_none ended, List.nil_append]
    · have zero : '\x00' ∈ text := (List.dropWhile_sublist isSpace).mem (by simp [shape])
      rw [scanChars_append_of_zero zero] at seam
      exact absurd (List.append_right_eq_self.mp seam.symm) (scanChars_word_ne_nil starts)
  | case2 text token rest found ih =>
    by_cases empty : rest = []
    · subst empty
      obtain ⟨lexeme, blanks, spaces, rfl⟩ := lexeme_of_next? found
      rw [scanChars_of_some found, scanChars_of_none (show next? [] = none from rfl), List.append_nil, List.append_assoc,
        scanChars_skip spaces] at seam ⊢
      cases lexeme with
      | number some all =>
        rw [String.toList_ofList]
        rw [scanChars_of_some (next?_number some all (by rintro _ ⟨⟩; exact not_isDigit startsToo))]
        rfl
      | symbol separate =>
        rw [symbol_literal, String.toList_singleton, List.singleton_append, scanChars_of_some (next?_symbol separate)]
        rfl
      | @word first others begins continues =>
        -- The word would go on across the seam.
        obtain ⟨visible, nonzero⟩ := visible_letter begins
        have longer : next? (first :: (others ++ char :: more)) = _ := next?_visible visible nonzero
        rw [if_neg (by simp [not_isDigit begins]), if_pos begins, List.takeWhile_append_of_pos continues,
          List.takeWhile_cons_of_pos (continuesWord_letter starts)] at longer
        rw [word_literal, String.toList_ofList, List.cons_append, scanChars_of_some longer] at seam
        have same := congrArg (fun token => token.literal.toList.length) (List.cons.inj seam).1
        simp at same
    · have whole (more : List Char) : scanChars (text ++ more) = token :: scanChars (rest ++ more) :=
        scanChars_of_some (next?_append found fun none => absurd none empty)
      rw [whole, scanChars_of_some found, List.cons_append] at seam ⊢
      rw [ih (List.cons.inj seam).2]

private theorem scanChars_behind {other : List Char} (stops : Stops more) (stopsToo : Stops other)
    (same : scanChars more = scanChars other) : scanChars (text ++ more) = scanChars (text ++ other) := by
  by_cases zero : '\x00' ∈ text
  · rw [scanChars_append_of_zero zero, scanChars_append_of_zero zero]
  · rw [scanChars_append zero (.inr stops), scanChars_append zero (.inr stopsToo), same]

theorem not_continuesWord_space (space : isSpace char = true) : continuesWord char = false := by
  simp only [isSpace, Bool.or_eq_true, beq_iff_eq] at space
  rcases space with ((rfl | rfl) | rfl) | rfl <;> decide

theorem upperFixed_space (space : isSpace char = true) : UpperFixed char := by
  simp only [isSpace, Bool.or_eq_true, beq_iff_eq] at space
  rcases space with ((rfl | rfl) | rfl) | rfl <;> exact upperFixed_of_lt (by decide)

theorem breaks_space (space : isSpace char = true) : Breaks (char :: rest) :=
  .cons (upperFixed_space space) (not_continuesWord_space space)

theorem lex_skip (space : isSpace char = true) : lex (char :: rest) = lex rest := by
  have skipped : scanChars ([char] ++ upperChars rest) = scanChars (upperChars rest) :=
    scanChars_skip (List.forall_mem_singleton.mpr space)
  rwa [List.singleton_append, ← upperChars_cons (upperFixed_space space), ← lex, ← lex] at skipped

theorem lex_append (nonzero : '\x00' ∉ text) (breaks : Breaks more) : lex (text ++ more) = lex text ++ lex more := by
  have folded : '\x00' ∉ upperChars text := fun zero => nonzero (zero_mem_upperChars.mp zero)
  rw [lex, upperChars_append, scanChars_append folded (.inr breaks.stops), ← lex, ← lex]

theorem lex_append_of_zero (zero : '\x00' ∈ text) : lex (text ++ more) = lex text := by
  rw [lex, upperChars_append, scanChars_append_of_zero (zero_mem_upperChars.mpr zero), ← lex]

theorem lex_behind {other : List Char} (breaks : Breaks more) (breaksToo : Breaks other) (same : lex more = lex other) :
    lex (text ++ more) = lex (text ++ other) := by
  rw [lex, lex, upperChars_append, upperChars_append, scanChars_behind breaks.stops breaksToo.stops same]

private theorem symbolKind_eq_semicolon (semicolon : symbolKind char = .semicolon) : char = ';' := by
  unfold symbolKind at semicolon
  split at semicolon <;> first | rfl | cases semicolon

private theorem semicolon_literal (lexeme : Lexeme token) (semicolon : token.kind = .semicolon) : token.literal.toList = [';'] := by
  cases lexeme with
  | number => cases semicolon
  | @word first others =>
    rcases word_cases (String.ofList (first :: others)) with ⟨keyword, shape, _⟩ | ⟨shape, _⟩
    · rw [shape] at semicolon
      cases semicolon
    · rw [shape] at semicolon
      cases semicolon
  | symbol => rw [symbol_literal, symbolKind_eq_semicolon semicolon, String.toList_singleton]

/-- Nothing goes on behind a text whose last token is a semicolon, or which has no token. -/
theorem apart_of_semicolon (nonzero : '\x00' ∉ text)
    (closed : ∀ token ∈ (scanChars text).getLast?, token.kind = .semicolon) : Apart text more := by
  induction text using scanChars.induct with
  | case1 text ended =>
    exact .inl fun char last => not_continuesWord_space (isSpace_of_none nonzero ended char (List.mem_of_getLast? last))
  | case2 text token rest found ih =>
    obtain ⟨lexeme, blanks, _, split⟩ := lexeme_of_next? found
    rw [scanChars_of_some found] at closed
    by_cases empty : rest = []
    · subst empty
      rw [scanChars_of_none (show next? [] = none from rfl)] at closed
      rw [split, List.append_nil, semicolon_literal lexeme (closed token rfl), apart_append (List.cons_ne_nil _ _)]
      exact .inl fun char last => by cases last; decide
    · rw [split, ← List.append_assoc, apart_append empty]
      refine ih (fun zero => nonzero ((suffix_of_next? found).mem zero)) fun last member => closed last ?_
      rw [List.getLast?_cons, member]
      rfl

theorem scan_append {first second : String} (nonzero : '\x00' ∉ first.toList)
    (closed : ∀ token ∈ (scan first).getLast?, token.kind = .semicolon) :
    scan (first ++ second) = scan first ++ scan second := by
  have folded : '\x00' ∉ upperChars first.toList := fun zero => nonzero (zero_mem_upperChars.mp zero)
  rw [scan, String.toList_append, upperChars_append, scanChars_append folded (apart_of_semicolon folded closed), ← scan, ← scan]

private theorem mem_of_inSpans {spans : List Span} {code : Nat} (inside : inSpans spans code = true) :
    code ∈ spans.flatMap fun span => List.range' span.1 (span.2 + 1 - span.1) := by
  induction spans with
  | nil => cases inside
  | cons span spans ih =>
    rw [List.flatMap_cons, List.mem_append]
    rw [inSpans] at inside
    split at inside
    · cases inside
    split at inside
    · exact .inl (List.mem_range'_1.mpr (by omega))
    · exact .inr (ih inside)

private theorem blankCodes : ∀ code ∈ blankSpans.flatMap fun span => List.range' span.1 (span.2 + 1 - span.1),
    continuesWord (Char.ofNat code) = false ∧ symbolKind (Char.ofNat code) = .illegal ∧
      upperChar (Char.ofNat code) = [Char.ofNat code] := by decide +kernel

theorem blank_cases (blank : isBlank char = true) :
    continuesWord char = false ∧ symbolKind char = .illegal ∧ UpperFixed char := by
  have holds := blankCodes char.toNat (mem_of_inSpans blank)
  rwa [Char.ofNat_toNat] at holds

/-- Blank characters that are not skipped are no tokens of a command. -/
theorem scanChars_blank (blank : ∀ char ∈ text, isBlank char = true) : ∀ token ∈ scanChars text, token.kind = .illegal := by
  intro token member
  obtain ⟨lexeme, within⟩ := lexeme_of_scanChars text token member
  have outside (char : Char) (inside : char ∈ token.literal.toList) : continuesWord char = false :=
    (blank_cases (blank char (within char inside))).1
  cases lexeme with
  | @number digits some all =>
    rw [String.toList_ofList] at outside
    obtain ⟨digit, others, rfl⟩ := List.exists_cons_of_ne_nil some
    have goesOn := continuesWord_digit (all digit List.mem_cons_self)
    rw [outside digit List.mem_cons_self] at goesOn
    cases goesOn
  | @word first others starts =>
    rw [word_literal, String.toList_ofList] at outside
    have goesOn := continuesWord_letter starts
    rw [outside first List.mem_cons_self] at goesOn
    cases goesOn
  | @symbol char => exact (blank_cases (blank char (within char (by simp)))).2.1

end MiniSql.Token
