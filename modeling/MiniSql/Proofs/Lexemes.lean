import Mathlib.Data.List.TakeWhile
import MiniSql.Proofs.UpperCase
import MiniSql.Token.Scan

/-! What the lexer can read as one token, told without the lexer. It reads a token back from the text of
the token alone, as long as no word or number goes on behind it. -/

namespace MiniSql.Token
open Text

/-- A character that is a token by itself. -/
structure Separate (char : Char) : Prop where
  visible : isSpace char = false
  nonzero : char ≠ '\x00'
  number : char.isDigit = false
  letter : startsWord char = false

theorem startsWord_le {char : Char} (starts : startsWord char = true) : 0x41 ≤ char.toNat := by
  rcases (Bool.or_eq_true _ _).mp starts with letter | underscore
  · by_contra below
    rw [isAlphabetic, alphabeticSpans, inSpans, if_pos (by omega)] at letter
    cases letter
  · rw [eq_of_beq underscore]
    decide

private theorem visible_of_lt {char : Char} (above : ' '.toNat < char.toNat) : isSpace char = false ∧ char ≠ '\x00' := by
  have other : ∀ blank : Char, blank.toNat ≤ ' '.toNat → char ≠ blank := by
    intro blank low same
    rw [same] at above
    omega
  constructor
  · simp [isSpace, other ' ' (by decide), other '\t' (by decide), other '\n' (by decide), other '\r' (by decide)]
  · exact other '\x00' (by decide)

theorem visible_digit {char : Char} (number : char.isDigit = true) : isSpace char = false ∧ char ≠ '\x00' := by
  have bound := (Char.isDigit_iff_toNat.mp number).1
  exact visible_of_lt (Nat.lt_of_lt_of_le (by decide) bound)

theorem visible_letter {char : Char} (starts : startsWord char = true) : isSpace char = false ∧ char ≠ '\x00' :=
  visible_of_lt (Nat.lt_of_lt_of_le (by decide) (startsWord_le starts))

theorem continuesWord_letter {char : Char} (starts : startsWord char = true) : continuesWord char = true := by
  rcases (Bool.or_eq_true _ _).mp starts with letter | underscore
  · simp [continuesWord, isAlphanumeric, letter]
  · simp [continuesWord, underscore]

private theorem toNat_capital {char : Char} (capital : char.isUpper = true) : 0x41 ≤ char.toNat ∧ char.toNat ≤ 0x5A := by
  obtain ⟨low, high⟩ := of_decide_eq_true capital
  exact ⟨UInt32.le_iff_toNat_le.mp low, UInt32.le_iff_toNat_le.mp high⟩

theorem startsWord_capital {char : Char} (capital : char.isUpper = true) : startsWord char = true := by
  obtain ⟨low, high⟩ := toNat_capital capital
  have letter : isAlphabetic char = true := by rw [isAlphabetic, alphabeticSpans, inSpans, if_neg (by omega), if_pos high]
  rw [startsWord, letter, Bool.true_or]

theorem not_isDigit {char : Char} (starts : startsWord char = true) : char.isDigit = false := by
  by_contra number
  have bound := (Char.isDigit_iff_toNat.mp (Bool.of_not_eq_false number)).2
  exact absurd (startsWord_le starts) (Nat.not_le.mpr (Nat.lt_of_le_of_lt bound (by decide)))

theorem continuesWord_digit {char : Char} (number : char.isDigit = true) : continuesWord char = true := by
  obtain ⟨low, high⟩ := Char.isDigit_iff_toNat.mp number
  change 0x30 ≤ char.toNat at low
  change char.toNat ≤ 0x39 at high
  have numeric : isNumeric char = true := by rw [isNumeric, numericSpans, inSpans, if_neg (by omega), if_pos high]
  rw [continuesWord, isAlphanumeric, numeric, Bool.or_true, Bool.true_or, Bool.true_or]

inductive Lexeme : Token → Prop where
  | number {digits : List Char} (some : digits ≠ []) (all : ∀ char ∈ digits, char.isDigit = true) :
      Lexeme ⟨.literal, String.ofList digits⟩
  | word {first : Char} {others : List Char} (starts : startsWord first = true)
      (continues : ∀ char ∈ others, continuesWord char = true) : Lexeme (word (String.ofList (first :: others)))
  | symbol {char : Char} (separate : Separate char) : Lexeme (symbol char)

@[simp] theorem word_literal (text : String) : (word text).literal = text := by
  unfold word
  split <;> rfl

@[simp] theorem symbol_literal (char : Char) : (symbol char).literal = String.singleton char := rfl

/-- No word or number goes on here. -/
def Stops (text : List Char) : Prop := ∀ char ∈ text.head?, continuesWord char = false

variable {text rest chars : List Char} {char : Char} {token : Token}

private theorem takeWhile_ends {belongs : Char → Bool} (inside : ∀ char ∈ chars, belongs char = true)
    (outside : ∀ char ∈ rest.head?, belongs char = false) :
    (chars ++ rest).takeWhile belongs = chars ∧ (chars ++ rest).dropWhile belongs = rest := by
  rw [List.takeWhile_append_of_pos inside, List.dropWhile_append_of_pos inside]
  cases rest with
  | nil => exact ⟨List.append_nil chars, rfl⟩
  | cons head tail =>
    have other : ¬ belongs head = true := by simp [outside head rfl]
    rw [List.takeWhile_cons_of_neg other, List.dropWhile_cons_of_neg other, List.append_nil]
    exact ⟨rfl, rfl⟩

theorem next?_visible (visible : isSpace char = false) (nonzero : char ≠ '\x00') : next? (char :: rest) =
    if char.isDigit then
      some (⟨.literal, String.ofList (char :: rest.takeWhile Char.isDigit)⟩, rest.dropWhile Char.isDigit)
    else if startsWord char then
      some (word (String.ofList (char :: rest.takeWhile continuesWord)), rest.dropWhile continuesWord)
    else some (symbol char, rest) := by
  rw [next?, List.dropWhile_cons_of_neg (by simp [visible])]
  simp only [nonzero, if_false]

theorem next?_symbol (separate : Separate char) : next? (char :: rest) = some (symbol char, rest) := by
  rw [next?_visible separate.visible separate.nonzero, separate.number, separate.letter, if_neg Bool.false_ne_true,
    if_neg Bool.false_ne_true]

theorem next?_number {digits : List Char} (nonempty : digits ≠ []) (all : ∀ char ∈ digits, char.isDigit = true)
    (ends : ∀ char ∈ rest.head?, char.isDigit = false) :
    next? (digits ++ rest) = some (⟨.literal, String.ofList digits⟩, rest) := by
  obtain ⟨first, others, rfl⟩ := List.exists_cons_of_ne_nil nonempty
  obtain ⟨number, numbers⟩ := List.forall_mem_cons.mp all
  obtain ⟨visible, nonzero⟩ := visible_digit number
  obtain ⟨taken, dropped⟩ := takeWhile_ends numbers ends
  rw [List.cons_append, next?_visible visible nonzero, if_pos number, taken, dropped]

theorem next?_lexeme (lexeme : Lexeme token) (stops : Stops rest) :
    next? (token.literal.toList ++ rest) = some (token, rest) := by
  cases lexeme with
  | number nonempty all =>
    rw [String.toList_ofList]
    refine next?_number nonempty all fun char head => Bool.eq_false_iff.mpr fun number => ?_
    have stop := stops char head
    rw [continuesWord_digit number] at stop
    cases stop
  | word starts continues =>
    obtain ⟨visible, nonzero⟩ := visible_letter starts
    obtain ⟨taken, dropped⟩ := takeWhile_ends continues stops
    rw [word_literal, String.toList_ofList, List.cons_append, next?_visible visible nonzero, not_isDigit starts,
      if_neg Bool.false_ne_true, if_pos starts, taken, dropped]
  | symbol separate =>
    rw [symbol_literal, String.toList_singleton, List.singleton_append, next?_symbol separate]

theorem lexeme_of_next? (found : next? text = some (token, rest)) :
    Lexeme token ∧ ∃ blanks, (∀ char ∈ blanks, isSpace char = true) ∧ text = blanks ++ (token.literal.toList ++ rest) := by
  have split := List.takeWhile_append_dropWhile (p := isSpace) (l := text)
  have spaces : ∀ char ∈ text.takeWhile isSpace, isSpace char = true := fun _ => List.mem_takeWhile_imp
  generalize text.takeWhile isSpace = blanks at split spaces
  unfold next? at found
  split at found
  · cases found
  next char tail shape =>
    have visible : isSpace char = false := by
      have head := List.head?_dropWhile_not isSpace text
      rw [shape] at head
      exact head
    rw [shape] at split
    split at found
    · cases found
    next nonzero =>
    split at found
    next number =>
      cases found
      have numbers : ∀ digit ∈ char :: tail.takeWhile Char.isDigit, digit.isDigit = true :=
        List.forall_mem_cons.mpr ⟨number, fun _ => List.mem_takeWhile_imp⟩
      refine ⟨.number (List.cons_ne_nil _ _) numbers, blanks, spaces, ?_⟩
      rw [String.toList_ofList, List.cons_append, List.takeWhile_append_dropWhile, split]
    next plain =>
    split at found
    next starts =>
      cases found
      refine ⟨.word starts fun _ => List.mem_takeWhile_imp, blanks, spaces, ?_⟩
      rw [word_literal, String.toList_ofList, List.cons_append, List.takeWhile_append_dropWhile, split]
    next other =>
      cases found
      refine ⟨.symbol ⟨visible, nonzero, Bool.of_not_eq_true plain, Bool.of_not_eq_true other⟩, blanks, spaces, ?_⟩
      rw [symbol_literal, String.toList_singleton, List.singleton_append, split]

theorem scanChars_of_none (ended : next? text = none) : scanChars text = [] := by
  rw [scanChars]
  split
  · rfl
  next found => cases ended.symm.trans found

theorem scanChars_of_some (found : next? text = some (token, rest)) : scanChars text = token :: scanChars rest := by
  rw [scanChars]
  split
  next ended => cases ended.symm.trans found
  next other =>
    cases found.symm.trans other
    rfl

theorem lexeme_of_scanChars (text : List Char) :
    ∀ token ∈ scanChars text, Lexeme token ∧ ∀ char ∈ token.literal.toList, char ∈ text := by
  induction text using scanChars.induct with
  | case1 text ended =>
    rw [scanChars_of_none ended]
    exact fun _ member => nomatch member
  | case2 text token rest found ih =>
    obtain ⟨lexeme, blanks, _, rfl⟩ := lexeme_of_next? found
    rw [scanChars_of_some found]
    intro other member
    rcases List.mem_cons.mp member with rfl | member
    · exact ⟨lexeme, fun char inside => List.mem_append_right _ (List.mem_append_left _ inside)⟩
    · obtain ⟨form, within⟩ := ih other member
      exact ⟨form, fun char inside => List.mem_append_right _ (List.mem_append_right _ (within char inside))⟩

/-- A lexeme in upper case, as the lexer meets it. -/
structure Scanned (token : Token) : Prop where
  lexeme : Lexeme token
  folded : ∀ char ∈ token.literal.toList, UpperFixed char

/-- Reading a text that is not yet folded. -/
def lex (text : List Char) : List Token := scanChars (upperChars text)

/-- The text stops, folded or not. -/
inductive Breaks : List Char → Prop where
  | nil : Breaks []
  | cons {char : Char} {rest : List Char} (fixed : UpperFixed char) (stop : continuesWord char = false) :
      Breaks (char :: rest)

theorem upperChars_cons (fixed : UpperFixed char) : upperChars (char :: rest) = char :: upperChars rest := by
  rw [upperChars, List.flatMap_cons, fixed, List.singleton_append, upperChars]

theorem Breaks.stops (breaks : Breaks rest) : Stops (upperChars rest) := by
  cases breaks with
  | nil => exact fun _ head => nomatch head
  | cons fixed stop =>
    rw [upperChars_cons fixed]
    intro char head
    cases head
    exact stop

theorem scanned_of_scan {text : String} : ∀ token ∈ scan text, Scanned token := by
  intro token member
  obtain ⟨lexeme, within⟩ := lexeme_of_scanChars _ token member
  exact ⟨lexeme, fun char inside => upperChars_fixed _ char (within char inside)⟩

theorem lex_scanned (scanned : Scanned token) (breaks : Breaks rest) :
    lex (token.literal.toList ++ rest) = token :: lex rest := by
  have folded : upperChars (token.literal.toList ++ rest) = token.literal.toList ++ upperChars rest := by
    rw [upperChars, List.flatMap_append, ← upperChars, ← upperChars, upperChars_of_fixed scanned.folded]
  rw [lex, folded, scanChars_of_some (next?_lexeme scanned.lexeme breaks.stops), lex]

theorem scanned_iff : Scanned token ↔ ∃ text, token ∈ scan text := by
  constructor
  · intro scanned
    have alone := lex_scanned scanned .nil
    rw [List.append_nil] at alone
    have first : scan token.literal = token :: lex [] := alone
    exact ⟨token.literal, by rw [first]; exact List.mem_cons_self⟩
  · intro ⟨text, member⟩
    exact scanned_of_scan token member

theorem lex_symbol (fixed : UpperFixed char) (separate : Separate char) :
    lex (char :: rest) = symbol char :: lex rest := by
  rw [lex, upperChars_cons fixed, scanChars_of_some (next?_symbol separate), lex]

private theorem next?_space : next? (' ' :: rest) = next? rest := rfl

theorem lex_space : lex (' ' :: rest) = lex rest := by
  rw [lex, lex, upperChars_cons (upperFixed_of_lt (by decide))]
  cases found : next? (upperChars rest) with
  | none => rw [scanChars_of_none found, scanChars_of_none (next?_space.trans found)]
  | some result => rw [scanChars_of_some found, scanChars_of_some (next?_space.trans found)]

/-- A name the lexer reads as one word in upper case. -/
structure Identifier (name : String) : Prop where
  shape : ∃ first others, name.toList = first :: others ∧ startsWord first = true ∧
    ∀ char ∈ others, continuesWord char = true
  upper : Text.upper name = name
  free : Keyword.ofText? name = none

/-- One or more decimal digits. -/
def Digits (text : String) : Prop := text.toList ≠ [] ∧ ∀ char ∈ text.toList, char.isDigit = true

private theorem scanned_word {name : String} {first : Char} {others : List Char} (shape : name.toList = first :: others)
    (starts : startsWord first = true) (continues : ∀ char ∈ others, continuesWord char = true)
    (folded : ∀ char ∈ name.toList, UpperFixed char) : Scanned (word name) := by
  have lexeme := Lexeme.word starts continues
  rw [← shape, String.ofList_toList] at lexeme
  exact ⟨lexeme, by rw [word_literal]; exact folded⟩

theorem Identifier.scanned {name : String} (identifier : Identifier name) : Scanned ⟨.ident, name⟩ := by
  obtain ⟨⟨first, others, shape, starts, continues⟩, upper, free⟩ := identifier
  have scanned := scanned_word shape starts continues (upper_eq_self.mp upper)
  rw [word, free] at scanned
  exact scanned

theorem Digits.scanned {digits : String} (formed : Digits digits) : Scanned ⟨.literal, digits⟩ := by
  constructor
  · have lexeme := Lexeme.number formed.1 formed.2
    rw [String.ofList_toList] at lexeme
    exact lexeme
  · intro char member
    have bound := (Char.isDigit_iff_toNat.mp (formed.2 char member)).2
    exact upperFixed_of_lt (Nat.lt_of_le_of_lt bound (by decide))

theorem scanned_keyword (keyword : Keyword) : Scanned ⟨.keyword keyword, keyword.text⟩ := by
  have own : word keyword.text = ⟨.keyword keyword, keyword.text⟩ := by cases keyword <;> decide
  have spelled : keyword.text.toList.all Char.isUpper = true := by cases keyword <;> decide
  have capitals := List.all_eq_true.mp spelled
  cases shape : keyword.text.toList with
  | nil => cases keyword <;> exact absurd shape (by decide)
  | cons first others =>
    rw [shape] at capitals
    obtain ⟨starts, continues⟩ := List.forall_mem_cons.mp capitals
    rw [← own]
    apply scanned_word shape (startsWord_capital starts)
    · intro char member
      exact continuesWord_letter (startsWord_capital (continues char member))
    · rw [shape]
      intro char member
      exact upperFixed_of_lt (Nat.lt_of_le_of_lt (toNat_capital (capitals char member)).2 (by decide))

theorem word_cases (text : String) :
    (∃ keyword, word text = ⟨.keyword keyword, text⟩ ∧ keyword.text = text) ∨
      (word text = ⟨.ident, text⟩ ∧ Keyword.ofText? text = none) := by
  cases found : Keyword.ofText? text with
  | some keyword =>
    have spelled := List.find?_some found
    exact .inl ⟨keyword, by rw [word, found], eq_of_beq spelled⟩
  | none => exact .inr ⟨by rw [word, found], rfl⟩

theorem symbolKind_ne (char : Char) : symbolKind char ≠ .literal ∧ symbolKind char ≠ .ident ∧
    symbolKind char ≠ .eof ∧ ∀ keyword, symbolKind char ≠ .keyword keyword := by
  unfold symbolKind
  split <;> simp

theorem Lexeme.kind_ne_eof (lexeme : Lexeme token) : token.kind ≠ .eof := by
  cases lexeme with
  | number => exact fun same => nomatch same
  | @word first others =>
    rcases word_cases (String.ofList (first :: others)) with ⟨keyword, shape, _⟩ | ⟨shape, _⟩
    · exact fun same => nomatch shape ▸ same
    · exact fun same => nomatch shape ▸ same
  | @symbol char => exact (symbolKind_ne char).2.2.1

theorem Scanned.kind_ne_eof (scanned : Scanned token) : token.kind ≠ .eof := scanned.lexeme.kind_ne_eof

theorem Scanned.digits {digits : String} (scanned : Scanned ⟨.literal, digits⟩) : Digits digits := by
  generalize shape : (⟨.literal, digits⟩ : Token) = token at scanned
  cases scanned.lexeme with
  | number nonempty all =>
    cases shape
    rw [Digits, String.toList_ofList]
    exact ⟨nonempty, all⟩
  | @word first others =>
    rcases word_cases (String.ofList (first :: others)) with ⟨keyword, kind, _⟩ | ⟨kind, _⟩
    · cases shape.trans kind
    · cases shape.trans kind
  | @symbol char => exact absurd (congrArg Token.kind shape).symm (symbolKind_ne char).1

theorem Scanned.identifier {name : String} (scanned : Scanned ⟨.ident, name⟩) : Identifier name := by
  have folded := scanned.folded
  generalize shape : (⟨.ident, name⟩ : Token) = token at scanned
  cases scanned.lexeme with
  | number => cases shape
  | @word first others starts continues =>
    rcases word_cases (String.ofList (first :: others)) with ⟨keyword, kind, _⟩ | ⟨kind, free⟩
    · cases shape.trans kind
    · cases shape.trans kind
      exact ⟨⟨first, others, String.toList_ofList, starts, continues⟩, upper_eq_self.mpr folded, free⟩
  | @symbol char => exact absurd (congrArg Token.kind shape).symm (symbolKind_ne char).2.1

theorem Scanned.spelling {keyword : Keyword} {spelling : String} (scanned : Scanned ⟨.keyword keyword, spelling⟩) :
    spelling = keyword.text := by
  generalize shape : (⟨.keyword keyword, spelling⟩ : Token) = token at scanned
  cases scanned.lexeme with
  | number => cases shape
  | @word first others =>
    rcases word_cases (String.ofList (first :: others)) with ⟨other, kind, spelled⟩ | ⟨kind, _⟩
    · cases shape.trans kind
      exact spelled.symm
    · cases shape.trans kind
  | @symbol char => exact absurd (congrArg Token.kind shape).symm ((symbolKind_ne char).2.2.2 keyword)

end MiniSql.Token
