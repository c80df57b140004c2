import MiniSql.Proofs.Printing
import MiniSql.Proofs.ScanSeams

/-! What scanning keeps. The tokens of a text hold all its characters but the space between them, up to the first zero
character; none of them could be longer where it stands; and set apart by single spaces they are read again as they
are. -/

namespace MiniSql.Token
open Text

variable {text rest : List Char} {token : Token} {tokens : List Token}

private theorem visible_word {char : Char} (continues : continuesWord char = true) : isSpace char = false := by
  by_contra space
  rw [not_continuesWord_space (Bool.of_not_eq_false space)] at continues
  cases continues

private theorem visible_lexeme (lexeme : Lexeme token) : ∀ char ∈ token.literal.toList, isSpace char = false := by
  cases lexeme with
  | number _ all =>
    rw [String.toList_ofList]
    exact fun char member => (visible_digit (all char member)).1
  | word starts continues =>
    rw [word_literal, String.toList_ofList]
    refine List.forall_mem_cons.mpr ⟨(visible_letter starts).1, fun char member => visible_word (continues char member)⟩
  | symbol separate =>
    rw [symbol_literal, String.toList_singleton]
    exact List.forall_mem_singleton.mpr separate.visible

private theorem lexeme_nonempty (lexeme : Lexeme token) : token.literal ≠ "" := by
  rw [ne_eq, ← String.toList_eq_nil_iff]
  cases lexeme with
  | number some => rwa [String.toList_ofList]
  | word => rw [word_literal, String.toList_ofList]; exact List.cons_ne_nil _ _
  | symbol => rw [symbol_literal, String.toList_singleton]; exact List.cons_ne_nil _ _

/-- The characters of a text that belong to tokens. -/
def visible (text : List Char) : List Char := (text.takeWhile (· ≠ '\x00')).filter fun char => !isSpace char

private theorem nonzero_blanks {blanks : List Char} (spaces : ∀ char ∈ blanks, isSpace char = true) :
    ∀ char ∈ blanks, decide (char ≠ '\x00') = true := by
  intro char member
  refine decide_eq_true fun zero => ?_
  have space := spaces char member
  rw [zero] at space
  cases space

private theorem nonzero_literal (lexeme : Lexeme token) : ∀ char ∈ token.literal.toList, decide (char ≠ '\x00') = true :=
  fun _ member => decide_eq_true fun zero => zero_not_mem_lexeme lexeme (zero ▸ member)

private theorem visible_blanks {blanks : List Char} (spaces : ∀ char ∈ blanks, isSpace char = true) :
    visible (blanks ++ text) = visible text := by
  have none : blanks.filter (fun char => !isSpace char) = [] := by simpa [List.filter_eq_nil_iff] using spaces
  rw [visible, List.takeWhile_append_of_pos (nonzero_blanks spaces), List.filter_append, none, List.nil_append, visible]

private theorem visible_literal (lexeme : Lexeme token) : visible (token.literal.toList ++ rest) = token.literal.toList ++ visible rest := by
  have all : token.literal.toList.filter (fun char => !isSpace char) = token.literal.toList := by
    simpa [List.filter_eq_self] using visible_lexeme lexeme
  rw [visible, List.takeWhile_append_of_pos (nonzero_literal lexeme), List.filter_append, all, visible]

/-- A text without a token is space up to its end or up to a zero character. -/
private theorem split_of_none (ended : next? text = none) : ∃ blanks tail, (∀ char ∈ blanks, isSpace char = true) ∧
    text = blanks ++ tail ∧ text.dropWhile isSpace = tail ∧ (tail = [] ∨ ∃ rest, tail = '\x00' :: rest) := by
  refine ⟨text.takeWhile isSpace, text.dropWhile isSpace, fun _ => List.mem_takeWhile_imp,
    List.takeWhile_append_dropWhile.symm, rfl, ?_⟩
  rcases next?_eq_none ended with all | ⟨rest, shape⟩
  · exact .inl (List.dropWhile_eq_nil_iff.mpr all)
  · exact .inr ⟨rest, shape⟩

private theorem visible_of_none (ended : next? text = none) : visible text = [] := by
  obtain ⟨blanks, tail, spaces, rfl, _, rfl | ⟨rest, rfl⟩⟩ := split_of_none ended
  · exact visible_blanks spaces
  · exact visible_blanks spaces

/-- The literals of the tokens are the characters of the text without the space. -/
theorem literals_scanChars (text : List Char) : ((scanChars text).flatMap fun token => token.literal.toList) = visible text := by
  induction text using scanChars.induct with
  | case1 text ended => rw [scanChars_of_none ended, visible_of_none ended, List.flatMap_nil]
  | case2 text token rest found ih =>
    obtain ⟨lexeme, blanks, spaces, rfl⟩ := lexeme_of_next? found
    rw [scanChars_of_some found, List.flatMap_cons, ih, visible_blanks spaces, visible_literal lexeme]

/-- What may stand behind a token: nothing that it could have taken. -/
structure Maximal (token : Token) (rest : List Char) : Prop where
  number : token.kind = .literal → ∀ char ∈ rest.head?, char.isDigit = false
  word : (token.kind = .ident ∨ ∃ keyword, token.kind = .keyword keyword) →
    ∀ char ∈ rest.head?, isAlphanumeric char = false ∧ char ≠ '_' ∧ char ≠ '.'

private theorem maximal_of_next? (found : next? text = some (token, rest)) : Maximal token rest := by
  have stops (belongs : Char → Bool) (tail : List Char) : ∀ char ∈ (tail.dropWhile belongs).head?, belongs char = false := by
    intro char head
    have outside := List.head?_dropWhile_not belongs tail
    rw [head] at outside
    exact outside
  unfold next? at found
  split at found
  · cases found
  next char tail shape =>
    split at found
    · cases found
    split at found
    · cases found
      exact ⟨fun _ => stops Char.isDigit tail, fun kind => by simp at kind⟩
    split at found
    · cases found
      constructor
      · intro kind
        rcases word_cases (String.ofList (char :: tail.takeWhile continuesWord)) with ⟨keyword, shape, _⟩ | ⟨shape, _⟩
        · rw [shape] at kind
          cases kind
        · rw [shape] at kind
          cases kind
      · intro _ next head
        simpa [continuesWord, and_assoc] using stops continuesWord tail next head
    · cases found
      obtain ⟨number, ident, _, keyword⟩ := symbolKind_ne char
      refine ⟨fun kind => absurd kind number, ?_⟩
      rintro (kind | ⟨word, kind⟩)
      · exact absurd kind ident
      · exact absurd kind (keyword word)

/-- Each token stands in the text behind the characters of those in front of it. -/
theorem places_scanChars {front back : List Token} (scanned : scanChars text = front ++ token :: back) :
    ∃ before after, text = before ++ (token.literal.toList ++ after) ∧ '\x00' ∉ before ∧
      visible before = front.flatMap (fun token => token.literal.toList) ∧ Maximal token after := by
  induction text using scanChars.induct generalizing front with
  | case1 text ended =>
    rw [scanChars_of_none ended] at scanned
    simp at scanned
  | case2 text first rest found ih =>
    have maximal := maximal_of_next? found
    obtain ⟨lexeme, blanks, spaces, rfl⟩ := lexeme_of_next? found
    have nonzero : '\x00' ∉ blanks := fun zero => absurd (spaces _ zero) (by decide)
    rw [scanChars_of_some found] at scanned
    cases front with
    | nil =>
      cases scanned
      refine ⟨blanks, rest, rfl, nonzero, ?_, maximal⟩
      have blank : visible (blanks ++ []) = visible [] := visible_blanks spaces
      rwa [List.append_nil] at blank
    | cons head front =>
      obtain ⟨rfl, behind⟩ := List.cons.inj scanned
      obtain ⟨before, after, rfl, rest, kept, last⟩ := ih behind
      have own : visible (blanks ++ (first.literal.toList ++ before)) = first.literal.toList ++ visible before := by
        rw [visible_blanks spaces, visible_literal lexeme]
      refine ⟨blanks ++ (first.literal.toList ++ before), after, by simp only [List.append_assoc], ?_, ?_, last⟩
      · simp only [List.mem_append, not_or]
        exact ⟨nonzero, zero_not_mem_lexeme lexeme, rest⟩
      · rw [own, kept, List.flatMap_cons]

/-- Where a lexer stays: at the first zero character or at the end. -/
def ending (text : List Char) : List Char := text.dropWhile (· ≠ '\x00')

private theorem ending_blanks {blanks : List Char} (spaces : ∀ char ∈ blanks, isSpace char = true) :
    ending (blanks ++ text) = ending text := List.dropWhile_append_of_pos (nonzero_blanks spaces)

private theorem ending_literal (lexeme : Lexeme token) : ending (token.literal.toList ++ rest) = ending rest :=
  List.dropWhile_append_of_pos (nonzero_literal lexeme)

private theorem next?_ending (text : List Char) : next? (ending text) = none := by
  cases shape : ending text with
  | nil => rfl
  | cons char tail =>
    have zero : char = '\x00' := by
      have head := List.head?_dropWhile_not (fun char => decide (char ≠ '\x00')) text
      rw [← ending, shape] at head
      simpa using head
    subst zero
    rfl

private theorem next_of_some (found : next? text = some (token, rest)) : next text = (token, rest) := by
  rw [next, found, Option.getD_some]

/-- The space in front of the end is skipped, and the end is not passed. -/
theorem next_of_none (ended : next? text = none) : next text = (eof, ending text) := by
  obtain ⟨blanks, tail, spaces, rfl, dropped, ends⟩ := split_of_none ended
  have stays : ending tail = tail := by
    rcases ends with rfl | ⟨rest, rfl⟩
    · rfl
    · rfl
  rw [next, ended, Option.getD_none, dropped, ending_blanks spaces, stays]

private theorem nexts_of_none (ended : next? text = none) (count : Nat) : nexts count text = List.replicate count eof := by
  induction count generalizing text with
  | zero => rfl
  | succ count ih => rw [nexts, next_of_none ended, ih (next?_ending text), List.replicate_succ]

private theorem nexts_scanChars (text : List Char) (count : Nat) :
    nexts ((scanChars text).length + count) text = scanChars text ++ List.replicate count eof := by
  induction text using scanChars.induct with
  | case1 text ended =>
    rw [scanChars_of_none ended, List.length_nil, Nat.zero_add, List.nil_append, nexts_of_none ended]
  | case2 text token rest found ih =>
    rw [scanChars_of_some found, List.length_cons, Nat.add_right_comm, nexts, next_of_some found, ih, List.cons_append]

end MiniSql.Token

namespace MiniSql.Lexer
open Token

/-- Asked for one token after another the lexer gives these, and is then where the last one leaves it. -/
inductive Gives : Lexer → List Token → Lexer → Prop where
  | nothing : Gives lexer [] lexer
  | token (found : lexer.next? = some (token, after)) (more : Gives after others last) :
      Gives lexer (token :: others) last

private theorem Gives.tokens {lexer last : Lexer} {given : List Token} (gives : lexer.Gives given last)
    (ended : last.next? = none) : lexer.tokens = given := by
  induction gives with
  | nothing =>
    rw [Lexer.tokens]
    split
    · rfl
    next found => cases ended.symm.trans found
  | token found _ ih =>
    rw [Lexer.tokens]
    split
    next none => cases none.symm.trans found
    next other =>
      cases found.symm.trans other
      rw [ih ended]

private theorem next?_going {text rest : List Char} {token : Token} (asked : Token.next text = (token, rest)) :
    next? ⟨text, false⟩ = some (token, ⟨rest, token.kind == .eof⟩) := by
  rw [next?, if_neg Bool.false_ne_true, asked]

/-- A lexer gives the tokens of its text and the end token, and stays in front of what ended it. -/
theorem gives_scanChars (text : List Char) : Gives ⟨text, false⟩ (scanChars text ++ [eof]) ⟨ending text, true⟩ := by
  induction text using scanChars.induct with
  | case1 text ended =>
    rw [scanChars_of_none ended]
    exact .token (next?_going (next_of_none ended)) .nothing
  | case2 text token rest found ih =>
    obtain ⟨lexeme, blanks, spaces, rfl⟩ := lexeme_of_next? found
    have given := next?_going (next_of_some found)
    rw [beq_eq_false_iff_ne.mpr lexeme.kind_ne_eof] at given
    rw [scanChars_of_some found, ending_blanks spaces, ending_literal lexeme]
    exact .token given ih

end MiniSql.Lexer

namespace MiniSql.Token
open Text

variable {tokens : List Token}

private theorem lex_spaced_literals (scanned : ∀ token ∈ tokens, Scanned token) :
    lex (" ".intercalate (tokens.map literal)).toList = tokens := by
  rw [Grammar.lex_intercalate_space, List.flatMap_map]
  induction tokens with
  | nil => exact scanChars_of_none rfl
  | cons token tokens ih =>
    obtain ⟨own, others⟩ := List.forall_mem_cons.mp scanned
    have breaks : Breaks (tokens.flatMap fun token => ' ' :: token.literal.toList) := by
      cases tokens with
      | nil => exact .nil
      | cons => exact breaks_space rfl
    rw [List.flatMap_cons, List.cons_append, lex_space, lex_scanned own breaks, ih others]

/-- A lexer gives finitely many tokens, the end token last and only there, and stays in front of what ended it: at the
end of the upper-cased text or at its first zero character. Asked again it answers with the end token for ever. The other
tokens hold all characters in front of that place but the space, none could be longer, and their literals with single
spaces between them have the same tokens. -/
theorem scan_lossless (text : String) :
    let folded := (upper text).toList
    (∃ last : Lexer, (Lexer.start text).Gives (scan text ++ [eof]) last ∧ last.next? = none ∧
      last.text = folded.dropWhile (· ≠ '\x00') ∧ ∀ count, nexts count last.text = List.replicate count eof) ∧
    scanToEnd text = scan text ++ [eof] ∧
    (∀ count, nexts ((scan text).length + 1 + count) folded = scanToEnd text ++ List.replicate count eof) ∧
    (∀ token ∈ scan text, token.kind ≠ .eof ∧ token.literal ≠ "") ∧
    ((scan text).flatMap fun token => token.literal.toList) =
      (folded.takeWhile (· ≠ '\x00')).filter (fun char => !isSpace char) ∧
    (∀ front token back, scan text = front ++ token :: back → ∃ before after,
      folded = before ++ (token.literal.toList ++ after) ∧ '\x00' ∉ before ∧
      visible before = front.flatMap (fun token => token.literal.toList) ∧ Maximal token after) ∧
    scan (" ".intercalate ((scan text).map literal)) = scan text := by
  have folded : (upper text).toList = upperChars text.toList := String.toList_ofList
  have gives : (Lexer.start text).Gives (scan text ++ [eof]) ⟨ending (upperChars text.toList), true⟩ :=
    Lexer.gives_scanChars _
  have collected : scanToEnd text = scan text ++ [eof] := gives.tokens rfl
  simp only [folded]
  refine ⟨⟨_, gives, rfl, rfl, nexts_of_none (next?_ending _)⟩, collected, fun count => ?_, fun token member => ?_, ?_,
    fun front token back scanned => ?_, ?_⟩
  · rw [collected, Nat.add_assoc, scan, nexts_scanChars, List.append_assoc, List.replicate_add]
    rfl
  · have scanned := scanned_of_scan token member
    exact ⟨scanned.kind_ne_eof, lexeme_nonempty scanned.lexeme⟩
  · exact literals_scanChars _
  · exact places_scanChars scanned
  · exact lex_spaced_literals scanned_of_scan

/-- A number in front of a word with no space between them, a letter that becomes two, a digit that is not ASCII and
text behind a zero character, which is never read. -/
theorem scan_lossless_run_together :
    let text := "1ß_.x٣ 2\x00 3"
    let tokens : List Token := [⟨.literal, "1"⟩, ⟨.ident, "SS_.X٣"⟩, ⟨.literal, "2"⟩]
    scan text = tokens ∧ scanToEnd text = tokens ++ [eof] ∧
      (∃ last : Lexer, (Lexer.start text).Gives (tokens ++ [eof]) last ∧ last.next? = none ∧
        last.text = ['\x00', ' ', '3'] ∧ nexts 2 last.text = [eof, eof]) ∧
      nexts 6 (upper text).toList = tokens ++ [eof, eof, eof] ∧
      (∃ before after, (upper text).toList = before ++ ("SS_.X٣".toList ++ after) ∧ visible before = ['1'] ∧
        Maximal ⟨.ident, "SS_.X٣"⟩ after) ∧
      scan "1 SS_.X٣ 2" = tokens := by
  intro text tokens
  have scanned : scan text = tokens := by decide +kernel
  have ended : (upper text).toList.dropWhile (· ≠ '\x00') = ['\x00', ' ', '3'] := by decide +kernel
  obtain ⟨⟨last, gives, none, left, stays⟩, collected, asked, _, _, placed, again⟩ := scan_lossless text
  obtain ⟨before, after, split, _, kept, maximal⟩ := placed [⟨.literal, "1"⟩] ⟨.ident, "SS_.X٣"⟩ [⟨.literal, "2"⟩] scanned
  rw [collected, scanned] at asked
  rw [scanned] at gives collected again
  exact ⟨scanned, collected, ⟨last, gives, none, left.trans ended, stays 2⟩, asked 2, ⟨before, after, split, kept, maximal⟩,
    again⟩

end MiniSql.Token
