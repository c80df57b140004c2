import MiniSql.Proofs.Printing
import MiniSql.Proofs.ProgramReading

/-! Parsing undoes printing. A sequence of commands is well-formed exactly if its own text is parsed as it
again, and exactly if any text at all is. -/

namespace MiniSql

namespace Grammar
open Token

theorem phrases_formed {input rest : List Token} {commands : List Command} (phrases : Phrases input commands rest)
    (scanned : ∀ token ∈ input, Scanned token) : ∀ command ∈ commands, command.Formed := by
  induction phrases with
  | nil => exact fun _ member => nomatch member
  | cons first _ ih =>
    have more := ih (scanned_suffix (phrase_consumes.suffix first) scanned)
    exact List.forall_mem_cons.mpr ⟨phrase_yields _ _ _ scanned first, more⟩

/-- Commands as text with a space in front of each. -/
def spaced (commands : List Command) : List Char :=
  (commands.map Command.render).flatMap fun text => ' ' :: text.toList

private theorem lex_spaced (commands : List Command) : lex (Command.renderAll commands).toList = lex (spaced commands) :=
  lex_intercalate_space (commands.map Command.render)

private theorem phrases_spaced {commands : List Command} (formed : ∀ command ∈ commands, command.Formed) :
    Phrases (lex (spaced commands)) commands [] := by
  induction commands with
  | nil =>
    have empty : lex (spaced []) = [] := scanChars_of_none rfl
    rw [empty]
    exact .nil
  | cons first others ih =>
    obtain ⟨own, more⟩ := List.forall_mem_cons.mp formed
    have breaks : Breaks (spaced others) := by
      cases others with
      | nil => exact .nil
      | cons => exact breaks_mark (by decide)
    have split : spaced (first :: others) = ' ' :: (first.render.toList ++ spaced others) := rfl
    rw [split, lex_space]
    exact .cons (command_restores own _ breaks) (ih more)

end Grammar

namespace Command

theorem parse_renderAll {commands : List Command} (formed : WellFormed commands) :
    parse (renderAll commands) = .ok commands := by
  have phrases := Grammar.phrases_spaced formed.formed
  rw [← Grammar.lex_spaced] at phrases
  exact parse_eq_ok.mpr ⟨phrases, formed.chained⟩

theorem parse_wellFormed {text : String} {commands : List Command} (parsed : parse text = .ok commands) :
    WellFormed commands := by
  obtain ⟨phrases, chained⟩ := parse_eq_ok.mp parsed
  exact ⟨Grammar.phrases_formed phrases Token.scanned_of_scan, chained⟩

/-- The well-formed sequences are those that printing and parsing give back, and those that parsing gives at all. -/
theorem wellFormed_iff_parse (commands : List Command) :
    (WellFormed commands ↔ parse (renderAll commands) = .ok commands) ∧
      (WellFormed commands ↔ ∃ text, parse text = .ok commands) := by
  constructor
  · exact ⟨parse_renderAll, parse_wellFormed⟩
  · constructor
    · intro formed
      exact ⟨renderAll commands, parse_renderAll formed⟩
    · intro ⟨text, parsed⟩
      exact parse_wellFormed parsed

end Command

end MiniSql
