import Mathlib.Data.List.Basic
import MiniSql.Script

/-! How scripts are cut into lines. The lines are the same whether the bytes are cut or the characters of the text
they encode, for in the encoding no other character has the byte of a line feed or a carriage return. -/

namespace MiniSql.Script

/-- Lines end at a feed, and a return in front of it goes with it. The last line need not be ended. The items are the
bytes or the characters of a text. -/
inductive Lines (feed back : α) : List α → List (List α) → Prop where
  | nil : Lines feed back [] []
  | last (some : line ≠ []) (plain : feed ∉ line) : Lines feed back line [line]
  | feed (plain : feed ∉ line) (bare : line.getLast? ≠ some back) (others : Lines feed back rest cut) :
      Lines feed back (line ++ feed :: rest) (line :: cut)
  | returnFeed (plain : feed ∉ line) (others : Lines feed back rest cut) :
      Lines feed back (line ++ back :: feed :: rest) (line :: cut)

abbrev ByteLines : List UInt8 → List (List UInt8) → Prop := Lines 10 13

private theorem exists_lines {α : Type} (feed back : α) (items : List α) : ∃ cut, Lines feed back items cut := by
  suffices bounded : ∀ bound (items : List α), items.length ≤ bound → ∃ cut, Lines feed back items cut from
    bounded items.length items (Nat.le_refl _)
  intro bound
  induction bound with
  | zero =>
    intro items short
    obtain rfl := List.length_eq_zero_iff.mp (Nat.le_zero.mp short)
    exact ⟨[], .nil⟩
  | succ bound ih =>
    intro items short
    by_cases ended : feed ∈ items
    · obtain ⟨line, rest, rfl, plain⟩ := List.eq_append_cons_of_mem ended
      obtain ⟨cut, others⟩ := ih rest (by simp at short; omega)
      by_cases returned : line.getLast? = some back
      · obtain ⟨front, rfl⟩ := List.getLast?_eq_some_iff.mp returned
        refine ⟨front :: cut, ?_⟩
        rw [List.append_assoc, List.singleton_append]
        exact .returnFeed (fun member => plain (List.mem_append_left _ member)) others
      · exact ⟨line :: cut, .feed plain returned others⟩
    · cases items with
      | nil => exact ⟨[], .nil⟩
      | cons item items => exact ⟨[item :: items], .last (List.cons_ne_nil _ _) ended⟩

private theorem splitLines_plain {line : List UInt8} (plain : 10 ∉ line) (before bytes : List UInt8) :
    splitLines before (line ++ bytes) = splitLines (line.reverse ++ before) bytes := by
  induction line generalizing before with
  | nil => rfl
  | cons byte line ih =>
    have other : byte ≠ 10 := fun same => plain (by simp [same])
    rw [List.cons_append, splitLines, if_neg other, ih (fun member => plain (List.mem_cons_of_mem _ member)),
      List.reverse_cons, List.append_assoc, List.singleton_append]

private theorem splitLines_end (line : List UInt8) : splitLines line [] = if line = [] then [] else [line.reverse] := by
  cases line <;> rfl

private theorem lines_plain {line : List UInt8} (plain : 10 ∉ line) : lines line = if line = [] then [] else [line] := by
  have whole := splitLines_plain plain [] []
  rw [List.append_nil, List.append_nil] at whole
  simp only [lines, whole, splitLines_end, List.reverse_eq_nil_iff, List.reverse_reverse]

private theorem lines_feed {line : List UInt8} (plain : 10 ∉ line) (bytes : List UInt8) :
    lines (line ++ 10 :: bytes) = dropReturn line :: lines bytes := by
  rw [lines, splitLines_plain plain, splitLines, if_pos rfl, List.append_nil, List.reverse_reverse, lines]

/-- The lines of a script are the only way to cut it. -/
theorem lines_iff {bytes : List UInt8} {cut : List (List UInt8)} : ByteLines bytes cut ↔ cut = lines bytes := by
  have only : ∀ {cut}, ByteLines bytes cut → cut = lines bytes := by
    intro cut holds
    induction holds with
    | nil => rfl
    | last some plain => rw [lines_plain plain, if_neg some]
    | feed plain bare _ ih => rw [lines_feed plain, dropReturn, if_neg bare, ih]
    | @returnFeed line rest cut plain _ ih =>
      have longer : 10 ∉ line ++ [13] := by simpa using plain
      have whole := lines_feed longer rest
      rw [List.append_assoc, List.singleton_append] at whole
      rw [whole, dropReturn, List.getLast?_concat, if_pos rfl, List.dropLast_concat, ih]
  constructor
  · exact only
  · intro same
    obtain ⟨other, holds⟩ := exists_lines 10 13 bytes
    rw [same, ← only holds]
    exact holds

def encode (chars : List Char) : List UInt8 := chars.flatMap String.utf8EncodeChar

private theorem encode_append (chars more : List Char) : encode (chars ++ more) = encode chars ++ encode more := List.flatMap_append

theorem decode_eq_ok {bytes : List UInt8} {text : String} : decode bytes = .ok text ↔ bytes = encode text.toList := by
  have own : (⟨(encode text.toList).toArray⟩ : ByteArray) = text.toByteArray := by
    rw [← String.utf8Encode_toList]
    exact ByteArray.ext List.data_toByteArray.symm
  constructor
  · intro done
    unfold decode at done
    split at done
    next found =>
      cases done
      unfold String.fromUTF8? at found
      split at found
      · cases found
        simpa [String.fromUTF8] using (congrArg (fun array : ByteArray => array.data.toList) own).symm
      · cases found
    next => cases done
  · intro same
    have read : String.fromUTF8? text.toByteArray = some text := by
      rw [String.fromUTF8?, dif_pos text.isValidUTF8]
      rfl
    rw [decode, same, own, read]

private theorem toNat_byte {code : Nat} (low : code < 256) : (UInt8.ofNat code).toNat = code := UInt8.toNat_ofNat_of_lt' low

/-- A character is one byte below 128 or some bytes from there on. -/
theorem encodeChar_cases (char : Char) :
    (char.toNat < 128 ∧ String.utf8EncodeChar char = [UInt8.ofNat char.toNat]) ∨
      (128 ≤ char.toNat ∧ ∀ byte ∈ String.utf8EncodeChar char, 128 ≤ byte.toNat) := by
  change (char.val.toNat < 128 ∧ String.utf8EncodeChar char = [UInt8.ofNat char.val.toNat]) ∨ _
  unfold String.utf8EncodeChar
  dsimp only
  split
  · exact .inl ⟨by omega, rfl⟩
  · refine .inr ⟨by change 128 ≤ char.val.toNat; omega, ?_⟩
    have bound (code : Nat) (low : 128 ≤ code) (high : code < 256) : 128 ≤ (UInt8.ofNat code).toNat := by
      rwa [toNat_byte high]
    split
    · simp only [List.forall_mem_cons]
      exact ⟨bound _ (by omega) (by omega), bound _ (by omega) (by omega), nofun⟩
    · split
      · simp only [List.forall_mem_cons]
        exact ⟨bound _ (by omega) (by omega), bound _ (by omega) (by omega), bound _ (by omega) (by omega), nofun⟩
      · simp only [List.forall_mem_cons]
        exact ⟨bound _ (by omega) (by omega), bound _ (by omega) (by omega), bound _ (by omega) (by omega),
          bound _ (by omega) (by omega), nofun⟩

private theorem mem_encodeChar {char ascii : Char} (low : ascii.toNat < 128) :
    UInt8.ofNat ascii.toNat ∈ String.utf8EncodeChar char ↔ char = ascii := by
  have own : (UInt8.ofNat ascii.toNat).toNat = ascii.toNat := toNat_byte (by omega)
  rcases encodeChar_cases char with ⟨small, shape⟩ | ⟨large, bytes⟩
  · rw [shape, List.mem_singleton]
    constructor
    · intro same
      have codes := congrArg UInt8.toNat same
      rw [own, toNat_byte (by omega)] at codes
      exact (Char.toNat_inj.mp codes).symm
    · intro same
      rw [same]
  · constructor
    · intro member
      have above := bytes _ member
      omega
    · intro same
      subst same
      omega

private theorem mem_encode {chars : List Char} {ascii : Char} (low : ascii.toNat < 128) :
    UInt8.ofNat ascii.toNat ∈ encode chars ↔ ascii ∈ chars := by
  simp only [encode, List.mem_flatMap, mem_encodeChar low, exists_eq_right]

private theorem getLast?_encode {chars : List Char} {ascii : Char} (low : ascii.toNat < 128)
    (last : (encode chars).getLast? = some (UInt8.ofNat ascii.toNat)) : chars.getLast? = some ascii := by
  obtain rfl | ⟨front, char, rfl⟩ := List.eq_nil_or_concat' chars
  · cases last
  · have own : encode [char] = String.utf8EncodeChar char := List.flatMap_singleton ..
    rw [encode_append, own, List.getLast?_append_of_ne_nil _ String.utf8EncodeChar_ne_nil] at last
    rw [List.getLast?_concat, (mem_encodeChar low).mp (List.mem_of_getLast? last)]

theorem encode_lines {chars : List Char} {cut : List (List Char)} (lines : Lines '\n' '\r' chars cut) :
    ByteLines (encode chars) (cut.map encode) := by
  have feed (line : List Char) (plain : '\n' ∉ line) : 10 ∉ encode line :=
    fun member => plain ((@mem_encode line '\n' (by decide)).mp member)
  induction lines with
  | nil => exact .nil
  | @last line some plain =>
    refine .last (fun empty => some ?_) (feed line plain)
    cases line with
    | nil => rfl
    | cons char line => exact absurd (List.append_eq_nil_iff.mp empty).1 String.utf8EncodeChar_ne_nil
  | @feed line rest _ plain bare _ ih =>
    have whole : encode (line ++ '\n' :: rest) = encode line ++ 10 :: encode rest := encode_append ..
    rw [whole]
    exact .feed (feed line plain) (fun last => bare (@getLast?_encode line '\r' (by decide) last)) ih
  | @returnFeed line rest _ plain _ ih =>
    have whole : encode (line ++ '\r' :: '\n' :: rest) = encode line ++ 13 :: 10 :: encode rest :=
      encode_append ..
    rw [whole]
    exact .returnFeed (feed line plain) ih

/-- Lines as one text, each ended by a line feed. -/
def joined (lines : List String) : String := String.join (lines.map (· ++ "\n"))

theorem joined_append (lines more : List String) : joined (lines ++ more) = joined lines ++ joined more := by
  rw [joined, List.map_append, String.join_append, joined, joined]

theorem joined_cons (line : String) (lines : List String) : joined (line :: lines) = line ++ "\n" ++ joined lines := by
  rw [joined, List.map_cons, String.join_cons, joined]

theorem joined_snoc (lines : List String) (line : String) : joined (lines ++ [line]) = joined lines ++ line ++ "\n" := by
  rw [joined_append, String.append_assoc]
  rfl

theorem toList_joined (lines : List String) : (joined lines).toList = (lines.map String.toList).flatMap (· ++ ['\n']) := by
  induction lines with
  | nil => rfl
  | cons line lines ih => rw [joined_cons, String.toList_append, String.toList_append, ih]; rfl

/-- Lines put together are cut again as they were. -/
theorem lines_joined {lines : List String}
    (plain : ∀ line ∈ lines, '\n' ∉ line.toList ∧ line.toList.getLast? ≠ some '\r') :
    Lines '\n' '\r' (joined lines).toList (lines.map String.toList) := by
  rw [toList_joined]
  induction lines with
  | nil => exact .nil
  | cons line lines ih =>
    obtain ⟨⟨whole, bare⟩, others⟩ := List.forall_mem_cons.mp plain
    rw [List.map_cons, List.flatMap_cons, List.append_assoc, List.singleton_append]
    exact .feed whole bare (ih others)

namespace Session
variable (session : Session) {line : List UInt8} {lines : List (List UInt8)} {text : String}

theorem run_unreadable {error : Error} (read : decode line = .error error) :
    session.run (line :: lines) = (some error, session) := by
  simp only [run, step, read]

theorem run_exit (read : decode line = .ok text) (leaves : (isBlank session.pending && isExit text) = true) :
    session.run (line :: lines) = (none, session) := by
  simp only [run, step, read, leaves, if_true]

theorem run_taken (read : decode line = .ok text) (remains : (isBlank session.pending && isExit text) = false) :
    session.run (line :: lines) = (session.addLine text).run lines := by
  simp only [run, step, read, remains, Bool.false_eq_true, if_false]

end Session

end MiniSql.Script
