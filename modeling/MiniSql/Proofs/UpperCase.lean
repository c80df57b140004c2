import Mathlib.Data.Nat.Bitwise
import MiniSql.Text.Upper

/-! Upper case is final: no image of the mapping is mapped any further. The table is checked once as a
whole, with the mapped code points and their images held as the bits of two numbers. -/

namespace MiniSql.Text

/-- How far behind its first code point a run maps one. -/
def CaseRun.steps (run : CaseRun) : List Nat :=
  (List.range (run.last - run.first + 1)).filter fun step => step % run.stride = 0

def upperSources : List Nat :=
  upperRuns.flatMap (fun run => run.steps.map (run.first + ·)) ++ upperExpansions.map Prod.fst

def upperImages : List Nat :=
  upperRuns.flatMap (fun run => run.steps.map (run.image + ·)) ++ upperExpansions.flatMap Prod.snd

def mask : List Nat → Nat
  | [] => 0
  | code :: codes => mask codes ||| 1 <<< code

private theorem testBit_mask (codes : List Nat) (code : Nat) : (mask codes).testBit code = true ↔ code ∈ codes := by
  induction codes with
  | nil => simp [mask]
  | cons head codes ih =>
    rw [mask, Nat.testBit_or, Bool.or_eq_true, ih, Nat.one_shiftLeft, Nat.testBit_two_pow, decide_eq_true_eq,
      List.mem_cons, or_comm, eq_comm]

/-! Bits make this one operation on two numbers. Looking up each image in the table instead would walk
through all runs some fifteen hundred times. -/

private theorem masks_disjoint : mask upperSources &&& mask upperImages = 0 := by decide +kernel

private theorem images_valid : ∀ code ∈ upperImages, code.isValidChar := by decide +kernel

private theorem sources_above : ∀ code ∈ upperSources, 0x61 ≤ code := by decide +kernel

private theorem images_above : ∀ code ∈ upperImages, 0x41 ≤ code := by decide +kernel

private theorem expansions_nonempty : ∀ entry ∈ upperExpansions, entry.2 ≠ [] := by decide +kernel

private theorem not_mem_sources {code : Nat} (image : code ∈ upperImages) : code ∉ upperSources := by
  intro source
  have common : (mask upperSources &&& mask upperImages).testBit code = true := by
    rw [Nat.testBit_and, (testBit_mask _ _).mpr source, (testBit_mask _ _).mpr image, Bool.and_self]
  rw [masks_disjoint, Nat.zero_testBit] at common
  cases common

private theorem upperInRuns_eq_some {runs : List CaseRun} {code image : Nat} (found : upperInRuns runs code = some image) :
    ∃ run ∈ runs, ∃ step ∈ run.steps, code = run.first + step ∧ image = run.image + step := by
  induction runs with
  | nil => cases found
  | cons run runs ih =>
    rw [upperInRuns] at found
    split at found
    · cases found
    next behind =>
      split at found
      next applied =>
        unfold CaseRun.apply? at applied
        split at applied
        next inside =>
          refine ⟨run, List.mem_cons_self, code - run.first, ?_, ?_, ?_⟩
          · apply List.mem_filter.mpr
            exact ⟨List.mem_range.mpr (by omega), decide_eq_true inside.2⟩
          · omega
          · cases found
            exact (Option.some.inj applied).symm
        · cases applied
      next =>
        obtain ⟨other, member, shape⟩ := ih found
        exact ⟨other, List.mem_cons_of_mem run member, shape⟩

private theorem upperInRuns_mem {code image : Nat} (found : upperInRuns upperRuns code = some image) :
    code ∈ upperSources ∧ image ∈ upperImages := by
  obtain ⟨run, member, step, taken, rfl, rfl⟩ := upperInRuns_eq_some found
  constructor
  · apply List.mem_append_left
    exact List.mem_flatMap.mpr ⟨run, member, List.mem_map.mpr ⟨step, taken, rfl⟩⟩
  · apply List.mem_append_left
    exact List.mem_flatMap.mpr ⟨run, member, List.mem_map.mpr ⟨step, taken, rfl⟩⟩

private theorem mem_of_lookup {entries : List (Nat × List Nat)} {code : Nat} {images : List Nat}
    (found : entries.lookup code = some images) : (code, images) ∈ entries := by
  induction entries with
  | nil => cases found
  | cons entry entries ih =>
    rw [List.lookup_cons] at found
    split at found
    next same =>
      cases found
      rw [eq_of_beq same]
      exact List.mem_cons_self
    · exact List.mem_cons_of_mem entry (ih found)

private theorem upperCodes_of_not_mem {code : Nat} (fixed : code ∉ upperSources) : upperCodes code = [code] := by
  unfold upperCodes
  split
  next found => exact absurd (upperInRuns_mem found).1 fixed
  next =>
    split
    next found =>
      have source := List.mem_map_of_mem (f := Prod.fst) (mem_of_lookup found)
      exact absurd (List.mem_append_right _ source) fixed
    · rfl

/-- A code point is its own upper case or becomes images of the table. -/
theorem upperCodes_cases (code : Nat) : upperCodes code = [code] ∨ ∀ image ∈ upperCodes code, image ∈ upperImages := by
  unfold upperCodes
  split
  next found =>
    right
    intro other member
    rw [List.mem_singleton.mp member]
    exact (upperInRuns_mem found).2
  next =>
    split
    next images found =>
      right
      intro image member
      apply List.mem_append_right
      exact List.mem_flatMap.mpr ⟨(code, images), mem_of_lookup found, member⟩
    · exact .inl rfl

/-- A character that is its own upper case. -/
def UpperFixed (char : Char) : Prop := upperChar char = [char]

private theorem upperChar_fixed {char image : Char} (member : image ∈ upperChar char) : UpperFixed image := by
  rcases upperCodes_cases char.toNat with same | images
  · rw [upperChar, same, List.map_singleton, Char.ofNat_toNat, List.mem_singleton] at member
    rw [member, UpperFixed, upperChar, same, List.map_singleton, Char.ofNat_toNat]
  · obtain ⟨code, inside, rfl⟩ := List.mem_map.mp member
    have final := images code inside
    have back : (Char.ofNat code).toNat = code := by
      rw [Char.ofNat, dif_pos (images_valid code final)]
      rfl
    rw [UpperFixed, upperChar, back, upperCodes_of_not_mem (not_mem_sources final), List.map_singleton]

theorem upperFixed_of_lt {char : Char} (below : char.toNat < 0x61) : UpperFixed char := by
  have fixed : char.toNat ∉ upperSources := by
    intro source
    have above := sources_above _ source
    omega
  rw [UpperFixed, upperChar, upperCodes_of_not_mem fixed, List.map_singleton, Char.ofNat_toNat]

theorem upperChars_fixed (chars : List Char) : ∀ image ∈ upperChars chars, UpperFixed image := by
  intro image member
  obtain ⟨char, _, inside⟩ := List.mem_flatMap.mp member
  exact upperChar_fixed inside

theorem upperChars_of_fixed {chars : List Char} (fixed : ∀ char ∈ chars, UpperFixed char) : upperChars chars = chars := by
  induction chars with
  | nil => rfl
  | cons char chars ih =>
    obtain ⟨first, others⟩ := List.forall_mem_cons.mp fixed
    rw [upperChars, List.flatMap_cons, first, ← upperChars, ih others, List.singleton_append]

theorem upperChars_append (chars more : List Char) : upperChars (chars ++ more) = upperChars chars ++ upperChars more :=
  List.flatMap_append

private theorem upperChar_ne_nil (char : Char) : upperChar char ≠ [] := by
  rw [upperChar, ne_eq, List.map_eq_nil_iff]
  unfold upperCodes
  split
  · exact List.cons_ne_nil _ _
  · split
    next found => exact expansions_nonempty _ (mem_of_lookup found)
    · exact List.cons_ne_nil _ _

theorem upperChar_above {char image : Char} (member : image ∈ upperChar char) : image = char ∨ 0x41 ≤ image.toNat := by
  rcases upperCodes_cases char.toNat with same | images
  · rw [upperChar, same, List.map_singleton, Char.ofNat_toNat, List.mem_singleton] at member
    exact .inl member
  · obtain ⟨code, inside, rfl⟩ := List.mem_map.mp member
    have final := images code inside
    rw [Char.ofNat, dif_pos (images_valid code final)]
    exact .inr (images_above code final)

theorem zero_mem_upperChars {chars : List Char} : '\x00' ∈ upperChars chars ↔ '\x00' ∈ chars := by
  constructor
  · intro zero
    obtain ⟨char, member, inside⟩ := List.mem_flatMap.mp zero
    rcases upperChar_above inside with same | above
    · rwa [same]
    · exact absurd above (by decide)
  · intro zero
    have fixed : UpperFixed '\x00' := upperFixed_of_lt (by decide)
    exact List.mem_flatMap.mpr ⟨'\x00', zero, by rw [fixed, List.mem_singleton]⟩

theorem upperChars_undigited {chars : List Char} (plain : ∀ char ∈ chars.head?, char.isDigit = false) :
    ∀ image ∈ (upperChars chars).head?, image.isDigit = false := by
  cases chars with
  | nil => exact fun _ head => nomatch head
  | cons char chars =>
    intro image head
    rw [upperChars, List.flatMap_cons] at head
    cases shape : upperChar char with
    | nil => exact absurd shape (upperChar_ne_nil char)
    | cons first others =>
      rw [shape] at head
      obtain rfl : first = image := Option.some.inj head
      rcases upperChar_above (shape ▸ List.mem_cons_self) with rfl | above
      · exact plain _ rfl
      · by_contra number
        have bound := (Char.isDigit_iff_toNat.mp (Bool.of_not_eq_false number)).2
        exact absurd above (Nat.not_le.mpr (Nat.lt_of_le_of_lt bound (by decide)))

theorem upper_eq_self {text : String} : upper text = text ↔ ∀ char ∈ text.toList, UpperFixed char := by
  constructor
  · intro same
    have chars : upperChars text.toList = text.toList := by rw [← String.toList_ofList (l := upperChars text.toList), ← upper, same]
    rw [← chars]
    exact upperChars_fixed text.toList
  · intro fixed
    rw [upper, upperChars_of_fixed fixed, String.ofList_toList]

end MiniSql.Text
