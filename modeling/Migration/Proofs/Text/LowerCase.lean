import Mathlib.Data.Nat.Bitwise
import Migration.Naming

namespace Migration.Text

/-! What is in lower case stays as it is when it is put in lower case once more. For the characters
beyond ASCII the map is a table, and no image in it is itself a source. So the names of constraints
keep the words of an identifier as they are. -/

/-! ## Sets of code points as numbers -/

/-- The number whose set bits are the given ones. -/
def bitsOf (codes : List Nat) : Nat :=
  codes.foldr (fun code bits => 2 ^ code ||| bits) 0

theorem testBit_bitsOf {codes : List Nat} {code : Nat} :
    (bitsOf codes).testBit code = true ↔ code ∈ codes := by
  induction codes with
  | nil => simp [bitsOf]
  | cons first rest induction =>
      have added : bitsOf (first :: rest) = 2 ^ first ||| bitsOf rest := rfl
      rw [added, Nat.testBit_or, Nat.testBit_two_pow, Bool.or_eq_true, induction,
        decide_eq_true_eq, List.mem_cons, eq_comm]

theorem disjoint_of_bitsOf {left right : List Nat} (apart : bitsOf left &&& bitsOf right = 0)
    {code : Nat} (member : code ∈ left) : code ∉ right := by
  intro shared
  have both : (bitsOf left &&& bitsOf right).testBit code = true := by
    rw [Nat.testBit_and, testBit_bitsOf.mpr member, testBit_bitsOf.mpr shared]
    rfl
  rw [apart, Nat.zero_testBit] at both
  contradiction

/-! ## Tables of code points -/

def Run.codes (run : Run) : List Nat :=
  List.range' run.first ((run.last - run.first) / run.step + 1) run.step

theorem Run.mem_codes {run : Run} {code : Nat} (contained : run.contains code = true) :
    code ∈ run.codes := by
  simp only [contains, Bool.and_eq_true, decide_eq_true_eq, beq_iff_eq] at contained
  rcases contained with ⟨⟨notBefore, notAfter⟩, onStep⟩
  refine List.mem_range'.mpr ⟨(code - run.first) / run.step, ?_, ?_⟩
  · exact Nat.lt_succ_of_le (Nat.div_le_div_right (Nat.sub_le_sub_right notAfter _))
  · rw [Nat.mul_div_cancel' (Nat.dvd_of_mod_eq_zero onStep)]
    omega

namespace CodePointMap

variable (map : CodePointMap)

def sources : List Nat :=
  map.shifts.flatMap (·.source.codes)

def images : List Nat :=
  map.shifts.flatMap fun shift =>
    shift.source.codes.map fun code => shift.target + (code - shift.source.first)

variable {map}

theorem apply_eq_self {c : Char} (notSource : c.toNat ∉ map.sources) : map.apply c = c := by
  have unmoved : map.shifts.findSome? (·.image? c.toNat) = none := by
    rw [List.findSome?_eq_none_iff]
    intro shift member
    rw [Shift.image?]
    split
    case isTrue contained =>
      exact absurd (List.mem_flatMap.mpr ⟨shift, member, Run.mem_codes contained⟩) notSource
    case isFalse => rfl
  rw [apply, unmoved]
  rfl

theorem apply_eq_self_or (c : Char) :
    (map.apply c = c ∧ ∀ shift ∈ map.shifts, shift.source.contains c.toNat = false)
      ∨ ∃ image ∈ map.images, map.apply c = Char.ofNat image := by
  rw [apply]
  cases moved : map.shifts.findSome? (·.image? c.toNat) with
  | none =>
      refine .inl ⟨rfl, fun shift member => ?_⟩
      have unmoved := List.findSome?_eq_none_iff.mp moved shift member
      rw [Shift.image?] at unmoved
      simpa using unmoved
  | some image =>
      rcases List.exists_of_findSome?_eq_some moved with ⟨shift, member, given⟩
      rw [Shift.image?] at given
      split at given
      case isTrue contained =>
        rw [← Option.some.inj given]
        exact .inr ⟨_, List.mem_flatMap.mpr ⟨shift, member,
          List.mem_map.mpr ⟨c.toNat, Run.mem_codes contained, rfl⟩⟩, rfl⟩
      case isFalse => contradiction

end CodePointMap

/-! ## Lower case -/

/-- The images of the table, and the two characters beyond ASCII that lower case yields without
it: the dot of a dotted capital, and the final sigma. -/
def loweredBeyondAscii : List Nat :=
  0x307 :: 0x3C2 :: lowerBeyondAscii.images

-- The text of the table is spelled out as a list of characters before anything is computed from it.
set_option maxRecDepth 100000 in
theorem lowerBeyondAscii_apart :
    bitsOf loweredBeyondAscii &&& bitsOf lowerBeyondAscii.sources = 0
      ∧ (∀ code ∈ loweredBeyondAscii, code.isValidChar ∧ (code = 0x6B ∨ 128 ≤ code)
        ∧ code ≠ 0x130 ∧ code ≠ 0x3A3)
      ∧ ∃ shift ∈ lowerBeyondAscii.shifts, shift.source.contains 'Σ'.toNat = true := by
  have spelled : lowerBeyondAscii = .ofText (.ofList _) := rfl
  rw [loweredBeyondAscii, spelled, CodePointMap.ofText, itemsOfText_ofList]
  decide +kernel

/-- A character that stays as it is in lower case, and that the names of constraints keep. -/
structure Settled (c : Char) : Prop where
  noSigma : c ≠ 'Σ'
  lowered : lower c = [c]
  kept : c ≠ '-' ∧ c ≠ '.'

instance (c : Char) : Decidable (Settled c) :=
  decidable_of_iff (_ ∧ _ ∧ _)
    ⟨fun ⟨noSigma, lowered, kept⟩ => ⟨noSigma, lowered, kept⟩,
      fun settled => ⟨settled.noSigma, settled.lowered, settled.kept⟩⟩

theorem settled_toLower {c : Char} (ascii : c.toNat < 128) (alphanumeric : c.isAlphanum = true) :
    Settled c.toLower := by
  have checked : ∀ code < 128, (Char.ofNat code).isAlphanum = true →
      Settled (Char.ofNat code).toLower := by decide
  have settled := checked c.toNat ascii
  rw [Char.ofNat_toNat] at settled
  exact settled alphanumeric

theorem settled_of_unmoved {c : Char} (beyond : 128 ≤ c.toNat) (noDottedCapital : c ≠ 'İ')
    (noSigma : c ≠ 'Σ') (unmoved : lowerBeyondAscii.apply c = c) : Settled c := by
  have noAscii (other : Char) (ascii : other.toNat < 128) : c ≠ other := by
    rintro rfl
    omega
  refine ⟨noSigma, ?_, noAscii '-' (by decide), noAscii '.' (by decide)⟩
  rw [lower, if_neg (by omega), if_neg noDottedCapital, unmoved]

theorem settled_ofNat {code : Nat} (listed : code ∈ loweredBeyondAscii) :
    Settled (Char.ofNat code) := by
  have ⟨apart, images, _⟩ := lowerBeyondAscii_apart
  have ⟨valid, range, noDottedCapital, noSigma⟩ := images code listed
  rcases range with rfl | beyond
  · decide
  · have number : (Char.ofNat code).toNat = code := by
      rw [Char.ofNat, dif_pos valid]
      rfl
    have differs (other : Char) (apart : code ≠ other.toNat) : Char.ofNat code ≠ other := by
      rintro rfl
      exact apart number.symm
    exact settled_of_unmoved (by omega) (differs 'İ' noDottedCapital) (differs 'Σ' noSigma)
      (CodePointMap.apply_eq_self (number.symm ▸ disjoint_of_bitsOf apart listed))

/-- What lower case makes of the characters that words consist of. -/
theorem settled_lower {c : Char} (alphanumeric : isAlphanumeric c = true) :
    ∀ d ∈ lower c, Settled d := by
  rw [isAlphanumeric] at alphanumeric
  rw [lower]
  by_cases ascii : c.toNat < 128
  · rw [if_pos ascii] at alphanumeric ⊢
    simpa using settled_toLower ascii alphanumeric
  · rw [if_neg ascii]
    by_cases dotted : c = 'İ'
    · have dot : Settled '\u0307' := settled_ofNat List.mem_cons_self
      have letter : Settled 'i' := by decide
      rw [if_pos dotted]
      simp [letter, dot]
    · rw [if_neg dotted, List.forall_mem_singleton]
      have ⟨_, _, shift, isShift, sigma⟩ := lowerBeyondAscii_apart
      rcases lowerBeyondAscii.apply_eq_self_or c with ⟨unmoved, noSource⟩ | ⟨_, listed, moved⟩
      · rw [unmoved]
        refine settled_of_unmoved (by omega) dotted ?_ unmoved
        rintro rfl
        exact Bool.false_ne_true ((noSource shift isShift).symm.trans sigma)
      · rw [moved]
        exact settled_ofNat (List.mem_cons_of_mem _ (List.mem_cons_of_mem _ listed))

/-! ## Words -/

theorem not_isBreak_of_mem_splitWhere {isBreak : Char → Bool} {text field : List Char}
    (member : field ∈ splitWhere isBreak text) : ∀ c ∈ field, isBreak c = false := by
  have nonempty (text : List Char) : splitWhere isBreak text ≠ [] := by
    fun_cases splitWhere isBreak text <;> simp
  induction text generalizing field with
  | nil => simp_all [splitWhere]
  | cons c rest induction =>
      rw [splitWhere] at member
      split at member
      case h_1 none => exact absurd none (nonempty rest)
      case h_2 first fields fieldsOfRest =>
        rw [fieldsOfRest] at induction
        have ofFirst := induction List.mem_cons_self
        split at member
        case isTrue =>
          rcases List.mem_cons.mp member with rfl | later
          · simp
          · exact induction later
        case isFalse noBreak =>
          rcases List.mem_cons.mp member with rfl | later
          · exact List.forall_mem_cons.mpr ⟨by simpa using noBreak, ofFirst⟩
          · exact induction (List.mem_cons_of_mem _ later)

theorem mem_of_mem_wordsAfter {stretch : Stretch} {word text made : List Char}
    (member : made ∈ wordsAfter stretch word text) : ∀ c ∈ made, c ∈ word ∨ c ∈ text := by
  fun_induction wordsAfter stretch word text generalizing made with
  | case1 => simp_all
  | case2 => simp_all
  | case3 => simp_all
  | case4 stretch word c next rest _ induction => grind
  | case5 stretch word c next rest _ _ induction => grind
  | case6 stretch word c next rest _ _ induction => grind

theorem isAlphanumeric_of_mem_words {text word : List Char} (member : word ∈ words text) :
    ∀ c ∈ word, isAlphanumeric c = true := by
  rcases List.mem_flatMap.mp member with ⟨piece, isPiece, made⟩
  intro c inWord
  have inPiece : c ∈ piece := by simpa using mem_of_mem_wordsAfter made c inWord
  simpa using not_isBreak_of_mem_splitWhere isPiece c inPiece

theorem settled_lowerWord {word : List Char} (alphanumeric : ∀ c ∈ word, isAlphanumeric c = true) :
    ∀ c ∈ lowerWord word, Settled c := by
  fun_induction lowerWord word with
  | case1 => simp
  | case2 =>
      have finalSigma : Settled 'ς' :=
        settled_ofNat (List.mem_cons_of_mem _ List.mem_cons_self)
      simpa using finalSigma
  | case3 c => exact settled_lower (alphanumeric c List.mem_cons_self)
  | case4 c rest _ induction =>
      have ⟨first, later⟩ := List.forall_mem_cons.mp alphanumeric
      exact List.forall_mem_append.mpr ⟨settled_lower first, induction later⟩

theorem forall_mem_intercalate {α : Type} {wanted : α → Prop} {separator : List α}
    {pieces : List (List α)} (ofSeparator : ∀ c ∈ separator, wanted c)
    (ofPieces : ∀ piece ∈ pieces, ∀ c ∈ piece, wanted c) :
    ∀ c ∈ separator.intercalate pieces, wanted c := by
  fun_induction List.intersperse separator pieces with
  | case1 => simp
  | case2 => simpa using ofPieces
  | case3 first rest more induction =>
      have ⟨ofFirst, later⟩ := List.forall_mem_cons.mp ofPieces
      rw [List.intercalate_cons_of_ne_nil more]
      simp only [List.forall_mem_append]
      exact ⟨⟨ofFirst, ofSeparator⟩, induction later⟩

theorem settled_snakeCase (text : String) : ∀ c ∈ (snakeCase text).toList, Settled c := by
  rw [snakeCase, String.toList_ofList]
  have ofSeparator : Settled '_' := by decide
  refine forall_mem_intercalate (List.forall_mem_singleton.mpr ofSeparator) ?_
  intro piece isPiece
  rcases List.mem_map.mp isPiece with ⟨word, isWord, rfl⟩
  exact settled_lowerWord (isAlphanumeric_of_mem_words isWord)

end Migration.Text
