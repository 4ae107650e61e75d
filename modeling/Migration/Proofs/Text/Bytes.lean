import Mathlib.Data.List.Lex

namespace Migration.Text

/-! The bytes of texts. Texts are sorted alike by their characters and by their bytes, since the
first byte of a character says how many follow it, and of two characters of one length the bytes are
the digits. -/

/-- The bytes of a text, by which file names are sorted. -/
def bytes (text : String) : List UInt8 :=
  text.toUTF8.data.toList

theorem bytes_append (left right : String) : bytes (left ++ right) = bytes left ++ bytes right := by
  simp [bytes]

theorem bytes_ofList (characters : List Char) :
    bytes (.ofList characters) = characters.flatMap String.utf8EncodeChar := by
  simp [bytes, List.utf8Encode]

theorem bytes_ofList_of_ascii {characters : List Char} (ascii : ∀ c ∈ characters, c.toNat < 128) :
    bytes (.ofList characters) = characters.map fun c => UInt8.ofNat c.toNat := by
  rw [bytes_ofList, List.map_eq_flatMap]
  apply List.flatMap_congr
  intro c member
  have small : c.val.toNat ≤ 127 := Nat.le_of_lt_succ (ascii c member)
  rw [String.utf8EncodeChar, if_pos small]
  rfl

theorem byte_cons_lt {left right : Nat} {leftRest rightRest : List UInt8} (fits : right < 256)
    (notGreater : left ≤ right) (less : left = right → leftRest < rightRest) :
    UInt8.ofNat left :: leftRest < UInt8.ofNat right :: rightRest := by
  rcases Nat.lt_or_eq_of_le notGreater with first | same
  · refine .rel (UInt8.lt_iff_toNat_lt.mpr ?_)
    rwa [UInt8.toNat_ofNat', UInt8.toNat_ofNat', Nat.mod_eq_of_lt (Nat.lt_trans first fits),
      Nat.mod_eq_of_lt fits]
  · rw [same]
    exact .cons (less same)

theorem utf8EncodeChar_append_lt {left right : Char} (less : left < right)
    (leftRest rightRest : List UInt8) :
    String.utf8EncodeChar left ++ leftRest < String.utf8EncodeChar right ++ rightRest := by
  have numbers : left.val.toNat < right.val.toNat := less
  have bound : right.val.toNat < 0x110000 := by
    have valid : right.val.toNat.isValidChar := right.valid
    simp only [Nat.isValidChar] at valid
    omega
  rw [String.utf8EncodeChar, String.utf8EncodeChar]
  generalize left.val.toNat = first at numbers
  generalize right.val.toNat = second at numbers bound
  have leads {lead other : Nat} {rest otherRest : List UInt8} (fits : other < 256)
      (isLess : lead < other) : UInt8.ofNat lead :: rest < UInt8.ofNat other :: otherRest :=
    byte_cons_lt fits isLess.le fun same => absurd same isLess.ne
  split
  case isTrue one =>
    repeat' split
    all_goals exact leads (by omega) (by omega)
  case isFalse =>
    split
    case isTrue two =>
      rw [if_neg (by omega)]
      split
      case isTrue otherTwo =>
        exact byte_cons_lt (by omega) (by omega) fun _ => leads (by omega) (by omega)
      case isFalse =>
        split
        all_goals exact leads (by omega) (by omega)
    case isFalse =>
      split
      case isTrue three =>
        rw [if_neg (by omega), if_neg (by omega)]
        split
        case isTrue otherThree =>
          exact byte_cons_lt (by omega) (by omega) fun _ =>
            byte_cons_lt (by omega) (by omega) fun _ => leads (by omega) (by omega)
        case isFalse => exact leads (by omega) (by omega)
      case isFalse four =>
        rw [if_neg (by omega), if_neg (by omega), if_neg (by omega)]
        exact byte_cons_lt (by omega) (by omega) fun _ =>
          byte_cons_lt (by omega) (by omega) fun _ =>
            byte_cons_lt (by omega) (by omega) fun _ => leads (by omega) (by omega)

theorem bytes_lt {left right : List Char} (less : left < right) :
    bytes (.ofList left) < bytes (.ofList right) := by
  rw [bytes_ofList, bytes_ofList]
  induction less with
  | @nil first rest =>
      rcases List.exists_cons_of_ne_nil (String.utf8EncodeChar_ne_nil (c := first)) with
        ⟨byte, more, encoded⟩
      rw [List.flatMap_nil, List.flatMap_cons, encoded]
      exact .nil
  | rel first => exact utf8EncodeChar_append_lt first _ _
  | cons _ induction => exact List.append_left_lt induction

theorem bytes_le {left right : String} (notGreater : left ≤ right) : bytes left ≤ bytes right := by
  by_cases notLess : right ≤ left
  · rw [String.le_antisymm notGreater notLess]
    exact List.le_refl _
  · have less := bytes_lt (String.lt_iff.mp (String.not_le.mp notLess))
    rw [String.ofList_toList, String.ofList_toList] at less
    exact List.le_of_lt less

end Migration.Text
