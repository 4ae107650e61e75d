import Mathlib.Data.List.Basic
import Migration.Naming

namespace Migration

/-! Which names come back from the plural. All plurals formed by the rules end in `s`, so the rules
for singulars are read here as a map of what stands before that letter, and composed with the map
that the rules for plurals make of a word. -/

namespace Inflection

/-! ## Endings -/

theorem endsWith_iff {word : List Char} {ending : String} :
    endsWith word ending = true ↔ ∃ front, word = front ++ ending.toList := by
  rw [endsWith, List.isSuffixOf_iff_suffix]
  exact exists_congr fun front => eq_comm

/-- Endings that share a tail with the word are compared before it. -/
theorem any_endsWith_append {endings shorter : List String} {tail : List Char}
    (spelled : endings.map (·.toList) = shorter.map (·.toList ++ tail)) (word : List Char) :
    endings.any (endsWith (word ++ tail)) = shorter.any (endsWith word) := by
  have same (ending : String) :
      (ending.toList ++ tail).isSuffixOf (word ++ tail) = endsWith word ending := by
    rw [Bool.eq_iff_iff, endsWith, List.isSuffixOf_iff_suffix, List.isSuffixOf_iff_suffix,
      List.suffix_append_self_iff]
  calc endings.any (endsWith (word ++ tail))
      = (endings.map (·.toList)).any (·.isSuffixOf (word ++ tail)) := by
        rw [List.any_map]
        rfl
    _ = (shorter.map (·.toList ++ tail)).any (·.isSuffixOf (word ++ tail)) := by rw [spelled]
    _ = shorter.any (endsWith word) := by simp [List.any_map, Function.comp_def, same]

/-- A word does not end in a letter other than its last. -/
theorem any_endsWith_concat {endings : List String} {c : Char}
    (others : ∀ ending ∈ endings, ending.toList.getLast?.any (· ≠ c) = true) (word : List Char) :
    endings.any (endsWith (word ++ [c])) = false := by
  rw [List.any_eq_false]
  intro ending member present
  have other := others ending member
  rcases endsWith_iff.mp present with ⟨front, spelled⟩
  have last := congrArg List.getLast? spelled
  cases letters : ending.toList.getLast? with
  | none => simp [letters] at other
  | some letter =>
      rw [List.getLast?_concat, List.getLast?_append, letters] at last
      rw [letters] at other
      simp_all

theorem stem?_eq_some_iff {word stem : List Char} {ending : String} :
    stem? word ending = some stem ↔ word = stem ++ ending.toList ∧ stem ≠ [] := by
  have before (front : List Char) :
      (front ++ ending.toList).take ((front ++ ending.toList).length - ending.length) = front := by
    rw [← String.length_toList, List.length_append, Nat.add_sub_cancel, List.take_left]
  constructor
  · intro found
    rw [stem?, Option.ite_none_right_eq_some, Bool.and_eq_true] at found
    rcases found with ⟨⟨ends, nonempty⟩, same⟩
    rcases endsWith_iff.mp ends with ⟨front, rfl⟩
    rw [before] at nonempty same
    rw [← Option.some.inj same]
    exact ⟨rfl, by simpa using nonempty⟩
  · rintro ⟨rfl, nonempty⟩
    have ends : endsWith (stem ++ ending.toList) ending = true := endsWith_iff.mpr ⟨stem, rfl⟩
    rw [stem?, before, ends]
    simpa using nonempty

theorem stem?_append {ending shorter : String} {tail : List Char}
    (spelled : ending.toList = shorter.toList ++ tail) (word : List Char) :
    stem? (word ++ tail) ending = stem? word shorter := by
  ext stem
  rw [stem?_eq_some_iff, stem?_eq_some_iff, spelled, ← List.append_assoc, List.append_left_inj]

theorem stem?_self (stem : List Char) (ending : String) :
    stem? (stem ++ ending.toList) ending = if stem.isEmpty then none else some stem := by
  ext before
  rw [stem?_eq_some_iff, List.append_left_inj]
  cases stem <;> simp +contextual [eq_comm]

theorem stem?_concat_of_ne {ending : String} {c : Char}
    (other : ending.toList.getLast?.any (· ≠ c) = true) (word : List Char) :
    stem? (word ++ [c]) ending = none := by
  have apart : [ending].any (endsWith (word ++ [c])) = false :=
    any_endsWith_concat (List.forall_mem_singleton.mpr other) word
  rw [List.any_cons, List.any_nil, Bool.or_false] at apart
  rw [stem?, apart]
  rfl

/-! ## The rules, before the last letter -/

/-- The singular of what is followed by `s`. -/
def singularBeforeS (stem : List Char) : List Char :=
  match stem? stem "ie" with
  | some before => before ++ ['y']
  | none =>
      if ["che", "she", "sse", "xe", "zze"].any (endsWith stem) then stem.dropLast
      else if stem.isEmpty || ["s", "u", "i"].any (endsWith stem) then stem ++ ['s']
      else stem

/-- The plural of the word, up to the `s` that follows. -/
def pluralBeforeS (word : List Char) : List Char :=
  if addsSyllable word then word ++ ['e']
  else match stem? word "y" with
    | some stem => if (stem.getLast?.map isVowel).getD true then word else stem ++ ['i', 'e']
    | none => word

theorem singularWord_concat_s {stem : List Char} (unlisted : stem ++ ['s'] ∉ uncountable) :
    singularWord (stem ++ ['s']) = singularBeforeS stem := by
  have regular : irregular.find? (·.2 = stem ++ ['s']) = none := by
    have noPlural : ∀ entry ∈ irregular, entry.2.getLast? ≠ some 's' := by decide
    rw [List.find?_eq_none]
    intro entry member same
    have last := noPlural entry member
    simp only [decide_eq_true_eq] at same
    simp [same] at last
  have listed : uncountable.contains (stem ++ ['s']) = false := by simpa using unlisted
  have shortened : (stem ++ ['s']).take ((stem ++ ['s']).length - 2) = stem.dropLast := by
    rw [List.dropLast_eq_take, List.length_append, List.take_append_of_le_length (by simp)]
    simp
  have alone : stem? (stem ++ ['s']) "s" = if stem.isEmpty then none else some stem :=
    stem?_self stem "s"
  have yielding : stem? (stem ++ ['s']) "ies" = stem? stem "ie" := stem?_append rfl stem
  have syllable : ["ches", "shes", "sses", "xes", "zzes"].any (endsWith (stem ++ ['s'])) =
      ["che", "she", "sse", "xe", "zze"].any (endsWith stem) := any_endsWith_append rfl stem
  have settled : ["ss", "us", "is"].any (endsWith (stem ++ ['s'])) =
      ["s", "u", "i"].any (endsWith stem) := any_endsWith_append rfl stem
  rw [singularWord, regular, singularBeforeS]
  dsimp only
  rw [listed, yielding, syllable, settled, shortened, alone]
  cases stem? stem "ie" with
  | some before => simp
  | none => cases stem.isEmpty <;> simp

theorem pluralWord_eq {word : List Char} (regular : irregular.lookup word = none)
    (countable : word ∉ uncountable) : pluralWord word = pluralBeforeS word ++ ['s'] := by
  have unlisted : uncountable.contains word = false := by simpa using countable
  rw [pluralWord, regular, pluralBeforeS]
  dsimp only
  rw [unlisted]
  cases addsSyllable word with
  | true => simp
  | false =>
      cases stem? word "y" with
      | none => simp
      | some stem =>
          simp only [Bool.false_eq_true, if_false]
          split <;> simp

theorem exists_irregular {word plural : List Char} (regular : irregular.lookup word = some plural) :
    (word, plural) ∈ irregular := by
  rcases List.lookup_eq_some_iff.mp regular with ⟨before, after, whole, _⟩
  simp [whole]

/-! ## Words -/

/-- A word that takes a syllable comes back if the singular takes it off again. Any other does if
its plural looks neither like a singular nor like the plural of another word. -/
def isRecoverable (word : List Char) : Bool :=
  uncountable.contains word ||
    if addsSyllable word then ["ch", "sh", "ss", "x", "zz"].any (endsWith word)
    else !word.isEmpty && (stem? word "ie").isNone
      && !(["che", "she", "sse", "xe", "zze"].any (endsWith word))
      && !(["u", "i"].any (endsWith word)) && !(["new".toList, "sery".toList].contains word)

theorem singularBeforeS_append_e {word : List Char} (syllable : addsSyllable word = true) :
    singularBeforeS (word ++ ['e']) =
      if ["ch", "sh", "ss", "x", "zz"].any (endsWith word) then word else word ++ ['e'] := by
  have noVowel : stem? word "i" = none := by
    rw [Option.eq_none_iff_forall_not_mem]
    intro front found
    rcases stem?_eq_some_iff.mp found with ⟨rfl, _⟩
    have none : addsSyllable (front ++ ['i']) = false := any_endsWith_concat (by decide) front
    exact Bool.false_ne_true (none.symm.trans syllable)
  have yielding : stem? (word ++ ['e']) "ie" = stem? word "i" := stem?_append rfl word
  have short : ["che", "she", "sse", "xe", "zze"].any (endsWith (word ++ ['e'])) =
      ["ch", "sh", "ss", "x", "zz"].any (endsWith word) := any_endsWith_append rfl word
  have settled : ["s", "u", "i"].any (endsWith (word ++ ['e'])) = false :=
    any_endsWith_concat (by decide) word
  rw [singularBeforeS, yielding, noVowel, short, settled]
  simp

theorem singularBeforeS_append_ie {stem : List Char} (nonempty : stem ≠ []) :
    singularBeforeS (stem ++ ['i', 'e']) = stem ++ ['y'] := by
  have yielding : stem? (stem ++ ['i', 'e']) "ie" = some stem :=
    stem?_eq_some_iff.mpr ⟨rfl, nonempty⟩
  rw [singularBeforeS, yielding]

theorem singularBeforeS_eq_self_iff {word : List Char} (plain : addsSyllable word = false) :
    singularBeforeS word = word ↔ word ≠ [] ∧ stem? word "ie" = none
      ∧ ["che", "she", "sse", "xe", "zze"].any (endsWith word) = false
      ∧ ["u", "i"].any (endsWith word) = false := by
  have noS : endsWith word "s" = false := by
    simp only [addsSyllable, List.any_cons, Bool.or_eq_false_iff] at plain
    exact plain.1
  have settled : ["s", "u", "i"].any (endsWith word) = ["u", "i"].any (endsWith word) := by
    rw [List.any_cons, noS, Bool.false_or]
  rw [singularBeforeS, settled]
  cases yielding : stem? word "ie" with
  | some before =>
      rcases stem?_eq_some_iff.mp yielding with ⟨rfl, _⟩
      simp
  | none =>
      dsimp only
      cases short : ["che", "she", "sse", "xe", "zze"].any (endsWith word) with
      | true =>
          have nonempty : word ≠ [] := by
            rintro rfl
            contradiction
          have shorter : word.dropLast ≠ word := by
            intro same
            have lengths := congrArg List.length same
            have positive := List.length_pos_of_ne_nil nonempty
            rw [List.length_dropLast] at lengths
            omega
          simpa using shorter
      | false => cases ["u", "i"].any (endsWith word) <;> cases word <;> simp

theorem isRecoverable_iff_of_plain {word : List Char} (countable : word ∉ uncountable)
    (apart : word ∉ ["new".toList, "sery".toList]) (plain : addsSyllable word = false) :
    isRecoverable word = true ↔ word ≠ [] ∧ stem? word "ie" = none
      ∧ ["che", "she", "sse", "xe", "zze"].any (endsWith word) = false
      ∧ ["u", "i"].any (endsWith word) = false := by
  have known : uncountable.contains word = false := by simpa using countable
  have other : ["new".toList, "sery".toList].contains word = false := by
    rw [← Bool.not_eq_true, List.contains_iff_mem]
    exact apart
  rw [isRecoverable, known, Bool.false_or, if_neg (Bool.not_eq_true _ ▸ plain), other]
  simp only [Bool.and_eq_true, Bool.not_eq_true', List.isEmpty_eq_false_iff,
    Option.isNone_iff_eq_none, and_assoc, and_true]

/-- Only three words have a plural by the rules that is listed as one without a singular. -/
theorem mem_of_listed {word : List Char} (listed : pluralBeforeS word ++ ['s'] ∈ uncountable) :
    word ∈ ["serie".toList, "new".toList, "sery".toList] := by
  have shortened : pluralBeforeS word ∈ ["new".toList, "serie".toList] := by
    have endings : ∀ name ∈ uncountable, name.getLast? = some 's' →
        name.dropLast ∈ ["new".toList, "serie".toList] := by decide
    simpa using endings _ listed (by simp)
  have self : word ∈ ["new".toList, "serie".toList] →
      word ∈ ["serie".toList, "new".toList, "sery".toList] := by grind
  rw [pluralBeforeS] at shortened
  split at shortened
  case isTrue syllable =>
    have none : ∀ stem ∈ ["new".toList, "serie".toList], addsSyllable stem.dropLast = false := by
      decide
    have plain := none _ shortened
    rw [List.dropLast_concat] at plain
    exact absurd syllable (Bool.eq_false_iff.mp plain)
  case isFalse =>
    split at shortened
    case h_1 stem found =>
      split at shortened
      case isTrue => exact self shortened
      case isFalse =>
        have yielding : stem? (stem ++ ['i', 'e']) "ie" = some stem :=
          stem?_eq_some_iff.mpr ⟨rfl, (stem?_eq_some_iff.mp found).2⟩
        have stems : ∀ name ∈ ["new".toList, "serie".toList],
            stem? name "ie" = none ∨ stem? name "ie" = some "ser".toList := by decide
        have same : stem = "ser".toList := by simpa [yielding] using stems _ shortened
        rw [(stem?_eq_some_iff.mp found).1, same]
        decide
    case h_2 => exact self shortened

theorem singularBeforeS_pluralBeforeS_iff {word : List Char} (countable : word ∉ uncountable)
    (unlisted : pluralBeforeS word ++ ['s'] ∉ uncountable) :
    singularBeforeS (pluralBeforeS word) = word ↔ isRecoverable word = true := by
  cases syllable : addsSyllable word with
  | true =>
      have known : uncountable.contains word = false := by simpa using countable
      have plural : pluralBeforeS word = word ++ ['e'] := by rw [pluralBeforeS, if_pos syllable]
      rw [plural, singularBeforeS_append_e syllable, isRecoverable, known, if_pos syllable]
      cases ["ch", "sh", "ss", "x", "zz"].any (endsWith word) <;> simp
  | false =>
      have apart : word ∉ ["new".toList, "sery".toList] := by
        have listed : ∀ name ∈ ["new".toList, "sery".toList],
            pluralBeforeS name ++ ['s'] ∈ uncountable := by decide
        exact fun member => unlisted (listed word member)
      rw [isRecoverable_iff_of_plain countable apart syllable]
      cases found : stem? word "y" with
      | none =>
          have unchanged : pluralBeforeS word = word := by
            rw [pluralBeforeS, syllable, found]
            rfl
          rw [unchanged, singularBeforeS_eq_self_iff syllable]
      | some stem =>
          rcases stem?_eq_some_iff.mp found with ⟨spelled, nonempty⟩
          by_cases vowel : (stem.getLast?.map isVowel).getD true = true
          · have unchanged : pluralBeforeS word = word := by
              rw [pluralBeforeS, syllable, found]
              simp [vowel]
            rw [unchanged, singularBeforeS_eq_self_iff syllable]
          · have plural : pluralBeforeS word = stem ++ ['i', 'e'] := by
              rw [pluralBeforeS, syllable, found]
              simp [vowel]
            rw [plural, singularBeforeS_append_ie nonempty, spelled]
            refine iff_of_true rfl ⟨by simp, ?_, ?_, ?_⟩
            · exact stem?_concat_of_ne (by decide) stem
            · exact any_endsWith_concat (by decide) stem
            · exact any_endsWith_concat (by decide) stem

theorem singularWord_pluralWord_iff (word : List Char) :
    singularWord (pluralWord word) = word ↔ isRecoverable word = true := by
  by_cases countable : word ∈ uncountable
  · have same : ∀ name ∈ uncountable,
        singularWord (pluralWord name) = name ∧ isRecoverable name = true := by decide
    exact iff_of_true (same word countable).1 (same word countable).2
  · cases regular : irregular.lookup word with
    | some plural =>
        have same : ∀ entry ∈ irregular, singularWord (pluralWord entry.1) = entry.1
            ∧ isRecoverable entry.1 = true := by decide
        have member := exists_irregular regular
        exact iff_of_true (same _ member).1 (same _ member).2
    | none =>
        rw [pluralWord_eq regular countable]
        by_cases listed : pluralBeforeS word ++ ['s'] ∈ uncountable
        · have same : ∀ name ∈ uncountable, singularWord name = name := by decide
          have lost : ∀ name ∈ ["serie".toList, "new".toList, "sery".toList],
              isRecoverable name = false := by decide
          rw [same _ listed, lost word (mem_of_listed listed)]
          exact iff_of_false (fun back => countable (back ▸ listed)) Bool.false_ne_true
        · rw [singularWord_concat_s listed]
          exact singularBeforeS_pluralBeforeS_iff countable listed

/-! ## Names of several words -/

theorem splitLastWord_cons (c : Char) (rest : List Char) :
    splitLastWord (c :: rest) =
      if (splitLastWord rest).1.isEmpty && c ≠ '_' then ([], c :: (splitLastWord rest).2)
      else (c :: (splitLastWord rest).1, (splitLastWord rest).2) := rfl

theorem append_splitLastWord (name : List Char) :
    (splitLastWord name).1 ++ (splitLastWord name).2 = name := by
  induction name with
  | nil => rfl
  | cons c rest induction =>
      rw [splitLastWord_cons]
      split
      case isTrue alone =>
        simp only [Bool.and_eq_true, List.isEmpty_iff] at alone
        rw [alone.1] at induction
        exact congrArg (c :: ·) induction
      case isFalse => exact congrArg (c :: ·) induction

theorem not_mem_splitLastWord (name : List Char) : '_' ∉ (splitLastWord name).2 := by
  induction name with
  | nil => simp [splitLastWord]
  | cons c rest induction =>
      rw [splitLastWord_cons]
      split
      case isTrue alone =>
        simp only [Bool.and_eq_true, decide_eq_true_eq] at alone
        simp [alone.2.symm, induction]
      case isFalse => exact induction

/-- Another last word stands in the place of the old one. -/
theorem splitLastWord_append (name : List Char) {word : List Char} (single : '_' ∉ word) :
    splitLastWord ((splitLastWord name).1 ++ word) = ((splitLastWord name).1, word) := by
  have alone : splitLastWord word = ([], word) := by
    induction word with
    | nil => rfl
    | cons c rest induction =>
        have ⟨noC, noRest⟩ : c ≠ '_' ∧ '_' ∉ rest := by simpa [eq_comm] using single
        simp [splitLastWord_cons, induction noRest, noC]
  induction name with
  | nil => exact alone
  | cons c rest induction =>
      by_cases inWord : ((splitLastWord rest).1.isEmpty && decide (c ≠ '_')) = true
      · rw [splitLastWord_cons, if_pos inWord]
        exact alone
      · rw [splitLastWord_cons c rest, if_neg inWord, List.cons_append, splitLastWord_cons,
          induction, if_neg inWord]

theorem not_mem_pluralWord {word : List Char} (single : '_' ∉ word) : '_' ∉ pluralWord word := by
  by_cases countable : word ∈ uncountable
  · have same : ∀ name ∈ uncountable, pluralWord name = name := by decide
    rwa [same word countable]
  · cases regular : irregular.lookup word with
    | some plural =>
        have none : ∀ entry ∈ irregular, '_' ∉ pluralWord entry.1 := by decide
        exact none _ (exists_irregular regular)
    | none =>
        rw [pluralWord_eq regular countable, pluralBeforeS]
        split
        case isTrue => simp [single]
        case isFalse =>
          split
          case h_1 stem found =>
            rw [(stem?_eq_some_iff.mp found).1] at single ⊢
            split <;> simp_all
          case h_2 => simp [single]

theorem singular_plural_iff {name : List Char} (nonempty : name ≠ []) :
    singular (plural name) = name ↔ isRecoverable (splitLastWord name).2 = true := by
  have single := not_mem_pluralWord (not_mem_splitLastWord name)
  have filled : name.isEmpty = false := by simpa using nonempty
  have formed : plural name = (splitLastWord name).1 ++ pluralWord (splitLastWord name).2 := by
    rw [plural, filled]
    rfl
  have back : singular (plural name) =
      (splitLastWord name).1 ++ singularWord (pluralWord (splitLastWord name).2) := by
    rw [formed, singular, splitLastWord_append name single]
  have whole := append_splitLastWord name
  rw [back, ← singularWord_pluralWord_iff]
  constructor
  · intro same
    exact List.append_cancel_left (same.trans whole.symm)
  · intro same
    rw [same, whole]

end Inflection

/-- The last word of the name comes back from its plural. -/
def Recoverable (name : String) : Prop :=
  Inflection.isRecoverable (Inflection.splitLastWord name.toList).2 = true

instance (name : String) : Decidable (Recoverable name) :=
  inferInstanceAs (Decidable (_ = true))

theorem singularize_pluralize_iff {name : String} :
    singularize (pluralize name) = name ↔ name = "" ∨ Recoverable name := by
  by_cases empty : name = ""
  · subst empty
    exact iff_of_true rfl (.inl rfl)
  · have filled : name.toList ≠ [] := by simpa using empty
    rw [or_iff_right empty, Recoverable, ← Inflection.singular_plural_iff filled, singularize,
      pluralize, String.toList_ofList, ← String.toList_inj, String.toList_ofList]

theorem singularize_tableName {entity : String}
    (recoverable : Recoverable (Text.snakeCase entity)) :
    singularize (tableName entity) = Text.snakeCase entity :=
  singularize_pluralize_iff.mpr (.inr recoverable)

/-- A name is the singular of its plural exactly if its last word is recoverable. Where the names of
two entities are, the join table of their own tables is called after both. -/
theorem singularize_pluralize_iff_and_joinTableName (name first second : String) :
    (singularize (pluralize name) = name ↔ name = "" ∨ Recoverable name)
      ∧ (Recoverable (Text.snakeCase first) → Recoverable (Text.snakeCase second) →
        joinTableName (tableName first) (tableName second) =
          if Text.snakeCase first ≤ Text.snakeCase second then
            Text.snakeCase first ++ "_" ++ Text.snakeCase second
          else Text.snakeCase second ++ "_" ++ Text.snakeCase first) := by
  refine ⟨singularize_pluralize_iff, fun ofFirst ofSecond => ?_⟩
  rw [joinTableName, singularize_tableName ofFirst, singularize_tableName ofSecond]

theorem blogCategory_recoverable :
    Recoverable "blog_category" ∧ singularize (pluralize "blog_category") = "blog_category"
      ∧ joinTableName (tableName "Person") (tableName "Branch") = "branch_person" := by
  have recoverable : Recoverable "blog_category" := by decide
  have ⟨recovered, named⟩ :=
    singularize_pluralize_iff_and_joinTableName "blog_category" "Person" "Branch"
  refine ⟨recoverable, recovered.mpr (.inr recoverable), ?_⟩
  rw [named (by decide +kernel) (by decide +kernel)]
  decide +kernel

/-- What is a singular already can be lost: the plural of `status` is read as that of `statuse`. -/
theorem status_not_recoverable :
    singularize "status" = "status" ∧ singularize (pluralize "status") = "statuse"
      ∧ joinTableName (tableName "Status") (tableName "User") = "statuse_user" := by
  decide +kernel

end Migration
