/-
# The words for a missing field in a report

A report of a body that does not read is searched for the words for a missing field, and this module
says when they are found: if a field is missing, or if they stand in the text that the report quotes
(`hasMark_report_iff`). Around the quoted text there is nothing that makes or hides an occurrence.
The words have a blank in them, and the place in front has none, as the names of fields are words.
A colon or a quotation mark cannot stand in the middle of an occurrence, so the parts of a report
are searched one by one. And escaping a text keeps its occurrences and makes no others (`Spares`),
whichever characters beside the letters of the words are written by their numbers.
-/

import Mathlib.Data.List.Infix
import Payslip.Proofs.Reading.Quotation
import Payslip.Service.Report

namespace Payslip.Service

open Payslip.Reading

/-! ## Occurrences -/

section Occurrences

variable {part front back text : List Char} {c separator : Char}

theorem occursIn_iff : occursIn part text = true ↔ part <:+: text := by
  induction text with
  | nil => rw [occursIn, List.isEmpty_iff, List.infix_nil]
  | cons c rest ih =>
      rw [occursIn, Bool.or_eq_true, List.isPrefixOf_iff_prefix, ih, List.infix_cons_iff]

/-- Nothing begins with a character other than its first. -/
theorem infix_cons_of_head?_ne (some_letter : part ≠ []) (other : part.head? ≠ some c) :
    part <:+: c :: text ↔ part <:+: text := by
  obtain ⟨first, more, rfl⟩ := List.exists_cons_of_ne_nil some_letter
  rw [List.infix_cons_iff, List.cons_prefix_cons]
  exact or_iff_right fun begins => other (congrArg some begins.1)

theorem infix_append_of_head?_not_mem (some_letter : part ≠ [])
    (absent : ∀ c ∈ front, part.head? ≠ some c) : part <:+: front ++ text ↔ part <:+: text := by
  induction front with
  | nil => rfl
  | cons c front ih =>
      obtain ⟨here, later⟩ := List.forall_mem_cons.mp absent
      rw [List.cons_append, infix_cons_of_head?_ne some_letter here, ih later]

theorem prefix_append_cons_iff (outside : separator ∉ part) :
    part <+: front ++ separator :: back ↔ part <+: front := by
  induction part generalizing front with
  | nil => simp
  | cons letter part ih =>
      rw [List.mem_cons, not_or] at outside
      cases front with
      | nil => simp [List.cons_prefix_cons, Ne.symm outside.1]
      | cons c front =>
          rw [List.cons_append, List.cons_prefix_cons, List.cons_prefix_cons, ih outside.2]

/-- On both sides of a character that it does not have, something is found on its own. -/
theorem infix_append_cons_iff (some_letter : part ≠ []) (outside : separator ∉ part) :
    part <:+: front ++ separator :: back ↔ part <:+: front ∨ part <:+: back := by
  induction front with
  | nil =>
      have other : part.head? ≠ some separator := fun begins =>
        outside (List.mem_of_mem_head? begins)
      simp [infix_cons_of_head?_ne some_letter other, some_letter]
  | cons c front ih =>
      rw [List.cons_append, List.infix_cons_iff, ih, ← List.cons_append,
        prefix_append_cons_iff outside, List.infix_cons_iff, or_assoc]

/-- So it is in front of an enclosed text, and within it. -/
theorem infix_append_enclosed_iff (some_letter : part ≠ []) (outside : separator ∉ part) :
    part <:+: front ++ separator :: (text ++ [separator]) ↔ part <:+: front ∨ part <:+: text := by
  rw [infix_append_cons_iff some_letter outside, infix_append_cons_iff some_letter outside,
    List.infix_nil, or_iff_left some_letter]

end Occurrences

/-! ## Escaping -/

/-- The letters of a part are spared by an escaping. Whatever becomes of another character begins
with one that is no such letter, and goes on without the first of them. -/
structure Spares (escape : Char → List Char) (part : List Char) : Prop where
  kept : ∀ c ∈ part, escape c = [c]
  apart : ∀ c, c ∉ part → ∃ start rest, escape c = start :: rest ∧ start ∉ part ∧
    ∀ other ∈ rest, part.head? ≠ some other

namespace Spares

variable {escape : Char → List Char} {part letters text : List Char}

theorem prefix_flatMap_iff (spares : Spares escape part) (within : letters ⊆ part) :
    letters <+: text.flatMap escape ↔ letters <+: text := by
  induction letters generalizing text with
  | nil => simp
  | cons letter letters ih =>
      obtain ⟨here, later⟩ := List.cons_subset.mp within
      cases text with
      | nil => simp
      | cons c text =>
          rw [List.flatMap_cons, List.cons_prefix_cons]
          by_cases listed : c ∈ part
          · rw [spares.kept c listed, List.singleton_append, List.cons_prefix_cons, ih later]
          · obtain ⟨start, rest, escaped, outside, -⟩ := spares.apart c listed
            have other : letter ≠ start := fun same => outside (same ▸ here)
            have foreign : letter ≠ c := fun same => listed (same ▸ here)
            simp [escaped, List.cons_prefix_cons, other, foreign]

theorem infix_flatMap_iff (spares : Spares escape part) (some_letter : part ≠ []) :
    part <:+: text.flatMap escape ↔ part <:+: text := by
  induction text with
  | nil => rw [List.flatMap_nil]
  | cons c text ih =>
      by_cases listed : c ∈ part
      · have begins : part <+: (c :: text).flatMap escape ↔ part <+: c :: text :=
          spares.prefix_flatMap_iff (List.Subset.refl part)
        rw [List.flatMap_cons, spares.kept c listed, List.singleton_append] at begins ⊢
        rw [List.infix_cons_iff, List.infix_cons_iff, begins, ih]
      · obtain ⟨start, rest, escaped, outside, clean⟩ := spares.apart c listed
        have foreign {other : Char} (absent : other ∉ part) : part.head? ≠ some other :=
          fun begins => absent (List.mem_of_mem_head? begins)
        rw [List.flatMap_cons, escaped, infix_append_of_head?_not_mem some_letter, ih,
          infix_cons_of_head?_ne some_letter (foreign listed)]
        exact List.forall_mem_cons.mpr ⟨foreign outside, clean⟩

end Spares

/-! ## The words -/

/-- A text that speaks of a missing field. -/
def HasMark (text : String) : Prop := missingFieldMark.toList <:+: text.toList

instance decidableHasMark : DecidablePred HasMark := fun text =>
  decidable_of_iff (occursIn missingFieldMark.toList text.toList = true) occursIn_iff

theorem mark_ne_nil : missingFieldMark.toList ≠ [] := by decide

/-- What stands in front of a colon and what stands behind it is searched on its own. -/
theorem hasMark_append_colon_iff (front back : String) :
    HasMark (front ++ ": " ++ back) ↔ HasMark front ∨ HasMark back := by
  have colon : (front ++ ": " ++ back).toList = front.toList ++ ':' :: ' ' :: back.toList := by
    simp
  rw [HasMark, colon, infix_append_cons_iff mark_ne_nil (by decide),
    infix_cons_of_head?_ne mark_ne_nil (by decide)]
  rfl

/-- Of a name in backquotes, what stands in front of it and the name are searched. -/
theorem hasMark_append_backquote_iff (front name : String) :
    HasMark (front ++ "\x60" ++ name ++ "\x60") ↔ HasMark front ∨ HasMark name := by
  have enclosed : (front ++ "\x60" ++ name ++ "\x60").toList =
      front.toList ++ '\x60' :: (name.toList ++ ['\x60']) := by
    simp
  rw [HasMark, enclosed, infix_append_enclosed_iff mark_ne_nil (by decide)]
  rfl

/-- A word has no room for two. -/
theorem not_hasMark_of_isWord {text : String} (word : IsWord text) : ¬ HasMark text :=
  fun marked => word (marked.subset (by decide))

theorem not_mem_toDigits (n : Nat) : 'm' ∉ Nat.toDigits 16 n := by
  induction n using Nat.strongRecOn with
  | ind n ih =>
      have digit : ∀ d < 16, 'm' ≠ Nat.digitChar d := by decide
      rw [Nat.toDigits_eq_if (by decide)]
      split
      · next single =>
        rw [List.mem_singleton]
        exact digit n single
      · next several =>
        rw [List.mem_append, not_or, List.mem_singleton]
        exact ⟨ih (n / 16) (by omega), digit _ (Nat.mod_lt _ (by decide))⟩

section Report

variable {unseen : Char → Bool} (seen : ∀ c ∈ missingFieldMark.toList, unseen c = false)

include seen

theorem escaped_spares : Spares (escaped unseen) missingFieldMark.toList where
  kept c listed := by
    rw [escaped.eq_def]
    split
    case h_7 => rw [seen c listed, if_neg Bool.false_ne_true]
    all_goals exact absurd listed (by decide)
  apart c foreign := by
    rw [escaped.eq_def]
    split
    case h_7 =>
      split
      · refine ⟨'\\', _, rfl, by decide, fun other listed begins => ?_⟩
        have letter : other = 'm' := (Option.some.inj begins).symm
        simp [letter, not_mem_toDigits] at listed
      · exact ⟨c, [], rfl, foreign, List.forall_mem_nil _⟩
    all_goals exact ⟨'\\', _, rfl, by decide, List.forall_mem_singleton.mpr (by decide)⟩

/-- Of a text in quotation marks, the text is searched. -/
theorem hasMark_append_quoted_iff {front : String} (unmarked : ¬ HasMark front) (text : String) :
    HasMark (front ++ quoted unseen text) ↔ HasMark text := by
  have enclosed : (front ++ quoted unseen text).toList =
      front.toList ++ '"' :: (text.toList.flatMap (escaped unseen) ++ ['"']) := by
    simp [quoted]
  rw [HasMark, enclosed, infix_append_enclosed_iff mark_ne_nil (by decide),
    (escaped_spares seen).infix_flatMap_iff mark_ne_nil]
  exact or_iff_right unmarked

/-- A report of what is wrong speaks of a missing field if there is one, or if the text that it
quotes does. -/
theorem hasMark_faultReport_iff {texts : List String} {fault : Fault} (tells : fault.Tells texts) :
    HasMark (faultReport unseen fault) ↔
      (∃ name, fault = .missingField name) ∨ ∃ found ∈ fault.found?, HasMark found := by
  have silent : ∀ words ∈ ["syntax", "invalid type", "invalid value", "invalid length",
      "unknown variant", "data"], ¬ HasMark words := by decide +kernel
  cases fault with
  | malformed => exact iff_of_false (silent "syntax" (by simp)) (by simp [Fault.found?])
  | wrongType content =>
      cases content with
      | none => exact iff_of_false (silent "invalid type" (by simp)) (by simp [Fault.found?])
      | some found =>
          have front : ¬ HasMark "invalid type: string " := by decide +kernel
          exact (hasMark_append_quoted_iff seen front found).trans (by simp [Fault.found?])
  | badValue content =>
      cases content with
      | none => exact iff_of_false (silent "invalid value" (by simp)) (by simp [Fault.found?])
      | some found =>
          have front : ¬ HasMark "invalid value: string " := by decide +kernel
          exact (hasMark_append_quoted_iff seen front found).trans (by simp [Fault.found?])
  | wrongLength => exact iff_of_false (silent "invalid length" (by simp)) (by simp [Fault.found?])
  | unknownChoice =>
      exact iff_of_false (silent "unknown variant" (by simp)) (by simp [Fault.found?])
  | missingField name =>
      have front : HasMark "missing field " := by decide +kernel
      exact iff_of_true ((hasMark_append_backquote_iff "missing field " name).mpr (.inl front))
        (.inl ⟨name, rfl⟩)
  | duplicateField name =>
      have front : ¬ HasMark "duplicate field " := by decide +kernel
      refine iff_of_false (fun marked => ?_) (by simp [Fault.found?])
      exact ((hasMark_append_backquote_iff "duplicate field " name).mp marked).elim front
        (not_hasMark_of_isWord tells)
  | badTerm error => exact tells.elim
  | badText => exact iff_of_false (silent "data" (by simp)) (by simp [Fault.found?])

end Report

/-! ## The whole report -/

theorem isWord_render {place : Place} (words : ∀ name, .field name ∈ place → IsWord name) :
    IsWord place.render := by
  rw [Place.render]
  refine List.foldlRecOn (motive := IsWord) place _ (by decide) fun text word step listed => ?_
  cases step with
  | field name =>
      have named := words name listed
      dsimp only
      split
      · exact named
      · simpa [IsWord] using ⟨word, named⟩
  | item index =>
      have number : ' ' ∉ Nat.toDigits 10 index := fun blank =>
        nomatch Nat.isDigit_of_mem_toDigits (by decide) (by decide) blank
      simpa [IsWord] using ⟨word, number⟩

/-- The report of an error speaks of a missing field if there is one, or if the text that it quotes
does. -/
theorem hasMark_report_iff {unseen : Char → Bool} {texts : List String} {error : ReadError}
    (seen : ∀ c ∈ missingFieldMark.toList, unseen c = false) (quotes : error.Quotes texts) :
    HasMark (report unseen error) ↔
      (∃ name, error.fault = .missingField name) ∨
        ∃ found ∈ error.fault.found?, HasMark found := by
  have front : ¬ HasMark "Failed to deserialize the JSON body into the target type" := by
    decide +kernel
  have unplaced : ¬ HasMark error.place.render :=
    not_hasMark_of_isWord (isWord_render quotes.place)
  have placed : HasMark (if error.place.isEmpty then faultReport unseen error.fault
      else error.place.render ++ ": " ++ faultReport unseen error.fault) ↔
        HasMark (faultReport unseen error.fault) := by
    split
    · exact Iff.rfl
    · exact (hasMark_append_colon_iff _ _).trans (or_iff_right unplaced)
  exact ((hasMark_append_colon_iff _ _).trans (or_iff_right front)).trans
    (placed.trans (hasMark_faultReport_iff seen quotes.fault))

/-- The words are found in just these reports. -/
theorem speaksOfMissingField_iff {texts : List String} {error : ReadError}
    (quotes : error.Quotes texts) :
    speaksOfMissingField error = true ↔
      (∃ name, error.fault = .missingField name) ∨
        ∃ found ∈ error.fault.found?, HasMark found := by
  have none_unseen : missingFieldMark.toList.any isControl = false := by decide +kernel
  have seen : ∀ c ∈ missingFieldMark.toList, isControl c = false := fun c listed =>
    Bool.eq_false_iff.mpr (List.any_eq_false.mp none_unseen c listed)
  rw [speaksOfMissingField, occursIn_iff]
  exact hasMark_report_iff seen quotes

end Payslip.Service
