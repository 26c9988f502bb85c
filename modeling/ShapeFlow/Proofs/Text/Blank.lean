import Mathlib.Data.List.DropRight
import ShapeFlow.Text.Blank

/-!
What is left of a text without the blanks around it. The rest is the one part of the text that
neither begins nor ends with a blank while all around it is blank, and blanks between two other
characters stay.
-/

namespace ShapeFlow.Text

variable {characters inner before after : List Char}

/-- A text neither begins nor ends with a blank. -/
structure Bare (characters : List Char) : Prop where
  first : ∀ character ∈ characters.head?, isBlank character = false
  last : ∀ character ∈ characters.getLast?, isBlank character = false

/-- A text consists of a bare part with blanks before and after it. -/
structure Trims (characters inner : List Char) : Prop where
  bare : Bare inner
  around : ∃ before after, characters = before ++ inner ++ after ∧
    (∀ character ∈ before, isBlank character = true) ∧
    ∀ character ∈ after, isBlank character = true

theorem dropWhile_append_of_exists
    (stop : ∃ character ∈ before, isBlank character = false) (after : List Char) :
    (before ++ after).dropWhile isBlank = before.dropWhile isBlank ++ after := by
  obtain ⟨character, listed, other⟩ := stop
  have kept : before.dropWhile isBlank ≠ [] := by
    intro none
    have blank := List.dropWhile_eq_nil_iff.mp none character listed
    rw [other] at blank
    cases blank
  rw [List.dropWhile_append, if_neg]
  simpa using kept

theorem trimBlanks_blanks_append (blank : ∀ character ∈ before, isBlank character = true) :
    trimBlanks (before ++ characters) = trimBlanks characters := by
  rw [trimBlanks, List.dropWhile_append_of_pos blank, trimBlanks]

theorem trimBlanks_append_blanks (blank : ∀ character ∈ after, isBlank character = true) :
    trimBlanks (characters ++ after) = trimBlanks characters := by
  rw [trimBlanks, trimBlanks, List.dropWhile_append]
  split
  · rename_i none
    rw [List.dropWhile_eq_nil_iff.mpr blank, List.isEmpty_iff.mp none]
  · rw [List.reverse_append, List.dropWhile_append_of_pos]
    intro character listed
    exact blank character (List.mem_reverse.mp listed)

theorem trimBlanks_eq_rdropWhile (characters : List Char) :
    trimBlanks characters = (characters.dropWhile isBlank).rdropWhile isBlank := rfl

theorem bare_trimBlanks (characters : List Char) : Bare (trimBlanks characters) where
  first := by
    intro character first
    -- the blanks at the end go last, so what is left begins as what stood after the leading blanks
    have begins : (characters.dropWhile isBlank).head? = some character := by
      rw [← List.rdropWhile_append_rtakeWhile (p := isBlank) (l := characters.dropWhile isBlank),
        List.head?_append, ← trimBlanks_eq_rdropWhile, first, Option.some_or]
    have stopped := List.head?_dropWhile_not isBlank characters
    rwa [begins] at stopped
  last := by
    intro character last
    rw [trimBlanks, List.getLast?_reverse] at last
    have stopped := List.head?_dropWhile_not isBlank (characters.dropWhile isBlank).reverse
    rwa [Option.mem_def.mp last] at stopped

theorem trims_trimBlanks (characters : List Char) : Trims characters (trimBlanks characters) where
  bare := bare_trimBlanks characters
  around := by
    refine ⟨characters.takeWhile isBlank, (characters.dropWhile isBlank).rtakeWhile isBlank,
      ?_, ?_, ?_⟩
    · rw [trimBlanks_eq_rdropWhile, List.append_assoc, List.rdropWhile_append_rtakeWhile,
        List.takeWhile_append_dropWhile]
    · intro character dropped
      exact List.mem_takeWhile_imp dropped
    · intro character dropped
      exact List.mem_rtakeWhile_imp dropped

/-- Trimming finds the bare part between the blanks, and there is only one. -/
theorem trimBlanks_eq_iff : trimBlanks characters = inner ↔ Trims characters inner := by
  constructor
  · rintro rfl
    exact trims_trimBlanks characters
  · rintro ⟨bare, before, after, rfl, leading, trailing⟩
    rw [trimBlanks_append_blanks trailing, trimBlanks_blanks_append leading,
      trimBlanks_of_ends bare.first bare.last]

theorem mem_trimBlanks_of_between {character : Char}
    (opened : ∃ other ∈ before, isBlank other = false)
    (closed : ∃ other ∈ after, isBlank other = false) :
    character ∈ trimBlanks (before ++ character :: after) := by
  obtain ⟨other, listed, visible⟩ := closed
  rw [trimBlanks, dropWhile_append_of_exists opened, List.reverse_append, List.reverse_cons,
    List.append_assoc, dropWhile_append_of_exists ⟨other, List.mem_reverse.mpr listed, visible⟩]
  simp

end ShapeFlow.Text
