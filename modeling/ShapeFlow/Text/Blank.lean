/-!
Blank characters: the code points with the Unicode property White_Space, and the removal of
blanks at both ends of a text.
-/

namespace ShapeFlow.Text

/-- The ranges of code points with the property White_Space, first and last code point of each. -/
def blankRanges : List (Nat × Nat) :=
  [(0x0009, 0x000D), (0x0020, 0x0020), (0x0085, 0x0085), (0x00A0, 0x00A0), (0x1680, 0x1680),
    (0x2000, 0x200A), (0x2028, 0x2029), (0x202F, 0x202F), (0x205F, 0x205F), (0x3000, 0x3000)]

def isBlank (character : Char) : Bool :=
  blankRanges.any fun range => range.1 ≤ character.toNat && character.toNat ≤ range.2

/-- The characters left when the blanks at both ends are dropped. -/
def trimBlanks (characters : List Char) : List Char :=
  ((characters.dropWhile isBlank).reverse.dropWhile isBlank).reverse

/-- The table extends the ASCII class of blank characters. -/
theorem isBlank_of_isWhitespace {character : Char} (blank : character.isWhitespace = true) :
    isBlank character = true := by
  simp only [Char.isWhitespace, Bool.or_eq_true, decide_eq_true_eq] at blank
  rcases blank with ((rfl | rfl) | rfl) | rfl <;> decide

theorem trimBlanks_of_ends {characters : List Char}
    (first : ∀ character ∈ characters.head?, isBlank character = false)
    (last : ∀ character ∈ characters.getLast?, isBlank character = false) :
    trimBlanks characters = characters := by
  cases characters with
  | nil => rfl
  | cons head rest =>
    have kept : isBlank head = false := first head rfl
    rw [trimBlanks, List.dropWhile_cons_of_neg (by simp [kept])]
    cases reversed : (head :: rest).reverse with
    | nil => simp at reversed
    | cons final others =>
      have ending : (head :: rest).getLast? = some final := by
        rw [← List.head?_reverse, reversed]
        rfl
      rw [List.dropWhile_cons_of_neg (by simp [last final ending]), ← reversed,
        List.reverse_reverse]

end ShapeFlow.Text
