import ShapeFlow.ElementType
import ShapeFlow.Proofs.Text.Blank

/-!
Type strings, read and printed. Reading undoes printing and nothing more: a text denotes an element
type exactly if it is the type string of that type with blanks around it, so blanks inside, further
parentheses, another case or the opening twice are refused.
-/

namespace ShapeFlow.ElementType

variable {text name : String} {type : ElementType} {characters : List Char}

/-- The characters in front of the name in a type string. -/
def opening : List Char :=
  "tensor(".toList

theorem toList_typeString (type : ElementType) :
    type.typeString.toList = opening ++ type.name.toList ++ [')'] := by
  cases type <;> decide

theorem ofName?_eq_some_iff : ofName? name = some type ↔ type.name = name :=
  ⟨eq_name_of_ofName?, fun same => same ▸ ofName?_name type⟩

/-- The name is enclosed by one opening in front and one parenthesis at the end. -/
theorem enclosedName?_eq_some_iff :
    enclosedName? characters = some name ↔ characters = opening ++ name.toList ++ [')'] := by
  have steps : enclosedName? characters = (opening.isPrefixOf? characters).bind fun rest =>
      ([')'].isSuffixOf? rest).bind fun inner => some (String.ofList inner) := rfl
  simp only [steps, Option.bind_eq_some_iff, Option.some.injEq,
    List.isPrefixOf?_eq_some_iff_append_eq, List.isSuffixOf?_eq_some_iff_append_eq]
  constructor
  · rintro ⟨_, rfl, inner, rfl, rfl⟩
    rw [String.toList_ofList, List.append_assoc]
  · rintro rfl
    exact ⟨name.toList ++ [')'], (List.append_assoc ..).symm, name.toList, rfl,
      String.ofList_toList⟩

/-- What is enclosed names a type exactly in the type string of that type. -/
theorem bind_ofName?_eq_some_iff :
    (enclosedName? characters).bind ofName? = some type ↔ characters = type.typeString.toList := by
  simp only [Option.bind_eq_some_iff, enclosedName?_eq_some_iff, ofName?_eq_some_iff,
    toList_typeString]
  exact ⟨fun ⟨_, same, named⟩ => named ▸ same, fun same => ⟨_, same, rfl⟩⟩

/-- A type is read exactly from the texts that are its type string, blanks around them apart. -/
theorem parse_eq_ok_iff :
    parse text = .ok type ↔ Text.trimBlanks text.toList = type.typeString.toList := by
  rw [← bind_ofName?_eq_some_iff, parse]
  split
  · rename_i found
    rw [found, Except.ok.injEq, Option.some.injEq]
  · rename_i none
    simp [none]

theorem parse_eq_error_iff {problem : UnsupportedElementType} :
    parse text = .error problem ↔
      problem = ⟨text⟩ ∧
        ∀ type : ElementType, Text.trimBlanks text.toList ≠ type.typeString.toList := by
  simp only [← bind_ofName?_eq_some_iff, ne_eq, ← Option.eq_none_iff_forall_ne_some]
  rw [parse]
  split
  · rename_i found
    simp [found]
  · rename_i none
    simp [none, eq_comm]

theorem parse_eq_error (unread : ∀ type, parse text ≠ .ok type) : parse text = .error ⟨text⟩ := by
  cases ended : parse text with
  | ok type => exact absurd ended (unread type)
  | error problem =>
    obtain ⟨rfl, -⟩ := parse_eq_error_iff.mp ended
    rfl

theorem parse?_eq_some_iff : parse? text = some type ↔ parse text = .ok type := by
  rw [parse?]
  cases parse text <;> simp [Except.toOption]

theorem spelled_typeString (type : ElementType) :
    ∀ character ∈ type.typeString.toList,
      character.isLower ∨ character.isDigit ∨ character = '(' ∨ character = ')' := by
  have every : type.typeString.toList.all (fun character =>
      character.isLower || character.isDigit || character == '(' || character == ')') = true := by
    cases type <;> decide
  simpa [or_assoc] using every

theorem isBlank_typeString (type : ElementType) :
    ∀ character ∈ type.typeString.toList, Text.isBlank character = false := by
  have none : type.typeString.toList.any Text.isBlank = false := by
    cases type <;> decide
  simpa using none

theorem toLower_typeString (type : ElementType) :
    type.typeString.toList.map Char.toLower = type.typeString.toList := by
  cases type <;> decide

theorem count_typeString (type : ElementType) :
    type.typeString.toList.count '(' = 1 ∧ type.typeString.toList.count ')' = 1 := by
  cases type <;> decide

theorem bare_typeString (type : ElementType) : Text.Bare type.typeString.toList where
  first character first := isBlank_typeString type character (List.mem_of_mem_head? first)
  last character last := isBlank_typeString type character (List.mem_of_mem_getLast? last)

theorem trimBlanks_typeString (type : ElementType) :
    Text.trimBlanks type.typeString.toList = type.typeString.toList :=
  Text.trimBlanks_of_ends (bare_typeString type).first (bare_typeString type).last

theorem parse_typeString (type : ElementType) : parse type.typeString = .ok type :=
  parse_eq_ok_iff.mpr (trimBlanks_typeString type)

theorem typeString_injective : Function.Injective typeString := by
  intro left right same
  have read := parse_typeString left
  rw [same, parse_typeString right] at read
  exact (Except.ok.inj read).symm

/-- What stands between the opening and the last parenthesis is a name, bare of anything else. -/
theorem parse_enclosed_iff : parse ("tensor(" ++ text ++ ")") = .ok type ↔ text = type.name := by
  have characters : ("tensor(" ++ text ++ ")").toList = opening ++ text.toList ++ [')'] := by
    simp only [String.toList_append]
    rfl
  have kept : Text.trimBlanks (opening ++ text.toList ++ [')']) =
      opening ++ text.toList ++ [')'] := by
    apply Text.trimBlanks_of_ends
    · intro character first
      cases first
      decide
    · intro character last
      rw [List.getLast?_concat] at last
      cases last
      decide
  rw [parse_eq_ok_iff, characters, kept, toList_typeString, List.append_cancel_right_eq,
    List.append_cancel_left_eq, String.toList_inj]

/-- A text from which a type is read has every visible sign as often as the type string has it. -/
theorem count_of_parse (read : parse text = .ok type) {sign : Char}
    (visible : Text.isBlank sign = false) :
    text.toList.count sign = type.typeString.toList.count sign := by
  obtain ⟨-, before, after, same, leading, trailing⟩ :=
    Text.trimBlanks_eq_iff.mp (parse_eq_ok_iff.mp read)
  have outside {blanks : List Char} (blank : ∀ character ∈ blanks,
      Text.isBlank character = true) : blanks.count sign = 0 := by
    rw [List.count_eq_zero]
    intro listed
    rw [blank sign listed] at visible
    cases visible
  rw [same, List.count_append, List.count_append, outside leading, outside trailing]
  omega

/-- What reading says of a text. -/
structure ReadExactly (text : String) : Prop where
  /-- A type is read exactly from its type string with blanks around it. -/
  accepted : ∀ type : ElementType,
    parse text = .ok type ↔ Text.Trims text.toList type.typeString.toList
  /-- Every other text is refused, and the refusal carries the text with its blanks. -/
  refused : ∀ problem : UnsupportedElementType, parse text = .error problem ↔
    problem = ⟨text⟩ ∧ ∀ type : ElementType, ¬Text.Trims text.toList type.typeString.toList
  /-- Printing what was read gives the text without the blanks around it. -/
  printed : ∀ type : ElementType, parse text = .ok type →
    type.typeString = String.ofList (Text.trimBlanks text.toList)
  /-- A blank between two other characters is refused. -/
  unspaced : ∀ (before after : List Char) (blank : Char),
    text.toList = before ++ blank :: after → Text.isBlank blank = true →
      (∃ character ∈ before, Text.isBlank character = false) →
        (∃ character ∈ after, Text.isBlank character = false) → parse text = .error ⟨text⟩
  /-- More than one pair of parentheses is refused, and less. -/
  parentheses : text.toList.count '(' ≠ 1 ∨ text.toList.count ')' ≠ 1 →
    parse text = .error ⟨text⟩
  /-- A type string in another case is refused. -/
  otherCase : ∀ type : ElementType,
    (Text.trimBlanks text.toList).map Char.toLower = type.typeString.toList →
      Text.trimBlanks text.toList ≠ type.typeString.toList → parse text = .error ⟨text⟩
  /-- So is every sign but lower case letters, digits and parentheses. -/
  otherSign : ∀ character ∈ text.toList, Text.isBlank character = false →
    ¬(character.isLower ∨ character.isDigit ∨ character = '(' ∨ character = ')') →
      parse text = .error ⟨text⟩
  /-- The opening is refused when it comes again. -/
  nested : ∀ rest, Text.trimBlanks text.toList = opening ++ rest → opening <:+: rest →
    parse text = .error ⟨text⟩
  /-- Enclosed like a name, the text is read only if it is one. -/
  enclosed : ∀ type : ElementType, parse ("tensor(" ++ text ++ ")") = .ok type ↔ text = type.name

/-- Reading is the exact inverse of printing, blanks around the text apart. -/
theorem typeString_inverse :
    Function.Injective typeString ∧ (∀ type : ElementType, parse type.typeString = .ok type) ∧
      ∀ text, ReadExactly text := by
  refine ⟨typeString_injective, parse_typeString, fun text => ?_⟩
  constructor
  case accepted =>
    intro type
    rw [parse_eq_ok_iff, Text.trimBlanks_eq_iff]
  case refused =>
    intro problem
    simp only [parse_eq_error_iff, ne_eq, Text.trimBlanks_eq_iff]
  case printed =>
    intro type read
    rw [parse_eq_ok_iff.mp read, String.ofList_toList]
  case unspaced =>
    intro before after blank same isBlank opened closed
    refine parse_eq_error fun type read => ?_
    have inside : blank ∈ Text.trimBlanks (before ++ blank :: after) :=
      Text.mem_trimBlanks_of_between opened closed
    rw [← same, parse_eq_ok_iff.mp read] at inside
    rw [isBlank_typeString type blank inside] at isBlank
    cases isBlank
  case parentheses =>
    intro unpaired
    refine parse_eq_error fun type read => ?_
    rw [count_of_parse read (by decide), count_of_parse read (by decide)] at unpaired
    obtain ⟨opened, closed⟩ := count_typeString type
    omega
  case otherCase =>
    intro type lowered different
    refine parse_eq_error fun other read => different ?_
    rw [parse_eq_ok_iff.mp read, toLower_typeString] at lowered
    rw [parse_eq_ok_iff.mp read, lowered]
  case otherSign =>
    intro character listed visible foreign
    refine parse_eq_error fun type read => foreign ?_
    apply spelled_typeString type character
    rw [← List.count_pos_iff, ← count_of_parse read visible, List.count_pos_iff]
    exact listed
  case nested =>
    intro rest begun again
    refine parse_eq_error fun type read => ?_
    have twice : 1 ≤ rest.count '(' := List.count_pos_iff.mpr (again.subset (by decide))
    have once := (count_typeString type).1
    rw [← parse_eq_ok_iff.mp read, begun, List.count_append] at once
    have first : opening.count '(' = 1 := by decide
    omega
  case enclosed =>
    intro type
    exact parse_enclosed_iff

/-- The ideographic space is a blank, the zero width space is none. -/
example : parse "\u3000tensor(float)\n" = .ok .float32 ∧
    parse "\u200btensor(float)" = .error ⟨"\u200btensor(float)"⟩ := by
  decide

end ShapeFlow.ElementType
