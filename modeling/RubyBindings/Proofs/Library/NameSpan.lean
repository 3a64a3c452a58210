/-
Module: RubyBindings.Proofs.Library.NameSpan
Purpose: The place that is shown for a refused name. It is where the bytes of the name first stand in
  the text in double quotes, or else where they first stand at all. Since a word begins with the first
  byte of a character, a match of bytes is a match of characters, so the place never cuts one.
Main exports: Text.OccursAt, Text.occursAt_iff, TextSpan.Marks, TextSpan.ofWord?_eq_some_iff,
  TextSpan.ofWord?_eq_none_iff, TextSpan.PointsAt, TextSpan.points_at_name
-/
import RubyBindings.Library.Description

namespace RubyBindings.Text

/-! ## Occurrences -/

/-- From a byte of the text on, its bytes are those of the word. -/
def OccursAt (word text : String) (offset : Nat) : Prop :=
  offset + word.utf8ByteSize ≤ text.utf8ByteSize ∧
    text.toByteArray.extract offset (offset + word.utf8ByteSize) = word.toByteArray

/-- A word stands between what comes before it and what comes after it. -/
theorem occursAt_append (front word back : String) :
    OccursAt word (front ++ (word ++ back)) front.utf8ByteSize := by
  constructor
  · simp only [String.utf8ByteSize_append]
    omega
  · have behind := @ByteArray.extract_append_size_add front.toByteArray (word ++ back).toByteArray 0
      word.utf8ByteSize
    rw [Nat.add_zero, String.size_toByteArray] at behind
    rw [String.toByteArray_append, behind, String.toByteArray_append]
    exact ByteArray.extract_append_eq_left String.size_toByteArray.symm

/-- Where the bytes of a word stand, a character begins and one ends. -/
theorem OccursAt.isValid {word text : String} {offset : Nat} (occurs : OccursAt word text offset)
    (nonempty : word ≠ "") :
    String.Pos.Raw.IsValid text ⟨offset⟩ ∧
      String.Pos.Raw.IsValid text ⟨offset + word.utf8ByteSize⟩ := by
  have some : word.utf8ByteSize ≠ 0 := fun none => nonempty (String.utf8ByteSize_eq_zero_iff.mp none)
  have characters := word.isValidUTF8
  rw [← occurs.2] at characters
  have ends := @String.Pos.Raw.isValidUTF8_extract_iff text ⟨offset⟩
    ⟨offset + word.utf8ByteSize⟩ (Nat.le_add_right _ _) occurs.1
  rcases ends.mp characters with same | both
  · have sameByte := congrArg String.Pos.Raw.byteIdx same
    dsimp only at sameByte
    omega
  · exact both

/-- A match of bytes is a match of characters. -/
theorem occursAt_iff {word text : String} (nonempty : word ≠ "") {offset : Nat} :
    OccursAt word text offset ↔
      ∃ front back, text = front ++ (word ++ back) ∧ front.utf8ByteSize = offset := by
  constructor
  · intro occurs
    obtain ⟨begins, ends⟩ := occurs.isValid nonempty
    obtain ⟨front, rest, split, atFront⟩ := String.Pos.Raw.isValid_iff_exists_append.mp begins
    obtain ⟨upTo, back, whole, atEnd⟩ := String.Pos.Raw.isValid_iff_exists_append.mp ends
    have frontSize : offset = front.utf8ByteSize := congrArg String.Pos.Raw.byteIdx atFront
    have upToSize : offset + word.utf8ByteSize = upTo.utf8ByteSize :=
      congrArg String.Pos.Raw.byteIdx atEnd
    -- The text up to the end of the word is the text up to its beginning, and then the word.
    have joined : upTo = front ++ word := by
      apply String.toByteArray_inj.mp
      calc upTo.toByteArray
          = text.toByteArray.extract 0 (offset + word.utf8ByteSize) := by
            rw [whole, String.toByteArray_append, upToSize]
            exact (ByteArray.extract_append_eq_left String.size_toByteArray.symm).symm
        _ = text.toByteArray.extract 0 offset ++
              text.toByteArray.extract offset (offset + word.utf8ByteSize) :=
            ByteArray.extract_eq_extract_append_extract offset (Nat.zero_le _)
              (Nat.le_add_right _ _)
        _ = front.toByteArray ++ word.toByteArray := by
            rw [occurs.2, split, String.toByteArray_append,
              ByteArray.extract_append_eq_left (frontSize.trans String.size_toByteArray.symm)]
        _ = (front ++ word).toByteArray := String.toByteArray_append.symm
    exact ⟨front, back, by rw [whole, joined, String.append_assoc], frontSize.symm⟩
  · rintro ⟨front, back, rfl, rfl⟩
    exact occursAt_append front word back

/-! ## The first occurrence -/

theorem byteLength_eq (characters : List Char) :
    byteLength characters = (String.ofList characters).utf8ByteSize := by
  induction characters with
  | nil => rfl
  | cons character characters ih =>
      rw [String.ofList_cons, String.utf8ByteSize_append, ← ih, String.utf8ByteSize_singleton]
      rfl

/-- What is found stands before an occurrence. -/
theorem exists_of_before?_eq_some {pattern text front : List Char}
    (found : before? pattern text = some front) : ∃ back, text = front ++ (pattern ++ back) := by
  induction text generalizing front with
  | nil =>
      rw [before?] at found
      split at found
      next empty =>
        cases found
        exact ⟨[], by simpa using empty⟩
      next => cases found
  | cons character text ih =>
      rw [before?] at found
      split at found
      next here =>
        cases found
        obtain ⟨back, split⟩ := List.isPrefixOf_iff_prefix.mp here
        exact ⟨back, split.symm⟩
      next =>
        obtain ⟨behind, inside, rfl⟩ := Option.map_eq_some_iff.mp found
        obtain ⟨back, rfl⟩ := ih inside
        exact ⟨back, rfl⟩

/-- Wherever the pattern occurs, it is found there or before. -/
theorem exists_before?_of_occurs (pattern front back : List Char) :
    ∃ first, before? pattern (front ++ (pattern ++ back)) = some first ∧ first <+: front := by
  induction front with
  | nil =>
      refine ⟨[], ?_, List.nil_prefix⟩
      rw [List.nil_append]
      cases spelled : pattern ++ back with
      | nil => simp [before?, (List.append_eq_nil_iff.mp spelled).1]
      | cons character rest =>
          rw [before?, if_pos (List.isPrefixOf_iff_prefix.mpr ⟨back, spelled⟩)]
  | cons character front ih =>
      obtain ⟨first, found, within⟩ := ih
      rw [List.cons_append, before?]
      split
      next => exact ⟨[], rfl, List.nil_prefix⟩
      next =>
        refine ⟨character :: first, ?_, (List.prefix_cons_inj character).mpr within⟩
        rw [found]
        rfl

/-- Where the search ends, the word stands, and it stands nowhere before. -/
theorem firstOccurrence_first {word text : String} (nonempty : word ≠ "") {offset : Nat}
    (found : firstOccurrence word text = some offset) :
    OccursAt word text offset ∧ ∀ earlier < offset, ¬ OccursAt word text earlier := by
  obtain ⟨front, stops, rfl⟩ := Option.map_eq_some_iff.mp found
  constructor
  · obtain ⟨back, split⟩ := exists_of_before?_eq_some stops
    rw [occursAt_iff nonempty]
    refine ⟨String.ofList front, String.ofList back, ?_, (byteLength_eq front).symm⟩
    apply String.toList_inj.mp
    simpa using split
  · intro earlier before occurs
    obtain ⟨other, back, rfl, rfl⟩ := (occursAt_iff nonempty).mp occurs
    obtain ⟨first, foundFirst, within⟩ :=
      exists_before?_of_occurs word.toList other.toList back.toList
    rw [String.toList_append, String.toList_append, foundFirst] at stops
    cases stops
    obtain ⟨rest, split⟩ := within
    have size := congrArg String.utf8ByteSize (congrArg String.ofList split)
    rw [String.ofList_toList, String.ofList_append, String.utf8ByteSize_append,
      ← byteLength_eq] at size
    omega

/-- If the search finds nothing, the word stands nowhere. -/
theorem not_occursAt_of_firstOccurrence_eq_none {word text : String} (nonempty : word ≠ "")
    (missed : firstOccurrence word text = none) (offset : Nat) : ¬ OccursAt word text offset := by
  intro occurs
  obtain ⟨front, back, rfl, -⟩ := (occursAt_iff nonempty).mp occurs
  obtain ⟨first, found, -⟩ := exists_before?_of_occurs word.toList front.toList back.toList
  rw [firstOccurrence, String.toList_append, String.toList_append, found] at missed
  cases missed

end RubyBindings.Text

namespace RubyBindings.TextSpan

open Text (OccursAt firstOccurrence)

/-! ## The place of a name -/

/-- A span marks the first occurrence of a word: it lies within the text, begins and ends between
characters, cuts out the word, and the word stands nowhere before. -/
structure Marks (text word : String) (span : TextSpan) : Prop where
  length : span.length = word.utf8ByteSize
  inside : span.offset + span.length ≤ text.utf8ByteSize
  begins : String.Pos.Raw.IsValid text ⟨span.offset⟩
  ends : String.Pos.Raw.IsValid text ⟨span.offset + span.length⟩
  cuts : text.toByteArray.extract span.offset (span.offset + span.length) = word.toByteArray
  /-- The same in characters. -/
  splits : ∃ front back, text = front ++ (word ++ back) ∧ front.utf8ByteSize = span.offset
  first : ∀ earlier < span.offset, ¬ OccursAt word text earlier

theorem Marks.occurs {text word : String} {span : TextSpan} (marks : Marks text word span) :
    OccursAt word text span.offset :=
  ⟨marks.length ▸ marks.inside, marks.length ▸ marks.cuts⟩

/-- The span of the first occurrence of a word. -/
def ofWord? (text word : String) : Option TextSpan :=
  (firstOccurrence word text).map fun offset => { offset, length := word.utf8ByteSize }

theorem marks_of_firstOccurrence {text word : String} (nonempty : word ≠ "") {offset : Nat}
    (found : firstOccurrence word text = some offset) :
    Marks text word { offset, length := word.utf8ByteSize } := by
  obtain ⟨occurs, first⟩ := Text.firstOccurrence_first nonempty found
  obtain ⟨begins, ends⟩ := occurs.isValid nonempty
  exact ⟨rfl, occurs.1, begins, ends, occurs.2, (Text.occursAt_iff nonempty).mp occurs, first⟩

/-- A word that occurs has one span that marks it. -/
theorem ofWord?_eq_some_iff {text word : String} (nonempty : word ≠ "") {span : TextSpan} :
    ofWord? text word = some span ↔ Marks text word span := by
  constructor
  · intro found
    obtain ⟨offset, occurrence, rfl⟩ := Option.map_eq_some_iff.mp found
    exact marks_of_firstOccurrence nonempty occurrence
  · intro marks
    cases found : firstOccurrence word text with
    | none =>
        exact absurd marks.occurs (Text.not_occursAt_of_firstOccurrence_eq_none nonempty found _)
    | some offset =>
        obtain ⟨occurs, first⟩ := Text.firstOccurrence_first nonempty found
        have same : offset = span.offset := by
          rcases Nat.lt_trichotomy offset span.offset with before | same | after
          · exact absurd occurs (marks.first offset before)
          · exact same
          · exact absurd marks.occurs (first span.offset after)
        rw [ofWord?, found, Option.map_some, same, ← marks.length]

theorem ofWord?_eq_none_iff {text word : String} (nonempty : word ≠ "") :
    ofWord? text word = none ↔ ∀ offset, ¬ OccursAt word text offset := by
  constructor
  · intro missed
    exact Text.not_occursAt_of_firstOccurrence_eq_none nonempty (Option.map_eq_none_iff.mp missed)
  · intro nowhere
    rw [ofWord?, Option.map_eq_none_iff, Option.eq_none_iff_forall_ne_some]
    intro offset found
    exact nowhere offset (Text.firstOccurrence_first nonempty found).1

/-- A name in double quotes. -/
def quoted (name : String) : String := "\"" ++ name ++ "\""

theorem quoted_ne_empty (name : String) : quoted name ≠ "" := by
  intro empty
  have characters := congrArg String.toList empty
  simp [quoted] at characters

/-- A name is looked for in double quotes, and then without. -/
theorem ofName?_eq (text name : String) :
    ofName? text name =
      (ofWord? text (quoted name)).or (if name = "" then none else ofWord? text name) := by
  rw [ofName?, ofWord?, ofWord?, quoted]
  cases firstOccurrence ("\"" ++ name ++ "\"") text <;> rfl

/-- What is shown for a name: its first occurrence in double quotes, quotes included; if there is
none, its first occurrence, unless the name is empty; and otherwise nothing. -/
structure PointsAt (text name : String) : Prop where
  shown : ∀ span, ofName? text name = some span ↔
    Marks text (quoted name) span ∨
      (∀ offset, ¬ OccursAt (quoted name) text offset) ∧ name ≠ "" ∧ Marks text name span
  missing : ofName? text name = none ↔
    (∀ offset, ¬ OccursAt (quoted name) text offset) ∧
      (name = "" ∨ ∀ offset, ¬ OccursAt name text offset)

/-- In every text, what is shown for a name is where the name stands. -/
theorem points_at_name (text name : String) : PointsAt text name := by
  have quotes := quoted_ne_empty name
  constructor
  · intro span
    rw [ofName?_eq, Option.or_eq_some_iff, ofWord?_eq_some_iff quotes, ofWord?_eq_none_iff quotes]
    by_cases empty : name = ""
    · simp [empty]
    · rw [if_neg empty, ofWord?_eq_some_iff empty]
      simp [empty]
  · rw [ofName?_eq, Option.or_eq_none_iff, ofWord?_eq_none_iff quotes]
    by_cases empty : name = ""
    · simp [empty]
    · rw [if_neg empty, ofWord?_eq_none_iff empty]
      simp [empty]

/-- The umlaut before the name counts for two bytes, and so does the one inside it. -/
example : ofName? "# für\nname = 'fü-r'" "fü-r" = some ⟨15, 5⟩ := by decide

end RubyBindings.TextSpan
