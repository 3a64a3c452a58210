/-
Module: RubyBindings.Proofs.Naming.MarkerRuns
Purpose: Variable names as a substitution for runs of markers. A type name is read from left to
  right into markers and plain characters. A variable name keeps the plain characters and has one
  underscore for each run of adjacent markers, with one `ptr_` behind it for each star of the run.
  So there is no marker left in it.
Main exports: Naming.Marker, Naming.Piece, Naming.Reads, Naming.runs, Naming.runText,
  Naming.exists_reads, Naming.Reads.variableNameFrom_eq_runs, Naming.Unmarked,
  Naming.unmarked_variableNameFrom, Naming.variableName_intercalate
-/
import Mathlib.Data.List.SplitBy
import Mathlib.Data.List.TakeWhile
import RubyBindings.Proofs.Naming.VariableName

namespace RubyBindings.Naming

/-! ## Reading -/

/-- What a type name has besides the characters of identifiers. -/
inductive Marker where
  | scope
  | opening
  | closing
  | star
deriving DecidableEq, Repr

/-- How a marker is spelled. -/
def Marker.spelling : Marker → List Char
  | .scope => [':', ':']
  | .opening => ['<']
  | .closing => ['>']
  | .star => ['*']

/-- What a type name is read into. -/
inductive Piece where
  | plain (character : Char)
  | marker (marker : Marker)
deriving DecidableEq, Repr

/-- Reading a name from left to right. Where a marker stands, it is taken as a whole; a character
is plain only where no marker stands. -/
inductive Reads : List Char → List Piece → Prop where
  | nil : Reads [] []
  | marker (marker : Marker) {rest : List Char} {pieces : List Piece}
      (behind : Reads rest pieces) :
      Reads (marker.spelling ++ rest) (.marker marker :: pieces)
  | plain {character : Char} {rest : List Char} {pieces : List Piece}
      (noMarker : ∀ marker : Marker, ¬ marker.spelling <+: character :: rest)
      (behind : Reads rest pieces) :
      Reads (character :: rest) (.plain character :: pieces)

/-- A marker is known by its first character, but for the scope operator. -/
theorem noMarker_iff {character : Char} {rest : List Char} :
    (∀ marker : Marker, ¬ marker.spelling <+: character :: rest) ↔
      character ≠ '<' ∧ character ≠ '>' ∧ character ≠ '*' ∧
        (character = ':' → rest.head? ≠ some ':') := by
  constructor
  · intro noMarker
    refine ⟨?_, ?_, ?_, ?_⟩
    · rintro rfl
      exact noMarker .opening (by simp [Marker.spelling])
    · rintro rfl
      exact noMarker .closing (by simp [Marker.spelling])
    · rintro rfl
      exact noMarker .star (by simp [Marker.spelling])
    · rintro rfl second
      cases rest with
      | nil => cases second
      | cons other rest =>
          cases second
          exact noMarker .scope (by simp [Marker.spelling])
  · rintro ⟨notOpening, notClosing, notStar, notScope⟩ marker starts
    cases marker with
    | scope =>
        obtain ⟨same, others⟩ := List.cons_prefix_cons.mp starts
        obtain ⟨tail, rfl⟩ := others
        exact notScope same.symm rfl
    | opening => exact notOpening (List.cons_prefix_cons.mp starts).1.symm
    | closing => exact notClosing (List.cons_prefix_cons.mp starts).1.symm
    | star => exact notStar (List.cons_prefix_cons.mp starts).1.symm

/-- No marker begins with a plain character. -/
theorem noMarker_of_isPlain {character : Char} (plain : isPlain character = true)
    (rest : List Char) : ∀ marker : Marker, ¬ marker.spelling <+: character :: rest := by
  simp only [isPlain, Bool.and_eq_true, bne_iff_ne] at plain
  obtain ⟨⟨⟨notColon, notOpening⟩, notClosing⟩, notStar⟩ := plain
  exact noMarker_iff.mpr ⟨notOpening, notClosing, notStar, fun colon => absurd colon notColon⟩

/-- Every name can be read. -/
theorem exists_reads (name : List Char) : ∃ pieces, Reads name pieces := by
  generalize false = joined
  induction joined, name using variableNameFrom.induct with
  | case1 joined => exact ⟨[], .nil⟩
  | case2 joined rest ih =>
      obtain ⟨pieces, behind⟩ := ih
      exact ⟨_, .marker .scope behind⟩
  | case3 joined rest ih =>
      obtain ⟨pieces, behind⟩ := ih
      exact ⟨_, .marker .opening behind⟩
  | case4 joined rest ih =>
      obtain ⟨pieces, behind⟩ := ih
      exact ⟨_, .marker .closing behind⟩
  | case5 joined rest ih =>
      obtain ⟨pieces, behind⟩ := ih
      exact ⟨_, .marker .star behind⟩
  | case6 joined character rest notScope notOpening notClosing notStar ih =>
      obtain ⟨pieces, behind⟩ := ih
      refine ⟨_, .plain (noMarker_iff.mpr ⟨notOpening, notClosing, notStar, ?_⟩) behind⟩
      intro colon second
      obtain ⟨tail, rfl⟩ := List.head?_eq_some_iff.mp second
      exact notScope tail colon rfl

/-! ## Writing -/

/-- What a marker writes behind the underscore. -/
def Marker.suffix : Marker → List Char
  | .scope | .opening | .closing => []
  | .star => ['p', 't', 'r', '_']

/-- The variable name of what has been read. -/
def writePieces (joined : Bool) : List Piece → List Char
  | [] => []
  | .plain character :: pieces => character :: writePieces false pieces
  | .marker marker :: pieces =>
    (if joined then [] else ['_']) ++ marker.suffix ++ writePieces true pieces

theorem variableNameFrom_marker (joined : Bool) (marker : Marker) (rest : List Char) :
    variableNameFrom joined (marker.spelling ++ rest) =
      (if joined then [] else ['_']) ++ marker.suffix ++ variableNameFrom true rest := by
  cases marker <;> simp [Marker.spelling, Marker.suffix, variableNameFrom]

theorem variableNameFrom_noMarker (joined : Bool) {character : Char} {rest : List Char}
    (noMarker : ∀ marker : Marker, ¬ marker.spelling <+: character :: rest) :
    variableNameFrom joined (character :: rest) = character :: variableNameFrom false rest := by
  obtain ⟨notOpening, notClosing, notStar, notScope⟩ := noMarker_iff.mp noMarker
  rw [variableNameFrom]
  · rintro tail rfl rfl
    exact notScope rfl rfl
  · exact notOpening
  · exact notClosing
  · exact notStar

/-- Reading and writing may be done one after the other. -/
theorem Reads.variableNameFrom_eq {name : List Char} {pieces : List Piece}
    (reads : Reads name pieces) (joined : Bool) :
    variableNameFrom joined name = writePieces joined pieces := by
  induction reads generalizing joined with
  | nil => simp [variableNameFrom, writePieces]
  | marker marker behind ih => simp [variableNameFrom_marker, writePieces, ih]
  | plain noMarker behind ih => simp [variableNameFrom_noMarker joined noMarker, writePieces, ih]

/-! ## Runs -/

/-- Is a piece a marker? -/
def Piece.isMarker : Piece → Bool
  | .plain _ => false
  | .marker _ => true

/-- What has been read, with adjacent markers put together: each part is one plain character or a
run of markers that is as long as can be. -/
def runs (pieces : List Piece) : List (List Piece) :=
  pieces.splitBy fun first second => first.isMarker && second.isMarker

/-- What is written for one part: a plain character as it is, and for a run of markers an
underscore, with a `ptr_` behind it for each star. -/
def runText : List Piece → List Char
  | [.plain character] => [character]
  | run => '_' :: (List.replicate (run.count (.marker .star)) ['p', 't', 'r', '_']).flatten

/-- A plain character stands alone. -/
theorem runs_plain (character : Char) (pieces : List Piece) :
    runs (.plain character :: pieces) = [.plain character] :: runs pieces := by
  have split := List.splitBy_append (r := fun first second => first.isMarker && second.isMarker)
    (l := [.plain character]) (m := pieces) (by simp [Piece.isMarker])
  exact split

/-- Markers stand together, up to where no marker follows. -/
theorem runs_markers {markers : List Piece} (nonempty : markers ≠ [])
    (all : ∀ piece ∈ markers, piece.isMarker = true) {pieces : List Piece}
    (ends : ∀ piece ∈ pieces.head?, piece.isMarker = false) :
    runs (markers ++ pieces) = markers :: runs pieces := by
  have together : markers.IsChain fun first second =>
      (first.isMarker && second.isMarker) = true := by
    apply List.Pairwise.isChain
    apply List.pairwise_of_forall_mem_list
    intro first member second other
    simp [all first member, all second other]
  rw [runs, List.splitBy_append, List.splitBy_of_isChain nonempty together]
  · rfl
  · intro last _ piece head
    simp [ends piece head]

/-- Markers behind a marker only write what stands behind their underscore. -/
theorem writePieces_markers {markers : List Piece}
    (all : ∀ piece ∈ markers, piece.isMarker = true) (pieces : List Piece) :
    writePieces true (markers ++ pieces) =
      (List.replicate (markers.count (.marker .star)) ['p', 't', 'r', '_']).flatten ++
        writePieces true pieces := by
  induction markers with
  | nil => rfl
  | cons piece markers ih =>
      obtain ⟨isMarker, others⟩ := List.forall_mem_cons.mp all
      cases piece with
      | plain character => cases isMarker
      | marker marker =>
          cases marker <;>
            simp [writePieces, Marker.suffix, ih others, List.replicate_succ]

/-- Where no marker follows, it does not matter whether one has been read before. -/
theorem writePieces_joined {pieces : List Piece}
    (ends : ∀ piece ∈ pieces.head?, piece.isMarker = false) (joined : Bool) :
    writePieces joined pieces = writePieces false pieces := by
  cases pieces with
  | nil => rfl
  | cons piece pieces =>
      cases piece with
      | plain character => rfl
      | marker marker => exact absurd (ends (.marker marker) rfl) (by simp [Piece.isMarker])

/-- What is read is written run by run. -/
theorem writePieces_eq_runs : ∀ pieces : List Piece,
    writePieces false pieces = (runs pieces).flatMap runText
  | [] => rfl
  | .plain character :: pieces => by
      simp [writePieces, runs_plain, runText, writePieces_eq_runs pieces]
  | .marker marker :: pieces => by
      -- The run goes on as long as there are markers; then the rest is shorter.
      have all : ∀ piece ∈ .marker marker :: pieces.takeWhile Piece.isMarker,
          piece.isMarker = true :=
        List.forall_mem_cons.mpr ⟨rfl, fun piece member => List.mem_takeWhile_imp member⟩
      have ends : ∀ piece ∈ (pieces.dropWhile Piece.isMarker).head?, piece.isMarker = false := by
        intro piece head
        have first := List.head?_dropWhile_not Piece.isMarker pieces
        rw [head] at first
        simpa using first
      have split := List.takeWhile_append_dropWhile (p := Piece.isMarker) (l := pieces)
      have run := runs_markers (List.cons_ne_nil _ _) all ends
      have behind := writePieces_markers all (pieces.dropWhile Piece.isMarker)
      rw [List.cons_append, split] at run behind
      have first : writePieces false (.marker marker :: pieces) =
          '_' :: writePieces true (.marker marker :: pieces) := by
        simp [writePieces]
      rw [first, behind, run, writePieces_joined ends true,
        writePieces_eq_runs (pieces.dropWhile Piece.isMarker)]
      simp [runText]
termination_by pieces => pieces.length
decreasing_by
  · simp
  · simp only [List.length_cons]
    exact Nat.lt_succ_of_le (List.dropWhile_sublist _).length_le

/-- A variable name has the plain characters and one text for each run of markers. -/
theorem Reads.variableNameFrom_eq_runs {name : List Char} {pieces : List Piece}
    (reads : Reads name pieces) :
    variableNameFrom false name = (runs pieces).flatMap runText :=
  (reads.variableNameFrom_eq false).trans (writePieces_eq_runs pieces)

/-! ## Names without markers -/

/-- No marker stands anywhere in a name. -/
def Unmarked (name : List Char) : Prop :=
  ∀ marker : Marker, ¬ marker.spelling <:+: name

theorem unmarked_cons {character : Char} {rest : List Char} :
    Unmarked (character :: rest) ↔
      (∀ marker : Marker, ¬ marker.spelling <+: character :: rest) ∧ Unmarked rest := by
  simp only [Unmarked, List.infix_cons_iff, not_or, forall_and]

/-- A name without markers is its own variable name. -/
theorem variableNameFrom_of_unmarked {name : List Char} (unmarked : Unmarked name)
    (joined : Bool) : variableNameFrom joined name = name := by
  induction name generalizing joined with
  | nil => rw [variableNameFrom]
  | cons character rest ih =>
      obtain ⟨noMarker, behind⟩ := unmarked_cons.mp unmarked
      rw [variableNameFrom_noMarker joined noMarker, ih behind]

theorem unmarked_append {front rest : List Char}
    (plain : ∀ character ∈ front, isPlain character = true) (behind : Unmarked rest) :
    Unmarked (front ++ rest) := by
  induction front with
  | nil => exact behind
  | cons character front ih =>
      obtain ⟨own, others⟩ := List.forall_mem_cons.mp plain
      exact unmarked_cons.mpr ⟨noMarker_of_isPlain own _, ih others⟩

/-- A colon in front of what is written was there before. -/
theorem Reads.head?_of_colon {name : List Char} {pieces : List Piece} (reads : Reads name pieces)
    (colon : (writePieces false pieces).head? = some ':') : name.head? = some ':' := by
  cases reads with
  | nil => cases colon
  | marker marker behind => simp [writePieces] at colon
  | plain noMarker behind => exact colon

/-- No marker is left in what is written. -/
theorem Reads.unmarked {name : List Char} {pieces : List Piece} (reads : Reads name pieces)
    (joined : Bool) : Unmarked (writePieces joined pieces) := by
  induction reads generalizing joined with
  | nil =>
      intro marker within
      cases marker <;> simp [writePieces, Marker.spelling] at within
  | marker marker behind ih =>
      apply unmarked_append _ (ih true)
      cases joined <;> cases marker <;> simp [Marker.suffix, isPlain]
  | plain noMarker behind ih =>
      obtain ⟨notOpening, notClosing, notStar, notScope⟩ := noMarker_iff.mp noMarker
      refine unmarked_cons.mpr ⟨noMarker_iff.mpr ⟨notOpening, notClosing, notStar, ?_⟩, ih false⟩
      intro colon second
      exact notScope colon (behind.head?_of_colon second)

theorem unmarked_variableNameFrom (joined : Bool) (name : List Char) :
    Unmarked (variableNameFrom joined name) := by
  obtain ⟨pieces, reads⟩ := exists_reads name
  rw [reads.variableNameFrom_eq]
  exact reads.unmarked joined

/-- A variable name is its own variable name. -/
theorem variableName_variableName (name : String) :
    variableName (variableName name) = variableName name := by
  simp [variableName, variableNameList,
    variableNameFrom_of_unmarked (unmarked_variableNameFrom false name.toList)]

/-! ## Qualified names -/

/-- An underscore joins identifiers to an identifier. -/
theorem IsIdentifier.underscored {first second : String} (identifier : IsIdentifier first)
    (other : IsIdentifier second) : IsIdentifier (first ++ "_" ++ second) := by
  obtain ⟨initial, rest, spelled, starts⟩ := identifier.start
  refine ⟨⟨initial, rest ++ '_' :: second.toList, by simp [spelled], starts⟩, ?_⟩
  intro character member
  simp only [String.toList_append, List.append_assoc, List.mem_append] at member
  rcases member with front | between | back
  · exact identifier.continues character front
  · cases List.mem_singleton.mp between
    decide
  · exact other.continues character back

/-- An identifier is kept, and no marker reaches across it. -/
theorem IsIdentifier.variableNameFrom_append {name : String} (identifier : IsIdentifier name)
    (joined : Bool) (rest : List Char) :
    variableNameFrom joined (name.toList ++ rest) = name.toList ++ variableNameFrom false rest := by
  obtain ⟨front, last, spelled, plain⟩ := identifier.endsPlain
  have kept := variableNameFrom_of_plain identifier.isPlain joined
  rw [spelled] at kept ⊢
  rw [List.append_assoc, List.singleton_append, variableNameFrom_append_cons plain, kept]

/-- Each scope operator between identifiers becomes one underscore, and the whole becomes an
identifier. -/
theorem variableName_intercalate {names : List String} (nonempty : names ≠ [])
    (identifiers : ∀ name ∈ names, IsIdentifier name) :
    variableName ("::".intercalate names) = "_".intercalate names ∧
      IsIdentifier ("_".intercalate names) := by
  suffices joined : ∀ joined : Bool,
      variableNameFrom joined ("::".intercalate names).toList =
          ("_".intercalate names).toList ∧ IsIdentifier ("_".intercalate names) by
    refine ⟨?_, (joined false).2⟩
    rw [variableName, variableNameList, (joined false).1, String.ofList_toList]
  induction names with
  | nil => exact absurd rfl nonempty
  | cons name names ih =>
      obtain ⟨identifier, others⟩ := List.forall_mem_cons.mp identifiers
      intro joined
      cases names with
      | nil =>
          simp only [String.intercalate_singleton]
          exact ⟨variableNameFrom_of_plain identifier.isPlain joined, identifier⟩
      | cons second names =>
          obtain ⟨behind, isIdentifier⟩ := ih (List.cons_ne_nil second names) others true
          rw [String.intercalate_cons_cons, String.intercalate_cons_cons]
          refine ⟨?_, identifier.underscored isIdentifier⟩
          have split (rest : String) :
              (name ++ "::" ++ rest).toList = name.toList ++ ':' :: ':' :: rest.toList := by
            simp
          rw [split, identifier.variableNameFrom_append, variableNameFrom, behind]
          simp only [String.toList_append, List.append_assoc]
          rfl

end RubyBindings.Naming
