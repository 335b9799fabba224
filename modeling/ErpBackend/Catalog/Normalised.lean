import ErpBackend.Catalog.Cutting

/-!
# Stored variants

What opening and saving a variant makes of it: which unknown pieces it keeps, and when doing so
again changes nothing more.
-/

namespace ErpBackend.Catalog.Variants

open Foundation

def Listed (options : List AttributeOption) (option : AttributeOption) : Prop :=
  option ∈ options ∧ option.key ≠ "other"

theorem byLabel_listed {options : List AttributeOption} {t : Text} {option : AttributeOption}
    (found : byLabel options t = some option) :
    Listed options option ∧ lower option.label.toList = t := by
  obtain ⟨first, plain⟩ := Option.filter_eq_some_iff.mp found
  exact ⟨⟨List.mem_of_find?_eq_some first, by simpa using plain⟩,
    by simpa using List.find?_some first⟩

theorem capacityKey_digit {t key : Text} (found : capacityKey t = some key) :
    ∃ c rest, t = c :: rest ∧ c.isDigit = true ∧ ∃ more, key = c :: more := by
  cases t with
  | nil => simp [capacityKey] at found
  | cons c rest =>
    by_cases digit : c.isDigit = true
    · refine ⟨c, rest, rfl, digit, ?_⟩
      simp only [capacityKey, List.takeWhile_cons, digit, if_true] at found
      split at found
      · cases found
      · split at found
        · cases found; exact ⟨_, rfl⟩
        · split at found
          · cases found; exact ⟨_, rfl⟩
          · cases found
    · simp [capacityKey, digit] at found

def labelFits (text : Text) : Bool :=
  text ≠ [] ∧ trimChars text = text ∧ text.all (fun c => !isMark c)

theorem labelFits_piece {text : Text} (fits : labelFits text = true) : Piece text := by
  simp only [labelFits, decide_eq_true_eq, List.all_eq_true, Bool.not_eq_true'] at fits
  exact ⟨fits.1, fits.2.1, fits.2.2⟩

theorem storage_checked : ∀ option ∈ STORAGE_OPTIONS,
    STORAGE_OPTIONS.find? (fun o => o.key = option.key) = some option ∧
      (option.key ≠ "other" →
        (lower option.label.toList).head?.map Char.isDigit = some true ∧
          matchStorage option.label.toList = some option ∧
          labelFits option.label.toList = true ∧ '-' ∉ option.label.toList) := by
  decide +kernel

theorem colour_checked : ∀ option ∈ COLOUR_OPTIONS,
    (COLOUR_OPTIONS.find? (fun o => o.key = option.key) = some option ∧
        (lower option.label.toList).head?.map Char.isDigit = some false ∧
        option.key.toList.head? ≠ some '_') ∧
      (option.key ≠ "other" →
        matchColour option.label.toList = some option ∧
          matchStorage option.label.toList = none ∧
          labelFits option.label.toList = true ∧ '-' ∉ option.label.toList) := by
  decide +kernel

variable {option : AttributeOption}

theorem storage_labels (listed : Listed STORAGE_OPTIONS option) :
    ∃ c rest, lower option.label.toList = c :: rest ∧ c.isDigit = true := by
  obtain ⟨c, head, digit⟩ :=
    Option.map_eq_some_iff.mp ((storage_checked option listed.1).2 listed.2).1
  obtain ⟨rest, whole⟩ := List.head?_eq_some_iff.mp head
  exact ⟨c, rest, whole, digit⟩

variable {piece : Text}

variable {option : AttributeOption}

theorem matchStorage_listed (found : matchStorage piece = some option) :
    Listed STORAGE_OPTIONS option ∧
      ∃ c rest, lower (trimChars piece) = c :: rest ∧ c.isDigit = true := by
  rw [matchStorage] at found
  split at found
  · rename_i exact' label
    cases found
    obtain ⟨listed, whole⟩ := byLabel_listed label
    refine ⟨listed, ?_⟩
    rw [← whole]
    exact storage_labels listed
  · obtain ⟨key, capacity, first⟩ := Option.bind_eq_some_iff.mp found
    obtain ⟨c, rest, whole, digit, more, begins⟩ := capacityKey_digit capacity
    have own : option.key.toList = key := by simpa using List.find?_some first
    refine ⟨⟨List.mem_of_find?_eq_some first, ?_⟩, c, rest, whole, digit⟩
    intro other
    rw [other, begins] at own
    have letter : c = 'o' := (List.cons.inj own).1.symm
    rw [letter] at digit
    exact absurd digit (by decide)

theorem matchColour_listed (found : matchColour piece = some option) :
    Listed COLOUR_OPTIONS option := by
  rw [matchColour] at found
  split at found
  · rename_i exact' label
    cases found
    exact (byLabel_listed label).1
  · dsimp only at found
    split at found
    · have own : option.key = "gray" := by simpa using List.find?_some found
      exact ⟨List.mem_of_find?_eq_some found, by rw [own]; decide⟩
    · have own := List.find?_some found
      simp only [decide_eq_true_eq] at own
      exact ⟨List.mem_of_find?_eq_some found, own.2⟩

theorem digit_not_small {c : Char} (digit : c.isDigit = true) : smallLetter c = false := by
  simp only [Char.isDigit, Bool.and_eq_true, decide_eq_true_eq, ge_iff_le,
    UInt32.le_iff_toNat_le] at digit
  simp only [smallLetter, decide_eq_false_iff_not, not_and, Char.le_def, UInt32.le_iff_toNat_le]
  intro small
  have low := digit.2
  simp at low small
  omega

theorem digit_no_colour {c : Char} {rest : Text}
    (whole : lower (trimChars piece) = c :: rest) (digit : c.isDigit = true) :
    matchColour piece = none := by
  have unlabelled : byLabel COLOUR_OPTIONS (c :: rest) = none := by
    cases found : byLabel COLOUR_OPTIONS (c :: rest) with
    | none => rfl
    | some option =>
      obtain ⟨listed, same⟩ := byLabel_listed found
      have letter := (colour_checked option listed.1).1.2.1
      simp [same, digit] at letter
  obtain ⟨more, under⟩ : ∃ more, underscored false (c :: rest) = '_' :: more :=
    ⟨underscored true rest, by simp [underscored, digit_not_small digit]⟩
  have grey : '_' :: more ≠ "grey".toList := by
    intro same
    exact absurd (List.cons.inj same).1 (by decide)
  rw [matchColour, whole]
  dsimp only
  rw [unlabelled]
  dsimp only
  rw [under, if_neg grey, List.find?_eq_none]
  intro option member same
  simp only [decide_eq_true_eq] at same
  exact (colour_checked option member).1.2.2 (by simp [same.1])

theorem storage_no_colour (found : matchStorage piece = some option) :
    matchColour piece = none := by
  obtain ⟨-, c, rest, whole, digit⟩ := matchStorage_listed found
  exact digit_no_colour whole digit

theorem storage_label (listed : Listed STORAGE_OPTIONS option) :
    matchStorage option.label.toList = some option ∧ Piece option.label.toList ∧
      '-' ∉ option.label.toList := by
  obtain ⟨-, known, fits, free⟩ := (storage_checked option listed.1).2 listed.2
  exact ⟨known, labelFits_piece fits, free⟩

theorem colour_label (listed : Listed COLOUR_OPTIONS option) :
    matchColour option.label.toList = some option ∧ matchStorage option.label.toList = none ∧
      Piece option.label.toList ∧ '-' ∉ option.label.toList := by
  obtain ⟨known, other, fits, free⟩ := (colour_checked option listed.1).2 listed.2
  exact ⟨known, other, labelFits_piece fits, free⟩

theorem labelFor_storage (listed : Listed STORAGE_OPTIONS option)
    (custom : Text) :
    labelFor STORAGE_OPTIONS (some option.key) custom = some option.label.toList := by
  simp [labelFor, listed.2, (storage_checked option listed.1).1]

theorem labelFor_colour (listed : Listed COLOUR_OPTIONS option)
    (custom : Text) :
    labelFor COLOUR_OPTIONS (some option.key) custom = some option.label.toList := by
  simp [labelFor, listed.2, (colour_checked option listed.1).1.1]

def isStorage (piece : Text) : Bool := (matchStorage piece).isSome

def isColour (piece : Text) : Bool := (matchColour piece).isSome

/-- The pieces no slot takes, of which one or both may be taken already. -/
def leftover : Bool → Bool → List Text → List Text
  | _, _, [] => []
  | storage, colour, piece :: rest =>
    if storage && isStorage piece then leftover false colour rest
    else if colour && isColour piece then leftover storage false rest
    else piece :: leftover storage colour rest

theorem place_foldl (pieces : List Text) (slots : Slots) :
    pieces.foldl Slots.place slots =
      { storage := slots.storage.or (pieces.findSome? matchStorage)
        colour := slots.colour.or (pieces.findSome? matchColour)
        unmatched :=
          slots.unmatched ++ leftover slots.storage.isNone slots.colour.isNone pieces } := by
  induction pieces generalizing slots with
  | nil => cases slots; simp [leftover]
  | cons piece rest ih =>
    rw [List.foldl_cons, ih]
    obtain ⟨storage, colour, unmatched⟩ := slots
    cases known : matchStorage piece with
    | some option =>
      have other := storage_no_colour known
      cases storage <;>
        simp [Slots.place, known, other, leftover, isStorage, isColour]
    | none =>
      cases tinted : matchColour piece with
      | some option =>
        cases colour <;>
          simp [Slots.place, known, tinted, leftover, isStorage, isColour]
      | none =>
        simp [Slots.place, known, tinted, leftover, isStorage, isColour]

variable {pieces : List Text}

theorem leftover_storage (plain : ∀ piece ∈ pieces, isColour piece = false)
    (colour : Bool) :
    leftover false colour pieces = pieces ∧
      leftover true colour pieces = pieces.eraseP isStorage := by
  induction pieces with
  | nil => exact ⟨rfl, rfl⟩
  | cons piece rest ih =>
    obtain ⟨taken, free⟩ := ih (fun p member => plain p (List.mem_cons_of_mem _ member))
    have own := plain piece (List.mem_cons_self ..)
    cases known : isStorage piece <;> simp [leftover, own, known, taken, free]

theorem leftover_colour (plain : ∀ piece ∈ pieces, isStorage piece = false)
    (storage : Bool) :
    leftover storage false pieces = pieces ∧
      leftover storage true pieces = pieces.eraseP isColour := by
  induction pieces with
  | nil => exact ⟨rfl, rfl⟩
  | cons piece rest ih =>
    obtain ⟨taken, free⟩ := ih (fun p member => plain p (List.mem_cons_of_mem _ member))
    have own := plain piece (List.mem_cons_self ..)
    cases known : isColour piece <;> simp [leftover, own, known, taken, free]

theorem no_storage (none : pieces.findSome? matchStorage = none) :
    ∀ piece ∈ pieces, isStorage piece = false := by
  intro piece member
  simp [isStorage, List.findSome?_eq_none_iff.mp none piece member]

theorem no_colour (none : pieces.findSome? matchColour = none) :
    ∀ piece ∈ pieces, isColour piece = false := by
  intro piece member
  simp [isColour, List.findSome?_eq_none_iff.mp none piece member]

theorem first_storage (first : pieces.findSome? matchStorage = some option) :
    Listed STORAGE_OPTIONS option := by
  obtain ⟨piece, -, known⟩ := List.exists_of_findSome?_eq_some first
  exact (matchStorage_listed known).1

theorem first_colour (first : pieces.findSome? matchColour = some option) :
    Listed COLOUR_OPTIONS option := by
  obtain ⟨piece, -, known⟩ := List.exists_of_findSome?_eq_some first
  exact matchColour_listed known

/-- The pieces that are written: what two slots know leaves no room for the rest. -/
def written (pieces : List Text) : List Text :=
  match pieces.findSome? matchStorage, pieces.findSome? matchColour with
  | some storage, some colour => [storage.label.toList, colour.label.toList]
  | some storage, none => storage.label.toList :: pieces.eraseP isStorage
  | none, some colour => pieces.eraseP isColour ++ [colour.label.toList]
  | none, none => pieces

def render (pieces : List Text) : Option String :=
  if pieces = [] then none else some (String.ofList (joinPieces pieces))

theorem join_last (filled : pieces ≠ []) (last : Text) :
    joinPieces [joinPieces pieces, last] = joinPieces (pieces ++ [last]) := by
  induction pieces with
  | nil => exact absurd rfl filled
  | cons piece rest ih =>
    cases rest with
    | nil => rfl
    | cons next rest =>
      have tail := ih (by simp)
      simp only [joinPieces_cons, joinPieces, List.cons_append, List.append_assoc] at tail ⊢
      rw [← tail]

theorem join_first (filled : pieces ≠ []) (first : Text) :
    joinPieces [first, joinPieces pieces] = joinPieces (first :: pieces) := by
  cases pieces with
  | nil => exact absurd rfl filled
  | cons piece rest => rfl

theorem labelFor_custom (options : List AttributeOption) {pieces : List Text} (filled : pieces ≠ [])
    (all : ∀ piece ∈ pieces, Piece piece) :
    labelFor options (some "other") (joinPieces pieces) = some (joinPieces pieces) := by
  obtain ⟨more, trimmed⟩ := Piece.join filled all
  simp [labelFor, trimmed, more]

theorem compose_labels {parts : VariantParts} {first second : Option Text}
    (storage : labelFor STORAGE_OPTIONS parts.storageKey parts.storageCustom = first)
    (colour : labelFor COLOUR_OPTIONS parts.colourKey parts.colourCustom = second)
    (filled : ∀ label ∈ first.toList ++ second.toList, label ≠ []) :
    composeVariant parts = render (first.toList ++ second.toList) := by
  have kept : ∀ label : Text, label ≠ [] →
      (some label).filter (fun label => decide (label ≠ [])) = some label := by
    intro label more
    simp [Option.filter, more]
  have pieces : [first, second].filterMap
      (fun label => label.filter (fun label => decide (label ≠ []))) =
        first.toList ++ second.toList := by
    cases first with
    | none =>
      cases second with
      | none => rfl
      | some b =>
          rw [List.filterMap_cons_none rfl, List.filterMap_cons_some (kept b (filled b (by simp)))]
          rfl
    | some a =>
      rw [List.filterMap_cons_some (kept a (filled a (by simp)))]
      cases second with
      | none => rfl
      | some b => rw [List.filterMap_cons_some (kept b (filled b (by simp)))]; rfl
  rw [composeVariant, storage, colour, pieces, render]

theorem render_congr {pieces pieces' : List Text} (filled : pieces ≠ []) (filled' : pieces' ≠ [])
    (same : joinPieces pieces = joinPieces pieces') : render pieces = render pieces' := by
  rw [render, render, if_neg filled, if_neg filled', same]

theorem parts_full (storage : Option AttributeOption) (colour : AttributeOption) {rest : List Text}
    (more : rest ≠ []) :
    Slots.parts ⟨storage, some colour, rest⟩ =
      { storageKey := some ((storage.map AttributeOption.key).getD "other")
        storageCustom := joinPieces rest
        colourKey := some colour.key } := by
  simp [Slots.parts, more]

theorem parts_custom (storage : Option AttributeOption) {rest : List Text} (more : rest ≠ []) :
    Slots.parts ⟨storage, none, rest⟩ =
      { storageKey := storage.map AttributeOption.key
        colourKey := some "other"
        colourCustom := joinPieces rest } := by
  simp [Slots.parts, more]

theorem compose_both {storage colour : AttributeOption} (known : Listed STORAGE_OPTIONS storage)
    (known' : Listed COLOUR_OPTIONS colour) (rest : List Text) :
    composeVariant (Slots.parts ⟨some storage, some colour, rest⟩) =
      render [storage.label.toList, colour.label.toList] := by
  obtain ⟨-, own, -⟩ := storage_label known
  obtain ⟨-, -, own', -⟩ := colour_label known'
  have filled : ∀ label ∈ (some storage.label.toList).toList ++ (some colour.label.toList).toList,
      label ≠ [] := by
    simp [own.filled, own'.filled]
  by_cases more : rest = []
  · subst more
    exact compose_labels (labelFor_storage known _) (labelFor_colour known' _) filled
  · rw [parts_full _ _ more]
    exact compose_labels (labelFor_storage known _) (labelFor_colour known' []) filled

theorem compose_storage {storage : AttributeOption} (known : Listed STORAGE_OPTIONS storage)
    {rest : List Text} (all : ∀ piece ∈ rest, Piece piece) :
    composeVariant (Slots.parts ⟨some storage, none, rest⟩) =
      render (storage.label.toList :: rest) := by
  obtain ⟨-, own, -⟩ := storage_label known
  by_cases more : rest = []
  · subst more
    have empty : labelFor COLOUR_OPTIONS none [] = none := rfl
    exact Eq.trans (compose_labels (labelFor_storage known []) empty (by simp [own.filled])) rfl
  · have filled := (Piece.join more all).1
    rw [parts_custom _ more, compose_labels (labelFor_storage known _)
      (labelFor_custom _ more all) (by simp [own.filled, filled])]
    exact render_congr (by simp) (by simp) (join_first more _)

variable {colour : AttributeOption}

theorem compose_colour (known : Listed COLOUR_OPTIONS colour)
    {rest : List Text} (all : ∀ piece ∈ rest, Piece piece) :
    composeVariant (Slots.parts ⟨none, some colour, rest⟩) =
      render (rest ++ [colour.label.toList]) := by
  obtain ⟨-, -, own, -⟩ := colour_label known
  by_cases more : rest = []
  · subst more
    have empty : labelFor STORAGE_OPTIONS none [] = none := rfl
    exact Eq.trans (compose_labels empty (labelFor_colour known []) (by simp [own.filled])) rfl
  · have filled := (Piece.join more all).1
    rw [parts_full _ _ more, compose_labels (labelFor_custom _ more all)
      (labelFor_colour known _) (by simp [own.filled, filled])]
    exact render_congr (by simp) (by simp) (join_last more _)

theorem compose_neither {rest : List Text} (all : ∀ piece ∈ rest, Piece piece) :
    composeVariant (Slots.parts ⟨none, none, rest⟩) = render rest := by
  by_cases more : rest = []
  · subst more
    rfl
  · have filled := (Piece.join more all).1
    have empty : labelFor STORAGE_OPTIONS none [] = none := rfl
    rw [parts_custom _ more]
    exact Eq.trans (compose_labels empty (labelFor_custom _ more all) (by simp [filled]))
      (render_congr (by simp) more rfl)

theorem compose_place (all : ∀ piece ∈ pieces, Piece piece) :
    composeVariant (pieces.foldl Slots.place {}).parts = render (written pieces) := by
  rw [place_foldl]
  cases storage : pieces.findSome? matchStorage with
  | some first =>
    have known := first_storage storage
    cases colour : pieces.findSome? matchColour with
    | some second =>
      simpa [written, storage, colour] using compose_both known (first_colour colour) _
    | none =>
      have erased := (leftover_storage (no_colour colour) true).2
      have rest := compose_storage known
        (fun piece member => all piece (List.mem_of_mem_eraseP (p := isStorage) member))
      simpa [written, storage, colour, erased] using rest
  | none =>
    cases colour : pieces.findSome? matchColour with
    | some second =>
      have erased := (leftover_colour (no_storage storage) true).2
      have rest := compose_colour (first_colour colour)
        (fun piece member => all piece (List.mem_of_mem_eraseP (p := isColour) member))
      simpa [written, storage, colour, erased] using rest
    | none =>
      have erased := (leftover_storage (no_colour colour) true).2
      rw [List.eraseP_of_forall_not (by simpa using no_storage storage)] at erased
      simpa [written, storage, colour, erased] using compose_neither all

def storedPieces (stored : Option String) : List Text :=
  piecesOf (trimChars (stored.getD "").toList)

theorem normalise_eq (stored : Option String) :
    normalise stored = render (written (storedPieces stored)) := by
  rw [normalise, parseVariant, storedPieces]
  by_cases empty : trimChars (stored.getD "").toList = []
  · rw [if_pos empty, empty]
    rfl
  · rw [if_neg empty]
    exact compose_place (piecesOf_pieces _)

theorem written_pieces (all : ∀ piece ∈ pieces, Piece piece) :
    ∀ piece ∈ written pieces, Piece piece := by
  cases storage : pieces.findSome? matchStorage with
  | some first =>
    have own := (storage_label (first_storage storage)).2.1
    cases colour : pieces.findSome? matchColour with
    | some second =>
      have own' := (colour_label (first_colour colour)).2.2.1
      simp [written, storage, colour, own, own']
    | none =>
      simp only [written, storage, colour, List.forall_mem_cons]
      exact ⟨own, fun piece member => all piece (List.mem_of_mem_eraseP member)⟩
  | none =>
    cases colour : pieces.findSome? matchColour with
    | some second =>
      have own' := (colour_label (first_colour colour)).2.2.1
      simp only [written, storage, colour, List.forall_mem_append, List.forall_mem_singleton]
      exact ⟨fun piece member => all piece (List.mem_of_mem_eraseP member), own'⟩
    | none => simpa [written, storage, colour] using all

theorem dashCount_written (pieces : List Text) : dashCount (written pieces) ≤ dashCount pieces := by
  have label : ∀ text : Text, '-' ∉ text → text.count '-' = 0 := fun _ => List.count_eq_zero.mpr
  cases storage : pieces.findSome? matchStorage with
  | some first =>
    have free := label _ (storage_label (first_storage storage)).2.2
    cases colour : pieces.findSome? matchColour with
    | some second =>
      have free' := label _ (colour_label (first_colour colour)).2.2.2
      simp [written, storage, colour, dashCount, free, free']
    | none =>
      have erased := dashCount_sublist (List.eraseP_sublist (p := isStorage) (l := pieces))
      simpa [written, storage, colour, dashCount, free] using erased
  | none =>
    cases colour : pieces.findSome? matchColour with
    | some second =>
      have free' := label _ (colour_label (first_colour colour)).2.2.2
      have erased := dashCount_sublist (List.eraseP_sublist (p := isColour) (l := pieces))
      simpa [written, storage, colour, dashCount, free'] using erased
    | none => simp [written, storage, colour]

theorem Piece.undotted (own : Piece piece) : '·' ∉ piece := by
  intro member
  have plain := own.plain '·' member
  rw [dot_mark] at plain
  cases plain

theorem storedPieces_render (filled : pieces ≠ [])
    (all : ∀ piece ∈ pieces, Piece piece) :
    storedPieces (render pieces) = piecesOf (joinPieces pieces) := by
  rw [render, if_neg filled, storedPieces, Option.getD_some, String.toList_ofList,
    (Piece.join filled all).2]

theorem render_inj {pieces pieces' : List Text} (filled : pieces ≠ [])
    (same : render pieces' = render pieces) :
      pieces' ≠ [] ∧ joinPieces pieces' = joinPieces pieces := by
  rw [render, render, if_neg filled] at same
  split at same
  · cases same
  · rename_i filled'
    exact ⟨filled', String.ofList_injective (Option.some.inj same)⟩

/-- What is written stays when it is saved again, as long as no dash cuts it and its pieces are
written in the order they are read. -/
theorem stable_iff (filled : pieces ≠ [])
    (all : ∀ piece ∈ pieces, Piece piece) :
    normalise (render pieces) = render pieces ↔
      Calm false .none pieces ∧ written pieces = pieces := by
  rw [normalise_eq, storedPieces_render filled all]
  by_cases calm : Calm false .none pieces
  · rw [piecesOf_join filled all calm]
    constructor
    · intro same
      obtain ⟨filled', joined⟩ := render_inj filled same
      exact ⟨calm,
        join_inj filled' filled (fun piece member => (written_pieces all piece member).undotted)
        (fun piece member => (all piece member).undotted) joined⟩
    · rintro ⟨-, same⟩
      rw [same]
  · constructor
    · intro same
      obtain ⟨-, joined⟩ := render_inj filled same
      have count := congrArg (List.count '-') joined
      rw [count_join] at count
      have read := dashCount_written (piecesOf (joinPieces pieces))
      have lost := dashCount_piecesOf (joinPieces pieces)
      have cuts := mt (calm_iff .none pieces).mpr calm
      omega
    · rintro ⟨calm', -⟩
      exact absurd calm' calm

def Unknown (piece : Text) : Prop := matchStorage piece = none ∧ matchColour piece = none

def Kept (piece : Text) (text : Option String) : Prop :=
  ∃ pieces, (∀ p ∈ pieces, '·' ∉ p) ∧ piece ∈ pieces ∧
    text = some (String.ofList (joinPieces pieces))

/-- Saving what was opened keeps what is unknown, and doing so again changes nothing. -/
structure Faithful (stored : Option String) : Prop where
  kept : ∀ piece ∈ storedPieces stored, Unknown piece → Kept piece (normalise stored)
  stable : normalise (normalise stored) = normalise stored

/-- With both slots known nothing unknown may be left. With a slot free, no dash may come to stand
between white space; and without a capacity, a second colour is only another copy of the first. -/
def Writable (pieces : List Text) : Prop :=
  match pieces.findSome? matchStorage, pieces.findSome? matchColour with
  | some _, some _ => ∀ piece ∈ pieces, ¬Unknown piece
  | some _, none => Calm false .open' (pieces.eraseP isStorage)
  | none, some colour => Calm true .none (pieces.eraseP isColour) ∧
      ∀ piece ∈ (pieces.eraseP isColour).dropWhile (fun piece => !isColour piece),
        piece = colour.label.toList
  | none, none => Calm false .none pieces

theorem kept_iff (all : ∀ piece ∈ pieces, Piece piece) (piece : Text) :
    Kept piece (render pieces) ↔ piece ∈ pieces := by
  constructor
  · rintro ⟨pieces', free, member, same⟩
    have filled' : pieces' ≠ [] := List.ne_nil_of_mem member
    have again : render pieces' = render pieces := by rw [same, render, if_neg filled']
    have filled : pieces ≠ [] := by
      rintro rfl
      simp [render] at same
    obtain ⟨-, joined⟩ := render_inj filled again
    rw [← join_inj filled' filled free (fun p inside => (all p inside).undotted) joined]
    exact member
  · intro member
    exact ⟨pieces, fun p inside => (all p inside).undotted, member,
      by rw [render, if_neg (List.ne_nil_of_mem member)]⟩

theorem Unknown.not_storage (unknown : Unknown piece) : isStorage piece = false := by
  simp [isStorage, unknown.1]

theorem Unknown.not_colour (unknown : Unknown piece) : isColour piece = false := by
  simp [isColour, unknown.2]

theorem calm_label {label : Text} (free : '-' ∉ label) (pieces : List Text) :
    Calm false .none (label :: pieces) ↔ Calm false .open' pieces := by
  cases pieces with
  | nil => simp [Calm, dashes_free free]
  | cons piece rest => simp [Calm, dashes_free free]

theorem calm_append_label {label : Text} (free : '-' ∉ label) (gap : Gap) (pieces : List Text) :
    Calm false gap (pieces ++ [label]) ↔ Calm true gap pieces := by
  induction pieces generalizing gap with
  | nil => simp [Calm, dashes_free free]
  | cons piece rest ih =>
    cases rest with
    | nil => simp [Calm, dashes_free free]
    | cons next rest =>
      have tail := ih .open'
      rw [List.cons_append] at tail
      simp only [List.cons_append, Calm, tail]

theorem append_eq_cons (last first : Text) (rest : List Text) :
    rest ++ [last] = first :: rest ↔ ∀ piece ∈ first :: rest, piece = last := by
  induction rest generalizing first with
  | nil => simp [eq_comm]
  | cons next rest ih =>
    rw [List.cons_append, List.cons.injEq, ih, List.forall_mem_cons (a := first)]
    constructor
    · rintro ⟨rfl, later⟩
      exact ⟨later _ (List.mem_cons_self ..), later⟩
    · rintro ⟨rfl, later⟩
      exact ⟨later _ (List.mem_cons_self ..), later⟩

theorem written_plain (storage : ∀ piece ∈ pieces, isStorage piece = false)
    (first : pieces.findSome? matchColour = some colour) :
    written pieces = pieces.eraseP isColour ++ [colour.label.toList] := by
  have none : pieces.findSome? matchStorage = none := by
    rw [List.findSome?_eq_none_iff]
    intro piece member
    simpa [isStorage] using storage piece member
  simp [written, none, first]

/-- A text without capacities, written with the colour last, is read in the same order when the
colours among the rest are all that one. -/
theorem written_colour (plain : ∀ piece ∈ pieces, isStorage piece = false)
    (listed : Listed COLOUR_OPTIONS colour) :
    written (pieces ++ [colour.label.toList]) = pieces ++ [colour.label.toList] ↔
      ∀ piece ∈ pieces.dropWhile (fun piece => !isColour piece), piece = colour.label.toList := by
  obtain ⟨known, other, -, -⟩ := colour_label listed
  have storage : ∀ piece ∈ pieces ++ [colour.label.toList], isStorage piece = false := by
    intro piece member
    rcases List.mem_append.mp member with inside | last
    · exact plain piece inside
    · simp [List.mem_singleton.mp last, isStorage, other]
  induction pieces with
  | nil =>
    rw [written_plain storage (show _ = some colour by simp [known])]
    simp [isColour, known]
  | cons piece rest ih =>
    have later : ∀ p ∈ rest ++ [colour.label.toList], isStorage p = false :=
      fun p member => storage p (List.mem_cons_of_mem _ member)
    have tail := ih (fun p member => plain p (List.mem_cons_of_mem _ member)) later
    cases tinted : matchColour piece with
    | none =>
      obtain ⟨first, found⟩ : ∃ first,
          (rest ++ [colour.label.toList]).findSome? matchColour = some first := by
        rw [← Option.isSome_iff_exists, List.findSome?_isSome_iff]
        exact ⟨colour.label.toList, by simp, by simp [known]⟩
      rw [written_plain later found] at tail
      rw [written_plain storage (show _ = some first by simp [tinted, found])]
      simpa [isColour, tinted] using tail
    | some first =>
      rw [written_plain storage (show _ = some first by simp [tinted])]
      have shifted := append_eq_cons first.label.toList piece (rest ++ [colour.label.toList])
      have own : isColour piece = true := by simp [isColour, tinted]
      have whole : (piece :: rest).dropWhile (fun piece => !isColour piece) = piece :: rest := by
        simp [own]
      rw [whole, List.cons_append, List.eraseP_cons_of_pos own, shifted]
      constructor
      · intro all p member
        have last := all colour.label.toList (by simp)
        rw [last]
        exact all p (List.cons_subset_cons piece (List.subset_append_left rest _) member)
      · intro all
        have own := all piece (List.mem_cons_self ..)
        rw [own, known] at tinted
        cases tinted
        intro p member
        rcases List.mem_cons.mp member with rfl | later
        · exact own
        · rcases List.mem_append.mp later with inside | last
          · exact all p (List.mem_cons_of_mem _ inside)
          · exact List.mem_singleton.mp last

theorem both_stable {storage colour : AttributeOption} (known : Listed STORAGE_OPTIONS storage)
    (known' : Listed COLOUR_OPTIONS colour) :
    normalise (render [storage.label.toList, colour.label.toList]) =
      render [storage.label.toList, colour.label.toList] := by
  obtain ⟨first, own, free⟩ := storage_label known
  obtain ⟨second, other, own', free'⟩ := colour_label known'
  rw [stable_iff (by simp) (by simp [own, own'])]
  refine ⟨?_, ?_⟩
  · simp [Calm, dashes_free free, dashes_free free']
  · simp [written, first, storage_no_colour first, second]

theorem storage_stable {storage : AttributeOption} (known : Listed STORAGE_OPTIONS storage)
    {rest : List Text} (all : ∀ piece ∈ rest, Piece piece)
    (plain : ∀ piece ∈ rest, isColour piece = false) :
    normalise (render (storage.label.toList :: rest)) = render (storage.label.toList :: rest) ↔
      Calm false .open' rest := by
  obtain ⟨first, own, free⟩ := storage_label known
  have colour : rest.findSome? matchColour = none := by
    rw [List.findSome?_eq_none_iff]
    intro piece member
    simpa [isColour] using plain piece member
  have same : written (storage.label.toList :: rest) = storage.label.toList :: rest := by
    simp [written, first, storage_no_colour first, colour, isStorage]
  rw [stable_iff (by simp) (by simpa using ⟨own, all⟩), calm_label free]
  exact and_iff_left same

theorem colour_stable (known : Listed COLOUR_OPTIONS colour)
    {rest : List Text} (all : ∀ piece ∈ rest, Piece piece)
    (plain : ∀ piece ∈ rest, isStorage piece = false) :
    normalise (render (rest ++ [colour.label.toList])) = render (rest ++ [colour.label.toList]) ↔
      Calm true .none rest ∧
        ∀ piece ∈ rest.dropWhile (fun piece => !isColour piece), piece = colour.label.toList := by
  obtain ⟨-, -, own, free⟩ := colour_label known
  have pieces : ∀ piece ∈ rest ++ [colour.label.toList], Piece piece := by
    simp only [List.forall_mem_append, List.forall_mem_singleton]
    exact ⟨all, own⟩
  rw [stable_iff (by simp) pieces, calm_append_label free, written_colour plain known]

theorem neither_stable (all : ∀ piece ∈ pieces, Piece piece)
    (storage : pieces.findSome? matchStorage = none)
    (colour : pieces.findSome? matchColour = none) :
    normalise (render pieces) = render pieces ↔ Calm false .none pieces := by
  by_cases filled : pieces = []
  · subst filled
    simp [Calm, render, normalise, parseVariant, composeVariant, labelFor, trimChars]
  · rw [stable_iff filled all]
    exact and_iff_left (by simp [written, storage, colour])

theorem faithful_iff (all : ∀ piece ∈ pieces, Piece piece) :
    (∀ piece ∈ pieces, Unknown piece → Kept piece (render (written pieces))) ∧
        normalise (render (written pieces)) = render (written pieces) ↔ Writable pieces := by
  simp only [kept_iff (written_pieces all)]
  have erased : ∀ p : Text → Bool, ∀ piece ∈ pieces.eraseP p, Piece piece :=
    fun p piece member => all piece (List.mem_of_mem_eraseP member)
  cases storage : pieces.findSome? matchStorage with
  | some first =>
    have known := first_storage storage
    cases colour : pieces.findSome? matchColour with
    | some second =>
      have known' := first_colour colour
      simp only [Writable, written, storage, colour, both_stable known known', and_true]
      constructor
      · intro keeps piece member unknown
        rcases List.mem_cons.mp (keeps piece member unknown) with rfl | last
        · rw [Unknown, (storage_label known).1] at unknown
          cases unknown.1
        · rw [List.mem_singleton.mp last, Unknown, (colour_label known').1] at unknown
          cases unknown.2
      · intro no piece member unknown
        exact absurd unknown (no piece member)
    | none =>
      have plain := no_colour colour
      simp only [Writable, written, storage, colour]
      rw [storage_stable known (erased _) (fun piece member =>
        plain piece (List.mem_of_mem_eraseP member))]
      refine and_iff_right (fun piece member unknown => List.mem_cons_of_mem _ ?_)
      exact (List.mem_eraseP_of_neg (by simp [unknown.not_storage])).mpr member
  | none =>
    cases colour : pieces.findSome? matchColour with
    | some second =>
      have plain := no_storage storage
      simp only [Writable, written, storage, colour]
      rw [colour_stable (first_colour colour) (erased _)
        (fun piece member => plain piece (List.mem_of_mem_eraseP member))]
      refine and_iff_right (fun piece member unknown => List.mem_append_left _ ?_)
      exact (List.mem_eraseP_of_neg (by simp [unknown.not_colour])).mpr member
    | none =>
      simp only [Writable, written, storage, colour]
      rw [neither_stable all storage colour]
      exact and_iff_right (fun piece member _ => member)

theorem variant_kept_iff (stored : Option String) :
    Faithful stored ↔ Writable (storedPieces stored) := by
  have pieces : ∀ piece ∈ storedPieces stored, Piece piece := piecesOf_pieces _
  rw [← faithful_iff pieces, ← normalise_eq]
  exact ⟨fun faithful => ⟨faithful.kept, faithful.stable⟩, fun ⟨kept, stable⟩ => ⟨kept, stable⟩⟩

/-- With a capacity and a colour known, the third word is gone. -/
theorem third_word_dropped : ¬Faithful (some "128GB, Black, Dual SIM") := by
  intro faithful
  obtain ⟨three, unknown, written, fit⟩ :
      storedPieces (some "128GB, Black, Dual SIM") =
          ["128GB".toList, "Black".toList, "Dual SIM".toList] ∧
        (matchStorage "Dual SIM".toList = none ∧ matchColour "Dual SIM".toList = none) ∧
        normalise (some "128GB, Black, Dual SIM") =
          render ["128 GB".toList, "Black".toList] ∧
        ["128 GB".toList, "Black".toList].all labelFits = true := by
    decide +kernel
  have kept := faithful.kept "Dual SIM".toList (by rw [three]; simp) unknown
  have two : ∀ piece ∈ ["128 GB".toList, "Black".toList], Piece piece :=
    fun piece member => labelFits_piece (List.all_eq_true.mp fit piece member)
  rw [written, kept_iff two] at kept
  exact absurd kept (by decide)

end ErpBackend.Catalog.Variants
