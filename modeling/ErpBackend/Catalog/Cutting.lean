import ErpBackend.Catalog.Variants

/-!
# Cutting a joined text

Pieces that were joined are cut apart again, unless a dash that opens or closes a piece now stands
between white space. Every cut at a dash takes the dash away, so what is cut so has one fewer.
-/

namespace ErpBackend.Catalog.Variants

open Foundation

/-- Whether white space follows, where `next` tells it for the end of the text. -/
def nextSpace : Text → Bool → Bool
  | [], next => next
  | c :: _, _ => jsSpace c

variable (text : Text)

theorem startsSpace_eq : startsSpace text = nextSpace text false := by
  cases text <;> rfl

theorem nextSpace_append (first rest : Text) (next : Bool) :
    nextSpace (first ++ rest) next = nextSpace first (nextSpace rest next) := by
  cases first <;> rfl

def dashes : Gap → Text → Bool → Nat
  | _, [], _ => 0
  | gap, c :: rest, next =>
    if isMark c then dashes .none rest next
    else if dashCuts gap c (nextSpace rest next) then dashes .taken rest next + 1
    else dashes (gap.after c) rest next

def through : Gap → Text → Bool → Gap
  | gap, [], _ => gap
  | gap, c :: rest, next =>
    if isMark c then through .none rest next
    else if dashCuts gap c (nextSpace rest next) then through .taken rest next
    else through (gap.after c) rest next

variable (gap : Gap)

theorem dashes_append (first rest : Text) (next : Bool) :
    dashes gap (first ++ rest) next =
      dashes gap first (nextSpace rest next) +
        dashes (through gap first (nextSpace rest next)) rest next := by
  induction first generalizing gap with
  | nil => simp [dashes, through]
  | cons c first ih =>
    simp only [List.cons_append, dashes, through, nextSpace_append]
    split
    · exact ih .none
    · split
      · rw [ih .taken]; omega
      · exact ih (gap.after c)

theorem space_blank : jsSpace ' ' = true := by decide

theorem space_plain : isMark ' ' = false := by decide

theorem dot_mark : isMark '·' = true := by decide

theorem dashes_separator (rest : Text) (next : Bool) :
    dashes gap (' ' :: '·' :: ' ' :: rest) next = dashes .open' rest next := by
  simp [dashes, dashCuts, Gap.after, space_blank, dot_mark, space_plain]

theorem dashes_free {text : Text} (free : '-' ∉ text) (gap : Gap) (next : Bool) :
    dashes gap text next = 0 := by
  induction text generalizing gap with
  | nil => rfl
  | cons c rest ih =>
    have other : c ≠ '-' := fun same => free (by simp [same])
    have later : '-' ∉ rest := fun member => free (List.mem_cons_of_mem _ member)
    simp [dashes, dashCuts, other, ih later]

@[simp] theorem joinPieces_cons (piece next : Text) (rest : List Text) :
    joinPieces (piece :: next :: rest) =
      piece ++ ' ' :: '·' :: ' ' :: joinPieces (next :: rest) := rfl

/-- No dash of the pieces cuts when they are joined after `gap`, before white space or not. -/
def Calm (last : Bool) : Gap → List Text → Prop
  | _, [] => True
  | gap, [piece] => dashes gap piece last = 0
  | gap, piece :: next :: rest => dashes gap piece true = 0 ∧ Calm last .open' (next :: rest)

variable (pieces : List Text)

theorem calm_iff :
    Calm false gap pieces ↔ dashes gap (joinPieces pieces) false = 0 := by
  induction pieces generalizing gap with
  | nil => simp [Calm, joinPieces, dashes]
  | cons piece rest ih =>
    cases rest with
    | nil => rfl
    | cons next rest =>
      have blank : nextSpace (' ' :: '·' :: ' ' :: joinPieces (next :: rest)) false = true :=
        space_blank
      rw [joinPieces_cons, dashes_append, blank, dashes_separator, Calm, ih]
      omega

theorem cut_ne_nil (text : Text) : cut gap text ≠ [] := by
  induction text generalizing gap with
  | nil => simp [cut]
  | cons c rest ih =>
    rw [cut]
    split
    · simp
    · split
      · simp
      · cases pieces : cut (gap.after c) rest with
        | nil => exact absurd pieces (ih _)
        | cons first more => simp

theorem cut_append (piece tail : Text) (plain : ∀ c ∈ piece, isMark c = false)
    (calm : dashes gap piece (nextSpace tail false) = 0) :
    ∃ gap', cut gap (piece ++ tail) = (cut gap' tail).modifyHead (piece ++ ·) := by
  induction piece generalizing gap with
  | nil => exact ⟨gap, by cases h : cut gap tail <;> simp [h]⟩
  | cons c piece ih =>
    have own := plain c (List.mem_cons_self ..)
    simp only [dashes, own, Bool.false_eq_true, if_false] at calm
    split at calm
    · omega
    · rename_i whole
      obtain ⟨gap', rest⟩ :=
        ih (gap.after c) (fun d member => plain d (List.mem_cons_of_mem _ member)) calm
      refine ⟨gap', ?_⟩
      have uncut : dashCuts gap c (startsSpace (piece ++ tail)) = false := by
        rw [startsSpace_eq, nextSpace_append]
        exact eq_false_of_ne_true whole
      simp only [List.cons_append, cut, own, uncut, Bool.false_eq_true, if_false, rest]
      cases cut gap' tail <;> simp

theorem cut_separator (rest : Text) :
    cut gap (' ' :: '·' :: ' ' :: rest) = [' '] :: (cut .open' rest).modifyHead (' ' :: ·) := by
  simp [cut, dashCuts, Gap.after, space_blank, dot_mark, space_plain]

/-- What a piece is: it is not empty, trimmed, and has no mark in it. -/
structure Piece (text : Text) : Prop where
  filled : text ≠ []
  trimmed : trimChars text = text
  plain : ∀ c ∈ text, isMark c = false

theorem trim_before : trimChars (' ' :: text) = trimChars text := by
  simp [trimChars, space_blank]

theorem trim_after : trimChars (text ++ [' ']) = trimChars text := by
  cases inner : text.dropWhile jsSpace with
  | nil => simp [trimChars, List.dropWhile_append, inner, space_blank]
  | cons c rest => simp [trimChars, List.dropWhile_append, inner, space_blank]

theorem trimmed_iff :
    trimChars text = text ↔
      text.dropWhile jsSpace = text ∧ text.rdropWhile jsSpace = text := by
  rw [trimChars_eq]
  constructor
  · intro trimmed
    have inner : ((text.dropWhile jsSpace).rdropWhile jsSpace).Sublist (text.dropWhile jsSpace) :=
      (List.rdropWhile_prefix jsSpace _).sublist
    rw [trimmed] at inner
    have front : text.dropWhile jsSpace = text := (List.dropWhile_sublist _).antisymm inner
    exact ⟨front, by rw [front] at trimmed; exact trimmed⟩
  · rintro ⟨front, back⟩
    rw [front, back]

theorem trim_between {first last : Text} (middle : Text) (firstFilled : first ≠ [])
    (lastFilled : last ≠ []) (firstTrimmed : trimChars first = first)
    (lastTrimmed : trimChars last = last) :
    trimChars (first ++ middle ++ last) = first ++ middle ++ last := by
  obtain ⟨front, -⟩ := (trimmed_iff first).mp firstTrimmed
  obtain ⟨-, back⟩ := (trimmed_iff last).mp lastTrimmed
  rw [trimmed_iff]
  constructor
  · rw [List.dropWhile_eq_self_iff] at front ⊢
    cases first with
    | nil => exact absurd rfl firstFilled
    | cons c rest => simpa using front
  · rw [List.rdropWhile_eq_self_iff] at back ⊢
    intro filled
    rw [List.getLast_append_of_ne_nil _ lastFilled]
    exact back lastFilled

variable {pieces : List Text}

theorem Piece.join (filled : pieces ≠ []) (all : ∀ piece ∈ pieces, Piece piece) :
    joinPieces pieces ≠ [] ∧ trimChars (joinPieces pieces) = joinPieces pieces := by
  induction pieces with
  | nil => exact absurd rfl filled
  | cons piece rest ih =>
    have own := all piece (List.mem_cons_self ..)
    cases rest with
    | nil => exact ⟨own.filled, own.trimmed⟩
    | cons next rest =>
      obtain ⟨more, trimmed⟩ := ih (by simp) (fun p member => all p (List.mem_cons_of_mem _ member))
      refine ⟨by simp, ?_⟩
      have between := trim_between [' ', '·', ' '] own.filled more own.trimmed trimmed
      simpa using between

theorem trim_modifyHead :
    (pieces.modifyHead (' ' :: ·)).map trimChars = pieces.map trimChars := by
  cases pieces <;> simp [trim_before]

theorem cut_join (filled : pieces ≠ []) (all : ∀ piece ∈ pieces, Piece piece)
    (gap : Gap) (calm : Calm false gap pieces) :
    (cut gap (joinPieces pieces)).map trimChars = pieces := by
  induction pieces generalizing gap with
  | nil => exact absurd rfl filled
  | cons piece rest ih =>
    have own := all piece (List.mem_cons_self ..)
    cases rest with
    | nil =>
      obtain ⟨gap', whole⟩ := cut_append gap piece [] own.plain calm
      rw [List.append_nil] at whole
      simp [joinPieces, whole, cut, own.trimmed]
    | cons next rest =>
      obtain ⟨first, later⟩ := calm
      have tail := ih (by simp) (fun p member => all p (List.mem_cons_of_mem _ member)) .open' later
      obtain ⟨gap', whole⟩ := cut_append gap piece (' ' :: '·' :: ' ' :: joinPieces (next :: rest))
        own.plain (by rw [nextSpace, space_blank]; exact first)
      rw [joinPieces_cons, whole, cut_separator, List.modifyHead_cons, List.map_cons, trim_after,
        trim_modifyHead, tail, own.trimmed]

theorem piecesOf_join (filled : pieces ≠ [])
    (all : ∀ piece ∈ pieces, Piece piece) (calm : Calm false .none pieces) :
    piecesOf (joinPieces pieces) = pieces := by
  rw [piecesOf, cut_join filled all .none calm, List.filter_eq_self]
  intro piece member
  simpa using (all piece member).filled

theorem cut_plain (text : Text) :
    ∀ piece ∈ cut gap text, ∀ c ∈ piece, isMark c = false := by
  induction text generalizing gap with
  | nil => simp [cut]
  | cons c rest ih =>
    rw [cut]
    split
    · simpa using ih .none
    · rename_i plain
      split
      · simpa using ih .taken
      · have later := ih (gap.after c)
        cases pieces : cut (gap.after c) rest with
        | nil => simp
        | cons first more =>
          rw [pieces] at later
          simp only [List.modifyHead_cons, List.forall_mem_cons] at later ⊢
          exact ⟨⟨eq_false_of_ne_true plain, later.1⟩, later.2⟩

theorem piecesOf_pieces : ∀ piece ∈ piecesOf text, Piece piece := by
  intro piece member
  obtain ⟨inside, filled⟩ := List.mem_filter.mp member
  obtain ⟨raw, present, rfl⟩ := List.mem_map.mp inside
  exact ⟨by simpa using filled, trimChars_idempotent raw,
    fun c inner => cut_plain .none text raw present c (mem_trimChars raw c inner)⟩

def dashCount (pieces : List Text) : Nat := (pieces.map (List.count '-')).sum

theorem dashCount_sublist {pieces pieces' : List Text} (sub : pieces.Sublist pieces') :
    dashCount pieces ≤ dashCount pieces' := by
  induction sub with
  | slnil => exact Nat.le_refl _
  | cons piece sub ih => simp only [dashCount, List.map_cons, List.sum_cons] at ih ⊢; omega
  | cons_cons piece sub ih => simp only [dashCount, List.map_cons, List.sum_cons] at ih ⊢; omega

theorem dashCount_modifyHead (c : Char) {pieces : List Text} (filled : pieces ≠ []) :
    dashCount (pieces.modifyHead (c :: ·)) = dashCount pieces + if c = '-' then 1 else 0 := by
  cases pieces with
  | nil => exact absurd rfl filled
  | cons first rest =>
    simp only [dashCount, List.modifyHead_cons, List.map_cons, List.sum_cons, List.count_cons,
      beq_iff_eq]
    omega

theorem dashCount_cut (text : Text) :
    dashCount (cut gap text) + dashes gap text false = text.count '-' := by
  induction text generalizing gap with
  | nil => rfl
  | cons c rest ih =>
    rw [cut, dashes, ← startsSpace_eq, List.count_cons]
    by_cases mark : isMark c = true
    · have other : c ≠ '-' := by
        rintro rfl
        exact absurd mark (by decide)
      have later := ih .none
      simpa [mark, dashCount, other] using later
    · by_cases dash : dashCuts gap c (startsSpace rest) = true
      · have own : c = '-' := by
          simp only [dashCuts, decide_eq_true_eq] at dash
          exact dash.1
        have later := ih .taken
        rw [if_neg mark, if_pos dash, if_neg mark, if_pos dash]
        simp only [dashCount, List.map_cons, List.sum_cons, List.count_nil, own] at later ⊢
        simp
        omega
      · have later := ih (gap.after c)
        simp only [mark, dash, Bool.false_eq_true, if_false]
        rw [dashCount_modifyHead c (cut_ne_nil _ _)]
        simp only [beq_iff_eq]
        omega

theorem count_trim : (trimChars text).count '-' = text.count '-' := by
  have dash : jsSpace '-' = false := by decide
  rw [List.count_eq_length_filter, List.count_eq_length_filter, filter_trimChars]
  intro c blank
  by_contra same
  have own : c = '-' := by simpa using same
  rw [own, dash] at blank
  cases blank

theorem dashCount_piecesOf :
    dashCount (piecesOf text) + dashes .none text false ≤ text.count '-' := by
  have kept : dashCount (piecesOf text) ≤ dashCount ((cut .none text).map trimChars) :=
    dashCount_sublist List.filter_sublist
  have trimmed : dashCount ((cut .none text).map trimChars) = dashCount (cut .none text) := by
    simp only [dashCount, List.map_map]
    exact congrArg List.sum (List.map_congr_left fun piece _ => count_trim piece)
  have whole := dashCount_cut .none text
  omega

theorem count_join : (joinPieces pieces).count '-' = dashCount pieces := by
  induction pieces with
  | nil => rfl
  | cons piece rest ih =>
    cases rest with
    | nil => simp [joinPieces, dashCount]
    | cons next rest =>
      simp only [joinPieces_cons, List.count_append, List.count_cons, ih, dashCount, List.map_cons,
        List.sum_cons]
      simp

theorem join_inj {pieces pieces' : List Text} (filled : pieces ≠ []) (filled' : pieces' ≠ [])
    (free : ∀ piece ∈ pieces, '·' ∉ piece) (free' : ∀ piece ∈ pieces', '·' ∉ piece)
    (same : joinPieces pieces = joinPieces pieces') : pieces = pieces' := by
  have marked : ∀ (piece next : Text) (rest : List Text), joinPieces (piece :: next :: rest) =
      (piece ++ [' ']) ++ '·' :: (' ' :: joinPieces (next :: rest)) := by
    intro piece next rest
    simp
  induction pieces generalizing pieces' with
  | nil => exact absurd rfl filled
  | cons piece rest ih =>
    have own := free piece (List.mem_cons_self ..)
    cases pieces' with
    | nil => exact absurd rfl filled'
    | cons piece' rest' =>
      have own' := free' piece' (List.mem_cons_self ..)
      cases rest with
      | nil =>
        cases rest' with
        | nil => simpa [joinPieces] using same
        | cons next' rest' =>
          rw [joinPieces, marked] at same
          exact absurd (by simp [same]) own
      | cons next rest =>
        cases rest' with
        | nil =>
          rw [joinPieces, marked] at same
          exact absurd (by simp [← same]) own'
        | cons next' rest' =>
          rw [marked, marked,
            joined_free '·' _ _ _ _ (by simpa using own) (by simpa using own')] at same
          obtain ⟨first, later⟩ := same
          rw [List.append_cancel_right first, ih (by simp) (by simp)
            (fun p member => free p (List.mem_cons_of_mem _ member))
            (fun p member => free' p (List.mem_cons_of_mem _ member)) (List.cons.inj later).2]

end ErpBackend.Catalog.Variants
