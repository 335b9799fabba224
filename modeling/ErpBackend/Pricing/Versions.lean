import ErpBackend.Pricing.History

/-!
# Edits that are stale

The version that guards an edit lives on a row that is deleted with its price and starts at
zero with the next one. As long as no price is removed, the version counts the writes since
it was read.
-/

namespace ErpBackend.Pricing

open Foundation

/-- What was written since a version was read: while nothing was removed, the version has
risen by as much. -/
def Since (target : Target) (read : Store) (version : Nat) (s : Store) : Prop :=
  ∃ new, history s target = history read target ++ new ∧
    ((∀ event ∈ new, event.newPrice ≠ none) →
      ∃ price, cell s target = some ⟨price, version + new.length⟩)

theorem Since.untouched {target : Target} {read : Store} {version : Nat} {s s' : Store}
    (since : Since target read version s) (same : cell s' target = cell s target)
    (events : history s' target = history s target) : Since target read version s' := by
  obtain ⟨new, added, counts⟩ := since
  refine ⟨new, events.trans added, ?_⟩
  rw [same]
  exact counts

theorem Since.wrote {target changed : Target} {read : Store} {version : Nat} {after : Option Cell}
    {s s' : Store} (since : Since target read version s) (wrote : Wrote changed after s s')
    (next : changed = target → after.bind Cell.price ≠ none →
      ∀ price version, cell s target = some ⟨price, version⟩ →
        ∃ price', after = some ⟨price', version + 1⟩) : Since target read version s' := by
  have cells := wrote.cells target
  rcases wrote.history target with ⟨other, kept⟩ | ⟨rfl, event, change, added⟩
  · rw [if_neg other] at cells
    exact since.untouched cells kept
  · rw [if_pos rfl] at cells
    obtain ⟨new, before, counts⟩ := since
    refine ⟨new ++ [event], by rw [added, before, List.append_assoc], ?_⟩
    intro sets
    obtain ⟨price, held⟩ := counts (fun event member => sets event (List.mem_append_left _ member))
    have set := sets event (by simp)
    have news : event.newPrice = after.bind Cell.price := congrArg Prod.snd change
    obtain ⟨price', risen⟩ := next rfl (news ▸ set) price _ held
    exact ⟨price', by rw [cells, risen, List.length_append, List.length_singleton, Nat.add_assoc]⟩

theorem Edit.counts {expected : Option Nat} {before after : Option Cell}
    (edit : Edit expected before after) (sets : after.bind Cell.price ≠ none) (price : Option Int)
    (version : Nat) (held : before = some ⟨price, version⟩) :
    ∃ price', after = some ⟨price', version + 1⟩ := by
  cases edit with
  | create price => cases held
  | replace old version price =>
      cases held
      exact ⟨_, rfl⟩
  | remove old version => exact absurd rfl sets

theorem Edit.version {expected : Nat} {before after : Option Cell} {price : Option Int}
    {version : Nat} (edit : Edit (some expected) before after)
    (held : before = some ⟨price, version⟩) : expected = version := by
  cases edit with
  | create price => cases held
  | replace old version price =>
      cases held
      rfl
  | remove old version =>
      cases held
      rfl

theorem run_since {c c' : Config Store Mark Refusal Unit} (sound : writing.Sound c)
    (run : FittingRun Call (fun _ _ => True) c c') (target : Target) (version : Nat)
    (read : ∃ price, cell c.store target = some ⟨price, version⟩) :
    Since target c.store version c'.store := by
  have start : Since target c.store version c.store := ⟨[], by simp, fun _ => read⟩
  refine run_keeps (Since target c.store version) ?_ ?_ ?_ sound run start
  · exact fun s s' untouched since =>
      since.untouched (untouched.cells target) (untouched.history target)
  · rintro changed expected s s' ⟨after, edit, wrote⟩ since
    refine since.wrote wrote (fun same sets price version held => ?_)
    exact edit.counts sets price version (by rw [same]; exact held)
  · rintro s s' ⟨_, _, _, _, _, _, wrote⟩ since
    exact since.wrote wrote (fun _ sets => absurd rfl sets)

/-- A write that goes through with a version read earlier finds no other write since that
read exactly when no price of the target was removed since. -/
theorem stale_edits_refused (s : Store) (indexed : Indexed s)
    (c : Config Store Mark Refusal Unit) (run : FittingRun Call (fun _ _ => True) (.idle s) c)
    (target : Target) (version : Nat)
    (read : ∃ price, cell c.store target = some ⟨price, version⟩)
    (c' : Config Store Mark Refusal Unit) (later : FittingRun Call (fun _ _ => True) c c')
    (index : Nat)
    (pending : c'.inFlight[index]?.bind Prog.mark? = some (.write target (some version)))
    (succeeds : history (c'.move (.advance index)).store target ≠ history c'.store target) :
    history c'.store target = history c.store target ↔
      ∀ event ∈ (history c'.store target).drop (history c.store target).length,
        event.newPrice ≠ none := by
  have sound := reached_sound indexed run
  have sound' := writing.run_sound Call c c' (fun p call s _ => call_enters p call s) later sound
  obtain ⟨new, added, counts⟩ := run_since sound later target version read
  rw [added, List.drop_left]
  constructor
  · intro same event member
    rw [List.append_right_eq_self.mp same] at member
    cases member
  · intro sets
    obtain ⟨price, held⟩ := counts sets
    obtain ⟨-, next, led⟩ := sound'.moved writing index _ pending
    rcases led with same | edits
    · exact absurd (by rw [same]) succeeds
    · obtain ⟨after, edit, -⟩ := edits sound'.inv
      have equal := edit.version held
      have none : new.length = 0 := by omega
      rw [List.length_eq_zero_iff.mp none, List.append_nil]

def phones : Product := ⟨61, 1, "Apple", "iPhone 15", none, .imei, none, none, none, none, none, 0⟩

def showroom : Store where
  db := { products := ⟨[phones], List.nodup_singleton _⟩ }
  userBranches := ⟨[⟨40, 1, 9, 2, 20⟩], by decide⟩

theorem showroom_indexed : Indexed showroom :=
  ⟨fun _ member => (by cases member), fun _ member => (by cases member)⟩

def phonePrice : Target := .branchVariant 1 61 2

def priceOfPhones (ids : PriceIds) (price : Money) (expectedVersion : Option Nat) : Request Unit :=
  (setBranchVariantPrice manager nothing ids 61 { price, expectedVersion }).void

def firstSet : List (Move Store Mark Refusal Unit) :=
  [.arrive (priceOfPhones ⟨70, 71⟩ ⟨900000, by decide⟩ none), .advance 0, .advance 0, .advance 0,
    .advance 0]

/-- It is removed and set again; then the edit of the first price is about to be written. -/
def setAgain : List (Move Store Mark Refusal Unit) :=
  [.arrive (removeBranchVariantPrice manager ⟨72, 73⟩ 61 ⟨0, none⟩).void, .advance 1, .advance 1,
    .advance 1, .arrive (priceOfPhones ⟨74, 75⟩ ⟨950000, by decide⟩ none), .advance 2, .advance 2,
    .advance 2, .advance 2, .arrive (priceOfPhones ⟨76, 77⟩ ⟨800000, by decide⟩ (some 0)),
    .advance 3, .advance 3, .advance 3]

def editNext : List (Move Store Mark Refusal Unit) :=
  [.arrive (priceOfPhones ⟨76, 77⟩ ⟨800000, by decide⟩ (some 0)), .advance 1, .advance 1,
    .advance 1]

theorem pricing_issued (moves : List (Move Store Mark Refusal Unit))
    (prices : ∀ p, .arrive p ∈ moves →
      (∃ ids price expected, p = priceOfPhones ids price expected) ∨
      p = (removeBranchVariantPrice manager ⟨72, 73⟩ 61 ⟨0, none⟩).void) :
    ∀ p, .arrive p ∈ moves → Call p := by
  intro p member
  rcases prices p member with ⟨ids, price, expected, rfl⟩ | rfl
  · exact .setBranchVariantPrice manager nothing ids 61 { price, expectedVersion := expected }
  · exact .removeBranchVariantPrice manager ⟨72, 73⟩ 61 ⟨0, none⟩

theorem firstSet_run : FittingRun Call (fun _ _ => True) (.idle showroom)
    ((Config.idle showroom).schedule firstSet) := by
  apply fitting_schedule
  · apply pricing_issued
    intro p member
    simp only [firstSet, List.mem_cons, Move.arrive.injEq, reduceCtorEq, List.not_mem_nil, or_false]
      at member
    exact .inl ⟨_, _, _, member⟩
  · exact fits_any _ _

theorem stale_edit_accepted :
    ¬ ∀ s, Indexed s → ∀ c, FittingRun Call (fun _ _ => True) (.idle s) c → ∀ target version,
      (∃ price, cell c.store target = some ⟨price, version⟩) →
        ∀ c', FittingRun Call (fun _ _ => True) c c' → ∀ index : Nat,
          c'.inFlight[index]?.bind Prog.mark? = some (.write target (some version)) →
            history (c'.move (.advance index)).store target ≠ history c'.store target →
              history c'.store target = history c.store target := by
  intro claim
  have later : FittingRun Call (fun _ _ => True) ((Config.idle showroom).schedule firstSet)
      (((Config.idle showroom).schedule firstSet).schedule setAgain) := by
    apply fitting_schedule
    · apply pricing_issued
      intro p member
      simp only [setAgain, List.mem_cons, Move.arrive.injEq, reduceCtorEq, List.not_mem_nil,
        or_false, false_or] at member
      rcases member with same | same | same
      · exact .inr same
      · exact .inl ⟨_, _, _, same⟩
      · exact .inl ⟨_, _, _, same⟩
    · exact fits_any _ _
  have same := claim showroom showroom_indexed _ firstSet_run phonePrice 0 ⟨_, rfl⟩ _ later 3
    (by decide +kernel) (by decide +kernel)
  exact absurd same (by decide +kernel)

theorem stale_edits_refused_showroom :
    history (((Config.idle showroom).schedule firstSet).schedule editNext).store phonePrice =
      history ((Config.idle showroom).schedule firstSet).store phonePrice := by
  have later : FittingRun Call (fun _ _ => True) ((Config.idle showroom).schedule firstSet)
      (((Config.idle showroom).schedule firstSet).schedule editNext) := by
    apply fitting_schedule
    · apply pricing_issued
      intro p member
      simp only [editNext, List.mem_cons, Move.arrive.injEq, reduceCtorEq, List.not_mem_nil,
        or_false] at member
      exact .inl ⟨_, _, _, member⟩
    · exact fits_any _ _
  exact (stale_edits_refused showroom showroom_indexed _ firstSet_run phonePrice 0 ⟨_, rfl⟩ _ later
    1 (by decide +kernel) (by decide +kernel)).mpr (by decide +kernel)

end ErpBackend.Pricing
