import ErpBackend.Scanner.Learning
import ErpBackend.Scanner.TacMapping

/-!
# How a TAC becomes a suggestion

What a company confirmed wins outright, what it was proposed is shown for review, and
the global catalogue names no product. A dual-SIM phone has two such answers for one
device.
-/

namespace ErpBackend.Scanner

open Foundation

inductive SuggestionSource where
  | companyConfirmed
  | companyProposed
  | globalCatalog
  | none
  deriving DecidableEq

inductive ReviewReason where
  | unconfirmedProposal
  | conflictingMappings
  deriving DecidableEq

structure CompanyMapping where
  productId : Id
  status : RecognitionStatus
  deriving DecidableEq

structure GlobalEntry where
  brand : Option String
  model : Option String
  defaultVariant : Option String
  deriving DecidableEq

structure TacSuggestion where
  source : SuggestionSource
  productId : Option Id
  brand : Option String
  model : Option String
  variant : Option String
  needsReview : Bool
  reviewReason : Option ReviewReason
  deriving DecidableEq

def unknown : TacSuggestion := ⟨.none, none, none, none, none, false, none⟩

def conflicting : TacSuggestion :=
  { unknown with
    source := .companyConfirmed
    needsReview := true
    reviewReason := some .conflictingMappings }

def truthy (text : Option String) : Bool := text.any (· ≠ "")

def confirmedOf (companyMappings : List CompanyMapping) : List CompanyMapping :=
  companyMappings.filter (fun mapping => mapping.status = .confirmed)

theorem mem_confirmedOf (companyMappings : List CompanyMapping) (mapping : CompanyMapping) :
    mapping ∈ confirmedOf companyMappings ↔
      mapping ∈ companyMappings ∧ mapping.status = .confirmed := by
  simp [confirmedOf]

def resolveTac (tac : String) (companyMappings : List CompanyMapping)
    (globalEntry : Option GlobalEntry) : TacSuggestion :=
  if isValidTac tac = false then unknown
  else match confirmedOf companyMappings with
    | _ :: _ :: _ => conflicting
    | [mapping] =>
      { source := .companyConfirmed
        productId := some mapping.productId
        brand := globalEntry.bind GlobalEntry.brand
        model := globalEntry.bind GlobalEntry.model
        variant := none
        needsReview := false
        reviewReason := none }
    | [] =>
      if companyMappings.any (fun mapping => mapping.status = .proposed) then
        { source := .companyProposed
          productId := none
          brand := globalEntry.bind GlobalEntry.brand
          model := globalEntry.bind GlobalEntry.model
          variant := none
          needsReview := true
          reviewReason := some .unconfirmedProposal }
      else match globalEntry with
        | none => unknown
        | some entry =>
          if truthy entry.brand ∨ truthy entry.model then
            { source := .globalCatalog
              productId := none
              brand := entry.brand
              model := entry.model
              variant := entry.defaultVariant
              needsReview := false
              reviewReason := none }
          else unknown

def reconcileDualSim (primary : TacSuggestion) (secondary : Option TacSuggestion) :
    TacSuggestion :=
  match secondary with
  | none => primary
  | some secondary =>
    match primary.productId, secondary.productId with
    | some a, some b =>
      if a ≠ b then conflicting
      else if primary.source ≠ .none then primary else secondary
    | some _, none => primary
    | none, some _ => secondary
    | none, none => if primary.source ≠ .none then primary else secondary

/-- A TAC with what its company and the global catalogue hold about it. The unique key
lets one mapping of a code be confirmed. -/
structure Evidence where
  tac : String
  companyMappings : List CompanyMapping
  globalEntry : Option GlobalEntry
  valid : isValidTac tac = true
  sole : (confirmedOf companyMappings).length ≤ 1

namespace Evidence

def resolve (e : Evidence) : TacSuggestion := resolveTac e.tac e.companyMappings e.globalEntry

def Confirms (e : Evidence) (productId : Id) : Prop :=
  ∃ mapping ∈ e.companyMappings, mapping.status = .confirmed ∧ mapping.productId = productId

def Proposed (e : Evidence) : Prop :=
  ∃ mapping ∈ e.companyMappings, mapping.status = .proposed

def Catalogued (e : Evidence) : Prop :=
  ∃ entry, e.globalEntry = some entry ∧ (truthy entry.brand ∨ truthy entry.model)

def Pending (e : Evidence) : Prop := (∀ productId, ¬e.Confirms productId) ∧ e.Proposed

def Generic (e : Evidence) : Prop :=
  (∀ productId, ¬e.Confirms productId) ∧ ¬e.Proposed ∧ e.Catalogued

end Evidence

inductive Rung (e : Evidence) : Prop
  | confirmed (productId : Id) (confirms : e.Confirms productId)
      (only : ∀ other, e.Confirms other → other = productId)
      (source : e.resolve.source = .companyConfirmed)
      (product : e.resolve.productId = some productId)
      (settled : e.resolve.needsReview = false)
  | pending (pending : e.Pending) (source : e.resolve.source = .companyProposed)
      (unnamed : e.resolve.productId = none) (review : e.resolve.needsReview = true)
  | generic (generic : e.Generic) (source : e.resolve.source = .globalCatalog)
      (unnamed : e.resolve.productId = none) (settled : e.resolve.needsReview = false)
  | unknown (unconfirmed : ∀ productId, ¬e.Confirms productId) (unproposed : ¬e.Proposed)
      (uncatalogued : ¬e.Catalogued) (answer : e.resolve = Scanner.unknown)

theorem unconfirmed_of_nil {e : Evidence} (nil : confirmedOf e.companyMappings = []) :
    ∀ productId, ¬e.Confirms productId := by
  rintro productId ⟨mapping, member, confirmed, -⟩
  have kept := (mem_confirmedOf _ mapping).mpr ⟨member, confirmed⟩
  simp [nil] at kept

theorem confirms_of_single {e : Evidence} {mapping : CompanyMapping}
    (single : confirmedOf e.companyMappings = [mapping]) :
    e.Confirms mapping.productId ∧ ∀ other, e.Confirms other → other = mapping.productId := by
  constructor
  · have ⟨member, confirmed⟩ := (mem_confirmedOf e.companyMappings mapping).mp (by simp [single])
    exact ⟨mapping, member, confirmed, rfl⟩
  · rintro other ⟨found, member, confirmed, rfl⟩
    have kept := (mem_confirmedOf _ found).mpr ⟨member, confirmed⟩
    rw [single, List.mem_singleton] at kept
    rw [kept]

variable (e : Evidence)

theorem proposed_iff : e.Proposed ↔
    e.companyMappings.any (fun mapping => mapping.status = .proposed) = true := by
  simp [Evidence.Proposed]

theorem Evidence.rung : Rung e := by
  have valid := e.valid
  have sole := e.sole
  cases confirmed : confirmedOf e.companyMappings with
  | cons mapping others =>
    have single : others = [] := by
      rw [confirmed, List.length_cons] at sole
      exact List.length_eq_zero_iff.mp (by omega)
    subst single
    obtain ⟨confirms, only⟩ := confirms_of_single confirmed
    apply Rung.confirmed mapping.productId confirms only <;>
      simp [Evidence.resolve, resolveTac, valid, confirmed]
  | nil =>
    have unconfirmed := unconfirmed_of_nil confirmed
    by_cases proposed : e.Proposed
    · have shown := (proposed_iff e).mp proposed
      apply Rung.pending ⟨unconfirmed, proposed⟩ <;>
        simp [Evidence.resolve, resolveTac, valid, confirmed, shown]
    · have hidden := mt (proposed_iff e).mpr proposed
      cases entry : e.globalEntry with
      | none =>
        apply Rung.unknown unconfirmed proposed
        · simp [Evidence.Catalogued, entry]
        · simp [Evidence.resolve, resolveTac, valid, confirmed, hidden, entry]
      | some row =>
        by_cases named : truthy row.brand ∨ truthy row.model
        · apply Rung.generic ⟨unconfirmed, proposed, row, entry, named⟩ <;>
            simp [Evidence.resolve, resolveTac, valid, confirmed, hidden, entry, named]
        · apply Rung.unknown unconfirmed proposed
          · simpa [Evidence.Catalogued, entry] using named
          · simp [Evidence.resolve, resolveTac, valid, confirmed, hidden, entry, named]

/-- The reconciled suggestion for a phone, by its primary TAC and its other one. -/
def suggestionFor (primary secondary : Evidence) : TacSuggestion :=
  reconcileDualSim primary.resolve (some secondary.resolve)

structure Reconciled (a b : Evidence) : Prop where
  named : ∀ productId, (suggestionFor a b).productId = some productId →
    (a.Confirms productId ∧ ∀ other, b.Confirms other → other = productId) ∨
      (b.Confirms productId ∧ ∀ other, a.Confirms other → other = productId)
  reviewed : (∀ productId, ¬a.Confirms productId ∧ ¬b.Confirms productId) →
    a.Proposed ∨ b.Proposed → (suggestionFor a b).needsReview = true
  sameProduct : (suggestionFor a b).productId = (suggestionFor b a).productId
  sameReview : (suggestionFor a b).needsReview = (suggestionFor b a).needsReview

section Reconcile

variable (primary secondary : TacSuggestion)

theorem reconcile_unnamed (first : primary.productId = none) (second : secondary.productId = none) :
    reconcileDualSim primary (some secondary) =
      if primary.source ≠ .none then primary else secondary := by
  simp only [reconcileDualSim, first, second]

theorem reconcile_primary (a : Id) (first : primary.productId = some a)
    (second : secondary.productId = none) :
    reconcileDualSim primary (some secondary) = primary := by
  simp only [reconcileDualSim, first, second]

theorem reconcile_secondary (b : Id) (first : primary.productId = none)
    (second : secondary.productId = some b) :
    reconcileDualSim primary (some secondary) = secondary := by
  simp only [reconcileDualSim, first, second]

theorem reconcile_apart (a b : Id) (first : primary.productId = some a)
    (second : secondary.productId = some b) (apart : a ≠ b) :
    reconcileDualSim primary (some secondary) = conflicting := by
  simp only [reconcileDualSim, first, second, if_pos apart]

theorem reconcile_agreed (a : Id) (first : primary.productId = some a)
    (second : secondary.productId = some a) :
    reconcileDualSim primary (some secondary) =
      if primary.source ≠ .none then primary else secondary := by
  simp only [reconcileDualSim, first, second, ne_eq, not_true_eq_false, if_false]

theorem reconcile_named (productId : Id) :
    (reconcileDualSim primary (some secondary)).productId = some productId ↔
      (primary.productId = some productId ∧
          ∀ other, secondary.productId = some other → other = productId) ∨
        (secondary.productId = some productId ∧
          ∀ other, primary.productId = some other → other = productId) := by
  cases first : primary.productId with
  | none =>
    cases second : secondary.productId with
    | none =>
      rw [reconcile_unnamed primary secondary first second]
      split <;> simp [first, second]
    | some b =>
      rw [reconcile_secondary primary secondary b first second, second]
      simp
  | some a =>
    cases second : secondary.productId with
    | none =>
      rw [reconcile_primary primary secondary a first second, first]
      simp
    | some b =>
      by_cases apart : a = b
      · subst apart
        rw [reconcile_agreed primary secondary a first second]
        split <;> simp [first, second]
      · rw [reconcile_apart primary secondary a b first second apart]
        simp only [conflicting, unknown, Option.some.injEq, forall_eq', reduceCtorEq, false_iff]
        rintro (⟨rfl, equal⟩ | ⟨rfl, equal⟩)
        · exact apart equal.symm
        · exact apart equal

end Reconcile

section Evidence

theorem resolve_named (productId : Id) :
    e.resolve.productId = some productId ↔ e.Confirms productId := by
  cases e.rung with
  | confirmed p confirms only source product settled =>
    rw [product, Option.some.injEq]
    exact ⟨fun same => same ▸ confirms, fun named => (only productId named).symm⟩
  | pending pending source unnamed review => simp [unnamed, pending.1 productId]
  | generic generic source unnamed settled => simp [unnamed, generic.1 productId]
  | unknown unconfirmed unproposed uncatalogued answer =>
      simp [answer, unknown, unconfirmed productId]

theorem resolve_unnamed :
    e.resolve.productId = none ↔ ∀ productId, ¬e.Confirms productId := by
  simp only [← resolve_named, Option.eq_none_iff_forall_ne_some, ne_eq]

theorem resolve_review : e.resolve.needsReview = true ↔ e.Pending := by
  cases e.rung with
  | confirmed p confirms only source product settled =>
    simp only [settled, Bool.false_eq_true, false_iff]
    exact fun pending => pending.1 p confirms
  | pending pending source unnamed review => simp [review, pending]
  | generic generic source unnamed settled =>
    simp only [settled, Bool.false_eq_true, false_iff]
    exact fun pending => generic.2.1 pending.2
  | unknown unconfirmed unproposed uncatalogued answer =>
    simp only [answer, unknown, Bool.false_eq_true, false_iff]
    exact fun pending => unproposed pending.2

theorem resolve_source (unconfirmed : ∀ productId, ¬e.Confirms productId) :
    e.resolve.source ≠ .none ↔ e.Pending ∨ e.Generic := by
  cases e.rung with
  | confirmed p confirms only source product settled => exact absurd confirms (unconfirmed p)
  | pending pending source unnamed review => simp [source, pending]
  | generic generic source unnamed settled => simp [source, generic]
  | unknown _ unproposed uncatalogued answer =>
    simp [answer, unknown, Evidence.Pending, Evidence.Generic, unproposed, uncatalogued]

theorem Evidence.Pending.not_generic {e : Evidence} (pending : e.Pending) : ¬e.Generic :=
  fun generic => generic.2.1 pending.2

variable (a b : Evidence)

def Conflict : Prop := ∃ p q, a.Confirms p ∧ b.Confirms q ∧ p ≠ q

theorem Conflict.symm {a b : Evidence} (conflict : Conflict a b) : Conflict b a := by
  obtain ⟨p, q, first, second, apart⟩ := conflict
  exact ⟨q, p, second, first, apart.symm⟩

theorem suggestion_named (productId : Id) :
    (suggestionFor a b).productId = some productId ↔
      (a.Confirms productId ∧ ∀ other, b.Confirms other → other = productId) ∨
        (b.Confirms productId ∧ ∀ other, a.Confirms other → other = productId) := by
  simp only [suggestionFor, reconcile_named, resolve_named]

theorem settled_of_named {e : Evidence} {productId : Id}
    (named : e.resolve.productId = some productId) : e.resolve.needsReview = false := by
  have confirms := (resolve_named e productId).mp named
  rw [Bool.eq_false_iff, ne_eq, resolve_review]
  exact fun pending => pending.1 productId confirms

theorem conflict_iff : Conflict a b ↔
    ∃ p q, a.resolve.productId = some p ∧ b.resolve.productId = some q ∧ p ≠ q := by
  simp only [Conflict, resolve_named]

theorem suggestion_review_confirmed (confirmed : ∃ p, a.Confirms p ∨ b.Confirms p) :
    (suggestionFor a b).needsReview = true ↔ Conflict a b := by
  rw [suggestionFor, conflict_iff]
  cases first : a.resolve.productId with
  | none =>
    cases second : b.resolve.productId with
    | none =>
      obtain ⟨p, confirms | confirms⟩ := confirmed
      · simp [(resolve_named a p).mpr confirms] at first
      · simp [(resolve_named b p).mpr confirms] at second
    | some q =>
      rw [reconcile_secondary _ _ q first second, settled_of_named second]
      simp
  | some p =>
    cases second : b.resolve.productId with
    | none =>
      rw [reconcile_primary _ _ p first second, settled_of_named first]
      simp
    | some q =>
      by_cases apart : p = q
      · subst apart
        rw [reconcile_agreed _ _ p first second]
        split <;> simp [settled_of_named first, settled_of_named second]
      · rw [reconcile_apart _ _ p q first second apart]
        simpa [conflicting] using apart

theorem suggestion_review_unconfirmed (unconfirmed : ∀ p, ¬a.Confirms p ∧ ¬b.Confirms p) :
    (suggestionFor a b).needsReview = true ↔ a.Pending ∨ (b.Pending ∧ ¬a.Generic) := by
  have first : ∀ p, ¬a.Confirms p := fun p => (unconfirmed p).1
  have second : ∀ p, ¬b.Confirms p := fun p => (unconfirmed p).2
  rw [suggestionFor, reconcile_unnamed _ _ ((resolve_unnamed a).mpr first)
    ((resolve_unnamed b).mpr second)]
  by_cases said : a.Pending ∨ a.Generic
  · rw [if_pos ((resolve_source a first).mpr said), resolve_review]
    have exclusive := fun pending : a.Pending => pending.not_generic
    tauto
  · rw [if_neg (mt (resolve_source a first).mp said), resolve_review]
    tauto

end Evidence

/-- The suggestion for a phone is sound, and the same from either TAC, except where one
TAC is only proposed and the other only catalogued. -/
theorem reconciled_iff (a b : Evidence) :
    Reconciled a b ↔ ¬(a.Pending ∧ b.Generic) ∧ ¬(a.Generic ∧ b.Pending) := by
  have sameProduct : (suggestionFor a b).productId = (suggestionFor b a).productId := by
    apply Option.ext
    intro productId
    simp only [suggestion_named]
    exact or_comm
  constructor
  · intro reconciled
    have review := Bool.eq_iff_iff.mp reconciled.sameReview
    constructor
    · rintro ⟨pending, generic⟩
      have unconfirmed : ∀ p, ¬a.Confirms p ∧ ¬b.Confirms p := fun p => ⟨pending.1 p, generic.1 p⟩
      rw [suggestion_review_unconfirmed a b unconfirmed,
        suggestion_review_unconfirmed b a (fun p => (unconfirmed p).symm)] at review
      rcases review.mp (.inl pending) with asked | ⟨-, silent⟩
      · exact asked.not_generic generic
      · exact silent generic
    · rintro ⟨generic, pending⟩
      have unconfirmed : ∀ p, ¬a.Confirms p ∧ ¬b.Confirms p := fun p => ⟨generic.1 p, pending.1 p⟩
      have asked := reconciled.reviewed unconfirmed (.inr pending.2)
      rw [suggestion_review_unconfirmed a b unconfirmed] at asked
      rcases asked with asked | ⟨-, silent⟩
      · exact asked.not_generic generic
      · exact silent generic
  · rintro ⟨first, second⟩
    refine ⟨fun p => (suggestion_named a b p).mp, fun unconfirmed proposed => ?_, sameProduct, ?_⟩
    · rw [suggestion_review_unconfirmed a b unconfirmed]
      rcases proposed with proposed | proposed
      · exact .inl ⟨fun p => (unconfirmed p).1, proposed⟩
      · have pending : b.Pending := ⟨fun p => (unconfirmed p).2, proposed⟩
        exact .inr ⟨pending, fun generic => second ⟨generic, pending⟩⟩
    · rw [Bool.eq_iff_iff]
      by_cases confirmed : ∃ p, a.Confirms p ∨ b.Confirms p
      · rw [suggestion_review_confirmed a b confirmed,
          suggestion_review_confirmed b a (confirmed.imp fun p => Or.symm)]
        exact ⟨Conflict.symm, Conflict.symm⟩
      · have unconfirmed : ∀ p, ¬a.Confirms p ∧ ¬b.Confirms p := by
          simpa only [not_exists, not_or] using confirmed
        rw [suggestion_review_unconfirmed a b unconfirmed,
          suggestion_review_unconfirmed b a (fun p => (unconfirmed p).symm)]
        tauto

def cataloguedOnly : Evidence where
  tac := "35693803"
  companyMappings := []
  globalEntry := some ⟨some "Samsung", some "Galaxy A14", some "128GB"⟩
  valid := by decide
  sole := by decide

def proposedOnly : Evidence where
  tac := "49015420"
  companyMappings := [⟨2, .proposed⟩]
  globalEntry := none
  valid := by decide
  sole := by decide

/-- The catalogue's answer for one TAC hides the proposal waiting on the other. -/
theorem proposal_hidden : ¬Reconciled cataloguedOnly proposedOnly := by
  intro reconciled
  have asked := reconciled.reviewed (by simp [Evidence.Confirms, cataloguedOnly, proposedOnly])
    (.inr ⟨⟨2, .proposed⟩, by simp [proposedOnly], rfl⟩)
  have silent : (suggestionFor cataloguedOnly proposedOnly).needsReview = false := by
    decide +kernel
  rw [silent] at asked
  cases asked

def mappingsFor (m : Memory) (companyId : Id) (tac : String) : List CompanyMapping :=
  (m.recognitions.filter (fun row =>
    row.companyId = companyId ∧ row.codeType = .tac ∧ row.code = tac)).map
      (fun row => ⟨row.productId, row.status⟩)

/-- What the unique key keeps of them. -/
theorem mappingsFor_sole {m : Memory} (constrained : Constrained m) (companyId : Id)
    (tac : String) : (confirmedOf (mappingsFor m companyId tac)).length ≤ 1 := by
  have rows : (confirmedOf (mappingsFor m companyId tac)).length =
      (m.recognitions.rows.filter (fun row =>
        activeKey row = some (companyId, .tac, tac))).length := by
    rw [confirmedOf, mappingsFor, Table.filter, List.filter_map, List.length_map,
      List.filter_filter]
    congr 1
    apply List.filter_congr
    intro row _
    by_cases confirmed : row.status = .confirmed <;> simp [activeKey, confirmed]
  rw [rows]
  have distinct := List.Nodup.of_map _ m.recognitions.unique |>.filter
    (fun row => activeKey row = some (companyId, .tac, tac))
  cases found : m.recognitions.rows.filter (fun row =>
      activeKey row = some (companyId, .tac, tac)) with
  | nil => simp
  | cons first others =>
    cases others with
    | nil => simp
    | cons second others =>
      rw [found] at distinct
      have held : ∀ row ∈ first :: second :: others, row ∈ m.recognitions.rows ∧
          activeKey row = some (companyId, .tac, tac) := by
        intro row member
        rw [← found] at member
        simpa using member
      have one := held first (by simp)
      have two := held second (by simp)
      have same := constrained.active first one.1 second two.1 (by simp [one.2])
        (one.2.trans two.2.symm)
      have equal := m.recognitions.key_injective first second one.1 two.1 same
      simp [equal] at distinct

/-- The evidence a company holds on a TAC: the table's unique key makes it one. -/
def evidenceFor (m : Memory) (constrained : Constrained m) (companyId : Id) (tac : String)
    (valid : isValidTac tac = true) (globalEntry : Option GlobalEntry) : Evidence where
  tac := tac
  companyMappings := mappingsFor m companyId tac
  globalEntry := globalEntry
  valid := valid
  sole := mappingsFor_sole constrained companyId tac

section Taught

variable {row : ProductRecognition} {m m' : Memory} (stored : insertRecognition row m = .ok m')
  (code : row.codeType = .tac)

include stored code

theorem mappingsFor_insert : mappingsFor m' row.companyId row.code =
    mappingsFor m row.companyId row.code ++ [⟨row.productId, row.status⟩] := by
  obtain ⟨-, -, recognitions, inserted, rfl⟩ := insertRecognition_ok row m m' stored
  simp [mappingsFor, Table.filter, (Table.insert?_some _ _ _ inserted).1, code]

/-- The unique key lets a row be confirmed where no other is. -/
theorem unconfirmed_insert (confirmed : row.status = .confirmed) :
    confirmedOf (mappingsFor m row.companyId row.code) = [] := by
  obtain ⟨-, free, recognitions, inserted, -⟩ := insertRecognition_ok row m m' stored
  apply List.eq_nil_iff_forall_not_mem.mpr
  intro mapping member
  obtain ⟨kept, active⟩ := (mem_confirmedOf _ mapping).mp member
  obtain ⟨other, found, rfl⟩ := List.mem_map.mp kept
  dsimp only at active
  obtain ⟨present, own⟩ := (Table.mem_filter _ _ other).mp found
  have apart := (Table.insert?_some _ _ _ inserted).2 other present
  apply free
  simp only [decide_eq_true_eq] at own
  simp only [activeTaken, activeKey, confirmed, if_true, Option.isSome_some, true_and,
    decide_eq_true_eq, List.any_eq_true]
  exact ⟨other, present, apart, by simp [active, own, code]⟩

theorem taught_confirmed (valid : isValidTac row.code = true) (confirmed : row.status = .confirmed)
    (globalEntry : Option GlobalEntry) :
    let suggestion := resolveTac row.code (mappingsFor m' row.companyId row.code) globalEntry
    suggestion.productId = some row.productId ∧ suggestion.needsReview = false := by
  have alone := unconfirmed_insert stored code confirmed
  have single : confirmedOf (mappingsFor m' row.companyId row.code) =
      [⟨row.productId, row.status⟩] := by
    rw [mappingsFor_insert stored code, confirmedOf, List.filter_append, ← confirmedOf, alone]
    simp [confirmed]
  simp [resolveTac, valid, single]

theorem taught_proposed (valid : isValidTac row.code = true) (proposed : row.status = .proposed)
    (unconfirmed : confirmedRow m row.companyId row.code = none)
    (globalEntry : Option GlobalEntry) :
    let suggestion := resolveTac row.code (mappingsFor m' row.companyId row.code) globalEntry
    suggestion.productId = none ∧ suggestion.needsReview = true := by
  have before : confirmedOf (mappingsFor m row.companyId row.code) = [] := by
    rw [confirmedOf, mappingsFor, List.filter_map, List.map_eq_nil_iff, List.filter_eq_nil_iff]
    intro other member confirmed
    obtain ⟨present, own⟩ := (Table.mem_filter _ _ other).mp member
    simp only [Function.comp_apply, decide_eq_true_eq] at own confirmed
    simp only [confirmedRow, List.find?_eq_none, decide_eq_true_eq] at unconfirmed
    exact unconfirmed other present ⟨own.1, own.2.1, own.2.2, confirmed⟩
  have none : confirmedOf (mappingsFor m' row.companyId row.code) = [] := by
    rw [mappingsFor_insert stored code, confirmedOf, List.filter_append, ← confirmedOf, before]
    simp [proposed]
  have shown : (mappingsFor m' row.companyId row.code).any
      (fun mapping => mapping.status = .proposed) = true := by
    rw [mappingsFor_insert stored code]
    simp [proposed]
  simp [resolveTac, valid, none, shown]

end Taught

/-- A manager's submit makes the TAC name the product. An employee's is shown for review. -/
theorem submit_teaches (ctx : Ctx) (has : Permission → Bool) (newId : Id)
    (dto : SubmitTacMappingDto) (globalEntry : Option GlobalEntry) (m : Memory) :
    (submit ctx has newId dto).Ensures (fun m' result => ∀ rows, result = .ok rows →
      let suggestion := resolveTac dto.tac (mappingsFor m' ctx.companyId dto.tac) globalEntry
      suggestion.productId = (if has .catalogManage then some dto.productId else none) ∧
        suggestion.needsReview = !has .catalogManage) m := by
  simp only [submit, Prog.ensures_require, Prog.ensures_read, Prog.ensures_expect, reduceCtorEq,
    false_implies, implies_true, and_true]
  intro valid product found
  have own := ((Table.find?_some _ _ product).mp (Option.filter_eq_some_iff.mp found).1).2
  rw [← own]
  cases has .catalogManage
  · simp only [Bool.false_eq_true, if_false, propose, Prog.bind_assoc, Prog.ensures_require,
      Prog.ensures_commit, reduceCtorEq, false_implies, implies_true, and_true]
    intro absent m' stored rows _
    exact taught_proposed stored rfl valid rfl (Option.isNone_iff_eq_none.mp absent) globalEntry
  · simp only [if_true, confirm]
    cases confirmedRow m ctx.companyId dto.tac with
    | none =>
      simp only [Prog.ensures_commit, reduceCtorEq, false_implies, implies_true, and_true]
      intro m' stored rows _
      exact taught_confirmed stored rfl valid rfl globalEntry
    | some row =>
      simp only [Prog.bind_assoc, Prog.ensures_expect, Prog.ensures_commit, reduceCtorEq,
        false_implies, implies_true, and_true]
      intro version _ m' _ m'' stored rows _
      exact taught_confirmed stored rfl valid rfl globalEntry

end ErpBackend.Scanner
