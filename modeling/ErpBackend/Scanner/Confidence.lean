import ErpBackend.Scanner.Learning

/-!
# How sure the scanner is

`DefaultConfidenceScorer`: how strongly a mapping is affirmed, tempered by how often its code
was corrected. Learning moves the counters, and the score with them.
-/

namespace ErpBackend.Scanner

open Foundation

/-- What a scorer reads of a mapping; the other signals are reserved. -/
structure RecognitionSignals where
  timesSeen : Int
  confirmations : Int
  corrections : Int

def signalsOf (row : ProductRecognition) : RecognitionSignals where
  timesSeen := row.timesSeen
  confirmations := row.confirmations
  corrections := row.corrections

/-- `DefaultConfidenceScorer.score`. -/
def score (s : RecognitionSignals) : ℚ :=
  let confirms : Int := max 0 (if s.confirmations = 0 then s.timesSeen else s.confirmations)
  let corrects : Int := max 0 s.corrections
  if confirms = 0 then 0
  else
    let volume : ℚ := confirms / (confirms + 2)
    let purity : ℚ := confirms / (confirms + corrects)
    volume * purity

/-- `n` confirmations against `k` corrections. -/
def trust (n k : ℕ) : ℚ := n / (n + 2) * (n / (n + k))

theorem trust_zero (k : ℕ) : trust 0 k = 0 := by simp [trust]

variable (n k : ℕ)

theorem trust_nonneg : 0 ≤ trust n k := by
  unfold trust
  positivity

theorem share_le_one : (n : ℚ) / (n + k) ≤ 1 :=
  div_le_one_of_le₀ (by simp) (by positivity)

theorem trust_lt_one : trust n k < 1 := by
  have volume : (n : ℚ) / (n + 2) < 1 := (div_lt_one (by positivity)).mpr (by linarith)
  calc trust n k ≤ n / (n + 2) * 1 := by
        exact mul_le_mul_of_nonneg_left (share_le_one n k) (by positivity)
    _ = n / (n + 2) := mul_one _
    _ < 1 := volume

theorem share_mono : (n : ℚ) / (n + k) ≤ ((n + 1 : ℕ) : ℚ) / ((n + 1 : ℕ) + k) := by
  rcases Nat.eq_zero_or_pos n with rfl | some
  · rw [Nat.cast_zero, zero_div]
    positivity
  · rw [div_le_div_iff₀ (by positivity) (by positivity)]
    push_cast
    nlinarith [Nat.cast_nonneg (α := ℚ) k, Nat.cast_nonneg (α := ℚ) n]

theorem trust_confirm : trust n k < trust (n + 1) k := by
  have volume : (n : ℚ) / (n + 2) < ((n + 1 : ℕ) : ℚ) / ((n + 1 : ℕ) + 2) := by
    rw [div_lt_div_iff₀ (by positivity) (by positivity)]
    push_cast
    linarith
  have purity : (0 : ℚ) < ((n + 1 : ℕ) : ℚ) / ((n + 1 : ℕ) + k) := by positivity
  calc trust n k ≤ n / (n + 2) * (((n + 1 : ℕ) : ℚ) / ((n + 1 : ℕ) + k)) :=
        mul_le_mul_of_nonneg_left (share_mono n k) (by positivity)
    _ < trust (n + 1) k := mul_lt_mul_of_pos_right volume purity

theorem trust_mono {n m : ℕ} (le : n ≤ m) (k : ℕ) : trust n k ≤ trust m k := by
  induction le with
  | refl => exact le_refl _
  | step _ ih => exact ih.trans (trust_confirm _ k).le

theorem trust_correct : trust (n + 1) (k + 1) < trust (n + 1) k := by
  have purity : ((n + 1 : ℕ) : ℚ) / ((n + 1 : ℕ) + (k + 1 : ℕ)) <
      ((n + 1 : ℕ) : ℚ) / ((n + 1 : ℕ) + k) := by
    apply div_lt_div_of_pos_left (by positivity) (by positivity)
    push_cast
    linarith
  exact mul_lt_mul_of_pos_left purity (by positivity)

theorem trust_repoint (some : 0 < n) : trust 1 (k + 1) < trust n k :=
  (trust_correct 0 k).trans_le (trust_mono some k)

/-- The confirmations a row counts with: a row from before the counters shows its sightings. -/
def confirms (row : ProductRecognition) : ℕ :=
  if row.confirmations = 0 then row.timesSeen else row.confirmations

theorem score_signalsOf (row : ProductRecognition) :
    score (signalsOf row) = trust (confirms row) row.corrections := by
  have counted : max 0 (if (row.confirmations : Int) = 0 then (row.timesSeen : Int)
      else (row.confirmations : Int)) = (confirms row : Int) := by
    unfold confirms
    split <;> split <;> omega
  have corrects : max 0 (row.corrections : Int) = (row.corrections : Int) := by omega
  rw [score, signalsOf]
  dsimp only
  rw [counted, corrects]
  split
  · next none =>
    rw [Int.natCast_eq_zero.mp none, trust_zero]
  · rw [trust]
    push_cast
    rfl

theorem score_bounds (row : ProductRecognition) :
    0 ≤ score (signalsOf row) ∧ score (signalsOf row) < 1 := by
  rw [score_signalsOf]
  exact ⟨trust_nonneg _ _, trust_lt_one _ _⟩

theorem score_reinforced (now : Time) (ev : LearningEvent) (stats : List (String × Nat))
    (row : ProductRecognition) :
    score (signalsOf row) < score (signalsOf (reinforced now ev stats row)) ↔
      0 < row.confirmations ∨ row.timesSeen = 0 := by
  have after : confirms (reinforced now ev stats row) = row.confirmations + 1 := by
    simp [confirms, reinforced]
  rw [score_signalsOf, score_signalsOf, after]
  change trust (confirms row) row.corrections < trust (row.confirmations + 1) row.corrections ↔ _
  rcases Nat.eq_zero_or_pos row.confirmations with none | some
  · rw [confirms, if_pos none, none, Nat.zero_add]
    constructor
    · intro grown
      refine .inr (Nat.eq_zero_of_not_pos (fun seen => ?_))
      exact absurd grown (not_lt.mpr (trust_mono seen row.corrections))
    · rintro (few | unseen)
      · exact absurd few (lt_irrefl 0)
      · rw [unseen]
        exact trust_confirm 0 row.corrections
  · rw [confirms, if_neg some.ne']
    exact ⟨fun _ => .inl some, fun _ => trust_confirm row.confirmations row.corrections⟩

theorem score_corrected (now : Time) (ev : LearningEvent) (stats : List (String × Nat))
    (row : ProductRecognition) :
    score (signalsOf (corrected now ev stats row)) < score (signalsOf row) ↔ 0 < confirms row := by
  have after : confirms (corrected now ev stats row) = 1 := by simp [confirms, corrected]
  rw [score_signalsOf, score_signalsOf, after]
  change trust 1 (row.corrections + 1) < trust (confirms row) row.corrections ↔ _
  constructor
  · intro lost
    refine Nat.pos_of_ne_zero (fun none => ?_)
    rw [none, trust_zero] at lost
    exact absurd lost (not_lt.mpr (trust_nonneg _ _))
  · exact trust_repoint (confirms row) row.corrections

inductive LearnsCode (pick : Lookup ProductRecognition) (companyId : Id) (codeType : CodeType)
    (code : String) : Memory → Memory → Prop
  | event (now : Time) (newId : Id) (ev : LearningEvent) (m m' : Memory)
      (about : ev.codeType = codeType ∧ ev.code = code)
      (done : learn pick newId companyId ev { m with clock := now } = .ok m') :
      LearnsCode pick companyId codeType code m m'

/-- What an event did: it found a mapping of its code, told its score apart, and left the
others alone. -/
structure Judged (companyId : Id) (ev : LearningEvent) (m m' : Memory)
    (row row' : ProductRecognition) : Prop where
  mapped : row ∈ mappingsForCode m companyId ev.codeType ev.code
  after : m'.recognitions.find? row.id = some row'
  follows : row'.productId = ev.productId
  confirming : row.productId = ev.productId →
    (score (signalsOf row) < score (signalsOf row') ↔ 0 < row.confirmations ∨ row.timesSeen = 0)
  repointing : row.productId ≠ ev.productId →
    (score (signalsOf row') < score (signalsOf row) ↔ 0 < row.confirmations ∨ 0 < row.timesSeen)
  confirmed : 0 < row'.confirmations
  elsewhere : ∀ other, other.id ≠ row.id →
    (other ∈ m'.recognitions.rows ↔ other ∈ m.recognitions.rows)

def Confirmed (id : Id) (m : Memory) : Prop :=
  ∃ row, m.recognitions.find? id = some row ∧ 0 < row.confirmations

inductive Told (now : Time) (ev : LearningEvent) (row : ProductRecognition) :
    ProductRecognition → Prop
  | confirming (same : row.productId = ev.productId) :
      Told now ev row (reinforced now ev row.sourceStats row)
  | repointing (apart : row.productId ≠ ev.productId) :
      Told now ev row (corrected now ev row.sourceStats row)

theorem learn_told (pick : Lookup ProductRecognition) (newId companyId : Id) (ev : LearningEvent)
    (m m' : Memory) (done : learn pick newId companyId ev m = .ok m') :
    ∃ row ∈ mappingsForCode m companyId ev.codeType ev.code, ∃ f keep,
      m'.recognitions = m.recognitions.update row.id f keep ∧ Told m.clock ev row (f row) := by
  unfold learn at done
  split at done
  · -- nothing is stored for a code without a mapping
    obtain ⟨refusal, refused⟩ := insert_learned_refused m newId companyId ev
    rw [refused] at done
    cases done
  · next row picked =>
    have mapped := pick.mem _ _ picked
    split at done
    · next same =>
      obtain ⟨-, rfl⟩ := updateRecognition_ok _ _ _ _ _ done
      exact ⟨row, mapped, _, reinforced_id m.clock ev row.sourceStats, rfl, .confirming same⟩
    · next apart =>
      obtain ⟨-, rfl⟩ := updateRecognition_ok _ _ _ _ _ done
      exact ⟨row, mapped, _, corrected_id m.clock ev row.sourceStats, rfl, .repointing apart⟩

section Told

variable {now : Time} {ev : LearningEvent} {row row' : ProductRecognition}

theorem Told.affirmed (told : Told now ev row row') : 0 < row'.confirmations := by
  cases told with
  | confirming same => exact Nat.succ_pos _
  | repointing apart => exact Nat.one_pos

theorem Told.follows (told : Told now ev row row') : row'.productId = ev.productId := by
  cases told with
  | confirming same => exact same
  | repointing apart => rfl

theorem Told.rises (told : Told now ev row row') (same : row.productId = ev.productId) :
    score (signalsOf row) < score (signalsOf row') ↔ 0 < row.confirmations ∨ row.timesSeen = 0 := by
  cases told with
  | confirming _ => exact score_reinforced now ev _ row
  | repointing apart => exact absurd same apart

theorem Told.falls (told : Told now ev row row') (apart : row.productId ≠ ev.productId) :
    score (signalsOf row') < score (signalsOf row) ↔ 0 < row.confirmations ∨ 0 < row.timesSeen := by
  cases told with
  | confirming same => exact absurd same apart
  | repointing _ =>
    rw [score_corrected now ev _ row, confirms]
    split
    · next unconfirmed => simp [unconfirmed]
    · next confirmed => simp [Nat.pos_of_ne_zero confirmed]

end Told

theorem step_confirmed (pick : Lookup ProductRecognition) (companyId : Id) (codeType : CodeType)
    (code : String) (m m' : Memory) (taken : LearnsCode pick companyId codeType code m m')
    (id : Id) (before : Confirmed id m) : Confirmed id m' := by
  cases taken with
  | event now newId ev _ _ about done =>
    obtain ⟨row, mapped, f, keep, updated, told⟩ := learn_told pick newId companyId ev _ m' done
    obtain ⟨standing, found, confirmed⟩ := before
    have stored := ((mem_mappingsForCode _ _ _ _ _).mp mapped).1
    unfold Confirmed
    rw [updated, Table.find?_update]
    split
    · rw [(Table.find?_some _ _ _).mpr ⟨stored, rfl⟩]
      exact ⟨f row, rfl, told.affirmed⟩
    · exact ⟨standing, found, confirmed⟩

/-- The score of every mapping stays in [0, 1). It rises with what confirms the mapping, the first
confirmation of one that shows its sightings apart, and falls with what points it elsewhere,
where there is any evidence for it; and once confirmed it stays so. -/
theorem learning_scored (pick : Lookup ProductRecognition) (companyId : Id) (codeType : CodeType)
    (code : String) (start m : Memory)
    (run : Relation.ReflTransGen (LearnsCode pick companyId codeType code) start m) :
    (∀ row ∈ m.recognitions.rows, 0 ≤ score (signalsOf row) ∧ score (signalsOf row) < 1) ∧
    (∀ id, Confirmed id start → Confirmed id m) ∧
    ∀ now newId ev m', ev.codeType = codeType → ev.code = code →
      learn pick newId companyId ev { m with clock := now } = .ok m' →
      ∃ row row', Judged companyId ev m m' row row' := by
  refine ⟨fun row _ => score_bounds row, fun id before => ?_, ?_⟩
  · induction run with
    | refl => exact before
    | tail _ taken ih => exact step_confirmed pick companyId codeType code _ _ taken id ih
  rintro now newId ev m' rfl rfl done
  obtain ⟨row, mapped, f, keep, updated, told⟩ := learn_told pick newId companyId ev _ m' done
  have stored := (Table.find?_some _ row.id row).mpr
    ⟨((mem_mappingsForCode _ _ _ _ _).mp mapped).1, rfl⟩
  refine ⟨row, f row, mapped, ?_, told.follows, told.rises, told.falls, told.affirmed,
    fun other apart => ?_⟩
  · rw [updated, Table.find?_update, if_pos rfl, stored]
    rfl
  · rw [updated, Table.mem_update, stored]
    constructor
    · rintro (⟨old, -⟩ | ⟨standing, here, rfl⟩)
      · exact old
      · cases here
        exact absurd (keep row) apart
    · exact fun old => .inl ⟨old, apart⟩

def confirmedOnce : Memory :=
  { blank with
    recognitions := ⟨[
      { id := 600
        companyId := 10
        codeType := .tac
        code := "35693803"
        productId := 3
        confirmations := 1
        confirmedAt := some 900 }], by decide⟩ }

def receiving (productId : Id) : LearningEvent where
  codeType := .tac
  code := "35693803"
  productId := productId
  source := "receiving"

theorem learning_scored_confirmed : ∃ m' row row',
    learn .oldest 601 10 (receiving 4) confirmedOnce = .ok m' ∧
      Judged 10 (receiving 4) confirmedOnce m' row row' := by
  obtain ⟨m', done⟩ : ∃ m', learn .oldest 601 10 (receiving 4) confirmedOnce = .ok m' :=
    ⟨_, rfl⟩
  have scored := learning_scored .oldest 10 .tac "35693803" confirmedOnce confirmedOnce .refl
  obtain ⟨row, row', judged⟩ :=
    scored.2.2 confirmedOnce.clock 601 (receiving 4) m' rfl rfl done
  exact ⟨m', row, row', done, judged⟩

def sightings : Memory :=
  { blank with
    recognitions := ⟨[
      { id := 600
        companyId := 10
        codeType := .tac
        code := "35693803"
        productId := 3
        timesSeen := 3
        confirmedAt := some 900 }], by decide⟩ }

/-- Its first confirmation costs it the sightings. -/
theorem first_confirmation_lowers : ∃ m' row row',
    learn .oldest 601 10 (receiving 3) sightings = .ok m' ∧
      row ∈ mappingsForCode sightings 10 .tac "35693803" ∧ row.productId = 3 ∧
      m'.recognitions.find? row.id = some row' ∧
      score (signalsOf row) = 3 / 5 ∧ score (signalsOf row') = 1 / 3 := by
  refine ⟨_, _, _, rfl, List.mem_cons_self, rfl, rfl, ?_, ?_⟩
  · rw [score_signalsOf]
    norm_num [trust, confirms]
  · rw [score_signalsOf]
    norm_num [trust, confirms, reinforced]

end ErpBackend.Scanner
