import ErpBackend.Analytics.Profit
import ErpBackend.Closing.Effects

/-!
# What signing a day off leaves

Run alone, `close` stores in the closing and in the digest the figures it has just
recomputed, and no other book changes.
-/

namespace ErpBackend.Closing

open Foundation Analytics

structure SameFacts (db db' : Db) : Prop where
  sales : db'.sales = db.sales
  lines : db'.saleItems = db.saleItems
  reversals : db'.returnReversals = db.returnReversals
  expenses : db'.expenses = db.expenses

namespace SameFacts

theorem refl (db : Db) : SameFacts db db := ⟨rfl, rfl, rfl, rfl⟩

theorem trans {db db' db'' : Db} (first : SameFacts db db') (second : SameFacts db' db'') :
    SameFacts db db'' where
  sales := second.sales.trans first.sales
  lines := second.lines.trans first.lines
  reversals := second.reversals.trans first.reversals
  expenses := second.expenses.trans first.expenses

theorem income {db db' : Db} (same : SameFacts db db') (companyId branchId : Id) (day : Day) :
    Analytics.income db' companyId branchId day = Analytics.income db companyId branchId day :=
  income_congr same.sales same.lines same.reversals same.expenses companyId branchId day

end SameFacts

/-- The rollup of the branch-day as the tenant's client reads it. -/
def rolledUp (db : Db) (companyId branchId : Id) (day : Day) : DayFigures :=
  (((rollupOn db branchId day).filter (fun rollup => rollup.companyId = companyId)).map
    DailyRollup.toDayFigures).getD noFigures

theorem upsertRollup_kept {companyId branchId : Id} {day : Day} {now : Time} {id : Id}
    {figures : DayFigures} {db db' : Db}
    (done : upsertRollup companyId branchId day now id figures db = .ok db')
    {branch : Id} {date : Day} {rollup : DailyRollup}
    (found : rollupOn db branch date = some rollup) :
    ∃ rollup', rollupOn db' branch date = some rollup' ∧
      rollup'.companyId = rollup.companyId ∧
      (branch = branchId → date = day → rollup'.toDayFigures = figures) := by
  unfold upsertRollup at done
  split at done
  · next own stored =>
    cases done
    have mapped := db.dailyRollups.find?_rows_update own.id (refreshed figures now)
      (refreshed_id figures now)
      (fun row => row.branchId = branch ∧ row.day = date) (fun _ => rfl)
    refine ⟨if rollup.id = own.id then refreshed figures now rollup else rollup,
      mapped.trans (congrArg _ found), ?_, ?_⟩
    · split
      · rfl
      · rfl
    · rintro rfl rfl
      rw [stored] at found
      cases found
      rw [if_pos rfl]
      rfl
  · next absent =>
    split at done
    · cases done
    · next dailyRollups inserted =>
      cases done
      refine ⟨rollup, ?_, rfl, ?_⟩
      · unfold rollupOn at found ⊢
        dsimp only
        rw [(Table.insert?_some _ _ _ inserted).1, List.find?_append, found]
        rfl
      · rintro rfl rfl
        rw [absent] at found
        cases found

theorem upsertRollup_own {companyId branchId : Id} {day : Day} {now : Time} {id : Id}
    {figures : DayFigures} {db db' : Db}
    (done : upsertRollup companyId branchId day now id figures db = .ok db') :
    ∃ rollup, rollupOn db' branchId day = some rollup ∧ rollup.toDayFigures = figures ∧
      (rollupOn db branchId day = none → rollup.companyId = companyId) := by
  rcases found : rollupOn db branchId day with _ | rollup
  · unfold upsertRollup at done
    rw [found] at done
    dsimp only at done
    split at done
    · cases done
    · next dailyRollups inserted =>
      cases done
      refine ⟨⟨figures, id, companyId, branchId, day, now⟩, ?_, rfl, fun _ => rfl⟩
      unfold rollupOn at found ⊢
      dsimp only
      rw [(Table.insert?_some _ _ _ inserted).1, List.find?_append, found]
      simp
  · obtain ⟨rollup', stored, -, own⟩ := upsertRollup_kept done found
    exact ⟨rollup', stored, own rfl rfl, fun none => by cases none⟩

theorem recomputeDaily_run {M : Type} (m : M) (companyId branchId : Id) (day : Day) (now : Time)
    (id : Id) (db : Db) :
    (recomputeDaily m companyId branchId day now id).run db =
      match upsertRollup companyId branchId day now id (dayFigures db companyId branchId day)
        db with
      | .ok db' => (db', .ok ())
      | .error e => (db, .error e) := by
  have runs : (recomputeDaily m companyId branchId day now id).run db =
      (Prog.commit (ε := Refusal) m (upsertRollup companyId branchId day now id
        (dayFigures db companyId branchId day))).run db := rfl
  rw [runs, Prog.commit_run]
  cases upsertRollup companyId branchId day now id (dayFigures db companyId branchId day) db with
  | ok db' => rfl
  | error e => rfl

theorem ensures_recomputed {M α : Type} (m : M) (companyId branchId : Id) (day : Day) (now : Time)
    (id : Id) (f : Unit → Prog Db M Refusal α) (post : Db → Except Refusal α → Prop) (db : Db)
    (rest : ∀ db', upsertRollup companyId branchId day now id
      (dayFigures db companyId branchId day) db = .ok db' → Prog.Ensures (f ()) post db')
    (fails : ∀ e, post db (.error e)) :
    Prog.Ensures (recomputeDaily m companyId branchId day now id >>= f) post db := by
  rw [Prog.ensures_bind]
  unfold Prog.Ensures
  rw [recomputeDaily_run]
  cases done : upsertRollup companyId branchId day now id
      (dayFigures db companyId branchId day) db with
  | ok db' => exact rest db' done
  | error e => exact fails e

/-- A write that touches neither the facts of a day nor what was made of them. -/
structure Filing (db db' : Db) : Prop where
  facts : SameFacts db db'
  closings : db'.dailyClosings = db.dailyClosings
  digests : db'.dailyDigests = db.dailyDigests
  rollups : db'.dailyRollups = db.dailyRollups

theorem Filing.refl (db : Db) : Filing db db := ⟨.refl db, rfl, rfl, rfl⟩

theorem Filing.trans {db db' db'' : Db} (first : Filing db db') (second : Filing db' db'') :
    Filing db db'' where
  facts := first.facts.trans second.facts
  closings := second.closings.trans first.closings
  digests := second.digests.trans first.digests
  rollups := second.rollups.trans first.rollups

theorem freezeChannel_filing {companyId closingId id : Id} {row : ChannelRow}
    {saved : Option ClosingChannelCount} {db db' : Db}
    (done : freezeChannel companyId closingId id row saved db = .ok db') : Filing db db' := by
  unfold freezeChannel at done
  split at done
  · unfold updateCount at done
    split at done
    · cases done
    · obtain ⟨_, -, equal⟩ := (except_bind_ok _ _ _).mp done
      cases equal
      exact ⟨⟨rfl, rfl, rfl, rfl⟩, rfl, rfl, rfl⟩
  · obtain ⟨_, -, rest⟩ := (except_bind_ok _ _ _).mp done
    split at rest
    · cases rest
    · split at rest
      · cases rest
      · cases rest
        exact ⟨⟨rfl, rfl, rfl, rfl⟩, rfl, rfl, rfl⟩

theorem freezeChannels_filing (companyId closingId : Id) (ids : Nat → Id)
    (counts : List ClosingChannelCount) (index : Nat) (rows : List ChannelRow) (db db' : Db)
    (done : freezeChannels companyId closingId ids counts index rows db = .ok db') :
    Filing db db' := by
  induction rows generalizing index db with
  | nil =>
      cases done
      exact .refl _
  | cons row rest ih =>
      obtain ⟨frozen, first, later⟩ := (except_bind_ok _ _ _).mp done
      exact (freezeChannel_filing first).trans (ih (index + 1) frozen later)

theorem openDiscrepancies_filing (companyId branchId closingId : Id) (ids : Nat → Id)
    (index : Nat) (counts : List ClosingChannelCount) (db db' : Db)
    (done : openDiscrepancies companyId branchId closingId ids index counts db = .ok db') :
    Filing db db' := by
  induction counts generalizing index db with
  | nil =>
      cases done
      exact .refl _
  | cons count rest ih =>
      obtain ⟨opened, first, later⟩ := (except_bind_ok _ _ _).mp done
      have step : Filing db opened := by
        unfold openDiscrepancy at first
        split at first
        · cases first
          exact .refl db
        · split at first
          · cases first
          · cases first
            exact ⟨⟨rfl, rfl, rfl, rfl⟩, rfl, rfl, rfl⟩
      exact step.trans (ih (index + 1) opened later)

theorem insertDigestLines_filing (companyId digestId : Id) (ids : Nat → Id) (index : Nat)
    (lines : List DigestLine) (db db' : Db)
    (done : insertDigestLines companyId digestId ids index lines db = .ok db') :
    Filing db db' := by
  induction lines generalizing index db with
  | nil =>
      cases done
      exact .refl _
  | cons line rest ih =>
      unfold insertDigestLines at done
      split at done
      · cases done
      · next digestLines inserted =>
        have first : Filing db { db with digestLines } := ⟨⟨rfl, rfl, rfl, rfl⟩, rfl, rfl, rfl⟩
        exact first.trans (ih (index + 1) _ done)

def digestOn (db : Db) (companyId branchId : Id) (day : Day) : Option DailyDigest :=
  db.dailyDigests.rows.find? (fun digest => digest.branchId = branchId ∧
    digest.digestDate = day ∧ digest.companyId = companyId)

theorem insertDigest_ok {digest : DailyDigest} {db db' : Db}
    (done : insertDigest digest db = .ok db') :
    digestOn db' digest.companyId digest.branchId digest.digestDate = some digest ∧
      ∃ dailyDigests, db' = { db with dailyDigests } := by
  unfold insertDigest at done
  split_ifs at done with first _
  split at done
  · cases done
  · next dailyDigests inserted =>
    cases done
    refine ⟨?_, dailyDigests, rfl⟩
    have none_before : db.dailyDigests.rows.find? (fun other =>
        other.branchId = digest.branchId ∧ other.digestDate = digest.digestDate ∧
          other.companyId = digest.companyId) = none := by
      apply List.find?_eq_none.mpr
      intro other member same
      have others := (Table.any_eq_false _ _).mp (Bool.not_eq_true _ ▸ first) other member
      simp only [decide_eq_true_eq] at same
      simp [same.1, same.2.1] at others
    unfold digestOn
    dsimp only
    rw [(Table.insert?_some _ _ _ inserted).1, List.find?_append, none_before]
    simp

/-- The closing is locked and holds what was read when it was signed off. -/
structure Bears (snapshot : Snapshot) (closing : DailyClosing) : Prop where
  status : closing.status = .locked
  isLocked : closing.isLocked = true
  expectedCash : closing.expectedCash = snapshot.expectedCash
  sales : closing.totalSales = snapshot.figures.revenue
  profit : closing.totalProfit = snapshot.figures.netProfit
  returns : closing.totalReturns = snapshot.figures.returnsRevenue
  impact : closing.totalReturnsProfitImpact = snapshot.figures.returnsGrossProfit
  adjustments : closing.totalReturnAdjustments = snapshot.figures.returnsAdjustments
  credited : closing.totalReturnsCogsCredited = snapshot.figures.returnsCogs

theorem bears_locked (ctx : Ctx) (snapshot : Snapshot) (closing : DailyClosing) :
    Bears snapshot (locked ctx snapshot closing) := ⟨rfl, rfl, rfl, rfl, rfl, rfl, rfl, rfl, rfl⟩

theorem bears_relocked (ctx : Ctx) (snapshot : Snapshot) (closing : DailyClosing) :
    Bears snapshot (relocked ctx snapshot closing) :=
  ⟨rfl, rfl, rfl, rfl, rfl, rfl, rfl, rfl, rfl⟩

structure Signed (companyId branchId : Id) (day : Day) (snapshot : Snapshot) (db : Db) :
    Prop where
  closing : ∃ closing, findClosing db companyId branchId day = some closing ∧
    Bears snapshot closing
  digest : ∃ digest, digestOn db companyId branchId day = some digest ∧
    digest.revenue = snapshot.figures.revenue ∧
    digest.costOfGoodsSold = snapshot.figures.cogs ∧
    digest.grossProfit = snapshot.figures.grossProfit

theorem signOff_bears {ctx : Ctx} {ids : ClosingIds} {branchId : Id} {day : Day} {sheet : Sheet}
    {db db' : Db} (read : sheet.already = closingWithCounts db ctx.companyId branchId day)
    (done : signOff ctx ids branchId day sheet db = .ok db') :
    (∃ closing, findClosing db' ctx.companyId branchId day = some closing ∧
      Bears sheet.snapshot closing) ∧ ∃ dailyClosings, db' = { db with dailyClosings } := by
  unfold closingWithCounts at read
  rcases found : findClosing db ctx.companyId branchId day with _ | closing
  · rw [found] at read
    unfold signOff at done
    rw [read] at done
    obtain ⟨-, fresh, dailyClosings, inserted, rfl⟩ := insertClosing_ok done
    refine ⟨⟨locked ctx sheet.snapshot (countingDay ctx.companyId branchId day ids.closing), ?_,
      bears_locked ctx sheet.snapshot _⟩, dailyClosings, rfl⟩
    unfold findClosing at found ⊢
    dsimp only
    rw [(Table.insert?_some _ _ _ inserted).1, List.find?_append, found]
    simp [locked, countingDay]
  · rw [found] at read
    unfold signOff at done
    rw [read] at done
    obtain ⟨current, stored, -, rfl⟩ := lockClosing_ok done
    have mapped := db.dailyClosings.find?_rows_update closing.id (relocked ctx sheet.snapshot)
      (relocked_id ctx sheet.snapshot) (fun row => row.branchId = branchId ∧
        row.closingDate = day ∧ row.companyId = ctx.companyId) (fun _ => rfl)
    refine ⟨⟨relocked ctx sheet.snapshot closing, ?_, bears_relocked ctx sheet.snapshot closing⟩,
      _, rfl⟩
    refine mapped.trans ((congrArg _ found).trans ?_)
    simp

theorem writeClosing_signs {ctx : Ctx} {ids : ClosingIds} {branchId : Id} {day : Day}
    {sheet : Sheet} {db db' : Db} {closingId : Id}
    (read : sheet.already = closingWithCounts db ctx.companyId branchId day)
    (done : writeClosing ctx ids branchId day sheet db = .ok (db', closingId)) :
    SameFacts db db' ∧ db'.dailyRollups = db.dailyRollups ∧
      Signed ctx.companyId branchId day sheet.snapshot db' := by
  obtain ⟨signed, first, rest⟩ := (except_bind_ok _ _ _).mp done
  obtain ⟨frozen, second, rest⟩ := (except_bind_ok _ _ _).mp rest
  obtain ⟨opened, third, rest⟩ := (except_bind_ok _ _ _).mp rest
  obtain ⟨digested, fourth, rest⟩ := (except_bind_ok _ _ _).mp rest
  obtain ⟨listed, fifth, equal⟩ := (except_bind_ok _ _ _).mp rest
  obtain rfl : listed = db' := congrArg Prod.fst (Except.ok.inj equal)
  obtain ⟨⟨closing, stored, bears⟩, dailyClosings, rfl⟩ := signOff_bears read first
  have before := (freezeChannels_filing _ _ _ _ _ _ _ _ second).trans
    (openDiscrepancies_filing _ _ _ _ _ _ _ _ third)
  obtain ⟨entered, dailyDigests, rfl⟩ := insertDigest_ok fourth
  have after := insertDigestLines_filing _ _ _ _ _ _ _ fifth
  refine ⟨?_, ?_, ⟨⟨closing, ?_, bears⟩, ?_⟩⟩
  · have locking : SameFacts db { db with dailyClosings } := ⟨rfl, rfl, rfl, rfl⟩
    have digesting : SameFacts opened { opened with dailyDigests } := ⟨rfl, rfl, rfl, rfl⟩
    exact (locking.trans before.facts).trans (digesting.trans after.facts)
  · exact after.rollups.trans before.rollups
  · unfold findClosing at stored ⊢
    rw [after.closings]
    dsimp only
    rw [before.closings]
    exact stored
  · unfold digestOn at entered ⊢
    rw [after.digests]
    exact ⟨_, entered, rfl, rfl, rfl⟩

/-- What `close`, run alone, answers and leaves. -/
structure Closed (ctx : Ctx) (branchId : Id) (summary : ClosingSummary) (db db' : Db) :
    Prop where
  facts : SameFacts db db'
  rollup : ∃ rollup, rollupOn db' branchId summary.date = some rollup ∧
    rollup.toDayFigures = dayFigures db ctx.companyId branchId summary.date
  owner : ∀ rollup, rollupOn db branchId summary.date = some rollup →
    ∃ rollup', rollupOn db' branchId summary.date = some rollup' ∧
      rollup'.companyId = rollup.companyId
  new : rollupOn db branchId summary.date = none → ∃ rollup,
    rollupOn db' branchId summary.date = some rollup ∧ rollup.companyId = ctx.companyId
  figures : summary.figures = rolledUp db' ctx.companyId branchId summary.date
  cash : summary.expected = expectedCash (cashTaken db ctx.companyId branchId summary.date)
    summary.figures (Suppliers.paidOn db ctx.companyId branchId summary.date)
  signed : Signed ctx.companyId branchId summary.date
    ⟨summary.expected, summary.counted, summary.figures, summary.supplierPaid⟩ db'

theorem close_signs (ctx : Ctx) (ids : ClosingIds) (dto : CreateClosingDto) (db db' : Db)
    (summary : ClosingSummary) (run : (close ctx ids dto).run db = (db', .ok summary)) :
    ∃ branchId, ctx.branchId = some branchId ∧ Closed ctx branchId summary db db' := by
  suffices ensured : Prog.Ensures (close ctx ids dto) (fun reached result => ∀ summary,
      result = .ok summary → ∃ branchId, ctx.branchId = some branchId ∧
        Closed ctx branchId summary db reached) db by
    unfold Prog.Ensures at ensured
    rw [run] at ensured
    exact ensured summary rfl
  unfold close
  rw [Prog.ensures_expect]
  refine ⟨fun branchId branch => ?_, fun _ _ failed => by cases failed⟩
  rw [Prog.ensures_read, Prog.ensures_require]
  refine ⟨fun _ => ?_, fun _ _ failed => by cases failed⟩
  apply ensures_recomputed
  · intro db₁ recomputed
    obtain ⟨rollup, stored, figures, own⟩ := upsertRollup_own recomputed
    obtain ⟨dailyRollups, rfl⟩ := upsertRollup_ok _ _ _ _ _ _ _ _ recomputed
    simp only [Prog.ensures_read, Prog.ensures_liftExcept]
    refine ⟨fun counted _ => ?_, fun _ _ _ failed => by cases failed⟩
    unfold expectedChannels
    simp only [Prog.bind_assoc, Prog.ensures_read, Prog.pure_bind, Prog.ensures_transact]
    refine ⟨fun db₂ closingId done => ?_, fun _ _ _ failed => by cases failed⟩
    rw [Prog.ensures_pure]
    intro summary answered
    cases answered
    obtain ⟨facts, rollups, signed⟩ := writeClosing_signs rfl done
    have same : rollupOn db₂ branchId (dto.date.getD ctx.today) =
        rollupOn { db with dailyRollups } branchId (dto.date.getD ctx.today) := by
      unfold rollupOn
      rw [rollups]
    refine ⟨branchId, branch, ?_⟩
    constructor
    · have counting : SameFacts db { db with dailyRollups } := ⟨rfl, rfl, rfl, rfl⟩
      exact counting.trans facts
    · exact ⟨rollup, same.trans stored, figures⟩
    · intro before found
      obtain ⟨rollup', stored', company, -⟩ := upsertRollup_kept recomputed found
      exact ⟨rollup', same.trans stored', company⟩
    · intro absent
      exact ⟨rollup, same.trans stored, own absent⟩
    · unfold rolledUp
      rw [same]
    · rfl
    · exact signed
  · intro e summary failed
    cases failed

def owner (now : Time) : Ctx := { companyId := 10, branchId := some 1, userId := some 7, now }

def signing : Request ClosingSummary :=
  close (owner 80000000) ⟨100, fun index => 110 + index, 130, fun index => 140 + index, 150,
    fun index => 160 + index⟩ { countedCash := some ⟨0, le_refl 0⟩ }

def signedDay (before : Db) : Db := (signing.run before).1

theorem signedDay_run (before : Db)
    (answered : ((signing.run before).2.toOption.map ClosingSummary.date) = some 0) :
    ∃ summary, signing.run before = (signedDay before, .ok summary) ∧ summary.date = 0 := by
  unfold signedDay
  rcases outcome : signing.run before with ⟨db, result⟩
  rw [outcome] at answered
  cases result with
  | error e => cases answered
  | ok summary => exact ⟨summary, rfl, Option.some.inj answered⟩

end ErpBackend.Closing
