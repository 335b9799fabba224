import ErpBackend.Closing.Service

/-!
# What counting and signing off write

Counts are written to one closing at a time, a closing is moved on only while its
`CHECK`s let it, and a signed-off closing is written once.
-/

namespace ErpBackend.Closing

open Foundation Analytics

/-- The `CHECK` that ties the status to the lock, and the key of the closings. -/
structure Books (db : Db) : Prop where
  checked : ∀ closing ∈ db.dailyClosings.rows,
    decide (closing.status = .locked) = closing.isLocked
  daily : (db.dailyClosings.rows.map (fun closing =>
    (closing.branchId, closing.closingDate))).Nodup

theorem closingChecks_ok {closing : DailyClosing} (done : closingChecks closing = .ok ()) :
    decide (closing.status = .locked) = closing.isLocked := by
  unfold closingChecks at done
  split at done
  · cases done
  · next agree => simpa using agree

theorem findClosing_some {db : Db} (books : Books db) {companyId branchId : Id} {day : Day}
    (closing : DailyClosing) :
    findClosing db companyId branchId day = some closing ↔
      closing ∈ db.dailyClosings.rows ∧ closing.branchId = branchId ∧
        closing.closingDate = day ∧ closing.companyId = companyId := by
  unfold findClosing
  constructor
  · intro found
    have matched := List.find?_some found
    simp only [decide_eq_true_eq] at matched
    exact ⟨List.mem_of_find?_eq_some found, matched⟩
  · rintro ⟨member, branch, date, company⟩
    rcases found : db.dailyClosings.rows.find? _ with _ | other
    · have absent := List.find?_eq_none.mp found closing member
      simp [branch, date, company] at absent
    · have matched := List.find?_some found
      simp only [decide_eq_true_eq] at matched
      have same : other = closing := List.inj_on_of_nodup_map books.daily
        (List.mem_of_find?_eq_some found) member (by simp [matched, branch, date])
      rw [same]

structure Counts (closingId : Id) (db db' : Db) : Prop where
  closings : db'.dailyClosings = db.dailyClosings
  others : ∀ id, id ≠ closingId → countsOf db' id = countsOf db id
  kept : ∀ id count, db.closingChannelCounts.find? id = some count →
    ∃ count', db'.closingChannelCounts.find? id = some count' ∧
      count'.closingId = count.closingId

namespace Counts

theorem of_eq {closingId : Id} {db db' : Db} (closings : db'.dailyClosings = db.dailyClosings)
    (counts : db'.closingChannelCounts = db.closingChannelCounts) :
    Counts closingId db db' where
  closings := closings
  others := by
    intro id _
    unfold countsOf
    rw [counts]
  kept := by
    intro id count found
    rw [counts]
    exact ⟨count, found, rfl⟩

theorem trans {closingId : Id} {db db' db'' : Db} (first : Counts closingId db db')
    (second : Counts closingId db' db'') : Counts closingId db db'' where
  closings := second.closings.trans first.closings
  others := fun id other => (second.others id other).trans (first.others id other)
  kept := by
    intro id count found
    obtain ⟨count', found', same'⟩ := first.kept id count found
    obtain ⟨count'', found'', same''⟩ := second.kept id count' found'
    exact ⟨count'', found'', same''.trans same'⟩

end Counts

theorem insertCount_counts {count : ClosingChannelCount} {db db' : Db}
    (done : insertCount count db = .ok db') : Counts count.closingId db db' := by
  obtain ⟨_, -, rest⟩ := (except_bind_ok _ _ _).mp done
  split at rest
  · cases rest
  · split at rest
    · cases rest
    · next table inserted =>
      cases rest
      obtain ⟨rows, fresh⟩ := Table.insert?_some _ _ _ inserted
      refine ⟨rfl, ?_, ?_⟩
      · intro id other
        show table.filter _ = _
        unfold countsOf Table.filter
        rw [rows, List.filter_append]
        simp [Ne.symm other]
      · intro id old found
        refine ⟨old, ?_, rfl⟩
        show table.find? id = some old
        rw [Table.find?_insert _ _ _ inserted, if_neg]
        · exact found
        · intro same
          exact fresh old (Table.mem_of_find? _ _ _ found)
            ((Table.key_of_find? _ _ _ found).trans same)

theorem updateCount_counts {companyId id : Id} {payload : CountPayload} {db db' : Db}
    (count : ClosingChannelCount) (found : db.closingChannelCounts.find? id = some count)
    (done : updateCount companyId id payload db = .ok db') :
    Counts count.closingId db db' := by
  unfold updateCount at done
  split at done
  · cases done
  · obtain ⟨_, -, equal⟩ := (except_bind_ok _ _ _).mp done
    cases equal
    refine ⟨rfl, ?_, ?_⟩
    · intro other apart
      refine Table.filter_modify_of_disjoint _ _ _ payload.fill_id _ (fun _ => rfl) ?_
      intro row member here
      have same := (Table.find?_some _ _ _).mpr ⟨member, of_decide_eq_true here⟩
      rw [found] at same
      cases same
      simp [Ne.symm apart]
    · intro key row stored
      refine ⟨if key = id then payload.fill row else row, ?_, ?_⟩
      · rw [Table.find?_update]
        split
        · next same =>
          subst same
          rw [stored]
          rfl
        · exact stored
      · split
        · rfl
        · rfl

theorem writeCount_counts {ctx : Ctx} {ids : ClosingIds} {dto : RecordCountDto} {closingId : Id}
    {prior : Option ClosingChannelCount} {payload : CountPayload} {db db' : Db}
    (own : ∀ count, prior = some count → ∃ current,
      db.closingChannelCounts.find? count.id = some current ∧ current.closingId = closingId)
    (done : writeCount ctx ids dto closingId prior payload db = .ok db') :
    Counts closingId db db' := by
  cases prior with
  | none => exact insertCount_counts done
  | some count =>
      obtain ⟨current, found, rfl⟩ := own count rfl
      exact updateCount_counts current found done

theorem freezeChannels_counts (companyId closingId : Id) (ids : Nat → Id)
    (counts : List ClosingChannelCount) (index : Nat) (rows : List ChannelRow) (db db' : Db)
    (own : ∀ count ∈ counts, ∃ current,
      db.closingChannelCounts.find? count.id = some current ∧ current.closingId = closingId)
    (done : freezeChannels companyId closingId ids counts index rows db = .ok db') :
    Counts closingId db db' := by
  induction rows generalizing index db with
  | nil =>
      cases done
      exact .of_eq rfl rfl
  | cons row rest ih =>
      obtain ⟨frozen, first, later⟩ := (except_bind_ok _ _ _).mp done
      have step : Counts closingId db frozen := by
        unfold freezeChannel at first
        split at first
        · next count saved =>
          have member : count ∈ counts := List.mem_of_find?_eq_some saved
          obtain ⟨current, found, rfl⟩ := own count member
          exact updateCount_counts current found first
        · exact insertCount_counts first
      refine step.trans (ih (index + 1) frozen ?_ later)
      intro count member
      obtain ⟨current, found, belongs⟩ := own count member
      obtain ⟨current', found', same⟩ := step.kept count.id current found
      exact ⟨current', found', same.trans belongs⟩

def Beside (db db' : Db) : Prop :=
  db'.dailyClosings = db.dailyClosings ∧ db'.closingChannelCounts = db.closingChannelCounts

theorem Beside.trans {db db' db'' : Db} (first : Beside db db') (second : Beside db' db'') :
    Beside db db'' :=
  ⟨second.1.trans first.1, second.2.trans first.2⟩

theorem upsertRollup_beside {companyId branchId : Id} {day : Day} {now : Time} {id : Id}
    {figures : DayFigures} {db db' : Db}
    (done : upsertRollup companyId branchId day now id figures db = .ok db') : Beside db db' := by
  unfold upsertRollup at done
  split at done
  · cases done
    exact ⟨rfl, rfl⟩
  · split at done
    · cases done
    · cases done
      exact ⟨rfl, rfl⟩

theorem openDiscrepancies_beside (companyId branchId closingId : Id) (ids : Nat → Id)
    (index : Nat) (counts : List ClosingChannelCount) (db db' : Db)
    (done : openDiscrepancies companyId branchId closingId ids index counts db = .ok db') :
    Beside db db' := by
  induction counts generalizing index db with
  | nil =>
      cases done
      exact ⟨rfl, rfl⟩
  | cons count rest ih =>
      obtain ⟨opened, first, later⟩ := (except_bind_ok _ _ _).mp done
      have step : Beside db opened := by
        unfold openDiscrepancy at first
        split at first
        · cases first
          exact ⟨rfl, rfl⟩
        · split at first
          · cases first
          · cases first
            exact ⟨rfl, rfl⟩
      exact step.trans (ih (index + 1) opened later)

theorem insertDigest_beside {digest : DailyDigest} {db db' : Db}
    (done : insertDigest digest db = .ok db') : Beside db db' := by
  unfold insertDigest at done
  split_ifs at done
  split at done
  · cases done
  · cases done
    exact ⟨rfl, rfl⟩

theorem insertDigestLines_beside (companyId digestId : Id) (ids : Nat → Id) (index : Nat)
    (lines : List DigestLine) (db db' : Db)
    (done : insertDigestLines companyId digestId ids index lines db = .ok db') :
    Beside db db' := by
  induction lines generalizing index db with
  | nil =>
      cases done
      exact ⟨rfl, rfl⟩
  | cons line rest ih =>
      unfold insertDigestLines at done
      split at done
      · cases done
      · have later := ih (index + 1) _ done
        exact later

theorem insertClosing_ok {closing : DailyClosing} {db db' : Db}
    (done : insertClosing closing db = .ok db') :
    decide (closing.status = .locked) = closing.isLocked ∧
      (∀ other ∈ db.dailyClosings.rows,
        ¬ (other.branchId = closing.branchId ∧ other.closingDate = closing.closingDate)) ∧
      ∃ dailyClosings, db.dailyClosings.insert? closing = some dailyClosings ∧
        db' = { db with dailyClosings } := by
  obtain ⟨_, checked, rest⟩ := (except_bind_ok _ _ _).mp done
  split at rest
  · cases rest
  · next fresh =>
    split at rest
    · cases rest
    · next inserted =>
      cases rest
      refine ⟨closingChecks_ok checked, ?_, _, inserted, rfl⟩
      have none_same := (Table.any_eq_false _ _).mp (by simpa using fresh)
      intro other member both
      simpa [both.1, both.2] using none_same other member

theorem moveClosing_ok {ctx : Ctx} {closingId : Id} {status : ClosingStatus} {db db' : Db}
    (done : moveClosing ctx closingId status db = .ok db') :
    ∃ closing, db.dailyClosings.find? closingId = some closing ∧
      decide ((moved ctx status closing).status = .locked) = closing.isLocked ∧
      db' = { db with
        dailyClosings := db.dailyClosings.update closingId (moved ctx status)
          (moved_id ctx status) } := by
  unfold moveClosing at done
  split at done
  · cases done
  · next closing found =>
    obtain ⟨_, checked, equal⟩ := (except_bind_ok _ _ _).mp done
    cases equal
    exact ⟨closing, (Option.filter_eq_some_iff.mp found).1, closingChecks_ok checked, rfl⟩

theorem lockClosing_ok {ctx : Ctx} {already : DailyClosing} {snapshot : Snapshot} {db db' : Db}
    (done : lockClosing ctx already snapshot db = .ok db') :
    ∃ closing, db.dailyClosings.find? already.id = some closing ∧ closing.status ≠ .locked ∧
      db' = { db with
        dailyClosings := db.dailyClosings.update already.id (relocked ctx snapshot)
          (relocked_id ctx snapshot) } := by
  unfold lockClosing at done
  split at done
  · cases done
  · next closing found =>
    obtain ⟨_, -, equal⟩ := (except_bind_ok _ _ _).mp done
    cases equal
    obtain ⟨stored, guarded⟩ := Option.filter_eq_some_iff.mp found
    simp only [decide_eq_true_eq] at guarded
    exact ⟨closing, stored, guarded.2.2, rfl⟩

end ErpBackend.Closing
