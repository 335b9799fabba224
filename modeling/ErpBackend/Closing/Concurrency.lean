import ErpBackend.Closing.Effects

/-!
# Counting while the day is signed off

No interleaving moves a signed-off closing or changes a figure on it: the guard
of `close` and the `CHECK`s refuse every later write. The counts of its channels
have no such guard. They stay as well when nobody signs the day off while a
count that found it open is still to be written.
-/

namespace ErpBackend.Closing

open Foundation Analytics

inductive IsRequest : Request Unit → Prop
  | recordCount (ctx : Ctx) (ids : ClosingIds) (dto : RecordCountDto) :
      IsRequest (recordCount ctx ids dto).void
  | close (ctx : Ctx) (ids : ClosingIds) (dto : CreateClosingDto) :
      IsRequest (close ctx ids dto).void

/-- The day that is signed off is not the one another request holds open to count. -/
def isolated (db : Db) : Mark → Mark → Prop
  | .lock branchId day, .count closingId =>
      (db.dailyClosings.find? closingId).all (fun closing =>
        ¬ (closing.branchId = branchId ∧ closing.closingDate = day)) = true
  | _, _ => True

instance (db : Db) : (m m' : Mark) → Decidable (isolated db m m')
  | .lock branchId day, .count closingId => inferInstanceAs (Decidable
      ((db.dailyClosings.find? closingId).all (fun closing =>
        ¬ (closing.branchId = branchId ∧ closing.closingDate = day)) = true))
  | .lock _ _, .other => .isTrue trivial
  | .lock _ _, .lock _ _ => .isTrue trivial
  | .other, _ => .isTrue trivial
  | .count _, _ => .isTrue trivial

/-- A signed-off closing keeps its row; every closing keeps its day and every count its
closing. -/
structure Later (db db' : Db) : Prop where
  closing : ∀ id closing, db.dailyClosings.find? id = some closing →
    ∃ closing', db'.dailyClosings.find? id = some closing' ∧
      closing'.branchId = closing.branchId ∧ closing'.closingDate = closing.closingDate ∧
      (closing.status = .locked → closing' = closing)
  count : ∀ id count, db.closingChannelCounts.find? id = some count →
    ∃ count', db'.closingChannelCounts.find? id = some count' ∧
      count'.closingId = count.closingId

def Sealed (db db' : Db) : Prop :=
  ∀ id closing, db.dailyClosings.find? id = some closing → closing.status = .locked →
    countsOf db' id = countsOf db id

def Locks (m : Mark) (db db' : Db) : Prop :=
  ∀ id closing', db'.dailyClosings.find? id = some closing' → closing'.status = .locked →
    (∃ closing, db.dailyClosings.find? id = some closing ∧ closing.status = .locked) ∨
      m = .lock closing'.branchId closing'.closingDate

def Unlocked (closingId : Id) (db : Db) : Prop :=
  ∃ closing, db.dailyClosings.find? closingId = some closing ∧ closing.status ≠ .locked

def Held : Mark → Db → Db → Prop
  | .count closingId, db, db' => Unlocked closingId db → Unlocked closingId db'
  | _, _, _ => True

theorem Later.refl (db : Db) : Later db db :=
  ⟨fun _ closing found => ⟨closing, found, rfl, rfl, fun _ => rfl⟩,
    fun _ count found => ⟨count, found, rfl⟩⟩

theorem Later.trans {db db' db'' : Db} (first : Later db db') (second : Later db' db'') :
    Later db db'' where
  closing := by
    intro id closing found
    obtain ⟨closing', found', branch', day', same'⟩ := first.closing id closing found
    obtain ⟨closing'', found'', branch'', day'', same''⟩ := second.closing id closing' found'
    refine ⟨closing'', found'', branch''.trans branch', day''.trans day', fun locked => ?_⟩
    have equal := same' locked
    subst equal
    exact same'' locked
  count := by
    intro id count found
    obtain ⟨count', found', same'⟩ := first.count id count found
    obtain ⟨count'', found'', same''⟩ := second.count id count' found'
    exact ⟨count'', found'', same''.trans same'⟩

theorem Held.refl (m : Mark) (db : Db) : Held m db db := by
  cases m with
  | other => trivial
  | count closingId => exact fun held => held
  | lock branchId day => trivial

theorem Held.trans {m : Mark} {db db' db'' : Db} (first : Held m db db')
    (second : Held m db' db'') : Held m db db'' := by
  cases m with
  | other => trivial
  | count closingId => exact fun held => second (first held)
  | lock branchId day => trivial

theorem Held.of_locks {m m' : Mark} {db db' : Db} (allowed : isolated db m m')
    (later : Later db db') (locks : Locks m db db') : Held m' db db' := by
  cases m' with
  | other => trivial
  | lock branchId day => trivial
  | count closingId =>
      rintro ⟨closing, found, unlocked⟩
      obtain ⟨closing', found', branch, day, -⟩ := later.closing closingId closing found
      refine ⟨closing', found', fun locked => ?_⟩
      rcases locks closingId closing' found' locked with ⟨before, stored, already⟩ | signing
      · rw [found] at stored
        cases stored
        exact unlocked already
      · subst signing
        have apart : (db.dailyClosings.find? closingId).all (fun closing =>
          ¬ (closing.branchId = closing'.branchId ∧
            closing.closingDate = closing'.closingDate)) = true := allowed
        rw [found, branch, day] at apart
        simp at apart

/-- With `strict` the discipline also answers for the counts of signed-off closings. -/
def discipline (strict : Prop) : Discipline Db Mark where
  inv := Books
  guar m db db' := Later db db' ∧ Locks m db db' ∧ (strict → Sealed db db')
  rely m db db' := Later db db' ∧ (strict → Held m db db')
  rely_refl m db := ⟨.refl db, fun _ => .refl m db⟩
  rely_trans _ _ _ _ first second :=
    ⟨first.1.trans second.1, fun isolation => (first.2 isolation).trans (second.2 isolation)⟩

/-- A step that writes no count, and closings only as the schema lets it. -/
structure Signs (m : Mark) (db db' : Db) : Prop where
  books : Books db'
  counts : db'.closingChannelCounts = db.closingChannelCounts
  closing : ∀ id closing, db.dailyClosings.find? id = some closing →
    ∃ closing', db'.dailyClosings.find? id = some closing' ∧
      closing'.branchId = closing.branchId ∧ closing'.closingDate = closing.closingDate ∧
      (closing.status = .locked → closing' = closing)
  locks : Locks m db db'

section Steps

variable {m : Mark} {db db' : Db}

theorem Signs.of_beside (books : Books db) (beside : Beside db db') : Signs m db db' := by
  obtain ⟨same, counts⟩ := beside
  refine ⟨⟨?_, ?_⟩, counts, ?_, ?_⟩
  · rw [same]
    exact books.checked
  · rw [same]
    exact books.daily
  · intro id closing found
    rw [same]
    exact ⟨closing, found, rfl, rfl, fun _ => rfl⟩
  · intro id closing' found locked
    rw [same] at found
    exact .inl ⟨closing', found, locked⟩

theorem Signs.of_insert {closing : DailyClosing} (books : Books db)
    (signing : closing.status = .locked → m = .lock closing.branchId closing.closingDate)
    (done : insertClosing closing db = .ok db') : Signs m db db' := by
  obtain ⟨checked, fresh, table, inserted, rfl⟩ := insertClosing_ok done
  obtain ⟨rows, new⟩ := Table.insert?_some _ _ _ inserted
  have found := Table.find?_insert _ _ _ inserted
  refine ⟨⟨?_, ?_⟩, rfl, ?_, ?_⟩
  · intro other member
    have either : other ∈ db.dailyClosings.rows ∨ other = closing := by
      simpa [rows] using (show other ∈ table.rows from member)
    rcases either with old | rfl
    · exact books.checked other old
    · exact checked
  · show (table.rows.map _).Nodup
    rw [rows, List.map_append]
    apply List.Nodup.append books.daily (List.nodup_singleton _)
    intro pair present single
    obtain ⟨other, member, same⟩ := List.mem_map.mp present
    rw [List.mem_singleton] at single
    exact fresh other member (Prod.mk.inj (same.trans single))
  · intro id other stored
    refine ⟨other, ?_, rfl, rfl, fun _ => rfl⟩
    rw [found, if_neg]
    · exact stored
    · intro same
      exact new other (Table.mem_of_find? _ _ _ stored)
        ((Table.key_of_find? _ _ _ stored).trans same)
  · intro id closing' stored locked
    rw [found] at stored
    split at stored
    · cases stored
      exact .inr (signing locked)
    · exact .inl ⟨closing', stored, locked⟩

theorem Signs.of_update {closing : DailyClosing} {closingId : Id}
    {f : DailyClosing → DailyClosing} {keep : ∀ row, (f row).id = row.id} (books : Books db)
    (stored : db.dailyClosings.find? closingId = some closing)
    (unlocked : closing.status ≠ .locked)
    (day : ∀ row, (f row).branchId = row.branchId ∧ (f row).closingDate = row.closingDate)
    (checked : decide ((f closing).status = .locked) = (f closing).isLocked)
    (signing : (f closing).status = .locked → m = .lock closing.branchId closing.closingDate)
    (done : db' = { db with dailyClosings := db.dailyClosings.update closingId f keep }) :
    Signs m db db' := by
  have rows : db'.dailyClosings = db.dailyClosings.update closingId f keep := by rw [done]
  have found : ∀ id, db'.dailyClosings.find? id =
      if id = closingId then (db.dailyClosings.find? closingId).map f
      else db.dailyClosings.find? id := by
    intro id
    rw [rows, Table.find?_update]
  refine ⟨⟨?_, ?_⟩, by rw [done], ?_, ?_⟩
  · intro other member
    rw [rows, Table.mem_update] at member
    rcases member with ⟨old, -⟩ | ⟨row, same, rfl⟩
    · exact books.checked other old
    · rw [stored] at same
      cases same
      exact checked
  · have same : db'.dailyClosings.rows.map (fun row => (row.branchId, row.closingDate)) =
        db.dailyClosings.rows.map (fun row => (row.branchId, row.closingDate)) := by
      rw [rows, Table.update, Table.modify_rows, List.map_map]
      apply List.map_congr_left
      intro row _
      simp only [Function.comp_apply]
      split
      · rw [(day row).1, (day row).2]
      · rfl
    rw [same]
    exact books.daily
  · intro id other present
    by_cases own : id = closingId
    · subst own
      rw [stored] at present
      cases present
      refine ⟨f closing, ?_, (day closing).1, (day closing).2,
        fun locked => absurd locked unlocked⟩
      rw [found, if_pos rfl, stored]
      rfl
    · refine ⟨other, ?_, rfl, rfl, fun _ => rfl⟩
      rw [found, if_neg own]
      exact present
  · intro id closing' present locked
    rw [found] at present
    split at present
    · rw [stored] at present
      cases present
      rw [(day closing).1, (day closing).2]
      exact .inr (signing locked)
    · exact .inl ⟨closing', present, locked⟩

variable (strict : Prop)

theorem Signs.guar (signs : Signs m db db') :
    (discipline strict).inv db' ∧ (discipline strict).guar m db db' := by
  refine ⟨signs.books, ⟨signs.closing, ?_⟩, signs.locks, ?_⟩
  · intro id count found
    rw [signs.counts]
    exact ⟨count, found, rfl⟩
  · intro _ id closing _ _
    unfold countsOf
    rw [signs.counts]

theorem Signs.guar_counts {closingId : Id} {signed : Db} (signs : Signs m db signed)
    (counts : Counts closingId signed db')
    (unlocked : strict → ∀ closing, db.dailyClosings.find? closingId = some closing →
      closing.status ≠ .locked) :
    (discipline strict).inv db' ∧ (discipline strict).guar m db db' := by
  obtain ⟨books, later, locks, sealing⟩ := signs.guar strict
  have same := counts.closings
  refine ⟨⟨?_, ?_⟩, ⟨?_, ?_⟩, ?_, ?_⟩
  · rw [same]
    exact books.checked
  · rw [same]
    exact books.daily
  · rw [same]
    exact later.closing
  · intro id count found
    obtain ⟨count', found', own'⟩ := later.count id count found
    obtain ⟨count'', found'', own''⟩ := counts.kept id count' found'
    exact ⟨count'', found'', own''.trans own'⟩
  · intro id closing' found locked
    rw [same] at found
    exact locks id closing' found locked
  · intro isolation id closing found locked
    have apart : id ≠ closingId := by
      rintro rfl
      exact unlocked isolation closing found locked
    exact (counts.others id apart).trans (sealing isolation id closing found locked)

theorem guar_self (m : Mark) (db : Db) : (discipline strict).guar m db db :=
  ⟨.refl db, fun _ closing' found locked => .inl ⟨closing', found, locked⟩,
    fun _ _ _ _ _ => rfl⟩

end Steps

section Safety

variable (strict : Prop) {α β : Type}

theorem safe_query (m : Mark) (query : Db → α) (f : α → Request β) (db : Db)
    (rest : ∀ db', (discipline strict).rely m db db' → Books db' →
      (discipline strict).Safe (f (query db')) db') :
    (discipline strict).Safe (Prog.read m query >>= f) db :=
  (discipline strict).safe_read db m query f
    (fun db' relied books => ⟨guar_self strict m db', rest db' relied books⟩)

theorem safe_expectedChannels (m : Mark) (companyId branchId : Id) (day : Day)
    (f : List ChannelRow → Request β) (db : Db)
    (rest : ∀ db' rows, (discipline strict).rely m db db' →
      (discipline strict).Safe (f rows) db') :
    (discipline strict).Safe (expectedChannels m companyId branchId day >>= f) db := by
  unfold expectedChannels
  rw [Prog.bind_assoc]
  apply safe_query
  intro db1 relied1 _
  rw [Prog.bind_assoc]
  apply safe_query
  intro db2 relied2 _
  exact rest db2 _ ((discipline strict).rely_trans m db db1 db2 relied1 relied2)

variable (ctx : Ctx)

theorem safe_openView (date : Option Day) (f : OpenView → Request β) (db : Db)
    (rest : ∀ db' view, (discipline strict).Safe (f view) db') :
    (discipline strict).Safe (openView ctx date >>= f) db := by
  unfold openView
  rw [Prog.bind_assoc]
  apply Discipline.safe_expect
  intro branchId _
  rw [Prog.bind_assoc]
  apply safe_query
  intro db1 _ _
  rw [Prog.bind_assoc]
  apply safe_expectedChannels
  intro db2 rows _
  exact rest db2 _

theorem safe_recomputeDaily (companyId branchId : Id) (day : Day) (now : Time) (id : Id)
    (f : Unit → Request β) (db : Db)
    (rest : ∀ db', Later db db' → (discipline strict).Safe (f ()) db') :
    (discipline strict).Safe (recomputeDaily Mark.other companyId branchId day now id >>= f)
      db := by
  unfold recomputeDaily
  simp only [Prog.bind_assoc]
  apply safe_query
  intro db1 relied1 _
  apply safe_query
  intro db2 relied2 _
  apply safe_query
  intro db3 relied3 _
  apply safe_query
  intro db4 relied4 _
  apply safe_query
  intro db5 relied5 _
  have since : Later db db5 :=
    (((relied1.1.trans relied2.1).trans relied3.1).trans relied4.1).trans relied5.1
  apply Discipline.safe_commit
  · intro db6 relied6 books db7 done
    obtain ⟨kept, guaranteed⟩ :=
      (Signs.of_beside books (upsertRollup_beside done)).guar (m := .other) strict
    exact ⟨kept, guaranteed, rest db7 ((since.trans relied6.1).trans guaranteed.1)⟩
  · exact fun db' => guar_self strict .other db'

theorem safe_counting (ids : ClosingIds) (dto : RecordCountDto) (day : Day)
    (target : ChannelRow) (closingId : Id) (db : Db) (unlocked : strict → Unlocked closingId db) :
    (discipline strict).Safe (countChannel ctx ids dto day target closingId) db := by
  unfold countChannel
  apply safe_query
  intro db1 relied1 _
  have held1 : strict → Unlocked closingId db1 := fun isolation =>
    relied1.2 isolation (unlocked isolation)
  apply Discipline.safe_commit
  · intro db2 relied2 books db3 done
    have counts : Counts closingId db2 db3 := by
      apply writeCount_counts ?_ done
      intro count found
      have member := List.mem_of_find?_eq_some found
      have matched := List.find?_some found
      simp only [decide_eq_true_eq] at matched
      obtain ⟨current, stored, own⟩ := relied2.1.count count.id count
        ((Table.find?_some _ _ _).mpr ⟨member, rfl⟩)
      exact ⟨current, stored, own.trans matched.2.1⟩
    obtain ⟨kept, guaranteed⟩ := (Signs.of_beside (m := .count closingId) books ⟨rfl, rfl⟩
      : Signs (.count closingId) db2 db2).guar_counts strict counts (by
        intro isolation closing found locked
        obtain ⟨other, stored, open'⟩ := relied2.2 isolation (held1 isolation)
        rw [found] at stored
        cases stored
        exact open' locked)
    refine ⟨kept, guaranteed, ?_⟩
    apply safe_openView
    intro db4 view
    apply Discipline.safe_commit
    · intro db5 _ books' db6 done'
      obtain ⟨closing, stored, checked, equal⟩ := moveClosing_ok done'
      have open' : closing.status ≠ .locked := by
        intro already
        have tied := books'.checked closing (Table.mem_of_find? _ _ _ stored)
        rw [already, ← checked] at tied
        revert tied
        simp only [moved]
        split <;> simp
      have signs : Signs .other db5 db6 :=
        .of_update (f := moved ctx _) books' stored open' (fun _ => ⟨rfl, rfl⟩) checked (by
          simp only [moved]
          split <;> simp) equal
      obtain ⟨kept', guaranteed'⟩ := signs.guar strict
      refine ⟨kept', guaranteed', ?_⟩
      apply safe_openView
      intro db7 after
      trivial
    · exact fun db' => guar_self strict .other db'
  · exact fun db' => guar_self strict _ db'

theorem safe_recordCount (ids : ClosingIds) (dto : RecordCountDto) (db : Db) :
    (discipline strict).Safe (recordCount ctx ids dto) db := by
  unfold recordCount
  apply Discipline.safe_expect
  intro branchId _
  apply Discipline.safe_liftExcept
  intro _ _
  apply safe_query
  intro db1 _ _
  apply Discipline.safe_require
  intro notLocked
  rcases found : findClosing db1 ctx.companyId branchId (dto.date.getD ctx.today) with _ | closing
  · apply safe_expectedChannels
    intro db2 rows _
    apply Discipline.safe_expect
    intro target _
    apply Discipline.safe_require
    intro _
    unfold holdClosing
    rw [Prog.bind_assoc]
    apply Discipline.safe_commit
    · intro db3 _ books db4 done
      have signs : Signs .other db3 db4 := .of_insert books (fun locked => by cases locked) done
      obtain ⟨kept, guaranteed⟩ := signs.guar strict
      refine ⟨kept, guaranteed, ?_⟩
      apply safe_counting
      intro _
      obtain ⟨-, -, table, inserted, rfl⟩ := insertClosing_ok done
      refine ⟨countingDay ctx.companyId branchId (dto.date.getD ctx.today) ids.closing, ?_, ?_⟩
      · show table.find? _ = _
        rw [Table.find?_insert _ _ _ inserted]
        exact if_pos rfl
      · intro locked
        cases locked
    · exact fun db' => guar_self strict .other db'
  · have open' : closing.status ≠ .locked := by
      intro already
      exact notLocked (by rw [found, Option.map_some, already])
    have unlocked : Unlocked closing.id db1 :=
      ⟨closing, (Table.find?_some _ _ _).mpr ⟨List.mem_of_find?_eq_some found, rfl⟩, open'⟩
    apply safe_expectedChannels
    intro db2 rows relied
    apply Discipline.safe_expect
    intro target _
    apply Discipline.safe_require
    intro _
    exact safe_counting strict ctx ids dto _ target closing.id db2
      (fun isolation => relied.2 isolation unlocked)

/-- What `close` still knows of the closing it read when it comes to write. -/
def Remembers (branchId : Id) (day : Day)
    (already : Option (DailyClosing × List ClosingChannelCount)) (db : Db) : Prop :=
  ∀ closing counts, already = some (closing, counts) →
    (∃ current, db.dailyClosings.find? closing.id = some current ∧
      current.branchId = branchId ∧ current.closingDate = day) ∧
    ∀ count ∈ counts, ∃ current, db.closingChannelCounts.find? count.id = some current ∧
      current.closingId = closing.id

theorem Remembers.later {branchId : Id} {day : Day}
    {already : Option (DailyClosing × List ClosingChannelCount)} {db db' : Db}
    (remembers : Remembers branchId day already db) (later : Later db db') :
    Remembers branchId day already db' := by
  intro closing counts read
  obtain ⟨⟨current, found, branch, date⟩, each⟩ := remembers closing counts read
  refine ⟨?_, ?_⟩
  · obtain ⟨current', found', branch', date', -⟩ := later.closing closing.id current found
    exact ⟨current', found', branch'.trans branch, date'.trans date⟩
  · intro count member
    obtain ⟨own, stored, belongs⟩ := each count member
    obtain ⟨own', stored', belongs'⟩ := later.count count.id own stored
    exact ⟨own', stored', belongs'.trans belongs⟩

theorem remembers_read (companyId branchId : Id) (day : Day) (db : Db) :
    Remembers branchId day (closingWithCounts db companyId branchId day) db := by
  intro closing counts read
  obtain ⟨row, found, same⟩ := Option.map_eq_some_iff.mp read
  cases same
  have matched := List.find?_some found
  simp only [decide_eq_true_eq] at matched
  refine ⟨⟨closing, (Table.find?_some _ _ _).mpr ⟨List.mem_of_find?_eq_some found, rfl⟩,
    matched.1, matched.2.1⟩, ?_⟩
  intro count member
  obtain ⟨present, own⟩ := (Table.mem_filter _ _ _).mp member
  exact ⟨count, (Table.find?_some _ _ _).mpr ⟨present, rfl⟩, by simpa using own⟩

theorem writeClosing_guar {ctx : Ctx} {ids : ClosingIds} {branchId : Id} {day : Day}
    {sheet : Sheet} {db db' : Db} {closingId : Id} (books : Books db)
    (remembers : Remembers branchId day sheet.already db)
    (done : writeClosing ctx ids branchId day sheet db = .ok (db', closingId)) :
    (discipline strict).inv db' ∧ (discipline strict).guar (.lock branchId day) db db' := by
  obtain ⟨signed, first, rest⟩ := (except_bind_ok _ _ _).mp done
  obtain ⟨frozen, second, rest⟩ := (except_bind_ok _ _ _).mp rest
  obtain ⟨opened, third, rest⟩ := (except_bind_ok _ _ _).mp rest
  obtain ⟨digested, fourth, rest⟩ := (except_bind_ok _ _ _).mp rest
  obtain ⟨listed, fifth, equal⟩ := (except_bind_ok _ _ _).mp rest
  obtain rfl : listed = db' := congrArg Prod.fst (Except.ok.inj equal)
  have beside : Beside frozen listed :=
    ((openDiscrepancies_beside _ _ _ _ _ _ _ _ third).trans (insertDigest_beside fourth)).trans
      (insertDigestLines_beside _ _ _ _ _ _ _ fifth)
  rcases sheet with ⟨already, snapshot, channels, lines⟩
  cases already with
  | none =>
      have signs : Signs (.lock branchId day) db signed :=
        .of_insert books (fun _ => rfl) first
      have counts := (freezeChannels_counts _ _ _ _ _ _ _ _
        (fun _ member => by cases member) second).trans (.of_eq beside.1 beside.2)
      apply signs.guar_counts strict counts
      intro _ closing found
      obtain ⟨-, -, table, inserted, -⟩ := insertClosing_ok first
      obtain ⟨-, fresh⟩ := Table.insert?_some _ _ _ inserted
      exact absurd (Table.key_of_find? _ _ _ found)
        (fresh closing (Table.mem_of_find? _ _ _ found))
  | some found =>
      obtain ⟨closing, counted⟩ := found
      obtain ⟨current, stored, open', equal⟩ := lockClosing_ok first
      obtain ⟨⟨row, found, branch, date⟩, each⟩ := remembers closing counted rfl
      rw [stored] at found
      cases found
      have signs : Signs (.lock branchId day) db signed :=
        .of_update (f := relocked ctx snapshot) books stored open' (fun _ => ⟨rfl, rfl⟩) rfl
          (fun _ => by rw [branch, date]) equal
      have counts := (freezeChannels_counts _ _ _ _ _ _ _ _ (by
        intro count member
        rw [signs.counts]
        exact each count member) second).trans (.of_eq beside.1 beside.2)
      apply signs.guar_counts strict counts
      intro _ other present
      rw [show db.dailyClosings.find? closing.id = some other from present] at stored
      cases stored
      exact open'

theorem safe_close (ids : ClosingIds) (dto : CreateClosingDto) (db : Db) :
    (discipline strict).Safe (close ctx ids dto) db := by
  unfold close
  apply Discipline.safe_expect
  intro branchId _
  apply safe_query
  intro db1 _ _
  have read1 := remembers_read ctx.companyId branchId (dto.date.getD ctx.today) db1
  apply Discipline.safe_require
  intro _
  apply safe_recomputeDaily
  intro db2 later2
  apply safe_query
  intro db3 relied3 _
  apply safe_query
  intro db4 relied4 _
  apply safe_query
  intro db5 relied5 _
  apply Discipline.safe_liftExcept
  intro counted _
  apply safe_query
  intro db6 relied6 _
  apply safe_expectedChannels
  intro db7 rows relied7
  have since : Later db1 db7 := ((((later2.trans relied3.1).trans relied4.1).trans
    relied5.1).trans relied6.1).trans relied7.1
  apply Discipline.safe_transact
  · intro db8 relied8 books db9 closingId done
    obtain ⟨kept, guaranteed⟩ := writeClosing_guar strict books
      (read1.later (since.trans relied8.1)) done
    exact ⟨kept, guaranteed, trivial⟩
  · exact fun db' => guar_self strict _ db'

theorem safe_request (p : Request Unit) (issued : IsRequest p) (db : Db) :
    (discipline strict).Safe p db := by
  cases issued with
  | recordCount ctx ids dto =>
      exact (discipline strict).safe_void db _ (safe_recordCount strict ctx ids dto db)
  | close ctx ids dto =>
      exact (discipline strict).safe_void db _ (safe_close strict ctx ids dto db)

end Safety

theorem frame (strict : Prop) (allowed : Db → Mark → Mark → Prop)
    (isolation : strict → ∀ db m m', allowed db m m' → isolated db m m') (db : Db)
    (m m' : Mark) (db' : Db) (permitted : allowed db m m') (_ : (discipline strict).inv db)
    (guaranteed : (discipline strict).guar m db db') : (discipline strict).rely m' db db' :=
  ⟨guaranteed.1, fun asked =>
    Held.of_locks (isolation asked db m m' permitted) guaranteed.1 guaranteed.2.1⟩

theorem run_sound (strict : Prop) (allowed : Db → Mark → Mark → Prop)
    (isolation : strict → ∀ db m m', allowed db m m' → isolated db m m')
    (c c' : Config Db Mark Refusal Unit) (run : Run IsRequest allowed c c')
    (sound : (discipline strict).Sound c) : (discipline strict).Sound c' :=
  (discipline strict).run_sound IsRequest allowed
    (fun p issued s _ => safe_request strict p issued s) (frame strict allowed isolation)
    c c' run sound

/-- From a sound configuration on, a signed-off closing keeps its row, and under the
isolation its counts. -/
theorem run_keeps (strict : Prop) (allowed : Db → Mark → Mark → Prop)
    (isolation : strict → ∀ db m m', allowed db m m' → isolated db m m')
    (c c' : Config Db Mark Refusal Unit) (run : Run IsRequest allowed c c')
    (sound : (discipline strict).Sound c) (id : Id) (closing : DailyClosing)
    (found : c.store.dailyClosings.find? id = some closing) (locked : closing.status = .locked) :
    c'.store.dailyClosings.find? id = some closing ∧
      (strict → countsOf c'.store id = countsOf c.store id) := by
  induction run with
  | refl => exact ⟨found, fun _ => rfl⟩
  | @tail middle last before taken ih =>
      obtain ⟨stored, counts⟩ := ih
      have between := run_sound strict allowed isolation c middle before sound
      cases taken with
      | arrive s inFlight p issued => exact ⟨stored, counts⟩
      | advance s before after m write next others =>
          obtain ⟨later, -, sealing⟩ := between.guar
          obtain ⟨closing', found', -, -, same⟩ := later.closing id closing stored
          have equal := same locked
          subst equal
          exact ⟨found', fun asked =>
            (sealing asked id closing' stored locked).trans (counts asked)⟩

/-- In every interleaving a signed-off day keeps its closing with every figure on it. In
every interleaving where nobody signs a day off while a count that holds it open is still
to be written, the counts of its channels stay too. -/
theorem closed_day_stays (db : Db) (books : Books db) (c c' : Config Db Mark Refusal Unit)
    (companyId branchId : Id) (day : Day) (closing : DailyClosing)
    (found : findClosing c.store companyId branchId day = some closing)
    (locked : closing.status = .locked) :
    (Run IsRequest anyOrder (.idle db) c → Run IsRequest anyOrder c c' →
      findClosing c'.store companyId branchId day = some closing) ∧
    (Run IsRequest isolated (.idle db) c → Run IsRequest isolated c c' →
      findClosing c'.store companyId branchId day = some closing ∧
        countsOf c'.store closing.id = countsOf c.store closing.id) := by
  have keeps : ∀ (strict : Prop) (allowed : Db → Mark → Mark → Prop),
      (strict → ∀ db m m', allowed db m m' → isolated db m m') →
      Run IsRequest allowed (.idle db) c → Run IsRequest allowed c c' →
      findClosing c'.store companyId branchId day = some closing ∧
        (strict → countsOf c'.store closing.id = countsOf c.store closing.id) := by
    intro strict allowed isolation before after
    have sound := run_sound strict allowed isolation _ c before
      ((discipline strict).sound_idle db books)
    have sound' := run_sound strict allowed isolation c c' after sound
    obtain ⟨member, branch, date, company⟩ := (findClosing_some sound.1 closing).mp found
    obtain ⟨kept, counts⟩ := run_keeps strict allowed isolation c c' after sound closing.id
      closing ((Table.find?_some _ _ _).mpr ⟨member, rfl⟩) locked
    exact ⟨(findClosing_some sound'.1 closing).mpr
      ⟨Table.mem_of_find? _ _ _ kept, branch, date, company⟩, counts⟩
  constructor
  · intro before after
    exact (keeps False anyOrder (fun absurd => absurd.elim) before after).1
  · intro before after
    obtain ⟨stays, counts⟩ := keeps True isolated (fun _ _ _ _ allowed => allowed) before after
    exact ⟨stays, counts trivial⟩

def till : Ctx where
  companyId := 10
  branchId := some 1
  userId := some 7
  now := 1000

def keys (base : Id) : ClosingIds where
  closing := base
  count := fun index => base + 10 + index
  rollup := base + 1
  discrepancy := fun index => base + 20 + index
  digest := base + 2
  line := fun index => base + 30 + index

def countDrawer (base : Id) : Request Unit :=
  (recordCount till (keys base)
    { channel := .cash, counted := some ⟨5000, by decide⟩ }).void

def signDay : Request Unit :=
  (close till (keys 200) { countedCash := some ⟨5000, by decide⟩ }).void

/-- The count has opened the day's closing and is still to write; the day is signed off. -/
def signedWhileCounting : List (Move Db Mark Refusal Unit) :=
  [.arrive (countDrawer 100)] ++ List.replicate 4 (.advance 0) ++
  [.arrive signDay] ++ List.replicate 14 (.advance 1)

/-- The count is written and the day moved on before it is signed off; another count
arrives after. -/
def signedAfterCounting : List (Move Db Mark Refusal Unit) :=
  [.arrive (countDrawer 100)] ++ List.replicate 13 (.advance 0) ++
  [.arrive signDay] ++ List.replicate 14 (.advance 1) ++ [.arrive (countDrawer 300)]

private theorem drawer_requests (p : Request Unit)
    (member : .arrive p ∈ signedWhileCounting ∨ .arrive p ∈ signedAfterCounting) :
    IsRequest p := by
  simp only [signedWhileCounting, signedAfterCounting, List.mem_append, List.mem_cons,
    List.not_mem_nil, List.mem_replicate, Move.arrive.injEq, reduceCtorEq, and_false,
    or_false] at member
  rcases member with (rfl | rfl) | (rfl | rfl) | rfl
  · exact .recordCount _ _ _
  · exact .close _ _ _
  · exact .recordCount _ _ _
  · exact .close _ _ _
  · exact .recordCount _ _ _

theorem books_empty : Books {} where
  checked _ member := by cases member
  daily := List.nodup_nil

theorem count_lands_on_signed_day :
    ¬ ∀ (db : Db) (c c' : Config Db Mark Refusal Unit) (companyId branchId : Id) (day : Day)
      (closing : DailyClosing), Books db → Run IsRequest anyOrder (.idle db) c →
      findClosing c.store companyId branchId day = some closing → closing.status = .locked →
      Run IsRequest anyOrder c c' →
        findClosing c'.store companyId branchId day = some closing ∧
          countsOf c'.store closing.id = countsOf c.store closing.id := by
  intro claim
  have before := schedule_run IsRequest anyOrder (Config.idle {}) signedWhileCounting
    (fun p member => drawer_requests p (.inl member)) (admits_anyOrder _ _)
  have after := schedule_run IsRequest anyOrder
    ((Config.idle {}).schedule signedWhileCounting) [.advance 0, .advance 0]
    (fun p member => by simp at member) (admits_anyOrder _ _)
  have signed : (findClosing ((Config.idle {}).schedule signedWhileCounting).store 10 1 0).map
      (fun closing => (closing.id, closing.status)) = some (100, .locked) := by decide
  obtain ⟨closing, found, same⟩ := Option.map_eq_some_iff.mp signed
  obtain ⟨id, locked⟩ := Prod.mk.inj same
  have kept := (claim {} _ _ 10 1 0 closing books_empty before found locked after).2
  rw [id] at kept
  have counted : (countsOf ((Config.idle {}).schedule signedWhileCounting).store 100).map
      ClosingChannelCount.counted = [none] := by decide
  have recounted : (countsOf (((Config.idle {}).schedule signedWhileCounting).schedule
      [.advance 0, .advance 0]).store 100).map ClosingChannelCount.counted =
        [some 5000] := by decide
  rw [kept, counted] at recounted
  cases recounted

theorem closed_day_stays_counted :
    Books {} ∧ (Config.idle {}).Admits isolated signedAfterCounting ∧
      ∃ closing, findClosing ((Config.idle {}).schedule signedAfterCounting).store 10 1 0 =
          some closing ∧ closing.status = .locked ∧
        findClosing (((Config.idle {}).schedule signedAfterCounting).schedule
          [.advance 2]).store 10 1 0 = some closing ∧
        countsOf (((Config.idle {}).schedule signedAfterCounting).schedule
          [.advance 2]).store closing.id =
          countsOf ((Config.idle {}).schedule signedAfterCounting).store closing.id := by
  have admitted : (Config.idle {}).Admits isolated signedAfterCounting := by decide
  have before := schedule_run IsRequest isolated (Config.idle {}) signedAfterCounting
    (fun p member => drawer_requests p (.inr member)) admitted
  have after := schedule_run IsRequest isolated
    ((Config.idle {}).schedule signedAfterCounting) [.advance 2]
    (fun p member => by simp at member) (by decide)
  have signed : (findClosing ((Config.idle {}).schedule signedAfterCounting).store 10 1 0).map
      DailyClosing.status = some .locked := by decide
  obtain ⟨closing, found, locked⟩ := Option.map_eq_some_iff.mp signed
  obtain ⟨stays, counts⟩ := (closed_day_stays {} books_empty _ _ 10 1 0 closing found locked).2
    before after
  exact ⟨books_empty, admitted, closing, found, locked, stays, counts⟩

end ErpBackend.Closing
