import ErpBackend.Consignment.Lifecycle

/-!
# What an accepted request changes

Each commit touches one consignment: its row, its lines and its ledger. The
lemmas here say how, and that everything about the other consignments stays.
-/

namespace ErpBackend.Consignments

open Foundation

/-- Everything about the consignments other than `id` is as before. -/
structure Elsewhere (db db' : Db) (id : Id) : Prop where
  consignments : ∀ other, other ≠ id →
    db'.consignments.find? other = db.consignments.find? other
  lines : ∀ other, other ≠ id → linesOf db' other = linesOf db other
  ledger : ∀ other, other ≠ id → ledgerOf db' other = ledgerOf db other

theorem linesOf_modify (t : Table ConsignmentLine ConsignmentLine.id)
    (p : ConsignmentLine → Bool) (f : ConsignmentLine → ConsignmentLine)
    (keep : ∀ line, (f line).id = line.id)
    (parent : ∀ line, (f line).consignmentId = line.consignmentId) (id : Id) :
    (t.modify p f keep).filter (fun line => line.consignmentId = id) =
      (t.filter (fun line => line.consignmentId = id)).map
        (fun line => if p line then f line else line) :=
  t.filter_modify p f keep _ (fun line => by rw [parent])

theorem swapConsignment_ok (db db' : Db) (c : Consignment) (f : Consignment → Consignment)
    (keep : ∀ c, (f c).id = c.id) (message : String)
    (swapped : swapConsignment db c f keep message = .ok db') :
    db' = { db with consignments := db.consignments.update c.id f keep } := by
  unfold swapConsignment at swapped
  split at swapped
  · cases swapped
  · next consignments moved =>
    obtain ⟨-, -, -, rfl⟩ := (db.consignments.swap?_some consignments c.id _ f keep).mp moved
    cases swapped
    rfl

variable (db : Db)

variable (c : Consignment)

variable (f : Consignment → Consignment)

theorem swapConsignment_of (keep : ∀ c, (f c).id = c.id) (message : String)
    (found : db.consignments.find? c.id = some c) :
    swapConsignment db c f keep message =
      .ok { db with consignments := db.consignments.update c.id f keep } := by
  have moved := (db.consignments.swap?_some (db.consignments.update c.id f keep) c.id
    (fun other => other.version = c.version ∧ other.status = c.status) f keep).mpr
    ⟨c, found, by simp, rfl⟩
  unfold swapConsignment
  rw [moved]

theorem insertEntry_ok (db db' : Db) (entry : ConsignmentLedgerEntry)
    (done : insertEntry db entry = .ok db') :
    0 < entry.amount ∧ db.consignments.find? entry.consignmentId ≠ none ∧
      ∃ ledger, db' = { db with consignmentLedger := ledger } ∧
        ledger.rows = db.consignmentLedger.rows ++ [entry] := by
  unfold insertEntry at done
  split_ifs at done with amount _ present _
  split at done
  · cases done
  · next ledger inserted =>
    cases done
    obtain ⟨rows, -⟩ := db.consignmentLedger.insert?_some ledger entry inserted
    exact ⟨by omega, present, ledger, rfl, rows⟩

theorem ledgerOf_append (db db' : Db) (entry : ConsignmentLedgerEntry)
    (rows : db'.consignmentLedger.rows = db.consignmentLedger.rows ++ [entry]) (id : Id) :
    ledgerOf db' id = ledgerOf db id ++ (if entry.consignmentId = id then [entry] else []) := by
  unfold ledgerOf Table.filter
  rw [rows, List.filter_append]
  congr 1
  by_cases same : entry.consignmentId = id
  · simp [same]
  · simp [same]

theorem owed_append (db db' : Db) (entry : ConsignmentLedgerEntry)
    (rows : db'.consignmentLedger.rows = db.consignmentLedger.rows ++ [entry]) :
    owed db' entry.consignmentId =
      owed db entry.consignmentId + balanceEffect entry.kind * entry.amount := by
  unfold owed outstanding ledgerRows
  rw [ledgerOf_append db db' entry rows, if_pos rfl]
  simp [LedgerRow.effect]

theorem elsewhere_append (db db' : Db) (entry : ConsignmentLedgerEntry)
    (ledger : Table ConsignmentLedgerEntry ConsignmentLedgerEntry.id)
    (equal : db' = { db with consignmentLedger := ledger })
    (rows : ledger.rows = db.consignmentLedger.rows ++ [entry]) :
    Elsewhere db db' entry.consignmentId := by
  subst equal
  refine ⟨fun _ _ => rfl, fun _ _ => rfl, fun other apart => ?_⟩
  rw [ledgerOf_append db _ entry rows, if_neg (Ne.symm apart), List.append_nil]

theorem Elsewhere.trans {db db' db'' : Db} {id : Id} (first : Elsewhere db db' id)
    (second : Elsewhere db' db'' id) : Elsewhere db db'' id :=
  ⟨fun other apart => (second.consignments other apart).trans (first.consignments other apart),
    fun other apart => (second.lines other apart).trans (first.lines other apart),
    fun other apart => (second.ledger other apart).trans (first.ledger other apart)⟩

theorem elsewhere_update (id : Id) (f : Consignment → Consignment)
    (keep : ∀ c, (f c).id = c.id) :
    Elsewhere db { db with consignments := db.consignments.update id f keep } id :=
  ⟨fun other apart => by
      change (db.consignments.update id f keep).find? other = _
      rw [db.consignments.find?_update, if_neg apart],
    fun _ _ => rfl, fun _ _ => rfl⟩

theorem elsewhere_lines (id : Id) (p : ConsignmentLine → Bool)
    (f : ConsignmentLine → ConsignmentLine) (keep : ∀ line, (f line).id = line.id)
    (parent : ∀ line, (f line).consignmentId = line.consignmentId)
    (own : ∀ line ∈ db.consignmentLines.rows, p line = true → line.consignmentId = id) :
    Elsewhere db { db with consignmentLines := db.consignmentLines.modify p f keep } id := by
  refine ⟨fun _ _ => rfl, fun other apart => ?_, fun _ _ => rfl⟩
  refine db.consignmentLines.filter_modify_of_disjoint p f keep _
    (fun line => by rw [parent]) ?_
  intro line present touched
  rw [decide_eq_false_iff_not, own line present touched]
  exact Ne.symm apart

theorem elsewhere_units (id : Id) (units : Table StockUnit StockUnit.id) :
    Elsewhere db { db with units } id :=
  ⟨fun _ _ => rfl, fun _ _ => rfl, fun _ _ => rfl⟩

theorem closeLines_eq (f : ConsignmentLine → ConsignmentLine)
    (keepLine : ∀ line, (f line).id = line.id) (g : StockUnit → StockUnit)
    (keepUnit : ∀ unit, (g unit).id = unit.id) (again : ∀ line, f (f line) = f line)
    (leaves : ∀ unit, (g unit).status ≠ .consignedOut) (db : Db)
    (lines : List ConsignmentLine) :
    closeLines f keepLine g keepUnit db lines =
      { db with
        units := db.units.modify (fun unit =>
          unit.id ∈ lines.map ConsignmentLine.unitId ∧ unit.status = .consignedOut) g keepUnit
        consignmentLines := db.consignmentLines.modify
          (fun line => line.id ∈ lines.map ConsignmentLine.id) f keepLine } := by
  induction lines generalizing db with
  | nil =>
      have units : db.units.modify (fun unit =>
          unit.id ∈ ([] : List Id) ∧ unit.status = .consignedOut) g keepUnit = db.units :=
        db.units.modify_of_none _ _ _ (fun unit _ => by simp)
      have lines : db.consignmentLines.modify
          (fun line => line.id ∈ ([] : List Id)) f keepLine = db.consignmentLines :=
        db.consignmentLines.modify_of_none _ _ _ (fun line _ => by simp)
      simp only [closeLines, List.foldl_nil, List.map_nil, units, lines]
  | cons line rest ih =>
      have unfolded : closeLines f keepLine g keepUnit db (line :: rest) =
          closeLines f keepLine g keepUnit (closeLine f keepLine g keepUnit db line) rest := rfl
      rw [unfolded, ih]
      unfold closeLine Table.update
      congr 1
      · apply Table.modify_modify
        intro unit
        by_cases out : unit.status = .consignedOut
        · by_cases first : unit.id = line.unitId
          · simp [out, first, leaves]
          · simp [out, first]
        · simp [out]
      · apply Table.modify_modify
        intro other
        by_cases first : other.id = line.id
        · simp [first, again, keepLine]
        · simp [first]

theorem find?_updated (keep : ∀ c, (f c).id = c.id) (found : db.consignments.find? c.id = some c) :
    (db.consignments.update c.id f keep).find? c.id = some (f c) := by
  rw [db.consignments.find?_update, if_pos rfl, found]
  rfl

/-- The row, the lines and the ledger of `id` after a commit. -/
structure Becomes (db db' : Db) (id : Id) (c' : Consignment) (lines : List ConsignmentLine)
    (ledger : List ConsignmentLedgerEntry) : Prop where
  elsewhere : Elsewhere db db' id
  found : db'.consignments.find? id = some c'
  lines : linesOf db' id = lines
  ledger : ledgerOf db' id = ledger

theorem elsewhere_close (lines : List ConsignmentLine) (id : Id)
    (f : ConsignmentLine → ConsignmentLine) (keep : ∀ line, (f line).id = line.id)
    (parent : ∀ line, (f line).consignmentId = line.consignmentId)
    (units : Table StockUnit StockUnit.id) (own : ∀ line ∈ lines, line ∈ linesOf db id) :
    Elsewhere db
      { db with
        units
        consignmentLines := db.consignmentLines.modify
          (fun line => line.id ∈ lines.map ConsignmentLine.id) f keep } id := by
  refine (elsewhere_units db id units).trans
    (elsewhere_lines { db with units } id _ f keep parent ?_)
  intro line present selected
  obtain ⟨named, member, same⟩ := List.mem_map.mp (of_decide_eq_true selected)
  obtain ⟨namedPresent, namedParent⟩ := (Table.mem_filter _ _ _).mp (own named member)
  have equal := db.consignmentLines.key_injective named line namedPresent present same
  rw [← equal]
  exact of_decide_eq_true namedParent

theorem closeLines_becomes (lines : List ConsignmentLine)
    (f : ConsignmentLine → ConsignmentLine) (keepLine : ∀ line, (f line).id = line.id)
    (g : StockUnit → StockUnit) (keepUnit : ∀ unit, (g unit).id = unit.id)
    (again : ∀ line, f (f line) = f line) (leaves : ∀ unit, (g unit).status ≠ .consignedOut)
    (parent : ∀ line, (f line).consignmentId = line.consignmentId)
    (found : db.consignments.find? c.id = some c) (own : ∀ line ∈ lines, line ∈ linesOf db c.id) :
    Becomes db (closeLines f keepLine g keepUnit db lines) c.id c
      ((linesOf db c.id).map (fun line =>
        if line.id ∈ lines.map ConsignmentLine.id then f line else line))
      (ledgerOf db c.id) := by
  rw [closeLines_eq f keepLine g keepUnit again leaves]
  exact ⟨elsewhere_close db lines c.id f keepLine parent _ own, found,
    (linesOf_modify db.consignmentLines _ f keepLine parent c.id).trans (by
      apply List.map_congr_left
      intro line _
      simp only [decide_eq_true_eq]), rfl⟩

theorem Becomes.trans {db db' db'' : Db} {id : Id} {c' c'' : Consignment}
    {lines lines' : List ConsignmentLine} {ledger ledger' : List ConsignmentLedgerEntry}
    (first : Becomes db db' id c' lines ledger) (second : Becomes db' db'' id c'' lines' ledger') :
    Becomes db db'' id c'' lines' ledger' :=
  ⟨first.elsewhere.trans second.elsewhere, second.found, second.lines, second.ledger⟩

theorem Becomes.congrLines {db db' : Db} {id : Id} {c' : Consignment}
    {lines lines' : List ConsignmentLine} {ledger : List ConsignmentLedgerEntry}
    (becomes : Becomes db db' id c' lines ledger) (same : lines = lines') :
    Becomes db db' id c' lines' ledger :=
  same ▸ becomes

theorem update_becomes (keep : ∀ c, (f c).id = c.id) (found : db.consignments.find? c.id = some c) :
    Becomes db { db with consignments := db.consignments.update c.id f keep } c.id (f c)
      (linesOf db c.id) (ledgerOf db c.id) :=
  ⟨elsewhere_update db c.id f keep, find?_updated db c f keep found, rfl, rfl⟩

def lineDecided (dto : DecideConsignmentDto) (offer : Int) (next : ConsignmentStatus)
    (line : ConsignmentLine) : ConsignmentLine :=
  let released := if next = .cancelled ∧ line.open = true then
    { line with status := .cancelled } else line
  if dto.action = .accept ∧ released.status = .proposed then
    { released with agreedAmount := some offer } else released

theorem closeLines_filter_becomes (p : ConsignmentLine → Bool)
    (f : ConsignmentLine → ConsignmentLine) (keepLine : ∀ line, (f line).id = line.id)
    (g : StockUnit → StockUnit) (keepUnit : ∀ unit, (g unit).id = unit.id)
    (again : ∀ line, f (f line) = f line) (leaves : ∀ unit, (g unit).status ≠ .consignedOut)
    (parent : ∀ line, (f line).consignmentId = line.consignmentId)
    (found : db.consignments.find? c.id = some c) :
    Becomes db (closeLines f keepLine g keepUnit db ((linesOf db c.id).filter p)) c.id c
      ((linesOf db c.id).map (fun line => if p line = true then f line else line))
      (ledgerOf db c.id) := by
  have closed := closeLines_becomes db c ((linesOf db c.id).filter p) f keepLine g keepUnit
    again leaves parent found (fun line member => (List.mem_filter.mp member).1)
  refine closed.congrLines ?_
  apply List.map_congr_left
  intro line member
  have selected : line.id ∈ ((linesOf db c.id).filter p).map ConsignmentLine.id ↔
      p line = true := by
    constructor
    · intro named
      obtain ⟨other, present, equal⟩ := List.mem_map.mp named
      obtain ⟨otherMember, holds⟩ := List.mem_filter.mp present
      have inTable := ((Table.mem_filter _ _ _).mp member).1
      have otherInTable := ((Table.mem_filter _ _ _).mp otherMember).1
      rw [← db.consignmentLines.key_injective other line otherInTable inTable equal]
      exact holds
    · intro holds
      exact List.mem_map.mpr ⟨line, List.mem_filter.mpr ⟨member, holds⟩, rfl⟩
  simp only [selected]

theorem releaseUnits_becomes (found : db.consignments.find? c.id = some c) :
    Becomes db (releaseUnits db c.id) c.id c
      ((linesOf db c.id).map (fun line =>
        if line.open = true then { line with status := .cancelled } else line))
      (ledgerOf db c.id) :=
  closeLines_filter_becomes db c ConsignmentLine.open
    (fun line => { line with status := .cancelled }) (fun _ => rfl)
    (fun unit => { unit with status := .inStock }) (fun _ => rfl) (fun _ => rfl)
    (fun _ => by simp) (fun _ => rfl) found

theorem agreeLines_becomes (offer : Int)
    (found : db.consignments.find? c.id = some c) :
    Becomes db (agreeLines db c.id offer) c.id c
      ((linesOf db c.id).map (fun line =>
        if line.status = .proposed then { line with agreedAmount := some offer } else line))
      (ledgerOf db c.id) := by
  refine ⟨elsewhere_lines db c.id _ _ _ (fun _ => rfl) ?_, found, ?_, rfl⟩
  · intro line _ selected
    exact (of_decide_eq_true selected).1
  · refine (linesOf_modify db.consignmentLines
      (fun line => line.consignmentId = c.id ∧ line.status = .proposed)
      (fun line => { line with agreedAmount := some offer }) (fun _ => rfl)
      (fun _ => rfl) c.id).trans ?_
    apply List.map_congr_left
    intro line member
    have parent := of_decide_eq_true ((Table.mem_filter _ _ _).mp member).2
    simp [parent]

variable (ctx : Ctx)

theorem decide_becomes (dto : DecideConsignmentDto) (c : Consignment)
    (next : ConsignmentStatus) (db db' : Db) (found : db.consignments.find? c.id = some c)
    (committed : commitDecision ctx dto c next db = .ok db') :
    Becomes db db' c.id (decided ctx dto c next c)
      ((linesOf db c.id).map (lineDecided dto (offered c) next)) (ledgerOf db c.id) := by
  unfold commitDecision at committed
  split at committed
  · cases committed
  · next swapped moved =>
    have equal := swapConsignment_ok db swapped c _ _ _ moved
    cases committed
    have first := update_becomes db c (decided ctx dto c next) (decided_id ctx dto c next) found
    rw [← equal] at first
    have second : Becomes swapped
        (if next = .cancelled then releaseUnits swapped c.id else swapped) c.id
        (decided ctx dto c next c)
        ((linesOf db c.id).map (fun line => if next = .cancelled ∧ line.open = true then
          { line with status := .cancelled } else line)) (ledgerOf db c.id) := by
      by_cases cancelled : next = .cancelled
      · have released := releaseUnits_becomes swapped (decided ctx dto c next c) first.found
        rw [decided_id, first.lines, first.ledger] at released
        simpa only [cancelled, if_true, true_and] using released
      · simp only [cancelled, if_false, false_and, List.map_id_fun', id]
        exact ⟨⟨fun _ _ => rfl, fun _ _ => rfl, fun _ _ => rfl⟩, first.found, first.lines,
          first.ledger⟩
    have both := first.trans second
    generalize released : (if next = .cancelled then releaseUnits swapped c.id else swapped) =
      reached at both
    by_cases accept : dto.action = .accept
    · have agreed := agreeLines_becomes reached (decided ctx dto c next c) (offered c) both.found
      rw [decided_id, both.lines, both.ledger, List.map_map] at agreed
      simp only [accept, if_true]
      refine (both.trans agreed).congrLines ?_
      apply List.map_congr_left
      intro line _
      simp [lineDecided, accept]
    · simp only [accept, if_false]
      refine both.congrLines ?_
      apply List.map_congr_left
      intro line _
      simp [lineDecided, accept]

theorem send_becomes (c : Consignment) (next : ConsignmentStatus) (db db' : Db)
    (found : db.consignments.find? c.id = some c)
    (committed : commitSend ctx c next db = .ok db') :
    Becomes db db' c.id (sent ctx next c) (linesOf db c.id) (ledgerOf db c.id) := by
  rw [swapConsignment_ok db db' c _ _ _ committed]
  exact update_becomes db c _ _ found

theorem receipt_becomes (c : Consignment) (next : ConsignmentStatus) (db db' : Db)
    (found : db.consignments.find? c.id = some c)
    (committed : commitReceipt ctx c next db = .ok db') :
    Becomes db db' c.id (received ctx next c)
      ((linesOf db c.id).map (fun line =>
        if line.status = .proposed then { line with status := .inCustody } else line))
      (ledgerOf db c.id) := by
  unfold commitReceipt at committed
  split at committed
  · cases committed
  · split at committed
    · cases committed
    · next swapped moved =>
      have first := update_becomes db c (received ctx next) (fun _ => by rfl) found
      rw [← swapConsignment_ok db swapped c _ _ _ moved] at first
      cases committed
      refine first.trans ⟨?_, first.found, ?_, first.ledger⟩
      · refine elsewhere_lines swapped c.id _ _ _ (fun _ => rfl) ?_
        intro line _ selected
        exact (of_decide_eq_true selected).1
      · refine (linesOf_modify swapped.consignmentLines
          (fun line => line.consignmentId = c.id ∧ line.status = .proposed)
          (fun line => { line with status := .inCustody }) (fun _ => rfl)
          (fun _ => rfl) c.id).trans ?_
        rw [← first.lines]
        apply List.map_congr_left
        intro line member
        have parent := of_decide_eq_true ((Table.mem_filter _ _ _).mp member).2
        simp [parent]

theorem entry_becomes (db db' : Db) (c : Consignment) (entry : ConsignmentLedgerEntry)
    (found : db.consignments.find? c.id = some c) (own : entry.consignmentId = c.id)
    (inserted : insertEntry db entry = .ok db') :
    Becomes db db' c.id c (linesOf db c.id) (ledgerOf db c.id ++ [entry]) := by
  obtain ⟨-, -, ledger, equal, rows⟩ := insertEntry_ok db db' entry inserted
  have apart := elsewhere_append db db' entry ledger equal rows
  rw [own] at apart
  refine ⟨apart, ?_, ?_, ?_⟩
  · rw [equal]
    exact found
  · rw [equal]
    rfl
  · rw [ledgerOf_append db db' entry (by rw [equal]; exact rows), if_pos own]

def lineSold (now : Time) (sold : List ConsignmentLine) (line : ConsignmentLine) :
    ConsignmentLine :=
  if line.id ∈ sold.map ConsignmentLine.id then
    { line with status := .sold, disposition := some .sold, disposedAt := some now } else line

theorem sold_becomes (fresh : Id) (c : Consignment) (next : ConsignmentStatus)
    (sold : List ConsignmentLine) (db db' : Db) (found : db.consignments.find? c.id = some c)
    (own : ∀ line ∈ sold, line ∈ linesOf db c.id)
    (committed : commitSold ctx fresh c next sold db = .ok db') :
    Becomes db db' c.id (advanced next c) ((linesOf db c.id).map (lineSold ctx.now sold))
      (ledgerOf db c.id ++ [entryFor ctx fresh c .receivableRaised (raised sold)]) := by
  unfold commitSold at committed
  split at committed
  · cases committed
  · next swapped moved =>
    have first := update_becomes db c (advanced next) (fun _ => by rfl) found
    rw [← swapConsignment_ok db swapped c _ _ _ moved] at first
    have second := closeLines_becomes swapped (advanced next c) sold
      (fun line =>
        { line with status := .sold, disposition := some .sold, disposedAt := some ctx.now })
      (fun _ => rfl) (fun unit => { unit with status := .sold, dateSold := some ctx.now })
      (fun _ => rfl) (fun _ => rfl) (fun _ => by simp) (fun _ => rfl) first.found
      (fun line member => by
        change line ∈ linesOf swapped c.id
        rw [first.lines]
        exact own line member)
    have third := entry_becomes _ db' (advanced next c) _ second.found rfl committed
    have all := (first.trans second).trans third
    have lines : linesOf swapped (advanced next c).id = linesOf db c.id := first.lines
    have ledger : ledgerOf swapped (advanced next c).id = ledgerOf db c.id := first.ledger
    rw [second.lines, second.ledger, lines, ledger] at all
    exact all

def lineReturned (now : Time) (dto : ReturnDto) (line : ConsignmentLine) : ConsignmentLine :=
  match dto.action, dto.condition with
  | .confirm, some condition =>
      if line.status = .inCustody then
        { line with
          status := .returned
          disposition := some (if condition = .damaged then .damaged else .returned)
          returnCondition := some condition
          returnNote := trimOrNull dto.note
          disposedAt := some now }
      else line
  | _, _ => line

theorem return_becomes (dto : ReturnDto) (c : Consignment)
    (next : ConsignmentStatus) (db db' : Db) (found : db.consignments.find? c.id = some c)
    (committed : commitReturn ctx dto c next db = .ok db') :
    Becomes db db' c.id (advanced next c)
      ((linesOf db c.id).map (lineReturned ctx.now dto)) (ledgerOf db c.id) := by
  unfold commitReturn at committed
  split at committed
  · cases committed
  · next swapped moved =>
    have first := update_becomes db c (advanced next) (fun _ => by rfl) found
    rw [← swapConsignment_ok db swapped c _ _ _ moved] at first
    have lines : linesOf swapped (advanced next c).id = linesOf db c.id := first.lines
    have ledger : ledgerOf swapped (advanced next c).id = ledgerOf db c.id := first.ledger
    split at committed
    · next condition action present =>
      have second := closeLines_filter_becomes swapped (advanced next c)
        (fun line => line.status = .inCustody)
        (fun line =>
          { line with
            status := .returned
            disposition := some (if condition = .damaged then .damaged else .returned)
            returnCondition := some condition
            returnNote := trimOrNull dto.note
            disposedAt := some ctx.now })
        (fun _ => rfl)
        (fun unit => { unit with status := if condition = .damaged then .faulty else .inStock })
        (fun _ => rfl) (fun _ => rfl) (fun _ => by cases condition <;> simp) (fun _ => rfl)
        first.found
      cases committed
      unfold returnLines
      rw [lines, ledger] at second
      rw [first.lines]
      refine (first.trans second).congrLines ?_
      apply List.map_congr_left
      intro line _
      simp only [lineReturned, action, present, decide_eq_true_eq]
    · next other =>
      cases committed
      refine first.congrLines ?_
      conv_lhs => rw [← List.map_id (linesOf db c.id)]
      apply List.map_congr_left
      intro line _
      unfold lineReturned
      split
      · next condition action present => exact absurd present (other condition action)
      · rfl

end ErpBackend.Consignments
