import ErpBackend.Consignment.Receivable

/-!
# Every phone scanned once

The receiver scans as many identifiers as phones were sent, and each scan is one that was sent.
That leaves room for one phone scanned twice in place of another.
-/

namespace ErpBackend.Consignments

open Foundation

def sentLines (db : Db) (consignmentId : Id) : List ConsignmentLine :=
  (linesOf db consignmentId).filter (fun line => line.status = .proposed)

def ScannedAll (scans : List String) (sent : List ConsignmentLine) : Prop :=
  (scans.map normIdentifier).Perm (sent.map (fun line => normIdentifier line.identifier))

def NoneTooOften (scans : List String) (sent : List ConsignmentLine) : Prop :=
  ∀ scan ∈ scans,
    scans.countP (fun other => normIdentifier other = normIdentifier scan) ≤
      sent.countP (fun line => normIdentifier line.identifier = normIdentifier scan)

instance (scans : List String) (sent : List ConsignmentLine) :
    Decidable (NoneTooOften scans sent) :=
  inferInstanceAs (Decidable (∀ scan ∈ scans, _ ≤ _))

theorem assertScanned_length (sent : List ConsignmentLine) (scans : List String)
    (full : scans ≠ []) (accepted : assertScanned sent (some scans) = .ok ()) :
    scans.length = sent.length := by
  by_contra other
  simp [assertScanned, full, other] at accepted

theorem scannedAll_iff (scans : List String) (sent : List ConsignmentLine)
    (many : scans.length = sent.length) : ScannedAll scans sent ↔ NoneTooOften scans sent := by
  have scanned : ∀ text, (scans.map normIdentifier).count text =
      scans.countP (fun other => normIdentifier other = text) := by
    intro text
    simp only [List.count, List.countP_map, Function.comp_def, beq_eq_decide]
  have listed : ∀ text, (sent.map (fun line => normIdentifier line.identifier)).count text =
      sent.countP (fun line => normIdentifier line.identifier = text) := by
    intro text
    simp only [List.count, List.countP_map, Function.comp_def, beq_eq_decide]
  constructor
  · intro all scan _
    rw [← scanned, ← listed]
    exact (all.count_eq _).le
  · intro few
    have within : (scans.map normIdentifier).Subperm
        (sent.map (fun line => normIdentifier line.identifier)) := by
      rw [List.subperm_ext_iff]
      intro text member
      obtain ⟨scan, inside, rfl⟩ := List.mem_map.mp member
      rw [scanned, listed]
      exact few scan inside
    exact within.perm_of_length_le (by simp [many])

theorem custody_scanned (ctx : Ctx) (id : Id) (dto : CustodyDto) (db : Db)
    (confirm : dto.action = .confirm)
    (accepted : Call.accepted ⟨ctx, .custody id dto⟩ db = true) :
    assertScanned (sentLines db id) dto.identifiers = .ok () := by
  rcases answered : (custody ctx id dto).run db with ⟨db', refused | view⟩
  · simp [Call.accepted, Call.exec, Call.program, answered] at accepted
  · simp only [custody, confirm, mine, Prog.run_bind_ok, Prog.run_read_ok, Prog.run_expect_ok,
      Prog.run_liftExcept_ok, requireSide, assertDestination, Prog.run_require_ok] at answered
    obtain ⟨_, c, ⟨_, _, ⟨rfl, rfl⟩, rfl, found⟩, _, side, ⟨rfl, _⟩, _, next, ⟨rfl, _⟩,
      _, _, ⟨_, _, ⟨rfl, _⟩, rfl, _⟩, _, _, ⟨rfl, _⟩, _, _, ⟨rfl, rfl⟩, _, _, ⟨rfl, passed⟩,
      _⟩ := answered
    have row := ((findVisible_some _ _ _ _).mp found).1
    rw [db.consignments.key_of_find? id c row] at passed
    exact passed

/-- What is accepted as a full scan is the phones sent, one for one, exactly when no identifier
is scanned more often than it was sent. -/
theorem custody_scannedAll_iff (ctx : Ctx) (id : Id) (dto : CustodyDto) (db : Db)
    (scans : List String) (confirm : dto.action = .confirm)
    (scanned : dto.identifiers = some scans) (full : scans ≠ [])
    (accepted : Call.accepted ⟨ctx, .custody id dto⟩ db = true) :
    ScannedAll scans (sentLines db id) ↔ NoneTooOften scans (sentLines db id) := by
  have passed := custody_scanned ctx id dto db confirm accepted
  rw [scanned] at passed
  exact scannedAll_iff scans (sentLines db id) (assertScanned_length _ _ full passed)

def oneScannedTwice : CustodyDto where
  action := .confirm
  identifiers := some ["356938035643809", "35 693803 564380 9"]

theorem custody_one_scanned_twice :
    Call.accepted ⟨holder, .custody 100 oneScannedTwice⟩
        (play shelf ((delivery [301, 302]).take 3)).1 = true ∧
      ¬ ScannedAll ["356938035643809", "35 693803 564380 9"]
        (sentLines (play shelf ((delivery [301, 302]).take 3)).1 100) := by
  refine ⟨by decide +kernel, fun all => ?_⟩
  have missed : "490154203237518".toList ∈
      ["356938035643809", "35 693803 564380 9"].map normIdentifier :=
    all.mem_iff.mpr (by decide +kernel)
  exact absurd missed (by decide +kernel)

def bothScanned : CustodyDto where
  action := .confirm
  identifiers := some ["4901 5420 3237 518", "356938035643809"]

theorem custody_both_scanned :
    ScannedAll ["4901 5420 3237 518", "356938035643809"]
      (sentLines (play shelf ((delivery [301, 302]).take 3)).1 100) :=
  (custody_scannedAll_iff holder 100 bothScanned (play shelf ((delivery [301, 302]).take 3)).1
    ["4901 5420 3237 518", "356938035643809"] rfl rfl (by decide) (by decide +kernel)).mpr
    (by decide +kernel)

end ErpBackend.Consignments
