import ErpBackend.Inventory.Stock

/-!
# One identifier, one phone

What the database itself refuses of a row of `units`: the two triggers on it,
the unique index on the generated `identifier` and the one on `imei_secondary`.
None of them asks where a `serial_no` is carried already.
-/

namespace ErpBackend.Inventory

open Foundation

abbrev Units := Table StockUnit StockUnit.id

/-- The generated column. -/
def identifierColumn (unit : StockUnit) : Option String := unit.imeiPrimary.or unit.serialNo

def selfConflict : Refusal :=
  .internal ("A unit cannot have the same IMEI as both its primary and " ++
    "secondary identifier")

def alreadyIdentifies : Refusal := .internal "That IMEI already identifies another unit"

section

local instance codes_lawful : LawfulBEq (Option String) := Option.instLawfulBEq String

/-- A code that one of the units has in one of the columns; `NULL` equals nothing. -/
def carriedBy (units : List StockUnit) (columns : StockUnit → List (Option String))
    (code : Option String) : Bool :=
  code.isSome ∧ units.any (fun other => code ∈ columns other)

end

/-- The body of both triggers: on update, `units` leaves the row itself out. -/
def identifierTrigger (new : StockUnit) (units : List StockUnit) : Except Refusal Unit :=
  if new.imeiSecondary.isSome ∧ new.imeiSecondary = new.imeiPrimary then .error selfConflict
  else if carriedBy units (fun other => [other.imeiSecondary, other.serialNo])
      new.imeiPrimary then .error alreadyIdentifies
  else if carriedBy units (fun other =>
      [other.imeiPrimary, other.imeiSecondary, other.serialNo]) new.imeiSecondary then
    .error alreadyIdentifies
  else .ok ()

def identifierKeys (new : StockUnit) (units : List StockUnit) : Except Refusal Unit :=
  if carriedBy units (fun other => [identifierColumn other]) (identifierColumn new) then
    .error (.unique "ux_units_identifier")
  else if carriedBy units (fun other => [other.imeiSecondary]) new.imeiSecondary then
    .error (.unique "units_imei_secondary_key")
  else .ok ()

/-- One row, with the values its columns get. -/
inductive Write where
  | insert (new : StockUnit)
  | update (new : StockUnit)

def others (new : StockUnit) (units : Units) : List StockUnit :=
  units.filter (fun other => other.id ≠ new.id)

def store : Write → Units → Except Refusal Units
  | .insert new, units => do
      identifierTrigger new units.rows
      identifierKeys new units.rows
      match units.insert? new with
      | none => .error (.unique "PRIMARY")
      | some stored => .ok stored
  | .update new, units =>
      match units.find? new.id with
      | none => .ok units
      | some _ => do
          identifierTrigger new (others new units)
          identifierKeys new (others new units)
          .ok (units.update new.id (fun row => { new with id := row.id }) (fun _ => rfl))

def attempt (units : Units) (write : Write) : Units :=
  match store write units with
  | .ok stored => stored
  | .error _ => units

def storeAll (units : Units) (writes : List Write) : Units := writes.foldl attempt units

def Carries (unit : StockUnit) (code : String) : Prop :=
  unit.imeiPrimary = some code ∨ unit.imeiSecondary = some code ∨ unit.serialNo = some code

def Exclusive (units : Units) : Prop :=
  ∀ a ∈ units.rows, ∀ b ∈ units.rows, a.id ≠ b.id → ∀ code, Carries a code → ¬Carries b code

/-- What triggers and keys settle between the new row and another. -/
structure Checked (new other : StockUnit) : Prop where
  primary : ∀ code, new.imeiPrimary = some code →
    other.imeiSecondary ≠ some code ∧ other.serialNo ≠ some code
  secondary : ∀ code, new.imeiSecondary = some code → ¬Carries other code
  identifier : ∀ code, identifierColumn new = some code → identifierColumn other ≠ some code

/-- What they leave open: the serial number of the new row as an IMEI of the other, or as a
serial number where one of the two has an IMEI as well. -/
def SerialFree (new other : StockUnit) : Prop :=
  ∀ serial, new.serialNo = some serial → other.imeiSecondary ≠ some serial ∧
    (new.imeiPrimary ≠ none → other.imeiPrimary ≠ some serial) ∧
    (new.imeiPrimary ≠ none ∨ other.imeiPrimary ≠ none → other.serialNo ≠ some serial)

theorem not_carriedBy (units : List StockUnit) (columns : StockUnit → List (Option String))
    (code : Option String) (free : ¬carriedBy units columns code = true) (other : StockUnit)
    (member : other ∈ units) (text : String) (named : code = some text) :
    some text ∉ columns other := by
  intro inside
  apply free
  subst named
  simp only [carriedBy, decide_eq_true_eq]
  exact ⟨rfl, List.any_eq_true.mpr ⟨other, member, decide_eq_true inside⟩⟩

theorem checked_of_ok (new : StockUnit) (units : List StockUnit)
    (triggered : identifierTrigger new units = .ok ()) (keyed : identifierKeys new units = .ok ())
    (other : StockUnit) (member : other ∈ units) : Checked new other := by
  unfold identifierTrigger at triggered
  unfold identifierKeys at keyed
  split_ifs at triggered with _ primaryFree secondaryFree
  split_ifs at keyed with identifierFree _
  constructor
  · intro code named
    have free := not_carriedBy _ _ _ primaryFree other member code named
    simp only [List.mem_cons, List.not_mem_nil, or_false, not_or] at free
    exact ⟨Ne.symm free.1, Ne.symm free.2⟩
  · intro code named carries
    have free := not_carriedBy _ _ _ secondaryFree other member code named
    simp only [List.mem_cons, List.not_mem_nil, or_false, not_or] at free
    rcases carries with same | same | same
    · exact free.1 same.symm
    · exact free.2.1 same.symm
    · exact free.2.2 same.symm
  · intro code named
    have free := not_carriedBy _ _ _ identifierFree other member code named
    exact fun same => free (List.mem_singleton.mpr same.symm)

/-- Nine pairs of columns: six are checked, the other three are `SerialFree`. -/
theorem Checked.apart_iff {new other : StockUnit} (checked : Checked new other) :
    (∀ code, Carries new code → ¬Carries other code) ↔ SerialFree new other := by
  constructor
  · intro apart serial named
    have free := apart serial (.inr (.inr named))
    exact ⟨fun same => free (.inr (.inl same)), fun _ same => free (.inl same),
      fun _ same => free (.inr (.inr same))⟩
  · intro free code carries carried
    rcases carries with primary | secondary | serial
    · have own : identifierColumn new = some code := by simp [identifierColumn, primary]
      rcases carried with same | same | same
      · exact checked.identifier code own (by simp [identifierColumn, same])
      · exact (checked.primary code primary).1 same
      · exact (checked.primary code primary).2 same
    · exact checked.secondary code secondary carried
    · obtain ⟨notSecondary, notPrimary, notSerial⟩ := free code serial
      rcases carried with same | same | same
      · cases named : new.imeiPrimary with
        | none =>
            have own : identifierColumn new = some code := by
              simp [identifierColumn, named, serial]
            exact checked.identifier code own (by simp [identifierColumn, same])
        | some imei => exact notPrimary (by simp [named]) same
      · exact notSecondary same
      · cases named : new.imeiPrimary with
        | none =>
            have own : identifierColumn new = some code := by
              simp [identifierColumn, named, serial]
            cases theirs : other.imeiPrimary with
            | none =>
                exact checked.identifier code own (by simp [identifierColumn, theirs, same])
            | some imei => exact notSerial (.inr (by simp [theirs])) same
        | some imei => exact notSerial (.inl (by simp [named])) same

def Write.row (units : Units) : Write → Option StockUnit
  | .insert new => some new
  | .update new => if (units.find? new.id).isSome then some new else none

/-- The serial number written is free of what the database does not check. -/
def SerialsFree (units : Units) (write : Write) : Prop :=
  ∀ new, write.row units = some new → ∀ other ∈ units.rows, other.id ≠ new.id →
    SerialFree new other

theorem mem_others (new : StockUnit) (units : Units) (other : StockUnit) :
    other ∈ others new units ↔ other ∈ units.rows ∧ other.id ≠ new.id := by
  unfold others
  rw [Table.mem_filter, decide_eq_true_eq]

theorem store_ok (write : Write) (units stored : Units) (done : store write units = .ok stored) :
    (write.row units = none ∧ stored = units) ∨ ∃ new, write.row units = some new ∧
      (∀ other ∈ units.rows, other.id ≠ new.id → Checked new other) ∧
      ∀ unit, unit ∈ stored.rows ↔ unit = new ∨ unit ∈ units.rows ∧ unit.id ≠ new.id := by
  cases write with
  | insert new =>
      obtain ⟨_, triggered, done⟩ := (except_bind_ok _ _ _).mp done
      obtain ⟨_, keyed, done⟩ := (except_bind_ok _ _ _).mp done
      split at done
      · cases done
      · next stored' inserted =>
        cases done
        obtain ⟨rows, fresh⟩ := Table.insert?_some _ _ _ inserted
        refine .inr ⟨new, rfl, ?_, ?_⟩
        · intro other member _
          exact checked_of_ok new units.rows triggered keyed other member
        · intro unit
          rw [rows, List.mem_append, List.mem_singleton, or_comm]
          constructor
          · rintro (same | present)
            · exact .inl same
            · exact .inr ⟨present, fresh unit present⟩
          · rintro (same | ⟨present, -⟩)
            · exact .inl same
            · exact .inr present
  | update new =>
      unfold store at done
      dsimp only at done
      split at done
      · next absent =>
        cases done
        exact .inl ⟨by simp [Write.row, absent], rfl⟩
      · next row found =>
        obtain ⟨_, triggered, done⟩ := (except_bind_ok _ _ _).mp done
        obtain ⟨_, keyed, done⟩ := (except_bind_ok _ _ _).mp done
        cases done
        refine .inr ⟨new, by simp [Write.row, found], ?_, ?_⟩
        · intro other member apart
          exact checked_of_ok new _ triggered keyed other ((mem_others new units other).mpr
            ⟨member, apart⟩)
        · intro unit
          have image : { new with id := row.id } = new := by
            rw [Table.key_of_find? _ _ _ found]
          rw [Table.mem_update, or_comm]
          constructor
          · rintro (⟨old, present, rfl⟩ | kept)
            · rw [found] at present
              cases present
              exact .inl image
            · exact .inr kept
          · rintro (rfl | kept)
            · exact .inl ⟨row, found, image⟩
            · exact .inr kept

theorem store_exclusive_iff (write : Write) (units stored : Units) (exclusive : Exclusive units)
    (done : store write units = .ok stored) : Exclusive stored ↔ SerialsFree units write := by
  rcases store_ok write units stored done with ⟨nothing, rfl⟩ | ⟨new, row, checked, rows⟩
  · constructor
    · intro _ new named
      rw [nothing] at named
      cases named
    · exact fun _ => exclusive
  · have free_iff : SerialsFree units write ↔ ∀ other ∈ units.rows, other.id ≠ new.id →
        ∀ code, Carries new code → ¬Carries other code := by
      constructor
      · intro free other member apart
        exact (checked other member apart).apart_iff.mpr (free new row other member apart)
      · intro apart new' same other member distinct
        rw [row] at same
        cases same
        exact (checked other member distinct).apart_iff.mp (apart other member distinct)
    rw [free_iff]
    constructor
    · intro after other member apart
      exact after new ((rows new).mpr (.inl rfl)) other ((rows other).mpr (.inr ⟨member, apart⟩))
        (Ne.symm apart)
    · intro apart a memberA b memberB distinct code carries carried
      rcases (rows a).mp memberA with rfl | ⟨presentA, otherA⟩
      · rcases (rows b).mp memberB with rfl | ⟨presentB, otherB⟩
        · exact distinct rfl
        · exact apart b presentB otherB code carries carried
      · rcases (rows b).mp memberB with rfl | ⟨presentB, otherB⟩
        · exact apart a presentA otherA code carried carries
        · exact exclusive a presentA b presentB distinct code carries carried

/-- Every state on the way is exclusive exactly when no accepted write names a serial number
that the database leaves unchecked. -/
theorem identifiers_exclusive_iff (units : Units) (exclusive : Exclusive units)
    (writes : List Write) :
    (∀ earlier, earlier <+: writes → Exclusive (storeAll units earlier)) ↔
      ∀ earlier write, earlier ++ [write] <+: writes → ∀ stored,
        store write (storeAll units earlier) = .ok stored →
          SerialsFree (storeAll units earlier) write := by
  have next : ∀ earlier write stored, store write (storeAll units earlier) = .ok stored →
      storeAll units (earlier ++ [write]) = stored := by
    intro earlier write stored done
    simp only [storeAll, List.foldl_append, List.foldl_cons, List.foldl_nil, attempt]
    unfold storeAll at done
    rw [done]
  constructor
  · intro always earlier write inside stored done
    have before := always earlier ((List.prefix_append earlier [write]).trans inside)
    have after := always _ inside
    rw [next earlier write stored done] at after
    exact (store_exclusive_iff write _ stored before done).mp after
  · intro free earlier
    induction earlier using List.reverseRecOn with
    | nil => exact fun _ => exclusive
    | append_singleton earlier write ih =>
        intro inside
        have before := ih ((List.prefix_append earlier [write]).trans inside)
        rcases done : store write (storeAll units earlier) with refusal | stored
        · have same : storeAll units (earlier ++ [write]) = storeAll units earlier := by
            simp only [storeAll, List.foldl_append, List.foldl_cons, List.foldl_nil, attempt]
            unfold storeAll at done
            rw [done]
          rw [same]
          exact before
        · rw [next earlier write stored done]
          exact (store_exclusive_iff write _ stored before done).mpr
            (free earlier write inside stored done)

theorem insertUnit_store (unit : StockUnit) (db db' : Db) (done : insertUnit unit db = .ok db') :
    store (.insert unit) db.units = .ok db'.units := by
  unfold insertUnit at done
  dsimp only at done
  split_ifs at done with notSelf primaryFree secondaryFree _ _ identifierFree
  split at done
  · cases done
  · next units inserted =>
    cases done
    have primary : ¬carriedBy db.units.rows
        (fun other => [other.imeiSecondary, other.serialNo]) unit.imeiPrimary = true :=
      primaryFree
    have secondary : ¬carriedBy db.units.rows (fun other =>
        [other.imeiPrimary, other.imeiSecondary, other.serialNo])
          unit.imeiSecondary = true := secondaryFree
    have identifier : ¬carriedBy db.units.rows
        (fun other => [identifierColumn other]) (identifierColumn unit) = true :=
      identifierFree
    have triggered : identifierTrigger unit db.units.rows = .ok () := by
      unfold identifierTrigger
      rw [if_neg notSelf, if_neg primary, if_neg secondary]
    have keyed : identifierKeys unit db.units.rows = .ok () := by
      unfold identifierKeys
      rw [if_neg identifier, if_neg]
      intro carried
      apply secondaryFree
      simp only [carriedBy, decide_eq_true_eq] at carried
      obtain ⟨some_, present⟩ := carried
      obtain ⟨other, member, same⟩ := List.any_eq_true.mp present
      refine decide_eq_true ⟨some_, List.any_eq_true.mpr ⟨other, member, ?_⟩⟩
      have own := List.mem_singleton.mp (of_decide_eq_true same)
      exact decide_eq_true (by simp [own])
    simp only [store, triggered, keyed, bind, Except.bind, inserted]

theorem exclusive_empty : Exclusive Table.empty := by
  intro a member
  cases member

private def row (id : Id) (imeiPrimary imeiSecondary serialNo : Option String) : StockUnit where
  id := id
  companyId := 10
  productId := 3
  branchId := 1
  imeiPrimary := imeiPrimary
  imeiSecondary := imeiSecondary
  serialNo := serialNo
  cost := 50000
  status := .inStock
  dateSold := none

def dualSim : StockUnit := row 301 (some "356938035643809") (some "490154203237518") none

def bySerial (serial : String) : StockUnit := row 302 none none (some serial)

theorem secondary_imei_as_serial : ¬ ∀ writes : List Write,
    ∀ earlier, earlier <+: writes → Exclusive (storeAll Table.empty earlier) := by
  intro claim
  have reached := claim [.insert dualSim, .insert (bySerial "490154203237518")] _
    List.prefix_rfl
  have rows : (storeAll Table.empty [.insert dualSim, .insert (bySerial "490154203237518")]).rows =
      [dualSim, bySerial "490154203237518"] := by decide
  unfold Exclusive at reached
  rw [rows] at reached
  exact reached dualSim (by simp) (bySerial "490154203237518") (by simp) (by decide)
    "490154203237518" (.inr (.inl rfl)) (.inr (.inr rfl))

theorem identifiers_exclusive_iff_serial :
    Exclusive (storeAll Table.empty [.insert dualSim, .insert (bySerial "C02XK1TUJG5H")]) := by
  refine (identifiers_exclusive_iff Table.empty exclusive_empty
    [.insert dualSim, .insert (bySerial "C02XK1TUJG5H")]).mpr ?_ _ List.prefix_rfl
  intro earlier write inside stored _ new written other member apart serial named
  rcases earlier with _ | ⟨first, _ | ⟨second, rest⟩⟩
  · cases member
  · simp only [List.cons_append, List.nil_append, List.cons_prefix_cons, List.prefix_nil,
      and_true] at inside
    obtain ⟨rfl, rfl, -⟩ := inside
    cases written
    cases named
    have rows : (storeAll Table.empty [.insert dualSim]).rows = [dualSim] := by decide
    rw [rows, List.mem_singleton] at member
    subst member
    decide
  · simp at inside

end ErpBackend.Inventory
