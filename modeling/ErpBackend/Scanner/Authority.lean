import ErpBackend.Scanner.Leases
import ErpBackend.Scanner.TacMapping

/-!
# Who may change a mapping

Submits and learning over one table. Without the correction branch of learning
in the way, what a company's confirmed mapping names changes only in the hands
of a user who holds `catalog.manage`. A version tells one confirmation from
another only where the second does not start at the number of the first.
-/

namespace ErpBackend.Scanner

open Foundation

structure Mapping where
  companyId : Id
  tac : String
  productId : Id
  version : Int
  deriving DecidableEq

def mapped (row : ProductRecognition) : Option Mapping :=
  if row.codeType = .tac ∧ row.status = .confirmed then
    some ⟨row.companyId, row.code, row.productId, row.version⟩
  else none

def mappings (m : Memory) : List Mapping := m.recognitions.rows.filterMap mapped

/-- The product the company's confirmed mapping of the TAC names. -/
def namedProduct (m : Memory) (companyId : Id) (tac : String) : Option Id :=
  (confirmedRow m companyId tac).map ProductRecognition.productId

variable (row : ProductRecognition)

theorem mapped_some (mapping : Mapping) :
    mapped row = some mapping ↔ row.codeType = .tac ∧ row.status = .confirmed ∧
      mapping = ⟨row.companyId, row.code, row.productId, row.version⟩ := by
  unfold mapped
  split
  · next confirmed =>
    simp only [Option.some.injEq, confirmed, true_and]
    exact eq_comm
  · next other =>
    constructor
    · intro none
      cases none
    · rintro ⟨tac, confirmed, -⟩
      exact absurd ⟨tac, confirmed⟩ other

theorem namedProduct_eq (m : Memory) (companyId : Id) (tac : String) :
    namedProduct m companyId tac = ((mappings m).find? (fun mapping =>
      mapping.companyId = companyId ∧ mapping.tac = tac)).map Mapping.productId := by
  unfold namedProduct confirmedRow mappings
  induction m.recognitions.rows with
  | nil => rfl
  | cons row rest ih =>
      by_cases confirmed : row.codeType = .tac ∧ row.status = .confirmed
      · have told : mapped row = some ⟨row.companyId, row.code, row.productId, row.version⟩ :=
          if_pos confirmed
        rw [List.filterMap_cons, told]
        by_cases own : row.companyId = companyId ∧ row.code = tac
        · simp [own, confirmed]
        · have other : ¬(row.companyId = companyId ∧ row.codeType = .tac ∧ row.code = tac ∧
              row.status = .confirmed) := fun found => own ⟨found.1, found.2.2.1⟩
          rw [List.find?_cons_of_neg (by simpa using other),
            List.find?_cons_of_neg (by simpa using own)]
          exact ih
      · have silent : mapped row = none := if_neg confirmed
        have other : ¬(row.companyId = companyId ∧ row.codeType = .tac ∧ row.code = tac ∧
            row.status = .confirmed) := fun found => confirmed ⟨found.2.1, found.2.2.2⟩
        rw [List.filterMap_cons, silent, List.find?_cons_of_neg (by simpa using other)]
        exact ih

/-- Rows stay, and none becomes a mapping or says something else as one. -/
def Steady (m m' : Memory) : Prop :=
  ∀ id row, m.recognitions.find? id = some row → ∃ row',
    m'.recognitions.find? id = some row' ∧ (mapped row' = none ∨ mapped row' = mapped row)

structure Untouched (m m' : Memory) : Prop where
  rows : ∀ id row, m.recognitions.find? id = some row → ∃ row',
    m'.recognitions.find? id = some row' ∧ mapped row' = mapped row
  mappings : mappings m' = mappings m

variable {m m' : Memory}

theorem Untouched.steady (untouched : Untouched m m') : Steady m m' := by
  intro id row found
  obtain ⟨row', found', same⟩ := untouched.rows id row found
  exact ⟨row', found', .inr same⟩

theorem Untouched.named (untouched : Untouched m m') (companyId : Id)
    (tac : String) : namedProduct m' companyId tac = namedProduct m companyId tac := by
  rw [namedProduct_eq, namedProduct_eq, untouched.mappings]

theorem untouched_of_eq (same : m'.recognitions = m.recognitions) :
    Untouched m m' := by
  constructor
  · intro id row found
    exact ⟨row, by rw [same]; exact found, rfl⟩
  · unfold mappings
    rw [same]

theorem untouched_update (m m' : Memory) (id : Id) (f : ProductRecognition → ProductRecognition)
    (keep : ∀ row, (f row).id = row.id) (row : ProductRecognition)
    (found : m.recognitions.find? id = some row) (same : mapped (f row) = mapped row)
    (update : m'.recognitions = m.recognitions.update id f keep) : Untouched m m' := by
  constructor
  · intro other row' found'
    rw [update, Table.find?_update]
    by_cases own : other = id
    · rw [if_pos own, found]
      rw [own, found] at found'
      cases found'
      exact ⟨f row, rfl, same⟩
    · rw [if_neg own]
      exact ⟨row', found', rfl⟩
  · unfold mappings
    rw [update, Table.update, Table.modify_rows, List.filterMap_map]
    apply List.filterMap_congr
    intro row' member
    dsimp only [Function.comp]
    split
    · next own =>
      rw [decide_eq_true_eq] at own
      have found' := (Table.find?_some _ row'.id row').mpr ⟨member, rfl⟩
      rw [own, found] at found'
      cases found'
      exact same
    · rfl

theorem find_insert (m m' : Memory)
    (done : insertRecognition row m = .ok m') (id : Id) (old : ProductRecognition)
    (found : m.recognitions.find? id = some old) : m'.recognitions.find? id = some old := by
  obtain ⟨-, -, recognitions, inserted, rfl⟩ := insertRecognition_ok row m m' done
  exact Table.find?_insert_of_found _ _ _ inserted _ _ found

theorem untouched_insert (m m' : Memory) (silent : mapped row = none)
    (done : insertRecognition row m = .ok m') : Untouched m m' := by
  constructor
  · intro id old found
    exact ⟨old, find_insert row m m' done id old found, rfl⟩
  · obtain ⟨-, -, recognitions, inserted, rfl⟩ := insertRecognition_ok row m m' done
    unfold mappings
    dsimp only
    rw [(Table.insert?_some _ _ _ inserted).1, List.filterMap_append]
    simp [silent]

inductive Role where
  | worker
  /-- Whether the user holds `catalog.manage`, and the mapping that was read to submit. -/
  | user (holder : Bool) (shown : Option ProductRecognition)
  deriving DecidableEq

structure Label where
  role : Role
  mark : Mark
  deriving DecidableEq

/-- A submit for a mapping that was read, with the version it showed. -/
def submitFor (ctx : Ctx) (has : Permission → Bool) (newId : Id) (dto : SubmitTacMappingDto)
    (shown : Option ProductRecognition) : Prog Memory Label Refusal Unit := do
  .require (∀ row ∈ shown, 0 ≤ row.version)
    (.badRequest "expectedVersion must not be less than 0")
  (submit ctx has newId
    { dto with expectedVersion := shown.map (fun row => row.version.toNat) }).void.relabel
      (fun mark => ⟨.user (has .catalogManage) shown, mark⟩)

def visit (ctx : Ctx) (has : Permission → Bool) (newId : Id) (dto : SubmitTacMappingDto) :
    Prog Memory Label Refusal Unit := do
  let shown ← .read ⟨.user (has .catalogManage) none, .other⟩ (fun m =>
    confirmedRow m ctx.companyId dto.tac)
  submitFor ctx has newId dto shown

/-- Submits of employees and managers, with a version they read or any other, beside
learning. -/
inductive Deciding : Prog Memory Label Refusal Unit → Prop
  | submit (ctx : Ctx) (has : Permission → Bool) (newId : Id) (dto : SubmitTacMappingDto) :
      Deciding ((submit ctx has newId dto).void.relabel
        (fun mark => ⟨.user (has .catalogManage) none, mark⟩))
  | visit (ctx : Ctx) (has : Permission → Bool) (newId : Id) (dto : SubmitTacMappingDto) :
      Deciding (visit ctx has newId dto)
  | drain (p : Request Unit) (draining : Draining p) :
      Deciding (p.relabel (fun mark => ⟨.worker, mark⟩))

/-- A learning event finds no mapping of another product, and a user who read a mapping
finds that very one, or one whose version differs. -/
def Harmless (m : Memory) (label : Label) : Prop :=
  match label.role, label.mark with
  | .worker, .complete event _ => event.codeType = .tac →
      ∀ row ∈ mappingsForCode m event.companyId .tac event.code,
        row.status = .confirmed → row.productId = event.productId
  | .user _ (some shown), .look companyId tac => ∀ row ∈ confirmedRow m companyId tac,
      row.id = shown.id ∨ row.version ≠ shown.version
  | _, _ => True

instance (m : Memory) (label : Label) : Decidable (Harmless m label) := by
  unfold Harmless
  split <;> infer_instance

structure Guarded (label : Label) (m m' : Memory) : Prop where
  authority : ∀ companyId tac, namedProduct m' companyId tac ≠ namedProduct m companyId tac →
    ∃ shown, label.role = .user true shown
  version : ∀ holder shown, label.role = .user holder (some shown) →
    ∀ id row row', m.recognitions.find? id = some row → row.codeType = .tac →
      row.status = .confirmed → m'.recognitions.find? id = some row' →
      row'.status = .superseded → row.productId = shown.productId

def Fresh (next : Option Mark) : Prop :=
  ∀ id version holder, next ≠ some (.replace id version holder)

def userLeads (holder : Bool) (shown : Option ProductRecognition) :
    Mark → Memory → Memory → Option Mark → Prop
  | .other, m, m', next => m' = m ∧ Fresh next
  | .look companyId tac, m, m', next => m' = m ∧ ∀ id version taken,
      next = some (.replace id version taken) →
        (∃ row, confirmedRow m companyId tac = some row ∧ row.id = id) ∧
          ∀ row ∈ shown, (version : Int) = row.version
  | .replace id version _, m, m', next => Fresh next ∧
      (m' = m ∨ holder = true ∧ ∃ companyId, supersedeRow companyId id version m = .ok m')
  | .record _, m, m', next => Fresh next ∧
      (m' = m ∨ ∃ row, insertRecognition row m = .ok m' ∧
        (row.status = .confirmed → holder = true))
  | _, _, _, _ => False

theorem propose_walks {β : Type} (holder : Bool) (shown : Option ProductRecognition) (ctx : Ctx)
    (newId productId : Id) (dto : SubmitTacMappingDto) (existing : Option ProductRecognition)
    (f : Unit → Request β) (walks : (f ()).Walks (userLeads holder shown))
    (fresh : Fresh (f ()).mark?) :
    (propose ctx newId productId dto existing >>= f).Walks (userLeads holder shown) ∧
      Fresh (propose ctx newId productId dto existing >>= f).mark? := by
  unfold propose
  constructor
  · rw [Prog.bind_assoc]
    apply Prog.walks_require
    intro _
    apply Prog.walks_commit
    · intro m m' stored
      refine ⟨fresh, .inr ⟨_, stored, ?_⟩⟩
      intro confirmed
      cases confirmed
    · intro m _ _
      exact ⟨fun _ _ _ none => (by cases none), .inl rfl⟩
    · exact walks
  · cases existing with
    | none => exact fun _ _ _ next => (by cases next)
    | some row => exact fun _ _ _ none => (by cases none)

theorem record_walks {β : Type} (shown : Option ProductRecognition) (ctx : Ctx)
    (newId productId : Id) (dto : SubmitTacMappingDto) (f : Unit → Request β)
    (walks : (f ()).Walks (userLeads true shown)) (fresh : Fresh (f ()).mark?) :
    (Prog.commit (.record true) (fun m =>
      insertRecognition (confirmation ctx newId productId m.clock dto) m) >>= f).Walks
        (userLeads true shown) := by
  apply Prog.walks_commit
  · intro m m' stored
    exact ⟨fresh, .inr ⟨_, stored, fun _ => rfl⟩⟩
  · intro m _ _
    exact ⟨fun _ _ _ none => (by cases none), .inl rfl⟩
  · exact walks

theorem confirm_walks {β : Type} (shown : Option ProductRecognition) (ctx : Ctx)
    (newId productId : Id) (dto : SubmitTacMappingDto) (existing : Option ProductRecognition)
    (sent : ∀ row ∈ shown, ∀ version ∈ dto.expectedVersion, (version : Int) = row.version)
    (f : Unit → Request β) (walks : (f ()).Walks (userLeads true shown))
    (fresh : Fresh (f ()).mark?) :
    (confirm ctx newId productId dto existing >>= f).Walks (userLeads true shown) ∧
      ∀ id version taken,
        (confirm ctx newId productId dto existing >>= f).mark? =
          some (.replace id version taken) →
        (∃ row, existing = some row ∧ row.id = id) ∧
          ∀ row ∈ shown, (version : Int) = row.version := by
  cases existing with
  | none =>
      refine ⟨record_walks shown ctx newId productId dto f walks fresh, ?_⟩
      intro _ _ _ next
      cases next
  | some row =>
      rcases version : dto.expectedVersion with _ | expected
      · simp only [confirm, version]
        refine ⟨trivial, fun _ _ _ none => (by cases none)⟩
      · simp only [confirm, version]
        refine ⟨?_, ?_⟩
        · rw [Prog.bind_assoc]
          apply Prog.walks_expect
          rintro _ ⟨⟩
          rw [Prog.bind_assoc]
          apply Prog.walks_commit
          · intro m m' replaced
            refine ⟨fun _ _ _ next => (by cases next), .inr ⟨rfl, _, replaced⟩⟩
          · intro m _ _
            exact ⟨fun _ _ _ none => (by cases none), .inl rfl⟩
          · exact record_walks shown ctx newId productId dto f walks fresh
        · intro id version' taken next
          cases next
          exact ⟨⟨row, rfl, rfl⟩, fun seen member => sent seen member _ (by rw [version]; rfl)⟩

variable (ctx : Ctx)

theorem submit_walks (has : Permission → Bool) (newId : Id)
    (dto : SubmitTacMappingDto) (shown : Option ProductRecognition)
    (sent : ∀ row ∈ shown, ∀ version ∈ dto.expectedVersion, (version : Int) = row.version) :
    (submit ctx has newId dto).Walks (userLeads (has .catalogManage) shown) := by
  apply Prog.walks_require
  intro _
  apply Prog.walks_read
  intro m
  refine ⟨⟨rfl, ?_⟩, ?_⟩
  · generalize Option.filter _ _ = found
    cases found with
    | none => exact fun _ _ _ none => (by cases none)
    | some product => exact fun _ _ _ next => (by cases next)
  · apply Prog.walks_expect
    intro product _
    apply Prog.walks_read
    intro m₁
    let answer : Unit → Request (List ProductRecognition) := fun _ =>
      .read .other (fun m => mappingsForCode m ctx.companyId .tac dto.tac)
    have walks (holder : Bool) : (answer ()).Walks (userLeads holder shown) :=
      fun m => ⟨⟨rfl, fun _ _ _ none => (by cases none)⟩, trivial⟩
    have fresh : Fresh (answer ()).mark? := fun _ _ _ next => (by cases next)
    cases holds : has .catalogManage with
    | true =>
        obtain ⟨rest, replaces⟩ := confirm_walks shown ctx newId product.id dto
          (confirmedRow m₁ ctx.companyId dto.tac) sent answer (walks true) fresh
        exact ⟨⟨rfl, replaces⟩, rest⟩
    | false =>
        obtain ⟨rest, still⟩ := propose_walks false shown ctx newId product.id dto
          (confirmedRow m₁ ctx.companyId dto.tac) answer (walks false) fresh
        exact ⟨⟨rfl, fun _ _ _ next => absurd next (still _ _ _)⟩, rest⟩

/-- The labels that may follow: the same user or worker goes on, or has just read the
mapping it will submit for. -/
def Sees (m : Memory) (label after : Label) : Prop :=
  after.role = label.role ∨ after.mark = .other ∧ ∃ holder row companyId tac,
    after.role = .user holder (some row) ∧ confirmedRow m companyId tac = some row

def Effect (label : Label) (m m' : Memory) (next : Option Mark) : Prop :=
  match label.role with
  | .worker => workerLeads label.mark m m' next
  | .user holder shown => userLeads holder shown label.mark m m' next

def authorityLeads (label : Label) (m m' : Memory) (next : Option Label) : Prop :=
  Effect label m m' (next.map Label.mark) ∧ ∀ after, next = some after → Sees m label after

theorem learn_untouched (pick : Lookup ProductRecognition) (newId : Id) (event : OutboxEvent)
    (m m' : Memory) (done : learn pick newId event.companyId event.learning m = .ok m')
    (deadline : Time) (harmless : Harmless m ⟨.worker, .complete event deadline⟩) :
    Untouched m m' := by
  unfold learn at done
  split at done
  · obtain ⟨refusal, refused⟩ := insert_learned_refused m newId event.companyId event.learning
    rw [refused] at done
    cases done
  · next existing picked =>
    have member := pick.mem _ _ picked
    obtain ⟨stored, codeType, code, company⟩ := (mem_mappingsForCode _ _ _ _ _).mp member
    have found := (Table.find?_some _ existing.id existing).mpr ⟨stored, rfl⟩
    split at done
    · obtain ⟨-, rfl⟩ := updateRecognition_ok _ _ _ _ _ done
      exact untouched_update m _ existing.id _ (reinforced_id _ _ _) existing found rfl rfl
    · next differs =>
      obtain ⟨-, rfl⟩ := updateRecognition_ok _ _ _ _ _ done
      apply untouched_update m _ existing.id _ (corrected_id _ _ _) existing found ?_ rfl
      -- a confirmed mapping of another product was not in the way
      have silent : ¬(existing.codeType = .tac ∧ existing.status = .confirmed) := by
        rintro ⟨tac, confirmed⟩
        have eventTac : event.codeType = .tac := codeType.symm.trans tac
        apply differs
        apply harmless eventTac existing _ confirmed
        exact (mem_mappingsForCode _ _ _ _ _).mpr ⟨stored, tac, code, company⟩
      unfold mapped
      rw [if_neg silent]
      exact if_neg silent

theorem worker_untouched (mark : Mark) (m m' : Memory) (next : Option Mark)
    (harmless : Harmless m ⟨.worker, mark⟩) (leads : workerLeads mark m m' next) :
    Untouched m m' := by
  cases mark with
  | other => exact untouched_of_eq leads.1.recognitions
  | claim id now =>
      rcases leads with ⟨rfl, -⟩ | ⟨taken, -⟩
      · exact untouched_of_eq rfl
      · exact untouched_of_eq (claimRow_rewrites id now m m' taken).2.1
  | complete event deadline =>
      rcases leads with ⟨rfl, -⟩ | ⟨learns, -⟩
      · exact untouched_of_eq rfl
      · obtain ⟨-, pick, newId, taught, learnt, recognitions⟩ := learns.rewrites
        have untouched := learn_untouched pick newId event m taught learnt deadline harmless
        constructor
        · rw [recognitions]
          exact untouched.rows
        · unfold mappings
          rw [recognitions]
          exact untouched.mappings
  | requeue event deadline =>
      rcases leads.1 with rfl | ⟨attempts, refusal, written⟩
      · exact untouched_of_eq rfl
      · exact untouched_of_eq (updateEvent_rewrites _ _ _ _ _ written).2
  | look companyId tac => cases leads
  | replace id version holder => cases leads
  | record holder => cases leads

theorem supersedeRow_ok (companyId id : Id) (version : Nat) (m m' : Memory)
    (done : supersedeRow companyId id version m = .ok m') :
    (∃ row, m.recognitions.find? id = some row ∧ row.version = version) ∧
      m'.recognitions = m.recognitions.update id supersede supersede_id := by
  unfold supersedeRow at done
  split at done
  · cases done
  · next recognitions swapped =>
    cases done
    obtain ⟨row, found, guard, rfl⟩ := (Table.swap?_some _ _ _ _ _ _).mp swapped
    rw [decide_eq_true_eq] at guard
    exact ⟨⟨row, found, guard.2.1⟩, rfl⟩

/-- A step leaves every mapping alone, or is one of the two writes of a user who holds
`catalog.manage`. -/
theorem effect_cases (label : Label) (m m' : Memory) (next : Option Mark)
    (harmless : Harmless m label) (done : Effect label m m' next) :
    Untouched m m' ∨ ∃ shown, label.role = .user true shown ∧
      ((∃ id version taken companyId, label.mark = .replace id version taken ∧
        supersedeRow companyId id version m = .ok m') ∨
        ∃ row, insertRecognition row m = .ok m') := by
  obtain ⟨role, mark⟩ := label
  cases role with
  | worker => exact .inl (worker_untouched mark m m' next harmless done)
  | user holder shown =>
      cases mark with
      | other => exact .inl (untouched_of_eq (by rw [done.1]))
      | look companyId tac => exact .inl (untouched_of_eq (by rw [done.1]))
      | replace id version taken =>
          rcases done.2 with rfl | ⟨rfl, companyId, replaced⟩
          · exact .inl (untouched_of_eq rfl)
          · exact .inr ⟨shown, rfl, .inl ⟨id, version, taken, companyId, rfl, replaced⟩⟩
      | record taken =>
          rcases done.2 with rfl | ⟨row, inserted, holds⟩
          · exact .inl (untouched_of_eq rfl)
          · by_cases confirmed : row.status = .confirmed
            · rw [holds confirmed]
              exact .inr ⟨shown, rfl, .inr ⟨row, inserted⟩⟩
            · exact .inl (untouched_insert row m m' (if_neg fun both => confirmed both.2) inserted)
      | claim id now => cases done
      | complete event deadline => cases done
      | requeue event deadline => cases done

theorem effect_steady (label : Label) (m m' : Memory) (next : Option Mark)
    (harmless : Harmless m label) (done : Effect label m m' next) : Steady m m' := by
  rcases effect_cases label m m' next harmless done with
    untouched | ⟨-, -, ⟨id, version, -, companyId, -, replaced⟩ | ⟨row, inserted⟩⟩
  · exact untouched.steady
  · obtain ⟨-, update⟩ := supersedeRow_ok companyId id version m m' replaced
    intro other row found
    rw [update, Table.find?_update_of_found _ _ _ _ _ _ found]
    split
    · exact ⟨_, rfl, .inl (if_neg fun both => by cases both.2)⟩
    · exact ⟨row, rfl, .inr rfl⟩
  · intro id old found
    exact ⟨old, find_insert row m m' inserted id old found, .inr rfl⟩

/-- The row that was read is a mapping no more, or still the same. -/
def Seen (m : Memory) (shown : ProductRecognition) : Prop :=
  ∃ row, m.recognitions.find? shown.id = some row ∧ (mapped row = none ∨ mapped row = mapped shown)

structure Recalls (label : Label) (m : Memory) : Prop where
  shown : ∀ holder row, label.role = .user holder (some row) → Seen m row
  replaced : ∀ holder shown id version taken, label.role = .user holder (some shown) →
    label.mark = .replace id version taken → ∃ row, m.recognitions.find? id = some row ∧
      ∀ mapping, mapped row = some mapping → mapping.version = version →
        mapping.productId = shown.productId

theorem Seen.steady {shown : ProductRecognition} (seen : Seen m shown)
    (steady : Steady m m') : Seen m' shown := by
  obtain ⟨row, found, still⟩ := seen
  obtain ⟨row', found', after⟩ := steady _ _ found
  refine ⟨row', found', ?_⟩
  rcases after with gone | same
  · exact .inl gone
  · rw [same]
    exact still

theorem Recalls.steady {label : Label} {m m' : Memory} (recalls : Recalls label m)
    (steady : Steady m m') : Recalls label m' := by
  constructor
  · intro holder row role
    exact (recalls.shown holder row role).steady steady
  · intro holder shown id version taken role mark
    obtain ⟨row, found, names⟩ := recalls.replaced holder shown id version taken role mark
    obtain ⟨row', found', after⟩ := steady _ _ found
    refine ⟨row', found', fun mapping told => ?_⟩
    rcases after with gone | same
    · rw [gone] at told
      cases told
    · rw [same] at told
      exact names mapping told

theorem confirmedRow_some (m : Memory) (companyId : Id) (tac : String) (row : ProductRecognition)
    (found : confirmedRow m companyId tac = some row) :
    m.recognitions.find? row.id = some row ∧ row.codeType = .tac ∧ row.status = .confirmed := by
  have member := List.mem_of_find?_eq_some found
  have matched := List.find?_some found
  rw [decide_eq_true_eq] at matched
  exact ⟨(Table.find?_some _ _ _).mpr ⟨member, rfl⟩, matched.2.1, matched.2.2.2⟩

theorem recalls_replace (m : Memory) (companyId : Id) (tac : String) (holder : Bool)
    (shown row : ProductRecognition) (seen : Seen m shown)
    (harmless : Harmless m ⟨.user holder (some shown), .look companyId tac⟩)
    (found : confirmedRow m companyId tac = some row) (version : Nat)
    (sent : (version : Int) = shown.version) :
    m.recognitions.find? row.id = some row ∧ ∀ mapping, mapped row = some mapping →
      mapping.version = version → mapping.productId = shown.productId := by
  obtain ⟨present, -, -⟩ := confirmedRow_some m companyId tac row found
  refine ⟨present, ?_⟩
  rintro mapping told current
  obtain ⟨codeType, status, rfl⟩ := (mapped_some row mapping).mp told
  rcases harmless row found with same | differs
  · obtain ⟨stored, kept, still⟩ := seen
    rw [← same, present] at kept
    cases kept
    rcases still with gone | equal
    · rw [gone] at told
      cases told
    · rw [told] at equal
      obtain ⟨-, -, mapping⟩ := (mapped_some shown _).mp equal.symm
      exact congrArg Mapping.productId mapping
  · exact absurd (current.trans sent) differs

def authorityProtocol : Protocol Memory Label where
  inv _ := True
  fits := Harmless
  leads := authorityLeads
  known := Recalls
  apart _ _ _ := True
  apart_symm _ _ _ _ := trivial
  own label m m' next _ harmless recalls leads := by
    obtain ⟨done, sees⟩ := leads
    refine ⟨trivial, fun after follows => ?_⟩
    have steady := effect_steady label m m' _ harmless done
    rcases sees after follows with role | ⟨mark, holder, row, companyId, tac, role, read⟩
    · constructor
      · intro holder row about
        exact (recalls.shown holder row (role.symm.trans about)).steady steady
      · intro holder shown id version taken about mark
        rw [follows, Option.map_some, mark] at done
        have about := role.symm.trans about
        obtain ⟨labelRole, labelMark⟩ := label
        subst about
        cases labelMark with
        | other => exact absurd rfl (done.2 id version taken)
        | look companyId tac =>
            obtain ⟨rfl, replaces⟩ := done
            obtain ⟨⟨row, found, rfl⟩, sent⟩ := replaces id version taken rfl
            exact ⟨row, recalls_replace m' companyId tac holder shown row
              (recalls.shown holder shown rfl) harmless found version (sent shown rfl)⟩
        | replace _ _ _ => exact absurd rfl (done.1 id version taken)
        | record _ => exact absurd rfl (done.1 id version taken)
        | claim _ _ => cases done
        | complete _ _ => cases done
        | requeue _ _ => cases done
    · constructor
      · intro holder' row' about
        rw [role] at about
        cases about
        obtain ⟨found, -, -⟩ := confirmedRow_some m companyId tac row read
        have seen : Seen m row := ⟨row, found, .inr rfl⟩
        exact seen.steady steady
      · intro _ _ _ _ _ _ replace
        rw [mark] at replace
        cases replace
  frame label m m' next other _ harmless _ recalls _ leads :=
    ⟨recalls.steady (effect_steady label m m' _ harmless leads.1), fun _ _ => trivial⟩
  rest _ _ _ _ _ _ _ _ _ _ _ := trivial

theorem role_walks (role : Role) (p : Request Unit)
    (walks : p.Walks (fun mark m m' next => Effect ⟨role, mark⟩ m m' next)) :
    (p.relabel (fun mark => ⟨role, mark⟩)).Walks authorityLeads := by
  apply Prog.walks_relabel
  apply Prog.walks_imp p ?_ walks
  intro mark m m' next done
  constructor
  · rw [Option.map_map]
    have same : Label.mark ∘ (fun mark => ⟨role, mark⟩) = id := rfl
    rw [same, Option.map_id_fun]
    exact done
  · intro after follows
    obtain ⟨next', -, rfl⟩ := Option.map_eq_some_iff.mp follows
    exact .inl rfl

theorem submit_label_walks (has : Permission → Bool) (newId : Id)
    (dto : SubmitTacMappingDto) (shown : Option ProductRecognition)
    (sent : ∀ row ∈ shown, ∀ version ∈ dto.expectedVersion, (version : Int) = row.version) :
    ((submit ctx has newId dto).void.relabel
      (fun mark => ⟨.user (has .catalogManage) shown, mark⟩)).Walks authorityLeads :=
  role_walks _ _ (Prog.walks_void _ (submit_walks ctx has newId dto shown sent))

theorem draining_walks (p : Request Unit) (draining : Draining p) : p.Walks workerLeads :=
  (draining_enters p draining ⟨0, .empty, .empty, .empty⟩).walks

theorem submit_starts (has : Permission → Bool) (newId : Id)
    (dto : SubmitTacMappingDto) (mark : Mark)
    (first : (submit ctx has newId dto).mark? = some mark) : mark = .other := by
  unfold submit Prog.require at first
  split at first
  · cases first
    rfl
  · cases first

theorem submitFor_starts (has : Permission → Bool) (newId : Id)
    (dto : SubmitTacMappingDto) (shown : Option ProductRecognition) (label : Label)
    (first : (submitFor ctx has newId dto shown).mark? = some label) :
    label = ⟨.user (has .catalogManage) shown, .other⟩ := by
  unfold submitFor Prog.require at first
  split at first
  · rw [Prog.pure_bind, Prog.mark_relabel, Prog.void, Prog.mark_map] at first
    obtain ⟨mark, starts, rfl⟩ := Option.map_eq_some_iff.mp first
    rw [submit_starts _ _ _ _ mark starts]
  · cases first

theorem visit_walks (has : Permission → Bool) (newId : Id)
    (dto : SubmitTacMappingDto) : (visit ctx has newId dto).Walks authorityLeads := by
  apply Prog.walks_read
  intro m
  refine ⟨⟨⟨rfl, ?_⟩, ?_⟩, ?_⟩
  · intro id version taken replaces
    obtain ⟨label, follows, mark⟩ := Option.map_eq_some_iff.mp replaces
    rw [submitFor_starts _ _ _ _ _ label follows] at mark
    cases mark
  · intro after follows
    rw [submitFor_starts _ _ _ _ _ after follows]
    cases read : confirmedRow m ctx.companyId dto.tac with
    | none => exact .inl rfl
    | some row => exact .inr ⟨rfl, _, row, _, _, rfl, read⟩
  · apply Prog.walks_require
    intro sane
    apply submit_label_walks
    intro row member version sent
    rw [member] at sent sane
    cases sent
    exact Int.toNat_of_nonneg (sane row rfl)

theorem deciding_enters (p : Prog Memory Label Refusal Unit) (deciding : Deciding p) (m : Memory) :
    authorityProtocol.Enters p m := by
  refine ⟨?_, ?_, fun _ _ _ => trivial⟩
  · cases deciding with
    | submit ctx has newId dto =>
        exact submit_label_walks ctx has newId dto none (fun _ none => (by cases none))
    | visit ctx has newId dto => exact visit_walks ctx has newId dto
    | drain p draining => exact role_walks .worker p (draining_walks p draining)
  · intro label first
    have blind : ∀ holder row, label.role ≠ .user holder (some row) := by
      intro holder row
      cases deciding with
      | submit ctx has newId dto =>
          rw [Prog.mark_relabel] at first
          obtain ⟨mark, -, rfl⟩ := Option.map_eq_some_iff.mp first
          simp
      | visit ctx has newId dto =>
          cases first
          simp
      | drain p draining =>
          rw [Prog.mark_relabel] at first
          obtain ⟨mark, -, rfl⟩ := Option.map_eq_some_iff.mp first
          simp
    exact ⟨fun holder row role => absurd role (blind holder row),
      fun holder row _ _ _ role => absurd role (blind holder row)⟩

theorem effect_guarded (label : Label) (m m' : Memory) (next : Option Mark)
    (harmless : Harmless m label) (recalls : Recalls label m) (done : Effect label m m' next) :
    Guarded label m m' := by
  rcases effect_cases label m m' next harmless done with
    untouched | ⟨shown, role, wrote⟩
  · constructor
    · intro companyId tac changed
      exact absurd (untouched.named companyId tac) changed
    · intro _ _ _ id row row' found tac confirmed found' superseded
      obtain ⟨row'', found'', same⟩ := untouched.rows id row found
      rw [found'] at found''
      cases found''
      have told := (mapped_some row _).mpr ⟨tac, confirmed, rfl⟩
      rw [← same] at told
      obtain ⟨-, status, -⟩ := (mapped_some row' _).mp told
      rw [superseded] at status
      cases status
  · refine ⟨fun _ _ _ => ⟨shown, role⟩, ?_⟩
    intro holder read about id row row' found tac confirmed found' superseded
    rcases wrote with ⟨target, version, taken, companyId, mark, replaced⟩ | ⟨inserted, done⟩
    · obtain ⟨⟨old, present, current⟩, update⟩ := supersedeRow_ok _ _ _ _ _ replaced
      by_cases own : id = target
      · obtain ⟨row'', found'', names⟩ :=
          recalls.replaced holder read target version taken about mark
        rw [own] at found
        rw [found] at found'' present
        cases found''
        cases present
        exact names _ ((mapped_some row _).mpr ⟨tac, confirmed, rfl⟩) current
      · rw [update, Table.find?_update, if_neg own, found] at found'
        cases found'
        rw [confirmed] at superseded
        cases superseded
    · rw [find_insert inserted m m' done id row found] at found'
      cases found'
      rw [confirmed] at superseded
      cases superseded

/-- Where no learning event meets a mapping of another product, and no version read is that
of another confirmation: at every step of every run the product a mapping names changes only
in the hands of a user who holds `catalog.manage`, and a mapping replaced with a version
still names what it named when the version was read. -/
theorem confirmed_mapping_guarded (m : Memory) (c : Config Memory Label Refusal Unit)
    (run : FittingRun Deciding Harmless (.idle m) c) (index : Nat) (label : Label)
    (pending : c.inFlight[index]?.bind Prog.mark? = some label)
    (harmless : Harmless c.store label) :
    Guarded label c.store (c.move (.advance index)).store := by
  have sound := authorityProtocol.run_sound Deciding _ _
    (fun p deciding s _ => deciding_enters p deciding s) run
    (authorityProtocol.sound_idle m trivial)
  obtain ⟨recalls, next, leads⟩ := sound.moved authorityProtocol index label pending
  exact effect_guarded label c.store _ _ harmless recalls leads.1

def manager (permission : Permission) : Bool := permission = .catalogManage

def desk : Ctx where
  companyId := 10
  branchId := none
  userId := some 7
  now := 0

/-- A shop with three products, and a learning event for the first of them. -/
def shop : Memory :=
  { blank with
    products := ⟨[⟨3, 10, none⟩, ⟨4, 10, none⟩, ⟨5, 10, none⟩], by decide⟩ }

def teach (newId productId : Id) : Prog Memory Label Refusal Unit :=
  visit desk manager newId { tac := "35693803", productId }

def drain (newId : Id) : Prog Memory Label Refusal Unit :=
  (sweep .oldest (fun _ => newId)).void.relabel (fun mark => ⟨.worker, mark⟩)

theorem teach_deciding (newId productId : Id) : Deciding (teach newId productId) :=
  .visit desk manager newId _

theorem drain_deciding (newId : Id) : Deciding (drain newId) := .drain _ (.sweep _ _)

/-- The row a `teach` leaves. -/
def taughtRow (newId productId : Id) : ProductRecognition :=
  confirmation desk newId productId 1000 { tac := "35693803", productId }

/-- A manager confirms the code for another product; then the event is learned. -/
def relearned : List (Move Memory Label Refusal Unit) :=
  [.arrive (teach 601 4), .advance 0, .advance 0, .advance 0, .advance 0] ++
  [.arrive (drain 602), .advance 1, .advance 1, .advance 1]

/-- One manager reads the mapping, another replaces it, the first submits. -/
def overtaken : List (Move Memory Label Refusal Unit) :=
  [.arrive (teach 601 3), .advance 0, .advance 0, .advance 0, .advance 0] ++
  [.arrive (teach 602 5), .advance 1] ++
  [.arrive (teach 603 4), .advance 2, .advance 2, .advance 2, .advance 2, .advance 2] ++
  [.advance 1, .advance 1]

theorem relearned_issued : ∀ p, .arrive p ∈ relearned → Deciding p := by
  intro p member
  simp only [relearned, List.mem_append, List.mem_cons, List.not_mem_nil, Move.arrive.injEq,
    reduceCtorEq, or_false] at member
  rcases member with rfl | rfl
  · exact teach_deciding 601 4
  · exact drain_deciding 602

theorem overtaken_issued : ∀ p, .arrive p ∈ overtaken → Deciding p := by
  intro p member
  simp only [overtaken, List.mem_append, List.mem_cons, List.not_mem_nil, Move.arrive.injEq,
    reduceCtorEq, or_false] at member
  rcases member with (rfl | rfl) | rfl
  · exact teach_deciding 601 3
  · exact teach_deciding 602 5
  · exact teach_deciding 603 4

/-- Learning takes a confirmed mapping to another product, and a manager replaces a mapping
of product 4 with the version of a mapping of product 3. -/
theorem mapping_not_guarded :
    (¬ ∀ (m : Memory) (c : Config Memory Label Refusal Unit) (index : Nat) (label : Label),
      Run Deciding anyOrder (.idle m) c → c.inFlight[index]?.bind Prog.mark? = some label →
      ∀ companyId tac, namedProduct (c.move (.advance index)).store companyId tac ≠
        namedProduct c.store companyId tac → ∃ shown, label.role = .user true shown) ∧
    ¬ ∀ (m : Memory) (c : Config Memory Label Refusal Unit) (index : Nat) (label : Label),
      Run Deciding anyOrder (.idle m) c → c.inFlight[index]?.bind Prog.mark? = some label →
      ∀ holder shown, label.role = .user holder (some shown) →
        ∀ id row row', c.store.recognitions.find? id = some row → row.codeType = .tac →
          row.status = .confirmed →
          (c.move (.advance index)).store.recognitions.find? id = some row' →
          row'.status = .superseded → row.productId = shown.productId := by
  constructor
  · intro claim
    have run := schedule_run Deciding anyOrder (Config.idle shop) relearned relearned_issued
      (admits_anyOrder _ _)
    obtain ⟨shown, role⟩ := claim shop _ 1 ⟨.worker, .complete firstEvent (1000 + leaseMs)⟩ run
      (by decide) 10 "35693803" (by decide)
    cases role
  · intro claim
    have run := schedule_run Deciding anyOrder (Config.idle shop) overtaken overtaken_issued
      (admits_anyOrder _ _)
    have same := claim shop _ 1 ⟨.user true (some (taughtRow 601 3)), .replace 603 0 true⟩ run
      (by decide) true _ rfl 603 (taughtRow 603 4) (supersede (taughtRow 603 4)) (by decide) rfl
      rfl (by decide) rfl
    cases same

/-- The event is learned first, and the manager replaces what was read. -/
def settled : List (Move Memory Label Refusal Unit) :=
  [.arrive (teach 601 3), .advance 0, .advance 0, .advance 0, .advance 0] ++
  [.arrive (teach 602 5), .advance 1] ++
  [.arrive (drain 603), .advance 2, .advance 2, .advance 2, .advance 2] ++
  [.advance 1, .advance 1]

theorem confirmed_mapping_guarded_settled :
    Guarded ⟨.user true (some (taughtRow 601 3)), .replace 601 0 true⟩
      ((Config.idle shop).schedule settled).store
      (((Config.idle shop).schedule settled).move (.advance 1)).store := by
  have run := fitting_schedule Deciding Harmless (Config.idle shop) settled (by
    intro p member
    simp only [settled, List.mem_append, List.mem_cons, List.not_mem_nil, Move.arrive.injEq,
      reduceCtorEq, or_false] at member
    rcases member with (rfl | rfl) | rfl
    · exact teach_deciding 601 3
    · exact teach_deciding 602 5
    · exact drain_deciding 603) (by decide)
  exact confirmed_mapping_guarded shop _ run 1 _ (by decide) (by decide)

end ErpBackend.Scanner
