import ErpBackend.Scanner.Outbox

/-!
# What learning may write

The branches that find a row leave everything the constraints look at as it is.
The branch for a new code takes the default of `status`, which is `confirmed`,
and no `confirmed_at`: the table refuses that row.
-/

namespace ErpBackend.Scanner

open Foundation

variable (m : Memory)

theorem mem_mappingsForCode (companyId : Id) (codeType : CodeType) (code : String)
    (row : ProductRecognition) :
    row ∈ mappingsForCode m companyId codeType code ↔ row ∈ m.recognitions.rows ∧
      row.codeType = codeType ∧ row.code = code ∧ row.companyId = companyId := by
  unfold mappingsForCode
  rw [Table.mem_filter, decide_eq_true_eq]

theorem updateRecognition_ok (id : Id) (f : ProductRecognition → ProductRecognition)
    (keep : ∀ row, (f row).id = row.id) (m m' : Memory)
    (done : updateRecognition id f keep m = .ok m') :
    (∃ row, m.recognitions.find? id = some row ∧ checkRecognition (f row) = .ok () ∧
      ¬activeTaken (f row) m.recognitions.rows = true) ∧
      m' = { m with recognitions := m.recognitions.update id f keep } := by
  unfold updateRecognition at done
  split at done
  · cases done
  · next row found =>
    obtain ⟨_, checked, done⟩ := (except_bind_ok _ _ _).mp done
    split at done
    · cases done
    · next free =>
      cases done
      exact ⟨⟨row, found, checked, free⟩, rfl⟩

theorem insertRecognition_ok (row : ProductRecognition) (m m' : Memory)
    (done : insertRecognition row m = .ok m') :
    checkRecognition row = .ok () ∧ ¬activeTaken row m.recognitions.rows = true ∧
      ∃ recognitions, m.recognitions.insert? row = some recognitions ∧
        m' = { m with recognitions } := by
  obtain ⟨_, checked, done⟩ := (except_bind_ok _ _ _).mp done
  split at done
  · cases done
  · next free =>
    split at done
    · cases done
    · next recognitions inserted =>
      cases done
      exact ⟨checked, free, recognitions, inserted, rfl⟩

structure Blind (f : ProductRecognition → ProductRecognition) : Prop where
  checked : ∀ row, checkRecognition (f row) = checkRecognition row
  active : ∀ row, activeKey (f row) = activeKey row

theorem reinforced_blind (now : Time) (ev : LearningEvent) (stats : List (String × Nat)) :
    Blind (reinforced now ev stats) := ⟨fun _ => rfl, fun _ => rfl⟩

theorem corrected_blind (now : Time) (ev : LearningEvent) (stats : List (String × Nat)) :
    Blind (corrected now ev stats) := ⟨fun _ => rfl, fun _ => rfl⟩

theorem activeTaken_iff (row : ProductRecognition) (rows : List ProductRecognition) :
    activeTaken row rows = true ↔ (activeKey row).isSome = true ∧
      ∃ other ∈ rows, other.id ≠ row.id ∧ activeKey other = activeKey row := by
  simp [activeTaken]

theorem updateRecognition_blind (constrained : Constrained m) (id : Id)
    (f : ProductRecognition → ProductRecognition) (keep : ∀ row, (f row).id = row.id)
    (blind : Blind f) (row : ProductRecognition) (found : m.recognitions.find? id = some row) :
    updateRecognition id f keep m =
        .ok { m with recognitions := m.recognitions.update id f keep } ∧
      Constrained { m with recognitions := m.recognitions.update id f keep } := by
  have present := Table.mem_of_find? _ _ _ found
  have fresh : ¬activeTaken (f row) m.recognitions.rows = true := by
    rw [activeTaken_iff, blind.active, keep]
    rintro ⟨confirmed, other, member, apart, same⟩
    exact apart (constrained.active row present other member confirmed same.symm).symm
  constructor
  · unfold updateRecognition
    rw [found]
    simp only [blind.checked, constrained.checked row present, bind, Except.bind]
    rw [if_neg fresh]
  · -- every row afterwards is the image of a row with the same key and the same check
    have origin : ∀ a ∈ (m.recognitions.update id f keep).rows, ∃ b ∈ m.recognitions.rows,
        b.id = a.id ∧ activeKey b = activeKey a ∧ checkRecognition b = checkRecognition a := by
      intro a member
      rcases (Table.mem_update _ _ f keep a).mp member with ⟨old, -⟩ | ⟨old, same, rfl⟩
      · exact ⟨a, old, rfl, rfl, rfl⟩
      · exact ⟨old, Table.mem_of_find? _ _ _ same, (keep old).symm, (blind.active old).symm,
          (blind.checked old).symm⟩
    constructor
    · intro a memberA b memberB confirmed same
      obtain ⟨a', oldA, idA, keyA, -⟩ := origin a memberA
      obtain ⟨b', oldB, idB, keyB, -⟩ := origin b memberB
      rw [← idA, ← idB]
      exact constrained.active a' oldA b' oldB (by rw [keyA]; exact confirmed)
        (by rw [keyA, keyB]; exact same)
    · intro a member
      obtain ⟨b, old, -, -, check⟩ := origin a member
      rw [← check]
      exact constrained.checked b old

theorem insert_learned_refused (newId companyId : Id) (ev : LearningEvent) :
    ∃ refusal, insertRecognition (learned newId companyId m.clock ev) m = .error refusal := by
  unfold insertRecognition checkRecognition
  split
  · exact ⟨_, rfl⟩
  · rw [if_pos ⟨rfl, rfl⟩]
    exact ⟨_, rfl⟩

variable (pick : Lookup ProductRecognition)

theorem learn_known (newId companyId : Id) (ev : LearningEvent)
    (m : Memory) (constrained : Constrained m)
    (known : mappingsForCode m companyId ev.codeType ev.code ≠ []) :
    ∃ m', learn pick newId companyId ev m = .ok m' ∧ Constrained m' ∧ m'.outbox = m.outbox := by
  rcases picked : pick.pick (mappingsForCode m companyId ev.codeType ev.code) with _ | existing
  · exact absurd (pick.total _ picked) known
  · have member := ((mem_mappingsForCode _ _ _ _ _).mp (pick.mem _ _ picked)).1
    have found := (Table.find?_some _ existing.id existing).mpr ⟨member, rfl⟩
    unfold learn
    rw [picked]
    dsimp only
    split
    · obtain ⟨stored, after⟩ := updateRecognition_blind m constrained existing.id
        (reinforced m.clock ev existing.sourceStats)
        (reinforced_id m.clock ev existing.sourceStats)
        (reinforced_blind m.clock ev existing.sourceStats) existing found
      exact ⟨_, stored, after, rfl⟩
    · obtain ⟨stored, after⟩ := updateRecognition_blind m constrained existing.id
        (corrected m.clock ev existing.sourceStats)
        (corrected_id m.clock ev existing.sourceStats)
        (corrected_blind m.clock ev existing.sourceStats) existing found
      exact ⟨_, stored, after, rfl⟩

theorem learn_unknown (newId companyId : Id)
    (ev : LearningEvent) (m : Memory)
    (unknown : mappingsForCode m companyId ev.codeType ev.code = []) :
    ∃ refusal, learn pick newId companyId ev m = .error refusal := by
  rcases picked : pick.pick (mappingsForCode m companyId ev.codeType ev.code) with _ | existing
  · unfold learn
    rw [picked]
    exact insert_learned_refused m newId companyId ev
  · have member := pick.mem _ _ picked
    rw [unknown] at member
    cases member

def EndsDone (event : OutboxEvent) (m : Memory) (result : Except Refusal Outcome) : Prop :=
  result = .ok .done ∧ Constrained m ∧
    (m.outbox.find? event.id).map OutboxEvent.status = some .done

theorem claimRow_due (event : OutboxEvent)
    (queued : m.outbox.find? event.id = some event) (ready : due m.clock event = true) :
    claimRow event.id m.clock m = .ok ({ m with
      outbox := m.outbox.update event.id (claimed m.clock) (claimed_id m.clock) }, true) := by
  unfold claimRow Table.swap?
  rw [queued]
  simp only [ready, if_true]

theorem processRow_known (newId : Id) (m : Memory)
    (event : OutboxEvent) (constrained : Constrained m)
    (queued : m.outbox.find? event.id = some event) (ready : due m.clock event = true)
    (known : mappingsForCode m event.companyId event.codeType event.code ≠ []) :
    Prog.Ensures (processRow pick newId event) (fun m' result => EndsDone event m' result) m := by
  unfold processRow
  rw [Prog.ensures_read, Prog.ensures_transact, claimRow_due m event queued ready]
  refine ⟨?_, fun _ failed => by cases failed⟩
  rintro m₁ taken ⟨⟩
  simp only [Bool.not_true, Bool.false_eq_true, if_false]
  rw [Prog.ensures_attempt]
  obtain ⟨m₂, taught, after, outbox⟩ := learn_known pick newId event.companyId event.learning
    { m with outbox := m.outbox.update event.id (claimed m.clock) (claimed_id m.clock) }
    ⟨constrained.active, constrained.checked⟩ known
  have row : m₂.outbox.find? event.id = some (claimed m.clock event) := by
    rw [outbox]
    dsimp only
    rw [Table.find?_update, if_pos rfl, queued]
    rfl
  have finished : learnAndComplete pick newId event
      { m with outbox := m.outbox.update event.id (claimed m.clock) (claimed_id m.clock) } =
        .ok ({ m₂ with
          outbox :=
            m₂.outbox.update event.id (completed m.clock) (completed_id m.clock) }, ()) := by
    unfold learnAndComplete updateEvent
    rw [taught]
    simp only [bind, Except.bind, row]
  rw [finished]
  refine ⟨?_, fun _ failed => by cases failed⟩
  rintro m₃ _ ⟨⟩
  rw [Prog.ensures_pure]
  refine ⟨rfl, ⟨after.active, after.checked⟩, ?_⟩
  dsimp only
  rw [Table.find?_update, if_pos rfl, row]
  rfl

theorem processRow_unknown (newId : Id) (m : Memory)
    (event : OutboxEvent) (queued : m.outbox.find? event.id = some event)
    (ready : due m.clock event = true)
    (unknown : mappingsForCode m event.companyId event.codeType event.code = []) :
    Prog.Ensures (processRow pick newId event) (fun _ result => result ≠ .ok .done) m := by
  unfold processRow
  rw [Prog.ensures_read, Prog.ensures_transact, claimRow_due m event queued ready]
  refine ⟨?_, fun _ failed => by cases failed⟩
  rintro m₁ taken ⟨⟩
  simp only [Bool.not_true, Bool.false_eq_true, if_false]
  rw [Prog.ensures_attempt]
  obtain ⟨refusal, refused⟩ := learn_unknown pick newId event.companyId event.learning
    { m with outbox := m.outbox.update event.id (claimed m.clock) (claimed_id m.clock) } unknown
  have failed : learnAndComplete pick newId event
      { m with outbox := m.outbox.update event.id (claimed m.clock) (claimed_id m.clock) } =
        .error refusal := by
    unfold learnAndComplete
    rw [refused]
    rfl
  rw [failed]
  refine ⟨fun _ _ done => (by cases done), ?_⟩
  intro _ _
  dsimp only
  rw [Prog.ensures_commit]
  refine ⟨?_, ?_⟩
  · intro _ _
    rw [Prog.ensures_pure]
    split
    · simp
    · simp
  · intro _ _
    simp

/-- A drained event ends as done exactly when the company holds a row for its code. -/
theorem event_ends_done_iff (pick : Lookup ProductRecognition) (newId : Id) (m : Memory)
    (event : OutboxEvent) (constrained : Constrained m)
    (queued : m.outbox.find? event.id = some event) (ready : due m.clock event = true) :
    EndsDone event ((processRow pick newId event).run m).1
        ((processRow pick newId event).run m).2 ↔
      mappingsForCode m event.companyId event.codeType event.code ≠ [] := by
  constructor
  · intro ends unknown
    exact processRow_unknown pick newId m event queued ready unknown ends.1
  · exact processRow_known pick newId m event constrained queued ready

def firstEvent : OutboxEvent where
  id := 500
  companyId := 10
  purchaseId := some 20
  codeType := .tac
  code := "35693803"
  productId := 3
  supplierId := none
  source := "receiving"
  nextAttemptAt := 1000

def blank : Memory where
  clock := 1000
  outbox := ⟨[firstEvent], by decide⟩

theorem constrained_of_empty (empty : m.recognitions = .empty) : Constrained m := by
  constructor
  · intro a member
    rw [empty] at member
    cases member
  · intro row member
    rw [empty] at member
    cases member

theorem first_event_not_done : ¬ ∀ (pick : Lookup ProductRecognition) (newId : Id) (m : Memory)
    (event : OutboxEvent), Constrained m → m.outbox.find? event.id = some event →
      due m.clock event = true → (event.codeType = .tac → isValidTac event.code = true) →
      EndsDone event ((processRow pick newId event).run m).1
        ((processRow pick newId event).run m).2 := by
  intro claim
  have ends := claim .oldest 600 blank firstEvent (constrained_of_empty blank rfl) (by decide)
    (by decide) (by decide)
  have status : ((((processRow .oldest 600 firstEvent).run blank).1.outbox.find? 500).map
      OutboxEvent.status) = some .pending := by decide
  have done := ends.2.2
  rw [show firstEvent.id = 500 from rfl, status] at done
  cases done

def remembered : Memory :=
  { blank with
    recognitions := ⟨[
      { id := 600
        companyId := 10
        codeType := .tac
        code := "35693803"
        productId := 3
        confirmedAt := some 900 }], by decide⟩ }

theorem event_ends_done_iff_remembered :
    EndsDone firstEvent ((processRow .oldest 601 firstEvent).run remembered).1
      ((processRow .oldest 601 firstEvent).run remembered).2 := by
  have constrained : Constrained remembered := by
    constructor
    · intro a memberA b memberB _ _
      obtain rfl := List.mem_singleton.mp memberA
      obtain rfl := List.mem_singleton.mp memberB
      rfl
    · intro row member
      obtain rfl := List.mem_singleton.mp member
      decide
  exact (event_ends_done_iff .oldest 601 remembered firstEvent constrained (by decide)
    (by decide)).mpr (by decide)

end ErpBackend.Scanner
