import ErpBackend.Consignment.Enabled
import ErpBackend.Consignment.Receivable

/-!
# Whose offer is on the table

`lastProposalBy` reads the owner of the standing offer off the status. The
history of the calls says who really put the amount there.
-/

namespace ErpBackend.Consignments

open Foundation

def lastOffer (history : List Event) (id : Id) : Option Id :=
  (history.filterMap (fun event => match event with
    | .offered consignmentId company => if consignmentId = id then some company else none
    | .answered _ _ => none)).getLast?

variable (call : Call)

variable (db : Db)

theorem lastOffer_events (history : List Event) (id : Id) :
    lastOffer (history ++ call.events db) id =
      if call.moves db = true ∧ call.operation.offers = true ∧ call.operation.target = id then
        some call.ctx.companyId else lastOffer history id := by
  unfold lastOffer Call.events
  rw [← List.append_assoc, List.filterMap_append, List.filterMap_append]
  have silent : List.filterMap (fun event => match event with
      | Event.offered consignmentId company => if consignmentId = id then some company else none
      | .answered _ _ => none)
      (if call.moves db = true ∧ call.operation.answers = true then
        (db.consignments.find? call.operation.target).toList.map (.answered · call.ctx.companyId)
      else []) = [] := by
    rw [List.filterMap_eq_nil_iff]
    intro event member
    split at member
    · obtain ⟨c, -, rfl⟩ := List.mem_map.mp member
      rfl
    · cases member
  rw [silent, List.append_nil]
  by_cases offers : call.moves db = true ∧ call.operation.offers = true
  · by_cases same : call.operation.target = id
    · simp [offers, same]
    · simp [offers, same]
  · rw [if_neg offers, if_neg (fun all => offers ⟨all.1, all.2.1⟩)]
    simp

def Attributed (c : Consignment) (offerer : Option Id) : Prop :=
  c.status = .requested ∨ c.status = .counterProposed ∧ offerer = c.destinationCompanyId

/-- Somebody on the consignment made the standing offer, the source the first one. -/
structure Offered (c : Consignment) (offerer : Option Id) : Prop where
  party : ∃ company side, offerer = some company ∧ sideOf c company = some side
  first : c.status = .requested → offerer = some c.sourceCompanyId

def OffersKept (db : Db) (history : List Event) : Prop :=
  ∀ id c, db.consignments.find? id = some c → Offered c (lastOffer history id)

/-- Answers given while the status names the owner come from the other side. -/
def AnswersKept (history : List Event) : Prop :=
  ∀ (index : Nat) (c : Consignment) (company : Id),
    history[index]? = some (.answered c company) →
      Attributed c (lastOffer (history.take index) c.id) →
        lastOffer (history.take index) c.id ≠ some company

theorem moves_of_same (same : (call.exec db).1 = db) :
    call.moves db = false := by
  simp [Call.moves, same]

theorem events_of_same (same : (call.exec db).1 = db) :
    call.events db = [] := by
  simp [Call.events, moves_of_same call db same]

theorem sideOf_congr (c c' : Consignment) (company : Id)
    (source : c'.sourceCompanyId = c.sourceCompanyId)
    (destination : c'.destinationCompanyId = c.destinationCompanyId) :
    sideOf c' company = sideOf c company := by
  unfold sideOf
  rw [source, destination]

theorem offers_step (history : List Event) (kept : Kept db)
    (offers : OffersKept db history) :
    OffersKept (call.exec db).1 (history ++ call.events db) := by
  have unmoved : (call.exec db).1 = db →
      OffersKept (call.exec db).1 (history ++ call.events db) := by
    intro same
    rw [events_of_same call db same, same, List.append_nil]
    exact offers
  rcases exec_outcome call db with ⟨same, -⟩ | accepted
  · exact unmoved same
  rcases accepted_moved call.ctx db _ call.operation kept accepted with
    same | ⟨fresh, branchId, lineIds, dto, counterparty, lines, created, missing, becomes, -⟩ |
      ⟨c, c', side, reads, proposes, moved⟩
  · exact unmoved same
  · intro id row found
    have target : call.operation.target = fresh := by
      rw [created]
      rfl
    have offering : call.operation.offers = true := by
      rw [created]
      rfl
    have moves : call.moves db = true := by
      simp [Call.moves, target, becomes.found, missing]
    rw [lastOffer_events, target]
    by_cases same : id = fresh
    · rw [same, becomes.found] at found
      cases found
      rw [if_pos ⟨moves, offering, same.symm⟩]
      exact ⟨⟨call.ctx.companyId, .source, rfl, if_pos rfl⟩, fun _ => rfl⟩
    · rw [becomes.elsewhere.consignments id same] at found
      rw [if_neg (fun all => same all.2.2.symm)]
      exact offers id row found
  · intro id row found
    rw [lastOffer_events]
    by_cases same : id = call.operation.target
    · rw [same, moved.becomes.found] at found
      cases found
      split
      · next offering =>
        -- A counter-offer: the row changed, so it does not still wait for its first answer.
        refine ⟨⟨call.ctx.companyId, side, rfl, ?_⟩, ?_⟩
        · rw [sideOf_congr c c' _ moved.source moved.destination]
          exact reads.side
        · intro requested
          have still := moved.status requested
          have changed := offering.1
          simp [Call.moves, moved.becomes.found, moved.before, still] at changed
      · have before := offers _ c moved.before
        obtain ⟨company, side, offerer, acts⟩ := before.party
        rw [same]
        refine ⟨⟨company, side, offerer, ?_⟩, ?_⟩
        · rw [sideOf_congr c c' company moved.source moved.destination]
          exact acts
        · intro requested
          have still := moved.status requested
          rw [still] at requested ⊢
          exact before.first requested
    · rw [moved.becomes.elsewhere.consignments id same] at found
      rw [if_neg (fun all => same all.2.2.symm)]
      exact offers id row found

theorem answered_reads (c : Consignment) (company : Id)
    (answered : Event.answered c company ∈ call.events db) :
    company = call.ctx.companyId ∧ ∃ side, Reads call.ctx db c.id c side ∧
      lastProposalBy c ≠ some side := by
  have facts : call.moves db = true ∧ call.operation.answers = true ∧
      db.consignments.find? call.operation.target = some c ∧ company = call.ctx.companyId := by
    unfold Call.events at answered
    rcases List.mem_append.mp answered with answer | offer
    · split at answer
      · next both =>
        obtain ⟨row, present, equal⟩ := List.mem_map.mp answer
        cases equal
        exact ⟨both.1, both.2, by simpa using present, rfl⟩
      · cases answer
    · split at offer
      · cases List.mem_singleton.mp offer
      · cases offer
  obtain ⟨moves, answers, found, rfl⟩ := facts
  refine ⟨rfl, ?_⟩
  rcases exec_outcome call db with ⟨same, -⟩ | accepted
  · rw [moves_of_same call db same] at moves
    cases moves
  · rcases call with ⟨ctx, operation⟩
    generalize (Call.exec ⟨ctx, operation⟩ db).1 = db' at accepted
    cases accepted with
    | decide id dto row side next _ reads counter moved offer committed =>
        have same : row = c := Option.some.inj (reads.found.symm.trans found)
        subst same
        have key := db.consignments.key_of_find? id row found
        obtain ⟨-, -, other, -⟩ := (assertTransition_ok _ _ _ _ _).mp moved
        rw [key]
        refine ⟨side, reads, other ?_⟩
        have chosen : dto.action = .accept ∨ dto.action = .counter := by
          simpa [Operation.answers] using answers
        rcases chosen with accept | counter
        · exact .inl (by rw [accept]; rfl)
        · exact .inr (by rw [counter]; rfl)
    | _ => cases answers

theorem answered_first (index : Nat) (c : Consignment) (company : Id)
    (answered : (call.events db)[index]? = some (.answered c company)) : index = 0 := by
  cases index with
  | zero => rfl
  | succ index =>
      exfalso
      unfold Call.events at answered
      cases found : db.consignments.find? call.operation.target <;>
        split at answered <;> split at answered <;> cases index <;>
          simp [found] at answered

theorem source_side (c : Consignment) (me : Id) (side : sideOf c me = some .source) :
    c.sourceCompanyId = me := by
  unfold sideOf at side
  split at side
  · assumption
  · split at side <;> cases side

theorem answer_other (c : Consignment) (me : Id) (side : Side) (offerer : Option Id)
    (apart : c.destinationCompanyId ≠ some c.sourceCompanyId) (offered : Offered c offerer)
    (attributed : Attributed c offerer) (acts : sideOf c me = some side)
    (other : lastProposalBy c ≠ some side) : offerer ≠ some me := by
  intro own
  rcases attributed with requested | ⟨countered, destination⟩
  · have source := offered.first requested
    rw [own] at source
    cases source
    exact other (by rw [lastProposalBy, requested, ← acts, sideOf, if_pos rfl])
  · cases side with
    | source =>
        have mine := source_side c me acts
        rw [own, ← mine] at destination
        exact apart destination.symm
    | destination => exact other (by rw [lastProposalBy, countered])

theorem answers_step (history : List Event) (kept : Kept db)
    (offers : OffersKept db history) (answers : AnswersKept history) :
    AnswersKept (history ++ call.events db) := by
  intro index c company answered attributed
  by_cases earlier : index < history.length
  · rw [List.getElem?_append_left earlier] at answered
    rw [List.take_append_of_le_length (by omega)] at attributed ⊢
    exact answers index c company answered attributed
  · rw [List.getElem?_append_right (by omega)] at answered
    have first := answered_first call db _ c company answered
    have here : index = history.length := by omega
    rw [here, List.take_left] at attributed ⊢
    obtain ⟨rfl, side, reads, other⟩ :=
      answered_reads call db c company (List.mem_of_getElem? answered)
    exact answer_other c _ side _ (kept.standing c.id c reads.found).apart
      (offers c.id c reads.found) attributed reads.side other

theorem reaches_offers (start db : Db) (history : List Event) (empty : NoConsignments start)
    (reached : Reaches start db history) : OffersKept db history ∧ AnswersKept history := by
  induction reached with
  | start =>
      constructor
      · intro id c found
        have member := start.consignments.mem_of_find? id c found
        rw [empty.consignments] at member
        cases member
      · intro index c company answered
        simp at answered
  | call db history call before ih =>
      have kept := reaches_kept start db history empty before
      exact ⟨offers_step call db history kept ih.1, answers_step call db history kept ih.1 ih.2⟩
  | other db db' history before untouched ih =>
      refine ⟨?_, ih.2⟩
      intro id c found
      rw [untouched.consignments] at found
      exact ih.1 id c found

theorem owner_accepts (c : Consignment) (offerer : Option Id) (kept : Kept db)
    (found : db.consignments.find? c.id = some c) (negotiating : negotiable c.status = true)
    (offered : Offered c offerer) (unattributed : ¬ Attributed c offerer) :
    ∃ (call : Call) (company : Id), Event.answered c company ∈ call.events db ∧
      offerer = some company := by
  obtain ⟨company, side, owner, acts⟩ := offered.party
  let ctx : Ctx := ⟨company, none, none, 0⟩
  let call : Call := ⟨ctx, .decide c.id { action := .accept }⟩
  have unnamed : lastProposalBy c ≠ some side := by
    cases status : c.status with
    | requested => exact absurd (.inl status) unattributed
    | counterProposed =>
        intro named
        have destination : side = .destination := by
          simpa [lastProposalBy, status, eq_comm] using named
        subst destination
        exact unattributed (.inr ⟨status, by rw [owner, destination_connected c company acts]⟩)
    | _ => simp [lastProposalBy, status]
  have moved : assertTransition .accept c.status side (lastProposalBy c) =
      .ok .acceptedAwaitingCustody :=
    (assertTransition_ok _ _ _ _ _).mpr
      ⟨by simpa [transitions, negotiable] using negotiating, .inl rfl, fun _ => unnamed, rfl⟩
  have positive := ((kept.standing c.id c found).phase.negotiating negotiating).offer
  obtain ⟨db', committed, goes⟩ := decide_goes ctx { action := .accept } c side _ db ⟨found, acts⟩
    (by simp) (by simp) moved (.inl rfl) (fun _ => positive)
  have becomes := decide_becomes ctx { action := .accept } c _ db db' found committed
  have moves : call.moves db = true := by
    have changed : decided ctx { action := .accept } c .acceptedAwaitingCustody c ≠ c := by
      intro same
      have version := congrArg Consignment.version same
      simp [decided] at version
    unfold Call.moves
    rw [goes.reached]
    simp only [call, Operation.target, becomes.found, found]
    simpa using changed
  refine ⟨call, company, ?_, owner⟩
  unfold Call.events
  rw [if_pos ⟨moves, rfl⟩]
  simp [call, ctx, Operation.target, found]

/-- In every run, an answer given while the status names the owner of the offer
comes from the other company; and wherever the status does not name the owner,
the service accepts an answer from the owner itself. -/
theorem answers_by_other_iff_attributed (start db : Db) (history : List Event)
    (empty : NoConsignments start) (reached : Reaches start db history) :
    (∀ (index : Nat) (c : Consignment) (company : Id),
      history[index]? = some (.answered c company) →
        Attributed c (lastOffer (history.take index) c.id) →
          lastOffer (history.take index) c.id ≠ some company) ∧
      ∀ id c, db.consignments.find? id = some c → negotiable c.status = true →
        ((∀ call : Call, ∀ company, Event.answered c company ∈ call.events db →
          lastOffer history id ≠ some company) ↔ Attributed c (lastOffer history id)) := by
  have kept := reaches_kept start db history empty reached
  obtain ⟨offers, answers⟩ := reaches_offers start db history empty reached
  refine ⟨answers, fun id c found negotiating => ?_⟩
  have key := db.consignments.key_of_find? id c found
  subst key
  refine ⟨fun fair => ?_, fun attributed call company answered => ?_⟩
  · by_contra unattributed
    obtain ⟨call, company, answered, owner⟩ :=
      owner_accepts db c _ kept found negotiating (offers c.id c found) unattributed
    exact fair call company answered owner
  · obtain ⟨rfl, side, reads, other⟩ := answered_reads call db c company answered
    exact answer_other c _ side _ (kept.standing c.id c found).apart (offers c.id c found)
      attributed reads.side other

/-- The holder counters with 400.00, the sender counters back with 450.00 and then
accepts its own 450.00. -/
def ownCounterAccepted : List Call :=
  [⟨sender, .create 100 (fun index => 200 + index)
      { counterpartyId := 5
        unitIds := [301]
        proposedAmount := 50000
        note := none
        clientUuid := none }⟩,
    ⟨holder, .decide 100 { action := .counter, amount := some ⟨40000, by decide⟩ }⟩,
    ⟨sender, .decide 100 { action := .counter, amount := some ⟨45000, by decide⟩ }⟩,
    ⟨sender, .decide 100 { action := .accept }⟩]

theorem sender_accepts_own_counter :
    ((play shelf ownCounterAccepted).1.consignments.find? 100).map
        (fun c => (c.status, c.agreedAmount)) = some (.acceptedAwaitingCustody, some 45000) ∧
      ¬ ∀ (start db : Db) (history : List Event), NoConsignments start →
        Reaches start db history → ∀ (index : Nat) (c : Consignment) (company : Id),
          history[index]? = some (.answered c company) →
            lastOffer (history.take index) c.id ≠ some company := by
  refine ⟨by decide, fun claim => ?_⟩
  have own : ∃ c, (play shelf ownCounterAccepted).2[5]? = some (.answered c 10) ∧
      lastOffer ((play shelf ownCounterAccepted).2.take 5) c.id = some 10 :=
    ⟨_, rfl, by decide⟩
  obtain ⟨c, answered, offered⟩ := own
  exact claim shelf _ _ shelf_noConsignments (reaches_play shelf ownCounterAccepted) 5 c 10
    answered offered

theorem answers_by_other_first_counter :
    AnswersKept (play shelf (ownCounterAccepted.take 2)).2 ∧
      ∀ c, (play shelf (ownCounterAccepted.take 2)).1.consignments.find? 100 = some c →
        negotiable c.status = true →
        ((∀ call : Call, ∀ company,
          Event.answered c company ∈ call.events (play shelf (ownCounterAccepted.take 2)).1 →
            lastOffer (play shelf (ownCounterAccepted.take 2)).2 100 ≠ some company) ↔
          Attributed c (lastOffer (play shelf (ownCounterAccepted.take 2)).2 100)) := by
  have result := answers_by_other_iff_attributed shelf _ _ shelf_noConsignments
    (reaches_play shelf (ownCounterAccepted.take 2))
  exact ⟨result.1, fun c found negotiating => result.2 100 c found negotiating⟩

end ErpBackend.Consignments
