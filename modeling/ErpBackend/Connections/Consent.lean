import ErpBackend.Connections.Steps

/-!
# Consent and blocks

One row stands for two companies, whoever asked. Acceptance is guarded by the
version; a block and its lifting are written by id alone, over whatever the
other company has written since the row was read.
-/

namespace ErpBackend.Connections

open Foundation

/-- `ux_store_connections_pair`. -/
def Paired (network : Network) : Prop :=
  ∀ a ∈ network.connections.rows, ∀ b ∈ network.connections.rows, samePair a b = true → a = b

def statusOf (network : Network) (id : Id) : Option ConnectionStatus :=
  (network.connections.find? id).map StoreConnection.status

def Lifts (me id : Id) : Mark → Prop
  | .setBlocked writer blocked conn => writer = me ∧ blocked = false ∧ conn.id = id
  | _ => False

def Acts (me id : Id) : Mark → Prop
  | .decide writer _ conn => writer = me ∧ conn.id = id
  | .setBlocked writer _ conn => writer = me ∧ conn.id = id
  | _ => False

/-- A block or its lifting finds the connection as it read it, with no write in between, and is
not that of the company that was rejected. -/
def Undisturbed (network : Network) : Mark → Prop
  | .setBlocked me _ conn => network.connections.find? conn.id = some conn ∧
      (conn.requesterCompanyId = me → conn.status ≠ .rejected)
  | _ => True

section Runs

variable (collation : Collation) (uuid : IdSource) (fits : Network → Mark → Prop)

abbrev Runs : Config Network Mark Refusal Unit → Config Network Mark Refusal Unit → Prop :=
  FittingRun (Call collation uuid) fits

/-- The addressee accepts, and from then on the connection is accepted without a break. -/
def AcceptedByAddressee (c c' : Config Network Mark Refusal Unit) (id : Id) : Prop :=
  ∃ asked index me conn, Runs collation uuid fits c asked ∧
    asked.inFlight[index]?.bind Prog.mark? = some (.decide me true conn) ∧ conn.id = id ∧
      (∃ row, asked.store.connections.find? id = some row ∧ row.addresseeCompanyId = me) ∧
        statusOf (asked.move (.advance index)).store id = some .accepted ∧
        Relation.ReflTransGen (fun d d' => FittingStep (Call collation uuid) fits d d' ∧
          statusOf d'.store id = some .accepted) (asked.move (.advance index)) c'

structure Consents (c : Config Network Mark Refusal Unit) : Prop where
  paired : Paired c.store
  accepted : ∀ c', Runs collation uuid fits c c' → ∀ id,
    statusOf c.store id ≠ some .accepted → statusOf c'.store id = some .accepted →
      AcceptedByAddressee collation uuid fits c c' id
  blocked : ∀ index me conn,
    c.inFlight[index]?.bind Prog.mark? = some (.setBlocked me true conn) →
      fits c.store (.setBlocked me true conn) → ∀ c',
        Runs collation uuid (fun s m => fits s m ∧ ¬Lifts me conn.id m)
          (c.move (.advance index)) c' → statusOf c'.store conn.id = some .blocked
  rejected : ∀ row ∈ c.store.connections.rows, row.status = .rejected → ∀ c',
    Runs collation uuid (fun s m => fits s m ∧ ¬Acts row.addresseeCompanyId row.id m) c c' →
      statusOf c'.store row.id = some .rejected

end Runs

/-- The two companies of a connection stay the same, and who may write is one of them; who
blocks was allowed to by the row it read. -/
def Party (network : Network) : Mark → Prop
  | .decide me _ conn => ∃ current, network.connections.find? conn.id = some current ∧
      current.requesterCompanyId = conn.requesterCompanyId ∧
        current.addresseeCompanyId = me ∧ conn.addresseeCompanyId = me
  | .setBlocked me blocked conn => mayBlock me blocked conn = .ok () ∧
      ∃ current, network.connections.find? conn.id = some current ∧ involves current me = true
  | _ => True

theorem readFrom_party (network : Network) (mark : Mark) (reads : ReadFrom network mark) :
    Party network mark := by
  cases mark with
  | decide me accept conn =>
      obtain ⟨found, addressee, -⟩ := reads
      exact ⟨conn, found, rfl, addressee, addressee⟩
  | setBlocked me blocked conn =>
      obtain ⟨found, own, may⟩ := reads
      exact ⟨may, conn, found, own⟩
  | other => trivial
  | request me them => trivial
  | ensure pairs missing => trivial

inductive Changed (mark : Mark) (row : StoreConnection) : StoreConnection → Prop
  | same : Changed mark row row
  | decided (me : Id) (accept : Bool) (conn : StoreConnection) (ctx : Ctx)
      (own : mark = .decide me accept conn) (same : conn.id = row.id)
      (pending : row.status = .pending) : Changed mark row (decidedConn ctx accept row)
  | marked (me : Id) (blocked : Bool) (conn : StoreConnection) (ctx : Ctx) (reason : Option String)
      (own : mark = .setBlocked me blocked conn) (same : conn.id = row.id)
      (mine : ctx.companyId = me) : Changed mark row (markedConn ctx blocked reason row)

theorem insertConnection_ok (conn : StoreConnection) (network network' : Network)
    (done : insertConnection conn network = .ok network') :
    conn.requesterCompanyId ≠ conn.addresseeCompanyId ∧
      (∀ row ∈ network.connections.rows, samePair conn row = false) ∧
        ∃ storeConnections, network.connections.insert? conn = some storeConnections ∧
          network' = { network with db := { network.db with storeConnections } } := by
  unfold insertConnection at done
  split_ifs at done with apart free
  split at done
  · cases done
  · next storeConnections inserted =>
    cases done
    rw [Bool.not_eq_true, Table.any_eq_false] at free
    exact ⟨apart, free, storeConnections, inserted, rfl⟩

theorem decideTx_ok (ctx : Ctx) (accept : Bool) (conn : StoreConnection)
    (network network' : Network) (done : decideTx ctx accept conn network = .ok network') :
    ∃ current, network.connections.find? conn.id = some current ∧ current.status = .pending ∧
      network' = { network with
        db := { network.db with
          storeConnections := network.connections.update conn.id (decidedConn ctx accept)
            (decidedConn_id ctx accept) } } := by
  unfold decideTx at done
  split at done
  · cases done
  · next storeConnections won =>
    obtain ⟨current, found, guard, rfl⟩ := (Table.swap?_some _ _ _ _ _ _).mp won
    rw [decide_eq_true_eq] at guard
    cases done
    exact ⟨current, found, guard.2, rfl⟩

theorem setBlockedTx_ok (ctx : Ctx) (blocked : Bool) (reason : Option String)
    (conn : StoreConnection) (network network' : Network)
    (done : setBlockedTx ctx blocked reason conn network = .ok network') :
    network' = { network with
      db := { network.db with
        storeConnections := network.connections.update conn.id (markedConn ctx blocked reason)
          (markedConn_id ctx blocked reason) } } := by
  unfold setBlockedTx at done
  split at done
  · cases done
  · cases done
    rfl

theorem insertCounterparty_ok (counterparty : Counterparty) (network network' : Network)
    (done : insertCounterparty counterparty network = .ok network') :
    counterparty.connectedCompanyId ≠ some counterparty.companyId ∧
      counterparty.connectedCompanyId.any (fun other =>
        network.db.counterparties.any (naming counterparty.companyId other)) = false ∧
        ∃ counterparties, network.db.counterparties.insert? counterparty = some counterparties ∧
          network' = { network with db := { network.db with counterparties } } := by
  unfold insertCounterparty at done
  split_ifs at done with apart _ free
  split at done
  · cases done
  · next counterparties inserted =>
    cases done
    exact ⟨apart, Bool.not_eq_true _ ▸ free, counterparties, inserted, rfl⟩

theorem ensure_connections (pairs : List (Id × Id)) (missing : Bool) (s s' : Network)
    (next : Option Mark) (leads : connLeads (.ensure pairs missing) s s' next) :
    s'.connections = s.connections := by
  rcases pairs with _ | ⟨⟨owner, other⟩, rest⟩
  · rw [leads.1]
  · cases missing with
    | false => rw [leads.1]
    | true =>
        rcases leads with ⟨rfl, -⟩ | ⟨rfl, -⟩ | ⟨counterparty, -, done, -⟩
        · rfl
        · rfl
        · obtain ⟨-, -, counterparties, -, rfl⟩ := insertCounterparty_ok _ _ _ done
          rfl

variable (mark : Mark)

variable (s s' : Network)

variable (next : Option Mark)

theorem step_changed (leads : connLeads mark s s' next) (row : StoreConnection)
    (found : s.connections.find? row.id = some row) :
    ∃ row', s'.connections.find? row.id = some row' ∧ Changed mark row row' := by
  cases mark with
  | other =>
      obtain ⟨rfl, -⟩ := leads
      exact ⟨row, found, .same⟩
  | request me them =>
      rcases leads.2 with rfl | ⟨ctx, newId, note, -, done⟩
      · exact ⟨row, found, .same⟩
      · obtain ⟨-, -, storeConnections, inserted, rfl⟩ := insertConnection_ok _ _ _ done
        exact ⟨row, Table.find?_insert_of_found _ _ _ inserted _ _ found, .same⟩
  | decide me accept conn =>
      rcases leads with ⟨rfl, -⟩ | ⟨ctx, -, done, -⟩
      · exact ⟨row, found, .same⟩
      · obtain ⟨current, present, pending, rfl⟩ := decideTx_ok _ _ _ _ _ done
        refine ⟨_, Table.find?_update_of_found _ _ _ (decidedConn_id ctx accept) _ _ found, ?_⟩
        split
        · next same =>
          rw [← same, found] at present
          cases present
          exact .decided me accept conn ctx rfl same.symm pending
        · exact .same
  | setBlocked me blocked conn =>
      rcases leads.2 with ⟨rfl, -⟩ | ⟨ctx, reason, mine, done⟩
      · exact ⟨row, found, .same⟩
      · rw [setBlockedTx_ok _ _ _ _ _ _ done]
        refine ⟨_, Table.find?_update_of_found _ _ _ (markedConn_id ctx blocked reason) _ _ found,
          ?_⟩
        split
        · next same => exact .marked me blocked conn ctx reason rfl same.symm mine
        · exact .same
  | ensure pairs missing =>
      rw [ensure_connections pairs missing s s' next leads]
      exact ⟨row, found, .same⟩

theorem step_new (leads : connLeads mark s s' next) (id : Id)
    (missing : s.connections.find? id = none)
    (row : StoreConnection) (found : s'.connections.find? id = some row) :
    row.status = .pending := by
  have absurdly : s'.connections = s.connections → row.status = .pending := by
    intro same
    rw [same, missing] at found
    cases found
  cases mark with
  | other => exact absurdly (by rw [leads.1])
  | request me them =>
      rcases leads.2 with rfl | ⟨ctx, newId, note, -, done⟩
      · exact absurdly rfl
      · obtain ⟨-, -, storeConnections, inserted, rfl⟩ := insertConnection_ok _ _ _ done
        have present : storeConnections.find? id = some row := found
        rw [Table.find?_insert _ _ _ inserted] at present
        split at present
        · cases present
          rfl
        · rw [missing] at present
          cases present
  | decide me accept conn =>
      rcases leads with ⟨rfl, -⟩ | ⟨ctx, -, done, -⟩
      · exact absurdly rfl
      · obtain ⟨current, -, -, rfl⟩ := decideTx_ok _ _ _ _ _ done
        obtain ⟨old, present, -⟩ :=
          Table.find?_update_some _ _ _ (decidedConn_id ctx accept) _ _ found
        rw [missing] at present
        cases present
  | setBlocked me blocked conn =>
      rcases leads.2 with ⟨rfl, -⟩ | ⟨ctx, reason, -, done⟩
      · exact absurdly rfl
      · rw [setBlockedTx_ok _ _ _ _ _ _ done] at found
        obtain ⟨old, present, -⟩ :=
          Table.find?_update_some _ _ _ (markedConn_id ctx blocked reason) _ _ found
        rw [missing] at present
        cases present
  | ensure pairs ensured => exact absurdly (ensure_connections pairs ensured s s' next leads)

theorem changed_parties {mark : Mark} {row row' : StoreConnection}
    (changed : Changed mark row row') : row'.requesterCompanyId = row.requesterCompanyId ∧
      row'.addresseeCompanyId = row.addresseeCompanyId ∧ row'.id = row.id := by
  cases changed with
  | same => exact ⟨rfl, rfl, rfl⟩
  | decided me accept conn ctx own same pending => exact ⟨rfl, rfl, rfl⟩
  | marked me blocked conn ctx reason own same mine =>
      cases blocked with
      | true => exact ⟨rfl, rfl, rfl⟩
      | false => exact ⟨rfl, rfl, rfl⟩

theorem step_party (leads : connLeads mark s s' next) (held : Mark) (party : Party s held) :
    Party s' held := by
  cases held with
  | other => trivial
  | request me them => trivial
  | ensure pairs missing => trivial
  | decide me accept conn =>
      obtain ⟨current, found, requester, addressee, own⟩ := party
      have key : conn.id = current.id := (Table.key_of_find? _ _ _ found).symm
      rw [key] at found
      obtain ⟨row, later, changed⟩ := step_changed mark s s' next leads current found
      obtain ⟨asks, asked, -⟩ := changed_parties changed
      exact ⟨row, by rw [key]; exact later, asks.trans requester, asked.trans addressee, own⟩
  | setBlocked me blocked conn =>
      obtain ⟨may, current, found, own⟩ := party
      have key : conn.id = current.id := (Table.key_of_find? _ _ _ found).symm
      rw [key] at found
      obtain ⟨row, later, changed⟩ := step_changed mark s s' next leads current found
      obtain ⟨asks, asked, -⟩ := changed_parties changed
      refine ⟨may, row, by rw [key]; exact later, ?_⟩
      unfold involves at own ⊢
      rw [asks, asked]
      exact own

theorem samePair_of_parties {a a' b b' : StoreConnection}
    (asks : a'.requesterCompanyId = a.requesterCompanyId)
    (asked : a'.addresseeCompanyId = a.addresseeCompanyId)
    (asks' : b'.requesterCompanyId = b.requesterCompanyId)
    (asked' : b'.addresseeCompanyId = b.addresseeCompanyId) :
    samePair a' b' = samePair a b := by
  unfold samePair
  rw [asks, asked, asks', asked']

theorem samePair_symm (a b : StoreConnection) : samePair a b = samePair b a := by
  unfold samePair
  rw [decide_eq_decide]
  constructor
  · rintro (⟨asks, asked⟩ | ⟨asks, asked⟩)
    · exact .inl ⟨asks.symm, asked.symm⟩
    · exact .inr ⟨asked.symm, asks.symm⟩
  · rintro (⟨asks, asked⟩ | ⟨asks, asked⟩)
    · exact .inl ⟨asks.symm, asked.symm⟩
    · exact .inr ⟨asked.symm, asks.symm⟩

theorem step_rows (leads : connLeads mark s s' next) :
    (∃ f : StoreConnection → StoreConnection, s'.connections.rows = s.connections.rows.map f ∧
      ∀ row, (f row).requesterCompanyId = row.requesterCompanyId ∧
        (f row).addresseeCompanyId = row.addresseeCompanyId) ∨
      ∃ conn, s'.connections.rows = s.connections.rows ++ [conn] ∧
        conn.requesterCompanyId ≠ conn.addresseeCompanyId ∧
        ∀ row ∈ s.connections.rows, samePair conn row = false := by
  have idle : s'.connections = s.connections → ∃ f : StoreConnection → StoreConnection,
      s'.connections.rows = s.connections.rows.map f ∧
        ∀ row, (f row).requesterCompanyId = row.requesterCompanyId ∧
          (f row).addresseeCompanyId = row.addresseeCompanyId := by
    intro same
    exact ⟨id, by rw [same, List.map_id], fun _ => ⟨rfl, rfl⟩⟩
  cases mark with
  | other => exact .inl (idle (by rw [leads.1]))
  | request me them =>
      rcases leads.2 with rfl | ⟨ctx, newId, note, -, done⟩
      · exact .inl (idle rfl)
      · obtain ⟨apart, free, storeConnections, inserted, rfl⟩ := insertConnection_ok _ _ _ done
        exact .inr ⟨_, (Table.insert?_some _ _ _ inserted).1, apart, free⟩
  | decide me accept conn =>
      rcases leads with ⟨rfl, -⟩ | ⟨ctx, -, done, -⟩
      · exact .inl (idle rfl)
      · obtain ⟨current, -, -, rfl⟩ := decideTx_ok _ _ _ _ _ done
        refine .inl ⟨_, rfl, ?_⟩
        intro row
        split
        · exact ⟨rfl, rfl⟩
        · exact ⟨rfl, rfl⟩
  | setBlocked me blocked conn =>
      rcases leads.2 with ⟨rfl, -⟩ | ⟨ctx, reason, -, done⟩
      · exact .inl (idle rfl)
      · rw [setBlockedTx_ok _ _ _ _ _ _ done]
        refine .inl ⟨_, rfl, ?_⟩
        intro row
        cases blocked with
        | true => split <;> exact ⟨rfl, rfl⟩
        | false => split <;> exact ⟨rfl, rfl⟩
  | ensure pairs missing => exact .inl (idle (ensure_connections pairs missing s s' next leads))

theorem step_paired (leads : connLeads mark s s' next) (paired : Paired s) : Paired s' := by
  intro a memberA b memberB pair
  rcases step_rows mark s s' next leads with ⟨f, rows, parties⟩ | ⟨conn, rows, -, free⟩
  · rw [rows, List.mem_map] at memberA memberB
    obtain ⟨oldA, presentA, rfl⟩ := memberA
    obtain ⟨oldB, presentB, rfl⟩ := memberB
    rw [samePair_of_parties (parties oldA).1 (parties oldA).2 (parties oldB).1 (parties oldB).2]
      at pair
    rw [paired oldA presentA oldB presentB pair]
  · rw [rows, List.mem_append, List.mem_singleton] at memberA memberB
    rcases memberA with oldA | rfl
    · rcases memberB with oldB | rfl
      · exact paired a oldA b oldB pair
      · rw [samePair_symm, free a oldA] at pair
        cases pair
    · rcases memberB with oldB | rfl
      · rw [free b oldB] at pair
        cases pair
      · rfl

theorem step_next (leads : connLeads mark s s' next) :
    ∀ following, next = some following → Party s' following := by
  have plainly : Plain next → ∀ following, next = some following → Party s' following := by
    intro plain following own
    rw [plain following own]
    trivial
  have after : ∀ pairs, Party s' (afterPair pairs) := by
    intro pairs
    cases pairs with
    | nil => trivial
    | cons first rest => trivial
  cases mark with
  | other =>
      intro following own
      rw [leads.1]
      exact readFrom_party s following (leads.2 following own)
  | request me them => exact plainly leads.1
  | decide me accept conn =>
      rcases leads with ⟨-, none⟩ | ⟨ctx, -, -, own⟩
      · intro following some
        rw [none] at some
        cases some
      · intro following some
        rw [own] at some
        cases accept with
        | true => cases some; trivial
        | false => cases some; trivial
  | setBlocked me blocked conn => exact plainly leads.1
  | ensure pairs missing =>
      rcases pairs with _ | ⟨⟨owner, other⟩, rest⟩
      · exact plainly leads.2
      · intro following own
        cases missing with
        | false =>
            rw [leads.2] at own
            cases own
            split
            · exact after rest
            · trivial
        | true =>
            rcases leads with ⟨-, same⟩ | ⟨-, none, -⟩ | ⟨_, -, -, same⟩
            · rw [same] at own
              cases own
              trivial
            · rw [none] at own
              cases own
            · rw [same] at own
              cases own
              exact after rest

/-- `ux_store_connections_pair` holds, and a pending write is that of a company of the two. -/
def connProtocol : Protocol Network Mark where
  inv := Paired
  fits := Undisturbed
  leads := connLeads
  known m s := Party s m
  apart _ _ _ := True
  apart_symm _ _ _ _ := trivial
  own m s s' next paired _ _ leads :=
    ⟨step_paired m s s' next leads paired, step_next m s s' next leads⟩
  frame m s s' next held _ _ _ party _ leads :=
    ⟨step_party m s s' next leads held party, fun _ _ => trivial⟩
  rest _ _ _ _ _ _ _ _ _ _ _ := trivial

theorem call_enters (collation : Collation) (uuid : IdSource) (p : Request Unit)
    (call : Call collation uuid p) (s : Network) : connProtocol.Enters p s := by
  obtain ⟨walks, first⟩ := call_walks collation uuid p call
  refine ⟨walks, ?_, fun _ _ _ => trivial⟩
  intro mark own
  rw [first] at own
  cases own
  trivial

section Standing

variable (collation : Collation) (uuid : IdSource)

theorem step_accepted (leads : connLeads mark s s' next) (party : Party s mark) (id : Id)
    (before : statusOf s id ≠ some .accepted) (after : statusOf s' id = some .accepted) :
    ∃ me conn, mark = .decide me true conn ∧ conn.id = id ∧
      ∃ row, s.connections.find? id = some row ∧ row.addresseeCompanyId = me := by
  unfold statusOf at before after
  rcases found : s.connections.find? id with _ | row
  · obtain ⟨row', later, accepted⟩ := Option.map_eq_some_iff.mp after
    have pending := step_new mark s s' next leads id found row' later
    rw [pending] at accepted
    cases accepted
  · obtain rfl := Table.key_of_find? _ _ _ found
    obtain ⟨row', later, changed⟩ := step_changed mark s s' next leads row found
    rw [found] at before
    rw [later] at after
    cases changed with
    | same => exact absurd after before
    | decided me accept conn ctx own same pending =>
        cases accept with
        | true =>
            rw [own] at party
            obtain ⟨current, present, -, addressee, -⟩ := party
            rw [same, found] at present
            cases present
            exact ⟨me, conn, own, same, row, rfl, addressee⟩
        | false => cases after
    | marked me blocked conn ctx reason own same mine =>
        cases blocked with
        | true => cases after
        | false => cases after

theorem accepted_by_addressee (c c' : Config Network Mark Refusal Unit)
    (sound : connProtocol.Sound c) (run : Runs collation uuid Undisturbed c c') (id : Id)
    (before : statusOf c.store id ≠ some .accepted)
    (after : statusOf c'.store id = some .accepted) :
    AcceptedByAddressee collation uuid Undisturbed c c' id := by
  induction run with
  | refl => exact absurd after before
  | @tail middle last first taken ih =>
      by_cases already : statusOf middle.store id = some .accepted
      · obtain ⟨asked, index, me, conn, run, pending, same, party, accepted, stays⟩ := ih already
        exact ⟨asked, index, me, conn, run, pending, same, party, accepted,
          .tail stays ⟨taken, after⟩⟩
      · have middleSound := connProtocol.run_sound _ _ _
          (fun p call s _ => call_enters collation uuid p call s) first sound
        rcases taken.moves with store | ⟨index, mark, pending, fit, rfl⟩
        · rw [store] at after
          exact absurd after already
        · obtain ⟨party, next, leads⟩ := middleSound.moved connProtocol index mark pending
          obtain ⟨me, conn, rfl, same, row⟩ :=
            step_accepted mark _ _ next leads party id already after
          exact ⟨middle, index, me, conn, first, pending, same, row, after, .refl⟩

def BlockedBy (me id : Id) (network : Network) : Prop :=
  ∃ row, network.connections.find? id = some row ∧ row.status = .blocked ∧
    row.blockedByCompanyId = some me

theorem mayBlock_blocked (me : Id) (blocked : Bool) (conn : StoreConnection)
    (may : mayBlock me blocked conn = .ok ()) (status : conn.status = .blocked) :
    blocked = false ∧ conn.blockedByCompanyId = some me := by
  unfold mayBlock at may
  cases blocked with
  | true =>
      rw [if_pos rfl, if_pos status] at may
      cases may
  | false =>
      rw [if_neg Bool.false_ne_true, if_neg (not_not_intro status)] at may
      split at may
      · cases may
      · next blocker => exact ⟨rfl, not_not.mp blocker⟩

theorem step_blocked (leads : connLeads mark s s' next) (party : Party s mark) (me id : Id)
    (fit : Undisturbed s mark) (keeps : ¬Lifts me id mark) (blocked : BlockedBy me id s) :
    BlockedBy me id s' := by
  obtain ⟨row, found, status, blocker⟩ := blocked
  obtain rfl := Table.key_of_find? _ _ _ found
  obtain ⟨row', later, changed⟩ := step_changed mark s s' next leads row found
  refine ⟨row', later, ?_⟩
  cases changed with
  | same => exact ⟨status, blocker⟩
  | decided other accept conn ctx own same pending =>
      rw [pending] at status
      cases status
  | marked other blocks conn ctx reason own same mine =>
      rw [own] at fit party keeps
      have read : conn = row := by
        have present := fit.1
        rw [same, found] at present
        exact (Option.some.inj present).symm
      rw [read] at party
      obtain ⟨rfl, allowed⟩ := mayBlock_blocked other blocks row party.1 status
      rw [blocker] at allowed
      exact absurd ⟨(Option.some.inj allowed).symm, rfl, same⟩ keeps

theorem block_blocks (me : Id) (conn : StoreConnection)
    (leads : connLeads (.setBlocked me true conn) s s' next)
    (party : Party s (.setBlocked me true conn)) : BlockedBy me conn.id s' := by
  obtain ⟨-, current, found, -⟩ := party
  rcases leads.2 with ⟨-, none⟩ | ⟨ctx, reason, mine, done⟩
  · rw [none] at found
    cases found
  · rw [setBlockedTx_ok _ _ _ _ _ _ done]
    refine ⟨_, Table.find?_update_of_found _ _ _ (markedConn_id ctx true reason) _ _ found, ?_⟩
    rw [if_pos rfl]
    exact ⟨rfl, congrArg some mine⟩

def RejectedBy (me id : Id) (network : Network) : Prop :=
  ∃ row, network.connections.find? id = some row ∧ row.status = .rejected ∧
    row.addresseeCompanyId = me

theorem step_rejected (leads : connLeads mark s s' next) (me id : Id) (party : Party s mark)
    (fit : Undisturbed s mark)
    (keeps : ¬Acts me id mark) (rejected : RejectedBy me id s) : RejectedBy me id s' := by
  obtain ⟨row, found, status, addressee⟩ := rejected
  obtain rfl := Table.key_of_find? _ _ _ found
  obtain ⟨row', later, changed⟩ := step_changed mark s s' next leads row found
  refine ⟨row', later, ?_⟩
  cases changed with
  | same => exact ⟨status, addressee⟩
  | decided other accept conn ctx own same pending =>
      rw [pending] at status
      cases status
  | marked other blocks conn ctx reason own same mine =>
      -- the writer is one of the two: not the one who asked, so the addressee
      rw [own] at party fit keeps
      obtain ⟨-, current, present, involved⟩ := party
      obtain ⟨read, asked⟩ := fit
      rw [same, found] at present read
      cases present
      cases read
      rcases of_decide_eq_true involved with asks | answers
      · exact absurd status (asked asks)
      · exact absurd ⟨answers.symm.trans addressee, same⟩ keeps

/-- One connection for two companies; accepted by the addressee alone; a block stands until its
company lifts it, and a rejection until the addressee acts. -/
theorem consents_of_run (store : Network) (paired : Paired store)
    (c : Config Network Mark Refusal Unit)
    (run : Runs collation uuid Undisturbed (.idle store) c) :
      Consents collation uuid Undisturbed c := by
  have enters : ∀ p, Call collation uuid p → ∀ s, connProtocol.inv s → connProtocol.Enters p s :=
    fun p call s _ => call_enters collation uuid p call s
  have sound := connProtocol.run_sound _ _ _ enters run (connProtocol.sound_idle store paired)
  refine ⟨sound.inv, ?_, ?_, ?_⟩
  · intro c' onward id before after
    exact accepted_by_addressee collation uuid c c' sound onward id before after
  · intro index me conn pending fit c' onward
    obtain ⟨party, next, leads⟩ := sound.moved connProtocol index _ pending
    have moved := connProtocol.step_sound _ _ _ (fun p call => enters p call _ sound.inv)
      (fitting_advance _ _ c index _ pending fit) sound
    obtain ⟨-, row, found, status, -⟩ := moved.keeps connProtocol (fun _ _ both => both.1) enters
      (BlockedBy me conn.id)
      (fun m s s' next _ both party leads =>
        step_blocked m s s' next leads party me conn.id both.1 both.2)
      onward (block_blocks _ _ next me conn leads party)
    unfold statusOf
    rw [found, Option.map_some, status]
  · intro row member rejected c' onward
    obtain ⟨-, last, found, status, -⟩ := sound.keeps connProtocol (fun _ _ both => both.1) enters
      (RejectedBy row.addresseeCompanyId row.id)
      (fun m s s' next _ both party leads =>
        step_rejected m s s' next leads _ _ party both.1 both.2)
      onward ⟨row, (Table.find?_some _ _ _).mpr ⟨member, rfl⟩, rejected, rfl⟩
    unfold statusOf
    rw [found, Option.map_some, status]

end Standing

instance (me id : Id) : (mark : Mark) → Decidable (Acts me id mark)
  | .setBlocked writer _ conn => inferInstanceAs (Decidable (writer = me ∧ conn.id = id))
  | .decide writer _ conn => inferInstanceAs (Decidable (writer = me ∧ conn.id = id))
  | .other => .isFalse not_false
  | .request _ _ => .isFalse not_false
  | .ensure _ _ => .isFalse not_false

instance (network : Network) : (mark : Mark) → Decidable (Undisturbed network mark)
  | .setBlocked me _ conn => inferInstanceAs (Decidable
      (network.connections.find? conn.id = some conn ∧
        (conn.requesterCompanyId = me → conn.status ≠ .rejected)))
  | .other => .isTrue trivial
  | .request _ _ => .isTrue trivial
  | .decide _ _ _ => .isTrue trivial
  | .ensure _ _ => .isTrue trivial

def shop (id : Id) (name publicStoreId : String) (named : blank (some name) = false := by decide) :
    Company where
  id := id
  name := name
  publicStoreId := publicStoreId
  isDiscoverable := true
  named := named

def asking : Ctx := ⟨1, none, none, 0⟩

def asked : Ctx := ⟨2, none, none, 0⟩

def connected (status : ConnectionStatus) : Network where
  companies := ⟨[shop 1 "Accra" "00000000A1", shop 2 "Kumasi" "00000000B2"], by decide⟩
  db := { storeConnections := ⟨[⟨50, 1, 2, status, none, none, none, none, none, none, none, 0⟩],
    List.nodup_singleton _⟩ }

theorem connected_paired (status : ConnectionStatus) : Paired (connected status) := by
  intro a memberA b memberB _
  rw [List.mem_singleton.mp memberA, List.mem_singleton.mp memberB]

def blockCall (ctx : Ctx) (blocked : Bool) : Move Network Mark Refusal Unit :=
  .arrive (setBlocked ctx 50 blocked none).void

theorem blockCall_issued (collation : Collation) (uuid : IdSource) (ctx : Ctx) (blocked : Bool)
    (p : Request Unit) (same : Move.arrive p = blockCall ctx blocked) :
    Call collation uuid p := by
  cases same
  exact .setBlocked ctx 50 blocked none

/-- The shop that was rejected blocks and unblocks, and its request is pending again. -/
theorem rejection_overwritten :
    ¬ ∀ (collation : Collation) (uuid : IdSource) (store : Network), Paired store →
      ∀ c, Runs collation uuid (fun _ _ => True) (.idle store) c →
        Consents collation uuid (fun _ _ => True) c := by
  intro claim
  have consents := claim .binary .counting (connected .rejected) (connected_paired _) _ .refl
  have run := fitting_schedule (Call .binary .counting)
    (fun _ mark => True ∧ ¬Acts 2 50 mark) (.idle (connected .rejected))
    [blockCall asking true, .advance 0, .advance 0, blockCall asking false, .advance 1, .advance 1]
    (by
      intro p member
      simp only [List.mem_cons, List.not_mem_nil, reduceCtorEq, or_false, false_or] at member
      rcases member with same | same
      · exact blockCall_issued _ _ _ _ p same
      · exact blockCall_issued _ _ _ _ p same)
    (by decide +kernel)
  have still := consents.rejected _ (List.mem_singleton.mpr rfl) rfl _ run
  revert still
  decide +kernel

-- of two blocks that cross, the second one's company lifts both
example : (((Config.idle (connected .accepted)).schedule
    [blockCall asking true, blockCall asked true, .advance 0, .advance 1, .advance 0, .advance 1,
      blockCall asked false, .advance 2, .advance 2]).store.connections.find? 50).map
        StoreConnection.status = some .pending := by
  decide +kernel

/-- The shop that was asked accepts, and the shop that asked blocks it and lifts the block. -/
def acceptedThenBlocked : List (Move Network Mark Refusal Unit) :=
  [.arrive (decide .counting asked 50 true none).void] ++ List.replicate 9 (.advance 0) ++
    [blockCall asking true, .advance 1, .advance 1, blockCall asking false, .advance 2, .advance 2]

theorem consents_of_run_acceptance :
    Consents .binary .counting Undisturbed
      ((Config.idle (connected .pending)).schedule acceptedThenBlocked) := by
  refine consents_of_run .binary .counting (connected .pending) (connected_paired _) _
    (fitting_schedule _ _ _ _ ?_ (by decide +kernel))
  intro p member
  simp only [acceptedThenBlocked, List.replicate, List.cons_append, List.nil_append,
    List.mem_cons, List.not_mem_nil, reduceCtorEq, or_false, false_or] at member
  rcases member with same | same | same
  · cases same
    exact .decide asked 50 true none
  · exact blockCall_issued _ _ _ _ p same
  · exact blockCall_issued _ _ _ _ p same

end ErpBackend.Connections
