import ErpBackend.Foundation.Pages
import ErpBackend.Connections.Consent

/-!
# Companies that are not there

Two databases, one with the companies that a searcher may not learn of and one
without them. What a search or a request answers is compared between the two.
-/

namespace ErpBackend.Connections

open Foundation

/-- Another company that is inactive, not discoverable, or in a blocked relationship with me. -/
def hidden (network : Network) (me id : Id) : Bool :=
  id ≠ me ∧ (id ∈ blockedCompanyIds network me ∨ network.companies.any (fun company =>
    company.id = id ∧ ¬(company.isDiscoverable ∧ company.isActive)))

def withHidden (network : Network) (me : Id) (conn : StoreConnection) : Bool :=
  hidden network me conn.requesterCompanyId || hidden network me conn.addresseeCompanyId

/-- The company rows and the connection rows of hidden companies removed. -/
def Network.without (network : Network) (me : Id) : Network where
  companies := network.companies.delete (fun company => hidden network me company.id)
  db := { network.db with
    storeConnections := network.connections.delete (withHidden network me) }

/-- `companies_public_store_id_key`, as the database compares. -/
def UniqueStoreIds (collation : Collation) (network : Network) : Prop :=
  ∀ text, ∀ a ∈ network.companies.rows, ∀ b ∈ network.companies.rows,
    collation.same a.publicStoreId text = true → collation.same b.publicStoreId text = true → a = b

variable (network : Network)

theorem mem_blocked (me id : Id) :
    id ∈ blockedCompanyIds network me ↔ id ≠ me ∧ ∃ conn ∈ network.connections.rows,
      conn.status = .blocked ∧ involves conn me = true ∧
        (conn.requesterCompanyId = id ∨ conn.addresseeCompanyId = id) := by
  unfold blockedCompanyIds
  rw [List.mem_filter, decide_eq_true_eq, List.mem_flatMap, and_comm]
  constructor
  · rintro ⟨other, conn, member, one⟩
    obtain ⟨present, blocked⟩ := (Table.mem_filter _ _ _).mp member
    obtain ⟨status, own⟩ := of_decide_eq_true blocked
    refine ⟨other, conn, present, status, own, ?_⟩
    simp only [List.mem_cons, List.not_mem_nil, or_false] at one
    exact one.imp Eq.symm Eq.symm
  · rintro ⟨other, conn, present, status, own, one⟩
    refine ⟨other, conn, (Table.mem_filter _ _ _).mpr ⟨present, decide_eq_true ⟨status, own⟩⟩, ?_⟩
    simp only [List.mem_cons, List.not_mem_nil, or_false]
    exact one.imp Eq.symm Eq.symm

@[simp]
theorem hidden_me (me : Id) : hidden network me me = false := by
  simp [hidden]

theorem hidden_of_blocked (me id : Id)
    (blocked : id ∈ blockedCompanyIds network me) : hidden network me id = true := by
  have other := ((mem_blocked network me id).mp blocked).1
  exact decide_eq_true ⟨other, .inl blocked⟩

theorem hidden_found (me : Id) (company : Company)
    (member : company ∈ network.companies.rows)
    (shown : company.isDiscoverable = true ∧ company.isActive = true) :
    hidden network me company.id = true ↔ company.id ∈ blockedCompanyIds network me := by
  constructor
  · intro is_hidden
    rcases (of_decide_eq_true is_hidden).2 with blocks | away
    · exact blocks
    · obtain ⟨row, inside, same⟩ := (Table.any_eq_true _ _).mp away
      obtain ⟨same, dark⟩ := of_decide_eq_true same
      rw [network.companies.key_injective row company inside member same] at dark
      exact absurd shown dark
  · exact hidden_of_blocked network me company.id

theorem blocked_without (me : Id) :
    blockedCompanyIds (network.without me) me = [] := by
  rw [List.eq_nil_iff_forall_not_mem]
  intro id blocked
  obtain ⟨other, conn, member, status, own, one⟩ := (mem_blocked _ me id).mp blocked
  obtain ⟨present, kept⟩ := List.mem_filter.mp member
  have before : id ∈ blockedCompanyIds network me :=
    (mem_blocked network me id).mpr ⟨other, conn, present, status, own, one⟩
  have gone := hidden_of_blocked network me id before
  unfold withHidden at kept
  rcases one with rfl | rfl
  · rw [gone] at kept
    cases kept
  · rw [gone, Bool.or_true] at kept
    cases kept

def visible (network : Network) (me : Id) (company : Company) : Bool :=
  !hidden network me company.id

variable (collation : Collation)

variable (network : Network)

theorem mem_found (parsed : ParsedQuery)
    (company : Company) (member : company ∈ found collation network parsed) :
    company ∈ network.companies.rows ∧ company.isDiscoverable = true ∧
      company.isActive = true := by
  have inside := (List.mem_insertionSort _).mp member
  obtain ⟨present, passes⟩ := (Table.mem_filter _ _ _).mp inside
  exact ⟨present, (of_decide_eq_true passes).2⟩

theorem found_without (me : Id)
    (parsed : ParsedQuery) :
    found collation (network.without me) parsed =
      (found collation network parsed).filter (visible network me) := by
  have order : IsTrans Company (fun a b => collation.upTo a.name b.name = true) :=
    ⟨fun a b c => collation.trans a.name b.name c.name⟩
  have total : Std.Total (fun a b : Company => collation.upTo a.name b.name = true) :=
    ⟨fun a b => collation.total a.name b.name⟩
  unfold found
  rw [filter_insertionSort]
  congr 1
  simp only [Table.filter, Network.without, Table.delete, List.filter_filter]
  congr 1
  funext company
  rw [Bool.and_comm]
  rfl

theorem search_run (ctx : Ctx) (rawQuery : String) (network : Network) :
    ((search collation ctx rawQuery).run network).2 = (parseQuery rawQuery).map (fun parsed =>
      ((((found collation network parsed).take maxResults).filter (fun company =>
        company.id ∉ blockedCompanyIds network ctx.companyId)).filter (fun company =>
          company.id ≠ ctx.companyId)).map toPublicPreview) := by
  unfold search
  rcases parseQuery rawQuery with refusal | parsed
  · rfl
  · change ((if ((found collation network parsed).take maxResults).isEmpty then _ else _ :
      Request (List PublicStorePreview)).run network).2 = _
    split
    · next none =>
      have nobody : (found collation network parsed).take maxResults = [] :=
        List.isEmpty_iff.mp none
      simp only [Except.map, nobody]
      rfl
    · change Except.ok _ = Except.ok _
      congr 2
      rw [List.filter_filter]
      apply List.filter_congr
      intro company _
      unfold isVisibleInSearch
      by_cases self : company.id = ctx.companyId
      · simp [self]
      · simp [self]

/-- The companies from behind the limit that take the places of hidden ones. -/
def filling (collation : Collation) (network : Network) (me : Id) (rawQuery : String) :
    List Company :=
  match parseQuery rawQuery with
  | .ok parsed => movedUp maxResults (visible network me) (found collation network parsed)
  | .error _ => []

theorem search_without_iff (ctx : Ctx)
    (rawQuery : String) :
    ((search collation ctx rawQuery).run network).2 =
        ((search collation ctx rawQuery).run (network.without ctx.companyId)).2 ↔
      ∀ company ∈ filling collation network ctx.companyId rawQuery,
        company.id = ctx.companyId := by
  rw [search_run, search_run]
  unfold filling
  rcases parseQuery rawQuery with refusal | parsed
  · simp [Except.map]
  · have seen : ((found collation network parsed).take maxResults).filter (fun company =>
        company.id ∉ blockedCompanyIds network ctx.companyId) =
          ((found collation network parsed).take maxResults).filter
            (visible network ctx.companyId) := by
      apply List.filter_congr
      intro company member
      obtain ⟨inside, shown⟩ := mem_found collation network parsed company
        (List.mem_of_mem_take member)
      unfold visible
      rw [← Bool.coe_iff_coe, decide_eq_true_eq, Bool.not_eq_true',
        ← hidden_found network ctx.companyId company inside shown, Bool.not_eq_true]
    have all : ((found collation (network.without ctx.companyId) parsed).take
        maxResults).filter (fun company => company.id ∉
          blockedCompanyIds (network.without ctx.companyId) ctx.companyId) =
        (found collation (network.without ctx.companyId) parsed).take maxResults := by
      rw [blocked_without]
      simp
    simp only [Except.map, Except.ok.injEq]
    rw [seen, all, found_without, page_eq_iff]
    simp

/-- The request goes through: the store is there, and nothing stands between the two. -/
def Asks (collation : Collation) (network : Network) (me : Id) (publicStoreId : String) : Prop :=
  ∃ them, findStore collation network publicStoreId = some them ∧ them.id ≠ me ∧
    network.connections.rows.find? (between me them.id) = none

theorem request_run (ctx : Ctx) (newId : Id) (publicStoreId : String)
    (note : Option String) (network : Network) :
    ((request collation ctx newId publicStoreId note).run network).2 =
      match (findStore collation network publicStoreId).filter
          (fun company => company.id ≠ ctx.companyId) with
      | none => .error noSuchStore
      | some them =>
          match network.connections.rows.find? (between ctx.companyId them.id) with
          | some conn => .error (alreadyThere conn.status)
          | none => (insertConnection (newConnection ctx newId them.id note) network).map
              (fun inserted => (listed inserted ctx.companyId).map
                (viewOf inserted ctx.companyId)) := by
  unfold request
  change ((Prog.expect noSuchStore ((findStore collation network publicStoreId).filter
    (fun company => company.id ≠ ctx.companyId)) >>= _ : Request (List ConnectionView)).run
      network).2 = _
  generalize (findStore collation network publicStoreId).filter
    (fun company => company.id ≠ ctx.companyId) = store
  rcases store with _ | them
  · rfl
  dsimp only
  change ((match network.connections.rows.find? (between ctx.companyId them.id) with
    | some conn => _
    | none => _ : Request (List ConnectionView)).run network).2 = _
  generalize network.connections.rows.find? (between ctx.companyId them.id) = existing
  rcases existing with _ | conn
  · dsimp only
    rw [Prog.run_bind, Prog.commit_run]
    generalize insertConnection (newConnection ctx newId them.id note) network = outcome
    rcases outcome with refusal | inserted
    · rfl
    · rfl
  · rfl

theorem findStore_without (me : Id)
    (unique : UniqueStoreIds collation network) (publicStoreId : String) :
    findStore collation (network.without me) publicStoreId =
      (findStore collation network publicStoreId).filter (visible network me) := by
  apply find?_filter_of_unique
  intro a memberA b memberB matchA matchB
  rw [decide_eq_true_eq] at matchA matchB
  exact unique _ a memberA b memberB matchA.1 matchB.1

theorem findStore_some (publicStoreId : String)
    (them : Company) (store : findStore collation network publicStoreId = some them) :
    them ∈ network.companies.rows ∧ them.isDiscoverable = true ∧ them.isActive = true := by
  unfold findStore at store
  have passes := List.find?_some store
  rw [decide_eq_true_eq] at passes
  exact ⟨List.mem_of_find?_eq_some store, passes.2⟩

theorem samePair_of_between (me them : Id) (a b : StoreConnection)
    (first : between me them a = true) (second : between me them b = true) :
    samePair a b = true := by
  unfold between at first second
  unfold samePair
  rw [decide_eq_true_eq] at first second ⊢
  rcases first with ⟨asks, asked⟩ | ⟨asks, asked⟩
  · rcases second with ⟨asks', asked'⟩ | ⟨asks', asked'⟩
    · exact .inl ⟨asks.trans asks'.symm, asked.trans asked'.symm⟩
    · exact .inr ⟨asks.trans asked'.symm, asked.trans asks'.symm⟩
  · rcases second with ⟨asks', asked'⟩ | ⟨asks', asked'⟩
    · exact .inr ⟨asks.trans asked'.symm, asked.trans asks'.symm⟩
    · exact .inl ⟨asks.trans asks'.symm, asked.trans asked'.symm⟩

theorem blocked_between (me : Id) (paired : Paired network) (them : Company)
    (member : them ∈ network.companies.rows)
    (shown : them.isDiscoverable = true ∧ them.isActive = true)
    (gone : hidden network me them.id = true) :
    ∃ conn, network.connections.rows.find? (between me them.id) = some conn ∧
      conn.status = .blocked := by
  obtain ⟨other, conn, present, status, own, one⟩ :=
    (mem_blocked network me them.id).mp ((hidden_found network me them member shown).mp gone)
  have ours : between me them.id conn = true := by
    unfold involves at own
    unfold between
    rw [decide_eq_true_eq] at own ⊢
    rcases own with asks | asked
    · refine .inl ⟨asks, one.resolve_left ?_⟩
      intro same
      exact other (same.symm.trans asks)
    · refine .inr ⟨one.resolve_right ?_, asked⟩
      intro same
      exact other (same.symm.trans asked)
  rcases found : network.connections.rows.find? (between me them.id) with _ | first
  · exact absurd ours (List.find?_eq_none.mp found conn present)
  · have same := paired first (List.mem_of_find?_eq_some found) conn present
      (samePair_of_between me them.id first conn (List.find?_some found) ours)
    exact ⟨first, rfl, by rw [same, status]⟩

theorem withHidden_between (me them : Id) (conn : StoreConnection)
    (ours : between me them conn = true) (seen : hidden network me them = false) :
    withHidden network me conn = false := by
  unfold between at ours
  unfold withHidden
  rcases of_decide_eq_true ours with ⟨asks, asked⟩ | ⟨asks, asked⟩
  · rw [asks, asked, hidden_me, seen, Bool.or_false]
  · rw [asks, asked, hidden_me, seen, Bool.or_false]

theorem between_without (me them : Id) (paired : Paired network)
    (seen : hidden network me them = false) :
    (network.without me).connections.rows.find? (between me them) =
      network.connections.rows.find? (between me them) := by
  have only : (network.without me).connections.rows.find? (between me them) =
      (network.connections.rows.find? (between me them)).filter
        (fun conn => !withHidden network me conn) := by
    apply find?_filter_of_unique
    intro a memberA b memberB matchA matchB
    exact paired a memberA b memberB (samePair_of_between me them a b matchA matchB)
  rw [only]
  rcases found : network.connections.rows.find? (between me them) with _ | conn
  · rfl
  · rw [Option.filter_some,
      withHidden_between network me them conn (List.find?_some found) seen]
    rfl

theorem request_refused_without (ctx : Ctx)
    (unique : UniqueStoreIds collation network) (paired : Paired network) (newId : Id)
    (publicStoreId : String) (note : Option String)
    (refused : ¬Asks collation network ctx.companyId publicStoreId) :
    ((request collation ctx newId publicStoreId note).run network).2 =
      ((request collation ctx newId publicStoreId note).run
        (network.without ctx.companyId)).2 := by
  rw [request_run, request_run, findStore_without collation network _ unique]
  rcases store : findStore collation network publicStoreId with _ | them
  · rfl
  obtain ⟨member, shown⟩ := findStore_some collation network publicStoreId them store
  by_cases self : them.id = ctx.companyId
  · have mine : visible network ctx.companyId them = true := by
      simp [visible, self]
    simp [Option.filter_some, mine, self]
  · rcases gone : hidden network ctx.companyId them.id with _ | _
    · have seen : visible network ctx.companyId them = true := by
        simp [visible, gone]
      simp only [Option.filter_some, seen, self, ne_eq, not_false_eq_true, decide_true, if_true,
        between_without network _ _ paired gone]
      rcases between_us : network.connections.rows.find? (between ctx.companyId them.id) with
        _ | conn
      · exact absurd ⟨them, store, self, between_us⟩ refused
      · rfl
    · have unseen : visible network ctx.companyId them = false := by
        simp [visible, gone]
      obtain ⟨conn, found, status⟩ :=
        blocked_between network ctx.companyId paired them member shown gone
      simp [Option.filter_some, unseen, self, found, status, alreadyThere]

def ownConnections (network : Network) (me : Id) : List StoreConnection :=
  (network.connections.filter (involves · me)).reverse

theorem insertConnection_fresh (ctx : Ctx) (newId them : Id) (note : Option String)
    (network : Network) (other : them ≠ ctx.companyId)
    (free : network.connections.rows.find? (between ctx.companyId them) = none)
    (fresh : network.connections.find? newId = none) :
    ∃ inserted, insertConnection (newConnection ctx newId them note) network = .ok inserted ∧
      inserted.companies = network.companies ∧
        inserted.connections.rows =
          network.connections.rows ++ [newConnection ctx newId them note] := by
  have unused : newId ∉ network.connections.rows.map StoreConnection.id := by
    intro member
    obtain ⟨conn, present, same⟩ := List.mem_map.mp member
    exact (Table.find?_none _ _).mp fresh conn present same
  obtain ⟨storeConnections, done⟩ := Table.insert?_of_fresh network.connections
    (newConnection ctx newId them note) unused
  have apart : network.connections.any (samePair (newConnection ctx newId them note)) = false := by
    rw [Table.any_eq_false]
    intro conn member
    have misses := List.find?_eq_none.mp free conn member
    rw [Bool.eq_false_iff]
    intro pair
    apply misses
    unfold samePair at pair
    unfold between
    rw [decide_eq_true_eq] at pair ⊢
    rcases pair with ⟨asks, asked⟩ | ⟨asks, asked⟩
    · exact .inl ⟨asks.symm, asked.symm⟩
    · exact .inr ⟨asked.symm, asks.symm⟩
  have twoOfThem : (newConnection ctx newId them note).requesterCompanyId ≠
      (newConnection ctx newId them note).addresseeCompanyId := Ne.symm other
  refine ⟨{ network with db := { network.db with storeConnections } }, ?_, rfl,
    (Table.insert?_some _ _ _ done).1⟩
  unfold insertConnection
  rw [if_neg twoOfThem, apart, if_neg Bool.false_ne_true, done]

theorem viewOf_without (me : Id) (conn : StoreConnection)
    (seen : withHidden network me conn = false) :
    viewOf (network.without me) me conn = viewOf network me conn := by
  obtain ⟨asks, asked⟩ := Bool.or_eq_false_iff.mp seen
  have stays : ∀ id, hidden network me id = false →
      (network.without me).companies.find? id = network.companies.find? id := by
    intro id shown
    have only : (network.without me).companies.find? id = (network.companies.find? id).filter
        (fun company => !hidden network me company.id) := by
      apply find?_filter_of_unique
      intro a memberA b memberB matchA matchB
      rw [decide_eq_true_eq] at matchA matchB
      exact network.companies.key_injective a b memberA memberB (matchA.trans matchB.symm)
    rw [only]
    rcases found : network.companies.find? id with _ | company
    · rfl
    · rw [Option.filter_some, Table.key_of_find? _ _ _ found, shown]
      rfl
  have them : (network.without me).companies.find?
      (if (Decidable.decide (conn.requesterCompanyId = me)) then conn.addresseeCompanyId
        else conn.requesterCompanyId) = network.companies.find?
      (if (Decidable.decide (conn.requesterCompanyId = me)) then conn.addresseeCompanyId
        else conn.requesterCompanyId) := by
    apply stays
    split
    · exact asked
    · exact asks
  simp only [viewOf, them]

theorem viewOf_inserted (network inserted : Network) (me : Id) (conn : StoreConnection)
    (companies : inserted.companies = network.companies) :
    viewOf inserted me conn = viewOf network me conn := by
  simp only [viewOf, companies]

theorem own_inserted (network inserted : Network) (me : Id) (conn : StoreConnection)
    (rows : inserted.connections.rows = network.connections.rows ++ [conn])
    (own : involves conn me = true) :
    ownConnections inserted me = conn :: ownConnections network me := by
  unfold ownConnections Table.filter
  rw [rows, List.filter_append, List.reverse_append, List.filter_singleton, own]
  rfl

theorem own_without (me : Id) :
    ownConnections (network.without me) me =
      (ownConnections network me).filter (fun conn => !withHidden network me conn) := by
  unfold ownConnections
  rw [List.filter_reverse]
  simp only [Table.filter, Network.without, Network.connections, Table.delete, List.filter_filter]
  congr 2
  funext conn
  rw [Bool.and_comm]

/-- A request that goes through does so without the hidden companies as well. Both answer with
the connections of the one who asked, and these are the same exactly when no other connection
that is shown is with a hidden company. -/
theorem request_asks_without (ctx : Ctx)
    (unique : UniqueStoreIds collation network) (paired : Paired network) (newId : Id)
    (fresh : network.connections.find? newId = none) (publicStoreId : String)
    (note : Option String) (asks : Asks collation network ctx.companyId publicStoreId) :
    ∃ rows rows',
      ((request collation ctx newId publicStoreId note).run network).2 = .ok rows ∧
        ((request collation ctx newId publicStoreId note).run
          (network.without ctx.companyId)).2 = .ok rows' ∧
        (rows = rows' ↔ ∀ conn ∈ (ownConnections network ctx.companyId).take 199,
          withHidden network ctx.companyId conn = false) := by
  obtain ⟨them, store, other, free⟩ := asks
  obtain ⟨member, shown⟩ := findStore_some collation network publicStoreId them store
  have seen : hidden network ctx.companyId them.id = false := by
    rw [Bool.eq_false_iff]
    intro gone
    obtain ⟨conn, found, -⟩ := blocked_between network ctx.companyId paired them member shown gone
    rw [free] at found
    cases found
  have stands : visible network ctx.companyId them = true := by
    simp [visible, seen]
  have free' := between_without network ctx.companyId them.id paired seen
  rw [free] at free'
  have fresh' : (network.without ctx.companyId).connections.find? newId = none := by
    rw [Table.find?_none] at fresh ⊢
    intro conn inside
    exact fresh conn (List.mem_filter.mp inside).1
  obtain ⟨inserted, done, companies, rows⟩ :=
    insertConnection_fresh ctx newId them.id note network other free fresh
  obtain ⟨inserted', done', companies', rows'⟩ :=
    insertConnection_fresh ctx newId them.id note (network.without ctx.companyId) other free' fresh'
  refine ⟨(listed inserted ctx.companyId).map (viewOf inserted ctx.companyId),
    (listed inserted' ctx.companyId).map (viewOf inserted' ctx.companyId), ?_, ?_, ?_⟩
  · rw [request_run, store]
    simp [Option.filter_some, other, free, done, Except.map]
  · rw [request_run, findStore_without collation network _ unique, store]
    simp [Option.filter_some, other, stands, free', done', Except.map]
  · have own : involves (newConnection ctx newId them.id note) ctx.companyId = true := by
      simp [involves, newConnection]
    have unhidden : withHidden network ctx.companyId (newConnection ctx newId them.id note) =
        false := by
      simp [withHidden, newConnection, seen]
    have all := own_inserted network inserted ctx.companyId _ rows own
    have kept := own_inserted (network.without ctx.companyId) inserted' ctx.companyId _ rows' own
    rw [own_without] at kept
    have kept : ownConnections inserted' ctx.companyId =
        (ownConnections inserted ctx.companyId).filter
          (fun conn => !withHidden network ctx.companyId conn) := by
      rw [kept, all, List.filter_cons, unhidden]
      rfl
    have apart : ∀ a ∈ ownConnections inserted ctx.companyId,
        ∀ b ∈ ownConnections inserted ctx.companyId,
          viewOf inserted ctx.companyId a = viewOf inserted ctx.companyId b → a = b := by
      intro a memberA b memberB same
      exact inserted.connections.key_injective a b
        (List.mem_filter.mp (List.mem_reverse.mp memberA)).1
        (List.mem_filter.mp (List.mem_reverse.mp memberB)).1 (congrArg ConnectionView.id same)
    have same : ∀ conn ∈ ownConnections inserted ctx.companyId,
        (!withHidden network ctx.companyId conn) = true →
          viewOf inserted' ctx.companyId conn = viewOf inserted ctx.companyId conn := by
      intro conn _ clear
      rw [viewOf_inserted _ inserted' _ conn companies',
        viewOf_without network _ conn (by simpa using clear),
        viewOf_inserted network inserted _ conn companies]
    have shows := shown_eq_iff 200 (fun conn => !withHidden network ctx.companyId conn)
      (viewOf inserted ctx.companyId) (viewOf inserted' ctx.companyId) _ apart same
    rw [← kept] at shows
    refine shows.trans ?_
    rw [all]
    simp [List.take_succ_cons, unhidden]

/-- A search answers as without the hidden companies, unless one that the limit had left out
would take the place of a hidden one. A request is refused as it would be without them; one that
goes through answers with the connections of the company that asked, hidden ones among them. -/
theorem answers_without_hidden (collation : Collation) (network : Network)
    (unique : UniqueStoreIds collation network) (paired : Paired network) (ctx : Ctx) :
    (∀ rawQuery, (∀ company ∈ filling collation network ctx.companyId rawQuery,
        company.id = ctx.companyId) →
      ((search collation ctx rawQuery).run network).2 =
        ((search collation ctx rawQuery).run (network.without ctx.companyId)).2) ∧
    ∀ newId, network.connections.find? newId = none → ∀ publicStoreId note,
      (¬Asks collation network ctx.companyId publicStoreId →
        ((request collation ctx newId publicStoreId note).run network).2 =
          ((request collation ctx newId publicStoreId note).run
            (network.without ctx.companyId)).2) ∧
      (Asks collation network ctx.companyId publicStoreId → ∃ rows rows',
        ((request collation ctx newId publicStoreId note).run network).2 = .ok rows ∧
          ((request collation ctx newId publicStoreId note).run
            (network.without ctx.companyId)).2 = .ok rows' ∧
          (rows = rows' ↔ ∀ conn ∈ (ownConnections network ctx.companyId).take 199,
            withHidden network ctx.companyId conn = false)) := by
  refine ⟨?_, ?_⟩
  · intro rawQuery none
    exact (search_without_iff collation network ctx rawQuery).mpr none
  · intro newId fresh publicStoreId note
    constructor
    · exact request_refused_without collation network ctx unique paired newId publicStoreId note
    · exact request_asks_without collation network ctx unique paired newId fresh publicStoreId note

theorem unique_of_nodup (nodup : (network.companies.rows.map Company.publicStoreId).Nodup) :
    UniqueStoreIds .binary network := by
  intro text a memberA b memberB sameA sameB
  exact List.inj_on_of_nodup_map nodup memberA memberB
    ((of_decide_eq_true sameA).trans (of_decide_eq_true sameB).symm)

instance (collation : Collation) (network : Network) (me : Id) (publicStoreId : String) :
    Decidable (Asks collation network me publicStoreId) :=
  decidable_of_iff (∃ them ∈ findStore collation network publicStoreId, them.id ≠ me ∧
    network.connections.rows.find? (between me them.id) = none) Iff.rfl

theorem accra_named : blank (some "Accra") = false := by decide

/-- Company 1, eleven other shops on its street, and a block between it and the first. -/
def street : Network where
  companies := ⟨[shop 1 "Accra" "00000000A1" accra_named, shop 2 "Harbour" "00000000B2",
    shop 3 "Harbour" "00000000B3", shop 4 "Harbour" "00000000B4", shop 5 "Harbour" "00000000B5",
    shop 6 "Harbour" "00000000B6", shop 7 "Harbour" "00000000B7", shop 8 "Harbour" "00000000B8",
    shop 9 "Harbour" "00000000B9", shop 10 "Harbour" "00000000BA", shop 11 "Harbour" "00000000BB",
    shop 12 "Harbour" "00000000BC"], by decide⟩
  db := { storeConnections :=
      ⟨[⟨50, 1, 2, .blocked, some 2, none, none, none, none, none, none, 0⟩],
        List.nodup_singleton _⟩ }

theorem street_paired : Paired street := by
  intro a memberA b memberB _
  rw [List.mem_singleton.mp memberA, List.mem_singleton.mp memberB]

/-- The shop that blocked the searcher takes a place on the page and leaves it empty, and it is
among the connections that answer a request to another shop. -/
theorem hidden_shop_shows :
    (¬ ∀ (collation : Collation) (network : Network), UniqueStoreIds collation network →
      Paired network → ∀ (ctx : Ctx) (rawQuery : String),
        ((search collation ctx rawQuery).run network).2 =
          ((search collation ctx rawQuery).run (network.without ctx.companyId)).2) ∧
    ¬ ∀ (collation : Collation) (network : Network), UniqueStoreIds collation network →
      Paired network → ∀ (ctx : Ctx) (newId : Id), network.connections.find? newId = none →
        ∀ (publicStoreId : String) (note : Option String),
          ((request collation ctx newId publicStoreId note).run network).2 =
            ((request collation ctx newId publicStoreId note).run
              (network.without ctx.companyId)).2 := by
  have unique := unique_of_nodup street (by decide)
  constructor
  · intro claim
    have same := claim .binary street unique street_paired asking "Harbour"
    have lengths := congrArg (fun answer => answer.toOption.map List.length) same
    revert lengths
    decide +kernel
  · intro claim
    have same := claim .binary street unique street_paired asking 51 (by decide +kernel)
      "00000000B3" none
    have lengths := congrArg (fun answer => answer.toOption.map List.length) same
    revert lengths
    decide +kernel

theorem answers_without_hidden_street :
    ((search .binary asking "00000000b2").run street).2 =
        ((search .binary asking "00000000b2").run (street.without 1)).2 ∧
      ((request .binary asking 51 "00000000B2" none).run street).2 =
        ((request .binary asking 51 "00000000B2" none).run (street.without 1)).2 ∧
      ∃ rows rows', ((request .binary asking 51 "00000000B3" none).run street).2 = .ok rows ∧
        ((request .binary asking 51 "00000000B3" none).run (street.without 1)).2 = .ok rows' ∧
          (rows = rows' ↔ ∀ conn ∈ (ownConnections street 1).take 199,
            withHidden street 1 conn = false) := by
  obtain ⟨searches, requests⟩ := answers_without_hidden .binary street
    (unique_of_nodup street (by decide)) street_paired asking
  exact ⟨searches "00000000b2" (by decide +kernel),
    (requests 51 (by decide +kernel) "00000000B2" none).1 (by decide +kernel),
    (requests 51 (by decide +kernel) "00000000B3" none).2 (by decide +kernel)⟩

end ErpBackend.Connections
