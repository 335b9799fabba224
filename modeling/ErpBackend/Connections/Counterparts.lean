import ErpBackend.Foundation.Failure
import ErpBackend.Connections.Consent

/-!
# A counterparty for each side

Acceptance writes the status first, and then the two counterparties one by one.
While any of these is missing, some call is still about to write it.
-/

namespace ErpBackend.Connections

open Foundation

def ExactlyOne (network : Network) (owner other : Id) : Prop :=
  ∃ counterparty, network.db.counterparties.filter (naming owner other) = [counterparty]

def Provided (network : Network) (conn : StoreConnection) : Prop :=
  ExactlyOne network conn.requesterCompanyId conn.addresseeCompanyId ∧
    ExactlyOne network conn.addresseeCompanyId conn.requesterCompanyId

/-- `ux_counterparties_connected` and `ck_conn_not_self`. -/
structure WellFormed (network : Network) : Prop where
  once : ∀ owner other, ∀ a ∈ network.db.counterparties.rows,
    ∀ b ∈ network.db.counterparties.rows,
      naming owner other a = true → naming owner other b = true → a = b
  apart : ∀ conn ∈ network.connections.rows, conn.requesterCompanyId ≠ conn.addresseeCompanyId

theorem WellFormed.exactlyOne {network : Network} (wellFormed : WellFormed network)
    (owner other : Id) (named : Named network owner other) : ExactlyOne network owner other := by
  unfold ExactlyOne
  obtain ⟨a, present, names⟩ := (Table.any_eq_true _ _).mp named
  have inside : a ∈ network.db.counterparties.filter (naming owner other) :=
    List.mem_filter.mpr ⟨present, names⟩
  have nodup : (network.db.counterparties.filter (naming owner other)).Nodup :=
    (List.Nodup.of_map _ network.db.counterparties.unique).filter _
  have same : ∀ b ∈ network.db.counterparties.filter (naming owner other), b = a := by
    intro b member
    obtain ⟨there, matched⟩ := List.mem_filter.mp member
    exact wellFormed.once owner other b there a present matched names
  refine ⟨a, ?_⟩
  generalize network.db.counterparties.filter (naming owner other) = rows at inside nodup same
  match rows with
  | [] => cases inside
  | [b] => rw [same b (by simp)]
  | b :: c :: rest =>
      have twice : b = c := (same b (by simp)).trans (same c (by simp)).symm
      rw [twice] at nodup
      simp at nodup

variable (mark : Mark)

variable (s s' : Network)

variable (next : Option Mark)

theorem step_counterparties (leads : connLeads mark s s' next) :
    s'.db.counterparties = s.db.counterparties ∨ ∃ owner other rest counterparty,
      mark = .ensure ((owner, other) :: rest) true ∧ naming owner other counterparty = true ∧
        (∀ row ∈ s.db.counterparties.rows, naming owner other row = false) ∧
          s'.db.counterparties.rows = s.db.counterparties.rows ++ [counterparty] ∧
            next = some (afterPair rest) := by
  cases mark with
  | other => exact .inl (by rw [leads.1])
  | request me them =>
      rcases leads.2 with rfl | ⟨ctx, newId, note, -, done⟩
      · exact .inl rfl
      · obtain ⟨-, -, storeConnections, -, rfl⟩ := insertConnection_ok _ _ _ done
        exact .inl rfl
  | decide me accept conn =>
      rcases leads with ⟨rfl, -⟩ | ⟨ctx, -, done, -⟩
      · exact .inl rfl
      · obtain ⟨current, -, -, rfl⟩ := decideTx_ok _ _ _ _ _ done
        exact .inl rfl
  | setBlocked me blocked conn =>
      rcases leads.2 with ⟨rfl, -⟩ | ⟨ctx, reason, -, done⟩
      · exact .inl rfl
      · rw [setBlockedTx_ok _ _ _ _ _ _ done]
        exact .inl rfl
  | ensure pairs missing =>
      rcases pairs with _ | ⟨⟨owner, other⟩, rest⟩
      · exact .inl (by rw [leads.1])
      · cases missing with
        | false => exact .inl (by rw [leads.1])
        | true =>
            rcases leads with ⟨rfl, -⟩ | ⟨rfl, -⟩ | ⟨counterparty, names, done, follows⟩
            · exact .inl rfl
            · exact .inl rfl
            · obtain ⟨-, free, counterparties, inserted, rfl⟩ := insertCounterparty_ok _ _ _ done
              obtain ⟨owns, connected⟩ := of_decide_eq_true names
              rw [owns, connected, Option.any_some, Table.any_eq_false] at free
              exact .inr ⟨owner, other, rest, counterparty, rfl, names, free,
                (Table.insert?_some _ _ _ inserted).1, follows⟩

theorem named_stays (leads : connLeads mark s s' next) (owner other : Id)
    (named : Named s owner other) :
    Named s' owner other := by
  rcases step_counterparties mark s s' next leads with same | ⟨_, _, _, _, -, -, -, rows, -⟩
  · unfold Named at named ⊢
    rw [same]
    exact named
  · obtain ⟨a, present, names⟩ := (Table.any_eq_true _ _).mp named
    exact (Table.any_eq_true _ _).mpr ⟨a, by rw [rows]; exact List.mem_append_left _ present, names⟩

theorem step_names (leads : connLeads mark s s' next) (owner other : Id)
    (unnamed : ¬Named s owner other)
    (named : Named s' owner other) : ∃ rest, mark = .ensure ((owner, other) :: rest) true ∧
      next = some (afterPair rest) := by
  rcases step_counterparties mark s s' next leads with same |
    ⟨owner', other', rest, counterparty, own, names, -, rows, follows⟩
  · unfold Named at named
    rw [same] at named
    exact absurd named unnamed
  · obtain ⟨a, present, matched⟩ := (Table.any_eq_true _ _).mp named
    rw [rows, List.mem_append, List.mem_singleton] at present
    rcases present with old | rfl
    · exact absurd ((Table.any_eq_true _ _).mpr ⟨a, old, matched⟩) unnamed
    · obtain ⟨owns, connected⟩ := of_decide_eq_true matched
      obtain ⟨owns', connected'⟩ := of_decide_eq_true names
      rw [owns] at owns'
      rw [connected] at connected'
      cases owns'
      cases connected'
      exact ⟨rest, own, follows⟩

theorem step_wellFormed (leads : connLeads mark s s' next) (wellFormed : WellFormed s) :
    WellFormed s' := by
  constructor
  · rcases step_counterparties mark s s' next leads with same |
      ⟨owner', other', rest, counterparty, -, names, free, rows, -⟩
    · rw [same]
      exact wellFormed.once
    · -- whoever is named by the new row was named by none before
      have only : ∀ owner other, naming owner other counterparty = true →
          ∀ a ∈ s.db.counterparties.rows, naming owner other a = true → False := by
        intro owner other matched a present again
        obtain ⟨owns, connected⟩ := of_decide_eq_true matched
        obtain ⟨owns', connected'⟩ := of_decide_eq_true names
        rw [owns] at owns'
        rw [connected] at connected'
        cases owns'
        cases connected'
        rw [free a present] at again
        cases again
      intro owner other a memberA b memberB matchA matchB
      rw [rows, List.mem_append, List.mem_singleton] at memberA memberB
      rcases memberA with oldA | rfl
      · rcases memberB with oldB | rfl
        · exact wellFormed.once owner other a oldA b oldB matchA matchB
        · exact (only owner other matchB a oldA matchA).elim
      · rcases memberB with oldB | rfl
        · exact (only owner other matchA b oldB matchB).elim
        · rfl
  · intro conn member
    rcases step_rows mark s s' next leads with ⟨f, rows, parties⟩ | ⟨new, rows, apart, -⟩
    · rw [rows, List.mem_map] at member
      obtain ⟨row, present, rfl⟩ := member
      rw [(parties row).1, (parties row).2]
      exact wellFormed.apart row present
    · rw [rows, List.mem_append, List.mem_singleton] at member
      rcases member with old | rfl
      · exact wellFormed.apart conn old
      · exact apart

/-- The pairs a call sees to: both of them, or the second once the first is named. -/
def Ensuring (network : Network) : Mark → Prop
  | .ensure pairs _ => ∃ me them, me ≠ them ∧
      (pairs = bothWays me them ∨ pairs = [(them, me)] ∧ Named network me them)
  | _ => True

/-- A call about to take this step has still to write what is missing between the two. -/
def SeesTo (network : Network) (me them : Id) : Mark → Prop
  | .ensure pairs missing =>
      (pairs = bothWays me them ∧ (missing = true → ¬Named network me them)) ∨
        (pairs = [(them, me)] ∧ Named network me them ∧
          (missing = true → ¬Named network them me))
  | _ => False

/-- The accepted connections have their counterparties, or some call has still to write them. -/
def Attended (c : Config Network Mark Refusal Unit) : Prop :=
  ∀ conn ∈ c.store.connections.rows, conn.status = .accepted →
    (Named c.store conn.addresseeCompanyId conn.requesterCompanyId ∧
      Named c.store conn.requesterCompanyId conn.addresseeCompanyId) ∨
    ∃ p ∈ c.inFlight, ∃ mark, p.mark? = some mark ∧
      SeesTo c.store conn.addresseeCompanyId conn.requesterCompanyId mark

def Known (network : Network) (mark : Mark) : Prop := Party network mark ∧ Ensuring network mark

theorem seesTo_after (network : Network) (me them : Id) (pairs rest : List (Id × Id))
    (first : Id × Id) (split : pairs = first :: rest)
    (sees : SeesTo network me them (.ensure pairs false))
    (named : Named network first.1 first.2) :
    (Named network me them ∧ Named network them me) ∨
      SeesTo network me them (afterPair rest) := by
  rcases sees with ⟨both, -⟩ | ⟨second, done, -⟩
  · rw [both] at split
    cases split
    exact .inr (.inr ⟨rfl, named, fun absurdly => (by cases absurdly)⟩)
  · rw [second] at split
    cases split
    exact .inl ⟨done, named⟩

theorem seesTo_own (leads : connLeads mark s s' next) (me them : Id) (apart : me ≠ them)
    (sees : SeesTo s me them mark) :
    (Named s' me them ∧ Named s' them me) ∨
      ∃ following, next = some following ∧ SeesTo s' me them following := by
  cases mark with
  | ensure pairs missing =>
      have shape : ∃ owner other rest, pairs = (owner, other) :: rest ∧ owner ≠ other := by
        rcases sees with ⟨rfl, -⟩ | ⟨rfl, -⟩
        · exact ⟨me, them, _, rfl, apart⟩
        · exact ⟨them, me, _, rfl, apart.symm⟩
      obtain ⟨owner, other, rest, rfl, different⟩ := shape
      have loose : SeesTo s me them (.ensure ((owner, other) :: rest) false) := by
        rcases sees with ⟨both, -⟩ | ⟨second, done, -⟩
        · exact .inl ⟨both, fun absurdly => (by cases absurdly)⟩
        · exact .inr ⟨second, done, fun absurdly => (by cases absurdly)⟩
      have open_now : missing = true → ¬Named s owner other := by
        intro looked
        rcases sees with ⟨both, unnamed⟩ | ⟨second, -, unnamed⟩
        · cases both
          exact unnamed looked
        · cases second
          exact unnamed looked
      cases missing with
      | false =>
          obtain ⟨rfl, follows⟩ := leads
          by_cases named : Named s' owner other
          · rw [if_pos named] at follows
            exact (seesTo_after s' me them _ rest (owner, other) rfl loose named).imp id
              (fun later => ⟨_, follows, later⟩)
          · rw [if_neg named] at follows
            refine .inr ⟨_, follows, ?_⟩
            rcases loose with ⟨both, -⟩ | ⟨second, done, -⟩
            · cases both
              exact .inl ⟨rfl, fun _ => named⟩
            · cases second
              exact .inr ⟨rfl, done, fun _ => named⟩
      | true =>
          rcases leads with ⟨rfl, follows⟩ | ⟨rfl, -, failed⟩ | ⟨counterparty, names, done, follows⟩
          · exact .inr ⟨_, follows, sees⟩
          · rcases failed with self | named
            · exact absurd self different
            · exact absurd named (open_now rfl)
          · have led : connLeads (.ensure ((owner, other) :: rest) true) s s' next :=
              .inr (.inr ⟨counterparty, names, done, follows⟩)
            have named : Named s' owner other := by
              obtain ⟨-, -, counterparties, inserted, rfl⟩ := insertCounterparty_ok _ _ _ done
              refine (Table.any_eq_true _ _).mpr ⟨counterparty, ?_, names⟩
              have rows : counterparties.rows = s.db.counterparties.rows ++ [counterparty] :=
                (Table.insert?_some _ _ _ inserted).1
              rw [rows]
              simp
            have later : SeesTo s' me them (.ensure ((owner, other) :: rest) false) := by
              rcases loose with ⟨both, -⟩ | ⟨second, first, -⟩
              · exact .inl ⟨both, fun absurdly => (by cases absurdly)⟩
              · exact .inr ⟨second, named_stays _ s s' next led _ _ first,
                  fun absurdly => (by cases absurdly)⟩
            exact (seesTo_after s' me them _ rest (owner, other) rfl later named).imp id
              (fun onward => ⟨_, follows, onward⟩)
  | other => exact sees.elim
  | request _ _ => exact sees.elim
  | decide _ _ _ => exact sees.elim
  | setBlocked _ _ _ => exact sees.elim

theorem seesTo_other (leads : connLeads mark s s' next) (ensuring : Ensuring s mark) (me them : Id)
    (held : Mark)
    (sees : SeesTo s me them held) :
    (Named s' me them ∧ Named s' them me) ∨ SeesTo s' me them held ∨
      ∃ following, next = some following ∧ SeesTo s' me them following := by
  cases held with
  | ensure pairs missing =>
      rcases sees with ⟨both, unnamed⟩ | ⟨second, first, unnamed⟩
      · by_cases named : missing = true ∧ Named s' me them
        · -- the pair was named by this very step
          obtain ⟨rest, rfl, follows⟩ :=
            step_names mark s s' next leads me them (unnamed named.1) named.2
          obtain ⟨me', them', -, own⟩ := ensuring
          rcases own with whole | ⟨half, done⟩
          · cases whole
            exact .inr (.inr ⟨_, follows, .inr ⟨rfl, named.2, fun absurdly => (by cases absurdly)⟩⟩)
          · cases half
            exact .inl ⟨named.2, named_stays _ s s' next leads _ _ done⟩
        · exact .inr (.inl (.inl ⟨both, fun looked again => named ⟨looked, again⟩⟩))
      · have stays := named_stays _ s s' next leads _ _ first
        by_cases named : Named s' them me
        · exact .inl ⟨stays, named⟩
        · exact .inr (.inl (.inr ⟨second, stays, fun _ => named⟩))
  | other => exact sees.elim
  | request _ _ => exact sees.elim
  | decide _ _ _ => exact sees.elim
  | setBlocked _ _ _ => exact sees.elim

theorem step_ensuring (leads : connLeads mark s s' next) (held : Mark)
    (ensuring : Ensuring s held) :
    Ensuring s' held := by
  cases held with
  | ensure pairs missing =>
      obtain ⟨me, them, apart, own⟩ := ensuring
      refine ⟨me, them, apart, own.imp id ?_⟩
      rintro ⟨second, first⟩
      exact ⟨second, named_stays mark s s' next leads _ _ first⟩
  | other => trivial
  | request _ _ => trivial
  | decide _ _ _ => trivial
  | setBlocked _ _ _ => trivial

theorem next_ensuring (leads : connLeads mark s s' next) (wellFormed : WellFormed s)
    (party : Party s mark)
    (ensuring : Ensuring s mark) : ∀ following, next = some following →
      Ensuring s' following := by
  have plainly : Plain next → ∀ following, next = some following → Ensuring s' following := by
    intro plain following own
    rw [plain following own]
    trivial
  cases mark with
  | other =>
      intro following own
      have reads := leads.2 following own
      cases following with
      | ensure pairs missing => exact reads.elim
      | other => trivial
      | request _ _ => trivial
      | decide _ _ _ => trivial
      | setBlocked _ _ _ => trivial
  | request me them => exact plainly leads.1
  | setBlocked me blocked conn => exact plainly leads.1
  | decide me accept conn =>
      rcases leads with ⟨-, none⟩ | ⟨ctx, -, -, own⟩
      · intro following some
        rw [none] at some
        cases some
      · intro following some
        rw [own] at some
        obtain ⟨current, found, asks, asked, -⟩ := party
        have apart := wellFormed.apart current (Table.mem_of_find? _ _ _ found)
        rw [asks, asked] at apart
        cases accept with
        | true => cases some; exact ⟨me, conn.requesterCompanyId, apart.symm, .inl rfl⟩
        | false => cases some; trivial
  | ensure pairs missing =>
      intro following own
      have kept := step_ensuring _ s s' next leads _ ensuring
      rcases pairs with _ | ⟨⟨owner, other⟩, rest⟩
      · exact plainly leads.2 following own
      · -- what follows the first pair is the second, once the first is named
        have after : Named s' owner other → Ensuring s' (afterPair rest) := by
          intro named
          obtain ⟨me, them, apart, shape⟩ := kept
          rcases shape with both | ⟨second, -⟩
          · cases both
            exact ⟨owner, other, apart, .inr ⟨rfl, named⟩⟩
          · cases second
            trivial
        cases missing with
        | false =>
            rw [leads.2] at own
            cases own
            split
            · next named =>
              rw [← leads.1] at named
              exact after named
            · exact kept
        | true =>
            rcases leads with ⟨-, same⟩ | ⟨-, none, -⟩ | ⟨counterparty, names, done, same⟩
            · rw [same] at own
              cases own
              exact kept
            · rw [none] at own
              cases own
            · rw [same] at own
              cases own
              apply after
              obtain ⟨-, -, counterparties, inserted, rfl⟩ := insertCounterparty_ok _ _ _ done
              refine (Table.any_eq_true _ _).mpr ⟨counterparty, ?_, names⟩
              have rows : counterparties.rows = s.db.counterparties.rows ++ [counterparty] :=
                (Table.insert?_some _ _ _ inserted).1
              rw [rows]
              simp

/-- `ux_counterparties_connected` and `ck_conn_not_self` hold, and a call sees to the pairs of
an accepted connection. -/
def pairProtocol : Protocol Network Mark where
  inv := WellFormed
  fits _ _ := True
  leads := connLeads
  known m s := Known s m
  apart _ _ _ := True
  apart_symm _ _ _ _ := trivial
  own m s s' next wellFormed _ known leads :=
    ⟨step_wellFormed m s s' next leads wellFormed, fun following own =>
      ⟨step_next m s s' next leads following own,
        next_ensuring m s s' next leads wellFormed known.1 known.2 following own⟩⟩
  frame m s s' next held _ _ _ known _ leads :=
    ⟨⟨step_party m s s' next leads held known.1, step_ensuring m s s' next leads held known.2⟩,
      fun _ _ => trivial⟩
  rest _ _ _ _ _ _ _ _ _ _ _ := trivial

variable (collation : Collation)

variable (uuid : IdSource)

theorem call_enters_pairs (p : Request Unit)
    (call : Call collation uuid p) (s : Network) : pairProtocol.Enters p s := by
  obtain ⟨walks, first⟩ := call_walks collation uuid p call
  refine ⟨walks, ?_, fun _ _ _ => trivial⟩
  intro mark own
  rw [first] at own
  cases own
  exact ⟨trivial, trivial⟩

/-- An accepted connection was accepted before the step, or the step accepts it and its call
sees to the counterparties. -/
theorem accepted_step (leads : connLeads mark s s' next) (party : Party s mark)
    (conn : StoreConnection)
    (member : conn ∈ s'.connections.rows) (accepted : conn.status = .accepted) :
    conn ∈ s.connections.rows ∨ ∃ following, next = some following ∧
      SeesTo s' conn.addresseeCompanyId conn.requesterCompanyId following := by
  have found : s'.connections.find? conn.id = some conn :=
    (Table.find?_some _ _ _).mpr ⟨member, rfl⟩
  rcases before : s.connections.find? conn.id with _ | row
  · have pending := step_new mark s s' next leads conn.id before conn found
    rw [accepted] at pending
    cases pending
  · have key := Table.key_of_find? _ _ _ before
    rw [← key] at before found
    obtain ⟨row', later, changed⟩ := step_changed mark s s' next leads row before
    rw [found] at later
    cases later
    cases changed with
    | same => exact .inl (Table.mem_of_find? _ _ _ before)
    | marked me blocked read ctx reason own same mine =>
        cases blocked with
        | true => cases accepted
        | false => cases accepted
    | decided me accept read ctx own same pending =>
        rw [own] at leads party
        rcases leads with ⟨rfl, -⟩ | ⟨-, -, -, follows⟩
        · rw [before] at found
          have status := congrArg StoreConnection.status (Option.some.inj found)
          rw [pending, accepted] at status
          cases status
        · obtain ⟨current, present, asks, asked, -⟩ := party
          rw [same, before] at present
          cases present
          cases accept with
          | true =>
              refine .inr ⟨_, follows, .inl ⟨?_, fun absurdly => (by cases absurdly)⟩⟩
              change bothWays me read.requesterCompanyId =
                bothWays row.addresseeCompanyId row.requesterCompanyId
              rw [asks, asked]
          | false => cases accepted

/-- A failure leaves the two counterparties as they are to be: no call stops between the write
of an acceptance and the write of the last counterparty, unless both are there. -/
def Unharmed (network : Network) : Mark → Prop
  | .ensure pairs _ => ∀ pair ∈ pairs, Named network pair.1 pair.2 ∧ Named network pair.2 pair.1
  | _ => True

theorem attended_step (c c' : Config Network Mark Refusal Unit) (sound : pairProtocol.Sound c)
    (step : FailingStep (Call collation uuid) Unharmed c c') (attended : Attended c) :
    Attended c' := by
  cases step with
  | taken _ _ step =>
      cases step with
      | arrive s inFlight p issued =>
          intro conn member accepted
          refine (attended conn member accepted).imp id ?_
          rintro ⟨q, flying, mark, own, sees⟩
          exact ⟨q, List.mem_append_left _ flying, mark, own, sees⟩
      | advance s before after m write next _ =>
          obtain ⟨known, leads⟩ := Protocol.Sound.taken pairProtocol sound
          have taken_over : ∀ me them, (∃ following, (next s).mark? = some following ∧
              SeesTo (write s) me them following) → ∃ p ∈ before ++ next s :: after,
                ∃ mark, p.mark? = some mark ∧ SeesTo (write s) me them mark := by
            rintro me them ⟨following, own, sees⟩
            exact ⟨next s, by simp, following, own, sees⟩
          intro conn member accepted
          rcases accepted_step m s (write s) _ leads known.1 conn member accepted with
            present | follows
          · rcases attended conn present accepted with ⟨one, two⟩ | ⟨p, flying, mark, own, sees⟩
            · exact .inl ⟨named_stays m s _ _ leads _ _ one, named_stays m s _ _ leads _ _ two⟩
            · rw [List.mem_append, List.mem_cons] at flying
              rcases flying with left | rfl | right
              · rcases seesTo_other m s (write s) _ leads known.2 _ _ mark sees with
                  both | still | taken
                · exact .inl both
                · exact .inr ⟨p, by simp [left], mark, own, still⟩
                · exact .inr (taken_over _ _ taken)
              · cases own
                exact (seesTo_own m s (write s) _ leads _ _
                  (sound.inv.apart conn present).symm sees).imp id (taken_over _ _)
              · rcases seesTo_other m s (write s) _ leads known.2 _ _ mark sees with
                  both | still | taken
                · exact .inl both
                · exact .inr ⟨p, by simp [right], mark, own, still⟩
                · exact .inr (taken_over _ _ taken)
          · exact .inr (taken_over _ _ follows)
  | stopped s before after m write next may =>
      intro conn member accepted
      rcases attended conn member accepted with both | ⟨p, flying, mark, own, sees⟩
      · exact .inl both
      · rw [List.mem_append, List.mem_cons] at flying
        rcases flying with left | rfl | right
        · exact .inr ⟨p, by simp [left], mark, own, sees⟩
        · -- the call that stops had nothing left to write
          cases own
          cases m with
          | ensure pairs missing =>
              rcases sees with ⟨rfl, -⟩ | ⟨rfl, -⟩
              · exact .inl
                  (may (conn.addresseeCompanyId, conn.requesterCompanyId) (by simp [bothWays]))
              · exact .inl (may (conn.requesterCompanyId, conn.addresseeCompanyId) (by simp)).symm
          | other => exact sees.elim
          | request _ _ => exact sees.elim
          | decide _ _ _ => exact sees.elim
          | setBlocked _ _ _ => exact sees.elim
        · exact .inr ⟨p, by simp [right], mark, own, sees⟩

theorem failing_attended (c c' : Config Network Mark Refusal Unit) (sound : pairProtocol.Sound c)
    (attended : Attended c) (run : FailingRun (Call collation uuid) Unharmed c c') :
    Attended c' := by
  induction run with
  | refl => exact attended
  | @tail middle last first step ih =>
      have reached := pairProtocol.failing_sound _ _ c middle (fun _ _ => trivial)
        (fun p call s _ => call_enters_pairs collation uuid p call s) first sound
      exact attended_step collation uuid middle last reached step ih

theorem ensureCounterparty_grants (connectionId : Id) (pairs : List (Id × Id))
    (apart : ∀ pair ∈ pairs, pair.1 ≠ pair.2) (s : Network) :
    ∃ s', Prog.Grants (ensureCounterparty uuid connectionId pairs) s s' ∧
      s'.connections = s.connections ∧
        (∀ owner other, Named s owner other → Named s' owner other) ∧
          ∀ pair ∈ pairs, Named s' pair.1 pair.2 := by
  induction pairs generalizing s with
  | nil =>
      exact ⟨s, Prog.grants_done (), rfl, fun _ _ named => named, fun _ none => (by cases none)⟩
  | cons first rest ih =>
      obtain ⟨owner, other⟩ := first
      have different : owner ≠ other := apart (owner, other) (by simp)
      have later := ih (fun pair member => apart pair (List.mem_cons_of_mem _ member))
      unfold ensureCounterparty
      by_cases named : Named s owner other
      · obtain ⟨s', granted, same, stays, all⟩ := later s
        have looked : s.db.counterparties.any (naming owner other) = true := named
        refine ⟨s', Prog.grants_read _ _ _ ?_, same, stays, ?_⟩
        · rw [if_pos looked]
          exact granted
        · intro pair member
          rcases List.mem_cons.mp member with rfl | old
          · exact stays owner other named
          · exact all pair old
      · -- nothing refuses the row: the two differ, the name is not blank, the id is new
        generalize row : newCounterparty (uuid.next s.db.counterparties) owner other connectionId
          (s.companies.find? other) = counterparty
        have names : naming owner other counterparty = true := by
          rw [← row]
          exact naming_new _ _ _ _ _
        obtain ⟨inserted, done⟩ : ∃ inserted, insertCounterparty counterparty s = .ok inserted := by
          rcases outcome : insertCounterparty counterparty s with refusal | inserted
          · rw [← row] at outcome
            rcases insertCounterparty_refused uuid s owner other connectionId _ refusal outcome with
              same | present
            · exact absurd same different
            · exact absurd present named
          · exact ⟨inserted, rfl⟩
        have led : connLeads (.ensure ((owner, other) :: rest) true) s inserted
            (some (afterPair rest)) := .inr (.inr ⟨counterparty, names, done, rfl⟩)
        obtain ⟨s', granted, same, stays, all⟩ := later inserted
        have connections := ensure_connections _ true s inserted _ led
        have present : Named inserted owner other := by
          obtain ⟨-, -, counterparties, added, rfl⟩ := insertCounterparty_ok _ _ _ done
          refine (Table.any_eq_true _ _).mpr ⟨counterparty, ?_, names⟩
          have rows : counterparties.rows = s.db.counterparties.rows ++ [counterparty] :=
            (Table.insert?_some _ _ _ added).1
          rw [rows]
          simp
        have looked : ¬s.db.counterparties.any (naming owner other) = true := named
        refine ⟨s', Prog.grants_read _ _ _ ?_, same.trans connections, ?_, ?_⟩
        · rw [if_neg looked]
          refine Prog.grants_read _ _ _ (Prog.grants_commit _ _ _ ?_ granted)
          rw [row]
          exact done
        · intro owner' other' before
          exact stays _ _ (named_stays _ s inserted _ led _ _ before)
        · intro pair member
          rcases List.mem_cons.mp member with rfl | old
          · exact stays owner other present
          · exact all pair old

theorem mine_grants {α : Type} (ctx : Ctx) (id : Id) (f : StoreConnection → Request α)
    (s t : Network) (conn : StoreConnection) (found : s.connections.find? id = some conn)
    (own : involves conn ctx.companyId = true) (rest : Prog.Grants (f conn) s t) :
    Prog.Grants (mine ctx id >>= f) s t := by
  unfold mine
  rw [Prog.bind_assoc]
  refine Prog.grants_read _ _ _ (Prog.grants_expect _ _ conn _ ?_ rest)
  rw [found, Option.filter_some, own]
  rfl

theorem setBlocked_grants (ctx : Ctx) (id : Id) (blocked : Bool) (reason : Option String)
    (s : Network) (conn : StoreConnection) (found : s.connections.find? id = some conn)
    (own : involves conn ctx.companyId = true)
    (may : mayBlock ctx.companyId blocked conn = .ok ()) :
    ∃ s', Prog.Grants (setBlocked ctx id blocked reason) s s' ∧
      s'.connections.find? id = some (markedConn ctx blocked reason conn) := by
  have key := Table.key_of_find? _ _ _ found
  obtain ⟨s', done⟩ : ∃ s', setBlockedTx ctx blocked reason conn s = .ok s' := by
    unfold setBlockedTx
    rw [key, found]
    exact ⟨_, rfl⟩
  refine ⟨s', ?_, ?_⟩
  · unfold setBlocked
    refine mine_grants ctx id _ s s' conn found own ?_
    refine Prog.grants_liftExcept _ () _ may (Prog.grants_commit _ _ _ done ?_)
    exact ⟨rfl, _, rfl⟩
  · rw [setBlockedTx_ok _ _ _ _ _ _ done]
    have updated := Table.find?_update_of_found s.connections conn.id _
      (markedConn_id ctx blocked reason) id conn found
    rw [if_pos key.symm] at updated
    exact updated

theorem accept_grants (ctx : Ctx) (id : Id) (s : Network)
    (conn : StoreConnection) (found : s.connections.find? id = some conn)
    (apart : conn.requesterCompanyId ≠ conn.addresseeCompanyId)
    (asked : conn.addresseeCompanyId = ctx.companyId) (pending : conn.status = .pending) :
    ∃ s', Prog.Grants (decide uuid ctx id true none) s s' ∧
      s'.connections.find? id = some (decidedConn ctx true conn) ∧
        Named s' conn.addresseeCompanyId conn.requesterCompanyId ∧
          Named s' conn.requesterCompanyId conn.addresseeCompanyId := by
  have key := Table.key_of_find? _ _ _ found
  have own : involves conn ctx.companyId = true := decide_eq_true (.inr asked)
  obtain ⟨storeConnections, swapped⟩ : ∃ storeConnections, s.connections.swap? conn.id
      (fun current => current.version = conn.version ∧ current.status = .pending)
        (decidedConn ctx true) (decidedConn_id ctx true) = some storeConnections :=
    ⟨_, (Table.swap?_some _ _ _ _ _ _).mpr
      ⟨conn, by rw [key]; exact found, decide_eq_true ⟨rfl, pending⟩, rfl⟩⟩
  obtain ⟨accepted, done⟩ : ∃ accepted, decideTx ctx true conn s = .ok accepted := by
    unfold decideTx
    rw [swapped]
    exact ⟨_, rfl⟩
  have distinct : ∀ pair ∈ bothWays ctx.companyId conn.requesterCompanyId, pair.1 ≠ pair.2 := by
    intro pair member
    rw [asked] at apart
    rcases List.mem_cons.mp member with rfl | second
    · exact apart.symm
    · rw [List.mem_singleton.mp second]
      exact apart
  obtain ⟨s', granted, same, -, all⟩ := ensureCounterparty_grants uuid conn.id
    (bothWays ctx.companyId conn.requesterCompanyId) distinct accepted
  refine ⟨s', ?_, ?_, ?_, ?_⟩
  · unfold decide
    refine mine_grants ctx id _ s s' conn found own ?_
    refine Prog.grants_require _ _ _ asked (Prog.grants_require _ _ _ pending ?_)
    refine Prog.grants_require _ _ _ (fun _ none => (by cases none)) ?_
    refine Prog.grants_commit _ _ _ done ?_
    exact Prog.grants_bind _ _ granted (fun _ => ⟨rfl, _, rfl⟩)
  · rw [same]
    obtain ⟨current, -, -, rfl⟩ := decideTx_ok _ _ _ _ _ done
    have updated := Table.find?_update_of_found s.connections conn.id _ (decidedConn_id ctx true)
      id conn found
    rw [if_pos key.symm] at updated
    exact updated
  · rw [asked]
    exact all (ctx.companyId, conn.requesterCompanyId) (by simp [bothWays])
  · rw [asked]
    exact all (conn.requesterCompanyId, ctx.companyId) (by simp [bothWays])

/-- The calls that write what a failure left out: the company that was asked blocks the
connection, lifts the block and accepts again. -/
def acceptAgain (uuid : IdSource) (conn : StoreConnection) : List (Request Unit) :=
  let ctx : Ctx := ⟨conn.addresseeCompanyId, none, none, 0⟩
  [(setBlocked ctx conn.id true none).void, (setBlocked ctx conn.id false none).void,
    (decide uuid ctx conn.id true none).void]

theorem acceptAgain_runs (s : Network) (wellFormed : WellFormed s)
    (conn : StoreConnection) (member : conn ∈ s.connections.rows)
    (accepted : conn.status = .accepted) :
    ∃ conn', (runAll s (acceptAgain uuid conn)).connections.find? conn.id = some conn' ∧
      conn'.status = .accepted ∧ conn'.requesterCompanyId = conn.requesterCompanyId ∧
        conn'.addresseeCompanyId = conn.addresseeCompanyId ∧
          Named (runAll s (acceptAgain uuid conn)) conn.addresseeCompanyId
            conn.requesterCompanyId ∧
          Named (runAll s (acceptAgain uuid conn)) conn.requesterCompanyId
            conn.addresseeCompanyId := by
  have found : s.connections.find? conn.id = some conn := (Table.find?_some _ _ _).mpr ⟨member, rfl⟩
  have own : involves conn conn.addresseeCompanyId = true := decide_eq_true (.inr rfl)
  have open_now : mayBlock conn.addresseeCompanyId true conn = .ok () := by
    simp [mayBlock, accepted]
  obtain ⟨s₁, blocks, blocked⟩ := setBlocked_grants ⟨conn.addresseeCompanyId, none, none, 0⟩
    conn.id true none s conn found own open_now
  obtain ⟨s₂, lifts, lifted⟩ := setBlocked_grants ⟨conn.addresseeCompanyId, none, none, 0⟩
    conn.id false none s₁ _ blocked own (by simp [mayBlock, markedConn, blockedConn])
  obtain ⟨s₃, accepts, again, one, two⟩ := accept_grants uuid
    ⟨conn.addresseeCompanyId, none, none, 0⟩ conn.id s₂ _ lifted (wellFormed.apart conn member)
    rfl rfl
  have served : runAll s (acceptAgain uuid conn) = s₃ := by
    simp only [runAll, acceptAgain, List.foldl_cons, List.foldl_nil]
    rw [Prog.grants_void _ blocks, Prog.grants_void _ lifts, Prog.grants_void _ accepts]
  rw [served]
  exact ⟨_, again, rfl, rfl, rfl, one, two⟩

section Failures

variable (collation : Collation) (uuid : IdSource)

/-- Where no failure falls between an acceptance and its last counterparty, an accepted connection
has its two once no call is in progress. Whatever failed, it can still obtain them. -/
theorem counterparties_of_run (store : Network) (wellFormed : WellFormed store)
    (provided : ∀ conn ∈ store.connections.rows, conn.status = .accepted → Provided store conn) :
    (∀ c, FailingRun (Call collation uuid) Unharmed (.idle store) c → c.Quiet →
      ∀ conn ∈ c.store.connections.rows, conn.status = .accepted → Provided c.store conn) ∧
    ∀ c, FailingRun (Call collation uuid) (fun _ _ => True) (.idle store) c →
      ∀ conn ∈ c.store.connections.rows, conn.status = .accepted →
        ∃ c', Run (Call collation uuid) anyOrder c c' ∧
          ∃ conn' ∈ c'.store.connections.rows, conn'.id = conn.id ∧ conn'.status = .accepted ∧
            Provided c'.store conn' := by
  have enters : ∀ p, Call collation uuid p → ∀ s, pairProtocol.inv s → pairProtocol.Enters p s :=
    fun p call s _ => call_enters_pairs collation uuid p call s
  have idle := pairProtocol.sound_idle (ε := Refusal) (α := Unit) store wellFormed
  have named : ∀ owner other, ExactlyOne store owner other → Named store owner other := by
    rintro owner other ⟨counterparty, only⟩
    have member : counterparty ∈ store.db.counterparties.filter (naming owner other) := by
      rw [only]
      simp
    exact (Table.any_eq_true _ _).mpr ⟨counterparty, List.mem_filter.mp member⟩
  constructor
  · intro c run quiet conn member accepted
    have sound := pairProtocol.failing_sound _ _ _ c (fun _ _ => trivial) enters run idle
    have begun : Attended (.idle store) := by
      intro conn member accepted
      obtain ⟨asks, asked⟩ := provided conn member accepted
      exact .inl ⟨named _ _ asked, named _ _ asks⟩
    rcases failing_attended collation uuid _ c idle begun run conn member accepted with
      ⟨one, two⟩ | ⟨p, flying, mark, own, -⟩
    · exact ⟨sound.inv.exactlyOne _ _ two, sound.inv.exactlyOne _ _ one⟩
    · rw [quiet p flying] at own
      cases own
  · intro c run conn member accepted
    have sound := pairProtocol.failing_sound _ _ _ c (fun _ _ => trivial) enters run idle
    have issued : ∀ p ∈ acceptAgain uuid conn, Call collation uuid p := by
      intro p inside
      simp only [acceptAgain, List.mem_cons, List.not_mem_nil, or_false] at inside
      rcases inside with rfl | rfl | rfl
      · exact .setBlocked _ _ _ _
      · exact .setBlocked _ _ _ _
      · exact .decide _ _ _ _
    obtain ⟨c', onward, reached⟩ := inTurn_run_from _ c (acceptAgain uuid conn) issued
    have served : FailingRun (Call collation uuid) (fun _ _ => True) c c' :=
      FailingRun.of_fitting (FittingRun.of_run onward)
    have still := pairProtocol.failing_sound _ _ _ c' (fun _ _ => trivial) enters served sound
    obtain ⟨conn', found, status, asks, asked, one, two⟩ :=
      acceptAgain_runs uuid c.store sound.inv conn member accepted
    rw [← reached] at found one two
    refine ⟨c', onward, conn', Table.mem_of_find? _ _ _ found, Table.key_of_find? _ _ _ found,
      status, ?_⟩
    rw [Provided, asks, asked]
    exact ⟨still.inv.exactlyOne _ _ two, still.inv.exactlyOne _ _ one⟩

end Failures

theorem connected_wellFormed (status : ConnectionStatus) : WellFormed (connected status) := by
  constructor
  · intro owner other a member
    cases member
  · intro conn member
    rw [List.mem_singleton.mp member]
    exact Nat.ne_of_lt (Nat.lt_succ_self 1)

theorem connected_provided (status : ConnectionStatus) (open_now : status ≠ .accepted) :
    ∀ conn ∈ (connected status).connections.rows, conn.status = .accepted →
      Provided (connected status) conn := by
  intro conn member accepted
  rw [List.mem_singleton.mp member] at accepted
  exact absurd accepted open_now

def acceptCall : Request Unit := (decide .counting asked 50 true none).void

def justAccepted : Config Network Mark Refusal Unit :=
  (Config.idle (connected .pending)).schedule [.arrive acceptCall, .advance 0, .advance 0]

theorem justAccepted_run : FailingRun (Call .binary .counting) (fun _ _ => True)
    (.idle (connected .pending)) justAccepted := by
  refine FailingRun.of_fitting (fitting_schedule _ _ _ _ ?_ (by decide +kernel))
  intro p member
  simp only [List.mem_cons, List.not_mem_nil, reduceCtorEq, or_false] at member
  cases member
  exact .decide asked 50 true none

theorem justAccepted_stops : FailingRun (Call .binary .counting) (fun _ _ => True)
    (.idle (connected .pending)) (justAccepted.stop 0) :=
  justAccepted_run.tail (failing_stop _ _ justAccepted 0
    (.ensure (bothWays 2 1) false) (by decide +kernel) trivial)

/-- The acceptance is there and neither of the counterparties. -/
theorem accepted_without_counterparties :
    ¬ ∀ (collation : Collation) (uuid : IdSource) (store : Network), WellFormed store →
      (∀ conn ∈ store.connections.rows, conn.status = .accepted → Provided store conn) →
        ∀ c, FailingRun (Call collation uuid) (fun _ _ => True) (.idle store) c → c.Quiet →
          ∀ conn ∈ c.store.connections.rows, conn.status = .accepted → Provided c.store conn := by
  intro claim
  have quiet : (justAccepted.stop 0).Quiet := by
    have none : (justAccepted.stop 0).inFlight = [] := rfl
    intro p member
    rw [none] at member
    cases member
  have provided := claim .binary .counting (connected .pending) (connected_wellFormed _)
    (connected_provided _ (by decide)) _ justAccepted_stops quiet
    (decidedConn asked true ⟨50, 1, 2, .pending, none, none, none, none, none, none, none, 0⟩)
    (by decide +kernel) rfl
  obtain ⟨⟨counterparty, only⟩, -⟩ := provided
  have empty : (justAccepted.stop 0).store.db.counterparties.rows = [] := by decide +kernel
  unfold Table.filter at only
  rw [empty] at only
  cases only

def firstStopped : Config Network Mark Refusal Unit :=
  ((Config.idle (connected .pending)).schedule [.arrive acceptCall, .advance 0]).stop 0

def secondAccepted : Config Network Mark Refusal Unit :=
  firstStopped.schedule (.arrive acceptCall :: List.replicate 9 (.advance 0))

theorem counterparties_of_run_twice :
    (∀ conn ∈ secondAccepted.store.connections.rows, Provided secondAccepted.store conn) ∧
    ∃ c', Run (Call .binary .counting) anyOrder (justAccepted.stop 0) c' ∧
      ∃ conn' ∈ c'.store.connections.rows, conn'.id = 50 ∧ conn'.status = .accepted ∧
        Provided c'.store conn' := by
  obtain ⟨kept, obtains⟩ := counterparties_of_run .binary .counting (connected .pending)
    (connected_wellFormed _) (connected_provided _ (by decide))
  constructor
  · have first : FailingRun (Call .binary .counting) Unharmed (.idle (connected .pending))
        ((Config.idle (connected .pending)).schedule [.arrive acceptCall, .advance 0]) := by
      refine FailingRun.of_fitting (fitting_schedule _ _ _ _ ?_ (by decide +kernel))
      intro p member
      simp only [List.mem_cons, List.not_mem_nil, reduceCtorEq, or_false] at member
      cases member
      exact .decide asked 50 true none
    have stopped := first.tail (failing_stop _ _ _ 0
      (.decide 2 true ⟨50, 1, 2, .pending, none, none, none, none, none, none, none, 0⟩)
      (by decide +kernel) trivial)
    have second : FailingRun (Call .binary .counting) Unharmed firstStopped secondAccepted := by
      refine FailingRun.of_fitting (fitting_schedule _ _ _ _ ?_ (by decide +kernel))
      intro p member
      simp only [List.replicate, List.mem_cons, List.not_mem_nil, reduceCtorEq, or_false] at member
      cases member
      exact .decide asked 50 true none
    have accepted : ∀ conn ∈ secondAccepted.store.connections.rows, conn.status = .accepted := by
      decide +kernel
    have quiet : secondAccepted.inFlight.all (fun p => p.mark?.isNone) = true := by decide +kernel
    intro conn member
    refine kept secondAccepted (stopped.trans second) ?_ conn member (accepted conn member)
    intro p flying
    exact Option.isNone_iff_eq_none.mp (List.all_eq_true.mp quiet p flying)
  · exact obtains _ justAccepted_stops
      (decidedConn asked true ⟨50, 1, 2, .pending, none, none, none, none, none, none, none, 0⟩)
      (by decide +kernel) rfl

end ErpBackend.Connections
