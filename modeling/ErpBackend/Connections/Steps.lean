import ErpBackend.Foundation.Protocol
import ErpBackend.Connections.Service

/-!
# What the steps of a call do

For every step of a request, a decision or a block: what it leaves, and what
the next step holds of the store it read.
-/

namespace ErpBackend.Connections

open Foundation

def Named (network : Network) (owner other : Id) : Prop :=
  network.db.counterparties.any (naming owner other) = true

instance (network : Network) (owner other : Id) : Decidable (Named network owner other) :=
  inferInstanceAs (Decidable (_ = true))

def afterPair : List (Id × Id) → Mark
  | [] => .other
  | rest => .ensure rest false

def ReadFrom (network : Network) : Mark → Prop
  | .other => True
  | .request me them => me ≠ them
  | .decide me _ conn => network.connections.find? conn.id = some conn ∧
      conn.addresseeCompanyId = me ∧ conn.status = .pending
  | .setBlocked me blocked conn => network.connections.find? conn.id = some conn ∧
      involves conn me = true ∧ mayBlock me blocked conn = .ok ()
  | .ensure _ _ => False

def Plain (next : Option Mark) : Prop := ∀ mark ∈ next, mark = .other

def connLeads : Mark → Network → Network → Option Mark → Prop
  | .other, s, s', next => s' = s ∧ ∀ mark ∈ next, ReadFrom s mark
  | .request me them, s, s', next => Plain next ∧ (s' = s ∨ ∃ ctx newId note,
      ctx.companyId = me ∧ insertConnection (newConnection ctx newId them note) s = .ok s')
  | .decide me accept conn, s, s', next => (s' = s ∧ next = none) ∨ ∃ ctx, ctx.companyId = me ∧
      decideTx ctx accept conn s = .ok s' ∧
        next = some (if accept then .ensure (bothWays me conn.requesterCompanyId) false
          else .other)
  | .setBlocked me blocked conn, s, s', next => Plain next ∧
      ((s' = s ∧ s.connections.find? conn.id = none) ∨ ∃ ctx reason,
        ctx.companyId = me ∧ setBlockedTx ctx blocked reason conn s = .ok s')
  | .ensure [] _, s, s', next => s' = s ∧ Plain next
  | .ensure ((owner, other) :: rest) false, s, s', next => s' = s ∧
      next = some (if Named s owner other then afterPair rest
        else .ensure ((owner, other) :: rest) true)
  | .ensure ((owner, other) :: rest) true, s, s', next =>
      (s' = s ∧ next = some (.ensure ((owner, other) :: rest) true)) ∨
        (s' = s ∧ next = none ∧ (owner = other ∨ Named s owner other)) ∨
          ∃ counterparty, naming owner other counterparty = true ∧
            insertCounterparty counterparty s = .ok s' ∧ next = some (afterPair rest)

variable (ctx : Ctx)

theorem list_mark : (list ctx).mark? = some .other := rfl

theorem list_walks : (list ctx).Walks connLeads :=
  fun _ => ⟨⟨rfl, fun _ none => (by cases none)⟩, trivial⟩

theorem plain_none : Plain none := fun _ none => (by cases none)

theorem plain_list : Plain (list ctx).mark? :=
  fun _ own => (Option.some.inj own).symm

theorem readFrom_plain (network : Network) (next : Option Mark) (plain : Plain next) :
    ∀ mark ∈ next, ReadFrom network mark := by
  intro mark same
  rw [plain mark same]
  trivial

theorem mine_walks {α : Type} (ctx : Ctx) (id : Id) (f : StoreConnection → Request α)
    (each : ∀ network conn, network.connections.find? conn.id = some conn →
      involves conn ctx.companyId = true →
        (∀ mark ∈ (f conn).mark?, ReadFrom network mark) ∧ (f conn).Walks connLeads) :
    (mine ctx id >>= f).Walks connLeads := by
  unfold mine
  rw [Prog.bind_assoc]
  apply Prog.walks_read
  intro network
  rcases found : (network.connections.find? id).filter (involves · ctx.companyId) with _ | conn
  · exact ⟨⟨rfl, fun _ none => (by cases none)⟩, trivial⟩
  · obtain ⟨present, own⟩ := Option.filter_eq_some_iff.mp found
    obtain rfl := Table.key_of_find? _ _ _ present
    obtain ⟨reads, walks⟩ := each network conn present own
    exact ⟨⟨rfl, reads⟩, walks⟩

theorem naming_new (id owner other connectionId : Id) (company : Option Company) :
    naming owner other (newCounterparty id owner other connectionId company) = true := by
  simp [naming, newCounterparty]

theorem newCounterparty_named (id owner other connectionId : Id) (company : Option Company) :
    (newCounterparty id owner other connectionId company).name.toList.all (· = ' ') = false := by
  cases company with
  | none =>
      simp only [newCounterparty, Option.map_none, Option.getD_none]
      decide
  | some company =>
      have named := company.named
      rw [Bool.eq_false_iff]
      intro spaces
      have gone : trimChars company.name.toList = [] := by
        unfold trimChars
        have dropped : company.name.toList.dropWhile jsSpace = [] := by
          rw [List.dropWhile_eq_nil_iff]
          intro c member
          have space := List.all_eq_true.mp spaces c member
          rw [of_decide_eq_true space]
          rfl
        rw [dropped]
        rfl
      simp [blank, gone] at named

theorem insertCounterparty_refused (uuid : IdSource) (network : Network)
    (owner other connectionId : Id) (company : Option Company) (refusal : Refusal)
    (refused : insertCounterparty (newCounterparty (uuid.next network.db.counterparties) owner other
      connectionId company) network = .error refusal) :
    owner = other ∨ Named network owner other := by
  unfold insertCounterparty at refused
  rw [newCounterparty_named] at refused
  split at refused
  · next same =>
    left
    exact (Option.some.inj same).symm
  · rw [if_neg Bool.false_ne_true] at refused
    split at refused
    · next taken =>
      right
      exact taken
    · obtain ⟨counterparties, inserted⟩ := Table.insert?_of_fresh network.db.counterparties
        (newCounterparty (uuid.next network.db.counterparties) owner other connectionId company)
        (uuid.fresh _)
      rw [inserted] at refused
      cases refused

theorem ensureCounterparty_mark {α : Type} (uuid : IdSource) (connectionId : Id)
    (pairs : List (Id × Id)) (f : Unit → Request α) (following : (f ()).mark? = some .other) :
    (ensureCounterparty uuid connectionId pairs >>= f).mark? = some (afterPair pairs) := by
  cases pairs with
  | nil => exact following
  | cons first rest => rfl

theorem ensureCounterparty_walks {α : Type} (uuid : IdSource) (connectionId : Id)
    (pairs : List (Id × Id)) (f : Unit → Request α) (following : (f ()).mark? = some .other)
    (walks : (f ()).Walks connLeads) :
    (ensureCounterparty uuid connectionId pairs >>= f).Walks connLeads := by
  induction pairs with
  | nil => exact walks
  | cons first rest ih =>
      obtain ⟨owner, other⟩ := first
      have next := ensureCounterparty_mark uuid connectionId rest f following
      unfold ensureCounterparty
      rw [Prog.bind_assoc]
      apply Prog.walks_read
      intro network
      by_cases named : network.db.counterparties.any (naming owner other) = true
      · rw [if_pos named]
        refine ⟨⟨rfl, ?_⟩, ih⟩
        rw [next]
        exact congrArg some (if_pos named).symm
      · rw [if_neg named]
        refine ⟨⟨rfl, congrArg some (if_neg named).symm⟩, ?_⟩
        rw [Prog.bind_assoc]
        apply Prog.walks_read
        intro network'
        refine ⟨.inl ⟨rfl, rfl⟩, ?_⟩
        rw [Prog.bind_assoc]
        apply Prog.walks_commit
        · intro s s' done
          exact .inr (.inr ⟨_, naming_new _ _ _ _ _, done, next⟩)
        · intro s refusal refused
          exact .inr (.inl ⟨rfl, rfl, insertCounterparty_refused uuid s owner other connectionId _
            refusal refused⟩)
        · exact ih

theorem request_walks (collation : Collation) (ctx : Ctx) (newId : Id) (publicStoreId : String)
    (note : Option String) :
    (request collation ctx newId publicStoreId note).Walks connLeads := by
  unfold request
  apply Prog.walks_read
  intro network
  generalize found : (findStore collation network publicStoreId).filter
    (fun company => company.id ≠ ctx.companyId) = store
  cases store with
  | none => exact ⟨⟨rfl, fun _ none => (by cases none)⟩, trivial⟩
  | some them =>
    obtain ⟨-, other⟩ := Option.filter_eq_some_iff.mp found
    rw [decide_eq_true_eq] at other
    refine ⟨⟨rfl, readFrom_plain _ _ (fun _ own => (Option.some.inj own).symm)⟩, ?_⟩
    apply Prog.walks_expect
    rintro _ ⟨⟩
    apply Prog.walks_read
    intro network'
    split
    · exact ⟨⟨rfl, fun _ none => (by cases none)⟩, trivial⟩
    · refine ⟨⟨rfl, ?_⟩, ?_⟩
      · intro mark own
        cases own
        exact Ne.symm other
      · apply Prog.walks_commit
        · intro s s' done
          exact ⟨plain_list ctx, .inr ⟨ctx, newId, note, rfl, done⟩⟩
        · intro s _ _
          exact ⟨plain_none, .inl rfl⟩
        · exact list_walks ctx

theorem decide_walks (uuid : IdSource) (ctx : Ctx) (id : Id) (accept : Bool)
    (expectedVersion : Option Nat) :
    (decide uuid ctx id accept expectedVersion).Walks connLeads := by
  unfold decide
  apply mine_walks
  intro network conn found _
  constructor
  · intro mark own
    unfold Prog.require at own
    split at own
    · next addressee =>
      split at own
      · next pending =>
        split at own
        · cases own
          exact ⟨found, addressee, pending⟩
        · cases own
      · cases own
    · cases own
  · apply Prog.walks_require
    intro _
    apply Prog.walks_require
    intro _
    apply Prog.walks_require
    intro _
    apply Prog.walks_commit
    · intro s s' done
      refine .inr ⟨ctx, rfl, done, ?_⟩
      cases accept with
      | true => exact ensureCounterparty_mark uuid conn.id _ _ (list_mark ctx)
      | false => rfl
    · intro s _ _
      exact .inl ⟨rfl, rfl⟩
    · cases accept with
      | true => exact ensureCounterparty_walks uuid conn.id _ _ (list_mark ctx) (list_walks ctx)
      | false => exact list_walks ctx

theorem setBlocked_walks (id : Id) (blocked : Bool) (reason : Option String) :
    (setBlocked ctx id blocked reason).Walks connLeads := by
  unfold setBlocked
  apply mine_walks
  intro network conn found own
  rcases may : mayBlock ctx.companyId blocked conn with refusal | _
  · exact ⟨fun _ none => (by cases none), trivial⟩
  · constructor
    · intro mark same
      cases same
      exact ⟨found, own, may⟩
    · apply Prog.walks_commit
      · intro s s' done
        exact ⟨plain_list ctx, .inr ⟨ctx, reason, rfl, done⟩⟩
      · intro s _ refused
        refine ⟨plain_none, .inl ⟨rfl, ?_⟩⟩
        unfold setBlockedTx at refused
        split at refused
        · next missing => exact missing
        · cases refused
      · exact list_walks ctx

inductive Call (collation : Collation) (uuid : IdSource) : Request Unit → Prop
  | request (ctx : Ctx) (newId : Id) (publicStoreId : String) (note : Option String) :
      Call collation uuid (request collation ctx newId publicStoreId note).void
  | decide (ctx : Ctx) (id : Id) (accept : Bool) (expectedVersion : Option Nat) :
      Call collation uuid (decide uuid ctx id accept expectedVersion).void
  | setBlocked (ctx : Ctx) (id : Id) (blocked : Bool) (reason : Option String) :
      Call collation uuid (setBlocked ctx id blocked reason).void

theorem call_walks (collation : Collation) (uuid : IdSource) (p : Request Unit)
    (call : Call collation uuid p) : p.Walks connLeads ∧ p.mark? = some .other := by
  cases call with
  | request ctx newId publicStoreId note =>
      exact ⟨Prog.walks_void _ (request_walks _ _ _ _ _), rfl⟩
  | decide ctx id accept expectedVersion =>
      exact ⟨Prog.walks_void _ (decide_walks _ _ _ _ _), rfl⟩
  | setBlocked ctx id blocked reason =>
      exact ⟨Prog.walks_void _ (setBlocked_walks _ _ _ _), rfl⟩

end ErpBackend.Connections
