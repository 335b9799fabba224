import ErpBackend.Foundation.Failure
import ErpBackend.Users.Management

/-!
# The last way in

An edit is checked against the row it read and written over the row that is
there. What it ends of the sessions is decided by the fields it writes, and
written with them.
-/

namespace ErpBackend.Users

open Foundation

/-- A write of a contact finds the contacts that its call read: no other write has changed them
in between. -/
def Undisturbed (team : Team) : Mark → Prop
  | .write _ id before data => data.contactChanged = true → ∀ row ∈ team.users.find? id,
      row.phone = before.phone ∧ row.email = before.email
  | _ => True

inductive Call (services : Services) : Request Unit → Prop
  | update (ctx : Ctx) (id : Id) (dto : UpdateUserDto) :
      Call services (update services ctx id dto).void

def Housed (team : Team) : Prop :=
  ∀ session ∈ team.sessions.rows, ∀ user, team.users.find? session.userId = some user →
    session.companyId = user.companyId

def Revoked (team : Team) (id : Id) : Prop :=
  ∃ session, team.sessions.find? id = some session ∧ session.revokedAt.isSome = true

def Holds (before : User) : Mark → Prop
  | .other => False
  | .holding row _ => row = before
  | .write _ id row data => row = before ∧ id = before.id ∧
      (data.contactChanged = true → keepsContact before data = true)

def userLeads : Mark → Team → Team → Option Mark → Prop
  | .other, s, s', next => s' = s ∧ ∀ mark ∈ next,
      ∃ before, s.users.find? before.id = some before ∧ Holds before mark
  | .holding before _, s, s', next => s' = s ∧ ∀ mark ∈ next, Holds before mark
  | .write ctx id _ data, s, s', next =>
      (s' = s ∧ next = none ∧ ∃ refusal, updateTx ctx id data s = .error refusal) ∨
      (updateTx ctx id data s = .ok s' ∧ ∀ mark ∈ next, mark = .other)

section Walks

variable {α : Type} (services : Services) (ctx : Ctx) (before : User)

def Onward (before : User) (p : Request α) : Prop :=
  p.Walks userLeads ∧ ∀ mark ∈ p.mark?, Holds before mark

theorem onward_error (refusal : Refusal) : Onward before (.done (.error refusal) : Request α) :=
  ⟨trivial, fun _ none => (by cases none)⟩

theorem onward_require (c : Prop) [Decidable c] (refusal : Refusal) (f : Unit → Request α)
    (rest : c → Onward before (f ())) : Onward before (Prog.require c refusal >>= f) := by
  unfold Prog.require
  split
  · next holds => exact rest holds
  · exact onward_error before refusal

theorem onward_read {β : Type} (seated : Bool) (query : Team → β) (f : β → Request α)
    (rest : ∀ s, Onward before (f (query s))) :
    Onward before (Prog.read (.holding before seated) query >>= f) := by
  refine ⟨?_, fun mark own => (by cases own; rfl)⟩
  intro s
  exact ⟨⟨rfl, (rest s).2⟩, (rest s).1⟩

theorem takeSeat_onward (isActive : Option Bool) (f : Unit → Request α)
    (rest : Onward before (f ())) :
    Onward before (takeSeat services ctx before isActive >>= f) := by
  unfold takeSeat
  split
  · rw [Prog.bind_assoc]
    apply onward_read
    intro s
    apply onward_require
    exact fun _ => rest
  · exact rest

theorem confirmActorPassword_onward (seated : Bool) (password : Option String)
    (f : Unit → Request α) (rest : Onward before (f ())) :
    Onward before (confirmActorPassword services ctx before seated password >>= f) := by
  unfold confirmActorPassword
  rcases ctx.userId with _ | actorId
  · exact onward_error before _
  rcases password.filter (· ≠ "") with _ | typed
  · exact onward_error before _
  change Onward before ((Prog.read _ _ >>= fun actor => Prog.require _ _) >>= f)
  rw [Prog.bind_assoc]
  apply onward_read
  intro s
  apply onward_require
  exact fun _ => rest

theorem confirmContact_onward (dto : UpdateUserDto) (data : UserData) (f : Unit → Request α)
    (rest : (data.contactChanged = true → keepsContact before data = true) →
      Onward before (f ())) :
    Onward before (confirmContact services ctx dto before data >>= f) := by
  unfold confirmContact
  split
  · next changed =>
    rw [Prog.bind_assoc]
    apply onward_require
    intro keeps
    exact confirmActorPassword_onward services ctx before _ dto.currentPassword f
      (rest (fun _ => keeps))
  · next untouched => exact rest (fun changed => absurd changed untouched)

theorem findInCompany_walks (id : Id) (f : User → Request α)
    (each : ∀ row : User, row.id = id → Onward row (f row)) :
    (findInCompany ctx id >>= f).Walks userLeads := by
  unfold findInCompany
  rw [Prog.bind_assoc]
  apply Prog.walks_read
  intro s
  rcases found : rowInCompany ctx id s with _ | row
  · exact ⟨⟨rfl, fun _ none => (by cases none)⟩, trivial⟩
  · obtain ⟨present, -⟩ := Option.filter_eq_some_iff.mp found
    have key := Table.key_of_find? _ _ _ present
    obtain ⟨walks, holds⟩ := each row key
    exact ⟨⟨rfl, fun mark own => ⟨row, by rw [key]; exact present, holds mark own⟩⟩, walks⟩

theorem update_walks (id : Id) (dto : UpdateUserDto) :
    (update services ctx id dto).Walks userLeads := by
  unfold update
  apply findInCompany_walks
  intro before key
  rcases changedPhone dto before with refusal | phone
  · exact onward_error before refusal
  rcases changedEmail services dto before with refusal | email
  · exact onward_error before refusal
  change Onward before (Prog.require _ _ >>= _)
  apply onward_require
  intro _
  apply takeSeat_onward
  apply onward_require
  intro _
  apply confirmContact_onward
  intro keeps
  refine ⟨?_, fun mark own => (by cases own; exact ⟨rfl, key.symm, keeps⟩)⟩
  apply Prog.walks_commit
  · intro s s' done
    exact .inr ⟨done, fun mark own => (Option.some.inj own).symm⟩
  · intro s refusal refused
    exact .inl ⟨rfl, rfl, refusal, refused⟩
  · apply findInCompany_walks
    intro row _
    exact ⟨trivial, fun _ none => (by cases none)⟩

end Walks

theorem updateTx_ok (ctx : Ctx) (id : Id) (data : UserData) (team team' : Team)
    (done : updateTx ctx id data team = .ok team') :
    ∃ user, team.users.find? id = some user ∧ user.companyId = ctx.companyId ∧
      team' = { users := team.users.update id data.apply data.apply_id
                sessions :=
                  if data.revoking then
                    team.sessions.modify (standing ctx id) (ended ctx.now) (ended_id ctx.now)
                  else team.sessions } := by
  unfold updateTx at done
  split at done
  · cases done
  · next user found =>
    obtain ⟨present, own⟩ := Option.filter_eq_some_iff.mp found
    rw [decide_eq_true_eq] at own
    split at done
    · cases done
    · split at done
      · cases done
      · cases done
        exact ⟨user, present, own, rfl⟩

theorem updateTx_user (ctx : Ctx) (id : Id) (data : UserData) (team team' : Team)
    (done : updateTx ctx id data team = .ok team') (key : Id) (row' : User)
    (found : team'.users.find? key = some row') :
    ∃ row, team.users.find? key = some row ∧ row' = if key = id then data.apply row else row := by
  obtain ⟨_, -, -, rfl⟩ := updateTx_ok ctx id data team team' done
  exact Table.find?_update_some _ _ _ data.apply_id _ _ found

theorem hasContact_of_same (before row : User) (phone : row.phone = before.phone)
    (email : row.email = before.email) : hasContact row = hasContact before := by
  unfold hasContact
  rw [phone, email]

theorem keepsContact_iff (before row : User) (data : UserData) (had : hasContact before = true)
    (phone : row.phone = before.phone) (email : row.email = before.email) :
    keepsContact before data = true ↔ hasContact (data.apply row) = true := by
  unfold keepsContact
  rw [had, Bool.not_true, Bool.false_or]
  have written : hasContact (data.apply row) =
      (present (data.phone.getD row.phone) || present (data.email.getD row.email)) := by
    cases nextPhone : data.phone <;> cases nextEmail : data.email <;>
      simp [hasContact, UserData.apply, nextPhone, nextEmail]
  rw [written, phone, email]

theorem apply_contacts (row : User) (data : UserData) (untouched : ¬data.contactChanged = true) :
    hasContact (data.apply row) = hasContact row := by
  unfold UserData.contactChanged at untouched
  simp only [Bool.or_eq_true, not_or, Bool.not_eq_true, Option.isSome_eq_false_iff,
    Option.isNone_iff_eq_none] at untouched
  exact hasContact_of_same row _ (by simp [UserData.apply, untouched.1])
    (by simp [UserData.apply, untouched.2])

/-- What a call holds of the user was read while the user had a contact. -/
def HadContact (me : Id) : Mark → Prop
  | .other => True
  | .holding before _ => before.id = me → hasContact before = true
  | .write _ id before data => id = before.id ∧ (before.id = me → hasContact before = true) ∧
      (data.contactChanged = true → keepsContact before data = true)

def Reachable (me : Id) (team : Team) : Prop :=
  ∀ row, team.users.find? me = some row → hasContact row = true

theorem holds_hadContact (me : Id) (before : User) (mark : Mark) (holds : Holds before mark)
    (had : before.id = me → hasContact before = true) : HadContact me mark := by
  cases mark with
  | other => trivial
  | holding row seated =>
      rw [show row = before from holds]
      exact had
  | write ctx id row data =>
      obtain ⟨rfl, key, keeps⟩ := holds
      exact ⟨key, had, keeps⟩

theorem step_reachable (me : Id) (mark : Mark) (s s' : Team) (next : Option Mark)
    (reachable : Reachable me s) (undisturbed : Undisturbed s mark) (had : HadContact me mark)
    (leads : userLeads mark s s' next) :
    Reachable me s' ∧ ∀ following, next = some following → HadContact me following := by
  cases mark with
  | other =>
      obtain ⟨rfl, reads⟩ := leads
      refine ⟨reachable, ?_⟩
      intro following own
      obtain ⟨before, found, holds⟩ := reads following own
      refine holds_hadContact me before following holds ?_
      intro key
      rw [key] at found
      exact reachable before found
  | holding before seated =>
      obtain ⟨rfl, holds⟩ := leads
      exact ⟨reachable, fun following own =>
        holds_hadContact me before following (holds following own) had⟩
  | write ctx id before data =>
      obtain ⟨key, had, keeps⟩ := had
      rcases leads with ⟨rfl, none, -⟩ | ⟨done, plain⟩
      · refine ⟨reachable, fun following some => ?_⟩
        rw [none] at some
        cases some
      · refine ⟨?_, fun following own => ?_⟩
        · intro row' found
          obtain ⟨row, present, rfl⟩ := updateTx_user ctx id data s s' done me row' found
          split
          · next same =>
            rw [← same] at undisturbed key
            by_cases changed : data.contactChanged = true
            · obtain ⟨phone, email⟩ := undisturbed changed row present
              exact (keepsContact_iff before row data (had key.symm) phone email).mp
                (keeps changed)
            · rw [apply_contacts row data changed]
              exact reachable row present
          · exact reachable row present
        · rw [plain following own]
          trivial

def contactProtocol (me : Id) : Protocol Team Mark where
  inv := Reachable me
  fits := Undisturbed
  leads := userLeads
  known m _ := HadContact me m
  apart _ _ _ := True
  apart_symm _ _ _ _ := trivial
  own m s s' next reachable undisturbed had leads :=
    step_reachable me m s s' next reachable undisturbed had leads
  frame _ _ _ _ _ _ _ _ had _ _ := ⟨had, fun _ _ => trivial⟩
  rest _ _ _ _ _ _ _ _ _ _ _ := trivial

theorem step_revoked (mark : Mark) (s s' : Team) (next : Option Mark)
    (leads : userLeads mark s s' next) (id : Id) (revoked : Revoked s id) : Revoked s' id := by
  cases mark with
  | other => rw [leads.1]; exact revoked
  | holding before seated => rw [leads.1]; exact revoked
  | write ctx me before data =>
      rcases leads with ⟨rfl, -⟩ | ⟨done, -⟩
      · exact revoked
      · obtain ⟨_, -, -, rfl⟩ := updateTx_ok ctx me data s s' done
        obtain ⟨session, found, ended⟩ := revoked
        unfold Revoked
        dsimp only
        split
        · rw [Table.find?_modify, found]
          refine ⟨_, rfl, ?_⟩
          dsimp only
          split
          · rfl
          · exact ended
        · exact ⟨session, found, ended⟩

theorem step_housed (mark : Mark) (s s' : Team) (next : Option Mark)
    (leads : userLeads mark s s' next) (housed : Housed s) : Housed s' := by
  cases mark with
  | other => rw [leads.1]; exact housed
  | holding before seated => rw [leads.1]; exact housed
  | write ctx me before data =>
      rcases leads with ⟨rfl, -⟩ | ⟨done, -⟩
      · exact housed
      · intro session member user found
        obtain ⟨row, present, rfl⟩ := updateTx_user ctx me data s s' done _ user found
        obtain ⟨_, -, -, rfl⟩ := updateTx_ok ctx me data s s' done
        have company : (if session.userId = me then data.apply row else row).companyId =
            row.companyId := by
          split
          · rfl
          · rfl
        rw [company]
        have back : ∃ old ∈ s.sessions.rows, session.companyId = old.companyId ∧
            session.userId = old.userId := by
          dsimp only at member
          split at member
          · obtain ⟨old, inside, rfl⟩ := (Table.mem_modify _ _ _ _ _).mp member
            refine ⟨old, inside, ?_⟩
            split
            · exact ⟨rfl, rfl⟩
            · exact ⟨rfl, rfl⟩
          · exact ⟨session, member, rfl, rfl⟩
        obtain ⟨old, inside, sameCompany, sameUser⟩ := back
        rw [sameCompany]
        rw [sameUser] at present
        exact housed old inside row present

theorem write_revokes (ctx : Ctx) (id : Id) (data : UserData) (s s' : Team) (housed : Housed s)
    (revoking : data.revoking = true) (done : updateTx ctx id data s = .ok s')
    (session : AuthSession) (member : session ∈ s.sessions.rows) (own : session.userId = id) :
    Revoked s' session.id := by
  obtain ⟨user, found, company, rfl⟩ := updateTx_ok ctx id data s s' done
  have present : s.sessions.find? session.id = some session :=
    (Table.find?_some _ _ _).mpr ⟨member, rfl⟩
  have home : session.companyId = ctx.companyId := by
    rw [← own] at found
    exact (housed session member user found).trans company
  unfold Revoked
  dsimp only
  rw [if_pos revoking, Table.find?_modify, present]
  refine ⟨_, rfl, ?_⟩
  dsimp only
  rcases before : session.revokedAt with _ | time
  · have stands : standing ctx id session = true := decide_eq_true ⟨home, own, before⟩
    rw [if_pos stands]
    rfl
  · have already : standing ctx id session = false := by
      simp [standing, before]
    rw [already, if_neg Bool.false_ne_true, before]
    rfl

def sessionProtocol : Protocol Team Mark where
  inv := Housed
  fits _ _ := True
  leads := userLeads
  known _ _ := True
  apart _ _ _ := True
  apart_symm _ _ _ _ := trivial
  own m s s' next housed _ _ leads :=
    ⟨step_housed m s s' next leads housed, fun _ _ => trivial⟩
  frame _ _ _ _ _ _ _ _ _ _ _ := ⟨trivial, fun _ _ => trivial⟩
  rest _ _ _ _ _ _ _ _ _ _ _ := trivial

theorem call_mark (services : Services) (p : Request Unit) (call : Call services p) :
    p.mark? = some .other := by
  cases call with
  | update ctx id dto => rfl

theorem call_enters (P : Protocol Team Mark) (leads : P.leads = userLeads)
    (known : ∀ s, P.known .other s) (apart : ∀ s m m', P.apart s m m') (services : Services)
    (p : Request Unit) (call : Call services p) (s : Team) : P.Enters p s := by
  refine ⟨?_, ?_, fun _ _ mark => apart s mark _⟩
  · rw [leads]
    cases call with
    | update ctx id dto => exact Prog.walks_void _ (update_walks services ctx id dto)
  · intro mark own
    rw [call_mark services p call] at own
    cases own
    exact known s

/-- Where every write of a contact finds the contacts as they were read, a user who has one keeps
one. In every run, a write of a contact or a deactivation ends the sessions that are there. -/
theorem contact_kept_sessions_ended (services : Services) (team : Team) (housed : Housed team)
    (me : Id) (reachable : ∀ row, team.users.find? me = some row → hasContact row = true) :
    (∀ c, FittingRun (Call services) Undisturbed (.idle team) c → ∀ row,
      c.store.users.find? me = some row → hasContact row = true) ∧
    ∀ c, FittingRun (Call services) (fun _ _ => True) (.idle team) c →
      ∀ index ctx id before data,
        c.inFlight[index]?.bind Prog.mark? = some (.write ctx id before data) →
          (data.phone.isSome = true ∨ data.email.isSome = true ∨ data.isActive = some false) →
            (∃ team', updateTx ctx id data c.store = .ok team') → ∀ c',
              FittingRun (Call services) (fun _ _ => True) (c.move (.advance index)) c' →
                ∀ session ∈ c.store.sessions.rows, session.userId = id →
                  Revoked c'.store session.id := by
  constructor
  · intro c run
    exact ((contactProtocol me).run_sound _ _ c
      (fun p call s _ => call_enters (contactProtocol me) rfl (fun _ => trivial)
        (fun _ _ _ => trivial) services p call s)
      run ((contactProtocol me).sound_idle team reachable)).inv
  · have enters : ∀ p, Call services p → ∀ s, sessionProtocol.inv s →
        sessionProtocol.Enters p s := fun p call s _ =>
      call_enters sessionProtocol rfl (fun _ => trivial) (fun _ _ _ => trivial) services p call s
    intro c run index ctx id before data pending changes ⟨team', done⟩ c' later session member own
    have sound := sessionProtocol.run_sound _ _ c enters run
      (sessionProtocol.sound_idle team housed)
    have revoking : data.revoking = true := by
      unfold UserData.revoking UserData.deactivating UserData.contactChanged
      rcases changes with phone | email | inactive
      · simp [phone]
      · simp [email]
      · simp [inactive]
    obtain ⟨-, next, leads⟩ := sound.moved sessionProtocol index _ pending
    have moved := sessionProtocol.step_sound _ _ _ (fun p call => enters p call _ sound.inv)
      (fitting_advance _ (fun _ _ => True) c index _ pending trivial) sound
    have ends : Revoked (c.move (.advance index)).store session.id := by
      rcases leads with ⟨-, -, refusal, refused⟩ | ⟨written, -⟩
      · rw [done] at refused
        cases refused
      · exact write_revokes ctx id data _ _ sound.inv revoking written session member own
    exact (moved.keeps sessionProtocol (fun _ _ _ => trivial) enters
      (fun team => Revoked team session.id)
      (fun m s s' next _ _ _ leads held => step_revoked m s s' next leads session.id held)
      later ends).2

def binaryServices : Services :=
  ⟨fun _ _ => true, fun _ _ => 5, fun hash password => hash = password, List.map Char.toLower⟩

def amina : User := ⟨2, 1, "Amina", "amina", "seed", some "+22243210987", none, some "a@shop.mr",
  none, true, none, none⟩

def office : Team where
  users := ⟨[⟨1, 1, "Owner", "owner", "secret", none, none, some "o@shop.mr", none, true, none,
    none⟩, amina], by decide⟩
  sessions := ⟨[⟨70, 1, 2, none⟩], List.nodup_singleton _⟩

theorem office_housed : Housed office := by
  intro session member user found
  rw [List.mem_singleton.mp member] at found ⊢
  have same : office.users.find? 2 = some amina := rfl
  rw [same] at found
  cases found
  rfl

theorem office_reachable : ∀ row, office.users.find? 2 = some row → hasContact row = true := by
  intro row found
  have same : office.users.find? 2 = some amina := rfl
  rw [same] at found
  cases found
  rfl

def owner : Ctx := ⟨1, none, some 1, 900⟩

def dropPhone : UpdateUserDto := { phone := some "", currentPassword := some "secret" }

def dropEmail : UpdateUserDto := { email := some "", currentPassword := some "secret" }

def edit (dto : UpdateUserDto) : Move Team Mark Refusal Unit :=
  .arrive (update binaryServices owner 2 dto).void

theorem edit_issued (moves : List (Move Team Mark Refusal Unit))
    (edits : ∀ p, .arrive p ∈ moves → ∃ dto, Move.arrive p = edit dto) :
    ∀ p, .arrive p ∈ moves → Call binaryServices p := by
  intro p member
  obtain ⟨dto, same⟩ := edits p member
  cases same
  exact .update owner 2 dto

/-- One edit takes the phone and the other the email, each having read both. -/
def bothDropped : List (Move Team Mark Refusal Unit) :=
  [edit dropPhone, edit dropEmail, .advance 0, .advance 1, .advance 0, .advance 1, .advance 0,
    .advance 1]

theorem last_contact_lost :
    ¬ ∀ (services : Services) (team : Team), Housed team → ∀ me,
      (∀ row, team.users.find? me = some row → hasContact row = true) →
        ∀ c, FittingRun (Call services) (fun _ _ => True) (.idle team) c → ∀ row,
          c.store.users.find? me = some row → hasContact row = true := by
  intro claim
  have run := fitting_schedule (Call binaryServices) (fun _ _ => True) (.idle office) bothDropped
    (edit_issued _ (by
      intro p member
      simp only [bothDropped, List.mem_cons, List.not_mem_nil, reduceCtorEq, or_false] at member
      rcases member with same | same
      · exact ⟨_, same⟩
      · exact ⟨_, same⟩))
    (by decide +kernel)
  have kept := claim binaryServices office office_housed 2 office_reachable _ run
  have lost : ∃ row ∈ (((Config.idle office).schedule bothDropped).store.users.find? 2),
      hasContact row = false := by decide +kernel
  obtain ⟨row, found, none⟩ := lost
  rw [kept row found] at none
  cases none

instance (team : Team) : (mark : Mark) → Decidable (Undisturbed team mark)
  | .other => .isTrue trivial
  | .holding _ _ => .isTrue trivial
  | .write _ id before data => inferInstanceAs (Decidable (data.contactChanged = true →
      ∀ row ∈ team.users.find? id, row.phone = before.phone ∧ row.email = before.email))

/-- The two edits one after the other: the second is refused, and the session is ended. -/
def oneDropped : List (Move Team Mark Refusal Unit) :=
  [edit dropPhone, .advance 0, .advance 0, .advance 0, edit dropEmail, .advance 1]

theorem contact_kept_sessions_ended_office :
    (∀ row, ((Config.idle office).schedule oneDropped).store.users.find? 2 = some row →
      hasContact row = true) ∧ Revoked ((Config.idle office).schedule oneDropped).store 70 := by
  obtain ⟨keeps, ends⟩ :=
    contact_kept_sessions_ended binaryServices office office_housed 2 office_reachable
  have issued : ∀ moves, moves ⊆ oneDropped → ∀ p, .arrive p ∈ moves →
      Call binaryServices p := by
    intro moves within
    apply edit_issued
    intro p member
    have inside := within member
    simp only [oneDropped, List.mem_cons, List.not_mem_nil, reduceCtorEq, or_false, false_or]
      at inside
    rcases inside with same | same
    · exact ⟨_, same⟩
    · exact ⟨_, same⟩
  constructor
  · exact keeps _ (fitting_schedule _ Undisturbed _ oneDropped (issued _ (fun _ member => member))
      (by decide +kernel))
  · have begun := fitting_schedule (Call binaryServices) (fun _ _ => True) (.idle office)
      (oneDropped.take 3) (issued _ (List.take_subset _ _)) (by decide +kernel)
    have later := fitting_schedule (Call binaryServices) (fun _ _ => True)
      (((Config.idle office).schedule (oneDropped.take 3)).move (.advance 0)) (oneDropped.drop 4)
      (issued _ (List.drop_subset _ _)) (by decide +kernel)
    exact ends _ begun 0 owner 2 amina { phone := some none } (by decide +kernel) (.inl rfl)
      ⟨_, rfl⟩ _ later ⟨70, 1, 2, none⟩ (List.mem_singleton.mpr rfl) rfl

end ErpBackend.Users
