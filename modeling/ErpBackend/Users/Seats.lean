import ErpBackend.Users.LastContact

/-!
# EntitlementService.maySeat

A seat is an active person with a role other than the owner's. An edit that reactivates
somebody counts the seats in one query, and writes in a later transaction.
-/

namespace ErpBackend.Users

open Foundation

def seatsPerBranch : Int := 2

structure SubscriptionRecord where
  subscribedBranchCount : Int
  additionalSeats : Int

structure SeatUsage where
  seatsUsed : Nat

structure SeatMath where
  includedSeats : Int
  additionalSeats : Int
  seatLimit : Int
  seatsUsed : Int
  overLimit : Bool
  seatsAvailable : Int

def seatMath (sub : SubscriptionRecord) (usage : SeatUsage) : SeatMath :=
  let includedSeats := max 0 sub.subscribedBranchCount * seatsPerBranch
  let seatLimit := includedSeats + max 0 sub.additionalSeats
  let seatsUsed := max 0 (usage.seatsUsed : Int)
  { includedSeats
    additionalSeats := max 0 sub.additionalSeats
    seatLimit
    seatsUsed
    overLimit := seatLimit < seatsUsed
    seatsAvailable := max 0 (seatLimit - seatsUsed) }

def mayConsumeSeat (math : SeatMath) : Bool := math.seatsUsed < math.seatLimit

/-- `user_branches` with the key of its role. -/
structure UserBranch where
  userId : Id
  roleKey : String

/-- What no edit of a user touches: the roles and the subscriptions. -/
structure Books where
  userBranches : List UserBranch
  subscription : Id → Option SubscriptionRecord

namespace Books

variable (books : Books)

def recordFor (companyId : Id) : SubscriptionRecord :=
  (books.subscription companyId).getD ⟨0, 0⟩

def employed (userId : Id) : Bool :=
  books.userBranches.any (fun row => row.userId = userId ∧ row.roleKey ≠ "owner")

def takesSeat (companyId : Id) (user : User) : Bool :=
  user.companyId = companyId ∧ user.isActive = true ∧ books.employed user.id = true

/-- `COUNT(DISTINCT u.id)`: somebody in two branches is one employee. -/
def seatUsage (team : Team) (companyId : Id) : SeatUsage :=
  ⟨(team.users.filter (books.takesSeat companyId)).length⟩

def mathFor (team : Team) (companyId : Id) : SeatMath :=
  seatMath (books.recordFor companyId) (books.seatUsage team companyId)

def maySeat (team : Team) (companyId : Id) : Bool := mayConsumeSeat (books.mathFor team companyId)

def services (verify : String → String → Bool) (lowerCase : List Char → List Char) : Services where
  maySeat := books.maySeat
  seatLimit := fun team companyId => (books.mathFor team companyId).seatLimit.toNat
  verify := verify
  lowerCase := lowerCase

def seatLimit (companyId : Id) : Int :=
  max 0 (books.recordFor companyId).subscribedBranchCount * seatsPerBranch +
    max 0 (books.recordFor companyId).additionalSeats

def WithinLimit (companyId : Id) (team : Team) : Prop :=
  ((books.seatUsage team companyId).seatsUsed : Int) ≤ books.seatLimit companyId

end Books

section Seats

variable (books : Books) (companyId : Id)

theorem maySeat_iff (team : Team) : books.maySeat team companyId = true ↔
    ((books.seatUsage team companyId).seatsUsed : Int) < books.seatLimit companyId := by
  unfold Books.maySeat mayConsumeSeat Books.mathFor seatMath Books.seatLimit
  simp

def seat (user : User) : Nat := if books.takesSeat companyId user then 1 else 0

theorem seatsUsed_eq (team : Team) : (books.seatUsage team companyId).seatsUsed =
    team.users.total (seat books companyId) := by
  have counted := Table.sum_filter team.users (books.takesSeat companyId) (fun _ => (1 : Nat))
  unfold Books.seatUsage
  change _ = team.users.total (fun user => if books.takesSeat companyId user then 1 else 0)
  simpa using counted

theorem seat_apply (data : UserData) (user : User) :
    seat books companyId (data.apply user) ≤ seat books companyId user + 1 ∧
      (books.takesSeat companyId user = true ∨ books.takesSeat companyId (data.apply user) = false →
        seat books companyId (data.apply user) ≤ seat books companyId user) := by
  unfold seat
  cases books.takesSeat companyId user with
  | true =>
      cases books.takesSeat companyId (data.apply user) with
      | true => simp
      | false => simp
  | false =>
      cases books.takesSeat companyId (data.apply user) with
      | true => simp
      | false => simp

theorem takesSeat_apply (data : UserData) (user : User) (inactive : data.isActive ≠ some true)
    (takes : books.takesSeat companyId (data.apply user) = true) :
    books.takesSeat companyId user = true := by
  unfold Books.takesSeat at takes ⊢
  rw [decide_eq_true_eq] at takes ⊢
  refine ⟨takes.1, ?_, takes.2.2⟩
  have active : data.isActive.getD user.isActive = true := takes.2.1
  rcases written : data.isActive with _ | now
  · rw [written] at active
    exact active
  · rw [written] at active inactive
    exact absurd (congrArg some active) inactive

theorem seatsUsed_updateTx (ctx : Ctx) (id : Id) (data : UserData) (s s' : Team)
    (done : updateTx ctx id data s = .ok s') :
    (books.seatUsage s' companyId).seatsUsed ≤ (books.seatUsage s companyId).seatsUsed + 1 ∧
      (data.isActive ≠ some true ∨ ctx.companyId ≠ companyId →
        (books.seatUsage s' companyId).seatsUsed ≤ (books.seatUsage s companyId).seatsUsed) := by
  obtain ⟨user, found, own, rfl⟩ := updateTx_ok ctx id data s s' done
  rw [seatsUsed_eq, seatsUsed_eq]
  have moved := Table.total_update s.users id data.apply data.apply_id
    (seat books companyId) user found
  obtain ⟨one, none⟩ := seat_apply books companyId data user
  dsimp only
  refine ⟨by omega, fun idle => ?_⟩
  have stays : seat books companyId (data.apply user) ≤ seat books companyId user := by
    apply none
    rcases taken : books.takesSeat companyId (data.apply user) with _ | _
    · exact .inr rfl
    · rcases idle with inactive | elsewhere
      · exact .inl (takesSeat_apply books companyId data user inactive taken)
      · unfold Books.takesSeat at taken
        rw [decide_eq_true_eq] at taken
        exact absurd (own.symm.trans taken.1) elsewhere
  omega

def Activates : Mark → Prop
  | .write ctx _ _ data => data.isActive = some true ∧ ctx.companyId = companyId
  | _ => False

/-- A call that `maySeat` has given a seat of this company, and that has not written yet. -/
def Seated : Mark → Prop
  | .holding before seated => seated = true ∧ before.companyId = companyId
  | .write ctx _ _ data => data.isActive = some true ∧ ctx.companyId = companyId
  | _ => False

/-- No activation is written while another call stands between its `maySeat` and its write. -/
def oneAtATime (_ : Team) (m m' : Mark) : Prop := ¬(Activates companyId m ∧ Seated companyId m')

/-- The seats used rise by the write of an activation only; a call that was given a seat needs
them not to. -/
def seatDiscipline : Discipline Team Mark where
  inv := books.WithinLimit companyId
  guar m s s' := Activates companyId m ∨
    (books.seatUsage s' companyId).seatsUsed ≤ (books.seatUsage s companyId).seatsUsed
  rely m s s' := Seated companyId m →
    (books.seatUsage s' companyId).seatsUsed ≤ (books.seatUsage s companyId).seatsUsed
  rely_refl _ _ _ := Nat.le_refl _
  rely_trans _ _ _ _ first second seated := (second seated).trans (first seated)

theorem oneAtATime_frame (s : Team) (m m' : Mark) (s' : Team)
    (apart : oneAtATime companyId s m m') (_ : (seatDiscipline books companyId).inv s)
    (guar : (seatDiscipline books companyId).guar m s s') :
    (seatDiscipline books companyId).rely m' s s' := by
  intro seated
  rcases guar with activates | stays
  · exact absurd ⟨activates, seated⟩ apart
  · exact stays

def Room (ctx : Ctx) (isActive : Option Bool) (team : Team) : Prop :=
  isActive = some true → ctx.companyId = companyId →
    ((books.seatUsage team companyId).seatsUsed : Int) < books.seatLimit companyId

variable {books companyId}

theorem Room.relied {ctx : Ctx} {isActive : Option Bool} {m : Mark} {s s' : Team}
    (room : Room books companyId ctx isActive s)
    (relied : (seatDiscipline books companyId).rely m s s')
    (seated : isActive = some true → ctx.companyId = companyId → Seated companyId m) :
    Room books companyId ctx isActive s' := by
  intro active own
  have before := room active own
  have fewer := relied (seated active own)
  omega

variable (books companyId)

section Safe

variable {α : Type} (verify : String → String → Bool) (lowerCase : List Char → List Char)

variable (ctx : Ctx)

theorem safe_query {β : Type} (m : Mark) (query : Team → β) (f : β → Request α) (s : Team)
    (rest : ∀ s', (seatDiscipline books companyId).rely m s s' →
      (seatDiscipline books companyId).Safe (f (query s')) s') :
    (seatDiscipline books companyId).Safe (Prog.read m query >>= f) s :=
  (seatDiscipline books companyId).safe_read s m query f
    (fun s' relied _ => ⟨.inr (Nat.le_refl _), rest s' relied⟩)

theorem safe_findInCompany (id : Id) (f : User → Request α) (s : Team)
    (rest : ∀ row s', row.companyId = ctx.companyId →
      (seatDiscipline books companyId).Safe (f row) s') :
    (seatDiscipline books companyId).Safe (findInCompany ctx id >>= f) s := by
  unfold findInCompany
  rw [Prog.bind_assoc]
  apply safe_query
  intro s' _
  apply Discipline.safe_expect
  intro row found
  obtain ⟨-, own⟩ := Option.filter_eq_some_iff.mp found
  exact rest row s' (of_decide_eq_true own).1

theorem safe_takeSeat (before : User) (isActive : Option Bool) (f : Unit → Request α) (s : Team)
    (rest : ∀ s', Room books companyId ctx isActive s' →
      (seatDiscipline books companyId).Safe (f ()) s') :
    (seatDiscipline books companyId).Safe
      (takeSeat (books.services verify lowerCase) ctx before isActive >>= f) s := by
  unfold takeSeat
  split
  · next active =>
    rw [Prog.bind_assoc]
    apply safe_query
    intro s' _
    apply Discipline.safe_require
    intro allowed
    refine rest s' (fun _ own => ?_)
    rw [← own]
    exact (maySeat_iff books ctx.companyId s').mp allowed
  · next inactive => exact rest s (fun active => absurd active inactive)

theorem safe_confirmContact (dto : UpdateUserDto) (before : User) (data : UserData)
    (own : before.companyId = ctx.companyId) (f : Unit → Request α) (s : Team)
    (room : Room books companyId ctx data.isActive s)
    (rest : ∀ s', Room books companyId ctx data.isActive s' →
      (seatDiscipline books companyId).Safe (f ()) s') :
    (seatDiscipline books companyId).Safe
      (confirmContact (books.services verify lowerCase) ctx dto before data >>= f) s := by
  unfold confirmContact confirmActorPassword
  split
  · simp only [Prog.bind_assoc]
    apply Discipline.safe_require
    intro _
    apply Discipline.safe_expect
    intro actorId _
    apply Discipline.safe_expect
    intro typed _
    apply safe_query
    intro s' relied
    apply Discipline.safe_require
    intro _
    refine rest s' (room.relied relied ?_)
    intro active mine
    exact ⟨decide_eq_true active, own.trans mine⟩
  · exact rest s room

theorem safe_write (id : Id) (before : User) (data : UserData) (f : Unit → Request α) (s : Team)
    (room : Room books companyId ctx data.isActive s)
    (rest : ∀ s', (seatDiscipline books companyId).Safe (f ()) s') :
    (seatDiscipline books companyId).Safe
      (Prog.commit (.write ctx id before data) (updateTx ctx id data) >>= f) s := by
  apply Discipline.safe_commit
  · intro s' relied within s'' done
    have left := room.relied relied (fun active own => ⟨active, own⟩)
    obtain ⟨one, none⟩ := seatsUsed_updateTx books companyId ctx id data s' s'' done
    change ((books.seatUsage s'' companyId).seatsUsed : Int) ≤ books.seatLimit companyId ∧ _
    by_cases activates : data.isActive = some true ∧ ctx.companyId = companyId
    · have free := left activates.1 activates.2
      exact ⟨by omega, .inl activates, rest s''⟩
    · have fewer := none (Decidable.not_and_iff_not_or_not.mp activates)
      have limit : ((books.seatUsage s' companyId).seatsUsed : Int) ≤ books.seatLimit companyId :=
        within
      exact ⟨by omega, .inr fewer, rest s''⟩
  · exact fun s' => .inr (Nat.le_refl _)

theorem safe_update (id : Id) (dto : UpdateUserDto) (s : Team) :
    (seatDiscipline books companyId).Safe
      (update (books.services verify lowerCase) ctx id dto) s := by
  unfold update
  apply safe_findInCompany
  intro before s' own
  apply Discipline.safe_liftExcept
  intro phone _
  apply Discipline.safe_liftExcept
  intro email _
  apply Discipline.safe_require
  intro _
  apply safe_takeSeat
  intro seated room
  apply Discipline.safe_require
  intro _
  apply safe_confirmContact books companyId verify lowerCase ctx dto before _ own _ _ room
  intro confirmed still
  apply safe_write books companyId ctx id before _ _ _ still
  intro written
  apply safe_findInCompany
  intro row _ _
  trivial

end Safe

/-- Where no activation is written while another stands between its count and its write, the
limit holds in every run. -/
theorem seats_within_limit (verify : String → String → Bool) (lowerCase : List Char → List Char)
    (team : Team) (within : books.WithinLimit companyId team) (c : Config Team Mark Refusal Unit)
    (run : Run (Call (books.services verify lowerCase)) (oneAtATime companyId) (.idle team) c) :
    books.WithinLimit companyId c.store := by
  have safe : ∀ p, Call (books.services verify lowerCase) p → ∀ s,
      (seatDiscipline books companyId).inv s → (seatDiscipline books companyId).Safe p s := by
    intro p call s _
    cases call with
    | update ctx id dto =>
        exact Discipline.safe_void _ s _ (safe_update books companyId verify lowerCase ctx id dto s)
  exact ((seatDiscipline books companyId).run_sound _ _ safe (oneAtATime_frame books companyId)
    _ c run ((seatDiscipline books companyId).sound_idle team within)).1

end Seats

def oneSeat : Books where
  userBranches := [⟨1, "owner"⟩, ⟨2, "seller"⟩, ⟨3, "seller"⟩]
  subscription := fun _ => some ⟨0, 1⟩

def employee (id : Id) (login : String) : User :=
  ⟨id, 1, login, login, "seed", none, none, some login, none, false, none, none⟩

def staff : Team where
  users := ⟨[⟨1, 1, "Owner", "owner", "secret", none, none, some "o@shop.mr", none, true, none,
    none⟩, employee 2 "amina@shop.mr", employee 3 "brahim@shop.mr"], by decide⟩
  sessions := ⟨[], List.nodup_nil⟩

def staffServices : Services :=
  oneSeat.services (fun hash password => hash = password) (List.map Char.toLower)

def activate (id : Id) : Move Team Mark Refusal Unit :=
  .arrive (update staffServices owner id { isActive := some true }).void

def bothActivated : List (Move Team Mark Refusal Unit) :=
  [activate 2, activate 3, .advance 0, .advance 1, .advance 0, .advance 1, .advance 0, .advance 1]

def oneActivated : List (Move Team Mark Refusal Unit) :=
  [activate 2, .advance 0, .advance 0, .advance 0, activate 3, .advance 1, .advance 1]

theorem activations_issued (moves : List (Move Team Mark Refusal Unit))
    (only : ∀ p, .arrive p ∈ moves → ∃ id, Move.arrive p = activate id) :
    ∀ p, .arrive p ∈ moves → Call staffServices p := by
  intro p member
  obtain ⟨id, same⟩ := only p member
  cases same
  exact .update owner id _

theorem last_seat_taken_twice :
    ¬ ∀ (books : Books) (companyId : Id) (verify : String → String → Bool)
      (lowerCase : List Char → List Char) (team : Team), books.WithinLimit companyId team →
        ∀ c, FittingRun (Call (books.services verify lowerCase)) (fun _ _ => True) (.idle team) c →
          books.WithinLimit companyId c.store := by
  intro claim
  have run := fitting_schedule (Call staffServices) (fun _ _ => True) (.idle staff) bothActivated
    (activations_issued _ (by
      intro p member
      simp only [bothActivated, List.mem_cons, List.not_mem_nil, reduceCtorEq, or_false] at member
      rcases member with same | same
      · exact ⟨_, same⟩
      · exact ⟨_, same⟩))
    (by decide +kernel)
  have start : oneSeat.WithinLimit 1 staff := by
    unfold Books.WithinLimit
    decide +kernel
  have within := claim oneSeat 1 _ _ staff start _ run
  have two : (oneSeat.seatUsage ((Config.idle staff).schedule bothActivated).store 1).seatsUsed =
      2 := by decide +kernel
  have one : oneSeat.seatLimit 1 = 1 := by decide +kernel
  unfold Books.WithinLimit at within
  omega

instance (companyId : Id) : (m : Mark) → Decidable (Activates companyId m)
  | .other => .isFalse not_false
  | .holding _ _ => .isFalse not_false
  | .write ctx _ _ data =>
      inferInstanceAs (Decidable (data.isActive = some true ∧ ctx.companyId = companyId))

instance (companyId : Id) : (m : Mark) → Decidable (Seated companyId m)
  | .other => .isFalse not_false
  | .holding before seated =>
      inferInstanceAs (Decidable (seated = true ∧ before.companyId = companyId))
  | .write ctx _ _ data =>
      inferInstanceAs (Decidable (data.isActive = some true ∧ ctx.companyId = companyId))

instance (companyId : Id) (team : Team) (m m' : Mark) :
    Decidable (oneAtATime companyId team m m') :=
  inferInstanceAs (Decidable (¬_))

theorem seats_within_limit_one :
    oneSeat.WithinLimit 1 ((Config.idle staff).schedule oneActivated).store ∧
      (oneSeat.seatUsage ((Config.idle staff).schedule oneActivated).store 1).seatsUsed = 1 := by
  have start : oneSeat.WithinLimit 1 staff := by
    unfold Books.WithinLimit
    decide +kernel
  have run := schedule_run (Call staffServices) (oneAtATime 1) (.idle staff) oneActivated
    (activations_issued _ (by
      intro p member
      simp only [oneActivated, List.mem_cons, List.not_mem_nil, reduceCtorEq, or_false, false_or]
        at member
      rcases member with same | same
      · exact ⟨_, same⟩
      · exact ⟨_, same⟩))
    (by decide +kernel)
  exact ⟨seats_within_limit oneSeat 1 _ _ staff start _ run, by decide +kernel⟩

end ErpBackend.Users
