import ErpBackend.Foundation.Answers
import ErpBackend.Auth.Devices

/-!
# Sessions and their devices

A session is bound to a device when it was unbound, and a device that is revoked takes
its sessions with it: as long as no binding is written over something it did not read.
-/

namespace ErpBackend.Auth

open Foundation

inductive DeviceAnswer where
  | signedIn (response : LoginResponse)
  | adopted (sessionId : Id) (adoption : Adoption)
  | revoked (device : RevokedDevice)
  deriving DecidableEq

inductive DeviceCall (hashing : Hashing) : DeviceRequest DeviceAnswer → Prop
  | login (now : Time) (ttlDays : Nat) (user : User) (ids : LoginIds)
      (deviceCredential : Option DeviceCredentialDto) :
      DeviceCall hashing (completeLogin hashing now ttlDays user ids deviceCredential >>=
        fun response => pure (.signedIn response))
  | adoptLegacy (companyId userId sessionId newDeviceId : Id) :
      DeviceCall hashing (adoptLegacy hashing companyId userId sessionId newDeviceId >>=
        fun adoption => pure (.adopted sessionId adoption))
  | revoke (now : Time) (params : RevokeParams) :
      DeviceCall hashing (revokeDevice now params >>= fun device => pure (.revoked device))

def Unbound (s : Store) (sessionId : Id) : Prop :=
  ∀ session ∈ s.sessions.find? sessionId, session.deviceRecordId = none

def Standing (s : Store) (deviceId : Id) : Prop :=
  ∀ device ∈ s.devices.find? deviceId, device.revokedAt = none

/-- A binding finds what its call has read: the session as it was read or created, and the device
neither revoked nor restored in between. -/
def Undisturbed (s : Store) : DeviceMark → Prop
  | .attach sessionId read => Unbound s sessionId ∧
      ∀ device ∈ s.devices.find? read.id, device.revokedAt = read.revokedAt
  | .enroll sessionId _ read => ∀ session ∈ s.sessions.find? sessionId,
      session.deviceRecordId = read
  | _ => True

def Harmless (s : Store) : Prop :=
  ∀ sessionId session deviceId device, s.sessions.find? sessionId = some session →
    session.deviceRecordId = some deviceId → s.devices.find? deviceId = some device →
      device.revokedAt.isSome = true → session.revokedAt.isSome = true

def BoundTo (sessionId deviceId : Id) (s : Store) : Prop :=
  ∃ session, s.sessions.find? sessionId = some session ∧ session.deviceRecordId = some deviceId

def DeviceMark.created : DeviceMark → Option Id
  | .touch sessionId => some sessionId
  | .attach sessionId _ => some sessionId
  | _ => none

def deviceLeads (hashing : Hashing) : DeviceMark → Store → Store → Option DeviceMark → Prop
  | .other, s, s', next =>
      s'.sessions = s.sessions ∧ s'.devices = s.devices ∧ s'.enrolled = s.enrolled ∧
        ∀ mark ∈ next, mark.created = none
  | .create sessionId, s, s', next => (s' = s ∧ next = none) ∨
      ((∃ now ttlDays user secret,
          createSession hashing now ttlDays user sessionId secret s = .ok s') ∧
        ∀ mark ∈ next, ∀ id, mark.created = some id → id = sessionId)
  | .touch sessionId, s, s', next =>
      s'.sessions = s.sessions ∧ s'.devices = s.devices ∧ s'.enrolled = s.enrolled ∧
        ∀ mark ∈ next, ∀ id, mark.created = some id → id = sessionId
  | .attach sessionId read, s, s', next => read.revokedAt = none ∧
      (s' = s ∨ ∃ now, attachTx now sessionId read.id s = .ok s') ∧
        ∀ mark ∈ next, mark.created = none
  | .enroll sessionId deviceId read, s, s', next => read = none ∧
      (s' = s ∨ ∃ params secret, params.sessionId = sessionId ∧
        enrollTx hashing params deviceId secret s = .ok s') ∧ ∀ mark ∈ next, mark.created = none
  | .revoke deviceId, s, s', next =>
      (s' = s ∨ ∃ now ownerUserId count, revokeTx now ownerUserId deviceId s = .ok (s', count)) ∧
        ∀ mark ∈ next, mark.created = none

section Walks

variable {α : Type} (hashing : Hashing) (now : Time)

/-- What is left walks, and speaks of no session but the one a login has just created. -/
def Speaks (created : Option Id) (p : DeviceRequest α) : Prop :=
  p.Walks (deviceLeads hashing) ∧
    ∀ mark ∈ p.mark?, ∀ id, mark.created = some id → some id = created

variable (created : Option Id)

theorem speaks_done (result : Except Refusal α) :
    Speaks hashing created (.done result : DeviceRequest α) :=
  Prog.onward_done result

theorem Speaks.plain {p : DeviceRequest α} (speaks : Speaks hashing none p) :
    ∀ mark ∈ p.mark?, mark.created = none := by
  intro mark own
  rcases same : mark.created with _ | id
  · rfl
  · cases speaks.2 mark own id same

theorem speaks_read {β : Type} (created : Option Id) (query : Store → β)
    (f : β → DeviceRequest α) (rest : ∀ b, Speaks hashing none (f b)) :
    Speaks hashing created (Prog.read .other query >>= f) := by
  apply Prog.onward_query
  · exact fun id same => (by cases same)
  · exact fun s => ⟨⟨rfl, rfl, rfl, (rest (query s)).plain hashing⟩, (rest (query s)).1⟩

theorem speaks_draw (f : Nat → DeviceRequest α)
    (rest : ∀ k, Speaks hashing none (f k)) : Speaks hashing created (drawSecret >>= f) := by
  refine ⟨?_, fun mark own id same => (by cases own; cases same)⟩
  intro s
  exact ⟨⟨rfl, rfl, rfl, (rest s.drawn).plain hashing⟩, (rest s.drawn).1⟩

theorem speaks_expect {β : Type} (created : Option Id) (refusal : Refusal) (x : Option β)
    (f : β → DeviceRequest α) (rest : ∀ b, Speaks hashing created (f b)) :
    Speaks hashing created (Prog.expect refusal x >>= f) :=
  Prog.onward_expect refusal x f (fun b _ => rest b)

theorem speaks_require (c : Prop) [Decidable c] (refusal : Refusal)
    (f : Unit → DeviceRequest α) (rest : Speaks hashing created (f ())) :
    Speaks hashing created (Prog.require c refusal >>= f) :=
  Prog.onward_require c refusal f (fun _ => rest)

theorem enroll_speaks (params : EnrollParams) (id : Id)
    (f : DeviceEnrollment → DeviceRequest α) (rest : ∀ e, Speaks hashing none (f e)) :
    Speaks hashing created (enroll hashing params id none >>= f) := by
  unfold enroll
  rw [Prog.bind_assoc]
  apply speaks_draw
  intro secret
  refine ⟨?_, fun mark own _ same => (by cases own; cases same)⟩
  rw [Prog.bind_assoc]
  apply Prog.walks_commit
  · exact fun s s' done => ⟨rfl, .inr ⟨params, secret, rfl, done⟩, (rest _).plain hashing⟩
  · exact fun s refusal _ => ⟨rfl, .inl rfl, fun _ none => (by cases none)⟩
  · exact (rest _).1

theorem bindDevice_speaks (user : User) (ids : LoginIds) (recognisedDevice : Option UserDevice)
    (stands : ∀ device ∈ recognisedDevice, device.revokedAt = none)
    (presented : Option DeviceCredentialDto) (f : Option DeviceEnrollment → DeviceRequest α)
    (rest : ∀ e, Speaks hashing none (f e)) :
    Speaks hashing (some ids.sessionId)
      (bindDevice hashing now user ids recognisedDevice presented >>= f) := by
  unfold bindDevice
  split
  · next device =>
    have read := stands device rfl
    refine ⟨?_, fun mark own id same => (by cases own; exact same.symm)⟩
    rw [Prog.bind_assoc]
    apply Prog.walks_commit
    · exact fun s s' done => ⟨read, .inr ⟨now, done⟩, (rest none).plain hashing⟩
    · exact fun s refusal _ => ⟨read, .inl rfl, fun _ none => (by cases none)⟩
    · exact (rest none).1
  · rw [Prog.bind_assoc]
    apply enroll_speaks
    exact fun e => rest (some e)
  · exact ⟨(rest none).1, fun mark own id same =>
      (by rw [(rest none).plain hashing mark own] at same; cases same)⟩

theorem recognised_stands (userId deviceId : Id) (secret : String) (s : Store) :
    ∀ device ∈ recognised hashing userId deviceId secret s, device.revokedAt = none := by
  intro device known
  unfold recognised at known
  split at known
  · cases known
  · split at known
    · cases known
    · next allowed =>
      split at known
      · cases known
        rw [not_or] at allowed
        exact Option.not_isSome_iff_eq_none.mp allowed.1
      · cases known

theorem recognise_speaks (userId : Id) (deviceId secret : String)
    (f : Option UserDevice → DeviceRequest α)
    (rest : ∀ known : Option UserDevice, (∀ device ∈ known, device.revokedAt = none) →
      Speaks hashing none (f known)) :
    Speaks hashing none (recognise hashing userId deviceId secret >>= f) := by
  unfold recognise
  split
  · exact rest none (fun _ absent => by cases absent)
  · apply Prog.onward_query
    · exact fun id same => (by cases same)
    · intro s
      have onward := rest _ (recognised_stands hashing userId (uuidToBin deviceId) secret s)
      exact ⟨⟨rfl, rfl, rfl, onward.plain hashing⟩, onward.1⟩

theorem claimedDevice_speaks (user : User) (presented : Option DeviceCredentialDto)
    (f : Option UserDevice → DeviceRequest α)
    (rest : ∀ known : Option UserDevice, (∀ device ∈ known, device.revokedAt = none) →
      Speaks hashing none (f known)) :
    Speaks hashing none (claimedDevice hashing user presented >>= f) := by
  unfold claimedDevice
  have checked : ∀ known : Option UserDevice, (∀ device ∈ known, device.revokedAt = none) →
      Speaks hashing none
        ((Prog.expect deviceUnrecognized known >>= fun known => pure (some known)) >>= f) := by
    intro known stands
    rw [Prog.bind_assoc]
    apply Prog.onward_expect
    intro device same
    rw [same] at stands
    exact rest (some device) stands
  dsimp only
  split
  · split
    · rw [Prog.bind_assoc]
      apply recognise_speaks
      exact checked
    · exact checked none (fun _ absent => by cases absent)
  · exact rest none (fun _ absent => by cases absent)

theorem completeLogin_speaks (ttlDays : Nat) (user : User) (ids : LoginIds)
    (deviceCredential : Option DeviceCredentialDto) :
    Speaks hashing none (completeLogin hashing now ttlDays user ids deviceCredential) := by
  unfold completeLogin
  apply speaks_read
  intro found
  apply speaks_expect
  intro company
  apply claimedDevice_speaks
  intro recognisedDevice stands
  apply speaks_draw
  intro secret
  have bind := bindDevice_speaks hashing now user ids recognisedDevice stands deviceCredential
    (fun device => (pure ⟨buildResponse user ids.sessionId (hashing.generate secret)
      company.publicStoreId, device⟩ : DeviceRequest LoginResponse))
    (fun _ => speaks_done hashing none _)
  refine ⟨?_, fun mark own _ same => (by cases own; cases same)⟩
  apply Prog.walks_commit
  · intro s s' done
    refine .inr ⟨⟨now, ttlDays, user, secret, done⟩, fun mark own id same => ?_⟩
    cases own
    exact (Option.some.inj same).symm
  · exact fun s refusal _ => .inl ⟨rfl, rfl⟩
  · apply Prog.walks_commit
    · intro s s' done
      have kept : s'.sessions = s.sessions ∧ s'.devices = s.devices ∧ s'.enrolled = s.enrolled := by
        unfold setLastLogin at done
        split at done
        · cases done
        · cases done
          exact ⟨rfl, rfl, rfl⟩
      exact ⟨kept.1, kept.2.1, kept.2.2, fun mark own id same =>
        Option.some.inj (bind.2 mark own id same)⟩
    · exact fun s refusal _ => ⟨rfl, rfl, rfl, fun _ none => (by cases none)⟩
    · exact bind.1

theorem adoptLegacy_speaks (companyId userId sessionId newDeviceId : Id) :
    Speaks hashing none (adoptLegacy hashing companyId userId sessionId newDeviceId) := by
  unfold adoptLegacy
  apply speaks_read
  intro found
  apply speaks_expect
  intro session
  rcases session.deviceRecordId with _ | deviceId
  · apply enroll_speaks
    exact fun e => speaks_done hashing none _
  · exact speaks_done hashing none _

theorem revokeDevice_speaks (params : RevokeParams) :
    Speaks hashing none (revokeDevice now params) := by
  unfold revokeDevice
  apply speaks_require
  apply speaks_read
  intro found
  apply speaks_expect
  intro device
  split
  · exact speaks_done hashing none _
  · refine ⟨?_, fun mark own _ same => (by cases own; cases same)⟩
    apply Prog.walks_transact
    · exact fun s s' count done =>
        ⟨⟨.inr ⟨now, params.ownerUserId, count, done⟩, fun _ none => (by cases none)⟩, trivial⟩
    · exact fun s refusal _ => ⟨.inl rfl, fun _ none => (by cases none)⟩

theorem deviceCall_speaks (p : DeviceRequest DeviceAnswer) (call : DeviceCall hashing p) :
    Speaks hashing none p := by
  cases call with
  | login now ttlDays user ids deviceCredential =>
      exact Prog.onward_map _ _ (completeLogin_speaks hashing now ttlDays user ids deviceCredential)
  | adoptLegacy companyId userId sessionId newDeviceId =>
      exact Prog.onward_map _ _ (adoptLegacy_speaks hashing companyId userId sessionId newDeviceId)
  | revoke now params => exact Prog.onward_map _ _ (revokeDevice_speaks hashing now params)

end Walks

section Effects

variable (hashing : Hashing) (s s' : Store)

theorem createSession_ok (now : Time) (ttlDays : Nat) (user : User) (sessionId : Id) (secret : Nat)
    (done : createSession hashing now ttlDays user sessionId secret s = .ok s') :
    ∃ sessions, s.sessions.insert? (newSession hashing now ttlDays user sessionId secret) =
      some sessions ∧ s' = { s with sessions } := by
  unfold createSession at done
  split at done
  · cases done
  · next sessions inserted =>
    cases done
    exact ⟨sessions, inserted, rfl⟩

theorem attachTx_ok (now : Time) (sessionId deviceId : Id)
    (done : attachTx now sessionId deviceId s = .ok s') :
    ∃ row, s.sessions.find? sessionId = some row ∧ s' = { s with
      sessions := s.sessions.update sessionId (AuthSession.bound deviceId)
        (AuthSession.bound_id deviceId)
      devices := s.devices.modify (fun device => device.id = deviceId ∧ unseenSince now device)
        (UserDevice.touched now) (UserDevice.touched_id now) } := by
  unfold attachTx at done
  split at done
  · cases done
  · next row found =>
    cases done
    exact ⟨row, found, rfl⟩

theorem enrollTx_ok (params : EnrollParams) (deviceId : Id) (secret : Nat)
    (done : enrollTx hashing params deviceId secret s = .ok s') :
    ∃ device devices row, device.id = deviceId ∧ device.revokedAt = none ∧
      s.devices.insert? device = some devices ∧
      s.sessions.find? params.sessionId = some row ∧ s' = { s with
        devices
        sessions := s.sessions.update params.sessionId (AuthSession.bound deviceId)
          (AuthSession.bound_id deviceId)
        enrolled := s.enrolled ++ [(params.sessionId, deviceId)] } := by
  unfold enrollTx at done
  dsimp only at done
  split at done
  · cases done
  · next devices inserted =>
    split at done
    · cases done
    · next row found =>
      cases done
      exact ⟨_, devices, row, rfl, rfl, inserted, found, rfl⟩

theorem revokeTx_ok (now : Time) (ownerUserId deviceId : Id) (count : Nat)
    (done : revokeTx now ownerUserId deviceId s = .ok (s', count)) :
    s' = { s with
      devices := s.devices.update deviceId (UserDevice.revoked now ownerUserId)
        (UserDevice.revoked_id now ownerUserId)
      sessions := s.sessions.modify (liveOn deviceId) (AuthSession.revoked now)
        (AuthSession.revoked_id now) } := by
  unfold revokeTx at done
  split at done
  · cases done
  · cases done
    rfl

end Effects

/-- What a step that finds what it needs does to the sessions and the devices. -/
structure Effect (m : DeviceMark) (s s' : Store) : Prop where
  sessions : ∀ id session', s'.sessions.find? id = some session' →
    session'.deviceRecordId = none ∨ ∃ session, s.sessions.find? id = some session ∧
      (session.revokedAt.isSome = true → session'.revokedAt.isSome = true) ∧
      (session'.deviceRecordId = session.deviceRecordId ∨
        ∃ deviceId, session'.deviceRecordId = some deviceId ∧ Standing s' deviceId)
  devices : ∀ id device', s'.devices.find? id = some device' → device'.revokedAt.isSome = true →
    (∃ device, s.devices.find? id = some device ∧ device.revokedAt.isSome = true) ∨
      ∀ sessionId session', s'.sessions.find? sessionId = some session' →
        session'.deviceRecordId = some id → session'.revokedAt.isSome = true
  kept : ∀ id session, s.sessions.find? id = some session →
    ∃ session', s'.sessions.find? id = some session' ∧
      (session'.deviceRecordId = session.deviceRecordId ∨ session.deviceRecordId = none ∧
        (m.created = some id ∨ ∃ deviceId, (id, deviceId) ∈ s'.enrolled))
  enrolled : s'.enrolled = s.enrolled ∨ ∃ sessionId deviceId,
    s'.enrolled = s.enrolled ++ [(sessionId, deviceId)] ∧ Unbound s sessionId ∧
      BoundTo sessionId deviceId s'

section Effects

variable (hashing : Hashing) (s s' : Store)

variable (m : DeviceMark)

theorem effect_same (sessions : s'.sessions = s.sessions)
    (devices : s'.devices = s.devices) (enrolled : s'.enrolled = s.enrolled) : Effect m s s' := by
  refine ⟨?_, ?_, ?_, .inl enrolled⟩
  · intro id session found
    rw [sessions] at found
    exact .inr ⟨session, found, fun ended => ended, .inl rfl⟩
  · intro id device found revoked
    rw [devices] at found
    exact .inl ⟨device, found, revoked⟩
  · intro id session found
    exact ⟨session, by rw [sessions]; exact found, .inl rfl⟩

theorem create_effect (sessions : Table AuthSession AuthSession.id)
    (session : AuthSession) (unbound : session.deviceRecordId = none)
    (inserted : s.sessions.insert? session = some sessions) :
    Effect m s { s with sessions } := by
  refine ⟨?_, fun id device found revoked => .inl ⟨device, found, revoked⟩, ?_, .inl rfl⟩
  · intro id session' found
    have split := Table.find?_insert _ _ _ inserted id
    rw [show sessions.find? id = some session' from found] at split
    split at split
    · cases split
      exact .inl unbound
    · exact .inr ⟨session', split.symm, fun ended => ended, .inl rfl⟩
  · intro id old found
    exact ⟨old, Table.find?_insert_of_found _ _ _ inserted id old found, .inl rfl⟩

theorem bind_effect (sessionId deviceId : Id)
    (free : Unbound s sessionId) (sessions : s'.sessions =
      s.sessions.update sessionId (AuthSession.bound deviceId) (AuthSession.bound_id deviceId))
    (stands : Standing s' deviceId)
    (devices : ∀ id device', s'.devices.find? id = some device' → device'.revokedAt.isSome = true →
      ∃ device, s.devices.find? id = some device ∧ device.revokedAt.isSome = true)
    (enrolled : s'.enrolled = s.enrolled ∧ m.created = some sessionId ∨
      s'.enrolled = s.enrolled ++ [(sessionId, deviceId)] ∧
        (s.sessions.find? sessionId).isSome = true) :
    Effect m s s' := by
  refine ⟨?_, fun id device' found revoked => .inl (devices id device' found revoked), ?_, ?_⟩
  · intro id session' found
    rw [sessions] at found
    obtain ⟨session, present, rfl⟩ :=
      Table.find?_update_some _ _ _ (AuthSession.bound_id deviceId) _ _ found
    refine .inr ⟨session, present, ?_, ?_⟩
    · split
      · exact fun ended => ended
      · exact fun ended => ended
    · split
      · exact .inr ⟨deviceId, rfl, stands⟩
      · exact .inl rfl
  · intro id session found
    refine ⟨_, by
      rw [sessions]
      exact Table.find?_update_of_found _ _ _ (AuthSession.bound_id deviceId) _ _ found, ?_⟩
    split
    · next same =>
      subst same
      refine .inr ⟨free session found, ?_⟩
      rcases enrolled with ⟨-, created⟩ | ⟨added, -⟩
      · exact .inl created
      · exact .inr ⟨deviceId, by rw [added]; simp⟩
    · exact .inl rfl
  · rcases enrolled with ⟨same, -⟩ | ⟨added, present⟩
    · exact .inl same
    · obtain ⟨session, found⟩ := Option.isSome_iff_exists.mp present
      refine .inr ⟨sessionId, deviceId, added, free, session.bound deviceId, ?_, rfl⟩
      rw [sessions, Table.find?_update_of_found _ _ _ (AuthSession.bound_id deviceId) _ _ found,
        if_pos rfl]

theorem revoke_effect (now : Time) (ownerUserId deviceId : Id) (count : Nat)
    (done : revokeTx now ownerUserId deviceId s = .ok (s', count)) : Effect m s s' := by
  obtain rfl := revokeTx_ok s s' now ownerUserId deviceId count done
  refine ⟨?_, ?_, ?_, .inl rfl⟩
  · intro id session' found
    simp only [Table.find?_modify, Option.map_eq_some_iff] at found
    obtain ⟨session, present, rfl⟩ := found
    refine .inr ⟨session, present, ?_, ?_⟩
    · split
      · exact fun _ => rfl
      · exact fun ended => ended
    · split
      · exact .inl rfl
      · exact .inl rfl
  · intro id device' found revoked
    obtain ⟨device, present, rfl⟩ :=
      Table.find?_update_some _ _ _ (UserDevice.revoked_id now ownerUserId) _ _ found
    by_cases same : id = deviceId
    · subst same
      right
      intro sessionId session' there bound
      simp only [Table.find?_modify, Option.map_eq_some_iff] at there
      obtain ⟨session, _, rfl⟩ := there
      rcases live : liveOn id session with _ | _
      · simp only [live, Bool.false_eq_true, if_false] at bound ⊢
        rcases ended : session.revokedAt with _ | at'
        · simp [liveOn, bound, ended] at live
        · rfl
      · rfl
    · rw [if_neg same] at revoked
      exact .inl ⟨device, present, revoked⟩
  · intro id session found
    refine ⟨_, by simp only [Table.find?_modify, found, Option.map_some]; rfl, ?_⟩
    split
    · exact .inl rfl
    · exact .inl rfl

theorem step_effect (next : Option DeviceMark) (free : Undisturbed s m)
    (leads : deviceLeads hashing m s s' next) : Effect m s s' := by
  cases m with
  | other => exact effect_same s s' _ leads.1 leads.2.1 leads.2.2.1
  | touch sessionId => exact effect_same s s' _ leads.1 leads.2.1 leads.2.2.1
  | create sessionId =>
      rcases leads with ⟨rfl, -⟩ | ⟨⟨now, ttlDays, user, secret, done⟩, -⟩
      · exact effect_same _ _ _ rfl rfl rfl
      · obtain ⟨sessions, inserted, rfl⟩ :=
          createSession_ok hashing s s' now ttlDays user sessionId secret done
        exact create_effect s _ sessions _ rfl inserted
  | attach sessionId read =>
      obtain ⟨stood, done, -⟩ := leads
      rcases done with rfl | ⟨now, done⟩
      · exact effect_same _ _ _ rfl rfl rfl
      · obtain ⟨row, found, rfl⟩ := attachTx_ok s s' now sessionId read.id done
        have back : ∀ id device', Table.find? (s.devices.modify (fun device =>
            device.id = read.id ∧ unseenSince now device) (UserDevice.touched now)
            (UserDevice.touched_id now)) id = some device' →
            ∃ device, s.devices.find? id = some device ∧ device'.revokedAt = device.revokedAt := by
          intro id device' there
          rw [Table.find?_modify, Option.map_eq_some_iff] at there
          obtain ⟨device, present, rfl⟩ := there
          refine ⟨device, present, ?_⟩
          split
          · rfl
          · rfl
        refine bind_effect s _ _ sessionId read.id free.1 rfl ?_ ?_ (.inl ⟨rfl, rfl⟩)
        · intro device' there
          obtain ⟨device, present, same⟩ := back read.id device' there
          exact same.trans ((free.2 device present).trans stood)
        · intro id device' there revoked
          obtain ⟨device, present, same⟩ := back id device' there
          exact ⟨device, present, by rw [← same]; exact revoked⟩
  | enroll sessionId deviceId read =>
      obtain ⟨rfl, done, -⟩ := leads
      rcases done with rfl | ⟨params, secret, rfl, done⟩
      · exact effect_same _ _ _ rfl rfl rfl
      · obtain ⟨device, devices, row, key, stands, inserted, found, rfl⟩ :=
          enrollTx_ok hashing s s' params deviceId secret done
        refine bind_effect s _ _ params.sessionId deviceId free rfl ?_ ?_
          (.inr ⟨rfl, by rw [found]; rfl⟩)
        · intro device' there
          have split := Table.find?_insert _ _ _ inserted deviceId
          rw [if_pos key.symm, show devices.find? deviceId = some device' from there] at split
          cases split
          exact stands
        · intro id device' there revoked
          have split := Table.find?_insert _ _ _ inserted id
          rw [show devices.find? id = some device' from there] at split
          split at split
          · cases split
            rw [stands] at revoked
            cases revoked
          · exact ⟨device', split.symm, revoked⟩
  | revoke deviceId =>
      rcases leads.1 with rfl | ⟨now, ownerUserId, count, done⟩
      · exact effect_same _ _ _ rfl rfl rfl
      · exact revoke_effect s s' _ now ownerUserId deviceId count done

end Effects

/-- Since `start`: devices take their sessions with them, each session had at most one device
enrolled for it and is bound to that one, and what was bound stays so. -/
structure Bindings (start s : Store) : Prop where
  harmless : Harmless s
  filed : ∀ entry ∈ s.enrolled, BoundTo entry.1 entry.2 s
  once : (s.enrolled.map Prod.fst).Nodup
  stays : ∀ id session, start.sessions.find? id = some session →
    ∃ session', s.sessions.find? id = some session' ∧
      (session'.deviceRecordId = session.deviceRecordId ∨
        session.deviceRecordId = none ∧ ∃ deviceId, (id, deviceId) ∈ s.enrolled)

section Bindings

variable (hashing : Hashing) (start s s' : Store) (m : DeviceMark)

/-- The session a login has created is none of those that were there. -/
def Newcomer (m : DeviceMark) : Prop :=
  ∀ id, m.created = some id → start.sessions.find? id = none

theorem Effect.boundTo (effect : Effect m s s') (sessionId deviceId : Id)
    (bound : BoundTo sessionId deviceId s) : BoundTo sessionId deviceId s' := by
  obtain ⟨session, found, device⟩ := bound
  obtain ⟨session', found', same | ⟨unbound, -⟩⟩ := effect.kept sessionId session found
  · exact ⟨session', found', same.trans device⟩
  · rw [unbound] at device
    cases device

theorem Effect.harmless (effect : Effect m s s') (harmless : Harmless s) : Harmless s' := by
  intro sessionId session' deviceId device' found bound there revoked
  rcases effect.devices deviceId device' there revoked with ⟨device, before, ended⟩ | all
  · rcases effect.sessions sessionId session' found with
      unbound | ⟨session, present, keeps, same | ⟨other, new, stands⟩⟩
    · rw [unbound] at bound
      cases bound
    · exact keeps (harmless sessionId session deviceId device present (same.symm.trans bound) before
        ended)
    · rw [new] at bound
      cases bound
      rw [stands device' there] at revoked
      cases revoked
  · exact all sessionId session' found bound

theorem Effect.bindings (effect : Effect m s s') (newcomer : Newcomer start m)
    (bindings : Bindings start s) : Bindings start s' := by
  have persists : ∀ entry ∈ s.enrolled, entry ∈ s'.enrolled := by
    intro entry member
    rcases effect.enrolled with same | ⟨_, _, added, -⟩
    · rw [same]; exact member
    · rw [added]; exact List.mem_append_left _ member
  refine ⟨effect.harmless s s' m bindings.harmless, ?_, ?_, ?_⟩
  · intro entry member
    rcases effect.enrolled with same | ⟨sessionId, deviceId, added, -, bound⟩
    · rw [same] at member
      exact effect.boundTo s s' m _ _ (bindings.filed entry member)
    · rw [added] at member
      rcases List.mem_append.mp member with old | new
      · exact effect.boundTo s s' m _ _ (bindings.filed entry old)
      · rw [List.mem_singleton.mp new]
        exact bound
  · rcases effect.enrolled with same | ⟨sessionId, deviceId, added, free, -⟩
    · rw [same]
      exact bindings.once
    · rw [added, List.map_append]
      refine List.nodup_append.mpr ⟨bindings.once, List.nodup_singleton _, ?_⟩
      intro id earlier last member
      obtain ⟨entry, inside, rfl⟩ := List.mem_map.mp earlier
      obtain ⟨session, found, bound⟩ := bindings.filed entry inside
      simp only [List.map_cons, List.map_nil, List.mem_singleton] at member
      rintro rfl
      rw [member] at found
      rw [free session found] at bound
      cases bound
  · intro id first there
    obtain ⟨session, found, same | ⟨unbound, deviceId, member⟩⟩ := bindings.stays id first there
    · obtain ⟨session', found', kept | ⟨unbound, created | ⟨deviceId, member⟩⟩⟩ :=
        effect.kept id session found
      · exact ⟨session', found', .inl (kept.trans same)⟩
      · rw [newcomer id created] at there
        cases there
      · exact ⟨session', found', .inr ⟨same.symm.trans unbound, deviceId, member⟩⟩
    · obtain ⟨session', found', -⟩ := effect.kept id session found
      exact ⟨session', found', .inr ⟨unbound, deviceId, persists _ member⟩⟩

theorem step_newcomer (next : Option DeviceMark) (newcomer : Newcomer start m)
    (bindings : Bindings start s) (leads : deviceLeads hashing m s s' next) :
    ∀ m', next = some m' → Newcomer start m' := by
  have none_new : ∀ m' : DeviceMark, m'.created = none → Newcomer start m' := by
    intro m' plain id same
    rw [plain] at same
    cases same
  intro m' own
  cases m with
  | other => exact none_new m' (leads.2.2.2 m' own)
  | touch sessionId =>
      intro id same
      rw [leads.2.2.2 m' own id same]
      exact newcomer sessionId rfl
  | create sessionId =>
      rcases leads with ⟨-, rfl⟩ | ⟨⟨now, ttlDays, user, secret, done⟩, names⟩
      · cases own
      · intro id same
        rw [names m' own id same]
        obtain ⟨sessions, inserted, -⟩ :=
          createSession_ok hashing s s' now ttlDays user sessionId secret done
        rcases there : start.sessions.find? sessionId with _ | first
        · rfl
        · obtain ⟨session, found, -⟩ := bindings.stays sessionId first there
          have fresh :=
            (Table.insert?_some _ _ _ inserted).2 session (Table.mem_of_find? _ _ _ found)
          exact absurd (Table.key_of_find? _ _ _ found) fresh
  | attach sessionId read => exact none_new m' (leads.2.2 m' own)
  | enroll sessionId deviceId read => exact none_new m' (leads.2.2 m' own)
  | revoke deviceId => exact none_new m' (leads.2 m' own)

def bindingProtocol : Protocol Store DeviceMark where
  inv := Bindings start
  fits := Undisturbed
  leads := deviceLeads hashing
  known m _ := Newcomer start m
  apart _ _ _ := True
  apart_symm _ _ _ _ := trivial
  own m s s' next bindings free newcomer leads :=
    ⟨(step_effect hashing s s' m next free leads).bindings start s s' m newcomer bindings,
      step_newcomer hashing start s s' m next newcomer bindings leads⟩
  frame _ _ _ _ _ _ _ _ newcomer _ _ := ⟨newcomer, fun _ _ => trivial⟩
  rest _ _ _ _ _ _ _ _ _ _ _ := trivial

theorem deviceCall_enters (p : DeviceRequest DeviceAnswer) (call : DeviceCall hashing p) (s : Store)
    (_ : Bindings start s) : (bindingProtocol hashing start).Enters p s := by
  have speaks := deviceCall_speaks hashing p call
  refine ⟨speaks.1, ?_, fun _ _ _ => trivial⟩
  intro mark own id same
  rw [speaks.plain hashing mark own] at same
  cases same

end Bindings

section Answers

variable (hashing : Hashing) (start : Store) (sessionId : Id)

def Adopts (result : Except Refusal DeviceAnswer) : Prop :=
  ∃ adoption, result = .ok (.adopted sessionId adoption)

def HasDevice (s : Store) : Prop := ∃ deviceId, BoundTo sessionId deviceId s

theorem adoptLegacy_unclaimed (companyId userId newDeviceId : Id) :
    (adoptLegacy hashing companyId userId sessionId newDeviceId >>= fun adoption =>
      (pure (.adopted sessionId adoption) : DeviceRequest DeviceAnswer)).Unclaimed
        ((bindingProtocol hashing start).Possible Undisturbed)
        (fun _ s' => HasDevice sessionId s') (Adopts sessionId) := by
  have refused : ∀ refusal, ¬Adopts sessionId (.error refusal) := by
    intro refusal wins
    obtain ⟨_, same⟩ := wins
    cases same
  unfold adoptLegacy enroll
  simp only [Prog.bind_assoc]
  apply Prog.unclaimed_read
  intro s _
  rcases found : s.sessions.find? sessionId with _ | session
  · exact .inl (refused _)
  rcases bound : session.deviceRecordId with _ | deviceId
  · -- nothing is bound yet: the enrollment binds
    left
    refine Prog.unclaimed_expect _ _ _ _ _ _ ?_ refused
    intro row own
    obtain ⟨same, -⟩ := Option.filter_eq_some_iff.mp own
    cases same
    simp only [bound, Prog.bind_assoc]
    refine Prog.unclaimed_bind _ _ _ _ _ ?_ refused
    intro secret
    refine Prog.unclaimed_commit _ _ _ _ _ _ ?_ refused
    intro s s' possible done
    obtain ⟨_, _, row, -, -, -, there, rfl⟩ := enrollTx_ok hashing s s' _ newDeviceId secret done
    refine .inr ⟨newDeviceId, row.bound newDeviceId, ?_, rfl⟩
    rw [Table.find?_update_of_found _ _ _ (AuthSession.bound_id newDeviceId) _ _ there, if_pos rfl]
  · exact .inr ⟨deviceId, session, found, bound⟩

theorem deviceCall_unclaimed (p : DeviceRequest DeviceAnswer) (call : DeviceCall hashing p) :
    p.Unclaimed ((bindingProtocol hashing start).Possible Undisturbed)
      (fun _ s' => HasDevice sessionId s') (Adopts sessionId) := by
  have refused : ∀ refusal, ¬Adopts sessionId (.error refusal) := by
    intro refusal wins
    obtain ⟨_, same⟩ := wins
    cases same
  cases call with
  | login now ttlDays user ids deviceCredential =>
      refine Prog.unclaimed_bind _ _ _ _ _ ?_ refused
      intro response wins
      obtain ⟨_, same⟩ := wins
      cases same
  | adoptLegacy companyId userId asked newDeviceId =>
      by_cases here : asked = sessionId
      · subst here
        exact adoptLegacy_unclaimed hashing start asked companyId userId newDeviceId
      · refine Prog.unclaimed_bind _ _ _ _ _ ?_ refused
        intro adoption wins
        obtain ⟨_, same⟩ := wins
        cases same
        exact here rfl
  | revoke now params =>
      refine Prog.unclaimed_bind _ _ _ _ _ ?_ refused
      intro device wins
      obtain ⟨_, same⟩ := wins
      cases same

end Answers

/-- Where every binding finds what its call has read: no session outlives its device, none is bound
anew, none has two devices enrolled for it, and one that was there
without a device and was answered an adoption has one. -/
theorem bindings_hold (hashing : Hashing) (start : Store) (harmless : Harmless start)
    (nothing : start.enrolled = []) :
    ∀ c, FittingRun (DeviceCall hashing) Undisturbed (.idle start) c →
      Harmless c.store ∧ (c.store.enrolled.map Prod.fst).Nodup ∧
      (∀ c' sessionId deviceId, FittingRun (DeviceCall hashing) Undisturbed c c' →
        BoundTo sessionId deviceId c.store → BoundTo sessionId deviceId c'.store) ∧
      ∀ sessionId, (∃ session, start.sessions.find? sessionId = some session ∧
          session.deviceRecordId = none) →
        ∀ (index : Nat) adoption,
          c.inFlight[index]? = some (.done (.ok (.adopted sessionId adoption))) →
          ∃ deviceId, (sessionId, deviceId) ∈ c.store.enrolled ∧
            BoundTo sessionId deviceId c.store := by
  have begun : Bindings start start := by
    refine ⟨harmless, ?_, ?_, fun id session found => ⟨session, found, .inl rfl⟩⟩
    · intro entry member
      rw [nothing] at member
      cases member
    · rw [nothing]
      exact List.nodup_nil
  let P := bindingProtocol hashing start
  have enters := deviceCall_enters hashing start
  have stays : ∀ sessionId deviceId m s s' next, P.inv s → Undisturbed s m → P.known m s →
      P.leads m s s' next → BoundTo sessionId deviceId s → BoundTo sessionId deviceId s' :=
    fun sessionId deviceId m s s' next _ free _ leads bound =>
      (step_effect hashing s s' m next free leads).boundTo s s' m sessionId deviceId bound
  intro c run
  have sound := P.run_sound _ _ c enters run (P.sound_idle start begun)
  refine ⟨sound.inv.harmless, sound.inv.once, ?_, ?_⟩
  · intro c' sessionId deviceId onward bound
    exact (sound.keeps P (fun _ _ fit => fit) enters (BoundTo sessionId deviceId)
      (stays sessionId deviceId) onward bound).2
  · intro sessionId there index adoption answered
    have kept : ∀ m s s' next, P.inv s → Undisturbed s m → P.known m s → P.leads m s s' next →
        HasDevice sessionId s → HasDevice sessionId s' := by
      intro m s s' next invariant free known leads has
      obtain ⟨deviceId, bound⟩ := has
      exact ⟨deviceId, stays sessionId deviceId m s s' next invariant free known leads bound⟩
    have has : HasDevice sessionId c.store :=
      Protocol.Sound.reached P (fun _ _ fit => fit) enters (Adopts sessionId)
        (HasDevice sessionId) kept (deviceCall_unclaimed hashing start sessionId) begun run index _
        answered ⟨adoption, rfl⟩
    obtain ⟨deviceId, session, found, bound⟩ := has
    obtain ⟨first, before, unbound⟩ := there
    obtain ⟨session', found', same | ⟨-, enrolled, member⟩⟩ :=
      sound.inv.stays sessionId first before
    · rw [found] at found'
      cases found'
      rw [bound, unbound] at same
      cases same
    · exact ⟨enrolled, member, sound.inv.filed _ member⟩

/-- A session that has no device yet, and a device that has no session. -/
def launched : Store where
  companies := ⟨[⟨1, "0123456789", true⟩], by decide⟩
  users := ⟨[⟨1, 1, "Amina", "amina", "A1", true, none⟩], by decide⟩
  sessions := ⟨[⟨5, 1, 1, "a", 1000, 0, none, none⟩], by decide⟩
  devices := ⟨[⟨10, 1, 1, "aa", .password, false, none, none, none⟩], by decide⟩
  drawn := 3

theorem launched_harmless : Harmless launched := by
  intro sessionId session deviceId device found bound
  have member := Table.mem_of_find? _ _ _ found
  simp only [launched, List.mem_singleton] at member
  subst member
  cases bound

def login : Move Store DeviceMark Refusal DeviceAnswer :=
  .arrive (completeLogin plainHashing 10 30 ⟨1, 1, "Amina", "amina", "A1", true, none⟩ ⟨20, 21⟩
    (some ⟨some (binToUuid 10), some "aa"⟩) >>= fun response => pure (.signedIn response))

def adopt (newDeviceId : Id) : Move Store DeviceMark Refusal DeviceAnswer :=
  .arrive (adoptLegacy plainHashing 1 1 5 newDeviceId >>= fun adoption =>
    pure (.adopted 5 adoption))

def lost : Move Store DeviceMark Refusal DeviceAnswer :=
  .arrive (revokeDevice 20 ⟨1, 1, 1, binToUuid 10⟩ >>= fun device => pure (.revoked device))

/-- The device is revoked between its recognition and the binding of the new session. -/
def lateAttach : List (Move Store DeviceMark Refusal DeviceAnswer) :=
  [login, .advance 0, .advance 0, lost, .advance 1, .advance 1, .advance 0, .advance 0, .advance 0,
    .advance 0]

/-- Two launches of the app read the session before either enrolls a device for it. -/
def twoLaunches : List (Move Store DeviceMark Refusal DeviceAnswer) :=
  [adopt 30, adopt 31, .advance 0, .advance 1, .advance 0, .advance 1, .advance 0, .advance 1]

def oneLaunch : List (Move Store DeviceMark Refusal DeviceAnswer) :=
  [adopt 30, .advance 0, .advance 0, .advance 0, login, .advance 1, .advance 1, .advance 1,
    .advance 1, .advance 1, .advance 1]

def afterwards : List (Move Store DeviceMark Refusal DeviceAnswer) :=
  [adopt 31, .advance 2, lost, .advance 3, .advance 3]

theorem deviceCalls_issued (moves : List (Move Store DeviceMark Refusal DeviceAnswer))
    (only : ∀ move ∈ moves, move = login ∨ move = lost ∨ (∃ id, move = adopt id) ∨
      ∃ index, move = .advance index) :
    ∀ p, .arrive p ∈ moves → DeviceCall plainHashing p := by
  intro p member
  rcases only _ member with same | same | ⟨id, same⟩ | ⟨index, same⟩
  · cases same
    exact .login 10 30 _ _ _
  · cases same
    exact .revoke 20 _
  · cases same
    exact .adoptLegacy 1 1 5 id
  · cases same

/-- A session outlives its device; and a session has two devices enrolled for it. -/
theorem bindings_race :
    (¬ ∀ (hashing : Hashing) (start : Store), Harmless start →
      ∀ c, FittingRun (DeviceCall hashing) (fun _ _ => True) (.idle start) c → Harmless c.store) ∧
    ¬ ∀ (hashing : Hashing) (start : Store), start.enrolled = [] →
      ∀ c, FittingRun (DeviceCall hashing) (fun _ _ => True) (.idle start) c →
        (c.store.enrolled.map Prod.fst).Nodup := by
  refine ⟨?_, ?_⟩
  · intro claim
    have run := fitting_schedule (DeviceCall plainHashing) (fun _ _ => True) (.idle launched)
      lateAttach (deviceCalls_issued _ (by simp [lateAttach])) (by decide +kernel)
    have harmless := claim plainHashing launched launched_harmless _ run
    have ended := harmless 20 ⟨20, 1, 1, "aaa", 2592000010, 10, none, some 10⟩ 10
      ⟨10, 1, 1, "aa", .password, false, some 10, some 20, some 1⟩
      (by decide +kernel) rfl (by decide +kernel) rfl
    cases ended
  · intro claim
    have run := fitting_schedule (DeviceCall plainHashing) (fun _ _ => True) (.idle launched)
      twoLaunches (deviceCalls_issued _ (by
        simp only [twoLaunches, List.mem_cons, List.not_mem_nil, or_false]
        rintro move (rfl | rfl | rfl | rfl | rfl | rfl | rfl | rfl)
        all_goals simp)) (by decide +kernel)
    have once := claim plainHashing launched rfl _ run
    have twice : ((Config.idle launched).schedule twoLaunches).store.enrolled =
        [(5, 30), (5, 31)] := by decide +kernel
    rw [twice] at once
    exact absurd once (by decide)

instance (s : Store) : (m : DeviceMark) → Decidable (Undisturbed s m)
  | .attach sessionId read => inferInstanceAs (Decidable
      ((∀ session ∈ s.sessions.find? sessionId, session.deviceRecordId = none) ∧
        ∀ device ∈ s.devices.find? read.id, device.revokedAt = read.revokedAt))
  | .enroll sessionId _ read => inferInstanceAs (Decidable
      (∀ session ∈ s.sessions.find? sessionId, session.deviceRecordId = read))
  | .other => .isTrue trivial
  | .create _ => .isTrue trivial
  | .touch _ => .isTrue trivial
  | .revoke _ => .isTrue trivial

/-- The second launch is told the device of the first. -/
theorem bindings_hold_launched :
    Harmless ((Config.idle launched).schedule oneLaunch).store ∧
      BoundTo 5 30 (((Config.idle launched).schedule oneLaunch).schedule afterwards).store ∧
      ∃ deviceId, (5, deviceId) ∈ ((Config.idle launched).schedule oneLaunch).store.enrolled := by
  have run := fitting_schedule (DeviceCall plainHashing) Undisturbed (.idle launched) oneLaunch
    (deviceCalls_issued _ (by simp [oneLaunch])) (by decide +kernel)
  have onward := fitting_schedule (DeviceCall plainHashing) Undisturbed
    ((Config.idle launched).schedule oneLaunch) afterwards
    (deviceCalls_issued _ (by simp [afterwards])) (by decide +kernel)
  obtain ⟨harmless, -, rebound, adopted⟩ :=
    bindings_hold plainHashing launched launched_harmless rfl _ run
  have bound : BoundTo 5 30 ((Config.idle launched).schedule oneLaunch).store :=
    ⟨⟨5, 1, 1, "a", 1000, 0, none, some 30⟩, by decide +kernel, rfl⟩
  obtain ⟨deviceId, member, -⟩ := adopted 5 ⟨⟨5, 1, 1, "a", 1000, 0, none, none⟩,
    by decide +kernel, rfl⟩ 0 (.enrolled ⟨30, "aaa", .legacy⟩) rfl
  exact ⟨harmless, rebound _ 5 30 onward bound, deviceId, member⟩

end ErpBackend.Auth
