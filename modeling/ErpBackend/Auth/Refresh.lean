import ErpBackend.Foundation.Answers
import ErpBackend.Auth.Sessions

/-!
# Refreshing a session

A secret is spent when the next one takes its place. What the rotation writes names the
row and not the hash that was checked.
-/

namespace ErpBackend.Auth

open Foundation

inductive Answer where
  | tokens (response : AuthTokenResponse)
  | success
  | revoked (count : Nat)
  deriving DecidableEq

inductive Call (hashing : Hashing) : Request Answer → Prop
  | refresh (now : Time) (refreshToken : String) :
      Call hashing (refresh hashing now refreshToken >>= fun r => pure (.tokens r))
  | logout (now : Time) (userId : Id) (refreshToken : String) :
      Call hashing (logout now userId refreshToken >>= fun _ => pure .success)
  | logoutAll (now : Time) (userId : Id) :
      Call hashing (logoutAll now userId >>= fun count => pure (.revoked count))

/-- Another call may have rotated the session since this one read it. -/
def Unrotated (s : Store) : Mark → Prop
  | .rotate session _ _ => ∀ row ∈ s.sessions.find? session.id,
      row.refreshTokenHash = session.refreshTokenHash
  | _ => True

def Revoked (s : Store) (sessionId : Id) : Prop :=
  ∃ session, s.sessions.find? sessionId = some session ∧ session.revokedAt.isSome = true

/-- The session is what a hash was read from, and the secret what the hash is of. -/
def Checked (hashing : Hashing) : Mark → Prop
  | .rotate session presentedSecret _ =>
      hashing.verify session.refreshTokenHash presentedSecret = true
  | _ => True

def Mark.newSecret : Mark → Option Nat
  | .fetch newSecret => some newSecret
  | .rotate _ _ newSecret => some newSecret
  | _ => none

def Revokes (s s' : Store) : Prop :=
  s' = s ∨ ∃ p now, s' = { s with
    sessions := s.sessions.modify p (AuthSession.revoked now) (AuthSession.revoked_id now) }

/-- What a step does to the store, and which secret the step after it carries. -/
def sessionLeads (hashing : Hashing) : Mark → Store → Store → Option Mark → Prop
  | .other, s, s', next =>
      s'.sessions = s.sessions ∧ s'.drawn = s.drawn ∧ s'.redeemed = s.redeemed ∧
        ∀ mark ∈ next, mark.newSecret = none
  | .draw, s, s', next => s' = { s with drawn := s.drawn + 1 } ∧ next = some (.fetch s.drawn)
  | .fetch newSecret, s, s', next => s' = s ∧ ∀ mark ∈ next, mark.newSecret = none ∨
      ∃ session presentedSecret,
        hashing.verify session.refreshTokenHash presentedSecret = true ∧
          mark = .rotate session presentedSecret newSecret
  | .revoke, s, s', next => Revokes s s' ∧ ∀ mark ∈ next, mark.newSecret = none
  | .rotate session presentedSecret newSecret, s, s', next =>
      (s' = s ∧ next = none) ∨
      ((∃ now, rotateSession hashing now session.id presentedSecret newSecret s = .ok s') ∧
        ∀ mark ∈ next, mark.newSecret = none)

theorem rotateSession_ok (hashing : Hashing) (now : Time) (sessionId : Id)
    (presentedSecret : String) (newSecret : Nat) (s s' : Store)
    (done : rotateSession hashing now sessionId presentedSecret newSecret s = .ok s') :
    ∃ row, s.sessions.find? sessionId = some row ∧ s' = { s with
      sessions := s.sessions.update sessionId
        (AuthSession.rotated (hashing.hash newSecret (hashing.generate newSecret)) now)
        (AuthSession.rotated_id _ now)
      redeemed := s.redeemed ++ [(sessionId, presentedSecret)] } := by
  unfold rotateSession at done
  rcases found : s.sessions.find? sessionId with _ | row
  · simp [found] at done
  · simp only [found, Except.ok.injEq] at done
    exact ⟨row, rfl, done.symm⟩

theorem revokeSession_revokes (now : Time) (sessionId : Id) (s s' : Store)
    (done : revokeSession now sessionId s = .ok s') : Revokes s s' := by
  unfold revokeSession at done
  split at done
  · cases done
  · cases done
    exact .inr ⟨_, now, rfl⟩

section Walks

variable {α : Type} (hashing : Hashing) (now : Time)

def Rests (p : Request α) : Prop :=
  p.Walks (sessionLeads hashing) ∧ ∀ mark ∈ p.mark?, mark.newSecret = none

theorem rests_done (result : Except Refusal α) : Rests hashing (.done result : Request α) :=
  Prog.onward_done result

theorem rests_read {β : Type} (query : Store → β) (f : β → Request α)
    (rest : ∀ b, Rests hashing (f b)) : Rests hashing (Prog.read .other query >>= f) := by
  apply Prog.onward_read
  · rfl
  · exact fun s next plain => ⟨rfl, rfl, rfl, plain⟩
  · exact rest

theorem rests_expect {β : Type} (refusal : Refusal) (x : Option β) (f : β → Request α)
    (rest : ∀ b, Rests hashing (f b)) : Rests hashing (Prog.expect refusal x >>= f) :=
  Prog.onward_expect refusal x f (fun b _ => rest b)

theorem revoke_rests (userId sessionId : Id) (f : Unit → Request α)
    (rest : Rests hashing (f ())) : Rests hashing (revoke now userId sessionId >>= f) := by
  apply Prog.onward_execute
  · rfl
  · exact fun s next plain => ⟨.inr ⟨_, now, rfl⟩, plain⟩
  · exact rest

theorem rotate_walks (sessionId : Id) (presentedSecret : String) (newSecret : Nat)
    (f : Option Owner → Request α) (rest : ∀ owner, Rests hashing (f owner)) :
    (rotate hashing now sessionId presentedSecret newSecret >>= f).Walks
    (sessionLeads hashing) := by
  unfold rotate
  rw [Prog.bind_assoc]
  apply Prog.walks_read
  intro s
  rcases found : s.sessions.find? sessionId with _ | session
  · exact ⟨⟨rfl, fun mark own => .inl ((rest none).2 mark own)⟩, (rest none).1⟩
  have key := Table.key_of_find? _ _ _ found
  dsimp only
  split
  · exact ⟨⟨rfl, fun mark own => .inl ((rest none).2 mark own)⟩, (rest none).1⟩
  split
  · next verified =>
    refine ⟨⟨rfl, fun mark own => .inr ⟨session, presentedSecret, verified, ?_⟩⟩, ?_⟩
    · cases own
      rfl
    · rw [Prog.bind_assoc, ← key]
      apply Prog.walks_commit
      · exact fun s s' done => .inr ⟨⟨now, done⟩, (rest _).2⟩
      · exact fun s refusal _ => .inl ⟨rfl, rfl⟩
      · exact (rest _).1
  · refine ⟨⟨rfl, fun mark own => .inl (by cases own; rfl)⟩, ?_⟩
    rw [Prog.bind_assoc]
    apply Prog.walks_commit
    · exact fun s s' done => ⟨revokeSession_revokes now sessionId s s' done, (rest _).2⟩
    · exact fun s refusal _ => ⟨.inl rfl, fun _ none => (by cases none)⟩
    · exact (rest _).1

theorem refresh_walks (refreshToken : String) :
    Rests hashing (refresh hashing now refreshToken) := by
  unfold refresh
  apply rests_expect
  intro parsed
  apply rests_expect
  intro sessionId
  refine ⟨?_, fun mark own => (by cases own; rfl)⟩
  apply Prog.walks_transact
  · intro s s' drawn done
    cases done
    refine ⟨⟨rfl, rfl⟩, ?_⟩
    apply rotate_walks
    intro owner
    apply rests_expect
    intro owner
    apply rests_read
    intro found
    apply rests_expect
    intro user
    apply rests_read
    intro store
    apply rests_expect
    intro company
    exact rests_done hashing _
  · intro s refusal failed
    cases failed

theorem logout_walks (userId : Id) (refreshToken : String) :
    Rests hashing (logout now userId refreshToken) := by
  unfold logout
  split
  · exact rests_done hashing _
  · apply rests_read
    intro deviceId
    apply revoke_rests
    cases deviceId with
    | none => exact rests_done hashing _
    | some deviceId =>
        refine ⟨?_, fun mark own => (by cases own; rfl)⟩
        exact fun s => ⟨⟨rfl, rfl, rfl, fun _ none => (by cases none)⟩, trivial⟩

theorem logoutAll_walks (userId : Id) : Rests hashing (logoutAll now userId) := by
  refine ⟨?_, fun mark own => (by cases own; rfl)⟩
  exact fun s => ⟨⟨.inr ⟨_, now, rfl⟩, fun _ none => (by cases none)⟩, trivial⟩

theorem call_rests (p : Request Answer) (call : Call hashing p) : Rests hashing p := by
  cases call with
  | refresh now refreshToken => exact Prog.onward_map _ _ (refresh_walks hashing now refreshToken)
  | logout now userId refreshToken =>
      exact Prog.onward_map _ _ (logout_walks hashing now userId refreshToken)
  | logoutAll now userId => exact Prog.onward_map _ _ (logoutAll_walks hashing now userId)

end Walks

section Secrets

variable (hashing : Hashing)

/-- Every hash is of a secret that was drawn, and of none that was spent on its session. -/
structure Minted (s : Store) : Prop where
  held : ∀ id row, s.sessions.find? id = some row →
    ∃ k < s.drawn, ∀ typed, hashing.verify row.refreshTokenHash typed = true ↔
      typed = hashing.generate k
  spent : ∀ entry ∈ s.redeemed, ∃ k < s.drawn, entry.2 = hashing.generate k
  current : ∀ id row secret, s.sessions.find? id = some row → (id, secret) ∈ s.redeemed →
    hashing.verify row.refreshTokenHash secret = false
  once : s.redeemed.Nodup

structure Unused (s : Store) (k : Nat) : Prop where
  drawn : k < s.drawn
  stored : ∀ id row, s.sessions.find? id = some row →
    hashing.verify row.refreshTokenHash (hashing.generate k) = false
  spent : ∀ id, (id, hashing.generate k) ∉ s.redeemed

theorem verify_hash_eq (salt : Nat) (plain typed : String) :
    hashing.verify (hashing.hash salt plain) typed = decide (typed = plain) := by
  rw [Bool.eq_iff_iff, decide_eq_true_iff]
  exact hashing.verify_hash salt plain typed

theorem Minted.same {s s' : Store} (minted : Minted hashing s) (drawn : s'.drawn = s.drawn)
    (redeemed : s'.redeemed = s.redeemed)
    (hashes : ∀ id row', s'.sessions.find? id = some row' → ∃ row,
      s.sessions.find? id = some row ∧ row'.refreshTokenHash = row.refreshTokenHash) :
    Minted hashing s' := by
  obtain ⟨held, spent, current, once⟩ := minted
  refine ⟨?_, ?_, ?_, ?_⟩
  · intro id row' found
    obtain ⟨row, present, same⟩ := hashes id row' found
    rw [drawn, same]
    exact held id row present
  · rw [drawn, redeemed]
    exact spent
  · intro id row' secret found member
    obtain ⟨row, present, same⟩ := hashes id row' found
    rw [redeemed] at member
    rw [same]
    exact current id row secret present member
  · rw [redeemed]
    exact once

theorem Unused.same {s s' : Store} {k : Nat} (unused : Unused hashing s k)
    (drawn : s.drawn ≤ s'.drawn) (redeemed : s'.redeemed = s.redeemed)
    (hashes : ∀ id row', s'.sessions.find? id = some row' → ∃ row,
      s.sessions.find? id = some row ∧ row'.refreshTokenHash = row.refreshTokenHash) :
    Unused hashing s' k := by
  refine ⟨by have := unused.drawn; omega, ?_, ?_⟩
  · intro id row' found
    obtain ⟨row, present, same⟩ := hashes id row' found
    rw [same]
    exact unused.stored id row present
  · rw [redeemed]
    exact unused.spent

theorem Revokes.hashes {s s' : Store} (revokes : Revokes s s') :
    s'.drawn = s.drawn ∧ s'.redeemed = s.redeemed ∧
      ∀ id row', s'.sessions.find? id = some row' → ∃ row,
        s.sessions.find? id = some row ∧ row'.refreshTokenHash = row.refreshTokenHash := by
  rcases revokes with rfl | ⟨p, now, rfl⟩
  · exact ⟨rfl, rfl, fun id row found => ⟨row, found, rfl⟩⟩
  · refine ⟨rfl, rfl, ?_⟩
    intro id row' found
    simp only [Table.find?_modify, Option.map_eq_some_iff] at found
    obtain ⟨row, present, rfl⟩ := found
    refine ⟨row, present, ?_⟩
    split
    · rfl
    · rfl

theorem draw_minted (s : Store) (minted : Minted hashing s) :
    Minted hashing { s with drawn := s.drawn + 1 } ∧
      Unused hashing { s with drawn := s.drawn + 1 } s.drawn := by
  obtain ⟨held, spent, current, once⟩ := minted
  refine ⟨⟨?_, ?_, current, once⟩, ?_, ?_, ?_⟩
  · intro id row found
    obtain ⟨k, below, verified⟩ := held id row found
    exact ⟨k, Nat.lt_succ_of_lt below, verified⟩
  · intro entry member
    obtain ⟨k, below, same⟩ := spent entry member
    exact ⟨k, Nat.lt_succ_of_lt below, same⟩
  · exact Nat.lt_succ_self _
  · intro id row found
    obtain ⟨k, below, verified⟩ := held id row found
    rw [Bool.eq_false_iff]
    intro same
    have equal := hashing.generate_injective ((verified _).mp same)
    omega
  · intro id member
    obtain ⟨k, below, same⟩ := spent _ member
    have equal := hashing.generate_injective same
    omega

theorem rotated_row (now : Time) (session : AuthSession) (presentedSecret : String) (k : Nat)
    (s s' : Store)
    (done : rotateSession hashing now session.id presentedSecret k s = .ok s') (id : Id)
    (row' : AuthSession) (found : s'.sessions.find? id = some row') :
    ∃ row, s.sessions.find? id = some row ∧ row'.refreshTokenHash =
      if id = session.id then hashing.hash k (hashing.generate k) else row.refreshTokenHash := by
  obtain ⟨_, -, rfl⟩ := rotateSession_ok hashing now session.id presentedSecret k s s' done
  obtain ⟨row, present, rfl⟩ :=
    Table.find?_update_some _ _ _ (AuthSession.rotated_id _ now) _ _ found
  refine ⟨row, present, ?_⟩
  split
  · rfl
  · rfl

theorem rotate_minted (now : Time) (session : AuthSession) (presentedSecret : String) (k : Nat)
    (s s' : Store) (minted : Minted hashing s) (unused : Unused hashing s k)
    (fit : Unrotated s (.rotate session presentedSecret k))
    (checked : hashing.verify session.refreshTokenHash presentedSecret = true)
    (done : rotateSession hashing now session.id presentedSecret k s = .ok s') :
    Minted hashing s' := by
  have rows := rotated_row hashing now session presentedSecret k s s' done
  obtain ⟨old, present, rfl⟩ := rotateSession_ok hashing now session.id presentedSecret k s s' done
  -- the secret that was checked is the one in force
  have same : old.refreshTokenHash = session.refreshTokenHash := fit old present
  have inForce : hashing.verify old.refreshTokenHash presentedSecret = true := by
    rw [same]
    exact checked
  have fresh : (session.id, presentedSecret) ∉ s.redeemed := by
    intro member
    have spent := minted.current session.id old presentedSecret present member
    rw [inForce] at spent
    cases spent
  refine ⟨?_, ?_, ?_, ?_⟩
  · intro id row' found
    obtain ⟨row, before, hash⟩ := rows id row' found
    rw [hash]
    split
    · exact ⟨k, unused.drawn, hashing.verify_hash k _⟩
    · exact minted.held id row before
  · intro entry member
    rcases List.mem_append.mp member with earlier | last
    · exact minted.spent entry earlier
    · rw [List.mem_singleton.mp last]
      obtain ⟨issued, below, verified⟩ := minted.held session.id old present
      exact ⟨issued, below, (verified presentedSecret).mp inForce⟩
  · intro id row' secret found member
    obtain ⟨row, before, hash⟩ := rows id row' found
    rw [hash]
    split
    · next here =>
      rw [verify_hash_eq, decide_eq_false_iff_not]
      rintro rfl
      rcases List.mem_append.mp member with earlier | last
      · exact unused.spent id earlier
      · simp only [List.mem_singleton, Prod.mk.injEq] at last
        have stored := unused.stored session.id old present
        rw [last.2, inForce] at stored
        cases stored
    · next elsewhere =>
      rcases List.mem_append.mp member with earlier | last
      · exact minted.current id row secret before earlier
      · simp only [List.mem_singleton, Prod.mk.injEq] at last
        exact absurd last.1 elsewhere
  · refine List.nodup_append.mpr ⟨minted.once, List.nodup_singleton _, ?_⟩
    intro entry earlier last member
    rw [List.mem_singleton.mp member]
    rintro rfl
    exact fresh earlier

theorem rotate_unused (now : Time) (session : AuthSession) (presentedSecret : String)
    (k other : Nat)
    (s s' : Store) (unused : Unused hashing s other) (apart : other ≠ k)
    (fit : Unrotated s (.rotate session presentedSecret k))
    (checked : hashing.verify session.refreshTokenHash presentedSecret = true)
    (done : rotateSession hashing now session.id presentedSecret k s = .ok s') :
    Unused hashing s' other := by
  have rows := rotated_row hashing now session presentedSecret k s s' done
  obtain ⟨old, present, rfl⟩ := rotateSession_ok hashing now session.id presentedSecret k s s' done
  refine ⟨unused.drawn, ?_, ?_⟩
  · intro id row' found
    obtain ⟨row, before, hash⟩ := rows id row' found
    rw [hash]
    split
    · rw [verify_hash_eq, decide_eq_false_iff_not]
      intro same
      exact apart (hashing.generate_injective same)
    · exact unused.stored id row before
  · intro id member
    rcases List.mem_append.mp member with earlier | last
    · exact unused.spent id earlier
    · simp only [List.mem_singleton, Prod.mk.injEq] at last
      have stored := unused.stored session.id old present
      rw [fit old present, last.2, checked] at stored
      cases stored

/-- What is known while a step is pending: the secret it carries is still to be stored. -/
def Carries (m : Mark) (s : Store) : Prop :=
  Checked hashing m ∧ ∀ k, m.newSecret = some k → Unused hashing s k

theorem carries_none (m : Mark) (s : Store) (plain : m.newSecret = none) : Carries hashing m s := by
  refine ⟨?_, fun k some => (by rw [plain] at some; cases some)⟩
  cases m with
  | rotate session presentedSecret newSecret => cases plain
  | other => trivial
  | draw => trivial
  | fetch newSecret => trivial
  | revoke => trivial

theorem step_minted (m : Mark) (s s' : Store) (next : Option Mark) (minted : Minted hashing s)
    (fit : Unrotated s m) (carries : Carries hashing m s)
    (leads : sessionLeads hashing m s s' next) :
    Minted hashing s' ∧ ∀ m', next = some m' → Carries hashing m' s' := by
  cases m with
  | other =>
      obtain ⟨sessions, drawn, redeemed, plain⟩ := leads
      refine ⟨minted.same hashing drawn redeemed ?_, fun m' own =>
        carries_none _ m' s' (plain m' own)⟩
      intro id row found
      rw [sessions] at found
      exact ⟨row, found, rfl⟩
  | draw =>
      obtain ⟨rfl, rfl⟩ := leads
      obtain ⟨minted, unused⟩ := draw_minted hashing s minted
      refine ⟨minted, ?_⟩
      intro m' own
      cases own
      exact ⟨trivial, fun k same => (by cases same; exact unused)⟩
  | fetch newSecret =>
      obtain ⟨rfl, onward⟩ := leads
      refine ⟨minted, ?_⟩
      intro m' own
      rcases onward m' own with plain | ⟨session, presentedSecret, verified, rfl⟩
      · exact carries_none hashing m' _ plain
      · exact ⟨verified, fun k same => (by cases same; exact carries.2 _ rfl)⟩
  | revoke =>
      obtain ⟨revokes, plain⟩ := leads
      obtain ⟨drawn, redeemed, hashes⟩ := revokes.hashes
      exact ⟨minted.same hashing drawn redeemed hashes,
        fun m' own => carries_none hashing m' s' (plain m' own)⟩
  | rotate session presentedSecret newSecret =>
      rcases leads with ⟨rfl, rfl⟩ | ⟨⟨now, done⟩, plain⟩
      · exact ⟨minted, fun m' none => (by cases none)⟩
      · exact ⟨rotate_minted hashing now session presentedSecret newSecret s s' minted
            (carries.2 newSecret rfl) fit carries.1 done,
          fun m' own => carries_none hashing m' s' (plain m' own)⟩

def Distinct (m m' : Mark) : Prop := ∀ k, m.newSecret = some k → m'.newSecret ≠ some k

theorem step_carries (m pending : Mark) (s s' : Store) (next : Option Mark) (fit : Unrotated s m)
    (carries : Carries hashing m s) (beside : Carries hashing pending s)
    (apart : Distinct m pending)
    (leads : sessionLeads hashing m s s' next) :
    Carries hashing pending s' ∧ ∀ m', next = some m' → Distinct m' pending := by
  have distinct_none : ∀ m' : Mark, m'.newSecret = none → Distinct m' pending := by
    intro m' plain k same
    rw [plain] at same
    cases same
  cases m with
  | other =>
      obtain ⟨sessions, drawn, redeemed, plain⟩ := leads
      refine ⟨⟨beside.1, fun k own => ?_⟩, fun m' own => distinct_none m' (plain m' own)⟩
      refine (beside.2 k own).same hashing (by omega) redeemed ?_
      intro id row found
      rw [sessions] at found
      exact ⟨row, found, rfl⟩
  | draw =>
      obtain ⟨rfl, rfl⟩ := leads
      refine ⟨⟨beside.1, fun k own => ?_⟩, ?_⟩
      · exact (beside.2 k own).same hashing (Nat.le_succ _) rfl (fun id row found =>
          ⟨row, found, rfl⟩)
      · intro m' own k same taken
        cases own
        cases same
        have below := (beside.2 _ taken).drawn
        omega
  | fetch newSecret =>
      obtain ⟨rfl, onward⟩ := leads
      refine ⟨beside, ?_⟩
      intro m' own
      rcases onward m' own with plain | ⟨session, presentedSecret, -, rfl⟩
      · exact distinct_none m' plain
      · exact apart
  | revoke =>
      obtain ⟨revokes, plain⟩ := leads
      obtain ⟨drawn, redeemed, hashes⟩ := revokes.hashes
      exact ⟨⟨beside.1, fun k own => (beside.2 k own).same hashing (by omega) redeemed hashes⟩,
        fun m' own => distinct_none m' (plain m' own)⟩
  | rotate session presentedSecret newSecret =>
      rcases leads with ⟨rfl, rfl⟩ | ⟨⟨now, done⟩, plain⟩
      · exact ⟨beside, fun m' none => (by cases none)⟩
      · refine ⟨⟨beside.1, fun k own => ?_⟩, fun m' own => distinct_none m' (plain m' own)⟩
        refine rotate_unused hashing now session presentedSecret newSecret k s s'
          (beside.2 k own) ?_
          fit carries.1 done
        rintro rfl
        exact apart k rfl own

def refreshProtocol : Protocol Store Mark where
  inv := Minted hashing
  fits := Unrotated
  leads := sessionLeads hashing
  known := Carries hashing
  apart _ := Distinct
  apart_symm _ _ _ apart k same taken := apart k taken same
  own m s s' next minted fit carries leads :=
    step_minted hashing m s s' next minted fit carries leads
  frame m s s' next pending _ fit carries beside apart leads :=
    step_carries hashing m pending s s' next fit carries beside apart leads
  rest _ _ _ _ _ _ _ _ _ _ apart := apart

end Secrets

section Revocation

variable (hashing : Hashing)

theorem step_revoked (m : Mark) (s s' : Store) (next : Option Mark)
    (leads : sessionLeads hashing m s s' next) (sessionId : Id) (revoked : Revoked s sessionId) :
    Revoked s' sessionId := by
  obtain ⟨session, found, ended⟩ := revoked
  cases m with
  | other => exact ⟨session, by rw [leads.1]; exact found, ended⟩
  | draw => rw [leads.1]; exact ⟨session, found, ended⟩
  | fetch newSecret => rw [leads.1]; exact ⟨session, found, ended⟩
  | revoke =>
      rcases leads.1 with rfl | ⟨p, now, rfl⟩
      · exact ⟨session, found, ended⟩
      · refine ⟨_, by simp only [Table.find?_modify, found, Option.map_some]; rfl, ?_⟩
        split
        · rfl
        · exact ended
  | rotate old presentedSecret newSecret =>
      rcases leads with ⟨rfl, -⟩ | ⟨⟨now, done⟩, -⟩
      · exact ⟨session, found, ended⟩
      · obtain ⟨_, -, rfl⟩ :=
          rotateSession_ok hashing now old.id presentedSecret newSecret s s' done
        refine ⟨_, Table.find?_update_of_found _ _ _ (AuthSession.rotated_id _ now) _ _ found, ?_⟩
        split
        · exact ended
        · exact ended

/-- Nothing but the revocation is known, and nothing needs to fit. -/
def revocationProtocol : Protocol Store Mark where
  inv _ := True
  fits _ _ := True
  leads := sessionLeads hashing
  known _ _ := True
  apart _ _ _ := True
  apart_symm _ _ _ _ := trivial
  own _ _ _ _ _ _ _ _ := ⟨trivial, fun _ _ => trivial⟩
  frame _ _ _ _ _ _ _ _ _ _ _ := ⟨trivial, fun _ _ => trivial⟩
  rest _ _ _ _ _ _ _ _ _ _ _ := trivial

def Barred (sessionId : Id) (result : Except Refusal Answer) : Prop :=
  ∀ response, result = .ok (.tokens response) → response.accessToken.sid ≠ sessionId

variable (now : Time) (sessionId : Id)

theorem rotate_answers (asked : Id) (presentedSecret : String) (newSecret : Nat) :
    (rotate hashing now asked presentedSecret newSecret).Answers (Revoked · sessionId)
      (fun result => ∀ owner, result = .ok (some owner) → asked ≠ sessionId) := by
  by_cases same : asked = sessionId
  · subst same
    intro s revoked
    obtain ⟨session, found, ended⟩ := revoked
    simp only [found]
    change Prog.Answers _ _ (if session.revokedAt.isSome ∨ session.expiresAt ≤ now then _ else _)
    rw [if_pos (.inl ended)]
    intro owner some
    cases some
  · exact Prog.answers_any _ _ _ (fun _ _ _ => same)

theorem refresh_answers (refreshToken : String) :
    (refresh hashing now refreshToken >>= fun r => pure (.tokens r)).Answers (Revoked · sessionId)
      (Barred sessionId) := by
  have refused : ∀ refusal, Barred sessionId (.error refusal) := by
    intro refusal response answered
    cases answered
  unfold refresh
  simp only [Prog.bind_assoc]
  refine Prog.answers_expect _ _ _ _ _ ?_ refused
  intro parsed _
  refine Prog.answers_expect _ _ _ _ _ ?_ refused
  intro asked _
  refine Prog.answers_bind _ _ (fun _ => True) _ _
    (Prog.answers_any _ _ _ (fun _ => trivial)) ?_ refused
  intro newSecret _
  refine Prog.answers_bind _ _ _ _ _
    (rotate_answers hashing now sessionId asked parsed.secret newSecret) ?_ refused
  intro rotated elsewhere
  refine Prog.answers_expect _ _ _ _ _ ?_ refused
  rintro owner rfl
  intro s _
  refine Prog.answers_expect _ _ _ _ _ ?_ refused
  intro user _ s _
  refine Prog.answers_expect _ _ _ _ _ ?_ refused
  intro company _ response answered
  cases answered
  exact elsewhere owner rfl

theorem call_answers (p : Request Answer) (call : Call hashing p) :
    p.Answers (Revoked · sessionId) (Barred sessionId) := by
  have plain : ∀ {β : Type} (q : Request β) (g : β → Answer),
      (∀ b response, g b ≠ .tokens response) →
        (q >>= fun b => pure (g b)).Answers (Revoked · sessionId) (Barred sessionId) := by
    intro β q g other
    refine Prog.answers_bind _ _ (fun _ => True) _ _
      (Prog.answers_any _ _ _ (fun _ => trivial)) ?_ ?_
    · intro b _ response answered
      exact absurd (Except.ok.inj answered) (other b response)
    · intro refusal response answered
      cases answered
  cases call with
  | refresh now refreshToken => exact refresh_answers hashing now sessionId refreshToken
  | logout now userId refreshToken =>
      exact plain (logout now userId refreshToken) (fun _ => .success) (fun _ _ => by simp)
  | logoutAll now userId => exact plain (logoutAll now userId) .revoked (fun _ _ => by simp)

end Revocation

section Runs

variable (hashing : Hashing)

theorem call_enters (p : Request Answer) (call : Call hashing p) (s : Store)
    (_ : Minted hashing s) : (refreshProtocol hashing).Enters p s := by
  obtain ⟨walks, plain⟩ := call_rests hashing p call
  refine ⟨walks, fun m own => carries_none hashing m s (plain m own), ?_⟩
  intro m own pending k _ same
  rw [plain m own] at same
  cases same

/-- Where every rotation is written over the hash it checked, no secret is redeemed twice; and
a refresh that arrives after the session is revoked gets no tokens for it. -/
theorem refresh_redeemed_once (s : Store) (minted : Minted hashing s) :
    (∀ c, FittingRun (Call hashing) Unrotated (.idle s) c → c.store.redeemed.Nodup) ∧
      ∀ c c' sessionId, FittingRun (Call hashing) (fun _ _ => True) (.idle s) c →
        Revoked c.store sessionId → FittingRun (Call hashing) (fun _ _ => True) c c' →
          ∀ index response, c.inFlight.length ≤ index →
            c'.inFlight[index]? = some (.done (.ok (.tokens response))) →
              response.accessToken.sid ≠ sessionId := by
  refine ⟨?_, ?_⟩
  · intro c run
    exact ((refreshProtocol hashing).run_sound _ _ c (call_enters hashing) run
      ((refreshProtocol hashing).sound_idle s minted)).inv.once
  · intro c c' sessionId before revoked after index response later answered
    have enters : ∀ p, Call hashing p → ∀ s, True → (revocationProtocol hashing).Enters p s :=
      fun p call s _ => ⟨(call_rests hashing p call).1, fun _ _ => trivial, fun _ _ _ => trivial⟩
    have sound := (revocationProtocol hashing).run_sound _ _ c enters before
      ((revocationProtocol hashing).sound_idle s trivial)
    exact sound.late (revocationProtocol hashing) (fun _ _ fit => fit) enters (Revoked · sessionId)
      (fun m s s' next _ _ _ leads held => step_revoked hashing m s s' next leads sessionId held)
      (Barred sessionId) (call_answers hashing sessionId) after revoked index later _ answered
      response rfl

end Runs

def signedIn : Store where
  companies := ⟨[⟨1, "0123456789", true⟩], List.nodup_singleton _⟩
  users := ⟨[⟨1, 1, "Amina", "amina", "A1", true, none⟩, ⟨2, 1, "Brahim", "brahim", "B2", true,
    none⟩], by decide⟩
  sessions := ⟨[⟨1, 1, 1, plainHashing.generate 1, 1000, 0, none, none⟩,
    ⟨2, 1, 2, plainHashing.generate 2, 1000, 0, none, none⟩], by decide⟩
  devices := ⟨[], List.nodup_nil⟩
  drawn := 3

theorem signedIn_minted : Minted plainHashing signedIn := by
  have rows : ∀ id row, signedIn.sessions.find? id = some row →
      row.refreshTokenHash = plainHashing.generate 1 ∨
        row.refreshTokenHash = plainHashing.generate 2 := by
    intro id row found
    have member := Table.mem_of_find? _ _ _ found
    simp only [signedIn, List.mem_cons, List.not_mem_nil, or_false] at member
    rcases member with rfl | rfl
    · exact .inl rfl
    · exact .inr rfl
  refine ⟨?_, fun entry member => (by cases member),
    fun id row secret _ member => (by cases member),
    List.nodup_nil⟩
  intro id row found
  rcases rows id row found with hash | hash
  · exact ⟨1, by decide, fun typed => by rw [hash]; exact plainHashing.verify_hash 0 _ typed⟩
  · exact ⟨2, by decide, fun typed => by rw [hash]; exact plainHashing.verify_hash 0 _ typed⟩

def refreshCall (sessionId : Id) (secret : String) : Move Store Mark Refusal Answer :=
  .arrive (refresh plainHashing 10 (buildRefreshToken (binToUuid sessionId) secret) >>= fun r =>
    pure (.tokens r))

/-- A retry overlaps the first attempt: both read the session before either writes it. -/
def retried : List (Move Store Mark Refusal Answer) :=
  [refreshCall 1 "a", refreshCall 1 "a", .advance 0, .advance 1, .advance 0, .advance 1, .advance 0,
    .advance 1]

def reused : List (Move Store Mark Refusal Answer) :=
  [refreshCall 1 "a", .advance 0, .advance 0, .advance 0, .advance 0, .advance 0, refreshCall 1 "a",
    .advance 1, .advance 1, .advance 1]

def elsewhere : List (Move Store Mark Refusal Answer) :=
  [refreshCall 2 "aa", .advance 2, .advance 2, .advance 2, .advance 2, .advance 2]

theorem refreshes_issued (moves : List (Move Store Mark Refusal Answer))
    (only : ∀ move ∈ moves, move = refreshCall 1 "a" ∨ move = refreshCall 2 "aa" ∨
      ∃ index, move = .advance index) :
    ∀ p, .arrive p ∈ moves → Call plainHashing p := by
  intro p member
  rcases only _ member with same | same | ⟨index, same⟩
  · cases same
    exact .refresh 10 _
  · cases same
    exact .refresh 10 _
  · cases same

theorem secret_redeemed_twice :
    ¬ ∀ (hashing : Hashing) (s : Store), Minted hashing s →
      ∀ c, FittingRun (Call hashing) (fun _ _ => True) (.idle s) c → c.store.redeemed.Nodup := by
  intro claim
  have run := fitting_schedule (Call plainHashing) (fun _ _ => True) (.idle signedIn) retried
    (refreshes_issued _ (by simp [retried])) (by decide +kernel)
  have once := claim plainHashing signedIn signedIn_minted _ run
  have twice : ((Config.idle signedIn).schedule retried).store.redeemed = [(1, "a"), (1, "a")] := by
    decide +kernel
  rw [twice] at once
  exact absurd once (by decide)

instance (s : Store) : (m : Mark) → Decidable (Unrotated s m)
  | .rotate session _ _ => inferInstanceAs (Decidable (∀ row ∈ s.sessions.find? session.id,
      row.refreshTokenHash = session.refreshTokenHash))
  | .other => .isTrue trivial
  | .draw => .isTrue trivial
  | .fetch _ => .isTrue trivial
  | .revoke => .isTrue trivial

/-- The reuse ends the session, and the other session goes on. -/
theorem refresh_redeemed_once_reused :
    ((Config.idle signedIn).schedule reused).store.redeemed.Nodup ∧
      ∀ response, (((Config.idle signedIn).schedule reused).schedule elsewhere).inFlight[2]? =
        some (.done (.ok (.tokens response))) → response.accessToken.sid ≠ 1 := by
  have issued := refreshes_issued reused (by simp [reused])
  have fitting := fitting_schedule (Call plainHashing) Unrotated (.idle signedIn) reused issued
    (by decide +kernel)
  have loose := FittingRun.mono (fun _ _ _ => trivial) fitting
  have after := fitting_schedule (Call plainHashing) (fun _ _ => True)
    ((Config.idle signedIn).schedule reused) elsewhere
    (refreshes_issued elsewhere (by simp [elsewhere])) (by decide +kernel)
  have ended : Revoked ((Config.idle signedIn).schedule reused).store 1 := by
    refine ⟨⟨1, 1, 1, plainHashing.generate 3, 1000, 10, some 10, none⟩, ?_, rfl⟩
    decide +kernel
  obtain ⟨once, later⟩ := refresh_redeemed_once plainHashing signedIn signedIn_minted
  exact ⟨once _ fitting, fun response answered =>
    later _ _ 1 loose ended after 2 response (by decide +kernel) answered⟩

end ErpBackend.Auth
