import ErpBackend.Foundation.Answers
import ErpBackend.Auth.Otp

/-!
# The states of a challenge

A challenge leaves `pending` once, gives its key up as it does, and the code that moves
it to `verified` is answered once.
-/

namespace ErpBackend.Auth.Otp

open Foundation

inductive Answer where
  | requested (outcome : RequestOutcome)
  | verified (outcome : VerifyOutcome)
  | cancelled
  | expired (count : Nat)
  deriving DecidableEq

inductive Call (config : Config) : Request Answer → Prop
  | request (now : Time) (params : RequestParams) (draw : Draw) :
      Call config (request config now params draw >>= fun outcome => pure (.requested outcome))
  | resend (now : Time) (params : ChallengeParams) (draw : Draw) :
      Call config (resend config now params draw >>= fun outcome => pure (.requested outcome))
  | verify (now : Time) (params : ChallengeParams) (code : String) :
      Call config (verify config now params code >>= fun outcome => pure (.verified outcome))
  | cancel (now : Time) (challengeId : Id) :
      Call config (cancel now challengeId >>= fun _ => pure .cancelled)
  | expireOverdue (now : Time) :
      Call config (expireOverdue now >>= fun count => pure (.expired count))

structure Ends (c c' : OtpChallenge) : Prop where
  status : c'.status ≠ .pending
  activeKey : c'.activeKey = none

def Mark.plain : Mark → Bool
  | .compare _ => false
  | .count _ => false
  | .consume _ => false
  | _ => true

def Mark.settles : Mark → Option Id
  | .count challengeId => some challengeId
  | .consume challengeId => some challengeId
  | _ => none

def otpLeads (config : Config) : Mark → Store → Store → Option Mark → Prop
  | .other, s, s', next => s' = s ∧ ∀ mark ∈ next, mark.plain = true ∨
      ∃ c, s.otpChallenges.find? c.id = some c ∧ c.attemptCount < c.maxAttempts ∧
        mark = .compare c
  | .finish, s, s', next =>
      (∃ p f keep, (∀ c, p c = true → c.status = .pending) ∧
        (∀ c, Ends c (f c) ∧ (f c).attemptCount = c.attemptCount ∧
          (f c).maxAttempts = c.maxAttempts) ∧
        s' = { s with otpChallenges := s.otpChallenges.modify p f keep }) ∧
      ∀ mark ∈ next, mark.plain = true
  | .supersede, s, s', next => (s' = s ∨ ∃ now params id codeHash,
      supersedeTx now (newChallenge config now params id codeHash) s = .ok s') ∧
      ∀ mark ∈ next, mark.plain = true
  | .deliver, s, s', next => (s' = s ∨ ∃ now result challengeId,
      deliverTx config now result challengeId s = .ok s') ∧ ∀ mark ∈ next, mark.plain = true
  | .compare c, s, s', next =>
      s' = (if live s c.id then
        { s with compared := c.id :: s.compared, comparing := c.id :: s.comparing } else s) ∧
      ∀ mark ∈ next, mark.settles = some c.id
  | .count challengeId, s, s', next =>
      (s' = s ∧ s.otpChallenges.find? challengeId = none ∨
        ∃ now c, countTx now challengeId s = .ok (s', c)) ∧ ∀ mark ∈ next, mark.plain = true
  | .consume challengeId, s, s', next =>
      (∃ now count, consumeTx now challengeId s = .ok (s', count)) ∧
        ∀ mark ∈ next, mark.plain = true

section Walks

variable {α : Type} (config : Config) (now : Time)

def Unbegun (p : Request α) : Prop :=
  p.Walks (otpLeads config) ∧ ∀ mark ∈ p.mark?, mark.plain = true

theorem unbegun_done (result : Except Refusal α) : Unbegun config (.done result : Request α) :=
  Prog.onward_done result

theorem unbegun_read {β : Type} (query : Store → β) (f : β → Request α)
    (rest : ∀ b, Unbegun config (f b)) : Unbegun config (Prog.read .other query >>= f) := by
  apply Prog.onward_read
  · rfl
  · exact fun s next plain => ⟨rfl, fun mark own => .inl (plain mark own)⟩
  · exact rest

theorem unbegun_expect {β : Type} (refusal : Refusal) (x : Option β) (f : β → Request α)
    (rest : ∀ b, Unbegun config (f b)) : Unbegun config (Prog.expect refusal x >>= f) :=
  Prog.onward_expect refusal x f (fun b _ => rest b)

theorem finish_unbegun (p : OtpChallenge → Bool) (g : OtpChallenge → OtpChallenge)
    (keep : ∀ c, (g c).id = c.id)
    (ends : ∀ c, Ends c (g c) ∧ (g c).attemptCount = c.attemptCount ∧
      (g c).maxAttempts = c.maxAttempts) (f : Nat → Request α)
    (rest : ∀ n, Unbegun config (f n)) : Unbegun config (finish .finish p g keep >>= f) := by
  refine ⟨?_, fun mark own => (by cases own; rfl)⟩
  intro s
  refine ⟨⟨⟨_, g, keep, ?_, ends, rfl⟩, (rest _).2⟩, (rest _).1⟩
  intro c matched
  exact (of_decide_eq_true matched).2

/-- One challenge is put to its end. -/
theorem ended_unbegun (id : Id) (g : OtpChallenge → OtpChallenge) (keep : ∀ c, (g c).id = c.id)
    (ends : ∀ c, Ends c (g c) ∧ (g c).attemptCount = c.attemptCount ∧
      (g c).maxAttempts = c.maxAttempts) (f : Unit → Request α) (rest : Unbegun config (f ())) :
    Unbegun config ((finish .finish (fun c => c.id = id) g keep).void >>= f) := by
  unfold Prog.void
  rw [Prog.bind_assoc]
  exact finish_unbegun config _ _ _ ends _ (fun _ => rest)

theorem expired_ended (c : OtpChallenge) : Ends c c.expired ∧
    c.expired.attemptCount = c.attemptCount ∧ c.expired.maxAttempts = c.maxAttempts :=
  ⟨⟨by simp [OtpChallenge.expired], rfl⟩, rfl, rfl⟩

theorem locked_ended (c : OtpChallenge) : Ends c (c.locked now) ∧
    (c.locked now).attemptCount = c.attemptCount ∧ (c.locked now).maxAttempts = c.maxAttempts :=
  ⟨⟨by simp [OtpChallenge.locked], rfl⟩, rfl, rfl⟩

theorem cancelled_ended (c : OtpChallenge) : Ends c (c.cancelled now) ∧
    (c.cancelled now).attemptCount = c.attemptCount ∧
      (c.cancelled now).maxAttempts = c.maxAttempts :=
  ⟨⟨by simp [OtpChallenge.cancelled], rfl⟩, rfl, rfl⟩

theorem checkSendLimits_unbegun (userId : Id) (destination : String)
    (f : Option RequestOutcome → Request α) (rest : ∀ limit, Unbegun config (f limit)) :
    Unbegun config (checkSendLimits config now userId destination >>= f) := by
  unfold checkSendLimits
  rw [Prog.bind_assoc]
  apply unbegun_read
  intro inWindow
  split
  · exact rest _
  · rw [Prog.bind_assoc]
    apply unbegun_read
    intro perDay
    split
    · exact rest _
    · exact rest _

theorem create_unbegun (params : RequestParams) (draw : Draw) (pepper : String) :
    Unbegun config (create config now params draw pepper) := by
  unfold create
  apply checkSendLimits_unbegun
  intro limit
  cases limit with
  | some refused => exact unbegun_done config _
  | none =>
      refine ⟨?_, fun mark own => (by cases own; rfl)⟩
      apply Prog.walks_commit
      · exact fun s s' done => ⟨.inr ⟨now, params, draw.id, _, done⟩,
          fun mark own => (by cases own; rfl)⟩
      · exact fun s refusal _ => ⟨.inl rfl, fun _ none => (by cases none)⟩
      · apply Prog.walks_commit
        · exact fun s s' done => ⟨.inr ⟨now, draw.result, draw.id, done⟩,
            fun mark own => (by cases own; rfl)⟩
        · exact fun s refusal _ => ⟨.inl rfl, fun _ none => (by cases none)⟩
        · have fresh : Unbegun config (Prog.read .other (fun s => s.otpChallenges.find? draw.id) >>=
              fun fresh => Prog.expect (.internal "Cannot read properties of null") fresh >>=
                fun fresh => (pure (.ok (toView fresh)) : Request RequestOutcome)) := by
            apply unbegun_read
            intro row
            apply unbegun_expect
            exact fun _ => unbegun_done config _
          exact fresh.1

theorem request_unbegun (params : RequestParams) (draw : Draw) :
    Unbegun config (request config now params draw) := by
  unfold request
  split
  · exact unbegun_done config _
  split
  · exact unbegun_done config _
  split
  · exact create_unbegun config now params draw _
  · apply unbegun_read
    intro existing
    cases existing with
    | some challenge => exact unbegun_done config _
    | none => exact create_unbegun config now params draw _

theorem resend_unbegun (params : ChallengeParams) (draw : Draw) :
    Unbegun config (resend config now params draw) := by
  unfold resend
  apply unbegun_read
  intro found
  split
  · exact unbegun_done config _
  split
  · exact unbegun_done config _
  · exact request_unbegun config now _ draw

theorem settle_walks (challenge : OtpChallenge) (right : Bool) :
    (if right then hit now challenge else miss now challenge).Walks (otpLeads config) ∧
      ∀ mark ∈ (if right then hit now challenge else miss now challenge).mark?,
        mark.settles = some challenge.id := by
  cases right with
  | true =>
      refine ⟨?_, fun mark own => (by cases own; rfl)⟩
      apply Prog.walks_transact
      · intro s s' count done
        refine ⟨⟨⟨now, count, done⟩, ?_⟩, ?_⟩
        · split
          · exact fun _ none => (by cases none)
          · exact fun _ none => (by cases none)
        · split
          · trivial
          · trivial
      · intro s refusal failed
        cases failed
  | false =>
      refine ⟨?_, fun mark own => (by cases own; rfl)⟩
      have after : ∀ c : OtpChallenge, Unbegun config
          (if c.maxAttempts - c.attemptCount ≤ 0 then
            lock now challenge.id >>= fun _ => pure (.refused .locked 0)
          else pure (.refused .invalidCode (c.maxAttempts - c.attemptCount)) :
            Request VerifyOutcome) := by
        intro c
        split
        · exact ended_unbegun config _ _ _ (locked_ended now) _ (unbegun_done config _)
        · exact unbegun_done config _
      apply Prog.walks_transact
      · intro s s' c done
        exact ⟨⟨.inr ⟨now, c, done⟩, (after c).2⟩, (after c).1⟩
      · intro s refusal failed
        refine ⟨.inl ⟨rfl, ?_⟩, fun _ none => (by cases none)⟩
        unfold countTx at failed
        rcases found : s.otpChallenges.find? challenge.id with _ | c
        · rfl
        · simp [found] at failed

theorem verify_unbegun (params : ChallengeParams) (code : String) :
    Unbegun config (verify config now params code) := by
  unfold verify
  split
  · exact unbegun_done config _
  next pepper _ =>
  refine ⟨?_, fun mark own => (by cases own; rfl)⟩
  apply Prog.walks_read
  intro s
  have plain : ∀ p : Request VerifyOutcome, Unbegun config p →
      otpLeads config .other s s p.mark? ∧ p.Walks (otpLeads config) :=
    fun p unbegun => ⟨⟨rfl, fun mark own => .inl (unbegun.2 mark own)⟩, unbegun.1⟩
  rcases found : ownChallenge params s with _ | challenge
  · exact plain _ (unbegun_done config _)
  obtain ⟨present, -⟩ := Option.filter_eq_some_iff.mp found
  have overdue : Unbegun config (markExpired challenge.id >>= fun _ =>
      (pure (.refused .expired 0) : Request VerifyOutcome)) :=
    ended_unbegun config _ _ _ expired_ended _ (unbegun_done config _)
  simp only
  unfold verifyChallenge
  split
  · exact plain _ (unbegun_done config _)
  · exact plain _ (unbegun_done config _)
  · exact plain _ (unbegun_done config _)
  · exact plain _ overdue
  · split
    · exact plain _ overdue
    unfold attempt
    split
    · exact plain _ (ended_unbegun config _ _ _ (locked_ended now) _ (unbegun_done config _))
    · next remaining =>
      have key := Table.key_of_find? _ _ _ present
      rw [← key] at present
      have settle := settle_walks config now challenge
        (codeMatches config code challenge.codeHash challenge.id pepper)
      refine ⟨⟨rfl, fun mark own => .inr ⟨challenge, present, by omega, ?_⟩⟩, ?_⟩
      · cases own
        rfl
      · exact fun s => ⟨⟨rfl, settle.2⟩, settle.1⟩

theorem call_unbegun (p : Request Answer) (call : Call config p) : Unbegun config p := by
  cases call with
  | request now params draw => exact Prog.onward_map _ _ (request_unbegun config now params draw)
  | resend now params draw => exact Prog.onward_map _ _ (resend_unbegun config now params draw)
  | verify now params code => exact Prog.onward_map _ _ (verify_unbegun config now params code)
  | cancel now challengeId =>
      exact ended_unbegun config _ _ _ (cancelled_ended now) _ (unbegun_done config _)
  | expireOverdue now =>
      apply finish_unbegun
      · exact expired_ended
      · exact fun _ => unbegun_done config _

end Walks

/-- Nothing that identifies the question or says where it stands has changed. -/
structure Kept (c c' : OtpChallenge) : Prop where
  status : c'.status = c.status
  activeKey : c'.activeKey = c.activeKey
  userId : c'.userId = c.userId
  purpose : c'.purpose = c.purpose
  deviceId : c'.deviceId = c.deviceId

def Moves (c c' : OtpChallenge) : Prop := (c.status = .pending ∧ Ends c c') ∨ Kept c c'

abbrev Challenges := Table OtpChallenge OtpChallenge.id

/-- What a step does to the table: some rows move, and then one may be new. -/
inductive Turn : Challenges → Challenges → Prop
  | moved (t : Challenges) (p : OtpChallenge → Bool) (f : OtpChallenge → OtpChallenge)
      (keep : ∀ c, (f c).id = c.id) (moves : ∀ c, p c = true → Moves c (f c)) :
      Turn t (t.modify p f keep)
  | inserted (t t' : Challenges) (challenge : OtpChallenge) (pending : challenge.status = .pending)
      (key : challenge.activeKey =
        some (activeKeyFor challenge.userId challenge.purpose challenge.deviceId))
      (unclashing : ∀ c ∈ t.rows, c.activeKey ≠ challenge.activeKey)
      (done : t.insert? challenge = some t') : Turn t t'
  | twice (t t' t'' : Challenges) (first : Turn t t') (second : Turn t' t'') : Turn t t''

/-- A challenge has a key exactly while it is pending, the key says what it asks, and no two
have the same. -/
structure Keyed (t : Challenges) : Prop where
  pending : ∀ c ∈ t.rows, c.activeKey.isSome = true ↔ c.status = .pending
  key : ∀ c ∈ t.rows, ∀ k ∈ c.activeKey, k = activeKeyFor c.userId c.purpose c.deviceId
  unique : ∀ c ∈ t.rows, ∀ c' ∈ t.rows, c.activeKey = c'.activeKey → c.activeKey.isSome = true →
    c = c'

theorem Moves.same {c c' : OtpChallenge} (moves : Moves c c') (some : c'.activeKey.isSome = true) :
    Kept c c' := by
  rcases moves with ⟨-, ends⟩ | kept
  · rw [ends.activeKey] at some
    cases some
  · exact kept

section Rows

variable (t : Challenges)

theorem turn_same : Turn t t := by
  have turn := Turn.moved t (fun _ => false) id (fun _ => rfl) (fun c no => by cases no)
  rwa [Table.modify_of_none _ _ _ _ (fun _ _ => rfl)] at turn

theorem modify_keyed (keyed : Keyed t) (p : OtpChallenge → Bool) (f : OtpChallenge → OtpChallenge)
    (keep : ∀ c, (f c).id = c.id) (moves : ∀ c, p c = true → Moves c (f c)) :
    Keyed (t.modify p f keep) := by
  have back : ∀ c' ∈ (t.modify p f keep).rows, ∃ c ∈ t.rows,
      (if p c then f c else c) = c' ∧ Moves c c' := by
    intro c' member
    obtain ⟨c, present, image⟩ := (t.mem_modify p f keep c').mp member
    refine ⟨c, present, image, ?_⟩
    by_cases matched : p c = true
    · rw [if_pos matched] at image
      exact image ▸ moves c matched
    · rw [if_neg matched] at image
      exact .inr (by subst image; exact ⟨rfl, rfl, rfl, rfl, rfl⟩)
  refine ⟨?_, ?_, ?_⟩
  · intro c' member
    obtain ⟨c, present, -, ⟨-, ends⟩ | kept⟩ := back c' member
    · simp [ends.activeKey, ends.status]
    · rw [kept.activeKey, kept.status]
      exact keyed.pending c present
  · intro c' member k own
    obtain ⟨c, present, -, moved⟩ := back c' member
    have kept := moved.same (by rw [own]; rfl)
    rw [kept.activeKey] at own
    rw [keyed.key c present k own, kept.userId, kept.purpose, kept.deviceId]
  · intro c₁' first c₂' second same some
    obtain ⟨c₁, present₁, image₁, moved₁⟩ := back c₁' first
    obtain ⟨c₂, present₂, image₂, moved₂⟩ := back c₂' second
    have kept₁ := moved₁.same some
    have kept₂ := moved₂.same (by rw [← same]; exact some)
    rw [kept₁.activeKey] at same some
    rw [kept₂.activeKey] at same
    have equal := keyed.unique c₁ present₁ c₂ present₂ same some
    rw [← image₁, ← image₂, equal]

theorem insert_keyed (keyed : Keyed t) (t' : Challenges) (challenge : OtpChallenge)
    (pending : challenge.status = .pending)
    (key : challenge.activeKey =
      some (activeKeyFor challenge.userId challenge.purpose challenge.deviceId))
    (unclashing : ∀ c ∈ t.rows, c.activeKey ≠ challenge.activeKey)
    (done : t.insert? challenge = some t') : Keyed t' := by
  obtain ⟨rows, -⟩ := Table.insert?_some _ _ _ done
  have either : ∀ c ∈ t'.rows, c ∈ t.rows ∨ c = challenge := by
    intro c member
    rw [rows] at member
    simpa using member
  refine ⟨?_, ?_, ?_⟩
  · intro c member
    rcases either c member with old | rfl
    · exact keyed.pending c old
    · simp [key, pending]
  · intro c member k own
    rcases either c member with old | rfl
    · exact keyed.key c old k own
    · rw [key] at own
      exact (Option.some.inj own).symm
  · intro c member c' member' same some
    rcases either c member with old | rfl
    · rcases either c' member' with old' | rfl
      · exact keyed.unique c old c' old' same some
      · exact absurd same (unclashing c old)
    · rcases either c' member' with old' | rfl
      · exact absurd same.symm (unclashing c' old')
      · rfl

theorem Turn.keyed {t t' : Challenges} (turn : Turn t t') (keyed : Keyed t) : Keyed t' := by
  induction turn with
  | moved t p f keep moves => exact modify_keyed t keyed p f keep moves
  | inserted t t' challenge pending key unclashing done =>
      exact insert_keyed t keyed t' challenge pending key unclashing done
  | twice t t' t'' first second ih₁ ih₂ => exact ih₂ (ih₁ keyed)

theorem Turn.final {t t' : Challenges} (turn : Turn t t') (id : Id) (status : OtpStatus)
    (ended : status ≠ .pending)
    (at' : ∃ c, t.find? id = some c ∧ c.status = status) :
    ∃ c, t'.find? id = some c ∧ c.status = status := by
  induction turn with
  | moved t p f keep moves =>
      obtain ⟨c, found, same⟩ := at'
      refine ⟨_, by rw [Table.find?_modify, found]; rfl, ?_⟩
      dsimp only
      split
      · next matched =>
        rcases moves c matched with ⟨pending, -⟩ | kept
        · exact absurd (same.symm.trans pending) ended
        · exact kept.status.trans same
      · exact same
  | inserted t t' challenge pending key unclashing done =>
      obtain ⟨c, found, same⟩ := at'
      exact ⟨c, Table.find?_insert_of_found _ _ _ done id c found, same⟩
  | twice t t' t'' first second ih₁ ih₂ => exact ih₂ (ih₁ at')

end Rows

section Steps

variable (config : Config) (s s' : Store)

theorem supersede_turn (now : Time) (params : RequestParams) (id : Id) (codeHash : String)
    (done : supersedeTx now (newChallenge config now params id codeHash) s = .ok s') :
    Turn s.otpChallenges s'.otpChallenges := by
  unfold supersedeTx at done
  dsimp only at done
  split at done
  · cases done
  · next free =>
    split at done
    · cases done
    · next t' inserted =>
      cases done
      refine .twice _ _ _ (.moved _ _ _ (OtpChallenge.cancelled_id now) ?_)
        (.inserted _ _ _ rfl rfl ?_ inserted)
      · intro c matched
        exact .inl ⟨(of_decide_eq_true matched).2, by simp [OtpChallenge.cancelled], rfl⟩
      · intro c member same
        rw [Bool.not_eq_true, Table.any_eq_false] at free
        have clash := free c member
        unfold clashes at clash
        rw [same] at clash
        simp [newChallenge] at clash

theorem step_turn (m : Mark) (next : Option Mark) (leads : otpLeads config m s s' next) :
    Turn s.otpChallenges s'.otpChallenges := by
  cases m with
  | other =>
      rw [leads.1]
      exact turn_same _
  | finish =>
      obtain ⟨⟨p, f, keep, pending, ends, rfl⟩, -⟩ := leads
      exact .moved _ p f keep (fun c matched => .inl ⟨pending c matched, (ends c).1⟩)
  | supersede =>
      rcases leads.1 with rfl | ⟨now, params, id, codeHash, done⟩
      · exact turn_same _
      · exact supersede_turn config s s' now params id codeHash done
  | deliver =>
      rcases leads.1 with rfl | ⟨now, result, challengeId, done⟩
      · exact turn_same _
      · unfold deliverTx at done
        split at done
        · cases done
        · cases done
          refine .moved _ _ _ (delivered_id config now result) (fun c _ => .inr ?_)
          unfold delivered
          cases result with
          | accepted provider providerMessageId => exact ⟨rfl, rfl, rfl, rfl, rfl⟩
          | failed provider reason detail => exact ⟨rfl, rfl, rfl, rfl, rfl⟩
  | compare c =>
      rw [leads.1]
      split
      · exact turn_same _
      · exact turn_same _
  | count challengeId =>
      rcases leads.1 with ⟨rfl, -⟩ | ⟨now, c, done⟩
      · exact turn_same _
      · unfold countTx at done
        split at done
        · cases done
        · cases done
          exact .moved _ _ _ (OtpChallenge.attempted_id now)
            (fun c _ => .inr ⟨rfl, rfl, rfl, rfl, rfl⟩)
  | consume challengeId =>
      obtain ⟨⟨now, count, done⟩, -⟩ := leads
      cases done
      refine .moved _ _ _ (OtpChallenge.verified_id now) ?_
      intro c matched
      exact .inl ⟨(of_decide_eq_true matched).2, by
        simp [OtpChallenge.verified], rfl⟩

end Steps

section Runs

variable (config : Config)

def statesProtocol : Protocol Store Mark where
  inv s := Keyed s.otpChallenges
  fits _ _ := True
  leads := otpLeads config
  known _ _ := True
  apart _ _ _ := True
  apart_symm _ _ _ _ := trivial
  own m s s' next keyed _ _ leads :=
    ⟨(step_turn config s s' m next leads).keyed keyed, fun _ _ => trivial⟩
  frame _ _ _ _ _ _ _ _ _ _ _ := ⟨trivial, fun _ _ => trivial⟩
  rest _ _ _ _ _ _ _ _ _ _ _ := trivial

theorem call_enters (p : Request Answer) (call : Call config p) (s : Store)
    (_ : Keyed s.otpChallenges) : (statesProtocol config).Enters p s :=
  ⟨(call_unbegun config p call).1, fun _ _ => trivial, fun _ _ _ => trivial⟩

def Stands (s : Store) (challengeId : Id) (status : OtpStatus) : Prop :=
  ∃ c, s.otpChallenges.find? challengeId = some c ∧ c.status = status

variable (challengeId : Id)

def Succeeds (result : Except Refusal Answer) : Prop :=
  ∃ purpose deviceId, result = .ok (.verified (.ok challengeId purpose deviceId))

def Verifies (s s' : Store) : Prop :=
  ¬Stands s challengeId .verified ∧ Stands s' challengeId .verified

theorem refused_fails (refusal : Refusal) : ¬Succeeds challengeId (.error refusal) := by
  intro succeeds
  obtain ⟨_, _, same⟩ := succeeds
  cases same

theorem answer_fails (answer : Answer)
    (no : ∀ purpose deviceId, answer ≠ .verified (.ok challengeId purpose deviceId)) :
    ¬Succeeds challengeId (.ok answer) := by
  intro succeeds
  obtain ⟨purpose, deviceId, same⟩ := succeeds
  exact no purpose deviceId (Except.ok.inj same)

theorem consumeTx_verifies (now : Time) (s s' : Store) (count : Nat)
    (done : consumeTx now challengeId s = .ok (s', count)) (won : count ≠ 0) :
    Verifies challengeId s s' := by
  cases done
  obtain ⟨c, member⟩ := List.exists_mem_of_length_pos (Nat.pos_of_ne_zero won)
  obtain ⟨present, matched⟩ := (Table.mem_filter _ _ _).mp member
  obtain ⟨key, pending⟩ := of_decide_eq_true matched
  have found : s.otpChallenges.find? challengeId = some c :=
    (Table.find?_some _ _ _).mpr ⟨present, key⟩
  refine ⟨?_, ?_⟩
  · intro verified
    obtain ⟨c', found', status⟩ := verified
    rw [found] at found'
    cases found'
    rw [pending] at status
    cases status
  · refine ⟨c.verified now, ?_, rfl⟩
    dsimp only
    rw [Table.find?_modify, found, Option.map_some, if_pos matched]

section Unclaimed

variable (good : Store → Mark → Prop) (now : Time)

def Open (p : Request VerifyOutcome) : Prop :=
  (p >>= fun outcome => pure (.verified outcome)).Unclaimed good
    (Verifies challengeId) (Succeeds challengeId)

theorem refused_open (reason : VerifyRefused) (remaining : Int) :
    Open challengeId good (pure (.refused reason remaining)) :=
  answer_fails challengeId _ (fun _ _ => by simp)

theorem void_open (p : Request Unit) (reason : VerifyRefused) (remaining : Int) :
    Open challengeId good (p >>= fun _ => pure (.refused reason remaining)) := by
  unfold Open
  rw [Prog.bind_assoc]
  refine Prog.unclaimed_bind _ _ _ _ _ ?_ (refused_fails challengeId)
  exact fun _ => refused_open challengeId good reason remaining

theorem hit_open (challenge : OtpChallenge) : Open challengeId good (hit now challenge) := by
  unfold Open hit
  rw [Prog.bind_assoc]
  refine Prog.unclaimed_transact _ _ _ _ _ _ ?_ (refused_fails challengeId)
  intro s s' count _ done
  by_cases lost : count = 0
  · rw [if_pos lost]
    exact .inl (refused_open challengeId good _ _)
  · rw [if_neg lost]
    by_cases here : challenge.id = challengeId
    · exact .inr (here ▸ consumeTx_verifies challenge.id now s s' count done lost)
    · left
      refine answer_fails challengeId _ (fun purpose deviceId same => ?_)
      cases same
      exact here rfl

theorem miss_open (challenge : OtpChallenge) : Open challengeId good (miss now challenge) := by
  unfold Open miss
  rw [Prog.bind_assoc]
  refine Prog.unclaimed_bind _ _ _ _ _ ?_ (refused_fails challengeId)
  intro after
  dsimp only
  split
  · exact void_open challengeId good (lock now challenge.id) _ _
  · exact refused_open challengeId good _ _

theorem verifyChallenge_open (challenge : OtpChallenge) (code pepper : String) :
    Open challengeId good (verifyChallenge config now challenge code pepper) := by
  unfold verifyChallenge
  split
  · exact refused_open challengeId good _ _
  · exact refused_open challengeId good _ _
  · exact refused_open challengeId good _ _
  · exact void_open challengeId good (markExpired challenge.id) _ _
  · split
    · exact void_open challengeId good (markExpired challenge.id) _ _
    unfold attempt
    split
    · exact void_open challengeId good (lock now challenge.id) _ _
    · intro s _
      left
      change Open challengeId good (if codeMatches _ _ _ _ _ then _ else _)
      split
      · exact hit_open challengeId good now challenge
      · exact miss_open challengeId good now challenge

theorem verify_open (params : ChallengeParams) (code : String) :
    Open challengeId good (verify config now params code) := by
  unfold verify
  split
  · exact refused_open challengeId good _ _
  · intro s _
    left
    dsimp only [Prog.bind]
    cases ownChallenge params s with
    | none => exact refused_open challengeId good _ _
    | some challenge => exact verifyChallenge_open config challengeId good now _ _ _

theorem call_open (p : Request Answer) (call : Call config p) :
    p.Unclaimed good (Verifies challengeId) (Succeeds challengeId) := by
  cases call with
  | verify now params code => exact verify_open config challengeId good now params code
  | request now params draw =>
      refine Prog.unclaimed_bind _ _ _ _ _ (fun _ => ?_) (refused_fails challengeId)
      exact answer_fails challengeId _ (fun _ _ => by simp)
  | resend now params draw =>
      refine Prog.unclaimed_bind _ _ _ _ _ (fun _ => ?_) (refused_fails challengeId)
      exact answer_fails challengeId _ (fun _ _ => by simp)
  | cancel now other =>
      refine Prog.unclaimed_bind _ _ _ _ _ (fun _ => ?_) (refused_fails challengeId)
      exact answer_fails challengeId _ (fun _ _ => by simp)
  | expireOverdue now =>
      refine Prog.unclaimed_bind _ _ _ _ _ (fun _ => ?_) (refused_fails challengeId)
      exact answer_fails challengeId _ (fun _ _ => by simp)

end Unclaimed

end Runs

/-- In every run: a challenge has a key exactly while it is pending, at most one is pending for a
question, what has ended stays ended, and a challenge is verified for one caller. -/
theorem challenges_stand (config : Config) (s : Store) (keyed : Keyed s.otpChallenges) :
    ∀ c, FittingRun (Call config) (fun _ _ => True) (.idle s) c →
      (∀ challenge ∈ c.store.otpChallenges.rows,
        challenge.activeKey.isSome = true ↔ challenge.status = .pending) ∧
      (∀ first ∈ c.store.otpChallenges.rows, ∀ second ∈ c.store.otpChallenges.rows,
        first.status = .pending → second.status = .pending → first.userId = second.userId →
          first.purpose = second.purpose → first.deviceId = second.deviceId → first = second) ∧
      (∀ c' challengeId status, FittingRun (Call config) (fun _ _ => True) c c' →
        status ≠ .pending → Stands c.store challengeId status →
          Stands c'.store challengeId status) ∧
      ∀ challengeId (i j : Nat) first second, c.inFlight[i]? = some (.done first) →
        c.inFlight[j]? = some (.done second) → Succeeds challengeId first →
          Succeeds challengeId second → i = j := by
  let P := statesProtocol config
  have enters := call_enters config
  have final : ∀ challengeId status, status ≠ OtpStatus.pending → ∀ m s s' next, P.inv s → True →
      P.known m s → P.leads m s s' next → Stands s challengeId status →
        Stands s' challengeId status :=
    fun challengeId status ended m s s' next _ _ _ leads stands =>
      (step_turn config s s' m next leads).final challengeId status ended stands
  intro c run
  have sound := P.run_sound _ _ c enters run (P.sound_idle s keyed)
  have kept : Keyed c.store.otpChallenges := sound.inv
  refine ⟨kept.pending, ?_, ?_, ?_⟩
  · intro first member second member' pending pending' user purpose device
    have some := (kept.pending first member).mpr pending
    obtain ⟨k, own⟩ := Option.isSome_iff_exists.mp some
    obtain ⟨k', own'⟩ := Option.isSome_iff_exists.mp ((kept.pending second member').mpr pending')
    have same : k = k' := by
      rw [kept.key first member k own, kept.key second member' k' own', user, purpose, device]
    exact kept.unique first member second member' (by rw [own, own', same]) some
  · intro c' challengeId status onward ended stands
    exact (sound.keeps P (fun _ _ fit => fit) enters (Stands · challengeId status)
      (final challengeId status ended) onward stands).2
  · intro challengeId i j first second one other wins wins'
    exact Protocol.Sound.once P (fun _ _ fit => fit) enters (Succeeds challengeId)
      (Stands · challengeId .verified) (final challengeId .verified (by simp))
      (call_open config challengeId _) keyed run i j first second one other wins wins'

/-- A digest that is what it is of, in place of HMAC-SHA256 and SHA-256. -/
def deployment : Config where
  otpPepper := some "0123456789abcdef0123456789abcdef"
  otpTtlSeconds := 300
  otpMaxAttempts := 3
  otpResendCooldownSeconds := 60
  otpMaxSendsPerWindow := 3
  otpSendWindowSeconds := 900
  otpMaxSendsPerDay := 10
  hmac code _ pepper := pepper ++ code
  sha256 text := text

def unused : Store where
  otpChallenges := ⟨[], List.nodup_nil⟩

def asked : Move Store Mark Refusal Answer :=
  .arrive (request deployment 10
    { companyId := 1, userId := 1, purpose := .deviceVerification, destination := "+22230000000" }
    ⟨1, "000123", .accepted "channel" none⟩ >>= fun outcome => pure (.requested outcome))

def submitted (code : String) : Move Store Mark Refusal Answer :=
  .arrive (verify deployment 20 ⟨1, 1, 1⟩ code >>= fun outcome => pure (.verified outcome))

/-- Two submissions of the right code are compared before either wins. -/
def bothRight : List (Move Store Mark Refusal Answer) :=
  [asked, .advance 0, .advance 0, .advance 0, .advance 0, .advance 0, submitted "000123",
    submitted "000123", .advance 1, .advance 2, .advance 1, .advance 2, .advance 1, .advance 2]

theorem submissions_issued (moves : List (Move Store Mark Refusal Answer))
    (only : ∀ move ∈ moves, move = asked ∨ (∃ code, move = submitted code) ∨
      ∃ index, move = .advance index) :
    ∀ p, .arrive p ∈ moves → Call deployment p := by
  intro p member
  rcases only _ member with same | ⟨code, same⟩ | ⟨index, same⟩
  · cases same
    exact .request 10 _ _
  · cases same
    exact .verify 20 _ code
  · cases same

theorem challenges_stand_submitted :
    Stands ((Config.idle unused).schedule bothRight).store 1 .verified ∧
      ∀ (j : Nat) second,
        ((Config.idle unused).schedule bothRight).inFlight[j]? = some (.done second) →
          Succeeds 1 second → 1 = j := by
  have run := fitting_schedule (Call deployment) (fun _ _ => True) (.idle unused) bothRight
    (submissions_issued _ (by
      simp only [bothRight, List.mem_cons, List.not_mem_nil, or_false]
      rintro move
        (rfl | rfl | rfl | rfl | rfl | rfl | rfl | rfl | rfl | rfl | rfl | rfl | rfl | rfl)
      all_goals simp)) (by decide +kernel)
  have empty : Keyed unused.otpChallenges :=
    ⟨fun _ member => (by cases member), fun _ member => (by cases member),
      fun _ member => (by cases member)⟩
  obtain ⟨-, -, -, once⟩ := challenges_stand deployment unused empty _ run
  have verified : (((Config.idle unused).schedule bothRight).store.otpChallenges.find? 1).any
      (fun c => c.status = .verified) = true := by decide +kernel
  obtain ⟨c, found, status⟩ := (Option.any_eq_true _ _).mp verified
  rw [decide_eq_true_eq] at status
  exact ⟨⟨c, found, status⟩, fun j second answered succeeds =>
    once 1 1 j (.ok (.verified (.ok 1 .deviceVerification none))) second rfl answered
      ⟨_, _, rfl⟩ succeeds⟩

end ErpBackend.Auth.Otp
