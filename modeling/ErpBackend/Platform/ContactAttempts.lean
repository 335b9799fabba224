import ErpBackend.Auth.Attempts
import ErpBackend.Platform.ContactVerification

/-!
# Attempts at a contact code

As for the codes of a sign-in: the count is read, the code is compared, and only then is
the attempt written, if it is written at all.
-/

namespace ErpBackend.Platform

open Foundation

inductive ContactAnswer where
  | started (delivery : Delivery)
  | confirmed (ok : Bool)
  | latest (challengeId : Option Id)
  | checked (confirmed : Confirmed)
  | spent (count : Nat)
  deriving DecidableEq

inductive ContactCall (text : Text) : ContactRequest ContactAnswer → Prop
  | start (now : Time) (rawDestination : String) (draw : Start) :
      ContactCall text (start text now rawDestination draw >>= fun delivery =>
        pure (.started delivery))
  | confirm (now : Time) (rawDestination code : String) :
      ContactCall text (confirm text now rawDestination code >>= fun ok => pure (.confirmed ok))
  | latestChallengeFor (now : Time) (rawDestination : String) :
      ContactCall text (latestChallengeFor text now rawDestination >>= fun challengeId =>
        pure (.latest challengeId))
  | confirmChallenge (now : Time) (challengeId : Id) (code : String) :
      ContactCall text (confirmChallenge text now challengeId code >>= fun confirmed =>
        pure (.checked confirmed))
  | spend (now : Time) (challengeId : Id) :
      ContactCall text (spend now challengeId >>= fun count => pure (.spent count))

def ContactMark.plain : ContactMark → Bool
  | .compare _ => false
  | .count _ => false
  | .consume _ => false
  | _ => true

def ContactMark.settles : ContactMark → Option Id
  | .count challengeId => some challengeId
  | .consume challengeId => some challengeId
  | _ => none

def contactLeads : ContactMark → ContactStore → ContactStore → Option ContactMark → Prop
  | .other, s, s', next => s' = s ∧ ∀ mark ∈ next, mark.plain = true ∨
      ∃ row, s.contactVerifications.find? row.id = some row ∧ row.attempts < maxAttempts ∧
        mark = .compare row
  | .finish, s, s', next =>
      (∃ now p, s' = { s with
        contactVerifications := s.contactVerifications.modify p
          (ContactVerification.consumed now) (ContactVerification.consumed_id now) }) ∧
      ∀ mark ∈ next, mark.plain = true
  | .insert, s, s', next => (s' = s ∨ ∃ row, row.attempts = 0 ∧ insertTx row s = .ok s') ∧
      ∀ mark ∈ next, mark.plain = true
  | .compare row, s, s', next =>
      s' = (if unconsumed s row.id then
        { s with compared := row.id :: s.compared, comparing := row.id :: s.comparing } else s) ∧
      ∀ mark ∈ next, mark.settles = some row.id
  | .count challengeId, s, s', next =>
      (s' = s ∧ s.contactVerifications.find? challengeId = none ∨
        countTx challengeId s = .ok s') ∧ ∀ mark ∈ next, mark.plain = true
  | .consume challengeId, s, s', next =>
      (s' = s ∧ s.contactVerifications.find? challengeId = none ∨
        ∃ now, consumeTx now challengeId s = .ok s') ∧ ∀ mark ∈ next, mark.plain = true

section Onward

variable {α : Type} (text : Text) (now : Time)

abbrev Unbegun (p : ContactRequest α) : Prop :=
  p.Onward contactLeads (fun mark => mark.plain = true)

theorem other_goes (s : ContactStore) (next : Option ContactMark)
    (plain : ∀ mark ∈ next, mark.plain = true) : contactLeads .other s s next :=
  ⟨rfl, fun mark own => .inl (plain mark own)⟩

theorem compared_walks (row : ContactVerification) (rest : ContactRequest α)
    (onward : rest.Onward contactLeads (fun mark => mark.settles = some row.id)) (s : ContactStore)
    (found : s.contactVerifications.find? row.id = some row) (room : row.attempts < maxAttempts) :
    contactLeads .other s s (compare row >>= fun _ => rest).mark? ∧
      (compare row >>= fun _ => rest).Walks contactLeads := by
  refine ⟨⟨rfl, fun mark own => .inr ⟨row, found, room, ?_⟩⟩, ?_⟩
  · cases own
    rfl
  · exact fun s => ⟨⟨rfl, onward.2⟩, onward.1⟩

theorem count_settles (challengeId : Id) (answer : α) :
    (Prog.commit (.count challengeId) (countTx challengeId) >>= fun _ => pure answer).Onward
      contactLeads (fun mark => mark.settles = some challengeId) := by
  refine ⟨?_, fun mark own => (by cases own; rfl)⟩
  apply Prog.walks_commit
  · exact fun s s' done => ⟨.inr done, fun _ none => (by cases none)⟩
  · intro s refusal failed
    refine ⟨.inl ⟨rfl, ?_⟩, fun _ none => (by cases none)⟩
    rcases found : s.contactVerifications.find? challengeId with _ | row
    · rfl
    · simp [countTx, found] at failed
  · trivial

theorem consume_settles (challengeId : Id) (answer : α) :
    (Prog.commit (.consume challengeId) (consumeTx now challengeId) >>= fun _ => pure answer).Onward
      contactLeads (fun mark => mark.settles = some challengeId) := by
  refine ⟨?_, fun mark own => (by cases own; rfl)⟩
  apply Prog.walks_commit
  · exact fun s s' done => ⟨.inr ⟨now, done⟩, fun _ none => (by cases none)⟩
  · intro s refusal failed
    refine ⟨.inl ⟨rfl, ?_⟩, fun _ none => (by cases none)⟩
    rcases found : s.contactVerifications.find? challengeId with _ | row
    · rfl
    · simp [consumeTx, found] at failed
  · trivial

theorem latestLive_found (destination : String) (s : ContactStore) (row : ContactVerification)
    (live : latestLive now destination s = some row) :
    s.contactVerifications.find? row.id = some row := by
  have member := List.mem_of_getLast? live
  exact (Table.find?_some _ _ _).mpr ⟨((Table.mem_filter _ _ _).mp member).1, rfl⟩

theorem start_unbegun (rawDestination : String) (draw : Start) :
    Unbegun (start text now rawDestination draw) := by
  unfold start
  apply Prog.onward_liftExcept
  intro contact _
  apply Prog.onward_read
  · rfl
  · exact other_goes
  intro recent
  apply Prog.onward_require
  intro _
  apply Prog.onward_execute
  · rfl
  · exact fun s next plain => ⟨⟨now, _, rfl⟩, plain⟩
  apply Prog.onward_commit
  · rfl
  · exact fun s s' next inserted plain => ⟨.inr ⟨_, rfl, inserted⟩, plain⟩
  · exact fun s refusal _ => ⟨.inl rfl, fun _ none => (by cases none)⟩
  · exact Prog.onward_done _

theorem confirm_unbegun (rawDestination code : String) :
    Unbegun (confirm text now rawDestination code) := by
  unfold confirm
  apply Prog.onward_liftExcept
  intro contact _
  refine Prog.onward_query _ _ _ rfl ?_
  intro s
  rcases found : latestLive now contact.destination s with _ | row
  · exact ⟨other_goes s none (fun _ absent => (by cases absent)), trivial⟩
  · dsimp only
    split
    · exact ⟨other_goes s none (fun _ absent => (by cases absent)), trivial⟩
    · next room =>
      refine compared_walks row _ ?_ s (latestLive_found now _ s row found) (Nat.lt_of_not_le room)
      split
      · exact consume_settles now row.id true
      · exact count_settles row.id false

theorem confirmChallenge_unbegun (challengeId : Id) (code : String) :
    Unbegun (confirmChallenge text now challengeId code) := by
  unfold confirmChallenge
  refine Prog.onward_query _ _ _ rfl ?_
  intro s
  rcases found : s.contactVerifications.find? challengeId with _ | row
  · exact ⟨other_goes s none (fun _ absent => (by cases absent)), trivial⟩
  · obtain rfl := Table.key_of_find? _ _ _ found
    dsimp only
    split
    · exact ⟨other_goes s none (fun _ absent => (by cases absent)), trivial⟩
    · next open' =>
      obtain ⟨-, -, room⟩ := not_or.mp open' |>.imp_right not_or.mp
      refine compared_walks row _ ?_ s found (Nat.lt_of_not_le room)
      split
      · exact Prog.onward_done _
      · exact count_settles row.id Confirmed.wrong

theorem latestChallengeFor_unbegun (rawDestination : String) :
    Unbegun (latestChallengeFor text now rawDestination) := by
  unfold latestChallengeFor
  apply Prog.onward_liftExcept
  intro contact _
  apply Prog.onward_read
  · rfl
  · exact other_goes
  · exact fun _ => Prog.onward_done _

theorem call_unbegun (p : ContactRequest ContactAnswer) (call : ContactCall text p) :
    Unbegun p := by
  cases call with
  | start now rawDestination draw => exact Prog.onward_map _ _ (start_unbegun text now _ draw)
  | confirm now rawDestination code => exact Prog.onward_map _ _ (confirm_unbegun text now _ code)
  | latestChallengeFor now rawDestination =>
      exact Prog.onward_map _ _ (latestChallengeFor_unbegun text now rawDestination)
  | confirmChallenge now challengeId code =>
      exact Prog.onward_map _ _ (confirmChallenge_unbegun text now challengeId code)
  | spend now challengeId =>
      apply Prog.onward_transact
      · rfl
      · exact fun s s' count next done plain => ⟨⟨now, _, (by cases done; rfl)⟩, plain⟩
      · exact fun s refusal failed => (by cases failed)
      · exact fun _ => Prog.onward_done _

end Onward

/-- The challenge is compared with while its count is what was read, and while no comparison of
it waits to be counted or to consume it. -/
def ContactUpToDate (s : ContactStore) : ContactMark → Prop
  | .compare row => ∀ current ∈ s.contactVerifications.find? row.id, current.consumedAt = none →
      current.attempts = row.attempts ∧ row.id ∉ s.comparing
  | _ => True

def contactCounter : Counter ContactVerification where
  live row := row.consumedAt = none
  attempts row := row.attempts
  limit _ := maxAttempts

section Tally

variable (id : Id)

def contactTally (s : ContactStore) : Tally :=
  contactCounter.tally s.contactVerifications s.compared s.comparing id

def contactRole : ContactMark → Role
  | .compare row => if row.id = id then .make row.attempts maxAttempts else .plain
  | .count challengeId => if challengeId = id then .settle else .plain
  | .consume challengeId => if challengeId = id then .settle else .plain
  | _ => .plain

theorem role_plain (mark : ContactMark) (plain : mark.plain = true) :
    contactRole id mark = .plain := by
  cases mark with
  | compare row => cases plain
  | count challengeId => cases plain
  | consume challengeId => cases plain
  | other => rfl
  | finish => rfl
  | insert => rfl

theorem plain_next (next : Option ContactMark) (plain : ∀ mark ∈ next, mark.plain = true) :
    next.map (contactRole id) = none ∨ next.map (contactRole id) = some .plain := by
  cases next with
  | none => exact .inl rfl
  | some mark => exact .inr (by rw [Option.map_some, role_plain id mark (plain mark rfl)])

theorem settle_next (challengeId : Id) (next : Option ContactMark)
    (about : ∀ mark ∈ next, mark.settles = some challengeId) :
    next.map (contactRole id) = none ∨
      next.map (contactRole id) = some (if challengeId = id then .settle else .plain) := by
  cases next with
  | none => exact .inl rfl
  | some mark =>
      have settles := about mark rfl
      right
      cases mark with
      | count other => cases settles; rfl
      | consume other => cases settles; rfl
      | compare row => cases settles
      | other => cases settles
      | finish => cases settles
      | insert => cases settles

section Leads

variable (s s' : ContactStore) (next : Option ContactMark)

theorem contactLeads_plain (quiet : Tally.Quiet (contactTally id s) (contactTally id s'))
    (onward : ∀ mark ∈ next, mark.plain = true) :
    Tally.leads .plain (contactTally id s) (contactTally id s') (next.map (contactRole id)) :=
  ⟨quiet, (plain_next id next onward).imp_right .inl⟩

theorem other_leads (onward : ∀ mark ∈ next, mark.plain = true ∨
      ∃ row, s.contactVerifications.find? row.id = some row ∧ row.attempts < maxAttempts ∧
        mark = .compare row) :
    Tally.leads .plain (contactTally id s) (contactTally id s) (next.map (contactRole id)) := by
  apply contactCounter.read_leads
  cases next with
  | none => exact .inl rfl
  | some mark =>
      right
      rcases onward mark rfl with plain | ⟨row, found, room, rfl⟩
      · exact .inl (by rw [Option.map_some, role_plain id mark plain])
      · exact .inr ⟨row.id, row, found, Int.ofNat_lt.mpr room, rfl⟩

theorem insert_quiet (row : ContactVerification) (fresh : row.attempts = 0)
    (done : insertTx row s = .ok s') : Tally.Quiet (contactTally id s) (contactTally id s') := by
  unfold insertTx at done
  split at done
  · cases done
  · next t' inserted =>
    cases done
    refine contactCounter.quiet_insert _ t' _ _ id row inserted ?_ (Int.natCast_nonneg _)
    simp [contactCounter, fresh]

theorem compare_leads (row : ContactVerification)
    (effect : s' = if unconsumed s row.id then
      { s with compared := row.id :: s.compared, comparing := row.id :: s.comparing } else s)
    (about : ∀ mark ∈ next, mark.settles = some row.id) :
    Tally.leads (contactRole id (.compare row)) (contactTally id s) (contactTally id s')
      (next.map (contactRole id)) := by
  apply contactCounter.attempt_leads
  · subst effect
    by_cases unspent : unconsumed s row.id = true
    · rw [if_pos unspent]
      exact .inl ⟨unspent, rfl, rfl, rfl⟩
    · rw [if_neg unspent]
      exact .inr ⟨Bool.eq_false_iff.mpr unspent, rfl, rfl, rfl⟩
  · exact settle_next id row.id next about

/-- The row of a challenge is written and its comparison is no longer pending. -/
theorem settleRow_leads (f : ContactVerification → ContactVerification)
    (keep : ∀ row, (f row).id = row.id) (challengeId : Id)
    (onward : ∀ mark ∈ next, mark.plain = true)
    (known : Tally.Known (contactTally id s) (if challengeId = id then .settle else .plain))
    (counts : ∀ row, (f row).consumedAt = none →
      row.consumedAt = none ∧ (f row).attempts = row.attempts + 1) :
    Tally.leads (if challengeId = id then .settle else .plain) (contactTally id s)
      (contactTally id { s with
        contactVerifications := s.contactVerifications.update challengeId f keep
        comparing := s.comparing.erase challengeId }) (next.map (contactRole id)) := by
  refine contactCounter.settle_leads _ _ _ challengeId id _ _ f keep
    (fun row named => of_decide_eq_true named) ?_ known (plain_next id next onward)
  intro row found
  refine ⟨rfl, fun on => ?_⟩
  rw [if_pos (decide_eq_true (Table.key_of_find? _ _ _ found))] at on ⊢
  obtain ⟨before, count⟩ := counts row (of_decide_eq_true on)
  exact ⟨decide_eq_true before, by simp [contactCounter, count]⟩

end Leads

theorem contactLeads_tally (m : ContactMark) (s s' : ContactStore) (next : Option ContactMark)
    (known : Tally.Known (contactTally id s) (contactRole id m))
    (leads : contactLeads m s s' next) :
    Tally.leads (contactRole id m) (contactTally id s) (contactTally id s')
      (next.map (contactRole id)) := by
  cases m with
  | other =>
      obtain ⟨rfl, onward⟩ := leads
      exact other_leads id s' next onward
  | finish =>
      obtain ⟨⟨now, p, rfl⟩, onward⟩ := leads
      refine contactLeads_plain id s _ next ?_ onward
      refine contactCounter.quiet_modify s.contactVerifications _ _ _ _ id p _
        (ContactVerification.consumed_id now) rfl rfl ?_
      exact fun row _ _ => ⟨rfl, fun on => (by
        simp [contactCounter, ContactVerification.consumed] at on)⟩
  | insert =>
      obtain ⟨rfl | ⟨row, fresh, done⟩, onward⟩ := leads
      · exact contactLeads_plain id s' s' next (contactCounter.quiet_same _ _ _ id) onward
      · exact contactLeads_plain id s s' next (insert_quiet id s s' row fresh done) onward
  | compare row => exact compare_leads id s s' next row leads.1 leads.2
  | count challengeId =>
      obtain ⟨⟨rfl, absent⟩ | done, onward⟩ := leads
      · exact contactCounter.absent_leads _ _ _ challengeId id _ absent known
          (plain_next id next onward)
      · unfold countTx at done
        split at done
        · cases done
        · cases done
          exact settleRow_leads id s next _ ContactVerification.attempted_id challengeId onward
            known (fun row on => ⟨on, rfl⟩)
  | consume challengeId =>
      obtain ⟨⟨rfl, absent⟩ | ⟨now, done⟩, onward⟩ := leads
      · exact contactCounter.absent_leads _ _ _ challengeId id _ absent known
          (plain_next id next onward)
      · unfold consumeTx at done
        split at done
        · cases done
        · cases done
          exact settleRow_leads id s next _ (ContactVerification.consumed_id now) challengeId onward
            known (fun row on => (by cases on))

def contactProtocol : Protocol ContactStore ContactMark :=
  Tally.counting.comap (contactTally id) (contactRole id) contactLeads
    (fun m s s' next known leads => contactLeads_tally id m s s' next known leads)

theorem contactUpToDate_fits (s : ContactStore) (m : ContactMark) (upToDate : ContactUpToDate s m) :
    Tally.UpToDate (contactTally id s) (contactRole id m) := by
  cases m with
  | compare row =>
      by_cases here : row.id = id
      · subst here
        simp only [contactRole, if_pos]
        intro alive
        unfold contactTally at alive ⊢
        rcases found : s.contactVerifications.find? row.id with _ | current
        · rw [contactCounter.tally_absent _ _ _ row.id found] at alive
          cases alive
        · rw [contactCounter.tally_found _ _ _ row.id current found] at alive ⊢
          obtain ⟨same, free⟩ := upToDate current found (of_decide_eq_true alive)
          exact ⟨congrArg Nat.cast same, List.count_eq_zero_of_not_mem free⟩
      · simp only [contactRole, if_neg here]
        trivial
  | count challengeId =>
      simp only [contactRole]
      split
      · trivial
      · trivial
  | consume challengeId =>
      simp only [contactRole]
      split
      · trivial
      · trivial
  | other => trivial
  | finish => trivial
  | insert => trivial

end Tally

def ContactRecorded (s : ContactStore) : Prop := ∀ id, Tally.Recorded (contactTally id s)

theorem contactCall_attempts (text : Text) (id : Id) (p : ContactRequest ContactAnswer)
    (call : ContactCall text p) (s : ContactStore) : (contactProtocol id).Enters p s := by
  obtain ⟨walks, plain⟩ := call_unbegun text p call
  refine ⟨walks, ?_, ?_⟩
  · intro mark own
    change Tally.Known (contactTally id s) (contactRole id mark)
    rw [role_plain id mark (plain mark own)]
    trivial
  · intro mark own pending
    change Tally.Apart (contactTally id s) (contactRole id pending) (contactRole id mark)
    rw [role_plain id mark (plain mark own)]
    cases contactRole id pending <;> trivial

/-- In a run whose comparisons all find the count they read, no contact code is compared with more
often than it may be. -/
theorem run_contactAttempts (text : Text) (s : ContactStore) (recorded : ContactRecorded s)
    (c : Config ContactStore ContactMark Refusal ContactAnswer)
    (run : FittingRun (ContactCall text) ContactUpToDate (.idle s) c) :
    ∀ row ∈ c.store.contactVerifications.rows, c.store.compared.count row.id ≤ maxAttempts := by
  intro row member
  let P := contactProtocol row.id
  have fitting := FittingRun.mono (fun s m fit => contactUpToDate_fits row.id s m fit) run
  have sound := P.run_sound (ContactCall text) (.idle s) c
    (fun p call s _ => contactCall_attempts text row.id p call s) fitting
    (P.sound_idle s (recorded row.id))
  have kept : Tally.Recorded (contactTally row.id c.store) := sound.inv
  have found : c.store.contactVerifications.find? row.id = some row :=
    (Table.find?_some _ _ _).mpr ⟨member, rfl⟩
  unfold contactTally at kept
  rw [contactCounter.tally_found _ _ _ row.id row found] at kept
  exact Int.ofNat_le.mp kept.within

/-- Both kinds of code, each by its own service: no more are compared than may be. -/
theorem attempts_limited (config : Auth.Otp.Config) (text : Text) (codes : Auth.Otp.Store)
    (contacts : ContactStore) (recorded : Auth.Otp.Recorded codes)
    (contactRecorded : ContactRecorded contacts) :
    (∀ c, FittingRun (Auth.Otp.Call config) Auth.Otp.UpToDate (.idle codes) c →
      ∀ challenge ∈ c.store.otpChallenges.rows,
        (c.store.compared.count challenge.id : Int) ≤ challenge.maxAttempts) ∧
      ∀ c, FittingRun (ContactCall text) ContactUpToDate (.idle contacts) c →
        ∀ row ∈ c.store.contactVerifications.rows,
          c.store.compared.count row.id ≤ maxAttempts :=
  ⟨Auth.Otp.run_attempts config codes recorded,
    run_contactAttempts text contacts contactRecorded⟩

def plainText : Text where
  casing := Users.asciiCasing
  sha256 text := text

def unproven : ContactStore where
  contactVerifications := ⟨[], List.nodup_nil⟩

theorem unused_recorded : Auth.Otp.Recorded Auth.Otp.unused :=
  fun _ => ⟨Int.le_refl 0, fun no => (by cases no), fun _ => ⟨rfl, rfl⟩, fun no => (by cases no)⟩

theorem unproven_recorded : ContactRecorded unproven :=
  fun _ => ⟨Int.le_refl 0, fun no => (by cases no), fun _ => ⟨rfl, rfl⟩, fun no => (by cases no)⟩

def started : Move ContactStore ContactMark Refusal ContactAnswer :=
  .arrive (start plainText 10 "amadou@example.com" ⟨1, "000123", .ok .sent⟩ >>= fun delivery =>
    pure (.started delivery))

def checked (code : String) : Move ContactStore ContactMark Refusal ContactAnswer :=
  .arrive (confirmChallenge plainText 20 1 code >>= fun confirmed => pure (.checked confirmed))

theorem checks_issued (moves : List (Move ContactStore ContactMark Refusal ContactAnswer))
    (only : ∀ move ∈ moves, move = started ∨ (∃ code, move = checked code) ∨
      ∃ index, move = .advance index) :
    ∀ p, .arrive p ∈ moves → ContactCall plainText p := by
  intro p member
  rcases only _ member with same | ⟨code, same⟩ | ⟨index, same⟩
  · cases same
    exact .start 10 _ _
  · cases same
    exact .confirmChallenge 20 1 code
  · cases same

instance (s : Auth.Otp.Store) : (m : Auth.Otp.Mark) → Decidable (Auth.Otp.UpToDate s m)
  | .compare c => inferInstanceAs (Decidable (∀ row ∈ s.otpChallenges.find? c.id,
      row.status = .pending → row.attemptCount = c.attemptCount ∧ c.id ∉ s.comparing))
  | .count _ => .isTrue trivial
  | .consume _ => .isTrue trivial
  | .other => .isTrue trivial
  | .finish => .isTrue trivial
  | .supersede => .isTrue trivial
  | .deliver => .isTrue trivial

instance (s : ContactStore) : (m : ContactMark) → Decidable (ContactUpToDate s m)
  | .compare row => inferInstanceAs (Decidable (∀ current ∈ s.contactVerifications.find? row.id,
      current.consumedAt = none → current.attempts = row.attempts ∧ row.id ∉ s.comparing))
  | .count _ => .isTrue trivial
  | .consume _ => .isTrue trivial
  | .other => .isTrue trivial
  | .finish => .isTrue trivial
  | .insert => .isTrue trivial

/-- A wrong code and a right one, the second asked for when the first is counted. -/
def guessed : List (Move Auth.Otp.Store Auth.Otp.Mark Refusal Auth.Otp.Answer) :=
  Auth.Otp.asked :: List.replicate 5 (.advance 0) ++
    Auth.Otp.submitted "000000" :: List.replicate 3 (.advance 1) ++
    Auth.Otp.submitted "000123" :: List.replicate 3 (.advance 2)

def rechecked : List (Move ContactStore ContactMark Refusal ContactAnswer) :=
  started :: List.replicate 3 (.advance 0) ++ checked "000000" :: List.replicate 3 (.advance 1) ++
    checked "000123" :: List.replicate 2 (.advance 2)

theorem attempts_limited_guessed :
    (∀ challenge ∈ ((Config.idle Auth.Otp.unused).schedule guessed).store.otpChallenges.rows,
      (((Config.idle Auth.Otp.unused).schedule guessed).store.compared.count challenge.id : Int) ≤
        challenge.maxAttempts) ∧
      ((Config.idle Auth.Otp.unused).schedule guessed).store.compared = [1, 1] ∧
      (∀ row ∈ ((Config.idle unproven).schedule rechecked).store.contactVerifications.rows,
        ((Config.idle unproven).schedule rechecked).store.compared.count row.id ≤ maxAttempts) ∧
      ((Config.idle unproven).schedule rechecked).store.compared = [1, 1] := by
  obtain ⟨codes, contacts⟩ := attempts_limited Auth.Otp.deployment plainText Auth.Otp.unused
    unproven unused_recorded unproven_recorded
  refine ⟨codes _ ?_, by decide +kernel, contacts _ ?_, by decide +kernel⟩
  · exact fitting_schedule _ _ _ guessed (Auth.Otp.submissions_issued _ (by simp [guessed]))
      (by decide +kernel)
  · exact fitting_schedule _ _ _ rechecked (checks_issued _ (by simp [rechecked]))
      (by decide +kernel)

def fourGuesses : List (Move Auth.Otp.Store Auth.Otp.Mark Refusal Auth.Otp.Answer) :=
  Auth.Otp.asked :: List.replicate 5 (.advance 0) ++
    List.replicate 4 (Auth.Otp.submitted "000000") ++
    [.advance 1, .advance 2, .advance 3, .advance 4] ++
    [.advance 1, .advance 2, .advance 3, .advance 4]

def sevenChecks : List (Move ContactStore ContactMark Refusal ContactAnswer) :=
  started :: List.replicate 3 (.advance 0) ++ List.replicate 7 (checked "000123") ++
    ((List.range 7).map (fun n => .advance (n + 1))) ++
    ((List.range 7).map (fun n => .advance (n + 1)))

theorem attempts_unlimited :
    (¬ ∀ config s, Auth.Otp.Recorded s →
      ∀ c, FittingRun (Auth.Otp.Call config) (fun _ _ => True) (.idle s) c →
        ∀ challenge ∈ c.store.otpChallenges.rows,
          (c.store.compared.count challenge.id : Int) ≤ challenge.maxAttempts) ∧
      ¬ ∀ text s, ContactRecorded s →
        ∀ c, FittingRun (ContactCall text) (fun _ _ => True) (.idle s) c →
          ∀ row ∈ c.store.contactVerifications.rows,
            c.store.compared.count row.id ≤ maxAttempts := by
  constructor
  · intro claim
    have run := fitting_schedule (Auth.Otp.Call Auth.Otp.deployment) (fun _ _ => True)
      (.idle Auth.Otp.unused) fourGuesses (Auth.Otp.submissions_issued _ (by
        simp [fourGuesses])) (by decide +kernel)
    have empty := unused_recorded
    have pending : ((Config.idle Auth.Otp.unused).schedule fourGuesses).store.otpChallenges.rows.any
        (fun c => c.maxAttempts < ((Config.idle Auth.Otp.unused).schedule
          fourGuesses).store.compared.count c.id) = true := by decide +kernel
    obtain ⟨challenge, member, more⟩ := List.any_eq_true.mp pending
    have few := claim _ _ empty _ run challenge member
    have many := of_decide_eq_true more
    omega
  · intro claim
    have run := fitting_schedule (ContactCall plainText) (fun _ _ => True) (.idle unproven)
      sevenChecks (checks_issued _ (by simp [sevenChecks])) (by decide +kernel)
    have empty := unproven_recorded
    have pending : ((Config.idle unproven).schedule sevenChecks).store.contactVerifications.rows.any
        (fun row => maxAttempts < ((Config.idle unproven).schedule
          sevenChecks).store.compared.count row.id) = true := by decide +kernel
    obtain ⟨row, member, more⟩ := List.any_eq_true.mp pending
    have few := claim _ _ empty _ run row member
    have many := of_decide_eq_true more
    omega

end ErpBackend.Platform
