import ErpBackend.Foundation.Protocol

/-!
# Requests that stop

A request may stop before any of its steps: what it wrote stays, and what it
had still to write is never written. `stops s m` restricts the stores and the
pending steps at which this happens.
-/

namespace ErpBackend.Foundation

variable {S M ε α : Type}

inductive FailingStep (requests : Prog S M ε α → Prop) (stops : S → M → Prop) :
    Config S M ε α → Config S M ε α → Prop
  | taken (c c' : Config S M ε α) (step : FittingStep requests (fun _ _ => True) c c') :
      FailingStep requests stops c c'
  | stopped (s : S) (before after : List (Prog S M ε α)) (m : M) (write : S → S)
      (next : S → Prog S M ε α) (may : stops s m) :
      FailingStep requests stops ⟨s, before ++ .step m write next :: after⟩ ⟨s, before ++ after⟩

abbrev FailingRun (requests : Prog S M ε α → Prop) (stops : S → M → Prop) :
    Config S M ε α → Config S M ε α → Prop :=
  Relation.ReflTransGen (FailingStep requests stops)

def Config.Quiet (c : Config S M ε α) : Prop := ∀ p ∈ c.inFlight, p.mark? = none

theorem FailingRun.of_fitting {requests : Prog S M ε α → Prop} {stops : S → M → Prop}
    {c c' : Config S M ε α} (run : FittingRun requests (fun _ _ => True) c c') :
    FailingRun requests stops c c' :=
  Relation.ReflTransGen.mono (fun a b step => .taken a b step) _ _ run

theorem FittingRun.of_run {requests : Prog S M ε α → Prop} {c c' : Config S M ε α}
    (run : Run requests anyOrder c c') : FittingRun requests (fun _ _ => True) c c' := by
  refine Relation.ReflTransGen.mono ?_ _ _ run
  intro a b step
  cases step with
  | arrive s inFlight p issued => exact .arrive s inFlight p issued
  | advance s before after m write next _ => exact .advance s before after m write next trivial

def Config.stop (c : Config S M ε α) (index : Nat) : Config S M ε α :=
  ⟨c.store, c.inFlight.eraseIdx index⟩

theorem failing_stop (requests : Prog S M ε α → Prop) (stops : S → M → Prop)
    (c : Config S M ε α) (index : Nat) (m : M)
    (pending : c.inFlight[index]?.bind Prog.mark? = some m) (may : stops c.store m) :
    FailingStep requests stops c (c.stop index) := by
  rcases c with ⟨s, inFlight⟩
  obtain ⟨p, found, first⟩ := Option.bind_eq_some_iff.mp pending
  cases p with
  | done result => cases first
  | step mark write next =>
      cases first
      obtain ⟨inside, value⟩ := List.getElem?_eq_some_iff.mp found
      have split : inFlight.take index ++ .step m write next :: inFlight.drop (index + 1) =
          inFlight := by
        rw [← value, List.getElem_cons_drop, List.take_append_drop]
      have taken : FailingStep requests stops _ _ :=
        .stopped s (inFlight.take index) (inFlight.drop (index + 1)) m write next may
      rw [split, ← List.eraseIdx_eq_take_drop_succ] at taken
      exact taken

namespace Protocol

variable (P : Protocol S M)

theorem Sound.stopped {s : S} {before after : List (Prog S M ε α)} {p : Prog S M ε α}
    (sound : P.Sound ⟨s, before ++ p :: after⟩) : P.Sound ⟨s, before ++ after⟩ := by
  have fewer : List.Sublist (before ++ after) (before ++ p :: after) :=
    List.Sublist.append_left (List.sublist_cons_self p after) before
  refine ⟨sound.inv, ?_, ?_, ?_⟩
  · intro q member
    exact sound.walks q (fewer.subset member)
  · intro q member
    exact sound.known q (fewer.subset member)
  · exact sound.apart.sublist fewer

theorem failing_sound (requests : Prog S M ε α → Prop) (stops : S → M → Prop)
    (c c' : Config S M ε α) (all : ∀ s m, P.fits s m)
    (enters : ∀ p, requests p → ∀ s, P.inv s → P.Enters p s)
    (run : FailingRun requests stops c c') (sound : P.Sound c) : P.Sound c' := by
  induction run with
  | refl => exact sound
  | tail _ last ih =>
      cases last with
      | taken _ _ step =>
          have fit := FittingRun.mono (fun s m (_ : True) => all s m) (.single step)
          exact P.run_sound requests _ _ enters fit ih
      | stopped s before after m write next may => exact ih.stopped P

end Protocol

end ErpBackend.Foundation
