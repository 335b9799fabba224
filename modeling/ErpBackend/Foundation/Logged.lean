import ErpBackend.Foundation.Program

/-!
# Requests with a log

A request that notes what its steps did, beside the store it works on. The log is there for
statements about a run only: the steps see the store alone, and change it as they would without.
-/

namespace ErpBackend.Foundation.Prog

variable {S M ε L α β : Type}

/-- The same steps; each appends the entries it makes of the store before and after. -/
def logged (entries : S → S → List L) : Prog S M ε α → Prog (S × List L) M ε α
  | done result => done result
  | step mark write next =>
      step mark (fun t => (write t.1, t.2 ++ entries t.1 (write t.1)))
        (fun t => (next t.1).logged entries)

variable (entries : S → S → List L)

@[simp]
theorem logged_done (result : Except ε α) :
    (done result : Prog S M ε α).logged entries = done result := rfl

@[simp]
theorem logged_step (mark : M) (write : S → S) (next : S → Prog S M ε α) :
    (step mark write next).logged entries =
      step mark (fun t => (write t.1, t.2 ++ entries t.1 (write t.1)))
        (fun t => (next t.1).logged entries) := rfl

end ErpBackend.Foundation.Prog
