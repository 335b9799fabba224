import ErpBackend.Replays.Rendering
import ErpBackend.Trimming
import ErpBackend.Loans.Service
import ErpBackend.Returns.Refunds
import ErpBackend.Corrections.Service
import ErpBackend.Expenses.Service

/-!
# The same text, the same report?

A repeated request is recognised by the text its fingerprint is taken of. The free texts in it
are joined by a separator they may contain themselves, and some fields of the row are not in the
text at all.
-/

namespace ErpBackend.Replays

open Foundation

theorem joined_fields (sep first next : String) (rest : List String) (c : Char)
    (single : sep = String.singleton c) :
    (String.intercalate sep (first :: next :: rest)).toList =
      first.toList ++ c :: (String.intercalate sep (next :: rest)).toList := by
  subst single
  simp [String.toList_intercalate]

theorem fields_iff (sep : String) (c : Char) (first first' next next' : String)
    (rest rest' : List String) (single : sep = String.singleton c) (free : c ∉ first.toList)
    (free' : c ∉ first'.toList) :
    String.intercalate sep (first :: next :: rest) =
        String.intercalate sep (first' :: next' :: rest') ↔
      first = first' ∧
        String.intercalate sep (next :: rest) = String.intercalate sep (next' :: rest') := by
  rw [← String.toList_inj, joined_fields _ _ _ _ c single, joined_fields _ _ _ _ c single,
    joined_free c _ _ _ _ free free', String.toList_inj, String.toList_inj]

theorem texts_iff (sep : String) (c : Char) (first first' next next' : String)
    (rest rest' : List String) (single : sep = String.singleton c) :
    String.intercalate sep (first :: next :: rest) =
        String.intercalate sep (first' :: next' :: rest') ↔
      first = first' ∧
          String.intercalate sep (next :: rest) = String.intercalate sep (next' :: rest') ∨
        Shifted c first.toList (String.intercalate sep (next :: rest)).toList
          first'.toList (String.intercalate sep (next' :: rest')).toList := by
  rw [← String.toList_inj, joined_fields _ _ _ _ c single, joined_fields _ _ _ _ c single,
    joined_iff]
  simp only [String.toList_inj]

theorem plain_free (text : String) (plainly : ∀ c ∈ text.toList, plain c = true) (sep : Char)
    (separates : sep = '|' ∨ sep = ' ') : sep ∉ text.toList := by
  intro member
  have other := plain_bar sep (plainly sep member)
  rcases separates with same | same
  · exact other.1 same
  · exact other.2.1 same

def accountText (account : Option Id) : String := (account.map toString).getD ""

theorem method_free (method : Method) (sep : Char) (separates : sep = '|' ∨ sep = ' ') :
    sep ∉ method.text.toList := by
  rcases separates with rfl | rfl <;> cases method <;> decide

theorem method_text (a b : Method) : a.text = b.text ↔ a = b := by
  cases a <;> cases b <;> decide

theorem id_free (id : Nat) (sep : Char) (separates : sep = '|' ∨ sep = ' ') :
    sep ∉ (toString id).toList :=
  plain_free _ (plain_toString id) sep separates

theorem id_text (a b : Nat) : toString a = toString b ↔ a = b :=
  ⟨toString_injective a b, congrArg toString⟩

theorem cents_text (a b : Int) (first : 0 ≤ a) (second : 0 ≤ b) :
    toString a = toString b ↔ a = b := by
  obtain ⟨m, rfl⟩ := Int.eq_ofNat_of_zero_le first
  obtain ⟨n, rfl⟩ := Int.eq_ofNat_of_zero_le second
  exact (id_text m n).trans Int.ofNat_inj.symm

theorem cents_free (a : Int) (nonneg : 0 ≤ a) (sep : Char) (separates : sep = '|' ∨ sep = ' ') :
    sep ∉ (toString a).toList := by
  obtain ⟨n, rfl⟩ := Int.eq_ofNat_of_zero_le nonneg
  exact id_free n sep separates

theorem accountText_plain (account : Option Id) (c : Char)
    (member : c ∈ (accountText account).toList) : plain c = true := by
  cases account with
  | none => simp [accountText] at member
  | some id => exact plain_toString id c member

theorem accountText_injective (a b : Option Id) (same : accountText a = accountText b) : a = b := by
  have filled : ∀ id : Nat, (toString id) ≠ "" := by
    intro id empty
    exact toString_filled id (congrArg String.toList empty)
  cases a with
  | none =>
    cases b with
    | none => rfl
    | some id => exact absurd same.symm (filled id)
  | some id =>
    cases b with
    | none => exact absurd same (filled id)
    | some other => exact congrArg some (toString_injective _ _ same)

theorem accountText_same (a b : Option Id) : accountText a = accountText b ↔ a = b :=
  ⟨accountText_injective a b, congrArg accountText⟩

/-- What the server looks up for a request, and what it adds to the row. -/
structure Desk where
  ctx : Ctx
  fresh : Id
  branchId : Id
  clientUuid : Id
  loanOf : Id → Loan
  reversalOf : Id → ReturnReversal
  accountOf : Id → Option ReceivingAccount
  targetOf : CorrectionKind → Id → Corrections.Target

def Desk.labelOf (desk : Desk) (account : Option Id) : Option String :=
  (account.bind desk.accountOf).map ReceivingAccount.label

structure PaymentReport where
  loanId : Id
  dto : Loans.LoanPaymentDto

namespace PaymentReport

def cents (report : PaymentReport) : Int := (report.dto.amount.map Amount.cents).getD 0

def text (report : PaymentReport) : String :=
  Loans.fingerprintPayment report.loanId report.cents (report.dto.method.getD .cash)
    report.dto.receivingAccountId report.dto.reference report.dto.evidenceRef

/-- The row `reportPayment` appends. -/
def row (desk : Desk) (report : PaymentReport) : LoanLedgerEntry :=
  { Loans.entryFor desk.ctx desk.fresh (desk.loanOf report.loanId) .paymentReported
      report.cents with
    method := report.dto.method
    receivingAccountId := report.dto.receivingAccountId
    accountLabelSnapshot := desk.labelOf report.dto.receivingAccountId
    reference := trimOrNull report.dto.reference
    evidenceRef := trimOrNull report.dto.evidenceRef
    note := trimOrNull report.dto.note
    clientUuid := some desk.clientUuid
    clientRequestHash := some report.text }

def reference (report : PaymentReport) : String := trim (report.dto.reference.getD "")

def evidence (report : PaymentReport) : String := trim (report.dto.evidenceRef.getD "")

def fixed (report : PaymentReport) : Id × Int × Method × Option Id :=
  (report.loanId, report.cents, report.dto.method.getD .cash, report.dto.receivingAccountId)

theorem cents_nonneg (report : PaymentReport) : 0 ≤ report.cents := by
  unfold cents
  cases report.dto.amount with
  | none => simp
  | some amount => simpa using amount.positive.le

theorem text_fields (report : PaymentReport) :
    report.text = String.intercalate "|"
      [toString report.loanId, renderFixed report.cents, (report.dto.method.getD .cash).text,
        accountText report.dto.receivingAccountId, report.reference, report.evidence] := rfl

theorem text_iff (a b : PaymentReport) :
    a.text = b.text ↔ a.fixed = b.fixed ∧
      (a.reference = b.reference ∧ a.evidence = b.evidence ∨
        Shifted '|' a.reference.toList a.evidence.toList b.reference.toList b.evidence.toList) := by
  rw [text_fields, text_fields,
    fields_iff "|" '|' _ _ _ _ _ _ rfl (id_free _ _ (.inl rfl)) (id_free _ _ (.inl rfl)),
    fields_iff "|" '|' _ _ _ _ _ _ rfl
      (plain_free _ (plain_fixed _ a.cents_nonneg) _ (.inl rfl))
      (plain_free _ (plain_fixed _ b.cents_nonneg) _ (.inl rfl)),
    fields_iff "|" '|' _ _ _ _ _ _ rfl (method_free _ _ (.inl rfl)) (method_free _ _ (.inl rfl)),
    fields_iff "|" '|' _ _ _ _ _ _ rfl
      (plain_free _ (accountText_plain a.dto.receivingAccountId) _ (.inl rfl))
      (plain_free _ (accountText_plain b.dto.receivingAccountId) _ (.inl rfl)),
    texts_iff "|" '|' _ _ _ _ _ _ rfl, id_text, renderFixed_same _ _ a.cents_nonneg b.cents_nonneg,
    method_text, accountText_same]
  simp only [fixed, Prod.mk.injEq, String.intercalate_singleton, and_assoc]

/-- The free texts keep to their fields, and what the text leaves out is the same. -/
def ToldApart (a b : PaymentReport) : Prop :=
  a.fixed = b.fixed →
    ¬ Shifted '|' a.reference.toList a.evidence.toList b.reference.toList b.evidence.toList ∧
      (a.reference = b.reference → a.evidence = b.evidence →
        trim (a.dto.note.getD "") = trim (b.dto.note.getD "") ∧ a.dto.method = b.dto.method)

theorem row_iff (desk : Desk) (a b : PaymentReport) (same : a.text = b.text) :
    a.row desk = b.row desk ↔ a.reference = b.reference ∧ a.evidence = b.evidence ∧
      trim (a.dto.note.getD "") = trim (b.dto.note.getD "") ∧ a.dto.method = b.dto.method := by
  have agree := ((text_iff a b).mp same).1
  simp only [fixed, Prod.mk.injEq] at agree
  obtain ⟨loan, cents, -, account⟩ := agree
  constructor
  · intro equal
    exact ⟨(trimOrNull_eq _ _).mp (congrArg LoanLedgerEntry.reference equal),
      (trimOrNull_eq _ _).mp (congrArg LoanLedgerEntry.evidenceRef equal),
      (trimOrNull_eq _ _).mp (congrArg LoanLedgerEntry.note equal),
      congrArg LoanLedgerEntry.method equal⟩
  · rintro ⟨reference, evidence, note, method⟩
    simp only [row, loan, cents, account, method, same, (trimOrNull_eq _ _).mpr reference,
      (trimOrNull_eq _ _).mpr evidence, (trimOrNull_eq _ _).mpr note]

theorem same_row_iff (desk : Desk) (a b : PaymentReport) :
    (a.text = b.text → a.row desk = b.row desk) ↔ ToldApart a b := by
  constructor
  · intro told agree
    refine ⟨fun shifted => ?_, fun reference evidence => ?_⟩
    · have same := (text_iff a b).mpr ⟨agree, .inr shifted⟩
      have reference := ((row_iff desk a b same).mp (told same)).1
      exact shifted.ne (congrArg String.toList reference)
    · have same := (text_iff a b).mpr ⟨agree, .inl ⟨reference, evidence⟩⟩
      exact ((row_iff desk a b same).mp (told same)).2.2
  · intro apart same
    obtain ⟨agree, ⟨reference, evidence⟩ | shifted⟩ := (text_iff a b).mp same
    · obtain ⟨note, method⟩ := (apart agree).2 reference evidence
      exact (row_iff desk a b same).mpr ⟨reference, evidence, note, method⟩
    · exact absurd shifted (apart agree).1

end PaymentReport

structure PayoutReport where
  returnId : Id
  dto : Returns.ReportRefundDto

namespace PayoutReport

def cents (report : PayoutReport) : Int := report.dto.reportedAmount.cents

def text (report : PayoutReport) : String :=
  Returns.fingerprintPayout report.returnId report.dto.method report.dto.receivingAccountId
    report.cents report.dto.transactionReference report.dto.note

def row (desk : Desk) (report : PayoutReport) : RefundPayout :=
  Returns.newPayout desk.ctx desk.branchId desk.fresh report.returnId
    (desk.reversalOf report.returnId) { report.dto with clientUuid := desk.clientUuid }
    (report.dto.receivingAccountId.bind desk.accountOf) report.text

def reference (report : PayoutReport) : String := trim (report.dto.transactionReference.getD "")

def note (report : PayoutReport) : String := trim (report.dto.note.getD "")

def fixed (report : PayoutReport) : Id × Method × Option Id × Int :=
  (report.returnId, report.dto.method, report.dto.receivingAccountId, report.cents)

theorem text_fields (report : PayoutReport) :
    report.text = String.intercalate " "
      [toString report.returnId, report.dto.method.text,
        accountText report.dto.receivingAccountId, toString report.cents, report.reference,
        report.note] := rfl

theorem text_iff (a b : PayoutReport) :
    a.text = b.text ↔ a.fixed = b.fixed ∧
      (a.reference = b.reference ∧ a.note = b.note ∨
        Shifted ' ' a.reference.toList a.note.toList b.reference.toList b.note.toList) := by
  rw [text_fields, text_fields,
    fields_iff " " ' ' _ _ _ _ _ _ rfl (id_free _ _ (.inr rfl)) (id_free _ _ (.inr rfl)),
    fields_iff " " ' ' _ _ _ _ _ _ rfl (method_free _ _ (.inr rfl)) (method_free _ _ (.inr rfl)),
    fields_iff " " ' ' _ _ _ _ _ _ rfl
      (plain_free _ (accountText_plain a.dto.receivingAccountId) _ (.inr rfl))
      (plain_free _ (accountText_plain b.dto.receivingAccountId) _ (.inr rfl)),
    fields_iff " " ' ' _ _ _ _ _ _ rfl
      (cents_free a.cents a.dto.reportedAmount.nonneg _ (.inr rfl))
      (cents_free b.cents b.dto.reportedAmount.nonneg _ (.inr rfl)),
    texts_iff " " ' ' _ _ _ _ _ _ rfl, id_text, method_text, accountText_same,
    cents_text a.cents b.cents a.dto.reportedAmount.nonneg b.dto.reportedAmount.nonneg]
  simp only [fixed, Prod.mk.injEq, String.intercalate_singleton, and_assoc]

def ToldApart (a b : PayoutReport) : Prop :=
  a.fixed = b.fixed →
    ¬ Shifted ' ' a.reference.toList a.note.toList b.reference.toList b.note.toList

theorem row_iff (desk : Desk) (a b : PayoutReport) (same : a.text = b.text) :
    a.row desk = b.row desk ↔ a.reference = b.reference ∧ a.note = b.note := by
  have agree := ((text_iff a b).mp same).1
  simp only [fixed, Prod.mk.injEq, cents] at agree
  obtain ⟨returnId, method, account, cents⟩ := agree
  constructor
  · intro equal
    exact ⟨(trimOrNull_eq _ _).mp (congrArg RefundPayout.transactionReference equal),
      (trimOrNull_eq _ _).mp (congrArg RefundPayout.note equal)⟩
  · rintro ⟨reference, note⟩
    simp only [row, Returns.newPayout, returnId, method, account, cents, same,
      (trimOrNull_eq _ _).mpr reference, (trimOrNull_eq _ _).mpr note]

theorem same_row_iff (desk : Desk) (a b : PayoutReport) :
    (a.text = b.text → a.row desk = b.row desk) ↔ ToldApart a b := by
  constructor
  · intro told agree shifted
    have same := (text_iff a b).mpr ⟨agree, .inr shifted⟩
    have reference := ((row_iff desk a b same).mp (told same)).1
    exact shifted.ne (congrArg String.toList reference)
  · intro apart same
    obtain ⟨agree, texts | shifted⟩ := (text_iff a b).mp same
    · exact (row_iff desk a b same).mpr texts
    · exact absurd shifted (apart agree)

end PayoutReport

/-- What `request` takes the fingerprint of, once the reason is given. -/
def correctionText (dto : Corrections.RequestCorrectionDto) : String :=
  Corrections.fingerprintCorrection dto.targetKind dto.targetId (trim dto.reason)
    dto.supportingReference

def correctionRow (desk : Desk) (dto : Corrections.RequestCorrectionDto) : FinancialCorrection :=
  Corrections.newCorrection desk.ctx desk.fresh { dto with clientUuid := desk.clientUuid }
    (desk.targetOf dto.targetKind dto.targetId) (trim dto.reason) (correctionText dto)

section Corrections

variable (a b : Corrections.RequestCorrectionDto)

def supportText (dto : Corrections.RequestCorrectionDto) : String :=
  trim (dto.supportingReference.getD "")

theorem correctionText_fields (dto : Corrections.RequestCorrectionDto) :
    correctionText dto = String.intercalate "|"
      [Corrections.kindText dto.targetKind, toString dto.targetId, trim dto.reason,
        supportText dto] := by
  unfold correctionText Corrections.fingerprintCorrection
  rw [trim_trim]
  rfl

theorem kind_free (kind : CorrectionKind) : '|' ∉ (Corrections.kindText kind).toList := by
  cases kind <;> decide

theorem kind_text (first second : CorrectionKind) :
    Corrections.kindText first = Corrections.kindText second ↔ first = second := by
  cases first <;> cases second <;> decide

theorem correctionText_iff :
    correctionText a = correctionText b ↔
      (a.targetKind = b.targetKind ∧ a.targetId = b.targetId) ∧
        (trim a.reason = trim b.reason ∧ supportText a = supportText b ∨
          Shifted '|' (trim a.reason).toList (supportText a).toList
            (trim b.reason).toList (supportText b).toList) := by
  rw [correctionText_fields, correctionText_fields,
    fields_iff "|" '|' _ _ _ _ _ _ rfl (kind_free _) (kind_free _),
    fields_iff "|" '|' _ _ _ _ _ _ rfl (id_free _ _ (.inl rfl)) (id_free _ _ (.inl rfl)),
    texts_iff "|" '|' _ _ _ _ _ _ rfl, id_text, kind_text]
  simp only [String.intercalate_singleton, and_assoc]

def CorrectionsApart : Prop :=
  a.targetKind = b.targetKind → a.targetId = b.targetId →
    ¬ Shifted '|' (trim a.reason).toList (supportText a).toList
      (trim b.reason).toList (supportText b).toList

theorem correctionRow_iff (desk : Desk) (same : correctionText a = correctionText b) :
    correctionRow desk a = correctionRow desk b ↔
      trim a.reason = trim b.reason ∧ supportText a = supportText b := by
  obtain ⟨kind, target⟩ := ((correctionText_iff a b).mp same).1
  constructor
  · intro equal
    exact ⟨congrArg FinancialCorrection.reason equal,
      (trimOrNull_eq _ _).mp (congrArg FinancialCorrection.supportingReference equal)⟩
  · rintro ⟨reason, support⟩
    simp only [correctionRow, Corrections.newCorrection, kind, target, reason, same,
      (trimOrNull_eq _ _).mpr support]

theorem same_correction_iff (desk : Desk) :
    (correctionText a = correctionText b → correctionRow desk a = correctionRow desk b) ↔
      CorrectionsApart a b := by
  constructor
  · intro told kind target shifted
    have same := (correctionText_iff a b).mpr ⟨⟨kind, target⟩, .inr shifted⟩
    have reason := ((correctionRow_iff a b desk same).mp (told same)).1
    exact shifted.ne (congrArg String.toList reason)
  · intro apart same
    obtain ⟨⟨kind, target⟩, texts | shifted⟩ := (correctionText_iff a b).mp same
    · exact (correctionRow_iff a b desk same).mpr texts
    · exact absurd shifted (apart kind target)

end Corrections

def expenseRow (desk : Desk) (dto : Expenses.CreateExpenseDto) : Expense :=
  Expenses.newExpense desk.ctx desk.branchId desk.fresh
    { dto with clientUuid := some desk.clientUuid } (desk.labelOf dto.receivingAccountId)
    (Expenses.createFingerprint dto)

section Expenses

variable (a b : Expenses.CreateExpenseDto)

def noteText (dto : Expenses.CreateExpenseDto) : String := trim (dto.note.getD "")

def dueText (due : Option Day) : String := (due.map renderDay).getD ""

def afterCategory (dto : Expenses.CreateExpenseDto) : String :=
  String.intercalate "|"
    [renderFixed dto.amount.cents, Expenses.methodText (dto.method.getD .cash),
      accountText dto.receivingAccountId,
      Expenses.classText (dto.expenseClass.getD ExpenseClass.variable), dueText dto.dueDate,
      noteText dto]

theorem createFingerprint_fields (dto : Expenses.CreateExpenseDto) :
    Expenses.createFingerprint dto = String.intercalate "|"
      [trim dto.category, renderFixed dto.amount.cents,
        Expenses.methodText (dto.method.getD .cash), accountText dto.receivingAccountId,
        Expenses.classText (dto.expenseClass.getD ExpenseClass.variable), dueText dto.dueDate,
        noteText dto] := rfl

theorem methodText_free (method : Method) : '|' ∉ (Expenses.methodText method).toList := by
  cases method <;> decide

theorem methodText_same (first second : Method) :
    Expenses.methodText first = Expenses.methodText second ↔ first = second := by
  cases first <;> cases second <;> decide

theorem classText_free (cls : ExpenseClass) : '|' ∉ (Expenses.classText cls).toList := by
  cases cls <;> decide

theorem classText_same (first second : ExpenseClass) :
    Expenses.classText first = Expenses.classText second ↔ first = second := by
  cases first <;> cases second <;> decide

theorem dueText_plain (due : Option Day) (c : Char) (member : c ∈ (dueText due).toList) :
    plain c = true := by
  cases due with
  | none => simp [dueText] at member
  | some day => exact plain_renderDay day c member

theorem renderDay_ne (day : Nat) : renderDay day ≠ "" := by
  intro empty
  have shown := renderDay_toList day
  rw [empty] at shown
  simp at shown

theorem dueText_same (first second : Option Day) :
    dueText first = dueText second ↔ first = second := by
  constructor
  · intro same
    cases first with
    | none =>
      cases second with
      | none => rfl
      | some day => exact absurd same.symm (renderDay_ne day)
    | some day =>
      cases second with
      | none => exact absurd same (renderDay_ne day)
      | some other => exact congrArg some (renderDay_injective day other same)
  · rintro rfl
    rfl

theorem afterCategory_iff :
    afterCategory a = afterCategory b ↔
      a.amount.cents = b.amount.cents ∧ a.method.getD .cash = b.method.getD .cash ∧
        a.receivingAccountId = b.receivingAccountId ∧
        a.expenseClass.getD ExpenseClass.variable = b.expenseClass.getD ExpenseClass.variable ∧
        a.dueDate = b.dueDate ∧ noteText a = noteText b := by
  have cents : ∀ dto : Expenses.CreateExpenseDto, 0 ≤ dto.amount.cents :=
    fun dto => dto.amount.positive.le
  rw [afterCategory, afterCategory,
    fields_iff "|" '|' _ _ _ _ _ _ rfl (plain_free _ (plain_fixed _ (cents a)) _ (.inl rfl))
      (plain_free _ (plain_fixed _ (cents b)) _ (.inl rfl)),
    fields_iff "|" '|' _ _ _ _ _ _ rfl (methodText_free _) (methodText_free _),
    fields_iff "|" '|' _ _ _ _ _ _ rfl
      (plain_free _ (accountText_plain a.receivingAccountId) _ (.inl rfl))
      (plain_free _ (accountText_plain b.receivingAccountId) _ (.inl rfl)),
    fields_iff "|" '|' _ _ _ _ _ _ rfl (classText_free _) (classText_free _),
    fields_iff "|" '|' _ _ _ _ _ _ rfl (plain_free _ (dueText_plain a.dueDate) _ (.inl rfl))
      (plain_free _ (dueText_plain b.dueDate) _ (.inl rfl)),
    String.intercalate_singleton, String.intercalate_singleton,
    renderFixed_same _ _ (cents a) (cents b), methodText_same, accountText_same, classText_same,
    dueText_same]

theorem createFingerprint_iff :
    Expenses.createFingerprint a = Expenses.createFingerprint b ↔
      trim a.category = trim b.category ∧ afterCategory a = afterCategory b ∨
        Shifted '|' (trim a.category).toList (afterCategory a).toList
          (trim b.category).toList (afterCategory b).toList := by
  rw [createFingerprint_fields, createFingerprint_fields,
    texts_iff "|" '|' _ _ _ _ _ _ rfl]
  rfl

def unwritten (desk : Desk) (dto : Expenses.CreateExpenseDto) : String × Bool × Day :=
  (trim (dto.reference.getD ""), dto.isSalary.getD false, dto.spentOn.getD desk.ctx.today)

/-- The category keeps to its field, and what the text leaves out is the same. -/
def ExpensesApart (desk : Desk) : Prop :=
  ¬ Shifted '|' (trim a.category).toList (afterCategory a).toList
      (trim b.category).toList (afterCategory b).toList ∧
    (trim a.category = trim b.category → afterCategory a = afterCategory b →
      unwritten desk a = unwritten desk b)

theorem expenseRow_iff (desk : Desk)
    (same : Expenses.createFingerprint a = Expenses.createFingerprint b) :
    expenseRow desk a = expenseRow desk b ↔ trim a.category = trim b.category ∧
      afterCategory a = afterCategory b ∧ unwritten desk a = unwritten desk b := by
  constructor
  · intro equal
    have category : trim a.category = trim b.category := congrArg Expense.category equal
    have rest : afterCategory a = afterCategory b := (afterCategory_iff a b).mpr
      ⟨congrArg Expense.amount equal, congrArg Expense.method equal,
        congrArg Expense.receivingAccountId equal, congrArg Expense.expenseClass equal,
        congrArg Expense.dueDate equal, (trimOrNull_eq _ _).mp (congrArg Expense.note equal)⟩
    refine ⟨category, rest, ?_⟩
    rw [unwritten, unwritten, (trimOrNull_eq _ _).mp (congrArg Expense.reference equal)]
    exact congrArg₂ (fun isSalary spentOn => (_, isSalary, spentOn))
      (congrArg Expense.isSalary equal) (congrArg Expense.spentOn equal)
  · rintro ⟨category, rest, left⟩
    obtain ⟨cents, method, account, cls, due, note⟩ := (afterCategory_iff a b).mp rest
    simp only [unwritten, Prod.mk.injEq] at left
    obtain ⟨reference, isSalary, spentOn⟩ := left
    simp only [expenseRow, Expenses.newExpense, category, cents, method, account, cls, due, same,
      isSalary, spentOn, (trimOrNull_eq _ _).mpr note, (trimOrNull_eq _ _).mpr reference]

theorem same_expense_iff (desk : Desk) :
    (Expenses.createFingerprint a = Expenses.createFingerprint b →
      expenseRow desk a = expenseRow desk b) ↔ ExpensesApart a b desk := by
  constructor
  · intro told
    refine ⟨fun shifted => ?_, fun category rest => ?_⟩
    · have same := (createFingerprint_iff a b).mpr (.inr shifted)
      have category := ((expenseRow_iff a b desk same).mp (told same)).1
      exact shifted.ne (congrArg String.toList category)
    · have same := (createFingerprint_iff a b).mpr (.inl ⟨category, rest⟩)
      exact ((expenseRow_iff a b desk same).mp (told same)).2.2
  · intro apart same
    rcases (createFingerprint_iff a b).mp same with ⟨category, rest⟩ | shifted
    · exact (expenseRow_iff a b desk same).mpr ⟨category, rest, apart.2 category rest⟩
    · exact absurd shifted apart.1

end Expenses

structure OneReport (desk : Desk) : Prop where
  payments : ∀ a b : PaymentReport,
    (a.text = b.text → a.row desk = b.row desk) ↔ a.ToldApart b
  payouts : ∀ a b : PayoutReport,
    (a.text = b.text → a.row desk = b.row desk) ↔ a.ToldApart b
  corrections : ∀ a b : Corrections.RequestCorrectionDto,
    (correctionText a = correctionText b → correctionRow desk a = correctionRow desk b) ↔
      CorrectionsApart a b
  expenses : ∀ a b : Expenses.CreateExpenseDto,
    (Expenses.createFingerprint a = Expenses.createFingerprint b →
      expenseRow desk a = expenseRow desk b) ↔ ExpensesApart a b desk

theorem one_text_one_report (desk : Desk) : OneReport desk where
  payments := PaymentReport.same_row_iff desk
  payouts := PayoutReport.same_row_iff desk
  corrections := fun a b => same_correction_iff a b desk
  expenses := fun a b => same_expense_iff a b desk

def payment (note : String) : PaymentReport where
  loanId := 1
  dto := { action := .report, amount := some 5000, note := some note }

def payout (reference note : String) : PayoutReport where
  returnId := 1
  dto := { reportedAmount := 5000, method := .cash
           transactionReference := some reference, note := some note, clientUuid := 1 }

def correction (reason reference : String) : Corrections.RequestCorrectionDto where
  targetKind := .refundPayout
  targetId := 1
  reason := reason
  supportingReference := some reference
  clientUuid := 1

def expense (reference : String) : Expenses.CreateExpenseDto where
  category := "rent"
  amount := 5000
  reference := some reference

/-- Two payments but for their notes, two expenses but for their references; a payout and a
correction whose first free text takes a piece of the second. -/
theorem one_text_two_reports :
    ((payment "first half").text = (payment "second half").text ∧
      ∀ desk, (payment "first half").row desk ≠ (payment "second half").row desk) ∧
    ((payout "MP 7" "counter").text = (payout "MP" "7 counter").text ∧
      ∀ desk, (payout "MP 7" "counter").row desk ≠ (payout "MP" "7 counter").row desk) ∧
    (correctionText (correction "wrong|twice" "A1") =
        correctionText (correction "wrong" "twice|A1") ∧
      ∀ desk, correctionRow desk (correction "wrong|twice" "A1") ≠
        correctionRow desk (correction "wrong" "twice|A1")) ∧
    (Expenses.createFingerprint (expense "R1") = Expenses.createFingerprint (expense "R2") ∧
      ∀ desk, expenseRow desk (expense "R1") ≠ expenseRow desk (expense "R2")) := by
  refine ⟨⟨by decide +kernel, fun desk same => ?_⟩, ⟨by decide +kernel, fun desk same => ?_⟩,
    ⟨by decide +kernel, fun desk same => ?_⟩, ⟨by decide +kernel, fun desk same => ?_⟩⟩
  · have note : trimOrNull (some "first half") = trimOrNull (some "second half") :=
      congrArg LoanLedgerEntry.note same
    exact absurd note (by decide +kernel)
  · have note : trimOrNull (some "counter") = trimOrNull (some "7 counter") :=
      congrArg RefundPayout.note same
    exact absurd note (by decide +kernel)
  · have reason : trim "wrong|twice" = trim "wrong" := congrArg FinancialCorrection.reason same
    exact absurd reason (by decide +kernel)
  · have reference : trimOrNull (some "R1") = trimOrNull (some "R2") :=
      congrArg Expense.reference same
    exact absurd reference (by decide +kernel)

end ErpBackend.Replays
