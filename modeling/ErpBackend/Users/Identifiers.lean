import ErpBackend.Trimming
import ErpBackend.Users.Contacts

/-!
# What is typed into the sign-in field

An email address or a phone number, classified without asking. A contact is enrolled
through one set of normalisers and typed at sign-in through another; they meet on every
spelling of a number but the one with the `00` prefix.
-/

namespace ErpBackend.Users

def idAlphabet : List Char := "23456789ABCDEFGHJKMNPQRSTVWXYZ".toList

def idPrefix : List Char := ['U', '-']

def idLength : Nat := 10

/-- `\s`, `-`, `(`, `)`, `.`, `+` and digits: what a number is dialled and printed with. -/
def dialling (c : Char) : Bool := jsSpace c || c.isDigit || ['-', '(', ')', '.', '+'].contains c

/-- `toLowerCase` and `toUpperCase`. Neither touches a character without a case, and no
letter becomes a blank, an `@` or a `.`. -/
structure Casing where
  lowerCase : List Char → List Char
  upperCase : List Char → List Char
  upper_dialling : ∀ text, text.all dialling = true → upperCase text = text
  lower_shape : ∀ text, emailShape (lowerCase text) = emailShape text

def isPersonalId (casing : Casing) (raw : List Char) : Bool :=
  let value := casing.upperCase (trimChars raw)
  value.length = idLength ∧ idPrefix <+: value ∧
    (value.drop idPrefix.length).all (fun c => idAlphabet.contains c)

def normalisePersonalId (casing : Casing) (raw : List Char) : String :=
  String.ofList (casing.upperCase (trimChars raw))

def isEmail (raw : String) : Bool :=
  let value := trimChars raw.toList
  value.length ≤ 160 ∧ emailShape value

inductive IdentifierKind where
  | email
  | phone
  | personalId
  | unrecognised
  deriving DecidableEq, Repr

structure ClassifiedIdentifier where
  kind : IdentifierKind
  value : Option String
  deriving DecidableEq, Repr

def classifyIdentifier (casing : Casing) (raw : String) : ClassifiedIdentifier :=
  let trimmed := trim raw
  if trimmed.toList = [] then ⟨.unrecognised, none⟩
  else if '@' ∈ trimmed.toList then
    if isEmail trimmed then ⟨.email, some (normaliseEmail casing.lowerCase trimmed)⟩
    else ⟨.unrecognised, none⟩
  else if isPersonalId casing trimmed.toList then
    ⟨.personalId, some (normalisePersonalId casing trimmed.toList)⟩
  else match normalisePhone trimmed with
    | some phone => ⟨.phone, some phone⟩
    | none => ⟨.unrecognised, none⟩

def canonicalEmail (casing : Casing) (data : Option String) : Option String :=
  if present data then data.map (normaliseEmail casing.lowerCase) else none

def canonicalPhone (data : Option String) : Option String :=
  if present data then data.bind normalisePhone else none

/-- What `createUser` stores of the two contacts. -/
def createUserContacts (casing : Casing) (dataEmail dataPhone : Option String) :
    Except Refusal (Option String × Option String) :=
  let email := canonicalEmail casing dataEmail
  let phone := canonicalPhone dataPhone
  if ¬present email ∧ ¬present phone then
    .error (.badRequest ("A new user needs an email address or a WhatsApp number — " ++
      "it is how they sign in."))
  else if present dataEmail ∧ ¬present email then
    .error (.badRequest "That does not look like an email address")
  else if present dataPhone ∧ ¬present phone then
    .error (.badRequest "That does not look like a WhatsApp number")
  else .ok (email, phone)

inductive Enrolment where
  | createUser
  | update
  deriving DecidableEq, Repr

def StoresPhone (casing : Casing) : Enrolment → String → String → Prop
  | .createUser, raw, stored =>
      ∃ dataEmail email, createUserContacts casing dataEmail (some raw) = .ok (email, some stored)
  | .update, raw, stored => resolvePhone raw = .ok (some stored)

def StoresEmail (casing : Casing) : Enrolment → String → String → Prop
  | .createUser, raw, stored =>
      ∃ dataPhone phone, createUserContacts casing (some raw) dataPhone = .ok (some stored, phone)
  | .update, raw, stored => resolveEmail casing.lowerCase raw = .ok (some stored)

theorem createUserContacts_ok (casing : Casing) (dataEmail dataPhone email phone : Option String)
    (accepted : createUserContacts casing dataEmail dataPhone = .ok (email, phone)) :
    email = canonicalEmail casing dataEmail ∧ phone = canonicalPhone dataPhone := by
  unfold createUserContacts at accepted
  dsimp only at accepted
  split_ifs at accepted
  obtain ⟨rfl, rfl⟩ := Prod.mk.inj (Except.ok.inj accepted)
  exact ⟨rfl, rfl⟩

variable {casing : Casing}

theorem StoresPhone.normalised {via : Enrolment} {raw stored : String}
    (stores : StoresPhone casing via raw stored) :
    normalisePhone raw = some stored ∨
      via = .update ∧ normalisePhone raw = none ∧ toE164 raw = some stored := by
  cases via with
  | createUser =>
      obtain ⟨dataEmail, email, accepted⟩ := stores
      obtain ⟨-, phone⟩ := createUserContacts_ok _ _ _ _ _ accepted
      unfold canonicalPhone at phone
      split at phone
      · exact .inl phone.symm
      · cases phone
  | update =>
      change resolvePhone raw = .ok (some stored) at stores
      unfold resolvePhone at stores
      split at stores
      · cases stores
      · cases normal : normalisePhone raw with
        | some canonical =>
            rw [normal] at stores
            cases stores
            exact .inl rfl
        | none =>
            rw [normal] at stores
            cases fallback : toE164 raw with
            | some canonical =>
                rw [fallback] at stores
                cases stores
                exact .inr ⟨rfl, rfl, rfl⟩
            | none =>
                rw [fallback] at stores
                cases stores

theorem StoresEmail.normalised {via : Enrolment} {raw stored : String}
    (stores : StoresEmail casing via raw stored) :
    normaliseEmail casing.lowerCase raw = stored ∧ (via = .update → isValidEmail raw = true) := by
  cases via with
  | createUser =>
      obtain ⟨dataPhone, phone, accepted⟩ := stores
      obtain ⟨email, -⟩ := createUserContacts_ok _ _ _ _ _ accepted
      unfold canonicalEmail at email
      split at email
      · exact ⟨(Option.some.inj email).symm, fun update => by cases update⟩
      · cases email
  | update =>
      change resolveEmail casing.lowerCase raw = .ok (some stored) at stores
      unfold resolveEmail at stores
      split at stores
      · cases stores
      · split at stores
        · next valid =>
          cases stores
          exact ⟨rfl, fun _ => valid⟩
        · cases stores

variable (text : List Char)

theorem stripPunctuation_trim :
    stripPunctuation (trimChars text) = stripPunctuation text := by
  have front : ∀ l : List Char, stripPunctuation (l.dropWhile jsSpace) = stripPunctuation l := by
    intro l
    induction l with
    | nil => rfl
    | cons head rest ih =>
        cases blank : jsSpace head with
        | true => simpa [stripPunctuation, blank] using ih
        | false => simp [blank]
  have back : ∀ l : List Char, stripPunctuation l.reverse = (stripPunctuation l).reverse := by
    intro l
    simp [stripPunctuation]
  unfold trimChars
  rw [back, front, back, List.reverse_reverse, front]

@[simp] theorem withoutPlus_plus (rest : List Char) : withoutPlus ('+' :: rest) = rest := rfl

@[simp] theorem withoutPlus_zero (rest : List Char) : withoutPlus ('0' :: rest) = '0' :: rest := rfl

def dialled (raw : String) : List Char := stripPunctuation raw.toList

def AllDigits (text : List Char) : Prop := text.all Char.isDigit = true ∧ text ≠ []

variable (raw : String)

theorem dialling_of_digits (digits : AllDigits (withoutPlus (dialled raw))) :
    raw.toList.all dialling = true := by
  rw [List.all_eq_true]
  intro c member
  by_cases stripped : jsSpace c ∨ c ∈ ['-', '(', ')', '.']
  · rcases stripped with blank | sign
    · simp [dialling, blank]
    · simp only [dialling, Bool.or_eq_true, List.contains_iff_mem]
      exact .inr (List.mem_append_left ['+'] sign)
  · have kept : c ∈ dialled raw := List.mem_filter.mpr ⟨member, by simpa using stripped⟩
    have all := List.all_eq_true.mp digits.1
    unfold withoutPlus at all
    split at all
    · next rest start =>
      rw [start] at kept
      rcases List.mem_cons.mp kept with rfl | later
      · decide
      · simp [dialling, all c later]
    · simp [dialling, all c kept]

theorem normalisePhone_trim : normalisePhone (trim raw) = normalisePhone raw := by
  unfold normalisePhone trim
  rw [String.toList_ofList, trimChars_idempotent]

theorem classify_digits (casing : Casing) (raw : String)
    (digits : AllDigits (withoutPlus (dialled raw))) :
    classifyIdentifier casing raw = match normalisePhone raw with
      | some phone => ⟨.phone, some phone⟩
      | none => ⟨.unrecognised, none⟩ := by
  have all := List.all_eq_true.mp (dialling_of_digits raw digits)
  have trimmed : ∀ c ∈ trimChars raw.toList, dialling c = true := fun c member =>
    all c (mem_trimChars _ c member)
  have start : trimChars raw.toList ≠ [] := by
    intro empty
    have nothing : dialled raw = [] := by
      unfold dialled
      rw [← stripPunctuation_trim, empty]
      rfl
    exact digits.2 (by rw [nothing]; rfl)
  have noAt : '@' ∉ trimChars raw.toList := by
    intro member
    exact absurd (trimmed '@' member) (by decide)
  have noId : isPersonalId casing (trimChars raw.toList) = false := by
    unfold isPersonalId
    rw [trimChars_idempotent, casing.upper_dialling _ (List.all_eq_true.mpr trimmed)]
    refine decide_eq_false ?_
    rintro ⟨-, ⟨rest, same⟩, -⟩
    have first : 'U' ∈ trimChars raw.toList := by
      rw [← same]
      exact List.mem_cons_self ..
    exact absurd (trimmed 'U' first) (by decide)
  unfold classifyIdentifier
  dsimp only
  rw [normalisePhone_trim]
  unfold trim
  rw [String.toList_ofList, if_neg start, if_neg noAt, noId, if_neg Bool.false_ne_true]

theorem normalisePhone_dialled (a b : String) (same : dialled a = dialled b) :
    normalisePhone a = normalisePhone b := by
  unfold normalisePhone
  rw [stripPunctuation_trim, stripPunctuation_trim]
  unfold dialled at same
  rw [same]

theorem normalisePhone_digits (digits : AllDigits (withoutPlus (dialled raw))) :
    normalisePhone raw =
      if (withoutPlus (dialled raw)).length = 8 then
        some (String.ofList ("+222".toList ++ withoutPlus (dialled raw)))
      else if 9 ≤ (withoutPlus (dialled raw)).length ∧ (withoutPlus (dialled raw)).length ≤ 15 then
        some (String.ofList ('+' :: withoutPlus (dialled raw)))
      else none := by
  have proper : ¬((withoutPlus (dialled raw)).isEmpty = true ∨
      ¬(withoutPlus (dialled raw)).all Char.isDigit = true) := by
    simp [digits.1, digits.2]
  unfold normalisePhone
  dsimp only
  rw [stripPunctuation_trim, ← dialled, if_neg proper]
  by_cases home : (withoutPlus (dialled raw)).length = 8
  · rw [if_pos home, if_pos home]
  · rw [if_neg home, if_neg home]
    by_cases known : (withoutPlus (dialled raw)).length = 11 ∧
        "222".toList <+: withoutPlus (dialled raw)
    · rw [if_pos known, if_pos (by omega)]
    · rw [if_neg known]

theorem isE164_some (holds : isE164 text = true) :
    ∃ number, text = '+' :: number ∧ AllDigits number ∧ 8 ≤ number.length ∧
      number.length ≤ 15 := by
  unfold isE164 at holds
  split at holds
  · next first rest =>
    simp only [decide_eq_true_eq] at holds
    obtain ⟨low, high, short, long, digits⟩ := holds
    refine ⟨first :: rest, rfl, ⟨?_, List.cons_ne_nil _ _⟩, ?_, ?_⟩
    · have zero : '0' ≤ first := Char.le_trans (b := '1') (by decide) low
      rw [List.all_cons, digits, Bool.and_true]
      simp only [Char.isDigit, Bool.and_eq_true, decide_eq_true_eq]
      exact ⟨zero, high⟩
    · rw [List.length_cons]
      omega
    · rw [List.length_cons]
      omega
  · cases holds

theorem international_only (raw stored : String) (first : normalisePhone raw = none)
    (second : toE164 raw = some stored) :
    ∃ number, dialled raw = '0' :: '0' :: number ∧ AllDigits number ∧ 14 ≤ number.length ∧
      number.length ≤ 15 ∧ stored = String.ofList ('+' :: number) := by
  unfold toE164 at second
  dsimp only at second
  rw [stripPunctuation_trim, ← dialled] at second
  split at second
  · next holds =>
    obtain ⟨number, same, digits, short, long⟩ := isE164_some _ holds
    rw [same] at second
    unfold withPlus at same
    split at same
    · next rest start =>
      obtain rfl : rest = number := (List.cons.inj same).2
      have all : AllDigits (withoutPlus (dialled raw)) := by
        rw [start]
        exact ⟨by simp [digits.1], by simp⟩
      have value := normalisePhone_digits raw all
      rw [first, start, withoutPlus_zero, List.length_cons, List.length_cons] at value
      refine ⟨rest, start, digits, ?_, long, (Option.some.inj second).symm⟩
      by_contra low
      rw [if_neg (by omega), if_pos (by omega)] at value
      cases value
    · next start =>
      have all : AllDigits (withoutPlus (dialled raw)) := by
        rw [same]
        exact digits
      have value := normalisePhone_digits raw all
      rw [first, same, withoutPlus_plus] at value
      split at value
      · cases value
      · next other =>
        rw [if_pos (by omega)] at value
        cases value
  · cases second

theorem digits_of_stored {via : Enrolment} {raw stored : String}
    (stores : StoresPhone casing via raw stored) : AllDigits (withoutPlus (dialled raw)) := by
  rcases stores.normalised with normal | ⟨-, first, second⟩
  · unfold normalisePhone at normal
    dsimp only at normal
    rw [stripPunctuation_trim] at normal
    split at normal
    · cases normal
    · next digits =>
      simp only [not_or, not_not, List.isEmpty_iff] at digits
      exact ⟨digits.2, digits.1⟩
  · obtain ⟨number, start, digits, -⟩ := international_only raw stored first second
    rw [start]
    exact ⟨by simp [digits.1], by simp⟩

structure IsNumber (number : List Char) : Prop where
  digits : number.all Char.isDigit = true
  start : number.head? ≠ some '0'
  short : 9 ≤ number.length
  long : number.length ≤ 15

def mauritanian (number : List Char) : List Char := "222".toList ++ number

theorem mauritanian_isNumber (number : List Char) (digits : number.all Char.isDigit = true)
    (eight : number.length = 8) : IsNumber (mauritanian number) := by
  have length : (mauritanian number).length = 11 := by simp [mauritanian, eight]
  exact ⟨by simp [mauritanian, digits], by simp [mauritanian], by omega, by omega⟩

inductive Spells (number : List Char) (raw : String) : Prop
  | bare (same : dialled raw = number)
  | plus (same : dialled raw = '+' :: number)
  | zeros (same : dialled raw = '0' :: '0' :: number)
  | home (digits : List Char) (own : number = mauritanian digits) (eight : digits.length = 8)
      (same : dialled raw = digits)

/-- Spelled with the `00` prefix. -/
def ViaZeros (number : List Char) (raw : String) : Prop := dialled raw = '0' :: '0' :: number

instance (number : List Char) (raw : String) : Decidable (ViaZeros number raw) :=
  inferInstanceAs (Decidable (_ = _))

theorem IsNumber.allDigits {number : List Char} (proper : IsNumber number) : AllDigits number := by
  refine ⟨proper.digits, ?_⟩
  intro empty
  have short := proper.short
  rw [empty] at short
  cases short

theorem withoutPlus_digits (digits : text.all Char.isDigit = true) :
    withoutPlus text = text := by
  unfold withoutPlus
  split
  · rw [List.all_cons] at digits
    simp at digits
  · rfl

section Spelled

variable {number : List Char} {raw : String} (proper : IsNumber number)

include proper

theorem normalise_zeros (zeros : ViaZeros number raw) :
    AllDigits (withoutPlus (dialled raw)) ∧ normalisePhone raw =
      if number.length ≤ 13 then some (String.ofList ('+' :: '0' :: '0' :: number)) else none := by
  have digits : AllDigits (withoutPlus (dialled raw)) := by
    rw [zeros]
    exact ⟨by simp [proper.digits], by simp⟩
  have short := proper.short
  refine ⟨digits, ?_⟩
  rw [normalisePhone_digits raw digits, zeros, withoutPlus_zero, List.length_cons,
    List.length_cons, if_neg (by omega)]
  by_cases fits : number.length ≤ 13
  · rw [if_pos fits, if_pos (by omega)]
  · rw [if_neg fits, if_neg (by omega)]

theorem normalise_plain (spells : Spells number raw) (plain : ¬ViaZeros number raw) :
    AllDigits (withoutPlus (dialled raw)) ∧
      normalisePhone raw = some (String.ofList ('+' :: number)) := by
  have short := proper.short
  have long := proper.long
  cases spells with
  | zeros same => exact absurd same plain
  | bare same =>
      have digits : withoutPlus (dialled raw) = number := by
        rw [same]
        exact withoutPlus_digits number proper.digits
      refine ⟨digits ▸ proper.allDigits, ?_⟩
      rw [normalisePhone_digits raw (digits ▸ proper.allDigits), digits, if_neg (by omega),
        if_pos (by omega)]
  | plus same =>
      have digits : withoutPlus (dialled raw) = number := by
        rw [same]
        rfl
      refine ⟨digits ▸ proper.allDigits, ?_⟩
      rw [normalisePhone_digits raw (digits ▸ proper.allDigits), digits, if_neg (by omega),
        if_pos (by omega)]
  | home local_ own eight same =>
      have all : local_.all Char.isDigit = true := by
        have digits := proper.digits
        rw [own, mauritanian, List.all_append, Bool.and_eq_true] at digits
        exact digits.2
      have digits : withoutPlus (dialled raw) = local_ := by
        rw [same]
        exact withoutPlus_digits local_ all
      have some_ : AllDigits (withoutPlus (dialled raw)) := by
        rw [digits]
        refine ⟨all, ?_⟩
        intro empty
        rw [empty] at eight
        cases eight
      refine ⟨some_, ?_⟩
      rw [normalisePhone_digits raw some_, digits, if_pos eight, own]
      rfl

theorem stored_spelled {via : Enrolment} {stored : String}
    (spells : Spells number raw) (stores : StoresPhone casing via raw stored) :
    stored = if ViaZeros number raw ∧ number.length ≤ 13 then
      String.ofList ('+' :: '0' :: '0' :: number) else String.ofList ('+' :: number) := by
  by_cases zeros : ViaZeros number raw
  · have normal := (normalise_zeros proper zeros).2
    rcases stores.normalised with first | ⟨-, first, second⟩
    · rw [first] at normal
      split at normal
      · next fits =>
        rw [if_pos ⟨zeros, fits⟩]
        exact Option.some.inj normal
      · cases normal
    · obtain ⟨other, start, -, long, -, kept⟩ := international_only raw stored first second
      obtain rfl : other = number := by
        have same := start.symm.trans zeros
        simpa using same
      rw [if_neg (by omega)]
      exact kept
  · have normal := (normalise_plain proper spells zeros).2
    rw [if_neg (fun both => zeros both.1)]
    rcases stores.normalised with first | ⟨-, first, -⟩
    · exact Option.some.inj (first.symm.trans normal)
    · rw [normal] at first
      cases first

theorem classify_spelled (casing : Casing) (spells : Spells number raw) :
    classifyIdentifier casing raw =
      if ViaZeros number raw then
        if number.length ≤ 13 then ⟨.phone, some (String.ofList ('+' :: '0' :: '0' :: number))⟩
        else ⟨.unrecognised, none⟩
      else ⟨.phone, some (String.ofList ('+' :: number))⟩ := by
  by_cases zeros : ViaZeros number raw
  · obtain ⟨digits, normal⟩ := normalise_zeros proper zeros
    rw [classify_digits casing raw digits, normal, if_pos zeros]
    by_cases fits : number.length ≤ 13
    · simp [fits]
    · simp [fits]
  · obtain ⟨digits, normal⟩ := normalise_plain proper spells zeros
    rw [classify_digits casing raw digits, normal, if_neg zeros]

end Spelled

theorem prefixed_ne (number : List Char) :
    String.ofList ('+' :: '0' :: '0' :: number) ≠ String.ofList ('+' :: number) := by
  intro same
  have lists := congrArg (fun text => text.toList.length) same
  simp only [String.toList_ofList, List.length_cons] at lists
  omega

theorem at_of_emailShape (holds : emailShape text = true) : '@' ∈ text := by
  by_contra absent
  unfold emailShape at holds
  rw [List.splitOn_eq_singleton absent] at holds
  cases holds

def SameMail (casing : Casing) (a b : String) : Prop :=
  casing.lowerCase (trimChars a.toList) = casing.lowerCase (trimChars b.toList)

theorem isEmail_trim : isEmail (trim raw) = isEmail raw := by
  unfold isEmail trim
  rw [String.toList_ofList, trimChars_idempotent]

theorem normaliseEmail_trim (lowerCase : List Char → List Char) (raw : String) :
    normaliseEmail lowerCase (trim raw) = normaliseEmail lowerCase raw := by
  unfold normaliseEmail trim
  rw [String.toList_ofList, trimChars_idempotent]

theorem classify_email (casing : Casing) (raw : String) :
    classifyIdentifier casing raw = ⟨.email, some (normaliseEmail casing.lowerCase raw)⟩ ↔
      isEmail raw = true := by
  constructor
  · intro email
    unfold classifyIdentifier at email
    dsimp only at email
    rw [isEmail_trim] at email
    split at email
    · cases email
    · split at email
      · split at email
        · next holds => exact holds
        · cases email
      · split at email
        · cases email
        · split at email
          · cases email
          · cases email
  · intro holds
    have shape : emailShape (trimChars raw.toList) = true := (of_decide_eq_true holds).2
    have sign := at_of_emailShape _ shape
    have start : trimChars raw.toList ≠ [] := List.ne_nil_of_mem sign
    unfold classifyIdentifier
    dsimp only
    rw [isEmail_trim, normaliseEmail_trim, if_pos holds]
    unfold trim
    rw [String.toList_ofList, if_neg start, if_pos sign]

theorem isEmail_of_valid (casing : Casing) (a b : String) (valid : isValidEmail a = true)
    (same : SameMail casing a b) : isEmail b = true ↔ (trimChars b.toList).length ≤ 160 := by
  have shape : emailShape a.toList = true := (of_decide_eq_true valid).2
  have solid : ∀ c ∈ a.toList, jsSpace c = false := by
    intro c member
    unfold emailShape at shape
    split at shape
    · simp only [decide_eq_true_eq, List.all_eq_true] at shape
      simpa using shape.1 c member
    · cases shape
  have kept : emailShape (trimChars b.toList) = true := by
    rw [← casing.lower_shape, ← same, casing.lower_shape, trimChars_solid _ solid]
    exact shape
  unfold isEmail
  simp [kept]

/-- A number that is stored is found by a spelling, and meets another enrolment of it,
where neither or both use the `00` prefix; an address is found in any case it is an
address in. -/
theorem spellings_meet_iff (casing : Casing) :
    (∀ (via : Enrolment) (a b stored : String), StoresPhone casing via a stored →
      dialled b = dialled a →
      (classifyIdentifier casing b = ⟨.phone, some stored⟩ ↔
        normalisePhone a ≠ none)) ∧
    (∀ (via : Enrolment) (number : List Char) (a b stored : String), IsNumber number →
      Spells number a → Spells number b → StoresPhone casing via a stored →
      (classifyIdentifier casing b = ⟨.phone, some stored⟩ ↔
        (ViaZeros number b → ViaZeros number a ∧ number.length ≤ 13) ∧
          (ViaZeros number a → ViaZeros number b ∨ 14 ≤ number.length))) ∧
    (∀ (via via' : Enrolment) (number : List Char) (a b stored stored' : String),
      IsNumber number → Spells number a → Spells number b → StoresPhone casing via a stored →
      StoresPhone casing via' b stored' →
      (stored = stored' ↔ 14 ≤ number.length ∨ (ViaZeros number a ↔ ViaZeros number b))) ∧
    (∀ (via : Enrolment) (a b stored : String), StoresEmail casing via a stored →
      SameMail casing a b →
      (classifyIdentifier casing b = ⟨.email, some stored⟩ ↔ isEmail b = true) ∧
        (via = .update → (isEmail b = true ↔ (trimChars b.toList).length ≤ 160))) := by
  refine ⟨?_, ?_, ?_, ?_⟩
  · intro via a b stored stores same
    have digits := digits_of_stored stores
    rw [classify_digits casing b (same ▸ digits), normalisePhone_dialled b a same]
    rcases stores.normalised with first | ⟨-, first, -⟩
    · simp [first]
    · simp [first]
  · intro via number a b stored proper spellsA spellsB stores
    rw [classify_spelled proper casing spellsB, stored_spelled proper spellsA stores]
    have apart := prefixed_ne number
    generalize String.ofList ('+' :: '0' :: '0' :: number) = withZeros at apart ⊢
    generalize String.ofList ('+' :: number) = plain at apart ⊢
    by_cases zerosB : ViaZeros number b
    · by_cases zerosA : ViaZeros number a
      · by_cases fits : number.length ≤ 13
        · simp [zerosA, zerosB, fits]
        · simp [zerosA, zerosB, fits]
      · by_cases fits : number.length ≤ 13
        · simp [zerosA, zerosB, fits, apart]
        · simp [zerosA, zerosB, fits]
    · by_cases zerosA : ViaZeros number a
      · by_cases fits : number.length ≤ 13
        · simp [zerosA, zerosB, fits, Ne.symm apart]
          omega
        · simp [zerosA, zerosB, fits]
          omega
      · simp [zerosA, zerosB]
  · intro via via' number a b stored stored' proper spellsA spellsB storesA storesB
    rw [stored_spelled proper spellsA storesA, stored_spelled proper spellsB storesB]
    have apart := prefixed_ne number
    generalize String.ofList ('+' :: '0' :: '0' :: number) = withZeros at apart ⊢
    generalize String.ofList ('+' :: number) = plain at apart ⊢
    by_cases fits : number.length ≤ 13
    · have short : ¬14 ≤ number.length := by omega
      by_cases zerosA : ViaZeros number a
      · by_cases zerosB : ViaZeros number b
        · simp [zerosA, zerosB]
        · simp [zerosA, zerosB, fits, short, apart]
      · by_cases zerosB : ViaZeros number b
        · simp [zerosA, zerosB, fits, short, Ne.symm apart]
        · simp [zerosA, zerosB]
    · have long : 14 ≤ number.length := by omega
      simp [fits, long]
  · intro via a b stored stores same
    obtain ⟨kept, valid⟩ := stores.normalised
    have equal : normaliseEmail casing.lowerCase b = stored := by
      rw [← kept]
      unfold normaliseEmail
      exact congrArg String.ofList same.symm
    rw [← equal]
    exact ⟨classify_email casing b, fun update => isEmail_of_valid casing a b (valid update) same⟩

/-- The 26 characters from `first` on. -/
def letters (first : Nat) : List Char := (List.range 26).map (fun i => Char.ofNat (first + i))

theorem mem_letters (first : Nat) (c : Char) (low : first ≤ c.toNat) (high : c.toNat ≤ first + 25) :
    c ∈ letters first := by
  refine List.mem_map.mpr ⟨c.toNat - first, List.mem_range.mpr (by omega), ?_⟩
  rw [Nat.add_sub_cancel' low]
  exact Char.ofNat_toNat c

theorem toLower_keeps (c : Char) : jsSpace c.toLower = jsSpace c ∧
    (c.toLower == '@') = (c == '@') ∧ (c.toLower == '.') = (c == '.') := by
  by_cases upper : 65 ≤ c.toNat ∧ c.toNat ≤ 90
  · have each : (letters 65).all (fun letter => decide (jsSpace letter.toLower = jsSpace letter ∧
        (letter.toLower == '@') = (letter == '@') ∧
          (letter.toLower == '.') = (letter == '.'))) = true := by decide +kernel
    exact of_decide_eq_true (List.all_eq_true.mp each c (mem_letters 65 c upper.1 upper.2))
  · have same : c.toLower = c := by
      unfold Char.toLower
      rw [dif_neg]
      exact upper
    rw [same]
    exact ⟨rfl, rfl, rfl⟩

theorem splitOn_lower :
    (text.map Char.toLower).splitOn '@' = (text.splitOn '@').map (List.map Char.toLower) := by
  induction text with
  | nil => rfl
  | cons head rest ih =>
      rw [List.map_cons, List.splitOn_cons_eq_if_modifyHead, List.splitOn_cons_eq_if_modifyHead,
        (toLower_keeps head).2.1, ih]
      split
      · rfl
      · cases rest.splitOn '@' with
        | nil => rfl
        | cons _ _ => rfl

theorem lower_shape_ascii :
    emailShape (text.map Char.toLower) = emailShape text := by
  have blanks : (text.map Char.toLower).all (fun c => ¬jsSpace c) =
    text.all (fun c => ¬jsSpace c) := by
    rw [List.all_map]
    congr 1
    funext c
    simp only [Function.comp_apply, (toLower_keeps c).1]
  have dots : ∀ domain : List Char, ((domain.map Char.toLower).drop 1).dropLast.any (· = '.') =
      (domain.drop 1).dropLast.any (· = '.') := by
    intro domain
    rw [← List.map_drop, ← List.map_dropLast, List.any_map]
    congr 1
    funext c
    exact (toLower_keeps c).2.2
  unfold emailShape
  rw [splitOn_lower]
  match text.splitOn '@' with
  | [] => rfl
  | [_] => rfl
  | [name, domain] =>
      simp only [List.map_cons, List.map_nil, blanks, dots, ne_eq, List.map_eq_nil_iff]
  | _ :: _ :: _ :: _ => rfl

def asciiCasing : Casing where
  lowerCase := List.map Char.toLower
  upperCase := List.map Char.toUpper
  upper_dialling := by
    intro text all
    have same : ∀ c ∈ text, c.toUpper = c := by
      intro c member
      by_cases lower : 97 ≤ c.toNat ∧ c.toNat ≤ 122
      · have none : (letters 97).all (fun letter => !dialling letter) = true := by decide +kernel
        have dialled := List.all_eq_true.mp all c member
        have apart := List.all_eq_true.mp none c (mem_letters 97 c lower.1 lower.2)
        rw [dialled] at apart
        cases apart
      · unfold Char.toUpper
        rw [dif_neg]
        exact lower
    rw [List.map_congr_left same]
    exact List.map_id' text
  lower_shape := lower_shape_ascii

def cardNumber : List Char := "43210987".toList

theorem cardNumber_spelled :
    Spells (mauritanian cardNumber) "43 21 09 87" ∧
      Spells (mauritanian cardNumber) "+222 43-21-09-87" ∧
      Spells (mauritanian cardNumber) "00222 (43) 21.09.87" :=
  ⟨.home cardNumber rfl rfl (by decide), .plus (by decide), .zeros (by decide)⟩

theorem cardNumber_stored (casing : Casing) :
    StoresPhone casing .update "43 21 09 87" "+22243210987" := by
  change resolvePhone "43 21 09 87" = .ok (some "+22243210987")
  decide

/-- Enrolled as it is printed on a card, and typed with the international prefix. -/
theorem zeros_not_found :
    ¬ ∀ (casing : Casing) (via : Enrolment) (digits : List Char) (a b stored : String),
      digits.all Char.isDigit = true → digits.length = 8 → Spells (mauritanian digits) a →
      Spells (mauritanian digits) b → StoresPhone casing via a stored →
      classifyIdentifier casing b = ⟨.phone, some stored⟩ := by
  intro claim
  have found := claim asciiCasing .update cardNumber "43 21 09 87" "00222 (43) 21.09.87"
    "+22243210987" (by decide) (by decide) cardNumber_spelled.1 cardNumber_spelled.2.2
    (cardNumber_stored asciiCasing)
  revert found
  decide +kernel

theorem spellings_meet_card :
    classifyIdentifier asciiCasing "+222 43-21-09-87" = ⟨.phone, some "+22243210987"⟩ :=
  ((spellings_meet_iff asciiCasing).2.1 .update (mauritanian cardNumber) "43 21 09 87"
    "+222 43-21-09-87" "+22243210987"
    (mauritanian_isNumber cardNumber (by decide) (by decide)) cardNumber_spelled.1
    cardNumber_spelled.2.1 (cardNumber_stored asciiCasing)).mpr
      ⟨fun zeros => absurd zeros (by decide), fun zeros => absurd zeros (by decide)⟩

end ErpBackend.Users
