import ErpBackend.Auth.Tokens
import ErpBackend.Closing.Drawer
import ErpBackend.Foundation.Groups

/-!
# The channels of a day, by their keys

`buildChannels` gathers the movements under texts such as `account:<uuid>` and reads each
text apart again when it makes the rows. With account ids that are UUIDs no two channels
share a key, nothing that moved is lost, and nothing is counted twice.
-/

namespace ErpBackend.Closing.Keys

open Foundation

structure Uuid where
  text : String
  valid : Auth.isUuid text = true
  deriving DecidableEq

structure MovementRow where
  accountId : Option Uuid
  channel : Channel
  component : Component
  amount : Int

structure AccountRow where
  id : Uuid
  label : String
  isActive : Bool
  sortOrder : Int

structure ChannelRow extends Components where
  channel : Channel
  accountId : Option String
  labelSnapshot : String
  isUnattributed : Bool
  expected : Int

def channelText : Channel → String
  | .cash => "cash"
  | .account => "account"

def keyOf (channel : Channel) (accountId : Option String) : String :=
  channelText channel ++ ":" ++ accountId.getD "NONE"

/-- `key.split(':')`, with its second part read as no account where it says so. -/
def readKey (key : String) : Channel × Option String :=
  let parts := key.toList.splitOn ':'
  let channel := String.ofList (parts.getD 0 [])
  let rawAccount := String.ofList (parts.getD 1 [])
  (if channel = "cash" then .cash else .account,
    if rawAccount = "NONE" then none else some rawAccount)

abbrev Totals := Groups String Components

/-- The account a movement falls to; a cash movement never belongs to one. -/
def MovementRow.account (m : MovementRow) : Option Uuid :=
  if m.channel = .cash then none else m.accountId

def MovementRow.key (m : MovementRow) : String := keyOf m.channel (m.account.map Uuid.text)

def AccountRow.key (account : AccountRow) : String := keyOf .account (some account.id.text)

def totalsOf (movements : List MovementRow) (accounts : List AccountRow) : Totals :=
  let cash : Totals := Groups.change [] (keyOf .cash none) {} id
  let active := (accounts.filter AccountRow.isActive).foldl
    (fun (totals : Totals) account => totals.change account.key {} id) cash
  movements.foldl (fun (totals : Totals) m =>
    if m.amount = 0 then totals
    else totals.change m.key {} (fun sums => sums.add m.component m.amount)) active

/-- `new Map(…)`: of two accounts with one id the last is found. -/
def accountOf (accounts : List AccountRow) (id : String) : Option AccountRow :=
  accounts.reverse.find? (fun account => account.id.text = id)

def channelRow (accounts : List AccountRow) (entry : String × Components) : ChannelRow :=
  let (channel, accountId) := readKey entry.1
  let isUnattributed := decide (channel = .account ∧ accountId = none)
  { entry.2 with
    channel
    accountId
    labelSnapshot :=
      if channel = .cash then cashLabel
      else if isUnattributed then unattributedLabel
      else ((accountId.bind (accountOf accounts)).map AccountRow.label).getD unattributedLabel
    isUnattributed
    expected := entry.2.expected }

/-- The comparison `rows.sort` is given. -/
def channelOrder (accounts : List AccountRow) (left right : ChannelRow) : Bool :=
  let orderOf := fun (row : ChannelRow) =>
    ((accountOf accounts (row.accountId.getD "")).map AccountRow.sortOrder).getD 0
  if left.channel ≠ right.channel then left.channel = .cash
  else if left.isUnattributed ≠ right.isUnattributed then right.isUnattributed
  else if orderOf left ≠ orderOf right then orderOf left ≤ orderOf right
  else left.labelSnapshot ≤ right.labelSnapshot

def buildChannels (movements : List MovementRow) (accounts : List AccountRow) :
    List ChannelRow :=
  ((totalsOf movements accounts).map (channelRow accounts)).insertionSort
    (fun left right => channelOrder accounts left right = true)

theorem uuid_characters (id : Uuid) (c : Char) (member : c ∈ id.text.toList) :
    c = '-' ∨ Auth.isHexDigit c = true := by
  have valid := id.valid
  rw [Auth.isUuid, decide_eq_true_eq] at valid
  obtain ⟨place, inside, rfl⟩ := List.mem_iff_getElem.mp member
  have each := List.all_eq_true.mp valid.2 (id.text.toList[place], place)
    (List.mem_zipIdx_iff_getElem?.mpr (by simp [inside]))
  dsimp only at each
  split at each
  · exact .inl (of_decide_eq_true each)
  · exact .inr each

theorem uuid_no_colon (id : Uuid) : ':' ∉ id.text.toList := by
  intro member
  rcases uuid_characters id ':' member with dash | digit
  · exact absurd dash (by decide)
  · exact absurd digit (by decide)

theorem uuid_named (id : Uuid) : id.text ≠ "NONE" := by
  intro same
  have member : 'N' ∈ id.text.toList := by simp [same]
  rcases uuid_characters id 'N' member with dash | digit
  · exact absurd dash (by decide)
  · exact absurd digit (by decide)

abbrev Place := Channel × Option Uuid

def Place.key (place : Place) : String := keyOf place.1 (place.2.map Uuid.text)

theorem readKey_key (place : Place) : readKey place.key = (place.1, place.2.map Uuid.text) := by
  obtain ⟨channel, account⟩ := place
  have parts : (Place.key (channel, account)).toList.splitOn ':' =
      [(channelText channel).toList, ((account.map Uuid.text).getD "NONE").toList] := by
    have joined : (Place.key (channel, account)).toList =
        [':'].intercalate
          [(channelText channel).toList, ((account.map Uuid.text).getD "NONE").toList] := by
      simp [Place.key, keyOf, List.intercalate]
    rw [joined]
    apply List.splitOn_intercalate
    · intro part member
      rcases List.mem_pair.mp member with rfl | rfl
      · cases channel <;> decide
      · cases account with
        | none => decide
        | some id => exact uuid_no_colon id
    · exact List.cons_ne_nil _ _
  simp only [readKey, parts, List.getD_cons_zero, List.getD_cons_succ, String.ofList_toList]
  congr 1
  · cases channel <;> decide
  · cases account with
    | none => rfl
    | some id => simp [uuid_named id]

theorem Uuid.text_injective : Function.Injective Uuid.text := by
  rintro ⟨text, valid⟩ ⟨text', valid'⟩ same
  cases same
  rfl

theorem Place.key_injective : Function.Injective Place.key := by
  intro first second same
  have read := (readKey_key first).symm.trans ((congrArg readKey same).trans (readKey_key second))
  obtain ⟨channel, account⟩ := Prod.mk.inj read
  exact Prod.ext channel (Option.map_injective Uuid.text_injective account)

def MovementRow.place (m : MovementRow) : Place := (m.channel, m.account)

def MovementRow.signed (m : MovementRow) : Int := Closing.signed m.component m.amount

def addTo (sums : Components) (m : MovementRow) : Components := sums.add m.component m.amount

variable (movements : List MovementRow)

section Components

def figure (sums : Components) : Component → Int
  | .salesIn => sums.salesIn
  | .refundsOut => sums.refundsOut
  | .supplierOut => sums.supplierOut
  | .expensesOut => sums.expensesOut
  | .correctionsIn => sums.correctionsIn

theorem figures_ext (first second : Components)
    (same : ∀ component, figure first component = figure second component) : first = second := by
  cases first
  cases second
  simpa [figure] using And.intro (same .salesIn) (And.intro (same .refundsOut)
    (And.intro (same .supplierOut) (And.intro (same .expensesOut) (same .correctionsIn))))

variable (sums : Components)

theorem figure_add (m : MovementRow) (component : Component) :
    figure (addTo sums m) component =
      figure sums component + if m.component = component then m.amount else 0 := by
  rw [addTo]
  cases own : m.component <;> cases component <;> simp [figure, Components.add]

instance : RightCommutative addTo := ⟨fun sums first second => by
  apply figures_ext
  intro component
  simp only [figure_add]
  omega⟩

def sumOf (component : Component) (movements : List MovementRow) : Int :=
  ((movements.filter (fun m => m.component = component)).map MovementRow.amount).sum

theorem figure_fold (component : Component) :
    figure (movements.foldl addTo sums) component = figure sums component +
      sumOf component movements := by
  induction movements generalizing sums with
  | nil => simp [sumOf]
  | cons m rest ih =>
    rw [List.foldl_cons, ih, figure_add]
    by_cases own : m.component = component
    · simp only [sumOf, own, if_true, decide_true, List.filter_cons_of_pos, List.map_cons,
        List.sum_cons]
      omega
    · simp [sumOf, own]

theorem expected_fold :
    (movements.foldl addTo sums).expected =
      sums.expected + (movements.map MovementRow.signed).sum := by
  induction movements generalizing sums with
  | nil => simp
  | cons m rest ih =>
    rw [List.foldl_cons, ih, addTo, expected_add, List.map_cons, List.sum_cons,
      MovementRow.signed, Int.add_assoc]

end Components

def moving (movements : List MovementRow) : List MovementRow :=
  movements.filter (fun m => m.amount ≠ 0)

def openings (accounts : List AccountRow) : Totals :=
  Groups.gather AccountRow.key {} (fun sums _ => sums) [(keyOf .cash none, {})]
    (accounts.filter AccountRow.isActive)

theorem totalsOf_eq (accounts : List AccountRow) :
    totalsOf movements accounts =
      Groups.gather MovementRow.key {} addTo (openings accounts) (moving movements) := by
  have started : totalsOf movements accounts = movements.foldl (fun (totals : Totals) m =>
      if m.amount = 0 then totals
      else totals.change m.key {} (fun sums => addTo sums m)) (openings accounts) := rfl
  rw [started, Groups.gather, moving, List.foldl_filter]
  apply List.foldl_ext
  intro totals m _
  by_cases nothing : m.amount = 0 <;> simp [nothing]

section Totals

variable (movements : List MovementRow) (accounts : List AccountRow)

theorem openings_nodup : (openings accounts).keys.Nodup :=
  Groups.nodup_gather _ _ _ _ _ (List.nodup_singleton _)

theorem totalsOf_nodup : (totalsOf movements accounts).keys.Nodup := by
  rw [totalsOf_eq]
  exact Groups.nodup_gather _ _ _ _ _ (openings_nodup accounts)

def Present (place : Place) : Prop :=
  place = (.cash, none) ∨
    (∃ account ∈ accounts, account.isActive = true ∧ place = (.account, some account.id)) ∨
      ∃ m ∈ movements, m.amount ≠ 0 ∧ m.place = place

theorem mem_keys (key : String) : key ∈ (totalsOf movements accounts).keys ↔
    ∃ place : Place, Present movements accounts place ∧ place.key = key := by
  rw [totalsOf_eq, Groups.mem_keys_gather, openings, Groups.mem_keys_gather]
  constructor
  · rintro ((cash | ⟨account, member, rfl⟩) | ⟨m, member, rfl⟩)
    · exact ⟨(.cash, none), .inl rfl, (List.mem_singleton.mp cash).symm⟩
    · obtain ⟨listed, active⟩ := List.mem_filter.mp member
      exact ⟨(.account, some account.id), .inr (.inl ⟨account, listed, active, rfl⟩), rfl⟩
    · obtain ⟨listed, moved⟩ := List.mem_filter.mp member
      exact ⟨m.place, .inr (.inr ⟨m, listed, of_decide_eq_true moved, rfl⟩), rfl⟩
  · rintro ⟨place, rfl | ⟨account, member, active, rfl⟩ | ⟨m, member, moved, rfl⟩, rfl⟩
    · exact .inl (.inl (List.mem_singleton_self _))
    · exact .inl (.inr ⟨account, List.mem_filter.mpr ⟨member, active⟩, rfl⟩)
    · exact .inr ⟨m, List.mem_filter.mpr ⟨member, decide_eq_true moved⟩, rfl⟩

theorem openings_value (key : String) : ((openings accounts).valueAt key).getD {} = {} := by
  by_cases present : key ∈ (openings accounts).keys
  · rw [openings] at present ⊢
    have value := Groups.valueAt_gather AccountRow.key ({} : Components) (fun sums _ => sums) _ _
      key present
    rw [value, Option.getD_some]
    have start : ((Groups.valueAt [(keyOf .cash none, ({} : Components))] key).getD {}) = {} := by
      rw [Groups.valueAt_cons]
      split <;> rfl
    rw [start]
    generalize List.filter _ _ = own
    induction own with
    | nil => rfl
    | cons account rest ih => exact ih
  · rw [(Groups.valueAt_none _ key).mpr present, Option.getD_none]

def fallingTo (place : Place) : List MovementRow :=
  movements.filter (fun m => m.place = place)

theorem valueAt_place (place : Place) (present : Present movements accounts place) :
    (totalsOf movements accounts).valueAt place.key =
      some ((fallingTo (moving movements) place).foldl addTo {}) := by
  have key := (mem_keys movements accounts place.key).mpr ⟨place, present, rfl⟩
  rw [totalsOf_eq] at key ⊢
  rw [Groups.valueAt_gather MovementRow.key {} addTo _ _ place.key key, openings_value, fallingTo]
  congr 3
  funext m
  have same : m.place.key = place.key ↔ m.place = place := Place.key_injective.eq_iff
  exact decide_eq_decide.mpr same

end Totals

theorem sum_moving (f : MovementRow → Int) (nothing : ∀ m, m.amount = 0 → f m = 0)
    (movements : List MovementRow) : ((moving movements).map f).sum = (movements.map f).sum := by
  induction movements with
  | nil => rfl
  | cons m rest ih =>
    rw [moving] at ih ⊢
    by_cases none : m.amount = 0
    · simp [none, nothing m none, ← ih]
    · simp [none, ← ih]

/-- What the row of a channel shows, from the movements that fall to it. -/
def rowAt (movements : List MovementRow) (accounts : List AccountRow) (place : Place) :
    ChannelRow :=
  channelRow accounts (place.key, (fallingTo (moving movements) place).foldl addTo {})

theorem rowAt_place (accounts : List AccountRow) (place : Place) :
    (rowAt movements accounts place).channel = place.1 ∧
      (rowAt movements accounts place).accountId = place.2.map Uuid.text := by
  have read := readKey_key place
  simp [rowAt, channelRow, read]

section Rows

variable (movements : List MovementRow) (accounts : List AccountRow)

theorem mem_rows (row : ChannelRow) : row ∈ buildChannels movements accounts ↔
    ∃ place, Present movements accounts place ∧ row = rowAt movements accounts place := by
  rw [buildChannels, List.mem_insertionSort, List.mem_map]
  have distinct := totalsOf_nodup movements accounts
  constructor
  · rintro ⟨⟨key, sums⟩, member, rfl⟩
    have inside : key ∈ (totalsOf movements accounts).keys := List.mem_map_of_mem member
    obtain ⟨place, present, rfl⟩ := (mem_keys movements accounts key).mp inside
    have value := (Groups.mem_iff _ _ distinct sums).mp member
    rw [valueAt_place movements accounts place present, Option.some.injEq] at value
    exact ⟨place, present, by rw [rowAt, value]⟩
  · rintro ⟨place, present, rfl⟩
    exact ⟨_, (Groups.mem_iff _ _ distinct _).mpr (valueAt_place movements accounts place present),
      rfl⟩

theorem rows_nodup : ((buildChannels movements accounts).map
    (fun row => (row.channel, row.accountId))).Nodup := by
  have sorted := (List.perm_insertionSort (fun left right =>
    channelOrder accounts left right = true) ((totalsOf movements accounts).map
      (channelRow accounts))).map (fun row => (row.channel, row.accountId))
  rw [buildChannels, sorted.nodup_iff, List.map_map]
  have read : ((fun row : ChannelRow => (row.channel, row.accountId)) ∘ channelRow accounts) =
      fun entry => readKey entry.1 := by
    funext entry
    rfl
  have keys : (totalsOf movements accounts).map (fun entry => readKey entry.1) =
      (totalsOf movements accounts).keys.map readKey := by
    rw [Groups.keys, List.map_map]
    rfl
  rw [read, keys]
  apply List.Nodup.map_on _ (totalsOf_nodup movements accounts)
  intro first member second member' same
  obtain ⟨place, -, rfl⟩ := (mem_keys movements accounts first).mp member
  obtain ⟨place', -, rfl⟩ := (mem_keys movements accounts second).mp member'
  rw [readKey_key, readKey_key] at same
  obtain ⟨channel, account⟩ := Prod.mk.inj same
  rw [Prod.ext channel (Option.map_injective Uuid.text_injective account)]

theorem rows_total : ((buildChannels movements accounts).map ChannelRow.expected).sum =
    (movements.map MovementRow.signed).sum := by
  have sorted := (List.perm_insertionSort (fun left right =>
    channelOrder accounts left right = true) ((totalsOf movements accounts).map
      (channelRow accounts))).map ChannelRow.expected
  rw [buildChannels, sorted.sum_eq, List.map_map]
  have worth : (totalsOf movements accounts).map (ChannelRow.expected ∘ channelRow accounts) =
      (totalsOf movements accounts).map (fun entry => entry.2.expected) := rfl
  have gathered := Groups.total_gather MovementRow.key {} addTo Components.expected
    (moving movements) (openings accounts) (openings_nodup accounts) MovementRow.signed rfl
    (fun sums m => expected_add sums m.component m.amount)
  have opened : Groups.total Components.expected (openings accounts) = 0 := by
    have start := Groups.total_gather AccountRow.key ({} : Components) (fun sums _ => sums)
      Components.expected (accounts.filter AccountRow.isActive) [(keyOf .cash none, {})]
      (List.nodup_singleton _) (fun _ => (0 : Int)) rfl (fun sums _ => (Int.add_zero _).symm)
    rw [openings, start]
    simp [Groups.total, Components.expected]
  rw [worth]
  rw [← totalsOf_eq, opened, Int.zero_add] at gathered
  refine gathered.trans (sum_moving MovementRow.signed (fun m none => ?_) movements)
  rw [MovementRow.signed, none, signed_zero]

end Rows

def ownMovements (movements : List MovementRow) (row : ChannelRow) : List MovementRow :=
  movements.filter (fun m => m.channel = row.channel ∧ m.account.map Uuid.text = row.accountId)

/-- Every movement is in exactly one row, and every channel to be counted has one. -/
structure Accounted (movements : List MovementRow) (accounts : List AccountRow)
    (rows : List ChannelRow) : Prop where
  distinct : (rows.map (fun row => (row.channel, row.accountId))).Nodup
  total : (rows.map ChannelRow.expected).sum = (movements.map MovementRow.signed).sum
  own : ∀ row ∈ rows,
    row.expected = ((ownMovements movements row).map MovementRow.signed).sum ∧
      ∀ component, figure row.toComponents component = sumOf component (ownMovements movements row)
  cash : ∃ row ∈ rows, row.channel = .cash ∧ row.accountId = none
  active : ∀ account ∈ accounts, account.isActive = true →
    ∃ row ∈ rows, row.channel = .account ∧ row.accountId = some account.id.text
  inactive : ∀ account ∈ accounts, account.isActive = false →
    ((∃ row ∈ rows, row.channel = .account ∧ row.accountId = some account.id.text) ↔
      ∃ m ∈ movements, m.channel = .account ∧ m.accountId = some account.id ∧ m.amount ≠ 0)
  unattributed : (∃ row ∈ rows, row.isUnattributed = true) ↔
    ∃ m ∈ movements, m.channel = .account ∧ m.accountId = none ∧ m.amount ≠ 0
  unordered : ∀ movements' : List MovementRow, movements'.Perm movements →
    (buildChannels movements' accounts).Perm rows

section Day

variable (movements : List MovementRow) (accounts : List AccountRow)

theorem ownMovements_rowAt (place : Place) :
    ownMovements movements (rowAt movements accounts place) = fallingTo movements place := by
  obtain ⟨channel, account⟩ := rowAt_place movements accounts place
  rw [ownMovements, fallingTo, channel, account]
  apply List.filter_congr
  intro m _
  rw [decide_eq_decide, (Option.map_injective Uuid.text_injective).eq_iff]
  exact (@Prod.ext_iff _ _ m.place place).symm

theorem moving_fallingTo (place : Place) :
    fallingTo (moving movements) place = moving (fallingTo movements place) :=
  List.filter_comm _ _ movements

theorem rowAt_figures (place : Place) :
    (rowAt movements accounts place).expected =
        ((fallingTo movements place).map MovementRow.signed).sum ∧
      ∀ component, figure (rowAt movements accounts place).toComponents component =
        sumOf component (fallingTo movements place) := by
  have start : ({} : Components).expected = 0 := rfl
  constructor
  · have folded := expected_fold (fallingTo (moving movements) place) {}
    rw [start, Int.zero_add, moving_fallingTo] at folded
    refine Eq.trans ?_ (folded.trans (sum_moving _ (fun m none => ?_) _))
    · rw [← moving_fallingTo]
      rfl
    · rw [MovementRow.signed, none, signed_zero]
  · intro component
    have folded := figure_fold (fallingTo (moving movements) place) {} component
    have nothing : figure {} component = 0 := by cases component <;> rfl
    have moved : sumOf component (moving (fallingTo movements place)) =
        sumOf component (fallingTo movements place) := by
      rw [sumOf, moving, List.filter_comm, sumOf]
      exact sum_moving MovementRow.amount (fun m none => none) _
    rw [nothing, Int.zero_add, moving_fallingTo, moved] at folded
    refine Eq.trans ?_ folded
    rw [← moving_fallingTo]
    rfl

theorem rows_perm (movements' : List MovementRow) (same : movements'.Perm movements) :
    (buildChannels movements' accounts).Perm (buildChannels movements accounts) := by
  have gathered := Groups.gather_perm MovementRow.key {} addTo (moving movements')
    (moving movements) (same.filter _) (openings accounts) (openings_nodup accounts)
  rw [← totalsOf_eq, ← totalsOf_eq] at gathered
  exact (List.perm_insertionSort _ _).trans
    ((gathered.map _).trans (List.perm_insertionSort _ _).symm)

theorem row_exists (place : Place) :
    (∃ row ∈ buildChannels movements accounts,
      row.channel = place.1 ∧ row.accountId = place.2.map Uuid.text) ↔
      Present movements accounts place := by
  constructor
  · rintro ⟨row, member, channel, account⟩
    obtain ⟨own, present, rfl⟩ := (mem_rows movements accounts row).mp member
    obtain ⟨ownChannel, ownAccount⟩ := rowAt_place movements accounts own
    have same : own = place := Prod.ext (ownChannel.symm.trans channel)
      (Option.map_injective Uuid.text_injective (ownAccount.symm.trans account))
    exact same ▸ present
  · intro present
    exact ⟨rowAt movements accounts place,
      (mem_rows movements accounts _).mpr ⟨place, present, rfl⟩,
      rowAt_place movements accounts place⟩

theorem rowAt_unattributed (place : Place) :
    (rowAt movements accounts place).isUnattributed = true ↔ place = (.account, none) := by
  have read := readKey_key place
  rw [rowAt, channelRow, read]
  simp [Prod.ext_iff]

/-- With distinct UUIDs the channels of a day account for every movement of it. -/
theorem channels_account (distinct : (accounts.map AccountRow.id).Nodup) :
    Accounted movements accounts (buildChannels movements accounts) where
  distinct := rows_nodup movements accounts
  total := rows_total movements accounts
  own row member := by
    obtain ⟨place, -, rfl⟩ := (mem_rows movements accounts row).mp member
    rw [ownMovements_rowAt]
    exact rowAt_figures movements accounts place
  cash := (row_exists movements accounts (.cash, none)).mpr (.inl rfl)
  active account member isActive :=
    (row_exists movements accounts (.account, some account.id)).mpr
      (.inr (.inl ⟨account, member, isActive, rfl⟩))
  inactive account member isInactive := by
    refine (row_exists movements accounts (.account, some account.id)).trans ⟨?_, ?_⟩
    · rintro (cash | ⟨other, listed, isActive, same⟩ | ⟨m, listed, moved, same⟩)
      · cases cash
      · -- another account of this id would be the same account
        obtain ⟨-, ids⟩ := Prod.mk.inj same
        have equal := List.inj_on_of_nodup_map distinct member listed (Option.some.inj ids)
        rw [equal, isActive] at isInactive
        cases isInactive
      · obtain ⟨channel, accountId⟩ := Prod.mk.inj same
        rw [MovementRow.account, if_neg (by rw [channel]; decide)] at accountId
        exact ⟨m, listed, channel, accountId, moved⟩
    · rintro ⟨m, listed, channel, accountId, moved⟩
      refine .inr (.inr ⟨m, listed, moved, Prod.ext channel ?_⟩)
      rw [MovementRow.place, MovementRow.account, if_neg (by rw [channel]; decide), accountId]
  unattributed := by
    constructor
    · rintro ⟨row, member, isUnattributed⟩
      obtain ⟨place, present, rfl⟩ := (mem_rows movements accounts row).mp member
      obtain rfl := (rowAt_unattributed movements accounts place).mp isUnattributed
      rcases present with cash | ⟨account, -, -, same⟩ | ⟨m, listed, moved, same⟩
      · cases cash
      · cases same
      · obtain ⟨channel, accountId⟩ := Prod.mk.inj same
        rw [MovementRow.account, if_neg (by rw [channel]; decide)] at accountId
        exact ⟨m, listed, channel, accountId, moved⟩
    · rintro ⟨m, listed, channel, accountId, moved⟩
      have place : m.place = (.account, none) := by
        rw [MovementRow.place, MovementRow.account, if_neg (by rw [channel]; decide), channel,
          accountId]
      exact ⟨rowAt movements accounts (.account, none), (mem_rows movements accounts _).mpr
        ⟨(.account, none), .inr (.inr ⟨m, listed, moved, place⟩), rfl⟩,
        (rowAt_unattributed movements accounts (.account, none)).mpr rfl⟩
  unordered := rows_perm movements accounts

end Day

def bankily : AccountRow where
  id := ⟨"01923f5e-7c00-7000-8000-000000000001", by decide +kernel⟩
  label := "Bankily"
  isActive := false
  sortOrder := 1

/-- A payment into an account that was put out of use since. -/
theorem channels_account_bankily :
    Accounted [⟨some bankily.id, .account, .salesIn, 120000⟩] [bankily]
      (buildChannels [⟨some bankily.id, .account, .salesIn, 120000⟩] [bankily]) :=
  channels_account [⟨some bankily.id, .account, .salesIn, 120000⟩] [bankily] (by decide)

end ErpBackend.Closing.Keys
