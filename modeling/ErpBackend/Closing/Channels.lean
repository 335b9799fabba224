import ErpBackend.Schema

/-!
# The channels of a day

`channels.ts`: which channels a branch has to count, and what each is expected
to hold. The buckets keep the order in which they were first named.
-/

namespace ErpBackend.Closing

inductive Component where
  | salesIn
  | refundsOut
  | supplierOut
  | expensesOut
  | correctionsIn
  deriving DecidableEq

structure MovementRow where
  accountId : Option Id
  channel : Channel
  component : Component
  amount : Int

structure Components where
  salesIn : Int := 0
  refundsOut : Int := 0
  supplierOut : Int := 0
  expensesOut : Int := 0
  correctionsIn : Int := 0

def Components.add (sums : Components) (component : Component) (amount : Int) : Components :=
  match component with
  | .salesIn => { sums with salesIn := sums.salesIn + amount }
  | .refundsOut => { sums with refundsOut := sums.refundsOut + amount }
  | .supplierOut => { sums with supplierOut := sums.supplierOut + amount }
  | .expensesOut => { sums with expensesOut := sums.expensesOut + amount }
  | .correctionsIn => { sums with correctionsIn := sums.correctionsIn + amount }

/-- `COMPONENT_SIGN` applied to the five movements. -/
def Components.expected (sums : Components) : Int :=
  sums.salesIn - sums.refundsOut - sums.supplierOut - sums.expensesOut + sums.correctionsIn

structure ChannelRow extends Components where
  channel : Channel
  accountId : Option Id
  labelSnapshot : String
  isUnattributed : Bool
  expected : Int

def cashLabel : String := "CASH"

def unattributedLabel : String := "UNATTRIBUTED"

abbrev Buckets := List ((Channel × Option Id) × Components)

/-- `bucket(channel, accountId)`, changed in place. -/
def Buckets.change (buckets : Buckets) (key : Channel × Option Id)
    (f : Components → Components) : Buckets :=
  if buckets.any (fun entry => entry.1 = key) then
    buckets.map (fun entry => if entry.1 = key then (entry.1, f entry.2) else entry)
  else buckets ++ [(key, f {})]

def addMovement (buckets : Buckets) (movement : MovementRow) : Buckets :=
  if movement.amount = 0 then buckets
  else
    let accountId := if movement.channel = .cash then none else movement.accountId
    buckets.change (movement.channel, accountId)
      (fun sums => sums.add movement.component movement.amount)

def bucketsOf (movements : List MovementRow) (accounts : List ReceivingAccount) : Buckets :=
  let cash : Buckets := Buckets.change [] (.cash, none) id
  let active := (accounts.filter ReceivingAccount.isActive).foldl (fun buckets account =>
    buckets.change (.account, some account.id) id) cash
  movements.foldl addMovement active

def accountOf (accounts : List ReceivingAccount) (accountId : Option Id) :
    Option ReceivingAccount :=
  accountId.bind (fun id => accounts.find? (fun account => account.id = id))

def channelRow (accounts : List ReceivingAccount)
    (entry : (Channel × Option Id) × Components) : ChannelRow :=
  let isUnattributed := decide (entry.1.1 = .account ∧ entry.1.2 = none)
  { entry.2 with
    channel := entry.1.1
    accountId := entry.1.2
    labelSnapshot :=
      if entry.1.1 = .cash then cashLabel
      else if isUnattributed then unattributedLabel
      else ((accountOf accounts entry.1.2).map ReceivingAccount.label).getD unattributedLabel
    isUnattributed
    expected := entry.2.expected }

/-- Cash first, the unattributed bucket last, accounts as the shop arranged them. -/
def channelOrder (accounts : List ReceivingAccount) (left right : ChannelRow) : Bool :=
  let orderOf := fun (row : ChannelRow) =>
    ((accountOf accounts row.accountId).map ReceivingAccount.sortOrder).getD 0
  if left.channel ≠ right.channel then left.channel = .cash
  else if left.isUnattributed ≠ right.isUnattributed then right.isUnattributed
  else if orderOf left ≠ orderOf right then orderOf left ≤ orderOf right
  else left.labelSnapshot ≤ right.labelSnapshot

def buildChannels (movements : List MovementRow) (accounts : List ReceivingAccount) :
    List ChannelRow :=
  ((bucketsOf movements accounts).map (channelRow accounts)).insertionSort
    (fun left right => channelOrder accounts left right = true)

def isCountable (row : ChannelRow) : Bool := !row.isUnattributed

/-- `difference` exists exactly when a count does. -/
def differenceOf (counted : Option Int) (expected : Int) : Option Int :=
  counted.map (fun amount => amount - expected)

def opensDiscrepancy (count : ClosingChannelCount) : Bool :=
  !count.isSkipped && count.counted.isSome && decide (count.difference.getD 0 ≠ 0)

end ErpBackend.Closing
