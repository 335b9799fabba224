import ErpBackend.Common
import ErpBackend.Foundation.Interleave
import ErpBackend.Foundation.Table

/-!
# AccessService

What a user may do is a union over joins: the permissions of the roles the user holds, and
at a branch also what was delegated to the assignment there. The client adds the company to
every query.
-/

namespace ErpBackend.Rbac

open Foundation

def companyPermissions : List String :=
  ["user.manage", "settings.manage", "branch.manage", "integrations.manage", "supplier.manage"]

def IsCompanyPermission (key : String) : Prop := key ∈ companyPermissions

instance (key : String) : Decidable (IsCompanyPermission key) :=
  inferInstanceAs (Decidable (key ∈ companyPermissions))

def delegatablePermissions : List String := ["price.edit"]

def IsDelegatable (key : String) : Prop := key ∈ delegatablePermissions

instance (key : String) : Decidable (IsDelegatable key) :=
  inferInstanceAs (Decidable (key ∈ delegatablePermissions))

inductive RoleKey where
  | owner
  | storeManager
  | storeEmployee
  | administrator
  | branchManager
  | salesEmployee
  | warehouseEmployee
  deriving DecidableEq

def delegationEligibleRole : RoleKey := .storeManager

structure Role where
  id : Id
  companyId : Id
  key : RoleKey
  deriving DecidableEq

structure PermissionRow where
  id : Id
  key : String
  deriving DecidableEq

structure RolePermission where
  companyId : Id
  roleId : Id
  permissionId : Id
  deriving DecidableEq

def RolePermission.key (row : RolePermission) : Id × Id := (row.roleId, row.permissionId)

structure UserBranch where
  id : Id
  companyId : Id
  userId : Id
  branchId : Id
  roleId : Id
  deriving DecidableEq

structure UserBranchPermission where
  companyId : Id
  userBranchId : Id
  permissionId : Id
  grantedById : Id
  deriving DecidableEq

def UserBranchPermission.key (row : UserBranchPermission) : Id × Id :=
  (row.userBranchId, row.permissionId)

structure UserRow where
  id : Id
  companyId : Id
  isActive : Bool
  deleted : Bool
  deriving DecidableEq

structure Store where
  users : Table UserRow UserRow.id
  roles : Table Role Role.id
  permissions : Table PermissionRow PermissionRow.id
  rolePermissions : Table RolePermission RolePermission.key
  userBranches : Table UserBranch UserBranch.id
  userBranchPermissions : Table UserBranchPermission UserBranchPermission.key

abbrev Request (α : Type) := Prog Store Unit Refusal α

/-- `select: { id, roleId, role: { key } }`. -/
structure Assignment where
  id : Id
  roleId : Id
  roleKey : RoleKey
  deriving DecidableEq

/-- `where: branchId ? { userId, branchId } : { userId }`. -/
def Assigned (companyId userId : Id) (branchId : Option Id) (row : UserBranch) : Prop :=
  row.companyId = companyId ∧ row.userId = userId ∧ ∀ branch ∈ branchId, row.branchId = branch

instance (companyId userId : Id) (branchId : Option Id) (row : UserBranch) :
    Decidable (Assigned companyId userId branchId row) :=
  inferInstanceAs (Decidable (_ ∧ _ ∧ ∀ branch ∈ branchId, row.branchId = branch))

def assignmentOf (s : Store) (row : UserBranch) : Option Assignment :=
  (s.roles.find? row.roleId).map (fun role => ⟨row.id, row.roleId, role.key⟩)

def assignments (companyId userId : Id) (branchId : Option Id) (s : Store) : List Assignment :=
  (s.userBranches.filter (fun row => Assigned companyId userId branchId row)).filterMap
    (assignmentOf s)

def permissionKey (s : Store) (permissionId : Id) : Option String :=
  (s.permissions.find? permissionId).map PermissionRow.key

def rolePermissionKeys (companyId : Id) (roleIds : List Id) (s : Store) : List String :=
  (s.rolePermissions.filter (fun row => row.companyId = companyId ∧ row.roleId ∈ roleIds)).filterMap
    (fun row => permissionKey s row.permissionId)

def grantKeys (companyId : Id) (userBranchIds : List Id) (s : Store) : List String :=
  (s.userBranchPermissions.filter (fun row =>
    row.companyId = companyId ∧ row.userBranchId ∈ userBranchIds)).filterMap
      (fun row => permissionKey s row.permissionId)

def eligible (assigned : List Assignment) : List Id :=
  (assigned.filter (fun a => a.roleKey = delegationEligibleRole)).map Assignment.id

def noAccess : Refusal := .forbidden "No access to the requested branch"

def getEffectivePermissions (companyId userId : Id) (branchId : Option Id) :
    Request (Finset String) := do
  let assigned ← .read () (assignments companyId userId branchId)
  .require (branchId = none ∨ assigned ≠ []) noAccess
  let roleIds := assigned.map Assignment.roleId
  if roleIds = [] then pure ∅
  else
    let keys ← .read () (rolePermissionKeys companyId roleIds)
    match branchId with
    | none => pure (keys.filter (fun key => IsCompanyPermission key)).toFinset
    | some _ =>
      if eligible assigned = [] then pure keys.toFinset
      else
        let grants ← .read () (grantKeys companyId (eligible assigned))
        pure (keys.toFinset ∪ (grants.filter (fun key => IsDelegatable key)).toFinset)

def effective (companyId userId : Id) (branchId : Option Id) (s : Store) :
    Except Refusal (Finset String) :=
  ((getEffectivePermissions companyId userId branchId).run s).2

structure Delegate where
  id : Id
  roleKey : RoleKey
  deleted : Bool
  isActive : Bool

def findAssignment (companyId userId branchId : Id) (s : Store) : Option Delegate := do
  let row ← s.userBranches.rows.find? (fun row => Assigned companyId userId (some branchId) row)
  let role ← s.roles.find? row.roleId
  let user ← s.users.find? row.userId
  pure ⟨row.id, role.key, user.deleted, user.isActive⟩

def assignment (companyId userId branchId : Id) : Request Delegate := do
  let found ← .read () (findAssignment companyId userId branchId)
  .expect (.notFound "This user has no assignment in that branch") found

/-- Every rule that makes an assignment eligible to receive a grant. -/
def eligibleAssignment (companyId userId branchId : Id) : Request Delegate := do
  let found ← assignment companyId userId branchId
  .require (found.deleted = false ∧ found.isActive = true)
    (.conflict "This user is deactivated and cannot receive delegated authority")
  .require (found.roleKey = delegationEligibleRole)
    (.conflict "Price editing can only be delegated to a Store Manager in that branch")
  pure found

def delegatedPermission : Request Id := do
  let permission ← .read () (fun s =>
    (s.permissions.rows.find? (fun row => row.key = "price.edit")).map PermissionRow.id)
  .expect (.conflict "The \"price.edit\" permission is missing — apply pending migrations")
    permission

def createGrant (row : UserBranchPermission) (s : Store) : Store :=
  match s.userBranchPermissions.insert? row with
  | none => s
  | some userBranchPermissions => { s with userBranchPermissions }

def grantPriceEdit (ctx : Ctx) (userId branchId : Id) : Request Unit := do
  let found ← eligibleAssignment ctx.companyId userId branchId
  let permission ← delegatedPermission
  let grantedById ← .expect (missingTenantContext "(request)" "userId") ctx.userId
  .execute () (createGrant ⟨ctx.companyId, found.id, permission, grantedById⟩)

/-- Not the eligibility check: the grant of a downgraded manager can still be cleared. -/
def revokePriceEdit (ctx : Ctx) (userId branchId : Id) : Request Unit := do
  let found ← assignment ctx.companyId userId branchId
  let permission ← delegatedPermission
  .execute () (fun s => { s with
    userBranchPermissions := s.userBranchPermissions.delete (fun row =>
      row.companyId = ctx.companyId ∧ row.userBranchId = found.id ∧
        row.permissionId = permission) })

section Members

variable (companyId userId : Id) (branchId : Option Id) (s : Store)

theorem mem_assignments (a : Assignment) : a ∈ assignments companyId userId branchId s ↔
    ∃ row ∈ s.userBranches.rows, Assigned companyId userId branchId row ∧
      assignmentOf s row = some a := by
  simp [assignments, Table.mem_filter, and_assoc]

theorem mem_rolePermissionKeys (roleIds : List Id) (key : String) :
    key ∈ rolePermissionKeys companyId roleIds s ↔
      ∃ row ∈ s.rolePermissions.rows, (row.companyId = companyId ∧ row.roleId ∈ roleIds) ∧
        permissionKey s row.permissionId = some key := by
  simp [rolePermissionKeys, Table.mem_filter, and_assoc]

theorem mem_grantKeys (userBranchIds : List Id) (key : String) :
    key ∈ grantKeys companyId userBranchIds s ↔
      ∃ row ∈ s.userBranchPermissions.rows,
        (row.companyId = companyId ∧ row.userBranchId ∈ userBranchIds) ∧
          permissionKey s row.permissionId = some key := by
  simp [grantKeys, Table.mem_filter, and_assoc]

theorem mem_eligible (assigned : List Assignment) (id : Id) : id ∈ eligible assigned ↔
    ∃ a ∈ assigned, a.roleKey = delegationEligibleRole ∧ a.id = id := by
  simp [eligible, and_assoc]

def ByRole (key : String) : Prop :=
  ∃ a ∈ assignments companyId userId branchId s, ∃ row ∈ s.rolePermissions.rows,
    row.companyId = companyId ∧ row.roleId = a.roleId ∧ permissionKey s row.permissionId = some key

def ByGrant (key : String) : Prop :=
  IsDelegatable key ∧ ∃ a ∈ assignments companyId userId branchId s, a.roleKey = .storeManager ∧
    ∃ row ∈ s.userBranchPermissions.rows, row.companyId = companyId ∧ row.userBranchId = a.id ∧
      permissionKey s row.permissionId = some key

theorem byRole_iff (key : String) : ByRole companyId userId branchId s key ↔
    key ∈ rolePermissionKeys companyId
      ((assignments companyId userId branchId s).map Assignment.roleId) s := by
  rw [mem_rolePermissionKeys]
  constructor
  · rintro ⟨a, member, row, present, company, role, named⟩
    exact ⟨row, present, ⟨company, List.mem_map.mpr ⟨a, member, role.symm⟩⟩, named⟩
  · rintro ⟨row, present, ⟨company, within⟩, named⟩
    obtain ⟨a, member, role⟩ := List.mem_map.mp within
    exact ⟨a, member, row, present, company, role.symm, named⟩

theorem byGrant_iff (key : String) : ByGrant companyId userId branchId s key ↔
    IsDelegatable key ∧
      key ∈ grantKeys companyId (eligible (assignments companyId userId branchId s)) s := by
  rw [mem_grantKeys]
  constructor
  · rintro ⟨delegatable, a, member, manager, row, present, company, hangs, named⟩
    exact ⟨delegatable, row, present,
      ⟨company, (mem_eligible _ _).mpr ⟨a, member, manager, hangs.symm⟩⟩, named⟩
  · rintro ⟨delegatable, row, present, ⟨company, within⟩, named⟩
    obtain ⟨a, member, manager, hangs⟩ := (mem_eligible _ _).mp within
    exact ⟨delegatable, a, member, manager, row, present, company, hangs.symm, named⟩

theorem byRole_unassigned (key : String)
    (unassigned : assignments companyId userId branchId s = []) :
    ¬ByRole companyId userId branchId s key := by
  rintro ⟨a, member, -⟩
  rw [unassigned] at member
  cases member

theorem effective_company : ∃ keys, effective companyId userId none s = .ok keys ∧
    ∀ key, key ∈ keys ↔ IsCompanyPermission key ∧ ByRole companyId userId none s key := by
  have ensured : Prog.Ensures (getEffectivePermissions companyId userId none)
      (fun _ result => ∃ keys, result = .ok keys ∧
        ∀ key, key ∈ keys ↔ IsCompanyPermission key ∧ ByRole companyId userId none s key) s := by
    simp only [getEffectivePermissions, Prog.ensures_read, Prog.ensures_require]
    refine ⟨fun _ => ?_, fun no => absurd (.inl trivial) no⟩
    split
    · next noRoles =>
      refine ⟨∅, rfl, fun key => ?_⟩
      have none := byRole_unassigned companyId userId none s key (List.map_eq_nil_iff.mp noRoles)
      simp [none]
    · refine ⟨_, rfl, fun key => ?_⟩
      rw [List.mem_toFinset, List.mem_filter, byRole_iff, and_comm, decide_eq_true_eq]
  exact ensured

theorem effective_branch (branch : Id) :
    (assignments companyId userId (some branch) s = [] ∧
      effective companyId userId (some branch) s = .error noAccess) ∨
    (assignments companyId userId (some branch) s ≠ [] ∧
      ∃ keys, effective companyId userId (some branch) s = .ok keys ∧
        ∀ key, key ∈ keys ↔ ByRole companyId userId (some branch) s key ∨
          ByGrant companyId userId (some branch) s key) := by
  have ensured : Prog.Ensures (getEffectivePermissions companyId userId (some branch))
      (fun _ result =>
        (assignments companyId userId (some branch) s = [] ∧ result = .error noAccess) ∨
        (assignments companyId userId (some branch) s ≠ [] ∧ ∃ keys, result = .ok keys ∧
          ∀ key, key ∈ keys ↔ ByRole companyId userId (some branch) s key ∨
            ByGrant companyId userId (some branch) s key)) s := by
    simp only [getEffectivePermissions, Prog.ensures_read, Prog.ensures_require]
    constructor
    · intro assigned
      have some' : assignments companyId userId (some branch) s ≠ [] :=
        assigned.resolve_left (fun absent => by cases absent)
      rw [if_neg (fun noRoles => some' (List.map_eq_nil_iff.mp noRoles))]
      simp only [Prog.ensures_read]
      split
      · next ineligible =>
        refine .inr ⟨some', _, rfl, fun key => ?_⟩
        rw [List.mem_toFinset, byGrant_iff, ineligible, byRole_iff]
        simp [mem_grantKeys]
      · refine .inr ⟨some', _, rfl, fun key => ?_⟩
        rw [Finset.mem_union, List.mem_toFinset, List.mem_toFinset, List.mem_filter, byRole_iff,
          byGrant_iff, decide_eq_true_eq, and_comm (a := IsDelegatable key)]
    · intro unassigned
      have none : assignments companyId userId (some branch) s = [] := by simpa using unassigned
      exact .inl ⟨none, trivial⟩
  exact ensured

end Members

variable (companyId userId branch : Id)

theorem row_of_assignment (s : Store) (a : Assignment)
    (member : a ∈ assignments companyId userId (some branch) s) :
    ∃ row ∈ s.userBranches.rows, row.userId = userId ∧ row.branchId = branch ∧
      row.id = a.id ∧ row.roleId = a.roleId := by
  obtain ⟨row, present, assigned, found⟩ := (mem_assignments companyId userId _ s a).mp member
  obtain ⟨role, -, rfl⟩ := Option.map_eq_some_iff.mp found
  exact ⟨row, present, assigned.2.1, assigned.2.2 branch rfl, rfl, rfl⟩

/-- A change of assignments, roles and grants that concerns only other branches than this:
at the branch, the assignments of the user are the same, and so is what hangs on them. -/
structure Elsewhere (userId branch : Id) (s s' : Store) : Prop where
  permissions : s'.permissions = s.permissions
  assignments : ∀ row : UserBranch, row.userId = userId → row.branchId = branch →
    (row ∈ s'.userBranches.rows ↔ row ∈ s.userBranches.rows)
  roles : ∀ row ∈ s.userBranches.rows, row.userId = userId → row.branchId = branch →
    s'.roles.find? row.roleId = s.roles.find? row.roleId
  rolePermissions : ∀ row ∈ s.userBranches.rows, row.userId = userId → row.branchId = branch →
    ∀ permission : RolePermission, permission.roleId = row.roleId →
      (permission ∈ s'.rolePermissions.rows ↔ permission ∈ s.rolePermissions.rows)
  grants : ∀ row ∈ s.userBranches.rows, row.userId = userId → row.branchId = branch →
    ∀ grant : UserBranchPermission, grant.userBranchId = row.id →
      (grant ∈ s'.userBranchPermissions.rows ↔ grant ∈ s.userBranchPermissions.rows)

namespace Elsewhere

variable {userId branch : Id} {s s' : Store} (elsewhere : Elsewhere userId branch s s')
  (companyId : Id)

include elsewhere

theorem mem_assignments_iff (a : Assignment) :
    a ∈ Rbac.assignments companyId userId (some branch) s' ↔
      a ∈ Rbac.assignments companyId userId (some branch) s := by
  rw [mem_assignments, mem_assignments]
  constructor
  · rintro ⟨row, member, assigned, found⟩
    have same := (elsewhere.assignments row assigned.2.1 (assigned.2.2 branch rfl)).mp member
    have role := elsewhere.roles row same assigned.2.1 (assigned.2.2 branch rfl)
    exact ⟨row, same, assigned, by simpa only [assignmentOf, role] using found⟩
  · rintro ⟨row, member, assigned, found⟩
    have role := elsewhere.roles row member assigned.2.1 (assigned.2.2 branch rfl)
    exact ⟨row, (elsewhere.assignments row assigned.2.1 (assigned.2.2 branch rfl)).mpr member,
      assigned, by simpa only [assignmentOf, role] using found⟩

theorem byRole (key : String) :
    ByRole companyId userId (some branch) s' key ↔ ByRole companyId userId (some branch) s key := by
  have named : ∀ id, permissionKey s' id = permissionKey s id := by
    intro id
    simp only [permissionKey, elsewhere.permissions]
  simp only [ByRole, named, elsewhere.mem_assignments_iff companyId]
  constructor
  · rintro ⟨a, member, row, present, company, role, name⟩
    obtain ⟨held, at', own, here, -, same⟩ := row_of_assignment companyId userId branch s a member
    exact ⟨a, member, row, (elsewhere.rolePermissions held at' own here row
      (role.trans same.symm)).mp present, company, role, name⟩
  · rintro ⟨a, member, row, present, company, role, name⟩
    obtain ⟨held, at', own, here, -, same⟩ := row_of_assignment companyId userId branch s a member
    exact ⟨a, member, row, (elsewhere.rolePermissions held at' own here row
      (role.trans same.symm)).mpr present, company, role, name⟩

theorem byGrant (key : String) :
    ByGrant companyId userId (some branch) s' key ↔
      ByGrant companyId userId (some branch) s key := by
  have named : ∀ id, permissionKey s' id = permissionKey s id := by
    intro id
    simp only [permissionKey, elsewhere.permissions]
  simp only [ByGrant, named, elsewhere.mem_assignments_iff companyId]
  constructor
  · rintro ⟨delegatable, a, member, manager, row, present, company, hangs, name⟩
    obtain ⟨held, at', own, here, same, -⟩ := row_of_assignment companyId userId branch s a member
    exact ⟨delegatable, a, member, manager, row, (elsewhere.grants held at' own here row
      (hangs.trans same.symm)).mp present, company, hangs, name⟩
  · rintro ⟨delegatable, a, member, manager, row, present, company, hangs, name⟩
    obtain ⟨held, at', own, here, same, -⟩ := row_of_assignment companyId userId branch s a member
    exact ⟨delegatable, a, member, manager, row, (elsewhere.grants held at' own here row
      (hangs.trans same.symm)).mpr present, company, hangs, name⟩

theorem effective_eq :
    effective companyId userId (some branch) s' = effective companyId userId (some branch) s := by
  have both := elsewhere.mem_assignments_iff companyId
  rcases effective_branch companyId userId s branch with
    ⟨none, refused⟩ | ⟨some', keys, answer, mem⟩
  · rcases effective_branch companyId userId s' branch with ⟨-, refused'⟩ | ⟨some', -⟩
    · rw [refused, refused']
    · obtain ⟨a, member⟩ := List.exists_mem_of_ne_nil _ some'
      rw [both, none] at member
      cases member
  · rcases effective_branch companyId userId s' branch with ⟨none, -⟩ | ⟨-, keys', answer', mem'⟩
    · obtain ⟨a, member⟩ := List.exists_mem_of_ne_nil _ some'
      rw [← both, none] at member
      cases member
    · rw [answer, answer']
      congr 1
      ext key
      rw [mem, mem', elsewhere.byRole companyId, elsewhere.byGrant companyId]

end Elsewhere

def only (grant : UserBranchPermission) (s : Store) : Store :=
  { s with
    rolePermissions := .empty
    userBranchPermissions := ⟨[grant], List.nodup_singleton _⟩ }

def Contributes (companyId userId branch : Id) (s : Store) (grant : UserBranchPermission)
    (key : String) : Prop :=
  ∃ keys, effective companyId userId (some branch) (only grant s) = .ok keys ∧ key ∈ keys

/-- The assignment a grant hangs on is a manager's, of the user and at the branch. -/
def HangsOnManager (companyId userId branch : Id) (s : Store) (grant : UserBranchPermission) :
    Prop :=
  ∃ row ∈ s.userBranches.rows, row.id = grant.userBranchId ∧ row.companyId = companyId ∧
    row.userId = userId ∧ row.branchId = branch ∧
      ∃ role, s.roles.find? row.roleId = some role ∧ role.key = .storeManager

theorem hangsOnManager_iff (s : Store)
    (grant : UserBranchPermission) : HangsOnManager companyId userId branch s grant ↔
      ∃ a ∈ assignments companyId userId (some branch) s, a.roleKey = .storeManager ∧
        grant.userBranchId = a.id := by
  constructor
  · rintro ⟨row, member, hangs, company, own, here, role, found, manager⟩
    refine ⟨⟨row.id, row.roleId, role.key⟩, (mem_assignments _ _ _ _ _).mpr
      ⟨row, member, ⟨company, own, fun _ same => Option.some.inj same ▸ here⟩, ?_⟩, manager,
        hangs.symm⟩
    simp [assignmentOf, found]
  · rintro ⟨a, member, manager, hangs⟩
    obtain ⟨row, present, ⟨company, own, here⟩, found⟩ := (mem_assignments _ _ _ _ _).mp member
    obtain ⟨role, held, rfl⟩ := Option.map_eq_some_iff.mp found
    exact ⟨row, present, hangs.symm, company, own, here branch rfl, role, held, manager⟩

theorem contributes_iff (s : Store) (grant : UserBranchPermission)
    (own : grant.companyId = companyId) (key : String) :
    Contributes companyId userId branch s grant key ↔
      permissionKey s grant.permissionId = some key ∧
        HangsOnManager companyId userId branch s grant ∧ IsDelegatable key := by
  have noRole : ¬ByRole companyId userId (some branch) (only grant s) key := by
    rintro ⟨a, -, row, present, -⟩
    cases present
  have alone : ByGrant companyId userId (some branch) (only grant s) key ↔
      permissionKey s grant.permissionId = some key ∧
        HangsOnManager companyId userId branch s grant ∧ IsDelegatable key := by
    rw [hangsOnManager_iff]
    constructor
    · rintro ⟨delegatable, a, member, manager, row, present, -, hangs, name⟩
      obtain rfl := List.mem_singleton.mp present
      exact ⟨name, ⟨a, member, manager, hangs⟩, delegatable⟩
    · rintro ⟨name, ⟨a, member, manager, hangs⟩, delegatable⟩
      exact ⟨delegatable, a, member, manager, grant, List.mem_singleton.mpr rfl, own, hangs, name⟩
  rw [← alone]
  rcases effective_branch companyId userId (only grant s) branch with
    ⟨none, refused⟩ | ⟨-, keys, answer, mem⟩
  · constructor
    · rintro ⟨keys, answer, -⟩
      rw [refused] at answer
      cases answer
    · rintro ⟨-, a, member, -⟩
      rw [none] at member
      cases member
  · constructor
    · rintro ⟨keys', answer', member⟩
      rw [answer] at answer'
      cases answer'
      exact ((mem key).mp member).resolve_left noRole
    · intro granted
      exact ⟨keys, answer, (mem key).mpr (.inr granted)⟩

/-- Authority at a branch is decided there; without one it is company-wide; and a grant
adds what can be delegated, to a manager, at the branch it was given for. -/
theorem branch_authority (companyId userId : Id) (s : Store) :
    (∀ branch s', Elsewhere userId branch s s' →
      effective companyId userId (some branch) s' = effective companyId userId (some branch) s) ∧
    (∀ keys, effective companyId userId none s = .ok keys →
      ∀ key ∈ keys, IsCompanyPermission key) ∧
    ∀ branch,
      (∀ keys, effective companyId userId (some branch) s = .ok keys → ∀ key, key ∈ keys ↔
        ByRole companyId userId (some branch) s key ∨
          ∃ grant ∈ s.userBranchPermissions.rows, grant.companyId = companyId ∧
            Contributes companyId userId branch s grant key) ∧
      ∀ grant ∈ s.userBranchPermissions.rows, grant.companyId = companyId → ∀ key,
        permissionKey s grant.permissionId = some key →
          (Contributes companyId userId branch s grant key ↔
            HangsOnManager companyId userId branch s grant ∧ IsDelegatable key) := by
  refine ⟨fun branch s' elsewhere => elsewhere.effective_eq companyId, ?_, fun branch => ⟨?_, ?_⟩⟩
  · intro keys answer key member
    obtain ⟨keys', answer', mem⟩ := effective_company companyId userId s
    rw [answer] at answer'
    cases answer'
    exact ((mem key).mp member).1
  · intro keys answer key
    rcases effective_branch companyId userId s branch with
      ⟨-, refused⟩ | ⟨-, keys', answer', mem⟩
    · rw [refused] at answer
      cases answer
    · rw [answer] at answer'
      cases answer'
      rw [mem]
      refine or_congr_right ?_
      constructor
      · rintro ⟨delegatable, a, member, manager, row, present, company, hangs, name⟩
        exact ⟨row, present, company, (contributes_iff _ _ _ s row company key).mpr
          ⟨name, (hangsOnManager_iff _ _ _ _ _).mpr ⟨a, member, manager, hangs⟩, delegatable⟩⟩
      · rintro ⟨row, present, company, contributes⟩
        obtain ⟨name, manager, delegatable⟩ :=
          (contributes_iff _ _ _ s row company key).mp contributes
        obtain ⟨a, member, manager, hangs⟩ := (hangsOnManager_iff _ _ _ _ _).mp manager
        exact ⟨delegatable, a, member, manager, row, present, company, hangs, name⟩
  · intro grant _ company key name
    rw [contributes_iff _ _ _ s grant company key]
    exact and_iff_right name

/-- A manager in branch 1 and an employee in branch 2, with price editing delegated on both. -/
def twoBranches : Store where
  users := ⟨[⟨5, 1, true, false⟩], List.nodup_singleton _⟩
  roles := ⟨[⟨20, 1, .storeManager⟩, ⟨21, 1, .storeEmployee⟩], by decide⟩
  permissions := ⟨[⟨30, "price.edit"⟩, ⟨31, "sale.create"⟩], by decide⟩
  rolePermissions := ⟨[⟨1, 21, 31⟩], List.nodup_singleton _⟩
  userBranches := ⟨[⟨40, 1, 5, 1, 20⟩, ⟨41, 1, 5, 2, 21⟩], by decide⟩
  userBranchPermissions := ⟨[⟨1, 40, 30, 9⟩, ⟨1, 41, 30, 9⟩], by decide⟩

theorem branch_authority_twoBranches :
    Contributes 1 5 1 twoBranches ⟨1, 40, 30, 9⟩ "price.edit" ∧
      ¬Contributes 1 5 2 twoBranches ⟨1, 41, 30, 9⟩ "price.edit" := by
  obtain ⟨-, -, granted⟩ := branch_authority 1 5 twoBranches
  constructor
  · exact ((granted 1).2 ⟨1, 40, 30, 9⟩ (by decide) rfl "price.edit" rfl).mpr
      ⟨⟨⟨40, 1, 5, 1, 20⟩, by decide, rfl, rfl, rfl, rfl, _, rfl, rfl⟩, by decide⟩
  · intro contributes
    obtain ⟨⟨row, member, hangs, -, -, here, role, held, manager⟩, -⟩ :=
      ((granted 2).2 ⟨1, 41, 30, 9⟩ (by decide) rfl "price.edit" rfl).mp contributes
    simp only [twoBranches, List.mem_cons, List.not_mem_nil, or_false] at member
    rcases member with rfl | rfl
    · cases hangs
    · cases held
      cases manager

theorem createGrant_elsewhere (row : UserBranchPermission) (s : Store) (userId branch : Id)
    (other : ∀ held ∈ s.userBranches.rows, held.userId = userId → held.branchId = branch →
      held.id ≠ row.userBranchId) : Elsewhere userId branch s (createGrant row s) := by
  unfold createGrant
  split
  · exact ⟨rfl, fun _ _ _ => Iff.rfl, fun _ _ _ _ => rfl, fun _ _ _ _ _ _ => Iff.rfl,
      fun _ _ _ _ _ _ => Iff.rfl⟩
  · next grants inserted =>
    refine ⟨rfl, fun _ _ _ => Iff.rfl, fun _ _ _ _ => rfl, fun _ _ _ _ _ _ => Iff.rfl, ?_⟩
    intro held member own here grant hangs
    obtain ⟨rows, -⟩ := Table.insert?_some _ _ _ inserted
    simp only [rows, List.mem_append, List.mem_singleton]
    constructor
    · rintro (old | rfl)
      · exact old
      · exact absurd hangs.symm (other held member own here)
    · exact .inl

theorem deleteGrants_elsewhere (doomed : UserBranchPermission → Bool) (s : Store)
    (userId branch : Id) (other : ∀ held ∈ s.userBranches.rows, held.userId = userId →
      held.branchId = branch → ∀ grant, grant.userBranchId = held.id → doomed grant = false) :
    Elsewhere userId branch s
      { s with userBranchPermissions := s.userBranchPermissions.delete doomed } := by
  refine ⟨rfl, fun _ _ _ => Iff.rfl, fun _ _ _ _ => rfl, fun _ _ _ _ _ _ => Iff.rfl, ?_⟩
  intro held member own here grant hangs
  simp [Table.delete, other held member own here grant hangs]

theorem findAssignment_apart {companyId userId branchId other : Id} {s : Store} {found : Delegate}
    (read : findAssignment companyId userId branchId s = some found) (apart : other ≠ branchId)
    (held : UserBranch) (member : held ∈ s.userBranches.rows) (here : held.branchId = other) :
    held.id ≠ found.id := by
  intro same
  simp only [findAssignment, Option.bind_eq_bind, Option.bind_eq_some_iff] at read
  obtain ⟨row, first, role, -, user, -, made⟩ := read
  cases made
  have present := List.mem_of_find?_eq_some first
  have matched := List.find?_some first
  have own : Assigned companyId userId (some branchId) row := of_decide_eq_true matched
  have one : held = row := Table.key_injective s.userBranches held row member present same
  rw [one, own.2.2 branchId rfl] at here
  exact apart here.symm

/-- Delegating in one branch, or taking it back, changes nothing at another, for anybody. -/
theorem delegating_elsewhere (ctx : Ctx) (userId branchId other otherUser : Id) (s : Store)
    (apart : other ≠ branchId) :
    ∀ request ∈ [grantPriceEdit ctx userId branchId, revokePriceEdit ctx userId branchId],
      Prog.Ensures request (fun s' _ => effective ctx.companyId otherUser (some other) s' =
        effective ctx.companyId otherUser (some other) s) s := by
  simp only [List.forall_mem_cons, grantPriceEdit, revokePriceEdit, eligibleAssignment, assignment,
    delegatedPermission, Prog.bind_assoc, Prog.ensures_read, Prog.ensures_expect,
    Prog.ensures_require, Prog.pure_bind]
  refine ⟨⟨fun found read => ⟨fun _ => ⟨fun _ => ⟨fun permission _ => ⟨fun grantedById _ => ?_,
    fun _ => trivial⟩, fun _ => trivial⟩, fun _ => trivial⟩, fun _ => trivial⟩, fun _ => trivial⟩,
    ⟨fun found read => ⟨fun permission _ => ?_, fun _ => trivial⟩, fun _ => trivial⟩,
      List.forall_mem_nil _⟩
  · apply Elsewhere.effective_eq
    apply createGrant_elsewhere
    exact fun held member _ => findAssignment_apart read apart held member
  · apply Elsewhere.effective_eq
    apply deleteGrants_elsewhere
    intro held member _ here grant hangs
    have distinct := findAssignment_apart read apart held member here
    simp [hangs, distinct]

theorem delegating_elsewhere_twoBranches :
    effective 1 5 (some 2) ((revokePriceEdit ⟨1, some 1, some 9, 0⟩ 5 1).run twoBranches).1 =
      effective 1 5 (some 2) twoBranches :=
  delegating_elsewhere ⟨1, some 1, some 9, 0⟩ 5 1 2 5 twoBranches (by decide) _
    (List.mem_cons_of_mem _ (List.mem_singleton.mpr rfl))

end ErpBackend.Rbac
