namespace Decomposition

/-- How an entity came into the program. -/
inductive Flag where
  | static | dynamic | artificial
  deriving DecidableEq, Repr, Inhabited

def Flag.all : List Flag := [.static, .dynamic, .artificial]

def Flag.name : Flag → String
  | .static => "STATIC"
  | .dynamic => "DYNAMIC"
  | .artificial => "ARTIFICIAL"

/-- The structural role of a variable or a constraint in a Dantzig-Wolfe decomposition. The duties
of variables come first, then those of constraints. -/
inductive Duty where
  | compactVar
  | masterPureVar
  | masterBranchOnOrigVar
  | masterRepPricingVar
  | masterRepPricingSetupVar
  | masterCol
  | masterArtVar
  | dwSpPricingVar
  | dwSpSetupVar
  | compactConstr
  | masterPureConstr
  | masterMixedConstr
  | masterConvexityConstr
  | masterBranchOnOrigVarConstr
  | dwSpPureConstr
  deriving DecidableEq, Repr, Inhabited

namespace Duty

def ofVariables : List Duty :=
  [.compactVar, .masterPureVar, .masterBranchOnOrigVar, .masterRepPricingVar,
    .masterRepPricingSetupVar, .masterCol, .masterArtVar, .dwSpPricingVar, .dwSpSetupVar]

def ofConstraints : List Duty :=
  [.compactConstr, .masterPureConstr, .masterMixedConstr, .masterConvexityConstr,
    .masterBranchOnOrigVarConstr, .dwSpPureConstr]

def all : List Duty := ofVariables ++ ofConstraints

def name : Duty → String
  | .compactVar => "ORIGINAL_VAR"
  | .masterPureVar => "MASTER_PURE_VAR"
  | .masterBranchOnOrigVar => "MASTER_BRANCH_ON_ORIG_VAR"
  | .masterRepPricingVar => "MASTER_REP_PRICING_VAR"
  | .masterRepPricingSetupVar => "MASTER_REP_PRICING_SETUP_VAR"
  | .masterCol => "MASTER_COL"
  | .masterArtVar => "MASTER_ART_VAR"
  | .dwSpPricingVar => "DW_SP_PRICING_VAR"
  | .dwSpSetupVar => "DW_SP_SETUP_VAR"
  | .compactConstr => "ORIGINAL_CONSTR"
  | .masterPureConstr => "MASTER_PURE_CONSTR"
  | .masterMixedConstr => "MASTER_MIXED_CONSTR"
  | .masterConvexityConstr => "MASTER_CONVEXITY_CONSTR"
  | .masterBranchOnOrigVarConstr => "MASTER_BRANCH_ON_ORIG_VAR_CONSTR"
  | .dwSpPureConstr => "DW_SP_PURE_CONSTR"

end Duty

/-- The role of a formulation in the tree of master, subproblems and reformulation. The compact
formulation is the one that is decomposed. -/
inductive FormDuty where
  | compact | dwMaster | dwSp | reformulation
  deriving DecidableEq, Repr, Inhabited

def FormDuty.all : List FormDuty := [.compact, .dwMaster, .dwSp, .reformulation]

def FormDuty.name : FormDuty → String
  | .compact => "ORIGINAL"
  | .dwMaster => "DW_MASTER"
  | .dwSp => "DW_SP"
  | .reformulation => "REFORMULATION"

/-- A set of duties. -/
abbrev Category := Duty → Bool

namespace Category

def ofList (duties : List Duty) : Category := fun d => duties.contains d

def union (a b : Category) : Category := fun d => a d || b d
def inter (a b : Category) : Category := fun d => a d && b d
def diff (a b : Category) : Category := fun d => a d && !b d

def members (a : Category) : List Duty := Duty.all.filter a

def subset (a b : Category) : Bool := Duty.all.all fun d => !a d || b d

/-- Variables of the compact formulation that stay in the master alone. -/
def originMasterVar : Category := ofList [.masterPureVar, .masterBranchOnOrigVar]

/-- Variables that stand in the master for variables of a pricing subproblem. -/
def masterRepDwSpVar : Category := ofList [.masterRepPricingVar, .masterRepPricingSetupVar]

/-- All representatives of compact variables in the master. -/
def masterRepresentativeVar : Category := union originMasterVar masterRepDwSpVar

def masterVar : Category := union masterRepresentativeVar (ofList [.masterCol, .masterArtVar])

def dwSpVar : Category := ofList [.dwSpPricingVar, .dwSpSetupVar]

def convexityConstr : Category := ofList [.masterConvexityConstr]

def masterConstr : Category :=
  union convexityConstr
    (ofList [.masterPureConstr, .masterMixedConstr, .masterBranchOnOrigVarConstr])

def dwSpConstr : Category := ofList [.dwSpPureConstr]

/-- The categories under their names. -/
def named : List (String × Category) :=
  [("ORIGIN_MASTER_VAR", originMasterVar), ("MASTER_REP_DW_SP_VAR", masterRepDwSpVar),
    ("MASTER_REPRESENTATIVE_VAR", masterRepresentativeVar), ("MASTER_VAR", masterVar),
    ("DW_SP_VAR", dwSpVar), ("CONVEXITY_CONSTR", convexityConstr),
    ("MASTER_CONSTR", masterConstr), ("DW_SP_CONSTR", dwSpConstr)]

end Category

end Decomposition
