import BuildIntake.Hook.Arguments
import BuildIntake.Parameter.Value

/-!
# Actions

What is attached to a build: why it was started, what it is to build, and with which parameters.
Actions that tell who started a build do not take part in the comparison of builds. Variables of a
build are compared without regard to their order.
-/

namespace BuildIntake

open Hook

/-- A user who had a build started. -/
structure UserCause where
  userId : String
  deriving DecidableEq

def UserCause.anonymous : UserCause := ⟨"anonymous"⟩

def UserCause.shortDescription (c : UserCause) : String := "Started by user " ++ c.userId

/-- What is told about a pull request that was merged. -/
structure MergedDetails where
  message : String
  detailedMessage : String
  collectionUri : String
  pullRequestId : Int
  title : String
  sourceRefName : Option String
  targetRefName : Option String
  deriving DecidableEq

inductive Action where
  | cause (causes : List UserCause)
  | commit (args : PushArgs)
  | pullRequest (args : PullRequestArgs)
  | buildDetails (vs : List (String × String))
  | mergedDetails (details : MergedDetails)
  | unsupported (reason : String)
  | parameters (values : List Parameter.Value)
  deriving DecidableEq

namespace Action

/-- The name of the kind of an action. -/
def title : Action → String
  | .cause _ => "CauseAction"
  | .commit _ => "CommitParameterAction"
  | .pullRequest _ => "PullRequestParameterAction"
  | .buildDetails _ => "TeamBuildDetailsAction"
  | .mergedDetails _ => "TeamPullRequestMergedDetailsAction"
  | .unsupported _ => "UnsupportedIntegrationAction"
  | .parameters _ => "ParametersAction"

def isCause : Action → Bool
  | .cause _ => true
  | _ => false

def parameters? : Action → Option (List Parameter.Value)
  | .parameters vs => some vs
  | _ => none

/-- Equality up to the order of the variables of a build. -/
def Same : Action → Action → Prop
  | .buildDetails vs, .buildDetails ws => vs.Perm ws
  | a, b => a = b

instance (a b : Action) : Decidable (Same a b) := by
  unfold Same
  split <;> infer_instance

theorem Same.refl (a : Action) : Same a a := by
  cases a <;> simp [Same]

theorem Same.symm {a b : Action} (h : Same a b) : Same b a := by
  cases a <;> cases b <;> simp_all [Same, List.Perm.symm]

theorem Same.trans {a b c : Action} (hab : Same a b) (hbc : Same b c) : Same a c := by
  cases a <;> cases b <;> cases c <;> simp_all [Same]
  exact hab.trans hbc

/-- Lists of the same actions in the same order. -/
def SameList : List Action → List Action → Prop
  | [], [] => True
  | a :: as, b :: bs => Same a b ∧ SameList as bs
  | _, _ => False

instance decidableSameList : (as bs : List Action) → Decidable (SameList as bs)
  | [], [] => .isTrue trivial
  | _ :: as, _ :: bs =>
    have := decidableSameList as bs
    inferInstanceAs (Decidable (_ ∧ _))
  | [], _ :: _ => .isFalse id
  | _ :: _, [] => .isFalse id

theorem SameList.refl (as : List Action) : SameList as as := by
  induction as with
  | nil => trivial
  | cons a as ih => exact ⟨.refl a, ih⟩

theorem SameList.symm {as bs : List Action} (h : SameList as bs) : SameList bs as := by
  induction as generalizing bs with
  | nil => cases bs <;> simp_all [SameList]
  | cons a as ih =>
    cases bs with
    | nil => exact h
    | cons b bs => exact ⟨h.1.symm, ih h.2⟩

theorem SameList.trans {as bs cs : List Action} (hab : SameList as bs) (hbc : SameList bs cs) :
    SameList as cs := by
  induction as generalizing bs cs with
  | nil => cases bs <;> cases cs <;> simp_all [SameList]
  | cons a as ih =>
    cases bs with
    | nil => exact hab.elim
    | cons b bs => cases cs with
      | nil => exact hbc.elim
      | cons c cs => exact ⟨hab.1.trans hbc.1, ih hab.2 hbc.2⟩

end Action

end BuildIntake
