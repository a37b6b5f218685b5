import DataSafe.Base.Text

/-!
# Bucket policies

A bucket policy is a list of statements.  A statement matches a request by
principal, action, resource and conditions, and a matching denial overrides
all grants.  `EvaluateContext` decides whether a policy allows a request;
`Denies` only looks for a matching denial.

A policy is stored as text.  The model keeps what decoding it yields: nothing,
white space, a text that is no document, or a document.  The comparison of
addresses belongs to the package `net` and is a parameter.
-/

namespace DataSafe.Policy

open Base

/-! ## Documents -/

/-- An element of a JSON list. -/
inductive JsonItem where
  | text (value : String)
  | null
  | other
deriving DecidableEq

/-- The member `AWS` of a principal. -/
inductive AwsValue where
  | text (value : String)
  | items (values : List JsonItem)
  | null
  | other
deriving DecidableEq

/-- The principal of a statement. -/
inductive Principal where
  /-- Missing or `null`. -/
  | absent
  | text (value : String)
  | object (members : List (String × AwsValue))
  | other
deriving DecidableEq

structure Statement where
  effect : String
  principal : Principal := .absent
  action : List String
  resource : List String
  /-- Operators with their keys and the texts given for them. -/
  condition : List (String × List (String × List String)) := []
deriving DecidableEq

/-- A stored policy, by what decoding its text yields. -/
inductive PolicyText where
  | empty
  | blank
  | invalid
  | document (statements : List Statement)
deriving DecidableEq

/-- The request facts that policy evaluation may use. -/
structure EvalContext where
  action : String
  resource : String
  principals : List String := []
  anonymous : Bool := false
  sourceIP : String := ""
  secureTransport : Bool := false

def bucketARN (bucket : String) : String := "arn:aws:s3:::" ++ bucket

def objectARN (bucket key : String) : String :=
  "arn:aws:s3:::" ++ bucket ++ "/" ++ key

def userARN (username : String) : String :=
  "arn:aws:iam::datasafe:user/" ++ username

def accessKeyARN (accessKey : String) : String :=
  "arn:aws:iam::datasafe:access-key/" ++ accessKey

/-! ## Matching -/

/-- One identity of a request is named by a token. -/
def tokenNames (token principal : String) : Bool :=
  decide (principal ≠ "") && (decide (token = principal) ||
      (endsWith ("/" ++ principal) token &&
        (includes ":user/" token || includes ":access-key/" token)))

def principalTokenMatches (token : String) (ctx : EvalContext) : Bool :=
  let token := trimText token
  decide (token = "*") ||
    (!ctx.anonymous && ctx.principals.any (tokenNames token))

/-- The member of a JSON object under this very name. -/
def memberNamed (name : String) (members : List (String × AwsValue)) :
    Option AwsValue :=
  (members.reverse.find? (fun member => member.1 = name)).map Prod.snd

def principalMatches (principal : Principal) (ctx : EvalContext) : Bool :=
  match principal with
  | .text token => principalTokenMatches token ctx
  | .object members =>
    match memberNamed "AWS" members with
    | some (.text token) => principalTokenMatches token ctx
    | some (.items items) =>
      items.any (fun item =>
        match item with
        | .text token => principalTokenMatches token ctx
        | _ => false)
    | _ => false
  | _ => false

def actionMatches (actions : List String) (action : String) : Bool :=
  actions.any (fun listed =>
    decide (listed = action ∨ listed = "s3:*" ∨ listed = "*"))

def resourceMatches (pattern resource : String) : Bool :=
  decide (pattern = "*" ∨ pattern = resource) || (endsWith "/*" pattern &&
      startsWith (String.ofList pattern.toList.dropLast) resource)

def resourceListMatches (resources : List String) (resource : String) :
    Bool :=
  resources.any (resourceMatches · resource)

/-- The truth value that a condition asks for. -/
def boolValues (values : List String) : Option Bool :=
  match values with
  | [value] =>
    if lowerText value = "true" then some true
    else if lowerText value = "false" then some false
    else none
  | _ => none

/-- An address lies in one of the listed networks: `ipInAny`. -/
abbrev AddressTest := String → List String → Bool

variable {ctx : EvalContext}

section Evaluation

variable (ipInAny : AddressTest)

def conditionKeyMatches
    (op key : String) (values : List String) (ctx : EvalContext) : Bool :=
  if lowerText op = "ipaddress" then
    equalFoldText key "aws:SourceIp" && ipInAny ctx.sourceIP values
  else if lowerText op = "notipaddress" then
    equalFoldText key "aws:SourceIp" && decide (ctx.sourceIP ≠ "") &&
      !ipInAny ctx.sourceIP values
  else if lowerText op = "bool" then
    equalFoldText key "aws:SecureTransport" &&
      decide (boolValues values = some ctx.secureTransport)
  else false

def conditionMatches
    (condition : List (String × List (String × List String)))
    (ctx : EvalContext) : Bool :=
  condition.all (fun (op, keys) =>
    keys.all (fun (key, values) =>
      conditionKeyMatches ipInAny op key values ctx))

def statementMatches (statement : Statement) (ctx : EvalContext) : Bool :=
  principalMatches statement.principal ctx &&
    actionMatches statement.action ctx.action &&
    resourceListMatches statement.resource ctx.resource &&
    conditionMatches ipInAny statement.condition ctx

/-- The statement denies. -/
def Statement.denies (statement : Statement) : Bool :=
  equalFoldText statement.effect "Deny"

/-- The statement grants. -/
def Statement.allows (statement : Statement) : Bool :=
  equalFoldText statement.effect "Allow"

/-- The loop of `EvaluateContext` over the statements. -/
def evaluateStatements :
    List Statement → EvalContext → Bool → Bool
  | [], _, allowed => allowed
  | statement :: rest, ctx, allowed =>
    if statementMatches ipInAny statement ctx then
      if statement.denies then false
      else evaluateStatements rest ctx (allowed || statement.allows)
    else evaluateStatements rest ctx allowed

def evaluateContext (policy : PolicyText) (ctx : EvalContext) : Bool :=
  match policy with
  | .empty => !ctx.anonymous && decide (ctx.principals ≠ [])
  | .document statements => evaluateStatements ipInAny statements ctx false
  | _ => false

def Denies (policy : PolicyText) (ctx : EvalContext) : Bool :=
  match policy with
  | .invalid => true
  | .document statements =>
    statements.any (fun statement =>
      statement.denies && statementMatches ipInAny statement ctx)
  | _ => false

/-! ## Denials override -/

/-- The loop ends with a grant exactly if one matches and no denial does. -/
theorem evaluateStatements_eq_true_iff
    (statements : List Statement) (ctx : EvalContext) (allowed : Bool) :
    evaluateStatements ipInAny statements ctx allowed = true ↔
      (∀ statement ∈ statements,
        statementMatches ipInAny statement ctx = true →
          statement.denies = false) ∧
      (allowed = true ∨ ∃ statement ∈ statements,
        statementMatches ipInAny statement ctx = true ∧
          statement.allows = true) := by
  induction statements generalizing allowed with
  | nil => simp [evaluateStatements]
  | cons statement rest induction =>
    rw [evaluateStatements]
    by_cases found : statementMatches ipInAny statement ctx = true
    · rw [if_pos found]
      by_cases denied : statement.denies = true
      · simp [found, denied]
      · rw [if_neg denied, induction]
        simp [found, denied, or_assoc]
    · rw [if_neg found, induction]
      simp [found]

theorem evaluateContext_document_iff
    (statements : List Statement) (ctx : EvalContext) :
    evaluateContext ipInAny (.document statements) ctx = true ↔
      (∀ statement ∈ statements,
        statementMatches ipInAny statement ctx = true →
          statement.denies = false) ∧
      ∃ statement ∈ statements,
        statementMatches ipInAny statement ctx = true ∧
          statement.allows = true := by
  rw [evaluateContext, evaluateStatements_eq_true_iff]
  simp

/-- A policy with a matching denial allows nothing. -/
theorem evaluateContext_of_denies
    {policy : PolicyText} (denied : Denies ipInAny policy ctx = true) :
    evaluateContext ipInAny policy ctx = false := by
  cases policy with
  | empty => cases denied
  | blank => cases denied
  | invalid => rfl
  | document statements =>
    rw [Denies, List.any_eq_true] at denied
    obtain ⟨statement, member, both⟩ := denied
    rw [Bool.and_eq_true] at both
    rw [Bool.eq_false_iff]
    intro allowed
    rw [evaluateContext_document_iff] at allowed
    have granting := allowed.1 statement member both.2
    rw [both.1] at granting
    cases granting

end Evaluation

/-! ## Identities -/

/-- A token of a policy names one of these identities. -/
def namesOne (principals : List String) (token : String) : Bool :=
  decide (trimText token = "*") ||
    principals.any (tokenNames (trimText token))

/-- Tokens that name one of the identities name an evaluated one. -/
def Covered (identities evaluated : List String) : Prop :=
  ∀ token, namesOne identities token = true → namesOne evaluated token = true

theorem covered_of_subset
    {identities evaluated : List String} (subset : identities ⊆ evaluated) :
    Covered identities evaluated := by
  intro token named
  rw [namesOne, Bool.or_eq_true, List.any_eq_true] at named ⊢
  refine named.imp_right ?_
  rintro ⟨principal, member, names⟩
  exact ⟨principal, subset member, names⟩

theorem principalTokenMatches_eq
    (known : ctx.anonymous = false) (token : String) :
    principalTokenMatches token ctx = namesOne ctx.principals token := by
  simp [principalTokenMatches, namesOne, known]

/-- More identities are named by no fewer principals. -/
theorem principalMatches_mono
    {other : EvalContext} {principal : Principal}
    (known : ctx.anonymous = false) (otherKnown : other.anonymous = false)
    (covered : Covered ctx.principals other.principals)
    (found : principalMatches principal ctx = true) :
    principalMatches principal other = true := by
  have token : ∀ token, principalTokenMatches token ctx = true →
      principalTokenMatches token other = true := by
    intro token
    rw [principalTokenMatches_eq known, principalTokenMatches_eq otherKnown]
    exact covered token
  cases principal with
  | absent => cases found
  | other => cases found
  | text value => exact token value found
  | object members =>
    unfold principalMatches at found ⊢
    dsimp only at found ⊢
    split at found
    · exact token _ found
    · rw [List.any_eq_true] at found ⊢
      obtain ⟨item, member, named⟩ := found
      refine ⟨item, member, ?_⟩
      cases item with
      | text value => exact token value named
      | null => cases named
      | other => cases named
    · cases found

/-- A denial of the policy matches the request. -/
def DenyMatches
    (ipInAny : AddressTest) (policy : PolicyText) (ctx : EvalContext) :
    Prop :=
  ∃ statements, policy = .document statements ∧
    ∃ statement ∈ statements, statement.denies = true ∧
      statementMatches ipInAny statement ctx = true

/-- A denial for an identity is found under identities that cover it. -/
theorem DenyMatches.denies
    {ipInAny : AddressTest} {policy : PolicyText} {other : EvalContext}
    (denied : DenyMatches ipInAny policy ctx)
    (known : ctx.anonymous = false) (otherKnown : other.anonymous = false)
    (sameAction : other.action = ctx.action)
    (sameResource : other.resource = ctx.resource)
    (sameAddress : other.sourceIP = ctx.sourceIP)
    (sameTransport : other.secureTransport = ctx.secureTransport)
    (covered : Covered ctx.principals other.principals) :
    Denies ipInAny policy other = true := by
  obtain ⟨statements, rfl, statement, member, denies, found⟩ := denied
  rw [Denies, List.any_eq_true]
  refine ⟨statement, member, ?_⟩
  rw [Bool.and_eq_true]
  refine ⟨denies, ?_⟩
  simp only [statementMatches, Bool.and_eq_true] at found ⊢
  obtain ⟨⟨⟨principal, action⟩, resource⟩, condition⟩ := found
  refine ⟨⟨⟨principalMatches_mono known otherKnown covered principal, ?_⟩,
    ?_⟩, ?_⟩
  · rw [sameAction, action]
  · rw [sameResource, resource]
  · unfold conditionMatches conditionKeyMatches at condition ⊢
    rwa [sameAddress, sameTransport]

end DataSafe.Policy
