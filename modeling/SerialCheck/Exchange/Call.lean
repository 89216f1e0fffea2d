import SerialCheck.Exchange.Member

/-!
# Calls in documents

An operation is called by an array that holds its name and its arguments, or by its name alone. A
signature says how many arguments an operation takes. Whatever an operation is applied to counts
as one of its arguments.
-/
namespace SerialCheck

/-- A call of an operation. -/
structure Call where
  /-- The name of the operation. -/
  name : Value
  /-- The arguments. -/
  arguments : List Json

namespace Call

/-- The call that a document describes. -/
def ofJson : Json → Exchange Call
  | .array [] => .error .place
  | .array (name :: arguments) => .ok ⟨.verbatim name, arguments⟩
  | name => .ok ⟨.verbatim name, []⟩

/-- The argument at a place. -/
def argument (call : Call) (place : Nat) : Exchange Json :=
  (call.arguments[place]?.map .ok).getD (.error .place)

/-- The argument at a place as it is, or a value if there is none. -/
def valueAt (call : Call) (place : Nat) (default : Value) : Value :=
  (call.arguments[place]?.map .verbatim).getD default

end Call

/-- What an operation takes. -/
structure Signature where
  /-- The names of the arguments that it needs. -/
  needed : List String
  /-- How many arguments it takes beyond those. -/
  optional : Nat := 0

/-- An operation can be called with a number of arguments. -/
def Signature.check (signature : Signature) (operation : String) (count : Nat) : Exchange Unit :=
  let missing := signature.needed.drop count
  let least := signature.needed.length
  let most := least + signature.optional
  if !missing.isEmpty then .error (.missingArguments operation missing)
  else if most < count then
    .error (.surplusArguments operation (least + 1) (most + 1) (count + 1))
  else .ok ()

end SerialCheck
